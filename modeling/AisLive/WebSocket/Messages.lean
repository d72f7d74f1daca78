/-
Messages, however they were sent.

A sender may cut a message into fragments of any sizes and put pings and pongs between them,
it may mask each frame with a key of its own or not at all, and the network hands over the
bytes in reads of any sizes.  None of it shows: the message callback is called with the
messages, each once, whole and in order.  Text that is not UTF-8 is left out.

`Stream ms fs` says that the frames `fs` are a way to send the messages `ms`.  The first half
of the module handles the frames of a stream; the second half goes from bytes to frames, and
shows that what `sendData` writes is such a stream.
-/
import AisLive.WebSocket.Transport

namespace AisLive.WebSocket

open Framing

/-- A text or binary message. -/
structure Message where
  binary : Bool
  data : StdString
  deriving DecidableEq

namespace Message

/-- The opcode of its first frame. -/
def type (m : Message) : Opcode := if m.binary then .binaryFrame else .textFrame

def kind (m : Message) : MessageKind := if m.binary then .msgBinary else .msgText

/-- Text has to be UTF-8. -/
def deliverable (m : Message) : Bool := m.binary || validateUtf8 m.data

theorem type_cases (m : Message) : m.type = .textFrame ∨ m.type = .binaryFrame := by
  unfold type
  split
  · exact .inr rfl
  · exact .inl rfl

end Message

/-- A call of `_onCloseCallback`. -/
def Call.isClosed : Call → Bool
  | .message _ _ => false
  | .closed _ _ _ => true

/-- The message a call of the message callback passes on. -/
def Call.message? : Call → Option Message
  | .message .msgText payload => some ⟨false, payload⟩
  | .message .msgBinary payload => some ⟨true, payload⟩
  | .message .ping _ | .message .pong _ | .message .fragment _ | .closed _ _ _ => none

/-! ### Ways to send a message -/

/-- A ping or a pong. -/
def Frame.between (f : Frame) : Prop := f.opcode = .ping ∨ f.opcode = .pong

/-- The frames after the first carry the rest of a message, with pings and pongs between. -/
inductive Continues : StdString → List Frame → Prop
  | last (payload : StdString) : Continues payload [⟨true, .continuation, payload⟩]
  | more (payload : StdString) {rest : StdString} {fs : List Frame} (h : Continues rest fs) :
      Continues (payload ++ rest) (⟨false, .continuation, payload⟩ :: fs)
  | between {f : Frame} (hf : f.between) {rest : StdString} {fs : List Frame}
      (h : Continues rest fs) : Continues rest (f :: fs)

/-- The frames carry one message. -/
inductive Carries (m : Message) : List Frame → Prop
  | whole : Carries m [⟨true, m.type, m.data⟩]
  | parts {payload rest : StdString} (hdata : m.data = payload ++ rest) {fs : List Frame}
      (h : Continues rest fs) : Carries m (⟨false, m.type, payload⟩ :: fs)

/-- The frames carry the messages, one after another, with or without a close frame at the
end. -/
inductive Stream : List Message → List Frame → Prop
  | nil : Stream [] []
  | message {m : Message} {ms : List Message} {fs gs : List Frame} (hm : Carries m fs)
      (h : Stream ms gs) : Stream (m :: ms) (fs ++ gs)
  | between {f : Frame} (hf : f.between) {ms : List Message} {fs : List Frame}
      (h : Stream ms fs) : Stream ms (f :: fs)
  | closing {f : Frame} (hf : f.opcode = .close) : Stream [] [f]

theorem Stream.of_nil {ms : List Message} (h : Stream ms []) : ms = [] := by
  generalize hnone : [] = fs at h
  cases h with
  | nil => rfl
  | message hm h => cases hm <;> cases hnone
  | between hf h => cases hnone
  | closing hf => cases hnone

namespace Endpoint

/-- The messages the callback has been called with. -/
def received (e : Endpoint) : List Message := e.calls.filterMap Call.message?

/-- How often `_onCloseCallback` has been called. -/
def closings (e : Endpoint) : Nat := e.calls.countP Call.isClosed

/-! ### What sending and closing leave alone -/

/-- A closed socket is not opened again, and the transport does not become CLOSED unless the
callback is called. -/
structure Keeps (e e' : Endpoint) : Prop where
  socket : e.socketOpen = false → e'.socketOpen = false
  closings : e.closings ≤ e'.closings
  told : e'.readyState = .closed → e.readyState = .closed ∨ e.closings < e'.closings

theorem Keeps.of_same {e e' : Endpoint} (hsocket : e.socketOpen = false → e'.socketOpen = false)
    (hcalls : e'.calls = e.calls) (hstate : e'.readyState = e.readyState) : Keeps e e' := by
  have hclosings : e'.closings = e.closings := by rw [Endpoint.closings, hcalls, Endpoint.closings]
  exact ⟨hsocket, Nat.le_of_eq hclosings.symm, fun hclosed => .inl (hstate ▸ hclosed)⟩

theorem Keeps.trans {e e' e'' : Endpoint} (h : Keeps e e') (h' : Keeps e' e'') : Keeps e e'' := by
  have hclosings := h.closings
  have hclosings' := h'.closings
  refine ⟨fun hs => h'.socket (h.socket hs), by omega, fun hclosed => ?_⟩
  rcases h'.told hclosed with hclosed' | hmore
  · rcases h.told hclosed' with hbefore | hmore
    · exact .inl hbefore
    · exact .inr (by omega)
  · exact .inr (by omega)

/-- Besides that, the message being put together, and the messages received, are as they were. -/
structure Undisturbed (e e' : Endpoint) : Prop extends Keeps e e' where
  chunks : e'.chunks = e.chunks
  kind : e'.fragmentedMessageKind = e.fragmentedMessageKind
  received : e'.received = e.received

theorem Undisturbed.refl (e : Endpoint) : Undisturbed e e := ⟨.of_same id rfl rfl, rfl, rfl, rfl⟩

theorem Undisturbed.trans {e e' e'' : Endpoint} (h : Undisturbed e e') (h' : Undisturbed e' e'') :
    Undisturbed e e'' :=
  ⟨h.toKeeps.trans h'.toKeeps, h'.chunks.trans h.chunks, h'.kind.trans h.kind,
    h'.received.trans h.received⟩

theorem undisturbed_closeSocket (e : Endpoint) : Undisturbed e e.closeSocket :=
  ⟨.of_same (fun _ => rfl) rfl rfl, rfl, rfl, rfl⟩

theorem undisturbed_setReadyState (readyState : ReadyState) (e : Endpoint) :
    Undisturbed e (e.setReadyState readyState) := by
  unfold setReadyState
  split
  · exact .refl e
  · split
    · refine ⟨⟨id, ?_, fun _ => .inr ?_⟩, rfl, rfl, ?_⟩
      · simp [closings]
      · simp [closings, Call.isClosed]
      · simp [received, Call.message?]
    · rename_i hopen
      split
      · exact ⟨⟨id, Nat.le_refl _, fun hclosed => absurd hclosed hopen⟩, rfl, rfl, rfl⟩
      · exact ⟨⟨id, Nat.le_refl _, fun hclosed => absurd hclosed hopen⟩, rfl, rfl, rfl⟩

theorem undisturbed_setClosing (code : Nat) (reason : StdString) (e : Endpoint) :
    Undisturbed e (e.setClosing code reason) := by
  have hcode : Undisturbed e { e with
      closeReason := reason, closeCode := code, closeRemote := false } :=
    ⟨.of_same id rfl rfl, rfl, rfl, rfl⟩
  exact hcode.trans (undisturbed_setReadyState .closing _)

theorem undisturbed_closeSocketAndSwitchToClosedState (code : Nat) (reason : StdString)
    (remote : Bool) (e : Endpoint) :
    Undisturbed e (e.closeSocketAndSwitchToClosedState code reason remote) := by
  have hcode : Undisturbed e { e.closeSocket with
      closeReason := reason, closeCode := code, closeRemote := remote } :=
    ⟨.of_same (fun _ => rfl) rfl rfl, rfl, rfl, rfl⟩
  exact hcode.trans (undisturbed_setReadyState .closed _)

section

variable (env : Environment)

theorem undisturbed_sendOnSocket (e : Endpoint) : Undisturbed e (sendOnSocket env e).2 := by
  have hsent : Undisturbed e { e with sends := e.sends + 1 } := ⟨.of_same id rfl rfl, rfl, rfl, rfl⟩
  unfold sendOnSocket
  simp only
  split
  · exact hsent
  · simp only
    split
    · exact hsent.trans (undisturbed_closeSocket _)
    · exact (hsent.trans (undisturbed_closeSocket _)).trans (undisturbed_setReadyState .closed _)

theorem undisturbed_sendFragment (type : Opcode) (fin : Bool) (message : StdString)
    (e : Endpoint) : Undisturbed e (sendFragment env type fin message e).2 := by
  have happended : Undisturbed e (e.appendToSendBuffer env type fin message) :=
    ⟨.of_same id rfl rfl, rfl, rfl, rfl⟩
  exact happended.trans (undisturbed_sendOnSocket env _)

theorem undisturbed_sendFragments (type : Opcode) (steps : Nat) (message : StdString)
    (e : Endpoint) : Undisturbed e (sendFragments env type steps message e).2 := by
  induction steps generalizing type message e with
  | zero => exact .refl e
  | succ steps ih =>
      have hfirst := undisturbed_sendFragment env type false (message.take kChunkSize) e
      cases steps with
      | zero => exact undisturbed_sendFragment env type true message e
      | succ steps =>
          rw [sendFragments]
          split
          · exact hfirst.trans (ih .continuation (message.drop kChunkSize) _)
          · exact hfirst

theorem undisturbed_sendData (type : Opcode) (message : StdString) (e : Endpoint) :
    Undisturbed e (sendData env type message e).2 := by
  unfold sendData
  split
  · exact .refl e
  · split
    · exact undisturbed_sendFragment env type true message e
    · exact undisturbed_sendFragments env type _ message e

theorem undisturbed_sendCloseFrame (code : Nat) (reason : StdString) (e : Endpoint) :
    Undisturbed e (e.sendCloseFrame env code reason) := by
  unfold sendCloseFrame
  split
  · exact undisturbed_sendData env .close _ e
  · exact undisturbed_sendData env .close _ e

theorem undisturbed_close (code : Nat) (reason : StdString) (e : Endpoint) :
    Undisturbed e (e.close env code reason) := by
  unfold close
  split
  · exact .refl e
  · exact (undisturbed_setClosing code reason e).trans
      (undisturbed_sendCloseFrame env code reason _)

/-! ### Handing a message on -/

theorem keeps_message (kind : MessageKind) (message : StdString) (e : Endpoint) :
    Keeps e { e with calls := e.calls ++ [.message kind message] } := by
  refine ⟨id, ?_, .inl⟩
  simp [closings]

theorem keeps_emitMessage (kind : MessageKind) (message : StdString) (e : Endpoint) :
    Keeps e (e.emitMessage env kind message) := by
  unfold emitMessage
  split
  · exact (undisturbed_close env _ _ e).toKeeps
  · exact keeps_message kind message e

theorem emitMessage_message (m : Message) (e : Endpoint) :
    (e.emitMessage env m.kind m.data).chunks = e.chunks ∧
      (e.emitMessage env m.kind m.data).received
        = e.received ++ [m].filter Message.deliverable := by
  obtain ⟨binary, data⟩ := m
  unfold emitMessage Message.deliverable Message.kind
  cases binary with
  | true => simp [received, Call.message?]
  | false =>
      cases hvalid : validateUtf8 data with
      | true => simp [received, Call.message?, hvalid]
      | false =>
          have hclose := undisturbed_close env 1007 (ascii "Invalid frame payload data") e
          simp [hvalid, hclose.chunks, hclose.received]

/-- What is not a message passes by. -/
theorem undisturbed_emitMessage (kind : MessageKind)
    (hkind : kind ≠ .msgText ∧ kind ≠ .msgBinary) (message : StdString) (e : Endpoint) :
    Undisturbed e (e.emitMessage env kind message) := by
  unfold emitMessage
  rw [if_neg fun h => hkind.1 h.1]
  refine ⟨keeps_message kind message e, rfl, rfl, ?_⟩
  cases kind with
  | msgText => exact absurd rfl hkind.1
  | msgBinary => exact absurd rfl hkind.2
  | ping => simp [received, Call.message?]
  | pong => simp [received, Call.message?]
  | fragment => simp [received, Call.message?]

/-! ### Frame by frame -/

theorem undisturbed_between {f : Frame} (hf : f.between) (e : Endpoint) :
    Undisturbed e (e.handleFrame env f) := by
  unfold handleFrame
  rcases hf with hf | hf <;> rw [hf]
  · unfold onPing
    have hpong : Undisturbed e
        (if env.enablePong then (e.sendData env .pong f.payload).2 else e) := by
      split
      · exact undisturbed_sendData env .pong f.payload e
      · exact .refl e
    exact hpong.trans (undisturbed_emitMessage env .ping (by decide) f.payload _)
  · have hpong : Undisturbed e { e with pongReceived := true } :=
      ⟨.of_same id rfl rfl, rfl, rfl, rfl⟩
    exact hpong.trans (undisturbed_emitMessage env .pong (by decide) f.payload _)

theorem undisturbed_closing {f : Frame} (hf : f.opcode = .close) (e : Endpoint) :
    Undisturbed e (e.handleFrame env f) := by
  unfold handleFrame onClose
  rw [hf]
  simp only
  split
  · exact ((undisturbed_setReadyState .closing e).trans
      (undisturbed_sendCloseFrame env _ _ _)).trans
      (undisturbed_closeSocketAndSwitchToClosedState _ _ _ _)
  · split
    · exact undisturbed_closeSocketAndSwitchToClosedState _ _ _ _
    · exact .refl e

theorem keeps_checkSequence (opcode : Opcode) (e : Endpoint) :
    Keeps e (e.checkSequence env opcode) := by
  unfold checkSequence
  split
  · have hkind : Keeps e { e with
        fragmentedMessageKind := if opcode = .textFrame then .msgText else .msgBinary } :=
      .of_same id rfl rfl
    simp only
    split
    · exact hkind.trans (undisturbed_close env _ _ _).toKeeps
    · exact hkind
  · split
    · exact (undisturbed_close env _ _ e).toKeeps
    · exact .of_same id rfl rfl

theorem keeps_collect (fin : Bool) (frameData : StdString) (e : Endpoint) :
    Keeps e (e.collect env fin frameData) := by
  unfold collect
  split
  · exact keeps_emitMessage env _ _ e
  · have hadded : Keeps e { e with chunks := e.chunks ++ [frameData] } := .of_same id rfl rfl
    simp only
    split
    · exact (hadded.trans (keeps_emitMessage env _ _ _)).trans (.of_same id rfl rfl)
    · exact hadded.trans (keeps_emitMessage env _ _ _)

/-- **Any frame keeps to this.** -/
theorem keeps_handleFrame (f : Frame) (e : Endpoint) : Keeps e (e.handleFrame env f) := by
  cases hopcode : f.opcode with
  | textFrame | binaryFrame | continuation =>
      simp only [handleFrame, hopcode]
      exact (keeps_checkSequence env _ e).trans (keeps_collect env _ _ _)
  | ping => exact (undisturbed_between env (.inl hopcode) e).toKeeps
  | pong => exact (undisturbed_between env (.inr hopcode) e).toKeeps
  | close => exact (undisturbed_closing env hopcode e).toKeeps
  | unnamed bits =>
      simp only [handleFrame, hopcode]
      exact (undisturbed_close env _ _ e).toKeeps

theorem keeps_violate (v : Violation) (e : Endpoint) : Keeps e (e.violate env v) := by
  cases v with
  | tooLong => exact .of_same id rfl rfl
  | reservedBitUsed | controlMessageFragmented | pingPayloadOversized =>
      exact (undisturbed_close env _ _ e).toKeeps

/-- The first frame of a message, when none is open. -/
theorem handleFrame_first (m : Message) (fin : Bool) (payload : StdString) {e : Endpoint}
    (hchunks : e.chunks = []) :
    e.handleFrame env ⟨fin, m.type, payload⟩
      = { e with fragmentedMessageKind := m.kind }.collect env fin payload := by
  obtain ⟨binary, data⟩ := m
  cases binary <;>
    simp [handleFrame, Message.type, Message.kind, checkSequence, hchunks]

/-- A message in one frame. -/
theorem handleFrame_whole (m : Message) {e : Endpoint} (hchunks : e.chunks = []) :
    (e.handleFrame env ⟨true, m.type, m.data⟩).chunks = [] ∧
      (e.handleFrame env ⟨true, m.type, m.data⟩).received
        = e.received ++ [m].filter Message.deliverable := by
  rw [handleFrame_first env m true m.data hchunks, collect, if_pos ⟨rfl, hchunks⟩]
  obtain ⟨hsame, hreceived⟩ := emitMessage_message env m { e with fragmentedMessageKind := m.kind }
  exact ⟨hsame.trans hchunks, hreceived⟩

/-- The first fragment. -/
theorem handleFrame_part (m : Message) (payload : StdString) {e : Endpoint}
    (hchunks : e.chunks = []) :
    (e.handleFrame env ⟨false, m.type, payload⟩).chunks = [payload] ∧
      (e.handleFrame env ⟨false, m.type, payload⟩).fragmentedMessageKind = m.kind ∧
      (e.handleFrame env ⟨false, m.type, payload⟩).received = e.received := by
  rw [handleFrame_first env m false payload hchunks, collect, if_neg (by simp)]
  have hfragment := undisturbed_emitMessage env .fragment (by decide) []
    { e with fragmentedMessageKind := m.kind, chunks := e.chunks ++ [payload] }
  refine ⟨hfragment.chunks.trans ?_, hfragment.kind, hfragment.received⟩
  simp [hchunks]

/-- A fragment in the middle. -/
theorem handleFrame_more (payload : StdString) {e : Endpoint} (hchunks : e.chunks ≠ []) :
    (e.handleFrame env ⟨false, .continuation, payload⟩).chunks = e.chunks ++ [payload] ∧
      (e.handleFrame env ⟨false, .continuation, payload⟩).fragmentedMessageKind
        = e.fragmentedMessageKind ∧
      (e.handleFrame env ⟨false, .continuation, payload⟩).received = e.received := by
  have hcheck : e.checkSequence env .continuation = e := by simp [checkSequence, hchunks]
  have hfragment := undisturbed_emitMessage env .fragment (by decide) []
    { e with chunks := e.chunks ++ [payload] }
  simp only [handleFrame, hcheck, collect, Bool.false_eq_true, false_and, if_false]
  exact ⟨hfragment.chunks, hfragment.kind, hfragment.received⟩

/-- The last fragment. -/
theorem handleFrame_last (payload : StdString) {e : Endpoint} (hchunks : e.chunks ≠ [])
    {m : Message} (hkind : e.fragmentedMessageKind = m.kind)
    (hdata : e.chunks.flatten ++ payload = m.data) :
    (e.handleFrame env ⟨true, .continuation, payload⟩).chunks = [] ∧
      (e.handleFrame env ⟨true, .continuation, payload⟩).received
        = e.received ++ [m].filter Message.deliverable := by
  have hcheck : e.checkSequence env .continuation = e := by simp [checkSequence, hchunks]
  have hmerged : (e.chunks ++ [payload]).flatten = m.data := by
    rw [List.flatten_append, List.flatten_singleton, hdata]
  have hemit := emitMessage_message env m { e with chunks := e.chunks ++ [payload] }
  rw [← hkind, ← hmerged] at hemit
  simp only [handleFrame, hcheck, collect, hchunks, and_false, if_false, if_true]
  exact ⟨trivial, hemit.2⟩

/-! ### A run of frames -/

/-- The messages still to come with these frames; of the first a part may be there already. -/
inductive Pending (e : Endpoint) : List Message → List Frame → Prop
  | apart (hchunks : e.chunks = []) {ms : List Message} {fs : List Frame} (h : Stream ms fs) :
      Pending e ms fs
  | within (hchunks : e.chunks ≠ []) {m : Message} {rest : StdString} {fs : List Frame}
      (hkind : e.fragmentedMessageKind = m.kind) (hdata : e.chunks.flatten ++ rest = m.data)
      (hrest : Continues rest fs) {ms : List Message} {gs : List Frame} (h : Stream ms gs) :
      Pending e (m :: ms) (fs ++ gs)

/-- What passes by leaves the messages to come as they were. -/
theorem Pending.undisturbed {e e' : Endpoint} (hsame : Undisturbed e e') {ms : List Message}
    {fs : List Frame} (h : Pending e ms fs) : Pending e' ms fs := by
  cases h with
  | apart hchunks h => exact .apart (hsame.chunks.trans hchunks) h
  | within hchunks hkind hdata hrest h =>
      refine .within ?_ (hsame.kind.trans hkind) ?_ hrest h
      · rw [hsame.chunks]
        exact hchunks
      · rw [hsame.chunks]
        exact hdata

/-- A frame is handled while no message is open. -/
theorem handled_apart {f : Frame} {ms : List Message} {fs : List Frame}
    (h : Stream ms (f :: fs)) {e : Endpoint} (hchunks : e.chunks = []) :
    ∃ done left, ms = done ++ left ∧ Pending (e.handleFrame env f) left fs ∧
      (e.handleFrame env f).received = e.received ++ done.filter Message.deliverable := by
  generalize hall : f :: fs = all at h
  cases h with
  | nil => cases hall
  | @message m ms gs hs hm h =>
      cases hm with
      | whole =>
          cases hall
          obtain ⟨hnone, hreceived⟩ := handleFrame_whole env m hchunks
          exact ⟨[m], ms, rfl, .apart hnone h, hreceived⟩
      | @parts payload rest hdata gs hrest =>
          obtain ⟨rfl, rfl⟩ := List.cons.inj hall
          obtain ⟨hpart, hkind, hreceived⟩ := handleFrame_part env m payload hchunks
          refine ⟨[], m :: ms, rfl, .within ?_ hkind ?_ hrest h, by simpa using hreceived⟩
          · rw [hpart]
            simp
          · rw [hpart, List.flatten_singleton]
            exact hdata.symm
  | between hf h =>
      cases hall
      have hsame := undisturbed_between env hf e
      exact ⟨[], ms, rfl, .apart (hsame.chunks.trans hchunks) h, by simpa using hsame.received⟩
  | closing hf =>
      cases hall
      have hsame := undisturbed_closing env hf e
      exact ⟨[], [], rfl, .apart (hsame.chunks.trans hchunks) .nil, by simpa using hsame.received⟩

/-- A frame is handled while a message is open. -/
theorem handled_within {f : Frame} {m : Message} {rest : StdString} {gs : List Frame}
    {e : Endpoint} (hchunks : e.chunks ≠ []) (hkind : e.fragmentedMessageKind = m.kind)
    (hdata : e.chunks.flatten ++ rest = m.data) (hrest : Continues rest gs) {ms : List Message}
    {hs fs : List Frame} (h : Stream ms hs) (hall : f :: fs = gs ++ hs) :
    ∃ done left, m :: ms = done ++ left ∧ Pending (e.handleFrame env f) left fs ∧
      (e.handleFrame env f).received = e.received ++ done.filter Message.deliverable := by
  cases hrest with
  | last =>
      cases hall
      obtain ⟨hnone, hreceived⟩ := handleFrame_last env rest hchunks hkind hdata
      exact ⟨[m], ms, rfl, .apart hnone h, hreceived⟩
  | more payload hrest =>
      cases hall
      obtain ⟨hmore, hsame, hreceived⟩ := handleFrame_more env payload hchunks
      refine ⟨[], m :: ms, rfl, .within ?_ (hsame.trans hkind) ?_ hrest h,
        by simpa using hreceived⟩
      · rw [hmore]
        simp
      · rw [hmore, List.flatten_append, List.flatten_singleton, List.append_assoc]
        exact hdata
  | between hf hrest =>
      cases hall
      have hsame := undisturbed_between env hf e
      exact ⟨[], m :: ms, rfl, (Pending.within hchunks hkind hdata hrest h).undisturbed hsame,
        by simpa using hsame.received⟩

/-- **A frame is handled**: it completes some of the messages to come, at most one. -/
theorem pending_handleFrame {f : Frame} {e : Endpoint} {ms : List Message} {fs : List Frame}
    (h : Pending e ms (f :: fs)) :
    ∃ done left, ms = done ++ left ∧ Pending (e.handleFrame env f) left fs ∧
      (e.handleFrame env f).received = e.received ++ done.filter Message.deliverable := by
  generalize hall : f :: fs = all at h
  cases h with
  | apart hchunks h =>
      cases hall
      exact handled_apart env h hchunks
  | within hchunks hkind hdata hrest h =>
      exact handled_within env hchunks hkind hdata hrest h hall

/-- With no frames to come there are no messages to come. -/
theorem Pending.of_nil {e : Endpoint} {ms : List Message} (h : Pending e ms []) : ms = [] := by
  generalize hnone : [] = fs at h
  cases h with
  | apart hchunks h =>
      cases hnone
      exact h.of_nil
  | within hchunks hkind hdata hrest h => cases hrest <;> cases hnone

/-- **A stream is received**: its messages and nothing else, in order. -/
theorem pending_handled {ms : List Message} {fs : List Frame} {e : Endpoint}
    (h : Pending e ms fs) :
    (fs.foldl (handleFrame env) e).received = e.received ++ ms.filter Message.deliverable := by
  induction fs generalizing ms e with
  | nil =>
      rw [h.of_nil]
      simp
  | cons f fs ih =>
      obtain ⟨done, left, rfl, hleft, hreceived⟩ := pending_handleFrame env h
      rw [List.foldl_cons, ih hleft, hreceived, List.append_assoc, ← List.filter_append]

end

end Endpoint

/-! ### From bytes to frames -/

/-- A frame, as it was sent. -/
structure SentFrame where
  useMask : Bool
  key : MaskingKey
  frame : Frame

def SentFrame.bytes (s : SentFrame) : StdString := encodeFrame s.useMask s.key s.frame

theorem parse_nil : frames.parse [] = ([], []) := rfl

/-- The frames of what was sent. -/
theorem parse_sent (sent : List SentFrame) (hproper : ∀ s ∈ sent, s.frame.Proper) :
    frames.parse (sent.flatMap SentFrame.bytes) = (sent.map SentFrame.frame, []) := by
  have hencode : ∀ (s : SentFrame) rest, s.frame.Proper →
      frames.next (s.bytes ++ rest) = .item s.frame rest :=
    fun s rest hs => nextFrame_encodeFrame s.useMask s.key hs rest
  have hparse := frames.parse_flatMap hencode sent hproper []
  rwa [parse_nil, List.append_nil, List.append_nil] at hparse

/-- A data frame that is not larger than a frame may be is proper. -/
theorem proper_of_data {f : Frame}
    (hopcode : f.opcode = .textFrame ∨ f.opcode = .binaryFrame ∨ f.opcode = .continuation)
    (hsize : f.payload.length ≤ maxFrameSize) : f.Proper := by
  obtain ⟨fin, opcode, payload⟩ := f
  simp only at hopcode hsize
  have hcontrol : opcode.isControl = false := by
    rcases hopcode with rfl | rfl | rfl <;> rfl
  refine ⟨?_, hsize, fun h => ?_, fun h => ?_⟩
  · rcases hopcode with rfl | rfl | rfl
    · exact ⟨rfl, Nat.lt_of_sub_eq_succ rfl⟩
    · exact ⟨rfl, Nat.lt_of_sub_eq_succ rfl⟩
    · exact ⟨rfl, Nat.lt_of_sub_eq_succ rfl⟩
  · rw [hcontrol] at h
    cases h
  · rw [show opcode = .ping from h] at hcontrol
    cases hcontrol

namespace Transport

variable (env : Environment)

/-- The messages to come arrive with the rest of their bytes, wherever the transport stands. -/
theorem pending_delivered {t : Transport} {ms : List Message} {sent : List SentFrame}
    (hpending : Endpoint.Pending t.toEndpoint ms (sent.map SentFrame.frame))
    (hproper : ∀ s ∈ sent, s.frame.Proper) {reads : List StdString}
    (hreads : t.rxbuf ++ reads.flatten = sent.flatMap SentFrame.bytes)
    (hread : reads ≠ [] ∨ t.rxbuf = []) :
    (reads.foldl (receive env) t).received = t.received ++ ms.filter Message.deliverable := by
  have hhandled := Endpoint.pending_handled env hpending
  have hparse := parse_sent sent hproper
  by_cases hnone : reads = []
  · -- nothing is read, and nothing was there to be handled
    subst hnone
    have hempty : t.rxbuf = [] := hread.resolve_left fun h => h rfl
    rw [hempty] at hreads
    rw [← hreads] at hparse
    rw [← (Prod.mk.inj hparse).1] at hhandled
    exact hhandled
  · have hself : Follows t (t.toEndpoint, t.rxbuf) := ⟨rfl, .inl rfl⟩
    have hfollows := foldl_receive_follows env hself reads
    rw [frames.foldl_feed _ _ (fun v e => Endpoint.violate_violate env v e) _ reads hnone,
      Parser.feed, hreads, hparse] at hfollows
    have hendpoint := hfollows.endpoint
    rw [show (reads.foldl (receive env) t).received
      = (reads.foldl (receive env) t).toEndpoint.received from rfl, hendpoint]
    exact hhandled

/--
**Messages arrive whole, once and in order.**  Whatever a server does with its messages as long
as it keeps to the protocol: how it cuts them into fragments, which pings and pongs it puts
between, how each frame is masked; and however the bytes are cut into reads: a transport with
an empty buffer and no open message calls the message callback with exactly these messages,
except for text that is not UTF-8.
-/
theorem messages_delivered {ms : List Message} {sent : List SentFrame}
    (hstream : Stream ms (sent.map SentFrame.frame)) (hproper : ∀ s ∈ sent, s.frame.Proper)
    (t : Transport) (hrxbuf : t.rxbuf = []) (hchunks : t.chunks = []) {reads : List StdString}
    (hreads : reads.flatten = sent.flatMap SentFrame.bytes) :
    (reads.foldl (receive env) t).received = t.received ++ ms.filter Message.deliverable := by
  refine pending_delivered env (.apart hchunks hstream) hproper ?_ (.inr hrxbuf)
  rw [hrxbuf]
  exact hreads

/-- A text message in two fragments with a ping between, and a binary message, in three
reads. -/
theorem messages_delivered_threeReads :
    ([[0x01, 0x02, 0x68], [0x69, 0x89, 0x00, 0x80, 0x01], [0x21, 0x82, 0x01, 0xff]].foldl
        (receive client) { fragmentedMessageKind := .msgBinary }).received
      = [⟨false, [0x68, 0x69, 0x21]⟩, ⟨true, [0xff]⟩] := by
  have hstream : Stream [⟨false, [0x68, 0x69, 0x21]⟩, ⟨true, [0xff]⟩]
      (List.map SentFrame.frame
        [⟨false, ⟨0, 0, 0, 0⟩, ⟨false, .textFrame, [0x68, 0x69]⟩⟩,
          ⟨false, ⟨0, 0, 0, 0⟩, ⟨true, .ping, []⟩⟩,
          ⟨false, ⟨0, 0, 0, 0⟩, ⟨true, .continuation, [0x21]⟩⟩,
          ⟨false, ⟨0, 0, 0, 0⟩, ⟨true, .binaryFrame, [0xff]⟩⟩]) :=
    .message (.parts rfl (.between (.inl rfl) (.last _))) (.message .whole .nil)
  refine (messages_delivered client hstream ?_ _ rfl rfl (by decide)).trans (by decide +kernel)
  intro s hs
  simp only [List.mem_cons, List.not_mem_nil, or_false] at hs
  rcases hs with rfl | rfl | rfl | rfl
  · exact proper_of_data (by simp) (by simp [maxFrameSize])
  · exact ⟨⟨rfl, by decide⟩, by simp [maxFrameSize], fun _ => rfl, fun _ => by simp⟩
  · exact proper_of_data (by simp) (by simp [maxFrameSize])
  · exact proper_of_data (by simp) (by simp [maxFrameSize])

end Transport

/-! ### What `sendData` writes -/

/-- The frames of the loop of `sendData`. -/
def fragments (type : Opcode) : Nat → StdString → List Frame
  | 0, _ => []
  | 1, message => [⟨true, type, message⟩]
  | steps + 2, message =>
      ⟨false, type, message.take kChunkSize⟩ ::
        fragments .continuation (steps + 1) (message.drop kChunkSize)

/-- The frames of `sendData`. -/
def Message.frames (m : Message) : List Frame :=
  if m.data.length < kChunkSize then [⟨true, m.type, m.data⟩]
  else fragments m.type (m.data.length / kChunkSize) m.data

theorem continues_fragments (steps : Nat) (message : StdString) :
    Continues message (fragments .continuation (steps + 1) message) := by
  induction steps generalizing message with
  | zero => exact .last message
  | succ steps ih =>
      have hrest := Continues.more (message.take kChunkSize) (ih (message.drop kChunkSize))
      rw [List.take_append_drop] at hrest
      exact hrest

/-- They carry the message. -/
theorem carries_frames (m : Message) : Carries m m.frames := by
  unfold Message.frames
  split
  · exact .whole
  · rename_i hlong
    obtain ⟨steps, hsteps⟩ : ∃ steps, m.data.length / kChunkSize = steps + 1 := by
      have hpos : 0 < m.data.length / kChunkSize :=
        Nat.div_pos (Nat.le_of_not_lt hlong) (by decide)
      exact ⟨_, (Nat.succ_pred_eq_of_pos hpos).symm⟩
    rw [hsteps]
    cases steps with
    | zero => exact .whole
    | succ steps =>
        exact .parts (List.take_append_drop kChunkSize m.data).symm (continues_fragments steps _)

theorem stream_frames (ms : List Message) : Stream ms (ms.flatMap Message.frames) := by
  induction ms with
  | nil => exact .nil
  | cons m ms ih => exact .message (carries_frames m) ih

theorem proper_fragments {type : Opcode}
    (htype : type = .textFrame ∨ type = .binaryFrame ∨ type = .continuation) (steps : Nat)
    {message : StdString} (hsize : message.length ≤ maxFrameSize) :
    ∀ f ∈ fragments type steps message, f.Proper := by
  induction steps generalizing type message with
  | zero => simp [fragments]
  | succ steps ih =>
      cases steps with
      | zero =>
          intro f hf
          rw [List.mem_singleton.mp hf]
          exact proper_of_data htype hsize
      | succ steps =>
          intro f hf
          rcases List.mem_cons.mp hf with rfl | hf
          · refine proper_of_data htype ?_
            simp only [List.length_take]
            omega
          · refine ih (.inr (.inr rfl)) ?_ f hf
            rw [List.length_drop]
            omega

theorem proper_frames {m : Message} (hsize : m.data.length ≤ maxFrameSize) :
    ∀ f ∈ m.frames, f.Proper := by
  have htype : m.type = .textFrame ∨ m.type = .binaryFrame ∨ m.type = .continuation := by
    rcases Message.type_cases m with h | h
    · exact .inl h
    · exact .inr (.inl h)
  unfold Message.frames
  split
  · intro f hf
    rw [List.mem_singleton.mp hf]
    exact proper_of_data htype hsize
  · exact proper_fragments htype _ hsize

namespace Endpoint

variable (env : Environment)

/-- The connection is up, and stays up. -/
structure Holds (e : Endpoint) : Prop where
  opened : e.readyState = .opened
  socket : e.socketOpen = true
  writes : ∀ n, env.sendFails n = false

/-- Sending has written these frames, and done nothing else. -/
def Wrote (e : Endpoint) (fs : List Frame) (result : Bool × Endpoint) : Prop :=
  ∃ sent : List SentFrame, ∃ sends, sent.map SentFrame.frame = fs ∧
    result = (true, { e with txbuf := e.txbuf ++ sent.flatMap SentFrame.bytes, sends })

theorem wrote_sendFragment {e : Endpoint} (h : Holds env e) (type : Opcode) (fin : Bool)
    (message : StdString) :
    Wrote e [⟨fin, type, message⟩] (sendFragment env type fin message e) := by
  refine ⟨[⟨env.useMask, maskingKey (env.random e.sends), ⟨fin, type, message⟩⟩],
    e.sends + 1, rfl, ?_⟩
  have hsent : ((e.appendToSendBuffer env type fin message).socketOpen &&
      !env.sendFails (e.appendToSendBuffer env type fin message).sends) = true := by
    rw [h.writes]
    exact (Bool.and_true _).trans h.socket
  rw [sendFragment, sendOnSocket, if_pos hsent]
  simp [appendToSendBuffer, SentFrame.bytes]

theorem Wrote.holds {e : Endpoint} (h : Holds env e) {fs : List Frame} {result : Bool × Endpoint}
    (hw : Wrote e fs result) : Holds env result.2 := by
  obtain ⟨sent, sends, -, rfl⟩ := hw
  exact ⟨h.opened, h.socket, h.writes⟩

/-- What is written after what was written. -/
theorem Wrote.trans {e : Endpoint} {fs gs : List Frame} {result result' : Bool × Endpoint}
    (h : Wrote e fs result) (h' : Wrote result.2 gs result') : Wrote e (fs ++ gs) result' := by
  obtain ⟨sent, sends, rfl, rfl⟩ := h
  obtain ⟨sent', sends', rfl, rfl⟩ := h'
  refine ⟨sent ++ sent', sends', by simp, ?_⟩
  simp [List.flatMap_append]

theorem wrote_sendFragments {e : Endpoint} (h : Holds env e) (type : Opcode) (steps : Nat)
    (message : StdString) :
    Wrote e (fragments type steps message) (sendFragments env type steps message e) := by
  induction steps generalizing type message e with
  | zero => exact ⟨[], e.sends, rfl, by simp [sendFragments]⟩
  | succ steps ih =>
      cases steps with
      | zero => exact wrote_sendFragment env h type true message
      | succ steps =>
          have hfirst := wrote_sendFragment env h type false (message.take kChunkSize)
          have hrest := ih (hfirst.holds env h) .continuation (message.drop kChunkSize)
          have hsent : (sendFragment env type false (message.take kChunkSize) e).1 = true := by
            obtain ⟨_, _, -, heq⟩ := hfirst
            rw [heq]
          rw [sendFragments, if_pos hsent]
          exact hfirst.trans hrest

theorem wrote_sendData {e : Endpoint} (h : Holds env e) (m : Message) :
    Wrote e m.frames (sendData env m.type m.data e) := by
  have hopen : ¬(e.readyState ≠ .opened ∧ e.readyState ≠ .closing) :=
    fun hclosed => hclosed.1 h.opened
  unfold sendData Message.frames
  rw [if_neg hopen]
  split
  · exact wrote_sendFragment env h m.type true m.data
  · exact wrote_sendFragments env h m.type _ m.data

/-- Messages sent one after another. -/
def sendMessages (ms : List Message) (e : Endpoint) : Endpoint :=
  ms.foldl (fun e m => (e.sendData env m.type m.data).2) e

theorem wrote_sendMessages {e : Endpoint} (h : Holds env e) (ms : List Message) :
    Wrote e (ms.flatMap Message.frames) (true, e.sendMessages env ms) := by
  induction ms generalizing e with
  | nil => exact ⟨[], e.sends, rfl, by simp [sendMessages]⟩
  | cons m ms ih =>
      have hfirst := wrote_sendData env h m
      exact hfirst.trans (ih (hfirst.holds env h))

end Endpoint

namespace Transport

/--
**What one transport sends the other receives.**  Messages of any size, sent with `sendText` or
`sendBinary` over a connection that holds, masked or not, and read on the other side in any
pieces, arrive as they were sent.
-/
theorem sent_received (env env' : Environment) {sender : Endpoint} (hholds : sender.Holds env)
    (ms : List Message) (hsize : ∀ m ∈ ms, m.data.length ≤ maxFrameSize) (t : Transport)
    (hrxbuf : t.rxbuf = []) (hchunks : t.chunks = []) {reads : List StdString}
    (hreads : sender.txbuf ++ reads.flatten = (sender.sendMessages env ms).txbuf) :
    (reads.foldl (receive env') t).received = t.received ++ ms.filter Message.deliverable := by
  obtain ⟨sent, sends, hframes, hwrote⟩ := Endpoint.wrote_sendMessages env hholds ms
  have hstream : Stream ms (sent.map SentFrame.frame) := by
    rw [hframes]
    exact stream_frames ms
  have hproper : ∀ s ∈ sent, s.frame.Proper := by
    intro s hs
    have hmem : s.frame ∈ ms.flatMap Message.frames := hframes ▸ List.mem_map_of_mem hs
    obtain ⟨m, hm, hf⟩ := List.mem_flatMap.mp hmem
    exact proper_frames (hsize m hm) s.frame hf
  have htxbuf : (sender.sendMessages env ms).txbuf
      = sender.txbuf ++ sent.flatMap SentFrame.bytes := by
    rw [(Prod.mk.inj hwrote).2]
  rw [htxbuf, List.append_cancel_left_eq] at hreads
  refine pending_delivered env' (.apart hchunks hstream) hproper ?_ (.inr hrxbuf)
  rw [hrxbuf]
  exact hreads

/-- A client sends two messages, and they are read one byte at a time. -/
theorem sent_received_bytes :
    ([[0x81], [0x82], [0x00], [0x00], [0x00], [0x00], [0x68], [0x69],
        [0x82], [0x81], [0x00], [0x00], [0x00], [0x00], [0xff]].foldl
        (receive client) { fragmentedMessageKind := .msgBinary }).received
      = [⟨false, [0x68, 0x69]⟩, ⟨true, [0xff]⟩] :=
  (sent_received client client
    (⟨rfl, rfl, fun _ => rfl⟩ : Endpoint.Holds client { fragmentedMessageKind := .msgBinary })
    [⟨false, [0x68, 0x69]⟩, ⟨true, [0xff]⟩]
    (by simp [maxFrameSize]) _ rfl rfl (by decide +kernel)).trans (by decide +kernel)

end Transport

end AisLive.WebSocket
