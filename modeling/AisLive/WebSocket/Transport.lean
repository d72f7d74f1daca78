/-
The WebSocket transport.

`Endpoint` is what the transport does with frames: the fragments of a message that is not
complete yet, the ready state with the code and reason of a close, the send buffer, and the
calls of the two callbacks.  `Transport` adds the receive buffer, from which `dispatch` takes
the frames, and how much `receiveFromSocket` is to read into it.

`dispatch` is the loop of the source.  `receive_follows` takes it apart: it handles the
frames the buffer parses into, one after another, and what it does when it leaves the loop on
account of the frame at the front can be done any number of times.  So a stream is handled in
the same way wherever it was cut into reads.

Compression is never negotiated by this build, and the size on the wire that the close callback
also passes on is read by nobody; both are left out.  The size is how much of the receive buffer
was filled when the close frame was handled, and so it is the one thing that does depend on the
reads.
-/
import AisLive.Stream.Session
import AisLive.WebSocket.Frame
import AisLive.WebSocket.Utf8

namespace AisLive.WebSocket

open Framing

/-- `WebSocketTransport::MessageKind`. -/
inductive MessageKind
  | msgText
  | msgBinary
  | ping
  | pong
  | fragment
  deriving DecidableEq, Repr

/-- `WebSocketTransport::PollResult`. -/
inductive PollResult
  | succeeded
  | abnormalClose
  | cannotFlushSendBuffer
  deriving DecidableEq, Repr

/-- A call of `onMessageCallback` or `_onCloseCallback`. -/
inductive Call
  | message (kind : MessageKind) (payload : StdString)
  | closed (code : Nat) (reason : StdString) (remote : Bool)
  deriving DecidableEq

/-- How the transport is set up, and what it meets outside. -/
structure Environment where
  /-- `_useMask`. -/
  useMask : Bool
  /-- `_enablePong`. -/
  enablePong : Bool
  /-- What `getRandomUnsigned` gives for each fragment. -/
  random : Nat → Nat
  /-- The write after so many others finds the connection broken. -/
  sendFails : Nat → Bool

/-- `kChunkSize`. -/
def kChunkSize : Nat := 32768

/-- The transport, without the receive buffer. -/
structure Endpoint where
  /-- `_fragmentedMessageKind`, not set by the constructor. -/
  fragmentedMessageKind : MessageKind
  chunks : List StdString := []
  readyState : ReadyState := .opened
  closeCode : Nat := 1011
  closeReason : StdString := ascii "Internal error"
  closeRemote : Bool := false
  pongReceived : Bool := false
  socketOpen : Bool := true
  /-- Everything that has gone through the send buffer. -/
  txbuf : StdString := []
  /-- The writes so far. -/
  sends : Nat := 0
  /-- The calls of the callbacks so far. -/
  calls : List Call := []
  deriving DecidableEq

/-- The transport. -/
structure Transport extends Endpoint where
  rxbuf : StdString := []
  rxbufWanted : Nat := 0

namespace Endpoint

/-- `setReadyState`. -/
def setReadyState (readyState : ReadyState) (t : Endpoint) : Endpoint :=
  if t.readyState = readyState then t
  else if readyState = .closed then
    { t with
      calls := t.calls ++ [.closed t.closeCode t.closeReason t.closeRemote]
      closeReason := ascii "Internal error"
      closeCode := 1011
      closeRemote := false
      readyState }
  else if readyState = .opened then { t with pongReceived := false, readyState }
  else { t with readyState }

/-- `closeSocket`. -/
def closeSocket (t : Endpoint) : Endpoint := { t with socketOpen := false }

/-- `closeSocketAndSwitchToClosedState`. -/
def closeSocketAndSwitchToClosedState (code : Nat) (reason : StdString) (remote : Bool)
    (t : Endpoint) : Endpoint :=
  { t.closeSocket with closeReason := reason, closeCode := code, closeRemote := remote
    }.setReadyState .closed

section

variable (env : Environment)

/-- `sendOnSocket`, of a send buffer that is not empty. -/
def sendOnSocket (t : Endpoint) : Bool × Endpoint :=
  let sent := { t with sends := t.sends + 1 }
  if t.socketOpen && !env.sendFails t.sends then (true, sent)
  else (false, if t.readyState = .closing then sent.closeSocket
    else sent.closeSocket.setReadyState .closed)

/-- The masking key of a fragment. -/
def maskingKey (x : Nat) : MaskingKey :=
  ⟨UInt8.ofNat (x >>> 24), UInt8.ofNat (x >>> 16), UInt8.ofNat (x >>> 8), UInt8.ofNat x⟩

/-- The frame of `sendFragment`, written by `appendToSendBuffer`. -/
def appendToSendBuffer (type : Opcode) (fin : Bool) (message : StdString) (t : Endpoint) :
    Endpoint :=
  { t with
    txbuf := t.txbuf ++
      encodeFrame env.useMask (maskingKey (env.random t.sends)) ⟨fin, type, message⟩ }

/-- `sendFragment`. -/
def sendFragment (type : Opcode) (fin : Bool) (message : StdString) (t : Endpoint) :
    Bool × Endpoint :=
  sendOnSocket env (t.appendToSendBuffer env type fin message)

/-- The loop of `sendData` with `steps` fragments to go; the last takes all that is left. -/
def sendFragments (type : Opcode) : Nat → StdString → Endpoint → Bool × Endpoint
  | 0, _, t => (true, t)
  | 1, message, t => sendFragment env type true message t
  | steps + 2, message, t =>
      let result := sendFragment env type false (message.take kChunkSize) t
      if result.1 then
        sendFragments .continuation (steps + 1) (message.drop kChunkSize) result.2
      else (false, result.2)

/-- `sendData`, with nothing to compress and no progress callback. -/
def sendData (type : Opcode) (message : StdString) (t : Endpoint) : Bool × Endpoint :=
  if t.readyState ≠ .opened ∧ t.readyState ≠ .closing then (false, t)
  else if message.length < kChunkSize then sendFragment env type true message t
  else sendFragments env type (message.length / kChunkSize) message t

/-- `sendCloseFrame`. -/
def sendCloseFrame (code : Nat) (reason : StdString) (t : Endpoint) : Endpoint :=
  if code ≠ 1005 then
    (sendData env .close ([UInt8.ofNat (code >>> 8), UInt8.ofNat code] ++ reason) t).2
  else (sendData env .close [] t).2

/-- What `close` does to the state before it sends the close frame. -/
def setClosing (code : Nat) (reason : StdString) (t : Endpoint) : Endpoint :=
  { t with closeReason := reason, closeCode := code, closeRemote := false }.setReadyState .closing

/-- `close`, called by the thread of `run()`. -/
def close (code : Nat) (reason : StdString) (t : Endpoint) : Endpoint :=
  if t.readyState = .closing ∨ t.readyState = .closed then t
  else sendCloseFrame env code reason (t.setClosing code reason)

/-- `emitMessage`. -/
def emitMessage (kind : MessageKind) (message : StdString) (t : Endpoint) : Endpoint :=
  if kind = .msgText ∧ validateUtf8 message = false then
    t.close env 1007 (ascii "Invalid frame payload data")
  else { t with calls := t.calls ++ [.message kind message] }

/-! ### Handling a frame -/

/-- What `dispatch` checks of a text, binary or continuation frame. -/
def checkSequence (opcode : Opcode) (t : Endpoint) : Endpoint :=
  if opcode ≠ .continuation then
    let t := { t with
      fragmentedMessageKind := if opcode = .textFrame then .msgText else .msgBinary }
    if t.chunks ≠ [] then t.close env 1002 (ascii "Fragmentation: data message out of sequence")
    else t
  else if t.chunks = [] then
    t.close env 1002 (ascii "Fragmentation: continuation opcode out of sequence")
  else t

/-- What it does with the payload then. -/
def collect (fin : Bool) (frameData : StdString) (t : Endpoint) : Endpoint :=
  if fin = true ∧ t.chunks = [] then t.emitMessage env t.fragmentedMessageKind frameData
  else
    let t := { t with chunks := t.chunks ++ [frameData] }
    if fin then
      { t.emitMessage env t.fragmentedMessageKind t.chunks.flatten with chunks := [] }
    else t.emitMessage env .fragment []

/-- A ping frame that is not too large. -/
def onPing (frameData : StdString) (t : Endpoint) : Endpoint :=
  (if env.enablePong then (t.sendData env .pong frameData).2 else t).emitMessage env .ping frameData

/-- The code and the reason of a close frame. -/
def closeStatus (frameData : StdString) : Nat × StdString :=
  match frameData with
  | b₀ :: b₁ :: rest =>
      let status := if validateUtf8 rest then (bigEndian [b₀, b₁], rest)
        else (1007, ascii "Invalid frame payload data")
      if status.1 < 1000 ∨ status.1 = 1004 ∨ status.1 = 1006 ∨ (1013 < status.1 ∧ status.1 < 3000)
      then (1002, ascii "Invalid close code: " ++ ascii (toString status.1))
      else status
  | _ => (1005, ascii "No status code")

/-- A close frame. -/
def onClose (frameData : StdString) (t : Endpoint) : Endpoint :=
  let status := closeStatus frameData
  if t.readyState ≠ .closing then
    ((t.setReadyState .closing).sendCloseFrame env status.1 status.2
      ).closeSocketAndSwitchToClosedState status.1 status.2 true
  else if t.closeCode = status.1 ∧ t.closeReason = status.2 then
    t.closeSocketAndSwitchToClosedState status.1 status.2 false
  else t

/-- What `dispatch` does with a whole frame. -/
def handleFrame (t : Endpoint) (f : Frame) : Endpoint :=
  match f.opcode with
  | .textFrame | .binaryFrame | .continuation =>
      (t.checkSequence env f.opcode).collect env f.fin f.payload
  | .ping => t.onPing env f.payload
  | .pong => { t with pongReceived := true }.emitMessage env .pong f.payload
  | .close => t.onClose env f.payload
  | .unnamed _ => t.close env 1002 (ascii "Protocol error")

/-- What it does about a frame it leaves in the buffer. -/
def violate (v : Violation) (t : Endpoint) : Endpoint :=
  match v with
  | .reservedBitUsed => t.close env 1002 (ascii "Reserved bit used")
  | .tooLong => t
  | .controlMessageFragmented => t.close env 1002 (ascii "Control message fragmented")
  | .pingPayloadOversized =>
      t.close env 1002 (ascii "Ping reason control frame with payload length > 125 octets")

end

end Endpoint

namespace Transport

/-- The rest of the transport, changed. -/
def onEndpoint (f : Endpoint → Endpoint) (t : Transport) : Transport :=
  { t with toEndpoint := f t.toEndpoint }

/-- `unmaskReceiveBuffer`. -/
def unmaskReceiveBuffer (ws : WsHeader) (t : Transport) : Transport :=
  if ws.mask then
    { t with rxbuf := t.rxbuf.take ws.headerSize ++
        applyMask ws.maskingKey ((t.rxbuf.drop ws.headerSize).take ws.n) ++
          t.rxbuf.drop (ws.headerSize + ws.n) }
  else t

/-- One round of the loop of `dispatch`. -/
inductive Round
  /-- `break`. -/
  | leaveLoop (t : Transport)
  /-- `return`. -/
  | leaveDispatch (t : Transport)
  | again (t : Transport)

section

variable (env : Environment)

/-- The body of the loop of `dispatch`. -/
def round (t : Transport) : Round :=
  match readHeader t.rxbuf with
  | none => .leaveLoop t
  | some ws =>
      if ws.rsv1 || ws.rsv2 || ws.rsv3 then
        .leaveDispatch (t.onEndpoint (.close env 1002 (ascii "Reserved bit used")))
      else if maxFrameSize < ws.n then .leaveDispatch t
      else if t.rxbuf.length < ws.headerSize + ws.n then
        .leaveDispatch { t with rxbufWanted := ws.headerSize + ws.n }
      else
        let t := { t with rxbufWanted := 0 }
        if !ws.fin && ws.opcode.isControl then
          .leaveDispatch (t.onEndpoint (.close env 1002 (ascii "Control message fragmented")))
        else
          let t := t.unmaskReceiveBuffer ws
          let frameData := (t.rxbuf.drop ws.headerSize).take ws.n
          if ws.opcode = .ping ∧ 125 < frameData.length then
            .leaveDispatch (t.onEndpoint (.close env 1002
              (ascii "Ping reason control frame with payload length > 125 octets")))
          else
            .again { t.onEndpoint fun e => e.handleFrame env ⟨ws.fin, ws.opcode, frameData⟩ with
              rxbuf := t.rxbuf.drop (ws.headerSize + ws.n) }

/-- The loop of `dispatch`, at most `n` rounds; whether it was left by `break`. -/
def loop : Nat → Transport → Bool × Transport
  | 0, t => (true, t)
  | n + 1, t =>
      match t.round env with
      | .leaveLoop t' => (true, t')
      | .leaveDispatch t' => (false, t')
      | .again t' => loop n t'

/-- The end of `dispatch`, when the poll did not succeed. -/
def closeAbnormally (t : Transport) : Transport :=
  let t := { t with rxbuf := [] }
  if t.readyState = .closing then t.onEndpoint fun e => e.closeSocket.setReadyState .closed
  else if t.readyState ≠ .closed then
    t.onEndpoint (.closeSocketAndSwitchToClosedState 1006 (ascii "Abnormal closure") false)
  else t

/-- `dispatch`.  Every round but the last erases a frame. -/
def dispatch (pollResult : PollResult) (t : Transport) : Transport :=
  let result := loop env t.rxbuf.length t
  if result.1 = true ∧ pollResult ≠ .succeeded then result.2.closeAbnormally else result.2

end

end Transport

/-! ### Closing twice -/

namespace Endpoint

variable (env : Environment)

@[simp] theorem readyState_setReadyState (readyState : ReadyState) (t : Endpoint) :
    (t.setReadyState readyState).readyState = readyState := by
  unfold setReadyState
  split
  · assumption
  · split
    · rfl
    · split <;> rfl

@[simp] theorem readyState_setClosing (code : Nat) (reason : StdString) (t : Endpoint) :
    (t.setClosing code reason).readyState = .closing :=
  readyState_setReadyState .closing _

/-- While the transport is closing a write changes only what has been sent and the socket. -/
theorem sendOnSocket_closing {t : Endpoint} (h : t.readyState = .closing) :
    ∃ sends socketOpen, (sendOnSocket env t).2 = { t with sends, socketOpen } := by
  unfold sendOnSocket
  by_cases hsent : (t.socketOpen && !env.sendFails t.sends) = true
  · rw [if_pos hsent]
    exact ⟨t.sends + 1, t.socketOpen, rfl⟩
  · rw [if_neg hsent, if_pos h]
    exact ⟨t.sends + 1, false, rfl⟩

theorem sendFragment_closing {t : Endpoint} (h : t.readyState = .closing) (type : Opcode)
    (fin : Bool) (message : StdString) :
    ∃ txbuf sends socketOpen,
      (sendFragment env type fin message t).2 = { t with txbuf, sends, socketOpen } := by
  obtain ⟨sends, socketOpen, hsent⟩ :=
    sendOnSocket_closing env (t := t.appendToSendBuffer env type fin message) h
  exact ⟨_, sends, socketOpen, hsent⟩

theorem sendFragments_closing {t : Endpoint} (h : t.readyState = .closing) (type : Opcode)
    (steps : Nat) (message : StdString) :
    ∃ txbuf sends socketOpen,
      (sendFragments env type steps message t).2 = { t with txbuf, sends, socketOpen } := by
  induction steps generalizing t type message with
  | zero => exact ⟨t.txbuf, t.sends, t.socketOpen, rfl⟩
  | succ steps ih =>
      cases steps with
      | zero => exact sendFragment_closing env h type true message
      | succ steps =>
          obtain ⟨txbuf, sends, socketOpen, hfirst⟩ :=
            sendFragment_closing env h type false (message.take kChunkSize)
          rw [sendFragments]
          split
          · obtain ⟨txbuf', sends', socketOpen', hrest⟩ :=
              ih (t := (sendFragment env type false (message.take kChunkSize) t).2)
                (by rw [hfirst]; exact h) .continuation (message.drop kChunkSize)
            rw [hrest, hfirst]
            exact ⟨txbuf', sends', socketOpen', rfl⟩
          · exact ⟨txbuf, sends, socketOpen, hfirst⟩

theorem sendData_closing {t : Endpoint} (h : t.readyState = .closing) (type : Opcode)
    (message : StdString) :
    ∃ txbuf sends socketOpen,
      (sendData env type message t).2 = { t with txbuf, sends, socketOpen } := by
  unfold sendData
  split
  · exact ⟨t.txbuf, t.sends, t.socketOpen, rfl⟩
  · split
    · exact sendFragment_closing env h type true message
    · exact sendFragments_closing env h type _ message

theorem sendCloseFrame_closing {t : Endpoint} (h : t.readyState = .closing) (code : Nat)
    (reason : StdString) :
    ∃ txbuf sends socketOpen,
      t.sendCloseFrame env code reason = { t with txbuf, sends, socketOpen } := by
  unfold sendCloseFrame
  split
  · exact sendData_closing env h _ _
  · exact sendData_closing env h _ _

/-- A transport that is asked to close is closing, or was closed before. -/
theorem close_readyState (t : Endpoint) (code : Nat) (reason : StdString) :
    (t.close env code reason).readyState = .closing ∨
      (t.close env code reason).readyState = .closed := by
  unfold close
  split
  · assumption
  · obtain ⟨txbuf, sends, socketOpen, hsent⟩ :=
      sendCloseFrame_closing env (readyState_setClosing code reason t) code reason
    rw [hsent]
    exact .inl (readyState_setClosing code reason t)

theorem close_of_closing {t : Endpoint} (h : t.readyState = .closing ∨ t.readyState = .closed)
    (code : Nat) (reason : StdString) : t.close env code reason = t := if_pos h

/-- **What is done about a frame left in the buffer may be done again.** -/
theorem violate_violate (v : Violation) (t : Endpoint) :
    (t.violate env v).violate env v = t.violate env v := by
  cases v with
  | tooLong => rfl
  | reservedBitUsed | controlMessageFragmented | pingPayloadOversized =>
      exact close_of_closing env (close_readyState env t _ _) _ _

end Endpoint

/-! ### One round -/

namespace Transport

variable (env : Environment)

/-- Unmasking leaves the payload where it was, and everything around it. -/
theorem unmaskReceiveBuffer_spec {ws : WsHeader} {t : Transport}
    (hwhole : ws.headerSize + ws.n ≤ t.rxbuf.length) :
    ∃ rxbuf, t.unmaskReceiveBuffer ws = { t with rxbuf } ∧ rxbuf.length = t.rxbuf.length ∧
      rxbuf.take ws.headerSize = t.rxbuf.take ws.headerSize ∧
      (rxbuf.drop ws.headerSize).take ws.n = framePayload ws t.rxbuf ∧
      rxbuf.drop (ws.headerSize + ws.n) = t.rxbuf.drop (ws.headerSize + ws.n) := by
  have hheader : (t.rxbuf.take ws.headerSize).length = ws.headerSize := by
    rw [List.length_take]
    omega
  have hpayload : ((t.rxbuf.drop ws.headerSize).take ws.n).length = ws.n := by
    rw [List.length_take, List.length_drop]
    omega
  unfold unmaskReceiveBuffer framePayload
  by_cases hmask : ws.mask = true
  · rw [if_pos hmask]
    refine ⟨_, rfl, ?_, ?_, ?_, ?_⟩
    · simp only [List.length_append, length_applyMask, hheader, hpayload, List.length_drop]
      omega
    · rw [List.append_assoc, List.take_append_of_le_length (by omega),
        List.take_of_length_le (by omega)]
    · rw [List.append_assoc, List.drop_append_of_le_length (by omega),
        List.drop_of_length_le (by omega), List.nil_append,
        List.take_append_of_le_length (by rw [length_applyMask]; omega),
        List.take_of_length_le (by rw [length_applyMask]; omega)]
      exact (if_pos hmask).symm
    · exact List.drop_left' (by rw [List.length_append, length_applyMask, hheader, hpayload])
  · rw [if_neg hmask]
    exact ⟨t.rxbuf, rfl, rfl, rfl, (if_neg hmask).symm, rfl⟩

/-- A whole frame is handled and erased. -/
theorem round_of_item {t : Transport} {f : Frame} {rest : StdString}
    (h : nextFrame t.rxbuf = .item f rest) :
    t.round env = .again ⟨t.toEndpoint.handleFrame env f, rest, 0⟩ := by
  unfold nextFrame at h
  unfold round
  cases hheader : readHeader t.rxbuf with
  | none =>
      rw [hheader] at h
      cases h
  | some ws =>
      rw [hheader] at h
      simp only at h ⊢
      split_ifs at h with hrsv hlong hshort hcontrol hping
      cases h
      obtain ⟨rxbuf, hunmask, -, -, hpayload, hleft⟩ :=
        unmaskReceiveBuffer_spec (t := { t with rxbufWanted := 0 }) (Nat.le_of_not_lt hshort)
      rw [if_neg hrsv, if_neg hlong, if_neg hshort, if_neg hcontrol, hunmask]
      simp only at hpayload hleft ⊢
      rw [hpayload, if_neg hping, hleft]
      rfl

/-- Where it cannot tell yet, the loop is left before the header is complete, and `dispatch`
after; then it says how long the frame is. -/
theorem round_of_wait {t : Transport} (h : nextFrame t.rxbuf = .wait) :
    (readHeader t.rxbuf = none ∧ t.round env = .leaveLoop t) ∨
      ∃ ws, readHeader t.rxbuf = some ws ∧ t.rxbuf.length < ws.headerSize + ws.n ∧
        t.round env = .leaveDispatch { t with rxbufWanted := ws.headerSize + ws.n } := by
  unfold nextFrame at h
  unfold round
  cases hheader : readHeader t.rxbuf with
  | none => exact .inl ⟨rfl, rfl⟩
  | some ws =>
      rw [hheader] at h
      simp only at h ⊢
      split_ifs at h with hrsv hlong hshort hcontrol hping
      rw [if_neg hrsv, if_neg hlong, if_pos hshort]
      exact .inr ⟨ws, rfl, hshort, rfl⟩

/-- A violation is answered.  The frame is still there, its header as it was. -/
theorem round_of_stuck {t : Transport} {v : Violation} (h : nextFrame t.rxbuf = .stuck v) :
    ∃ rxbuf rxbufWanted,
      t.round env = .leaveDispatch ⟨t.toEndpoint.violate env v, rxbuf, rxbufWanted⟩ ∧
        nextFrame rxbuf = .stuck v ∧ rxbuf.length = t.rxbuf.length ∧
        readHeader rxbuf = readHeader t.rxbuf ∧
        (rxbufWanted = 0 ∨
          rxbufWanted = t.rxbufWanted ∧ (v = .reservedBitUsed ∨ v = .tooLong)) := by
  have hsame := h
  unfold nextFrame at h
  unfold round
  cases hheader : readHeader t.rxbuf with
  | none =>
      rw [hheader] at h
      cases h
  | some ws =>
      rw [hheader] at h
      simp only at h ⊢
      by_cases hrsv : (ws.rsv1 || ws.rsv2 || ws.rsv3) = true
      · rw [if_pos hrsv] at h ⊢
        cases h
        exact ⟨_, _, rfl, hsame, rfl, hheader, .inr ⟨rfl, .inl rfl⟩⟩
      · by_cases hlong : maxFrameSize < ws.n
        · rw [if_neg hrsv, if_pos hlong] at h ⊢
          cases h
          exact ⟨_, _, rfl, hsame, rfl, hheader, .inr ⟨rfl, .inr rfl⟩⟩
        · by_cases hshort : t.rxbuf.length < ws.headerSize + ws.n
          · rw [if_neg hrsv, if_neg hlong, if_pos hshort] at h
            cases h
          · by_cases hcontrol : (!ws.fin && ws.opcode.isControl) = true
            · rw [if_neg hrsv, if_neg hlong, if_neg hshort, if_pos hcontrol] at h ⊢
              cases h
              exact ⟨_, _, rfl, hsame, rfl, hheader, .inl rfl⟩
            · rw [if_neg hrsv, if_neg hlong, if_neg hshort, if_neg hcontrol] at h ⊢
              obtain ⟨rxbuf, hunmask, hlength, htake, hpayload, -⟩ :=
                unmaskReceiveBuffer_spec (t := { t with rxbufWanted := 0 })
                  (Nat.le_of_not_lt hshort)
              by_cases hping : ws.opcode = .ping ∧ 125 < (framePayload ws t.rxbuf).length
              · rw [if_pos hping] at h
                cases h
                rw [hunmask]
                simp only at hlength htake hpayload ⊢
                rw [hpayload, if_pos hping]
                -- the header is as it was, and unmasking keeps the length
                have hheader' : readHeader rxbuf = some ws := by
                  have hshown := readHeader_append (readHeader_take hheader)
                    (rxbuf.drop ws.headerSize)
                  rwa [← htake, List.take_append_drop] at hshown
                refine ⟨_, _, rfl, ?_, hlength, hheader', .inl rfl⟩
                have hwhole : ws.headerSize + ws.n ≤ rxbuf.length := by omega
                have hlarge : 125 < (framePayload ws rxbuf).length := by
                  rw [length_framePayload hwhole,
                    ← length_framePayload (Nat.le_of_not_lt hshort)]
                  exact hping.2
                rw [nextFrame_of_whole hheader' hwhole, if_neg hrsv, if_neg hlong,
                  if_neg hcontrol, if_pos ⟨hping.1, hlarge⟩]
              · rw [if_neg hping] at h
                cases h

/-! ### The loop -/

/-- The transport has handled the frames of `p.1`, and its buffer is what is left of them.  A
violation at the front of the buffer stays there, but may have been unmasked. -/
structure Follows (t : Transport) (p : Endpoint × StdString) : Prop where
  endpoint : t.toEndpoint = p.1
  buffer : t.rxbuf = p.2 ∨ ∃ v, nextFrame t.rxbuf = .stuck v ∧ nextFrame p.2 = .stuck v

theorem nextFrame_nil : nextFrame [] = .wait := rfl

/-- The front of the buffer, when the loop is left for it. -/
theorem loop_of_stuck {t : Transport} {v : Violation} (h : nextFrame t.rxbuf = .stuck v) :
    (loop env t.rxbuf.length t).2.toEndpoint = t.toEndpoint.violate env v ∧
      nextFrame (loop env t.rxbuf.length t).2.rxbuf = .stuck v := by
  obtain ⟨rxbuf, rxbufWanted, hround, hstuck, -⟩ := round_of_stuck env h
  cases hlength : t.rxbuf.length with
  | zero =>
      rw [List.length_eq_zero_iff.mp hlength, nextFrame_nil] at h
      cases h
  | succ n =>
      rw [loop, hround]
      exact ⟨rfl, hstuck⟩

/-- **The loop handles the frames of the buffer**, and then what is left at its front. -/
theorem loop_follows {n : Nat} {t : Transport} (h : t.rxbuf.length ≤ n) :
    Follows (loop env n t).2
      (frames.settled (Endpoint.violate env) (frames.parse t.rxbuf).2
        ((frames.parse t.rxbuf).1.foldl (Endpoint.handleFrame env) t.toEndpoint),
        (frames.parse t.rxbuf).2) := by
  induction n generalizing t with
  | zero =>
      have hnil : t.rxbuf = [] := List.length_eq_zero_iff.mp (by omega)
      have hnext : frames.next t.rxbuf = .wait := by
        rw [hnil]
        exact nextFrame_nil
      rw [frames.parse_of_wait hnext, Parser.settled, hnext]
      exact ⟨rfl, .inl rfl⟩
  | succ n ih =>
      cases hnext : nextFrame t.rxbuf with
      | item f rest =>
          have hshorter := nextFrame_shrinks hnext
          rw [loop, round_of_item env hnext, frames.parse_of_item hnext]
          exact ih (t := ⟨t.toEndpoint.handleFrame env f, rest, 0⟩) (by simp only; omega)
      | wait =>
          rw [frames.parse_of_wait hnext, Parser.settled,
            show frames.next t.rxbuf = .wait from hnext, loop]
          rcases round_of_wait env hnext with ⟨-, hround⟩ | ⟨ws, -, -, hround⟩ <;> rw [hround] <;>
            exact ⟨rfl, .inl rfl⟩
      | stuck v =>
          obtain ⟨rxbuf, rxbufWanted, hround, hstuck, -⟩ := round_of_stuck env hnext
          rw [frames.parse_of_stuck hnext, Parser.settled,
            show frames.next t.rxbuf = .stuck v from hnext, loop, hround]
          exact ⟨rfl, .inr ⟨v, hstuck, hnext⟩⟩

/-! ### Reads -/

/-- A read, and the dispatch that follows it. -/
def receive (t : Transport) (bytes : StdString) : Transport :=
  dispatch env .succeeded { t with rxbuf := t.rxbuf ++ bytes }

theorem dispatch_succeeded (t : Transport) :
    dispatch env .succeeded t = (loop env t.rxbuf.length t).2 := by
  unfold dispatch
  simp only
  rw [if_neg (fun h => h.2 rfl)]

/-- **A dispatch follows the stream.** -/
theorem receive_follows {t : Transport} {p : Endpoint × StdString} (h : Follows t p)
    (bytes : StdString) :
    Follows (receive env t bytes)
      (frames.feed (Endpoint.handleFrame env) (Endpoint.violate env) p bytes) := by
  rw [receive, dispatch_succeeded, Parser.feed]
  rcases h.buffer with hbuffer | ⟨v, hstuck, hstuck'⟩
  · have hloop := loop_follows env (t := { t with rxbuf := t.rxbuf ++ bytes }) (Nat.le_refl _)
    simp only [hbuffer, h.endpoint] at hloop ⊢
    exact hloop
  · have hmore := frames.stuck_append bytes hstuck
    have hmore' := frames.stuck_append bytes hstuck'
    obtain ⟨hendpoint, hleft⟩ :=
      loop_of_stuck env (t := { t with rxbuf := t.rxbuf ++ bytes }) hmore
    rw [frames.parse_of_stuck hmore', Parser.settled, hmore']
    exact ⟨hendpoint.trans (by rw [h.endpoint]; rfl), .inr ⟨v, hleft, hmore'⟩⟩

theorem foldl_receive_follows {t : Transport} {p : Endpoint × StdString} (h : Follows t p)
    (reads : List StdString) :
    Follows (reads.foldl (receive env) t)
      (reads.foldl (frames.feed (Endpoint.handleFrame env) (Endpoint.violate env)) p) := by
  induction reads generalizing t p with
  | nil => exact h
  | cons bytes reads ih => exact ih (receive_follows env h bytes)

/--
**It does not matter where a stream is cut.**  From any state of the transport, whatever its
buffer holds, any reads followed by their dispatches leave the ready state, the fragments, the
send buffer and the calls of the callbacks as one read of all the bytes would.
-/
theorem dispatch_any_cut (t : Transport) (reads : List StdString) (hne : reads ≠ []) :
    (reads.foldl (receive env) t).toEndpoint = (receive env t reads.flatten).toEndpoint := by
  have hself : Follows t (t.toEndpoint, t.rxbuf) := ⟨rfl, .inl rfl⟩
  have hreads := foldl_receive_follows env hself reads
  rw [frames.foldl_feed _ _ (fun v e => Endpoint.violate_violate env v e) _ reads hne] at hreads
  rw [hreads.endpoint, (receive_follows env hself reads.flatten).endpoint]

/-- A transport of a client that has just connected, none of whose writes fail. -/
def client : Environment where
  useMask := true
  enablePong := true
  random := fun _ => 0
  sendFails := fun _ => false

/-- A text frame in three reads. -/
theorem dispatch_any_cut_threeReads :
    ([[0x81], [0x02, 0x68], [0x69]].foldl (receive client)
        { fragmentedMessageKind := .msgBinary }).calls = [.message .msgText [0x68, 0x69]] ∧
      ([[0x81], [0x02, 0x68], [0x69]].foldl (receive client)
        { fragmentedMessageKind := .msgBinary }).toEndpoint
        = (receive client { fragmentedMessageKind := .msgBinary } [0x81, 0x02, 0x68, 0x69]
          ).toEndpoint :=
  ⟨by decide +kernel, dispatch_any_cut client _ _ (by simp)⟩

end Transport

end AisLive.WebSocket
