/-
What a connection receives, and how much of it it keeps.

Over any run of the loop, with requests to close wherever they come, the message callback is
called with the server's messages in order, each once, up to some point; until Close is delivered
that point is as far as the bytes have been read.  The receive buffer holds little more than the
frame at its front, and the loop never waits for a frame that it refuses to read.

A transport that has been closed drops what it has not handled, and its socket is closed too, so
it reads nothing more (`Drained`).  That holds also when the other thread, which looked before,
takes it from CLOSED back to CLOSING and the loop polls again.
-/
import AisLive.WebSocket.Connection

namespace AisLive.WebSocket

open Framing

/-! ### Giving up -/

/-- An abnormal closure drops what has not been handled. -/
theorem Transport.closeAbnormally_spec (t : Transport) :
    Endpoint.Undisturbed t.toEndpoint t.closeAbnormally.toEndpoint ∧
      t.closeAbnormally.rxbuf = [] ∧ t.closeAbnormally.readyState = .closed ∧
      t.closeAbnormally.rxbufWanted = t.rxbufWanted := by
  unfold closeAbnormally
  simp only
  split
  · exact ⟨(Endpoint.undisturbed_closeSocket _).trans
        (Endpoint.undisturbed_setReadyState .closed _), rfl,
        Endpoint.readyState_setReadyState .closed _, rfl⟩
  · split
    · exact ⟨Endpoint.undisturbed_closeSocketAndSwitchToClosedState _ _ _ _, rfl,
        Endpoint.readyState_setReadyState .closed _, rfl⟩
    · rename_i hclosed
      exact ⟨.refl _, rfl, by simpa using hclosed, rfl⟩

/-- Past the test at the top of the loop, and before the next. -/
def Phase.inside : Phase → Bool
  | .polling | .dispatching _ => true
  | .loop | .returned => false

namespace Connection

variable (env : Environment)

/-! ### The front of the buffer -/

/-- The length of the frame at the front, as far as it is known. -/
def frontSize (data : StdString) : Nat :=
  match readHeader data with
  | none => 0
  | some ws => ws.headerSize + ws.n

theorem frontSize_of_readHeader {data : StdString} {ws : WsHeader}
    (h : readHeader data = some ws) : frontSize data = ws.headerSize + ws.n := by
  rw [frontSize, h]

/-- Between a dispatch and the next poll: a violation is at the front, or the transport knows
how much it waits for. -/
inductive Idle (rxbuf : StdString) (rxbufWanted : Nat) : Prop
  | stuck {v : Violation} (hnext : nextFrame rxbuf = .stuck v) (hwanted : rxbufWanted = 0)
  | waits (hnext : nextFrame rxbuf = .wait) (hwanted : rxbufWanted = frontSize rxbuf)

/-- In a dispatch: what was waited for is the frame at the front. -/
def Announced (rxbuf : StdString) (rxbufWanted : Nat) : Prop :=
  rxbufWanted = 0 ∨ ∃ ws, readHeader rxbuf = some ws ∧
    rxbufWanted = ws.headerSize + ws.n ∧ (ws.rsv1 || ws.rsv2 || ws.rsv3) = false ∧
    ws.n ≤ maxFrameSize

/-- What has been received is dropped, and nothing more can be read. -/
structure Drained (t : Transport) : Prop where
  rxbuf : t.rxbuf = []
  socket : t.socketOpen = false

/-- What each phase knows of the receive buffer. -/
def Ready (c : Connection) : Prop :=
  match c.phase with
  | .loop | .polling => Idle c.rxbuf c.rxbufWanted ∨ Drained c.toTransport
  | .dispatching pollResult =>
      (pollResult ≠ .succeeded → c.socketOpen = false) ∧
        (Announced c.rxbuf c.rxbufWanted ∨ Drained c.toTransport)
  | .returned => True

/-- The receive buffer over a run. -/
structure Buffered (c : Connection) : Prop where
  bounded : c.rxbuf.length < kChunkSize + max kChunkSize (frontSize c.rxbuf)
  ready : c.Ready

theorem length_of_readHeader_none {data : StdString} (h : readHeader data = none) :
    data.length < 14 := by
  cases data with
  | nil => simp
  | cons b₀ data =>
      cases data with
      | nil => simp
      | cons b₁ rest =>
          unfold readHeader at h
          simp only at h
          split at h
          · rename_i hshort
            have hsize : headerSize (b₁ &&& 0x7f).toNat (b₁ &&& 0x80 == 0x80) ≤ 14 := by
              unfold headerSize extendedSize
              split_ifs <;> omega
            omega
          · cases h

/-- A frame that is waited for has nothing wrong with its header. -/
theorem header_of_wait {data : StdString} {ws : WsHeader} (hnext : nextFrame data = .wait)
    (hheader : readHeader data = some ws) :
    (ws.rsv1 || ws.rsv2 || ws.rsv3) = false ∧ ws.n ≤ maxFrameSize ∧
      data.length < ws.headerSize + ws.n := by
  unfold nextFrame at hnext
  rw [hheader] at hnext
  simp only at hnext
  split_ifs at hnext with hrsv hlong hshort
  exact ⟨by simpa using hrsv, Nat.le_of_not_lt hlong, hshort⟩

/-- A frame that was waited for is at fault only for what stands behind its length. -/
theorem not_stuck_of_header {data : StdString} {ws : WsHeader} {v : Violation}
    (hheader : readHeader data = some ws) (hrsv : (ws.rsv1 || ws.rsv2 || ws.rsv3) = false)
    (hlong : ws.n ≤ maxFrameSize) (hnext : nextFrame data = .stuck v) :
    v ≠ .reservedBitUsed ∧ v ≠ .tooLong := by
  unfold nextFrame at hnext
  rw [hheader] at hnext
  simp only [hrsv, Bool.false_eq_true, if_false, if_neg (Nat.not_lt.mpr hlong)] at hnext
  split_ifs at hnext <;> cases hnext <;> simp

/-- What is taken off is as long as its header says. -/
theorem length_of_item {data rest : StdString} {f : Frame} (hnext : nextFrame data = .item f rest) :
    rest.length + frontSize data = data.length := by
  cases hheader : readHeader data with
  | none =>
      unfold nextFrame at hnext
      rw [hheader] at hnext
      cases hnext
  | some ws =>
      unfold nextFrame at hnext
      rw [hheader] at hnext
      simp only at hnext
      split_ifs at hnext
      cases hnext
      rw [frontSize_of_readHeader hheader, List.length_drop]
      omega

/-- The next dispatch starts from what is waited for. -/
theorem Idle.announced {rxbuf : StdString} {rxbufWanted : Nat} (h : Idle rxbuf rxbufWanted)
    (bytes : StdString) : Announced (rxbuf ++ bytes) rxbufWanted := by
  cases h with
  | stuck hnext hwanted => exact .inl hwanted
  | waits hnext hwanted =>
      cases hheader : readHeader rxbuf with
      | none =>
          rw [frontSize, hheader] at hwanted
          exact .inl hwanted
      | some ws =>
          obtain ⟨hrsv, hlong, -⟩ := header_of_wait hnext hheader
          rw [frontSize_of_readHeader hheader] at hwanted
          exact .inr ⟨ws, readHeader_append hheader bytes, hwanted, hrsv, hlong⟩

theorem bounded_nil : ([] : StdString).length < kChunkSize + max kChunkSize (frontSize []) := by
  simp only [List.length_nil, kChunkSize]
  omega

/-- A read goes at most one `_readbuf` past the limit. -/
theorem bounded_reads {t : Transport} (hidle : Idle t.rxbuf t.rxbufWanted) {bytes : StdString}
    (hbounded : t.rxbuf.length < kChunkSize + max kChunkSize (frontSize t.rxbuf))
    (hlimit : bytes = [] ∨ (t.rxbuf ++ bytes).length < t.limit + kChunkSize) :
    (t.rxbuf ++ bytes).length < kChunkSize + max kChunkSize (frontSize (t.rxbuf ++ bytes)) := by
  rcases hlimit with rfl | hlimit
  · rw [List.append_nil]
    exact hbounded
  · unfold Transport.limit at hlimit
    rcases hidle.announced bytes with hwanted | ⟨ws, hheader, hwanted, -⟩
    · rw [if_pos hwanted] at hlimit
      omega
    · rw [frontSize_of_readHeader hheader]
      split at hlimit <;> omega

/-- While the loop waits for a frame it reads. -/
theorem Idle.below {t : Transport} (h : Idle t.rxbuf t.rxbufWanted)
    (hnext : nextFrame t.rxbuf = .wait) : t.rxbuf.length < t.limit := by
  cases h with
  | stuck hstuck _ =>
      rw [hnext] at hstuck
      cases hstuck
  | waits _ hwanted =>
      unfold Transport.limit
      cases hheader : readHeader t.rxbuf with
      | none =>
          have hshort := length_of_readHeader_none hheader
          rw [frontSize, hheader] at hwanted
          rw [if_pos hwanted, kChunkSize]
          omega
      | some ws =>
          obtain ⟨-, -, hshort⟩ := header_of_wait hnext hheader
          have hsize := headerSize_of_readHeader hheader
          rw [frontSize_of_readHeader hheader] at hwanted
          rw [hwanted, if_neg (by omega)]
          exact hshort

/-- The other thread leaves the buffer alone. -/
theorem Buffered.undisturbed {c : Connection} (h : Buffered c) {e : Endpoint}
    (hsame : Endpoint.Undisturbed c.toEndpoint e) (closer : Closer) :
    Buffered { c with toEndpoint := e, closer } := by
  obtain ⟨hbounded, hready⟩ := h
  have hdrained (h : Drained c.toTransport) : Drained { c.toTransport with toEndpoint := e } :=
    ⟨h.rxbuf, hsame.socket h.socket⟩
  refine ⟨hbounded, ?_⟩
  unfold Ready at hready ⊢
  simp only
  cases hphase : c.phase with
  | loop | polling =>
      rw [hphase] at hready
      exact hready.imp_right hdrained
  | dispatching pollResult =>
      rw [hphase] at hready
      exact ⟨fun hfailed => hsame.socket (hready.1 hfailed), hready.2.imp_right hdrained⟩
  | returned => trivial

/-- **A step keeps to the bound.** -/
theorem buffered_step {c c' : Connection} {a : Action} (h : Buffered c)
    (hstep : (system env).step c a = some c') : Buffered c' := by
  have hempty := bounded_nil
  have hother := h
  obtain ⟨hbounded, hready⟩ := h
  cases moves_of_step env hstep with
  | leave hphase hclosed => exact ⟨hbounded, trivial⟩
  | enter hphase hclosed =>
      rw [Ready, hphase] at hready
      exact ⟨hbounded, hready.imp_right fun h => ⟨h.rxbuf, h.socket⟩⟩
  | @poll polled exceeded hphase hsocket pollResult c' hpoll =>
      rw [Ready, hphase] at hready
      cases polls_of_poll hsocket hpoll with
      | @reads _ bytes rest socketOpen hincoming hsocket' hresult hread =>
          rcases hready with hidle | hdrained
          · have hlimit := hread.imp_right And.right
            exact ⟨bounded_reads hidle hbounded hlimit, hresult, .inl (hidle.announced bytes)⟩
          · have hnone : bytes = [] := hread.resolve_right fun h => by
              rw [hdrained.socket] at h
              cases h.1
            have hrxbuf : c.rxbuf ++ bytes = [] := by rw [hnone, hdrained.rxbuf, List.append_nil]
            refine ⟨?_, hresult, .inr ⟨hrxbuf, hsocket' hdrained.socket⟩⟩
            simp only [hrxbuf]
            exact hempty
      | flushFails =>
          have hsocket' : (c.closeSocket.setReadyState .closed).socketOpen = false :=
            (Endpoint.undisturbed_setReadyState .closed c.closeSocket).socket rfl
          refine ⟨hbounded, fun _ => hsocket', ?_⟩
          rcases hready with hidle | hdrained
          · have hannounced := hidle.announced []
            rw [List.append_nil] at hannounced
            exact .inl hannounced
          · exact .inr ⟨hdrained.rxbuf, hsocket'⟩
      | delayExceeded hclosing =>
          have hsocket' : (c.closeSocket.setReadyState .closed).socketOpen = false :=
            (Endpoint.undisturbed_setReadyState .closed c.closeSocket).socket rfl
          exact ⟨hempty, fun _ => hsocket', .inr ⟨rfl, hsocket'⟩⟩
  | @frame pollResult hphase f rest hnext =>
      have hlength := length_of_item hnext
      have hrest : rest.length < kChunkSize + max kChunkSize (frontSize rest) := by omega
      refine ⟨hrest, ?_⟩
      rw [Ready, hphase] at hready ⊢
      exact ⟨fun hfailed => (Endpoint.keeps_handleFrame env f _).socket (hready.1 hfailed),
        .inl (.inl rfl)⟩
  | @noHeader pollResult hphase hnext hheader =>
      rw [Ready, hphase] at hready
      obtain ⟨hsocket, hready⟩ := hready
      by_cases hsucceeded : pollResult ≠ .succeeded
      · rw [if_pos hsucceeded]
        obtain ⟨hsame, hrxbuf, -⟩ := Transport.closeAbnormally_spec c.toTransport
        refine ⟨?_, .inr ⟨hrxbuf, hsame.socket (hsocket hsucceeded)⟩⟩
        rw [hrxbuf]
        exact hempty
      · rw [if_neg hsucceeded]
        refine ⟨hbounded, ?_⟩
        rcases hready with (hwanted | ⟨ws, hsome, -⟩) | hdrained
        · refine .inl (.waits hnext ?_)
          rw [frontSize, hheader]
          exact hwanted
        · rw [hheader] at hsome
          cases hsome
        · exact .inr ⟨hdrained.rxbuf, hdrained.socket⟩
  | noFrame hphase hnext hheader hshort =>
      exact ⟨hbounded, .inl (.waits hnext (frontSize_of_readHeader hheader).symm)⟩
  | @stuck pollResult hphase v hnext rxbuf rxbufWanted hnext' hlength hheader hwanted =>
      rw [Ready, hphase] at hready
      have hsize : frontSize rxbuf = frontSize c.rxbuf := by rw [frontSize, frontSize, hheader]
      have hrxbuf : rxbuf.length < kChunkSize + max kChunkSize (frontSize rxbuf) := by
        rw [hlength, hsize]
        exact hbounded
      refine ⟨hrxbuf, .inl (.stuck hnext' ?_)⟩
      rcases hwanted with hwanted | ⟨hsame, hv⟩
      · exact hwanted
      · rcases hready.2 with (hnone | ⟨ws, hsome, -, hrsv, hlong⟩) | hdrained
        · exact hsame.trans hnone
        · obtain ⟨hv1, hv2⟩ := not_stuck_of_header hsome hrsv hlong hnext
          exact absurd hv (by simp [hv1, hv2])
        · rw [hdrained.rxbuf] at hnext
          cases hnext
  | lookClosed hidle hclosed => exact hother
  | look hidle hclosed => exact hother.undisturbed (.refl _) _
  | set hsetting => exact hother.undisturbed (Endpoint.undisturbed_setClosing _ _ _) _
  | send hsending => exact hother.undisturbed (Endpoint.undisturbed_sendCloseFrame env _ _ _) _

/-! ### Messages -/

/-- Of the messages `total` some are received and the others to come; or some are received, Close
has been delivered since there were `told` calls, and there are no others to come. -/
inductive Serves (total : List Message) (told : Nat) (c : Connection) : Prop
  | going {left : List Message} {sent : List SentFrame} (hproper : ∀ s ∈ sent, s.frame.Proper)
      (hpending : Endpoint.Pending c.toEndpoint left (sent.map SentFrame.frame))
      (hbytes : c.rxbuf ++ c.incoming = sent.flatMap SentFrame.bytes)
      (htotal : c.received ++ left.filter Message.deliverable = total)
  | ended (hdrained : Drained c.toTransport) (htold : told < c.closings)
      (hbefore : c.received <+: total)

theorem Serves.start {total : List Message} {told : Nat} {c : Connection}
    (h : Serves total told c) : c.received <+: total := by
  cases h with
  | going _ _ _ htotal => exact ⟨_, htotal⟩
  | ended _ _ hbefore => exact hbefore

/-- The frame at the front of what was sent. -/
theorem nextFrame_sent {s : SentFrame} {sent : List SentFrame} (hproper : s.frame.Proper) :
    nextFrame ((s :: sent).flatMap SentFrame.bytes)
      = .item s.frame (sent.flatMap SentFrame.bytes) := by
  rw [List.flatMap_cons]
  exact nextFrame_encodeFrame s.useMask s.key hproper _

/-- What is at the front of the buffer is at the front of what was sent. -/
theorem sent_of_next {c : Connection} {sent : List SentFrame}
    (hproper : ∀ s ∈ sent, s.frame.Proper)
    (hbytes : c.rxbuf ++ c.incoming = sent.flatMap SentFrame.bytes)
    (hnext : nextFrame c.rxbuf ≠ .wait) :
    ∃ s sent', sent = s :: sent' ∧ ∃ rest, nextFrame c.rxbuf = .item s.frame rest ∧
      rest ++ c.incoming = sent'.flatMap SentFrame.bytes := by
  have hmore := nextFrame_append hnext c.incoming
  rw [hbytes] at hmore
  cases sent with
  | nil =>
      cases hfront : nextFrame c.rxbuf with
      | wait => exact absurd hfront hnext
      | item f rest =>
          rw [hfront] at hmore
          cases hmore
      | stuck v =>
          rw [hfront] at hmore
          cases hmore
  | cons s sent' =>
      rw [nextFrame_sent (hproper s List.mem_cons_self)] at hmore
      cases hfront : nextFrame c.rxbuf with
      | wait => exact absurd hfront hnext
      | item f rest =>
          rw [hfront, Verdict.item.injEq] at hmore
          obtain ⟨rfl, hrest⟩ := hmore
          exact ⟨s, sent', rfl, rest, rfl, hrest.symm⟩
      | stuck v =>
          rw [hfront] at hmore
          cases hmore

/-- What passes by leaves the connection serving. -/
theorem Serves.undisturbed {total : List Message} {told : Nat} {c c' : Connection}
    (h : Serves total told c) (hsame : Endpoint.Undisturbed c.toEndpoint c'.toEndpoint)
    (hbytes' : c'.rxbuf ++ c'.incoming = c.rxbuf ++ c.incoming)
    (hdrained' : Drained c.toTransport → c'.rxbuf = []) : Serves total told c' := by
  cases h with
  | going hproper hpending hbytes htotal =>
      refine .going hproper (hpending.undisturbed hsame) (hbytes'.trans hbytes) ?_
      rw [hsame.received]
      exact htotal
  | ended hdrained htold hbefore =>
      refine .ended ⟨hdrained' hdrained, hsame.socket hdrained.socket⟩
        (Nat.lt_of_lt_of_le htold hsame.closings) ?_
      rw [hsame.received]
      exact hbefore

/-- A connection that serves, at any moment: inside the loop it is not CLOSED unless Close has
been delivered. -/
structure Serving (total : List Message) (told : Nat) (c : Connection) : Prop where
  buffered : Buffered c
  serves : Serves total told c
  closings : told ≤ c.closings
  told : c.phase.inside = true → c.readyState = .closed → told < c.closings

/-- Any step keeps to the account of Close. -/
theorem keeps_of_moves {c c' : Connection} {a : Action} (h : Moves env c a c') :
    Endpoint.Keeps c.toEndpoint c'.toEndpoint := by
  cases h with
  | leave | enter | noFrame | lookClosed | look => exact (Endpoint.Undisturbed.refl _).toKeeps
  | poll hphase hsocket hpoll =>
      cases polls_of_poll hsocket hpoll with
      | reads _ hsocket' => exact .of_same hsocket' rfl rfl
      | flushFails | delayExceeded =>
          exact ((Endpoint.undisturbed_closeSocket _).trans
            (Endpoint.undisturbed_setReadyState .closed _)).toKeeps
  | frame => exact Endpoint.keeps_handleFrame env _ _
  | @noHeader pollResult hphase hnext hheader =>
      by_cases hsucceeded : pollResult ≠ .succeeded
      · simp only [if_pos hsucceeded]
        exact (Transport.closeAbnormally_spec c.toTransport).1.toKeeps
      · simp only [if_neg hsucceeded]
        exact (Endpoint.Undisturbed.refl _).toKeeps
  | stuck => exact Endpoint.keeps_violate env _ _
  | set => exact (Endpoint.undisturbed_setClosing _ _ _).toKeeps
  | send => exact (Endpoint.undisturbed_sendCloseFrame env _ _ _).toKeeps

/-- The loop is entered only past its test. -/
theorem inside_of_moves {c c' : Connection} {a : Action} (h : Moves env c a c')
    (hinside : c'.phase.inside = true) : c.phase.inside = true ∨ c'.readyState ≠ .closed := by
  cases h with
  | leave | noHeader | noFrame | stuck => cases hinside
  | enter hphase hclosed => exact .inr hclosed
  | poll hphase =>
      left
      rw [hphase]
      rfl
  | frame | lookClosed | look | set | send => exact .inl hinside

/-- A step, for the messages alone. -/
theorem serves_step {total : List Message} {told : Nat} {c c' : Connection} {a : Action}
    (h : Serving total told c) (hstep : (system env).step c a = some c') :
    Serves total told c' := by
  have hserves := h.serves
  cases moves_of_step env hstep with
  | leave | enter | noFrame | look => exact hserves.undisturbed (.refl _) rfl fun hd => hd.rxbuf
  | lookClosed => exact hserves
  | @poll polled exceeded hphase hsocket pollResult c' hpoll =>
      cases polls_of_poll hsocket hpoll with
      | @reads _ bytes rest socketOpen hincoming hsocket hresult hread =>
          refine hserves.undisturbed ⟨.of_same hsocket rfl rfl, rfl, rfl, rfl⟩ ?_ fun hd => ?_
          · show c.rxbuf ++ bytes ++ rest = c.rxbuf ++ c.incoming
            rw [hincoming, List.append_assoc]
          · have hnone : bytes = [] := hread.resolve_right fun h => by
              rw [hd.socket] at h
              cases h.1
            rw [hnone, hd.rxbuf, List.append_nil]
      | flushFails =>
          exact hserves.undisturbed ((Endpoint.undisturbed_closeSocket _).trans
            (Endpoint.undisturbed_setReadyState .closed _)) rfl fun hd => hd.rxbuf
      | delayExceeded hclosing =>
          have hsame := (Endpoint.undisturbed_closeSocket c.toEndpoint).trans
            (Endpoint.undisturbed_setReadyState .closed _)
          have hless := (hsame.told (Endpoint.readyState_setReadyState .closed _)).resolve_left
            (by rw [hclosing]; simp)
          refine .ended ⟨rfl, ?_⟩ (Nat.lt_of_le_of_lt h.closings hless) ?_
          · exact (Endpoint.undisturbed_setReadyState .closed c.closeSocket).socket rfl
          · exact hsame.received ▸ hserves.start
  | @frame pollResult hphase f rest hnext =>
      cases hserves with
      | going hproper hpending hbytes htotal =>
          obtain ⟨s, sent', rfl, rest', hfront, hbytes'⟩ :=
            sent_of_next hproper hbytes (by rw [hnext]; simp)
          rw [hnext] at hfront
          cases hfront
          obtain ⟨done, left, rfl, hleft, hreceived⟩ := Endpoint.pending_handleFrame env hpending
          refine .going (fun s hs => hproper s (List.mem_cons_of_mem _ hs)) hleft hbytes' ?_
          rw [← htotal, List.filter_append, ← List.append_assoc]
          exact congrArg (· ++ left.filter Message.deliverable) hreceived
      | ended hdrained htold hbefore =>
          rw [hdrained.rxbuf] at hnext
          cases hnext
  | @noHeader pollResult hphase hnext hheader =>
      by_cases hsucceeded : pollResult ≠ .succeeded
      · rw [if_pos hsucceeded]
        obtain ⟨hsame, hrxbuf, hclosed, -⟩ := Transport.closeAbnormally_spec c.toTransport
        have hready := h.buffered.ready
        rw [Ready, hphase] at hready
        have hinside : c.phase.inside = true := by rw [hphase]; rfl
        -- a transport that is CLOSED already has told so
        have htold : told < c.toTransport.closeAbnormally.closings := by
          rcases hsame.told hclosed with hclosed' | hless
          · exact Nat.lt_of_lt_of_le (h.told hinside hclosed') hsame.closings
          · exact Nat.lt_of_le_of_lt h.closings hless
        refine .ended ⟨hrxbuf, hsame.socket (hready.1 hsucceeded)⟩ htold ?_
        exact hsame.received ▸ hserves.start
      · rw [if_neg hsucceeded]
        exact hserves.undisturbed (.refl _) rfl fun hd => hd.rxbuf
  | stuck hphase hnext hnext' hlength hheader hwanted =>
      -- no violation is sent
      cases hserves with
      | going hproper hpending hbytes htotal =>
          obtain ⟨s, sent', -, rest, hfront, -⟩ :=
            sent_of_next hproper hbytes (by rw [hnext]; simp)
          rw [hnext] at hfront
          cases hfront
      | ended hdrained htold hbefore =>
          rw [hdrained.rxbuf] at hnext
          cases hnext
  | set hsetting =>
      exact hserves.undisturbed (Endpoint.undisturbed_setClosing _ _ _) rfl fun hd => hd.rxbuf
  | send hsending =>
      exact hserves.undisturbed (Endpoint.undisturbed_sendCloseFrame env _ _ _) rfl
        fun hd => hd.rxbuf

/-- **A step serves.** -/
theorem serving_step {total : List Message} {told : Nat} {c c' : Connection} {a : Action}
    (h : Serving total told c) (hstep : (system env).step c a = some c') :
    Serving total told c' := by
  have hmoves := moves_of_step env hstep
  have hkeeps := keeps_of_moves env hmoves
  have hbefore := h.closings
  have hmore := hkeeps.closings
  refine ⟨buffered_step env h.buffered hstep, serves_step env h hstep,
    Nat.le_trans hbefore hmore, fun hinside hclosed => ?_⟩
  rcases inside_of_moves env hmoves hinside with hinside' | hopen
  · rcases hkeeps.told hclosed with hclosed' | hless
    · exact Nat.lt_of_lt_of_le (h.told hinside' hclosed') hmore
    · exact Nat.lt_of_le_of_lt hbefore hless
  · exact absurd hclosed hopen

/-! ### Runs -/

/-- A connection that has just been made. -/
structure Fresh (c : Connection) : Prop where
  rxbuf : c.rxbuf = []
  rxbufWanted : c.rxbufWanted = 0
  chunks : c.chunks = []
  phase : c.phase = .loop

theorem Fresh.buffered {c : Connection} (h : Fresh c) : Buffered c := by
  constructor
  · rw [h.rxbuf]
    exact bounded_nil
  · rw [Ready, h.phase, h.rxbuf, h.rxbufWanted]
    exact .inl (.waits rfl rfl)

theorem buffered_of_reach {c₀ c : Connection} (hfresh : Fresh c₀)
    (h : (system env).Reach c₀ c) : Buffered c :=
  h.invariant hfresh.buffered fun _ _ _ hs hstep => buffered_step env hs hstep

/--
**The receive buffer stays small, and the loop does not wait in vain.**  In every state of every
run, whatever the server sends, the buffer holds less than 32 KiB beyond the frame at its front,
or less than 64 KiB when that frame is short; and whenever the loop polls while a frame is still
incomplete, it has room to read on.
-/
theorem rxbuf_bounded {c₀ c : Connection} (hfresh : Fresh c₀) (h : (system env).Reach c₀ c) :
    c.rxbuf.length < kChunkSize + max kChunkSize (frontSize c.rxbuf) ∧
      (c.phase = .polling → (∃ v, nextFrame c.rxbuf = .stuck v) ∨
        c.rxbuf.length < c.limit) := by
  obtain ⟨hbounded, hready⟩ := buffered_of_reach env hfresh h
  refine ⟨hbounded, fun hphase => ?_⟩
  rw [Ready, hphase] at hready
  rcases hready with hidle | hdrained
  · cases hidle with
    | stuck hnext hwanted => exact .inl ⟨_, hnext⟩
    | waits hnext hwanted => exact .inr (Idle.below (.waits hnext hwanted) hnext)
  · right
    rw [hdrained.rxbuf, Transport.limit, kChunkSize, List.length_nil]
    split <;> omega

/-- Three bytes of a frame of seven, and two more. -/
theorem rxbuf_bounded_partFrame : ∃ c, (system Transport.client).run
      { fragmentedMessageKind := .msgBinary, incoming := [0x81, 0x05, 0x68, 0x65, 0x6c] }
      [.proceed, .poll (.readyForRead [3] false) false, .round, .proceed,
        .poll (.readyForRead [1, 1] false) false] = some c ∧
    c.rxbuf = [0x81, 0x05, 0x68, 0x65, 0x6c] ∧
    c.rxbuf.length < kChunkSize + max kChunkSize (frontSize c.rxbuf) := by
  obtain ⟨c, hrun, hrxbuf⟩ : ∃ c, (system Transport.client).run
      { fragmentedMessageKind := .msgBinary, incoming := [0x81, 0x05, 0x68, 0x65, 0x6c] }
      [.proceed, .poll (.readyForRead [3] false) false, .round, .proceed,
        .poll (.readyForRead [1, 1] false) false] = some c ∧
    c.rxbuf = [0x81, 0x05, 0x68, 0x65, 0x6c] := Option.map_eq_some_iff.mp (by decide +kernel)
  have hbounded := rxbuf_bounded Transport.client ⟨rfl, rfl, rfl, rfl⟩
    (Transition.System.reach_of_run hrun)
  exact ⟨c, hrun, hrxbuf, hbounded.1⟩

/-- With nothing left to be read, and nothing to be handled, nothing is to come. -/
theorem sent_nil {c : Connection} {sent : List SentFrame} (hproper : ∀ s ∈ sent, s.frame.Proper)
    (hbytes : c.rxbuf ++ c.incoming = sent.flatMap SentFrame.bytes) (hincoming : c.incoming = [])
    (hready : Idle c.rxbuf c.rxbufWanted ∨ Drained c.toTransport) : sent = [] := by
  have hwait : nextFrame c.rxbuf = .wait := by
    rcases hready with hidle | hdrained
    · cases hidle with
      | waits hnext hwanted => exact hnext
      | stuck hnext hwanted =>
          obtain ⟨s, sent', -, rest, hfront, -⟩ := sent_of_next hproper hbytes (by rw [hnext]; simp)
          rw [hnext] at hfront
          cases hfront
    · rw [hdrained.rxbuf]
      rfl
  rw [hincoming, List.append_nil] at hbytes
  cases sent with
  | nil => rfl
  | cons s sent' =>
      rw [hbytes, nextFrame_sent (hproper s List.mem_cons_self)] at hwait
      cases hwait

/-- A fresh connection to a server that sends the frames of some messages. -/
theorem Fresh.serving {c₀ : Connection} (hfresh : Fresh c₀) {ms : List Message}
    {sent : List SentFrame} (hstream : Stream ms (sent.map SentFrame.frame))
    (hproper : ∀ s ∈ sent, s.frame.Proper)
    (hincoming : c₀.incoming = sent.flatMap SentFrame.bytes) :
    Serving (c₀.received ++ ms.filter Message.deliverable) c₀.closings c₀ := by
  refine ⟨hfresh.buffered, .going hproper (.apart hfresh.chunks hstream) ?_ rfl, Nat.le_refl _, ?_⟩
  · rw [hfresh.rxbuf]
    exact hincoming
  · rw [hfresh.phase]
    rintro ⟨⟩

/-- A connection that polls with nothing more to be read, Close not having been delivered, has
received everything. -/
theorem Serving.complete {total : List Message} {told : Nat} {c : Connection}
    (h : Serving total told c) (hphase : c.phase = .polling) (hnone : c.incoming = [])
    (hclosings : c.closings = told) : c.received = total := by
  have hready := h.buffered.ready
  rw [Ready, hphase] at hready
  cases h.serves with
  | going hproper hpending hbytes htotal =>
      have hsent := sent_nil hproper hbytes hnone hready
      rw [hsent] at hpending
      rw [hpending.of_nil, List.filter_nil, List.append_nil] at htotal
      exact htotal
  | ended _ htold _ => omega

/-- What a connection serves, it goes on to serve. -/
theorem serving_of_reach {total : List Message} {told : Nat} {c₀ c : Connection}
    (hstart : Serving total told c₀) (h : (system env).Reach c₀ c) : Serving total told c :=
  h.invariant hstart fun _ _ _ hs hstep => serving_step env hs hstep

/--
**Over any run the messages arrive in order.**  Whatever the polls meet, how much each read
gives, and wherever the other thread is in its call of `close`: the messages the callback has
been called with are the first of those the server sent, text that is not UTF-8 left out; and
when the loop polls with nothing more to be read they are all of them, unless Close has been
delivered and the loop goes on only because a call of `close` stalled between its look and its set.
-/
theorem received_in_order {c₀ c : Connection} (hfresh : Fresh c₀) {ms : List Message}
    {sent : List SentFrame} (hstream : Stream ms (sent.map SentFrame.frame))
    (hproper : ∀ s ∈ sent, s.frame.Proper)
    (hincoming : c₀.incoming = sent.flatMap SentFrame.bytes) (h : (system env).Reach c₀ c) :
    c.received <+: c₀.received ++ ms.filter Message.deliverable ∧
      (c.phase = .polling → c.incoming = [] → c.closings = c₀.closings →
        c.received = c₀.received ++ ms.filter Message.deliverable) := by
  have hserving := serving_of_reach env (hfresh.serving hstream hproper hincoming) h
  exact ⟨hserving.serves.start, hserving.complete⟩

/-- A text message, read in two polls with a call of `close` around the second. -/
theorem received_in_order_closing : ∃ c, (system Transport.client).run
      { fragmentedMessageKind := .msgBinary, incoming := [0x81, 0x02, 0x68, 0x69] }
      [.proceed, .poll (.readyForRead [3] false) false, .round, .closeLook 1000 [],
        .closeSet, .proceed, .closeSend,
        .poll (.readyForRead [1] false) false, .round, .round, .proceed] = some c ∧
    c.received = [⟨false, [0x68, 0x69]⟩] := by
  have hstate : ((system Transport.client).run
      { fragmentedMessageKind := .msgBinary, incoming := [0x81, 0x02, 0x68, 0x69] }
      [.proceed, .poll (.readyForRead [3] false) false, .round, .closeLook 1000 [],
        .closeSet, .proceed, .closeSend,
        .poll (.readyForRead [1] false) false, .round, .round, .proceed]).map
      (fun c => (c.phase, c.incoming, c.closings)) = some (.polling, [], 0) := by decide +kernel
  obtain ⟨c, hrun, hstate⟩ := Option.map_eq_some_iff.mp hstate
  obtain ⟨hphase, hincoming, hclosings⟩ :
      c.phase = .polling ∧ c.incoming = [] ∧ c.closings = 0 := by simpa using hstate
  have hstream : Stream [⟨false, [0x68, 0x69]⟩]
      (List.map SentFrame.frame [⟨false, ⟨0, 0, 0, 0⟩, ⟨true, .textFrame, [0x68, 0x69]⟩⟩]) :=
    .message .whole .nil
  have hproper : ∀ s ∈ [(⟨false, ⟨0, 0, 0, 0⟩, ⟨true, .textFrame, [0x68, 0x69]⟩⟩ : SentFrame)],
      s.frame.Proper := by
    intro s hs
    rw [List.mem_singleton.mp hs]
    exact proper_of_data (.inl rfl) (by simp [maxFrameSize])
  have hall := received_in_order Transport.client ⟨rfl, rfl, rfl, rfl⟩ hstream hproper
    (by decide +kernel) (Transition.System.reach_of_run hrun)
  refine ⟨c, hrun, ?_⟩
  rw [hall.2 hphase hincoming hclosings]
  decide +kernel

end Connection

end AisLive.WebSocket
