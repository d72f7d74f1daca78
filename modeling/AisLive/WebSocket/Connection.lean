/-
The loop of `run()`.

One thread polls the socket, reads into the receive buffer and dispatches what is there, until
the connection is closed; another may ask for that at any moment.  The server's bytes that
nobody has read are part of the state, so that a run says which of them have been used.

`Connection.system` takes the loop step by step.  A poll is one step, what it meets being the
action, and a dispatch is one step for each round of its loop.  The other thread takes three steps
through `close`: it looks at the ready state, it sets it, without a lock that would hold the two
together, and it sends the close frame; each may come between any two steps of the loop.  `Moves`
says once what a step can do, and every invariant below is a case analysis on it.
-/
import AisLive.Lib.Transition
import AisLive.WebSocket.Messages

namespace AisLive.WebSocket

open Framing

/-- Where the thread is inside `run()`, once it is connected. -/
inductive Phase
  /-- At the top of the loop. -/
  | loop
  /-- About to poll. -/
  | polling
  /-- In the loop of `dispatch`. -/
  | dispatching (pollResult : PollResult)
  | returned
  deriving DecidableEq

/-- Where the other thread is. -/
inductive Closer
  | idle
  /-- In `close`, past the look at the ready state. -/
  | setting (code : Nat) (reason : StdString)
  /-- In `close`, past `setReadyState(CLOSING)`. -/
  | sending (code : Nat) (reason : StdString)
  deriving DecidableEq

/-- A connection: the transport, the server's bytes that are still to be read, and the threads. -/
structure Connection extends Transport where
  incoming : StdString
  phase : Phase := .loop
  closer : Closer := .idle

/-- How `flushSendBuffer` ends.  Without a send timeout and a ping interval it does not give
up. -/
inductive Flush
  | flushed
  | writeFails
  | socketError
  deriving DecidableEq

/-- What `isReadyToRead` returns, and what its caller meets then. -/
inductive Polled
  | timeout
  | sendRequest (flush : Flush)
  /-- The sizes of the reads, and whether the connection turns out broken after them. -/
  | readyForRead (sizes : List Nat) (broken : Bool)
  | error
  | closeRequest
  deriving DecidableEq

namespace Endpoint

/-- `flushSendBuffer`. -/
def flushSendBuffer (flush : Flush) (e : Endpoint) : Bool × Endpoint :=
  match flush with
  | .flushed => (true, e)
  | .writeFails =>
      (false, if e.readyState = .closing then e.closeSocket
        else e.closeSocket.setReadyState .closed)
  | .socketError => (false, e.closeSocket.setReadyState .closed)

end Endpoint

namespace Transport

/-- How full the receive buffer has to be for nothing more to be read. -/
def limit (t : Transport) : Nat := if t.rxbufWanted = 0 then kChunkSize else t.rxbufWanted

/-- The end of `poll`: `closingDelayExceeded()` is asked when the state is CLOSING. -/
def closingDelay (exceeded : Bool) (t : Transport) : Transport :=
  if t.readyState = .closing ∧ exceeded = true then
    { t.onEndpoint fun e => e.closeSocket.setReadyState .closed with rxbuf := [] }
  else t

end Transport

namespace Connection

/-- `recv`, when the socket gives this many bytes; it cannot give more than there are, or than
`_readbuf` holds. -/
def recv (size : Nat) (c : Connection) : Option (StdString × Connection) :=
  if 0 < size ∧ size ≤ kChunkSize ∧ size ≤ c.incoming.length then
    some (c.incoming.take size, { c with incoming := c.incoming.drop size })
  else none

/-- `receiveFromSocket`. -/
def receiveFromSocket (broken : Bool) : List Nat → Connection → Bool × Connection
  | [], c =>
      if (c.rxbufWanted = 0 ∧ kChunkSize ≤ c.rxbuf.length) ∨
          (0 < c.rxbufWanted ∧ c.rxbufWanted ≤ c.rxbuf.length) then (true, c)
      else if broken then (false, { c with toEndpoint := c.closeSocket })
      else (true, c)
  | size :: sizes, c =>
      if (c.rxbufWanted = 0 ∧ kChunkSize ≤ c.rxbuf.length) ∨
          (0 < c.rxbufWanted ∧ c.rxbufWanted ≤ c.rxbuf.length) then (true, c)
      else
        match c.recv size with
        | none => (true, c)
        | some (bytes, c) => receiveFromSocket broken sizes { c with rxbuf := c.rxbuf ++ bytes }

/-- `poll`, without a ping interval. -/
def poll (polled : Polled) (exceeded : Bool) (c : Connection) : PollResult × Connection :=
  match polled with
  | .sendRequest flush =>
      let result := c.toEndpoint.flushSendBuffer flush
      let c := { c with toEndpoint := result.2 }
      if result.1 then (.succeeded, { c with toTransport := c.toTransport.closingDelay exceeded })
      else (.cannotFlushSendBuffer, c)
  | .readyForRead sizes broken =>
      let result := receiveFromSocket broken sizes c
      if result.1 then
        (.succeeded, { result.2 with toTransport := result.2.toTransport.closingDelay exceeded })
      else (.abnormalClose, result.2)
  | .error | .closeRequest =>
      let c := { c with toEndpoint := c.closeSocket }
      (.succeeded, { c with toTransport := c.toTransport.closingDelay exceeded })
  | .timeout => (.succeeded, { c with toTransport := c.toTransport.closingDelay exceeded })

/-- What happens next. -/
inductive Action
  /-- The test at the top of the loop. -/
  | proceed
  | poll (polled : Polled) (exceeded : Bool)
  /-- A round of the loop of `dispatch`. -/
  | round
  /-- The other thread calls `close`, which looks at the ready state. -/
  | closeLook (code : Nat) (reason : StdString)
  /-- It sets the ready state, whatever that is by now. -/
  | closeSet
  /-- It sends the close frame. -/
  | closeSend
  deriving DecidableEq

/-- The other thread does something. -/
def Action.isClose : Action → Bool
  | .closeLook _ _ | .closeSet | .closeSend => true
  | .proceed | .poll _ _ | .round => false

variable (env : Environment)

/-- A step of `run()`, or of the thread that closes.  `isReadyToRead` knows a closed socket. -/
def step (c : Connection) : Action → Option Connection
  | .proceed =>
      if c.phase = .loop then
        some { c with phase := if c.readyState = .closed then .returned else .polling }
      else none
  | .poll polled exceeded =>
      if c.phase = .polling ∧ (c.socketOpen = true ∨ polled = .error) then
        some { (c.poll polled exceeded).2 with phase := .dispatching (c.poll polled exceeded).1 }
      else none
  | .round =>
      match c.phase with
      | .dispatching pollResult =>
          match c.toTransport.round env with
          | .leaveLoop t =>
              some { c with
                toTransport := if pollResult ≠ .succeeded then t.closeAbnormally else t
                phase := .loop }
          | .leaveDispatch t => some { c with toTransport := t, phase := .loop }
          | .again t => some { c with toTransport := t }
      | .loop | .polling | .returned => none
  | .closeLook code reason =>
      match c.closer with
      | .idle =>
          if c.readyState = .closing ∨ c.readyState = .closed then some c
          else some { c with closer := .setting code reason }
      | .setting _ _ | .sending _ _ => none
  | .closeSet =>
      match c.closer with
      | .setting code reason =>
          some { c with
            toEndpoint := c.toEndpoint.setClosing code reason
            closer := .sending code reason }
      | .idle | .sending _ _ => none
  | .closeSend =>
      match c.closer with
      | .sending code reason =>
          some { c with toEndpoint := c.toEndpoint.sendCloseFrame env code reason, closer := .idle }
      | .idle | .setting _ _ => none

/-- `run()`, and the thread that closes. -/
def system : Transition.System Connection Action where
  step c a := c.step env a

/-! ### What a step does -/

/-- The steps of a connection. -/
inductive Moves (c : Connection) : Action → Connection → Prop
  | leave (hphase : c.phase = .loop) (hclosed : c.readyState = .closed) :
      Moves c .proceed { c with phase := .returned }
  | enter (hphase : c.phase = .loop) (hclosed : c.readyState ≠ .closed) :
      Moves c .proceed { c with phase := .polling }
  | poll {polled : Polled} {exceeded : Bool} (hphase : c.phase = .polling)
      (hsocket : c.socketOpen = true ∨ polled = .error) {pollResult : PollResult}
      {c' : Connection} (hpoll : c.poll polled exceeded = (pollResult, c')) :
      Moves c (.poll polled exceeded) { c' with phase := .dispatching pollResult }
  /-- A frame is handled. -/
  | frame {pollResult : PollResult} (hphase : c.phase = .dispatching pollResult) {f : Frame}
      {rest : StdString} (hnext : nextFrame c.rxbuf = .item f rest) :
      Moves c .round { c with toTransport := ⟨c.toEndpoint.handleFrame env f, rest, 0⟩ }
  /-- The header is not complete. -/
  | noHeader {pollResult : PollResult} (hphase : c.phase = .dispatching pollResult)
      (hnext : nextFrame c.rxbuf = .wait) (hheader : readHeader c.rxbuf = none) :
      Moves c .round { c with
        toTransport := if pollResult ≠ .succeeded then c.toTransport.closeAbnormally
          else c.toTransport
        phase := .loop }
  /-- The frame is not complete. -/
  | noFrame {pollResult : PollResult} (hphase : c.phase = .dispatching pollResult)
      (hnext : nextFrame c.rxbuf = .wait) {ws : WsHeader}
      (hheader : readHeader c.rxbuf = some ws)
      (hshort : c.rxbuf.length < ws.headerSize + ws.n) :
      Moves c .round { c with rxbufWanted := ws.headerSize + ws.n, phase := .loop }
  /-- A violation. -/
  | stuck {pollResult : PollResult} (hphase : c.phase = .dispatching pollResult) {v : Violation}
      (hnext : nextFrame c.rxbuf = .stuck v) {rxbuf : StdString} {rxbufWanted : Nat}
      (hnext' : nextFrame rxbuf = .stuck v) (hlength : rxbuf.length = c.rxbuf.length)
      (hheader : readHeader rxbuf = readHeader c.rxbuf)
      (hwanted : rxbufWanted = 0 ∨
        rxbufWanted = c.rxbufWanted ∧ (v = .reservedBitUsed ∨ v = .tooLong)) :
      Moves c .round { c with
        toTransport := ⟨c.toEndpoint.violate env v, rxbuf, rxbufWanted⟩
        phase := .loop }
  /-- The transport is not open, and there is nothing to do. -/
  | lookClosed {code : Nat} {reason : StdString} (hidle : c.closer = .idle)
      (hclosed : c.readyState = .closing ∨ c.readyState = .closed) :
      Moves c (.closeLook code reason) c
  | look {code : Nat} {reason : StdString} (hidle : c.closer = .idle)
      (hclosed : ¬(c.readyState = .closing ∨ c.readyState = .closed)) :
      Moves c (.closeLook code reason) { c with closer := .setting code reason }
  | set {code : Nat} {reason : StdString} (hsetting : c.closer = .setting code reason) :
      Moves c .closeSet { c with
        toEndpoint := c.toEndpoint.setClosing code reason
        closer := .sending code reason }
  | send {code : Nat} {reason : StdString} (hsending : c.closer = .sending code reason) :
      Moves c .closeSend { c with
        toEndpoint := c.toEndpoint.sendCloseFrame env code reason
        closer := .idle }

/-- **Every step is one of these.** -/
theorem moves_of_step {c c' : Connection} {a : Action} (h : (system env).step c a = some c') :
    Moves env c a c' := by
  cases a with
  | proceed =>
      by_cases hphase : c.phase = .loop
      · by_cases hclosed : c.readyState = .closed
        · simp only [system, step, if_pos hphase, if_pos hclosed, Option.some.injEq] at h
          exact h ▸ .leave hphase hclosed
        · simp only [system, step, if_pos hphase, if_neg hclosed, Option.some.injEq] at h
          exact h ▸ .enter hphase hclosed
      · simp [system, step, hphase] at h
  | poll polled exceeded =>
      by_cases hready : c.phase = .polling ∧ (c.socketOpen = true ∨ polled = .error)
      · simp only [system, step, if_pos hready, Option.some.injEq] at h
        exact h ▸ .poll hready.1 hready.2 rfl
      · simp only [system, step, if_neg hready] at h
        cases h
  | round =>
      cases hphase : c.phase with
      | loop | polling | returned => simp [system, step, hphase] at h
      | dispatching pollResult =>
          simp only [system, step, hphase] at h
          cases hnext : nextFrame c.rxbuf with
          | item f rest =>
              rw [Transport.round_of_item env hnext, Option.some.injEq] at h
              exact h ▸ hphase ▸ .frame hphase hnext
          | wait =>
              rcases Transport.round_of_wait env hnext with
                ⟨hheader, hround⟩ | ⟨ws, hheader, hshort, hround⟩
              · rw [hround, Option.some.injEq] at h
                exact h ▸ .noHeader hphase hnext hheader
              · rw [hround, Option.some.injEq] at h
                exact h ▸ .noFrame hphase hnext hheader hshort
          | stuck v =>
              obtain ⟨rxbuf, rxbufWanted, hround, hnext', hlength, hheader, hwanted⟩ :=
                Transport.round_of_stuck env hnext
              rw [hround, Option.some.injEq] at h
              exact h ▸ .stuck hphase hnext hnext' hlength hheader hwanted
  | closeLook code reason =>
      cases hidle : c.closer with
      | idle =>
          simp only [system, step, hidle] at h
          by_cases hclosed : c.readyState = .closing ∨ c.readyState = .closed
          · rw [if_pos hclosed, Option.some.injEq] at h
            exact h ▸ .lookClosed hidle hclosed
          · rw [if_neg hclosed, Option.some.injEq] at h
            exact h ▸ .look hidle hclosed
      | setting | sending => simp [system, step, hidle] at h
  | closeSet =>
      cases hsetting : c.closer with
      | setting code reason =>
          simp only [system, step, hsetting, Option.some.injEq] at h
          exact h ▸ .set hsetting
      | idle | sending => simp [system, step, hsetting] at h
  | closeSend =>
      cases hsending : c.closer with
      | sending code reason =>
          simp only [system, step, hsending, Option.some.injEq] at h
          exact h ▸ .send hsending
      | idle | setting => simp [system, step, hsending] at h

/-! ### What a poll does -/

theorem limit_le_iff (t : Transport) :
    t.limit ≤ t.rxbuf.length ↔ (t.rxbufWanted = 0 ∧ kChunkSize ≤ t.rxbuf.length) ∨
      (0 < t.rxbufWanted ∧ t.rxbufWanted ≤ t.rxbuf.length) := by
  unfold Transport.limit
  split <;> omega

/-- Some bytes have gone from the network to the receive buffer, and the last read began below
the limit. -/
theorem receiveFromSocket_spec (broken : Bool) (sizes : List Nat) (c : Connection) :
    ∃ bytes rest socketOpen, (receiveFromSocket broken sizes c).2
        = { c with rxbuf := c.rxbuf ++ bytes, incoming := rest, socketOpen } ∧
      c.incoming = bytes ++ rest ∧ (c.socketOpen = false → socketOpen = false) ∧
      ((receiveFromSocket broken sizes c).1 = false → socketOpen = false) ∧
      (bytes = [] ∨ (c.rxbuf ++ bytes).length < c.limit + kChunkSize) := by
  have hnone (c : Connection) : ∃ bytes rest socketOpen, (true, c).2
        = { c with rxbuf := c.rxbuf ++ bytes, incoming := rest, socketOpen } ∧
      c.incoming = bytes ++ rest ∧ (c.socketOpen = false → socketOpen = false) ∧
      ((true, c).1 = false → socketOpen = false) ∧
      (bytes = [] ∨ (c.rxbuf ++ bytes).length < c.limit + kChunkSize) :=
    ⟨[], c.incoming, c.socketOpen, by simp, rfl, id, by simp, .inl rfl⟩
  induction sizes generalizing c with
  | nil =>
      unfold receiveFromSocket
      split
      · exact hnone c
      · split
        · exact ⟨[], c.incoming, false, by simp [Endpoint.closeSocket], rfl, fun _ => rfl,
            fun _ => rfl, .inl rfl⟩
        · exact hnone c
  | cons size sizes ih =>
      unfold receiveFromSocket
      split
      · exact hnone c
      · rename_i hbelow
        rw [← limit_le_iff] at hbelow
        by_cases hsize : 0 < size ∧ size ≤ kChunkSize ∧ size ≤ c.incoming.length
        · rw [recv, if_pos hsize]
          obtain ⟨bytes, rest, socketOpen, heq, hincoming, hsocket, hresult, hlimit⟩ := ih { c with
            rxbuf := c.rxbuf ++ c.incoming.take size, incoming := c.incoming.drop size }
          refine ⟨c.incoming.take size ++ bytes, rest, socketOpen, ?_, ?_, hsocket, hresult, .inr ?_⟩
          · rw [heq]
            simp only [List.append_assoc]
          · rw [List.append_assoc, ← hincoming, List.take_append_drop]
          · rcases hlimit with rfl | hlimit
            · simp only [List.append_nil, List.length_append, List.length_take]
              omega
            · rw [← List.append_assoc]
              exact hlimit
        · rw [recv, if_neg hsize]
          exact hnone c

/-- The states a poll can leave. -/
inductive Polls (c : Connection) : PollResult → Connection → Prop
  | reads {pollResult : PollResult} {bytes rest : StdString} {socketOpen : Bool}
      (hincoming : c.incoming = bytes ++ rest)
      (hsocket : c.socketOpen = false → socketOpen = false)
      (hresult : pollResult ≠ .succeeded → socketOpen = false)
      (hread : bytes = [] ∨
        c.socketOpen = true ∧ (c.rxbuf ++ bytes).length < c.limit + kChunkSize) :
      Polls c pollResult { c with rxbuf := c.rxbuf ++ bytes, incoming := rest, socketOpen }
  | flushFails :
      Polls c .cannotFlushSendBuffer { c with toEndpoint := c.closeSocket.setReadyState .closed }
  | delayExceeded (hclosing : c.readyState = .closing) {rest : StdString} :
      Polls c .succeeded { c with
        toTransport := ⟨c.closeSocket.setReadyState .closed, [], c.rxbufWanted⟩
        incoming := rest }

/-- A poll has nothing to do with the other thread. -/
theorem Polls.closer {c c' : Connection} {pollResult : PollResult} (h : c.Polls pollResult c') :
    c'.closer = c.closer := by
  cases h <;> rfl

/-- The closing delay, after a poll that has read. -/
theorem polls_closingDelay {c : Connection} {bytes rest : StdString} {socketOpen : Bool}
    (hincoming : c.incoming = bytes ++ rest)
    (hsocket : c.socketOpen = false → socketOpen = false)
    (hread : bytes = [] ∨
      c.socketOpen = true ∧ (c.rxbuf ++ bytes).length < c.limit + kChunkSize) (exceeded : Bool) :
    Polls c .succeeded { c with
      toTransport := { c.toTransport with
        rxbuf := c.rxbuf ++ bytes, socketOpen }.closingDelay exceeded
      incoming := rest } := by
  unfold Transport.closingDelay
  split
  · rename_i hgivesUp
    exact .delayExceeded hgivesUp.1
  · exact .reads hincoming hsocket (fun hfailed => absurd rfl hfailed) hread

/-- **Every poll is one of these.** -/
theorem polls_of_poll {polled : Polled} {exceeded : Bool} {c c' : Connection}
    {pollResult : PollResult} (hready : c.socketOpen = true ∨ polled = .error)
    (h : c.poll polled exceeded = (pollResult, c')) : Polls c pollResult c' := by
  -- nothing is read
  have hquiet {socketOpen : Bool} (hsocket : c.socketOpen = false → socketOpen = false) :
      Polls c .succeeded { c with
        toTransport := { c.toTransport with socketOpen }.closingDelay exceeded } := by
    have hnone : Polls c .succeeded { c with
        toTransport := { c.toTransport with
          rxbuf := c.rxbuf ++ [], socketOpen }.closingDelay exceeded } :=
      polls_closingDelay rfl hsocket (.inl rfl) exceeded
    simpa using hnone
  cases polled with
  | timeout =>
      cases h
      exact hquiet id
  | error =>
      cases h
      exact hquiet fun _ => rfl
  | closeRequest =>
      cases h
      exact hquiet fun _ => rfl
  | sendRequest flush =>
      cases flush with
      | flushed =>
          cases h
          exact hquiet id
      | socketError =>
          cases h
          exact .flushFails
      | writeFails =>
          by_cases hclosing : c.readyState = .closing
          · simp only [poll, Endpoint.flushSendBuffer, if_pos hclosing, Bool.false_eq_true,
              if_false] at h
            cases h
            have hnone : Polls c .cannotFlushSendBuffer { c with
                rxbuf := c.rxbuf ++ [], socketOpen := false } :=
              .reads rfl (fun _ => rfl) (fun _ => rfl) (.inl rfl)
            rwa [List.append_nil] at hnone
          · simp only [poll, Endpoint.flushSendBuffer, if_neg hclosing, Bool.false_eq_true,
              if_false] at h
            cases h
            exact .flushFails
  | readyForRead sizes broken =>
      obtain ⟨bytes, rest, socketOpen, heq, hincoming, hsocket, hresult, hlimit⟩ :=
        receiveFromSocket_spec broken sizes c
      have hopen : c.socketOpen = true := hready.resolve_right (by simp)
      have hread := hlimit.imp_right (And.intro hopen)
      simp only [poll, heq] at h
      split at h
      · cases h
        exact polls_closingDelay hincoming hsocket hread exceeded
      · rename_i hfailed
        cases h
        exact .reads hincoming hsocket (fun _ => hresult (by simpa using hfailed)) hread

/-! ### The rounds of a dispatch -/

/-- What a connection is after its dispatch. -/
def dispatched (pollResult : PollResult) (c : Connection) : Connection :=
  { c with toTransport := c.toTransport.dispatch env pollResult, phase := .loop }

/-- The rounds of a loop bounded by `n`. -/
theorem run_loop {pollResult : PollResult} {n : Nat} {c : Connection}
    (hphase : c.phase = .dispatching pollResult) (hlength : c.rxbuf.length ≤ n) :
    ∃ rounds, (system env).run c (List.replicate rounds .round) = some { c with
      toTransport :=
        if (Transport.loop env n c.toTransport).1 = true ∧ pollResult ≠ .succeeded then
          (Transport.loop env n c.toTransport).2.closeAbnormally
        else (Transport.loop env n c.toTransport).2
      phase := .loop } := by
  induction n generalizing c with
  | zero =>
      have hnil : c.rxbuf = [] := List.length_eq_zero_iff.mp (by omega)
      have hround : c.toTransport.round env = .leaveLoop c.toTransport := by
        unfold Transport.round
        rw [hnil]
        rfl
      refine ⟨1, ?_⟩
      simp [Transition.System.run, system, step, hphase, hround, Transport.loop]
  | succ n ih =>
      cases hround : c.toTransport.round env with
      | leaveLoop t =>
          refine ⟨1, ?_⟩
          simp [Transition.System.run, system, step, hphase, hround, Transport.loop]
      | leaveDispatch t =>
          refine ⟨1, ?_⟩
          simp [Transition.System.run, system, step, hphase, hround, Transport.loop]
      | again t =>
          have hshorter : t.rxbuf.length ≤ n := by
            cases hnext : nextFrame c.rxbuf with
            | item f rest =>
                rw [Transport.round_of_item env hnext] at hround
                have hrest := nextFrame_shrinks hnext
                cases hround
                simp only
                omega
            | wait =>
                rcases Transport.round_of_wait env hnext with ⟨-, h⟩ | ⟨ws, -, -, h⟩ <;>
                  rw [h] at hround <;> cases hround
            | stuck v =>
                obtain ⟨rxbuf, rxbufWanted, h, -⟩ := Transport.round_of_stuck env hnext
                rw [h] at hround
                cases hround
          obtain ⟨rounds, hrun⟩ := ih (c := { c with toTransport := t }) hphase hshorter
          have hstep : (system env).step c .round = some { c with toTransport := t } := by
            simp [system, step, hphase, hround]
          refine ⟨rounds + 1, ?_⟩
          rw [List.replicate_succ, Transition.System.run_cons, hstep, Option.bind_some, hrun,
            Transport.loop, hround]

/-- **The rounds make up the dispatch.** -/
theorem run_rounds {pollResult : PollResult} {c : Connection}
    (hphase : c.phase = .dispatching pollResult) :
    ∃ rounds, (system env).run c (List.replicate rounds .round)
      = some (c.dispatched env pollResult) := by
  obtain ⟨rounds, hrun⟩ := run_loop env hphase (Nat.le_refl _)
  exact ⟨rounds, hrun⟩

end Connection

end AisLive.WebSocket
