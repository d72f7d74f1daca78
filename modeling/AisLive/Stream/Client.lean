/-
The client as two threads.

One thread, the GUI's, calls `Start`, `Stop`, `Restart` and the token setters; each
call runs through its statements one at a time.  Every successful `Start` spawns a
supervisor thread, which runs `SupervisorFunc`.  The threads share `m_streaming`,
`m_socket` with its mutex, `m_onSentence`, and whatever `close()` touches of the
socket of a session under way.

An atomic step is one read or write of `m_streaming`, one section of
`m_socketMutex`, one stage of `run()`, or one report.  The section `Stop()` takes is
not atomic: `close()` raises the cancellation request, then reads the ready state,
then acts on it, and the supervisor may take steps of `run()` in between, though no
section of its own.  On a socket that is not OPEN, `close()` also has to take the
transport's mutex, which `connectToUrl` holds from beginning to end.

All supervisors ever spawned stay in the list, finished or not, and each can take its
own steps: that at most one is alive is something to prove, not something the state
says.
-/
import AisLive.Lib.Transition
import AisLive.Stream.Session
import AisLive.Stream.Subscribe

namespace AisLive

open Json Transition

/-- The wait after the first failure, in seconds. -/
def kInitialBackoffSeconds : Nat := 2

/-- The longest wait, in seconds. -/
def kMaxBackoffSeconds : Nat := 30

/-- Where a supervisor is in `SupervisorFunc`. -/
inductive SupervisorPc
  /-- `while (m_streaming.load())`. -/
  | test
  /-- `SetState(State::Connecting)`, and the construction of the session's socket. -/
  | announce
  /-- The locked recheck and publication of the socket. -/
  | publish
  /-- `raw->run()`. -/
  | run
  /-- The locked move out of `m_socket`. -/
  | teardown
  /-- `if (!m_streaming.load()) break`. -/
  | recheck
  /-- In `SleepWhileStreaming`, with this many chunks of 100 ms left. -/
  | sleep (chunks : Nat)
  /-- `backoffSeconds = std::min(backoffSeconds * 2, kMaxBackoffSeconds)`. -/
  | advance
  /-- `SetState(State::Stopped)`. -/
  | stop
  | exited
  deriving DecidableEq, Repr

/-- A supervisor thread. -/
structure Supervisor (D : Type) where
  /-- What `Start` was called with; `subscribeMsg` is built from it. -/
  args : StreamArgs D
  subscribeMsg : SubscribeMessage D
  authToken : StdString
  pc : SupervisorPc := .test
  backoffSeconds : Nat := kInitialBackoffSeconds
  /-- The session under way, or the last one. -/
  session : Session := {}
  /-- The payloads received so far over all sessions, in order; not part of the code's
  state. -/
  received : List StdString := []

/-- Where the calling thread is. -/
inductive Caller (D : Type)
  /-- Outside the client. -/
  | idle
  /-- `Start`: the test of `m_streaming`. -/
  | startTest (args : StreamArgs D)
  /-- `Start`: the test of the token mode. -/
  | startToken (args : StreamArgs D)
  /-- `Start`: reaping a previous supervisor. -/
  | startReap (args : StreamArgs D) (authToken : StdString)
  /-- `Start`: `m_onSentence = std::move(onSentence)`. -/
  | startCallback (args : StreamArgs D) (authToken : StdString)
  /-- `Start`: `m_streaming = true`. -/
  | startFlag (args : StreamArgs D) (authToken : StdString)
  /-- `Start`: `m_thread = std::thread(...)`. -/
  | startSpawn (args : StreamArgs D) (authToken : StdString)
  /-- `Stop`: `m_streaming = false`.  `next` is what `Restart` starts afterwards. -/
  | stopFlag (next : Option (StreamArgs D))
  /-- `Stop`: taking `m_socketMutex` and looking for a socket. -/
  | stopLook (next : Option (StreamArgs D))
  /-- `close()` on the socket of supervisor `i`: raising the cancellation request. -/
  | closeRaise (next : Option (StreamArgs D)) (i : Nat)
  /-- `close()`: reading the ready state. -/
  | closeLook (next : Option (StreamArgs D)) (i : Nat)
  /-- `close()` on a socket that is not OPEN: waiting for the transport's mutex. -/
  | closeWake (next : Option (StreamArgs D)) (i : Nat)
  /-- `close()` on an OPEN socket: `setReadyState(CLOSING)`. -/
  | closeSet (next : Option (StreamArgs D)) (i : Nat)
  /-- `Stop`: `m_thread.join()`.  `found` is the socket the section found, and `mark` how
  many events had been observed when it ended; neither is part of the code's state. -/
  | stopJoin (next : Option (StreamArgs D)) (found : Option Nat) (mark : Nat)
  /-- `Restart`: the test of `m_streaming`. -/
  | restartTest (args : StreamArgs D)

namespace Caller

variable {D : Type}

/-- The calling thread is inside its section of `m_socketMutex`. -/
def holdsSocketMutex : Caller D → Bool
  | closeRaise _ _ => true
  | closeLook _ _ => true
  | closeWake _ _ => true
  | closeSet _ _ => true
  | _ => false

/-- `Stop` has cleared `m_streaming` and not yet returned. -/
def stopping : Caller D → Bool
  | stopLook _ => true
  | stopJoin _ _ _ => true
  | c => c.holdsSocketMutex

/-- `Start` has set `m_streaming` and not yet spawned the thread. -/
def spawning : Caller D → Bool
  | startSpawn _ _ => true
  | _ => false

end Caller

/-- An observed event and the supervisor it came from, none for the calling thread. -/
abbrev Observed := Option Nat × Event

/-- The client and its threads. -/
structure Client (D : Type) where
  /-- `m_streaming`. -/
  streaming : Bool := false
  /-- `m_useToken`. -/
  useToken : Bool := false
  /-- `m_token`. -/
  token : StdString := []
  /-- `m_socket`, as the supervisor whose session it belongs to. -/
  socket : Option Nat := none
  /-- `m_thread`, when joinable. -/
  thread : Option Nat := none
  /-- How many times `m_onSentence` has been assigned; it is empty before the first. -/
  onSentence : Nat := 0
  supervisors : List (Supervisor D) := []
  caller : Caller D := .idle
  /-- Everything observed, oldest first; not part of the code's state. -/
  log : List Observed := []
  /-- `std::terminate` has been called. -/
  terminated : Bool := false

/-- A step of the client. -/
inductive Action (D : Type)
  | setToken (token : StdString)
  | setTokenEnabled (enabled : Bool)
  | start (args : StreamArgs D)
  | stop
  | restart (args : StreamArgs D)
  /-- The next statement of the call under way. -/
  | caller
  /-- The next step of supervisor `i`. -/
  | supervisor (i : Nat) (a : RunAction)

/-- The action is a call of `Start`. -/
def Action.starts {D : Type} : Action D → Bool
  | start _ => true
  | _ => false

namespace Supervisor

variable {D : Type}

/-- The thread has been spawned and has not finished. -/
def alive (v : Supervisor D) : Bool := v.pc ≠ .exited

/-- The seconds passed to `SleepWhileStreaming` after a session. -/
def backoffAfter (v : Supervisor D) : Nat :=
  if v.session.serverRejected then kMaxBackoffSeconds
  else if v.session.reachedRunning then kInitialBackoffSeconds
  else v.backoffSeconds

/-- The payload a step of `run()` received, if any. -/
def receives : RunAction → List StdString
  | .message payload => [payload]
  | _ => []

section

variable (parse : StdString → Option Value)

/-- One step of a supervisor: the thread, what `m_socket` is afterwards, and what was
observed.  `me` is the supervisor's own number. -/
def step (streaming mutexFree : Bool) (onSentence : Nat) (socket : Option Nat) (me : Nat)
    (v : Supervisor D) (a : RunAction) : Option (Supervisor D × Option Nat × List Event) :=
  match v.pc, a with
  | .test, .proceed =>
      some ({ v with pc := if streaming then .announce else .stop }, socket, [])
  | .announce, .proceed =>
      some ({ v with pc := .publish, session := {} }, socket, [.state none ⟨.connecting, []⟩])
  | .publish, .proceed =>
      if !mutexFree then none
      else if streaming then some ({ v with pc := .run }, some me, [])
      else some ({ v with pc := .stop }, socket, [])
  | .run, a =>
      if v.session.stage = .returned then
        if a = .proceed then some ({ v with pc := .teardown }, socket, []) else none
      else if v.session.stage = .connected && !mutexFree then none
      else
        match v.session.step parse streaming (socket == some me) (onSentence ≠ 0) a with
        | none => none
        | some (session, evs) =>
            some ({ v with session := session, received := v.received ++ receives a }, socket, evs)
  | .teardown, .proceed =>
      if !mutexFree then none else some ({ v with pc := .recheck }, none, [])
  | .recheck, .proceed =>
      if !streaming then some ({ v with pc := .stop }, socket, [])
      else
        some ({ v with pc := .sleep (v.backoffAfter * 10), backoffSeconds := v.backoffAfter },
          socket, [])
  | .sleep chunks, .proceed =>
      if chunks = 0 || !streaming then some ({ v with pc := .advance }, socket, [])
      else some ({ v with pc := .sleep (chunks - 1) }, socket, [])
  | .advance, .proceed =>
      some ({ v with
        pc := .test
        backoffSeconds := Nat.min (v.backoffSeconds * 2) kMaxBackoffSeconds }, socket, [])
  | .stop, .proceed => some ({ v with pc := .exited }, socket, [.state none ⟨.stopped, []⟩])
  | _, _ => none

/-! ### Every step of a supervisor, once -/

/-- The steps of a supervisor. -/
inductive Move (streaming mutexFree : Bool) (onSentence : Nat) (socket : Option Nat) (me : Nat)
    (v : Supervisor D) : RunAction → Supervisor D → Option Nat → List Event → Prop
  | test (h : v.pc = .test) :
      Move streaming mutexFree onSentence socket me v .proceed
        { v with pc := if streaming then .announce else .stop } socket []
  | announce (h : v.pc = .announce) :
      Move streaming mutexFree onSentence socket me v .proceed
        { v with pc := .publish, session := {} } socket [.state none ⟨.connecting, []⟩]
  | publish (h : v.pc = .publish) (hm : mutexFree = true) (hs : streaming = true) :
      Move streaming mutexFree onSentence socket me v .proceed { v with pc := .run } (some me) []
  | giveUp (h : v.pc = .publish) (hm : mutexFree = true) (hs : streaming = false) :
      Move streaming mutexFree onSentence socket me v .proceed { v with pc := .stop } socket []
  | session {a : RunAction} {session : Session} {evs : List Event} (h : v.pc = .run)
      (hr : v.session.stage ≠ .returned)
      (hm : v.session.stage = .connected → mutexFree = true)
      (hv : v.session.step parse streaming (socket == some me) (onSentence ≠ 0) a
        = some (session, evs)) :
      Move streaming mutexFree onSentence socket me v a
        { v with session := session, received := v.received ++ receives a } socket evs
  | leave (h : v.pc = .run) (hr : v.session.stage = .returned) :
      Move streaming mutexFree onSentence socket me v .proceed { v with pc := .teardown } socket []
  | teardown (h : v.pc = .teardown) (hm : mutexFree = true) :
      Move streaming mutexFree onSentence socket me v .proceed { v with pc := .recheck } none []
  | finish (h : v.pc = .recheck) (hs : streaming = false) :
      Move streaming mutexFree onSentence socket me v .proceed { v with pc := .stop } socket []
  | backOff (h : v.pc = .recheck) (hs : streaming = true) :
      Move streaming mutexFree onSentence socket me v .proceed
        { v with pc := .sleep (v.backoffAfter * 10), backoffSeconds := v.backoffAfter } socket []
  | doze {chunks : Nat} (h : v.pc = .sleep chunks) (hs : streaming = true) :
      Move streaming mutexFree onSentence socket me v .proceed
        { v with pc := .sleep (chunks - 1) } socket []
  | wake {chunks : Nat} (h : v.pc = .sleep chunks) :
      Move streaming mutexFree onSentence socket me v .proceed { v with pc := .advance } socket []
  | advance (h : v.pc = .advance) :
      Move streaming mutexFree onSentence socket me v .proceed
        { v with
          pc := .test
          backoffSeconds := Nat.min (v.backoffSeconds * 2) kMaxBackoffSeconds } socket []
  | stop (h : v.pc = .stop) :
      Move streaming mutexFree onSentence socket me v .proceed { v with pc := .exited } socket
        [.state none ⟨.stopped, []⟩]

variable {parse}

/-- **A step of a supervisor is one of the moves.** -/
theorem move_of_step {streaming mutexFree : Bool} {onSentence : Nat} {socket socket' : Option Nat}
    {me : Nat} {v v' : Supervisor D} {a : RunAction} {evs : List Event}
    (h : step parse streaming mutexFree onSentence socket me v a = some (v', socket', evs)) :
    Move parse streaming mutexFree onSentence socket me v a v' socket' evs := by
  unfold step at h
  split at h
  case h_1 hpc => cases h; exact .test hpc
  case h_2 hpc => cases h; exact .announce hpc
  case h_3 hpc =>
    split at h
    · cases h
    · rename_i hm
      split at h <;> cases h
      · exact .publish hpc (by simpa using hm) ‹_›
      · exact .giveUp hpc (by simpa using hm) (Bool.eq_false_iff.mpr ‹_›)
  case h_4 hpc =>
    split at h
    · rename_i hret
      split at h
      · rename_i ha
        cases h
        exact ha ▸ .leave hpc hret
      · cases h
    · rename_i hret
      split at h
      · cases h
      · rename_i hm
        split at h
        · cases h
        · rename_i session evs hv
          cases h
          refine .session hpc hret (fun hst => ?_) hv
          simpa [hst] using hm
  case h_5 hpc =>
    split at h
    · cases h
    · rename_i hm
      cases h
      exact .teardown hpc (by simpa using hm)
  case h_6 hpc =>
    split at h
    · rename_i hs
      cases h
      exact .finish hpc (by simpa using hs)
    · rename_i hs
      cases h
      exact .backOff hpc (by simpa using hs)
  case h_7 chunks hpc =>
    split at h
    · cases h
      exact .wake hpc
    · rename_i hs
      cases h
      refine .doze hpc ?_
      simp only [Bool.or_eq_true, decide_eq_true_eq, Bool.not_eq_true', not_or] at hs
      simpa using hs.2
  case h_8 hpc => cases h; exact .advance hpc
  case h_9 hpc => cases h; exact .stop hpc
  case h_10 => cases h

end

end Supervisor

namespace Client

variable {D : Type}

/-- Some supervisor is alive. -/
def anyAlive (s : Client D) : Bool := s.supervisors.any Supervisor.alive

/-- Changing the session of supervisor `i`. -/
def modifySession (s : Client D) (i : Nat) (f : Session → Session) : Client D :=
  { s with supervisors := s.supervisors.modify i fun v => { v with session := f v.session } }

/-- The session of supervisor `i`. -/
def session? (s : Client D) (i : Nat) : Option Session := (s.supervisors[i]?).map Supervisor.session

/-- What follows the join: nothing, or the `Start` of a `Restart`. -/
def afterStop (next : Option (StreamArgs D)) : Caller D :=
  match next with
  | none => .idle
  | some args => .startTest args

/-- `m_thread.join()` returns once the thread it names has finished. -/
def joinable? (s : Client D) : Bool :=
  match s.thread with
  | none => true
  | some i => (s.supervisors[i]?).any fun v => !v.alive

section

variable [Double D]

/-- The next statement of the calling thread. -/
def callerStep (s : Client D) : Option (Client D) :=
  match s.caller with
  | .idle => none
  | .startTest args =>
      some { s with caller := if s.streaming then .idle else .startToken args }
  | .startToken args =>
      if s.useToken then
        if s.token.isEmpty then
          some { s with
            caller := .idle
            log := s.log ++ [(none, .state none ⟨.error, wx "Token is missing"⟩)] }
        else some { s with caller := .startReap args s.token }
      else some { s with caller := .startReap args [] }
  | .startReap args authToken =>
      if s.joinable? then some { s with thread := none, caller := .startCallback args authToken }
      else none
  | .startCallback args authToken =>
      some { s with onSentence := s.onSentence + 1, caller := .startFlag args authToken }
  | .startFlag args authToken =>
      some { s with streaming := true, caller := .startSpawn args authToken }
  | .startSpawn args authToken =>
      -- Assigning to a joinable `std::thread` terminates.
      if s.thread.isSome then some { s with terminated := true }
      else some { s with
        thread := some s.supervisors.length
        supervisors := s.supervisors ++
          [{ args, subscribeMsg := buildSubscribeMessage s.useToken args, authToken }]
        caller := .idle }
  | .stopFlag next => some { s with streaming := false, caller := .stopLook next }
  | .stopLook next =>
      match s.socket with
      | none => some { s with caller := .stopJoin next none s.log.length }
      | some i => some { s with caller := .closeRaise next i }
  | .closeRaise next i =>
      some { s.modifySession i Session.raiseRequest with caller := .closeLook next i }
  | .closeLook next i =>
      match s.session? i with
      | none => none
      | some v =>
          if v.readyState = .closing ∨ v.readyState = .closed then
            some { s with caller := .closeWake next i }
          else some { s with caller := .closeSet next i }
  | .closeWake next i =>
      match s.session? i with
      | none => none
      | some v =>
          if v.stage.inConnectToUrl then none
          else some { s with caller := .stopJoin next (some i) s.log.length }
  | .closeSet next i =>
      some { s.modifySession i Session.setClosing with
        caller := .stopJoin next (some i) s.log.length }
  | .stopJoin next _ _ =>
      if s.joinable? then some { s with thread := none, caller := afterStop next } else none
  | .restartTest args =>
      some { s with caller := if s.streaming then .stopFlag (some args) else .idle }

/-- A call entered by the calling thread when it is outside the client. -/
def enter (s : Client D) (c : Caller D) : Option (Client D) :=
  match s.caller with
  | .idle => some { s with caller := c }
  | _ => none

/-- The event ends the process. -/
def terminates : Event → Bool
  | .terminate _ => true
  | _ => false

section

variable (parse : StdString → Option Value)

/-- The step of supervisor `i`. -/
def supervisorStep (s : Client D) (i : Nat) (a : RunAction) : Option (Client D) :=
  match s.supervisors[i]? with
  | none => none
  | some v =>
      match v.step parse s.streaming (!s.caller.holdsSocketMutex) s.onSentence s.socket i a with
      | none => none
      | some (v', socket, evs) =>
          some { s with
            supervisors := s.supervisors.set i v'
            socket := socket
            log := s.log ++ evs.map (some i, ·)
            terminated := s.terminated || evs.any terminates }

/-- **The client**, as a transition system. -/
def system : System (Client D) (Action D) where
  step s a :=
    if s.terminated then none
    else
      match a with
      | .setToken token =>
          match s.caller with
          | .idle => some { s with token := token }
          | _ => none
      | .setTokenEnabled enabled =>
          match s.caller with
          | .idle => some { s with useToken := enabled }
          | _ => none
      | .start args => s.enter (.startTest args)
      | .stop => s.enter (.stopFlag none)
      | .restart args => s.enter (.restartTest args)
      | .caller => s.callerStep
      | .supervisor i a => s.supervisorStep parse i a

/-! ### Every step of the client, once -/

/-- The steps of the client: those of the calling thread in the order of the source, and
those of a supervisor. -/
inductive Move (s : Client D) : Action D → Client D → Prop
  | setToken {token : StdString} (hc : s.caller = .idle) :
      Move s (.setToken token) { s with token := token }
  | setTokenEnabled {enabled : Bool} (hc : s.caller = .idle) :
      Move s (.setTokenEnabled enabled) { s with useToken := enabled }
  | start {args : StreamArgs D} (hc : s.caller = .idle) :
      Move s (.start args) { s with caller := .startTest args }
  | stop (hc : s.caller = .idle) : Move s .stop { s with caller := .stopFlag none }
  | restart {args : StreamArgs D} (hc : s.caller = .idle) :
      Move s (.restart args) { s with caller := .restartTest args }
  | startBusy {args : StreamArgs D} (hc : s.caller = .startTest args) (hs : s.streaming = true) :
      Move s .caller { s with caller := .idle }
  | startFree {args : StreamArgs D} (hc : s.caller = .startTest args)
      (hs : s.streaming = false) : Move s .caller { s with caller := .startToken args }
  | refuse {args : StreamArgs D} (hc : s.caller = .startToken args) (hu : s.useToken = true)
      (ht : s.token = []) :
      Move s .caller { s with
        caller := .idle
        log := s.log ++ [(none, .state none ⟨.error, wx "Token is missing"⟩)] }
  | accept {args : StreamArgs D} (hc : s.caller = .startToken args)
      (hu : s.useToken = true → s.token ≠ []) :
      Move s .caller { s with
        caller := .startReap args (if s.useToken then s.token else []) }
  | reap {args : StreamArgs D} {authToken : StdString} (hc : s.caller = .startReap args authToken)
      (hj : s.joinable? = true) :
      Move s .caller { s with thread := none, caller := .startCallback args authToken }
  | setCallback {args : StreamArgs D} {authToken : StdString}
      (hc : s.caller = .startCallback args authToken) :
      Move s .caller
        { s with onSentence := s.onSentence + 1, caller := .startFlag args authToken }
  | setFlag {args : StreamArgs D} {authToken : StdString}
      (hc : s.caller = .startFlag args authToken) :
      Move s .caller { s with streaming := true, caller := .startSpawn args authToken }
  | spawnTwice {args : StreamArgs D} {authToken : StdString}
      (hc : s.caller = .startSpawn args authToken) (ht : s.thread ≠ none) :
      Move s .caller { s with terminated := true }
  | spawn {args : StreamArgs D} {authToken : StdString}
      (hc : s.caller = .startSpawn args authToken) (ht : s.thread = none) :
      Move s .caller { s with
        thread := some s.supervisors.length
        supervisors := s.supervisors ++
          [{ args, subscribeMsg := buildSubscribeMessage s.useToken args, authToken }]
        caller := .idle }
  | clearFlag {next : Option (StreamArgs D)} (hc : s.caller = .stopFlag next) :
      Move s .caller { s with streaming := false, caller := .stopLook next }
  | lookNone {next : Option (StreamArgs D)} (hc : s.caller = .stopLook next)
      (hs : s.socket = none) :
      Move s .caller { s with caller := .stopJoin next none s.log.length }
  | lookSome {next : Option (StreamArgs D)} {i : Nat} (hc : s.caller = .stopLook next)
      (hs : s.socket = some i) : Move s .caller { s with caller := .closeRaise next i }
  | raiseRequest {next : Option (StreamArgs D)} {i : Nat} (hc : s.caller = .closeRaise next i) :
      Move s .caller { s.modifySession i Session.raiseRequest with caller := .closeLook next i }
  | sawClosed {next : Option (StreamArgs D)} {i : Nat} {v : Supervisor D}
      (hc : s.caller = .closeLook next i) (hv : s.supervisors[i]? = some v)
      (hr : v.session.readyState = .closing ∨ v.session.readyState = .closed) :
      Move s .caller { s with caller := .closeWake next i }
  | sawOpen {next : Option (StreamArgs D)} {i : Nat} {v : Supervisor D}
      (hc : s.caller = .closeLook next i) (hv : s.supervisors[i]? = some v)
      (hr : ¬(v.session.readyState = .closing ∨ v.session.readyState = .closed)) :
      Move s .caller { s with caller := .closeSet next i }
  | wakePoll {next : Option (StreamArgs D)} {i : Nat} {v : Supervisor D}
      (hc : s.caller = .closeWake next i) (hv : s.supervisors[i]? = some v)
      (hst : v.session.stage.inConnectToUrl = false) :
      Move s .caller { s with caller := .stopJoin next (some i) s.log.length }
  | setClosing {next : Option (StreamArgs D)} {i : Nat} (hc : s.caller = .closeSet next i) :
      Move s .caller { s.modifySession i Session.setClosing with
        caller := .stopJoin next (some i) s.log.length }
  | join {next : Option (StreamArgs D)} {found : Option Nat} {mark : Nat}
      (hc : s.caller = .stopJoin next found mark) (hj : s.joinable? = true) :
      Move s .caller { s with thread := none, caller := afterStop next }
  | restartBusy {args : StreamArgs D} (hc : s.caller = .restartTest args)
      (hs : s.streaming = true) : Move s .caller { s with caller := .stopFlag (some args) }
  | restartIdle {args : StreamArgs D} (hc : s.caller = .restartTest args)
      (hs : s.streaming = false) : Move s .caller { s with caller := .idle }
  | supervisor {i : Nat} {a : RunAction} {v v' : Supervisor D} {socket : Option Nat}
      {evs : List Event} (hv : s.supervisors[i]? = some v)
      (hm : v.Move parse s.streaming (!s.caller.holdsSocketMutex) s.onSentence s.socket i a v'
        socket evs) :
      Move s (.supervisor i a) { s with
        supervisors := s.supervisors.set i v'
        socket := socket
        log := s.log ++ evs.map (some i, ·)
        terminated := s.terminated || evs.any terminates }

variable {parse}

theorem move_of_callerStep {s s' : Client D} (h : s.callerStep = some s') :
    Move parse s .caller s' := by
  unfold callerStep at h
  split at h
  case h_1 => cases h
  case h_2 hc =>
    cases h
    split
    · exact .startBusy hc ‹_›
    · exact .startFree hc (Bool.eq_false_iff.mpr ‹_›)
  case h_3 hc =>
    split at h
    · rename_i hu
      split at h <;> cases h
      · exact .refuse hc hu (List.isEmpty_iff.mp ‹_›)
      · rename_i ht
        have hacc : Move parse s .caller _ :=
          Move.accept hc fun _ => fun hnil => ht (by rw [hnil]; rfl)
        rwa [if_pos hu] at hacc
    · rename_i hu
      cases h
      have hacc : Move parse s .caller _ := Move.accept hc fun hu' => absurd hu' hu
      rwa [if_neg hu] at hacc
  case h_4 hc =>
    split at h <;> cases h
    exact .reap hc ‹_›
  case h_5 hc => cases h; exact .setCallback hc
  case h_6 hc => cases h; exact .setFlag hc
  case h_7 hc =>
    split at h <;> cases h
    · rename_i ht
      exact .spawnTwice hc (Option.isSome_iff_ne_none.mp ht)
    · rename_i ht
      exact .spawn hc (Option.not_isSome_iff_eq_none.mp ht)
  case h_8 hc => cases h; exact .clearFlag hc
  case h_9 hc =>
    split at h <;> cases h
    · exact .lookNone hc ‹_›
    · exact .lookSome hc ‹_›
  case h_10 hc => cases h; exact .raiseRequest hc
  case h_11 hc =>
    split at h
    · cases h
    · rename_i session hsess
      obtain ⟨v, hv, rfl⟩ := Option.map_eq_some_iff.mp hsess
      split at h <;> cases h
      · exact .sawClosed hc hv ‹_›
      · exact .sawOpen hc hv ‹_›
  case h_12 hc =>
    split at h
    · cases h
    · rename_i session hsess
      obtain ⟨v, hv, rfl⟩ := Option.map_eq_some_iff.mp hsess
      split at h <;> cases h
      exact .wakePoll hc hv (Bool.eq_false_iff.mpr ‹_›)
  case h_13 hc => cases h; exact .setClosing hc
  case h_14 hc =>
    split at h <;> cases h
    exact .join hc ‹_›
  case h_15 hc =>
    cases h
    split
    · exact .restartBusy hc ‹_›
    · exact .restartIdle hc (Bool.eq_false_iff.mpr ‹_›)

omit [Double D] in
theorem enter_eq_some {s s' : Client D} {c : Caller D} (h : s.enter c = some s') :
    s.caller = .idle ∧ s' = { s with caller := c } := by
  unfold enter at h
  split at h <;> cases h
  exact ⟨‹_›, rfl⟩

/-- **A step of the client is one of the moves.** -/
theorem move_of_step {s s' : Client D} {a : Action D} (h : (system parse).step s a = some s') :
    s.terminated = false ∧ Move parse s a s' := by
  simp only [system] at h
  split at h
  · cases h
  · rename_i hterm
    refine ⟨Bool.eq_false_iff.mpr hterm, ?_⟩
    split at h
    · split at h <;> cases h
      exact .setToken ‹_›
    · split at h <;> cases h
      exact .setTokenEnabled ‹_›
    · obtain ⟨hc, rfl⟩ := enter_eq_some h
      exact .start hc
    · obtain ⟨hc, rfl⟩ := enter_eq_some h
      exact .stop hc
    · obtain ⟨hc, rfl⟩ := enter_eq_some h
      exact .restart hc
    · exact move_of_callerStep h
    · simp only [supervisorStep] at h
      split at h
      · cases h
      · rename_i v hv
        split at h
        · cases h
        · rename_i hst
          cases h
          exact .supervisor hv (Supervisor.move_of_step hst)

end

end

end Client

end AisLive
