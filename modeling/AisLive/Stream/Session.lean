/-
One session: a socket, its `run()`, and the message callback.

The supervisor gives every session a fresh `ix::WebSocket` and calls `run()` on it.
`Session.step` walks through that call as the vendored source has it, one stage at
a time, and through the message callback the client installs, since the callback
runs on the same thread from inside `run()`.

The stages keep what decides the outcome.  `connectToUrl` starts each handshake by
clearing the cancellation request; the handshake then does its blocking I/O, each
attempt preceded by one look at the request; once the header block has been read
nothing looks any more, and a success makes the socket OPEN.  The Open handler sends
the subscription under the client's socket mutex and reports Running after it; a
send that fails closes the socket and calls the message callback again, with Close,
from inside the handler.  From then on `run()` alternates between leaving when the
socket is CLOSED and dispatching what one poll read.

What the network does is the action; what leaves the client is the list of calls.
-/
import AisLive.Stream.Message

namespace AisLive

open Json

/-- `ix::WebSocketTransport::ReadyState`. -/
inductive ReadyState
  | closing
  | closed
  | connecting
  | opened
  deriving DecidableEq, Repr

/-- The blocking steps of `clientHandshake`, in order. -/
inductive HandshakeIo
  /-- Name resolution, the TCP connection and the TLS handshake. -/
  | connect
  | writeRequest
  | readStatusLine
  | readHeaders
  deriving DecidableEq, Repr

/-- The step after one, none after the header block. -/
def HandshakeIo.next : HandshakeIo → Option HandshakeIo
  | connect => some writeRequest
  | writeRequest => some readStatusLine
  | readStatusLine => some readHeaders
  | readHeaders => none

/-- Where the supervisor's thread is inside `run()`. -/
inductive Stage
  /-- `run()` entered, `checkConnection` about to test the ready state. -/
  | entry
  /-- `connectToUrl`, in the given round of its redirection loop: the handshake is
  about to start. -/
  | connectToUrl (hop : Nat)
  /-- In a blocking step of the handshake; `polled` once the cancellation request has
  been looked at and the attempt is under way. -/
  | io (hop : Nat) (step : HandshakeIo) (polled : Bool)
  /-- The header block is read; only local checks remain. -/
  | validate (hop : Nat)
  /-- `connectToUrl` returned without success. -/
  | failed (reason : StdString)
  /-- The socket is OPEN and the Open handler is about to send. -/
  | connected
  /-- The Open handler, past the locked send. -/
  | announce
  /-- Top of the loop in `run()`, the connection attempt over. -/
  | loop
  /-- A poll has returned and the frames read are being dispatched. -/
  | dispatching
  /-- Inside `ProcessAisEvent`, with these sentences still to publish. -/
  | publishing (rest : List WxString)
  /-- `run()` has returned. -/
  | returned
  deriving DecidableEq, Repr

/-- Stages at which the transport's own mutex is held: `connectToUrl` holds it from
its first line to its return. -/
def Stage.inConnectToUrl : Stage → Bool
  | connectToUrl _ => true
  | io _ _ _ => true
  | validate _ => true
  | _ => false

/-- What the thread or the network does next. -/
inductive RunAction
  /-- The next statement, where the source leaves no choice. -/
  | proceed
  /-- The attempt has to be repeated. -/
  | again
  /-- The attempt completed its step, or the local checks passed. -/
  | done
  /-- The stage fails, for the reason given. -/
  | fail (reason : StdString)
  /-- The response is a redirection. -/
  | redirect (reason : StdString)
  /-- The write of the subscription fails. -/
  | sendFails
  /-- A text or binary frame. -/
  | message (payload : StdString)
  /-- A ping, pong or fragment. -/
  | control
  /-- The transport goes to CLOSED: a close frame, an abnormal closure, a failed
  write, or the closing delay.  `reset` says whether it was one of the paths that
  also clear the cancellation request.  A close frame handled when the transport is
  CLOSED already, which calls the message callback with Close once more, is left out
  here: `WebSocket.Closings` counts what it does. -/
  | shut (reset : Bool)
  /-- The transport itself calls `close()`: a protocol error in what was read. -/
  | selfClose
  deriving DecidableEq, Repr

/-- What the library delivers to the message callback. -/
inductive Callback
  | opened
  | message (payload : StdString)
  | error
  | close
  /-- Ping, Pong and Fragment, which the callback does nothing with. -/
  | other
  deriving DecidableEq, Repr

/-- What can be observed of the client: the message callback being called, the state
and sentence callbacks being called, the subscription going out on the wire, and an
exception leaving the thread function.  A state reported from inside the message
callback names what the callback was called with. -/
inductive Event
  | callback (c : Callback)
  | state (during : Option Callback) (r : Report)
  | sentence (s : WxString)
  | subscribe
  | terminate (e : LogicError)
  deriving DecidableEq, Repr

namespace Event

/-- The report an event makes, if it is one. -/
def report? : Event → Option Report
  | state _ r => some r
  | _ => none

/-- The library delivered the end of the session. -/
def endsSession : Event → Bool
  | callback .close => true
  | callback .error => true
  | _ => false

/-- Running is reported. -/
def isRunning : Event → Bool
  | state _ r => r.state = .running
  | _ => false

/-- A specific reason is reported: a library error or a server error frame. -/
def isReason : Event → Bool
  | state (some .error) _ => true
  | state (some (.message _)) _ => true
  | _ => false

/-- The generic reason is reported, which only the answer to Close does. -/
def isGeneric : Event → Bool
  | state (some .close) _ => true
  | _ => false

end Event

/-- The socket of one session, the stage of its `run()`, and the flags the message
callback keeps. -/
structure Session where
  stage : Stage := .entry
  readyState : ReadyState := .closed
  requestInitCancellation : Bool := false
  /-- `close()` has been called on the socket by `Stop()`; not part of the code's state. -/
  closeCalled : Bool := false
  reachedRunning : Bool := false
  serverRejected : Bool := false
  errorReported : Bool := false
  deriving DecidableEq, Repr

namespace Session

/-- `connectToUrl` gives up after this many redirections. -/
def maxRedirections : Nat := 10

/-- `close()` called by `Stop()`: raising the cancellation request. -/
def raiseRequest (v : Session) : Session :=
  { v with requestInitCancellation := true, closeCalled := true }

/-- `close()` on an OPEN socket: `setReadyState(CLOSING)`. -/
def setClosing (v : Session) : Session := { v with readyState := .closing }

/-- The message callback called with Close. -/
def onClose (streaming : Bool) (v : Session) : List Event :=
  .callback .close ::
    if streaming && !v.errorReported then [.state (some .close) ⟨.error, wx "connection lost"⟩]
    else []

section

variable (parse : StdString → Option Value)

/-- The message callback called with Message. -/
def onMessage (onSentence : Bool) (v : Session) (payload : StdString) : Session × List Event :=
  match handleMessage parse onSentence payload with
  | .error e => (v, [.callback (.message payload), .terminate e])
  | .ok out =>
      if out.rejected then
        ({ v with serverRejected := true, errorReported := true },
          .callback (.message payload) :: out.reports.map (.state (some (.message payload))))
      else
        ({ v with stage := .publishing out.sentences },
          .callback (.message payload) :: out.reports.map (.state (some (.message payload))))

/-- One stage of `run()`.  `streaming` is what `m_streaming` reads, `published` says
whether `m_socket` holds this session's socket, `onSentence` whether a sentence
callback is set.  A session is shut once, unless the calling thread sets CLOSING after
that; the second Close for a close frame handled when CLOSED is not among the steps. -/
def step (streaming published onSentence : Bool) (v : Session) (a : RunAction) :
    Option (Session × List Event) :=
  match v.stage, a with
  -- `isConnected() || isClosing()` is the first test of `checkConnection`.
  | .entry, .proceed =>
      if v.readyState = .opened ∨ v.readyState = .closing then some ({ v with stage := .loop }, [])
      else some ({ v with stage := .connectToUrl 0 }, [])
  -- `clientHandshake` begins with `_requestInitCancellation = false`.
  | .connectToUrl hop, .proceed =>
      some ({ v with stage := .io hop .connect false, requestInitCancellation := false }, [])
  | .connectToUrl _, .fail reason => some ({ v with stage := .failed reason }, [])
  -- A request seen by the poll leaves only the failure.
  | .io hop k false, .proceed =>
      if v.requestInitCancellation then none else some ({ v with stage := .io hop k true }, [])
  | .io _ _ false, .fail reason => some ({ v with stage := .failed reason }, [])
  | .io hop k true, .again => some ({ v with stage := .io hop k false }, [])
  | .io hop k true, .done =>
      match k.next with
      | some k' => some ({ v with stage := .io hop k' false }, [])
      | none => some ({ v with stage := .validate hop }, [])
  | .io _ _ true, .fail reason => some ({ v with stage := .failed reason }, [])
  | .validate _, .done => some ({ v with stage := .connected, readyState := .opened }, [])
  | .validate hop, .redirect reason =>
      if hop + 1 < maxRedirections then some ({ v with stage := .connectToUrl (hop + 1) }, [])
      else some ({ v with stage := .failed reason }, [])
  | .validate _, .fail reason => some ({ v with stage := .failed reason }, [])
  | .failed reason, .proceed =>
      some ({ v with stage := .loop, errorReported := true },
        [.callback .error, .state (some .error) ⟨.error, fromUTF8 reason⟩])
  -- `send` does nothing on a socket that is not OPEN.
  | .connected, .proceed =>
      some ({ v with stage := .announce },
        .callback .opened :: if published && v.readyState = .opened then [.subscribe] else [])
  -- The write failure switches to CLOSED and calls back from inside the handler.
  | .connected, .sendFails =>
      if published && v.readyState = .opened then
        some ({ v with stage := .announce, readyState := .closed },
          .callback .opened :: onClose streaming v)
      else none
  | .announce, .proceed =>
      some ({ v with stage := .loop, reachedRunning := true }, [.state (some .opened) ⟨.running, []⟩])
  | .loop, .proceed =>
      if v.readyState = .closed then some ({ v with stage := .returned }, [])
      else some ({ v with stage := .dispatching }, [])
  | .dispatching, .message payload => some (onMessage parse onSentence v payload)
  | .dispatching, .control => some (v, [.callback .other])
  | .dispatching, .shut reset =>
      if v.readyState = .closed then none
      else some ({ v with
          readyState := .closed
          requestInitCancellation := v.requestInitCancellation && !reset }, onClose streaming v)
  | .dispatching, .selfClose =>
      some ({ v with
        requestInitCancellation := true
        readyState := if v.readyState = .opened then .closing else v.readyState }, [])
  | .dispatching, .proceed => some ({ v with stage := .loop }, [])
  | .publishing (s :: rest), .proceed =>
      some ({ v with stage := .publishing rest }, [.sentence s])
  | .publishing [], .proceed => some ({ v with stage := .dispatching }, [])
  | _, _ => none

/-! ### Every step, once

`Move` lists what a step can do, one constructor for each line of `step`, and
`move_of_step` says there is nothing else.  Every invariant below is a case
analysis on it.
-/

/-- The steps of a session. -/
inductive Move (streaming published onSentence : Bool) (v : Session) :
    RunAction → Session → List Event → Prop
  | skipConnect (h : v.stage = .entry) (hr : v.readyState = .opened ∨ v.readyState = .closing) :
      Move streaming published onSentence v .proceed { v with stage := .loop } []
  | callConnect (h : v.stage = .entry)
      (hr : ¬(v.readyState = .opened ∨ v.readyState = .closing)) :
      Move streaming published onSentence v .proceed { v with stage := .connectToUrl 0 } []
  | startHandshake {hop : Nat} (h : v.stage = .connectToUrl hop) :
      Move streaming published onSentence v .proceed
        { v with stage := .io hop .connect false, requestInitCancellation := false } []
  | poll {hop : Nat} {k : HandshakeIo} (h : v.stage = .io hop k false)
      (hc : v.requestInitCancellation = false) :
      Move streaming published onSentence v .proceed { v with stage := .io hop k true } []
  | retry {hop : Nat} {k : HandshakeIo} (h : v.stage = .io hop k true) :
      Move streaming published onSentence v .again { v with stage := .io hop k false } []
  | nextIo {hop : Nat} {k k' : HandshakeIo} (h : v.stage = .io hop k true)
      (hk : k.next = some k') :
      Move streaming published onSentence v .done { v with stage := .io hop k' false } []
  | headersRead {hop : Nat} {k : HandshakeIo} (h : v.stage = .io hop k true)
      (hk : k.next = none) :
      Move streaming published onSentence v .done { v with stage := .validate hop } []
  | accepted {hop : Nat} (h : v.stage = .validate hop) :
      Move streaming published onSentence v .done
        { v with stage := .connected, readyState := .opened } []
  | redirected {hop : Nat} {reason : StdString} (h : v.stage = .validate hop) :
      Move streaming published onSentence v (.redirect reason)
        { v with stage := .connectToUrl (hop + 1) } []
  | refused {a : RunAction} {reason : StdString} (h : v.stage.inConnectToUrl = true)
      (ha : a = .fail reason ∨ a = .redirect reason) :
      Move streaming published onSentence v a { v with stage := .failed reason } []
  | reportFailure {reason : StdString} (h : v.stage = .failed reason) :
      Move streaming published onSentence v .proceed
        { v with stage := .loop, errorReported := true }
        [.callback .error, .state (some .error) ⟨.error, fromUTF8 reason⟩]
  | subscribe (h : v.stage = .connected) (hs : (published && v.readyState = .opened) = true) :
      Move streaming published onSentence v .proceed { v with stage := .announce }
        [.callback .opened, .subscribe]
  | skipSubscribe (h : v.stage = .connected)
      (hs : (published && v.readyState = .opened) = false) :
      Move streaming published onSentence v .proceed { v with stage := .announce }
        [.callback .opened]
  | sendFails (h : v.stage = .connected) (hs : (published && v.readyState = .opened) = true) :
      Move streaming published onSentence v .sendFails
        { v with stage := .announce, readyState := .closed }
        (.callback .opened :: onClose streaming v)
  | reportRunning (h : v.stage = .announce) :
      Move streaming published onSentence v .proceed
        { v with stage := .loop, reachedRunning := true } [.state (some .opened) ⟨.running, []⟩]
  | leave (h : v.stage = .loop) (hr : v.readyState = .closed) :
      Move streaming published onSentence v .proceed { v with stage := .returned } []
  | pollSocket (h : v.stage = .loop) (hr : v.readyState ≠ .closed) :
      Move streaming published onSentence v .proceed { v with stage := .dispatching } []
  | raise {payload : StdString} {e : LogicError} (h : v.stage = .dispatching)
      (hm : handleMessage parse onSentence payload = .error e) :
      Move streaming published onSentence v (.message payload) v
        [.callback (.message payload), .terminate e]
  | reject {payload : StdString} {out : Handled} {detail : WxString}
      (h : v.stage = .dispatching) (hm : handleMessage parse onSentence payload = .ok out)
      (hrej : out.rejected = true) (hrep : out.reports = [⟨.error, detail⟩]) :
      Move streaming published onSentence v (.message payload)
        { v with serverRejected := true, errorReported := true }
        [.callback (.message payload), .state (some (.message payload)) ⟨.error, detail⟩]
  | publish {payload : StdString} {out : Handled} (h : v.stage = .dispatching)
      (hm : handleMessage parse onSentence payload = .ok out) (hrej : out.rejected = false) :
      Move streaming published onSentence v (.message payload)
        { v with stage := .publishing out.sentences } [.callback (.message payload)]
  | control (h : v.stage = .dispatching) :
      Move streaming published onSentence v .control v [.callback .other]
  /-- Only when it is not CLOSED already: the close frame of `RunAction.shut` is left out. -/
  | shut {reset : Bool} (h : v.stage = .dispatching) (hr : v.readyState ≠ .closed) :
      Move streaming published onSentence v (.shut reset)
        { v with
          readyState := .closed
          requestInitCancellation := v.requestInitCancellation && !reset }
        (onClose streaming v)
  | selfClose (h : v.stage = .dispatching) :
      Move streaming published onSentence v .selfClose
        { v with
          requestInitCancellation := true
          readyState := if v.readyState = .opened then .closing else v.readyState } []
  | endDispatch (h : v.stage = .dispatching) :
      Move streaming published onSentence v .proceed { v with stage := .loop } []
  | sentence {s : WxString} {rest : List WxString} (h : v.stage = .publishing (s :: rest)) :
      Move streaming published onSentence v .proceed { v with stage := .publishing rest }
        [.sentence s]
  | published (h : v.stage = .publishing []) :
      Move streaming published onSentence v .proceed { v with stage := .dispatching } []

variable {parse}

/-- **A step of a session is one of the moves.** -/
theorem move_of_step {streaming published onSentence : Bool} {v v' : Session} {a : RunAction}
    {evs : List Event} (h : step parse streaming published onSentence v a = some (v', evs)) :
    Move parse streaming published onSentence v a v' evs := by
  unfold step at h
  split at h
  case h_1 hst =>
    split at h <;> cases h
    · exact .skipConnect hst ‹_›
    · exact .callConnect hst ‹_›
  case h_2 hst => cases h; exact .startHandshake hst
  case h_3 hst => cases h; exact .refused (by rw [hst]; rfl) (Or.inl rfl)
  case h_4 hst =>
    split at h <;> cases h
    exact .poll hst (Bool.eq_false_iff.mpr ‹_›)
  case h_5 hst => cases h; exact .refused (by rw [hst]; rfl) (Or.inl rfl)
  case h_6 hst => cases h; exact .retry hst
  case h_7 hst =>
    split at h <;> cases h
    · exact .nextIo hst ‹_›
    · exact .headersRead hst ‹_›
  case h_8 hst => cases h; exact .refused (by rw [hst]; rfl) (Or.inl rfl)
  case h_9 hst => cases h; exact .accepted hst
  case h_10 hst =>
    split at h <;> cases h
    · exact .redirected hst
    · exact .refused (by rw [hst]; rfl) (Or.inr rfl)
  case h_11 hst => cases h; exact .refused (by rw [hst]; rfl) (Or.inl rfl)
  case h_12 hst => cases h; exact .reportFailure hst
  case h_13 hst =>
    cases h
    split
    · exact .subscribe hst ‹_›
    · exact .skipSubscribe hst (Bool.eq_false_iff.mpr ‹_›)
  case h_14 hst =>
    split at h <;> cases h
    exact .sendFails hst ‹_›
  case h_15 hst => cases h; exact .reportRunning hst
  case h_16 hst =>
    split at h <;> cases h
    · exact .leave hst ‹_›
    · exact .pollSocket hst ‹_›
  case h_17 hst =>
    simp only [Option.some.injEq, onMessage] at h
    split at h
    · cases h; exact .raise hst ‹_›
    · rename_i out hout
      rcases handleMessage_ok hout with ⟨hrej, ⟨detail, hrep⟩, -⟩ | ⟨hrej, hrep⟩
      · rw [if_pos hrej, hrep] at h
        cases h
        exact .reject hst hout hrej hrep
      · rw [hrej, hrep] at h
        cases h
        exact .publish hst hout hrej
  case h_18 hst => cases h; exact .control hst
  case h_19 hst =>
    split at h <;> cases h
    exact .shut hst ‹_›
  case h_20 hst => cases h; exact .selfClose hst
  case h_21 hst => cases h; exact .endDispatch hst
  case h_22 hst => cases h; exact .sentence hst
  case h_23 hst => cases h; exact .published hst
  case h_24 => cases h

end

end Session

/-- A session's way to an open socket, its subscription and the report of Running. -/
def connectSteps : List RunAction :=
  [.proceed, .proceed, .proceed, .done, .proceed, .done, .proceed, .done, .proceed, .done,
    .done, .proceed, .proceed]

end AisLive
