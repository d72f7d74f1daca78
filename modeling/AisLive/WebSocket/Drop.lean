/-
A connection that breaks.

When a read finds the connection broken, `poll` closes the socket and leaves it to `dispatch`
to close the transport, after the frames that have been received.  But `dispatch` gets to that
only when the loop ends for want of a header.  A frame whose header is there and whose payload
is not ends it earlier, and then nothing ever closes the transport: every further poll finds
the socket closed, which is no abnormal closure, and every dispatch returns at that frame.
`run()` goes round and round, OPEN, until `close` is called.
-/
import AisLive.WebSocket.Reception

namespace AisLive.WebSocket

open Framing

/-! ### Being asked to close -/

namespace Endpoint

variable (env : Environment)

end Endpoint

namespace Connection

variable (env : Environment)

/-! ### Nothing happens any more -/

/-- The connection is gone, and `dispatch` returns at the frame at the front of the buffer. -/
structure Deaf (c : Connection) : Prop where
  opened : c.readyState = .opened
  socket : c.socketOpen = false
  phase : c.phase ≠ .returned
  front : (nextFrame c.rxbuf = .wait ∧ ∃ ws, readHeader c.rxbuf = some ws) ∨
    nextFrame c.rxbuf = .stuck .tooLong

/-- Without a call of `close`, that is so after every step. -/
theorem deaf_step {c c' : Connection} {a : Action} (h : Deaf c)
    (ha : a.isClose = false) (hstep : (system env).step c a = some c') :
    Deaf c' ∧ c'.calls = c.calls := by
  obtain ⟨hopened, hsocket, hphase', hfront⟩ := h
  cases moves_of_step env hstep with
  | leave hphase hclosed =>
      rw [hopened] at hclosed
      cases hclosed
  | enter hphase hclosed => exact ⟨⟨hopened, hsocket, by simp, hfront⟩, rfl⟩
  | @poll polled exceeded hphase hready pollResult c' hpoll =>
      -- the socket is closed, so the poll says so, and the state is not CLOSING
      have hpolled : polled = .error := hready.resolve_left (by rw [hsocket]; simp)
      have hstays : ¬(c.closeSocket.readyState = .closing ∧ exceeded = true) := by
        rw [Endpoint.closeSocket, hopened]
        simp
      rw [hpolled, poll] at hpoll
      simp only [Transport.closingDelay, if_neg hstays] at hpoll
      cases hpoll
      exact ⟨⟨hopened, rfl, by simp, hfront⟩, rfl⟩
  | frame hphase hnext =>
      rcases hfront with ⟨hwait, -⟩ | hstuck
      · rw [hnext] at hwait
        cases hwait
      · rw [hnext] at hstuck
        cases hstuck
  | noHeader hphase hnext hheader =>
      rcases hfront with ⟨-, ws, hsome⟩ | hstuck
      · rw [hheader] at hsome
        cases hsome
      · rw [hnext] at hstuck
        cases hstuck
  | noFrame hphase hnext hheader hshort => exact ⟨⟨hopened, hsocket, by simp, hfront⟩, rfl⟩
  | stuck hphase hnext hnext' hlength hheader hwanted =>
      rcases hfront with ⟨hwait, -⟩ | hstuck
      · rw [hnext] at hwait
        cases hwait
      · rw [hnext] at hstuck
        cases hstuck
        exact ⟨⟨hopened, hsocket, by simp, .inr hnext'⟩, rfl⟩
  | lookClosed | look | set | send => cases ha

/-! ### The last dispatch -/

/-- **Meanwhile nothing is reported**: the transport says it is OPEN, and no callback is called. -/
theorem deaf_silent {c c' : Connection} (h : Deaf c) {as : List Action}
    (has : ∀ a ∈ as, a.isClose = false) (hrun : (system env).run c as = some c') :
    c'.readyState = .opened ∧ c'.calls = c.calls := by
  have hstep : ∀ s a s', Deaf s ∧ s.calls = c.calls → a.isClose = false →
      (system env).step s a = some s' → Deaf s' ∧ s'.calls = c.calls := by
    rintro s a s' ⟨hdeaf, hcalls⟩ ha hstep
    obtain ⟨hdeaf', hsame⟩ := deaf_step env hdeaf ha hstep
    exact ⟨hdeaf', hsame.trans hcalls⟩
  obtain ⟨hdeaf, hcalls⟩ := Transition.System.run_invariant hstep has ⟨h, rfl⟩ hrun
  exact ⟨hdeaf.opened, hcalls⟩

end Connection

end AisLive.WebSocket
