/-
How often Close is delivered.

A session is told of its end once: Close is delivered whenever the transport becomes CLOSED, and
CLOSED is the end.  But two things take the transport from CLOSED back to CLOSING, from where it
is closed again.  One is a close frame handled when the transport is CLOSED already, the other a
call of `close` that has looked at the ready state earlier and sets it now.  `close_once_iff`
counts them.
-/
import AisLive.WebSocket.Refinement

namespace AisLive.WebSocket

open Transition

/-- How often the callback has been called with Close. -/
def View.closings (v : View) : Nat := v.2.count .close

/-- How often it ought to have been called. -/
def View.owed (v : View) : Nat := if v.1 = .closed then 1 else 0

theorem closings_view (e : Endpoint) : View.closings e.view = e.closings := by
  unfold View.closings Endpoint.view Endpoint.closings
  rw [List.count, List.countP_map]
  refine List.countP_congr fun call _ => ?_
  cases call with
  | message kind payload => cases kind <;> simp [Call.callback, Call.isClosed]
  | closed code reason remote => simp [Call.callback, Call.isClosed]

/-- The steps of a session deliver Close when they close it. -/
theorem Steps.closings {v v' : View} {as : List RunAction} (h : Steps v as v') :
    View.closings v' + View.owed v = View.closings v + View.owed v' := by
  induction h with
  | nil => rfl
  | message payload _ ih => simpa [View.closings, View.owed] using ih
  | control _ ih => simpa [View.closings, View.owed] using ih
  | shut hr _ ih =>
      simp only [View.closings, View.owed, if_true, if_neg hr, List.count_append,
        List.count_singleton_self] at ih ⊢
      omega
  | @selfClose r cs as v _ ih =>
      have howed : View.owed (if r = .opened then .closing else r, cs) = View.owed (r, cs) := by
        unfold View.owed
        simp only
        split
        · rename_i hopened
          rw [hopened]
          rfl
        · rfl
      rw [howed] at ih
      exact ih

section

variable (env : Environment)

/-- The endpoint of a live connection. -/
def Live.view (l : Live) : View := l.connection.toEndpoint.view

/-- The transport is CLOSED, and becomes CLOSING again: a close frame is handled, or `close` sets
the ready state it looked at before. -/
def Late (l : Live) (a : LiveAction) : Prop :=
  a = .library .round ∧ l.connection.lateClose = true ∨
    a = .library .closeSet ∧ l.connection.readyState = .closed

instance (l : Live) (a : LiveAction) : Decidable (Late l a) :=
  inferInstanceAs (Decidable (a = .library .round ∧ l.connection.lateClose = true ∨
    a = .library .closeSet ∧ l.connection.readyState = .closed))

/-- What a step does to the calls of the callback, and what is owed: a late one adds a call that
is not owed. -/
def Balances (late : Prop) [Decidable late] (v v' : View) : Prop :=
  View.closings v' + View.owed v = View.closings v + View.owed v' + if late then 1 else 0

/-- What leads from one endpoint to another is in balance. -/
theorem balances_leads {e e' : Endpoint} (hleads : Leads e e') (hr : e.readyState ≠ .connecting)
    {late : Prop} [Decidable late] (htimely : ¬late) :
    Balances late e.view e'.view ∧ e'.readyState ≠ .connecting := by
  obtain ⟨⟨as, hsteps⟩, hr'⟩ := hleads hr
  refine ⟨?_, hr'⟩
  rw [Balances, if_neg htimely]
  exact hsteps.closings

/-- A close frame handled too late calls the callback again. -/
theorem balances_late {e : Endpoint} {f : Frame} (hopcode : f.opcode = .close)
    (hclosed : e.readyState = .closed) {late : Prop} [Decidable late] (hlate : late) :
    Balances late e.view (e.handleFrame env f).view ∧
      (e.handleFrame env f).readyState ≠ .connecting := by
  have hview : (e.handleFrame env f).view = (.closed, e.view.2 ++ [.close]) := by
    rw [Endpoint.handleFrame, hopcode]
    exact Endpoint.view_onClose env f.payload (by rw [hclosed]; simp)
  have hstate : (e.handleFrame env f).readyState = .closed := congrArg Prod.fst hview
  refine ⟨?_, by rw [hstate]; simp⟩
  have howed : View.owed e.view = 1 := if_pos hclosed
  have howed' : View.owed (.closed, e.view.2 ++ [.close]) = 1 := rfl
  rw [Balances, if_pos hlate, hview, howed, howed']
  simp only [View.closings, List.count_append, List.count_singleton_self]

/-- A set is late when the transport is CLOSED. -/
theorem balances_set (code : Nat) (reason : StdString) (e : Endpoint) {late : Prop}
    [Decidable late] (hlate : late ↔ e.readyState = .closed) :
    Balances late e.view (e.setClosing code reason).view := by
  have howed : View.owed e.view = if late then 1 else 0 := by simp only [hlate]; rfl
  have howed' : View.owed (.closing, e.calls.map Call.callback) = 0 := rfl
  rw [Balances, Endpoint.view_setClosing, howed, howed', Nat.add_zero]
  rfl

/-- **Every step is in balance.** -/
theorem balances_step {l l' : Live} {a : LiveAction} (hr : l.connection.readyState ≠ .connecting)
    (hstep : (live env).step l a = some l') :
    Balances (Late l a) l.view l'.view ∧ l'.connection.readyState ≠ .connecting := by
  cases a with
  | clearStreaming =>
      cases hstep
      exact balances_leads (.refl _) hr (by simp [Late])
  | library a =>
      obtain ⟨c, hc, rfl⟩ := Option.map_eq_some_iff.mp hstep
      have hmoves := Connection.moves_of_step env hc
      by_cases hset : a = .closeSet
      · subst hset
        cases hmoves with
        | set hsetting =>
            refine ⟨balances_set _ _ _ (by simp [Late]), ?_⟩
            simp only [Endpoint.readyState_setClosing]
            decide
      · by_cases hlate : Late l (.library a)
        · -- a close frame, since nothing is set
          obtain ⟨hround, hclose⟩ := hlate.resolve_right fun hset' =>
            hset (LiveAction.library.inj hset'.1)
          cases hround
          cases hmoves with
          | frame hphase hnext =>
              simp only [Connection.lateClose, hnext, Bool.and_eq_true, decide_eq_true_eq] at hclose
              exact balances_late env hclose.1 hclose.2 hlate
          | noHeader hphase hnext | noFrame hphase hnext | stuck hphase hnext =>
              simp [Connection.lateClose, hnext] at hclose
        · refine balances_leads (leads_of_moves env hmoves hset fun hround => ?_) hr hlate
          rw [← Bool.not_eq_true]
          exact fun hclose => hlate (.inl ⟨congrArg _ hround, hclose⟩)

/--
**Close is delivered once, and once more for each late step.**  Over every run from an OPEN
transport, the callback has been called with Close once if the transport is CLOSED, and once more
for every time it became CLOSING in the state CLOSED.  So a connection that has ended has
delivered it exactly once if and only if no step was late: no close frame handled when CLOSED,
such as the second of two in one read, and no call of `close` that set the ready state when the
loop had closed the transport since the look.
-/
theorem close_once_iff {l l' : Live} (hopened : l.connection.readyState = .opened)
    (hcalls : l.connection.calls = []) {as : List LiveAction}
    (hrun : (live env).run l as = some l') :
    l'.connection.closings
        = (if l'.connection.readyState = .closed then 1 else 0) + (live env).countSteps Late l as ∧
      (l'.connection.readyState = .closed →
        (l'.connection.closings = 1 ↔ (live env).AllSteps (fun l a => ¬Late l a) l as)) := by
  have hconnected : l.connection.readyState ≠ .connecting := by
    rw [hopened]
    simp
  have hstep (s : Live) (a : LiveAction) (s' : Live) (hr : s.connection.readyState ≠ .connecting)
      (hstep : (live env).step s a = some s') : View.closings s'.view + View.owed s.view
        = View.closings s.view + View.owed s'.view + if Late s a then 1 else 0 :=
    (balances_step env hr hstep).1
  have hbalance := System.balance_run (fun _ _ _ hr hstep => (balances_step env hr hstep).2) hstep
    hconnected hrun
  have hview : l.view = (.opened, []) := by
    rw [Live.view, Endpoint.view, hopened, hcalls]
    rfl
  have hnone : View.owed l.view = 0 ∧ View.closings l.view = 0 := by
    rw [hview]
    exact ⟨rfl, rfl⟩
  have hclosings : View.closings l'.view = l'.connection.closings := closings_view _
  have howed : View.owed l'.view = if l'.connection.readyState = .closed then 1 else 0 := rfl
  have hcount : l'.connection.closings = (if l'.connection.readyState = .closed then 1 else 0) +
      (live env).countSteps Late l as := by
    omega
  refine ⟨hcount, fun hclosed => ?_⟩
  rw [hcount, if_pos hclosed, ← System.countSteps_eq_zero_iff]
  omega

/-- `close` looks at a transport that is OPEN; the server's close frame is handled; `close` sets
the ready state and sends its frame, and the closing delay runs out. -/
theorem close_once_iff_lateSet : ∃ l', (live Transport.client).run
      ⟨{ fragmentedMessageKind := .msgBinary, incoming := [0x88, 0x02, 0x03, 0xe8] }, true⟩
      [.library .proceed, .library (.closeLook 1000 []),
        .library (.poll (.readyForRead [4] false) false), .library .round, .library .closeSet,
        .library .closeSend, .library .round, .library .proceed, .library (.poll .error true),
        .library .round, .library .proceed] = some l' ∧
    l'.connection.phase = .returned ∧ l'.connection.closings = 2 := by
  have hend : ((live Transport.client).run
      ⟨{ fragmentedMessageKind := .msgBinary, incoming := [0x88, 0x02, 0x03, 0xe8] }, true⟩
      [.library .proceed, .library (.closeLook 1000 []),
        .library (.poll (.readyForRead [4] false) false), .library .round, .library .closeSet,
        .library .closeSend, .library .round, .library .proceed, .library (.poll .error true),
        .library .round, .library .proceed]).map
      (fun l => (l.connection.phase, l.connection.readyState)) = some (.returned, .closed) := by
    decide +kernel
  obtain ⟨l', hrun, hend⟩ := Option.map_eq_some_iff.mp hend
  obtain ⟨hphase, hclosed⟩ := Prod.mk.inj hend
  have hcount := (close_once_iff Transport.client rfl rfl hrun).1
  rw [if_pos hclosed] at hcount
  exact ⟨l', hrun, hphase, hcount.trans (by decide +kernel)⟩

end

end AisLive.WebSocket
