/-
The end of the dialog.

`~DialogMainGui` stops the stream if there is one, `~AisStreamClient` stops once more, and the
event handler takes the pending events with it.  The callbacks of the client hold a pointer to
the dialog, so all that matters is that no supervisor is left to call them, and that
`m_thread` can be destroyed, which ends the process if the thread is still joinable.

`destroyed_gone` is that, in every interleaving; it needs that the first `Stop` has joined
before the second begins, which is `Ending`.  The second `Stop` finds nothing, and
`destruction_completes` says that it never waits.
-/
import AisLive.Stream.Label

namespace AisLive

open Json Transition

/-- The statements of a `Stop` that no `Start` follows. -/
def Caller.stopsOnly {D : Type} : Caller D → Bool
  | idle => true
  | stopFlag none => true
  | stopLook none => true
  | closeRaise none _ => true
  | closeLook none _ => true
  | closeWake none _ => true
  | closeSet none _ => true
  | stopJoin none _ _ => true
  | _ => false

namespace Client

variable {D : Type} [Double D] {parse : StdString → Option Value}

/-- A `Stop` goes on to its return, which leaves streaming not wanted. -/
theorem stopsOnly_step {s s' : Client D} {a : Action D} (hcoh : s.Coherent)
    (ha : Gui.continues a = true) (hstops : s.caller.stopsOnly = true)
    (hidle : s.caller = .idle → s.streaming = false) (hstep : (system parse).step s a = some s') :
    s'.caller.stopsOnly = true ∧ (s'.caller = .idle → s'.streaming = false) := by
  obtain ⟨-, hmove⟩ := move_of_step hstep
  cases hmove with
  | setToken | setTokenEnabled | start | stop | restart => cases ha
  | supervisor => exact ⟨hstops, hidle⟩
  | @clearFlag next hc | @lookNone next hc | @lookSome next _ hc | @raiseRequest next _ hc
    | @sawClosed next _ _ hc | @sawOpen next _ _ hc | @wakePoll next _ _ hc | @setClosing next _ hc =>
      rw [hc] at hstops
      cases next with
      | none => exact ⟨rfl, nofun⟩
      | some args => cases hstops
  | @join next found mark hc =>
      have hs : s.streaming = false := hcoh.stopping (by rw [hc]; rfl)
      rw [hc] at hstops
      cases next with
      | none => exact ⟨rfl, fun _ => hs⟩
      | some args => cases hstops
  | startBusy hc | startFree hc | refuse hc | accept hc | reap hc | setCallback hc | setFlag hc
    | spawnTwice hc | spawn hc | restartBusy hc | restartIdle hc =>
      rw [hc] at hstops
      cases hstops

end Client

namespace Gui

variable {D : Type} [Double D] {parse : StdString → Option Value}

/-! ### What each part of the destruction leaves behind -/

/-- Streaming is not wanted, no supervisor is left, and no call that could spawn one is under
way. -/
structure Over (client : Client D) : Prop where
  streaming : client.streaming = false
  quiet : client.threads.Quiet
  caller : client.caller.harmless = true

/-- How far the destruction has come. -/
structure Ending (s : Gui D) : Prop where
  coherent : s.client.Coherent
  /-- `StopAisStream()` in `~DialogMainGui`. -/
  stopping : s.phase = .stopping → s.client.caller.stopsOnly = true ∧
    (s.client.caller = .idle → s.client.streaming = false)
  /-- `Stop()` in `~AisStreamClient`, on a client the first one has left at rest. -/
  closing : s.phase = .closing → Over s.client
  destroyed : s.phase = .destroyed → Over s.client ∧ s.pending = []

omit [Double D] in
theorem ending_opened : Ending (opened : Gui D) :=
  ⟨Client.coherent_init, nofun, nofun, nofun⟩

theorem Over.step {client client' : Client D} {a : Action D} (h : Over client)
    (ha : a.starts = false) (hstep : (Client.system parse).step client a = some client') :
    Over client' := by
  have hd : client.Dormant client.log := ⟨h.streaming, h.quiet, rfl, h.caller⟩
  have hd' := Client.dormant_step hd ha hstep
  exact ⟨hd'.streaming, hd'.quiet, hd'.caller⟩

omit [Double D] in
/-- Between calls a client that is not to stream is at rest. -/
theorem over_of_idle {client : Client D} (hcoh : client.Coherent) (hidle : client.caller = .idle)
    (hs : client.streaming = false) : Over client := by
  rw [Client.Coherent, hidle] at hcoh
  rcases hcoh with ⟨-, hq⟩ | ⟨hs', -⟩
  · exact ⟨hs, hq, by rw [hidle]; rfl⟩
  · rw [hs] at hs'
    cases hs'

theorem ending_step {s s' : Gui D} {a : GuiAction D} (h : s.Ending)
    (hstep : (system parse).step s a = some s') : s'.Ending := by
  cases move_of_step hstep with
  | @client b client hphase hst =>
      have hcoh := Client.coherent_step h.coherent hst
      have hcont : s.phase ≠ .alive → continues b = true := fun hne =>
        (hphase.resolve_left hne).2
      refine ⟨hcoh, fun hp => ?_, fun hp => ?_, fun hp => ?_⟩
      · have hp' : s.phase = .stopping := hp
        have hb := hcont (by rw [hp']; nofun)
        obtain ⟨hstops, hidle⟩ := h.stopping hp'
        exact Client.stopsOnly_step h.coherent hb hstops hidle hst
      · have hp' : s.phase = .closing := hp
        have hb := hcont (by rw [hp']; nofun)
        refine (h.closing hp').step ?_ hst
        cases b with
        | start => cases hb
        | _ => rfl
      · have hp' : s.phase = .destroyed := hp
        rcases hphase with halive | ⟨hne, -⟩
        · rw [halive] at hp'
          cases hp'
        · exact absurd hp' hne
  | sentence hfree | report hfree =>
      refine ⟨h.coherent, fun hp => ?_, fun hp => ?_, fun hp => ?_⟩ <;>
        exact absurd (hfree.1.symm.trans hp) (by nofun)
  | @destroyStreaming client hfree hs hst =>
      have hcoh := Client.coherent_step h.coherent hst
      refine ⟨hcoh, fun _ => ?_, nofun, nofun⟩
      have hmove := (Client.move_of_step hst).2
      cases hmove with
      | stop => exact ⟨rfl, nofun⟩
  | destroyIdle hfree hs =>
      refine ⟨h.coherent, fun _ => ?_, nofun, nofun⟩
      have hcaller := caller_of_idle hfree.2
      exact ⟨by rw [hcaller]; rfl, fun _ => hs⟩
  | @stopAgain client hphase hidle hst =>
      have hcaller := caller_of_idle hidle
      have hover := over_of_idle h.coherent hcaller ((h.stopping hphase).2 hcaller)
      exact ⟨Client.coherent_step h.coherent hst, nofun, fun _ => hover.step rfl hst, nofun⟩
  | drop hphase hidle =>
      exact ⟨h.coherent, nofun, nofun, fun _ => ⟨h.closing hphase, rfl⟩⟩

theorem ending_of_reach {s : Gui D} (h : (system parse).Reach opened s) : s.Ending :=
  h.invariant ending_opened fun _ _ _ hs hstep => ending_step hs hstep

/-! ### The dialog is gone -/

variable (parse) in
/-- Nothing is left that could use the dialog. -/
structure Gone (s : Gui D) : Prop where
  exited : ∀ v ∈ s.client.supervisors, v.pc = .exited
  /-- No supervisor, whatever the network does, can call back. -/
  silent : ∀ i a, (Client.system parse).step s.client (.supervisor i a) = none
  /-- Destroying a joinable `std::thread` terminates. -/
  thread : s.client.thread = none
  socket : s.client.socket = none
  pending : s.pending = []

theorem Over.silent {client : Client D} (h : Over client) (i : Nat) (a : RunAction) :
    (Client.system parse).step client (.supervisor i a) = none := by
  cases hstep : (Client.system parse).step client (.supervisor i a) with
  | none => rfl
  | some client' =>
      have hmove := (Client.move_of_step hstep).2
      cases hmove with
      | supervisor hv hm => exact absurd hm (h.quiet.not_move hv)

theorem Over.gone {s : Gui D} (h : Over s.client) (hpending : s.pending = []) : s.Gone parse :=
  ⟨h.quiet.exited, h.silent, h.quiet.thread, h.quiet.socket, hpending⟩

/--
**Nothing is left behind a destroyed dialog.**  In every state reached by any calls, any
supervisors and network and any order of dispatching, in which the dialog has been destroyed:
every supervisor has exited and none can take a step, no thread is joinable, no socket is
published and no event is pending.
-/
theorem destroyed_gone (parse : StdString → Option Value) (s : Gui D)
    (hreach : (system parse).Reach opened s) (hphase : s.phase = .destroyed) : s.Gone parse := by
  obtain ⟨hover, hpending⟩ := (ending_of_reach hreach).destroyed hphase
  exact hover.gone hpending

/-! ### The second `Stop` never waits -/

/-- A step of the client that may be taken during the destruction. -/
theorem step_client {s : Gui D} {a : Action D} {client : Client D} (hphase : s.phase ≠ .destroyed)
    (ha : continues a = true) (hstep : (Client.system parse).step s.client a = some client) :
    (system parse).step s (.client a) = some (s.queued client) := by
  simp only [system]
  rw [if_pos (.inr ⟨hphase, ha⟩), clientStep, hstep]
  rfl

/-- A run of the client that may be taken during the destruction. -/
theorem run_client {s : Gui D} {actions : List (Action D)} {client : Client D}
    (hphase : s.phase ≠ .destroyed) (hcont : ∀ a ∈ actions, continues a = true)
    (hrun : (Client.system parse).run s.client actions = some client) :
    ∃ s', (system parse).run s (actions.map .client) = some s' ∧ s'.client = client ∧
      s'.phase = s.phase ∧ s'.sent = s.sent := by
  induction actions generalizing s with
  | nil =>
      rw [System.run_nil, Option.some.injEq] at hrun
      exact ⟨s, rfl, hrun, rfl, rfl⟩
  | cons a actions ih =>
      rw [System.run_cons] at hrun
      obtain ⟨next, hstep, hrest⟩ := Option.bind_eq_some_iff.mp hrun
      have ha := hcont a List.mem_cons_self
      obtain ⟨s', hrun', hclient, hsame, hsent⟩ := ih (s := s.queued next) hphase
        (fun b hb => hcont b (List.mem_cons_of_mem a hb)) hrest
      refine ⟨s', ?_, hclient, hsame, hsent⟩
      rw [List.map_cons, System.run_cons, step_client hphase ha hstep]
      exact hrun'

/-- With no thread to join and no socket to close, `Stop` is three statements. -/
theorem run_stop {client : Client D} (h : Over client) (hterminated : client.terminated = false)
    (hcaller : client.caller = .stopFlag none) :
    (Client.system parse).run client (List.replicate 3 .caller)
      = some { client with caller := .idle } := by
  have hsocket : client.socket = none := h.quiet.socket
  have hthread : client.thread = none := h.quiet.thread
  have hclear : (Client.system parse).step client .caller
      = some { client with streaming := false, caller := .stopLook none } := by
    simp [Client.system, Client.callerStep, hterminated, hcaller]
  have hlook : (Client.system parse).step { client with streaming := false, caller := .stopLook none }
      .caller = some { client with
        streaming := false, caller := .stopJoin none none client.log.length } := by
    simp [Client.system, Client.callerStep, hterminated, hsocket]
  have hjoin : (Client.system parse).step { client with
      streaming := false, caller := .stopJoin none none client.log.length } .caller
        = some { client with streaming := false, thread := none, caller := .idle } := by
    simp [Client.system, Client.callerStep, hterminated, hthread, Client.joinable?, Client.afterStop]
  simp only [List.replicate, System.run_cons, hclear, hlook, hjoin, Option.bind_some, System.run_nil]
  rw [← h.streaming, ← hthread]

/-- The rest of the destruction, from the call of the second `Stop`. -/
def secondStop : List (GuiAction D) :=
  .destruct :: (List.replicate 3 .caller).map .client ++ [.destruct]

/--
**The destruction comes to its end.**  From every state reached in which `StopAisStream()` has
returned to the destructor, the process still running, the rest of the destruction goes through
without waiting for any thread: it drops what is pending, sends nothing more, and nothing is
left behind.
-/
theorem destruction_completes (parse : StdString → Option Value) (s : Gui D)
    (hreach : (system parse).Reach opened s) (hphase : s.phase = .stopping)
    (hidle : s.idle = true) (hterminated : s.client.terminated = false) :
    ∃ s', (system parse).run s secondStop = some s' ∧ s'.phase = .destroyed ∧ s'.sent = s.sent ∧
      s'.Gone parse := by
  have hending := ending_of_reach hreach
  have hcaller := caller_of_idle hidle
  have hover := over_of_idle hending.coherent hcaller ((hending.stopping hphase).2 hcaller)
  have hcall : (Client.system parse).step s.client .stop
      = some { s.client with caller := .stopFlag none } := by
    simp [Client.system, Client.enter, hterminated, hcaller]
  have hdestruct : (system parse).step s .destruct
      = some { s.queued { s.client with caller := .stopFlag none } with phase := .closing } := by
    simp only [system]
    rw [if_pos hidle, hphase]
    simp only [clientStep, hcall]
    rfl
  have hover' : Over { s.client with caller := .stopFlag none } := hover.step rfl hcall
  have hcont : ∀ a ∈ List.replicate 3 (.caller : Action D), continues a = true := by
    intro a ha
    rw [List.eq_of_mem_replicate ha]
    rfl
  have hstop := @run_stop D _ parse _ hover' hterminated rfl
  obtain ⟨t, hrun, hclient, hclosing, hsent⟩ := run_client
    (s := { s.queued { s.client with caller := .stopFlag none } with phase := .closing })
    (by simp) hcont hstop
  have hquiet : Over t.client := by
    rw [hclient]
    exact ⟨hover.streaming, hover.quiet, rfl⟩
  have hdrop : (system parse).step t .destruct
      = some { t with phase := .destroyed, pending := [] } := by
    have hidle' : t.idle = true := by rw [idle, hclient]
    simp only [system]
    rw [if_pos hidle', hclosing]
  refine ⟨{ t with phase := .destroyed, pending := [] }, ?_, rfl, hsent,
    Over.gone (s := { t with phase := .destroyed, pending := [] }) hquiet rfl⟩
  rw [secondStop, List.cons_append, System.run_cons, hdestruct, Option.bind_some, System.run_append,
    hrun, Option.bind_some, System.run_cons, hdrop, Option.bind_some, System.run_nil]

/-- A session, and the destruction of the dialog while it is open, up to the second `Stop`. -/
noncomputable def destroyedRun : List (GuiAction ℝ) :=
  (Client.startCall ++ sessionSteps 0 "A" 2).map .client ++ [.dispatch, .destroy] ++
    stopSteps.tail.map .client

/-- The stream is stopped with four events pending. -/
theorem destruction_completes_session :
    ∃ s, (system parseEvents).run opened destroyedRun = some s ∧ s.pending.length = 4 ∧
      ∃ s', (system parseEvents).run s secondStop = some s' ∧ s'.phase = .destroyed ∧
        s'.sent = s.sent ∧ s'.Gone parseEvents := by
  have hview : ((system parseEvents).run opened destroyedRun).map
      (fun s => (s.pending.length, s.phase, s.idle, s.client.terminated))
        = some (4, .stopping, true, false) := by
    decide +kernel
  obtain ⟨s, hrun, hs⟩ := Option.map_eq_some_iff.mp hview
  simp only [Prod.mk.injEq] at hs
  obtain ⟨hlength, hphase, hidle, hterminated⟩ := hs
  exact ⟨s, hrun, hlength, destruction_completes parseEvents s (System.reach_of_run hrun) hphase
    hidle hterminated⟩

/-- The whole destruction. -/
theorem destroyed_gone_session :
    ∃ s, (system parseEvents).run opened (destroyedRun ++ secondStop) = some s ∧
      s.Gone parseEvents := by
  have hview : ((system parseEvents).run opened (destroyedRun ++ secondStop)).map Gui.phase
      = some .destroyed := by
    decide +kernel
  obtain ⟨s, hrun, hphase⟩ := Option.map_eq_some_iff.mp hview
  exact ⟨s, hrun, destroyed_gone parseEvents s (System.reach_of_run hrun) hphase⟩

end Gui

end AisLive
