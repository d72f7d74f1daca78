/-
What the dialog says of its stream.

Two things come out of the pending events: sentences for OpenCPN and reports for the label
of the stream state.  Nothing is lost on the way.  What has been sent, what is pending and
what the event under way still has to hand over are together what was emitted, and what
has been shown and what is pending are together what was reported.

So once the queue is empty the label is true.  Without a stream it says Stopped, or why the
last `Start` was refused, or that nothing was ever started; with one it says what the live
supervisor reported last, and never Stopped.
-/
import AisLive.Stream.Delivery

namespace AisLive

open Json Transition

/-- The report a queued call passes to `OnAisStreamStateChanged`. -/
def Pending.report? : Pending → Option Report
  | onAisStreamStateChanged r => some r
  | _ => none

/-- The label a new dialog has. -/
def initialLabel : WxString := wx "Not running"

/-- The label after these reports. -/
def labelAfter (shown : List Report) : WxString :=
  match shown.getLast? with
  | none => initialLabel
  | some r => onAisStreamStateChanged r

theorem labelAfter_concat (shown : List Report) (r : Report) :
    labelAfter (shown ++ [r]) = onAisStreamStateChanged r := by
  rw [labelAfter, List.getLast?_concat]

/-- **Stopped is said of a stopped stream alone**, whatever the detail of an error. -/
theorem onAisStreamStateChanged_eq_stopped_iff (r : Report) :
    onAisStreamStateChanged r = wx "Stopped" ↔ r.state = .stopped := by
  unfold onAisStreamStateChanged
  constructor
  · intro h
    split at h
    case h_1 hstate => exact hstate
    case h_2 | h_3 => cases h
    case h_4 =>
      split at h
      · cases h
      · have hhead := congrArg List.head? h
        cases hhead
  · intro h
    rw [h]

/-- Every report replaces the label a new dialog has. -/
theorem onAisStreamStateChanged_ne_initialLabel (r : Report) :
    onAisStreamStateChanged r ≠ initialLabel := by
  unfold onAisStreamStateChanged
  intro h
  split at h
  case h_1 | h_2 | h_3 => cases h
  case h_4 =>
    split at h
    · cases h
    · have hhead := congrArg List.head? h
      cases hhead

/-- The reports that have been made, whoever made them. -/
def reported (log : List Observed) : List Report := (reports log).map Prod.snd

theorem reported_append (log log' : List Observed) :
    reported (log ++ log') = reported log ++ reported log' := by
  rw [reported, reports_append, List.map_append]
  rfl

/-- Before its last report a supervisor does not say Stopped. -/
theorem OpenBlock.ne_stopped {b : List Report} (h : OpenBlock b) :
    ∀ r ∈ b, r.state ≠ .stopped := by
  intro r hr
  cases h with
  | empty => cases hr
  | started hrest =>
      rcases List.mem_cons.mp hr with rfl | hr
      · nofun
      · exact hrest r hr

namespace Gui

variable {D : Type} [Double D] {parse : StdString → Option Value}

/-! ### Every step of the dialog, once -/

/-- The dialog after a step of its client, with what the callbacks have queued. -/
def queued (s : Gui D) (client : Client D) : Gui D :=
  { s with
    client := client
    pending := s.pending ++ (client.log.drop s.client.log.length).filterMap fun e => e.2.pending? }

/-- The dialog is alive and the calling thread in its event loop. -/
def Free (s : Gui D) : Prop := s.phase = .alive ∧ s.idle = true

variable (parse) in
/-- The steps of the dialog and its client. -/
inductive Move (s : Gui D) : GuiAction D → Gui D → Prop
  | client {a : Action D} {client : Client D}
      (hphase : s.phase = .alive ∨ (s.phase ≠ .destroyed ∧ continues a = true))
      (hstep : (Client.system parse).step s.client a = some client) :
      Move s (.client a) (s.queued client)
  | sentence {t : WxString} {rest : List Pending} (hfree : s.Free)
      (hpending : s.pending = .sendNmeaSentence t :: rest) :
      Move s .dispatch { s with pending := rest, sent := s.sent ++ [t] }
  | report {r : Report} {rest : List Pending} (hfree : s.Free)
      (hpending : s.pending = .onAisStreamStateChanged r :: rest) :
      Move s .dispatch { s with pending := rest, label := onAisStreamStateChanged r }
  | destroyStreaming {client : Client D} (hfree : s.Free) (hs : s.client.streaming = true)
      (hstep : (Client.system parse).step s.client .stop = some client) :
      Move s .destroy { s.queued client with phase := .stopping }
  | destroyIdle (hfree : s.Free) (hs : s.client.streaming = false) :
      Move s .destroy { s with phase := .stopping }
  | stopAgain {client : Client D} (hphase : s.phase = .stopping) (hidle : s.idle = true)
      (hstep : (Client.system parse).step s.client .stop = some client) :
      Move s .destruct { s.queued client with phase := .closing }
  | drop (hphase : s.phase = .closing) (hidle : s.idle = true) :
      Move s .destruct { s with phase := .destroyed, pending := [] }

theorem clientStep_eq_some {s s' : Gui D} {a : Action D} (h : s.clientStep parse a = some s') :
    ∃ client, (Client.system parse).step s.client a = some client ∧ s' = s.queued client := by
  unfold clientStep at h
  split at h
  · cases h
  · rename_i client hclient
    cases h
    exact ⟨client, hclient, rfl⟩

/-- **A step of the dialog is one of the moves.** -/
theorem move_of_step {s s' : Gui D} {a : GuiAction D} (h : (system parse).step s a = some s') :
    Move parse s a s' := by
  simp only [system] at h
  cases a with
  | client a =>
      simp only at h
      split at h
      · rename_i hphase
        obtain ⟨client, hstep, rfl⟩ := clientStep_eq_some h
        exact .client hphase hstep
      · cases h
  | dispatch =>
      simp only at h
      split at h
      · rename_i hfree
        split at h
        · cases h
        · rename_i hpending
          cases h
          exact .sentence hfree hpending
        · rename_i hpending
          cases h
          exact .report hfree hpending
      · cases h
  | destroy =>
      simp only at h
      split at h
      · rename_i hfree
        split at h
        · rename_i hs
          obtain ⟨t, ht, rfl⟩ := Option.map_eq_some_iff.mp h
          obtain ⟨client, hstep, rfl⟩ := clientStep_eq_some ht
          exact .destroyStreaming hfree hs hstep
        · rename_i hs
          cases h
          exact .destroyIdle hfree (Bool.eq_false_iff.mpr hs)
      · cases h
  | destruct =>
      simp only at h
      split at h
      · rename_i hidle
        split at h
        · rename_i hphase
          obtain ⟨t, ht, rfl⟩ := Option.map_eq_some_iff.mp h
          obtain ⟨client, hstep, rfl⟩ := clientStep_eq_some ht
          exact .stopAgain hphase hidle hstep
        · rename_i hphase
          cases h
          exact .drop hphase hidle
        · cases h
      · cases h

/-- The client moves by its own steps alone. -/
theorem client_step {s s' : Gui D} {a : GuiAction D} (h : (system parse).step s a = some s') :
    s'.client = s.client ∨ ∃ b, (Client.system parse).step s.client b = some s'.client := by
  cases move_of_step h with
  | client hphase hstep => exact .inr ⟨_, hstep⟩
  | destroyStreaming hfree hs hstep => exact .inr ⟨_, hstep⟩
  | stopAgain hphase hidle hstep => exact .inr ⟨_, hstep⟩
  | _ => exact .inl rfl

/-- The client of a dialog is one its own system reaches. -/
theorem client_reach {s₀ s : Gui D} (h₀ : s₀.client = {}) (h : (system parse).Reach s₀ s) :
    (Client.system parse).Reach {} s.client := by
  refine h.invariant (I := fun s => (Client.system parse).Reach {} s.client) ?_ ?_
  · rw [h₀]
    exact .refl
  · intro s a s' hs hstep
    rcases client_step hstep with heq | ⟨b, hb⟩
    · rwa [heq]
    · exact hs.tail hb

/-! ### Nothing is lost -/

/-- A new dialog. -/
def opened : Gui D := { label := initialLabel }

omit [Double D] in
theorem filterMap_report (log : List Observed) :
    (log.filterMap fun e => e.2.pending?).filterMap Pending.report? = reported log := by
  rw [List.filterMap_filterMap, reported, reports, List.map_filterMap]
  refine List.filterMap_congr fun e _ => ?_
  cases e.2 <;> rfl

/-- What has been shown and what is pending are together what was reported. -/
structure Showing (s : Gui D) (shown : List Report) : Prop where
  label : s.label = labelAfter shown
  pending : s.phase ≠ .destroyed →
    shown ++ s.pending.filterMap Pending.report? = reported s.client.log

omit [Double D] in
theorem Showing.setPhase {s : Gui D} {shown : List Report} (h : s.Showing shown)
    (hphase : s.phase ≠ .destroyed) (phase : DialogPhase) : Showing { s with phase } shown :=
  ⟨h.label, fun _ => h.pending hphase⟩

/-- A step of the client queues the reports it makes. -/
theorem Showing.queued {s : Gui D} {shown : List Report} {client : Client D} {a : Action D}
    (h : s.Showing shown) (hphase : s.phase ≠ .destroyed)
    (hstep : (Client.system parse).step s.client a = some client) :
    (s.queued client).Showing shown := by
  obtain ⟨evs, hlog⟩ := Client.log_step hstep
  refine ⟨h.label, fun _ => ?_⟩
  have hnew : client.log.drop s.client.log.length = evs := by rw [hlog, List.drop_left]
  show shown ++ (s.pending ++ _).filterMap Pending.report? = reported client.log
  rw [hnew, List.filterMap_append, filterMap_report, ← List.append_assoc, h.pending hphase, hlog,
    reported_append]

theorem showing_step {s s' : Gui D} {a : GuiAction D} {shown : List Report}
    (h : s.Showing shown) (hstep : (system parse).step s a = some s') :
    ∃ more, s'.Showing (shown ++ more) := by
  have hsame : ∀ {t : Gui D}, t.Showing shown → ∃ more, t.Showing (shown ++ more) :=
    fun ht => ⟨[], by rwa [List.append_nil]⟩
  cases move_of_step hstep with
  | client hphase hst =>
      refine hsame (h.queued ?_ hst)
      rcases hphase with hphase | hphase
      · rw [hphase]
        nofun
      · exact hphase.1
  | sentence hfree hpending =>
      refine hsame ⟨h.label, fun _ => ?_⟩
      rw [← h.pending (by rw [hfree.1]; nofun), hpending]
      rfl
  | @report r rest hfree hpending =>
      refine ⟨[r], (labelAfter_concat shown r).symm, fun _ => ?_⟩
      rw [← h.pending (by rw [hfree.1]; nofun), hpending, List.append_assoc]
      rfl
  | destroyStreaming hfree hs hst =>
      have halive : s.phase ≠ .destroyed := by rw [hfree.1]; nofun
      exact hsame ((h.queued halive hst).setPhase halive _)
  | destroyIdle hfree hs => exact hsame (h.setPhase (by rw [hfree.1]; nofun) _)
  | stopAgain hphase hidle hst =>
      have halive : s.phase ≠ .destroyed := by rw [hphase]; nofun
      exact hsame ((h.queued halive hst).setPhase halive _)
  | drop => exact hsame ⟨h.label, fun hne => absurd rfl hne⟩

theorem showing_of_reach {s : Gui D} (h : (system parse).Reach opened s) :
    ∃ shown, s.Showing shown := by
  refine h.invariant (I := fun s : Gui D => ∃ shown, s.Showing shown) ⟨[], rfl, fun _ => rfl⟩ ?_
  rintro s a s' ⟨shown, hs⟩ hstep
  obtain ⟨more, hmore⟩ := showing_step hs hstep
  exact ⟨_, hmore⟩

theorem delivering_of_reach {s : Gui D} (h : (system parse).Reach opened s) :
    s.Delivering parse :=
  h.invariant ⟨Client.publishing_init, List.prefix_refl _, fun _ => rfl⟩
    fun _ _ _ hs hstep => delivering_step hs hstep

/-- **Every sentence emitted is sent, pending or in hand.** -/
theorem sent_pending_unpublished {s : Gui D} (h : (system parse).Reach opened s)
    (hphase : s.phase ≠ .destroyed) :
    s.sent ++ s.pending.filterMap Pending.sentence? ++ s.client.unpublished
      = s.client.emitted parse := by
  have hdel := delivering_of_reach h
  rw [hdel.pending hphase, hdel.publishing.said]

/-! ### The client at rest -/

/-- Outside the client, with no stream. -/
structure Resting (s : Gui D) : Prop where
  idle : s.idle = true
  streaming : s.client.streaming = false

omit [Double D] in
theorem caller_of_idle {s : Gui D} (h : s.idle = true) : s.client.caller = .idle := by
  unfold idle at h
  split at h
  · assumption
  · cases h

theorem settled_of_idle {s : Gui D} (h : (system parse).Reach opened s) (hidle : s.idle = true) :
    s.client.Settled := by
  have hcoh := Client.coherent_of_reach (client_reach rfl h)
  rwa [Client.Coherent, caller_of_idle hidle] at hcoh

theorem Resting.quiet {s : Gui D} (h : s.Resting) (hreach : (system parse).Reach opened s) :
    s.client.threads.Quiet := by
  rcases settled_of_idle hreach h.idle with ⟨-, hq⟩ | ⟨hs, -⟩
  · exact hq
  · rw [h.streaming] at hs
    cases hs

/-- Without a supervisor nothing is in hand. -/
theorem Resting.unpublished {s : Gui D} (h : s.Resting) (hreach : (system parse).Reach opened s) :
    s.client.unpublished = [] :=
  Client.flatMap_unpublished (delivering_of_reach hreach).publishing.inRun (h.quiet hreach).exited

/-- What ends the reports of a client at rest: nothing, a refusal, or the end of a block. -/
theorem getLast?_blocks {n : Nat} {log : Reports} (h : Blocks n log) :
    (n = 0 ∧ log = []) ∨ log.getLast? = some (none, refusal) ∨
      ∃ i, log.getLast? = some (some i, ⟨.stopped, []⟩) := by
  cases h with
  | nil => exact .inl ⟨rfl, rfl⟩
  | refusal => exact .inr (.inl List.getLast?_concat)
  | @block n _ _ _ hb =>
      obtain ⟨b', -, rfl⟩ := hb
      refine .inr (.inr ⟨n, ?_⟩)
      rw [List.map_append, ← List.append_assoc]
      exact List.getLast?_concat

/-- The reports so far come from supervisors spawned so far. -/
theorem lt_of_mem_blocks {n i : Nat} {log : Reports} {r : Report} (h : Blocks n log)
    (hr : (some i, r) ∈ log) : i < n := by
  induction h with
  | nil => cases hr
  | refusal _ ih =>
      rcases List.mem_append.mp hr with hr | hr
      · exact ih hr
      · simp at hr
  | @block n log b _ hb ih =>
      rcases List.mem_append.mp hr with hr | hr
      · exact Nat.lt_succ_of_lt (ih hr)
      · obtain ⟨r', -, heq⟩ := List.mem_map.mp hr
        cases heq
        exact Nat.lt_succ_self i

omit [Double D] in
/-- With nothing pending the label shows the last report. -/
theorem Showing.label_eq {s : Gui D} {shown : List Report} (h : s.Showing shown)
    (hphase : s.phase ≠ .destroyed) (hdrained : s.pending.filterMap Pending.report? = []) :
    s.label = labelAfter (reported s.client.log) := by
  rw [h.label, ← h.pending hphase, hdrained, List.append_nil]

theorem labelAfter_of_getLast? {log : List Observed} {e : Option Nat × Report}
    (h : (reports log).getLast? = some e) :
    labelAfter (reported log) = onAisStreamStateChanged e.2 := by
  rw [labelAfter, reported, List.getLast?_map, h]
  rfl

/-- **What the label says** once no report is pending. -/
structure LabelTrue (s : Gui D) : Prop where
  /-- Without a stream: that there never was one, that it was refused, or Stopped. -/
  resting : s.client.streaming = false →
    (s.label = initialLabel ∧ s.client.supervisors = []) ∨
      (s.label = wx "Error (Token is missing)" ∧
        (reports s.client.log).getLast? = some (none, refusal)) ∨
      (s.label = wx "Stopped" ∧ s.client.supervisors ≠ [])
  /-- With one: what the live supervisor reported last, once it has reported anything. -/
  live : s.client.streaming = true → ∀ past v, s.client.supervisors = past ++ [v] →
    (∃ r, (some past.length, r) ∈ reports s.client.log) →
      ∃ r, (reports s.client.log).getLast? = some (some past.length, r) ∧
        s.label = onAisStreamStateChanged r ∧ s.label ≠ wx "Stopped" ∧ s.label ≠ initialLabel

/--
**The label is true once the queue holds no report.**  In every state the dialog reaches, with
any calls, supervisors, network and order of dispatching, outside a call of the client and with
no report pending: without a stream the label says Stopped, or that the last `Start` was
refused, or that there was none; with a stream it is what the live supervisor reported last
and is not Stopped.
-/
theorem label_true (parse : StdString → Option Value) (s : Gui D)
    (hreach : (system parse).Reach opened s) (hphase : s.phase ≠ .destroyed)
    (hidle : s.idle = true) (hdrained : s.pending.filterMap Pending.report? = []) :
    s.LabelTrue := by
  obtain ⟨shown, hshown⟩ := showing_of_reach hreach
  have hlabel := hshown.label_eq hphase hdrained
  refine ⟨fun hs => ?_, fun hs past v hlast hr => ?_⟩
  · have hq := Resting.quiet ⟨hidle, hs⟩ hreach
    have hblocks : Blocks s.client.supervisors.length (reports s.client.log) := hq.blocks
    rcases getLast?_blocks hblocks with ⟨hn, hnil⟩ | hlast | ⟨i, hlast⟩
    · refine .inl ⟨?_, List.length_eq_zero_iff.mp hn⟩
      rw [hlabel, reported, hnil]
      rfl
    · refine .inr (.inl ⟨?_, hlast⟩)
      rw [hlabel, labelAfter_of_getLast? hlast]
      rfl
    · refine .inr (.inr ⟨?_, fun hnil => ?_⟩)
      · rw [hlabel, labelAfter_of_getLast? hlast]
        rfl
      · have hlt := lt_of_mem_blocks hblocks (List.mem_of_getLast? hlast)
        rw [hnil] at hlt
        cases hlt
  · rcases settled_of_idle hreach hidle with ⟨hs', -⟩ | ⟨-, past', v', hlive, hleaving⟩
    · rw [hs] at hs'
      cases hs'
    · obtain ⟨rfl, hv⟩ := List.append_inj' (hlast.symm.trans hlive.last) rfl
      obtain ⟨log, b, hlog, hblocks, hsaid⟩ := hlive.blocks
      have hlog' : reports s.client.log = log ++ b.map (some past.length, ·) := hlog
      have hopen : OpenBlock b := by
        rw [Supervisor.Said, if_neg] at hsaid
        · exact hsaid.1
        · rintro hex
          rw [hex] at hleaving
          cases hleaving
      obtain ⟨r, hr⟩ := hr
      have hne : b ≠ [] := by
        rintro rfl
        rw [hlog', List.map_nil, List.append_nil] at hr
        exact Nat.lt_irrefl _ (lt_of_mem_blocks hblocks hr)
      obtain ⟨before, last, rfl⟩ := List.eq_nil_or_concat b |>.resolve_left hne
      rw [List.concat_eq_append] at hlog' hopen
      have hget : (reports s.client.log).getLast? = some (some past.length, last) := by
        rw [hlog', List.map_append, ← List.append_assoc]
        exact List.getLast?_concat
      have hshow : s.label = onAisStreamStateChanged last := by
        rw [hlabel, labelAfter_of_getLast? hget]
      refine ⟨last, hget, hshow, fun hstopped => ?_, fun hinit => ?_⟩
      · rw [hshow, onAisStreamStateChanged_eq_stopped_iff] at hstopped
        exact hopen.ne_stopped last (by simp) hstopped
      · rw [hshow] at hinit
        exact onAisStreamStateChanged_ne_initialLabel last hinit

/-- A session that has opened, with everything dispatched. -/
noncomputable def runningRun : List (GuiAction ℝ) :=
  (Client.startCall ++ sessionSteps 0 "A" 2).map .client ++ List.replicate 4 .dispatch

theorem label_true_running :
    ∃ s, (system parseEvents).run opened runningRun = some s ∧ s.label = wx "Running" ∧
      s.LabelTrue := by
  have hview : ((system parseEvents).run opened runningRun).map
      (fun s => (s.label, s.phase, s.idle, s.pending))
        = some (wx "Running", .alive, true, []) := by
    decide +kernel
  obtain ⟨s, hrun, hs⟩ := Option.map_eq_some_iff.mp hview
  simp only [Prod.mk.injEq] at hs
  obtain ⟨hlabel, hphase, hidle, hpending⟩ := hs
  refine ⟨s, hrun, hlabel, label_true parseEvents s (System.reach_of_run hrun) ?_ hidle ?_⟩
  · rw [hphase]
    nofun
  · rw [hpending]
    rfl

/-! ### The event loop comes to the end of the queue -/

/-- Dispatching changes neither the client nor the phase, and is always possible while
something is pending. -/
theorem run_dispatch {s : Gui D} (hfree : s.Free) :
    ∃ s', (system parse).run s (List.replicate s.pending.length .dispatch) = some s' ∧
      s'.pending = [] ∧ s'.client = s.client ∧ s'.phase = s.phase := by
  generalize hpending : s.pending = pending
  induction pending generalizing s with
  | nil => exact ⟨s, rfl, hpending, rfl, rfl⟩
  | cons e rest ih =>
      have hcond : s.phase = .alive ∧ s.idle = true := hfree
      cases e with
      | sendNmeaSentence t =>
          obtain ⟨s', hrun, hrest⟩ :=
            ih (s := { s with pending := rest, sent := s.sent ++ [t] }) hfree rfl
          have hstep : (system parse).step s .dispatch
              = some { s with pending := rest, sent := s.sent ++ [t] } := by
            simp only [system]
            rw [if_pos hcond, hpending]
          refine ⟨s', ?_, hrest⟩
          rw [List.length_cons, List.replicate_succ, System.run_cons, hstep]
          exact hrun
      | onAisStreamStateChanged r =>
          obtain ⟨s', hrun, hrest⟩ :=
            ih (s := { s with pending := rest, label := onAisStreamStateChanged r }) hfree rfl
          have hstep : (system parse).step s .dispatch
              = some { s with pending := rest, label := onAisStreamStateChanged r } := by
            simp only [system]
            rw [if_pos hcond, hpending]
          refine ⟨s', ?_, hrest⟩
          rw [List.length_cons, List.replicate_succ, System.run_cons, hstep]
          exact hrun

/--
**After a `Stop` everything arrives.**  From every state the dialog reaches with no stream and
no call under way, the event loop comes to the end of the queue; then every sentence emitted,
over all supervisors and sessions, has been sent, in order and once, and the label is true.
-/
theorem stopped_drained (parse : StdString → Option Value) (s : Gui D)
    (hreach : (system parse).Reach opened s) (halive : s.phase = .alive) (hrest : s.Resting) :
    ∃ s', (system parse).run s (List.replicate s.pending.length .dispatch) = some s' ∧
      s'.pending = [] ∧ s'.client = s.client ∧ s'.sent = s.client.emitted parse ∧ s'.LabelTrue := by
  have hfree : s.Free := ⟨halive, hrest.idle⟩
  obtain ⟨s', hrun, hpending, hclient, hphase⟩ := @run_dispatch D _ parse s hfree
  have hreach' : (system parse).Reach opened s' := hreach.trans (System.reach_of_run hrun)
  have halive' : s'.phase ≠ .destroyed := by
    rw [hphase, halive]
    nofun
  have hrest' : s'.Resting :=
    ⟨by rw [idle, hclient]; exact hrest.idle, by rw [hclient]; exact hrest.streaming⟩
  refine ⟨s', hrun, hpending, hclient, ?_, ?_⟩
  · have hall := sent_pending_unpublished hreach' halive'
    rwa [hpending, List.filterMap_nil, List.append_nil, hrest'.unpublished hreach',
      List.append_nil, hclient] at hall
  · exact label_true parse s' hreach' halive' hrest'.idle (by rw [hpending]; rfl)

/-- `Stop` by the calling thread, while the session of supervisor 0 is open. -/
noncomputable def stopSteps : List (Action ℝ) :=
  .stop :: List.replicate 5 .caller ++
    Client.steps 0 (.shut true :: List.replicate 6 .proceed) ++ [.caller]

/-- A session, one of its events dispatched, and a `Stop`. -/
noncomputable def stoppedRun : List (GuiAction ℝ) :=
  (Client.startCall ++ sessionSteps 0 "A" 2).map .client ++ [.dispatch] ++ stopSteps.map .client

/-- Four events are pending when `Stop` returns: Running, two sentences, and Stopped. -/
theorem stopped_drained_session :
    ∃ s, (system parseEvents).run opened stoppedRun = some s ∧ s.pending.length = 4 ∧
      ∃ s', (system parseEvents).run s (List.replicate s.pending.length .dispatch) = some s' ∧
        s'.pending = [] ∧ s'.client = s.client ∧ s'.sent = s.client.emitted parseEvents ∧
          s'.LabelTrue := by
  have hview : ((system parseEvents).run opened stoppedRun).map
      (fun s => (s.pending.length, s.phase, s.idle, s.client.streaming))
        = some (4, .alive, true, false) := by
    decide +kernel
  obtain ⟨s, hrun, hs⟩ := Option.map_eq_some_iff.mp hview
  simp only [Prod.mk.injEq] at hs
  obtain ⟨hlength, halive, hidle, hstreaming⟩ := hs
  exact ⟨s, hrun, hlength, stopped_drained parseEvents s (System.reach_of_run hrun) halive
    ⟨hidle, hstreaming⟩⟩

end Gui

end AisLive
