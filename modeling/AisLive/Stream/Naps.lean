/-
How often a supervisor connects.

Nobody but `SleepWhileStreaming` keeps a client whose server is gone from trying again and
again.  It sleeps in naps of 100 ms and looks at `m_streaming` before each, so a pause can
be cut short; what has to be seen is that a supervisor whose pause was cut never opens
another session, although streaming may be wanted again by then, for its successor.

`Tally.Settles` is the account of one supervisor at each statement of `SupervisorFunc`: the
naps it has taken against the seconds it was to sleep, and the sessions it has announced
against the pauses it has made.  Outside a pause that is under way, or was cut, the two sides
agree exactly.
-/
import AisLive.Stream.Pacing

namespace AisLive

open Json Transition

/-! ### One supervisor -/

/-- A session says Running and Error, never Connecting. -/
theorem Session.reports_ne_connecting {parse : StdString → Option Value}
    {streaming published onSentence : Bool} {v v' : Session} {a : RunAction} {evs : List Event}
    (h : v.step parse streaming published onSentence a = some (v', evs)) :
    ∀ r ∈ evs.filterMap Event.report?, r.state ≠ .connecting := by
  have hclose : ∀ r ∈ (v.onClose streaming).filterMap Event.report?, r.state ≠ .connecting := by
    unfold Session.onClose
    split <;> simp [Event.report?]
  cases Session.move_of_step h with
  | sendFails => simpa [Event.report?] using hclose
  | shut => exact hclose
  | _ => simp [Event.report?]

/-- The report that a session begins. -/
def connectingReport : Report := ⟨.connecting, []⟩

namespace Supervisor

variable {D : Type}

/-- The next step is a nap. -/
def napping (streaming : Bool) (v : Supervisor D) : Bool :=
  match v.pc with
  | .sleep chunks => chunks ≠ 0 && streaming
  | _ => false

variable {parse : StdString → Option Value} {streaming mutexFree : Bool} {onSentence me : Nat}
  {socket socket' : Option Nat} {v v' : Supervisor D} {a : RunAction} {evs : List Event}

/-- A sleep goes on exactly while chunks are left and streaming is wanted. -/
theorem sleep_step {chunks : Nat} (hpc : v.pc = .sleep chunks)
    (h : v.step parse streaming mutexFree onSentence socket me a = some (v', socket', evs)) :
    evs = [] ∧ v'.pc = if v.napping streaming then .sleep (chunks - 1) else .advance := by
  unfold step at h
  rw [hpc] at h
  have hnap : v.napping streaming = (chunks ≠ 0 && streaming) := by rw [napping, hpc]
  cases a with
  | proceed =>
      simp only at h
      by_cases hc : (chunks = 0 || !streaming) = true
      · rw [if_pos hc] at h
        cases h
        refine ⟨rfl, ?_⟩
        rw [hnap, if_neg]
        simp only [Bool.or_eq_true, decide_eq_true_eq, Bool.not_eq_true'] at hc
        rcases hc with hc | hc <;> simp [hc]
      · rw [if_neg hc] at h
        cases h
        refine ⟨rfl, ?_⟩
        rw [hnap, if_pos]
        simpa using hc
  | _ => cases h

end Supervisor

/-! ### The account of a supervisor -/

/-- What a supervisor has done so far. -/
structure Tally where
  /-- Naps of 100 ms. -/
  naps : Nat
  /-- The seconds passed to `SleepWhileStreaming`. -/
  seconds : Nat
  /-- Sessions announced as Connecting. -/
  connects : Nat
  /-- Calls of `SleepWhileStreaming`. -/
  pauses : Nat

namespace Tally

/-- The pauses have been slept, and there was one between any two sessions. -/
def Settles (t : Tally) (streaming : Bool) : SupervisorPc → Prop
  | .sleep chunks => t.naps + chunks = 10 * t.seconds ∧ t.connects = t.pauses
  | .advance | .test =>
      (t.naps = 10 * t.seconds ∨ streaming = false) ∧ t.connects = t.pauses
  | .announce => t.naps = 10 * t.seconds ∧ t.connects = t.pauses
  | .publish | .run | .teardown | .recheck =>
      t.naps = 10 * t.seconds ∧ t.connects = t.pauses + 1
  | .stop | .exited => True

end Tally

namespace Supervisor

variable {D : Type} {parse : StdString → Option Value} {streaming mutexFree : Bool}
  {onSentence me : Nat} {socket socket' : Option Nat} {v v' : Supervisor D} {a : RunAction}
  {evs : List Event}

/-- The account after a step that leaves these events. -/
def tallied (streaming : Bool) (evs : List Event) (v : Supervisor D) (t : Tally) : Tally where
  naps := t.naps + if v.napping streaming then 1 else 0
  seconds := t.seconds + if v.pausing streaming then v.backoffAfter else 0
  connects := t.connects + (evs.filterMap Event.report?).count connectingReport
  pauses := t.pauses + if v.pausing streaming then 1 else 0

theorem count_connecting_of_ne {rs : List Report} (h : ∀ r ∈ rs, r.state ≠ .connecting) :
    rs.count connectingReport = 0 :=
  List.count_eq_zero_of_not_mem fun hmem => h _ hmem rfl

/-- A nap is taken off what is left to sleep; a pause that is cut is one of a stream that is
not wanted. -/
theorem settles_sleep {t : Tally} {chunks : Nat} (hpc : v.pc = .sleep chunks)
    (ht : t.Settles streaming v.pc)
    (h : v.step parse streaming mutexFree onSentence socket me a = some (v', socket', evs)) :
    (v.tallied streaming evs t).Settles streaming v'.pc := by
  obtain ⟨rfl, hpc'⟩ := sleep_step hpc h
  have hpausing : v.pausing streaming = false := by rw [pausing, hpc]; rfl
  rw [hpc] at ht
  obtain ⟨hnaps, hconnects⟩ := ht
  cases hnap : v.napping streaming with
  | true =>
      have hchunks : chunks ≠ 0 := by
        simp only [napping, hpc, Bool.and_eq_true, decide_eq_true_eq] at hnap
        exact hnap.1
      rw [hpc', hnap, if_pos rfl]
      simp only [tallied, hnap, hpausing, Tally.Settles, if_true, Bool.false_eq_true, if_false,
        List.filterMap_nil, List.count_nil]
      omega
  | false =>
      rw [hpc', hnap, if_neg Bool.false_ne_true]
      simp only [tallied, hnap, hpausing, Tally.Settles, Bool.false_eq_true, if_false,
        List.filterMap_nil, List.count_nil, Nat.add_zero]
      refine ⟨?_, hconnects⟩
      simp only [napping, hpc, Bool.and_eq_false_iff, decide_eq_false_iff_not, not_not] at hnap
      rcases hnap with rfl | hs
      · exact .inl (by omega)
      · exact .inr hs

/-- **The account stays settled**, step by step. -/
theorem settles_step {t : Tally} (ht : t.Settles streaming v.pc)
    (h : v.step parse streaming mutexFree onSentence socket me a = some (v', socket', evs)) :
    (v.tallied streaming evs t).Settles streaming v'.pc := by
  cases move_of_step h with
  | test hpc =>
      rw [hpc] at ht
      cases streaming with
      | true => simpa [tallied, napping, pausing, hpc, Tally.Settles] using ht
      | false => trivial
  | announce hpc =>
      rw [hpc] at ht
      simpa [tallied, napping, pausing, hpc, Tally.Settles, Event.report?, connectingReport]
        using ht
  | session hpc hr hm hst =>
      rw [hpc] at ht
      have hnone := count_connecting_of_ne (Session.reports_ne_connecting hst)
      simpa [tallied, napping, pausing, hpc, Tally.Settles, hnone] using ht
  | publish hpc | leave hpc | teardown hpc =>
      rw [hpc] at ht
      simpa [tallied, napping, pausing, hpc, Tally.Settles] using ht
  | giveUp | finish | stop => trivial
  | backOff hpc hs =>
      rw [hpc] at ht
      simp only [tallied, napping, pausing, hpc, hs, Tally.Settles, List.filterMap_nil,
        List.count_nil, Bool.and_self, decide_true, if_true, Bool.false_eq_true, if_false] at ht ⊢
      omega
  | doze hpc | wake hpc => exact settles_sleep hpc ht h
  | advance hpc =>
      rw [hpc] at ht
      simpa [tallied, napping, pausing, hpc, Tally.Settles] using ht

end Supervisor

namespace Tally

/-- A supervisor that has not been spawned. -/
def zero : Tally := ⟨0, 0, 0, 0⟩

/-- That streaming is not wanted any more unsettles nothing. -/
theorem Settles.cut {t : Tally} {streaming : Bool} {pc : SupervisorPc}
    (h : t.Settles streaming pc) : t.Settles false pc := by
  cases pc with
  | advance | test => exact ⟨.inr rfl, h.2⟩
  | _ => exact h

end Tally

/-! ### The client -/

namespace Client

variable {D : Type}

/-- Who naps in a step. -/
def napOf (s : Client D) (a : Action D) : List Nat :=
  match a with
  | .supervisor i _ =>
      match s.supervisors[i]? with
      | none => []
      | some v => if v.napping s.streaming then [i] else []
  | _ => []

/-- A client, its pauses, and its naps. -/
abbrev Timeline (D : Type) := (Client D × List Pause) × List Nat

/-- The account of supervisor `i`. -/
def tally (i : Nat) (p : Timeline D) : Tally where
  naps := p.2.count i
  seconds := (secondsOf i p.1.2).sum
  connects := (reports p.1.1.log).count (some i, connectingReport)
  pauses := (secondsOf i p.1.2).length

/-- Every account is settled, and there are two seconds of naps for each session but the
first. -/
structure Timed (p : Timeline D) : Prop where
  coherent : p.1.1.Coherent
  paced : Paced p.1
  settles : ∀ i v, p.1.1.supervisors[i]? = some v →
    (tally i p).Settles p.1.1.streaming v.pc
  unspawned : ∀ i, p.1.1.supervisors.length ≤ i → tally i p = .zero
  spaced : ∀ i, 20 * ((tally i p).connects - 1) ≤ (tally i p).naps

theorem timed_start : Timed ((({}, []), []) : Timeline D) :=
  ⟨coherent_init, paced_start, fun _ _ h => (by cases h), fun _ _ => rfl, fun _ => Nat.le_refl 0⟩

theorem count_reports_map (i j : Nat) (evs : List Event) :
    (reports (evs.map (some i, ·))).count (some j, connectingReport)
      = if i = j then (evs.filterMap Event.report?).count connectingReport else 0 := by
  rw [reports_map]
  split
  · rename_i hij
    subst hij
    exact List.count_map_of_injective _ (fun r => (some i, r)) (Prod.mk_right_injective _) _
  · rename_i hij
    refine List.count_eq_zero_of_not_mem fun hmem => ?_
    obtain ⟨r, -, heq⟩ := List.mem_map.mp hmem
    exact hij (Option.some.inj (congrArg Prod.fst heq))

/-- Every pause is of two seconds at least. -/
theorem Paced.two_le {p : Client D × List Pause} (h : Paced p) (i : Nat) :
    2 * (secondsOf i p.2).length ≤ (secondsOf i p.2).sum := by
  have hbounds : ∀ w ∈ secondsOf i p.2, 2 ≤ w := by
    rw [h.seconds i]
    exact fun w hw => ((documented_waits _).bounds w hw).1
  generalize secondsOf i p.2 = ws at hbounds ⊢
  induction ws with
  | nil => exact Nat.le_refl 0
  | cons w ws ih =>
      have hw := hbounds w List.mem_cons_self
      have hrest := ih fun w' hw' => hbounds w' (List.mem_cons_of_mem w hw')
      rw [List.length_cons, List.sum_cons]
      omega

section

variable [Double D] {parse : StdString → Option Value}

variable (parse) in
/-- The client, with a record of the pauses and one of the naps. -/
def timed : System (Timeline D) (Action D) :=
  (recorded parse).observed fun naps p a _ => naps ++ p.1.napOf a

/-- The record is of the runs there are. -/
theorem map_run_timed (s : Client D) (actions : List (Action D)) :
    (((timed parse).run ((s, []), []) actions).map Prod.fst).map Prod.fst
      = (system parse).run s actions := by
  rw [timed, System.map_run_observed, map_run_recorded]

/-- A step of a supervisor, as its own `step` makes it. -/
theorem supervisor_of_step {s s' : Client D} {i : Nat} {b : RunAction}
    (h : (system parse).step s (.supervisor i b) = some s') :
    ∃ v v' socket evs, s.supervisors[i]? = some v ∧
      v.step parse s.streaming (!s.caller.holdsSocketMutex) s.onSentence s.socket i b
        = some (v', socket, evs) ∧
      s'.supervisors = s.supervisors.set i v' ∧ s'.streaming = s.streaming ∧
      s'.log = s.log ++ evs.map (some i, ·) := by
  simp only [system, supervisorStep] at h
  split at h
  · cases h
  · split at h
    · cases h
    · rename_i v hv
      split at h
      · cases h
      · rename_i v' socket evs hst
        cases h
        exact ⟨v, v', socket, evs, hv, hst, rfl, rfl, rfl⟩

/-- What a step of the calling thread does to the supervisors: a new one at most, and none is
moved; and streaming is wanted again only when all have exited. -/
theorem caller_step {s s' : Client D} {a : Action D} (hcoh : s.Coherent)
    (hmove : Move parse s a s') (ha : ∀ i b, a ≠ .supervisor i b) :
    s.supervisors.length ≤ s'.supervisors.length ∧
      (∀ i v', s'.supervisors[i]? = some v' →
        (∃ v, s.supervisors[i]? = some v ∧ v'.pc = v.pc) ∨
          (s.supervisors.length ≤ i ∧ v'.pc = .test)) ∧
      (s'.streaming = s.streaming ∨ s'.streaming = false ∨
        ∀ v ∈ s.supervisors, v.pc = .exited) ∧
      ∀ i, (reports s'.log).count (some i, connectingReport)
        = (reports s.log).count (some i, connectingReport) := by
  have hsession : ∀ (i : Nat) (f : Session → Session) (j : Nat) (v' : Supervisor D),
      (s.modifySession i f).supervisors[j]? = some v' →
        (∃ v, s.supervisors[j]? = some v ∧ v'.pc = v.pc) ∨
          (s.supervisors.length ≤ j ∧ v'.pc = .test) := by
    intro i f j v' hv'
    simp only [modifySession, List.getElem?_modify] at hv'
    obtain ⟨v, hv, rfl⟩ := Option.map_eq_some_iff.mp hv'
    refine .inl ⟨v, hv, ?_⟩
    split <;> rfl
  have hsame : ∀ (i : Nat) (v' : Supervisor D), s.supervisors[i]? = some v' →
      (∃ v, s.supervisors[i]? = some v ∧ v'.pc = v.pc) ∨
        (s.supervisors.length ≤ i ∧ v'.pc = .test) := fun i v' hv' => .inl ⟨v', hv', rfl⟩
  cases hmove with
  | supervisor hv hm => exact absurd rfl (ha _ _)
  | raiseRequest hc | setClosing hc =>
      exact ⟨by simp [modifySession], hsession _ _, .inl rfl, fun _ => rfl⟩
  | clearFlag hc => exact ⟨Nat.le_refl _, hsame, .inr (.inl rfl), fun _ => rfl⟩
  | setFlag hc =>
      rw [Coherent, hc] at hcoh
      exact ⟨Nat.le_refl _, hsame, .inr (.inr hcoh.2.exited), fun _ => rfl⟩
  | spawn hc ht =>
      refine ⟨by simp, fun i v' hv' => ?_, .inl rfl, fun _ => rfl⟩
      rcases Nat.lt_or_ge i s.supervisors.length with hlt | hge
      · rw [List.getElem?_append_left hlt] at hv'
        exact hsame i v' hv'
      · refine .inr ⟨hge, ?_⟩
        rw [List.getElem?_append_right hge] at hv'
        rw [List.mem_singleton.mp (List.mem_of_getElem? hv')]
  | refuse hc =>
      refine ⟨Nat.le_refl _, hsame, .inl rfl, fun i => ?_⟩
      rw [reports_append, List.count_append, Nat.add_eq_left]
      exact List.count_eq_zero_of_not_mem (by simp [reports, Event.report?])
  | _ => exact ⟨Nat.le_refl _, hsame, .inl rfl, fun _ => rfl⟩

omit [Double D] in
/-- A step of supervisor `i` is entered in its account and in no other. -/
theorem tally_supervisor {p p' : Timeline D} {i : Nat} {b : RunAction} {v : Supervisor D}
    {evs : List Event} (hv : p.1.1.supervisors[i]? = some v)
    (hlog : p'.1.1.log = p.1.1.log ++ evs.map (some i, ·))
    (hpauses : p'.1.2 = p.1.2 ++ p.1.1.pauseOf (.supervisor i b))
    (hnaps : p'.2 = p.2 ++ p.1.1.napOf (.supervisor i b)) (j : Nat) :
    tally j p' = if i = j then v.tallied p.1.1.streaming evs (tally j p) else tally j p := by
  have hnap : (p.1.1.napOf (.supervisor i b)).count j
      = if i = j then if v.napping p.1.1.streaming then 1 else 0 else 0 := by
    simp only [napOf, hv]
    cases v.napping p.1.1.streaming <;> simp [List.count_singleton]
  have hpause : secondsOf j (p.1.2 ++ p.1.1.pauseOf (.supervisor i b)) = secondsOf j p.1.2 ++
      if i = j then if v.pausing p.1.1.streaming then [v.backoffAfter] else [] else [] := by
    simp only [pauseOf, hv]
    cases v.pausing p.1.1.streaming with
    | true =>
        rw [if_pos rfl, secondsOf_append]
        rfl
    | false => simp
  unfold tally
  rw [hlog, hpauses, hnaps, reports_append, List.count_append, List.count_append, hnap, hpause,
    count_reports_map]
  by_cases hij : i = j
  · subst hij
    simp only [if_true, Supervisor.tallied]
    cases v.pausing p.1.1.streaming <;> simp
  · simp [hij]

/-- **Every step keeps the accounts.** -/
theorem timed_step {p p' : Timeline D} {a : Action D} (h : Timed p)
    (hstep : (timed parse).step p a = some p') : Timed p' := by
  obtain ⟨hrec, hnaps⟩ := System.step_observed hstep
  obtain ⟨hst, hpauses⟩ := System.step_observed hrec
  have hcoh := coherent_step h.coherent hst
  have hpaced := paced_step h.paced hrec
  by_cases ha : ∃ i b, a = .supervisor i b
  · obtain ⟨i, b, rfl⟩ := ha
    obtain ⟨v, v', socket, evs, hv, hsup, hset, hstreaming, hlog⟩ := supervisor_of_step hst
    have htally := tally_supervisor hv hlog hpauses hnaps
    have hsettled := Supervisor.settles_step (h.settles i v hv) hsup
    refine ⟨hcoh, hpaced, fun j w hw => ?_, fun j hj => ?_, fun j => ?_⟩
    · rw [htally, hstreaming]
      rcases getElem?_set_cases (hset ▸ hw) with ⟨hij, hw⟩ | ⟨rfl, rfl⟩
      · rw [if_neg hij]
        exact h.settles j w hw
      · rwa [if_pos rfl]
    · have hlt : i < p.1.1.supervisors.length := (List.getElem?_eq_some_iff.mp hv).1
      have hle : p.1.1.supervisors.length ≤ j := by simpa [hset] using hj
      rw [htally, if_neg (by omega)]
      exact h.unspawned j hle
    · rw [htally]
      split
      · rename_i hij
        subst hij
        have hspaced := h.spaced i
        have hpauses₂ : 2 * (tally i p).pauses ≤ (tally i p).seconds := h.paced.two_le i
        have hbefore := h.settles i v hv
        -- only the announcement of a session adds to the left side, at a settled account
        by_cases hpc : v.pc = .announce
        · rw [hpc] at hbefore
          obtain ⟨hn, hc⟩ := hbefore
          have hone : (evs.filterMap Event.report?).count connectingReport = 1 := by
            cases Supervisor.move_of_step hsup <;> simp_all [Event.report?, connectingReport]
          simp only [Supervisor.tallied, hone]
          omega
        · have hnone : (evs.filterMap Event.report?).count connectingReport = 0 := by
            cases Supervisor.move_of_step hsup with
            | announce hann => exact absurd hann hpc
            | session _ _ _ hses =>
                exact Supervisor.count_connecting_of_ne (Session.reports_ne_connecting hses)
            | _ => rfl
          simp only [Supervisor.tallied, hnone]
          omega
      · exact h.spaced j
  · have hother : ∀ i b, a ≠ .supervisor i b := fun i b hab => ha ⟨i, b, hab⟩
    obtain ⟨hlen, hsups, hstreaming, hcount⟩ :=
      caller_step h.coherent (move_of_step hst).2 hother
    have htally : ∀ j, tally j p' = tally j p := by
      intro j
      have hnonap : p.1.1.napOf a = [] := by
        cases a with
        | supervisor i b => exact absurd rfl (hother i b)
        | _ => rfl
      have hnopause : p.1.1.pauseOf a = [] := by
        cases a with
        | supervisor i b => exact absurd rfl (hother i b)
        | _ => rfl
      unfold tally
      rw [hnaps, hpauses, hnonap, hnopause, List.append_nil, List.append_nil, hcount]
    refine ⟨hcoh, hpaced, fun j w hw => ?_, fun j hj => ?_, fun j => ?_⟩
    · rw [htally]
      rcases hsups j w hw with ⟨u, hu, hpc⟩ | ⟨hj, hpc⟩
      · have hu' := h.settles j u hu
        rw [hpc]
        rcases hstreaming with heq | hfalse | hexited
        · rwa [heq]
        · rw [hfalse]
          exact hu'.cut
        · rw [hexited u (List.mem_of_getElem? hu)]
          trivial
      · rw [h.unspawned j hj, hpc]
        exact ⟨.inl rfl, rfl⟩
    · rw [htally]
      exact h.unspawned j (Nat.le_trans hlen hj)
    · rw [htally]
      exact h.spaced j

/--
**A supervisor connects no more often than its pauses allow.**  In every run of the client,
with any calls, network and interleaving, and for every supervisor: between two Connecting
reports it has slept 20 naps of 100 ms at least; and while it is in a session it has napped
ten times for every second the documented pauses of its earlier sessions come to, no pause cut
short.
-/
theorem connections_spaced (parse : StdString → Option Value) (actions : List (Action D))
    (p : Timeline D) (hrun : (timed parse).run ((({}, []), [])) actions = some p) (i : Nat) :
    20 * ((reports p.1.1.log).count (some i, connectingReport) - 1) ≤ p.2.count i ∧
      ∀ v, p.1.1.supervisors[i]? = some v →
        (v.pc = .publish ∨ v.pc = .run ∨ v.pc = .teardown ∨ v.pc = .recheck) →
          p.2.count i = 10 * (waits kInitialBackoffSeconds (outcomesOf i p.1.2)).sum ∧
            (reports p.1.1.log).count (some i, connectingReport)
              = (outcomesOf i p.1.2).length + 1 := by
  have htimed : Timed p := (System.reach_of_run hrun).invariant timed_start
    fun _ _ _ h hstep => timed_step h hstep
  refine ⟨htimed.spaced i, fun v hv hpc => ?_⟩
  have hsettled : (tally i p).naps = 10 * (tally i p).seconds ∧
      (tally i p).connects = (tally i p).pauses + 1 := by
    have hs := htimed.settles i v hv
    rcases hpc with hpc | hpc | hpc | hpc <;> rw [hpc] at hs <;> exact hs
  have hseconds := htimed.paced.seconds i
  rw [← hseconds, ← length_waits (outcomesOf i p.1.2) kInitialBackoffSeconds, ← hseconds]
  exact hsettled

end

/-- A session that fails to resolve the host, its pause, and the next session announced. -/
noncomputable def reconnectingRun : List (Action ℝ) :=
  startCall ++ publishSteps 0 ++
    steps 0 ([.proceed, .proceed, .fail (ascii "no host")] ++ List.replicate 29 .proceed)

/-- Two sessions, with twenty naps between them. -/
theorem connections_spaced_reconnecting :
    ∃ p, (timed fun _ => none).run (({}, []), []) reconnectingRun = some p ∧ p.2.count 0 = 20 ∧
      20 * ((reports p.1.1.log).count (some 0, connectingReport) - 1) ≤ p.2.count 0 ∧
      p.2.count 0 = 10 * (waits kInitialBackoffSeconds (outcomesOf 0 p.1.2)).sum := by
  have hview : ((timed fun _ => none).run (({}, []), []) reconnectingRun).map
      (fun p => (p.2.count 0, p.1.1.supervisors.map Supervisor.pc)) = some (20, [.publish]) := by
    decide +kernel
  obtain ⟨p, hrun, hp⟩ := Option.map_eq_some_iff.mp hview
  simp only [Prod.mk.injEq] at hp
  obtain ⟨hspaced, hexact⟩ := connections_spaced (fun _ => none) _ p hrun 0
  obtain ⟨v, hv, hpc⟩ := List.map_eq_singleton_iff.mp hp.2
  exact ⟨p, hrun, hp.1, hspaced, (hexact v (by rw [hv]; rfl) (.inl hpc)).1⟩

end Client

end AisLive
