/-
The pauses between sessions.

`SupervisorFunc` keeps one number, overwrites it after a rejection and after a session that
opened, sleeps for it, doubles it and caps it.  `waits` is that loop on the outcomes alone;
`documentedWait` is what it is for, said of the history: the failures since the session
that last opened or was rejected decide.

`wait_foldl` connects the two, and `Paced` the loop with the threads: each supervisor of a
running client has slept as `waits` says of the sessions it has had.
-/
import Mathlib.Data.List.Induction
import AisLive.Stream.Lifecycle

namespace AisLive

open Json Transition

/-- What a session came to. -/
inductive Outcome
  /-- The server sent an error frame, whether or not the session had opened. -/
  | rejected
  | opened
  | neverOpened
  deriving DecidableEq, Repr

/-- The outcome, as the flags of the session tell it. -/
def Session.outcome (v : Session) : Outcome :=
  if v.serverRejected then .rejected else if v.reachedRunning then .opened else .neverOpened

/-! ### The loop on outcomes -/

/-- The seconds slept after a session, of `backoffSeconds` before it. -/
def Outcome.wait (backoffSeconds : Nat) : Outcome → Nat
  | .rejected => kMaxBackoffSeconds
  | .opened => kInitialBackoffSeconds
  | .neverOpened => backoffSeconds

/-- `backoffSeconds` after a session and its pause. -/
def Outcome.nextBackoff (backoffSeconds : Nat) (o : Outcome) : Nat :=
  Nat.min (o.wait backoffSeconds * 2) kMaxBackoffSeconds

/-- The seconds slept after each of the sessions. -/
def waits (backoffSeconds : Nat) : List Outcome → List Nat
  | [] => []
  | o :: os => o.wait backoffSeconds :: waits (o.nextBackoff backoffSeconds) os

theorem length_waits (os : List Outcome) (backoffSeconds : Nat) :
    (waits backoffSeconds os).length = os.length := by
  induction os generalizing backoffSeconds with
  | nil => rfl
  | cons o os ih => rw [waits, List.length_cons, List.length_cons, ih]

/-- The loop, one session further. -/
theorem waits_append (os : List Outcome) (o : Outcome) (backoffSeconds : Nat) :
    waits backoffSeconds (os ++ [o])
      = waits backoffSeconds os ++ [o.wait (os.foldl Outcome.nextBackoff backoffSeconds)] := by
  induction os generalizing backoffSeconds with
  | nil => rfl
  | cons o' os ih => rw [List.cons_append, waits, waits, List.foldl_cons, ih, List.cons_append]

/-! ### The documented pauses -/

/-- How many sessions in a row have just failed to open. -/
def failures (os : List Outcome) : Nat := (os.reverse.takeWhile (· == .neverOpened)).length

/-- The session before them. -/
def beforeFailures (os : List Outcome) : Option Outcome :=
  (os.reverse.dropWhile (· == .neverOpened)).head?

/-- The seconds to wait after the `j`-th failure in a row. -/
def failureWait (before : Option Outcome) (j : Nat) : Nat :=
  match before with
  | none => min 30 (2 ^ j)
  | some .rejected => 30
  | some _ => min 30 (2 ^ (j + 1))

/-- The seconds to wait after a session, of the sessions before it. -/
def documentedWait (os : List Outcome) : Outcome → Nat
  | .rejected => 30
  | .opened => 2
  | .neverOpened => failureWait (beforeFailures os) (failures os + 1)

theorem failures_append (os : List Outcome) (o : Outcome) :
    failures (os ++ [o]) = if o = .neverOpened then failures os + 1 else 0 := by
  unfold failures
  rw [List.reverse_append]
  cases o <;> rfl

theorem beforeFailures_append (os : List Outcome) (o : Outcome) :
    beforeFailures (os ++ [o]) = if o = .neverOpened then beforeFailures os else some o := by
  unfold beforeFailures
  rw [List.reverse_append]
  cases o <;> rfl

/-- One more failure doubles the wait, up to the cap. -/
theorem failureWait_succ (before : Option Outcome) (j : Nat) :
    Nat.min (failureWait before j * 2) 30 = failureWait before (j + 1) := by
  have hdouble : ∀ k : Nat, Nat.min (min 30 (2 ^ k) * 2) 30 = min 30 (2 ^ (k + 1)) := by
    intro k
    show min (min 30 (2 ^ k) * 2) 30 = min 30 (2 ^ (k + 1))
    rw [pow_succ]
    omega
  unfold failureWait
  split
  · exact hdouble j
  · rfl
  · exact hdouble (j + 1)

theorem failureWait_bounds (before : Option Outcome) (j : Nat) :
    2 ≤ failureWait before (j + 1) ∧ failureWait before (j + 1) ≤ 30 := by
  have hpos : 1 ≤ 2 ^ j := Nat.one_le_two_pow
  unfold failureWait
  split
  · rw [pow_succ]
    omega
  · omega
  · rw [pow_succ, pow_succ]
    omega

theorem failureWait_le_succ (before : Option Outcome) (j : Nat) :
    failureWait before (j + 1) ≤ failureWait before (j + 1 + 1) := by
  have hle := (failureWait_bounds before j).2
  rw [← failureWait_succ before (j + 1)]
  exact Nat.le_min.mpr ⟨by omega, hle⟩

/-- **What the loop has in hand** is what the next failure would have to wait. -/
theorem foldl_nextBackoff (os : List Outcome) :
    os.foldl Outcome.nextBackoff kInitialBackoffSeconds
      = failureWait (beforeFailures os) (failures os + 1) := by
  induction os using List.reverseRecOn with
  | nil => rfl
  | append_singleton os o ih =>
      rw [List.foldl_append, List.foldl_cons, List.foldl_nil, ih, failures_append,
        beforeFailures_append]
      cases o with
      | rejected => rfl
      | opened => rfl
      | neverOpened => exact failureWait_succ _ _

/-- The loop sleeps as documented after the session that comes next. -/
theorem wait_foldl (os : List Outcome) (o : Outcome) :
    o.wait (os.foldl Outcome.nextBackoff kInitialBackoffSeconds) = documentedWait os o := by
  cases o with
  | rejected => rfl
  | opened => rfl
  | neverOpened => exact foldl_nextBackoff os

/-- The pause after each session, as documented of the sessions before it. -/
theorem getElem?_waits (os : List Outcome) (n : Nat) :
    (waits kInitialBackoffSeconds os)[n]? = os[n]?.map (documentedWait (os.take n)) := by
  induction os using List.reverseRecOn with
  | nil => rfl
  | append_singleton os o ih =>
      rw [waits_append, wait_foldl]
      rcases Nat.lt_trichotomy n os.length with hlt | rfl | hgt
      · rw [List.getElem?_append_left (by rwa [length_waits]), List.getElem?_append_left hlt,
          List.take_append_of_le_length (Nat.le_of_lt hlt), ih]
      · rw [List.getElem?_append_right (Nat.le_of_eq (length_waits os _)), length_waits, Nat.sub_self,
          List.getElem?_concat_length, List.take_left]
        rfl
      · rw [List.getElem?_eq_none (by simp [length_waits]; omega),
          List.getElem?_eq_none (by simp; omega)]
        rfl

/-- What the pauses after the sessions have to be. -/
structure Documented (os : List Outcome) (ws : List Nat) : Prop where
  length : ws.length = os.length
  wait : ∀ n o, os[n]? = some o → ws[n]? = some (documentedWait (os.take n) o)
  bounds : ∀ w ∈ ws, 2 ≤ w ∧ w ≤ 30
  /-- In a row of failures none is shorter than the one before. -/
  monotone : ∀ n w w', os[n]? = some .neverOpened → os[n + 1]? = some .neverOpened →
    ws[n]? = some w → ws[n + 1]? = some w' → w ≤ w'

theorem documentedWait_bounds (os : List Outcome) (o : Outcome) :
    2 ≤ documentedWait os o ∧ documentedWait os o ≤ 30 := by
  cases o with
  | rejected => exact ⟨Nat.le_add_left 2 28, Nat.le_refl 30⟩
  | opened => exact ⟨Nat.le_refl 2, Nat.le_add_left 2 28⟩
  | neverOpened => exact failureWait_bounds _ _

/-- **The loop sleeps as documented**, whatever the sessions come to. -/
theorem documented_waits (os : List Outcome) : Documented os (waits kInitialBackoffSeconds os) := by
  refine ⟨length_waits os _, fun n o ho => by rw [getElem?_waits, ho, Option.map_some],
    fun w hw => ?_, fun n w w' ho ho' hw hw' => ?_⟩
  · obtain ⟨n, hn⟩ := List.mem_iff_getElem?.mp hw
    rw [getElem?_waits] at hn
    obtain ⟨o, -, rfl⟩ := Option.map_eq_some_iff.mp hn
    exact documentedWait_bounds _ o
  · rw [getElem?_waits, ho, Option.map_some, Option.some.injEq] at hw
    rw [getElem?_waits, ho', Option.map_some, Option.some.injEq, List.take_add_one, ho,
      Option.toList_some] at hw'
    rw [← hw, ← hw', documentedWait, documentedWait, beforeFailures_append, failures_append]
    exact failureWait_le_succ _ _

/-! ### The supervisors -/

namespace Supervisor

variable {D : Type}

theorem backoffAfter_eq (v : Supervisor D) :
    v.backoffAfter = v.session.outcome.wait v.backoffSeconds := by
  unfold backoffAfter Session.outcome
  split
  · rfl
  · split <;> rfl

/-- `backoffSeconds` as the next session will find it. -/
def nextBackoff (v : Supervisor D) : Nat :=
  match v.pc with
  | .sleep _ => Nat.min (v.backoffSeconds * 2) kMaxBackoffSeconds
  | .advance => Nat.min (v.backoffSeconds * 2) kMaxBackoffSeconds
  | _ => v.backoffSeconds

/-- The supervisor is about to sleep. -/
def pausing (streaming : Bool) (v : Supervisor D) : Bool := v.pc = .recheck && streaming

/-- Only the step into the sleep changes what the next session will find. -/
theorem nextBackoff_move {parse : StdString → Option Value} {streaming mutexFree : Bool}
    {onSentence me : Nat} {socket socket' : Option Nat} {v v' : Supervisor D} {a : RunAction}
    {evs : List Event}
    (h : v.Move parse streaming mutexFree onSentence socket me a v' socket' evs) :
    v'.nextBackoff = if v.pausing streaming then v.session.outcome.nextBackoff v.nextBackoff
      else v.nextBackoff := by
  unfold pausing
  cases h with
  | test hpc =>
      rw [nextBackoff, nextBackoff, hpc]
      cases streaming <;> rfl
  | backOff hpc hs =>
      rw [nextBackoff, nextBackoff, hpc, hs, backoffAfter_eq]
      rfl
  | finish hpc hs =>
      rw [nextBackoff, nextBackoff, hpc, hs]
      rfl
  | session hpc hr hm hv =>
      rw [nextBackoff, nextBackoff, hpc]
      rfl
  | announce hpc | publish hpc hm hs | giveUp hpc hm hs | leave hpc hr | teardown hpc hm
    | doze hpc hs | wake hpc | advance hpc | stop hpc =>
      rw [nextBackoff, nextBackoff, hpc]
      rfl

end Supervisor

namespace Client

variable {D : Type}

/-- A pause: whose, after what, and for how long. -/
structure Pause where
  supervisor : Nat
  after : Outcome
  seconds : Nat
  deriving DecidableEq, Repr

/-- The pause that a step begins, if it does. -/
def pauseOf (s : Client D) (a : Action D) : List Pause :=
  match a with
  | .supervisor i _ =>
      match s.supervisors[i]? with
      | none => []
      | some v =>
          if v.pausing s.streaming then [⟨i, v.session.outcome, v.backoffAfter⟩] else []
  | _ => []

/-- What the sessions of supervisor `i` came to. -/
def outcomesOf (i : Nat) (pauses : List Pause) : List Outcome :=
  (pauses.filter (·.supervisor = i)).map Pause.after

/-- How long supervisor `i` slept after them. -/
def secondsOf (i : Nat) (pauses : List Pause) : List Nat :=
  (pauses.filter (·.supervisor = i)).map Pause.seconds

/-- Every supervisor sleeps as the loop does on the outcomes it has seen. -/
structure Paced (p : Client D × List Pause) : Prop where
  seconds : ∀ i, secondsOf i p.2 = waits kInitialBackoffSeconds (outcomesOf i p.2)
  loop : ∀ i v, p.1.supervisors[i]? = some v →
    v.nextBackoff = (outcomesOf i p.2).foldl Outcome.nextBackoff kInitialBackoffSeconds
  /-- A supervisor not yet spawned has had no sessions. -/
  unspawned : ∀ i, p.1.supervisors.length ≤ i → outcomesOf i p.2 = []

theorem paced_start : Paced (({}, []) : Client D × List Pause) :=
  ⟨fun _ => rfl, fun _ _ h => (by cases h), fun _ _ => rfl⟩

/-- A pause belongs to the supervisor whose step begins it. -/
theorem outcomesOf_append (i : Nat) (pauses : List Pause) (pause : Pause) :
    outcomesOf i (pauses ++ [pause])
      = outcomesOf i pauses ++ if pause.supervisor = i then [pause.after] else [] := by
  rw [outcomesOf, outcomesOf, List.filter_append, List.map_append]
  by_cases h : pause.supervisor = i <;> simp [h]

theorem secondsOf_append (i : Nat) (pauses : List Pause) (pause : Pause) :
    secondsOf i (pauses ++ [pause])
      = secondsOf i pauses ++ if pause.supervisor = i then [pause.seconds] else [] := by
  rw [secondsOf, secondsOf, List.filter_append, List.map_append]
  by_cases h : pause.supervisor = i <;> simp [h]

/-- Where no pause begins, it is enough that no supervisor finds another `backoffSeconds`. -/
theorem Paced.same {s s' : Client D} {pauses : List Pause} (h : Paced (s, pauses))
    (hlen : s.supervisors.length ≤ s'.supervisors.length)
    (hsame : ∀ i v', s'.supervisors[i]? = some v' →
      (∃ v, s.supervisors[i]? = some v ∧ v'.nextBackoff = v.nextBackoff) ∨
        (s.supervisors.length ≤ i ∧ v'.nextBackoff = kInitialBackoffSeconds)) :
    Paced (s', pauses) := by
  refine ⟨h.seconds, fun i v' hv' => ?_, fun i hi => h.unspawned i (Nat.le_trans hlen hi)⟩
  rcases hsame i v' hv' with ⟨v, hv, heq⟩ | ⟨hi, heq⟩
  · rw [heq]
    exact h.loop i v hv
  · rw [heq, h.unspawned i hi]
    rfl

/-- What is known of the supervisors after one of them has made a step. -/
theorem getElem?_set_cases {l : List (Supervisor D)} {i j : Nat} {v' w : Supervisor D}
    (hw : (l.set i v')[j]? = some w) : (i ≠ j ∧ l[j]? = some w) ∨ (i = j ∧ w = v') := by
  rw [List.getElem?_set] at hw
  by_cases hij : i = j
  · rw [if_pos hij] at hw
    split at hw <;> cases hw
    exact .inr ⟨hij, rfl⟩
  · rw [if_neg hij] at hw
    exact .inl ⟨hij, hw⟩

/-- A pause is the loop's for the session it follows, and leaves the loop one session
further. -/
theorem Paced.pause {s s' : Client D} {pauses : List Pause} (h : Paced (s, pauses)) {i : Nat}
    {v v' : Supervisor D} (hv : s.supervisors[i]? = some v)
    (hpausing : v.pausing s.streaming = true)
    (hset : s'.supervisors = s.supervisors.set i v')
    (hnext : v'.nextBackoff = v.session.outcome.nextBackoff v.nextBackoff) :
    Paced (s', pauses ++ [⟨i, v.session.outcome, v.backoffAfter⟩]) := by
  have hbackoff : v.nextBackoff = v.backoffSeconds := by
    have hpc : v.pc = .recheck := by
      rw [Supervisor.pausing, Bool.and_eq_true] at hpausing
      exact of_decide_eq_true hpausing.1
    rw [Supervisor.nextBackoff, hpc]
  have hloop := h.loop i v hv
  have hlen : i < s.supervisors.length := (List.getElem?_eq_some_iff.mp hv).1
  refine ⟨fun j => ?_, fun j w hw => ?_, fun j hj => ?_⟩
  · show secondsOf j (pauses ++ _) = waits _ (outcomesOf j (pauses ++ _))
    rw [secondsOf_append, outcomesOf_append, h.seconds j]
    by_cases hij : i = j
    · subst hij
      rw [if_pos rfl, if_pos rfl, waits_append, ← hloop, hbackoff, Supervisor.backoffAfter_eq]
    · rw [if_neg hij, if_neg hij, List.append_nil, List.append_nil]
  · show _ = (outcomesOf j (pauses ++ _)).foldl _ _
    rw [outcomesOf_append]
    rcases getElem?_set_cases (hset ▸ hw) with ⟨hij, hw⟩ | ⟨rfl, rfl⟩
    · rw [if_neg hij, List.append_nil]
      exact h.loop j w hw
    · rw [if_pos rfl, List.foldl_append, ← hloop]
      exact hnext
  · have hle : s.supervisors.length ≤ j := by simpa [hset] using hj
    have hij : i ≠ j := by omega
    show outcomesOf j (pauses ++ _) = []
    rw [outcomesOf_append, if_neg hij, List.append_nil]
    exact h.unspawned j hle

section

variable [Double D] {parse : StdString → Option Value}

variable (parse) in
/-- The client, with a record of the pauses. -/
def recorded : System (Client D × List Pause) (Action D) :=
  (system parse).observed fun pauses s a _ => pauses ++ s.pauseOf a

/-- The record is of the runs there are. -/
theorem map_run_recorded (s : Client D) (pauses : List Pause) (actions : List (Action D)) :
    ((recorded parse).run (s, pauses) actions).map Prod.fst = (system parse).run s actions :=
  System.map_run_observed _ s pauses actions

/-- No call of the client changes what a supervisor will find, and a new one starts afresh. -/
theorem nextBackoff_of_getElem? {s s' : Client D} {a : Action D} (hmove : Move parse s a s')
    (ha : ∀ i b, a ≠ .supervisor i b) :
    s.supervisors.length ≤ s'.supervisors.length ∧
      ∀ i v', s'.supervisors[i]? = some v' →
        (∃ v, s.supervisors[i]? = some v ∧ v'.nextBackoff = v.nextBackoff) ∨
          (s.supervisors.length ≤ i ∧ v'.nextBackoff = kInitialBackoffSeconds) := by
  -- closing a socket changes its session only
  have hsession : ∀ (i : Nat) (f : Session → Session),
      s.supervisors.length ≤ (s.modifySession i f).supervisors.length ∧
        ∀ j v', (s.modifySession i f).supervisors[j]? = some v' →
          (∃ v, s.supervisors[j]? = some v ∧ v'.nextBackoff = v.nextBackoff) ∨
            (s.supervisors.length ≤ j ∧ v'.nextBackoff = kInitialBackoffSeconds) := by
    intro i f
    refine ⟨by simp [modifySession], fun j v' hv' => .inl ?_⟩
    simp only [modifySession, List.getElem?_modify] at hv'
    obtain ⟨v, hv, rfl⟩ := Option.map_eq_some_iff.mp hv'
    refine ⟨v, hv, ?_⟩
    split <;> rfl
  cases hmove with
  | supervisor hv hm => exact absurd rfl (ha _ _)
  | raiseRequest hc => exact hsession _ _
  | setClosing hc => exact hsession _ _
  | spawn hc ht =>
      refine ⟨by simp, fun i v' hv' => ?_⟩
      rcases Nat.lt_or_ge i s.supervisors.length with hlt | hge
      · rw [List.getElem?_append_left hlt] at hv'
        exact .inl ⟨v', hv', rfl⟩
      · refine .inr ⟨hge, ?_⟩
        rw [List.getElem?_append_right hge] at hv'
        have hmem := List.mem_of_getElem? hv'
        rw [List.mem_singleton.mp hmem]
        rfl
  | _ => exact ⟨Nat.le_refl _, fun i v' hv' => .inl ⟨v', hv', rfl⟩⟩

/-- **Every step keeps the supervisors paced.** -/
theorem paced_step {p p' : Client D × List Pause} {a : Action D} (h : Paced p)
    (hstep : (recorded parse).step p a = some p') : Paced p' := by
  obtain ⟨hst, hpauses⟩ := System.step_observed hstep
  obtain ⟨-, hmove⟩ := move_of_step hst
  rw [show p' = (p'.1, p.2 ++ p.1.pauseOf a) from Prod.ext rfl hpauses]
  by_cases ha : ∃ i b, a = .supervisor i b
  · obtain ⟨i, b, rfl⟩ := ha
    generalize p'.1 = s' at hmove ⊢
    cases hmove with
    | @supervisor _ _ v v' socket evs hv hm =>
        have hnext := Supervisor.nextBackoff_move hm
        cases hpausing : v.pausing p.1.streaming with
        | true =>
            have hone : p.1.pauseOf (.supervisor i b)
                = [⟨i, v.session.outcome, v.backoffAfter⟩] := by
              simp only [pauseOf, hv, hpausing, if_true]
            rw [hpausing, if_pos rfl] at hnext
            rw [hone]
            exact Paced.pause h hv hpausing rfl hnext
        | false =>
            have hnone : p.1.pauseOf (.supervisor i b) = [] := by
              simp only [pauseOf, hv, hpausing, Bool.false_eq_true, if_false]
            rw [hpausing, if_neg Bool.false_ne_true] at hnext
            rw [hnone, List.append_nil]
            refine Paced.same h (by simp) fun j w hw => .inl ?_
            rcases getElem?_set_cases hw with ⟨-, hw⟩ | ⟨rfl, rfl⟩
            · exact ⟨w, hw, rfl⟩
            · exact ⟨v, hv, hnext⟩
  · have hother : ∀ i b, a ≠ .supervisor i b := fun i b hab => ha ⟨i, b, hab⟩
    have hnone : p.1.pauseOf a = [] := by
      cases a with
      | supervisor i b => exact absurd rfl (hother i b)
      | _ => rfl
    obtain ⟨hlen, hsame⟩ := nextBackoff_of_getElem? hmove hother
    rw [hnone, List.append_nil]
    exact Paced.same h hlen hsame

/--
**The pauses are the documented ones.**  After any sequence of outcomes the loop sleeps 30
seconds after a rejection, 2 after a session that opened, and after a failure to open as
many as `failureWait` says; every pause is of 2 to 30 seconds, and none is shorter than the
one before it in a row of failures.  In every run of the client, that is how each
supervisor has slept after the sessions it has had.
-/
theorem pauses_documented (parse : StdString → Option Value) :
    (∀ os : List Outcome, Documented os (waits kInitialBackoffSeconds os)) ∧
      ∀ (actions : List (Action D)) p, (recorded parse).run ({}, []) actions = some p →
        ∀ i, secondsOf i p.2 = waits kInitialBackoffSeconds (outcomesOf i p.2) ∧
          Documented (outcomesOf i p.2) (secondsOf i p.2) := by
  refine ⟨documented_waits, fun actions p hrun i => ?_⟩
  have hpaced : Paced p := (System.reach_of_run hrun).invariant paced_start
    fun _ _ _ h hstep => paced_step h hstep
  rw [hpaced.seconds i]
  exact ⟨rfl, documented_waits _⟩

end

/-- Two sessions in a row that fail to resolve the host, and their pauses. -/
noncomputable def twoFailuresRun : List (Action ℝ) :=
  startCall ++ publishSteps 0 ++
    steps 0 ([.proceed, .proceed, .fail (ascii "no host")] ++ List.replicate 32 .proceed ++
      [.fail (ascii "no host")] ++ List.replicate 5 .proceed)

theorem pauses_documented_twoFailures :
    ∃ p, (recorded fun _ => none).run ({}, []) twoFailuresRun = some p ∧
      secondsOf 0 p.2 = [2, 4] ∧ Documented (outcomesOf 0 p.2) (secondsOf 0 p.2) := by
  have hseconds : ((recorded fun _ => none).run ({}, []) twoFailuresRun).map (secondsOf 0 ·.2)
      = some [2, 4] := by
    decide +kernel
  obtain ⟨p, hrun, hp⟩ := Option.map_eq_some_iff.mp hseconds
  exact ⟨p, hrun, hp, ((pauses_documented _).2 _ p hrun 0).2⟩

end Client

end AisLive
