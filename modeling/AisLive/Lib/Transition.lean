/-
Transition systems whose steps are chosen by actions.

A system is a partial step function: `step s a = none` says that the action `a`
is not enabled in `s`.  Everything that can happen from a state is then a list of
actions, and a statement about every run is a statement about every such list.

Two ways of speaking about runs are provided.  `Reach` is the inductive one, and the
one invariants are proved over.  `Always` and `AllSteps` speak of one given list of
actions: `always_of_allSteps` says what holds as long as every step meets a condition,
and `always_iff_allSteps` turns an exact condition on single steps into an exact
condition on runs.  `countSteps` counts the steps that meet a condition, for a quantity each
of them changes by one (`balance_run`).  `observed` adds a record of a run to a system, for
statements about what has happened so far.
-/
import Mathlib.Data.List.Basic

namespace Transition

/-- A system: what each action does to each state, where it is enabled. -/
structure System (σ : Type*) (α : Type*) where
  /-- The state after the action, or `none` when the action is not enabled. -/
  step : σ → α → Option σ

variable {σ α τ β : Type*}

namespace System

/-! ### Reachability -/

/-- The states reached from `s₀`. -/
inductive Reach (M : System σ α) (s₀ : σ) : σ → Prop
  | refl : Reach M s₀ s₀
  | tail {s s' : σ} {a : α} (h : Reach M s₀ s) (hstep : M.step s a = some s') : Reach M s₀ s'

variable {M : System σ α} {ok : σ → α → Prop} {s₀ : σ}

theorem Reach.trans {s s' : σ} (h : M.Reach s₀ s) (h' : M.Reach s s') : M.Reach s₀ s' := by
  induction h' with
  | refl => exact h
  | tail _ hstep ih => exact Reach.tail ih hstep

/-- **The invariant rule.**  What holds at the start and survives every step holds of
everything reached. -/
theorem Reach.invariant {I : σ → Prop} (h₀ : I s₀)
    (hstep : ∀ s a s', I s → M.step s a = some s' → I s') {s : σ} (h : M.Reach s₀ s) : I s := by
  induction h with
  | refl => exact h₀
  | tail _ hst ih => exact hstep _ _ _ ih hst

/-! ### Runs given as lists of actions -/

/-- The state after the actions, or `none` when one of them is not enabled. -/
def run (M : System σ α) : σ → List α → Option σ
  | s, [] => some s
  | s, a :: as =>
      match M.step s a with
      | none => none
      | some s' => run M s' as

@[simp] theorem run_nil (s : σ) : M.run s [] = some s := rfl

theorem run_cons (s : σ) (a : α) (as : List α) :
    M.run s (a :: as) = (M.step s a).bind fun s' => M.run s' as := by
  rw [run]
  cases M.step s a <;> rfl

theorem run_append (s : σ) (as bs : List α) :
    M.run s (as ++ bs) = (M.run s as).bind fun s' => M.run s' bs := by
  induction as generalizing s with
  | nil => rfl
  | cons a as ih =>
      rw [List.cons_append, run_cons, run_cons]
      cases M.step s a with
      | none => rfl
      | some s' => exact ih s'

theorem reach_of_run {s s' : σ} {as : List α} (h : M.run s as = some s') : M.Reach s s' := by
  induction as generalizing s with
  | nil =>
      rw [run_nil, Option.some.injEq] at h
      exact h ▸ Reach.refl
  | cons a as ih =>
      rw [run_cons] at h
      cases hst : M.step s a with
      | none => simp [hst] at h
      | some t =>
          rw [hst] at h
          exact (Reach.tail Reach.refl hst).trans (ih h)

/-- What survives every step taken by an action that meets `A` survives a run of
such actions. -/
theorem run_invariant {I : σ → Prop} {A : α → Prop}
    (hstep : ∀ s a s', I s → A a → M.step s a = some s' → I s') {as : List α}
    (hok : ∀ a ∈ as, A a) {s s' : σ} (h : I s) (hrun : M.run s as = some s') : I s' := by
  induction as generalizing s with
  | nil =>
      rw [run_nil, Option.some.injEq] at hrun
      exact hrun ▸ h
  | cons a as ih =>
      rw [run_cons] at hrun
      cases hst : M.step s a with
      | none => simp [hst] at hrun
      | some t =>
          rw [hst] at hrun
          exact ih (fun b hb => hok b (List.mem_cons_of_mem a hb))
            (hstep s a t h (hok a List.mem_cons_self) hst) hrun

/-- What one action always brings about, and no step undoes, holds after every run the
action occurs in. -/
theorem run_of_mem {Q : σ → Prop} {a : α} (hmake : ∀ s s', M.step s a = some s' → Q s')
    (hkeep : ∀ s b s', Q s → M.step s b = some s' → Q s') {as : List α} (hmem : a ∈ as)
    {s s' : σ} (hrun : M.run s as = some s') : Q s' := by
  induction as generalizing s with
  | nil => cases hmem
  | cons b as ih =>
      rw [run_cons] at hrun
      cases hst : M.step s b with
      | none => simp [hst] at hrun
      | some t =>
          rw [hst] at hrun
          rcases List.mem_cons.mp hmem with rfl | hmem'
          · exact run_invariant (A := fun _ => True) (fun s b s' hq _ h => hkeep s b s' hq h)
              (fun _ _ => trivial) (hmake s t hst) hrun
          · exact ih hmem' hrun

/-- **Refinement by a view.**  Where every step is, seen through `view`, the operation its
action stands for, a run is the operations of its actions one after the other. -/
theorem view_run {I : σ → Prop} {view : σ → τ} {op : α → τ → τ}
    (hI : ∀ s a s', I s → M.step s a = some s' → I s')
    (hview : ∀ s a s', I s → M.step s a = some s' → view s' = op a (view s)) {as : List α}
    {s s' : σ} (h : I s) (hrun : M.run s as = some s') :
    view s' = as.foldl (fun t a => op a t) (view s) := by
  induction as generalizing s with
  | nil =>
      rw [run_nil, Option.some.injEq] at hrun
      rw [hrun, List.foldl_nil]
  | cons a as ih =>
      rw [run_cons] at hrun
      cases hst : M.step s a with
      | none => simp [hst] at hrun
      | some t =>
          rw [hst] at hrun
          rw [ih (hI s a t h hst) hrun, hview s a t h hst, List.foldl_cons]

/-! ### Observers -/

/-- The system with an observer, which each step may update and none depends on. -/
def observed (M : System σ α) (observe : τ → σ → α → σ → τ) : System (σ × τ) α where
  step p a := (M.step p.1 a).map fun s' => (s', observe p.2 p.1 a s')

theorem step_observed {observe : τ → σ → α → σ → τ} {p p' : σ × τ} {a : α}
    (h : (M.observed observe).step p a = some p') :
    M.step p.1 a = some p'.1 ∧ p'.2 = observe p.2 p.1 a p'.1 := by
  obtain ⟨s', hs, rfl⟩ := Option.map_eq_some_iff.mp h
  exact ⟨hs, rfl⟩

/-- Observing changes nothing about the runs. -/
theorem map_run_observed (observe : τ → σ → α → σ → τ) (s : σ) (t : τ) (as : List α) :
    ((M.observed observe).run (s, t) as).map Prod.fst = M.run s as := by
  induction as generalizing s t with
  | nil => rfl
  | cons a as ih =>
      rw [run_cons, run_cons]
      cases hst : M.step s a with
      | none => simp [observed, hst]
      | some s' =>
          simp only [observed, hst, Option.map_some, Option.bind_some]
          exact ih s' _

/-- `P` holds in every state the actions pass through.  A run stops at the first
action that is not enabled. -/
def Always (M : System σ α) (P : σ → Prop) : σ → List α → Prop
  | s, [] => P s
  | s, a :: as => P s ∧ ∀ s', M.step s a = some s' → Always M P s' as

/-- Every step the actions take meets `ok`. -/
def AllSteps (M : System σ α) (ok : σ → α → Prop) : σ → List α → Prop
  | _, [] => True
  | s, a :: as => ∀ s', M.step s a = some s' → ok s a ∧ AllSteps M ok s' as

instance decidableAllSteps [∀ s a, Decidable (ok s a)] :
    ∀ (s : σ) (as : List α), Decidable (M.AllSteps ok s as)
  | _, [] => isTrue trivial
  | s, a :: as =>
      match hst : M.step s a with
      | none => isTrue fun s' h => by rw [hst] at h; cases h
      | some t =>
          have := decidableAllSteps t as
          decidable_of_iff (ok s a ∧ M.AllSteps ok t as)
            ⟨fun h s' hs => by rw [hst] at hs; cases hs; exact h, fun h => h t hst⟩

/-- How many of the steps the actions take meet `ok`. -/
def countSteps (M : System σ α) (ok : σ → α → Prop) [∀ s a, Decidable (ok s a)] :
    σ → List α → Nat
  | _, [] => 0
  | s, a :: as =>
      match M.step s a with
      | none => 0
      | some s' => (if ok s a then 1 else 0) + countSteps M ok s' as

theorem countSteps_eq_zero_iff [∀ s a, Decidable (ok s a)] {s : σ} {as : List α} :
    M.countSteps ok s as = 0 ↔ M.AllSteps (fun s a => ¬ok s a) s as := by
  induction as generalizing s with
  | nil => exact iff_of_true rfl trivial
  | cons a as ih =>
      rw [countSteps, AllSteps]
      cases hst : M.step s a with
      | none => exact iff_of_true rfl (by rintro _ ⟨⟩)
      | some t =>
          simp only [Option.some.injEq, forall_eq', Nat.add_eq_zero_iff, ih]
          by_cases hok : ok s a <;> simp [hok]

/-- **A balance over a run.**  Where a step moves `f` and `g` alike, but for one more in `g` when
it meets `ok`, a run does so but for the number of such steps. -/
theorem balance_run [∀ s a, Decidable (ok s a)] {I : σ → Prop} {f g : σ → Nat}
    (hI : ∀ s a s', I s → M.step s a = some s' → I s')
    (hstep : ∀ s a s', I s → M.step s a = some s' →
      g s' + f s = g s + f s' + if ok s a then 1 else 0) {as : List α} {s s' : σ} (h : I s)
    (hrun : M.run s as = some s') : g s' + f s = g s + f s' + M.countSteps ok s as := by
  induction as generalizing s with
  | nil =>
      rw [run_nil, Option.some.injEq] at hrun
      rw [hrun, countSteps, Nat.add_zero]
  | cons a as ih =>
      rw [run_cons] at hrun
      cases hst : M.step s a with
      | none => simp [hst] at hrun
      | some t =>
          rw [hst] at hrun
          have hfirst := hstep s a t h hst
          have hrest := ih (hI s a t h hst) hrun
          simp only [countSteps, hst]
          omega

theorem Always.head {P : σ → Prop} {s : σ} {as : List α} (h : M.Always P s as) : P s := by
  cases as with
  | nil => exact h
  | cons a as => exact h.1

theorem Always.last {P : σ → Prop} {s s' : σ} {as : List α} (h : M.Always P s as)
    (hrun : M.run s as = some s') : P s' := by
  induction as generalizing s with
  | nil =>
      rw [run_nil, Option.some.injEq] at hrun
      exact hrun ▸ h
  | cons a as ih =>
      rw [run_cons] at hrun
      cases hst : M.step s a with
      | none => simp [hst] at hrun
      | some t =>
          rw [hst] at hrun
          exact ih (h.2 t hst) hrun

/-- **Simulation.**  Where related states stay related, whatever a step that meets `ok` does
being matched by a run of the other system, a run all of whose steps meet it is matched by a
run. -/
theorem simulated_run {N : System τ β} {R : σ → τ → Prop}
    (hstep : ∀ s a s' t, R s t → ok s a → M.step s a = some s' →
      ∃ bs t', N.run t bs = some t' ∧ R s' t') {as : List α} {s s' : σ} {t : τ} (h : R s t)
    (hok : M.AllSteps ok s as) (hrun : M.run s as = some s') :
    ∃ bs t', N.run t bs = some t' ∧ R s' t' := by
  induction as generalizing s t with
  | nil =>
      rw [run_nil, Option.some.injEq] at hrun
      exact ⟨[], t, rfl, hrun ▸ h⟩
  | cons a as ih =>
      rw [run_cons] at hrun
      cases hst : M.step s a with
      | none => simp [hst] at hrun
      | some s₁ =>
          rw [hst] at hrun
          obtain ⟨hok₁, hrest⟩ := hok s₁ hst
          obtain ⟨bs, t₁, hrun₁, h₁⟩ := hstep s a s₁ t h hok₁ hst
          obtain ⟨bs', t', hrun', h'⟩ := ih h₁ hrest hrun
          exact ⟨bs ++ bs', t', by rw [run_append, hrun₁, Option.bind_some, hrun'], h'⟩

/-- **An exact step condition is an exact run condition.**  Where the invariant `I`
is kept and, from a state in which `P` holds, a step keeps `P` exactly when it
meets `ok`, a run stays inside `P` exactly when all its steps meet `ok`. -/
theorem always_iff_allSteps {I P : σ → Prop}
    (hI : ∀ s a s', I s → M.step s a = some s' → I s')
    (hP : ∀ s a s', I s → P s → M.step s a = some s' → (P s' ↔ ok s a)) :
    ∀ (as : List α) (s : σ), I s → P s → (M.Always P s as ↔ M.AllSteps ok s as) := by
  intro as
  induction as with
  | nil => intro s _ hs; exact ⟨fun _ => trivial, fun _ => hs⟩
  | cons a as ih =>
      intro s hi hs
      constructor
      · intro h s' hst
        have hs' : P s' := (h.2 s' hst).head
        exact ⟨(hP s a s' hi hs hst).mp hs', (ih s' (hI s a s' hi hst) hs').mp (h.2 s' hst)⟩
      · intro h
        refine ⟨hs, fun s' hst => ?_⟩
        obtain ⟨hok, hrest⟩ := h s' hst
        have hs' : P s' := (hP s a s' hi hs hst).mpr hok
        exact (ih s' (hI s a s' hi hst) hs').mpr hrest

end System

end Transition
