/-
Text taken apart at its line breaks.

A line ends at a carriage return, at a line feed, or at the two together, and what comes
after the last break is a line only if there is any of it.  A sender that ends every line
with both writes lines that come back as they were exactly when none holds a break
(`length_lines_eq_iff`), and otherwise more of them come back than were sent.
-/
import Mathlib.Data.List.Basic

namespace Lines

variable {α : Type*} [DecidableEq α] (cr lf : α)

/-- A character in front of the first line. -/
def prepend (c : α) : List (List α) → List (List α)
  | [] => [[c]]
  | l :: ls => (c :: l) :: ls

/-- The lines of a text. -/
def lines : List α → List (List α)
  | [] => []
  | [c] => if c = cr ∨ c = lf then [[]] else [[c]]
  | c :: d :: rest =>
      if c = cr ∧ d = lf then [] :: lines rest
      else if c = cr ∨ c = lf then [] :: lines (d :: rest)
      else prepend c (lines (d :: rest))

/-- A line with its end. -/
def terminated (l : List α) : List α := l ++ [cr, lf]

variable {cr lf}

omit [DecidableEq α] in
theorem prepend_append {c : α} {ls ls' : List (List α)} (h : ls ≠ []) :
    prepend c (ls ++ ls') = prepend c ls ++ ls' := by
  cases ls with
  | nil => exact absurd rfl h
  | cons l ls => rfl

theorem lines_ne_nil {c : α} {text : List α} : lines cr lf (c :: text) ≠ [] := by
  cases text with
  | nil =>
      rw [lines]
      split <;> simp
  | cons d rest =>
      rw [lines]
      split
      · simp
      · split
        · simp
        · unfold prepend
          split <;> simp

theorem lines_terminated_ne_nil {l : List α} : lines cr lf (terminated cr lf l) ≠ [] := by
  cases l <;> exact lines_ne_nil

/-- A break of its own, before what does not complete it. -/
theorem lines_break {c d : α} {rest : List α} (hc : c = cr ∨ c = lf) (hd : ¬(c = cr ∧ d = lf)) :
    lines cr lf (c :: d :: rest) = [] :: lines cr lf (d :: rest) := by
  rw [lines, if_neg hd, if_pos hc]

theorem lines_cons {c d : α} {rest : List α} (hc : ¬(c = cr ∨ c = lf)) :
    lines cr lf (c :: d :: rest) = prepend c (lines cr lf (d :: rest)) := by
  rw [lines, if_neg fun h => hc (.inl h.1), if_neg hc]

@[simp] theorem lines_crlf {rest : List α} :
    lines cr lf (cr :: lf :: rest) = [] :: lines cr lf rest := by
  rw [lines, if_pos ⟨rfl, rfl⟩]

/-- Nothing after the end of a line changes the lines before it. -/
theorem lines_terminated_append (hne : cr ≠ lf) (rest : List α) :
    ∀ l : List α, lines cr lf (terminated cr lf l ++ rest)
      = lines cr lf (terminated cr lf l) ++ lines cr lf rest
  | [] => by
      rw [terminated, List.nil_append, List.cons_append, List.cons_append, List.nil_append,
        lines_crlf, lines_crlf]
      rfl
  | [c] => by
      have hstep := lines_terminated_append hne rest []
      simp only [terminated, List.nil_append, List.cons_append] at hstep ⊢
      by_cases hc : c = cr ∨ c = lf
      · rw [lines_break hc fun h => hne h.2, lines_break hc fun h => hne h.2, hstep]
        rfl
      · rw [lines_cons hc, lines_cons hc, hstep, prepend_append lines_ne_nil]
  | c :: d :: l => by
      have hrest := lines_terminated_append hne rest l
      have hstep := lines_terminated_append hne rest (d :: l)
      simp only [terminated, List.cons_append] at hrest hstep ⊢
      by_cases hpair : c = cr ∧ d = lf
      · obtain ⟨rfl, rfl⟩ := hpair
        rw [lines_crlf, lines_crlf, hrest]
        rfl
      · by_cases hc : c = cr ∨ c = lf
        · rw [lines_break hc hpair, lines_break hc hpair, hstep]
          rfl
        · rw [lines_cons hc, lines_cons hc, hstep, prepend_append lines_ne_nil]

/-- A text without breaks is one line. -/
theorem lines_terminated {l : List α} (hcr : cr ∉ l) (hlf : lf ∉ l) :
    lines cr lf (terminated cr lf l) = [l] := by
  induction l with
  | nil => exact lines_crlf
  | cons c l ih =>
      obtain ⟨hcr₁, hcr₂⟩ := not_or.mp fun h => hcr (List.mem_cons.mpr h)
      obtain ⟨hlf₁, hlf₂⟩ := not_or.mp fun h => hlf (List.mem_cons.mpr h)
      have hc : ¬(c = cr ∨ c = lf) := fun h => h.elim (hcr₁ ·.symm) (hlf₁ ·.symm)
      have hprepend : lines cr lf (terminated cr lf (c :: l))
          = prepend c (lines cr lf (terminated cr lf l)) := by
        cases l with
        | nil => exact lines_cons hc
        | cons d l => exact lines_cons hc
      rw [hprepend, ih hcr₂ hlf₂]
      rfl

/-- A text with a break in it is more than one line. -/
theorem one_lt_length_lines (hne : cr ≠ lf) :
    ∀ {l : List α}, cr ∈ l ∨ lf ∈ l → 1 < (lines cr lf (terminated cr lf l)).length
  | [], h => by simp at h
  | [c], h => by
      have hc : c = cr ∨ c = lf := by simpa [eq_comm] using h
      rw [terminated, List.singleton_append, lines_break hc fun h => hne h.2, lines_crlf]
      simp
  | c :: d :: l, h => by
      by_cases hpair : c = cr ∧ d = lf
      · obtain ⟨rfl, rfl⟩ := hpair
        rw [terminated, List.cons_append, List.cons_append, lines_crlf, List.length_cons]
        exact Nat.succ_lt_succ (List.length_pos_of_ne_nil lines_terminated_ne_nil)
      · by_cases hc : c = cr ∨ c = lf
        · rw [terminated, List.cons_append, List.cons_append, lines_break hc hpair,
            List.length_cons]
          exact Nat.succ_lt_succ (List.length_pos_of_ne_nil lines_ne_nil)
        · have hrest : cr ∈ d :: l ∨ lf ∈ d :: l := by
            rcases h with h | h
            · exact .inl ((List.mem_cons.mp h).resolve_left fun h => hc (.inl h.symm))
            · exact .inr ((List.mem_cons.mp h).resolve_left fun h => hc (.inr h.symm))
          have hlen := one_lt_length_lines hne hrest
          rw [terminated, List.cons_append, List.cons_append, lines_cons hc]
          rw [terminated, List.cons_append] at hlen
          revert hlen
          cases lines cr lf (d :: (l ++ [cr, lf])) <;> simp [prepend]

section

variable (hne : cr ≠ lf)

include hne

/-- At least as many lines come back as were sent. -/
theorem length_le_length_lines (ls : List (List α)) :
    ls.length ≤ (lines cr lf (ls.map (terminated cr lf)).flatten).length := by
  induction ls with
  | nil => exact Nat.zero_le _
  | cons l ls ih =>
      have hne' : lines cr lf (terminated cr lf l) ≠ [] := lines_terminated_ne_nil
      have hpos := List.length_pos_of_ne_nil hne'
      rw [List.map_cons, List.flatten_cons, lines_terminated_append hne, List.length_append,
        List.length_cons]
      omega

/-- Lines without breaks come back as they were. -/
theorem lines_flatten {ls : List (List α)} (h : ∀ l ∈ ls, cr ∉ l ∧ lf ∉ l) :
    lines cr lf (ls.map (terminated cr lf)).flatten = ls := by
  induction ls with
  | nil => rfl
  | cons l ls ih =>
      have hl := h l List.mem_cons_self
      rw [List.map_cons, List.flatten_cons, lines_terminated_append hne,
        lines_terminated hl.1 hl.2, ih fun l' hl' => h l' (List.mem_cons_of_mem l hl')]
      rfl

/-- **As many lines come back as were sent exactly if none of them holds a break.** -/
theorem length_lines_eq_iff (ls : List (List α)) :
    (lines cr lf (ls.map (terminated cr lf)).flatten).length = ls.length ↔
      ∀ l ∈ ls, cr ∉ l ∧ lf ∉ l := by
  refine ⟨fun hlen => ?_, fun h => by rw [lines_flatten hne h]⟩
  induction ls with
  | nil => exact fun _ hl => absurd hl List.not_mem_nil
  | cons l ls ih =>
      rw [List.map_cons, List.flatten_cons, lines_terminated_append hne, List.length_append,
        List.length_cons] at hlen
      have hrest := length_le_length_lines hne ls
      have hne' : lines cr lf (terminated cr lf l) ≠ [] := lines_terminated_ne_nil
      have hpos := List.length_pos_of_ne_nil hne'
      refine List.forall_mem_cons.mpr ⟨?_, ih (by omega)⟩
      by_contra hbreak
      have hlt := one_lt_length_lines hne (l := l) (by
        by_contra h
        exact hbreak (not_or.mp h))
      omega

end

end Lines
