/-
Lists joined with a separator and taken apart again.

`tokens` splits at every separator, and is the one splitter that gives no token at all
for the empty text: an empty list of tokens and a single empty one are both written as
the empty text, so one of them cannot come back.  What does come back is the token at
each index, with the empty token where there is none (`getD_tokens_intercalate`), and
the whole list when no token is empty (`tokens_intercalate`).
-/
import Mathlib.Data.List.Basic

namespace Tokens

variable {α : Type*} [BEq α] [LawfulBEq α]

/-- The parts between separators, none for the empty text. -/
def tokens (sep : α) (text : List α) : List (List α) :=
  if text.isEmpty then [] else text.splitOn sep

/-- A token holds no separator. -/
theorem not_mem_of_mem_splitOn {sep : α} {text token : List α} (h : token ∈ text.splitOn sep) :
    sep ∉ token := by
  induction text generalizing token with
  | nil => simp_all
  | cons a text ih =>
      rw [List.splitOn_cons_eq_if_modifyHead] at h
      split at h
      · rcases List.mem_cons.mp h with rfl | h
        · simp
        · exact ih h
      · rename_i hne
        cases hsplit : text.splitOn sep with
        | nil => exact absurd hsplit (List.splitOn_ne_nil _ _)
        | cons hd tl =>
            rw [hsplit, List.modifyHead_cons] at h
            rcases List.mem_cons.mp h with rfl | h
            · have hhd : sep ∉ hd := ih (by rw [hsplit]; exact List.mem_cons_self)
              have hne' : sep ≠ a := fun heq => hne (beq_iff_eq.mpr heq.symm)
              exact fun hmem => (List.mem_cons.mp hmem).elim hne' hhd
            · exact ih (by rw [hsplit]; exact List.mem_cons_of_mem _ h)

theorem not_mem_of_mem_tokens {sep : α} {text token : List α} (h : token ∈ tokens sep text) :
    sep ∉ token := by
  unfold tokens at h
  split at h
  · cases h
  · exact not_mem_of_mem_splitOn h

section

omit [BEq α] [LawfulBEq α]

/-- Joined text, after its first part. -/
theorem intercalate_cons (sep : α) (l : List α) (ls : List (List α)) :
    [sep].intercalate (l :: ls) = l ++ ls.flatMap (sep :: ·) := by
  induction ls generalizing l with
  | nil => rw [List.intercalate_singleton, List.flatMap_nil, List.append_nil]
  | cons l' ls ih =>
      rw [List.intercalate_cons_cons, ih, List.flatMap_cons, List.append_assoc]
      rfl

/-- Joining by appending: a separator goes before each part unless nothing stands before
it. -/
theorem foldl_append_parts (sep : α) {ls : List (List α)}
    (hne : ∀ l ∈ ls, l ≠ []) :
    ls.foldl (fun text l => (if text.isEmpty then text else text ++ [sep]) ++ l) []
      = [sep].intercalate ls := by
  have htail : ∀ (ls : List (List α)) (text : List α), text ≠ [] →
      ls.foldl (fun text l => (if text.isEmpty then text else text ++ [sep]) ++ l) text
        = text ++ ls.flatMap (sep :: ·) := by
    intro ls
    induction ls with
    | nil => intro text _; simp
    | cons l ls ih =>
        intro text htext
        rw [List.foldl_cons, if_neg (by simpa using htext), ih _ (by simp), List.flatMap_cons,
          List.append_assoc, List.append_assoc]
        rfl
  cases ls with
  | nil => rfl
  | cons l ls =>
      rw [List.foldl_cons, intercalate_cons]
      exact htail ls l (hne l List.mem_cons_self)

/-- Joining by index: a separator goes before each part but the one at index `0`. -/
theorem foldl_range_parts (sep : α) (ls : List (List α)) :
    (List.range ls.length).foldl (fun text i =>
      (if 0 < i then text ++ [sep] else text) ++ (ls[i]?).getD []) [] = [sep].intercalate ls := by
  have htail : ∀ (ls : List (List α)) (text : List α),
      (List.range ls.length).foldl (fun text i => text ++ [sep] ++ (ls[i]?).getD []) text
        = text ++ ls.flatMap (sep :: ·) := by
    intro ls
    induction ls with
    | nil => intro text; simp
    | cons l ls ih =>
        intro text
        rw [List.length_cons, List.range_succ_eq_map, List.foldl_cons, List.foldl_map]
        simp only [List.getElem?_cons_succ, List.getElem?_cons_zero, Option.getD_some]
        rw [ih, List.flatMap_cons, List.append_assoc, List.append_assoc]
        rfl
  cases ls with
  | nil => rfl
  | cons l ls =>
      rw [List.length_cons, List.range_succ_eq_map, List.foldl_cons, List.foldl_map,
        intercalate_cons]
      simp only [List.getElem?_cons_succ, List.getElem?_cons_zero, Option.getD_some,
        Nat.lt_irrefl, if_false, List.nil_append, Nat.succ_pos, if_true]
      exact htail ls l

end

omit [BEq α] [LawfulBEq α] in
/-- Joined text is empty only when there is nothing to join, or one empty part. -/
theorem intercalate_eq_nil {sep : α} {ls : List (List α)} (h : [sep].intercalate ls = []) :
    ls = [] ∨ ls = [[]] := by
  cases ls with
  | nil => exact Or.inl rfl
  | cons l ls =>
      cases ls with
      | nil => exact Or.inr (by rw [List.intercalate_singleton] at h; rw [h])
      | cons l' ls => simp [List.intercalate_cons_cons] at h

/-- **Tokens without separators come back at their index**, an empty one as no token. -/
theorem getD_tokens_intercalate {sep : α} {ls : List (List α)} (hsep : ∀ l ∈ ls, sep ∉ l)
    (i : Nat) : ((tokens sep ([sep].intercalate ls))[i]?).getD [] = (ls[i]?).getD [] := by
  unfold tokens
  split
  · rename_i hempty
    rcases intercalate_eq_nil (List.isEmpty_iff.mp hempty) with rfl | rfl
    · rfl
    · cases i <;> rfl
  · rename_i hne
    have hls : ls ≠ [] := by
      rintro rfl
      exact hne rfl
    rw [List.splitOn_intercalate sep hsep hls]

/-- **Tokens that are not empty come back whole.** -/
theorem tokens_intercalate {sep : α} {ls : List (List α)} (hsep : ∀ l ∈ ls, sep ∉ l)
    (hne : ∀ l ∈ ls, l ≠ []) : tokens sep ([sep].intercalate ls) = ls := by
  cases ls with
  | nil => rfl
  | cons l ls =>
      have hnil : ([sep].intercalate (l :: ls)).isEmpty = false := by
        rw [Bool.eq_false_iff]
        intro hempty
        rcases intercalate_eq_nil (List.isEmpty_iff.mp hempty) with h | h
        · cases h
        · exact hne [] (by rw [h]; exact List.mem_cons_self) rfl
      rw [tokens, hnil, if_neg (by simp), List.splitOn_intercalate sep hsep (by simp)]

end Tokens
