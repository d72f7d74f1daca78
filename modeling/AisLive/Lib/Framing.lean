/-
Streams cut into items.

What arrives on a connection is a stream, and it arrives in pieces of any size.  A receiver
keeps what it has not used yet in a buffer, takes items off the front as long as there is a
whole one, and waits when there is not.  It may also get stuck: the buffer begins with
something it will never take off.

A `Parser` looks at the front of a buffer.  Its laws say that a verdict once given stands,
however much is appended; from that it follows that the items are those of the whole stream,
wherever it was cut (`foldl_feed`).  A receiver does two things with a stream, it handles each
item and, when stuck, does something about it; it must not matter how often that is done.
-/
import Mathlib.Data.List.Basic

namespace Framing

/-- What the front of a buffer is. -/
inductive Verdict (α β ν : Type*)
  | item (b : β) (rest : List α)
  | wait
  | stuck (v : ν)

/-- A parser of the front of a buffer. -/
structure Parser (α β ν : Type*) where
  next : List α → Verdict α β ν
  shrinks : ∀ {buf b rest}, next buf = .item b rest → rest.length < buf.length
  item_append : ∀ {buf b rest} more, next buf = .item b rest →
    next (buf ++ more) = .item b (rest ++ more)
  stuck_append : ∀ {buf v} more, next buf = .stuck v → next (buf ++ more) = .stuck v

namespace Parser

variable {α β ν σ : Type*} (P : Parser α β ν)

/-- At most `n` items from the front of a buffer, and what is left of it. -/
def items : Nat → List α → List β × List α
  | 0, buf => ([], buf)
  | n + 1, buf =>
      match P.next buf with
      | .item b rest => (b :: (items n rest).1, (items n rest).2)
      | .wait => ([], buf)
      | .stuck _ => ([], buf)

/-- All items of a buffer, and what is left of it. -/
def parse (buf : List α) : List β × List α := P.items buf.length buf

/-! ### Taking items off -/

theorem items_of_nil (n : Nat) : P.items n [] = ([], []) := by
  cases n with
  | zero => rfl
  | succ n =>
      rw [items]
      cases hnext : P.next [] with
      | item b rest =>
          have := P.shrinks hnext
          simp at this
      | wait => rfl
      | stuck v => rfl

/-- Any bound that is not too small gives the same. -/
theorem items_eq {n m : Nat} {buf : List α} (hn : buf.length ≤ n) (hm : buf.length ≤ m) :
    P.items n buf = P.items m buf := by
  induction n generalizing m buf with
  | zero =>
      rw [List.length_eq_zero_iff.mp (by omega : buf.length = 0), items_of_nil, items_of_nil]
  | succ n ih =>
      cases m with
      | zero =>
          rw [List.length_eq_zero_iff.mp (by omega : buf.length = 0), items_of_nil, items_of_nil]
      | succ m =>
          rw [items, items]
          cases hnext : P.next buf with
          | item b rest =>
              have hshorter := P.shrinks hnext
              simp only
              rw [ih (m := m) (by omega) (by omega)]
          | wait => rfl
          | stuck v => rfl

theorem items_of_length_le {n : Nat} {buf : List α} (h : buf.length ≤ n) :
    P.items n buf = P.parse buf := P.items_eq h (Nat.le_refl _)

theorem parse_of_item {buf : List α} {b : β} {rest : List α} (h : P.next buf = .item b rest) :
    P.parse buf = (b :: (P.parse rest).1, (P.parse rest).2) := by
  have hshorter := P.shrinks h
  obtain ⟨n, hn⟩ : ∃ n, buf.length = n + 1 := ⟨buf.length - 1, by omega⟩
  rw [parse, hn, items, h]
  simp only
  rw [P.items_of_length_le (by omega)]

theorem parse_of_wait {buf : List α} (h : P.next buf = .wait) : P.parse buf = ([], buf) := by
  unfold parse
  cases buf.length with
  | zero => rfl
  | succ n => rw [items, h]

theorem parse_of_stuck {buf : List α} {v : ν} (h : P.next buf = .stuck v) :
    P.parse buf = ([], buf) := by
  unfold parse
  cases buf.length with
  | zero => rfl
  | succ n => rw [items, h]

/-- Nothing whole is left. -/
theorem next_parse_ne_item (buf : List α) (b : β) (rest : List α) :
    P.next (P.parse buf).2 ≠ .item b rest := by
  induction hn : buf.length using Nat.strongRecOn generalizing buf with
  | _ n ih =>
      cases hnext : P.next buf with
      | item b' rest' =>
          have hshorter := P.shrinks hnext
          rw [P.parse_of_item hnext]
          exact ih rest'.length (by omega) rest' rfl
      | wait =>
          rw [P.parse_of_wait hnext, hnext]
          simp
      | stuck v =>
          rw [P.parse_of_stuck hnext, hnext]
          simp

/-- **The items of a longer stream** are those of its beginning, and those of what was left
with the rest appended. -/
theorem parse_append (buf more : List α) :
    P.parse (buf ++ more)
      = ((P.parse buf).1 ++ (P.parse ((P.parse buf).2 ++ more)).1,
        (P.parse ((P.parse buf).2 ++ more)).2) := by
  induction hn : buf.length using Nat.strongRecOn generalizing buf with
  | _ n ih =>
      cases hnext : P.next buf with
      | item b rest =>
          have hshorter := P.shrinks hnext
          rw [P.parse_of_item hnext, P.parse_of_item (P.item_append more hnext),
            ih rest.length (by omega) rest rfl]
          rfl
      | wait =>
          rw [P.parse_of_wait hnext]
          rfl
      | stuck v =>
          rw [P.parse_of_stuck hnext]
          rfl

/-- A stream of encoded items gives them back, and then the items of what follows. -/
theorem parse_flatMap {γ : Type*} {encode : γ → List α} {decoded : γ → β} {valid : γ → Prop}
    (hencode : ∀ c rest, valid c → P.next (encode c ++ rest) = .item (decoded c) rest) (cs : List γ)
    (hvalid : ∀ c ∈ cs, valid c) (rest : List α) :
    P.parse (cs.flatMap encode ++ rest)
      = (cs.map decoded ++ (P.parse rest).1, (P.parse rest).2) := by
  induction cs with
  | nil => rfl
  | cons c cs ih =>
      have hc := hencode c (cs.flatMap encode ++ rest) (hvalid c List.mem_cons_self)
      rw [List.flatMap_cons, List.append_assoc, P.parse_of_item hc,
        ih fun c' hc' => hvalid c' (List.mem_cons_of_mem c hc')]
      rfl

/-! ### A receiver -/

variable (handle : σ → β → σ) (settle : ν → σ → σ)

/-- What a receiver does about the front of its buffer when there is no item. -/
def settled (buf : List α) (s : σ) : σ :=
  match P.next buf with
  | .item _ _ => s
  | .wait => s
  | .stuck v => settle v s

/-- A receiver with its buffer takes in some more of the stream. -/
def feed (p : σ × List α) (more : List α) : σ × List α :=
  let result := P.parse (p.2 ++ more)
  (P.settled settle result.2 (result.1.foldl handle p.1), result.2)

/-- **Two pieces are one.** -/
theorem feed_feed (hsettle : ∀ v s, settle v (settle v s) = settle v s) (p : σ × List α)
    (first second : List α) :
    P.feed handle settle (P.feed handle settle p first) second
      = P.feed handle settle p (first ++ second) := by
  have hall := P.parse_append (p.2 ++ first) second
  rw [List.append_assoc] at hall
  unfold feed
  simp only
  rw [hall]
  simp only [List.foldl_append]
  have hnone := P.next_parse_ne_item (p.2 ++ first)
  generalize P.parse (p.2 ++ first) = result at hnone ⊢
  cases hnext : P.next result.2 with
  | item b rest => exact absurd hnext (hnone b rest)
  | wait => simp only [settled, hnext]
  | stuck v =>
      have hstuck := P.stuck_append second hnext
      rw [P.parse_of_stuck hstuck]
      simp only [settled, hnext, hstuck, List.foldl_nil, hsettle]

/-- **Any number of pieces are one**, wherever the stream is cut. -/
theorem foldl_feed (hsettle : ∀ v s, settle v (settle v s) = settle v s) (p : σ × List α)
    (pieces : List (List α)) (hne : pieces ≠ []) :
    pieces.foldl (P.feed handle settle) p = P.feed handle settle p pieces.flatten := by
  induction pieces generalizing p with
  | nil => exact absurd rfl hne
  | cons piece pieces ih =>
      cases pieces with
      | nil => simp
      | cons piece' pieces =>
          rw [List.foldl_cons, ih _ (by simp), P.feed_feed handle settle hsettle]
          rfl

end Parser

end Framing
