/-
The floating-point arithmetic the plugin uses.

`Double` lists the operations of C++ `double` that occur in the source, and every
definition that touches a coordinate or a size is written over an arbitrary
instance.  What does not depend on rounding is then proved of all instances at
once.  `LawfulDouble` adds the few facts about whole degrees that do matter: the
order of small integers, and that converting one to `double` and back, or printing
it with no decimals, loses nothing.  IEEE arithmetic has them, and so do the reals.
-/
import AisLive.Text

namespace AisLive

/-- The operations on `double`. -/
class Double (D : Type) where
  /-- Conversion from `int`. -/
  ofInt : Int → D
  /-- A decimal literal: `ofDecimal m e` is `m / 10 ^ e`. -/
  ofDecimal : Nat → Nat → D
  add : D → D → D
  sub : D → D → D
  mul : D → D → D
  div : D → D → D
  lt : D → D → Bool
  le : D → D → Bool
  eq : D → D → Bool
  /-- `std::abs`. -/
  abs : D → D
  sin : D → D
  cos : D → D
  sqrt : D → D
  atan2 : D → D → D
  /-- `M_PI`. -/
  pi : D
  /-- `static_cast<int>`. -/
  toInt : D → Int
  /-- `wxString::Format("%.<n>f", x)`. -/
  format : Nat → D → WxString

namespace Double

variable {D : Type} [Double D]

/-- `std::min`. -/
def min (a b : D) : D := if lt b a then b else a

/-- `std::clamp`. -/
def clamp (v lo hi : D) : D := if lt v lo then lo else if lt hi v then hi else v

/-- The smaller of two is the first when the second is not below it. -/
theorem min_eq_left {a b : D} (h : lt b a = false) : min a b = a := by
  rw [min, h]
  rfl

end Double

/-- What the whole degrees of a slider need of `double`. -/
class LawfulDouble (D : Type) [Double D] : Prop where
  lt_irrefl : ∀ x : D, Double.lt x x = false
  lt_ofInt : ∀ m n : Int, m.natAbs < 2 ^ 31 → n.natAbs < 2 ^ 31 →
    Double.lt (Double.ofInt m : D) (Double.ofInt n) = decide (m < n)
  toInt_ofInt : ∀ n : Int, n.natAbs < 2 ^ 31 → Double.toInt (Double.ofInt n : D) = n
  format_ofInt : ∀ n : Nat, n < 2 ^ 31 → Double.format 0 (Double.ofInt n : D) = decimal n

namespace Double

variable {D : Type} [Double D] [LawfulDouble D]

/-- Clamping never leaves a value above the upper bound. -/
theorem not_lt_clamp {lo hi : Int} (hlo : lo.natAbs < 2 ^ 31) (hhi : hi.natAbs < 2 ^ 31)
    (hle : lo ≤ hi) (v : D) : lt (ofInt hi) (clamp v (ofInt lo) (ofInt hi)) = false := by
  unfold clamp
  split
  · rw [LawfulDouble.lt_ofInt _ _ hhi hlo]
    exact decide_eq_false (by omega)
  · split
    · exact LawfulDouble.lt_irrefl _
    · rename_i h
      exact Bool.eq_false_iff.mpr h

/-- Clamping a whole number of degrees clamps the number. -/
theorem clamp_ofInt {n lo hi : Int} (hn : n.natAbs < 2 ^ 31) (hlo : lo.natAbs < 2 ^ 31)
    (hhi : hi.natAbs < 2 ^ 31) (hle : lo ≤ hi) :
    clamp (ofInt n : D) (ofInt lo) (ofInt hi) = ofInt (max lo (Min.min n hi)) := by
  unfold clamp
  rw [LawfulDouble.lt_ofInt _ _ hn hlo, LawfulDouble.lt_ofInt _ _ hhi hn]
  by_cases h1 : n < lo
  · rw [if_pos (decide_eq_true h1), show max lo (Min.min n hi) = lo by omega]
  · rw [if_neg (by simpa using h1)]
    by_cases h2 : hi < n
    · rw [if_pos (decide_eq_true h2), show max lo (Min.min n hi) = hi by omega]
    · rw [if_neg (by simpa using h2), show max lo (Min.min n hi) = n by omega]

end Double

end AisLive
