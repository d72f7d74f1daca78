/-
The real numbers as an instance of `Double`.

Nothing proved over an arbitrary `Double` needs it.  It is where statements about one
concrete run are made: exact arithmetic in the place of the rounded one, with the
comparisons and the formatting of the C++ operations.
-/
import Mathlib.Analysis.SpecialFunctions.Complex.Arg
import AisLive.Double

namespace AisLive

/-- The nearest natural number, the even one when two are as near. -/
noncomputable def roundHalfEven (x : ℝ) : Nat :=
  if x - ⌊x⌋₊ < 1 / 2 then ⌊x⌋₊
  else if 1 / 2 < x - ⌊x⌋₊ then ⌊x⌋₊ + 1
  else if ⌊x⌋₊ % 2 = 0 then ⌊x⌋₊ else ⌊x⌋₊ + 1

/-- `%.<places>f` of a number that is not negative, given in units of the last place. -/
def fixed (places units : Nat) : WxString :=
  decimal (units / 10 ^ places) ++
    if places = 0 then [] else '.' :: (decimal (units % 10 ^ places)).leftpad places '0'

open Classical in
noncomputable instance : Double ℝ where
  ofInt n := n
  ofDecimal m e := m / 10 ^ e
  add x y := x + y
  sub x y := x - y
  mul x y := x * y
  div x y := x / y
  lt x y := decide (x < y)
  le x y := decide (x ≤ y)
  eq x y := decide (x = y)
  abs x := |x|
  sin := Real.sin
  cos := Real.cos
  sqrt := Real.sqrt
  atan2 y x := Complex.arg ⟨x, y⟩
  pi := Real.pi
  toInt x := if 0 ≤ x then ⌊x⌋ else ⌈x⌉
  format places x :=
    (if x < 0 then ['-'] else []) ++ fixed places (roundHalfEven (|x| * 10 ^ places))

theorem roundHalfEven_natCast (n : Nat) : roundHalfEven n = n := by
  rw [roundHalfEven, Nat.floor_natCast, sub_self, if_pos (by norm_num)]

theorem fixed_zero (units : Nat) : fixed 0 units = decimal units := by
  simp [fixed]

/-- **The reals have what whole degrees need.** -/
instance : LawfulDouble ℝ where
  lt_irrefl x := by
    show decide (x < x) = false
    exact decide_eq_false (lt_irrefl x)
  lt_ofInt m n _ _ := by
    show decide ((m : ℝ) < (n : ℝ)) = decide (m < n)
    exact decide_eq_decide.mpr Int.cast_lt
  toInt_ofInt n _ := by
    show (if (0 : ℝ) ≤ n then ⌊(n : ℝ)⌋ else ⌈(n : ℝ)⌉) = n
    rw [Int.floor_intCast, Int.ceil_intCast, ite_self]
  format_ofInt n _ := by
    show (if ((n : Int) : ℝ) < 0 then ['-'] else []) ++
      fixed 0 (roundHalfEven (|((n : Int) : ℝ)| * 10 ^ 0)) = decimal n
    have hnonneg : (0 : ℝ) ≤ n := Nat.cast_nonneg n
    rw [Int.cast_natCast, if_neg (not_lt.mpr hnonneg), pow_zero, mul_one, abs_of_nonneg hnonneg,
      roundHalfEven_natCast, fixed_zero]
    rfl

end AisLive
