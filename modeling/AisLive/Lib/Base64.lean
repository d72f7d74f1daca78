/-
Base64, as the standard states it.

Three bytes are a number of twenty-four bits, written as four digits of six; one or two bytes
at the end give two or three digits, padded with `=`.  The digits are taken by division, so
that an encoder that shifts and masks has something to be compared with: `first_digit` to
`fourth_digit` are that comparison, one digit at a time.
-/
import Mathlib.Algebra.Group.Nat.Defs
import Mathlib.Data.List.GetD

namespace Base64

/-- The alphabet. -/
def alphabet : List UInt8 :=
  "ABCDEFGHIJKLMNOPQRSTUVWXYZabcdefghijklmnopqrstuvwxyz0123456789+/".toList.map
    fun c => c.toNat.toUInt8

/-- The digit of a value below sixty-four. -/
def digit (value : Nat) : UInt8 := alphabet.getD value 0

/-- `=`. -/
def pad : UInt8 := 61

/-- The text of some bytes. -/
def encode : List UInt8 → List UInt8
  | x :: y :: z :: rest =>
      digit (x.toNat / 4) :: digit (x.toNat % 4 * 16 + y.toNat / 16) ::
        digit (y.toNat % 16 * 4 + z.toNat / 64) :: digit (z.toNat % 64) :: encode rest
  | [x, y] =>
      [digit (x.toNat / 4), digit (x.toNat % 4 * 16 + y.toNat / 16), digit (y.toNat % 16 * 4), pad]
  | [x] => [digit (x.toNat / 4), digit (x.toNat % 4 * 16), pad, pad]
  | [] => []

theorem length_encode : ∀ bytes : List UInt8, (encode bytes).length = 4 * ((bytes.length + 2) / 3)
  | [] => by simp [encode]
  | [_] => by simp [encode]
  | [_, _] => by simp [encode]
  | x :: y :: z :: rest => by
      rw [encode]
      simp only [List.length_cons, length_encode rest]
      omega

/-- Every digit is a letter of the alphabet. -/
theorem digit_mem {value : Nat} (h : value < 64) : digit value ∈ alphabet := by
  have hlength : value < alphabet.length := h
  rw [digit, List.getD_eq_getElem _ _ hlength]
  exact List.getElem_mem hlength

/-- A text holds letters of the alphabet and `=`. -/
theorem mem_encode {c : UInt8} : ∀ {bytes : List UInt8}, c ∈ encode bytes → c ∈ pad :: alphabet
  | [], h => by simp [encode] at h
  | [x], h => by
      have hx := x.toNat_lt
      simp only [encode, List.mem_cons, List.not_mem_nil, or_false] at h
      rcases h with rfl | rfl | rfl | rfl
      · exact List.mem_cons_of_mem _ (digit_mem (by omega))
      · exact List.mem_cons_of_mem _ (digit_mem (by omega))
      · exact List.mem_cons_self
      · exact List.mem_cons_self
  | [x, y], h => by
      have hx := x.toNat_lt
      have hy := y.toNat_lt
      simp only [encode, List.mem_cons, List.not_mem_nil, or_false] at h
      rcases h with rfl | rfl | rfl | rfl
      · exact List.mem_cons_of_mem _ (digit_mem (by omega))
      · exact List.mem_cons_of_mem _ (digit_mem (by omega))
      · exact List.mem_cons_of_mem _ (digit_mem (by omega))
      · exact List.mem_cons_self
  | x :: y :: z :: rest, h => by
      have hx := x.toNat_lt
      have hy := y.toNat_lt
      have hz := z.toNat_lt
      rw [encode] at h
      simp only [List.mem_cons] at h
      rcases h with rfl | rfl | rfl | rfl | h
      · exact List.mem_cons_of_mem _ (digit_mem (by omega))
      · exact List.mem_cons_of_mem _ (digit_mem (by omega))
      · exact List.mem_cons_of_mem _ (digit_mem (by omega))
      · exact List.mem_cons_of_mem _ (digit_mem (by omega))
      · exact mem_encode h

/-! ### Digits by shifts and masks -/

/-- The high bits of a byte, masked and shifted down. -/
theorem high_bits {y : Nat} (hy : y < 256) {n : Nat} (hn : n ≤ 8) :
    (y &&& (256 - 2 ^ n)) >>> n = y / 2 ^ n := by
  have hmask : (256 - 2 ^ n) >>> n = 2 ^ (8 - n) - 1 :=
    (by decide : ∀ n ≤ 8, (256 - 2 ^ n) >>> n = 2 ^ (8 - n) - 1) n hn
  rw [Nat.shiftRight_and_distrib, hmask, Nat.and_two_pow_sub_one_eq_mod, Nat.shiftRight_eq_div_pow]
  apply Nat.mod_eq_of_lt
  rw [Nat.div_lt_iff_lt_mul (Nat.two_pow_pos n), ← Nat.pow_add, show 8 - n + n = 8 by omega]
  exact hy

/-- Low bits of one byte in front of high bits of the next. -/
theorem joined_bits {x y : Nat} (m : Nat) {n : Nat} (hy : y < 2 ^ n) :
    ((x &&& (2 ^ m - 1)) <<< n) ||| y = x % 2 ^ m * 2 ^ n + y := by
  rw [Nat.and_two_pow_sub_one_eq_mod, ← Nat.shiftLeft_add_eq_or_of_lt hy, Nat.shiftLeft_eq]

theorem first_digit {x : Nat} (hx : x < 256) : (x >>> 2) &&& 63 = x / 4 := by
  have h := Nat.and_two_pow_sub_one_eq_mod (x >>> 2) 6
  rw [Nat.shiftRight_eq_div_pow] at h ⊢
  exact h.trans (Nat.mod_eq_of_lt (by omega))

theorem second_digit {x y : Nat} (hy : y < 256) :
    ((x &&& 3) <<< 4) ||| ((y &&& 240) >>> 4) = x % 4 * 16 + y / 16 := by
  have hhigh : (y &&& 240) >>> 4 = y / 16 := high_bits (n := 4) hy (by decide)
  rw [hhigh]
  exact joined_bits 2 (show y / 16 < 2 ^ 4 by omega)

theorem third_digit {y z : Nat} (hz : z < 256) :
    ((y &&& 15) <<< 2) ||| ((z &&& 192) >>> 6) = y % 16 * 4 + z / 64 := by
  have hhigh : (z &&& 192) >>> 6 = z / 64 := high_bits (n := 6) hz (by decide)
  rw [hhigh]
  exact joined_bits 4 (show z / 64 < 2 ^ 2 by omega)

theorem fourth_digit (z : Nat) : z &&& 63 = z % 64 := Nat.and_two_pow_sub_one_eq_mod z 6

/-- The last digit of two bytes. -/
theorem last_of_two (y : Nat) : (y &&& 15) <<< 2 = y % 16 * 4 := by
  rw [Nat.shiftLeft_eq, Nat.and_two_pow_sub_one_eq_mod y 4]

/-- The last digit of one byte. -/
theorem last_of_one (x : Nat) : (x &&& 3) <<< 4 = x % 4 * 16 := by
  rw [Nat.shiftLeft_eq, Nat.and_two_pow_sub_one_eq_mod x 2]

end Base64
