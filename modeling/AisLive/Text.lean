/-
Strings and numbers as text.

The plugin handles two kinds of string.  `std::string` is a sequence of bytes: it
is what arrives from the network and what JsonCpp hands out.  `wxString` is a
sequence of characters: it is what the widgets and the configuration hold.
`fromUTF8` is the only way from the first to the second, and it is always called
on a `c_str()`, so it sees the bytes up to the first NUL.

Numbers go to text by `%u` and `%09u` and come back by `ToULong`, which is
`strtoul` in base ten required to consume the whole text.  `toULong_decimal` is
the round trip everything saved to the configuration relies on.
-/
import Mathlib.Algebra.Group.Nat.Defs
import Mathlib.Data.List.Basic

namespace AisLive

/-- `std::string`: bytes. -/
abbrev StdString := List UInt8

/-- `wxString`: characters. -/
abbrev WxString := List Char

/-- A string literal used as a `std::string`. -/
def ascii (s : String) : StdString := s.toList.map fun c => c.toNat.toUInt8

/-- A string literal used as a `wxString`. -/
def wx (s : String) : WxString := s.toList

/-- `wxString::FromUTF8(s.c_str())`: the bytes before the first NUL, decoded, or the
empty string when they are not UTF-8. -/
def fromUTF8 (s : StdString) : WxString :=
  match String.fromUTF8? ⟨(s.takeWhile (· ≠ 0)).toArray⟩ with
  | some text => text.toList
  | none => []

/-! ### White space -/

/-- `isspace` in the C locale. -/
def isSpace (c : Char) : Bool :=
  c == ' ' || c == '\t' || c == '\n' || c == '\x0b' || c == '\x0c' || c == '\r'

/-- `Trim(true).Trim(false)`: no white space left at either end. -/
def trim (text : WxString) : WxString :=
  ((text.reverse.dropWhile isSpace).reverse).dropWhile isSpace

/-! ### Decimal numbers -/

/-- `wxString::Format("%u", n)`. -/
def decimal (n : Nat) : WxString := Nat.toDigits 10 n

/-- `wxString::Format("%09u", n)`. -/
def decimal09 (n : Nat) : WxString := (decimal n).leftpad 9 '0'

/-- One more than `ULONG_MAX` on a 64-bit build. -/
def ulongModulus : Nat := 2 ^ 64

/-- `wxString::ToULong` in base ten: leading white space and a sign are taken, the
rest has to be digits, and a value past `ULONG_MAX` is refused.  A minus sign
negates modulo `ULONG_MAX + 1`, as `strtoul` does. -/
def toULong (text : WxString) : Option Nat :=
  let body := text.dropWhile isSpace
  let negative := body.head? == some '-'
  let digits := if negative || body.head? == some '+' then body.tail else body
  if digits.isEmpty || !digits.all Char.isDigit then none
  else if ulongModulus ≤ Nat.ofDigitChars 10 digits 0 then none
  else if negative then some ((ulongModulus - Nat.ofDigitChars 10 digits 0) % ulongModulus)
  else some (Nat.ofDigitChars 10 digits 0)

theorem decimal_ne_nil (n : Nat) : decimal n ≠ [] := Nat.toDigits_ne_nil

/-- Nine digits need no padding. -/
theorem decimal09_eq_decimal {n : Nat} (h : 10 ^ 8 ≤ n) : decimal09 n = decimal n := by
  have hlen : ¬(Nat.toDigits 10 n).length ≤ 8 := by
    rw [Nat.length_toDigits_le_iff (by omega) (by omega)]
    exact Nat.not_lt.mpr h
  have hpad : 9 - (decimal n).length = 0 := by
    rw [decimal]
    omega
  rw [decimal09, List.leftpad, hpad, List.replicate_zero, List.nil_append]

theorem isDigit_of_mem_decimal {n : Nat} {c : Char} (hc : c ∈ decimal n) : c.isDigit = true :=
  Nat.isDigit_of_mem_toDigits (by omega) (by omega) hc

/-- A digit is neither white space nor a sign nor a separator. -/
theorem ne_of_isDigit {c d : Char} (hc : c.isDigit = true) (hd : d.isDigit = false) : c ≠ d := by
  rintro rfl
  rw [hc] at hd
  exact Bool.noConfusion hd

theorem isSpace_of_isDigit {c : Char} (hc : c.isDigit = true) : isSpace c = false := by
  simp only [isSpace, Bool.or_eq_false_iff, beq_eq_false_iff_ne]
  exact ⟨⟨⟨⟨⟨ne_of_isDigit hc (by decide), ne_of_isDigit hc (by decide)⟩,
    ne_of_isDigit hc (by decide)⟩, ne_of_isDigit hc (by decide)⟩,
    ne_of_isDigit hc (by decide)⟩, ne_of_isDigit hc (by decide)⟩

/-- Text made of digits alone is read as its decimal value. -/
theorem toULong_of_digits {text : WxString} (hne : text ≠ [])
    (hdig : ∀ c ∈ text, c.isDigit = true) (hlt : Nat.ofDigitChars 10 text 0 < ulongModulus) :
    toULong text = some (Nat.ofDigitChars 10 text 0) := by
  obtain ⟨c, rest, rfl⟩ := List.exists_cons_of_ne_nil hne
  have hc : c.isDigit = true := hdig c List.mem_cons_self
  have hbody : (c :: rest).dropWhile isSpace = c :: rest := by
    rw [List.dropWhile_cons, isSpace_of_isDigit hc]
    rfl
  have hminus : (some c == some '-') = false := by
    simpa using ne_of_isDigit hc (by decide)
  have hplus : (some c == some '+') = false := by
    simpa using ne_of_isDigit hc (by decide)
  have hall : (c :: rest).all Char.isDigit = true := List.all_eq_true.mpr hdig
  simp only [toULong, hbody, List.head?_cons, hminus, hplus, Bool.or_self, Bool.false_eq_true,
    if_false, hall, List.isEmpty_cons, Bool.not_true, Nat.not_le.mpr hlt]

/-- **What `%u` writes, `ToULong` reads back.** -/
theorem toULong_decimal {n : Nat} (hn : n < ulongModulus) : toULong (decimal n) = some n := by
  have hval : Nat.ofDigitChars 10 (decimal n) 0 = n := Nat.ofDigitChars_ten_toDigits
  rw [toULong_of_digits (decimal_ne_nil n) (fun c hc => isDigit_of_mem_decimal hc) (by rwa [hval]),
    hval]

end AisLive
