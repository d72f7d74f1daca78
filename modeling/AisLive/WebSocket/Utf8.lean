/-
The UTF-8 validator.

`validateUtf8` runs a table-driven automaton over the bytes of a string: the first 256 entries
of `utf8d` give the type of a byte, the rest the next state for each state and type.  Text
messages and close reasons are handed on only when it accepts them, and `sendText` sends
nothing it refuses.

That it accepts exactly the encodings of sequences of characters is proved by saying for each
state which bytes may come next.  A character's first byte leads to a state that knows how many
bytes are to follow and in which range the next one has to be; the ranges are what keeps out
overlong forms, surrogates and values past the last character.
-/
import AisLive.Text
import Mathlib.Tactic.SplitIfs

namespace AisLive.WebSocket

/-- `utf8_accept`. -/
def utf8Accept : Nat := 0

/-- `utf8_reject`. -/
def utf8Reject : Nat := 1

/-- `utf8d`. -/
def utf8d : List Nat :=
  [0, 0, 0, 0, 0, 0, 0, 0, 0, 0, 0, 0, 0, 0, 0, 0,
   0, 0, 0, 0, 0, 0, 0, 0, 0, 0, 0, 0, 0, 0, 0, 0,
   0, 0, 0, 0, 0, 0, 0, 0, 0, 0, 0, 0, 0, 0, 0, 0,
   0, 0, 0, 0, 0, 0, 0, 0, 0, 0, 0, 0, 0, 0, 0, 0,
   0, 0, 0, 0, 0, 0, 0, 0, 0, 0, 0, 0, 0, 0, 0, 0,
   0, 0, 0, 0, 0, 0, 0, 0, 0, 0, 0, 0, 0, 0, 0, 0,
   0, 0, 0, 0, 0, 0, 0, 0, 0, 0, 0, 0, 0, 0, 0, 0,
   0, 0, 0, 0, 0, 0, 0, 0, 0, 0, 0, 0, 0, 0, 0, 0,
   1, 1, 1, 1, 1, 1, 1, 1, 1, 1, 1, 1, 1, 1, 1, 1,
   9, 9, 9, 9, 9, 9, 9, 9, 9, 9, 9, 9, 9, 9, 9, 9,
   7, 7, 7, 7, 7, 7, 7, 7, 7, 7, 7, 7, 7, 7, 7, 7,
   7, 7, 7, 7, 7, 7, 7, 7, 7, 7, 7, 7, 7, 7, 7, 7,
   8, 8, 2, 2, 2, 2, 2, 2, 2, 2, 2, 2, 2, 2, 2, 2,
   2, 2, 2, 2, 2, 2, 2, 2, 2, 2, 2, 2, 2, 2, 2, 2,
   10, 3, 3, 3, 3, 3, 3, 3, 3, 3, 3, 3, 3, 4, 3, 3,
   11, 6, 6, 6, 5, 8, 8, 8, 8, 8, 8, 8, 8, 8, 8, 8,
   0, 1, 2, 3, 5, 8, 7, 1, 1, 1, 4, 6, 1, 1, 1, 1,
   1, 1, 1, 1, 1, 1, 1, 1, 1, 1, 1, 1, 1, 1, 1, 1,
   1, 0, 1, 1, 1, 1, 1, 0, 1, 0, 1, 1, 1, 1, 1, 1,
   1, 2, 1, 1, 1, 1, 1, 2, 1, 2, 1, 1, 1, 1, 1, 1,
   1, 1, 1, 1, 1, 1, 1, 2, 1, 1, 1, 1, 1, 1, 1, 1,
   1, 2, 1, 1, 1, 1, 1, 1, 1, 2, 1, 1, 1, 1, 1, 1,
   1, 1, 1, 1, 1, 1, 1, 3, 1, 3, 1, 1, 1, 1, 1, 1,
   1, 3, 1, 1, 1, 1, 1, 3, 1, 3, 1, 1, 1, 1, 1, 1,
   1, 3, 1, 1, 1, 1, 1, 1, 1, 1, 1, 1, 1, 1, 1, 1]

/-- `decodeNextByte`: the next state and code point. -/
def decodeNextByte (state : Nat) (codep : UInt32) (byte : UInt8) : Nat × UInt32 :=
  let type := utf8d.getD byte.toNat 0
  let codep :=
    if state ≠ utf8Accept then (byte.toUInt32 &&& (0x3f : UInt32)) ||| (codep <<< (6 : UInt32))
    else ((0xff : UInt32) >>> UInt32.ofNat type) &&& byte.toUInt32
  (utf8d.getD (256 + state * 16 + type) 0, codep)

/-- `Utf8Validator`. -/
structure Utf8Validator where
  state : Nat := utf8Accept
  codepoint : UInt32 := 0

/-- `Utf8Validator::decode`: whether no byte was refused, and the validator afterwards. -/
def Utf8Validator.decode (v : Utf8Validator) : StdString → Bool × Utf8Validator
  | [] => (true, v)
  | byte :: rest =>
      let next := decodeNextByte v.state v.codepoint byte
      if next.1 = utf8Reject then (false, ⟨next.1, next.2⟩)
      else Utf8Validator.decode ⟨next.1, next.2⟩ rest

/-- `Utf8Validator::complete`. -/
def Utf8Validator.complete (v : Utf8Validator) : Bool := v.state = utf8Accept

/-- `validateUtf8`. -/
def validateUtf8 (s : StdString) : Bool :=
  let result := ({} : Utf8Validator).decode s
  if result.1 then result.2.complete else false

/-! ### The automaton -/

/-- The state after one byte. -/
def nextState (state : Nat) (byte : UInt8) : Nat :=
  utf8d.getD (256 + state * 16 + utf8d.getD byte.toNat 0) 0

/-- The automaton takes every byte and ends between two characters. -/
def Accepts : Nat → StdString → Prop
  | state, [] => state = utf8Accept
  | state, byte :: rest =>
      nextState state byte ≠ utf8Reject ∧ Accepts (nextState state byte) rest

theorem complete_decode_iff (v : Utf8Validator) (s : StdString) :
    (v.decode s).1 = true ∧ (v.decode s).2.complete = true ↔ Accepts v.state s := by
  induction s generalizing v with
  | nil => exact (and_iff_right rfl).trans decide_eq_true_iff
  | cons byte rest ih =>
      have hnext : (decodeNextByte v.state v.codepoint byte).1 = nextState v.state byte := rfl
      rw [Utf8Validator.decode, Accepts]
      simp only [hnext]
      by_cases hreject : nextState v.state byte = utf8Reject
      · simp [hreject]
      · rw [if_neg hreject, ih]
        simp [hreject]

theorem validateUtf8_iff (s : StdString) : validateUtf8 s = true ↔ Accepts utf8Accept s := by
  rw [← complete_decode_iff {} s, validateUtf8]
  cases (({} : Utf8Validator).decode s).1 <;> simp

/-! ### What each state waits for -/

/-- A byte in the range leads to `next`, any other is refused. -/
def within (low high next byte : Nat) : Nat :=
  if low ≤ byte ∧ byte ≤ high then next else utf8Reject

/-- The state after the first byte of a character. -/
def firstState (byte : Nat) : Nat :=
  if byte ≤ 0x7f then utf8Accept
  else if 0xc2 ≤ byte ∧ byte ≤ 0xdf then 2
  else if byte = 0xe0 then 4
  else if byte = 0xed then 5
  else if 0xe1 ≤ byte ∧ byte ≤ 0xef then 3
  else if byte = 0xf0 then 6
  else if 0xf1 ≤ byte ∧ byte ≤ 0xf3 then 7
  else if byte = 0xf4 then 8
  else utf8Reject

/-- The bytes each state but the two ends waits for, and where they lead. -/
def expected (state : Nat) : Nat × Nat × Nat :=
  match state with
  | 2 => (0x80, 0xbf, utf8Accept)
  | 3 => (0x80, 0xbf, 2)
  | 4 => (0xa0, 0xbf, 2)
  | 5 => (0x80, 0x9f, 2)
  | 6 => (0x90, 0xbf, 3)
  | 7 => (0x80, 0xbf, 3)
  | _ => (0x80, 0x8f, 3)

theorem expected_two : expected 2 = (0x80, 0xbf, utf8Accept) := rfl

theorem expected_three : expected 3 = (0x80, 0xbf, 2) := rfl

theorem expected_four : expected 4 = (0xa0, 0xbf, 2) := rfl

theorem expected_five : expected 5 = (0x80, 0x9f, 2) := rfl

theorem expected_six : expected 6 = (0x90, 0xbf, 3) := rfl

theorem expected_seven : expected 7 = (0x80, 0xbf, 3) := rfl

theorem expected_eight : expected 8 = (0x80, 0x8f, 3) := rfl

/-- The type of a byte. -/
def byteType (byte : Nat) : Nat :=
  if byte ≤ 0x7f then 0
  else if byte ≤ 0x8f then 1
  else if byte ≤ 0x9f then 9
  else if byte ≤ 0xbf then 7
  else if byte ≤ 0xc1 then 8
  else if byte ≤ 0xdf then 2
  else if byte = 0xe0 then 10
  else if byte = 0xed then 4
  else if byte ≤ 0xef then 3
  else if byte = 0xf0 then 11
  else if byte ≤ 0xf3 then 6
  else if byte = 0xf4 then 5
  else 8

/-- The row of a state in the second half of the table. -/
def typeState (state type : Nat) : Nat :=
  match state with
  | 0 => [0, 1, 2, 3, 5, 8, 7, 1, 1, 1, 4, 6].getD type 0
  | 2 => if type = 1 ∨ type = 7 ∨ type = 9 then utf8Accept else utf8Reject
  | 3 => if type = 1 ∨ type = 7 ∨ type = 9 then 2 else utf8Reject
  | 4 => if type = 7 then 2 else utf8Reject
  | 5 => if type = 1 ∨ type = 9 then 2 else utf8Reject
  | 6 => if type = 7 ∨ type = 9 then 3 else utf8Reject
  | 7 => if type = 1 ∨ type = 7 ∨ type = 9 then 3 else utf8Reject
  | 8 => if type = 1 then 3 else utf8Reject
  | _ => utf8Reject

/-- An entry of a part of the table. -/
theorem getD_of_part {start size : Nat} {entry : Nat → Nat}
    (hpart : (utf8d.drop start).take size = (List.range size).map entry) {i : Nat} (hi : i < size) :
    utf8d.getD (start + i) 0 = entry i := by
  have hentry := congrArg (fun part => part[i]?) hpart
  simp only [List.getElem?_take, if_pos hi, List.getElem?_drop, List.getElem?_map,
    List.getElem?_range hi, Option.map_some] at hentry
  rw [List.getD_eq_getElem?_getD, hentry, Option.getD_some]

theorem bytes_eq : (utf8d.drop 0).take 256 = (List.range 256).map byteType := by decide +kernel

theorem rows_eq : ∀ state < 9, (utf8d.drop (256 + state * 16)).take 12
    = (List.range 12).map (typeState state) := by decide +kernel

theorem byteType_lt : ∀ byte < 256, byteType byte < 12 := by decide +kernel

theorem typeState_byteType : ∀ byte < 256, typeState 0 (byteType byte) = firstState byte ∧
    ∀ state < 9, 2 ≤ state → typeState state (byteType byte)
      = within (expected state).1 (expected state).2.1 (expected state).2.2 byte := by
  decide +kernel

/-- **The table.** -/
theorem nextState_eq {state : Nat} (h : state < 9) (byte : UInt8) :
    nextState state byte = typeState state (byteType byte.toNat) := by
  have htype := getD_of_part bytes_eq byte.toNat_lt
  rw [Nat.zero_add] at htype
  rw [nextState, htype]
  exact getD_of_part (rows_eq state h) (byteType_lt byte.toNat byte.toNat_lt)

theorem nextState_accept (byte : UInt8) : nextState utf8Accept byte = firstState byte.toNat :=
  (nextState_eq (by decide) byte).trans (typeState_byteType byte.toNat byte.toNat_lt).1

theorem nextState_inside {state : Nat} (hlow : 2 ≤ state) (hhigh : state < 9) (byte : UInt8) :
    nextState state byte
      = within (expected state).1 (expected state).2.1 (expected state).2.2 byte.toNat :=
  (nextState_eq hhigh byte).trans
    ((typeState_byteType byte.toNat byte.toNat_lt).2 state hhigh hlow)

/-- Inside a character the next byte has to be in the range its state waits for. -/
theorem accepts_inside_iff {state low high next : Nat} (hlow : 2 ≤ state) (hhigh : state < 9)
    (hexpected : expected state = (low, high, next)) {s : StdString} :
    Accepts state s ↔ ∃ byte rest, s = byte :: rest ∧ low ≤ byte.toNat ∧ byte.toNat ≤ high ∧
      Accepts next rest := by
  have hnext : next ≠ utf8Reject := by
    have hends : ∀ state < 9, 2 ≤ state → (expected state).2.2 ≠ utf8Reject := by decide
    have := hends state hhigh hlow
    rwa [hexpected] at this
  cases s with
  | nil =>
      simp only [Accepts, utf8Accept, reduceCtorEq, false_and, exists_false, iff_false]
      omega
  | cons byte rest =>
      rw [Accepts, nextState_inside hlow hhigh, hexpected]
      simp only [within, List.cons.injEq]
      by_cases hrange : low ≤ byte.toNat ∧ byte.toNat ≤ high
      · rw [if_pos hrange]
        constructor
        · intro h
          exact ⟨byte, rest, ⟨rfl, rfl⟩, hrange.1, hrange.2, h.2⟩
        · rintro ⟨_, _, ⟨rfl, rfl⟩, -, -, h⟩
          exact ⟨hnext, h⟩
      · rw [if_neg hrange]
        constructor
        · intro h
          exact absurd rfl h.1
        · rintro ⟨_, _, ⟨rfl, rfl⟩, h1, h2, -⟩
          exact absurd ⟨h1, h2⟩ hrange

/-! ### One character -/

/-- The encoding of the character with the value `v`. -/
def encodeValue (v : Nat) : StdString :=
  if v ≤ 0x7f then [UInt8.ofNat v]
  else if v ≤ 0x7ff then [UInt8.ofNat (v / 64 % 0x20 + 0xc0), UInt8.ofNat (v % 0x40 + 0x80)]
  else if v ≤ 0xffff then
    [UInt8.ofNat (v / 4096 % 0x10 + 0xe0), UInt8.ofNat (v / 64 % 0x40 + 0x80),
      UInt8.ofNat (v % 0x40 + 0x80)]
  else
    [UInt8.ofNat (v / 262144 % 0x08 + 0xf0), UInt8.ofNat (v / 4096 % 0x40 + 0x80),
      UInt8.ofNat (v / 64 % 0x40 + 0x80), UInt8.ofNat (v % 0x40 + 0x80)]

theorem utf8EncodeChar_eq (c : Char) : String.utf8EncodeChar c = encodeValue c.toNat := rfl

theorem utf8EncodeChar_ofNat {v : Nat} (h : v.isValidChar) :
    String.utf8EncodeChar (Char.ofNat v) = encodeValue v := by
  have hvalue : (Char.ofNat v).toNat = v := by
    rw [Char.ofNat, dif_pos h]
    rfl
  rw [utf8EncodeChar_eq, hvalue]

theorem accepts_two_iff {s : StdString} : Accepts 2 s ↔ ∃ byte rest, s = byte :: rest ∧
    0x80 ≤ byte.toNat ∧ byte.toNat ≤ 0xbf ∧ Accepts utf8Accept rest :=
  accepts_inside_iff (by omega) (by omega) expected_two

theorem accepts_three_iff {s : StdString} : Accepts 3 s ↔ ∃ byte rest, s = byte :: rest ∧
    0x80 ≤ byte.toNat ∧ byte.toNat ≤ 0xbf ∧ Accepts 2 rest :=
  accepts_inside_iff (by omega) (by omega) expected_three

theorem toNat_ofNat_of_lt {n : Nat} (h : n < 256) : (UInt8.ofNat n).toNat = n := by
  rw [UInt8.toNat_ofNat', Nat.mod_eq_of_lt h]

/-- A first byte leads to the state that waits for the others. -/
theorem accepts_first {n : Nat} (next : Nat) (hn : n < 256) (hfirst : firstState n = next)
    (hne : next ≠ utf8Reject) {rest : StdString} :
    Accepts utf8Accept (UInt8.ofNat n :: rest) ↔ Accepts next rest := by
  rw [Accepts, nextState_accept, toNat_ofNat_of_lt hn, hfirst]
  exact and_iff_right hne

/-- A byte in the range its state waits for leads on. -/
theorem accepts_next {state low high next n : Nat} (hlow : 2 ≤ state) (hhigh : state < 9)
    (hexpected : expected state = (low, high, next)) (hn : n < 256) (h : low ≤ n ∧ n ≤ high)
    {rest : StdString} : Accepts state (UInt8.ofNat n :: rest) ↔ Accepts next rest := by
  rw [accepts_inside_iff hlow hhigh hexpected]
  constructor
  · rintro ⟨_, _, heq, -, -, hrest⟩
    cases heq
    exact hrest
  · intro hrest
    refine ⟨_, rest, rfl, ?_, ?_, hrest⟩
    · rw [toNat_ofNat_of_lt hn]
      exact h.1
    · rw [toNat_ofNat_of_lt hn]
      exact h.2

/-- **Every character is accepted**, and leaves the automaton between two characters. -/
theorem accepts_encodeValue {v : Nat} (h : v.isValidChar) (rest : StdString) :
    Accepts utf8Accept (encodeValue v ++ rest) ↔ Accepts utf8Accept rest := by
  -- the last byte of a character, the last two, and the last three
  have hone : ∀ n : Nat, Accepts 2 (UInt8.ofNat (n % 0x40 + 0x80) :: rest) ↔
      Accepts utf8Accept rest := fun n =>
    accepts_next (by omega) (by omega) expected_two (by omega) ⟨by omega, by omega⟩
  have htwo : ∀ m n : Nat, Accepts 3 (UInt8.ofNat (m % 0x40 + 0x80) ::
      UInt8.ofNat (n % 0x40 + 0x80) :: rest) ↔ Accepts utf8Accept rest := fun m n =>
    (accepts_next (by omega) (by omega) expected_three (by omega) ⟨by omega, by omega⟩).trans
      (hone n)
  unfold Nat.isValidChar at h
  unfold encodeValue
  split
  · exact accepts_first utf8Accept (by omega) (if_pos ‹_›) (by decide)
  · split
    · refine (accepts_first 2 (by omega) ?_ (by decide)).trans (hone _)
      rw [firstState, if_neg (by omega), if_pos (by omega)]
    · split
      · by_cases hshort : v < 0x1000
        · refine (accepts_first 4 (by omega) ?_ (by decide)).trans ?_
          · rw [firstState, if_neg (by omega), if_neg (by omega), if_pos (by omega)]
          · exact (accepts_next (by omega) (by omega) expected_four (by omega)
              ⟨by omega, by omega⟩).trans (hone _)
        · by_cases hsurrogate : v / 4096 = 0xd
          · refine (accepts_first 5 (by omega) ?_ (by decide)).trans ?_
            · rw [firstState, if_neg (by omega), if_neg (by omega), if_neg (by omega),
                if_pos (by omega)]
            · exact (accepts_next (by omega) (by omega) expected_five (by omega)
                ⟨by omega, by omega⟩).trans (hone _)
          · refine (accepts_first 3 (by omega) ?_ (by decide)).trans (htwo _ _)
            rw [firstState, if_neg (by omega), if_neg (by omega), if_neg (by omega),
              if_neg (by omega), if_pos (by omega)]
      · by_cases hshort : v < 0x40000
        · refine (accepts_first 6 (by omega) ?_ (by decide)).trans ?_
          · rw [firstState, if_neg (by omega), if_neg (by omega), if_neg (by omega),
              if_neg (by omega), if_neg (by omega), if_pos (by omega)]
          · exact (accepts_next (by omega) (by omega) expected_six (by omega)
              ⟨by omega, by omega⟩).trans (htwo _ _)
        · by_cases hlast : v / 262144 = 4
          · refine (accepts_first 8 (by omega) ?_ (by decide)).trans ?_
            · rw [firstState, if_neg (by omega), if_neg (by omega), if_neg (by omega),
                if_neg (by omega), if_neg (by omega), if_neg (by omega), if_neg (by omega),
                if_pos (by omega)]
            · exact (accepts_next (by omega) (by omega) expected_eight (by omega)
                ⟨by omega, by omega⟩).trans (htwo _ _)
          · refine (accepts_first 7 (by omega) ?_ (by decide)).trans ?_
            · rw [firstState, if_neg (by omega), if_neg (by omega), if_neg (by omega),
                if_neg (by omega), if_neg (by omega), if_neg (by omega), if_pos (by omega)]
            · exact (accepts_next (by omega) (by omega) expected_seven (by omega)
                ⟨by omega, by omega⟩).trans (htwo _ _)

/-! ### The characters of what is accepted -/

/-- The values a byte may have at the beginning of a character, and where each leads. -/
theorem firstState_cases {n : Nat} (h : firstState n ≠ utf8Reject) :
    n ≤ 0x7f ∧ firstState n = utf8Accept ∨ (0xc2 ≤ n ∧ n ≤ 0xdf) ∧ firstState n = 2 ∨
      n = 0xe0 ∧ firstState n = 4 ∨ n = 0xed ∧ firstState n = 5 ∨
      (0xe1 ≤ n ∧ n ≤ 0xef ∧ n ≠ 0xed) ∧ firstState n = 3 ∨ n = 0xf0 ∧ firstState n = 6 ∨
      (0xf1 ≤ n ∧ n ≤ 0xf3) ∧ firstState n = 7 ∨ n = 0xf4 ∧ firstState n = 8 := by
  unfold firstState utf8Accept utf8Reject at *
  split_ifs at * <;> omega

/-- A byte written from its parts. -/
theorem ofNat_eq_of_toNat {n : Nat} {b : UInt8} (h : n = b.toNat) : UInt8.ofNat n = b := by
  rw [h, UInt8.ofNat_toNat]

theorem encode_one {b₀ : UInt8} (h0 : b₀.toNat ≤ 0x7f) :
    ∃ c, String.utf8EncodeChar c = [b₀] := by
  refine ⟨Char.ofNat b₀.toNat, ?_⟩
  rw [utf8EncodeChar_ofNat (by unfold Nat.isValidChar; omega), encodeValue, if_pos h0,
    UInt8.ofNat_toNat]

theorem encode_two {b₀ b₁ : UInt8} (h0 : 0xc2 ≤ b₀.toNat ∧ b₀.toNat ≤ 0xdf)
    (h1 : 0x80 ≤ b₁.toNat ∧ b₁.toNat ≤ 0xbf) : ∃ c, String.utf8EncodeChar c = [b₀, b₁] := by
  refine ⟨Char.ofNat ((b₀.toNat - 0xc0) * 64 + (b₁.toNat - 0x80)), ?_⟩
  rw [utf8EncodeChar_ofNat (by unfold Nat.isValidChar; omega), encodeValue, if_neg (by omega),
    if_pos (by omega), ofNat_eq_of_toNat (b := b₀) (by omega),
    ofNat_eq_of_toNat (b := b₁) (by omega)]

/-- Three bytes hold a character when it is neither overlong nor a surrogate. -/
theorem encode_three {b₀ b₁ b₂ : UInt8} (h0 : 0xe0 ≤ b₀.toNat ∧ b₀.toNat ≤ 0xef)
    (h1 : 0x80 ≤ b₁.toNat ∧ b₁.toNat ≤ 0xbf) (h2 : 0x80 ≤ b₂.toNat ∧ b₂.toNat ≤ 0xbf)
    (hlong : b₀.toNat = 0xe0 → 0xa0 ≤ b₁.toNat) (hsurrogate : b₀.toNat = 0xed → b₁.toNat ≤ 0x9f) :
    ∃ c, String.utf8EncodeChar c = [b₀, b₁, b₂] := by
  refine ⟨Char.ofNat ((b₀.toNat - 0xe0) * 4096 + (b₁.toNat - 0x80) * 64 + (b₂.toNat - 0x80)), ?_⟩
  rw [utf8EncodeChar_ofNat (by unfold Nat.isValidChar; omega), encodeValue, if_neg (by omega),
    if_neg (by omega), if_pos (by omega), ofNat_eq_of_toNat (b := b₀) (by omega),
    ofNat_eq_of_toNat (b := b₁) (by omega), ofNat_eq_of_toNat (b := b₂) (by omega)]

/-- Four bytes hold a character when it is neither overlong nor past the last one. -/
theorem encode_four {b₀ b₁ b₂ b₃ : UInt8} (h0 : 0xf0 ≤ b₀.toNat ∧ b₀.toNat ≤ 0xf4)
    (h1 : 0x80 ≤ b₁.toNat ∧ b₁.toNat ≤ 0xbf) (h2 : 0x80 ≤ b₂.toNat ∧ b₂.toNat ≤ 0xbf)
    (h3 : 0x80 ≤ b₃.toNat ∧ b₃.toNat ≤ 0xbf) (hlong : b₀.toNat = 0xf0 → 0x90 ≤ b₁.toNat)
    (hlast : b₀.toNat = 0xf4 → b₁.toNat ≤ 0x8f) :
    ∃ c, String.utf8EncodeChar c = [b₀, b₁, b₂, b₃] := by
  refine ⟨Char.ofNat ((b₀.toNat - 0xf0) * 262144 + (b₁.toNat - 0x80) * 4096 +
    (b₂.toNat - 0x80) * 64 + (b₃.toNat - 0x80)), ?_⟩
  rw [utf8EncodeChar_ofNat (by unfold Nat.isValidChar; omega), encodeValue, if_neg (by omega),
    if_neg (by omega), if_neg (by omega), ofNat_eq_of_toNat (b := b₀) (by omega),
    ofNat_eq_of_toNat (b := b₁) (by omega), ofNat_eq_of_toNat (b := b₂) (by omega),
    ofNat_eq_of_toNat (b := b₃) (by omega)]

/-- **What is accepted begins with a character**, and the rest of it is accepted too. -/
theorem exists_char_of_accepts {byte : UInt8} {s : StdString} (h : Accepts utf8Accept (byte :: s)) :
    ∃ c rest, byte :: s = String.utf8EncodeChar c ++ rest ∧ Accepts utf8Accept rest := by
  -- a character and what follows it
  have hchar : ∀ {bs rest : StdString}, (∃ c, String.utf8EncodeChar c = bs) →
      Accepts utf8Accept rest → ∃ c rest', bs ++ rest = String.utf8EncodeChar c ++ rest' ∧
        Accepts utf8Accept rest' := by
    rintro bs rest ⟨c, rfl⟩ hrest
    exact ⟨c, rest, rfl, hrest⟩
  obtain ⟨hfirst, hs⟩ := h
  rw [nextState_accept] at hfirst hs
  rcases firstState_cases hfirst with ⟨hb, hq⟩ | ⟨hb, hq⟩ | ⟨hb, hq⟩ | ⟨hb, hq⟩ | ⟨hb, hq⟩ |
    ⟨hb, hq⟩ | ⟨hb, hq⟩ | ⟨hb, hq⟩ <;> rw [hq] at hs
  · exact hchar (encode_one hb) hs
  · obtain ⟨b₁, rest, rfl, hl₁, hh₁, hrest⟩ := accepts_two_iff.mp hs
    exact hchar (encode_two hb ⟨hl₁, hh₁⟩) hrest
  · obtain ⟨b₁, s₁, rfl, hl₁, hh₁, hs₁⟩ :=
      (accepts_inside_iff (by omega) (by omega) expected_four).mp hs
    obtain ⟨b₂, rest, rfl, hl₂, hh₂, hrest⟩ := accepts_two_iff.mp hs₁
    exact hchar (encode_three (by omega) (by omega) (by omega) (by omega) (by omega)) hrest
  · obtain ⟨b₁, s₁, rfl, hl₁, hh₁, hs₁⟩ :=
      (accepts_inside_iff (by omega) (by omega) expected_five).mp hs
    obtain ⟨b₂, rest, rfl, hl₂, hh₂, hrest⟩ := accepts_two_iff.mp hs₁
    exact hchar (encode_three (by omega) (by omega) (by omega) (by omega) (by omega)) hrest
  · obtain ⟨b₁, s₁, rfl, hl₁, hh₁, hs₁⟩ := accepts_three_iff.mp hs
    obtain ⟨b₂, rest, rfl, hl₂, hh₂, hrest⟩ := accepts_two_iff.mp hs₁
    exact hchar (encode_three (by omega) (by omega) (by omega) (by omega) (by omega)) hrest
  · obtain ⟨b₁, s₁, rfl, hl₁, hh₁, hs₁⟩ :=
      (accepts_inside_iff (by omega) (by omega) expected_six).mp hs
    obtain ⟨b₂, s₂, rfl, hl₂, hh₂, hs₂⟩ := accepts_three_iff.mp hs₁
    obtain ⟨b₃, rest, rfl, hl₃, hh₃, hrest⟩ := accepts_two_iff.mp hs₂
    exact hchar (encode_four (by omega) (by omega) (by omega) (by omega) (by omega) (by omega))
      hrest
  · obtain ⟨b₁, s₁, rfl, hl₁, hh₁, hs₁⟩ :=
      (accepts_inside_iff (by omega) (by omega) expected_seven).mp hs
    obtain ⟨b₂, s₂, rfl, hl₂, hh₂, hs₂⟩ := accepts_three_iff.mp hs₁
    obtain ⟨b₃, rest, rfl, hl₃, hh₃, hrest⟩ := accepts_two_iff.mp hs₂
    exact hchar (encode_four (by omega) (by omega) (by omega) (by omega) (by omega) (by omega))
      hrest
  · obtain ⟨b₁, s₁, rfl, hl₁, hh₁, hs₁⟩ :=
      (accepts_inside_iff (by omega) (by omega) expected_eight).mp hs
    obtain ⟨b₂, s₂, rfl, hl₂, hh₂, hs₂⟩ := accepts_three_iff.mp hs₁
    obtain ⟨b₃, rest, rfl, hl₃, hh₃, hrest⟩ := accepts_two_iff.mp hs₂
    exact hchar (encode_four (by omega) (by omega) (by omega) (by omega) (by omega) (by omega))
      hrest

/-- The bytes of a text. -/
def utf8 (text : WxString) : StdString := text.flatMap String.utf8EncodeChar

theorem accepts_utf8 (text : WxString) : Accepts utf8Accept (utf8 text) := by
  induction text with
  | nil => rfl
  | cons c text ih =>
      have hvalid : c.toNat.isValidChar := by
        rcases c.valid with h | h
        · exact .inl h
        · exact .inr h
      have hc := (accepts_encodeValue hvalid (utf8 text)).mpr ih
      rwa [← utf8EncodeChar_eq] at hc

/--
**The validator accepts exactly what is UTF-8**: the encodings, one after another, of the
characters of some text.
-/
theorem validateUtf8_exact (s : StdString) :
    validateUtf8 s = true ↔ ∃ text : WxString, s = utf8 text := by
  rw [validateUtf8_iff]
  constructor
  · intro h
    induction hn : s.length using Nat.strongRecOn generalizing s with
    | _ n ih =>
        cases s with
        | nil => exact ⟨[], rfl⟩
        | cons byte s =>
            obtain ⟨c, rest, heq, hrest⟩ := exists_char_of_accepts h
            have hshorter : rest.length < n := by
              have hlength := congrArg List.length heq
              rw [List.length_append, String.length_utf8EncodeChar] at hlength
              have hpos := c.utf8Size_pos
              omega
            obtain ⟨text, rfl⟩ := ih rest.length hshorter rest hrest rfl
            exact ⟨c :: text, heq⟩
  · rintro ⟨text, rfl⟩
    exact accepts_utf8 text

end AisLive.WebSocket
