/-
SHA-1, as the standard states it.

A message is padded to whole blocks of sixteen words, each block is stretched to a schedule of
eighty, and eighty rounds mix the schedule into five words of state, which are then added to
the five words from before the block.  Everything here is written for reading, with no word
overwritten: an implementation that works in place is compared with it, not derived from it.

`schedule_lt` and `schedule_ge` are all that is known about a schedule, and `rounds` takes the
rounds one at a time, which is the form an induction over a loop needs.
-/
import Mathlib.Algebra.Group.Nat.Defs
import Mathlib.Data.List.Basic

namespace Sha1

/-- The five words of a state. -/
@[ext] structure State where
  a : UInt32
  b : UInt32
  c : UInt32
  d : UInt32
  e : UInt32
  deriving DecidableEq

/-- Rotation to the left. -/
def rotl (bits : UInt32) (x : UInt32) : UInt32 := (x <<< bits) ||| (x >>> (32 - bits))

/-- Choose the second or the third by the first. -/
def ch (x y z : UInt32) : UInt32 := (x &&& y) ^^^ (~~~x &&& z)

def parity (x y z : UInt32) : UInt32 := x ^^^ y ^^^ z

/-- The majority of three. -/
def maj (x y z : UInt32) : UInt32 := (x &&& y) ^^^ (x &&& z) ^^^ (y &&& z)

/-- The function of a round. -/
def f (t : Nat) (x y z : UInt32) : UInt32 :=
  if t < 20 then ch x y z
  else if t < 40 then parity x y z
  else if t < 60 then maj x y z
  else parity x y z

/-- The constant of a round. -/
def k (t : Nat) : UInt32 :=
  if t < 20 then 0x5a827999
  else if t < 40 then 0x6ed9eba1
  else if t < 60 then 0x8f1bbcdc
  else 0xca62c1d6

/-- The schedule of a block. -/
def schedule (block : Nat → UInt32) (t : Nat) : UInt32 :=
  if t < 16 then block t
  else rotl 1 (schedule block (t - 3) ^^^ schedule block (t - 8) ^^^ schedule block (t - 14) ^^^
    schedule block (t - 16))

/-- One round. -/
def round (w : Nat → UInt32) (t : Nat) (s : State) : State :=
  ⟨rotl 5 s.a + f t s.b s.c s.d + s.e + k t + w t, s.a, rotl 30 s.b, s.c, s.d⟩

/-- The first rounds. -/
def rounds (w : Nat → UInt32) : Nat → State → State
  | 0, s => s
  | t + 1, s => round w t (rounds w t s)

/-- One block. -/
def compress (block : Nat → UInt32) (h : State) : State :=
  let s := rounds (schedule block) 80 h
  ⟨h.a + s.a, h.b + s.b, h.c + s.c, h.d + s.d, h.e + s.e⟩

/-- The state before the first block. -/
def start : State := ⟨0x67452301, 0xefcdab89, 0x98badcfe, 0x10325476, 0xc3d2e1f0⟩

/-! ### Messages -/

/-- Four bytes, the high one first. -/
def word (b₀ b₁ b₂ b₃ : UInt8) : UInt32 :=
  (b₀.toUInt32 <<< 24) ||| (b₁.toUInt32 <<< 16) ||| (b₂.toUInt32 <<< 8) ||| b₃.toUInt32

/-- A word of a message. -/
def wordAt (bytes : List UInt8) (i : Nat) : UInt32 :=
  word (bytes.getD (4 * i) 0) (bytes.getD (4 * i + 1) 0) (bytes.getD (4 * i + 2) 0)
    (bytes.getD (4 * i + 3) 0)

/-- A length in bits, as eight bytes. -/
def lengthBytes (bits : Nat) : List UInt8 :=
  (List.range 8).map fun i => (bits / 256 ^ (7 - i)).toUInt8

/-- The message, a one bit, zeros and the length. -/
def padded (message : List UInt8) : List UInt8 :=
  message ++ [0x80] ++ List.replicate ((119 - message.length % 64) % 64) 0 ++
    lengthBytes (8 * message.length)

/-- The state after the whole message. -/
def digest (message : List UInt8) : State :=
  (List.range ((padded message).length / 64)).foldl
    (fun h n => compress (fun i => wordAt (padded message) (16 * n + i)) h) start

/-- The four bytes of a word. -/
def wordBytes (x : UInt32) : List UInt8 :=
  [(x >>> 24).toUInt8, (x >>> 16).toUInt8, (x >>> 8).toUInt8, x.toUInt8]

/-- The twenty bytes of a state. -/
def State.bytes (s : State) : List UInt8 :=
  wordBytes s.a ++ wordBytes s.b ++ wordBytes s.c ++ wordBytes s.d ++ wordBytes s.e

theorem State.length_bytes (s : State) : s.bytes.length = 20 := rfl

/-! ### The schedule -/

theorem schedule_lt {block : Nat → UInt32} {t : Nat} (h : t < 16) :
    schedule block t = block t := by
  rw [schedule, if_pos h]

theorem schedule_ge {block : Nat → UInt32} {t : Nat} (h : 16 ≤ t) :
    schedule block t = rotl 1 (schedule block (t - 3) ^^^ schedule block (t - 8) ^^^
      schedule block (t - 14) ^^^ schedule block (t - 16)) := by
  rw [schedule, if_neg (by omega)]

/-- Only the sixteen words of the block matter. -/
theorem schedule_congr {block block' : Nat → UInt32} (h : ∀ i < 16, block i = block' i) (t : Nat) :
    schedule block t = schedule block' t := by
  induction t using Nat.strongRecOn with
  | _ t ih =>
      by_cases ht : t < 16
      · rw [schedule_lt ht, schedule_lt ht, h t ht]
      · have hge : 16 ≤ t := by omega
        calc schedule block t
            = rotl 1 (schedule block (t - 3) ^^^ schedule block (t - 8) ^^^
                schedule block (t - 14) ^^^ schedule block (t - 16)) := schedule_ge hge
          _ = rotl 1 (schedule block' (t - 3) ^^^ schedule block' (t - 8) ^^^
                schedule block' (t - 14) ^^^ schedule block' (t - 16)) := by
              rw [ih (t - 3) (by omega), ih (t - 8) (by omega), ih (t - 14) (by omega),
                ih (t - 16) (by omega)]
          _ = schedule block' t := (schedule_ge hge).symm

theorem compress_congr {block block' : Nat → UInt32} (h : ∀ i < 16, block i = block' i)
    (s : State) : compress block s = compress block' s := by
  rw [compress, compress, show schedule block = schedule block' from funext (schedule_congr h)]

/-! ### Other forms of the functions -/

/-- `ch` with one operation less. -/
theorem ch_eq (x y z : UInt32) : (x &&& (y ^^^ z)) ^^^ z = ch x y z := by
  apply UInt32.toBitVec_inj.mp
  apply BitVec.eq_of_getLsbD_eq
  intro i hi
  simp only [ch, UInt32.toBitVec_xor, UInt32.toBitVec_and, UInt32.toBitVec_not, BitVec.getLsbD_xor,
    BitVec.getLsbD_and, BitVec.getLsbD_not, hi, decide_true, Bool.true_and]
  cases x.toBitVec.getLsbD i <;> cases y.toBitVec.getLsbD i <;> cases z.toBitVec.getLsbD i <;> rfl

/-- `maj` with one operation less. -/
theorem maj_eq (x y z : UInt32) : ((x ||| y) &&& z) ||| (x &&& y) = maj x y z := by
  apply UInt32.toBitVec_inj.mp
  apply BitVec.eq_of_getLsbD_eq
  intro i hi
  simp only [maj, UInt32.toBitVec_xor, UInt32.toBitVec_and, UInt32.toBitVec_or, BitVec.getLsbD_xor,
    BitVec.getLsbD_and, BitVec.getLsbD_or]
  cases x.toBitVec.getLsbD i <;> cases y.toBitVec.getLsbD i <;> cases z.toBitVec.getLsbD i <;> rfl

end Sha1
