/-
The answer to a handshake.

The client sends sixteen random bytes in Base64, and a server shows that it has understood by
sending back the Base64 of the SHA-1 of that text with a fixed identifier behind it.  The
client computes the same answer to compare: `WebSocketHandshakeKeyGen` does it for exactly this
length of message.  Its SHA-1 works in place, on five words of state that change their roles
from round to round and a schedule that keeps sixteen of its eighty words, and the second of
the two blocks, all padding, is a constant.

`generate_key` says that this is the standard's answer, and `sha1_compress`, which carries it,
that the rounds in place are the standard's rounds, for every state and every block.
-/
import AisLive.Lib.Base64
import AisLive.Lib.Sha1
import AisLive.Text
import Mathlib.Data.List.TakeWhile

namespace AisLive.WebSocket.KeyGen

/-- `Sha1Loop::rol`. -/
def rol (value bits : UInt32) : UInt32 := (value <<< bits) ||| (value >>> (32 - bits))

/-- `a[i]`. -/
abbrev word (a : List UInt32) (i : Nat) : UInt32 := a.getD i 0

/-- `Sha1Loop::blk`. -/
def blk (b : List UInt32) (i : Nat) : UInt32 :=
  rol (word b ((i + 13) &&& 15) ^^^ word b ((i + 8) &&& 15) ^^^ word b ((i + 2) &&& 15) ^^^
    word b i) 1

/-- A round, `a` at these places: `a[e] += g + w + k + rol(a[a'], 5)` and
`a[b] = rol(a[b], 30)`. -/
def mix (e b a' : Nat) (g w k : UInt32) (a : List UInt32) : List UInt32 :=
  let a := a.set e (word a e + (g + w + k + rol (word a a') 5))
  a.set b (rol (word a b) 30)

/-- `Sha1Loop<state>::f<i>`. -/
def f (state i : Nat) (a b : List UInt32) : List UInt32 × List UInt32 :=
  match state with
  | 1 =>
      (mix (i % 5) ((3 + i) % 5) ((4 + i) % 5)
        ((word a ((3 + i) % 5) &&& (word a ((2 + i) % 5) ^^^ word a ((1 + i) % 5))) ^^^
          word a ((1 + i) % 5))
        (word b i) 0x5a827999 a, b)
  | 2 =>
      let b := b.set i (blk b i)
      (mix ((1 + i) % 5) ((4 + i) % 5) ((5 + i) % 5)
        ((word a ((4 + i) % 5) &&& (word a ((3 + i) % 5) ^^^ word a ((2 + i) % 5))) ^^^
          word a ((2 + i) % 5))
        (word b i) 0x5a827999 a, b)
  | 3 =>
      let b := b.set ((i + 4) % 16) (blk b ((i + 4) % 16))
      (mix (i % 5) ((3 + i) % 5) ((4 + i) % 5)
        (word a ((3 + i) % 5) ^^^ word a ((2 + i) % 5) ^^^ word a ((1 + i) % 5))
        (word b ((i + 4) % 16)) 0x6ed9eba1 a, b)
  | 4 =>
      let b := b.set ((i + 8) % 16) (blk b ((i + 8) % 16))
      (mix (i % 5) ((3 + i) % 5) ((4 + i) % 5)
        (((word a ((3 + i) % 5) ||| word a ((2 + i) % 5)) &&& word a ((1 + i) % 5)) |||
          (word a ((3 + i) % 5) &&& word a ((2 + i) % 5)))
        (word b ((i + 8) % 16)) 0x8f1bbcdc a, b)
  | 5 =>
      let b := b.set ((i + 12) % 16) (blk b ((i + 12) % 16))
      (mix (i % 5) ((3 + i) % 5) ((4 + i) % 5)
        (word a ((3 + i) % 5) ^^^ word a ((2 + i) % 5) ^^^ word a ((1 + i) % 5))
        (word b ((i + 12) % 16)) 0xca62c1d6 a, b)
  | 6 => (a, b.set i (word b i + word a (4 - i)))
  | _ => (a, b)

/-- `static_for<n, Sha1Loop<state>>`. -/
def staticFor (n state : Nat) (ab : List UInt32 × List UInt32) : List UInt32 × List UInt32 :=
  (List.range n).foldl (fun ab i => f state i ab.1 ab.2) ab

/-- `sha1`, for what it leaves in `hash`. -/
def sha1 (hash b : List UInt32) : List UInt32 :=
  let a := [word hash 4, word hash 3, word hash 2, word hash 1, word hash 0]
  let ab := staticFor 20 5 (staticFor 20 4 (staticFor 20 3 (staticFor 4 2 (staticFor 16 1 (a, b)))))
  (staticFor 5 6 (ab.1, hash)).2

/-- `b64[i]`. -/
def b64 (i : Nat) : UInt8 :=
  (ascii "ABCDEFGHIJKLMNOPQRSTUVWXYZabcdefghijklmnopqrstuvwxyz0123456789+/").getD i 0

/-- `src[i]`. -/
abbrev byte (src : StdString) (i : Nat) : Nat := (src.getD i 0).toNat

/-- `base64`, of twenty bytes. -/
def base64 (src : StdString) : StdString :=
  ([0, 3, 6, 9, 12, 15].flatMap fun i =>
    [b64 ((byte src i >>> 2) &&& 63),
      b64 (((byte src i &&& 3) <<< 4) ||| ((byte src (i + 1) &&& 240) >>> 4)),
      b64 (((byte src (i + 1) &&& 15) <<< 2) ||| ((byte src (i + 2) &&& 192) >>> 6)),
      b64 (byte src (i + 2) &&& 63)]) ++
  [b64 ((byte src 18 >>> 2) &&& 63),
    b64 (((byte src 18 &&& 3) <<< 4) ||| ((byte src 19 &&& 240) >>> 4)),
    b64 ((byte src 19 &&& 15) <<< 2), 61]

/-- `strncpy`, into zeros. -/
def strncpy (s : StdString) (n : Nat) : StdString :=
  let copied := (s.takeWhile (· ≠ 0)).take n
  copied ++ List.replicate (n + 1 - copied.length) 0

/-- The words of the input that do not depend on the key. -/
def identifier : List UInt32 :=
  [0x32353845, 0x41464135, 0x2d453931, 0x342d3437, 0x44412d39, 0x3543412d, 0x43354142, 0x30444338,
    0x35423131, 0x80000000]

/-- `b_input[i]`, where the key goes. -/
def inputWord (input : StdString) (i : Nat) : UInt32 :=
  (input.getD (4 * i + 3) 0).toUInt32 ||| ((input.getD (4 * i + 2) 0).toUInt32 <<< 8) |||
    ((input.getD (4 * i + 1) 0).toUInt32 <<< 16) ||| ((input.getD (4 * i) 0).toUInt32 <<< 24)

/-- `b_input`. -/
def bInput (input : StdString) : List UInt32 := (List.range 6).map (inputWord input) ++ identifier

/-- `generate`. -/
def generate (inputStr : StdString) : StdString :=
  let bOutput : List UInt32 :=
    sha1 [0x67452301, 0xefcdab89, 0x98badcfe, 0x10325476, 0xc3d2e1f0]
      (bInput (strncpy inputStr 24))
  let bOutput : List UInt32 := sha1 bOutput [0, 0, 0, 0, 0, 0, 0, 0, 0, 0, 0, 0, 0, 0, 0, 480]
  base64 (bOutput.flatMap fun (tmp : UInt32) =>
    [(tmp >>> 24).toUInt8, (tmp >>> 16).toUInt8, (tmp >>> 8).toUInt8, tmp.toUInt8])

/-- `macaron::Base64::Encode`, of at least two bytes. -/
def encode (data : StdString) : StdString :=
  match data with
  | x :: y :: z :: rest =>
      b64 ((x.toNat >>> 2) &&& 0x3F) ::
        b64 (((x.toNat &&& 0x3) <<< 4) ||| ((y.toNat &&& 0xF0) >>> 4)) ::
        b64 (((y.toNat &&& 0xF) <<< 2) ||| ((z.toNat &&& 0xC0) >>> 6)) ::
        b64 (z.toNat &&& 0x3F) :: encode rest
  | [x, y] =>
      [b64 ((x.toNat >>> 2) &&& 0x3F),
        b64 (((x.toNat &&& 0x3) <<< 4) ||| ((y.toNat &&& 0xF0) >>> 4)),
        b64 ((y.toNat &&& 0xF) <<< 2), 61]
  | [x] => [b64 ((x.toNat >>> 2) &&& 0x3F), b64 ((x.toNat &&& 0x3) <<< 4), 61, 61]
  | [] => []

/-! ### A round in place

The five words of the standard's state are in `a`, at places that move up by one each round, and
the last sixteen words of the schedule are in `b`.
-/

theorem word_set {a : List UInt32} {i : Nat} (hi : i < a.length) (j : Nat) (x : UInt32) :
    word (a.set i x) j = if i = j then x else word a j := by
  unfold word
  simp only [List.getD_eq_getElem?_getD, List.getElem?_set, if_pos hi]
  split <;> rfl

/-- The state before round `t`, in place. -/
structure Rotated (t : Nat) (s : Sha1.State) (a : List UInt32) : Prop where
  length : a.length = 5
  e : word a (t % 5) = s.e
  d : word a ((1 + t) % 5) = s.d
  c : word a ((2 + t) % 5) = s.c
  b : word a ((3 + t) % 5) = s.b
  a : word a ((4 + t) % 5) = s.a

/-- **A round in place is a round.** -/
theorem rotated_mix {t : Nat} {s : Sha1.State} {a : List UInt32} (h : Rotated t s a)
    {w : Nat → UInt32} {g : UInt32} (hg : g = Sha1.f t s.b s.c s.d) :
    Rotated (t + 1) (Sha1.round w t s)
      (mix (t % 5) ((3 + t) % 5) ((4 + t) % 5) g (w t) (Sha1.k t) a) := by
  have hlength := h.length
  have hmix : ∀ j, word (mix (t % 5) ((3 + t) % 5) ((4 + t) % 5) g (w t) (Sha1.k t) a) j
      = if (3 + t) % 5 = j then rol s.b 30
        else if t % 5 = j then s.e + (g + w t + Sha1.k t + rol s.a 5) else word a j := by
    intro j
    have he : t % 5 < a.length := by omega
    have hb : (3 + t) % 5 < (a.set (t % 5)
        (word a (t % 5) + (g + w t + Sha1.k t + rol (word a ((4 + t) % 5)) 5))).length := by
      rw [List.length_set]
      omega
    have hne : t % 5 ≠ (3 + t) % 5 := by omega
    rw [mix, word_set hb, word_set he, word_set he, if_neg hne, h.e, h.b, h.a]
  refine ⟨?_, ?_, ?_, ?_, ?_, ?_⟩
  · simp only [mix, List.length_set, hlength]
  · rw [hmix, if_neg (by omega), if_neg (by omega), show (t + 1) % 5 = (1 + t) % 5 by omega, h.d]
    rfl
  · rw [hmix, if_neg (by omega), if_neg (by omega), show (1 + (t + 1)) % 5 = (2 + t) % 5 by omega,
      h.c]
    rfl
  · rw [hmix, if_pos (by omega)]
    rfl
  · rw [hmix, if_neg (by omega), if_neg (by omega), show (3 + (t + 1)) % 5 = (4 + t) % 5 by omega,
      h.a]
    rfl
  · rw [hmix, if_neg (by omega), if_pos (by omega), hg]
    simp only [Sha1.round, rol, Sha1.rotl]
    ac_rfl

/-- The last sixteen words of the schedule before round `t`, in place. -/
structure Holds (block : Nat → UInt32) (t : Nat) (b : List UInt32) : Prop where
  length : b.length = 16
  words : ∀ u, t ≤ u + 16 → u < max t 16 → word b (u % 16) = Sha1.schedule block u

/-- In the first sixteen rounds the schedule is the block. -/
theorem Holds.keep {block : Nat → UInt32} {t : Nat} {b : List UInt32} (h : Holds block t b)
    (ht : t < 16) : Holds block (t + 1) b :=
  ⟨h.length, fun u hlow hhigh => h.words u (by omega) (by omega)⟩

/-- After that each word takes the place of the one sixteen before. -/
theorem Holds.next {block : Nat → UInt32} {t : Nat} {b : List UInt32} (h : Holds block t b)
    (ht : 16 ≤ t) : Holds block (t + 1) (b.set (t % 16) (blk b (t % 16))) := by
  have hmask : ∀ i, i &&& 15 = i % 16 := fun i => Nat.and_two_pow_sub_one_eq_mod i 4
  have hblk : blk b (t % 16) = Sha1.schedule block t := by
    have h₃ := h.words (t - 3) (by omega) (by omega)
    have h₈ := h.words (t - 8) (by omega) (by omega)
    have h₁₄ := h.words (t - 14) (by omega) (by omega)
    have h₁₆ := h.words (t - 16) (by omega) (by omega)
    rw [Sha1.schedule_ge ht, ← h₃, ← h₈, ← h₁₄, ← h₁₆, blk, hmask, hmask, hmask,
      show (t % 16 + 13) % 16 = (t - 3) % 16 by omega,
      show (t % 16 + 8) % 16 = (t - 8) % 16 by omega,
      show (t % 16 + 2) % 16 = (t - 14) % 16 by omega,
      show (t - 16) % 16 = t % 16 by omega]
    rfl
  refine ⟨by rw [List.length_set, h.length], fun u hlow hhigh => ?_⟩
  have hplace : t % 16 < b.length := by
    rw [h.length]
    omega
  rw [word_set hplace]
  by_cases hu : u = t
  · rw [if_pos (by rw [hu]), hblk, hu]
  · rw [if_neg (by omega)]
    exact h.words u (by omega) (by omega)

/-- What the last step has put there. -/
theorem Holds.last {block : Nat → UInt32} {t : Nat} {b : List UInt32} (h : Holds block (t + 1) b) :
    word b (t % 16) = Sha1.schedule block t := h.words t (by omega) (by omega)

/-! ### The loops -/

/-- A loop keeps what each round keeps. -/
theorem staticFor_induction {n state : Nat} {I : Nat → List UInt32 × List UInt32 → Prop}
    {ab : List UInt32 × List UInt32} (hstart : I 0 ab)
    (hround : ∀ i < n, ∀ ab, I i ab → I (i + 1) (f state i ab.1 ab.2)) :
    I n (staticFor n state ab) := by
  have hupto : ∀ m ≤ n, I m (staticFor m state ab) := by
    intro m
    induction m with
    | zero => exact fun _ => hstart
    | succ m ih =>
        intro hm
        rw [staticFor, List.range_succ, List.foldl_append]
        exact hround m hm _ (ih (by omega))
  exact hupto n (Nat.le_refl n)

/-- Before round `t`. -/
structure Before (block : Nat → UInt32) (h : Sha1.State) (t : Nat)
    (ab : List UInt32 × List UInt32) : Prop where
  rotated : Rotated t (Sha1.rounds (Sha1.schedule block) t h) ab.1
  holds : Holds block t ab.2

variable {block : Nat → UInt32} {h : Sha1.State}

/-- A round of any of the loops. -/
theorem Before.next {t : Nat} {a b b' : List UInt32} (hbefore : Before block h t (a, b))
    (hholds : Holds block (t + 1) b') {g : UInt32}
    (hg : g = Sha1.f t (word a ((3 + t) % 5)) (word a ((2 + t) % 5)) (word a ((1 + t) % 5))) :
    Before block h (t + 1)
      (mix (t % 5) ((3 + t) % 5) ((4 + t) % 5) g (word b' (t % 16)) (Sha1.k t) a, b') := by
  have hrotated := hbefore.rotated
  refine ⟨?_, hholds⟩
  rw [hrotated.b, hrotated.c, hrotated.d] at hg
  rw [hholds.last]
  exact rotated_mix hrotated hg

theorem before_one {i : Nat} (hi : i < 16) {ab : List UInt32 × List UInt32}
    (hbefore : Before block h i ab) : Before block h (i + 1) (f 1 i ab.1 ab.2) := by
  have hnext := hbefore.next (hbefore.holds.keep hi) rfl
  rw [Sha1.f, if_pos (by omega : i < 20), ← Sha1.ch_eq, Sha1.k, if_pos (by omega : i < 20),
    Nat.mod_eq_of_lt hi] at hnext
  exact hnext

theorem before_two {i : Nat} (hi : i < 4) {ab : List UInt32 × List UInt32}
    (hbefore : Before block h (16 + i) ab) : Before block h (16 + i + 1) (f 2 i ab.1 ab.2) := by
  have hnext := hbefore.next (hbefore.holds.next (by omega)) rfl
  rw [Sha1.f, if_pos (by omega : 16 + i < 20), ← Sha1.ch_eq, Sha1.k,
    if_pos (by omega : 16 + i < 20), show (16 + i) % 16 = i by omega,
    show (16 + i) % 5 = (1 + i) % 5 by omega, show (1 + (16 + i)) % 5 = (2 + i) % 5 by omega,
    show (2 + (16 + i)) % 5 = (3 + i) % 5 by omega, show (3 + (16 + i)) % 5 = (4 + i) % 5 by omega,
    show (4 + (16 + i)) % 5 = (5 + i) % 5 by omega] at hnext
  exact hnext

/-- The places of the last three loops. -/
theorem places {t₀ : Nat} (ht₀ : t₀ % 5 = 0) (i : Nat) :
    (t₀ + i) % 5 = i % 5 ∧ (1 + (t₀ + i)) % 5 = (1 + i) % 5 ∧ (2 + (t₀ + i)) % 5 = (2 + i) % 5 ∧
      (3 + (t₀ + i)) % 5 = (3 + i) % 5 ∧ (4 + (t₀ + i)) % 5 = (4 + i) % 5 := by
  omega

theorem before_three {i : Nat} (hi : i < 20) {ab : List UInt32 × List UInt32}
    (hbefore : Before block h (20 + i) ab) : Before block h (20 + i + 1) (f 3 i ab.1 ab.2) := by
  obtain ⟨he, hd, hc, hb, ha⟩ := places (show 20 % 5 = 0 by rfl) i
  have hnext := hbefore.next (hbefore.holds.next (by omega)) rfl
  rw [Sha1.f, if_neg (by omega : ¬20 + i < 20), if_pos (by omega : 20 + i < 40), Sha1.k,
    if_neg (by omega : ¬20 + i < 20), if_pos (by omega : 20 + i < 40),
    show (20 + i) % 16 = (i + 4) % 16 by omega, he, hd, hc, hb, ha] at hnext
  exact hnext

theorem before_four {i : Nat} (hi : i < 20) {ab : List UInt32 × List UInt32}
    (hbefore : Before block h (40 + i) ab) : Before block h (40 + i + 1) (f 4 i ab.1 ab.2) := by
  obtain ⟨he, hd, hc, hb, ha⟩ := places (show 40 % 5 = 0 by rfl) i
  have hnext := hbefore.next (hbefore.holds.next (by omega)) rfl
  rw [Sha1.f, if_neg (by omega : ¬40 + i < 20), if_neg (by omega : ¬40 + i < 40),
    if_pos (by omega : 40 + i < 60), ← Sha1.maj_eq, Sha1.k, if_neg (by omega : ¬40 + i < 20),
    if_neg (by omega : ¬40 + i < 40), if_pos (by omega : 40 + i < 60),
    show (40 + i) % 16 = (i + 8) % 16 by omega, he, hd, hc, hb, ha] at hnext
  exact hnext

theorem before_five {i : Nat} (hi : i < 20) {ab : List UInt32 × List UInt32}
    (hbefore : Before block h (60 + i) ab) : Before block h (60 + i + 1) (f 5 i ab.1 ab.2) := by
  obtain ⟨he, hd, hc, hb, ha⟩ := places (show 60 % 5 = 0 by rfl) i
  have hnext := hbefore.next (hbefore.holds.next (by omega)) rfl
  rw [Sha1.f, if_neg (by omega : ¬60 + i < 20), if_neg (by omega : ¬60 + i < 40),
    if_neg (by omega : ¬60 + i < 60), Sha1.k, if_neg (by omega : ¬60 + i < 20),
    if_neg (by omega : ¬60 + i < 40), if_neg (by omega : ¬60 + i < 60),
    show (60 + i) % 16 = (i + 12) % 16 by omega, he, hd, hc, hb, ha] at hnext
  exact hnext

/-- The words of a state, as `hash` has them. -/
def words (s : Sha1.State) : List UInt32 := [s.a, s.b, s.c, s.d, s.e]

/-- The last loop adds the words up. -/
theorem staticFor_six (s : Sha1.State) (a : List UInt32) :
    (staticFor 5 6 (a, words s)).2
      = [s.a + word a 4, s.b + word a 3, s.c + word a 2, s.d + word a 1, s.e + word a 0] := rfl

/--
**The SHA-1 in place is SHA-1.**  For every state and every block, the loops that overwrite
five words of state and sixteen of the schedule leave what the standard's eighty rounds over
eighty words of schedule leave.
-/
theorem sha1_compress (s : Sha1.State) {b : List UInt32} (hb : b.length = 16) :
    sha1 (words s) b = words (Sha1.compress (word b) s) := by
  have hstart : Before (word b) s 0 ([s.e, s.d, s.c, s.b, s.a], b) :=
    ⟨⟨rfl, rfl, rfl, rfl, rfl, rfl⟩, hb, fun u _ hu => by
      rw [Sha1.schedule_lt (by omega), Nat.mod_eq_of_lt (by omega)]⟩
  have hone := staticFor_induction (I := fun i => Before (word b) s i) hstart
    fun i hi _ hbefore => before_one hi hbefore
  have htwo := staticFor_induction (I := fun i => Before (word b) s (16 + i)) hone
    fun i hi _ hbefore => before_two hi hbefore
  have hthree := staticFor_induction (I := fun i => Before (word b) s (20 + i)) htwo
    fun i hi _ hbefore => before_three hi hbefore
  have hfour := staticFor_induction (I := fun i => Before (word b) s (40 + i)) hthree
    fun i hi _ hbefore => before_four hi hbefore
  have hfive := staticFor_induction (I := fun i => Before (word b) s (60 + i)) hfour
    fun i hi _ hbefore => before_five hi hbefore
  have hrotated := hfive.rotated
  rw [sha1, show [word (words s) 4, word (words s) 3, word (words s) 2, word (words s) 1,
    word (words s) 0] = [s.e, s.d, s.c, s.b, s.a] from rfl, staticFor_six,
    show word _ 4 = _ from hrotated.a, show word _ 3 = _ from hrotated.b,
    show word _ 2 = _ from hrotated.c, show word _ 1 = _ from hrotated.d,
    show word _ 0 = _ from hrotated.e]
  rfl

/-! ### Base64 -/

theorem b64_eq (i : Nat) : b64 i = Base64.digit i := rfl

/-- `Encode` is Base64. -/
theorem encode_eq : ∀ data : StdString, encode data = Base64.encode data
  | [] => by simp [encode, Base64.encode]
  | [x] => by
      simp [encode, Base64.encode, b64_eq, Base64.first_digit x.toNat_lt, Base64.last_of_one,
        Base64.pad]
  | [x, y] => by
      simp [encode, Base64.encode, b64_eq, Base64.first_digit x.toNat_lt,
        Base64.second_digit y.toNat_lt, Base64.last_of_two, Base64.pad]
  | x :: y :: z :: rest => by
      rw [encode, Base64.encode, encode_eq rest, b64_eq, b64_eq, b64_eq, b64_eq,
        Base64.first_digit x.toNat_lt, Base64.second_digit y.toNat_lt,
        Base64.third_digit z.toNat_lt, Base64.fourth_digit]

/-- The four digits `base64` writes for three bytes. -/
def quad (src : StdString) (i : Nat) : StdString :=
  [b64 ((byte src i >>> 2) &&& 63),
    b64 (((byte src i &&& 3) <<< 4) ||| ((byte src (i + 1) &&& 240) >>> 4)),
    b64 (((byte src (i + 1) &&& 15) <<< 2) ||| ((byte src (i + 2) &&& 192) >>> 6)),
    b64 (byte src (i + 2) &&& 63)]

theorem byte_eq {src : StdString} {i : Nat} (hi : i < src.length) :
    byte src i = src[i].toNat := by
  rw [byte, List.getD_eq_getElem _ _ hi]

theorem encode_drop {src : StdString} {i : Nat} (hi : i + 2 < src.length) :
    Base64.encode (src.drop i) = quad src i ++ Base64.encode (src.drop (i + 3)) := by
  rw [List.drop_eq_getElem_cons (by omega : i < src.length),
    List.drop_eq_getElem_cons (by omega : i + 1 < src.length),
    List.drop_eq_getElem_cons (by omega : i + 1 + 1 < src.length), Base64.encode, quad,
    byte_eq (by omega : i < src.length), byte_eq (by omega : i + 1 < src.length),
    byte_eq (by omega : i + 2 < src.length), b64_eq, b64_eq, b64_eq, b64_eq,
    Base64.first_digit (UInt8.toNat_lt _), Base64.second_digit (UInt8.toNat_lt _),
    Base64.third_digit (UInt8.toNat_lt _), Base64.fourth_digit]
  rfl

/-- `base64` is Base64, of twenty bytes. -/
theorem base64_eq {src : StdString} (hlength : src.length = 20) :
    base64 src = Base64.encode src := by
  have hlast : Base64.encode (src.drop 18)
      = [b64 ((byte src 18 >>> 2) &&& 63),
          b64 (((byte src 18 &&& 3) <<< 4) ||| ((byte src 19 &&& 240) >>> 4)),
          b64 ((byte src 19 &&& 15) <<< 2), 61] := by
    rw [List.drop_eq_getElem_cons (by omega : 18 < src.length),
      List.drop_eq_getElem_cons (by omega : 18 + 1 < src.length),
      List.drop_of_length_le (by omega : src.length ≤ 18 + 1 + 1), Base64.encode,
      byte_eq (by omega : 18 < src.length), byte_eq (by omega : 19 < src.length), b64_eq, b64_eq,
      b64_eq, Base64.first_digit (UInt8.toNat_lt _), Base64.second_digit (UInt8.toNat_lt _),
      Base64.last_of_two]
    rfl
  calc base64 src
      = quad src 0 ++ (quad src 3 ++ (quad src 6 ++ (quad src 9 ++ (quad src 12 ++
          (quad src 15 ++ Base64.encode (src.drop 18)))))) := by rw [hlast]; rfl
    _ = Base64.encode src := by
        rw [← encode_drop (by omega), ← encode_drop (by omega), ← encode_drop (by omega),
          ← encode_drop (by omega), ← encode_drop (by omega), ← encode_drop (by omega),
          List.drop_zero]

/-! ### The answer -/

/-- The identifier that goes behind the key. -/
def guid : StdString := ascii "258EAFA5-E914-47DA-95CA-C5AB0DC85B11"

/-- What a server answers to a key. -/
def accept (key : StdString) : StdString := Base64.encode (Sha1.digest (key ++ guid)).bytes

/-- The answer is never empty, whatever the key. -/
theorem length_accept (key : StdString) : (accept key).length = 28 := by
  rw [accept, Base64.length_encode, Sha1.State.length_bytes]

/-- What follows the key in the padded message. -/
def behindKey : StdString :=
  guid ++ [0x80] ++ List.replicate 59 0 ++ Sha1.lengthBytes 480

theorem padded_key {key : StdString} (hlength : key.length = 24) :
    Sha1.padded (key ++ guid) = key ++ behindKey := by
  have hguid : guid.length = 36 := rfl
  simp only [Sha1.padded, behindKey, List.length_append, hlength, hguid, List.append_assoc]

/-- A word of the key. -/
theorem wordAt_key {key : StdString} (hlength : key.length = 24) {i : Nat} (hi : i < 6) :
    Sha1.wordAt (key ++ behindKey) i = Sha1.wordAt key i := by
  simp only [Sha1.wordAt]
  rw [List.getD_append _ _ _ _ (by omega), List.getD_append _ _ _ _ (by omega),
    List.getD_append _ _ _ _ (by omega), List.getD_append _ _ _ _ (by omega)]

/-- A word behind it. -/
theorem wordAt_behind {key : StdString} (hlength : key.length = 24) {i : Nat} (hi : 6 ≤ i) :
    Sha1.wordAt (key ++ behindKey) i = Sha1.wordAt behindKey (i - 6) := by
  simp only [Sha1.wordAt]
  rw [List.getD_append_right _ _ _ _ (by omega), List.getD_append_right _ _ _ _ (by omega),
    List.getD_append_right _ _ _ _ (by omega), List.getD_append_right _ _ _ _ (by omega), hlength,
    show 4 * i - 24 = 4 * (i - 6) by omega, show 4 * i + 1 - 24 = 4 * (i - 6) + 1 by omega,
    show 4 * i + 2 - 24 = 4 * (i - 6) + 2 by omega, show 4 * i + 3 - 24 = 4 * (i - 6) + 3 by omega]

/-- `strncpy` copies a key that fits. -/
theorem strncpy_key {key : StdString} (hlength : key.length = 24) (hzero : (0 : UInt8) ∉ key) :
    strncpy key 24 = key ++ [0] := by
  have htake : key.takeWhile (· ≠ 0) = key := by
    rw [List.takeWhile_eq_self_iff]
    intro c hc
    simp only [ne_eq, decide_not, Bool.not_eq_true', decide_eq_false_iff_not]
    rintro rfl
    exact hzero hc
  rw [strncpy, htake, List.take_of_length_le (by omega), hlength]
  rfl

theorem or_reverse (x y z w : UInt32) : x ||| y ||| z ||| w = w ||| z ||| y ||| x := by
  rw [UInt32.or_comm x y, UInt32.or_comm (y ||| x) z, UInt32.or_comm (z ||| (y ||| x)) w,
    ← UInt32.or_assoc, ← UInt32.or_assoc]

/-- The words of the first block. -/
theorem word_bInput {key : StdString} (hlength : key.length = 24) {i : Nat} (hi : i < 16) :
    word (bInput (key ++ [0])) i = Sha1.wordAt (key ++ behindKey) i := by
  by_cases hkey : i < 6
  · rw [wordAt_key hlength hkey, word, bInput, List.getD_append _ _ _ _ (by simpa using hkey),
      List.getD_eq_getElem _ _ (by simpa using hkey)]
    rw [List.getElem_map, List.getElem_range, inputWord, List.getD_append _ _ _ _ (by omega),
      List.getD_append _ _ _ _ (by omega), List.getD_append _ _ _ _ (by omega),
      List.getD_append _ _ _ _ (by omega), or_reverse, Sha1.wordAt, Sha1.word]
  · have hrest : ∀ j < 10, identifier.getD j 0 = Sha1.wordAt behindKey j := by decide +kernel
    rw [wordAt_behind hlength (by omega), ← hrest (i - 6) (by omega), word, bInput,
      List.getD_append_right _ _ _ _ (by simpa using hkey), List.length_map, List.length_range]

/-- The words of the second. -/
theorem word_last {key : StdString} (hlength : key.length = 24) {i : Nat} (hi : i < 16) :
    word [0, 0, 0, 0, 0, 0, 0, 0, 0, 0, 0, 0, 0, 0, 0, 480] i
      = Sha1.wordAt (key ++ behindKey) (16 + i) := by
  have hrest : ∀ j < 16, word [0, 0, 0, 0, 0, 0, 0, 0, 0, 0, 0, 0, 0, 0, 0, 480] j
      = Sha1.wordAt behindKey (10 + j) := by decide +kernel
  rw [wordAt_behind hlength (by omega), hrest i hi, show 16 + i - 6 = 10 + i by omega]

theorem length_bInput (input : StdString) : (bInput input).length = 16 := by
  simp [bInput, identifier]

/--
**The client's answer is the standard's.**  For every key of twenty-four characters `generate`
is the Base64 of the SHA-1 of the key and the identifier.
-/
theorem generate_eq {key : StdString} (hlength : key.length = 24) (hzero : (0 : UInt8) ∉ key) :
    generate key = accept key := by
  have hblocks : (Sha1.padded (key ++ guid)).length / 64 = 2 := by
    rw [padded_key hlength, List.length_append, hlength]
    rfl
  have hfirst : sha1 (words Sha1.start) (bInput (key ++ [0]))
      = words (Sha1.compress (fun i => Sha1.wordAt (key ++ behindKey) (16 * 0 + i)) Sha1.start) := by
    rw [sha1_compress _ (length_bInput _), Sha1.compress_congr fun i hi => ?_]
    rw [Nat.mul_zero, Nat.zero_add]
    exact word_bInput hlength hi
  have hdigest : sha1 (sha1 (words Sha1.start) (bInput (key ++ [0])))
      [0, 0, 0, 0, 0, 0, 0, 0, 0, 0, 0, 0, 0, 0, 0, 480]
      = words (Sha1.digest (key ++ guid)) := by
    rw [hfirst, sha1_compress _ rfl, Sha1.compress_congr fun i hi => word_last hlength hi,
      Sha1.digest, hblocks, padded_key hlength]
    rfl
  rw [generate, strncpy_key hlength hzero, accept,
    show [0x67452301, 0xefcdab89, 0x98badcfe, 0x10325476, 0xc3d2e1f0] = words Sha1.start from rfl]
  simp only [hdigest]
  rw [base64_eq]
  · rfl
  · rfl

/-! ### Keys -/

theorem length_key {random : StdString} (h : random.length = 16) : (encode random).length = 24 := by
  rw [encode_eq, Base64.length_encode, h]

theorem zero_not_mem_key (random : StdString) : (0 : UInt8) ∉ encode random := by
  intro hzero
  rw [encode_eq] at hzero
  exact absurd (Base64.mem_encode hzero) (by decide)

/-- The key of a request and the answer to it. -/
theorem generate_encode {random : StdString} (h : random.length = 16) :
    generate (encode random) = accept (encode random) :=
  generate_eq (length_key h) (zero_not_mem_key random)

/-- The example of the standard. -/
theorem generate_sampleNonce :
    generate (encode (ascii "the sample nonce")) = ascii "s3pPLMBiTxaQ9kYGzzhZRbK+xOo=" := by
  decide +kernel

/--
**A server that follows the standard is understood.**  Whatever the sixteen random bytes are,
the answer the client expects is the Base64 of the SHA-1 of the text it sent and the identifier.
-/
theorem generate_key {random : StdString} (h : random.length = 16) :
    generate (encode random) = accept (Base64.encode random) := by
  rw [generate_encode h, encode_eq]

/-- The example, computed in both ways. -/
theorem generate_key_sampleNonce :
    generate (encode (ascii "the sample nonce")) = accept (Base64.encode (ascii "the sample nonce"))
      ∧ generate (encode (ascii "the sample nonce")) = ascii "s3pPLMBiTxaQ9kYGzzhZRbK+xOo=" :=
  ⟨generate_key (by decide), generate_sampleNonce⟩

end AisLive.WebSocket.KeyGen
