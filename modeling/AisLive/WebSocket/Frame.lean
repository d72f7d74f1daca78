/-
Frames.

A frame is a header of two bytes, up to eight bytes of length, four bytes of masking key when
the frame is masked, and the payload.  `dispatch` reads them off the front of its buffer and
`sendFragment` writes them; both are here as far as they concern one frame.

`nextFrame` says what the front of the buffer is: a whole frame, too little to tell, or one of
the four things `dispatch` leaves its loop for without erasing it.
-/
import AisLive.Lib.Framing
import AisLive.Text
import Mathlib.Data.List.GetD

namespace AisLive.WebSocket

open Framing

/-- `wsheader_type::opcode_type`, with the values it does not name. -/
inductive Opcode
  | continuation
  | textFrame
  | binaryFrame
  | close
  | ping
  | pong
  | unnamed (bits : Nat)
  deriving DecidableEq, Repr

/-- The low four bits of the first byte. -/
def Opcode.ofBits (bits : Nat) : Opcode :=
  if bits = 0x0 then .continuation
  else if bits = 0x1 then .textFrame
  else if bits = 0x2 then .binaryFrame
  else if bits = 8 then .close
  else if bits = 9 then .ping
  else if bits = 0xa then .pong
  else .unnamed bits

def Opcode.bits : Opcode → Nat
  | .continuation => 0x0
  | .textFrame => 0x1
  | .binaryFrame => 0x2
  | .close => 8
  | .ping => 9
  | .pong => 0xa
  | .unnamed bits => bits

/-- The opcodes of control messages. -/
def Opcode.isControl (opcode : Opcode) : Bool :=
  opcode == .ping || opcode == .pong || opcode == .close

/-! ### Masking -/

/-- `masking_key`. -/
structure MaskingKey where
  k₀ : UInt8 := 0
  k₁ : UInt8 := 0
  k₂ : UInt8 := 0
  k₃ : UInt8 := 0
  deriving DecidableEq

/-- `masking_key[j & 0x3]`. -/
def MaskingKey.at (key : MaskingKey) (j : Nat) : UInt8 :=
  if j % 4 = 0 then key.k₀ else if j % 4 = 1 then key.k₁ else if j % 4 = 2 then key.k₂ else key.k₃

/-- The loops of `appendToSendBuffer` and `unmaskReceiveBuffer`. -/
def applyMask (key : MaskingKey) (bytes : StdString) : StdString :=
  bytes.mapIdx fun j byte => byte ^^^ key.at j

@[simp] theorem length_applyMask (key : MaskingKey) (bytes : StdString) :
    (applyMask key bytes).length = bytes.length := List.length_mapIdx

/-- **Masking twice is not masking.** -/
@[simp] theorem applyMask_applyMask (key : MaskingKey) (bytes : StdString) :
    applyMask key (applyMask key bytes) = bytes := by
  refine List.ext_getElem (by simp) fun j hj hj' => ?_
  simp only [applyMask, List.getElem_mapIdx, UInt8.xor_assoc, UInt8.xor_self, UInt8.xor_zero]

/-! ### The header -/

/-- `wsheader_type`. -/
structure WsHeader where
  headerSize : Nat
  fin : Bool
  rsv1 : Bool
  rsv2 : Bool
  rsv3 : Bool
  opcode : Opcode
  mask : Bool
  /-- The payload length. -/
  n : Nat
  maskingKey : MaskingKey

/-- Bytes shifted and or-ed together, the most significant first. -/
def bigEndian (bytes : StdString) : Nat := bytes.foldl (fun n byte => n * 256 + byte.toNat) 0

/-- The bytes of the extended length. -/
def extendedSize (n₀ : Nat) : Nat := (if n₀ = 126 then 2 else 0) + (if n₀ = 127 then 8 else 0)

/-- `header_size`, from the length field and the mask bit. -/
def headerSize (n₀ : Nat) (mask : Bool) : Nat := 2 + extendedSize n₀ + (if mask then 4 else 0)

/-- The header at the front of the buffer, when all of it is there. -/
def readHeader (data : StdString) : Option WsHeader :=
  match data with
  | b₀ :: b₁ :: rest =>
      let mask := b₁ &&& 0x80 == 0x80
      let n₀ := (b₁ &&& 0x7f).toNat
      if data.length < headerSize n₀ mask then none
      else
        let key := rest.drop (extendedSize n₀)
        some {
          headerSize := headerSize n₀ mask
          fin := b₀ &&& 0x80 == 0x80
          rsv1 := b₀ &&& 0x40 == 0x40
          rsv2 := b₀ &&& 0x20 == 0x20
          rsv3 := b₀ &&& 0x10 == 0x10
          opcode := .ofBits (b₀ &&& 0x0f).toNat
          mask
          n := if n₀ < 126 then n₀ else bigEndian (rest.take (extendedSize n₀))
          maskingKey := if mask then ⟨key.getD 0 0, key.getD 1 0, key.getD 2 0, key.getD 3 0⟩
            else {} }
  | _ => none

/-- `maxFrameSize`. -/
def maxFrameSize : Nat := 2 ^ 63

/-- A frame taken off the buffer, unmasked. -/
structure Frame where
  fin : Bool
  opcode : Opcode
  payload : StdString
  deriving DecidableEq

/-- What `dispatch` leaves its loop for without erasing it from the buffer. -/
inductive Violation
  | reservedBitUsed
  | tooLong
  | controlMessageFragmented
  | pingPayloadOversized
  deriving DecidableEq, Repr

/-- The payload of a whole frame, unmasked. -/
def framePayload (ws : WsHeader) (data : StdString) : StdString :=
  let bytes := (data.drop ws.headerSize).take ws.n
  if ws.mask then applyMask ws.maskingKey bytes else bytes

/-- The front of the buffer. -/
def nextFrame (data : StdString) : Verdict UInt8 Frame Violation :=
  match readHeader data with
  | none => .wait
  | some ws =>
      if ws.rsv1 || ws.rsv2 || ws.rsv3 then .stuck .reservedBitUsed
      else if maxFrameSize < ws.n then .stuck .tooLong
      else if data.length < ws.headerSize + ws.n then .wait
      else if !ws.fin && ws.opcode.isControl then .stuck .controlMessageFragmented
      else if ws.opcode = .ping ∧ 125 < (framePayload ws data).length then
        .stuck .pingPayloadOversized
      else .item ⟨ws.fin, ws.opcode, framePayload ws data⟩ (data.drop (ws.headerSize + ws.n))

/-! ### The front of a longer buffer -/

theorem two_le_headerSize (n₀ : Nat) (mask : Bool) : 2 ≤ headerSize n₀ mask := by
  unfold headerSize
  omega

theorem headerSize_of_readHeader {data : StdString} {ws : WsHeader}
    (h : readHeader data = some ws) :
    2 ≤ ws.headerSize ∧ ws.headerSize ≤ data.length := by
  unfold readHeader at h
  split at h
  · simp only at h
    split at h
    · cases h
    · cases h
      exact ⟨two_le_headerSize _ _, Nat.le_of_not_lt ‹_›⟩
  · cases h

/-- A whole header is the same whatever follows it. -/
theorem readHeader_append {data : StdString} {ws : WsHeader} (h : readHeader data = some ws)
    (more : StdString) : readHeader (data ++ more) = some ws := by
  match data, h with
  | b₀ :: b₁ :: rest, h =>
      rw [List.cons_append, List.cons_append]
      unfold readHeader at h ⊢
      simp only at h ⊢
      generalize (b₁ &&& 0x7f).toNat = n₀ at h ⊢
      generalize (b₁ &&& 0x80 == 0x80) = mask at h ⊢
      split at h
      · cases h
      · rename_i hlength
        simp only [List.length_cons, List.length_append] at hlength ⊢
        rw [if_neg (by omega), ← h]
        -- what is read of the rest lies within the header
        unfold headerSize at hlength
        have hsize : extendedSize n₀ ≤ rest.length := by omega
        rw [List.take_append_of_le_length hsize, List.drop_append_of_le_length hsize]
        by_cases hmask : mask = true
        · rw [if_pos hmask] at hlength
          have hkey : 4 ≤ (rest.drop (extendedSize n₀)).length := by
            rw [List.length_drop]
            omega
          rw [List.getD_append _ _ _ _ (by omega), List.getD_append _ _ _ _ (by omega),
            List.getD_append _ _ _ _ (by omega), List.getD_append _ _ _ _ (by omega)]
        · rw [if_neg hmask, if_neg hmask]

/-- Nothing past the header is read. -/
theorem readHeader_take {data : StdString} {ws : WsHeader} (h : readHeader data = some ws) :
    readHeader (data.take ws.headerSize) = some ws := by
  have hsize := headerSize_of_readHeader h
  cases hshort : readHeader (data.take ws.headerSize) with
  | some ws' =>
      have hsame := readHeader_append hshort (data.drop ws.headerSize)
      rw [List.take_append_drop, h] at hsame
      exact hsame.symm
  | none =>
      -- two bytes and a whole header are there
      exfalso
      match data, h, hshort with
      | b₀ :: b₁ :: rest, h, hshort =>
          unfold readHeader at h
          simp only at h
          split at h
          · cases h
          · rename_i hlength
            cases h
            have htwo := two_le_headerSize (b₁ &&& 0x7f).toNat (b₁ &&& 0x80 == 0x80)
            obtain ⟨k, hk⟩ : ∃ k, headerSize (b₁ &&& 0x7f).toNat (b₁ &&& 0x80 == 0x80) = k + 2 :=
              ⟨_ - 2, (Nat.sub_add_cancel htwo).symm⟩
            simp only [hk, List.take_succ_cons] at hshort
            unfold readHeader at hshort
            simp only [hk, List.length_cons, List.length_take] at hshort hlength
            rw [if_neg (by omega)] at hshort
            cases hshort

theorem length_framePayload {ws : WsHeader} {data : StdString}
    (h : ws.headerSize + ws.n ≤ data.length) : (framePayload ws data).length = ws.n := by
  have hbytes : ((data.drop ws.headerSize).take ws.n).length = ws.n := by
    rw [List.length_take, List.length_drop]
    omega
  unfold framePayload
  simp only
  split
  · rw [length_applyMask, hbytes]
  · exact hbytes

theorem framePayload_append {ws : WsHeader} {data : StdString}
    (h : ws.headerSize + ws.n ≤ data.length) (more : StdString) :
    framePayload ws (data ++ more) = framePayload ws data := by
  have hbytes : ((data ++ more).drop ws.headerSize).take ws.n
      = (data.drop ws.headerSize).take ws.n := by
    rw [List.drop_append_of_le_length (by omega),
      List.take_append_of_le_length (by rw [List.length_drop]; omega)]
  simp only [framePayload, hbytes]

/-- The verdict on a whole frame. -/
theorem nextFrame_of_whole {data : StdString} {ws : WsHeader} (h : readHeader data = some ws)
    (hwhole : ws.headerSize + ws.n ≤ data.length) :
    nextFrame data
      = if ws.rsv1 || ws.rsv2 || ws.rsv3 then .stuck .reservedBitUsed
        else if maxFrameSize < ws.n then .stuck .tooLong
        else if !ws.fin && ws.opcode.isControl then .stuck .controlMessageFragmented
        else if ws.opcode = .ping ∧ 125 < (framePayload ws data).length then
          .stuck .pingPayloadOversized
        else
          .item ⟨ws.fin, ws.opcode, framePayload ws data⟩ (data.drop (ws.headerSize + ws.n)) := by
  unfold nextFrame
  rw [h]
  simp only
  rw [if_neg (by omega : ¬data.length < ws.headerSize + ws.n)]

/-- A verdict once given stands. -/
theorem nextFrame_append {data : StdString} (hverdict : nextFrame data ≠ .wait) (more : StdString) :
    nextFrame (data ++ more)
      = match nextFrame data with
        | .item f rest => .item f (rest ++ more)
        | .wait => .wait
        | .stuck v => .stuck v := by
  cases hheader : readHeader data with
  | none =>
      refine absurd ?_ hverdict
      unfold nextFrame
      rw [hheader]
  | some ws =>
      have hheader' := readHeader_append hheader more
      by_cases hwhole : ws.headerSize + ws.n ≤ data.length
      · have hwhole' : ws.headerSize + ws.n ≤ (data ++ more).length := by
          rw [List.length_append]
          omega
        rw [nextFrame_of_whole hheader hwhole, nextFrame_of_whole hheader' hwhole',
          framePayload_append hwhole, List.drop_append_of_le_length hwhole]
        split_ifs <;> rfl
      · unfold nextFrame at hverdict ⊢
        rw [hheader] at hverdict ⊢
        rw [hheader']
        simp only at hverdict ⊢
        by_cases hrsv : (ws.rsv1 || ws.rsv2 || ws.rsv3) = true
        · rw [if_pos hrsv, if_pos hrsv]
        · by_cases hlong : maxFrameSize < ws.n
          · rw [if_neg hrsv, if_neg hrsv, if_pos hlong, if_pos hlong]
          · rw [if_neg hrsv, if_neg hlong, if_pos (by omega)] at hverdict
            exact absurd rfl hverdict

theorem nextFrame_shrinks {data rest : StdString} {f : Frame} (h : nextFrame data = .item f rest) :
    rest.length + 2 ≤ data.length := by
  cases hheader : readHeader data with
  | none =>
      unfold nextFrame at h
      rw [hheader] at h
      cases h
  | some ws =>
      have hsize := headerSize_of_readHeader hheader
      unfold nextFrame at h
      rw [hheader] at h
      simp only at h
      split_ifs at h
      cases h
      rw [List.length_drop]
      omega

/-- **Frames, as a parser of the buffer.** -/
def frames : Parser UInt8 Frame Violation where
  next := nextFrame
  shrinks h := by
    have := nextFrame_shrinks h
    omega
  item_append more h := by
    rw [nextFrame_append (by rw [h]; simp) more, h]
  stuck_append more h := by
    rw [nextFrame_append (by rw [h]; simp) more, h]

/-! ### Frames written -/

/-- The bytes of a masking key, when there is one. -/
def MaskingKey.bytes (key : MaskingKey) (useMask : Bool) : StdString :=
  if useMask then [key.k₀, key.k₁, key.k₂, key.k₃] else []

/-- The header of `sendFragment`. -/
def frameHeader (type : Opcode) (fin useMask : Bool) (messageSize : Nat) (key : MaskingKey) :
    StdString :=
  let b₀ := UInt8.ofNat type.bits ||| (if fin then 0x80 else 0)
  let maskBit : UInt8 := if useMask then 0x80 else 0
  if messageSize < 126 then
    [b₀, UInt8.ofNat messageSize ||| maskBit] ++ key.bytes useMask
  else if messageSize < 65536 then
    [b₀, 126 ||| maskBit, UInt8.ofNat (messageSize >>> 8), UInt8.ofNat messageSize] ++
      key.bytes useMask
  else
    [b₀, 127 ||| maskBit, UInt8.ofNat (messageSize >>> 56), UInt8.ofNat (messageSize >>> 48),
      UInt8.ofNat (messageSize >>> 40), UInt8.ofNat (messageSize >>> 32),
      UInt8.ofNat (messageSize >>> 24), UInt8.ofNat (messageSize >>> 16),
      UInt8.ofNat (messageSize >>> 8), UInt8.ofNat messageSize] ++ key.bytes useMask

/-- What `sendFragment` appends to the send buffer. -/
def encodeFrame (useMask : Bool) (key : MaskingKey) (f : Frame) : StdString :=
  frameHeader f.opcode f.fin useMask f.payload.length key ++
    (if useMask then applyMask key f.payload else f.payload)

/-- A frame a receiver takes. -/
structure Frame.Proper (f : Frame) : Prop where
  named : Opcode.ofBits f.opcode.bits = f.opcode ∧ f.opcode.bits < 16
  size : f.payload.length ≤ maxFrameSize
  control : f.opcode.isControl = true → f.fin = true
  ping : f.opcode = .ping → f.payload.length ≤ 125

/-- A proper frame, all of it in the buffer, is taken off. -/
theorem nextFrame_of_proper {data rest : StdString} {ws : WsHeader} {f : Frame}
    (h : readHeader data = some ws) (hrsv : (ws.rsv1 || ws.rsv2 || ws.rsv3) = false)
    (hframe : f = ⟨ws.fin, ws.opcode, framePayload ws data⟩) (hsize : ws.n = f.payload.length)
    (hproper : f.Proper) (hwhole : ws.headerSize + ws.n ≤ data.length)
    (hleft : data.drop (ws.headerSize + ws.n) = rest) : nextFrame data = .item f rest := by
  have hlong : ¬maxFrameSize < ws.n := by
    rw [hsize]
    exact Nat.not_lt.mpr hproper.size
  subst hframe
  have hcontrol : ¬(!ws.fin && ws.opcode.isControl) = true := by
    intro hfragment
    rw [Bool.and_eq_true, Bool.not_eq_true'] at hfragment
    have hfin : ws.fin = true := hproper.control hfragment.2
    rw [hfragment.1] at hfin
    cases hfin
  have hping : ¬(ws.opcode = .ping ∧ 125 < (framePayload ws data).length) := by
    rintro ⟨hopcode, hlong⟩
    have := hproper.ping hopcode
    simp only at this
    omega
  rw [nextFrame_of_whole h hwhole, hrsv, if_neg (by simp), if_neg hlong, if_neg hcontrol,
    if_neg hping, hleft]

/-! ### Written and read back -/

/-- The first byte. -/
theorem firstByte_bits : ∀ bits < 16, ∀ fin : Bool,
    let b := UInt8.ofNat bits ||| (if fin then 0x80 else 0)
    (b &&& 0x80 == 0x80) = fin ∧ (b &&& 0x40 == 0x40) = false ∧ (b &&& 0x20 == 0x20) = false ∧
      (b &&& 0x10 == 0x10) = false ∧ (b &&& 0x0f).toNat = bits := by
  decide +kernel

/-- The second byte. -/
theorem secondByte_bits : ∀ n₀ < 128, ∀ useMask : Bool,
    let b := UInt8.ofNat n₀ ||| (if useMask then 0x80 else 0)
    (b &&& 0x80 == 0x80) = useMask ∧ (b &&& 0x7f).toNat = n₀ := by
  decide +kernel

theorem bigEndian_two {n : Nat} (h : n < 65536) :
    bigEndian [UInt8.ofNat (n >>> 8), UInt8.ofNat n] = n := by
  simp only [bigEndian, List.foldl_cons, List.foldl_nil, UInt8.toNat_ofNat',
    Nat.shiftRight_eq_div_pow]
  omega

theorem bigEndian_eight {n : Nat} (h : n < 2 ^ 64) :
    bigEndian [UInt8.ofNat (n >>> 56), UInt8.ofNat (n >>> 48), UInt8.ofNat (n >>> 40),
      UInt8.ofNat (n >>> 32), UInt8.ofNat (n >>> 24), UInt8.ofNat (n >>> 16), UInt8.ofNat (n >>> 8),
      UInt8.ofNat n] = n := by
  simp only [bigEndian, List.foldl_cons, List.foldl_nil, UInt8.toNat_ofNat',
    Nat.shiftRight_eq_div_pow]
  omega

/-- The header as it is read. -/
def writtenHeader (type : Opcode) (fin useMask : Bool) (messageSize n₀ : Nat) (key : MaskingKey) :
    WsHeader where
  headerSize := headerSize n₀ useMask
  fin := fin
  rsv1 := false
  rsv2 := false
  rsv3 := false
  opcode := type
  mask := useMask
  n := messageSize
  maskingKey := if useMask then key else {}

@[simp] theorem MaskingKey.length_bytes (key : MaskingKey) (useMask : Bool) :
    (key.bytes useMask).length = if useMask then 4 else 0 := by
  unfold MaskingKey.bytes
  split <;> rfl

/-- What is read of a header written with the length field `n₀`. -/
theorem readHeader_written {type : Opcode}
    (hnamed : Opcode.ofBits type.bits = type ∧ type.bits < 16)
    (fin useMask : Bool) {n₀ messageSize : Nat} (hn₀ : n₀ < 128) {extended : StdString}
    (hlength : extended.length = extendedSize n₀)
    (hsize : (if n₀ < 126 then n₀ else bigEndian extended) = messageSize) (key : MaskingKey)
    (rest : StdString) :
    readHeader ((UInt8.ofNat type.bits ||| (if fin then 0x80 else 0)) ::
        (UInt8.ofNat n₀ ||| (if useMask then 0x80 else 0)) ::
          (extended ++ (key.bytes useMask ++ rest)))
      = some (writtenHeader type fin useMask messageSize n₀ key) := by
  obtain ⟨hfin, hrsv1, hrsv2, hrsv3, hopcode⟩ := firstByte_bits type.bits hnamed.2 fin
  obtain ⟨hmask, hfield⟩ := secondByte_bits n₀ hn₀ useMask
  unfold readHeader
  simp only [hfin, hrsv1, hrsv2, hrsv3, hopcode, hmask, hfield, hnamed.1]
  have hwhole : ¬((UInt8.ofNat type.bits ||| (if fin then 0x80 else 0)) ::
      (UInt8.ofNat n₀ ||| (if useMask then 0x80 else 0)) ::
        (extended ++ (key.bytes useMask ++ rest))).length < headerSize n₀ useMask := by
    simp only [List.length_cons, List.length_append, MaskingKey.length_bytes, headerSize]
    omega
  rw [if_neg hwhole, List.take_append_of_le_length (by omega), List.take_of_length_le (by omega),
    hsize, List.drop_append_of_le_length (by omega), List.drop_of_length_le (by omega),
    List.nil_append]
  cases useMask <;> rfl

/-- The length of a message, in the length field or after it. -/
theorem frameHeader_eq (type : Opcode) (fin useMask : Bool) {messageSize : Nat}
    (hsize : messageSize ≤ maxFrameSize) (key : MaskingKey) :
    ∃ n₀ extended, n₀ < 128 ∧ extended.length = extendedSize n₀ ∧
      (if n₀ < 126 then n₀ else bigEndian extended) = messageSize ∧
      frameHeader type fin useMask messageSize key
        = (UInt8.ofNat type.bits ||| (if fin then 0x80 else 0)) ::
            (UInt8.ofNat n₀ ||| (if useMask then 0x80 else 0)) ::
              (extended ++ key.bytes useMask) := by
  unfold maxFrameSize at hsize
  unfold frameHeader
  simp only
  by_cases hshort : messageSize < 126
  · refine ⟨messageSize, [], by omega, ?_, if_pos hshort, if_pos hshort⟩
    rw [extendedSize, if_neg (by omega), if_neg (by omega)]
    rfl
  · rw [if_neg hshort]
    by_cases hmiddle : messageSize < 65536
    · rw [if_pos hmiddle]
      exact ⟨126, _, by omega, rfl, bigEndian_two hmiddle, rfl⟩
    · rw [if_neg hmiddle]
      exact ⟨127, _, by omega, rfl, bigEndian_eight (by omega), rfl⟩

theorem readHeader_frameHeader {type : Opcode}
    (hnamed : Opcode.ofBits type.bits = type ∧ type.bits < 16) (fin useMask : Bool)
    {messageSize : Nat} (hsize : messageSize ≤ maxFrameSize) (key : MaskingKey) (rest : StdString) :
    ∃ n₀, (frameHeader type fin useMask messageSize key).length = headerSize n₀ useMask ∧
      readHeader (frameHeader type fin useMask messageSize key ++ rest)
        = some (writtenHeader type fin useMask messageSize n₀ key) := by
  obtain ⟨n₀, extended, hn₀, hlength, hvalue, heq⟩ := frameHeader_eq type fin useMask hsize key
  refine ⟨n₀, ?_, ?_⟩
  · rw [heq]
    simp only [List.length_cons, List.length_append, MaskingKey.length_bytes, headerSize, hlength]
    omega
  · rw [heq, List.cons_append, List.cons_append, List.append_assoc]
    exact readHeader_written hnamed fin useMask hn₀ hlength hvalue key rest

/-- **A frame written is the frame read**, masked or not, whatever follows it. -/
theorem nextFrame_encodeFrame (useMask : Bool) (key : MaskingKey) {f : Frame} (hproper : f.Proper)
    (rest : StdString) : nextFrame (encodeFrame useMask key f ++ rest) = .item f rest := by
  obtain ⟨n₀, hlength, hheader⟩ := readHeader_frameHeader hproper.named f.fin useMask
    hproper.size key ((if useMask then applyMask key f.payload else f.payload) ++ rest)
  have hpayload : (if useMask then applyMask key f.payload else f.payload).length
      = f.payload.length := by
    split
    · exact length_applyMask key f.payload
    · rfl
  rw [encodeFrame, List.append_assoc]
  have hread : framePayload (writtenHeader f.opcode f.fin useMask f.payload.length n₀ key)
      (frameHeader f.opcode f.fin useMask f.payload.length key ++
        ((if useMask then applyMask key f.payload else f.payload) ++ rest)) = f.payload := by
    simp only [framePayload, writtenHeader]
    rw [← hlength, List.drop_left, List.take_append_of_le_length (by omega),
      List.take_of_length_le (by omega)]
    cases useMask
    · rfl
    · exact applyMask_applyMask key f.payload
  have hleft : (frameHeader f.opcode f.fin useMask f.payload.length key ++
      ((if useMask then applyMask key f.payload else f.payload) ++ rest)).drop
        (headerSize n₀ useMask + f.payload.length) = rest := by
    rw [← hlength, ← List.drop_drop, List.drop_left, ← hpayload, List.drop_left]
  refine nextFrame_of_proper hheader rfl ?_ rfl hproper ?_ hleft
  · rw [hread]
    rfl
  · show headerSize n₀ useMask + f.payload.length ≤ _
    simp only [List.length_append]
    omega

end AisLive.WebSocket
