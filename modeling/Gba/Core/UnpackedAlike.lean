import Gba.Core.BitUnpack

/-!
# Sources that are unpacked alike

On which headers and sources the bytes that `hle_bit_unpack` stores are those that the BIOS unpacks.
Units of less than a byte are counted instead of the bytes that hold them, so for these the service
stores less than the BIOS does, but for a single unit of the same width, which it takes from the
high bits of its byte and puts there. Units of a whole byte come out right as far as the offset is
added to them as the BIOS adds it.
-/

namespace Gba.Core

open LittleEndian Library

/-! ## Offsets -/

theorem and_mask (value : U32) {width : Nat} (h : width < 32) :
    value &&& 1 <<< width - 1 = (value.setWidth width).setWidth 32 := by
  have hpow : 1 <<< width = 2 ^ width := Nat.one_shiftLeft width
  have hlt : 2 ^ width < 2 ^ 32 := Nat.pow_lt_pow_right (by decide) h
  have hmask : (1 <<< width - 1 : U32).toNat = 2 ^ width - 1 := by
    have hone : (1 <<< width : U32).toNat = 2 ^ width := by
      show 1 <<< width % 2 ^ 32 = _
      rw [hpow, Nat.mod_eq_of_lt hlt]
    have hpos : 0 < 2 ^ width := Nat.two_pow_pos width
    rw [BitVec.toNat_sub, hone]
    show (2 ^ 32 - 1 + 2 ^ width) % 2 ^ 32 = _
    omega
  refine BitVec.eq_of_toNat_eq ?_
  rw [BitVec.toNat_and, hmask, Nat.and_two_pow_sub_one_eq_mod, BitVec.toNat_setWidth,
    BitVec.toNat_setWidth]
  have := Nat.mod_lt value.toNat (Nat.two_pow_pos width)
  omega

/-- The low bits of a unit with the whole offset word, and with the 31-bit offset. -/
theorem offset_kept_iff (offset unit : U32) {width : Nat} (h : width ≤ 32) :
    (offsetUnit offset unit).setWidth width = (unit + offset).setWidth width ↔
      if offset.getLsbD 31 then width ≠ 32 else unit ≠ 0 ∨ offset.setWidth width = 0 := by
  have hmask : offset &&& 0x7FFFFFFF = (offset.setWidth 31).setWidth 32 :=
    @and_mask offset 31 (by omega)
  have hlow : width ≠ 32 ∨ offset.getLsbD 31 = false →
      ((offset &&& 0x7FFFFFFF).setWidth width : BitVec width) = offset.setWidth width := by
    intro hcase
    rw [hmask]
    refine BitVec.eq_of_getLsbD_eq fun lane hlane => ?_
    simp only [BitVec.getLsbD_setWidth, hlane, decide_true, Bool.true_and]
    by_cases hlast : lane = 31
    · obtain rfl := hlast
      rw [hcase.resolve_left (by omega)]
      rfl
    · rw [decide_eq_true (by omega : lane < 31), decide_eq_true (by omega : lane < 32)]
      rfl
  have hsum : ∀ low : U32, (unit + low).setWidth width = unit.setWidth width + low.setWidth width :=
    fun low => BitVec.setWidth_add unit low h
  unfold offsetUnit
  cases htop : offset.getLsbD 31 with
  | true =>
    rw [if_pos (.inr rfl), if_pos rfl, hsum, hsum, BitVec.add_right_inj]
    refine ⟨?_, fun hne => hlow (.inl hne)⟩
    rintro hsame rfl
    -- the top bit of the word is not one of the 31 bits
    have hbit := congrArg (BitVec.getLsbD · 31) hsame
    rw [hmask, BitVec.getLsbD_setWidth, BitVec.getLsbD_setWidth, BitVec.getLsbD_setWidth,
      BitVec.getLsbD_setWidth, htop] at hbit
    exact Bool.noConfusion hbit
  | false =>
    rw [if_neg (by decide : ¬false = true)]
    by_cases hzero : unit = 0
    · obtain rfl := hzero
      have hadd : (0 + offset : U32) = offset := BitVec.zero_add offset
      have hzero : ((0 : U32).setWidth width) = (0 : BitVec width) := BitVec.setWidth_zero width 32
      rw [if_neg (by simp), hadd, hzero, eq_comm]
      exact ⟨.inr, fun h => h.resolve_left (not_not.mpr rfl)⟩
    · rw [if_pos (.inl hzero), hsum, hsum, hlow (.inr htop)]
      exact ⟨fun _ => .inl hzero, fun _ => rfl⟩

/-- The whole offset word is added to a unit where the BIOS adds the 31-bit offset. -/
def OffsetKept (info : BitUnpackInfo) (unit : U32) : Prop :=
  if info.dataOffset.getLsbD 31 then info.destBitNum ≠ 32
  else unit ≠ 0 ∨ info.dataOffset.setWidth info.destBitNum.toNat = 0

instance offsetKept_decidable (info : BitUnpackInfo) (unit : U32) :
    Decidable (OffsetKept info unit) := by
  unfold OffsetKept
  infer_instance

theorem offset_kept (info : BitUnpackInfo) (unit : U32) (h : info.destBitNum.toNat ≤ 32) :
    (offsetUnit info.dataOffset unit).setWidth info.destBitNum.toNat =
        (unit + info.dataOffset).setWidth info.destBitNum.toNat ↔ OffsetKept info unit := by
  have hword : info.destBitNum.toNat ≠ 32 ↔ info.destBitNum ≠ 32 :=
    not_congr ⟨fun heq => BitVec.eq_of_toNat_eq heq, fun heq => by rw [heq]; rfl⟩
  rw [offset_kept_iff _ _ h, hword]
  rfl

/-- A unit is stored by the BIOS as zero. -/
def Vanishes (info : BitUnpackInfo) (unit : U32) : Prop :=
  unit = 0 ∧ info.dataOffset.getLsbD 31 = false ∨
    (unit + info.dataOffset).setWidth info.destBitNum.toNat = 0

theorem vanishes_iff (info : BitUnpackInfo) (unit : U32) (h : info.destBitNum.toNat < 32) :
    (offsetUnit info.dataOffset unit).setWidth info.destBitNum.toNat = 0 ↔ Vanishes info unit := by
  have hkept := offset_kept_iff info.dataOffset unit h.le
  unfold Vanishes
  by_cases hadded : unit ≠ 0 ∨ info.dataOffset.getLsbD 31 = true
  · have hsame : (offsetUnit info.dataOffset unit).setWidth info.destBitNum.toNat =
        (unit + info.dataOffset).setWidth info.destBitNum.toNat := by
      refine hkept.mpr ?_
      split
      · omega
      · next htop => exact .inl (hadded.resolve_right htop)
    rw [hsame]
    refine ⟨.inr, fun h => h.resolve_left ?_⟩
    rintro ⟨hzero, htop⟩
    rcases hadded with hne | hset
    · exact hne hzero
    · rw [htop] at hset
      exact Bool.noConfusion hset
  · obtain ⟨hzero, htop⟩ := not_or.mp hadded
    obtain rfl := not_not.mp hzero
    unfold offsetUnit
    rw [if_neg hadded]
    exact ⟨fun _ => .inl ⟨rfl, Bool.eq_false_iff.mpr htop⟩, fun _ => BitVec.setWidth_zero _ _⟩

/-- The headers and sources that the service unpacks as the BIOS does. -/
def UnpackedAlike (info : BitUnpackInfo) (source : List U8) : Prop :=
  source = [] ∨
    info.srcBitNum = 8 ∧ (∀ value ∈ source, OffsetKept info (value.setWidth 32)) ∨
    info.srcBitNum = info.destBitNum ∧ info.destBitNum < 8 ∧ source.length = 1 ∧
      ∀ value ∈ source,
        OffsetKept info (sourceUnit info.srcBitNum.toNat value (8 / info.srcBitNum.toNat - 1)) ∧
        ∀ index < 8 / info.srcBitNum.toNat - 1,
          Vanishes info (sourceUnit info.srcBitNum.toNat value index)

section Lengths

variable {info : BitUnpackInfo} {start : U32} {source : List U8}

theorem widths_toNat (h : SupportedWidths info) :
    (info.srcBitNum.toNat = 1 ∨ info.srcBitNum.toNat = 2 ∨ info.srcBitNum.toNat = 4 ∨
      info.srcBitNum.toNat = 8) ∧
    (info.destBitNum.toNat = 1 ∨ info.destBitNum.toNat = 2 ∨ info.destBitNum.toNat = 4 ∨
      info.destBitNum.toNat = 8 ∨ info.destBitNum.toNat = 16 ∨ info.destBitNum.toNat = 32) ∧
    info.srcBitNum.toNat ≤ info.destBitNum.toNat := by
  obtain ⟨hsource, hdestination, hle⟩ := h
  simp only [List.mem_cons, List.not_mem_nil, or_false] at hsource hdestination
  refine ⟨?_, ?_, BitVec.le_def.mp hle⟩
  · rcases hsource with h | h | h | h <;> rw [h] <;> simp
  · rcases hdestination with h | h | h | h | h | h <;> rw [h] <;> simp

/-- The packed bytes of units, with a last byte that is not full. -/
theorem packedBytes_length {width : U8}
    (hwidth : width.toNat = 1 ∨ width.toNat = 2 ∨ width.toNat = 4) (units : List U32)
    (outByte : U32) {outBits : U8} (hlt : outBits.toNat < 8)
    (hmod : outBits.toNat % width.toNat = 0) :
    (packedBytes width units outByte outBits).length =
      (outBits.toNat + units.length * width.toNat + 7) / 8 := by
  induction units generalizing outByte outBits with
  | nil =>
    unfold packedBytes
    rw [List.length_nil, Nat.zero_mul, Nat.add_zero]
    by_cases hzero : outBits = 0
    · rw [if_pos hzero, hzero]
      rfl
    · have hpos : outBits.toNat ≠ 0 := fun h => hzero (BitVec.eq_of_toNat_eq h)
      rw [if_neg hzero, List.length_singleton]
      omega
  | cons unit rest ih =>
    have hsum : (outBits + width).toNat = outBits.toNat + width.toNat := by bv_omega
    unfold packedBytes
    dsimp only
    rw [List.length_cons, Nat.succ_mul]
    by_cases hfull : outBits + width = 8
    · have height : outBits.toNat + width.toNat = 8 := by rw [← hsum, hfull]; rfl
      have hzero : (0 : U8).toNat = 0 := rfl
      rw [if_pos hfull, List.length_cons, ih 0 (by decide) (Nat.zero_mod _), hzero]
      omega
    · have hne : outBits.toNat + width.toNat ≠ 8 := fun h =>
        hfull (BitVec.eq_of_toNat_eq (hsum.trans h))
      have hnext : (outBits + width).toNat < 8 ∧ (outBits + width).toNat % width.toNat = 0 := by
        rw [hsum]
        rcases hwidth with h | h | h <;> rw [h] at hmod hne ⊢ <;> omega
      rw [if_neg hfull, ih _ hnext.1 hnext.2, hsum]
      omega

/-- The number of bytes that the service stores. -/
theorem serviceOutput_length (hwidths : SupportedWidths info) :
    (serviceOutput info start source).length =
      if info.destBitNum.toNat < 8 then (info.length.toNat * info.destBitNum.toNat + 7) / 8
      else info.length.toNat * (info.destBitNum.toNat / 8) := by
  obtain ⟨-, hdestination, -⟩ := widths_toNat hwidths
  unfold serviceOutput
  by_cases height : info.destBitNum = 8
  · rw [if_pos height, length_lowBytes, serviceUnits_length, height]
    rfl
  by_cases hsixteen : info.destBitNum = 16
  · rw [if_neg height, if_pos hsixteen, length_lowBytes, serviceUnits_length, hsixteen]
    rfl
  by_cases hword : info.destBitNum = 32
  · rw [if_neg height, if_neg hsixteen, if_pos hword, length_lowBytes, serviceUnits_length, hword]
    rfl
  have hne {width : U8} (h : info.destBitNum ≠ width) : info.destBitNum.toNat ≠ width.toNat :=
    fun heq => h (BitVec.eq_of_toNat_eq heq)
  have height' : info.destBitNum.toNat ≠ 8 := hne height
  have hsixteen' : info.destBitNum.toNat ≠ 16 := hne hsixteen
  have hword' : info.destBitNum.toNat ≠ 32 := hne hword
  rw [if_neg height, if_neg hsixteen, if_neg hword, if_pos (by omega),
    packedBytes_length (by omega) _ _ (by decide) (Nat.zero_mod _), serviceUnits_length]
  show (0 + _ + 7) / 8 = _
  rw [Nat.zero_add]

theorem serviceOutput_length_le (hwidths : SupportedWidths info) :
    (serviceOutput info start source).length ≤ outputLength info := by
  obtain ⟨hsource, hdestination, hle⟩ := widths_toNat hwidths
  rw [serviceOutput_length hwidths]
  unfold outputLength
  rcases hsource with h | h | h | h <;> rw [h] at hle ⊢ <;>
    rcases hdestination with h' | h' | h' | h' | h' | h' <;> rw [h'] at hle ⊢ <;> simp <;> omega

/-- For units of less than a byte the service stores less, but for a single unit. -/
theorem serviceOutput_length_eq (hwidths : SupportedWidths info)
    (h : (serviceOutput info start source).length = outputLength info) :
    info.length.toNat = 0 ∨ info.srcBitNum.toNat = 8 ∨
      info.length.toNat = 1 ∧ info.srcBitNum.toNat = info.destBitNum.toNat ∧
        info.destBitNum.toNat < 8 := by
  obtain ⟨hsource, hdestination, hle⟩ := widths_toNat hwidths
  rw [serviceOutput_length hwidths] at h
  unfold outputLength at h
  rcases hsource with hs | hs | hs | hs <;> rw [hs] at hle h ⊢ <;>
    rcases hdestination with h' | h' | h' | h' | h' | h' <;> rw [h'] at hle h ⊢ <;>
    simp at h ⊢ <;> omega

end Lengths

/-! ## Units of a byte -/

/-- A unit of eight bits is a byte of the source. -/
theorem units_byte {reader : BitReader} (hcount : reader.bitCount = 0) (bytes : List U8) :
    BitReader.units 8 bytes.length reader bytes = bytes.map (·.setWidth 32) := by
  induction bytes generalizing reader with
  | nil => rfl
  | cons value rest ih =>
    have hshort : reader.bitCount < (8 : U8).setWidth 32 := by rw [hcount]; decide
    have hnone : (reader.fill value).bitCount - (8 : U8).setWidth 32 = 0 := by
      show reader.bitCount + 8 - (8 : U8).setWidth 32 = 0
      rw [hcount]
      rfl
    have hunit : ((reader.fill value).take 8).1 = value.setWidth 32 := by
      unfold BitReader.take
      dsimp only
      rw [hnone]
      show (reader.bitBuffer <<< 8 ||| value.setWidth 32) >>> 0 &&& 1 <<< 8 - 1 = _
      rw [and_mask _ (by omega), BitVec.ushiftRight_zero]
      refine BitVec.eq_of_getLsbD_eq fun bit hbit => ?_
      simp only [BitVec.getLsbD_setWidth, BitVec.getLsbD_or, BitVec.getLsbD_shiftLeft, hbit,
        decide_true, Bool.true_and]
      by_cases hlow : bit < 8
      · simp [hlow]
      · rw [BitVec.getLsbD_of_ge value bit (by omega), decide_eq_false hlow, Bool.false_and]
    rw [List.length_cons, List.map_cons]
    unfold BitReader.units BitReader.readUnit
    rw [if_pos hshort]
    exact congrArg₂ List.cons hunit (ih hnone)

theorem sourceUnits_byte (source : List U8) :
    sourceUnits 8 source = source.map (·.setWidth 32) := by
  have hunit : ∀ value : U8, sourceUnit 8 value 0 = value.setWidth 32 := by
    intro value
    unfold sourceUnit
    rw [Nat.mul_zero, BitVec.extractLsb'_eq_self]
  induction source with
  | nil => rfl
  | cons value rest ih =>
    show sourceUnit 8 value 0 :: sourceUnits 8 rest = _
    rw [hunit, ih]
    rfl

section Alike

variable {info : BitUnpackInfo} {start : U32} {source : List U8}

/-- Units of a byte are stored in whole bytes. -/
theorem serviceOutput_wide (hwidths : SupportedWidths info)
    (hlength : source.length = info.length.toNat) (height : info.srcBitNum = 8) :
    ∃ size, info.destBitNum.toNat = 8 * size ∧ 0 < size ∧ serviceOutput info start source =
      lowBytes size (source.map fun value => value.setWidth 32 + info.dataOffset) := by
  obtain ⟨-, hdestination, hle⟩ := widths_toNat hwidths
  have hbytes : (8 : U8).toNat = 8 := rfl
  have hunits : serviceUnits info start source =
      source.map fun value => value.setWidth 32 + info.dataOffset := by
    unfold serviceUnits
    rw [height, ← hlength, units_byte rfl, List.map_map]
    rfl
  have hwide : info.destBitNum = 8 ∨ info.destBitNum = 16 ∨ info.destBitNum = 32 := by
    rw [height, hbytes] at hle
    rcases (by omega : info.destBitNum.toNat = 8 ∨ info.destBitNum.toNat = 16 ∨
      info.destBitNum.toNat = 32) with h | h | h
    · exact .inl (BitVec.eq_of_toNat_eq h)
    · exact .inr (.inl (BitVec.eq_of_toNat_eq h))
    · exact .inr (.inr (BitVec.eq_of_toNat_eq h))
  unfold serviceOutput
  rw [hunits]
  rcases hwide with h | h | h <;> rw [h]
  · exact ⟨1, rfl, by decide, rfl⟩
  · exact ⟨2, rfl, by decide, rfl⟩
  · exact ⟨4, rfl, by decide, rfl⟩

/-- What the BIOS unpacks from units of a byte. -/
theorem sourceUnits_wide (height : info.srcBitNum = 8) :
    (sourceUnits info.srcBitNum.toNat source).map (offsetUnit info.dataOffset) =
      source.map fun value => offsetUnit info.dataOffset (value.setWidth 32) := by
  have hbytes : (8 : U8).toNat = 8 := rfl
  rw [height, hbytes, sourceUnits_byte, List.map_map]
  rfl

/-- Units of a byte are stored as the BIOS stores them where the offset is kept. -/
theorem packed_bytes_iff (hwidths : SupportedWidths info)
    (hlength : source.length = info.length.toNat) (height : info.srcBitNum = 8) :
    Packed info.destBitNum.toNat
        ((sourceUnits info.srcBitNum.toNat source).map (offsetUnit info.dataOffset))
        (serviceOutput info start source) ↔
      ∀ value ∈ source, OffsetKept info (value.setWidth 32) := by
  obtain ⟨-, hdestination, -⟩ := widths_toNat hwidths
  obtain ⟨size, hsize, -, houtput⟩ := @serviceOutput_wide info start source hwidths hlength height
  have hpacked := packed_lowBytes size (source.map fun value => value.setWidth 32 + info.dataOffset)
  rw [← hsize, ← houtput] at hpacked
  rw [sourceUnits_wide height, hpacked.map_iff]
  refine forall_congr' fun value => imp_congr_right fun _ => ?_
  exact offset_kept info (value.setWidth 32) (by omega)

/-! ## A single unit -/

/-- A unit that is taken from the bits of one byte. -/
theorem take_unit {width : U8} {reader : BitReader} {value : U8} {index : Nat}
    (hwidth : 0 < width.toNat) (hbuffer : reader.bitBuffer = value.setWidth 32)
    (hcount : reader.bitCount.toNat = width.toNat * index + width.toNat)
    (hfits : width.toNat * index + width.toNat ≤ 8) :
    (reader.take width).1 = sourceUnit width.toNat value index ∧
      (reader.take width).2.bitCount.toNat = width.toNat * index := by
  have hwide : (width.setWidth 32 : U32).toNat = width.toNat :=
    BitVec.toNat_setWidth_of_le (by omega)
  have hbits : (reader.bitCount - width.setWidth 32 : U32).toNat = width.toNat * index := by
    rw [BitVec.toNat_sub_of_le (BitVec.le_def.mpr (by omega))]
    omega
  refine ⟨?_, hbits⟩
  unfold BitReader.take
  dsimp only
  rw [hbits, and_mask _ (by omega), hbuffer]
  unfold sourceUnit
  refine congrArg (BitVec.setWidth 32) (BitVec.eq_of_getLsbD_eq fun lane hlane => ?_)
  rw [BitVec.getLsbD_setWidth, BitVec.getLsbD_ushiftRight, BitVec.getLsbD_extractLsb',
    BitVec.getLsbD_setWidth, decide_eq_true hlane,
    decide_eq_true (by omega : width.toNat * index + lane < 32), Bool.true_and, Bool.true_and]

/-- The highest unit of a byte is read first. -/
theorem readUnit_first {width : U8}
    (hwidth : width.toNat = 1 ∨ width.toNat = 2 ∨ width.toNat = 4) {reader : BitReader}
    (hbuffer : reader.bitBuffer = 0) (hcount : reader.bitCount = 0) (value : U8)
    (rest : List U8) :
    ∃ next, reader.readUnit width (value :: rest) =
        (sourceUnit width.toNat value (8 / width.toNat - 1), next, rest) ∧
      next.bitBuffer = value.setWidth 32 ∧
      next.bitCount.toNat = width.toNat * (8 / width.toNat - 1) := by
  have hshort : reader.bitCount < width.setWidth 32 := by
    rw [hcount, BitVec.lt_def, BitVec.toNat_setWidth_of_le (by omega)]
    show 0 < width.toNat
    omega
  have hplace : width.toNat * (8 / width.toNat - 1) + width.toNat = 8 := by
    rcases hwidth with h | h | h <;> rw [h]
  have hfill : (reader.fill value).bitBuffer = value.setWidth 32 := by
    show reader.bitBuffer <<< 8 ||| value.setWidth 32 = _
    rw [hbuffer]
    show 0#32 ||| _ = _
    rw [BitVec.zero_or]
  have height : (reader.fill value).bitCount.toNat = 8 := by
    show (reader.bitCount + 8).toNat = 8
    rw [hcount]
    rfl
  obtain ⟨hunit, hnext⟩ := take_unit (by omega) hfill (height.trans hplace.symm) hplace.le
  refine ⟨((reader.fill value).take width).2, ?_, hfill, hnext⟩
  unfold BitReader.readUnit
  rw [if_pos hshort]
  exact congrArg (·, _, _) hunit

/-- The only unit of a byte that the service reads. -/
theorem units_single {width : U8} (hwidth : width.toNat = 1 ∨ width.toNat = 2 ∨ width.toNat = 4)
    {reader : BitReader} (hbuffer : reader.bitBuffer = 0) (hcount : reader.bitCount = 0)
    (value : U8) :
    BitReader.units width 1 reader [value] =
      [sourceUnit width.toNat value (8 / width.toNat - 1)] := by
  obtain ⟨next, hread, -, -⟩ := readUnit_first hwidth hbuffer hcount value []
  unfold BitReader.units BitReader.units
  rw [hread]

/-- Two units come from the first of two bytes. -/
theorem units_double {width : U8} (hwidth : width.toNat = 1 ∨ width.toNat = 2 ∨ width.toNat = 4)
    {reader : BitReader} (hbuffer : reader.bitBuffer = 0) (hcount : reader.bitCount = 0)
    (first second : U8) :
    BitReader.units width 2 reader [first, second] =
      [sourceUnit width.toNat first (8 / width.toNat - 1),
        sourceUnit width.toNat first (8 / width.toNat - 2)] := by
  obtain ⟨next, hread, hnext, hleft⟩ := readUnit_first hwidth hbuffer hcount first [second]
  have hplace : width.toNat * (8 / width.toNat - 1) =
      width.toNat * (8 / width.toNat - 2) + width.toNat := by
    rcases hwidth with h | h | h <;> rw [h]
  have henough : ¬next.bitCount < width.setWidth 32 := by
    rw [BitVec.lt_def, BitVec.toNat_setWidth_of_le (by omega)]
    omega
  have hfits : width.toNat * (8 / width.toNat - 2) + width.toNat ≤ 8 := by
    rcases hwidth with h | h | h <;> rw [h] <;> decide
  unfold BitReader.units BitReader.units BitReader.units
  rw [hread]
  dsimp only
  unfold BitReader.readUnit
  rw [if_neg henough]
  exact congrArg (fun unit => [_, unit])
    (take_unit (by omega) hnext (hleft.trans hplace) hfits).1

/-- The byte that holds a single unit in its high bits. -/
theorem packedBytes_single {width : U8}
    (hwidth : width.toNat = 1 ∨ width.toNat = 2 ∨ width.toNat = 4) (unit : U32) :
    ∃ value, packedBytes width [unit] 0 0 = [value] ∧ ∀ bit < 8,
      value.getLsbD bit =
        (decide (8 - width.toNat ≤ bit) && unit.getLsbD (bit - (8 - width.toNat))) := by
  have hsum : (0 : U8) + width = width := BitVec.zero_add width
  have hpart : ¬width = 8 := by
    rintro rfl
    exact absurd hwidth (by decide)
  have hrest : ¬width = 0 := by
    rintro rfl
    exact absurd hwidth (by decide)
  have hleft : (8 - width : U8).toNat = 8 - width.toNat := by bv_omega
  unfold packedBytes packedBytes
  dsimp only
  rw [hsum, if_neg hpart, if_neg hrest, hleft]
  refine ⟨_, rfl, fun bit hbit => ?_⟩
  have hzero : ∀ low : U32, (0 : U32) <<< width.toNat ||| low = low := by
    intro low
    simp
  rw [hzero, and_mask _ (by omega), BitVec.getLsbD_setWidth, BitVec.getLsbD_shiftLeft,
    decide_eq_true hbit, Bool.true_and, BitVec.getLsbD_setWidth, BitVec.getLsbD_setWidth]
  by_cases hlow : bit < 8 - width.toNat
  · rw [decide_eq_true hlow, decide_eq_false (Nat.not_le.mpr hlow)]
    simp
  · rw [decide_eq_false hlow, decide_eq_true (Nat.not_lt.mp hlow),
      decide_eq_true (by omega : bit < 32),
      decide_eq_true (by omega : bit - (8 - width.toNat) < 32),
      decide_eq_true (by omega : bit - (8 - width.toNat) < width.toNat)]
    rfl

/-- The byte that holds two units in its high bits. -/
theorem packedBytes_double {width : U8}
    (hwidth : width.toNat = 1 ∨ width.toNat = 2 ∨ width.toNat = 4) (first second : U32) :
    ∃ value, packedBytes width [first, second] 0 0 = [value] ∧ ∀ bit < 8,
      value.getLsbD bit =
        if 8 - width.toNat ≤ bit then first.getLsbD (bit - (8 - width.toNat))
        else decide (8 - 2 * width.toNat ≤ bit) &&
          second.getLsbD (bit - (8 - 2 * width.toNat)) := by
  obtain ⟨joined, hjoined⟩ : ∃ joined : U32, joined =
      (first &&& 1 <<< width.toNat - 1) <<< width.toNat |||
        second &&& 1 <<< width.toNat - 1 := ⟨_, rfl⟩
  have hbits : ∀ bit < 8, ((joined <<< (8 - 2 * width.toNat)).setWidth 8 : U8).getLsbD bit =
      if 8 - width.toNat ≤ bit then first.getLsbD (bit - (8 - width.toNat))
      else decide (8 - 2 * width.toNat ≤ bit) &&
        second.getLsbD (bit - (8 - 2 * width.toNat)) := by
    intro bit hbit
    rw [hjoined, and_mask _ (by omega), and_mask _ (by omega)]
    simp only [BitVec.getLsbD_setWidth, BitVec.getLsbD_shiftLeft, BitVec.getLsbD_or, hbit,
      decide_true, Bool.true_and]
    have hlt : bit < 32 := by omega
    have hlt' : bit - (8 - 2 * width.toNat) < 32 := by omega
    by_cases hhigh : 8 - width.toNat ≤ bit
    · have hplace : bit - (8 - 2 * width.toNat) - width.toNat = bit - (8 - width.toNat) := by omega
      have hlow : ¬bit < 8 - 2 * width.toNat := by omega
      have hsecond : ¬bit - (8 - 2 * width.toNat) < width.toNat := by omega
      have hfirst : bit - (8 - width.toNat) < width.toNat := by omega
      have hfirst' : bit - (8 - width.toNat) < 32 := by omega
      rw [if_pos hhigh, hplace]
      simp [hlt, hlt', hlow, hsecond, hfirst, hfirst']
    · rw [if_neg hhigh]
      by_cases hlow : bit < 8 - 2 * width.toNat
      · simp [hlow, Nat.not_le.mpr hlow]
      · have hsecond : bit - (8 - 2 * width.toNat) < width.toNat := by omega
        simp [hlt, hlt', hlow, hsecond, Nat.not_lt.mp hlow]
  have hsum : (0 : U8) + width = width := BitVec.zero_add width
  have hpart : ¬width = 8 := by
    rintro rfl
    exact absurd hwidth (by decide)
  have hstart : ∀ low : U32, (0 : U32) <<< width.toNat ||| low = low := by
    intro low
    simp
  unfold packedBytes packedBytes
  dsimp only
  rw [hsum, if_neg hpart, hstart, ← hjoined]
  -- two units fill the byte at 4 bits each; below that the rest of it is padded
  by_cases hfull : width + width = 8
  · have hfour : 8 - 2 * width.toNat = 0 := by
      have hnat := congrArg BitVec.toNat hfull
      rw [BitVec.toNat_add] at hnat
      change (width.toNat + width.toNat) % 256 = 8 at hnat
      omega
    rw [if_pos hfull]
    rw [hfour, BitVec.shiftLeft_zero] at hbits
    exact ⟨_, rfl, hfour ▸ hbits⟩
  · have hrest : ¬width + width = 0 := by bv_omega
    have hleft : (8 - (width + width) : U8).toNat = 8 - 2 * width.toNat := by bv_omega
    unfold packedBytes
    rw [if_neg hfull, if_neg hrest, hleft]
    exact ⟨_, rfl, hbits⟩

/-- A single unit is stored as the BIOS stores it where it is the highest one of its byte and the
others vanish. -/
theorem packed_single_iff (hlength : source.length = 1) (hone : info.length.toNat = 1)
    (hsame : info.srcBitNum = info.destBitNum)
    (hwidth : info.destBitNum.toNat = 1 ∨ info.destBitNum.toNat = 2 ∨ info.destBitNum.toNat = 4) :
    Packed info.destBitNum.toNat
        ((sourceUnits info.srcBitNum.toNat source).map (offsetUnit info.dataOffset))
        (serviceOutput info start source) ↔
      ∀ value ∈ source,
        OffsetKept info (sourceUnit info.srcBitNum.toNat value (8 / info.srcBitNum.toNat - 1)) ∧
        ∀ index < 8 / info.srcBitNum.toNat - 1,
          Vanishes info (sourceUnit info.srcBitNum.toNat value index) := by
  obtain ⟨value, rfl⟩ := List.length_eq_one_iff.mp hlength
  have hne {width : U8} (h : info.destBitNum.toNat ≠ width.toNat) : ¬info.destBitNum = width :=
    fun heq => h (congrArg BitVec.toNat heq)
  have height : (8 : U8).toNat = 8 := rfl
  have hsixteen : (16 : U8).toNat = 16 := rfl
  have hword : (32 : U8).toNat = 32 := rfl
  obtain ⟨width, hw⟩ : ∃ width, width = info.destBitNum.toNat := ⟨_, rfl⟩
  obtain ⟨count, hcount, hlast⟩ : ∃ count, count * width + width = 8 ∧ 8 / width - 1 = count := by
    rw [hw]
    rcases hwidth with h | h | h <;> rw [h]
    · exact ⟨7, rfl, rfl⟩
    · exact ⟨3, rfl, rfl⟩
    · exact ⟨1, rfl, rfl⟩
  obtain ⟨unit, hunit⟩ : ∃ unit, unit = sourceUnit width value count := ⟨_, rfl⟩
  obtain ⟨stored, hstored, hbits⟩ := packedBytes_single hwidth (unit + info.dataOffset)
  have houtput : serviceOutput info start [value] = [stored] := by
    unfold serviceOutput serviceUnits
    rw [if_neg (hne (by omega)), if_neg (hne (by omega)), if_neg (hne (by omega)), hone, hsame,
      units_single hwidth rfl rfl, ← hw, hlast, ← hunit]
    exact hstored
  have hdiv : 8 / width = count + 1 := by
    rcases hwidth with h | h | h <;> rw [← hw] at h <;> rw [h] at hcount ⊢ <;> omega
  have hplace : ∀ index ≤ count, ∀ lane < width, index * width + lane < 8 := by
    intro index hindex lane hlane
    have hle := Nat.mul_le_mul_right width hindex
    omega
  -- the service shifts its one unit to the top and leaves the lower slots 0
  have hlow : ∀ index < count, (∀ lane < width, stored.getLsbD (index * width + lane) =
      (offsetUnit info.dataOffset (sourceUnit width value index)).getLsbD lane) ↔
        Vanishes info (sourceUnit width value index) := by
    intro index hindex
    have hle := Nat.mul_le_mul_right width (Nat.succ_le_of_lt hindex)
    rw [Nat.succ_mul] at hle
    have hclear : ∀ lane < width, stored.getLsbD (index * width + lane) = (0 : U32).getLsbD lane := by
      intro lane hlane
      rw [hbits _ (hplace index hindex.le lane hlane), ← hw, decide_eq_false (by omega)]
      exact BitVec.getLsbD_zero.symm
    have hnone : (0 : U32).setWidth width = 0 := BitVec.setWidth_zero _ _
    rw [← vanishes_iff info _ (by omega), ← hw, eq_comm, ← hnone, setWidth_eq_iff]
    exact forall_congr' fun lane => imp_congr_right fun hlane => by rw [hclear lane hlane]
  -- the top slot holds the unit with its offset, which the service adds to 0 as well
  have htop : (∀ lane < width, stored.getLsbD (count * width + lane) =
      (offsetUnit info.dataOffset (sourceUnit width value count)).getLsbD lane) ↔
        OffsetKept info unit := by
    have hfull : ∀ lane < width, stored.getLsbD (count * width + lane) =
        (unit + info.dataOffset).getLsbD lane := by
      intro lane hlane
      rw [hbits _ (hplace count le_rfl lane hlane), ← hw, decide_eq_true (by omega),
        (by omega : count * width + lane - (8 - width) = lane), Bool.true_and]
    rw [← offset_kept info _ (by omega), ← hw, ← hunit, eq_comm, setWidth_eq_iff]
    exact forall_congr' fun lane => imp_congr_right fun hlane => by rw [hfull lane hlane]
  have hlist : (sourceUnits width [value]).map (offsetUnit info.dataOffset) =
      (List.range (count + 1)).map fun index => offsetUnit info.dataOffset
        (sourceUnit width value index) := by
    unfold sourceUnits
    rw [List.flatMap_cons, List.flatMap_nil, List.append_nil, hdiv, List.map_map]
    rfl
  rw [houtput, hsame, ← hw, hlist, Packed.byte_iff _ _ hcount, List.forall_mem_singleton, hlast,
    ← hunit, ← htop]
  constructor
  · intro h
    exact ⟨h count (Nat.lt_succ_self _), fun index hindex =>
      (hlow index hindex).mp (h index (Nat.lt_succ_of_lt hindex))⟩
  · rintro ⟨hcase, hrest⟩ index hindex
    rcases Nat.lt_succ_iff_lt_or_eq.mp hindex with hlt | rfl
    · exact (hlow index hlt).mpr (hrest index hlt)
    · exact hcase

theorem length_sourceUnits (width : Nat) (source : List U8) :
    (sourceUnits width source).length = source.length * (8 / width) := by
  induction source with
  | nil => exact (Nat.zero_mul _).symm
  | cons value rest ih =>
    unfold sourceUnits at ih ⊢
    rw [List.flatMap_cons, List.length_append, ih, List.length_map, List.length_range,
      List.length_cons, Nat.succ_mul, Nat.add_comm]

/-- The length of what the BIOS unpacks. -/
theorem packed_length {output : List U8}
    (hlength : source.length = info.length.toNat)
    (h : Packed info.destBitNum.toNat
      ((sourceUnits info.srcBitNum.toNat source).map (offsetUnit info.dataOffset)) output) :
    output.length = outputLength info := by
  have heq := h.length
  rw [List.length_map, length_sourceUnits, hlength] at heq
  unfold outputLength
  omega

/-- What the service stores for a header and a source is what the BIOS unpacks. -/
theorem packed_serviceOutput_iff (hwidths : SupportedWidths info)
    (hlength : source.length = info.length.toNat) :
    Packed info.destBitNum.toNat
        ((sourceUnits info.srcBitNum.toNat source).map (offsetUnit info.dataOffset))
        (serviceOutput info start source) ↔
      UnpackedAlike info source := by
  obtain ⟨hsource, hdestination, hle⟩ := widths_toNat hwidths
  have hnarrow : info.srcBitNum = info.destBitNum → info.destBitNum < 8 →
      info.destBitNum.toNat = 1 ∨ info.destBitNum.toNat = 2 ∨ info.destBitNum.toNat = 4 := by
    intro hsame hlt
    have hlt' : info.destBitNum.toNat < 8 := BitVec.lt_def.mp hlt
    omega
  constructor
  · intro h
    rcases serviceOutput_length_eq hwidths (packed_length hlength h) with
      hnone | height | ⟨hone, hsame, hlt⟩
    · exact .inl (List.length_eq_zero_iff.mp (hlength.trans hnone))
    · have heq : info.srcBitNum = 8 := BitVec.eq_of_toNat_eq height
      exact .inr (.inl ⟨heq, (packed_bytes_iff hwidths hlength heq).mp h⟩)
    · have heq : info.srcBitNum = info.destBitNum := BitVec.eq_of_toNat_eq hsame
      have hlt' : info.destBitNum < 8 := BitVec.lt_def.mpr hlt
      exact .inr (.inr ⟨heq, hlt', hlength.trans hone,
        (packed_single_iff (hlength.trans hone) hone heq (hnarrow heq hlt')).mp h⟩)
  · rintro (hnil | ⟨height, hkept⟩ | ⟨hsame, hlt, hone, hunits⟩)
    · subst hnil
      have hzero : (serviceOutput info start []).length = 0 := by
        have hle := @serviceOutput_length_le info start [] hwidths
        unfold outputLength at hle
        rw [← hlength, List.length_nil, Nat.zero_mul, Nat.zero_mul] at hle
        exact Nat.le_zero.mp hle
      rw [List.length_eq_zero_iff.mp hzero]
      refine ⟨?_, fun unit hunit => absurd hunit (Nat.not_lt_zero _)⟩
      show 0 * 8 = 0 * info.destBitNum.toNat
      rw [Nat.zero_mul, Nat.zero_mul]
    · exact (packed_bytes_iff hwidths hlength height).mpr hkept
    · exact (packed_single_iff hone (hlength ▸ hone) hsame (hnarrow hsame hlt)).mpr hunits

end Alike

end Gba.Core
