import Gba.Core.DisplayStores
import Gba.Library.PackedUnits

/-!
# Unpacking units of bits

The BIOS takes units from the low bits of each byte of the source upward, adds an offset to them
and packs the results from the low bits of its output upward. `hle_bit_unpack` takes units from the
high bits of each byte, counts them instead of bytes, and adds the whole offset word to every unit;
below a byte it packs its results from the high bits of a byte downward. Here is what each of them
makes of a source, and what the service stores.
-/

namespace Gba.Core

open LittleEndian Library

/-! ## Unpacking as the BIOS does -/

/-- A unit of a byte, counted from the low bits. -/
def sourceUnit (width : Nat) (value : U8) (index : Nat) : U32 :=
  (value.extractLsb' (width * index) width).setWidth 32

/-- The units of bytes. -/
def sourceUnits (width : Nat) (source : List U8) : List U32 :=
  source.flatMap fun value => (List.range (8 / width)).map (sourceUnit width value)

/-- A unit with the 31-bit offset; a zero unit gets it only when the top bit of the word is set. -/
def offsetUnit (offset unit : U32) : U32 :=
  if unit ≠ 0 ∨ offset.getLsbD 31 then unit + (offset &&& 0x7FFFFFFF) else unit

/-- The widths of the BIOS call. -/
def SupportedWidths (info : BitUnpackInfo) : Prop :=
  info.srcBitNum ∈ [1#8, 2#8, 4#8, 8#8] ∧
    info.destBitNum ∈ [1#8, 2#8, 4#8, 8#8, 16#8, 32#8] ∧ info.srcBitNum ≤ info.destBitNum

instance supportedWidths_decidable (info : BitUnpackInfo) : Decidable (SupportedWidths info) :=
  decidable_of_iff
    ((info.srcBitNum = 1 ∨ info.srcBitNum = 2 ∨ info.srcBitNum = 4 ∨ info.srcBitNum = 8) ∧
      (info.destBitNum = 1 ∨ info.destBitNum = 2 ∨ info.destBitNum = 4 ∨ info.destBitNum = 8 ∨
        info.destBitNum = 16 ∨ info.destBitNum = 32) ∧ info.srcBitNum ≤ info.destBitNum)
    (by unfold SupportedWidths; simp)

/-- The bytes of the output. -/
def outputLength (info : BitUnpackInfo) : Nat :=
  info.length.toNat * (8 / info.srcBitNum.toNat) * info.destBitNum.toNat / 8

/-- A call with a header and a source that lies apart from its output. -/
structure UnpackCall (cpu : Arm7tdmi) (system : System) (info : BitUnpackInfo) (source : List U8) :
    Prop where
  header : readBitUnpackInfo (cpu.registers 2) system = some info
  length : source.length = info.length.toNat
  placed : Placed system (cpu.registers 0) source
  apart : ∀ index < source.length, ∀ place < outputLength info,
    ¬SameCell (cpu.registers 0 + BitVec.ofNat 32 index) (cpu.registers 1 + BitVec.ofNat 32 place)

/-- The service stores what the BIOS unpacks, and changes no other byte. -/
def UnpacksAsBios (cpu : Arm7tdmi) (system : System) (info : BitUnpackInfo) (source : List U8) :
    Prop :=
  ∃ memory output, hleBitUnpack cpu system = (true, system.withMemory memory) ∧
    Packed info.destBitNum.toNat
      ((sourceUnits info.srcBitNum.toNat source).map (offsetUnit info.dataOffset)) output ∧
    StoresBlock system.memory memory (cpu.registers 1) output

/-! ## Unpacking as the service does -/

namespace BitReader

/-- The reader with one more byte. -/
def fill (reader : BitReader) (value : U8) : BitReader :=
  ⟨reader.source + 1, reader.bitBuffer <<< 8 ||| value.setWidth 32, reader.bitCount + 8⟩

/-- The high bits of the buffer. -/
def take (count : U8) (reader : BitReader) : U32 × BitReader :=
  (reader.bitBuffer >>> (reader.bitCount - count.setWidth 32).toNat &&& 1 <<< count.toNat - 1,
    { reader with bitCount := reader.bitCount - count.setWidth 32 })

/-- The next unit of a list of bytes. -/
def readUnit (width : U8) (reader : BitReader) (bytes : List U8) : U32 × BitReader × List U8 :=
  if reader.bitCount < width.setWidth 32 then
    (((reader.fill (bytes.headD 0)).take width).1, ((reader.fill (bytes.headD 0)).take width).2,
      bytes.tail)
  else ((reader.take width).1, (reader.take width).2, bytes)

/-- The units that `read_bits` takes from a list of bytes. -/
def units (width : U8) : Nat → BitReader → List U8 → List U32
  | 0, _, _ => []
  | count + 1, reader, bytes =>
      (reader.readUnit width bytes).1 ::
        units width count (reader.readUnit width bytes).2.1 (reader.readUnit width bytes).2.2

end BitReader

/-- The bytes that are stored for units below a byte. -/
def packedBytes (width : U8) : List U32 → U32 → U8 → List U8
  | [], outByte, outBits =>
      if outBits = 0 then [] else [(outByte <<< (8 - outBits).toNat).setWidth 8]
  | unit :: rest, outByte, outBits =>
      let joined := outByte <<< width.toNat ||| unit &&& 1 <<< width.toNat - 1
      if outBits + width = 8 then joined.setWidth 8 :: packedBytes width rest 0 0
      else packedBytes width rest joined (outBits + width)

/-- The units that the service stores. -/
def serviceUnits (info : BitUnpackInfo) (start : U32) (source : List U8) : List U32 :=
  (BitReader.units info.srcBitNum info.length.toNat ⟨start, 0, 0⟩ source).map (· + info.dataOffset)

/-- The bytes that the service stores. -/
def serviceOutput (info : BitUnpackInfo) (start : U32) (source : List U8) : List U8 :=
  if info.destBitNum = 8 then lowBytes 1 (serviceUnits info start source)
  else if info.destBitNum = 16 then lowBytes 2 (serviceUnits info start source)
  else if info.destBitNum = 32 then lowBytes 4 (serviceUnits info start source)
  else packedBytes info.destBitNum (serviceUnits info start source) 0 0

theorem units_length (width : U8) (count : Nat) (reader : BitReader) (bytes : List U8) :
    (BitReader.units width count reader bytes).length = count := by
  induction count generalizing reader bytes with
  | zero => rfl
  | succ count ih => exact congrArg (· + 1) (ih _ _)

theorem serviceUnits_length (info : BitUnpackInfo) (start : U32) (source : List U8) :
    (serviceUnits info start source).length = info.length.toNat := by
  unfold serviceUnits
  rw [List.length_map, units_length]

/-! ### Reading the source -/

/-- The bytes still to be read are enough for a number of units, and spared by the stores. -/
structure Unread (system : System) (spared : U32 → Prop) (width : U8) (count : Nat)
    (reader : BitReader) (bytes : List U8) : Prop where
  placed : Placed system reader.source bytes
  apart : ∀ index < bytes.length, spared (reader.source + BitVec.ofNat 32 index)
  enough : count * width.toNat ≤ reader.bitCount.toNat + 8 * bytes.length
  bits : reader.bitCount.toNat < 8

section Reading

variable {system : System} {spared : U32 → Prop} {count : Nat} {width : U8} {reader : BitReader}
  {bytes : List U8}

theorem BitReader.readBits_eq (system : System) (count : U8) (reader : BitReader) :
    reader.readBits system count =
      if reader.bitCount < count.setWidth 32 then
        (system.read8 ioCallbacks reader.source).map fun (value : U8) =>
          (reader.fill value).take count
      else some (reader.take count) := rfl

/-- A unit is read from the bytes of the source. -/
theorem Unread.read (hwidth : 0 < width.toNat) (hbyte : width.toNat ≤ 8)
    (h : Unread system spared width (count + 1) reader bytes) :
    reader.readBits system width =
        some ((reader.readUnit width bytes).1, (reader.readUnit width bytes).2.1) ∧
      Unread system spared width count (reader.readUnit width bytes).2.1
        (reader.readUnit width bytes).2.2 := by
  have henough := h.enough
  have hbits := h.bits
  rw [Nat.succ_mul] at henough
  have hwide : (width.setWidth 32 : U32).toNat = width.toNat :=
    BitVec.toNat_setWidth_of_le (by omega)
  rw [BitReader.readBits_eq]
  unfold BitReader.readUnit
  -- a unit takes a new byte only if the bits held back do not reach
  by_cases hshort : reader.bitCount < width.setWidth 32
  · rw [if_pos hshort, if_pos hshort]
    have hlt : reader.bitCount.toNat < width.toNat := by
      have hnat := BitVec.lt_def.mp hshort
      omega
    cases bytes with
    | nil =>
      rw [List.length_nil] at henough
      omega
    | cons value rest =>
      obtain ⟨hread, hrest⟩ := placed_cons.mp h.placed
      rw [hread]
      refine ⟨rfl, hrest, ?_, ?_, ?_⟩
      · intro index hindex
        show spared (reader.source + 1 + BitVec.ofNat 32 index)
        rw [← offset_succ]
        exact h.apart (index + 1) (Nat.succ_lt_succ hindex)
      · show count * width.toNat ≤
          (reader.bitCount + 8 - width.setWidth 32 : U32).toNat + 8 * rest.length
        rw [List.length_cons] at henough
        have hcount : (reader.bitCount + 8 - width.setWidth 32 : U32).toNat =
            reader.bitCount.toNat + 8 - width.toNat := by
          rw [← hwide]
          bv_omega
        omega
      · show (reader.bitCount + 8 - width.setWidth 32 : U32).toNat < 8
        bv_omega
  · rw [if_neg hshort, if_neg hshort]
    have hle : width.toNat ≤ reader.bitCount.toNat := by
      have hnat := BitVec.le_def.mp (BitVec.not_lt.mp hshort)
      omega
    have hcount : (reader.bitCount - width.setWidth 32 : U32).toNat =
        reader.bitCount.toNat - width.toNat := by
      rw [← hwide]
      bv_omega
    refine ⟨rfl, h.placed, h.apart, ?_, ?_⟩
    · show count * width.toNat ≤
          (reader.bitCount - width.setWidth 32 : U32).toNat + 8 * bytes.length
      omega
    · show (reader.bitCount - width.setWidth 32 : U32).toNat < 8
      omega

/-- A byte that the stores spare reads as before. -/
theorem read8_spared {memory : MemoryBus} (houtside : system.memory.SameOutside memory)
    {other : U32} (h : Internal other → memory.cell other = system.memory.cell other) :
    (system.withMemory memory).read8 ioCallbacks other = system.read8 ioCallbacks other := by
  by_cases hinternal : Internal other
  · rw [BusState.read8_cell _ _ hinternal, BusState.read8_cell _ _ hinternal]
    exact congrArg some (h hinternal)
  · exact BusState.read8_sameOutside system houtside hinternal

/-- Stores that spare the source leave it alone. -/
theorem Unread.store {memory : MemoryBus} (houtside : system.memory.SameOutside memory)
    (hspared : ∀ other, spared other → Internal other →
      memory.cell other = system.memory.cell other)
    (h : Unread system spared width count reader bytes) :
    Unread (system.withMemory memory) spared width count reader bytes := by
  refine ⟨fun index hindex => ?_, h.apart, h.enough, h.bits⟩
  rw [read8_spared houtside (hspared _ (h.apart index hindex))]
  exact h.placed index hindex

end Reading

/-! ### Storing the output -/

/-- How the stores of a call end up in memory: a block is put at an address byte after byte, and
some of the other bytes are spared. -/
structure StoredBy (put : MemoryBus → List U8 → U32 → MemoryBus) (info : BitUnpackInfo)
    (destination : U32) (total : Nat) (spared : U32 → Prop) : Prop where
  empty : ∀ memory address, put memory [] address = memory
  append : ∀ memory first second address, put memory (first ++ second) address =
    put (put memory first address) second (address + BitVec.ofNat 32 first.length)
  outside : ∀ (memory : MemoryBus) block address, memory.SameOutside (put memory block address)
  others : ∀ memory block start other, start + block.length ≤ total → spared other →
    Internal other →
      (put memory block (destination + BitVec.ofNat 32 start)).cell other = memory.cell other
  bytes : info.destBitNum.toNat ≤ 8 → ∀ (system : System) value index, index < total →
    system.write8 ioCallbacks (destination + BitVec.ofNat 32 index) value =
      (true, system.withMemory
        (put system.memory [value] (destination + BitVec.ofNat 32 index)))
  halfwords : info.destBitNum = 16 → ∀ (system : System) (value : U16) index,
    index * 2 + 2 ≤ total →
    system.write16 ioCallbacks (destination + BitVec.ofNat 32 (index * 2)) value =
      (true, system.withMemory (put system.memory ((List.range 2).map (byte value))
        (destination + BitVec.ofNat 32 (index * 2))))
  words : info.destBitNum = 32 → ∀ (system : System) value index, index * 4 + 4 ≤ total →
    system.write32 ioCallbacks (destination + BitVec.ofNat 32 (index * 4)) value =
      (true, system.withMemory (put system.memory ((List.range 4).map (byte value))
        (destination + BitVec.ofNat 32 (index * 4))))

section Storing

variable {system : System} {info : BitUnpackInfo} {destination : U32} {total : Nat}
  {put : MemoryBus → List U8 → U32 → MemoryBus} {spared : U32 → Prop} {reader : BitReader}
  {bytes : List U8}

/-- A part of the output leaves the source alone. -/
theorem Unread.stored {width : U8} {count start : Nat} {block : List U8}
    (hput : StoredBy put info destination total spared) (hfits : start + block.length ≤ total)
    (h : Unread system spared width count reader bytes) :
    Unread (system.withMemory (put system.memory block (destination + BitVec.ofNat 32 start)))
      spared width count reader bytes :=
  h.store (hput.outside _ _ _) fun other => hput.others _ _ _ other hfits

/-- The loops for whole bytes, halfwords and words store the lowest bytes of their units. -/
theorem unpackUnits_eq {size count index : Nat} {store : U32 → U32 → System → Bool × System}
    (hwidth : 0 < info.srcBitNum.toNat) (hbyte : info.srcBitNum.toNat ≤ 8)
    (hput : StoredBy put info destination total spared)
    (hstore : ∀ index value system, index * size + size ≤ total →
      store (BitVec.ofNat 32 index) value system =
        (true, system.withMemory (put system.memory ((List.range size).map (byte value))
          (destination + BitVec.ofNat 32 (index * size)))))
    (hfits : (index + count) * size ≤ total)
    (h : Unread system spared info.srcBitNum count reader bytes) :
    unpackUnits info store count (BitVec.ofNat 32 index) reader system =
      (true, system.withMemory (put system.memory
        (lowBytes size ((reader.units info.srcBitNum count bytes).map (· + info.dataOffset)))
        (destination + BitVec.ofNat 32 (index * size)))) := by
  induction count generalizing index reader bytes system with
  | zero =>
    show (true, system) = (true, system.withMemory (put system.memory [] _))
    rw [hput.empty]
    rfl
  | succ count ih =>
    obtain ⟨hread, hrest⟩ := h.read hwidth hbyte
    have hroom : (index + 1 + count) * size ≤ total := by
      rw [Nat.add_assoc, Nat.add_comm 1 count]
      exact hfits
    have hunit : index * size + size ≤ total := by
      rw [← Nat.succ_mul]
      exact (Nat.mul_le_mul_right size (Nat.le_add_right _ _)).trans hroom
    unfold unpackUnits BitReader.units
    rw [hread]
    dsimp only
    generalize reader.readUnit info.srcBitNum bytes = taken at hrest ⊢
    obtain ⟨block, hblock⟩ :
        ∃ block, block = (List.range size).map (byte (taken.1 + info.dataOffset)) := ⟨_, rfl⟩
    have hlength : block.length = size := by
      rw [hblock, List.length_map, List.length_range]
    have hnext : BitVec.ofNat 32 index + 1 = BitVec.ofNat 32 (index + 1) :=
      (BitVec.ofNat_add index 1).symm
    rw [hstore index (taken.1 + info.dataOffset) system hunit, List.map_cons, lowBytes_cons,
      ← hblock, hput.append, hlength, ← offset_add, ← Nat.succ_mul, hnext]
    exact ih hroom (hrest.stored hput (by omega))

/-- The loop for units below a byte stores its packed bytes. -/
theorem unpackPacked_eq {count index : Nat} {packed : PackedByte}
    (hwidth : 0 < info.srcBitNum.toNat) (hbyte : info.srcBitNum.toNat ≤ 8)
    (hput : StoredBy put info destination total spared) (hnarrow : info.destBitNum.toNat ≤ 8)
    (hindex : packed.outIndex = BitVec.ofNat 32 index)
    (hfits : index + (packedBytes info.destBitNum
      ((reader.units info.srcBitNum count bytes).map (· + info.dataOffset)) packed.outByte
      packed.outBits).length ≤ total)
    (h : Unread system spared info.srcBitNum count reader bytes) :
    unpackPacked info destination count packed reader system =
      (true, system.withMemory (put system.memory
        (packedBytes info.destBitNum
          ((reader.units info.srcBitNum count bytes).map (· + info.dataOffset)) packed.outByte
          packed.outBits) (destination + BitVec.ofNat 32 index))) := by
  have hwrite := hput.bytes hnarrow
  induction count generalizing index packed reader bytes system with
  | zero =>
    unfold BitReader.units at hfits ⊢
    rw [List.map_nil] at hfits ⊢
    unfold unpackPacked
    unfold packedBytes at hfits ⊢
    -- the bits left over are stored as one padded byte
    by_cases hzero : packed.outBits = 0
    · rw [if_pos hzero, if_pos hzero, hput.empty]
      rfl
    · rw [if_neg hzero] at hfits
      rw [if_neg hzero, if_neg hzero, hindex]
      exact hwrite system _ index hfits
  | succ count ih =>
    obtain ⟨hread, hrest⟩ := h.read hwidth hbyte
    unfold BitReader.units at hfits ⊢
    rw [List.map_cons] at hfits ⊢
    unfold unpackPacked
    rw [hread]
    unfold packedBytes at hfits ⊢
    dsimp only at hfits ⊢
    generalize reader.readUnit info.srcBitNum bytes = taken at hrest hfits ⊢
    -- a unit either fills the byte, which is stored, or is kept for the next pass
    by_cases hfull : packed.outBits + info.destBitNum = 8
    · rw [if_pos hfull] at hfits
      rw [List.length_cons] at hfits
      rw [if_pos hfull, if_pos hfull, hindex, hwrite system _ index (by omega)]
      generalize (packed.outByte <<< info.destBitNum.toNat ||| taken.1 + info.dataOffset &&&
        1 <<< info.destBitNum.toNat - 1).setWidth 8 = value
      have hone : index + [value].length ≤ total := by
        show index + 1 ≤ total
        omega
      have hnext : BitVec.ofNat 32 index + 1 = BitVec.ofNat 32 (index + 1) :=
        (BitVec.ofNat_add index 1).symm
      refine (ih hnext ?_ (hrest.stored hput hone)).trans ?_
      · show index + 1 + (packedBytes info.destBitNum _ 0 0).length ≤ total
        omega
      · rw [offset_add destination index 1]
        exact congrArg (fun memory => (true, system.withMemory memory))
          (hput.append system.memory [value] _ _).symm
    · rw [if_neg hfull] at hfits
      rw [if_neg hfull, if_neg hfull]
      exact ih hindex hfits hrest

/-- The widths of the source that the service takes. -/
theorem SupportedWidths.source (h : SupportedWidths info) :
    0 < info.srcBitNum.toNat ∧ info.srcBitNum.toNat ≤ 8 := by
  have hsource := h.1
  simp only [List.mem_cons, List.not_mem_nil, or_false] at hsource
  rcases hsource with h | h | h | h <;> rw [h] <;> exact ⟨by decide, by decide⟩

/-- A call starts with its whole source unread. -/
theorem UnpackCall.unread {cpu : Arm7tdmi} {source : List U8} (hwidths : SupportedWidths info)
    (hcall : UnpackCall cpu system info source)
    (hspared : ∀ index < source.length, spared (cpu.registers 0 + BitVec.ofNat 32 index)) :
    Unread system spared info.srcBitNum info.length.toNat ⟨cpu.registers 0, 0, 0⟩ source := by
  refine ⟨hcall.placed, hspared, ?_, Nat.succ_pos _⟩
  show info.length.toNat * info.srcBitNum.toNat ≤ 0 + 8 * source.length
  rw [hcall.length, Nat.zero_add, Nat.mul_comm]
  exact Nat.mul_le_mul_right _ hwidths.source.2

/-- The units of whole bytes are stored one after the other. -/
theorem unpackUnits_output {cpu : Arm7tdmi} {source : List U8} (hwidths : SupportedWidths info)
    (hput : StoredBy put info (cpu.registers 1) (outputLength info) spared)
    (hunread : Unread system spared info.srcBitNum info.length.toNat ⟨cpu.registers 0, 0, 0⟩ source)
    {size : Nat} {store : U32 → U32 → System → Bool × System}
    (hsize : (lowBytes size (serviceUnits info (cpu.registers 0) source)).length ≤
      outputLength info)
    (hstore : ∀ index value system, index * size + size ≤ outputLength info →
      store (BitVec.ofNat 32 index) value system =
        (true, system.withMemory (put system.memory ((List.range size).map (byte value))
          (cpu.registers 1 + BitVec.ofNat 32 (index * size))))) :
    unpackUnits info store info.length.toNat 0 ⟨cpu.registers 0, 0, 0⟩ system =
      (true, system.withMemory (put system.memory
        (lowBytes size (serviceUnits info (cpu.registers 0) source)) (cpu.registers 1))) := by
  obtain ⟨hpos, hbyte⟩ := hwidths.source
  have hroom : (0 + info.length.toNat) * size ≤ outputLength info := by
    rw [length_lowBytes, serviceUnits_length] at hsize
    rw [Nat.zero_add]
    exact hsize
  have heq := unpackUnits_eq hpos hbyte hput hstore hroom hunread
  rw [Nat.zero_mul, offset_zero] at heq
  exact heq

/-- The service stores its output at its destination. -/
theorem hleBitUnpack_eq {cpu : Arm7tdmi} {source : List U8} (hwidths : SupportedWidths info)
    (hcall : UnpackCall cpu system info source)
    (hput : StoredBy put info (cpu.registers 1) (outputLength info) spared)
    (hspared : ∀ index < source.length, spared (cpu.registers 0 + BitVec.ofNat 32 index))
    (hfits : (serviceOutput info (cpu.registers 0) source).length ≤ outputLength info) :
    hleBitUnpack cpu system = (true, system.withMemory (put system.memory
      (serviceOutput info (cpu.registers 0) source) (cpu.registers 1))) := by
  obtain ⟨hpos, hbyte⟩ := hwidths.source
  have hnonzero : ¬(info.srcBitNum = 0 ∨ 8#8 < info.srcBitNum) := by
    rintro (hzero | hwide)
    · rw [hzero] at hpos
      exact Nat.lt_irrefl 0 hpos
    · exact absurd (BitVec.lt_def.mp hwide) (Nat.not_lt.mpr hbyte)
  have hunread := hcall.unread hwidths hspared
  have hdestination := hwidths.2.1
  unfold serviceOutput at hfits ⊢
  unfold hleBitUnpack
  dsimp only
  rw [hcall.header]
  dsimp only
  rw [if_neg hnonzero, if_neg (not_not.mpr hdestination)]
  -- one loop for each destination width of whole bytes, and one for packed units
  by_cases height : info.destBitNum = 8
  · rw [if_pos height] at hfits
    rw [if_pos height, if_pos height]
    refine unpackUnits_output hwidths hput hunread hfits fun index value system hindex => ?_
    rw [Nat.mul_one] at hindex ⊢
    exact hput.bytes (by rw [height]; decide) system (value.setWidth 8) index hindex
  rw [if_neg height] at hfits ⊢
  rw [if_neg height]
  by_cases hsixteen : info.destBitNum = 16
  · rw [if_pos hsixteen] at hfits
    rw [if_pos hsixteen, if_pos hsixteen]
    refine unpackUnits_output hwidths hput hunread hfits fun index value system hindex => ?_
    have hstored := hput.halfwords hsixteen system (value.setWidth 16) index hindex
    rw [BitVec.ofNat_mul] at hstored ⊢
    have hlow : (List.range 2).map (byte (value.setWidth 16)) = (List.range 2).map (byte value) := by
      refine List.map_congr_left fun lane hlane => byte_setWidth value ?_
      have hlt := List.mem_range.mp hlane
      omega
    rw [← hlow]
    exact hstored
  rw [if_neg hsixteen] at hfits ⊢
  rw [if_neg hsixteen]
  by_cases hword : info.destBitNum = 32
  · rw [if_pos hword] at hfits
    rw [if_pos hword, if_pos hword]
    refine unpackUnits_output hwidths hput hunread hfits fun index value system hindex => ?_
    have hstored := hput.words hword system value index hindex
    rw [BitVec.ofNat_mul] at hstored ⊢
    exact hstored
  rw [if_neg hword] at hfits ⊢
  rw [if_neg hword]
  have hnarrow : info.destBitNum.toNat ≤ 8 := by
    simp only [List.mem_cons, List.not_mem_nil, or_false] at hdestination
    rcases hdestination with h | h | h | h | h | h
    · exact h ▸ by decide
    · exact h ▸ by decide
    · exact h ▸ by decide
    · exact absurd h height
    · exact absurd h hsixteen
    · exact absurd h hword
  have heq := @unpackPacked_eq system info (cpu.registers 1) (outputLength info) put spared _
    source _ 0 ⟨0, 0, 0⟩ hpos hbyte hput hnarrow rfl ((Nat.zero_add _).trans_le hfits) hunread
  rw [offset_zero] at heq
  exact heq

end Storing

end Gba.Core
