import Gba.Core.HleServices
import Gba.Core.ReadWidths
import Gba.Core.StoreLoads
import Mathlib.Data.List.GetD

/-!
# Blocks of bytes

The bytes that a decompression service reads from its source and the block that it stores at its
destination. A block stored byte by byte in work RAM and a block stored in halfwords both end up at
consecutive addresses, the second one padded to whole halfwords, and change no other byte.
-/

namespace Gba.Core

open LittleEndian

/-! ## Sources -/

/-- Bytes that are read at consecutive addresses. -/
def Placed (system : System) (source : U32) (bytes : List U8) : Prop :=
  ∀ (index : Nat) (h : index < bytes.length),
    system.read8 ioCallbacks (source + BitVec.ofNat 32 index) = some bytes[index]

theorem placed_nil (system : System) (source : U32) : Placed system source [] :=
  fun index h => absurd h (Nat.not_lt_zero index)

theorem offset_succ (address : U32) (index : Nat) :
    address + BitVec.ofNat 32 (index + 1) = address + 1 + BitVec.ofNat 32 index := by
  rw [Nat.add_comm index 1, BitVec.ofNat_add, ← BitVec.add_assoc]
  rfl

theorem offset_zero (address : U32) : address + BitVec.ofNat 32 0 = address :=
  BitVec.add_zero address

theorem offset_add (address : U32) (first second : Nat) :
    address + BitVec.ofNat 32 (first + second) =
      address + BitVec.ofNat 32 first + BitVec.ofNat 32 second := by
  rw [BitVec.ofNat_add, BitVec.add_assoc]

theorem placed_cons {system : System} {source : U32} {first : U8} {rest : List U8} :
    Placed system source (first :: rest) ↔
      system.read8 ioCallbacks source = some first ∧ Placed system (source + 1) rest := by
  constructor
  · intro h
    refine ⟨?_, fun index hindex => ?_⟩
    · have hfirst := h 0 (Nat.succ_pos _)
      rw [offset_zero] at hfirst
      exact hfirst
    · have hnext := h (index + 1) (Nat.succ_lt_succ hindex)
      rw [offset_succ] at hnext
      exact hnext
  · rintro ⟨hfirst, hrest⟩ index hindex
    cases index with
    | zero =>
      rw [offset_zero]
      exact hfirst
    | succ index =>
      rw [offset_succ]
      exact hrest index (Nat.lt_of_succ_lt_succ hindex)

theorem placed_append {system : System} {source : U32} {first second : List U8} :
    Placed system source (first ++ second) ↔
      Placed system source first ∧
        Placed system (source + BitVec.ofNat 32 first.length) second := by
  induction first generalizing source with
  | nil =>
    show Placed system source second ↔ _ ∧ Placed system (source + BitVec.ofNat 32 0) second
    rw [offset_zero]
    exact ⟨fun h => ⟨placed_nil _ _, h⟩, fun h => h.2⟩
  | cons value rest ih =>
    rw [List.cons_append, placed_cons, ih, placed_cons, List.length_cons, offset_succ, and_assoc]

instance placed_decidable (system : System) (source : U32) (bytes : List U8) :
    Decidable (Placed system source bytes) := by
  unfold Placed
  infer_instance

/-- The bytes of a cartridge. -/
theorem placed_rom {system : System} (h : system.memory.gamePakRom.length ≤ 2 ^ 25) :
    Placed system 0x08000000#32 system.memory.gamePakRom := by
  intro index hindex
  have haddress : (0x08000000#32 + BitVec.ofNat 32 index).toNat = 0x08000000 + index := by
    rw [BitVec.toNat_add, BitVec.toNat_ofNat]
    show (0x08000000 + index % 2 ^ 32) % 2 ^ 32 = _
    omega
  obtain ⟨hregion, hoffset⟩ := BusState.classify_rom
    (show 8 ≤ (0x08000000#32 + BitVec.ofNat 32 index).toNat / 2 ^ 24 ∧
      (0x08000000#32 + BitVec.ofNat 32 index).toNat / 2 ^ 24 ≤ 13 by
        rw [haddress]
        omega)
  have hplace : (classify (0x08000000#32 + BitVec.ofNat 32 index)).offset.toNat = index := by
    rw [hoffset, haddress]
    omega
  have hne : system.memory.gamePakRom ≠ [] := by
    rintro hnil
    rw [hnil] at hindex
    exact Nat.not_lt_zero _ hindex
  rw [BusState.read8_rom system hregion hne, hplace]
  show some (if system.memory.gamePakRom.length ≤ index then _
    else system.memory.gamePakRom.getD
      (classify (0x08000000#32 + BitVec.ofNat 32 index)).offset.toNat 0) = _
  rw [if_neg (Nat.not_le.mpr hindex), hplace, List.getD_eq_getElem _ _ hindex]

/-- A session with the registers of a call and bytes at the start of IWRAM. -/
def callSession (bytes : List U8) (source destination : U32) : CoreSession where
  cpu := (Arm7tdmi.reset.setRegister 0 source).setRegister 1 destination
  system := ⟨{ MemoryBus.initial with iwram := fun index => bytes.getD index.val 0 }, .reset⟩
  bios := .reset
  scheduler := .reset
  stateGeneration := 0

/-- The header of a compressed stream. -/
def header (headerType : U8) (size : Nat) : List U8 :=
  [headerType, byte (BitVec.ofNat 32 size) 0, byte (BitVec.ofNat 32 size) 1,
    byte (BitVec.ofNat 32 size) 2]

/-- The size of a stream has 24 bits. -/
theorem readHeader_eq {system : System} {source : U32} {headerType : U8} {size : Nat}
    (hsize : size < 2 ^ 24) (h : Placed system source (header headerType size)) :
    readHeader system source = some (headerType, BitVec.ofNat 32 size) := by
  unfold header at h
  simp only [placed_cons] at h
  obtain ⟨htype, hsize0, hsize1, hsize2, -⟩ := h
  have htwo : source + 2 = source + 1 + 1 := by grind
  have hthree : source + 3 = source + 1 + 1 + 1 := by grind
  have hword : word 32 ((List.range 4).map (byte (BitVec.ofNat 32 size))) = BitVec.ofNat 32 size :=
    word_byte 4 rfl _
  have htop : byte (BitVec.ofNat 32 size) 3 = 0 := by
    unfold byte
    refine BitVec.eq_of_toNat_eq ?_
    rw [BitVec.toNat_setWidth, BitVec.toNat_ushiftRight, BitVec.toNat_ofNat,
      Nat.shiftRight_eq_div_pow]
    show size % 2 ^ 32 / 2 ^ 24 % 2 ^ 8 = 0
    omega
  have hjoin : (byte (BitVec.ofNat 32 size) 0).setWidth 32 |||
      (byte (BitVec.ofNat 32 size) 1).setWidth 32 <<< 8 |||
      (byte (BitVec.ofNat 32 size) 2).setWidth 32 <<< 16 = BitVec.ofNat 32 size := by
    refine Eq.trans ?_ hword
    show _ = word 32 [byte (BitVec.ofNat 32 size) 0, byte (BitVec.ofNat 32 size) 1,
      byte (BitVec.ofNat 32 size) 2, byte (BitVec.ofNat 32 size) 3]
    rw [word_four, htop]
    simp
  unfold readHeader
  rw [htwo, hthree, htype, hsize0, hsize1, hsize2]
  show some (headerType, _) = _
  rw [hjoin]

/-! ## Destinations -/

/-- EWRAM and IWRAM. -/
def workRam : List Region := [.ewram, .iwram]

/-- Consecutive addresses of the given regions that do not come back to a byte. -/
structure BlockRange (regions : List Region) (address : U32) (count : Nat) : Prop where
  within : ∀ index < count, (classify (address + BitVec.ofNat 32 index)).region ∈ regions
  distinct : ∀ first second, first < second → second < count →
    ¬SameCell (address + BitVec.ofNat 32 first) (address + BitVec.ofNat 32 second)

instance blockRange_decidable (regions : List Region) (address : U32) (count : Nat) :
    Decidable (BlockRange regions address count) :=
  decidable_of_iff
    ((∀ index < count, (classify (address + BitVec.ofNat 32 index)).region ∈ regions) ∧
      ∀ second < count, ∀ first < second,
        ¬SameCell (address + BitVec.ofNat 32 first) (address + BitVec.ofNat 32 second))
    ⟨fun h => ⟨h.1, fun first second hlt hsecond => h.2 second hsecond first hlt⟩,
      fun h => ⟨h.within, fun second hsecond first hlt => h.distinct first second hlt hsecond⟩⟩

/-- Where the services that store halfwords can store any block: at even addresses of VRAM, and
anywhere in work RAM. -/
def HalfwordRange (address : U32) (count : Nat) : Prop :=
  address.toNat % 2 = 0 ∧ BlockRange [.vram] address count ∨ BlockRange workRam address count

instance halfwordRange_decidable (address : U32) (count : Nat) :
    Decidable (HalfwordRange address count) := by
  unfold HalfwordRange
  infer_instance

/-- The block with a zero byte after an odd number of bytes. -/
def padded (block : List U8) : List U8 := if block.length % 2 = 1 then block ++ [0] else block

/-- What a service stores for its output, in bytes or for VRAM in halfwords. -/
def storedBlock (vram : Bool) (data : List U8) : List U8 := if vram then padded data else data

/-- A block is stored at consecutive addresses, and no other byte changes. -/
structure StoresBlock (before after : MemoryBus) (address : U32) (block : List U8) : Prop where
  stored : ∀ (index : Nat) (h : index < block.length),
    after.cell (address + BitVec.ofNat 32 index) = block[index]
  others : ∀ other, (∀ index < block.length, ¬SameCell other (address + BitVec.ofNat 32 index)) →
    after.cell other = before.cell other
  outside : before.SameOutside after

theorem internal_of_mem {regions : List Region} (hregions : ∀ region ∈ regions, region.internal = true)
    {address : U32} (h : (classify address).region ∈ regions) : Internal address :=
  hregions _ h

theorem workRam_internal : ∀ region ∈ workRam, region.internal = true := by decide

theorem inRam_of_mem {address : U32} (h : (classify address).region ∈ workRam) : InRam address := by
  unfold workRam at h
  simpa [InRam] using h

namespace BlockRange

variable {regions : List Region} {address : U32} {count : Nat}

theorem head (h : BlockRange regions address (count + 1)) :
    (classify address).region ∈ regions := by
  have hhead := h.within 0 (Nat.succ_pos _)
  rw [offset_zero] at hhead
  exact hhead

theorem tail (h : BlockRange regions address (count + 1)) :
    BlockRange regions (address + 1) count := by
  constructor
  · intro index hindex
    rw [← offset_succ]
    exact h.within (index + 1) (Nat.succ_lt_succ hindex)
  · intro first second hlt hsecond
    rw [← offset_succ, ← offset_succ]
    exact h.distinct (first + 1) (second + 1) (Nat.succ_lt_succ hlt) (Nat.succ_lt_succ hsecond)

/-- The first byte is none of the others. -/
theorem head_ne (h : BlockRange regions address (count + 1)) {index : Nat} (hindex : index < count) :
    ¬SameCell address (address + 1 + BitVec.ofNat 32 index) := by
  have hne := h.distinct 0 (index + 1) (Nat.succ_pos _) (Nat.succ_lt_succ hindex)
  rw [offset_zero, offset_succ] at hne
  exact hne

/-- A part of the range. -/
theorem sub (h : BlockRange regions address count) {start length : Nat}
    (hfits : start + length ≤ count) :
    BlockRange regions (address + BitVec.ofNat 32 start) length := by
  constructor
  · intro index hindex
    rw [← offset_add]
    exact h.within (start + index) (by omega)
  · intro first second hlt hsecond
    rw [← offset_add, ← offset_add]
    exact h.distinct (start + first) (start + second) (by omega) (by omega)

theorem take (h : BlockRange regions address count) {length : Nat} (hfits : length ≤ count) :
    BlockRange regions address length := by
  have hsub := @sub _ _ _ h 0 length ((Nat.zero_add _).trans_le hfits)
  rw [offset_zero] at hsub
  exact hsub

/-- The internal memories repeat every 256 KiB at most. -/
theorem sameCell_repeated {first second : U32} (hfirst : Internal first)
    (hpage : second.toNat / 2 ^ 24 = first.toNat / 2 ^ 24)
    (h : second.toNat = first.toNat + 2 ^ 18) : SameCell first second := by
  have hfold : ∀ region : Region, region.internal = true →
      region.fold first.toNat = region.fold second.toNat := by
    intro region hregion
    have hbank : (first.toNat + 2 ^ 18) % 2 ^ 17 = first.toNat % 2 ^ 17 := by omega
    rw [h]
    cases region with
    | vram =>
      unfold Region.fold
      dsimp only
      rw [hbank]
    | ewram | iwram | palette | oam =>
      unfold Region.fold
      dsimp only
      omega
    | bios | io | gamePakRom | gamePakSave | unknown => exact absurd hregion Bool.false_ne_true
  exact (mirrors_iff.mp
    ⟨_, hfirst, hfirst.page, hpage.trans hfirst.page, hfold _ hfirst⟩).2

/-- A range in the internal memories is in two of them at most. -/
theorem count_le (hregions : ∀ region ∈ regions, region.internal = true)
    (h : BlockRange regions address count) : count ≤ 2 ^ 19 := by
  by_contra hlarge
  have hinternal : ∀ index ≤ 2 ^ 19, Internal (address + BitVec.ofNat 32 index) :=
    fun index hindex => internal_of_mem hregions (h.within index (by omega))
  have hstart := hinternal 0 (by omega)
  have hmiddle := hinternal (2 ^ 18) (by omega)
  have hend := hinternal (2 ^ 19) le_rfl
  have hpages : ∀ region : Region, region.page ≤ 7 := by
    intro region
    cases region <;> decide
  have hlow : address.toNat / 2 ^ 24 ≤ 7 := by
    rw [offset_zero] at hstart
    rw [hstart.page]
    exact hpages _
  have hplace : ∀ index ≤ 2 ^ 19, (address + BitVec.ofNat 32 index).toNat = address.toNat + index := by
    intro index hindex
    rw [BitVec.toNat_add, BitVec.toNat_ofNat]
    omega
  have hzero := hplace 0 (by omega)
  have hhalf := hplace (2 ^ 18) (by omega)
  have hlast := hplace (2 ^ 19) le_rfl
  -- of three addresses 256 KiB apart two neighbours are on one page
  by_cases hpage : (address.toNat + 2 ^ 18) / 2 ^ 24 = address.toNat / 2 ^ 24
  · exact h.distinct 0 (2 ^ 18) (by omega) (by omega)
      (sameCell_repeated hstart (by rw [hhalf, hzero]; exact hpage) (by rw [hhalf, hzero]; omega))
  · exact h.distinct (2 ^ 18) (2 ^ 19) (by omega) (by omega)
      (sameCell_repeated hmiddle (by rw [hhalf, hlast]; omega) (by rw [hhalf, hlast]; omega))

end BlockRange

namespace MemoryBus

/-- The memory with a block at consecutive addresses. -/
def storeBlock (memory : MemoryBus) : List U8 → U32 → MemoryBus
  | [], _ => memory
  | value :: rest, address =>
      (memory.setCellAt (classify address) value).storeBlock rest (address + 1)

theorem storeBlock_append (memory : MemoryBus) (first second : List U8) (address : U32) :
    memory.storeBlock (first ++ second) address =
      (memory.storeBlock first address).storeBlock second
        (address + BitVec.ofNat 32 first.length) := by
  induction first generalizing memory address with
  | nil =>
    show memory.storeBlock second address = memory.storeBlock second (address + BitVec.ofNat 32 0)
    rw [offset_zero]
  | cons value rest ih =>
    rw [List.length_cons, offset_succ]
    exact ih _ _

/-- The low bytes of a value are a block. -/
theorem writeCells_eq_storeBlock {w : Nat} (memory : MemoryBus) (value : BitVec w) (address : U32)
    (count : Nat) :
    memory.writeCells value address count =
      memory.storeBlock ((List.range count).map (byte value)) address := by
  induction count with
  | zero => rfl
  | succ count ih =>
    unfold writeCells
    rw [ih, List.range_succ, List.map_append, storeBlock_append, List.length_map,
      List.length_range]
    rfl

theorem cell_setCellAt (memory : MemoryBus) {address : U32} (h : Internal address) (value : U8)
    (other : U32) :
    (memory.setCellAt (classify address) value).cell other =
      if SameCell other address then value else memory.cell other :=
  cellAt_setCellAt _ h (classify_offset_lt _) _ _

theorem storesBlock (memory : MemoryBus) {regions : List Region}
    (hregions : ∀ region ∈ regions, region.internal = true) {block : List U8} {address : U32}
    (h : BlockRange regions address block.length) :
    StoresBlock memory (memory.storeBlock block address) address block := by
  induction block generalizing memory address with
  | nil => exact ⟨fun index h => absurd h (Nat.not_lt_zero index), fun _ _ => rfl, rfl⟩
  | cons value rest ih =>
    have hinternal := internal_of_mem hregions h.head
    have hrest := ih (memory.setCellAt (classify address) value) h.tail
    refine ⟨?_, ?_, (setCellAt_sameOutside _ _ _).trans hrest.outside⟩
    · intro index hindex
      cases index with
      | zero =>
        rw [offset_zero]
        refine (hrest.others address fun index hindex => h.head_ne hindex).trans ?_
        rw [cell_setCellAt _ hinternal, if_pos ⟨rfl, rfl⟩]
        rfl
      | succ index =>
        rw [offset_succ]
        exact hrest.stored index (Nat.lt_of_succ_lt_succ hindex)
    · intro other hother
      have hhead := hother 0 (Nat.succ_pos _)
      rw [offset_zero] at hhead
      have htail : ∀ index < rest.length, ¬SameCell other (address + 1 + BitVec.ofNat 32 index) := by
        intro index hindex
        rw [← offset_succ]
        exact hother (index + 1) (Nat.succ_lt_succ hindex)
      refine (hrest.others other htail).trans ?_
      rw [cell_setCellAt _ hinternal, if_neg hhead]

end MemoryBus

/-! ## Stores -/

/-- A byte stored in work RAM. -/
theorem write8_workRam (system : System) {address : U32} (h : InRam address) (value : U8) :
    system.write8 ioCallbacks address value =
      (true, system.withMemory (system.memory.setCellAt (classify address) value)) :=
  BusState.write8_ram ioCallbacks system h value

/-- A block stored byte by byte. -/
theorem hleWriteDecompressedWram_eq (output : List U8) {address : U32} (system : System)
    (h : BlockRange workRam address output.length) :
    hleWriteDecompressedWram output address system =
      (true, system.withMemory (system.memory.storeBlock output address)) := by
  induction output generalizing address system with
  | nil => rfl
  | cons value rest ih =>
    unfold hleWriteDecompressedWram BusState.andThen
    rw [write8_workRam system (inRam_of_mem h.head), if_pos rfl]
    exact ih _ h.tail

/-- A halfword stored at any address of work RAM. -/
theorem write16_ram (system : System) {address : U32}
    (h : ∀ lane < 2, InRam (address + BitVec.ofNat 32 lane)) (value : U16) :
    system.write16 ioCallbacks address value =
      (true, system.withMemory
        (system.memory.storeBlock ((List.range 2).map (byte value)) address)) := by
  have hfirst : InRam address := by
    have hhead := h 0 (Nat.succ_pos _)
    rw [offset_zero] at hhead
    exact hhead
  have hlow : ∀ lane < 2, byte (value.setWidth 32) lane = byte value lane :=
    fun lane hlane => byte_setWidth value (by omega)
  have hcells : system.memory.writeCells (value.setWidth 32) address 2 =
      system.memory.storeBlock ((List.range 2).map (byte value)) address := by
    rw [MemoryBus.writeCells_eq_storeBlock]
    exact congrArg (system.memory.storeBlock · address)
      (List.map_congr_left fun lane hlane => hlow lane (List.mem_range.mp hlane))
  by_cases heven : address.toNat % 2 = 0
  · rw [BusState.write16_cells system (BusState.internal_of_inRam hfirst) heven, hcells]
  · have hodd : address % 2 ≠ 0 := by
      show address % 2#32 ≠ 0#32
      bv_omega
    -- an odd address takes the store byte by byte
    unfold BusState.write16
    dsimp only
    rw [BusState.writeDebug16_none system (BusState.internal_of_inRam hfirst)]
    rcases hfirst with hregion | hregion
    · simp only [hregion, reduceCtorEq, if_false]
      rw [if_pos hodd, BusState.writeBytes_ram ioCallbacks system _ _ h, hcells]
    · simp only [hregion, reduceCtorEq, if_false]
      rw [if_pos hodd, BusState.writeBytes_ram ioCallbacks system _ _ h, hcells]

/-- A word stored at any address of work RAM. -/
theorem write32_block (system : System) {address : U32}
    (h : ∀ lane < 4, InRam (address + BitVec.ofNat 32 lane)) (value : U32) :
    system.write32 ioCallbacks address value =
      (true, system.withMemory
        (system.memory.storeBlock ((List.range 4).map (byte value)) address)) := by
  rw [BusState.write32_ram ioCallbacks system value h, MemoryBus.writeCells_eq_storeBlock]

/-- A halfword stored as two bytes. -/
theorem write16_block (system : System) {address : U32}
    (h : address.toNat % 2 = 0 ∧ Internal address ∨ InRam address ∧ InRam (address + 1))
    (low high : U8) :
    system.write16 ioCallbacks address (low.setWidth 16 ||| high.setWidth 16 <<< 8) =
      (true, system.withMemory (system.memory.storeBlock [low, high] address)) := by
  have hbytes : (List.range 2).map (byte (low.setWidth 16 ||| high.setWidth 16 <<< 8)) =
      [low, high] := by
    have hword : (low.setWidth 16 ||| high.setWidth 16 <<< 8 : U16) = word 16 [low, high] :=
      (word_two low high).symm
    rw [hword]
    show [byte (word 16 [low, high]) 0, byte (word 16 [low, high]) 1] = _
    rw [byte_word (show 0 * 8 + 8 ≤ 16 by omega), byte_word (show 1 * 8 + 8 ≤ 16 by omega)]
    rfl
  rcases h with ⟨heven, hinternal⟩ | ⟨hfirst, hsecond⟩
  · rw [BusState.write16_cells system hinternal heven, MemoryBus.writeCells_eq_storeBlock]
    refine congrArg (fun block => (true, system.withMemory (system.memory.storeBlock block address)))
      (Eq.trans ?_ hbytes)
    exact List.map_congr_left fun lane hlane =>
      byte_setWidth _ (by
        have hlane' := List.mem_range.mp hlane
        omega)
  · refine (write16_ram system (fun lane hlane => ?_) _).trans (by rw [hbytes])
    rcases (by omega : lane = 0 ∨ lane = 1) with rfl | rfl
    · rw [offset_zero]
      exact hfirst
    · exact hsecond

theorem padded_cons_cons (low high : U8) (rest : List U8) :
    padded (low :: high :: rest) = low :: high :: padded rest := by
  unfold padded
  have hlength : (low :: high :: rest).length % 2 = rest.length % 2 := by
    rw [List.length_cons, List.length_cons]
    omega
  rw [hlength]
  split
  · rfl
  · rfl

theorem HalfwordRange.head {address : U32} {count : Nat} (h : HalfwordRange address (count + 2)) :
    address.toNat % 2 = 0 ∧ Internal address ∨ InRam address ∧ InRam (address + 1) := by
  rcases h with ⟨heven, hrange⟩ | hrange
  · exact .inl ⟨heven, internal_of_mem (by decide) hrange.head⟩
  · exact .inr ⟨inRam_of_mem hrange.head, inRam_of_mem hrange.tail.head⟩

theorem HalfwordRange.tail {address : U32} {count : Nat} (h : HalfwordRange address (count + 2)) :
    HalfwordRange (address + 2) count := by
  have htwo : address + 2 = address + 1 + 1 := by grind
  rcases h with ⟨heven, hrange⟩ | hrange
  · refine .inl ⟨by bv_omega, ?_⟩
    rw [htwo]
    exact hrange.tail.tail
  · refine .inr ?_
    rw [htwo]
    exact hrange.tail.tail

/-- A block stored in halfwords. -/
theorem hleWriteDecompressedVram_eq (output : List U8) {address : U32} (system : System)
    (h : HalfwordRange address (padded output).length) :
    hleWriteDecompressedVram output address system =
      (true, system.withMemory (system.memory.storeBlock (padded output) address)) := by
  induction output using List.twoStepInduction generalizing address system with
  | nil => rfl
  | singleton low =>
    have hzero : low.setWidth 16 = low.setWidth 16 ||| (0 : U8).setWidth 16 <<< 8 := by simp
    unfold hleWriteDecompressedVram
    rw [hzero]
    exact write16_block system (HalfwordRange.head h) low 0
  | cons_cons low high rest ih _ =>
    rw [padded_cons_cons] at h ⊢
    unfold hleWriteDecompressedVram BusState.andThen
    rw [write16_block system h.head low high, if_pos rfl]
    have htwo : address + 2 = address + 1 + 1 := by grind
    refine (ih (system.withMemory (system.memory.storeBlock [low, high] address)) h.tail).trans ?_
    rw [htwo]
    rfl

end Gba.Core
