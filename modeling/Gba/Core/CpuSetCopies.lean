import Gba.Core.AdvanceSplit
import Gba.Core.ByteBlocks
import Gba.Core.HleWork
import Gba.Library.PackedUnits

/-!
# Copies of the BIOS

`CpuSet` and `CpuFastSet` copy or fill aligned words or halfwords and let device time pass in chunks
of 64 units. With no DMA channel enabled device time leaves memory alone, so that a copy from a
source apart from its destination stores the units as they were before it. The cycles that pass
in chunks are those of the units, which leaves the fixed cost of the call to be charged.
-/

namespace Gba.Core

open LittleEndian Library

/-! ## Units of a source -/

/-- Addresses that a unit is copied from: the internal memories and a cartridge. -/
def Readable (memory : MemoryBus) (address : U32) : Prop :=
  Internal address ∨ (classify address).region = .gamePakRom ∧ memory.gamePakRom ≠ []

instance readable_decidable (memory : MemoryBus) (address : U32) :
    Decidable (Readable memory address) := by
  unfold Readable
  infer_instance

/-- Two memories agree on the bytes of a unit and on the cartridge. -/
structure SameUnit (first second : MemoryBus) (address : U32) (size : Nat) : Prop where
  cells : ∀ lane < size, first.cell (address + BitVec.ofNat 32 lane) =
    second.cell (address + BitVec.ofNat 32 lane)
  rom : first.gamePakRom = second.gamePakRom

section Reads

variable {system other : System} {address : U32}

theorem read8_rom_congr (h : (classify address).region = .gamePakRom)
    (hrom : system.memory.gamePakRom = other.memory.gamePakRom) :
    system.read8 ioCallbacks address = other.read8 ioCallbacks address := by
  by_cases hnone : system.memory.gamePakRom = []
  · rw [BusState.read8_rom_none system h hnone, BusState.read8_rom_none other h (hrom ▸ hnone)]
  · rw [BusState.read8_rom system h hnone, BusState.read8_rom other h (hrom ▸ hnone)]
    unfold MemoryBus.romAt
    rw [hrom]

/-- The reads at an address in the cartridge depend on the cartridge only. -/
theorem lanes_rom_congr (h : (classify address).region = .gamePakRom)
    (hrom : system.memory.gamePakRom = other.memory.gamePakRom) {lane : Nat}
    (hlane : address.toNat % 4 + lane < 4) :
    system.read8 ioCallbacks (address + BitVec.ofNat 32 lane) =
      other.read8 ioCallbacks (address + BitVec.ofNat 32 lane) :=
  read8_rom_congr (BusState.classify_rom_lane h hlane).1 hrom

theorem rom_not {region : Region} (h : (classify address).region = .gamePakRom)
    (hregion : region ≠ .gamePakRom) : (classify address).region ≠ region :=
  fun heq => hregion (heq.symm.trans h)

/-- An aligned halfword is read alike from memories that agree on it. -/
theorem read16_congr (halign : address.toNat % 2 = 0) (hread : Readable system.memory address)
    (h : SameUnit system.memory other.memory address 2) :
    system.read16 ioCallbacks address = other.read16 ioCallbacks address := by
  rcases hread with hinternal | ⟨hregion, -⟩
  · rw [BusState.read16_cells _ _ hinternal halign, BusState.read16_cells _ _ hinternal halign,
      MemoryBus.cells_eq _ h.cells]
    rfl
  · have hdebug : address ≠ kMgbaDebugEnable := by
      rintro rfl
      exact absurd hregion (by decide)
    have hlow := @lanes_rom_congr system other address hregion h.rom 0 (by omega)
    have hhigh := @lanes_rom_congr system other address hregion h.rom 1 (by omega)
    rw [offset_zero] at hlow
    rw [BusState.read16_joined _ halign (rom_not hregion (by decide))
        (rom_not hregion (by decide)) hdebug,
      BusState.read16_joined _ halign (rom_not hregion (by decide))
        (rom_not hregion (by decide)) hdebug]
    unfold BusState.joined16
    rw [hlow]
    exact congrArg (Option.bind _) (funext fun _ => congrArg (Option.bind · _) hhigh)

theorem laneShift_self (h : address.toNat % 4 = 0) : laneShift address = 0 := by
  rw [laneShift_eq, h]

/-- An aligned word is read alike from memories that agree on it. -/
theorem read32_congr (halign : address.toNat % 4 = 0) (hread : Readable system.memory address)
    (h : SameUnit system.memory other.memory address 4) :
    system.read32 ioCallbacks address = other.read32 ioCallbacks address := by
  rcases hread with hinternal | ⟨hregion, hrom⟩
  · rw [BusState.read32_cells _ _ hinternal, BusState.read32_cells _ _ hinternal,
      alignWord_of_aligned halign, MemoryBus.cells_eq _ h.cells]
    rfl
  · by_cases hpast : system.memory.gamePakRom.length ≤ (classify address).offset.toNat
    · rw [BusState.read32_pastImage system hregion hrom hpast,
        BusState.read32_pastImage other hregion (h.rom ▸ hrom) (h.rom ▸ hpast)]
    · have hlane : ∀ lane < 4, system.read8 ioCallbacks (address + BitVec.ofNat 32 lane) =
          other.read8 ioCallbacks (address + BitVec.ofNat 32 lane) :=
        fun lane hlane => lanes_rom_congr hregion h.rom (by omega)
      have h0 := hlane 0 (by decide)
      have h1 : system.read8 ioCallbacks (address + 1) = other.read8 ioCallbacks (address + 1) :=
        hlane 1 (by decide)
      have h2 : system.read8 ioCallbacks (address + 2) = other.read8 ioCallbacks (address + 2) :=
        hlane 2 (by decide)
      have h3 : system.read8 ioCallbacks (address + 3) = other.read8 ioCallbacks (address + 3) :=
        hlane 3 (by decide)
      rw [offset_zero] at h0
      rw [BusState.read32_joined _ (rom_not hregion (by decide)) (rom_not hregion (by decide))
          fun _ _ => hpast,
        BusState.read32_joined _ (rom_not hregion (by decide)) (rom_not hregion (by decide))
          fun _ _ => h.rom ▸ hpast, alignWord_of_aligned halign]
      unfold BusState.joined32
      rw [h0, h1, h2, h3]

/-- A halfword is read wherever units are copied from. -/
theorem read16_defined (halign : address.toNat % 2 = 0) (hread : Readable system.memory address) :
    ∃ value, system.read16 ioCallbacks address = some value := by
  rcases hread with hinternal | ⟨hregion, hrom⟩
  · exact ⟨_, BusState.read16_cells _ _ hinternal halign⟩
  · have hdebug : address ≠ kMgbaDebugEnable := by
      rintro rfl
      exact absurd hregion (by decide)
    rw [BusState.read16_joined _ halign (rom_not hregion (by decide))
      (rom_not hregion (by decide)) hdebug]
    exact ⟨_, BusState.joined16_of_bytes system fun lane hlane =>
      BusState.read8_rom_lane system hregion hrom (by omega)⟩

/-- A word is read wherever units are copied from. -/
theorem read32_defined (halign : address.toNat % 4 = 0) (hread : Readable system.memory address) :
    ∃ value, system.read32 ioCallbacks address = some value := by
  rcases hread with hinternal | ⟨hregion, hrom⟩
  · exact ⟨_, BusState.read32_cells _ _ hinternal⟩
  · by_cases hpast : system.memory.gamePakRom.length ≤ (classify address).offset.toNat
    · exact ⟨_, BusState.read32_pastImage system hregion hrom hpast⟩
    · rw [BusState.read32_joined _ (rom_not hregion (by decide)) (rom_not hregion (by decide))
        fun _ _ => hpast, alignWord_of_aligned halign,
        BusState.joined32_of_bytes system fun lane hlane =>
          BusState.read8_rom_lane system hregion hrom (by omega)]
      exact ⟨_, rfl⟩

theorem read16_stored (halign : address.toNat % 2 = 0) (hinternal : Internal address) {value : U16}
    (h : ∀ lane < 2, system.memory.cell (address + BitVec.ofNat 32 lane) = byte value lane) :
    system.read16 ioCallbacks address = some value := by
  rw [BusState.read16_cells _ _ hinternal halign, MemoryBus.cells_eq _ h, word_byte 2 rfl]

theorem read32_stored (halign : address.toNat % 4 = 0) (hinternal : Internal address) {value : U32}
    (h : ∀ lane < 4, system.memory.cell (address + BitVec.ofNat 32 lane) = byte value lane) :
    system.read32 ioCallbacks address = some value := by
  rw [BusState.read32_cells _ _ hinternal, alignWord_of_aligned halign, MemoryBus.cells_eq _ h,
    word_byte 4 rfl, laneShift_self halign, rotateRight_zero]

end Reads

/-! ## Units that are copied -/

/-- How a unit of bytes is read and stored. -/
structure CopiesBytes {w : Nat} (unit : CpuSetUnit (BitVec w)) (size : Nat) : Prop where
  unitSize : unit.size = BitVec.ofNat 32 size
  read_congr : ∀ {system other : System} {address : U32}, address.toNat % size = 0 →
    Readable system.memory address → SameUnit system.memory other.memory address size →
    unit.read system address = unit.read other address
  read_defined : ∀ {system : System} {address : U32}, address.toNat % size = 0 →
    Readable system.memory address → ∃ value, unit.read system address = some value
  read_stored : ∀ {system : System} {address : U32} {value : BitVec w},
    address.toNat % size = 0 → Internal address →
      (∀ lane < size, system.memory.cell (address + BitVec.ofNat 32 lane) = byte value lane) →
        unit.read system address = some value
  storeAddress : ∀ {address : U32}, address.toNat % size = 0 → Internal address →
    unit.storeAddress address = address
  store : ∀ (system : System) {address : U32} (value : BitVec w), address.toNat % size = 0 →
    Internal address → unit.store address value system =
      (true, system.withMemory
        (system.memory.storeBlock ((List.range size).map (byte value)) address))

theorem readable_region {memory : MemoryBus} {address : U32} (h : Readable memory address) :
    (classify address).region ≠ .bios ∧ (classify address).region ≠ .gamePakSave := by
  rcases h with h | ⟨h, -⟩
  · unfold Internal at h
    refine ⟨fun heq => ?_, fun heq => ?_⟩
    · rw [heq] at h
      exact Bool.noConfusion h
    · rw [heq] at h
      exact Bool.noConfusion h
  · exact ⟨rom_not h (by decide), rom_not h (by decide)⟩

theorem cpuSetWord_read {system : System} {address : U32} (halign : address.toNat % 4 = 0)
    (hread : Readable system.memory address) :
    cpuSetWord.read system address = system.read32 ioCallbacks address := by
  have haligned : address &&& ~~~0x3#32 = address := alignWord_of_aligned halign
  unfold cpuSetWord
  dsimp only
  split
  · next h => exact absurd h (readable_region hread).1
  · rfl
  · rw [haligned]

theorem cpuSetHalfword_read {system : System} {address : U32} (halign : address.toNat % 2 = 0)
    (hread : Readable system.memory address) :
    cpuSetHalfword.read system address = system.read16 ioCallbacks address := by
  have hbit : address.getLsbD 0 = false := by
    rw [BitVec.getLsbD, Nat.testBit_zero]
    simp [halign]
  show (if (classify address).region = .bios then some 0
    else if !address.getLsbD 0 then system.read16 ioCallbacks address
    else (system.read8 ioCallbacks address).map (BitVec.setWidth 16)) = _
  rw [if_neg (readable_region hread).1, hbit]
  rfl

theorem readable_congr {memory other : MemoryBus} {address : U32} (h : Readable memory address)
    (hrom : memory.gamePakRom = other.gamePakRom) : Readable other address :=
  h.imp_right fun h => ⟨h.1, hrom ▸ h.2⟩

theorem cpuSetWord_copies : CopiesBytes cpuSetWord 4 where
  unitSize := rfl
  read_congr halign hread h := by
    rw [cpuSetWord_read halign hread, cpuSetWord_read halign (readable_congr hread h.rom),
      read32_congr halign hread h]
  read_defined halign hread := by
    rw [cpuSetWord_read halign hread]
    exact read32_defined halign hread
  read_stored halign hinternal h := by
    rw [cpuSetWord_read halign (.inl hinternal)]
    exact read32_stored halign hinternal h
  storeAddress {address} halign hinternal := by
    have haligned : address &&& ~~~0x3#32 = address := alignWord_of_aligned halign
    show (if (classify address).region = .gamePakSave then address
      else address &&& ~~~0x3#32) = address
    rw [haligned, ite_self]
  store system address value halign hinternal := by
    show system.write32 ioCallbacks address value = _
    rw [BusState.write32_cells system hinternal halign, MemoryBus.writeCells_eq_storeBlock]

theorem cpuSetHalfword_copies : CopiesBytes cpuSetHalfword 2 where
  unitSize := rfl
  read_congr halign hread h := by
    rw [cpuSetHalfword_read halign hread, cpuSetHalfword_read halign (readable_congr hread h.rom),
      read16_congr halign hread h]
  read_defined halign hread := by
    rw [cpuSetHalfword_read halign hread]
    exact read16_defined halign hread
  read_stored halign hinternal h := by
    rw [cpuSetHalfword_read halign (.inl hinternal)]
    exact read16_stored halign hinternal h
  storeAddress _ _ := rfl
  store system address value halign hinternal := by
    have hlow : (List.range 2).map (byte (value.setWidth 32 : U32)) =
        (List.range 2).map (byte value) := by
      refine List.map_congr_left fun lane hlane => byte_setWidth value ?_
      have hlt := List.mem_range.mp hlane
      omega
    show system.write16 ioCallbacks address value = _
    rw [BusState.write16_cells system hinternal halign, MemoryBus.writeCells_eq_storeBlock, hlow]

/-! ## The call -/

namespace CpuSetCall

variable (call : CpuSetCall)

/-- The number of units that a control word asks for; `CpuFastSet` copies blocks of eight. -/
def units : Nat :=
  let count := call.control.toNat % 2 ^ 21
  if call.fast then (count + 7) / 8 * 8 else count

/-- The bytes of a unit. -/
def unitBytes : Nat := if call.word then 4 else 2

/-- The fixed cycles of a call. -/
def callCycles : U32 := if call.fast then 318 else 64

/-- Where a unit is copied from; a fill takes the first one for all. -/
def unitSource (index : Nat) : U32 :=
  if call.control.getLsbD 24 then call.source
  else call.source + BitVec.ofNat 32 (index * call.unitBytes)

/-- Where a unit is stored. -/
def unitDest (index : Nat) : U32 := call.dest + BitVec.ofNat 32 (index * call.unitBytes)

theorem count_toNat : call.count.toNat = call.units := by
  have hlow : (call.control &&& 0x001FFFFF#32).toNat = call.control.toNat % 2 ^ 21 := by
    rw [BitVec.toNat_and]
    exact Nat.and_two_pow_sub_one_eq_mod _ 21
  unfold count units
  dsimp only
  split
  · have hblocks : ((call.control &&& 0x001FFFFF#32) + 7 &&& ~~~7#32).toNat =
        ((call.control &&& 0x001FFFFF#32) + 7).toNat / 8 * 8 :=
      @clearLow_toNat ((call.control &&& 0x001FFFFF#32) + 7) 3 (by decide)
    rw [hblocks, BitVec.toNat_add, hlow]
    show (call.control.toNat % 2 ^ 21 + 7) % 2 ^ 32 / 8 * 8 = _
    rw [Nat.mod_eq_of_lt (by omega)]
  · exact hlow

theorem units_le : call.units ≤ 2 ^ 21 := by
  unfold units
  dsimp only
  split <;> omega

theorem unitBytes_cases : call.unitBytes = 4 ∨ call.unitBytes = 2 := by
  unfold unitBytes
  split
  · exact .inl rfl
  · exact .inr rfl

end CpuSetCall

/-- The ranges of a copy: aligned, the source in memory or a cartridge, the destination in one
region of memory, and no byte of one in the other. -/
structure CopyRanges (memory : MemoryBus) (call : CpuSetCall) : Prop where
  sourceAligned : call.source.toNat % call.unitBytes = 0
  destAligned : call.dest.toNat % call.unitBytes = 0
  readable : ∀ index < call.units, Readable memory (call.unitSource index)
  region : ∃ region : Region, region.internal = true ∧
    BlockRange [region] call.dest (call.units * call.unitBytes)
  apart : ∀ index < call.units, ∀ lane < call.unitBytes, ∀ place < call.units * call.unitBytes,
    ¬SameCell (call.unitSource index + BitVec.ofNat 32 lane) (call.dest + BitVec.ofNat 32 place)

/-- A unit of a copy as a word. -/
def CpuSetCall.readUnit (call : CpuSetCall) (system : System) (address : U32) : Option U32 :=
  if call.word then system.read32 ioCallbacks address
  else (system.read16 ioCallbacks address).map (BitVec.setWidth 32)

/-- A copy is done: the destination holds the units of the source as they were before it, and no
other byte has changed. -/
structure CopyDone (call : CpuSetCall) (before after : System) : Prop where
  copied : ∀ index < call.units, ∃ value, call.readUnit before (call.unitSource index) = some value ∧
    call.readUnit after (call.unitDest index) = some value
  others : ∀ address, (∀ place < call.units * call.unitBytes,
    ¬SameCell address (call.dest + BitVec.ofNat 32 place)) →
      after.memory.cell address = before.memory.cell address
  outside : before.memory.SameOutside after.memory

/-! ## Sources that are not refused -/

/-- The source and its end have a bit of the mask from EWRAM up to the save memory. -/
theorem anySet_sourceRegion {address : U32}
    (h : 2 ≤ address.toNat / 2 ^ 24 ∧ address.toNat / 2 ^ 24 ≤ 15) :
    anySet address 0x0E000000#32 = true := by
  have hshift : ((address &&& 0x0E000000#32) >>> 25).toNat = address.toNat / 2 ^ 25 % 2 ^ 3 := by
    rw [BitVec.ushiftRight_and_distrib, BitVec.toNat_and, BitVec.toNat_ushiftRight,
      Nat.shiftRight_eq_div_pow]
    exact Nat.and_two_pow_sub_one_eq_mod _ 3
  unfold anySet
  rw [bne_iff_ne]
  intro hzero
  rw [hzero] at hshift
  have hnone : 0 = address.toNat / 2 ^ 25 % 2 ^ 3 := hshift
  omega

theorem readable_page {memory : MemoryBus} {address : U32} (h : Readable memory address) :
    2 ≤ address.toNat / 2 ^ 24 ∧ address.toNat / 2 ^ 24 ≤ 13 := by
  rcases h with h | ⟨h, -⟩
  · have hregion : (classify address).region.internal = true := h
    rw [h.page]
    revert hregion
    cases (classify address).region <;> decide
  · have hpage := BusState.page_of_rom h
    omega

theorem CopyRanges.not_refused {memory : MemoryBus} {call : CpuSetCall}
    (h : CopyRanges memory call) : call.refused = false := by
  unfold CpuSetCall.refused
  by_cases hnone : call.count = 0
  · rw [hnone]
    rfl
  · have hunits : 0 < call.units := by
      rw [← call.count_toNat]
      bv_omega
    have hsource : call.unitSource 0 = call.source := by
      unfold CpuSetCall.unitSource
      rw [Nat.zero_mul, offset_zero, ite_self]
    have hpage := readable_page (h.readable 0 hunits)
    rw [hsource] at hpage
    have hlength : (call.count * if call.word then 4 else 2).toNat ≤ 2 ^ 23 := by
      have hle := call.units_le
      rw [← call.count_toNat] at hle
      split
      · bv_omega
      · bv_omega
    -- a source ends at most 8 MiB after a readable address
    generalize (call.count * if call.word then 4 else 2) = length at hlength
    have hend : 2 ≤ (call.source + length).toNat / 2 ^ 24 ∧
        (call.source + length).toNat / 2 ^ 24 ≤ 15 := by
      rw [BitVec.toNat_add]
      omega
    unfold hleCpuSetSourceAllowed
    rw [anySet_sourceRegion ⟨hpage.1, by omega⟩, anySet_sourceRegion hend]
    simp

/-! ## Copying -/

namespace CopyRanges

variable {memory : MemoryBus} {call : CpuSetCall}

theorem sourceUnit_aligned (h : CopyRanges memory call) (index : Nat) :
    (call.unitSource index).toNat % call.unitBytes = 0 := by
  have haligned := h.sourceAligned
  unfold CpuSetCall.unitSource
  split
  · exact haligned
  · rw [BitVec.toNat_add, BitVec.toNat_ofNat]
    rcases call.unitBytes_cases with hsize | hsize
    · rw [hsize] at haligned ⊢
      omega
    · rw [hsize] at haligned ⊢
      omega

theorem destUnit_aligned (h : CopyRanges memory call) (index : Nat) :
    (call.unitDest index).toNat % call.unitBytes = 0 := by
  have haligned := h.destAligned
  unfold CpuSetCall.unitDest
  rw [BitVec.toNat_add, BitVec.toNat_ofNat]
  rcases call.unitBytes_cases with hsize | hsize
  · rw [hsize] at haligned ⊢
    omega
  · rw [hsize] at haligned ⊢
    omega

theorem destUnit_internal (h : CopyRanges memory call) {index : Nat} (hindex : index < call.units) :
    Internal (call.unitDest index) := by
  obtain ⟨region, hregion, hrange⟩ := h.region
  refine internal_of_mem (by simpa using hregion) (hrange.within (index * call.unitBytes) ?_)
  refine Nat.mul_lt_mul_of_pos_right hindex ?_
  rcases call.unitBytes_cases with hsize | hsize
  · rw [hsize]
    exact Nat.succ_pos 3
  · rw [hsize]
    exact Nat.succ_pos 1

end CopyRanges

/-- Device time with no DMA channel enabled. -/
theorem CoreSession.advanceDevices_idle {session : CoreSession}
    (hlive : session.system.devices.Live) (hidle : session.system.devices.DmaIdle) (cycles : U32) :
    ∃ result next, session.advanceDevices cycles = some (result, next) ∧ next.cpu = session.cpu ∧
      next.system.memory = session.system.memory ∧ next.system.devices.Live ∧
      next.system.devices.DmaIdle := by
  obtain ⟨result, next, hadvance⟩ := advanceDevices_defined hlive cycles
  obtain ⟨hrun, hsystem⟩ := advanceDevices_advances hlive hidle hadvance
  obtain ⟨hliveNext, hidleNext⟩ := hrun.keeps hlive hidle
  refine ⟨result, next, hadvance, (advanceDevices_passed hadvance).cpu, ?_, hliveNext, hidleNext⟩
  rw [hsystem]

/-- What a copy has done with the units so far. -/
structure CpuSetRun.Copied {w : Nat} (before : CoreSession) (call : CpuSetCall) (size : Nat)
    (done : List (BitVec w)) (run : CpuSetRun) : Prop where
  cpu : run.session.cpu = before.cpu
  memory : run.session.system.memory =
    before.system.memory.storeBlock (lowBytes size done) call.dest
  live : run.session.system.devices.Live
  idle : run.session.system.devices.DmaIdle
  cycles : run.consumedCycles + run.pendingUnits * call.perUnitCycles =
    BitVec.ofNat 32 done.length * call.perUnitCycles

namespace CpuSetRun.Copied

variable {w size : Nat} {before : CoreSession} {call : CpuSetCall} {done : List (BitVec w)}
  {run : CpuSetRun}

/-- The pending cycles pass. -/
theorem settleChunk (h : run.Copied before call size done) :
    ∃ next, run.settleChunk call.perUnitCycles = some next ∧
      CpuSetRun.Copied before call size done next ∧ next.pendingUnits = 0 := by
  unfold CpuSetRun.settleChunk
  by_cases hnone : run.pendingUnits = 0
  · rw [if_pos hnone]
    exact ⟨run, rfl, h, hnone⟩
  · obtain ⟨result, next, hadvance, hcpu, hmemory, hlive, hidle⟩ :=
      CoreSession.advanceDevices_idle h.live h.idle (run.pendingUnits * call.perUnitCycles)
    rw [if_neg hnone]
    dsimp only
    rw [hadvance]
    refine ⟨_, rfl, ⟨hcpu.trans h.cpu, hmemory.trans h.memory, hlive, hidle, ?_⟩, rfl⟩
    show run.consumedCycles + run.pendingUnits * call.perUnitCycles + 0#32 * call.perUnitCycles = _
    rw [BitVec.zero_mul, BitVec.add_zero]
    exact h.cycles

/-- One more unit is stored. -/
theorem advanceUnit {value : BitVec w} (h : run.Copied before call size done) {memory : MemoryBus}
    (hmemory : memory = before.system.memory.storeBlock (lowBytes size (done ++ [value])) call.dest) :
    ∃ next, CpuSetRun.advanceUnit call.perUnitCycles
      { run with session := { run.session with system := run.session.system.withMemory memory } } =
        some next ∧ CpuSetRun.Copied before call size (done ++ [value]) next := by
  have hcounted : CpuSetRun.Copied before call size (done ++ [value])
      ⟨{ run.session with system := run.session.system.withMemory memory }, run.consumedCycles,
        run.pendingUnits + 1⟩ := by
    refine ⟨h.cpu, hmemory, h.live, h.idle, ?_⟩
    show run.consumedCycles + (run.pendingUnits + 1) * call.perUnitCycles = _
    calc run.consumedCycles + (run.pendingUnits + 1) * call.perUnitCycles
      _ = run.consumedCycles + run.pendingUnits * call.perUnitCycles + 1 * call.perUnitCycles := by
          rw [BitVec.add_mul, BitVec.add_assoc]
      _ = (BitVec.ofNat 32 done.length + 1) * call.perUnitCycles := by
          rw [h.cycles, BitVec.add_mul]
      _ = BitVec.ofNat 32 (done ++ [value]).length * call.perUnitCycles := by
          rw [List.length_append, BitVec.ofNat_add]
          rfl
  unfold CpuSetRun.advanceUnit
  dsimp only
  split
  · obtain ⟨next, hnext, hcopied, -⟩ := hcounted.settleChunk
    exact ⟨next, hnext, hcopied⟩
  · exact ⟨_, rfl, hcounted⟩

end CpuSetRun.Copied

theorem lowBytes_append {w : Nat} (size : Nat) (first second : List (BitVec w)) :
    lowBytes size (first ++ second) = lowBytes size first ++ lowBytes size second :=
  List.flatMap_append

theorem lowBytes_single {w : Nat} (size : Nat) (value : BitVec w) :
    lowBytes size [value] = (List.range size).map (byte value) :=
  List.append_nil _

section Units

variable {w size : Nat} {unit : CpuSetUnit (BitVec w)} {before : CoreSession} {call : CpuSetCall}
  {values : List (BitVec w)}

/-- The bytes of the destination that are stored already are none of a source unit. -/
theorem CpuSetRun.Copied.sameUnit {done : List (BitVec w)} {run : CpuSetRun}
    (h : run.Copied before call call.unitBytes done)
    (hranges : CopyRanges before.system.memory call) (hdone : done.length ≤ call.units)
    {index : Nat} (hindex : index < call.units) :
    SameUnit run.session.system.memory before.system.memory (call.unitSource index)
      call.unitBytes := by
  obtain ⟨region, hregion, hrange⟩ := hranges.region
  have hlength : (lowBytes call.unitBytes done).length ≤ call.units * call.unitBytes := by
    rw [length_lowBytes]
    exact Nat.mul_le_mul_right _ hdone
  have hstores := before.system.memory.storesBlock (by simpa using hregion) (hrange.take hlength)
  rw [h.memory]
  constructor
  · intro lane hlane
    exact hstores.others _ fun place hplace =>
      hranges.apart index hindex lane hlane place (hplace.trans_le hlength)
  · have houtside := hstores.outside
    unfold MemoryBus.SameOutside at houtside
    exact congrArg (·.gamePakRom) houtside

/-- A pass of the loop that reads and stores a unit. -/
theorem copyUnits_pass {α : Type} {unit : CpuSetUnit α} {index : U32} {count : Nat}
    {fillValue : Option α} {run : CpuSetRun} {value : α} {system : System}
    (hread : (if call.control.getLsbD 24 then
        fillValue.or (unit.read run.session.system call.source)
      else unit.read run.session.system (call.source + index * unit.size)) = some value)
    (hstore : unit.store (unit.storeAddress (call.dest + index * unit.size)) value
      run.session.system = (true, system)) :
    copyUnits call unit (count + 1) index fillValue run =
      (CpuSetRun.advanceUnit call.perUnitCycles
        { run with session := { run.session with system := system } }).bind
          (copyUnits call unit count (index + 1)
            (if call.control.getLsbD 24 then some value else none)) := by
  rw [copyUnits]
  dsimp only
  rw [hread]
  dsimp only
  rw [hstore]
  rfl

/-- A copy of units that are read as `values`. -/
theorem copyUnits_copied (hunit : CopiesBytes unit call.unitBytes)
    (hranges : CopyRanges before.system.memory call) (hlength : values.length = call.units)
    (hvalues : ∀ (index : Nat) (h : index < values.length),
      unit.read before.system (call.unitSource index) = some values[index])
    {done rest : List (BitVec w)} (hsplit : values = done ++ rest) {fillValue : Option (BitVec w)}
    (hfill : ∀ value ∈ fillValue, unit.read before.system call.source = some value)
    {run : CpuSetRun} (hrun : run.Copied before call call.unitBytes done) :
    ∃ next, copyUnits call unit rest.length (BitVec.ofNat 32 done.length) fillValue run =
        some (true, next) ∧ CpuSetRun.Copied before call call.unitBytes values next ∧
      next.pendingUnits = 0 := by
  induction rest generalizing done fillValue run with
  | nil =>
    rw [List.append_nil] at hsplit
    obtain ⟨next, hnext, hcopied, hpending⟩ := hrun.settleChunk
    refine ⟨next, ?_, hsplit ▸ hcopied, hpending⟩
    show (run.settleChunk call.perUnitCycles).map (fun run => (true, run)) = _
    rw [hnext]
    rfl
  | cons value rest ih =>
    have hindex : done.length < values.length := by
      rw [hsplit, List.length_append, List.length_cons]
      omega
    have hunits : done.length < call.units := hindex.trans_eq hlength
    have hvalue : unit.read before.system (call.unitSource done.length) = some value := by
      rw [hvalues _ hindex]
      simp [hsplit]
    have hoffset : BitVec.ofNat 32 done.length * unit.size =
        BitVec.ofNat 32 (done.length * call.unitBytes) := by
      rw [hunit.unitSize, ← BitVec.ofNat_mul]
    -- no store so far has changed the unit
    have hread : unit.read run.session.system (call.unitSource done.length) = some value := by
      rw [← hvalue]
      have hsame := hrun.sameUnit hranges hunits.le hunits
      exact hunit.read_congr (hranges.sourceUnit_aligned _)
        (readable_congr (hranges.readable _ hunits) hsame.rom.symm) hsame
    have hstep : (if call.control.getLsbD 24 then fillValue.or (unit.read run.session.system call.source)
        else unit.read run.session.system
          (call.source + BitVec.ofNat 32 done.length * unit.size)) = some value := by
      unfold CpuSetCall.unitSource at hread hvalue
      split
      · next hfilled =>
        rw [if_pos hfilled] at hread hvalue
        cases fillValue with
        | none => exact hread
        | some filled => exact (hfill filled rfl).symm.trans hvalue
      · next hfilled =>
        rw [if_neg hfilled] at hread
        rw [hoffset]
        exact hread
    have hinternal := hranges.destUnit_internal hunits
    have haligned := hranges.destUnit_aligned done.length
    have haddress : unit.storeAddress (call.dest + BitVec.ofNat 32 done.length * unit.size) =
        call.unitDest done.length := by
      rw [hoffset]
      exact hunit.storeAddress haligned hinternal
    have hmemory : run.session.system.memory.storeBlock
        ((List.range call.unitBytes).map (byte value)) (call.unitDest done.length) =
          before.system.memory.storeBlock (lowBytes call.unitBytes (done ++ [value])) call.dest := by
      rw [lowBytes_append, MemoryBus.storeBlock_append, ← hrun.memory, length_lowBytes,
        lowBytes_single]
      rfl
    obtain ⟨next, hnext, hcopied⟩ := hrun.advanceUnit hmemory
    have hlast := @ih (done ++ [value]) (by rw [hsplit, List.append_assoc]; rfl)
      (if call.control.getLsbD 24 then some value else none) (by
        intro filled hfilled
        split at hfilled
        · next hbit =>
          obtain rfl := Option.some.inj hfilled
          unfold CpuSetCall.unitSource at hvalue
          rw [if_pos hbit] at hvalue
          exact hvalue
        · exact absurd hfilled (Option.not_mem_none _)) next hcopied
    rw [List.length_append, BitVec.ofNat_add] at hlast
    rw [List.length_cons, copyUnits_pass hstep
      (by rw [haddress]; exact hunit.store _ _ haligned hinternal), hnext]
    exact hlast

/-- The destination holds units that are stored one after the other. -/
theorem CpuSetRun.Copied.read_dest {run : CpuSetRun}
    (h : run.Copied before call call.unitBytes values) (hunit : CopiesBytes unit call.unitBytes)
    (hranges : CopyRanges before.system.memory call) (hlength : values.length = call.units)
    {index : Nat} (hindex : index < values.length) :
    unit.read run.session.system (call.unitDest index) = some values[index] := by
  obtain ⟨region, hregion, hrange⟩ := hranges.region
  have hbytes : (lowBytes call.unitBytes values).length = call.units * call.unitBytes := by
    rw [length_lowBytes, hlength]
  have hunits : index < call.units := hindex.trans_eq hlength
  have hstores := before.system.memory.storesBlock (by simpa using hregion) (hrange.take hbytes.le)
  refine hunit.read_stored (hranges.destUnit_aligned index) (hranges.destUnit_internal hunits) ?_
  intro lane hlane
  have hplace : index * call.unitBytes + lane < (lowBytes call.unitBytes values).length := by
    rw [hbytes]
    calc index * call.unitBytes + lane
      _ < index * call.unitBytes + call.unitBytes := Nat.add_lt_add_left hlane _
      _ = (index + 1) * call.unitBytes := (Nat.succ_mul _ _).symm
      _ ≤ call.units * call.unitBytes := Nat.mul_le_mul_right _ hunits
  have hbyte := getD_lowBytes hindex hlane
  rw [List.getD_eq_getElem _ _ hplace, List.getD_eq_getElem _ _ hindex] at hbyte
  rw [h.memory]
  unfold CpuSetCall.unitDest
  rw [← offset_add, hstores.stored _ hplace, hbyte]

/-- A copy leaves the units of the source in the destination, and the cycles of the units pass. -/
theorem copyUnits_done (hunit : CopiesBytes unit call.unitBytes)
    (hwide : ∀ {system : System} {address : U32}, address.toNat % call.unitBytes = 0 →
      Readable system.memory address →
        call.readUnit system address = (unit.read system address).map (BitVec.setWidth 32))
    (hranges : CopyRanges before.system.memory call) (hlive : before.system.devices.Live)
    (hidle : before.system.devices.DmaIdle) :
    ∃ next, copyUnits call unit call.count.toNat 0 none ⟨before, 0, 0⟩ = some (true, next) ∧
      next.session.cpu = before.cpu ∧ CopyDone call before.system next.session.system ∧
      next.consumedCycles = call.count * call.perUnitCycles := by
  let source (index : Nat) : Option (BitVec w) := unit.read before.system (call.unitSource index)
  let values := (List.range call.units).map fun index => (source index).getD 0
  have hlength : values.length = call.units := by simp [values]
  have hvalues : ∀ (index : Nat) (h : index < values.length),
      unit.read before.system (call.unitSource index) = some values[index] := by
    intro index hindex
    obtain ⟨value, hvalue⟩ := hunit.read_defined (hranges.sourceUnit_aligned index)
      (hranges.readable index (hindex.trans_eq hlength))
    have hgetD : values[index] = (source index).getD 0 := by simp [values]
    rw [hgetD, hvalue]
    show some value = some ((unit.read before.system (call.unitSource index)).getD 0)
    rw [hvalue]
    rfl
  have hstart : CpuSetRun.Copied before call call.unitBytes ([] : List (BitVec w)) ⟨before, 0, 0⟩ :=
    ⟨rfl, rfl, hlive, hidle, by simp⟩
  -- the units are read from a source that no store of the copy reaches
  obtain ⟨next, hnext, hcopied, hpending⟩ :=
    @copyUnits_copied _ _ _ _ values hunit hranges hlength hvalues [] values rfl none
      (fun _ hnone => absurd hnone (Option.not_mem_none _)) _ hstart
  obtain ⟨region, hregion, hrange⟩ := hranges.region
  have hbytes : (lowBytes call.unitBytes values).length = call.units * call.unitBytes := by
    rw [length_lowBytes, hlength]
  have hstores := before.system.memory.storesBlock (by simpa using hregion) (hrange.take hbytes.le)
  refine ⟨next, ?_, hcopied.cpu, ⟨?_, ?_, ?_⟩, ?_⟩
  · rw [call.count_toNat, ← hlength]
    exact hnext
  · intro index hindex
    have hplace := hindex.trans_eq hlength.symm
    refine ⟨values[index].setWidth 32, ?_, ?_⟩
    · rw [hwide (hranges.sourceUnit_aligned index) (hranges.readable index hindex),
        hvalues index hplace]
      rfl
    · rw [hwide (hranges.destUnit_aligned index) (.inl (hranges.destUnit_internal hindex)),
        hcopied.read_dest hunit hranges hlength hplace]
      rfl
  · intro address haddress
    rw [hcopied.memory]
    exact hstores.others address fun place hplace => haddress place (hplace.trans_eq hbytes)
  · rw [hcopied.memory]
    exact hstores.outside
  · have hcycles := hcopied.cycles
    have hcount : BitVec.ofNat 32 call.units = call.count := by
      rw [← call.count_toNat, BitVec.ofNat_toNat, BitVec.setWidth_eq]
    rw [hpending, hlength, hcount] at hcycles
    exact Eq.trans (by simp) hcycles

end Units

/-! ## The charge of a copy -/

theorem CpuSetCall.baseCycles_eq {call : CpuSetCall} (h : call.refused = false) :
    call.baseCycles = call.callCycles + call.count * call.perUnitCycles := by
  unfold baseCycles callCycles perUnitCycles
  rw [h]
  split
  · contradiction
  split
  · rfl
  · rfl

/-- The cycles of a call stay far from a wrap. -/
theorem CpuSetCall.baseCycles_toNat {call : CpuSetCall} (h : call.refused = false) :
    call.baseCycles.toNat =
      call.callCycles.toNat + (call.count * call.perUnitCycles).toNat := by
  have hcount : call.count.toNat ≤ 2 ^ 21 := call.count_toNat.trans_le call.units_le
  have hunit : call.perUnitCycles.toNat ≤ 12 := by
    unfold perUnitCycles
    split_ifs <;> decide
  have hcall : call.callCycles.toNat ≤ 318 := by
    unfold callCycles
    split <;> decide
  have hcycles : (call.count * call.perUnitCycles).toNat ≤ 2 ^ 21 * 12 := by
    rw [BitVec.toNat_mul]
    exact (Nat.mod_le _ _).trans (Nat.mul_le_mul hcount hunit)
  rw [baseCycles_eq h, BitVec.toNat_add, Nat.mod_eq_of_lt (by omega)]

/-- `hle_cpu_set` copies, and the cycles of its units pass. -/
theorem hleCpuSet_done {call : CpuSetCall} {session : CoreSession}
    (hranges : CopyRanges session.system.memory call) (hlive : session.system.devices.Live)
    (hidle : session.system.devices.DmaIdle) :
    ∃ after, hleCpuSet call session = some (some (call.count * call.perUnitCycles), after) ∧
      after.cpu = session.cpu ∧ CopyDone call session.system after.system := by
  unfold hleCpuSet
  rw [if_neg (by rw [hranges.not_refused]; exact Bool.false_ne_true)]
  by_cases hword : call.word = true
  · have hsize : call.unitBytes = 4 := if_pos hword
    have hwide : ∀ {system : System} {address : U32}, address.toNat % call.unitBytes = 0 →
        Readable system.memory address →
          call.readUnit system address = (cpuSetWord.read system address).map (BitVec.setWidth 32) := by
      intro system address halign hread
      rw [hsize] at halign
      rw [cpuSetWord_read halign hread]
      unfold CpuSetCall.readUnit
      rw [if_pos hword]
      cases system.read32 ioCallbacks address with
      | none => rfl
      | some value => exact congrArg some (BitVec.setWidth_eq value).symm
    obtain ⟨next, hnext, hcpu, hdone, hcycles⟩ :=
      copyUnits_done (hsize ▸ cpuSetWord_copies) hwide hranges hlive hidle
    rw [if_pos hword, hnext]
    exact ⟨next.session, by rw [← hcycles]; rfl, hcpu, hdone⟩
  · have hsize : call.unitBytes = 2 := if_neg hword
    have hwide : ∀ {system : System} {address : U32}, address.toNat % call.unitBytes = 0 →
        Readable system.memory address →
          call.readUnit system address =
            (cpuSetHalfword.read system address).map (BitVec.setWidth 32) := by
      intro system address halign hread
      rw [hsize] at halign
      rw [cpuSetHalfword_read halign hread]
      unfold CpuSetCall.readUnit
      rw [if_neg hword]
    obtain ⟨next, hnext, hcpu, hdone, hcycles⟩ :=
      copyUnits_done (hsize ▸ cpuSetHalfword_copies) hwide hranges hlive hidle
    rw [if_neg hword, hnext]
    exact ⟨next.session, by rw [← hcycles]; rfl, hcpu, hdone⟩

/-- The adjustments of a copy are small. -/
theorem cpuSet_adjustment (swi : BiosSwiCall) (fetchAddress : U32) (waitcnt : WaitStateControl) :
    -9 ≤ hleSwiProfileAdjustment swi fetchAddress waitcnt .cpuSet ∧
      hleSwiProfileAdjustment swi fetchAddress waitcnt .cpuSet ≤ 21 := by
  have htable : ∀ source : BiosSwiSource, ∀ index < 8,
      -9 ≤ (hleRomAdjustments source .cpuSet).getD index 0 ∧
        (hleRomAdjustments source .cpuSet).getD index 0 ≤ 21 := by
    intro source
    cases source <;> decide
  have hprofile : hleRomWaitProfile waitcnt < 8 := by
    unfold hleRomWaitProfile
    split_ifs <;> decide
  unfold hleSwiProfileAdjustment
  dsimp only
  split
  · split <;> omega
  · exact htable _ _ hprofile
  · omega

theorem addHleProfileAdjustment_toNat {cycles : U32} {adjustment : Int}
    (hcycles : 64 ≤ cycles.toNat ∧ cycles.toNat ≤ 318) (h : -9 ≤ adjustment ∧ adjustment ≤ 21) :
    ((addHleProfileAdjustment cycles adjustment).toNat : Int) = cycles.toNat + adjustment := by
  have hmagnitude : (BitVec.ofNat 32 adjustment.natAbs : U32).toNat = adjustment.natAbs := by
    rw [BitVec.toNat_ofNat, Nat.mod_eq_of_lt (by omega)]
  unfold addHleProfileAdjustment
  dsimp only
  split
  · rw [BitVec.toNat_add, hmagnitude]
    omega
  · rw [if_pos (by rw [BitVec.lt_def, hmagnitude]; omega), BitVec.toNat_sub_of_le
      (by rw [BitVec.le_def, hmagnitude]; omega), hmagnitude]
    omega

/-- The number of a copy among the services. -/
def copyService (fast : Bool) : U8 := if fast then 0x0C#8 else 0x0B#8

/-- What a copy charges: the cycles that have passed while it ran are part of the base cost of the
registers it leaves, the difference is charged, and the two make up the base cost with the
adjustment of the call. -/
structure CopyCharged (fast : Bool) (session : CoreSession) (consumed : U32) (after : CoreSession) :
    Prop where
  consumed_le : consumed ≤ (CpuSetCall.ofRegisters fast after.cpu).baseCycles
  charged : ∀ (swi : BiosSwiCall) (fetchAddress : U32), session.bios.handlesSwi swi = true →
    swi.service = copyService fast → ∃ result,
      session.executeHleSwi swi fetchAddress = some (result, after) ∧ result.status = .executed ∧
        (consumed.toNat + result.elapsedCycles.toNat : Int) =
          (CpuSetCall.ofRegisters fast after.cpu).baseCycles.toNat +
            hleSwiProfileAdjustment swi fetchAddress after.system.devices.waitcnt .cpuSet

/-- `CpuSet` and `CpuFastSet` with no DMA channel enabled: the units of the control word are copied
or filled, no other byte changes, and the cycles that passed are not charged again. -/
theorem hleCpuSet_copies (fast : Bool) (session : CoreSession)
    (hranges : CopyRanges session.system.memory (.ofRegisters fast session.cpu))
    (hlive : session.system.devices.Live) (hidle : session.system.devices.DmaIdle) :
    ∃ consumed after,
      hleCpuSet (.ofRegisters fast session.cpu) session = some (some consumed, after) ∧
        CopyDone (.ofRegisters fast session.cpu) session.system after.system ∧
        CopyCharged fast session consumed after := by
  obtain ⟨after, hcopy, hcpu, hdone⟩ := hleCpuSet_done hranges hlive hidle
  refine ⟨_, after, hcopy, hdone, ?_⟩
  have hbase := CpuSetCall.baseCycles_toNat hranges.not_refused
  have hfixed : 64 ≤ (CpuSetCall.ofRegisters fast session.cpu).callCycles.toNat ∧
      (CpuSetCall.ofRegisters fast session.cpu).callCycles.toNat ≤ 318 := by
    unfold CpuSetCall.callCycles
    split <;> decide
  generalize hcall : CpuSetCall.ofRegisters fast session.cpu = call at *
  have hle : call.count * call.perUnitCycles ≤ call.baseCycles := by
    rw [BitVec.le_def]
    omega
  have hleft : (call.baseCycles - call.count * call.perUnitCycles).toNat =
      call.callCycles.toNat := by
    rw [BitVec.toNat_sub_of_le hle]
    omega
  constructor
  · rw [hcpu, hcall]
    exact hle
  · intro swi fetchAddress hhandles hservice
    have hserved : session.hleService (copyService fast) =
        some (some (call.baseCycles - call.count * call.perUnitCycles, .cpuSet), after) := by
      have hcopies : session.hleService (copyService fast) = session.servedCopy fast := by
        cases fast <;> rfl
      rw [hcopies]
      unfold CoreSession.servedCopy
      dsimp only
      rw [hcall, hcopy]
      rfl
    refine ⟨CoreSession.hleResult swi fetchAddress
      (some (call.baseCycles - call.count * call.perUnitCycles, .cpuSet), after), ?_, rfl, ?_⟩
    · unfold CoreSession.executeHleSwi
      rw [if_pos hhandles, hservice, hserved]
      rfl
    · have hadjusted := addHleProfileAdjustment_toNat (hleft.symm ▸ hfixed)
        (cpuSet_adjustment swi fetchAddress after.system.devices.waitcnt)
      rw [hleft] at hadjusted
      show (_ + ((addHleProfileAdjustment _ _).toNat : Int)) = _
      rw [hadjusted, hcpu, hcall, hbase]
      omega

/-- A session that is about to copy two halfwords from IWRAM to EWRAM. -/
def copyingSession : CoreSession :=
  let called := callSession [0x11#8, 0x22#8, 0x33#8, 0x44#8] 0x03000000#32 0x02000000#32
  { called with cpu := called.cpu.setRegister 2 0x2#32 }

theorem hleCpuSet_copies_halfwords :
    ∃ consumed after,
      hleCpuSet (.ofRegisters false copyingSession.cpu) copyingSession = some (some consumed, after) ∧
        CopyDone (.ofRegisters false copyingSession.cpu) copyingSession.system after.system ∧
        CopyCharged false copyingSession consumed after := by
  refine hleCpuSet_copies false copyingSession ⟨by decide, by decide, by decide, ?_, by decide⟩
    ⟨.reset, by decide⟩ (by unfold Devices.DmaIdle; decide)
  exact ⟨.ewram, rfl, by decide⟩

end Gba.Core
