import Gba.Core.MemoryCells

/-!
# Stores and the loads after them

What a store to an internal memory leaves for the loads: an aligned halfword or word is read back at
every mirror and in every smaller unit, and no other byte changes. A word stored across two words is
in its four bytes, while a load from its address reads the aligned word.
-/

namespace Gba.Core

open LittleEndian

namespace BusState

variable {σ : Type} (callbacks : MemoryBusIoCallbacks σ)

/-- A store put the `count` bytes of a value at an address and changed nothing else. -/
structure StoresUnit {w : Nat} (before after : BusState σ) (address : U32) (value : BitVec w)
    (count : Nat) : Prop where
  bytes : ∀ lane < count, ∀ other, Mirrors other (address + BitVec.ofNat 32 lane) →
    after.read8 callbacks other = some (byte value lane)
  halfwords : ∀ lane, lane % 2 = 0 → lane + 2 ≤ count → ∀ other,
    Mirrors other (address + BitVec.ofNat 32 lane) →
      after.read16 callbacks other = some ((value >>> (lane * 8)).setWidth 16)
  words : count = 4 → ∀ other, Mirrors other address →
    after.read32 callbacks other = some (value.setWidth 32)
  others : ∀ other, (∀ lane < count, ¬Mirrors other (address + BitVec.ofNat 32 lane)) →
    after.read8 callbacks other = before.read8 callbacks other
  memories : before.memory.SameOutside after.memory
  devices : after.devices = before.devices

variable {callbacks} (bus : BusState σ)

/-- Bytes outside the internal memories are read from what a store to these keeps. -/
theorem read8_sameOutside {memory : MemoryBus} (h : bus.memory.SameOutside memory) {address : U32}
    (haddress : ¬Internal address) :
    (bus.withMemory memory).read8 callbacks address = bus.read8 callbacks address := by
  have hrom := congrArg MemoryBus.gamePakRom h
  have hsave := congrArg MemoryBus.gamePakSave h
  have hdebug := congrArg MemoryBus.mgbaDebugString h
  dsimp only at hrom hsave hdebug
  have hregion : ¬(classify address).region.internal = true := haddress
  unfold read8 withMemory ioRead16 MemoryBus.romAt
  dsimp only
  rw [hrom, hsave, hdebug]
  revert hregion
  cases (classify address).region with
  | ewram | iwram | palette | vram | oam =>
    intro hregion
    exact absurd rfl hregion
  | _ =>
    intro _
    rfl

/-- The halfword at a place of a value. -/
theorem word_half {w : Nat} (value : BitVec w) (lane : Nat) :
    word 16 ((List.range 2).map fun index => byte value (lane + index)) =
      (value >>> (lane * 8)).setWidth 16 := by
  refine eq_of_byte_eq 2 rfl fun index hindex => ?_
  have hshift : byte (value >>> (lane * 8)) index = byte value (lane + index) := by
    unfold byte
    rw [← BitVec.shiftRight_add, Nat.add_mul]
  rw [byte_word_range _ hindex (by omega), byte_setWidth _ (by omega), hshift]

theorem lane_add (address : U32) (lane index : Nat) :
    address + BitVec.ofNat 32 lane + BitVec.ofNat 32 index = address + BitVec.ofNat 32 (lane + index) := by
  rw [BitVec.ofNat_add, BitVec.add_assoc]

/-- A unit inside one word, stored whole. -/
theorem storesUnit_writeCells {w : Nat} {address : U32} (h : Internal address) (value : BitVec w)
    {count : Nat} (halign : address.toNat % count = 0) (hcount : count = 2 ∨ count = 4)
    (hw : w = count * 8) :
    StoresUnit callbacks bus (bus.withMemory (bus.memory.writeCells value address count)) address
      value count := by
  have hfits : address.toNat % 4 + count ≤ 4 := by
    rcases hcount with rfl | rfl <;> omega
  have hlanes : ∀ lane < count, Internal (address + BitVec.ofNat 32 lane) :=
    fun lane hlane => h.lane (by omega)
  have hcell : ∀ lane < count, ∀ other, Mirrors other (address + BitVec.ofNat 32 lane) →
      (bus.memory.writeCells value address count).cell other = byte value lane :=
    fun lane hlane other hother =>
      bus.memory.cell_writeCells value h hfits hlane (mirrors_iff.mp hother).2
  refine ⟨?_, ?_, ?_, ?_, bus.memory.writeCells_sameOutside value address count, rfl⟩
  · intro lane hlane other hother
    rw [read8_cell _ _ hother.internal]
    exact congrArg some (hcell lane hlane other hother)
  · intro lane heven hlane other hother
    have hmod := hother.mod_four
    rw [toNat_add_lane (by omega)] at hmod
    have hmirrors : ∀ index < 2, Mirrors (other + BitVec.ofNat 32 index)
        (address + BitVec.ofNat 32 (lane + index)) := by
      intro index hindex
      rw [← lane_add]
      exact hother.lane (by rcases hcount with rfl | rfl <;> omega)
    have hcells := (bus.memory.writeCells value address count).cells_eq fun index hindex =>
      hcell (lane + index) (by omega) _ (hmirrors index hindex)
    rw [read16_cells _ _ hother.internal (by rcases hcount with rfl | rfl <;> omega), ← word_half]
    exact congrArg (fun bytes => some (word 16 bytes)) hcells
  · rintro rfl other hother
    subst hw
    have hmod := hother.mod_four
    have haligned : other.toNat % 4 = 0 := hmod.trans halign
    have hcells := (bus.memory.writeCells value address 4).cells_eq fun lane hlane =>
      hcell lane hlane _ (hother.lane (by omega))
    rw [read32_cells _ _ hother.internal, alignWord_of_aligned haligned, laneShift_eq, haligned]
    show some (rotateRight (word 32 ((bus.memory.writeCells value address 4).cells other 4)) 0) = _
    rw [rotateRight_zero, hcells]
    refine congrArg some ((word_byte 4 rfl value).trans ?_)
    exact (BitVec.setWidth_eq value).symm
  · intro other hother
    by_cases hinternal : Internal other
    · rw [read8_cell _ _ hinternal, read8_cell _ _ hinternal]
      refine congrArg some (bus.memory.cell_writeCells_of_ne value hlanes fun lane hlane hsame => ?_)
      exact hother lane hlane (mirrors_iff.mpr ⟨hinternal, hsame⟩)
    · exact bus.read8_sameOutside (bus.memory.writeCells_sameOutside value address count) hinternal

theorem writeDebug16_none {address : U32} (h : Internal address) (value : U16) :
    bus.writeDebug16 address value = none := by
  have hpage := Internal.page_ne h
  have hne : ∀ port : U32, port.toNat / 2 ^ 24 = 4 → address ≠ port := by
    rintro port hport rfl
    exact hpage hport
  unfold writeDebug16
  rw [if_neg (hne _ (by decide)), if_neg (hne _ (by decide)), if_neg, if_neg (hne _ (by decide))]
  rintro ⟨hstart, hend⟩
  exact not_debugRange hpage kMgbaDebugStringStart kMgbaDebugStringEnd (by decide) (by decide)
    ⟨hstart, BitVec.le_of_lt hend⟩

theorem writeDebug32_none {address : U32} (h : Internal address) (value : U32) :
    bus.writeDebug32 callbacks address value = none := by
  have hpage := Internal.page_ne h
  have hne : ∀ port : U32, port.toNat / 2 ^ 24 = 4 → address ≠ port := by
    rintro port hport rfl
    exact hpage hport
  unfold writeDebug32
  rw [if_neg (not_debugRange hpage _ _ (by decide) (by decide)), if_neg (hne _ (by decide)),
    if_neg (hne _ (by decide))]

/-- A halfword stored at an even address of an internal memory. -/
theorem write16_cells {address : U32} (h : Internal address) (heven : address.toNat % 2 = 0)
    (value : U16) :
    bus.write16 callbacks address value =
      (true, bus.withMemory (bus.memory.writeCells (value.setWidth 32) address 2)) := by
  have hunit := bus.writeUnit_cells callbacks (value.setWidth 32) h 2 (by omega) (by omega)
  have heven' : address % 2#32 = 0#32 := by bv_omega
  have hregion : (classify address).region.internal = true := h
  unfold write16
  dsimp only
  rw [writeDebug16_none bus h, hunit]
  revert hregion
  cases (classify address).region with
  | ewram | iwram | palette | vram | oam =>
    intro _
    simp [heven']
  | _ =>
    intro hregion
    contradiction

/-- A word stored at an aligned address of an internal memory. -/
theorem write32_cells {address : U32} (h : Internal address) (halign : address.toNat % 4 = 0)
    (value : U32) :
    bus.write32 callbacks address value =
      (true, bus.withMemory (bus.memory.writeCells value address 4)) := by
  have hunit := bus.writeUnit_cells callbacks value h 4 (by omega) (by omega)
  have halign' : address % 4#32 = 0#32 := by bv_omega
  have hregion : (classify address).region.internal = true := h
  unfold write32
  dsimp only
  rw [writeDebug32_none bus h, hunit]
  revert hregion
  cases (classify address).region with
  | ewram | iwram | palette | vram | oam =>
    intro _
    simp [halign']
  | _ =>
    intro hregion
    contradiction

theorem writeCells_setWidth (memory : MemoryBus) (value : U16) (address : U32) {count : Nat}
    (h : count ≤ 2) :
    memory.writeCells (value.setWidth 32) address count = memory.writeCells value address count := by
  induction count with
  | zero => rfl
  | succ count ih =>
    unfold MemoryBus.writeCells
    rw [ih (by omega), byte_setWidth _ (by omega)]

/-- An aligned store to an internal memory is read back at every mirror, and changes no other
byte. -/
theorem aligned_stores (callbacks : MemoryBusIoCallbacks σ) (bus : BusState σ) {region : Region}
    (hregion : region.internal = true) {address : U32}
    (hpage : address.toNat / 2 ^ 24 = region.page) :
    (∀ value : U16, address.toNat % 2 = 0 →
      (bus.write16 callbacks address value).1 = true ∧
        StoresUnit callbacks bus (bus.write16 callbacks address value).2 address value 2) ∧
    ∀ value : U32, address.toNat % 4 = 0 →
      (bus.write32 callbacks address value).1 = true ∧
        StoresUnit callbacks bus (bus.write32 callbacks address value).2 address value 4 := by
  have hinternal : Internal address := by
    unfold Internal
    rw [(classify_internal hregion hpage).1]
    exact hregion
  constructor
  · intro value halign
    rw [write16_cells bus hinternal halign, writeCells_setWidth _ _ _ le_rfl]
    exact ⟨rfl, bus.storesUnit_writeCells hinternal value halign (.inl rfl) rfl⟩
  · intro value halign
    rw [write32_cells bus hinternal halign]
    exact ⟨rfl, bus.storesUnit_writeCells hinternal value halign (.inr rfl) rfl⟩

end BusState

/-- A word at the start of the VRAM that is there twice is read at its mirror below. -/
theorem aligned_stores_upperVram :
    (BusState.write32 (⟨none, none, none, none⟩ : MemoryBusIoCallbacks Unit)
      ⟨MemoryBus.initial, ()⟩ 0x06018000#32 0x12345678#32).1 = true ∧
    BusState.StoresUnit (⟨none, none, none, none⟩ : MemoryBusIoCallbacks Unit)
      ⟨MemoryBus.initial, ()⟩
      (BusState.write32 (⟨none, none, none, none⟩ : MemoryBusIoCallbacks Unit)
        ⟨MemoryBus.initial, ()⟩ 0x06018000#32 0x12345678#32).2 0x06018000#32 0x12345678#32 4 :=
  (BusState.aligned_stores (⟨none, none, none, none⟩ : MemoryBusIoCallbacks Unit)
    ⟨MemoryBus.initial, ()⟩ (show Region.vram.internal = true from rfl) (by decide)).2 0x12345678#32 (by decide)

/-! ## Words across two words -/

namespace BusState

variable {σ : Type} (callbacks : MemoryBusIoCallbacks σ)

/-- A word store is read back from its address, in its bytes and as a word. -/
structure StoresWord (before after : BusState σ) (address value : U32) : Prop where
  bytes : ∀ lane < 4,
    after.read8 callbacks (address + BitVec.ofNat 32 lane) = some (byte value lane)
  word : after.read32 callbacks address = some value
  others : ∀ other, (∀ lane < 4, ¬Mirrors other (address + BitVec.ofNat 32 lane)) →
    after.read8 callbacks other = before.read8 callbacks other

variable {callbacks} (bus : BusState σ)

/-- The bytes of the aligned word that a load rotates. -/
theorem byte_rotated (memory : MemoryBus) (address : U32) {lane : Nat} (hlane : lane < 4) :
    byte (rotateRight (word 32 (memory.cells (alignWord address) 4)) (laneShift address)) lane =
      memory.cell (alignWord address + BitVec.ofNat 32 ((lane + address.toNat % 4) % 4)) := by
  have hlt : address.toNat % 4 < 4 := Nat.mod_lt _ (by omega)
  have hplace : (lane + address.toNat % 4) % 4 < 4 := Nat.mod_lt _ (by omega)
  unfold rotateRight MemoryBus.cells
  rw [laneShift_eq, Nat.mod_eq_of_lt (by omega), byte_rotateRight 4 rfl _ hlt hlane,
    byte_word_range _ hplace (by omega)]

section Word

variable {address : U32} (hram : ∀ lane < 4, InRam (address + BitVec.ofNat 32 lane)) (value : U32)

include hram

/-- The bytes of the aligned word before the address are not written. -/
theorem cell_below (memory : MemoryBus) {lane : Nat} (hlane : lane < 4)
    (hlow : 4 ≤ address.toNat % 4 + lane) :
    (memory.writeCells value address 4).cell (address + BitVec.ofNat 32 lane - 4) =
      memory.cell (address + BitVec.ofNat 32 lane - 4) := by
  have hfirst : InRam address := by simpa using hram 0 (by omega)
  have hfirst' := inRam_iff.mp hfirst
  have hnat : (address + BitVec.ofNat 32 lane - 4).toNat = address.toNat + lane - 4 := by
    bv_omega
  have hbelow : InRam (address + BitVec.ofNat 32 lane - 4) := by
    rw [inRam_iff, hnat]
    have hlanes := hram lane hlane
    omega
  refine memory.cell_writeCells_of_ne value
    (fun lane hlane => internal_of_inRam (hram lane hlane)) fun other hother => ?_
  have hlt := address.isLt
  have hadd : (address + BitVec.ofNat 32 other).toNat = address.toNat + other := by
    rw [BitVec.toNat_add, BitVec.toNat_ofNat]
    omega
  refine not_sameCell hbelow (hram other hother) ?_ ?_
  · intro heq
    have := congrArg BitVec.toNat heq
    omega
  · omega

/-- The bytes that are loaded after the store: the ones before the address come around at the top. -/
theorem byte_loaded (memory : MemoryBus) {lane : Nat} (hlane : lane < 4) :
    byte (rotateRight (word 32 ((memory.writeCells value address 4).cells (alignWord address) 4))
        (laneShift address)) lane =
      if 4 ≤ address.toNat % 4 + lane then
        memory.cell (address + BitVec.ofNat 32 lane - 4) else byte value lane := by
  have halign := alignWord_toNat address
  rw [byte_rotated _ _ hlane]
  split
  · next hlow =>
    have hplace : alignWord address + BitVec.ofNat 32 ((lane + address.toNat % 4) % 4) =
        address + BitVec.ofNat 32 lane - 4 := by
      have hmod : (lane + address.toNat % 4) % 4 = lane + address.toNat % 4 - 4 := by omega
      rw [hmod]
      refine BitVec.eq_of_toNat_eq ?_
      bv_omega
    rw [hplace]
    exact cell_below hram value memory hlane hlow
  · next hlow =>
    have hplace : alignWord address + BitVec.ofNat 32 ((lane + address.toNat % 4) % 4) =
        address + BitVec.ofNat 32 lane := by
      rw [Nat.mod_eq_of_lt (by omega)]
      refine BitVec.eq_of_toNat_eq ?_
      bv_omega
    rw [hplace]
    exact memory.cell_writeCells_ram value le_rfl hram hlane

theorem write32_ram_bytes {lane : Nat} (hlane : lane < 4) :
    (bus.write32 callbacks address value).2.read8 callbacks (address + BitVec.ofNat 32 lane) =
      some (byte value lane) := by
  rw [write32_ram callbacks bus value hram, read8_cell _ _ (internal_of_inRam (hram lane hlane))]
  exact congrArg some (bus.memory.cell_writeCells_ram value le_rfl hram hlane)

theorem write32_ram_others {other : U32}
    (hother : ∀ lane < 4, ¬Mirrors other (address + BitVec.ofNat 32 lane)) :
    (bus.write32 callbacks address value).2.read8 callbacks other = bus.read8 callbacks other := by
  rw [write32_ram callbacks bus value hram]
  show (bus.withMemory _).read8 callbacks other = _
  by_cases hinternal : Internal other
  · rw [read8_cell _ _ hinternal, read8_cell _ _ hinternal]
    have hcells : ∀ lane < 4, Internal (address + BitVec.ofNat 32 lane) :=
      fun lane hlane => internal_of_inRam (hram lane hlane)
    refine congrArg some (bus.memory.cell_writeCells_of_ne value hcells ?_)
    intro lane hlane hsame
    exact hother lane hlane (mirrors_iff.mpr ⟨hinternal, hsame⟩)
  · exact bus.read8_sameOutside (bus.memory.writeCells_sameOutside value address 4) hinternal

theorem write32_ram_word :
    (bus.write32 callbacks address value).2.read32 callbacks address = some value ↔
      ∀ lane < 4, 4 ≤ address.toNat % 4 + lane →
        bus.memory.cell (address + BitVec.ofNat 32 lane - 4) = byte value lane := by
  have hfirst : InRam address := by simpa using hram 0 (by omega)
  rw [write32_ram callbacks bus value hram, read32_cells callbacks _ (internal_of_inRam hfirst)]
  constructor
  · intro hword lane hlane hlow
    have hbyte := byte_loaded hram value bus.memory hlane
    rw [if_pos hlow] at hbyte
    rw [← hbyte]
    exact congrArg (byte · lane) (Option.some.inj hword)
  · intro hold
    refine congrArg some (eq_of_byte_eq 4 rfl fun lane hlane => ?_)
    refine (byte_loaded hram value bus.memory hlane).trans ?_
    split
    · next hlow => exact hold lane hlane hlow
    · rfl

end Word

/-- A word stored anywhere in EWRAM or IWRAM leaves its bytes at their addresses and every other byte
as it was. It is read back exactly when the bytes before its address in the aligned word already hold
its upper bytes: the load takes the aligned word and rotates it. -/
theorem write32_readsBack_iff (callbacks : MemoryBusIoCallbacks σ) (bus : BusState σ)
    {region : Region} (hregion : region = .ewram ∨ region = .iwram) {address : U32}
    (hpage : ∀ lane < 4, (address + BitVec.ofNat 32 lane).toNat / 2 ^ 24 = region.page)
    (value : U32) :
    (∀ lane < 4, (bus.write32 callbacks address value).2.read8 callbacks
        (address + BitVec.ofNat 32 lane) = some (byte value lane)) ∧
      (∀ other, (∀ lane < 4, ¬Mirrors other (address + BitVec.ofNat 32 lane)) →
        (bus.write32 callbacks address value).2.read8 callbacks other =
          bus.read8 callbacks other) ∧
      (StoresWord callbacks bus (bus.write32 callbacks address value).2 address value ↔
        ∀ lane < 4, 4 ≤ address.toNat % 4 + lane →
          bus.memory.cell (address + BitVec.ofNat 32 lane - 4) = byte value lane) := by
  have hram : ∀ lane < 4, InRam (address + BitVec.ofNat 32 lane) := by
    intro lane hlane
    rw [inRam_iff]
    rcases hregion with rfl | rfl
    · exact .inl (hpage lane hlane)
    · exact .inr (hpage lane hlane)
  refine ⟨fun lane hlane => write32_ram_bytes bus hram value hlane,
    fun other hother => write32_ram_others bus hram value hother, ?_⟩
  rw [← write32_ram_word bus hram value]
  exact ⟨StoresWord.word, fun hword => ⟨fun lane hlane => write32_ram_bytes bus hram value hlane,
    hword, fun other hother => write32_ram_others bus hram value hother⟩⟩

/-- The word stored one byte after a word is not the one loaded from there. -/
theorem not_storesWord :
    ¬StoresWord (⟨none, none, none, none⟩ : MemoryBusIoCallbacks Unit) ⟨MemoryBus.initial, ()⟩
      (BusState.write32 (⟨none, none, none, none⟩ : MemoryBusIoCallbacks Unit)
        ⟨MemoryBus.initial, ()⟩ 0x02000001#32 0x12345678#32).2 0x02000001#32 0x12345678#32 := by
  intro h
  have hword := h.word
  revert hword
  decide +kernel

/-- A word whose upper byte is already there. -/
theorem write32_readsBack_upperByte :
    StoresWord (⟨none, none, none, none⟩ : MemoryBusIoCallbacks Unit) ⟨MemoryBus.initial, ()⟩
      (BusState.write32 (⟨none, none, none, none⟩ : MemoryBusIoCallbacks Unit)
        ⟨MemoryBus.initial, ()⟩ 0x02000001#32 0x00345678#32).2 0x02000001#32 0x00345678#32 :=
  (write32_readsBack_iff (⟨none, none, none, none⟩ : MemoryBusIoCallbacks Unit)
    ⟨MemoryBus.initial, ()⟩ (.inl rfl) (by decide) 0x00345678#32).2.2.mpr (by decide)

end BusState

end Gba.Core
