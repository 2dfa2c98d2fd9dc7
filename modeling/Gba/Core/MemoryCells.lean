import Gba.Core.WorkRam
import Gba.Library.LittleEndian

/-!
# The internal memories

EWRAM, IWRAM, the palette, VRAM and OAM as bytes by address. An address of one of them leads to a
byte of its memory, and so do the mirrors of that address; the loads of every width read these
bytes, and the aligned halfword and word stores write them, by whichever path.
-/

namespace Gba.Core

open LittleEndian

/-! ## Addresses -/

/-- The regions with a memory on the bus. -/
def Region.internal : Region → Bool
  | .ewram | .iwram | .palette | .vram | .oam => true
  | .bios | .io | .gamePakRom | .gamePakSave | .unknown => false

/-- The upper byte of the addresses of an internal memory. -/
def Region.page : Region → Nat
  | .ewram => 2
  | .iwram => 3
  | .palette => 5
  | .vram => 6
  | .oam => 7
  | .bios | .io | .gamePakRom | .gamePakSave | .unknown => 0

/-- The byte of an internal memory that an address leads to: the memories repeat, VRAM every 128 KiB
with its last 32 KiB twice. -/
def Region.fold : Region → Nat → Nat
  | .ewram, address => address % 2 ^ 18
  | .iwram, address => address % 2 ^ 15
  | .palette, address => address % 2 ^ 10
  | .vram, address =>
      if 0x18000 ≤ address % 2 ^ 17 then address % 2 ^ 17 - 0x8000 else address % 2 ^ 17
  | .oam, address => address % 2 ^ 10
  | .bios, _ | .io, _ | .gamePakRom, _ | .gamePakSave, _ | .unknown, _ => 0

/-- An address of an internal memory. -/
def Internal (address : U32) : Prop := (classify address).region.internal = true

instance internal_decidable (address : U32) : Decidable (Internal address) := by
  unfold Internal
  infer_instance

/-- An address lies on the page of a memory exactly when the bus takes it there. -/
theorem classify_internal {region : Region} (h : region.internal = true) {address : U32}
    (hpage : address.toNat / 2 ^ 24 = region.page) :
    (classify address).region = region ∧ (classify address).writable = true ∧
      (classify address).offset.toNat = region.fold address.toNat := by
  have htop : (address >>> 24).toNat = region.page := by
    rw [BitVec.toNat_ushiftRight, Nat.shiftRight_eq_div_pow]
    exact hpage
  have hmask : ∀ bits, bits ≤ 24 →
      (address.toNat &&& (2 ^ 24 - 1)) &&& (2 ^ bits - 1) = address.toNat % 2 ^ bits := by
    intro bits hbits
    rw [Nat.and_two_pow_sub_one_eq_mod, Nat.and_two_pow_sub_one_eq_mod]
    exact Nat.mod_mod_of_dvd _ (Nat.pow_dvd_pow 2 hbits)
  unfold classify
  dsimp only
  rw [htop]
  cases region with
  | ewram =>
    refine ⟨rfl, rfl, ?_⟩
    show (address &&& 0x00FFFFFF#32 &&& 0x3FFFF#32).toNat = _
    rw [BitVec.toNat_and, BitVec.toNat_and]
    exact hmask 18 (by omega)
  | iwram =>
    refine ⟨rfl, rfl, ?_⟩
    show (address &&& 0x00FFFFFF#32 &&& 0x7FFF#32).toNat = _
    rw [BitVec.toNat_and, BitVec.toNat_and]
    exact hmask 15 (by omega)
  | palette =>
    refine ⟨rfl, rfl, ?_⟩
    show (address &&& 0x00FFFFFF#32 &&& 0x3FF#32).toNat = _
    rw [BitVec.toNat_and, BitVec.toNat_and]
    exact hmask 10 (by omega)
  | vram =>
    have hbank : (address &&& 0x00FFFFFF#32 &&& 0x1FFFF#32).toNat = address.toNat % 2 ^ 17 := by
      rw [BitVec.toNat_and, BitVec.toNat_and]
      exact hmask 17 (by omega)
    refine ⟨rfl, rfl, ?_⟩
    show BitVec.toNat (ite _ _ _) = ite _ _ _
    rw [← hbank]
    generalize address &&& 0x00FFFFFF#32 &&& 0x1FFFF#32 = bank
    split <;> split <;> bv_omega
  | oam =>
    refine ⟨rfl, rfl, ?_⟩
    show (address &&& 0x00FFFFFF#32 &&& 0x3FF#32).toNat = _
    rw [BitVec.toNat_and, BitVec.toNat_and]
    exact hmask 10 (by omega)
  | _ => contradiction

theorem Internal.page {address : U32} (h : Internal address) :
    address.toNat / 2 ^ 24 = (classify address).region.page := by
  have htop : (address >>> 24).toNat = address.toNat / 2 ^ 24 := by
    rw [BitVec.toNat_ushiftRight, Nat.shiftRight_eq_div_pow]
  revert h
  unfold Internal
  rw [← htop]
  unfold classify
  dsimp only
  split
  case h_5 =>
    intro h
    split at h <;> contradiction
  all_goals
    intro h
    first
    | contradiction
    | next heq => exact heq

theorem Internal.writable {address : U32} (h : Internal address) :
    (classify address).writable = true := (classify_internal h h.page).2.1

theorem Internal.offset {address : U32} (h : Internal address) :
    (classify address).offset.toNat = (classify address).region.fold address.toNat :=
  (classify_internal h h.page).2.2

namespace BusState

theorem internal_of_inRam {address : U32} (h : InRam address) : Internal address := by
  unfold Internal
  rcases h with h | h
  · rw [h]
    rfl
  · rw [h]
    rfl

end BusState

/-- An address is a mirror of another: both lead to one byte of one memory. -/
def Mirrors (a b : U32) : Prop :=
  ∃ region : Region, region.internal = true ∧ a.toNat / 2 ^ 24 = region.page ∧
    b.toNat / 2 ^ 24 = region.page ∧ region.fold a.toNat = region.fold b.toNat

theorem Internal.mirrors {address : U32} (h : Internal address) : Mirrors address address :=
  ⟨_, h, h.page, h.page, rfl⟩

/-- Mirrors are the addresses that the bus takes to one byte. -/
theorem mirrors_iff {a b : U32} : Mirrors a b ↔ Internal a ∧ SameCell a b := by
  constructor
  · rintro ⟨region, hregion, ha, hb, hfold⟩
    obtain ⟨haRegion, -, haOffset⟩ := classify_internal hregion ha
    obtain ⟨hbRegion, -, hbOffset⟩ := classify_internal hregion hb
    have hinternal : Internal a := by
      unfold Internal
      rw [haRegion]
      exact hregion
    refine ⟨hinternal, haRegion.trans hbRegion.symm, BitVec.eq_of_toNat_eq ?_⟩
    rw [haOffset, hbOffset]
    exact hfold
  · rintro ⟨ha, hregion, hoffset⟩
    have hb : Internal b := by
      unfold Internal
      rw [← hregion]
      exact ha
    have hfold := congrArg BitVec.toNat hoffset
    rw [ha.offset, hb.offset, ← hregion] at hfold
    refine ⟨_, ha, ha.page, ?_, hfold⟩
    rw [hb.page, hregion]

theorem Mirrors.internal {a b : U32} (h : Mirrors a b) : Internal a := (mirrors_iff.mp h).1

/-- A byte of the same word at a distance. -/
theorem toNat_add_lane {address : U32} {lane : Nat} (h : address.toNat % 4 + lane < 4) :
    (address + BitVec.ofNat 32 lane).toNat = address.toNat + lane := by
  have hlt := address.isLt
  rw [BitVec.toNat_add, BitVec.toNat_ofNat]
  omega

/-- The bytes of an aligned unit are consecutive in their memory. -/
theorem Region.fold_add (region : Region) (h : region.internal = true) {address lane : Nat}
    (hlane : address % 4 + lane < 4) :
    region.fold (address + lane) = region.fold address + lane := by
  cases region with
  | vram =>
    unfold Region.fold
    dsimp only
    have hbank : (address + lane) % 2 ^ 17 = address % 2 ^ 17 + lane := by omega
    rw [hbank]
    split <;> split <;> omega
  | ewram | iwram | palette | oam =>
    unfold Region.fold
    dsimp only
    omega
  | _ => contradiction

/-- Two bytes of one word are no mirrors of each other. -/
theorem Region.fold_mod (region : Region) (h : region.internal = true) (address : Nat) :
    region.fold address % 4 = address % 4 := by
  cases region with
  | vram =>
    unfold Region.fold
    dsimp only
    split <;> omega
  | ewram | iwram | palette | oam =>
    unfold Region.fold
    dsimp only
    omega
  | _ => contradiction

theorem Mirrors.mod_four {a b : U32} (h : Mirrors a b) : a.toNat % 4 = b.toNat % 4 := by
  obtain ⟨region, hregion, -, -, hfold⟩ := h
  rw [← region.fold_mod hregion a.toNat, hfold, region.fold_mod hregion]

/-- Mirrored units have mirrored bytes. -/
theorem Mirrors.lane {a b : U32} (h : Mirrors a b) {lane : Nat} (hlane : a.toNat % 4 + lane < 4) :
    Mirrors (a + BitVec.ofNat 32 lane) (b + BitVec.ofNat 32 lane) := by
  have hmod := h.mod_four
  have hb : b.toNat % 4 + lane < 4 := by omega
  obtain ⟨region, hregion, hapage, hbpage, hfold⟩ := h
  refine ⟨region, hregion, ?_, ?_, ?_⟩
  · rw [toNat_add_lane hlane]
    omega
  · rw [toNat_add_lane hb]
    omega
  · rw [toNat_add_lane hlane, toNat_add_lane hb, region.fold_add hregion hlane,
      region.fold_add hregion hb, hfold]

theorem Internal.lane {address : U32} (h : Internal address) {lane : Nat}
    (hlane : address.toNat % 4 + lane < 4) : Internal (address + BitVec.ofNat 32 lane) :=
  (h.mirrors.lane hlane).internal

/-- The bytes of an aligned unit in the address map. -/
theorem Internal.classify_lane {address : U32} (h : Internal address) {lane : Nat}
    (hlane : address.toNat % 4 + lane < 4) :
    (classify (address + BitVec.ofNat 32 lane)).region = (classify address).region ∧
      (classify (address + BitVec.ofNat 32 lane)).offset =
        (classify address).offset + BitVec.ofNat 32 lane := by
  have hpage : (address + BitVec.ofNat 32 lane).toNat / 2 ^ 24 = (classify address).region.page := by
    rw [toNat_add_lane hlane, ← h.page]
    omega
  obtain ⟨hregion, -, hoffset⟩ := classify_internal h hpage
  have hsize := classify_offset_lt (address + BitVec.ofNat 32 lane)
  have hbound : regionSize (classify (address + BitVec.ofNat 32 lane)).region ≤ 2 ^ 32 := by
    generalize (classify (address + BitVec.ofNat 32 lane)).region = region
    cases region <;> decide
  refine ⟨hregion, BitVec.eq_of_toNat_eq ?_⟩
  rw [hoffset, toNat_add_lane hlane, Region.fold_add _ h hlane] at hsize ⊢
  rw [BitVec.toNat_add, BitVec.toNat_ofNat, h.offset]
  omega

/-! ## Bytes -/

namespace MemoryBus

/-- The byte of an internal memory that a classified address names. -/
def cellAt (bus : MemoryBus) (info : AddressInfo) : U8 :=
  match info.region with
  | .ewram => byteAt bus.ewram info.offset
  | .iwram => byteAt bus.iwram info.offset
  | .palette => byteAt bus.palette info.offset
  | .vram => byteAt bus.vram info.offset
  | .oam => byteAt bus.oam info.offset
  | .bios | .io | .gamePakRom | .gamePakSave | .unknown => 0

/-- The memory with that byte replaced. -/
def setCellAt (bus : MemoryBus) (info : AddressInfo) (value : U8) : MemoryBus :=
  match info.region with
  | .ewram => { bus with ewram := setByte bus.ewram info.offset value }
  | .iwram => { bus with iwram := setByte bus.iwram info.offset value }
  | .palette => { bus with palette := setByte bus.palette info.offset value }
  | .vram => { bus with vram := setByte bus.vram info.offset value }
  | .oam => { bus with oam := setByte bus.oam info.offset value }
  | .bios | .io | .gamePakRom | .gamePakSave | .unknown => bus

/-- The byte of an internal memory at an address. -/
def cell (bus : MemoryBus) (address : U32) : U8 := bus.cellAt (classify address)

/-- The memory with the low `count` bytes of a value at consecutive addresses. -/
def writeCells {w : Nat} (bus : MemoryBus) (value : BitVec w) (address : U32) : Nat → MemoryBus
  | 0 => bus
  | count + 1 =>
      (bus.writeCells value address count).setCellAt (classify (address + BitVec.ofNat 32 count))
        (byte value count)

theorem cellAt_setCellAt (bus : MemoryBus) {info : AddressInfo} (h : info.region.internal = true)
    (hoffset : info.offset.toNat < regionSize info.region) (value : U8) (other : AddressInfo) :
    (bus.setCellAt info value).cellAt other =
      if other.region = info.region ∧ other.offset = info.offset then value
      else bus.cellAt other := by
  obtain ⟨region, offset, writable, mirrored⟩ := info
  obtain ⟨otherRegion, otherOffset, otherWritable, otherMirrored⟩ := other
  dsimp only at h hoffset ⊢
  by_cases hregion : otherRegion = region
  · subst hregion
    unfold cellAt setCellAt
    cases otherRegion with
    | ewram | iwram | palette | vram | oam =>
      refine (byteAt_setByte _ hoffset value otherOffset).trans ?_
      simp only [true_and]
      rfl
    | _ => contradiction
  · rw [if_neg fun hsame => hregion hsame.1]
    unfold cellAt setCellAt
    cases region <;> cases otherRegion <;> first | rfl | contradiction

/-- The memories agree outside the internal ones. -/
def SameOutside (before after : MemoryBus) : Prop :=
  { after with
    ewram := before.ewram
    iwram := before.iwram
    palette := before.palette
    vram := before.vram
    oam := before.oam } = before

theorem SameOutside.trans {first second third : MemoryBus} (h : SameOutside first second)
    (h' : SameOutside second third) : SameOutside first third := by
  unfold SameOutside at h h' ⊢
  conv_rhs => rw [← h, ← h']

theorem setCellAt_sameOutside (bus : MemoryBus) (info : AddressInfo) (value : U8) :
    SameOutside bus (bus.setCellAt info value) := by
  obtain ⟨region, offset, writable, mirrored⟩ := info
  cases region <;> rfl

theorem writeCells_sameOutside {w : Nat} (bus : MemoryBus) (value : BitVec w) (address : U32)
    (count : Nat) : SameOutside bus (bus.writeCells value address count) := by
  induction count with
  | zero => rfl
  | succ count ih => exact ih.trans (setCellAt_sameOutside _ _ _)

theorem cell_writeCells_succ {w : Nat} (bus : MemoryBus) (value : BitVec w) {address : U32}
    {count : Nat} (h : Internal (address + BitVec.ofNat 32 count)) (other : U32) :
    (bus.writeCells value address (count + 1)).cell other =
      if SameCell other (address + BitVec.ofNat 32 count) then byte value count
      else (bus.writeCells value address count).cell other :=
  cellAt_setCellAt _ h (classify_offset_lt _) _ _

/-- Bytes away from a stored unit keep their value. -/
theorem cell_writeCells_of_ne {w : Nat} (bus : MemoryBus) (value : BitVec w) {address : U32}
    {count : Nat} (hcells : ∀ lane < count, Internal (address + BitVec.ofNat 32 lane)) {other : U32}
    (hother : ∀ lane < count, ¬SameCell other (address + BitVec.ofNat 32 lane)) :
    (bus.writeCells value address count).cell other = bus.cell other := by
  induction count with
  | zero => rfl
  | succ count ih =>
    rw [cell_writeCells_succ _ _ (hcells count (Nat.lt_succ_self count)),
      if_neg (hother count (Nat.lt_succ_self count))]
    exact ih (fun lane hlane => hcells lane (Nat.lt_succ_of_lt hlane))
      fun lane hlane => hother lane (Nat.lt_succ_of_lt hlane)

/-- The bytes of a stored unit, at any mirror of it. -/
theorem cell_writeCells {w : Nat} (bus : MemoryBus) (value : BitVec w) {address : U32}
    {count lane : Nat} (h : Internal address) (hcount : address.toNat % 4 + count ≤ 4)
    (hlane : lane < count) {other : U32}
    (hother : SameCell other (address + BitVec.ofNat 32 lane)) :
    (bus.writeCells value address count).cell other = byte value lane := by
  induction count with
  | zero => omega
  | succ count ih =>
    have hlast : Internal (address + BitVec.ofNat 32 count) := h.lane (by omega)
    rw [cell_writeCells_succ _ _ hlast]
    by_cases heq : lane = count
    · subst heq
      exact if_pos hother
    · have hne : ¬SameCell other (address + BitVec.ofNat 32 count) := by
        intro hsame
        have hmirror : Mirrors (address + BitVec.ofNat 32 count) (address + BitVec.ofNat 32 lane) :=
          mirrors_iff.mpr ⟨hlast, hsame.1.symm.trans hother.1, hsame.2.symm.trans hother.2⟩
        have hmod := hmirror.mod_four
        rw [toNat_add_lane (by omega), toNat_add_lane (by omega)] at hmod
        omega
      rw [if_neg hne]
      exact ih (by omega) (by omega)

/-- The bytes of a unit stored in RAM, whatever its alignment. -/
theorem cell_writeCells_ram {w : Nat} (bus : MemoryBus) (value : BitVec w) {address : U32}
    {count lane : Nat} (hcount : count ≤ 4)
    (hram : ∀ lane < count, InRam (address + BitVec.ofNat 32 lane)) (hlane : lane < count) :
    (bus.writeCells value address count).cell (address + BitVec.ofNat 32 lane) =
      byte value lane := by
  induction count with
  | zero => omega
  | succ count ih =>
    have hlast := hram count (Nat.lt_succ_self count)
    rw [cell_writeCells_succ _ _ (BusState.internal_of_inRam hlast)]
    by_cases heq : lane = count
    · subst heq
      exact if_pos ⟨rfl, rfl⟩
    · rw [if_neg (not_sameCell_of_offset (hram lane hlane) hlast (by omega) (by omega) heq)]
      exact ih (by omega) (fun lane hlane => hram lane (Nat.lt_succ_of_lt hlane)) (by omega)

/-- The bytes at consecutive addresses. -/
def cells (bus : MemoryBus) (address : U32) (count : Nat) : List U8 :=
  (List.range count).map fun lane => bus.cell (address + BitVec.ofNat 32 lane)

theorem cells_eq (bus : MemoryBus) {address : U32} {count : Nat} {byte : Nat → U8}
    (h : ∀ lane < count, bus.cell (address + BitVec.ofNat 32 lane) = byte lane) :
    bus.cells address count = (List.range count).map byte :=
  List.map_congr_left fun lane hlane => h lane (List.mem_range.mp hlane)

theorem cell_lane (bus : MemoryBus) {address : U32} (h : Internal address) {lane : Nat}
    (hlane : address.toNat % 4 + lane < 4) :
    bus.cell (address + BitVec.ofNat 32 lane) =
      bus.cellAt ⟨(classify address).region, (classify address).offset + BitVec.ofNat 32 lane, true,
        false⟩ := by
  obtain ⟨hregion, hoffset⟩ := h.classify_lane hlane
  unfold cell cellAt
  rw [hregion, hoffset]

theorem halfwordAt_eq (bus : MemoryBus) {n : Nat} {bytes : Fin n → U8} {address offset : U32}
    (h : ∀ lane < 2, bus.cell (address + BitVec.ofNat 32 lane) =
      byteAt bytes (offset + BitVec.ofNat 32 lane)) :
    halfwordAt bytes offset = word 16 (bus.cells address 2) := by
  have h0 : bus.cell (address + BitVec.ofNat 32 0) = byteAt bytes offset := by
    simpa using h 0 (by omega)
  have h1 : bus.cell (address + BitVec.ofNat 32 1) = byteAt bytes (offset + 1) := h 1 (by omega)
  show _ = word 16 [bus.cell (address + BitVec.ofNat 32 0), bus.cell (address + BitVec.ofNat 32 1)]
  rw [word_two, h0, h1]
  rfl

theorem wordAt_eq (bus : MemoryBus) {n : Nat} {bytes : Fin n → U8} {address offset : U32}
    (h : ∀ lane < 4, bus.cell (address + BitVec.ofNat 32 lane) =
      byteAt bytes (offset + BitVec.ofNat 32 lane)) :
    wordAt bytes offset = word 32 (bus.cells address 4) := by
  have h0 : bus.cell (address + BitVec.ofNat 32 0) = byteAt bytes offset := by
    simpa using h 0 (by omega)
  have h1 : bus.cell (address + BitVec.ofNat 32 1) = byteAt bytes (offset + 1) := h 1 (by omega)
  have h2 : bus.cell (address + BitVec.ofNat 32 2) = byteAt bytes (offset + 2) := h 2 (by omega)
  have h3 : bus.cell (address + BitVec.ofNat 32 3) = byteAt bytes (offset + 3) := h 3 (by omega)
  show _ = word 32 [bus.cell (address + BitVec.ofNat 32 0), bus.cell (address + BitVec.ofNat 32 1),
    bus.cell (address + BitVec.ofNat 32 2), bus.cell (address + BitVec.ofNat 32 3)]
  rw [word_four, h0, h1, h2, h3]
  rfl

end MemoryBus

/-! ## Loads -/

namespace BusState

variable {σ : Type} (callbacks : MemoryBusIoCallbacks σ) (bus : BusState σ)

/-- No debug port is among the internal memories. -/
theorem Internal.page_ne {address : U32} (h : Internal address) : address.toNat / 2 ^ 24 ≠ 4 := by
  have hregion : (classify address).region.internal = true := h
  rw [h.page]
  revert hregion
  cases (classify address).region <;> decide

theorem not_debugRange {address : U32} (h : address.toNat / 2 ^ 24 ≠ 4) (start stop : U32)
    (hstart : start.toNat / 2 ^ 24 = 4) (hstop : stop.toNat / 2 ^ 24 = 4) :
    ¬(start ≤ address ∧ address ≤ stop) := by
  rintro ⟨hle, hge⟩
  have hle := BitVec.le_def.mp hle
  have hge := BitVec.le_def.mp hge
  omega

theorem not_debugIdRange {address : U32} (h : address.toNat / 2 ^ 24 ≠ 4) :
    ¬(kNoCashGbaDebugIdStart ≤ address ∧ address < kNoCashGbaDebugIdStart + 7) := by
  rintro ⟨hle, hlt⟩
  exact not_debugRange h kNoCashGbaDebugIdStart (kNoCashGbaDebugIdStart + 7) (by decide) (by decide)
    ⟨hle, BitVec.le_of_lt hlt⟩

theorem read8_cell {address : U32} (h : Internal address) :
    bus.read8 callbacks address = some (bus.memory.cell address) := by
  have hpage := Internal.page_ne h
  have hregion : (classify address).region.internal = true := h
  unfold read8 MemoryBus.cell MemoryBus.cellAt
  rw [if_neg (not_debugIdRange hpage), if_neg (not_debugRange hpage _ _ (by decide) (by decide))]
  dsimp only
  revert hregion
  cases (classify address).region <;> intro hregion <;> first | rfl | contradiction

/-- An aligned halfword of an internal memory. -/
theorem read16_cells {address : U32} (h : Internal address) (heven : address.toNat % 2 = 0) :
    bus.read16 callbacks address = some (word 16 (bus.memory.cells address 2)) := by
  have hlane : ∀ lane < 2, address.toNat % 4 + lane < 4 := by
    intro lane hlane
    omega
  have heven' : ¬address % 2 ≠ 0 := by
    rw [not_not]
    bv_omega
  have hdebug : address ≠ kMgbaDebugEnable := by
    rintro rfl
    exact absurd (Internal.page_ne h) (by decide)
  have hcells : ∀ lane < 2, _ := fun lane hlt => bus.memory.cell_lane h (hlane lane hlt)
  have hregion : (classify address).region.internal = true := h
  unfold read16
  dsimp only
  rw [if_neg heven', if_neg hdebug]
  unfold MemoryBus.cellAt at hcells
  dsimp only at hcells
  revert hcells hregion
  generalize (classify address).offset = offset
  cases (classify address).region with
  | ewram | iwram | palette | vram | oam =>
    intro hcells hregion
    rw [← bus.memory.halfwordAt_eq hcells]
    simp
  | _ =>
    intro hcells hregion
    contradiction

/-- A word of an internal memory: the aligned word, rotated. -/
theorem read32_cells {address : U32} (h : Internal address) :
    bus.read32 callbacks address =
      some (rotateRight (word 32 (bus.memory.cells (alignWord address) 4)) (laneShift address)) := by
  have halign := alignWord_toNat address
  have hpage : (classify (alignWord address)).region = (classify address).region := by
    have hpage : (alignWord address).toNat / 2 ^ 24 = (classify address).region.page := by
      rw [halign, ← h.page]
      omega
    exact (classify_internal h hpage).1
  have haligned : Internal (alignWord address) := by
    unfold Internal
    rw [hpage]
    exact h
  have hlane : ∀ lane < 4, (alignWord address).toNat % 4 + lane < 4 := by
    intro lane hlane
    omega
  have hcells : ∀ lane < 4, _ := fun lane hlt => bus.memory.cell_lane haligned (hlane lane hlt)
  have hregion : (classify address).region.internal = true := h
  unfold read32
  dsimp only
  rw [hpage] at hcells ⊢
  unfold MemoryBus.cellAt at hcells
  dsimp only at hcells
  revert hcells hregion
  generalize (classify (alignWord address)).offset = offset
  cases (classify address).region with
  | ewram | iwram | palette | vram | oam =>
    intro hcells hregion
    rw [← bus.memory.wordAt_eq hcells]
    simp
  | _ =>
    intro hcells hregion
    contradiction

/-! ## Stores -/

theorem write8_ram {address : U32} (h : InRam address) (value : U8) :
    bus.write8 callbacks address value =
      (true, bus.withMemory (bus.memory.setCellAt (classify address) value)) := by
  have hlt := lt_of_inRam h
  have hdebug : bus.memory.writeDebug8 address value = none := by
    unfold MemoryBus.writeDebug8
    rw [if_neg, if_neg]
    · rintro rfl
      exact absurd hlt (by decide)
    · rintro ⟨hstart, -⟩
      exact absurd (BitVec.le_def.mp hstart) (Nat.not_le_of_lt (lt_trans hlt (by decide)))
  have hwritable := (classify_of_inRam h).2
  unfold write8
  rw [hdebug]
  unfold MemoryBus.setCellAt write8Memory
  rcases h with h | h
  · simp [h, hwritable]
  · simp [h, hwritable]

theorem writeBytes_ram (value address : U32) {count : Nat}
    (h : ∀ lane < count, InRam (address + BitVec.ofNat 32 lane)) :
    writeBytes callbacks value address count (true, bus) =
      (true, bus.withMemory (bus.memory.writeCells value address count)) := by
  induction count with
  | zero => rfl
  | succ count ih =>
    unfold writeBytes
    rw [ih fun lane hlane => h lane (Nat.lt_succ_of_lt hlane)]
    exact write8_ram callbacks _ (h count (Nat.lt_succ_self count)) _

/-- A word stored in RAM: its four bytes, whatever the alignment. -/
theorem write32_ram (value : U32) {address : U32}
    (h : ∀ lane < 4, InRam (address + BitVec.ofNat 32 lane)) :
    bus.write32 callbacks address value =
      (true, bus.withMemory (bus.memory.writeCells value address 4)) := by
  have hfirst : InRam address := by simpa using h 0 (by decide)
  have hlt := lt_of_inRam hfirst
  have hdebug : bus.writeDebug32 callbacks address value = none := by
    unfold writeDebug32
    rw [if_neg, if_neg, if_neg]
    · rintro rfl
      exact absurd hlt (by decide)
    · rintro rfl
      exact absurd hlt (by decide)
    · rintro ⟨hstart, -⟩
      exact absurd (BitVec.le_def.mp hstart) (Nat.not_le_of_lt (lt_trans hlt (by decide)))
  have hwritable : ∀ lane < 4, (classify (address + BitVec.ofNat 32 lane)).writable = true :=
    fun lane hlane => (classify_of_inRam (h lane hlane)).2
  have hbytes := writeBytes_ram callbacks bus value address h
  have hunit : bus.writeUnit callbacks address value 4 =
      writeBytes callbacks value address 4 (true, bus) := by
    have hall : (List.range 4).all (fun index =>
        (classify (address + BitVec.ofNat 32 index)).writable) = true := by
      rw [List.all_eq_true]
      exact fun lane hlane => hwritable lane (List.mem_range.mp hlane)
    have hnone (region : Region) (hregion : region ≠ .ewram ∧ region ≠ .iwram) :
        (List.range 4).all (fun index =>
          decide ((classify (address + BitVec.ofNat 32 index)).region = region)) = false := by
      refine List.all_eq_false.mpr ⟨0, by decide, ?_⟩
      have hzero := h 0 (by decide)
      rcases hzero with hzero | hzero
      · rw [hzero]
        simpa using hregion.1.symm
      · rw [hzero]
        simpa using hregion.2.symm
    unfold writeUnit
    simp only [hall, hnone .palette (by decide), hnone .vram (by decide), hnone .oam (by decide),
      Bool.not_true, Bool.false_eq_true, if_false]
  unfold write32
  rw [hdebug, hunit, hbytes]
  rcases hfirst with hregion | hregion <;> simp [hregion]

/-- Stores to the array of one memory store a unit: `put` is the memory around the array. -/
theorem put_setBytes {n : Nat} (put : (Fin n → U8) → MemoryBus) (bytes : Fin n → U8) (value : U32)
    {address : U32} {count : Nat}
    (h : ∀ lane < count, ∀ bytes byte,
      put (setByte bytes (classify (address + BitVec.ofNat 32 lane)).offset byte) =
        (put bytes).setCellAt (classify (address + BitVec.ofNat 32 lane)) byte) :
    put (setBytes bytes (fun index => (classify (address + BitVec.ofNat 32 index)).offset) value
      count) = (put bytes).writeCells value address count := by
  induction count with
  | zero => rfl
  | succ count ih =>
    unfold MemoryBus.writeCells
    rw [← ih fun lane hlane => h lane (Nat.lt_succ_of_lt hlane)]
    exact h count (Nat.lt_succ_self count) _ _

/-- A unit inside one word stores its bytes, by whichever path. -/
theorem writeUnit_cells (value : U32) {address : U32} (h : Internal address) (count : Nat)
    (hcount : address.toNat % 4 + count ≤ 4) (hpos : 0 < count) :
    bus.writeUnit callbacks address value count =
      (true, bus.withMemory (bus.memory.writeCells value address count)) := by
  have hlane : ∀ lane < count, address.toNat % 4 + lane < 4 := by
    intro lane hlane
    omega
  -- no unit crosses into another region, so that one test of the region decides for all its bytes
  have hregions : ∀ lane < count, (classify (address + BitVec.ofNat 32 lane)).region =
      (classify address).region := fun lane hlt => (h.classify_lane (hlane lane hlt)).1
  have hwritable : (List.range count).all (fun index =>
      (classify (address + BitVec.ofNat 32 index)).writable) = true := by
    rw [List.all_eq_true]
    exact fun lane hlt => (h.lane (hlane lane (List.mem_range.mp hlt))).writable
  have hall : ∀ region, (List.range count).all (fun index =>
      decide ((classify (address + BitVec.ofNat 32 index)).region = region)) =
      decide ((classify address).region = region) := by
    intro region
    by_cases heq : (classify address).region = region
    · rw [decide_eq_true heq, List.all_eq_true]
      exact fun lane hlt =>
        decide_eq_true ((hregions lane (List.mem_range.mp hlt)).trans heq)
    · rw [decide_eq_false heq, List.all_eq_false]
      refine ⟨0, List.mem_range.mpr hpos, ?_⟩
      rw [hregions 0 hpos, decide_eq_false heq]
      exact Bool.false_ne_true
  have hinternal : (classify address).region.internal = true := h
  unfold writeUnit
  simp only [hwritable, hall, Bool.not_true, Bool.false_eq_true, if_false, decide_eq_true_eq]
  cases hregion : (classify address).region with
  | ewram | iwram =>
    have hram : ∀ lane < count, InRam (address + BitVec.ofNat 32 lane) := by
      intro lane hlt
      unfold InRam
      rw [hregions lane hlt, hregion]
      simp
    simpa using writeBytes_ram callbacks bus value address hram
  | palette =>
    have hput := put_setBytes (fun palette => { bus.memory with palette := palette })
      bus.memory.palette value fun lane hlt bytes byte => by
        unfold MemoryBus.setCellAt
        rw [hregions lane hlt, hregion]
    simpa using congrArg bus.withMemory hput
  | vram =>
    have hput := put_setBytes (fun vram => { bus.memory with vram := vram })
      bus.memory.vram value fun lane hlt bytes byte => by
        unfold MemoryBus.setCellAt
        rw [hregions lane hlt, hregion]
    simpa using congrArg bus.withMemory hput
  | oam =>
    have hput := put_setBytes (fun oam => { bus.memory with oam := oam })
      bus.memory.oam value fun lane hlt bytes byte => by
        unfold MemoryBus.setCellAt
        rw [hregions lane hlt, hregion]
    simpa using congrArg bus.withMemory hput
  | _ =>
    rw [hregion] at hinternal
    contradiction

end BusState

end Gba.Core
