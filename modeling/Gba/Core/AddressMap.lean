import Gba.Core.Words

/-!
# The address map

The stateless part of `MemoryBus`: which region an address falls into, and at which offset. The
offset of a region with backing memory is always below the size of that memory
(`classify_offset_lt`).
-/

namespace Gba.Core

/-- `Region`. -/
inductive Region where
  | bios
  | ewram
  | iwram
  | io
  | palette
  | vram
  | oam
  | gamePakRom
  | gamePakSave
  | unknown
  deriving DecidableEq, Repr

/-- `AccessWidth`. -/
inductive AccessWidth where
  | byte
  | halfword
  | word
  deriving DecidableEq, Repr

/-- `CartridgeWindow`. -/
inductive CartridgeWindow where
  | none
  | romWait0
  | romWait1
  | romWait2
  | save
  deriving DecidableEq, Repr

/-- `AddressInfo`. -/
@[ext]
structure AddressInfo where
  region : Region
  offset : U32
  writable : Bool
  mirrored : Bool
  deriving DecidableEq, Repr

/-- `MemoryAccessTiming`. -/
@[ext]
structure MemoryAccessTiming where
  nonsequential : U8
  sequential : U8
  readable : Bool
  writable : Bool
  deriving DecidableEq, Repr

/-- `kEwramSize`. -/
abbrev kEwramSize : Nat := 256 * 1024
/-- `kIwramSize`. -/
abbrev kIwramSize : Nat := 32 * 1024
/-- `kPaletteSize`. -/
abbrev kPaletteSize : Nat := 1024
/-- `kVramSize`. -/
abbrev kVramSize : Nat := 96 * 1024
/-- `kOamSize`. -/
abbrev kOamSize : Nat := 1024
/-- `kGamePakRomWindowSize`. -/
abbrev kGamePakRomWindowSize : Nat := 32 * 1024 * 1024
/-- `kGamePakSaveWindowSize`. -/
abbrev kGamePakSaveWindowSize : Nat := 64 * 1024
/-- `kBiosEnd`. -/
def kBiosEnd : U32 := 0x00003FFF#32

/-- `MemoryBus::classify`. -/
def classify (address : U32) : AddressInfo :=
  let offset := address &&& 0x00FFFFFF#32
  match (address >>> 24).toNat with
  | 0 | 1 => ⟨.bios, address, false, kBiosEnd < address⟩
  | 2 => ⟨.ewram, offset &&& 0x3FFFF#32, true, 0x40000#32 ≤ offset⟩
  | 3 => ⟨.iwram, offset &&& 0x7FFF#32, true, 0x8000#32 ≤ offset⟩
  | 4 => if offset ≤ 0x3FE#32 then ⟨.io, offset, false, false⟩ else ⟨.unknown, 0, false, false⟩
  | 5 => ⟨.palette, offset &&& 0x3FF#32, true, 0x400#32 ≤ offset⟩
  | 6 =>
      let bank := offset &&& 0x1FFFF#32
      ⟨.vram, if 0x18000#32 ≤ bank then bank - 0x8000#32 else bank, true, 0x18000#32 ≤ offset⟩
  | 7 => ⟨.oam, offset &&& 0x3FF#32, true, 0x400#32 ≤ offset⟩
  | 8 | 9 | 10 | 11 | 12 | 13 =>
      ⟨.gamePakRom, address &&& 0x1FFFFFF#32, false, 0x0A000000#32 ≤ address⟩
  | 14 | 15 =>
      ⟨.gamePakSave, offset &&& 0xFFFF#32, false,
        0x0F000000#32 ≤ address || 0x10000#32 ≤ offset⟩
  | _ => ⟨.unknown, 0, false, false⟩

/-- The size of the memory behind a region; regions without a fixed memory have no bound. -/
def regionSize : Region → Nat
  | .ewram => kEwramSize
  | .iwram => kIwramSize
  | .palette => kPaletteSize
  | .vram => kVramSize
  | .oam => kOamSize
  | .gamePakRom => kGamePakRomWindowSize
  | .gamePakSave => kGamePakSaveWindowSize
  | .io => 0x3FF
  | .bios | .unknown => 2 ^ 32

/-- An offset masked with a power of two is below it. -/
theorem and_mask_toNat_lt {value mask : U32} {n : Nat} (h : mask.toNat < n) :
    (value &&& mask).toNat < n := by
  rw [BitVec.toNat_and]
  exact lt_of_le_of_lt Nat.and_le_right h

/-- Every offset is inside the memory of its region. -/
theorem classify_offset_lt (address : U32) :
    (classify address).offset.toNat < regionSize (classify address).region := by
  have hmask : ∀ (value mask : U32) (n : Nat), mask.toNat < n → (value &&& mask).toNat < n :=
    fun _ _ _ => and_mask_toNat_lt
  unfold classify
  dsimp only
  split
  case h_5 =>
      split
      · next h => exact Nat.lt_succ_of_le (BitVec.le_def.mp h)
      · exact Nat.two_pow_pos 32
  case h_7 =>
      have hbank : (address &&& 0x00FFFFFF#32 &&& 0x1FFFF#32).toNat < 0x20000 :=
        hmask _ _ _ (by decide)
      show BitVec.toNat (ite _ _ _) < 0x18000
      split <;> bv_omega
  all_goals
    first
    | exact BitVec.isLt address
    | exact Nat.two_pow_pos 32
    | exact hmask _ _ _ (by simp [regionSize])

/-- The addresses of the I/O registers. -/
theorem classify_io_iff (address : U32) :
    (classify address).region = .io ↔
      address.toNat / 2 ^ 24 = 4 ∧ address.toNat % 2 ^ 24 ≤ 0x3FE := by
  have htop : (address >>> 24).toNat = address.toNat / 2 ^ 24 := by
    rw [BitVec.toNat_ushiftRight, Nat.shiftRight_eq_div_pow]
  have hoffset : (address &&& 0x00FFFFFF#32).toNat = address.toNat % 2 ^ 24 := by
    rw [BitVec.toNat_and]
    exact Nat.and_two_pow_sub_one_eq_mod _ 24
  unfold classify
  dsimp only
  rw [htop]
  split
  case h_5 heq =>
    rw [heq, ← hoffset]
    split
    · next hle => exact iff_of_true rfl ⟨rfl, BitVec.le_def.mp hle⟩
    · next hle => exact iff_of_false (by decide) fun h => hle (BitVec.le_def.mpr h.2)
  case h_17 =>
    refine iff_of_false (by simp) fun h => ?_
    simp_all
  all_goals
    refine iff_of_false (by simp) fun h => ?_
    omega

/-- `describe_cartridge`, of which only the window selects wait states. -/
def cartridgeWindow (address : U32) : CartridgeWindow :=
  if 0x08000000#32 ≤ address ∧ address ≤ 0x09FFFFFF#32 then .romWait0
  else if 0x0A000000#32 ≤ address ∧ address ≤ 0x0BFFFFFF#32 then .romWait1
  else if 0x0C000000#32 ≤ address ∧ address ≤ 0x0DFFFFFF#32 then .romWait2
  else if 0x0E000000#32 ≤ address ∧ address ≤ 0x0FFFFFFF#32 then .save
  else .none

end Gba.Core
