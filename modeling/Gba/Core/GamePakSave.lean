import Gba.Core.Words

/-!
# Cartridge save memory

The cartridge-backed save of `MemoryBus`: its type, contents and flash command state, with the
writes that a game can make to it. No write changes the type or the size (`Sized`).
-/

namespace Gba.Core

/-- `GamePakSaveType`. -/
inductive GamePakSaveType where
  | none
  | sram32k
  | flash64k
  | flash128k
  | eeprom512
  | eeprom8k
  deriving DecidableEq, Repr

/-- `save_size_for_type`. -/
def saveSizeForType : GamePakSaveType → Nat
  | .none => 0
  | .sram32k => 32 * 1024
  | .flash64k => 64 * 1024
  | .flash128k => 128 * 1024
  | .eeprom512 => 512
  | .eeprom8k => 8 * 1024

/-- `FlashCommandState`. -/
inductive FlashCommandState where
  | idle
  | unlock1
  | unlock2
  | programData
  | eraseUnlock1
  | eraseUnlock2
  | eraseCommand
  | bankSelect
  deriving DecidableEq, Repr

/-- `kFlashUnlockAddress1`. -/
def kFlashUnlockAddress1 : Nat := 0x5555
/-- `kFlashUnlockAddress2`. -/
def kFlashUnlockAddress2 : Nat := 0x2AAA
/-- `kFlashBankSelectAddress`. -/
def kFlashBankSelectAddress : Nat := 0x0000
/-- `kFlashBankSize`. -/
def kFlashBankSize : Nat := 64 * 1024
/-- `kFlashSectorSize`. -/
def kFlashSectorSize : Nat := 4 * 1024
/-- `kFlashManufacturerId`. -/
def kFlashManufacturerId : U8 := 0xC2
/-- `kFlash64DeviceId`. -/
def kFlash64DeviceId : U8 := 0x1C
/-- `kFlash128DeviceId`. -/
def kFlash128DeviceId : U8 := 0x09

/-- The save memory of the cartridge. -/
@[ext]
structure GamePakSave where
  saveType : GamePakSaveType
  data : List U8
  flashCommandState : FlashCommandState
  flashIdMode : Bool
  flashBank : U8
  deriving DecidableEq

namespace GamePakSave

/-- `reset_flash_protocol`. -/
def resetFlashProtocol (s : GamePakSave) : GamePakSave :=
  { s with flashIdMode := false, flashCommandState := .idle }

/-- `clear_game_pak_save`. -/
def clear (s : GamePakSave) : GamePakSave :=
  { s with data := [], saveType := .none, flashBank := 0 }.resetFlashProtocol

/-- `configure_game_pak_save`: a fresh save is erased. It always succeeds, since the size is zero
for the type `none` only. -/
def configure (s : GamePakSave) (type : GamePakSaveType) : GamePakSave :=
  if saveSizeForType type = 0 then s.clear
  else
    { s with
      saveType := type, data := List.replicate (saveSizeForType type) 0xFF
      flashBank := 0 }.resetFlashProtocol

/-- `has_game_pak_save`. -/
def present (s : GamePakSave) : Bool := s.saveType != .none && !s.data.isEmpty

/-- `import_game_pak_save`: only contents of exactly the size of the type are accepted. -/
def importSave (s : GamePakSave) (type : GamePakSaveType) (data : List U8) :
    Option GamePakSave :=
  if saveSizeForType type = 0 ∨ data.length ≠ saveSizeForType type then none
  else some { s with saveType := type, data := data, flashBank := 0 }.resetFlashProtocol

/-- `export_game_pak_save`. -/
def exportSave (s : GamePakSave) : List U8 := s.data

/-- `is_flash_save`. -/
def isFlash (s : GamePakSave) : Bool := s.saveType = .flash64k || s.saveType = .flash128k

/-- `game_pak_save_supports_memory_aperture`. -/
def supportsMemoryAperture (s : GamePakSave) : Bool :=
  s.present && (s.saveType = .sram32k || s.saveType = .flash64k || s.saveType = .flash128k)

/-- `flash_effective_offset`. -/
def flashEffectiveOffset (s : GamePakSave) (apertureOffset : Nat) : Nat :=
  (if s.saveType = .flash128k then s.flashBank.toNat * kFlashBankSize else 0) +
    apertureOffset % kFlashBankSize

/-- The `data_` member at an offset; the offsets that the callers compute are inside it
(`Sized`). -/
def dataAt (s : GamePakSave) (offset : Nat) : U8 := s.data.getD offset 0

/-- `read_flash_byte`, for a flash save that is present. -/
def readFlashByte (s : GamePakSave) (apertureOffset : Nat) : U8 :=
  if s.flashIdMode then
    let idOffset := apertureOffset % kFlashBankSize
    if idOffset = 0 then kFlashManufacturerId
    else if idOffset = 1 then
      if s.saveType = .flash128k then kFlash128DeviceId else kFlash64DeviceId
    else 0xFF
  else s.dataAt (s.flashEffectiveOffset apertureOffset)

/-- `read_game_pak_save_byte`. -/
def readByte (s : GamePakSave) (apertureOffset : Nat) : Option U8 :=
  if !s.supportsMemoryAperture then none
  else if s.isFlash then some (s.readFlashByte apertureOffset)
  else some (s.dataAt (apertureOffset % s.data.length))

/-- `std::fill_n` with the erased value. -/
def eraseRange (data : List U8) (start count : Nat) : List U8 :=
  data.take start ++ List.replicate (min count (data.length - start)) 0xFF ++
    data.drop (start + count)

/-- `write_flash_byte`, for a flash save that is present: the save and whether the write was
accepted. -/
def writeFlashByte (s : GamePakSave) (apertureOffset : Nat) (value : U8) : GamePakSave × Bool :=
  let commandOffset := apertureOffset % kFlashBankSize
  match s.flashCommandState with
  | .idle =>
      if value = 0xF0 then (s.resetFlashProtocol, true)
      else if commandOffset = kFlashUnlockAddress1 ∧ value = 0xAA then
        ({ s with flashCommandState := .unlock1 }, true)
      else (s, false)
  | .unlock1 =>
      if commandOffset = kFlashUnlockAddress2 ∧ value = 0x55 then
        ({ s with flashCommandState := .unlock2 }, true)
      else (s.resetFlashProtocol, false)
  | .unlock2 =>
      if commandOffset ≠ kFlashUnlockAddress1 then (s.resetFlashProtocol, false)
      else if value = 0x90 then
        ({ s with flashIdMode := true, flashCommandState := .idle }, true)
      else if value = 0xA0 then ({ s with flashCommandState := .programData }, true)
      else if value = 0x80 then ({ s with flashCommandState := .eraseUnlock1 }, true)
      else if value = 0xB0 then ({ s with flashCommandState := .bankSelect }, true)
      else if value = 0xF0 then (s.resetFlashProtocol, true)
      else (s.resetFlashProtocol, false)
  | .programData =>
      let offset := s.flashEffectiveOffset apertureOffset
      ({ s with data := s.data.modify offset (· &&& value), flashCommandState := .idle }, true)
  | .eraseUnlock1 =>
      if commandOffset = kFlashUnlockAddress1 ∧ value = 0xAA then
        ({ s with flashCommandState := .eraseUnlock2 }, true)
      else (s.resetFlashProtocol, false)
  | .eraseUnlock2 =>
      if commandOffset = kFlashUnlockAddress2 ∧ value = 0x55 then
        ({ s with flashCommandState := .eraseCommand }, true)
      else (s.resetFlashProtocol, false)
  | .eraseCommand =>
      if commandOffset = kFlashUnlockAddress1 ∧ value = 0x10 then
        ({ s with
            data := List.replicate s.data.length 0xFF
            flashCommandState := .idle }, true)
      else if value = 0x30 then
        let sectorStart :=
          s.flashEffectiveOffset apertureOffset / kFlashSectorSize * kFlashSectorSize
        ({ s with
            data := eraseRange s.data sectorStart kFlashSectorSize
            flashCommandState := .idle }, true)
      else (s.resetFlashProtocol, false)
  | .bankSelect =>
      if commandOffset = kFlashBankSelectAddress then
        ({ s with
            flashBank := if s.saveType = .flash128k then value &&& 0x01 else 0
            flashCommandState := .idle }, true)
      else (s.resetFlashProtocol, false)

/-- `write_game_pak_save_byte`: a game writes to the save region. -/
def writeByte (s : GamePakSave) (apertureOffset : Nat) (value : U8) : GamePakSave × Bool :=
  if !s.supportsMemoryAperture then (s, false)
  else if s.isFlash then s.writeFlashByte apertureOffset value
  else ({ s with data := s.data.set (apertureOffset % s.data.length) value }, true)

/-- The contents have the size of the type, and only a 128 KiB flash has a second bank. -/
structure Sized (s : GamePakSave) : Prop where
  length_eq : s.data.length = saveSizeForType s.saveType
  bank_le : s.flashBank ≤ 1
  bank_eq : s.saveType ≠ .flash128k → s.flashBank = 0

theorem sized_configure (s : GamePakSave) (type : GamePakSaveType) : (s.configure type).Sized := by
  unfold configure clear resetFlashProtocol
  split
  · exact ⟨rfl, by bv_omega, fun _ => rfl⟩
  · exact ⟨List.length_replicate, by bv_omega, fun _ => rfl⟩

theorem importSave_eq_some {s t : GamePakSave} {type : GamePakSaveType} {data : List U8}
    (h : s.importSave type data = some t) :
    t.saveType = type ∧ t.data = data ∧ data.length = saveSizeForType type ∧ t.Sized := by
  unfold importSave at h
  split at h
  · contradiction
  next hsize =>
    rw [not_or, not_not] at hsize
    obtain rfl := Option.some.inj h
    exact ⟨rfl, rfl, hsize.2, hsize.2, by simp [resetFlashProtocol], fun _ => rfl⟩

theorem length_eraseRange (data : List U8) {start count : Nat} :
    (eraseRange data start count).length = data.length := by
  simp only [eraseRange, List.length_append, List.length_take, List.length_replicate,
    List.length_drop]
  omega

/-- A flash command keeps the length, whatever the state. -/
theorem length_writeFlashByte (s : GamePakSave) (offset : Nat) (value : U8) :
    (s.writeFlashByte offset value).1.data.length = s.data.length := by
  unfold writeFlashByte
  cases s.flashCommandState with
  | programData => exact List.length_modify _ _ _
  | eraseCommand =>
      dsimp only
      split_ifs
      · exact List.length_replicate
      · exact length_eraseRange _
      · rfl
  | _ => dsimp only; split_ifs <;> rfl

/-- A write of the game keeps the length, whatever the state. -/
theorem length_writeByte (s : GamePakSave) (offset : Nat) (value : U8) :
    (s.writeByte offset value).1.data.length = s.data.length := by
  unfold writeByte
  split_ifs
  · rfl
  · exact length_writeFlashByte s offset value
  · exact List.length_set

/-- A flash command keeps the type and the size. -/
theorem Sized.writeFlashByte {s : GamePakSave} (h : s.Sized) (offset : Nat) (value : U8) :
    (s.writeFlashByte offset value).1.saveType = s.saveType ∧
      (s.writeFlashByte offset value).1.Sized := by
  obtain ⟨hlen, hle, hbank⟩ := h
  unfold GamePakSave.writeFlashByte
  cases s.flashCommandState with
  | idle => dsimp only; split_ifs <;> exact ⟨rfl, hlen, hle, hbank⟩
  | unlock1 => dsimp only; split_ifs <;> exact ⟨rfl, hlen, hle, hbank⟩
  | unlock2 => dsimp only; split_ifs <;> exact ⟨rfl, hlen, hle, hbank⟩
  | programData => exact ⟨rfl, (List.length_modify _ _ _).trans hlen, hle, hbank⟩
  | eraseUnlock1 => dsimp only; split_ifs <;> exact ⟨rfl, hlen, hle, hbank⟩
  | eraseUnlock2 => dsimp only; split_ifs <;> exact ⟨rfl, hlen, hle, hbank⟩
  | eraseCommand =>
      dsimp only
      split_ifs
      · exact ⟨rfl, List.length_replicate.trans hlen, hle, hbank⟩
      · exact ⟨rfl, (length_eraseRange _).trans hlen, hle, hbank⟩
      · exact ⟨rfl, hlen, hle, hbank⟩
  | bankSelect =>
      dsimp only
      split_ifs with hoffset htype
      · refine ⟨rfl, hlen, ?_, fun hne => absurd htype hne⟩
        rw [BitVec.le_def, BitVec.toNat_and]
        exact Nat.and_le_right
      · exact ⟨rfl, hlen, by simp, fun _ => rfl⟩
      · exact ⟨rfl, hlen, hle, hbank⟩

/-- A write of the game keeps the type and the size. -/
theorem Sized.writeByte {s : GamePakSave} (h : s.Sized) (offset : Nat) (value : U8) :
    (s.writeByte offset value).1.saveType = s.saveType ∧ (s.writeByte offset value).1.Sized := by
  unfold GamePakSave.writeByte
  split_ifs
  · exact ⟨rfl, h⟩
  · exact h.writeFlashByte offset value
  · exact ⟨rfl, List.length_set.trans h.length_eq, h.bank_le, h.bank_eq⟩

end GamePakSave

end Gba.Core
