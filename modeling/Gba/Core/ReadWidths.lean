import Gba.Core.MemoryCells

/-!
# The widths of a read

The halfword and word reads of the bus against its byte reads. They agree everywhere but at the end
of the cartridge: a word that the image ends in is read whole at its aligned address, and as open
bus at an address past the image.
-/

namespace Gba.Core

open LittleEndian

namespace BusState

variable {σ : Type} (callbacks : MemoryBusIoCallbacks σ)

/-- The halfword of two byte reads. -/
def joined16 (bus : BusState σ) (address : U32) : Option U16 := do
  let b0 ← bus.read8 callbacks address
  let b1 ← bus.read8 callbacks (address + 1)
  return word 16 [b0, b1]

/-- The word of four byte reads. -/
def joined32 (bus : BusState σ) (address : U32) : Option U32 := do
  let b0 ← bus.read8 callbacks address
  let b1 ← bus.read8 callbacks (address + 1)
  let b2 ← bus.read8 callbacks (address + 2)
  let b3 ← bus.read8 callbacks (address + 3)
  return word 32 [b0, b1, b2, b3]

/-- The reads at an address are made of byte reads: an aligned unit of its bytes, a word at any
address of the aligned word, rotated. -/
structure ReadWidthsAgree (bus : BusState σ) (address : U32) : Prop where
  halfword : address.toNat % 2 = 0 → bus.read16 callbacks address = bus.joined16 callbacks address
  word : address.toNat % 4 = 0 → bus.read32 callbacks address = bus.joined32 callbacks address
  rotated : bus.read32 callbacks address =
    (bus.read32 callbacks (alignWord address)).map fun value : U32 =>
      value.rotateRight (address.toNat % 4 * 8)

/-- The part of the image in the word of an address past the image reads as open bus would. -/
def RomTailAgrees (bus : BusState σ) (address : U32) : Prop :=
  (classify address).region = .gamePakRom →
    bus.memory.gamePakRom.length ≤ (classify address).offset.toNat →
      ∀ lane < 4, (classify (alignWord address)).offset.toNat + lane < bus.memory.gamePakRom.length →
        bus.memory.romAt ((classify (alignWord address)).offset + BitVec.ofNat 32 lane) =
          byte (gamePakOpenBusAlignedWord address) lane

/-! ## Cartridge addresses -/

theorem classify_rom {address : U32} (h : 8 ≤ address.toNat / 2 ^ 24 ∧ address.toNat / 2 ^ 24 ≤ 13) :
    (classify address).region = .gamePakRom ∧
      (classify address).offset.toNat = address.toNat % 2 ^ 25 := by
  have htop : (address >>> 24).toNat = address.toNat / 2 ^ 24 := by
    rw [BitVec.toNat_ushiftRight, Nat.shiftRight_eq_div_pow]
  have hoffset : (address &&& 0x1FFFFFF#32).toNat = address.toNat % 2 ^ 25 := by
    rw [BitVec.toNat_and]
    exact Nat.and_two_pow_sub_one_eq_mod _ 25
  have hcases : address.toNat / 2 ^ 24 = 8 ∨ address.toNat / 2 ^ 24 = 9 ∨
      address.toNat / 2 ^ 24 = 10 ∨ address.toNat / 2 ^ 24 = 11 ∨
      address.toNat / 2 ^ 24 = 12 ∨ address.toNat / 2 ^ 24 = 13 := by omega
  unfold classify
  dsimp only
  rw [htop]
  rcases hcases with h | h | h | h | h | h
  all_goals
    rw [h]
    exact ⟨rfl, hoffset⟩

theorem page_of_rom {address : U32} (h : (classify address).region = .gamePakRom) :
    8 ≤ address.toNat / 2 ^ 24 ∧ address.toNat / 2 ^ 24 ≤ 13 := by
  have htop : (address >>> 24).toNat = address.toNat / 2 ^ 24 := by
    rw [BitVec.toNat_ushiftRight, Nat.shiftRight_eq_div_pow]
  revert h
  unfold classify
  dsimp only
  rw [htop]
  split
  case h_5 =>
    intro h
    split at h <;> contradiction
  all_goals
    intro h
    first
    | contradiction
    | next heq => exact ⟨by omega, by omega⟩

/-- The bytes of a cartridge word in the address map. -/
theorem classify_rom_lane {address : U32} (h : (classify address).region = .gamePakRom) {lane : Nat}
    (hlane : address.toNat % 4 + lane < 4) :
    (classify (address + BitVec.ofNat 32 lane)).region = .gamePakRom ∧
      (classify (address + BitVec.ofNat 32 lane)).offset =
        (classify address).offset + BitVec.ofNat 32 lane := by
  have hpage := page_of_rom h
  have hnat := toNat_add_lane hlane
  obtain ⟨hregion, hoffset⟩ := @classify_rom (address + BitVec.ofNat 32 lane) (by omega)
  refine ⟨hregion, BitVec.eq_of_toNat_eq ?_⟩
  rw [hoffset, hnat, BitVec.toNat_add, BitVec.toNat_ofNat, (classify_rom hpage).2]
  omega

variable {callbacks} (bus : BusState σ)

/-- A byte of the cartridge: of the image, or open bus past its end. -/
theorem read8_rom {address : U32} (h : (classify address).region = .gamePakRom)
    (hrom : bus.memory.gamePakRom ≠ []) :
    bus.read8 callbacks address =
      some (if bus.memory.gamePakRom.length ≤ (classify address).offset.toNat then
        byte (gamePakOpenBusAlignedWord address) (address.toNat % 4)
      else bus.memory.romAt (classify address).offset) := by
  have hpage := page_of_rom h
  have hne : address.toNat / 2 ^ 24 ≠ 4 := by omega
  have hempty : ¬bus.memory.gamePakRom.isEmpty = true := by simpa using hrom
  unfold read8
  rw [if_neg (not_debugIdRange hne), if_neg (not_debugRange hne _ _ (by decide) (by decide))]
  dsimp only
  rw [h, laneShift_eq]
  dsimp only
  rw [if_neg hempty]
  split <;> rfl

theorem read8_rom_none {address : U32} (h : (classify address).region = .gamePakRom)
    (hrom : bus.memory.gamePakRom = []) : bus.read8 callbacks address = none := by
  have hpage := page_of_rom h
  have hne : address.toNat / 2 ^ 24 ≠ 4 := by omega
  unfold read8
  rw [if_neg (not_debugIdRange hne), if_neg (not_debugRange hne _ _ (by decide) (by decide))]
  dsimp only
  rw [h, hrom]
  rfl

/-- The lanes of an aligned cartridge word are read one by one. -/
theorem read8_rom_lane {address : U32} (h : (classify address).region = .gamePakRom)
    (hrom : bus.memory.gamePakRom ≠ []) {lane : Nat} (hlane : address.toNat % 4 + lane < 4) :
    bus.read8 callbacks (address + BitVec.ofNat 32 lane) =
      some (if bus.memory.gamePakRom.length ≤ (classify address).offset.toNat + lane then
        byte (gamePakOpenBusAlignedWord address) (address.toNat % 4 + lane)
      else bus.memory.romAt ((classify address).offset + BitVec.ofNat 32 lane)) := by
  obtain ⟨hregion, hoffset⟩ := classify_rom_lane h hlane
  have hnat := toNat_add_lane hlane
  have hoffset' : (classify (address + BitVec.ofNat 32 lane)).offset.toNat =
      (classify address).offset.toNat + lane := by
    have hpage := page_of_rom h
    rw [(classify_rom (page_of_rom hregion)).2, (classify_rom hpage).2, hnat]
    omega
  have hword : alignWord (address + BitVec.ofNat 32 lane) = alignWord address := by
    refine BitVec.eq_of_toNat_eq ?_
    rw [alignWord_toNat, alignWord_toNat, hnat]
    omega
  have hmod : (address + BitVec.ofNat 32 lane).toNat % 4 = address.toNat % 4 + lane := by
    rw [hnat]
    omega
  have hopen : gamePakOpenBusAlignedWord (address + BitVec.ofNat 32 lane) =
      gamePakOpenBusAlignedWord address := by
    unfold gamePakOpenBusAlignedWord
    rw [hword]
  rw [read8_rom bus hregion hrom, hoffset', hmod, hopen, hoffset]

/-! ## Reads of two and four bytes -/

theorem read16Bytes_eq (address : U32) :
    bus.read16Bytes callbacks address = bus.joined16 callbacks address := by
  unfold read16Bytes joined16
  simp only [word_two]

theorem read32Bytes_eq (address : U32) :
    bus.read32Bytes callbacks address =
      (bus.joined32 callbacks (alignWord address)).map fun value =>
        rotateRight value (laneShift address) := by
  unfold read32Bytes joined32
  simp only [word_four]
  cases bus.read8 callbacks (alignWord address) with
  | none => rfl
  | some b0 =>
    cases bus.read8 callbacks (alignWord address + 1) with
    | none => rfl
    | some b1 =>
      cases bus.read8 callbacks (alignWord address + 2) with
      | none => rfl
      | some b2 => cases bus.read8 callbacks (alignWord address + 3) <;> rfl

/-- Four bytes that are read make a word. -/
theorem joined32_of_bytes {address : U32} {bytes : Nat → U8}
    (h : ∀ lane < 4, bus.read8 callbacks (address + BitVec.ofNat 32 lane) = some (bytes lane)) :
    bus.joined32 callbacks address = some (word 32 ((List.range 4).map bytes)) := by
  have h0 : bus.read8 callbacks address = some (bytes 0) := by simpa using h 0 (by omega)
  have h1 : bus.read8 callbacks (address + 1) = some (bytes 1) := h 1 (by omega)
  have h2 : bus.read8 callbacks (address + 2) = some (bytes 2) := h 2 (by omega)
  have h3 : bus.read8 callbacks (address + 3) = some (bytes 3) := h 3 (by omega)
  unfold joined32
  rw [h0, h1, h2, h3]
  rfl

theorem joined16_of_bytes {address : U32} {bytes : Nat → U8}
    (h : ∀ lane < 2, bus.read8 callbacks (address + BitVec.ofNat 32 lane) = some (bytes lane)) :
    bus.joined16 callbacks address = some (word 16 ((List.range 2).map bytes)) := by
  have h0 : bus.read8 callbacks address = some (bytes 0) := by simpa using h 0 (by omega)
  have h1 : bus.read8 callbacks (address + 1) = some (bytes 1) := h 1 (by omega)
  unfold joined16
  rw [h0, h1]
  rfl

/-- An aligned halfword is made of its bytes. -/
theorem read16_joined {address : U32} (heven : address.toNat % 2 = 0)
    (hio : (classify address).region ≠ .io) (hsave : (classify address).region ≠ .gamePakSave)
    (hdebug : address ≠ kMgbaDebugEnable) :
    bus.read16 callbacks address = bus.joined16 callbacks address := by
  by_cases hinternal : Internal address
  · rw [read16_cells _ _ hinternal heven, joined16_of_bytes bus fun lane hlane =>
      read8_cell callbacks bus (hinternal.lane (by omega))]
    rfl
  have heven' : ¬address % 2 ≠ 0 := by
    rw [not_not]
    bv_omega
  have hregion : ¬(classify address).region.internal = true := hinternal
  cases hcase : (classify address).region with
  | ewram | iwram | palette | vram | oam =>
    rw [hcase] at hregion
    exact absurd rfl hregion
  | io => exact absurd hcase hio
  | gamePakSave => exact absurd hcase hsave
  | bios | unknown =>
    unfold read16
    dsimp only
    rw [if_neg heven', if_neg hdebug, hcase]
    simpa using read16Bytes_eq bus address
  | gamePakRom =>
    have hzero : (classify address).offset + BitVec.ofNat 32 0 = (classify address).offset :=
      BitVec.add_zero _
    unfold read16
    dsimp only
    rw [if_neg heven', if_neg hdebug, hcase]
    by_cases hempty : bus.memory.gamePakRom = []
    · unfold joined16
      rw [read8_rom_none bus hcase hempty]
      simp [hempty]
    have hempty' : ¬bus.memory.gamePakRom.isEmpty = true := by simpa using hempty
    simp only [reduceCtorEq, if_false, false_and]
    rw [if_neg hempty']
    split
    · exact read16Bytes_eq bus address
    · next hin =>
      have hbyte : ∀ lane < 2, bus.read8 callbacks (address + BitVec.ofNat 32 lane) =
          some (bus.memory.romAt ((classify address).offset + BitVec.ofNat 32 lane)) := by
        intro lane hlane
        rw [read8_rom_lane bus hcase hempty (by omega), if_neg (by omega)]
      rw [joined16_of_bytes bus hbyte]
      refine congrArg some ((word_two _ _).trans ?_).symm
      dsimp only
      rw [hzero]
      rfl

theorem alignWord_mod (address : U32) : (alignWord address).toNat % 4 = 0 := by
  rw [alignWord_toNat]
  omega

theorem alignWord_page (address : U32) :
    (alignWord address).toNat / 2 ^ 24 = address.toNat / 2 ^ 24 := by
  rw [alignWord_toNat]
  omega

theorem internal_alignWord {address : U32} : Internal (alignWord address) ↔ Internal address := by
  have hpage := alignWord_page address
  constructor
  · intro h
    unfold Internal
    rw [(classify_internal h (hpage.symm.trans h.page)).1]
    exact h
  · intro h
    unfold Internal
    rw [(classify_internal h (hpage.trans h.page)).1]
    exact h

theorem rom_alignWord {address : U32} :
    (classify (alignWord address)).region = .gamePakRom ↔
      (classify address).region = .gamePakRom := by
  have hpage := alignWord_page address
  constructor
  · intro h
    have hrom := page_of_rom h
    exact (classify_rom (by omega)).1
  · intro h
    have hrom := page_of_rom h
    exact (classify_rom (by omega)).1

/-- The word of the image at an aligned address inside it. -/
theorem joined32_rom {address : U32} (h : (classify address).region = .gamePakRom)
    (halign : address.toNat % 4 = 0)
    (hin : (classify address).offset.toNat + 3 < bus.memory.gamePakRom.length) :
    bus.joined32 callbacks address =
      some ((bus.memory.romAt (classify address).offset).setWidth 32 |||
        (bus.memory.romAt ((classify address).offset + 1)).setWidth 32 <<< 8 |||
        (bus.memory.romAt ((classify address).offset + 2)).setWidth 32 <<< 16 |||
        (bus.memory.romAt ((classify address).offset + 3)).setWidth 32 <<< 24) := by
  have hrom : bus.memory.gamePakRom ≠ [] := by
    intro hempty
    rw [hempty] at hin
    exact Nat.not_lt_zero _ hin
  have hbytes : ∀ lane < 4, bus.read8 callbacks (address + BitVec.ofNat 32 lane) =
      some (bus.memory.romAt ((classify address).offset + BitVec.ofNat 32 lane)) := by
    intro lane hlane
    rw [read8_rom_lane bus h hrom (by omega), if_neg (by omega)]
  have hzero : (classify address).offset + BitVec.ofNat 32 0 = (classify address).offset :=
    BitVec.add_zero _
  rw [joined32_of_bytes bus hbytes]
  refine congrArg some ((word_four _ _ _ _).trans ?_)
  dsimp only
  rw [hzero]
  rfl

/-- A word read that is not decoded ahead is the aligned word, rotated. -/
theorem read32_joined {address : U32} (hio : (classify address).region ≠ .io)
    (hsave : (classify address).region ≠ .gamePakSave)
    (hopen : (classify address).region = .gamePakRom → bus.memory.gamePakRom ≠ [] →
      ¬bus.memory.gamePakRom.length ≤ (classify address).offset.toNat) :
    bus.read32 callbacks address =
      (bus.joined32 callbacks (alignWord address)).map fun value =>
        rotateRight value (laneShift address) := by
  have hmod := alignWord_mod address
  by_cases hinternal : Internal address
  · have haligned := internal_alignWord.mpr hinternal
    rw [read32_cells _ _ hinternal, joined32_of_bytes bus fun lane hlane =>
      read8_cell callbacks bus (haligned.lane (by omega))]
    rfl
  have hdirect : ¬((classify address).region = .gamePakRom ∧ bus.memory.hasGamePakRom = true ∧
      bus.memory.gamePakRom.length ≤ (classify address).offset.toNat) := by
    rintro ⟨hregion, hrom, hpast⟩
    refine hopen hregion ?_ hpast
    rintro hempty
    rw [MemoryBus.hasGamePakRom, hempty] at hrom
    exact Bool.noConfusion hrom
  have hcallback : ¬(address % 4 = 0 ∧ (classify address).region = .io ∧
      callbacks.read32.isSome = true) := fun h => hio h.2.1
  have hbytes : bus.read32Bytes callbacks address = _ := read32Bytes_eq bus address
  unfold read32
  dsimp only
  rw [if_neg hsave, if_neg hdirect, if_neg hcallback, ← hbytes]
  cases hcase : (classify (alignWord address)).region with
  | ewram | iwram | palette | vram | oam =>
    refine absurd (internal_alignWord.mp ?_) hinternal
    unfold Internal
    rw [hcase]
    rfl
  | bios | io | gamePakSave | unknown => rfl
  | gamePakRom =>
    dsimp only
    by_cases hempty : bus.memory.gamePakRom = []
    · rw [hempty, hbytes]
      unfold joined32
      rw [read8_rom_none bus hcase hempty]
      rfl
    have hempty' : ¬bus.memory.gamePakRom.isEmpty = true := by simpa using hempty
    rw [if_neg hempty']
    split
    · rfl
    · next hin =>
      rw [hbytes, joined32_rom bus hcase hmod (by omega)]
      rfl

theorem page_of_save {address : U32} (h : (classify address).region = .gamePakSave) :
    address.toNat / 2 ^ 24 = 14 ∨ address.toNat / 2 ^ 24 = 15 := by
  have htop : (address >>> 24).toNat = address.toNat / 2 ^ 24 := by
    rw [BitVec.toNat_ushiftRight, Nat.shiftRight_eq_div_pow]
  revert h
  unfold classify
  dsimp only
  rw [htop]
  split
  case h_5 =>
    intro h
    split at h <;> contradiction
  all_goals
    intro h
    first
    | contradiction
    | next heq => omega

theorem save_alignWord {address : U32}
    (h : (classify (alignWord address)).region = .gamePakSave) :
    (classify address).region = .gamePakSave := by
  have htop : (address >>> 24).toNat = address.toNat / 2 ^ 24 := by
    rw [BitVec.toNat_ushiftRight, Nat.shiftRight_eq_div_pow]
  have hpage := page_of_save h
  rw [alignWord_page] at hpage
  unfold classify
  dsimp only
  rw [htop]
  rcases hpage with hpage | hpage
  all_goals
    rw [hpage]
    rfl

/-! ## The widths together -/

theorem rotateRight_laneShift (value address : U32) :
    rotateRight value (laneShift address) = value.rotateRight (address.toNat % 4 * 8) := by
  unfold rotateRight
  rw [laneShift_eq, Nat.mod_eq_of_lt (by omega)]

/-- The bytes of a cartridge word: of the image, and open bus past its end. -/
def romByte (address : U32) (lane : Nat) : U8 :=
  if bus.memory.gamePakRom.length ≤ (classify (alignWord address)).offset.toNat + lane then
    byte (gamePakOpenBusAlignedWord address) lane
  else bus.memory.romAt ((classify (alignWord address)).offset + BitVec.ofNat 32 lane)

theorem openBus_alignWord (address : U32) :
    gamePakOpenBusAlignedWord (alignWord address) = gamePakOpenBusAlignedWord address := by
  have hmod := alignWord_mod address
  unfold gamePakOpenBusAlignedWord
  rw [alignWord_of_aligned hmod]

theorem joined32_romByte {address : U32} (h : (classify address).region = .gamePakRom)
    (hrom : bus.memory.gamePakRom ≠ []) :
    bus.joined32 callbacks (alignWord address) =
      some (word 32 ((List.range 4).map (bus.romByte address))) := by
  have hmod := alignWord_mod address
  refine joined32_of_bytes bus fun lane hlane => ?_
  rw [read8_rom_lane bus (rom_alignWord.mpr h) hrom (by omega), hmod, openBus_alignWord, Nat.zero_add]
  rfl

/-- A word read past the end of the image is open bus. -/
theorem read32_pastImage {address : U32} (h : (classify address).region = .gamePakRom)
    (hrom : bus.memory.gamePakRom ≠ [])
    (hpast : bus.memory.gamePakRom.length ≤ (classify address).offset.toNat) :
    bus.read32 callbacks address =
      some ((gamePakOpenBusAlignedWord address).rotateRight (address.toNat % 4 * 8)) := by
  have hloaded : bus.memory.hasGamePakRom = true := by simpa [MemoryBus.hasGamePakRom] using hrom
  unfold read32
  dsimp only
  rw [if_neg (by rw [h]; decide), if_pos ⟨h, hloaded, hpast⟩]
  unfold gamePakOpenBusWord
  rw [rotateRight_laneShift]

theorem alignWord_offset {address : U32} (h : (classify address).region = .gamePakRom) :
    (classify (alignWord address)).offset.toNat = (classify address).offset.toNat / 4 * 4 := by
  rw [(classify_rom (page_of_rom (rom_alignWord.mpr h))).2, (classify_rom (page_of_rom h)).2,
    alignWord_toNat]
  omega

theorem not_io {address : U32}
    (hio : ¬(0x04000000 ≤ address.toNat ∧ address.toNat < 0x04000400)) :
    (classify address).region ≠ .io ∧ (classify (alignWord address)).region ≠ .io := by
  have halign := alignWord_toNat address
  refine ⟨fun h => ?_, fun h => ?_⟩
  · have hrange := (classify_io_iff address).mp h
    omega
  · have hrange := (classify_io_iff (alignWord address)).mp h
    omega

/-- A word of the cartridge at its aligned address: joined from its bytes, whether the image still
reaches it or not. -/
theorem read32_romWord {address : U32} (h : (classify address).region = .gamePakRom)
    (hrom : bus.memory.gamePakRom ≠ []) :
    bus.read32 callbacks (alignWord address) =
      some (word 32 ((List.range 4).map (bus.romByte address))) := by
  have hmod := alignWord_mod address
  have hregion := rom_alignWord.mpr h
  by_cases hin : bus.memory.gamePakRom.length ≤ (classify (alignWord address)).offset.toNat
  · have hbytes : (List.range 4).map (bus.romByte address) =
        (List.range 4).map (byte (gamePakOpenBusAlignedWord address)) := by
      refine List.map_congr_left fun lane _ => ?_
      unfold romByte
      rw [if_pos (by omega)]
    rw [read32_pastImage bus hregion hrom hin, openBus_alignWord, hmod, hbytes, word_byte 4 rfl]
    exact congrArg some (rotateRight_zero _)
  · have hio : (classify (alignWord address)).region ≠ .io := by
      rw [hregion]
      decide
    have hsave : (classify (alignWord address)).region ≠ .gamePakSave := by
      rw [hregion]
      decide
    rw [read32_joined bus hio hsave (fun _ _ => hin), alignWord_of_aligned hmod,
      joined32_romByte bus h hrom, laneShift_eq, hmod]
    exact congrArg some (rotateRight_zero _)

/-- Past the image, open bus is the joined word exactly when the part of the image reads so. -/
theorem openBus_eq_romWord {address : U32} (h : (classify address).region = .gamePakRom)
    (hpast : bus.memory.gamePakRom.length ≤ (classify address).offset.toNat) :
    gamePakOpenBusAlignedWord address = word 32 ((List.range 4).map (bus.romByte address)) ↔
      RomTailAgrees bus address := by
  constructor
  · intro heq _ _ lane hlane hin
    rw [heq, byte_word_range _ hlane (by omega)]
    unfold romByte
    rw [if_neg (by omega)]
  · intro htail
    refine eq_of_byte_eq 4 rfl fun lane hlane => ?_
    rw [byte_word_range _ hlane (by omega)]
    unfold romByte
    split
    · rfl
    · next hin => exact (htail h hpast lane hlane (by omega)).symm

/-- The widths agree where a word is joined from its bytes. -/
theorem readWidthsAgree_joined {address : U32} (hself : (classify address).region ≠ .io)
    (haligned : (classify (alignWord address)).region ≠ .io)
    (hsave : (classify address).region ≠ .gamePakSave) (hdebug : address ≠ kMgbaDebugEnable)
    (hin : (classify address).region = .gamePakRom → bus.memory.gamePakRom ≠ [] →
      ¬bus.memory.gamePakRom.length ≤ (classify address).offset.toNat) :
    ReadWidthsAgree callbacks bus address := by
  have hmod := alignWord_mod address
  have hsaved : (classify (alignWord address)).region ≠ .gamePakSave :=
    fun h => hsave (save_alignWord h)
  have hin' : (classify (alignWord address)).region = .gamePakRom →
      bus.memory.gamePakRom ≠ [] →
      ¬bus.memory.gamePakRom.length ≤ (classify (alignWord address)).offset.toNat := by
    intro hregion hrom hlength
    have hregion := rom_alignWord.mp hregion
    rw [alignWord_offset hregion] at hlength
    exact hin hregion hrom (by omega)
  have hread : bus.read32 callbacks address = _ := read32_joined bus hself hsave hin
  refine ⟨fun heven => read16_joined bus heven hself hsave hdebug, fun hzero => ?_, ?_⟩
  · rw [hread, alignWord_of_aligned hzero, laneShift_eq, hzero]
    simp only [Nat.zero_mul, rotateRight_zero, Option.map_id']
  · rw [hread, read32_joined bus haligned hsaved hin', alignWord_of_aligned hmod, laneShift_eq,
      laneShift_eq, hmod, Option.map_map]
    refine congrArg (Option.map · _) (funext fun value => ?_)
    show rotateRight value _ = (rotateRight value (0 * 8)).rotateRight _
    rw [Nat.zero_mul, rotateRight_zero, ← laneShift_eq, rotateRight_laneShift, laneShift_eq]

/-- The widths of a read agree outside the windows that are decoded by width, but for a word that
the image ends in: at an address of it past the image, exactly when its part of the image reads as
open bus would. -/
theorem readWidthsAgree_iff (callbacks : MemoryBusIoCallbacks σ) (bus : BusState σ) {address : U32}
    (hio : ¬(0x04000000 ≤ address.toNat ∧ address.toNat < 0x04000400))
    (hsave : (classify address).region ≠ .gamePakSave) (hdebug : address ≠ kMgbaDebugEnable) :
    ReadWidthsAgree callbacks bus address ↔ RomTailAgrees bus address := by
  have hmod := alignWord_mod address
  obtain ⟨hself, haligned⟩ := not_io hio
  by_cases hpast : (classify address).region = .gamePakRom ∧ bus.memory.gamePakRom ≠ [] ∧
      bus.memory.gamePakRom.length ≤ (classify address).offset.toNat
  · obtain ⟨hregion, hrom, hpast⟩ := hpast
    have hread : bus.read32 callbacks address = _ := read32_pastImage bus hregion hrom hpast
    have hword : bus.read32 callbacks (alignWord address) = _ := read32_romWord bus hregion hrom
    have hlt : address.toNat % 4 < 4 := Nat.mod_lt _ (by omega)
    rw [← openBus_eq_romWord bus hregion hpast]
    constructor
    · intro hagree
      have hrotated := hagree.rotated
      rw [hread, hword] at hrotated
      exact (rotateRight_inj 4 rfl hlt).mp (Option.some.inj hrotated)
    · intro heq
      refine ⟨fun heven => read16_joined bus heven hself hsave hdebug, fun hzero => ?_, ?_⟩
      · have hjoined : bus.joined32 callbacks (alignWord address) = _ :=
          joined32_romByte bus hregion hrom
        rw [alignWord_of_aligned hzero] at hword hjoined
        rw [hword, hjoined]
      · rw [hread, hword, ← heq]
        rfl
  · have hin : (classify address).region = .gamePakRom → bus.memory.gamePakRom ≠ [] →
        ¬bus.memory.gamePakRom.length ≤ (classify address).offset.toNat :=
      fun hregion hrom hlength => hpast ⟨hregion, hrom, hlength⟩
    refine iff_of_true (readWidthsAgree_joined bus hself haligned hsave hdebug hin) ?_
    intro hregion hlength lane _ hin
    have hempty : bus.memory.gamePakRom = [] :=
      by_contra fun hrom => hpast ⟨hregion, hrom, hlength⟩
    rw [hempty] at hin
    exact absurd hin (Nat.not_lt_zero _)

/-- A cartridge of one byte, with no I/O behind the bus. -/
def oneByteCartridge : BusState Unit :=
  ⟨{ MemoryBus.initial with gamePakRom := [0xFF] }, ()⟩

/-- The word that the image ends in, at its aligned address. -/
theorem readWidthsAgree_oneByte :
    ReadWidthsAgree ⟨none, none, none, none⟩ oneByteCartridge 0x08000000#32 := by
  refine (readWidthsAgree_iff _ _ (by decide) (by decide) (by decide)).mpr ?_
  intro _ hpast
  exact absurd hpast (by decide)

/-- And one byte on. -/
theorem not_readWidthsAgree :
    MemoryBus.initial.loadGamePakRom [0xFF] = some oneByteCartridge.memory ∧
      ¬ReadWidthsAgree ⟨none, none, none, none⟩ oneByteCartridge 0x08000001#32 := by
  refine ⟨rfl, fun h => ?_⟩
  have hrotated := h.rotated
  revert hrotated
  decide +kernel

end BusState

end Gba.Core
