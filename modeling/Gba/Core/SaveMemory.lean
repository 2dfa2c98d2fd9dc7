import Gba.Core.FlashCommands
import Gba.Core.MemoryBus

/-!
# The invariant of save memory

Whatever the host and the program do to the bus, the save has the size of its type and the bank of
a chip that has banks (`GamePakSave.Sized`). The index of every access to it is then inside the
buffer (`GamePakSave.InBounds`).
-/

namespace Gba.Core

namespace GamePakSave

/-- `eeprom_block_count`. -/
def eepromBlockCount (s : GamePakSave) : Nat :=
  if s.saveType ≠ .eeprom512 ∧ s.saveType ≠ .eeprom8k then 0 else s.data.length / 8 % 2 ^ 16

/-- `std::copy` of a block over the bytes at an offset. -/
def copyAt (data : List U8) (offset : Nat) (block : Fin 8 → U8) : List U8 :=
  data.mapIdx fun index byte =>
    if h : offset ≤ index ∧ index - offset < 8 then block ⟨index - offset, h.2⟩ else byte

/-- `eeprom_write_block`. -/
def eepromWriteBlock (s : GamePakSave) (blockIndex : Nat) (block : Fin 8 → U8) :
    GamePakSave × Bool :=
  if s.eepromBlockCount = 0 ∨ s.eepromBlockCount ≤ blockIndex then (s, false)
  else ({ s with data := copyAt s.data (blockIndex * 8) block }, true)

/-- `eeprom_read_block`. -/
def eepromReadBlock (s : GamePakSave) (blockIndex : Nat) : Option (Fin 8 → U8) :=
  if s.eepromBlockCount = 0 ∨ s.eepromBlockCount ≤ blockIndex then none
  else some fun index => s.dataAt (blockIndex * 8 + index)

/-- Every access to the save indexes inside the buffer: a byte of static RAM, a byte or a sector of
a flash chip, a block of an EEPROM. -/
structure InBounds (s : GamePakSave) : Prop where
  sram : s.supportsMemoryAperture = true → s.isFlash = false →
    ∀ offset, offset % s.data.length < s.data.length
  flash : s.isFlash = true → ∀ offset, s.flashEffectiveOffset offset < s.data.length
  sector : s.isFlash = true → ∀ offset,
    s.flashEffectiveOffset offset / kFlashSectorSize * kFlashSectorSize + kFlashSectorSize ≤
      s.data.length
  block : ∀ blockIndex < s.eepromBlockCount, blockIndex * 8 + 8 ≤ s.data.length

theorem Sized.inBounds {s : GamePakSave} (h : s.Sized) : s.InBounds where
  sram haperture _ offset := by
    refine Nat.mod_lt _ (List.length_pos_iff.mpr fun hempty => ?_)
    simp [supportsMemoryAperture, present, hempty] at haperture
  flash hflash offset := h.flashEffectiveOffset_lt hflash offset
  sector hflash offset := h.sector_lt hflash offset
  block blockIndex hblock := by
    unfold eepromBlockCount at hblock
    split at hblock <;> omega

theorem Sized.eepromWriteBlock {s : GamePakSave} (h : s.Sized) (blockIndex : Nat)
    (block : Fin 8 → U8) : (s.eepromWriteBlock blockIndex block).1.Sized := by
  unfold GamePakSave.eepromWriteBlock
  split
  · exact h
  · exact ⟨List.length_mapIdx.trans h.length_eq, h.bank_le, h.bank_eq⟩

theorem Sized.resetFlashProtocol {s : GamePakSave} (h : s.Sized) : s.resetFlashProtocol.Sized :=
  ⟨h.length_eq, h.bank_le, h.bank_eq⟩

theorem sized_clear (s : GamePakSave) : s.clear.Sized := s.sized_configure .none

end GamePakSave

namespace MemoryBus

/-- `clear_debug_output`. -/
def clearDebugOutput (bus : MemoryBus) : MemoryBus :=
  { bus with debugOutput := [], mgbaDebugString := fun _ => 0 }

/-- `reset`, which is `soft_reset`: the cartridge and its save stay. -/
def reset (bus : MemoryBus) : MemoryBus :=
  { bus with
    ewram := fun _ => 0, iwram := fun _ => 0, palette := fun _ => 0, vram := fun _ => 0
    oam := fun _ => 0, openBusLatch := 0, openBusLatchValid := false
    gamePakSave := bus.gamePakSave.resetFlashProtocol }.clearDebugOutput

/-- `clear_game_pak_rom`. -/
def clearGamePakRom (bus : MemoryBus) : MemoryBus := { bus with gamePakRom := [] }

/-- `clear_game_pak_save`. -/
def clearGamePakSave (bus : MemoryBus) : MemoryBus :=
  { bus with gamePakSave := bus.gamePakSave.clear }

/-- The memory part of `CoreSession::reset`. -/
def sessionReset (bus : MemoryBus) : MemoryBus := bus.reset.clearGamePakRom.clearGamePakSave

/-- `import_game_pak_save` of the bus. -/
def importGamePakSave (bus : MemoryBus) (type : GamePakSaveType) (data : List U8) :
    Option MemoryBus :=
  (bus.gamePakSave.importSave type data).map fun save => { bus with gamePakSave := save }

/-- `MemoryBus::State`, which has the members of the bus. -/
abbrev State : Type := MemoryBus

/-- `save_state`. -/
def saveState (bus : MemoryBus) : State := bus

/-- `expected_save_size`. -/
def expectedSaveSize (type : GamePakSaveType) : Nat :=
  if type = .none then 0 else saveSizeForType type

/-- `load_state`; `none` when the state is rejected. The command state is an enumerator, so its
range needs no check here. -/
def loadState (state : State) : Option MemoryBus :=
  let save := state.gamePakSave
  if expectedSaveSize save.saveType ≠ 0 ∧ save.data.length ≠ expectedSaveSize save.saveType then
    none
  else if save.saveType = .none ∧ !save.data.isEmpty then none
  else if 1 < save.flashBank ∨ (save.flashBank ≠ 0 ∧ save.saveType ≠ .flash128k) then none
  else if !state.gamePakRom.isEmpty ∧ kGamePakRomWindowSize < state.gamePakRom.length then none
  else some state

/-- An accepted state is taken over as it is, and its save has the size of its type. -/
theorem loadState_eq_some {state bus : MemoryBus} (h : loadState state = some bus) :
    bus = state ∧ state.gamePakSave.Sized := by
  unfold loadState at h
  dsimp only at h
  split at h
  · contradiction
  next hsize =>
  split at h
  · contradiction
  next hempty =>
  split at h
  · contradiction
  next hbank =>
  split at h
  · contradiction
  refine ⟨(Option.some.inj h).symm, ?_, ?_, fun htype => ?_⟩
  · cases htype : state.gamePakSave.saveType with
    | none => simpa [htype, saveSizeForType] using hempty
    | _ => simpa [htype, expectedSaveSize, saveSizeForType] using hsize
  · exact BitVec.not_lt.mp (not_or.mp hbank).1
  · by_contra hnonzero
    exact hbank (.inr ⟨hnonzero, htype⟩)

end MemoryBus

namespace BusState

variable {σ : Type}

/-- A property of the save that every write through the aperture keeps. -/
def KeptByAperture (P : GamePakSave → Prop) : Prop :=
  ∀ save offset value, P save → P (GamePakSave.writeByte save offset value).1

namespace KeptByAperture

variable {P : GamePakSave → Prop} (callbacks : MemoryBusIoCallbacks σ)

theorem writeDebug8_save {memory memory' : MemoryBus} {address : U32} {value : U8}
    (h : memory.writeDebug8 address value = some memory') :
    memory'.gamePakSave = memory.gamePakSave := by
  unfold MemoryBus.writeDebug8 at h
  split_ifs at h
  · rw [← Option.some.inj h]
  · rw [← Option.some.inj h]

theorem write8Memory_save (bus : BusState σ) (info : AddressInfo) (value : U8) :
    (bus.write8Memory info value).2.memory.gamePakSave = bus.memory.gamePakSave := by
  unfold BusState.write8Memory
  cases info.region with
  | vram =>
      dsimp only
      split <;> rfl
  | _ => rfl

theorem write8 (h : KeptByAperture P) {bus : BusState σ} (hbus : P bus.memory.gamePakSave)
    (address : U32) (value : U8) : P (bus.write8 callbacks address value).2.memory.gamePakSave := by
  unfold BusState.write8
  split
  · next memory hdebug =>
      show P memory.gamePakSave
      rw [writeDebug8_save hdebug]
      exact hbus
  dsimp only
  split
  · exact hbus
  split
  · exact h _ _ _ hbus
  split
  · exact hbus
  split
  · exact hbus
  · split
    · exact hbus
    · rw [write8Memory_save]
      exact hbus

theorem writeBytes (h : KeptByAperture P) (value address : U32) (count : Nat)
    {result : Bool × BusState σ} (hresult : P result.2.memory.gamePakSave) :
    P (BusState.writeBytes callbacks value address count result).2.memory.gamePakSave := by
  induction count with
  | zero => exact hresult
  | succ count ih =>
      unfold BusState.writeBytes andThen
      split
      · exact h.write8 callbacks ih _ _
      · exact ih

theorem writeDebug16_save {bus bus' : BusState σ} {address : U32} {value : U16}
    (h : bus.writeDebug16 address value = some bus') :
    bus'.memory.gamePakSave = bus.memory.gamePakSave := by
  unfold BusState.writeDebug16 at h
  split at h
  · rw [Option.some.inj h]
  split at h
  · rw [← Option.some.inj h]
    unfold MemoryBus.flushMgbaDebugString withMemory
    dsimp only
    split <;> rfl
  split at h
  · obtain ⟨memory, hmemory, rfl⟩ := Option.map_eq_some_iff.mp h
    obtain ⟨first, hfirst, hsecond⟩ := Option.bind_eq_some_iff.mp hmemory
    exact (writeDebug8_save hsecond).trans (writeDebug8_save hfirst)
  split at h
  · rw [← Option.some.inj h]
    rfl
  · contradiction

theorem writeDebug32_save {bus bus' : BusState σ} {address value : U32}
    (h : bus.writeDebug32 callbacks address value = some bus') :
    bus'.memory.gamePakSave = bus.memory.gamePakSave := by
  unfold BusState.writeDebug32 at h
  split at h
  · obtain ⟨memory, hmemory, rfl⟩ := Option.map_eq_some_iff.mp h
    simp only [List.range, List.range.loop, List.foldlM_cons, List.foldlM_nil, Option.bind_eq_bind,
      Option.pure_def, Option.bind_eq_some_iff] at hmemory
    obtain ⟨m0, h0, m1, h1, m2, h2, m3, h3, hlast⟩ := hmemory
    rw [← Option.some.inj hlast]
    exact (writeDebug8_save h3).trans
      ((writeDebug8_save h2).trans ((writeDebug8_save h1).trans (writeDebug8_save h0)))
  split at h
  · rw [← Option.some.inj h]
    rfl
  split at h
  · rw [← Option.some.inj h]
    rfl
  · contradiction

theorem writeUnit (h : KeptByAperture P) {bus : BusState σ} (hbus : P bus.memory.gamePakSave)
    (address value : U32) (count : Nat) :
    P (bus.writeUnit callbacks address value count).2.memory.gamePakSave := by
  unfold BusState.writeUnit
  dsimp only
  split_ifs
  · exact hbus
  · exact hbus
  · exact hbus
  · exact hbus
  · exact h.writeBytes callbacks value address count hbus

theorem write16 (h : KeptByAperture P) {bus : BusState σ} (hbus : P bus.memory.gamePakSave)
    (address : U32) (value : U16) :
    P (bus.write16 callbacks address value).2.memory.gamePakSave := by
  unfold BusState.write16
  dsimp only
  split
  · exact hbus
  split
  · exact h _ _ _ hbus
  split
  · next hdebug =>
      rw [writeDebug16_save hdebug]
      exact hbus
  split
  · exact hbus
  · split
    · exact h.writeBytes callbacks _ _ _ hbus
    split
    · exact hbus
    · exact h.writeUnit callbacks hbus _ _ _

theorem write32 (h : KeptByAperture P) {bus : BusState σ} (hbus : P bus.memory.gamePakSave)
    (address value : U32) : P (bus.write32 callbacks address value).2.memory.gamePakSave := by
  unfold BusState.write32
  dsimp only
  split
  · exact hbus
  split
  · exact h _ _ _ hbus
  split
  · next hdebug =>
      rw [writeDebug32_save callbacks hdebug]
      exact hbus
  split
  · exact hbus
  · split
    · exact h.writeBytes callbacks _ _ _ hbus
    split
    · exact hbus
    · exact h.writeUnit callbacks hbus _ _ _

end KeptByAperture

/-! ## Runs -/

/-- The outcome of an operation on the memory that may be rejected. -/
def accept (bus : BusState σ) : Option MemoryBus → BusState σ
  | some memory => bus.withMemory memory
  | none => bus

theorem accept_sized {bus : BusState σ} (h : bus.memory.gamePakSave.Sized)
    {outcome : Option MemoryBus} (houtcome : ∀ memory ∈ outcome, memory.gamePakSave.Sized) :
    (bus.accept outcome).memory.gamePakSave.Sized := by
  cases outcome with
  | none => exact h
  | some memory => exact houtcome memory rfl

/-- What the host and the program can do to the bus. Reads change nothing. -/
inductive SaveOperation where
  | configureGamePakSave (type : GamePakSaveType)
  | clearGamePakSave
  | importGamePakSave (type : GamePakSaveType) (data : List U8)
  | eepromWriteBlock (blockIndex : Nat) (block : Fin 8 → U8)
  | loadGamePakRom (data : List U8)
  | read (address : U32)
  | write8 (address : U32) (value : U8)
  | write16 (address : U32) (value : U16)
  | write32 (address : U32) (value : U32)
  | reset
  | sessionReset
  | loadState (state : MemoryBus.State)

/-- The bus after an operation; a rejected one leaves it as it was. -/
def SaveOperation.run (callbacks : MemoryBusIoCallbacks σ) (bus : BusState σ) :
    SaveOperation → BusState σ
  | .configureGamePakSave type =>
      bus.withMemory { bus.memory with gamePakSave := bus.memory.gamePakSave.configure type }
  | .clearGamePakSave => bus.withMemory bus.memory.clearGamePakSave
  | .importGamePakSave type data => bus.accept (bus.memory.importGamePakSave type data)
  | .eepromWriteBlock blockIndex block =>
      bus.withMemory { bus.memory with
        gamePakSave := (bus.memory.gamePakSave.eepromWriteBlock blockIndex block).1 }
  | .loadGamePakRom data => bus.accept (bus.memory.loadGamePakRom data)
  | .read _ => bus
  | .write8 address value => (bus.write8 callbacks address value).2
  | .write16 address value => (bus.write16 callbacks address value).2
  | .write32 address value => (bus.write32 callbacks address value).2
  | .reset => bus.withMemory bus.memory.reset
  | .sessionReset => bus.withMemory bus.memory.sessionReset
  | .loadState state => bus.accept (MemoryBus.loadState state)

theorem sized_keptByAperture : KeptByAperture GamePakSave.Sized :=
  fun _ offset value h => (h.writeByte offset value).2

/-- Every operation keeps the size of the save. -/
theorem SaveOperation.run_sized (callbacks : MemoryBusIoCallbacks σ) {bus : BusState σ}
    (h : bus.memory.gamePakSave.Sized) (operation : SaveOperation) :
    (operation.run callbacks bus).memory.gamePakSave.Sized := by
  cases operation with
  | configureGamePakSave type => exact GamePakSave.sized_configure _ type
  | clearGamePakSave => exact GamePakSave.sized_clear _
  | importGamePakSave type data =>
      refine accept_sized h fun memory hmemory => ?_
      obtain ⟨save, himport, rfl⟩ := Option.map_eq_some_iff.mp hmemory
      exact (GamePakSave.importSave_eq_some himport).2.2.2
  | eepromWriteBlock blockIndex block => exact h.eepromWriteBlock blockIndex block
  | loadGamePakRom data =>
      refine accept_sized h fun memory hmemory => ?_
      unfold MemoryBus.loadGamePakRom at hmemory
      split at hmemory
      · contradiction
      · rw [← Option.some.inj hmemory]
        exact h
  | read address => exact h
  | write8 address value => exact sized_keptByAperture.write8 callbacks h address value
  | write16 address value => exact sized_keptByAperture.write16 callbacks h address value
  | write32 address value => exact sized_keptByAperture.write32 callbacks h address value
  | reset => exact h.resetFlashProtocol
  | sessionReset => exact GamePakSave.sized_clear _
  | loadState state =>
      refine accept_sized h fun memory hmemory => ?_
      obtain ⟨rfl, hsized⟩ := MemoryBus.loadState_eq_some hmemory
      exact hsized

/-- Over every run of the bus the save has the size of its type, only a 128 KiB flash shows a
bank other than the first, and every access is inside the buffer. -/
theorem save_invariant (callbacks : MemoryBusIoCallbacks σ) (devices : σ)
    (operations : List SaveOperation) :
    let bus := operations.foldl (SaveOperation.run callbacks) ⟨.initial, devices⟩
    bus.memory.gamePakSave.Sized ∧ bus.memory.gamePakSave.InBounds := by
  have hsized : ∀ bus : BusState σ, bus.memory.gamePakSave.Sized →
      (operations.foldl (SaveOperation.run callbacks) bus).memory.gamePakSave.Sized := by
    induction operations with
    | nil => exact fun _ h => h
    | cons operation operations ih =>
        exact fun bus h => ih _ (operation.run_sized callbacks h)
  have hrun := hsized ⟨.initial, devices⟩ (GamePakSave.sized_clear ⟨.none, [], .idle, false, 0⟩)
  exact ⟨hrun, hrun.inBounds⟩

end BusState

end Gba.Core
