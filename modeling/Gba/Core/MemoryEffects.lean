import Gba.Core.BusEffects
import Gba.Core.SaveMemory

/-!
# What a run does to the memory

A store changes work RAM and video memory, one byte of the save through its aperture, or the debug
output. The ROM and the type of the save are out of reach of everything that runs, and the debug
output only grows.
-/

namespace Gba.Core

/-- The cartridge and the debug output are the ones before. -/
structure MemoryBus.SameCartridge (memory after : MemoryBus) : Prop where
  rom : after.gamePakRom = memory.gamePakRom
  save : after.gamePakSave = memory.gamePakSave
  output : after.debugOutput = memory.debugOutput

/-- One thing that happens to the memory. -/
inductive MemoryEffect (memory : MemoryBus) : MemoryBus → Prop where
  | ram {after : MemoryBus} (h : memory.SameCartridge after) : MemoryEffect memory after
  | saveByte (write : ApertureWrite) :
      MemoryEffect memory { memory with gamePakSave := memory.gamePakSave.write write }
  | output (bytes : List U8) :
      MemoryEffect memory { memory with debugOutput := memory.debugOutput ++ bytes }

/-- A sequence of effects. -/
abbrev MemoryEffects : MemoryBus → MemoryBus → Prop := Relation.ReflTransGen MemoryEffect

namespace MemoryEffects

variable {memory after : MemoryBus}

theorem ram (h : memory.SameCartridge after) : MemoryEffects memory after := .single (.ram h)

/-! ## Stores -/

section Stores

variable {σ : Type} (callbacks : MemoryBusIoCallbacks σ)

theorem writeDebug8 {address : U32} {value : U8}
    (h : memory.writeDebug8 address value = some after) : MemoryEffects memory after := by
  unfold MemoryBus.writeDebug8 at h
  split_ifs at h
  · obtain rfl := Option.some.inj h
    exact ram ⟨rfl, rfl, rfl⟩
  · obtain rfl := Option.some.inj h
    exact .single (.output [value])

theorem writeGamePakSaveByte (bus : BusState σ) (offset : U32) (value : U8) :
    MemoryEffects bus.memory (bus.writeGamePakSaveByte offset value).2.memory :=
  .single (.saveByte ⟨offset.toNat, value⟩)

theorem write8Memory (bus : BusState σ) (info : AddressInfo) (value : U8) :
    MemoryEffects bus.memory (bus.write8Memory info value).2.memory := by
  unfold BusState.write8Memory
  cases info.region with
  | vram =>
      dsimp only
      split
      · exact .refl
      · exact ram ⟨rfl, rfl, rfl⟩
  | ewram | iwram | palette => exact ram ⟨rfl, rfl, rfl⟩
  | _ => exact .refl

theorem write8 (bus : BusState σ) (address : U32) (value : U8) :
    MemoryEffects bus.memory (bus.write8 callbacks address value).2.memory := by
  unfold BusState.write8
  split
  · next written hdebug => exact writeDebug8 hdebug
  dsimp only
  split
  · exact .refl
  split
  · exact writeGamePakSaveByte bus _ _
  split
  · exact .refl
  split
  · exact .refl
  · split
    · exact .refl
    · exact write8Memory bus _ _

theorem writeBytes (value address : U32) (count : Nat) {result : Bool × BusState σ}
    (h : MemoryEffects memory result.2.memory) :
    MemoryEffects memory
      (BusState.writeBytes callbacks value address count result).2.memory := by
  induction count with
  | zero => exact h
  | succ count ih =>
      unfold BusState.writeBytes BusState.andThen
      split
      · exact ih.trans (write8 callbacks _ _ _)
      · exact ih

theorem flushMgbaDebugString (flags : U16) :
    MemoryEffects memory (memory.flushMgbaDebugString flags) := by
  unfold MemoryBus.flushMgbaDebugString
  split
  · exact .refl
  dsimp only
  split
  · exact .single (.output _)
  · rw [List.append_assoc]
    exact .single (.output _)

theorem writeDebug16 {bus bus' : BusState σ} {address : U32} {value : U16}
    (h : bus.writeDebug16 address value = some bus') : MemoryEffects bus.memory bus'.memory := by
  unfold BusState.writeDebug16 at h
  split at h
  · rw [Option.some.inj h]
  split at h
  · rw [← Option.some.inj h]
    exact flushMgbaDebugString value
  split at h
  · obtain ⟨memory, hmemory, rfl⟩ := Option.map_eq_some_iff.mp h
    obtain ⟨first, hfirst, hsecond⟩ := Option.bind_eq_some_iff.mp hmemory
    exact (writeDebug8 hfirst).trans (writeDebug8 hsecond)
  split at h
  · rw [← Option.some.inj h]
    exact .single (.output _)
  · contradiction

theorem writeDebug32 {bus bus' : BusState σ} {address value : U32}
    (h : bus.writeDebug32 callbacks address value = some bus') :
    MemoryEffects bus.memory bus'.memory := by
  unfold BusState.writeDebug32 at h
  split at h
  · obtain ⟨memory, hmemory, rfl⟩ := Option.map_eq_some_iff.mp h
    simp only [List.range, List.range.loop, List.foldlM_cons, List.foldlM_nil, Option.bind_eq_bind,
      Option.pure_def, Option.bind_eq_some_iff] at hmemory
    obtain ⟨m0, h0, m1, h1, m2, h2, m3, h3, hlast⟩ := hmemory
    rw [← Option.some.inj hlast]
    exact (((writeDebug8 h0).trans (writeDebug8 h1)).trans (writeDebug8 h2)).trans (writeDebug8 h3)
  split at h
  · rw [← Option.some.inj h]
    exact .single (.output _)
  split at h
  · rw [← Option.some.inj h]
    exact .single (.output _)
  · contradiction

theorem writeUnit (bus : BusState σ) (address value : U32) (count : Nat) :
    MemoryEffects bus.memory (bus.writeUnit callbacks address value count).2.memory := by
  unfold BusState.writeUnit
  dsimp only
  split_ifs
  · exact .refl
  · exact ram ⟨rfl, rfl, rfl⟩
  · exact ram ⟨rfl, rfl, rfl⟩
  · exact ram ⟨rfl, rfl, rfl⟩
  · exact writeBytes callbacks value address count .refl

theorem write16 (bus : BusState σ) (address : U32) (value : U16) :
    MemoryEffects bus.memory (bus.write16 callbacks address value).2.memory := by
  unfold BusState.write16
  dsimp only
  split
  · exact .refl
  split
  · exact writeGamePakSaveByte bus _ _
  split
  · next hdebug => exact writeDebug16 hdebug
  split
  · exact .refl
  · split
    · exact writeBytes callbacks _ _ _ .refl
    split
    · exact .refl
    · exact writeUnit callbacks bus _ _ _

theorem write32 (bus : BusState σ) (address value : U32) :
    MemoryEffects bus.memory (bus.write32 callbacks address value).2.memory := by
  unfold BusState.write32
  dsimp only
  split
  · exact .refl
  split
  · exact writeGamePakSaveByte bus _ _
  split
  · next hdebug => exact writeDebug32 callbacks hdebug
  split
  · exact .refl
  · split
    · exact writeBytes callbacks _ _ _ .refl
    split
    · exact .refl
    · exact writeUnit callbacks bus _ _ _

end Stores

/-! ## What stays -/

theorem rom (h : MemoryEffects memory after) : after.gamePakRom = memory.gamePakRom := by
  induction h with
  | refl => rfl
  | tail _ heffect ih =>
      cases heffect with
      | ram h => exact h.rom.trans ih
      | saveByte write => exact ih
      | output bytes => exact ih

/-- The save is what writes through its aperture make of it. -/
theorem save (h : MemoryEffects memory after) :
    ∃ writes, after.gamePakSave = memory.gamePakSave.writeAll writes := by
  induction h with
  | refl => exact ⟨[], rfl⟩
  | tail _ heffect ih =>
      obtain ⟨writes, hsave⟩ := ih
      cases heffect with
      | ram h => exact ⟨writes, h.save.trans hsave⟩
      | saveByte write =>
          refine ⟨writes ++ [write], ?_⟩
          rw [GamePakSave.writeAll, List.foldl_append, List.foldl_cons, List.foldl_nil]
          exact congrArg (GamePakSave.write · write) hsave
      | output bytes => exact ⟨writes, hsave⟩

theorem output (h : MemoryEffects memory after) : memory.debugOutput <+: after.debugOutput := by
  induction h with
  | refl => exact List.prefix_rfl
  | tail _ heffect ih =>
      cases heffect with
      | ram h => exact h.output ▸ ih
      | saveByte write => exact ih
      | output bytes => exact ih.trans (List.prefix_append _ _)

end MemoryEffects

/-- What an effect on the bus does to the memory. -/
theorem BusEffect.memory_effects {system after : System} (h : BusEffect system after) :
    MemoryEffects system.memory after.memory := by
  cases h with
  | store8 address value => exact MemoryEffects.write8 ioCallbacks system address value
  | store16 address value => exact MemoryEffects.write16 ioCallbacks system address value
  | store32 address value => exact MemoryEffects.write32 ioCallbacks system address value
  | openBus value => exact .ram ⟨rfl, rfl, rfl⟩
  | releaseOpenBus => exact .ram ⟨rfl, rfl, rfl⟩
  | clearRam flags => exact .ram ⟨rfl, rfl, rfl⟩
  | _ => exact .refl

/-- What happens to the memory while time passes. -/
theorem DeviceEffect.memory_effects {system after : System} (h : DeviceEffect system after) :
    MemoryEffects system.memory after.memory := by
  cases h with
  | bus h => exact h.memory_effects
  | tick a interval h =>
      subst h
      exact .refl
  | _ => exact .refl

/-- What a run does to the memory. -/
theorem DeviceEffects.memory_effects {system after : System} (h : DeviceEffects system after) :
    MemoryEffects system.memory after.memory := by
  induction h with
  | refl => exact .refl
  | tail _ heffect ih => exact ih.trans heffect.memory_effects

/-- Writes through the aperture keep the type of the save and its size. -/
theorem GamePakSave.writeAll_sized {save : GamePakSave} (h : save.Sized)
    (writes : List ApertureWrite) :
    (save.writeAll writes).saveType = save.saveType ∧ (save.writeAll writes).Sized := by
  induction writes using List.reverseRecOn with
  | nil => exact ⟨rfl, h⟩
  | append_singleton writes write ih =>
      rw [writeAll, List.foldl_append]
      obtain ⟨htype, hsized⟩ := ih.2.writeByte write.offset write.value
      exact ⟨htype.trans ih.1, hsized⟩

end Gba.Core
