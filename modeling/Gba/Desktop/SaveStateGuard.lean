import Gba.Core.SaveStateCodec

/-!
# Loading a save state into a running game

`load_save_state_for_session` of `save_state_guard.hpp`: a save state is decoded into a scratch
session and taken over only when it belongs to the cartridge that is running. Decoding commits
last, so that whatever fails before leaves the session as it was.
-/

namespace Gba.Core.SaveStateCodec

open Gba.Library

/-- A reader that starts inside the input does not fault. -/
theorem run_ne_fault {α : Type} (p : Reader α) {bytes : List U8} {offset : Nat}
    (h : offset ≤ bytes.length) : p.run bytes offset ≠ .fault := by
  intro hfault
  have hwithin := p.within bytes offset h
  rw [hfault] at hwithin
  exact hwithin

/-- A reader that starts inside the input ends inside it. -/
theorem next_le {α : Type} {p : Reader α} {bytes : List U8} {offset next : Nat} {a : α}
    (h : offset ≤ bytes.length) (hrun : p.run bytes offset = .value a next) :
    next ≤ bytes.length := by
  have hwithin := p.within bytes offset h
  rw [hrun] at hwithin
  exact hwithin.2

/-- A restored machine that is not committed leaves the session alone. -/
theorem commit_of_not_ok {session : CoreSession} {version : U32} {encodedHash : U64}
    {snapshot : SnapshotState} (h : (commit session version encodedHash snapshot).1.status ≠ .ok) :
    (commit session version encodedHash snapshot).2 = session := by
  unfold commit at h ⊢
  cases hmachine : restoreMachine snapshot with
  | none => rfl
  | some next =>
      rw [hmachine] at h
      dsimp only at h ⊢
      by_cases hhash : next.snapshotStateHash (version < 5#32) ≠ encodedHash
      · rw [if_pos hhash]
      · rw [if_neg hhash] at h
        exact absurd rfl h

/-- Every byte string is decoded without leaving it, and changes the session only when the status
is `ok`. -/
theorem decodeInto_atomic (session : CoreSession) (bytes : List U8) :
    ∃ result after, decodeInto session bytes = some (result, after) ∧
      (result.status ≠ .ok → after = session) := by
  unfold decodeInto
  split
  · exact ⟨_, _, rfl, fun _ => rfl⟩
  cases hmagic : Reader.readU32.run bytes 0 with
  | fault => exact absurd hmagic (run_ne_fault _ (Nat.zero_le _))
  | refused => exact ⟨_, _, rfl, fun _ => rfl⟩
  | value magic afterMagic =>
  have hafterMagic := next_le (Nat.zero_le _) hmagic
  dsimp only
  split
  · exact ⟨_, _, rfl, fun _ => rfl⟩
  cases hversion : Reader.readU32.run bytes afterMagic with
  | fault => exact absurd hversion (run_ne_fault _ hafterMagic)
  | refused => exact ⟨_, _, rfl, fun _ => rfl⟩
  | value version afterVersion =>
  have hafterVersion := next_le hafterMagic hversion
  dsimp only
  split
  · exact ⟨_, _, rfl, fun _ => rfl⟩
  cases hhash : Reader.readU64.run bytes afterVersion with
  | fault => exact absurd hhash (run_ne_fault _ hafterVersion)
  | refused => exact ⟨_, _, rfl, fun _ => rfl⟩
  | value encodedHash afterHash =>
  have hafterHash := next_le hafterVersion hhash
  dsimp only
  cases hparse : (parseSnapshot version).run bytes afterHash with
  | fault => exact absurd hparse (run_ne_fault _ hafterHash)
  | refused => exact ⟨_, _, rfl, fun _ => rfl⟩
  | value snapshot next => exact ⟨_, _, rfl, commit_of_not_ok⟩

end Gba.Core.SaveStateCodec

namespace Gba.Desktop

open Gba.Core

/-- `SaveStateLoadStatus`. -/
inductive SaveStateLoadStatus where
  | ok | decodeFailed | wrongRom | wrongSaveType
  deriving DecidableEq, Repr

/-- `load_save_state_for_session`: the status, the live session and the scratch session. -/
def loadSaveStateForSession (live : CoreSession) (blob : List U8) (scratch : CoreSession) :
    Option (SaveStateLoadStatus × CoreSession × CoreSession) :=
  (SaveStateCodec.decodeInto scratch blob).map fun (decoded, scratch) =>
    let scratchMemory := scratch.system.memory
    let liveMemory := live.system.memory
    if decoded.status ≠ .ok then (.decodeFailed, live, scratch)
    else if scratchMemory.gamePakRom ≠ liveMemory.gamePakRom then (.wrongRom, live, scratch)
    else if scratchMemory.gamePakSave.saveType ≠ liveMemory.gamePakSave.saveType then
      (.wrongSaveType, live, scratch)
    else (.ok, live.loadState scratch.saveState, scratch)

/-- The guard takes a decoded session over only with the cartridge and the save type of the live
one. -/
theorem loadSaveStateForSession_guarded (live : CoreSession) (blob : List U8)
    (scratch : CoreSession) :
    ∃ status liveAfter scratchAfter,
      loadSaveStateForSession live blob scratch = some (status, liveAfter, scratchAfter) ∧
      (status ≠ .ok → liveAfter = live) ∧
      (status = .ok →
        liveAfter.system.memory.gamePakRom = live.system.memory.gamePakRom ∧
        liveAfter.system.memory.gamePakSave.saveType =
          live.system.memory.gamePakSave.saveType) := by
  obtain ⟨decoded, decodedScratch, hdecode, -⟩ := SaveStateCodec.decodeInto_atomic scratch blob
  unfold loadSaveStateForSession
  rw [hdecode, Option.map_some]
  dsimp only
  by_cases hstatus : decoded.status ≠ .ok
  · rw [if_pos hstatus]
    exact ⟨_, _, _, rfl, fun _ => rfl, nofun⟩
  rw [if_neg hstatus]
  by_cases hrom : decodedScratch.system.memory.gamePakRom ≠ live.system.memory.gamePakRom
  · rw [if_pos hrom]
    exact ⟨_, _, _, rfl, fun _ => rfl, nofun⟩
  rw [if_neg hrom]
  by_cases htype : decodedScratch.system.memory.gamePakSave.saveType ≠
      live.system.memory.gamePakSave.saveType
  · rw [if_pos htype]
    exact ⟨_, _, _, rfl, fun _ => rfl, nofun⟩
  rw [if_neg htype]
  exact ⟨_, _, _, rfl, fun h => absurd rfl h, fun _ => ⟨not_not.mp hrom, not_not.mp htype⟩⟩

/-- Restoring is atomic: decoding never leaves the input and changes nothing unless it succeeds,
and the guard leaves the live session untouched unless it succeeds, and then keeps its cartridge
and save type. -/
theorem restore_atomic (session live scratch : CoreSession) (bytes : List U8) :
    (∃ result after, SaveStateCodec.decodeInto session bytes = some (result, after) ∧
      (result.status ≠ .ok → after = session)) ∧
    (∀ version offset, offset ≤ bytes.length →
      ((parseSnapshot version).run bytes offset).Within offset bytes.length) ∧
    ∃ status liveAfter scratchAfter,
      loadSaveStateForSession live bytes scratch = some (status, liveAfter, scratchAfter) ∧
      (status ≠ .ok → liveAfter = live) ∧
      (status = .ok →
        liveAfter.system.memory.gamePakRom = live.system.memory.gamePakRom ∧
        liveAfter.system.memory.gamePakSave.saveType =
          live.system.memory.gamePakSave.saveType) :=
  ⟨SaveStateCodec.decodeInto_atomic session bytes,
    fun version offset h => (parseSnapshot version).within bytes offset h,
    loadSaveStateForSession_guarded live bytes scratch⟩

end Gba.Desktop
