import Gba.Core.GamePakSave
import Gba.Desktop.Persistence

/-!
# The cartridge save of the desktop host

The part of `DesktopApp` that moves the cartridge save between the running session and the files:
the end of `load_rom_from_path`, `flush_cartridge_save`, `reset_runtime` and `read_save_state_path`.
The in-game save changes through the writes that a game can make to it.
-/

namespace Gba.Desktop

open CrashFiles Core

namespace Persistence

/-- `read_binary_file`: a file that is missing, unreadable or empty reads as no data. -/
def readBinaryFile (readable : Bool) (files : HostFiles) (path : String) : Bytes :=
  if readable then (files path).getD [] else []

/-- The suffix of the copies of rejected saves. -/
def rejectedSuffix : String := ".rejected"

/-- The names that `backup_file` tries, in order. -/
def candidateName (base : String) (attempt : Nat) : String :=
  if attempt = 0 then base else base ++ ("." ++ toString attempt)

/-- The loop of `backup_file`: the first free name, or the last one tried. -/
def backupCandidate (files : HostFiles) (base : String) : (remaining attempt : Nat) → Nat
  | 0, attempt => attempt
  | remaining + 1, attempt =>
      if (files (candidateName base attempt)).isSome then
        backupCandidate files base remaining (attempt + 1)
      else attempt

/-- The name that `backup_file` copies to: at most 1000 names are tried. -/
def backupName (files : HostFiles) (path : String) : String :=
  candidateName (path ++ rejectedSuffix) (backupCandidate files (path ++ rejectedSuffix) 999 0)

/-- What happens to `copy_file`: it succeeds, or fails and leaves the destination untouched or with
a part of the contents. -/
inductive CopyFault where
  | succeeds
  | failsUntouched
  | failsPartial (written : Nat)
  deriving DecidableEq

/-- `backup_file` with the suffix of rejected saves: the files, and whether a copy was made. -/
def backupFile (fault : CopyFault) (files : HostFiles) (path : String) : HostFiles × Bool :=
  match files path with
  | none => (files, false)
  | some content =>
      match fault with
      | .succeeds => (Function.update files (backupName files path) (some content), true)
      | .failsUntouched => (files, false)
      | .failsPartial written =>
          (Function.update files (backupName files path) (some (content.take written)), false)

end Persistence

open Persistence

/-- `kSnapshotFlushFrames`. -/
def kSnapshotFlushFrames : U32 := 300

/-- The cartridge-save part of `DesktopApp`, with the save memory of its session. -/
structure SaveHost where
  cartridgeSavePath : String
  cartridgeSaveEnabled : Bool
  cartridgeSaveSnapshot : Bytes
  framesSinceSaveFlush : U32
  memory : GamePakSave

/-- The host and the files. -/
structure App where
  host : SaveHost
  files : HostFiles

/-- The save memory that `load_rom` leaves for a save type. -/
def freshSave (type : GamePakSaveType) : GamePakSave :=
  GamePakSave.configure ⟨.none, [], .idle, false, 0⟩ type

/-- What happens to the file operations of one load. -/
structure LoadFaults where
  recoveryFails : Bool
  readFails : Bool
  copy : CopyFault

/-- The faults of the `.old` recovery: its rename is the only operation that can fail. -/
def LoadFaults.recovery (faults : LoadFaults) : List Fault :=
  [.succeeds, .succeeds, if faults.recoveryFails then .fails 0 else .succeeds]

/-- The import of an existing save, or its preservation as a rejected copy. Without a preserved
copy the writes of this session are disabled. -/
def importExisting (faults : LoadFaults) (existing : Bytes) (app : App) : App :=
  match app.host.memory.importSave app.host.memory.saveType existing with
  | some memory => { app with host := { app.host with memory := memory } }
  | none =>
      let backup := backupFile faults.copy app.files app.host.cartridgeSavePath
      { host := { app.host with cartridgeSaveEnabled := backup.2 }, files := backup.1 }

/-- The in-memory save is taken to be what is on disk. -/
def takeSnapshot (app : App) : App :=
  { app with host := { app.host with cartridgeSaveSnapshot := app.host.memory.exportSave } }

/-- The cartridge-save part of `load_rom_from_path`, for a game whose save type was configured. -/
def loadCartridgeSave (path : String) (type : GamePakSaveType) (faults : LoadFaults)
    (files : HostFiles) : App :=
  let memory := freshSave type
  if type ≠ .none ∧ memory.present then
    let files := (recoverOrphan path ⟨files, faults.recovery⟩).2.files
    let app : App := ⟨⟨path, true, [], 0, memory⟩, files⟩
    let existing := readBinaryFile (!faults.readFails) files path
    takeSnapshot (if existing ≠ [] then importExisting faults existing app else app)
  else ⟨⟨"", false, [], 0, memory⟩, files⟩

/-- The faults of the operations of a flush; a crash ends the run. -/
abbrev FlushFaults := List Fault

/-- `flush_cartridge_save`: the value returned, unless the process crashed, and what it leaves. -/
def flushCartridgeSave (force : Bool) (faults : FlushFaults) (app : App) : Option Bool × App :=
  if !app.host.cartridgeSaveEnabled || app.host.cartridgeSavePath.isEmpty then (some true, app)
  else
    let current := app.host.memory.exportSave
    let host := { app.host with framesSinceSaveFlush := app.host.framesSinceSaveFlush + 1 }
    if !force && current = host.cartridgeSaveSnapshot then (some true, { app with host := host })
    else if !force && host.framesSinceSaveFlush < kSnapshotFlushFrames then
      (some true, { app with host := host })
    else if current = [] then
      (some false, { app with host := { host with framesSinceSaveFlush := 0 } })
    else
      match writeFileAtomic host.cartridgeSavePath current ⟨app.files, faults⟩ with
      | (some true, d) =>
          (some true,
            ⟨{ host with cartridgeSaveSnapshot := current, framesSinceSaveFlush := 0 }, d.files⟩)
      | (some false, d) => (some false, ⟨{ host with framesSinceSaveFlush := 0 }, d.files⟩)
      | (none, d) => (none, ⟨host, d.files⟩)

/-- How the reload inside `reset_runtime` goes. -/
inductive ReloadOutcome where
  /-- The ROM file cannot be read; nothing happens. -/
  | romUnreadable
  /-- The engine rejects the ROM. The session is rolled back, or left without a cartridge. -/
  | rejected (restored : Bool)
  /-- The ROM is loaded again and configures a save type. -/
  | loaded (type : GamePakSaveType)

/-- `reset_runtime`. -/
def resetRuntime (outcome : ReloadOutcome) (host : SaveHost) : SaveHost :=
  let cartridgeSave := host.memory.exportSave
  match outcome with
  | .romUnreadable => host
  | .rejected restored =>
      if restored then host else { host with memory := host.memory.clear }
  | .loaded type =>
      let reloaded := { host with memory := host.memory.configure type }
      let restored :=
        if host.memory.saveType ≠ .none ∧ cartridgeSave ≠ [] then
          match reloaded.memory.importSave host.memory.saveType cartridgeSave with
          | some memory => { reloaded with memory := memory }
          | none => { reloaded with cartridgeSaveEnabled := false }
        else reloaded
      { restored with cartridgeSaveSnapshot := cartridgeSave, framesSinceSaveFlush := 0 }

/-- `read_save_state_path`, once the state has been decoded: a state with another save type is
refused. -/
def readSaveState (restored : GamePakSave) (host : SaveHost) : SaveHost :=
  if restored.saveType ≠ host.memory.saveType then host
  else
    { host with
      memory := restored
      cartridgeSaveSnapshot := restored.exportSave
      framesSinceSaveFlush := 0 }

/-- The steps of a run of the host after a load. -/
inductive HostEvent where
  | gameWrite (offset : Nat) (value : U8)
  | flush (force : Bool) (faults : FlushFaults)
  | reset (outcome : ReloadOutcome)
  | readSaveState (restored : GamePakSave)

/-- One step; a crash leaves no host. -/
def App.step (app : App) : HostEvent → Option App
  | .gameWrite offset value =>
      some { app with
        host := { app.host with memory := (app.host.memory.writeByte offset value).1 } }
  | .flush force faults =>
      let r := flushCartridgeSave force faults app
      r.1.map fun _ => r.2
  | .reset outcome => some { app with host := resetRuntime outcome app.host }
  | .readSaveState restored => some { app with host := Desktop.readSaveState restored app.host }

end Gba.Desktop
