import Gba.Desktop.CartridgeSave

/-!
# Loading and the existing save

Whether a save that exists when a game is loaded survives the flushes that follow.
`survivesFlushes_iff` gives the exact condition on the files and on the failures of the load.
-/

namespace Gba.Desktop

open CrashFiles Core Persistence

/-- `cartridge_save_path`. -/
def cartridgeSavePath (saveDataPrefix : String) : String := saveDataPrefix ++ ".sav"

theorem cartridgeSavePath_not_isEmpty (saveDataPrefix : String) :
    (cartridgeSavePath saveDataPrefix).isEmpty = false := by
  rw [String.isEmpty_eq_false_iff]
  intro h
  have := congrArg String.length h
  rw [cartridgeSavePath, String.length_append] at this
  exact absurd this (by simp)

/-- A run of the host; a crash ends it. -/
def runHost (app : App) (events : List HostEvent) : Option App :=
  events.foldlM App.step app

/-- A step of the game or a flush. -/
def HostEvent.isPlay : HostEvent → Bool
  | .gameWrite _ _ => true
  | .flush _ _ => true
  | _ => false

/-- Some file that belongs to the save holds exactly these bytes. -/
def Held (path : String) (files : HostFiles) (save : Bytes) : Prop :=
  files path = some save ∨ files (backupPath path) = some save ∨
    ∃ k < 1000, files (candidateName (path ++ rejectedSuffix) k) = some save

/-- After any flushes, forced or not and each possibly failing, with any game writes between them,
the session was started from these bytes or some file holds them. -/
def SurvivesFlushes (path : String) (app : App) (save : Bytes) : Prop :=
  ∀ events, (∀ e ∈ events, e.isPlay = true) → ∀ app', runHost app events = some app' →
    app.host.memory.exportSave = save ∨ Held path app'.files save

/-! ## Names -/

theorem candidateName_not_mem_writeNames (path : String) (k : Nat) :
    candidateName (path ++ rejectedSuffix) k ∉ writeNames path := by
  have hname : ∃ rest : String, candidateName (path ++ rejectedSuffix) k = path ++ rest ∧
      9 ≤ rest.length := by
    unfold candidateName
    split
    · exact ⟨rejectedSuffix, rfl, by decide⟩
    · refine ⟨rejectedSuffix ++ ("." ++ toString k), by rw [String.append_assoc], ?_⟩
      rw [String.length_append, show rejectedSuffix.length = 9 by decide]
      omega
  obtain ⟨rest, hname, hlen⟩ := hname
  rw [hname]
  rintro (h | h | h)
  · exact append_ne_self (by omega) h
  · have := (String.append_right_inj path).mp h
    rw [this] at hlen
    exact absurd hlen (by decide)
  · have := (String.append_right_inj path).mp h
    rw [this] at hlen
    exact absurd hlen (by decide)

theorem path_ne_candidateName (path : String) (k : Nat) :
    path ≠ candidateName (path ++ rejectedSuffix) k :=
  fun h => candidateName_not_mem_writeNames path k (.inl h.symm)

theorem backupPath_ne_candidateName (path : String) (k : Nat) :
    backupPath path ≠ candidateName (path ++ rejectedSuffix) k :=
  fun h => candidateName_not_mem_writeNames path k (.inr (.inr h.symm))

theorem backupCandidate_lt (files : HostFiles) (base : String) (remaining attempt : Nat) :
    backupCandidate files base remaining attempt < attempt + remaining + 1 := by
  induction remaining generalizing attempt with
  | zero => simp [backupCandidate]
  | succ remaining ih =>
      unfold backupCandidate
      split
      · have := ih (attempt + 1)
        omega
      · omega

/-- The candidate depends on the rejected copies only. -/
theorem backupCandidate_congr {files files' : HostFiles} {base : String}
    (h : ∀ k, files (candidateName base k) = files' (candidateName base k))
    (remaining attempt : Nat) :
    backupCandidate files base remaining attempt =
      backupCandidate files' base remaining attempt := by
  induction remaining generalizing attempt with
  | zero => rfl
  | succ remaining ih => simp only [backupCandidate, h, ih]

/-! ## Steps -/

/-- A reset keeps the path and enables no writes. -/
theorem resetRuntime_keeps (outcome : ReloadOutcome) (host : SaveHost) :
    (resetRuntime outcome host).cartridgeSavePath = host.cartridgeSavePath ∧
      (host.cartridgeSaveEnabled = false →
        (resetRuntime outcome host).cartridgeSaveEnabled = false) := by
  cases outcome with
  | romUnreadable => exact ⟨rfl, id⟩
  | rejected restored => cases restored <;> exact ⟨rfl, id⟩
  | loaded type =>
      simp only [resetRuntime]
      split
      · split
        · exact ⟨rfl, id⟩
        · exact ⟨rfl, fun _ => rfl⟩
      · exact ⟨rfl, id⟩

/-- A step keeps the path and touches the names of a write only; without enabled writes it touches
nothing and enables none. -/
theorem step_files {app app' : App} {event : HostEvent} (h : app.step event = some app') :
    app'.host.cartridgeSavePath = app.host.cartridgeSavePath ∧
      (∀ name, name ∉ writeNames app.host.cartridgeSavePath →
        app'.files name = app.files name) ∧
      (app.host.cartridgeSaveEnabled = false →
        app'.host.cartridgeSaveEnabled = false ∧ app'.files = app.files) := by
  cases event with
  | gameWrite offset value =>
      obtain rfl := Option.some.inj h
      exact ⟨rfl, fun _ _ => rfl, fun h => ⟨h, rfl⟩⟩
  | flush force faults =>
      simp only [App.step] at h
      obtain ⟨_, -, rfl⟩ := Option.map_eq_some_iff.mp h
      have hwithin := writeFileAtomic_within app.host.cartridgeSavePath
        app.host.memory.exportSave ⟨app.files, faults⟩
      unfold flushCartridgeSave
      split
      · exact ⟨rfl, fun _ _ => rfl, fun h => ⟨h, rfl⟩⟩
      next hopen =>
        have henabled : app.host.cartridgeSaveEnabled ≠ false := by
          intro hoff
          simp [hoff] at hopen
        dsimp only
        split_ifs
        · exact ⟨rfl, fun _ _ => rfl, fun h => ⟨h, rfl⟩⟩
        · exact ⟨rfl, fun _ _ => rfl, fun h => ⟨h, rfl⟩⟩
        · exact ⟨rfl, fun _ _ => rfl, fun h => ⟨h, rfl⟩⟩
        · split
          all_goals
            next hwrite =>
              rw [hwrite] at hwithin
              exact ⟨rfl, hwithin, fun h => absurd h henabled⟩
  | reset outcome =>
      obtain rfl := Option.some.inj h
      have hkeeps := resetRuntime_keeps outcome app.host
      exact ⟨hkeeps.1, fun _ _ => rfl, fun hoff => ⟨hkeeps.2 hoff, rfl⟩⟩
  | readSaveState restored =>
      obtain rfl := Option.some.inj h
      unfold Desktop.readSaveState
      split <;> exact ⟨rfl, fun _ _ => rfl, fun hoff => ⟨hoff, rfl⟩⟩

/-- The same over a whole run. -/
theorem runHost_files {app app' : App} {events : List HostEvent}
    (h : runHost app events = some app') :
    app'.host.cartridgeSavePath = app.host.cartridgeSavePath ∧
      (∀ name, name ∉ writeNames app.host.cartridgeSavePath →
        app'.files name = app.files name) ∧
      (app.host.cartridgeSaveEnabled = false → app'.files = app.files) := by
  induction events generalizing app with
  | nil =>
      obtain rfl := Option.some.inj h
      exact ⟨rfl, fun _ _ => rfl, fun _ => rfl⟩
  | cons event events ih =>
      rw [runHost, List.foldlM_cons] at h
      obtain ⟨mid, hstep, hrest⟩ := Option.bind_eq_some_iff.mp h
      obtain ⟨hpath, hfiles, hoff⟩ := step_files hstep
      obtain ⟨hpath', hfiles', hoff'⟩ := ih hrest
      rw [hpath] at hpath' hfiles'
      refine ⟨hpath', fun name hname => (hfiles' name hname).trans (hfiles name hname), ?_⟩
      intro hdisabled
      obtain ⟨hstill, hsame⟩ := hoff hdisabled
      exact (hoff' hstill).trans hsame

/-! ## The load -/

/-- What the load reads at the save path, after the recovery of an orphan. -/
def contentRead (path : String) (faults : LoadFaults) (files : HostFiles) : Bytes :=
  if faults.readFails then []
  else
    match files path with
    | some content => content
    | none => if faults.recoveryFails then [] else (files (backupPath path)).getD []

/-- The existing save is not one of the configured type. -/
def Rejected (path : String) (type : GamePakSaveType) (faults : LoadFaults) (files : HostFiles) :
    Prop :=
  contentRead path faults files ≠ [] ∧
    (contentRead path faults files).length ≠ saveSizeForType type

/-- The files after the recovery of an orphan. -/
def recovered (path : String) (faults : LoadFaults) (files : HostFiles) : HostFiles :=
  match files path, files (backupPath path) with
  | none, some content =>
      if faults.recoveryFails then files
      else Function.update (Function.update files (backupPath path) none) path (some content)
  | _, _ => files

theorem recoverOrphan_files (path : String) (faults : LoadFaults) (files : HostFiles) :
    (recoverOrphan path ⟨files, faults.recovery⟩).2.files = recovered path faults files := by
  obtain ⟨recoveryFails, readFails, copy⟩ := faults
  cases hpath : files path <;> cases hbackup : files (backupPath path) <;> cases recoveryFails <;>
    simp [recoverOrphan, recovered, LoadFaults.recovery, bind, FileM.andThen, FileM.isPresent,
      Disk.nextFault, FileM.rename, FileM.moveFile, FileM.setFile, pure, FileM.ret, hpath, hbackup]

theorem contentRead_eq (path : String) (faults : LoadFaults) (files : HostFiles) :
    readBinaryFile (!faults.readFails) (recovered path faults files) path =
      contentRead path faults files := by
  unfold readBinaryFile recovered contentRead
  cases faults.readFails with
  | true => rfl
  | false =>
      cases hpath : files path <;> cases hbackup : files (backupPath path) <;>
        cases faults.recoveryFails <;> simp [hpath]

/-- The recovery moves a save at most from the sibling to its place. -/
theorem recovered_holds {path : String} {faults : LoadFaults} {files : HostFiles} {save : Bytes}
    (h : files path = some save ∨ files (backupPath path) = some save) :
    recovered path faults files path = some save ∨
      recovered path faults files (backupPath path) = some save := by
  unfold recovered
  cases hpath : files path with
  | some content =>
      rw [hpath] at h
      simpa [hpath] using h
  | none =>
      have hbackup : files (backupPath path) = some save := by
        rcases h with h | h
        · rw [hpath] at h; contradiction
        · exact h
      simp only [hbackup]
      split_ifs
      · exact .inr hbackup
      · exact .inl (by simp)

theorem recovered_of_not_mem {path : String} {faults : LoadFaults} {files : HostFiles}
    {name : String} (h : name ∉ writeNames path) :
    recovered path faults files name = files name := by
  have hpath : name ≠ path := fun heq => h (.inl heq)
  have hbackup : name ≠ backupPath path := fun heq => h (.inr (.inr heq))
  cases hfile : files path <;> cases horphan : files (backupPath path) <;>
    cases hrec : faults.recoveryFails <;> simp [recovered, hfile, horphan, hrec, hpath, hbackup]

theorem recovered_path_of_read {path : String} {faults : LoadFaults} {files : HostFiles}
    (h : contentRead path faults files ≠ []) :
    recovered path faults files path = some (contentRead path faults files) := by
  unfold contentRead at h ⊢
  unfold recovered
  cases hread : faults.readFails with
  | true => simp [hread] at h
  | false =>
      cases hpath : files path <;> cases hbackup : files (backupPath path) <;>
        cases hrec : faults.recoveryFails <;> simp_all

theorem freshSave_data {type : GamePakSaveType} (h : type ≠ .none) :
    (freshSave type).data = List.replicate (saveSizeForType type) 0xFF := by
  cases type <;> first | contradiction | rfl

theorem freshSave_saveType (type : GamePakSaveType) : (freshSave type).saveType = type := by
  cases type <;> rfl

theorem saveSizeForType_ne_zero {type : GamePakSaveType} (h : type ≠ .none) :
    saveSizeForType type ≠ 0 := by
  cases type <;> first | contradiction | decide

theorem freshSave_present {type : GamePakSaveType} (h : type ≠ .none) :
    (freshSave type).present = true := by
  unfold GamePakSave.present
  rw [freshSave_saveType, freshSave_data h]
  cases type <;> first | contradiction | rfl

section Load

variable {path : String} {type : GamePakSaveType} {faults : LoadFaults} {files : HostFiles}

/-- Without a save there is nothing to write. -/
theorem load_none :
    loadCartridgeSave path .none faults files =
      ⟨⟨"", false, [], 0, freshSave .none⟩, files⟩ := rfl

theorem load_some (h : type ≠ .none) :
    loadCartridgeSave path type faults files = takeSnapshot
      (if contentRead path faults files ≠ [] then
        importExisting faults (contentRead path faults files)
          ⟨⟨path, true, [], 0, freshSave type⟩, recovered path faults files⟩
      else ⟨⟨path, true, [], 0, freshSave type⟩, recovered path faults files⟩) := by
  unfold loadCartridgeSave
  rw [if_pos ⟨h, freshSave_present h⟩, recoverOrphan_files, ← contentRead_eq]

/-- Nothing was read: the session starts fresh. -/
theorem load_empty (h : type ≠ .none) (hread : contentRead path faults files = []) :
    loadCartridgeSave path type faults files =
      ⟨⟨path, true, (freshSave type).data, 0, freshSave type⟩,
        recovered path faults files⟩ := by
  rw [load_some h, if_neg (by simpa using hread)]
  rfl

/-- What was read is a save of the configured type: the session starts from it. -/
theorem load_accepted (h : type ≠ .none) (hread : contentRead path faults files ≠ [])
    (hlen : (contentRead path faults files).length = saveSizeForType type) :
    ∃ memory : GamePakSave, memory.data = contentRead path faults files ∧
      memory.saveType = type ∧ memory.Sized ∧
      loadCartridgeSave path type faults files =
        ⟨⟨path, true, contentRead path faults files, 0, memory⟩,
          recovered path faults files⟩ := by
  cases himport : (freshSave type).importSave type (contentRead path faults files) with
  | none =>
      unfold GamePakSave.importSave at himport
      rw [if_neg (by simp [saveSizeForType_ne_zero h, hlen])] at himport
      contradiction
  | some memory =>
      obtain ⟨htype, hdata, -, hsized⟩ := GamePakSave.importSave_eq_some himport
      refine ⟨memory, hdata, htype, hsized, ?_⟩
      rw [load_some h, if_pos hread]
      simp only [importExisting, freshSave_saveType, himport, takeSnapshot,
        GamePakSave.exportSave, hdata]

/-- What was read is rejected: it is copied, or the writes are disabled. -/
theorem load_rejected (h : type ≠ .none) (hreject : Rejected path type faults files) :
    loadCartridgeSave path type faults files =
      ⟨⟨path, (backupFile faults.copy (recovered path faults files) path).2,
          (freshSave type).data, 0, freshSave type⟩,
        (backupFile faults.copy (recovered path faults files) path).1⟩ := by
  have himport : (freshSave type).importSave type (contentRead path faults files) = none := by
    unfold GamePakSave.importSave
    rw [if_pos (.inr hreject.2)]
  rw [load_some h, if_pos hreject.1]
  simp only [importExisting, freshSave_saveType, himport, takeSnapshot, GamePakSave.exportSave]

theorem backupName_recovered :
    backupName (recovered path faults files) path = backupName files path := by
  unfold backupName
  rw [backupCandidate_congr fun k =>
    recovered_of_not_mem (candidateName_not_mem_writeNames path k)]

/-- The copy of a rejected save changes one candidate name at most. -/
theorem backupFile_of_ne {fault : CopyFault} {name : String} (h : name ≠ backupName files path) :
    (backupFile fault files path).1 name = files name := by
  unfold backupFile
  split
  · rfl
  · cases fault with
    | succeeds => exact Function.update_of_ne h _ _
    | failsUntouched => rfl
    | failsPartial written => exact Function.update_of_ne h _ _

/-- A copy is made exactly if there is something to copy and `copy_file` succeeds. -/
theorem backupFile_snd {fault : CopyFault} {content : Bytes} (h : files path = some content) :
    (backupFile fault files path).2 = decide (fault = .succeeds) := by
  unfold backupFile
  rw [h]
  cases fault <;> rfl

theorem backupFile_copy {content : Bytes} (h : files path = some content) :
    (backupFile .succeeds files path).1 (backupName files path) = some content := by
  unfold backupFile
  rw [h]
  exact Function.update_self _ _ _

end Load

/-! ## The condition -/

/-- The condition under which a load does not endanger a save that exists: the game has no save;
or the load reads this very save; or it rejects what it reads and cannot copy it, so that it
disables the writes; or the save is what a session without an accepted save starts from; or a
rejected copy holds the save already, and the load does not overwrite that copy. -/
def NotEndangered (path : String) (type : GamePakSaveType) (faults : LoadFaults)
    (files : HostFiles) (save : Bytes) : Prop :=
  type = .none ∨
  contentRead path faults files = save ∨
  (Rejected path type faults files ∧ faults.copy ≠ .succeeds) ∨
  (List.replicate (saveSizeForType type) 0xFF = save ∧
    (contentRead path faults files = [] ∨ Rejected path type faults files)) ∨
  ∃ k < 1000, files (candidateName (path ++ rejectedSuffix) k) = some save ∧
    ¬(Rejected path type faults files ∧
      backupName files path = candidateName (path ++ rejectedSuffix) k)

section Survival

variable {path : String} {type : GamePakSaveType} {faults : LoadFaults} {files : HostFiles}
  {save : Bytes}

/-- Without enabled writes the files stay as they are. -/
theorem survives_of_disabled {app : App} (hoff : app.host.cartridgeSaveEnabled = false)
    (h : Held path app.files save) : SurvivesFlushes path app save := by
  intro events _ app' hrun
  obtain ⟨-, -, hsame⟩ := runHost_files hrun
  rw [hsame hoff]
  exact .inr h

/-- No flush changes a rejected copy. -/
theorem survives_of_copy {app : App} (hpath : app.host.cartridgeSavePath = path) {k : Nat}
    (hk : k < 1000) (h : app.files (candidateName (path ++ rejectedSuffix) k) = some save) :
    SurvivesFlushes path app save := by
  intro events _ app' hrun
  obtain ⟨-, hfiles, -⟩ := runHost_files hrun
  rw [hpath] at hfiles
  refine .inr (.inr (.inr ⟨k, hk, ?_⟩))
  rw [hfiles _ (candidateName_not_mem_writeNames path k), h]

theorem survives_of_started {app : App} (h : app.host.memory.data = save) :
    SurvivesFlushes path app save :=
  fun _ _ _ _ => .inl h

/-- The candidate of a copy is one of the rejected names. -/
theorem backupName_eq (files : HostFiles) (path : String) :
    ∃ k < 1000, backupName files path = candidateName (path ++ rejectedSuffix) k := by
  have := backupCandidate_lt files (path ++ rejectedSuffix) 999 0
  exact ⟨_, by omega, rfl⟩

/-- The copy of a rejected save leaves the save and its sibling alone. -/
theorem backupFile_held (fault : CopyFault)
    (h : files path = some save ∨ files (backupPath path) = some save) :
    Held path (backupFile fault files path).1 save := by
  obtain ⟨k, -, hname⟩ := backupName_eq files path
  rcases h with h | h
  · left
    rw [backupFile_of_ne (by rw [hname]; exact path_ne_candidateName path k), h]
  · right; left
    rw [backupFile_of_ne (by rw [hname]; exact backupPath_ne_candidateName path k), h]

/-- The condition is enough. -/
theorem survives_of_notEndangered
    (hexists : files path = some save ∨ files (backupPath path) = some save) (hsave : save ≠ [])
    (h : NotEndangered path type faults files save) :
    SurvivesFlushes path (loadCartridgeSave path type faults files) save := by
  by_cases htype : type = .none
  · subst htype
    exact survives_of_disabled rfl (hexists.elim .inl fun h => .inr (.inl h))
  have hrecovered : recovered path faults files path = some save ∨
      recovered path faults files (backupPath path) = some save := recovered_holds hexists
  by_cases hread : contentRead path faults files = []
  · -- nothing was read
    rw [load_empty htype hread]
    rcases h with h | h | h | h | ⟨k, hk, hcopy, -⟩
    · exact absurd h htype
    · exact absurd (h.symm.trans hread) hsave
    · exact absurd hread h.1.1
    · exact survives_of_started ((freshSave_data htype).trans h.1)
    · refine survives_of_copy rfl hk ?_
      show recovered path faults files _ = some save
      rw [recovered_of_not_mem (candidateName_not_mem_writeNames path k), hcopy]
  have hsaved := recovered_path_of_read hread
  by_cases hlen : (contentRead path faults files).length = saveSizeForType type
  · -- the save was imported
    obtain ⟨memory, hdata, -, -, hload⟩ := load_accepted htype hread hlen
    rw [hload]
    rcases h with h | h | h | h | ⟨k, hk, hcopy, -⟩
    · exact absurd h htype
    · exact survives_of_started (hdata.trans h)
    · exact absurd hlen h.1.2
    · rcases h.2 with h | h
      · exact absurd h hread
      · exact absurd hlen h.2
    · refine survives_of_copy rfl hk ?_
      show recovered path faults files _ = some save
      rw [recovered_of_not_mem (candidateName_not_mem_writeNames path k), hcopy]
  · -- the save was rejected
    have hreject : Rejected path type faults files := ⟨hread, hlen⟩
    rw [load_rejected htype hreject]
    by_cases hcopied : faults.copy = .succeeds
    swap
    · refine survives_of_disabled ?_ (backupFile_held faults.copy hrecovered)
      show (backupFile faults.copy (recovered path faults files) path).2 = false
      rw [backupFile_snd hsaved]
      exact decide_eq_false hcopied
    rcases h with h | h | h | h | ⟨k, hk, hcopy, hkept⟩
    · exact absurd h htype
    · obtain ⟨k, hk, hname⟩ := backupName_eq (recovered path faults files) path
      refine survives_of_copy rfl hk ?_
      show (backupFile faults.copy (recovered path faults files) path).1 _ = some save
      rw [← hname, hcopied, backupFile_copy hsaved, h]
    · exact absurd hcopied h.2
    · exact survives_of_started ((freshSave_data htype).trans h.1)
    · refine survives_of_copy rfl hk ?_
      have hne : candidateName (path ++ rejectedSuffix) k ≠
          backupName (recovered path faults files) path := by
        rw [backupName_recovered]
        exact fun heq => hkept ⟨hreject, heq.symm⟩
      show (backupFile faults.copy (recovered path faults files) path).1 _ = some save
      rw [backupFile_of_ne hne, recovered_of_not_mem (candidateName_not_mem_writeNames path k),
        hcopy]

/-- A forced flush without failures leaves the in-memory save only. -/
theorem forced_flush {app : App} (henabled : app.host.cartridgeSaveEnabled = true)
    (hpath : app.host.cartridgeSavePath = path) (hne : path.isEmpty = false)
    (hdata : app.host.memory.data ≠ []) :
    ∃ app', runHost app [.flush true []] = some app' ∧
      app'.files path = some app.host.memory.data ∧ app'.files (backupPath path) = none ∧
      ∀ name, name ∉ writeNames path → app'.files name = app.files name := by
  obtain ⟨files', hwrite, hnew, hbackup⟩ :=
    writeFileAtomic_no_faults path app.host.memory.data app.files
  have hstep : app.step (.flush true []) = some
      ⟨{ app.host with
          cartridgeSaveSnapshot := app.host.memory.data, framesSinceSaveFlush := 0 }, files'⟩ := by
    simp [App.step, flushCartridgeSave, henabled, hpath, hne, GamePakSave.exportSave, hdata, hwrite]
  refine ⟨⟨{ app.host with
    cartridgeSaveSnapshot := app.host.memory.data, framesSinceSaveFlush := 0 }, files'⟩, ?_, hnew,
    hbackup, ?_⟩
  · rw [runHost, List.foldlM_cons, hstep]
    rfl
  · exact (hpath ▸ (step_files hstep).2.1 :)

/-- A session that starts from other bytes, with writes enabled, loses a save of which there is no
rejected copy. -/
theorem not_survives {app : App} (henabled : app.host.cartridgeSaveEnabled = true)
    (hpath : app.host.cartridgeSavePath = path) (hne : path.isEmpty = false)
    (hdata : app.host.memory.data ≠ []) (hother : app.host.memory.data ≠ save)
    (hcopies : ∀ k < 1000, app.files (candidateName (path ++ rejectedSuffix) k) ≠ some save) :
    ¬SurvivesFlushes path app save := by
  intro h
  obtain ⟨app', hrun, hnew, hbackup, hrest⟩ := forced_flush henabled hpath hne hdata
  rcases h [.flush true []] (by simp [HostEvent.isPlay]) app' hrun with
    h | h | h | ⟨k, hk, h⟩
  · exact hother h
  · exact hother (Option.some.inj (hnew.symm.trans h))
  · rw [hbackup] at h
    contradiction
  · rw [hrest _ (candidateName_not_mem_writeNames path k)] at h
    exact hcopies k hk h

/-- The condition is necessary. -/
theorem not_survives_of_endangered (hne : path.isEmpty = false)
    (h : ¬NotEndangered path type faults files save) :
    ¬SurvivesFlushes path (loadCartridgeSave path type faults files) save := by
  simp only [NotEndangered, not_or, not_and, not_exists] at h
  obtain ⟨htype, hother, hcopyFails, hfresh, hcopies⟩ := h
  have hdata : (freshSave type).data ≠ [] := by
    rw [freshSave_data htype]
    simpa using saveSizeForType_ne_zero htype
  have hplain : ∀ k < 1000, ¬Rejected path type faults files →
      recovered path faults files (candidateName (path ++ rejectedSuffix) k) ≠ some save := by
    intro k hk hread hcopy
    rw [recovered_of_not_mem (candidateName_not_mem_writeNames path k)] at hcopy
    exact hcopies k hk hcopy fun hreject => absurd hreject hread
  by_cases hread : contentRead path faults files = []
  · rw [load_empty htype hread]
    refine not_survives rfl rfl hne hdata ?_ fun k hk => hplain k hk fun hreject => hreject.1 hread
    exact fun heq => (hfresh ((freshSave_data htype).symm.trans heq)).1 hread
  by_cases hlen : (contentRead path faults files).length = saveSizeForType type
  · obtain ⟨memory, hmemory, -, -, hload⟩ := load_accepted htype hread hlen
    rw [hload]
    refine not_survives rfl rfl hne ?_ ?_ fun k hk => hplain k hk fun hreject => hreject.2 hlen
    · rwa [hmemory]
    · rwa [hmemory]
  · have hreject : Rejected path type faults files := ⟨hread, hlen⟩
    have hcopied : faults.copy = .succeeds := not_not.mp (hcopyFails hreject)
    have hsaved := recovered_path_of_read hread
    rw [load_rejected htype hreject]
    refine not_survives ?_ rfl hne hdata ?_ fun k hk => ?_
    · show (backupFile faults.copy (recovered path faults files) path).2 = true
      rw [backupFile_snd hsaved, hcopied]
      rfl
    · exact fun heq => (hfresh ((freshSave_data htype).symm.trans heq)).2 hreject
    · show (backupFile faults.copy (recovered path faults files) path).1 _ ≠ some save
      by_cases hname : candidateName (path ++ rejectedSuffix) k =
          backupName (recovered path faults files) path
      · rw [hname, hcopied, backupFile_copy hsaved]
        exact fun heq => hother (Option.some.inj heq)
      · rw [backupFile_of_ne hname, recovered_of_not_mem (candidateName_not_mem_writeNames path k)]
        intro hcopy
        refine hcopies k hk hcopy fun hreject heq => ?_
        rw [backupName_recovered] at hname
        exact hname heq.symm

end Survival

/-- A save that exists at its path or at the `.old` sibling when a game is loaded survives the
later flushes if and only if the load does not endanger it. -/
theorem survivesFlushes_iff (saveDataPrefix : String) (type : GamePakSaveType)
    (faults : LoadFaults) (files : HostFiles) (save : Bytes) (hsave : save ≠ [])
    (hexists : files (cartridgeSavePath saveDataPrefix) = some save ∨
      files (backupPath (cartridgeSavePath saveDataPrefix)) = some save) :
    SurvivesFlushes (cartridgeSavePath saveDataPrefix)
        (loadCartridgeSave (cartridgeSavePath saveDataPrefix) type faults files) save ↔
      NotEndangered (cartridgeSavePath saveDataPrefix) type faults files save := by
  constructor
  · intro h
    by_contra hendangered
    exact not_survives_of_endangered (cartridgeSavePath_not_isEmpty saveDataPrefix) hendangered h
  · exact survives_of_notEndangered hexists hsave

/-- The progress of a player. -/
def progress : Bytes := List.replicate (saveSizeForType .sram32k) 0x42

theorem progress_ne_nil : progress ≠ [] := by
  rw [progress, ne_eq, List.replicate_eq_nil_iff]
  exact saveSizeForType_ne_zero (by decide)

theorem erased_ne_progress : List.replicate (saveSizeForType .sram32k) 0xFF ≠ progress := by
  intro h
  rw [progress, List.replicate_inj] at h
  exact absurd (h.2.resolve_left (saveSizeForType_ne_zero (by decide))) (by decide)

/-- A game whose only save is the `.old` sibling of an interrupted write. -/
def orphanOnly : HostFiles :=
  Function.update (fun _ => none) (backupPath (cartridgeSavePath "game.gba")) (some progress)

theorem orphanOnly_backupPath :
    orphanOnly (backupPath (cartridgeSavePath "game.gba")) = some progress :=
  Function.update_self _ _ _

theorem survivesFlushes_iff_recovered :
    SurvivesFlushes (cartridgeSavePath "game.gba")
        (loadCartridgeSave (cartridgeSavePath "game.gba") .sram32k ⟨false, false, .succeeds⟩
          orphanOnly) progress ↔
      NotEndangered (cartridgeSavePath "game.gba") .sram32k ⟨false, false, .succeeds⟩ orphanOnly
        progress :=
  survivesFlushes_iff "game.gba" .sram32k ⟨false, false, .succeeds⟩ orphanOnly progress
    progress_ne_nil (.inr orphanOnly_backupPath)

/-- When the recovery of the orphan fails, nothing is read, the writes stay enabled, and the next
forced flush destroys the only copy of the save. -/
theorem orphan_lost_when_recovery_fails :
    orphanOnly (backupPath (cartridgeSavePath "game.gba")) = some progress ∧ progress ≠ [] ∧
      ¬SurvivesFlushes (cartridgeSavePath "game.gba")
        (loadCartridgeSave (cartridgeSavePath "game.gba") .sram32k ⟨true, false, .succeeds⟩
          orphanOnly) progress := by
  have haway : orphanOnly (cartridgeSavePath "game.gba") = none :=
    Function.update_of_ne (ne_backupPath _) _ _
  have hread : contentRead (cartridgeSavePath "game.gba") ⟨true, false, .succeeds⟩ orphanOnly =
      [] := by
    simp [contentRead, haway]
  refine ⟨orphanOnly_backupPath, progress_ne_nil,
    not_survives_of_endangered (cartridgeSavePath_not_isEmpty _) ?_⟩
  rintro (h | h | h | h | ⟨k, -, hcopy, -⟩)
  · contradiction
  · exact progress_ne_nil (h.symm.trans hread)
  · exact h.1.1 hread
  · exact erased_ne_progress h.1
  · rw [orphanOnly, Function.update_of_ne
      (backupPath_ne_candidateName (cartridgeSavePath "game.gba") k).symm] at hcopy
    contradiction

end Gba.Desktop
