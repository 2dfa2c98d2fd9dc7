import Gba.Desktop.FailClosed
import Gba.Desktop.WriteResults

/-!
# Dirty tracking

`cartridgeSaveSnapshot` stands for what is on disk. `CleanRun` collects the runs in which no step
assigns it anything else; in them a snapshot that equals the in-memory save is on disk, and a
changed save is written within one flush interval.
-/

namespace Gba.Desktop

open CrashFiles Core Persistence

/-- While writes are enabled, a snapshot that equals the in-memory save is on disk, or no file
exists and the in-memory save is still what the session was loaded with. -/
def SnapshotOnDisk (path : String) (loaded : Bytes) (app : App) : Prop :=
  app.host.cartridgeSaveEnabled = true →
    app.host.cartridgeSaveSnapshot = app.host.memory.exportSave →
    app.files path = some app.host.memory.exportSave ∨
      (app.files path = none ∧ app.host.memory.exportSave = loaded)

/-- The load imported the file, or found neither the file nor its sibling, or disabled the
writes. -/
def LoadClean (path : String) (type : GamePakSaveType) (faults : LoadFaults)
    (files : HostFiles) : Prop :=
  type = .none ∨
  (contentRead path faults files).length = saveSizeForType type ∨
  (files path = none ∧ files (backupPath path) = none) ∨
  (Rejected path type faults files ∧ faults.copy ≠ .succeeds)

/-- A step that leaves the snapshot what is on disk: no write displaces the file, no reset and no
save state comes while the in-memory save or the state's save differs from the snapshot. -/
def StepClean (app : App) : HostEvent → Prop
  | .gameWrite _ _ => True
  | .flush _ faults => ¬Displaces faults
  | .reset (.loaded _) => app.host.memory.exportSave = app.host.cartridgeSaveSnapshot
  | .reset _ => True
  | .readSaveState restored =>
      restored.saveType ≠ app.host.memory.saveType ∨
        restored.exportSave = app.host.cartridgeSaveSnapshot

/-- The states of the runs whose load and steps are all clean. `loaded` is what the session was
loaded with. -/
inductive CleanRun (path : String) (loaded : Bytes) : App → Prop where
  | load (type : GamePakSaveType) (faults : LoadFaults) (files : HostFiles) :
      LoadClean path type faults files →
      loaded = (loadCartridgeSave path type faults files).host.memory.exportSave →
      CleanRun path loaded (loadCartridgeSave path type faults files)
  | step {app app' : App} (event : HostEvent) :
      CleanRun path loaded app → StepClean app event → app.step event = some app' →
      CleanRun path loaded app'

/-- What a clean run keeps: the snapshot is on disk, or there is nothing on disk and the snapshot
is what the session was loaded with. -/
def Tracked (path : String) (loaded : Bytes) (app : App) : Prop :=
  app.host.cartridgeSaveEnabled = true →
    app.host.cartridgeSavePath = path ∧
      (app.files path = some app.host.cartridgeSaveSnapshot ∨
        (app.files path = none ∧ app.files (backupPath path) = none ∧
          app.host.cartridgeSaveSnapshot = loaded))

theorem Tracked.snapshotOnDisk {path : String} {loaded : Bytes} {app : App}
    (h : Tracked path loaded app) : SnapshotOnDisk path loaded app := by
  intro henabled hclean
  obtain ⟨-, hdisk | ⟨hnone, -, hloaded⟩⟩ := h henabled
  · left
    rw [hdisk, hclean]
  · exact .inr ⟨hnone, hclean.symm.trans hloaded⟩

/-- A clean load establishes the invariant. -/
theorem tracked_load {path : String} {type : GamePakSaveType} {faults : LoadFaults}
    {files : HostFiles} (h : LoadClean path type faults files) :
    Tracked path (loadCartridgeSave path type faults files).host.memory.exportSave
      (loadCartridgeSave path type faults files) := by
  by_cases htype : type = .none
  · subst htype
    intro henabled
    rw [load_none] at henabled
    contradiction
  rcases h with h | hlen | ⟨haway, hnone⟩ | ⟨hreject, hcopy⟩
  · exact absurd h htype
  · have hread : contentRead path faults files ≠ [] := by
      intro hempty
      rw [hempty] at hlen
      exact saveSizeForType_ne_zero htype hlen.symm
    obtain ⟨memory, hdata, -, -, hload⟩ := load_accepted htype hread hlen
    rw [hload]
    exact fun _ => ⟨rfl, .inl (recovered_path_of_read hread)⟩
  · have hread : contentRead path faults files = [] := by
      simp [contentRead, haway, hnone]
    have hsame : recovered path faults files = files := by simp [recovered, haway, hnone]
    rw [load_empty htype hread, hsame]
    exact fun _ => ⟨rfl, .inr ⟨haway, hnone, rfl⟩⟩
  · rw [load_rejected htype hreject]
    intro henabled
    change (backupFile faults.copy (recovered path faults files) path).2 = true at henabled
    rw [backupFile_snd (recovered_path_of_read hreject.1)] at henabled
    exact absurd (of_decide_eq_true henabled) hcopy

/-- A flush whose write does not fail and displace the file keeps the invariant. -/
theorem tracked_flush {path : String} {loaded : Bytes} {app app' : App}
    (h : Tracked path loaded app) {force : Bool} {faults : FlushFaults}
    (hclean : ∀ d, writeFileAtomic app.host.cartridgeSavePath app.host.memory.exportSave
      ⟨app.files, faults⟩ = (some false, d) → ¬Displaces faults)
    (hstep : app.step (.flush force faults) = some app') : Tracked path loaded app' := by
  simp only [App.step] at hstep
  obtain ⟨ok, hreturn, rfl⟩ := Option.map_eq_some_iff.mp hstep
  by_cases henabled : app.host.cartridgeSaveEnabled = true
  swap
  · have hoff : app.host.cartridgeSaveEnabled = false := by simpa using henabled
    simpa [flushCartridgeSave, hoff] using h
  obtain ⟨hpath, hdisk⟩ := h henabled
  unfold flushCartridgeSave at hreturn ⊢
  split
  · exact h
  next hopen =>
    rw [if_neg hopen] at hreturn
    dsimp only at hreturn ⊢
    split_ifs at hreturn ⊢
    · exact fun _ => ⟨hpath, hdisk⟩
    · exact fun _ => ⟨hpath, hdisk⟩
    · exact fun _ => ⟨hpath, hdisk⟩
    · rw [hpath] at hreturn hclean ⊢
      cases hwrite : writeFileAtomic path app.host.memory.exportSave ⟨app.files, faults⟩ with
      | mk result d =>
          rw [hwrite] at hreturn
          cases result with
          | none => simp at hreturn
          | some wrote =>
              obtain ⟨hstored, hkept, habsent⟩ := writeFileAtomic_returns hwrite
              cases wrote with
              | true => exact fun _ => ⟨rfl, .inl (hstored rfl)⟩
              | false =>
                  refine fun _ => ⟨rfl, ?_⟩
                  rcases hdisk with hdisk | ⟨haway, hnone, hloaded⟩
                  · exact .inl ((hkept rfl _ hdisk).resolve_right (hclean d hwrite))
                  · obtain ⟨haway', hnone'⟩ := habsent rfl haway hnone
                    exact .inr ⟨haway', hnone', hloaded⟩

/-- A clean step keeps the invariant. -/
theorem tracked_step {path : String} {loaded : Bytes} {app app' : App} {event : HostEvent}
    (h : Tracked path loaded app) (hclean : StepClean app event)
    (hstep : app.step event = some app') : Tracked path loaded app' := by
  cases event with
  | gameWrite offset value =>
      obtain rfl := Option.some.inj hstep
      exact h
  | flush force faults => exact tracked_flush h (fun _ _ => hclean) hstep
  | reset outcome =>
      obtain rfl := Option.some.inj hstep
      cases outcome with
      | romUnreadable => exact h
      | rejected restored => cases restored <;> exact h
      | loaded type =>
          have hsame : app.host.memory.exportSave = app.host.cartridgeSaveSnapshot := hclean
          intro henabled
          have hbefore : app.host.cartridgeSaveEnabled = true := by
            by_contra hoff
            rw [Bool.not_eq_true] at hoff
            have := (resetRuntime_keeps (.loaded type) app.host).2 hoff
            exact absurd (henabled.symm.trans this) (by decide)
          have hsnapshot : (resetRuntime (.loaded type) app.host).cartridgeSaveSnapshot =
              app.host.cartridgeSaveSnapshot := hsame
          obtain ⟨hpath, hdisk⟩ := h hbefore
          refine ⟨(resetRuntime_keeps (.loaded type) app.host).1.trans hpath, ?_⟩
          show app.files path = some (resetRuntime (.loaded type) app.host).cartridgeSaveSnapshot ∨
            _ ∧ _ ∧ (resetRuntime (.loaded type) app.host).cartridgeSaveSnapshot = loaded
          rw [hsnapshot]
          exact hdisk
  | readSaveState restored =>
      obtain rfl := Option.some.inj hstep
      have hclean : restored.saveType ≠ app.host.memory.saveType ∨
        restored.exportSave = app.host.cartridgeSaveSnapshot := hclean
      unfold Desktop.readSaveState
      split
      · exact h
      next htype =>
        have hsame := hclean.resolve_left htype
        intro henabled
        obtain ⟨hpath, hdisk⟩ := h henabled
        refine ⟨hpath, ?_⟩
        show app.files path = some restored.exportSave ∨ _ ∧ _ ∧ restored.exportSave = loaded
        rw [hsame]
        exact hdisk

/-- Every state of a clean run satisfies the invariant. -/
theorem CleanRun.tracked {path : String} {loaded : Bytes} {app : App}
    (h : CleanRun path loaded app) : Tracked path loaded app := by
  induction h with
  | load type faults files hclean hloaded => rw [hloaded]; exact tracked_load hclean
  | step event _ hclean hstep ih => exact tracked_step ih hclean hstep

/-! ## The flush interval -/

/-- A frame: the writes of the game, and what happens to the operations of its periodic flush. -/
structure Frame where
  gameWrites : List (Nat × U8)
  faults : FlushFaults

/-- The writes of the game in one frame. -/
def App.playWrites (app : App) (gameWrites : List (Nat × U8)) : App :=
  { app with
    host := { app.host with
      memory := gameWrites.foldl (fun memory w => (memory.writeByte w.1 w.2).1)
        app.host.memory } }

/-- One frame of the main loop. -/
def App.playFrame (app : App) (frame : Frame) : Option App :=
  (app.playWrites frame.gameWrites).step (.flush false frame.faults)

/-- A write of the in-memory save at the end of a frame would return true. -/
def App.WriteSucceeds (app : App) (frame : Frame) : Prop :=
  (writeFileAtomic app.host.cartridgeSavePath
    (app.playWrites frame.gameWrites).host.memory.exportSave ⟨app.files, frame.faults⟩).1 =
      some true

/-- Several frames. -/
def App.playFrames (app : App) (frames : List Frame) : Option App :=
  frames.foldlM App.playFrame app

/-- The flush interval, which is one frame longer where the frame counter is about to wrap. -/
def App.flushInterval (app : App) : Nat :=
  kSnapshotFlushFrames.toNat + if app.host.framesSinceSaveFlush = 0xFFFFFFFF#32 then 1 else 0

/-- Writes succeed in every one of these frames. -/
def App.WritesSucceed (app : App) : List Frame → Prop
  | [] => True
  | frame :: frames =>
      app.WriteSucceeds frame ∧
        ∀ app', app.playFrame frame = some app' → app'.WritesSucceed frames

theorem length_playWrites (gameWrites : List (Nat × U8)) (memory : GamePakSave) :
    (gameWrites.foldl (fun memory w => (memory.writeByte w.1 w.2).1) memory).data.length =
      memory.data.length := by
  induction gameWrites generalizing memory with
  | nil => rfl
  | cons w gameWrites ih => rw [List.foldl_cons, ih, GamePakSave.length_writeByte]

/-- What a periodic flush leaves when writes succeed: the snapshot is the in-memory save, or the
frame counter is still below the flush interval. -/
theorem playFrame_of_succeeds {app : App} {frame : Frame}
    (henabled : app.host.cartridgeSaveEnabled = true)
    (hpath : app.host.cartridgeSavePath.isEmpty = false) (hdata : app.host.memory.data ≠ [])
    (hwrite : app.WriteSucceeds frame) :
    ∃ app', app.playFrame frame = some app' ∧
      app'.host.cartridgeSaveEnabled = true ∧
      app'.host.cartridgeSavePath = app.host.cartridgeSavePath ∧ app'.host.memory.data ≠ [] ∧
      (app'.host.cartridgeSaveSnapshot = app'.host.memory.exportSave ∨
        (app'.host.framesSinceSaveFlush = app.host.framesSinceSaveFlush + 1 ∧
          app'.host.framesSinceSaveFlush < kSnapshotFlushFrames)) := by
  have hdata' : (app.playWrites frame.gameWrites).host.memory.data ≠ [] := by
    rw [← List.length_pos_iff_ne_nil] at hdata ⊢
    exact (length_playWrites _ _).symm ▸ hdata
  unfold App.WriteSucceeds at hwrite
  simp only [App.playFrame, App.step, flushCartridgeSave]
  generalize hmemory : (app.playWrites frame.gameWrites).host.memory = memory at hdata' hwrite
  have hhost : app.playWrites frame.gameWrites =
      ⟨{ app.host with memory := memory }, app.files⟩ := by rw [← hmemory]; rfl
  rw [hhost]
  simp only [henabled, hpath, Bool.not_true, Bool.or_self, Bool.false_eq_true, if_false,
    Bool.not_false, Bool.true_and, decide_eq_true_eq]
  split_ifs with hsame hearly hempty
  · exact ⟨_, rfl, rfl, rfl, hdata', .inl hsame.symm⟩
  · exact ⟨_, rfl, rfl, rfl, hdata', .inr ⟨rfl, hearly⟩⟩
  · exact absurd hempty hdata'
  · cases hrun : writeFileAtomic app.host.cartridgeSavePath memory.exportSave
        ⟨app.files, frame.faults⟩ with
    | mk result d =>
        rw [hrun] at hwrite
        obtain rfl : result = some true := hwrite
        exact ⟨_, rfl, rfl, rfl, hdata', .inl rfl⟩

/-- A frame in which writes succeed keeps the invariant. -/
theorem tracked_playFrame {path : String} {loaded : Bytes} {app app' : App} {frame : Frame}
    (h : Tracked path loaded app) (hwrite : app.WriteSucceeds frame)
    (hframe : app.playFrame frame = some app') : Tracked path loaded app' := by
  have hplayed : Tracked path loaded (app.playWrites frame.gameWrites) := h
  refine tracked_flush hplayed ?_ hframe
  intro d hfailed
  have : writeFileAtomic app.host.cartridgeSavePath
      (app.playWrites frame.gameWrites).host.memory.exportSave ⟨app.files, frame.faults⟩ =
        (some false, d) := hfailed
  unfold App.WriteSucceeds at hwrite
  rw [this] at hwrite
  exact absurd (Option.some.inj hwrite) (by decide)

/-- Within as many frames as are missing to the flush interval the snapshot becomes the in-memory
save. -/
theorem written_within {path : String} {loaded : Bytes} {app : App} {frames : List Frame}
    (htracked : Tracked path loaded app) (henabled : app.host.cartridgeSaveEnabled = true)
    (hpath : path.isEmpty = false) (hdata : app.host.memory.data ≠ [])
    (hwrap : app.host.framesSinceSaveFlush ≠ 0xFFFFFFFF#32)
    (hlen : kSnapshotFlushFrames.toNat ≤ app.host.framesSinceSaveFlush.toNat + frames.length)
    (hpos : frames ≠ []) (hsucceed : app.WritesSucceed frames) :
    ∃ n, 0 < n ∧ n ≤ frames.length ∧ ∃ later, app.playFrames (frames.take n) = some later ∧
      Tracked path loaded later ∧ later.host.cartridgeSaveEnabled = true ∧
      later.host.cartridgeSaveSnapshot = later.host.memory.exportSave := by
  induction frames generalizing app with
  | nil => exact absurd rfl hpos
  | cons frame frames ih =>
      have hempty : app.host.cartridgeSavePath.isEmpty = false := by
        rw [(htracked henabled).1]
        exact hpath
      obtain ⟨hwrite, hrest⟩ := hsucceed
      obtain ⟨app', hframe, henabled', -, hdata', hdone⟩ :=
        playFrame_of_succeeds henabled hempty hdata hwrite
      have htracked' := tracked_playFrame htracked hwrite hframe
      rcases hdone with hdone | ⟨hcount, hearly⟩
      · refine ⟨1, Nat.one_pos, by simp, app', ?_, htracked', henabled', hdone⟩
        simp [App.playFrames, hframe]
      · -- the interval has not passed yet, so frames are left
        rw [kSnapshotFlushFrames, hcount] at hearly
        have hnext : app'.host.framesSinceSaveFlush.toNat =
            app.host.framesSinceSaveFlush.toNat + 1 := by
          rw [hcount]
          bv_omega
        rw [List.length_cons] at hlen
        have hlen' : kSnapshotFlushFrames.toNat ≤
            app'.host.framesSinceSaveFlush.toNat + frames.length := by omega
        have hpos' : frames ≠ [] := by
          rintro rfl
          rw [List.length_nil, Nat.add_zero, kSnapshotFlushFrames, hcount] at hlen'
          bv_omega
        obtain ⟨n, hn, hle, later, hlater, hresult⟩ :=
          ih htracked' henabled' hdata' (by rw [hcount]; bv_omega) hlen' hpos' (hrest app' hframe)
        refine ⟨n + 1, by omega, by rw [List.length_cons]; omega, later, ?_, hresult⟩
        rw [List.take_succ_cons, App.playFrames, List.foldlM_cons, hframe]
        exact hlater

/-- Within one flush interval the snapshot becomes the in-memory save. -/
theorem written_within_interval {path : String} {loaded : Bytes} {app : App} {frames : List Frame}
    (htracked : Tracked path loaded app) (henabled : app.host.cartridgeSaveEnabled = true)
    (hpath : path.isEmpty = false) (hdata : app.host.memory.data ≠ [])
    (hlen : frames.length = app.flushInterval) (hsucceed : app.WritesSucceed frames) :
    ∃ n, 0 < n ∧ n ≤ frames.length ∧ ∃ later, app.playFrames (frames.take n) = some later ∧
      Tracked path loaded later ∧ later.host.cartridgeSaveEnabled = true ∧
      later.host.cartridgeSaveSnapshot = later.host.memory.exportSave := by
  unfold App.flushInterval at hlen
  by_cases hwrap : app.host.framesSinceSaveFlush = 0xFFFFFFFF#32
  swap
  · rw [if_neg hwrap, kSnapshotFlushFrames] at hlen
    refine written_within htracked henabled hpath hdata hwrap ?_ ?_ hsucceed
    · rw [kSnapshotFlushFrames]
      omega
    · rintro rfl
      exact absurd hlen (by decide)
  rw [if_pos hwrap] at hlen
  cases frames with
  | nil => exact absurd hlen (by decide)
  | cons frame frames =>
      rw [List.length_cons, Nat.add_right_cancel_iff] at hlen
      have hempty : app.host.cartridgeSavePath.isEmpty = false := by
        rw [(htracked henabled).1]
        exact hpath
      obtain ⟨hwrite, hrest⟩ := hsucceed
      obtain ⟨app', hframe, henabled', -, hdata', hdone⟩ :=
        playFrame_of_succeeds henabled hempty hdata hwrite
      have htracked' := tracked_playFrame htracked hwrite hframe
      rcases hdone with hdone | ⟨hcount, -⟩
      · refine ⟨1, Nat.one_pos, by simp, app', ?_, htracked', henabled', hdone⟩
        simp [App.playFrames, hframe]
      · -- the counter has wrapped, and a whole interval is left
        rw [hwrap] at hcount
        have hzero : app'.host.framesSinceSaveFlush = 0#32 := hcount
        obtain ⟨n, hn, hle, later, hlater, hresult⟩ :=
          written_within htracked' henabled' hpath hdata' (by rw [hzero]; decide) (by omega)
            (fun hnil => absurd (hnil ▸ hlen) (by decide)) (hrest app' hframe)
        refine ⟨n + 1, by omega, by rw [List.length_cons]; omega, later, ?_, hresult⟩
        rw [List.take_succ_cons, App.playFrames, List.foldlM_cons, hframe]
        exact hlater

/-- In a clean run the snapshot is what is on disk whenever it equals the in-memory save, and the
in-memory save of a session that has one is on disk within one flush interval once writes
succeed. -/
theorem snapshotOnDisk_of_cleanRun (saveDataPrefix : String) (loaded : Bytes) (app : App)
    (h : CleanRun (cartridgeSavePath saveDataPrefix) loaded app) :
    SnapshotOnDisk (cartridgeSavePath saveDataPrefix) loaded app ∧
    ∀ frames : List Frame, frames.length = app.flushInterval →
      app.host.cartridgeSaveEnabled = true → app.host.memory.data ≠ [] →
      app.WritesSucceed frames →
      ∃ n, 0 < n ∧ n ≤ frames.length ∧ ∃ later, app.playFrames (frames.take n) = some later ∧
        (later.files (cartridgeSavePath saveDataPrefix) = some later.host.memory.exportSave ∨
          (later.files (cartridgeSavePath saveDataPrefix) = none ∧
            later.host.memory.exportSave = loaded)) := by
  refine ⟨h.tracked.snapshotOnDisk, fun frames hlen henabled hdata hsucceed => ?_⟩
  obtain ⟨n, hn, hle, later, hlater, htracked, henabled', hdone⟩ :=
    written_within_interval h.tracked henabled (cartridgeSavePath_not_isEmpty _) hdata hlen
      hsucceed
  exact ⟨n, hn, hle, later, hlater, htracked.snapshotOnDisk henabled' hdone⟩

/-- A first session: no file exists. -/
def firstSession : App :=
  loadCartridgeSave (cartridgeSavePath "game.gba") .sram32k ⟨false, false, .succeeds⟩
    fun _ => none

theorem firstSession_eq :
    firstSession = ⟨⟨cartridgeSavePath "game.gba", true, (freshSave .sram32k).data, 0,
      freshSave .sram32k⟩, fun _ => none⟩ :=
  load_empty (by decide) rfl

/-- A write of a fresh SRAM. -/
theorem writeByte_freshSave (value : U8) :
    ((freshSave .sram32k).writeByte 0 value).1 =
      { freshSave .sram32k with data := (freshSave .sram32k).data.set 0 value } := by
  have haperture : (freshSave .sram32k).supportsMemoryAperture = true := by
    unfold GamePakSave.supportsMemoryAperture
    rw [freshSave_present (by decide), freshSave_saveType]
    rfl
  have hflash : (freshSave .sram32k).isFlash = false := by
    unfold GamePakSave.isFlash
    rw [freshSave_saveType]
    rfl
  unfold GamePakSave.writeByte
  rw [haperture, hflash]
  simp

/-- A reset of a game with a save keeps the in-memory save and takes it to be on disk. -/
theorem resetRuntime_loaded {host : SaveHost} (hsized : host.memory.Sized)
    (htype : host.memory.saveType ≠ .none) (type : GamePakSaveType) :
    ∃ memory : GamePakSave, memory.saveType = host.memory.saveType ∧
      memory.data = host.memory.data ∧
      resetRuntime (.loaded type) host =
        { host with
          memory := memory
          cartridgeSaveSnapshot := host.memory.data
          framesSinceSaveFlush := 0 } := by
  have hlen : host.memory.exportSave.length = saveSizeForType host.memory.saveType :=
    hsized.length_eq
  have hne : host.memory.exportSave ≠ [] := by
    intro hempty
    rw [hempty] at hlen
    exact saveSizeForType_ne_zero htype hlen.symm
  have hpresent : host.memory.saveType ≠ .none ∧ host.memory.exportSave ≠ [] := ⟨htype, hne⟩
  cases himport : (host.memory.configure type).importSave host.memory.saveType
      host.memory.exportSave with
  | none =>
      unfold GamePakSave.importSave at himport
      rw [if_neg (by simp [saveSizeForType_ne_zero htype, hlen])] at himport
      contradiction
  | some memory =>
      obtain ⟨hkept, hdata, -⟩ := GamePakSave.importSave_eq_some himport
      refine ⟨memory, hkept, hdata, ?_⟩
      simp only [resetRuntime, if_pos hpresent, himport]
      rfl

theorem writesSucceed_no_faults (app : App) (n : Nat) :
    app.WritesSucceed (List.replicate n ⟨[], []⟩) := by
  induction n generalizing app with
  | zero => trivial
  | succ n ih =>
      refine ⟨?_, fun app' _ => ih app'⟩
      obtain ⟨files, hwrite, -⟩ := writeFileAtomic_no_faults app.host.cartridgeSavePath
        (app.playWrites []).host.memory.exportSave app.files
      show (writeFileAtomic _ _ ⟨app.files, []⟩).1 = some true
      rw [hwrite]

/-- A first session in which the game writes, the save is flushed, the console is reset, a state
with the flushed save is loaded and the game writes again, and the frames after it. -/
theorem snapshotOnDisk_played :
    ∃ restored app n later, runHost firstSession [.gameWrite 0 0x12, .flush true [],
          .reset (.loaded .sram32k), .readSaveState restored, .gameWrite 1 0x34] = some app ∧
      restored.saveType = .sram32k ∧
      SnapshotOnDisk (cartridgeSavePath "game.gba") firstSession.host.memory.exportSave app ∧
      0 < n ∧ n ≤ 300 ∧ app.playFrames ((List.replicate 300 ⟨[], []⟩).take n) = some later ∧
      (later.files (cartridgeSavePath "game.gba") = some later.host.memory.exportSave ∨
        (later.files (cartridgeSavePath "game.gba") = none ∧
          later.host.memory.exportSave = firstSession.host.memory.exportSave)) := by
  have hsized : (freshSave .sram32k).Sized := GamePakSave.sized_configure _ _
  obtain ⟨htype, hplayed⟩ := hsized.writeByte 0 0x12
  rw [freshSave_saveType] at htype
  generalize hmemory : ((freshSave .sram32k).writeByte 0 0x12).1 = played at htype hplayed
  have hnonempty : played.data ≠ [] := by
    rw [← List.length_pos_iff_ne_nil, hplayed.length_eq, htype]
    decide
  let path := cartridgeSavePath "game.gba"
  have hload : CleanRun path firstSession.host.memory.exportSave firstSession :=
    .load .sram32k ⟨false, false, .succeeds⟩ (fun _ => none) (.inr (.inr (.inl ⟨rfl, rfl⟩))) rfl
  have hwritten : firstSession.step (.gameWrite 0 0x12) =
      some ⟨⟨path, true, (freshSave .sram32k).data, 0, played⟩, fun _ => none⟩ := by
    rw [firstSession_eq, ← hmemory]
    rfl
  obtain ⟨files, hflush, -⟩ := writeFileAtomic_no_faults path played.data fun _ => none
  have hflushed : App.step ⟨⟨path, true, (freshSave .sram32k).data, 0, played⟩, fun _ => none⟩
      (.flush true []) = some ⟨⟨path, true, played.data, 0, played⟩, files⟩ := by
    have hpath : path.isEmpty = false := cartridgeSavePath_not_isEmpty _
    simp only [App.step, flushCartridgeSave, GamePakSave.exportSave, hpath, hflush, hnonempty]
    rfl
  obtain ⟨memory, hkept, hdata, hreset⟩ := @resetRuntime_loaded
    ⟨path, true, played.data, 0, played⟩ hplayed (by rw [htype]; decide) .sram32k
  have hreloaded : App.step ⟨⟨path, true, played.data, 0, played⟩, files⟩
      (.reset (.loaded .sram32k)) = some ⟨⟨path, true, played.data, 0, memory⟩, files⟩ := by
    rw [App.step, hreset]
  have hrestored : App.step ⟨⟨path, true, played.data, 0, memory⟩, files⟩
      (.readSaveState played) = some ⟨⟨path, true, played.data, 0, played⟩, files⟩ := by
    show some (App.mk (Desktop.readSaveState played _) files) = _
    unfold Desktop.readSaveState
    rw [if_neg (not_not.mpr hkept.symm)]
    rfl
  have hfirst := hload.step (.gameWrite 0 0x12) trivial hwritten
  have hsecond := hfirst.step (.flush true []) (by decide : ¬Displaces []) hflushed
  have hthird := hsecond.step (.reset (.loaded .sram32k)) rfl hreloaded
  have hfourth := hthird.step (.readSaveState played) (.inr rfl) hrestored
  have hlast := hfourth.step (.gameWrite 1 0x34) trivial rfl
  obtain ⟨hdisk, hinterval⟩ := snapshotOnDisk_of_cleanRun "game.gba" _ _ hlast
  obtain ⟨n, hn, hle, later, hlater, hstored⟩ := hinterval (List.replicate 300 ⟨[], []⟩)
    (List.length_replicate ..) rfl
    (by
      rw [← List.length_pos_iff_ne_nil] at hnonempty ⊢
      exact (GamePakSave.length_writeByte ..).symm ▸ hnonempty)
    (writesSucceed_no_faults _ 300)
  refine ⟨played, _, n, later, ?_, htype, hdisk, hn, ?_, hlater, hstored⟩
  · simp only [runHost, List.foldlM_cons, List.foldlM_nil, hwritten, hflushed, hreloaded, hrestored,
      Option.bind_eq_bind, Option.bind_some]
    rfl
  · rwa [List.length_replicate] at hle

/-- A reset marks unflushed progress as written: the game writes one byte, the console is reset,
and the snapshot equals the in-memory save although nothing was ever written to disk. -/
theorem reset_marks_progress_clean :
    ∃ app, runHost firstSession [.gameWrite 0 0x12, .reset (.loaded .sram32k)] = some app ∧
      ¬SnapshotOnDisk (cartridgeSavePath "game.gba") firstSession.host.memory.exportSave app := by
  have hsized : (freshSave .sram32k).Sized := GamePakSave.sized_configure _ _
  obtain ⟨hsame, hplayed⟩ := hsized.writeByte 0 0x12
  have hfirst : firstSession.host.memory.exportSave = (freshSave .sram32k).data := by
    rw [firstSession_eq]
    rfl
  have hchanged : ((freshSave .sram32k).writeByte 0 0x12).1.data ≠ (freshSave .sram32k).data := by
    rw [writeByte_freshSave, freshSave_data (by decide)]
    intro h
    have hhead := congrArg (fun data : Bytes => data[0]?) h
    simp only at hhead
    rw [List.getElem?_set_self (by rw [List.length_replicate]; decide),
      List.getElem?_replicate, if_pos (by decide)] at hhead
    exact absurd (Option.some.inj hhead) (by decide)
  have hstep : firstSession.step (.gameWrite 0 0x12) = some
      ⟨⟨cartridgeSavePath "game.gba", true, (freshSave .sram32k).data, 0,
        ((freshSave .sram32k).writeByte 0 0x12).1⟩, fun _ => none⟩ := by
    rw [firstSession_eq]
    rfl
  generalize ((freshSave .sram32k).writeByte 0 0x12).1 = played at hsame hplayed hchanged hstep
  obtain ⟨memory, -, hmemory, hreset⟩ := @resetRuntime_loaded
    ⟨cartridgeSavePath "game.gba", true, (freshSave .sram32k).data, 0, played⟩ hplayed
    (by rw [hsame, freshSave_saveType]; decide) .sram32k
  refine ⟨⟨⟨cartridgeSavePath "game.gba", true, played.data, 0, memory⟩, fun _ => none⟩, ?_, ?_⟩
  · rw [runHost, List.foldlM_cons, hstep]
    simp only [Option.bind_eq_bind, Option.bind_some, List.foldlM_cons, List.foldlM_nil, App.step,
      hreset, Option.pure_def]
  · intro h
    rcases h rfl hmemory.symm with hdisk | ⟨-, hloaded⟩
    · exact Option.some_ne_none _ hdisk.symm
    · exact hchanged (hmemory.symm.trans (hloaded.trans hfirst))

end Gba.Desktop
