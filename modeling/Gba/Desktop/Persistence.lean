import Gba.Core.Words
import Gba.Library.CrashFiles

/-!
# Desktop file persistence

`desktop_persistence.hpp`: atomic replacement of a file through a `.tmp` and a `.old` sibling, and
the copy of a rejected save. Names are the UTF-8 paths of the source; the siblings of a file lie in
its directory, so they are named by a suffix.
-/

namespace Gba.Desktop

open CrashFiles CrashFiles.FileM

/-- The contents of a file. -/
abbrev Bytes := List Core.U8

/-- The files that the desktop host works on. -/
abbrev HostFiles := Files String Core.U8

namespace Persistence

/-- The sibling that a write materialises first. -/
def tempPath (path : String) : String := path ++ ".tmp"

/-- The move-aside slot of the fallback. -/
def backupPath (path : String) : String := path ++ ".old"

theorem append_ne_self {path suffix : String} (h : suffix.length ≠ 0) : path ++ suffix ≠ path := by
  intro heq
  have := congrArg String.length heq
  rw [String.length_append] at this
  omega

@[simp] theorem tempPath_ne (path : String) : tempPath path ≠ path := append_ne_self (by decide)

@[simp] theorem ne_tempPath (path : String) : path ≠ tempPath path := (tempPath_ne path).symm

@[simp] theorem backupPath_ne (path : String) : backupPath path ≠ path :=
  append_ne_self (by decide)

@[simp] theorem ne_backupPath (path : String) : path ≠ backupPath path := (backupPath_ne path).symm

@[simp] theorem tempPath_ne_backupPath (path : String) : tempPath path ≠ backupPath path := by
  intro h
  have := String.append_right_inj path |>.mp h
  exact absurd this (by decide)

@[simp] theorem backupPath_ne_tempPath (path : String) : backupPath path ≠ tempPath path :=
  (tempPath_ne_backupPath path).symm

/-- The last part of `write_file_atomic`, when the platform refused to replace in place: move the
old file aside, put the new one in place, and restore the old one if that fails. -/
def replaceByMovingAside (path : String) : FileM String Core.U8 Bool := do
  remove (backupPath path)
  let moved ← rename path (backupPath path)
  if moved then
    let replaced ← rename (tempPath path) path
    if replaced then
      remove (backupPath path)
      pure true
    else
      let _restored ← rename (backupPath path) path
      remove (tempPath path)
      pure false
  else
    remove (tempPath path)
    pure false

/-- The part of `write_file_atomic` after the orphan has been dealt with. -/
def replaceTarget (path : String) : FileM String Core.U8 Bool := do
  let renamed ← rename (tempPath path) path
  if renamed then
    remove (backupPath path)
    pure true
  else
    replaceByMovingAside path

/-- The part of `write_file_atomic` after the temporary file has been written: an orphan at the
move-aside slot is put back first. -/
def commitTemp (path : String) : FileM String Core.U8 Bool := do
  let targetExists ← isPresent path
  let backupExists ← isPresent (backupPath path)
  if !targetExists && backupExists then
    let recovered ← rename (backupPath path) path
    if recovered then
      replaceTarget path
    else
      remove (tempPath path)
      pure false
  else
    replaceTarget path

/-- `write_file_atomic`. -/
def writeFileAtomic (path : String) (bytes : Bytes) : FileM String Core.U8 Bool := do
  let opened ← openTruncated (tempPath path)
  if opened then
    let written ← writeAll (tempPath path) bytes
    if written then
      commitTemp path
    else
      remove (tempPath path)
      pure false
  else
    pure false

/-- The `.old` recovery of `load_rom_from_path`. -/
def recoverOrphan (path : String) : FileM String Core.U8 Unit := do
  let targetExists ← isPresent path
  let orphanExists ← isPresent (backupPath path)
  if !targetExists && orphanExists then
    let _renamed ← rename (backupPath path) path
    pure ()
  else
    pure ()

/-- The three names that a write owns. -/
def writeNames (path : String) : Set String := {path, tempPath path, backupPath path}

/-- A write changes its three names only. -/
theorem writeFileAtomic_within (path : String) (bytes : Bytes) :
    Within (writeNames path) (writeFileAtomic path bytes) := by
  have hpath : path ∈ writeNames path := .inl rfl
  have htemp : tempPath path ∈ writeNames path := .inr (.inl rfl)
  have hbackup : backupPath path ∈ writeNames path := .inr (.inr rfl)
  have giveUp : @Within String Core.U8 Bool (writeNames path)
      (do remove (tempPath path); pure false) :=
    .bind (.remove htemp) fun _ => .pure false
  have finish : @Within String Core.U8 Bool (writeNames path)
      (do remove (backupPath path); pure true) :=
    .bind (.remove hbackup) fun _ => .pure true
  have aside : Within (writeNames path) (replaceByMovingAside path) :=
    .bind (.remove hbackup) fun _ => .bind (.rename hpath hbackup) fun _ =>
      .ite (.bind (.rename htemp hpath) fun _ =>
        .ite finish (.bind (.rename hbackup hpath) fun _ => giveUp)) giveUp
  have target : Within (writeNames path) (replaceTarget path) :=
    .bind (.rename htemp hpath) fun _ => .ite finish aside
  have commit : Within (writeNames path) (commitTemp path) :=
    .bind (.isPresent _) fun _ => .bind (.isPresent _) fun _ =>
      .ite (.bind (.rename hbackup hpath) fun _ => .ite target giveUp) target
  exact .bind (.openTruncated htemp) fun _ =>
    .ite (.bind (.writeAll htemp bytes) fun _ => .ite commit giveUp) (.pure false)

/-- A write whose operations all succeed replaces the file and reclaims its siblings. -/
theorem writeFileAtomic_no_faults (path : String) (bytes : Bytes) (files : HostFiles) :
    ∃ files', writeFileAtomic path bytes ⟨files, []⟩ = (some true, ⟨files', []⟩) ∧
      files' path = some bytes ∧ files' (backupPath path) = none := by
  cases hpath : files path <;> cases hbackup : files (backupPath path) <;>
    simp [writeFileAtomic, commitTemp, replaceTarget, bind, FileM.andThen, pure, FileM.ret,
      openTruncated, writeAll, isPresent, remove, rename, Disk.nextFault, setFile, moveFile,
      hpath, hbackup]

/-! ## What a write leaves recoverable -/

/-- What the next load finds: the file, or its move-aside sibling while the file is absent. -/
def recoverable (path : String) (files : HostFiles) : Option Bytes :=
  match files path with
  | some content => some content
  | none => files (backupPath path)

section Recoverable

variable {path : String} {files : HostFiles} {content : Option Bytes}

@[simp] theorem recoverable_update_temp :
    recoverable path (Function.update files (tempPath path) content) = recoverable path files := by
  simp [recoverable]

/-- Removing the sibling loses nothing while the file is there. -/
theorem recoverable_remove_backup (h : files path ≠ none ∨ files (backupPath path) = none) :
    recoverable path (Function.update files (backupPath path) none) =
      recoverable path files := by
  unfold recoverable
  rw [Function.update_of_ne (ne_backupPath path), Function.update_self]
  cases hp : files path with
  | some content => rfl
  | none =>
      rcases h with h | h
      · exact absurd hp h
      · exact h.symm

/-- Putting a file in place makes it the recoverable one. -/
theorem recoverable_put {bytes : Bytes} :
    recoverable path (Function.update files path (some bytes)) = some bytes := by
  simp [recoverable]

/-- Moving the file aside keeps it recoverable. -/
theorem recoverable_move_aside {bytes : Bytes} (h : files path = some bytes) :
    recoverable path
      (Function.update (Function.update files path none) (backupPath path) (some bytes)) =
      recoverable path files := by
  simp [recoverable, h]

/-- Putting the orphan back keeps it recoverable. -/
theorem recoverable_put_back {bytes : Bytes} (hpath : files path = none)
    (h : files (backupPath path) = some bytes) :
    recoverable path
      (Function.update (Function.update files (backupPath path) none) path (some bytes)) =
      recoverable path files := by
  simp [recoverable, hpath, h]

end Recoverable

/-- What a write of `bytes` may leave recoverable when `old` was: the new contents once it has
returned true, the old ones once it has returned false. -/
def Written (path : String) (old : Option Bytes) (bytes : Bytes) (ok : Bool)
    (files : HostFiles) : Prop :=
  recoverable path files = if ok then some bytes else old

/-- What a crash during the write may leave recoverable. -/
def Interrupted (path : String) (old : Option Bytes) (bytes : Bytes) (files : HostFiles) : Prop :=
  recoverable path files = old ∨ recoverable path files = some bytes

section Write

variable (path : String) (old : Option Bytes) (bytes : Bytes)

/-- Removing the temporary file ends a write that fails. -/
theorem remove_temp_triple :
    Triple (fun files => recoverable path files = old)
      (do remove (tempPath path); pure false)
      (Written path old bytes) (Interrupted path old bytes) := by
  refine .bind (.remove (Q := fun _ files => recoverable path files = old) ?_)
    fun _ => .pure fun _ h => h
  intro files h
  simp [Interrupted, h]

/-- Removing the move-aside sibling ends a write that succeeds. -/
theorem remove_backup_triple :
    Triple (fun files => files path = some bytes)
      (do remove (backupPath path); pure true)
      (Written path old bytes) (Interrupted path old bytes) := by
  have hrec : ∀ files : HostFiles, files path = some bytes → recoverable path files = some bytes :=
    fun files h => by simp [recoverable, h]
  refine .bind (.remove (Q := fun _ files => files path = some bytes) ?_)
    fun _ => .pure fun files h => hrec files h
  intro files h
  have hupdate : Function.update files (backupPath path) none path = some bytes := by simp [h]
  exact ⟨h, .inr (hrec _ h), hupdate, .inr (hrec _ hupdate)⟩

/-- The files once the temporary file is complete. -/
def TempReady (files : HostFiles) : Prop :=
  files (tempPath path) = some bytes ∧ recoverable path files = old

/-- The files once no orphan is left: the file is there, or there is nothing at all. -/
def NoOrphan (files : HostFiles) : Prop :=
  TempReady path old bytes files ∧ (files path ≠ none ∨ files (backupPath path) = none)

theorem replaceByMovingAside_triple :
    Triple (NoOrphan path old bytes) (replaceByMovingAside path)
      (Written path old bytes) (Interrupted path old bytes) := by
  unfold replaceByMovingAside
  refine .bind (.remove (Q := fun _ => TempReady path old bytes) ?_) fun _ => ?_
  · rintro files ⟨⟨htemp, hold⟩, hthere⟩
    have hremoved := (recoverable_remove_backup hthere).trans hold
    exact ⟨⟨htemp, hold⟩, .inl hold, ⟨by simp [htemp], hremoved⟩, .inl hremoved⟩
  refine .bind (.rename (Q := fun moved files =>
    TempReady path old bytes files ∧ (moved → files path = none)) ?_) fun moved => ?_
  · rintro files ⟨htemp, hold⟩
    refine ⟨⟨⟨htemp, hold⟩, by simp⟩, .inl hold, fun content hcontent => ?_⟩
    have haside := (recoverable_move_aside hcontent).trans hold
    exact ⟨⟨⟨by simp [htemp], haside⟩, by simp⟩, .inl haside⟩
  refine .ite (fun hmoved => ?_) fun _ => ?_
  swap
  · exact (remove_temp_triple path old bytes).strengthen fun files h => h.1.2
  refine .bind (.rename (Q := fun replaced files =>
    if replaced then files path = some bytes
    else recoverable path files = old ∧ files path = none) ?_) fun replaced => ?_
  · rintro files ⟨⟨htemp, hold⟩, haway⟩
    refine ⟨⟨hold, haway hmoved⟩, .inl hold, fun content hcontent => ?_⟩
    obtain rfl : bytes = content := Option.some.inj (htemp.symm.trans hcontent)
    exact ⟨by simp, .inr recoverable_put⟩
  refine .ite (fun hreplaced => ?_) fun hrefused => ?_
  · exact (remove_backup_triple path old bytes).strengthen fun files h => by
      rwa [if_pos hreplaced] at h
  -- the old file is put back, or stays where it is
  refine .bind (.rename (Q := fun _ files => recoverable path files = old) ?_) fun _ => ?_
  · intro files h
    rw [if_neg hrefused] at h
    refine ⟨h.1, .inl h.1, fun content hcontent => ?_⟩
    have hback := (recoverable_put_back h.2 hcontent).trans h.1
    exact ⟨hback, .inl hback⟩
  · exact remove_temp_triple path old bytes

theorem replaceTarget_triple :
    Triple (NoOrphan path old bytes) (replaceTarget path)
      (Written path old bytes) (Interrupted path old bytes) := by
  unfold replaceTarget
  refine .bind (.rename (Q := fun renamed files =>
    if renamed then files path = some bytes else NoOrphan path old bytes files) ?_)
    fun renamed => ?_
  · intro files h
    refine ⟨h, .inl h.1.2, fun content hcontent => ?_⟩
    obtain rfl : bytes = content := Option.some.inj (h.1.1.symm.trans hcontent)
    exact ⟨by simp, .inr recoverable_put⟩
  refine .ite (fun hrenamed => ?_) fun hrefused => ?_
  · exact (remove_backup_triple path old bytes).strengthen fun files h => by
      rwa [if_pos hrenamed] at h
  · exact (replaceByMovingAside_triple path old bytes).strengthen fun files h => by
      rwa [if_neg hrefused] at h

theorem commitTemp_triple :
    Triple (TempReady path old bytes) (commitTemp path)
      (Written path old bytes) (Interrupted path old bytes) := by
  unfold commitTemp
  refine .bind (.isPresent (Q := fun there files =>
    TempReady path old bytes files ∧ there = (files path).isSome) ?_) fun there => ?_
  · exact fun files h => ⟨⟨h, rfl⟩, .inl h.2⟩
  refine .bind (.isPresent (Q := fun orphan files =>
    TempReady path old bytes files ∧ there = (files path).isSome ∧
      orphan = (files (backupPath path)).isSome) ?_) fun orphan => ?_
  · exact fun files h => ⟨⟨h.1, h.2, rfl⟩, .inl h.1.2⟩
  refine .ite (fun horphan => ?_) fun hnone => ?_
  · simp only [Bool.and_eq_true, Bool.not_eq_true'] at horphan
    refine .bind (.rename (Q := fun recovered files =>
      if recovered then NoOrphan path old bytes files
      else recoverable path files = old) ?_) fun recovered => ?_
    · rintro files ⟨⟨htemp, hold⟩, hthere, -⟩
      have haway : files path = none := by
        rw [horphan.1] at hthere
        exact Option.isSome_eq_false_iff.mp hthere.symm |> Option.isNone_iff_eq_none.mp
      refine ⟨hold, .inl hold, fun content hcontent => ?_⟩
      have hback := (recoverable_put_back haway hcontent).trans hold
      exact ⟨⟨⟨by simp [htemp], hback⟩, .inl (by simp)⟩, .inl hback⟩
    refine .ite (fun hrecovered => ?_) fun hfailed => ?_
    · exact (replaceTarget_triple path old bytes).strengthen fun files h => by
        rwa [if_pos hrecovered] at h
    · exact (remove_temp_triple path old bytes).strengthen fun files h => by
        rwa [if_neg hfailed] at h
  · refine (replaceTarget_triple path old bytes).strengthen ?_
    rintro files ⟨hready, hthere, horphan⟩
    refine ⟨hready, ?_⟩
    cases hp : files path with
    | some content => exact .inl (by simp)
    | none =>
        right
        cases hb : files (backupPath path) with
        | none => rfl
        | some content => simp [hthere, horphan, hp, hb] at hnone

/-- A write that returns true has stored its contents, one that returns false has changed nothing
that a load can see, and a crash leaves the one or the other. -/
theorem writeFileAtomic_triple :
    Triple (fun files => recoverable path files = old) (writeFileAtomic path bytes)
      (Written path old bytes) (Interrupted path old bytes) := by
  unfold writeFileAtomic
  refine .bind (.openTruncated (Q := fun _ files => recoverable path files = old) ?_)
    fun opened => ?_
  · intro files h
    simp [Interrupted, h]
  refine .ite (fun _ => ?_) fun _ => .pure fun _ h => h
  refine .bind (.writeAll (Q := fun written files =>
    recoverable path files = old ∧ (written → files (tempPath path) = some bytes)) ?_)
    fun written => ?_
  · intro files h
    simp [Interrupted, h]
  refine .ite (fun hwritten => ?_) fun _ => ?_
  · exact (commitTemp_triple path old bytes).strengthen fun files h => ⟨h.2 hwritten, h.1⟩
  · exact (remove_temp_triple path old bytes).strengthen fun files h => h.1

/-- The recovery at load time changes nothing that a load can see. -/
theorem recoverOrphan_triple :
    Triple (fun files => recoverable path files = old) (recoverOrphan path)
      (fun _ files => recoverable path files = old) (fun files => recoverable path files = old) := by
  unfold recoverOrphan
  refine .bind (.isPresent (Q := fun there files =>
    recoverable path files = old ∧ there = (files path).isSome) ?_) fun there => ?_
  · exact fun files h => ⟨⟨h, rfl⟩, h⟩
  refine .bind (.isPresent (Q := fun _ files =>
    recoverable path files = old ∧ there = (files path).isSome) ?_) fun orphan => ?_
  · exact fun files h => ⟨h, h.1⟩
  refine .ite (fun horphan => ?_) fun _ => .pure fun _ h => h.1
  refine .bind (.rename (Q := fun _ files => recoverable path files = old) ?_)
    fun _ => .pure fun _ h => h
  rintro files ⟨hold, hthere⟩
  have haway : files path = none := by
    simp only [Bool.and_eq_true, Bool.not_eq_true'] at horphan
    rw [horphan.1] at hthere
    exact Option.isNone_iff_eq_none.mp (Option.isSome_eq_false_iff.mp hthere.symm)
  refine ⟨hold, hold, fun content hcontent => ?_⟩
  have hback := (recoverable_put_back haway hcontent).trans hold
  exact ⟨hback, hback⟩

end Write

end Persistence

end Gba.Desktop
