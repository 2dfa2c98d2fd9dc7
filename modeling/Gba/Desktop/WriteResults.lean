import Gba.Desktop.Persistence

/-!
# What a returned write says

A call of `write_file_atomic` that returns true has replaced the file. One that returns false has
left it in place, except when the fallback moved it aside and could neither put the new file in
place nor put the old one back (`Displaces`).
-/

namespace Gba.Desktop

open CrashFiles CrashFiles.FileM

namespace Persistence

/-- What happens to the operation at an index of a program. -/
def faultAt (faults : List Fault) (index : Nat) : Fault := (faults.drop index).headD .succeeds

theorem fault_of_drop {d : Disk String Core.U8} {faults : List Fault} {k : Nat}
    (h : d.faults = faults.drop k) : d.fault = faultAt faults k := by
  unfold Disk.fault faultAt
  rw [h]

theorem tail_of_drop {d : Disk String Core.U8} {faults : List Fault} {k : Nat}
    (h : d.faults = faults.drop k) : d.faults.tail = faults.drop (k + 1) := by
  rw [h, List.tail_drop]

/-- The operations of a write to an existing file, by index: the file cannot be replaced (4), is
moved aside (6), cannot be put in place (7), and cannot be put back (8). -/
def Displaces (faults : List Fault) : Prop :=
  faultAt faults 0 = .succeeds ∧ faultAt faults 1 = .succeeds ∧ faultAt faults 4 ≠ .succeeds ∧
    faultAt faults 6 = .succeeds ∧ faultAt faults 7 ≠ .succeeds ∧ faultAt faults 8 ≠ .succeeds

instance (faults : List Fault) : Decidable (Displaces faults) := by
  unfold Displaces; infer_instance

/-- What a write that returned `ok` did to the file, unless `displaced`. -/
structure WriteResult (path : String) (bytes : Bytes) (files : HostFiles) (ok : Bool)
    (files' : HostFiles) (displaced : Prop) : Prop where
  stored : ok = true → files' path = some bytes
  kept : ok = false → ∀ content, files path = some content →
    files' path = some content ∨ displaced
  absent : ok = false → files path = none → files (backupPath path) = none →
    files' path = none ∧ files' (backupPath path) = none

section Results

variable {path : String} {bytes : Bytes} {d d' : Disk String Core.U8} {ok : Bool}

/-- Giving up removes the temporary file only. -/
theorem giveUp_returns
    (h : (do remove (tempPath path); pure false : FileM String Core.U8 Bool) d = (some ok, d')) :
    ok = false ∧ d'.files path = d.files path ∧
      d'.files (backupPath path) = d.files (backupPath path) := by
  obtain ⟨u, mid, hremove, hpure⟩ := bind_eq_some h
  obtain ⟨rfl, rfl⟩ := pure_eq_some hpure
  obtain ⟨-, hfiles | hfiles⟩ := remove_eq_some hremove
  · rw [hfiles]; simp
  · rw [hfiles]; simp

/-- Finishing removes the move-aside sibling only. -/
theorem finish_returns
    (h : (do remove (backupPath path); pure true : FileM String Core.U8 Bool) d =
      (some ok, d')) : ok = true ∧ d'.files path = d.files path := by
  obtain ⟨u, mid, hremove, hpure⟩ := bind_eq_some h
  obtain ⟨rfl, rfl⟩ := pure_eq_some hpure
  obtain ⟨-, hfiles | hfiles⟩ := remove_eq_some hremove
  · rw [hfiles]; simp
  · rw [hfiles]; simp

theorem replaceByMovingAside_returns {faults : List Fault} (hd : d.faults = faults.drop 5)
    (htemp : d.files (tempPath path) = some bytes)
    (h : replaceByMovingAside path d = (some ok, d')) :
    WriteResult path bytes d.files ok d'.files
      (faultAt faults 6 = .succeeds ∧ faultAt faults 7 ≠ .succeeds ∧
        faultAt faults 8 ≠ .succeeds) := by
  unfold replaceByMovingAside at h
  obtain ⟨_, d₁, hremove, h⟩ := bind_eq_some h
  obtain ⟨hd₁, hfiles₁⟩ := remove_eq_some hremove
  rw [tail_of_drop hd] at hd₁
  have hpath₁ : d₁.files path = d.files path := by
    rcases hfiles₁ with h | h
    · simp [h]
    · rw [h]
  have htemp₁ : d₁.files (tempPath path) = some bytes := by
    rcases hfiles₁ with h | h <;> rw [h] <;> simp [htemp]
  have hbackup₁ : d.files (backupPath path) = none → d₁.files (backupPath path) = none := by
    intro hnone
    rcases hfiles₁ with h | h <;> rw [h] <;> simp [hnone]
  obtain ⟨moved, d₂, hmove, h⟩ := bind_eq_some h
  obtain ⟨hd₂, hmoved⟩ := rename_eq_some hmove
  rw [tail_of_drop hd₁] at hd₂
  rcases hmoved with ⟨rfl, hfault₆, content, hcontent, hfiles₂⟩ | ⟨rfl, hfiles₂, -⟩
  swap
  · obtain ⟨rfl, hpath', hbackup'⟩ := giveUp_returns h
    rw [hfiles₂, hpath₁] at hpath'
    rw [hfiles₂] at hbackup'
    exact ⟨by simp, fun _ content hc => .inl (hpath'.trans hc),
      fun _ hnone hb => ⟨hpath'.trans hnone, hbackup'.trans (hbackup₁ hb)⟩⟩
  rw [fault_of_drop hd₁] at hfault₆
  rw [hpath₁] at hcontent
  have htemp₂ : d₂.files (tempPath path) = some bytes := by rw [hfiles₂]; simp [htemp₁]
  have hbackup₂ : d₂.files (backupPath path) = some content := by rw [hfiles₂]; simp
  obtain ⟨replaced, d₃, hreplace, h⟩ := bind_eq_some h
  obtain ⟨hd₃, hreplaced⟩ := rename_eq_some hreplace
  rw [tail_of_drop hd₂] at hd₃
  rcases hreplaced with ⟨rfl, -, content', hcontent', hfiles₃⟩ | ⟨rfl, hfiles₃, hwhy⟩
  · obtain ⟨rfl, hpath'⟩ := finish_returns h
    obtain rfl : bytes = content' := Option.some.inj (htemp₂.symm.trans hcontent')
    rw [hfiles₃] at hpath'
    exact ⟨fun _ => by simpa using hpath', by simp, by simp⟩
  -- the new file could not be put in place
  have hfault₇ : faultAt faults 7 ≠ .succeeds := by
    rw [← fault_of_drop hd₂]
    exact hwhy.resolve_right (by simp [htemp₂])
  obtain ⟨restored, d₄, hrestore, h⟩ := bind_eq_some h
  obtain ⟨-, hrestored⟩ := rename_eq_some hrestore
  obtain ⟨rfl, hpath', -⟩ := giveUp_returns h
  refine ⟨by simp, fun _ old hold => ?_, fun _ hnone => by simp [hnone] at hcontent⟩
  rcases hrestored with ⟨-, -, content', hcontent', hfiles₄⟩ | ⟨-, -, hwhy'⟩
  · left
    rw [hfiles₃, hbackup₂] at hcontent'
    rw [hpath', hfiles₄, Function.update_self, ← hcontent', ← hcontent, hold]
  · right
    refine ⟨hfault₆, hfault₇, ?_⟩
    rw [← fault_of_drop hd₃]
    exact hwhy'.resolve_right (by simp [hfiles₃, hbackup₂])

theorem replaceTarget_returns {faults : List Fault} (hd : d.faults = faults.drop 4)
    (htemp : d.files (tempPath path) = some bytes) (h : replaceTarget path d = (some ok, d')) :
    WriteResult path bytes d.files ok d'.files
      (faultAt faults 4 ≠ .succeeds ∧ faultAt faults 6 = .succeeds ∧
        faultAt faults 7 ≠ .succeeds ∧ faultAt faults 8 ≠ .succeeds) := by
  unfold replaceTarget at h
  obtain ⟨renamed, d₁, hrename, h⟩ := bind_eq_some h
  obtain ⟨hd₁, hrenamed⟩ := rename_eq_some hrename
  rw [tail_of_drop hd] at hd₁
  rcases hrenamed with ⟨rfl, -, content, hcontent, hfiles₁⟩ | ⟨rfl, hfiles₁, hwhy⟩
  · obtain ⟨rfl, hpath'⟩ := finish_returns h
    obtain rfl : bytes = content := Option.some.inj (htemp.symm.trans hcontent)
    rw [hfiles₁] at hpath'
    exact ⟨fun _ => by simpa using hpath', by simp, by simp⟩
  · have hfault₄ : faultAt faults 4 ≠ .succeeds := by
      rw [← fault_of_drop hd]
      exact hwhy.resolve_right (by simp [htemp])
    obtain ⟨hstored, hkept, habsent⟩ :=
      replaceByMovingAside_returns hd₁ (by rw [hfiles₁, htemp]) h
    rw [hfiles₁] at hkept habsent
    exact ⟨hstored, fun hok content hc => (hkept hok content hc).imp_right fun hd => ⟨hfault₄, hd⟩,
      habsent⟩

end Results

/-- What a returned write did. A sibling that is there alone is put in place first. -/
theorem writeFileAtomic_returns {path : String} {bytes : Bytes} {files : HostFiles}
    {faults : List Fault} {ok : Bool} {d' : Disk String Core.U8}
    (h : writeFileAtomic path bytes ⟨files, faults⟩ = (some ok, d')) :
    WriteResult path bytes files ok d'.files (Displaces faults) := by
  unfold writeFileAtomic at h
  obtain ⟨opened, d₁, hopen, h⟩ := bind_eq_some h
  obtain ⟨hd₁, hopened⟩ := openTruncated_eq_some hopen
  have hd₀ : (⟨files, faults⟩ : Disk String Core.U8).faults = faults.drop 0 := rfl
  rw [tail_of_drop hd₀] at hd₁
  -- a write that cannot open or fill its temporary file has touched nothing else
  rcases hopened with ⟨rfl, hfault₀, hfiles₁⟩ | ⟨rfl, hfiles₁⟩
  swap
  · obtain ⟨rfl, rfl⟩ := pure_eq_some h
    rw [hfiles₁]
    exact ⟨by simp, fun _ _ hc => .inl hc, fun _ hn hb => ⟨hn, hb⟩⟩
  rw [fault_of_drop hd₀] at hfault₀
  obtain ⟨written, d₂, hwrite, h⟩ := bind_eq_some h
  obtain ⟨hd₂, hwritten⟩ := writeAll_eq_some hwrite
  rw [tail_of_drop hd₁] at hd₂
  rcases hwritten with ⟨rfl, hfault₁, hfiles₂⟩ | ⟨rfl, part, hfiles₂⟩
  swap
  · obtain ⟨rfl, hpath', hbackup'⟩ := giveUp_returns h
    rw [hfiles₂, hfiles₁] at hpath' hbackup'
    simp only [ne_tempPath, backupPath_ne_tempPath, ne_eq, not_false_eq_true,
      Function.update_of_ne] at hpath' hbackup'
    exact ⟨by simp, fun _ _ hc => .inl (hpath'.trans hc),
      fun _ hn hb => ⟨hpath'.trans hn, hbackup'.trans hb⟩⟩
  rw [fault_of_drop hd₁] at hfault₁
  have hpath₂ : d₂.files path = files path := by rw [hfiles₂, hfiles₁]; simp
  have hbackup₂ : d₂.files (backupPath path) = files (backupPath path) := by
    rw [hfiles₂, hfiles₁]; simp
  have htemp₂ : d₂.files (tempPath path) = some bytes := by rw [hfiles₂]; simp
  simp only [if_true, commitTemp] at h
  obtain ⟨there, d₃, hpresent, h⟩ := bind_eq_some h
  obtain ⟨rfl, rfl⟩ := isPresent_eq_some hpresent
  obtain ⟨orphan, d₄, hpresent', h⟩ := bind_eq_some h
  obtain ⟨rfl, rfl⟩ := isPresent_eq_some hpresent'
  simp only [hpath₂, hbackup₂] at h
  -- a sibling that stands alone is renamed into place before the new file is
  by_cases hthere : files path ≠ none ∨ files (backupPath path) = none
  swap
  · obtain ⟨hnone, hsibling⟩ := not_or.mp hthere
    rw [not_not] at hnone
    rw [if_pos (by simp_all [Option.isSome_iff_ne_none])] at h
    refine ⟨fun hok => ?_, fun _ content hc => by simp [hnone] at hc,
      fun _ _ hb => absurd hb hsibling⟩
    obtain ⟨recovered, d₅, hrename, h⟩ := bind_eq_some h
    obtain ⟨-, hrenamed⟩ := rename_eq_some hrename
    rcases hrenamed with ⟨rfl, -, content, -, hfiles₅⟩ | ⟨rfl, -, -⟩
    · have htemp₅ : d₅.files (tempPath path) = some bytes := by
        rw [hfiles₅]
        simp [htemp₂]
      exact (@replaceTarget_returns _ _ _ _ _ (List.replicate 4 .succeeds ++ d₅.faults) rfl htemp₅
        h).stored hok
    · rw [(giveUp_returns h).1] at hok
      contradiction
  rw [if_neg (by rcases hthere with hp | hb <;> simp_all [Option.isSome_iff_ne_none])] at h
  have hd₄ : d₂.faults.tail.tail = faults.drop 4 := by
    rw [hd₂, List.tail_drop, List.tail_drop]
  obtain ⟨hstored, hkept, habsent⟩ :=
    replaceTarget_returns (d := ⟨d₂.files, d₂.faults.tail.tail⟩) hd₄ htemp₂ h
  simp only [hpath₂, hbackup₂] at hkept habsent
  exact ⟨hstored, fun hok content hc =>
    (hkept hok content hc).imp_right fun hd => ⟨hfault₀, hfault₁, hd⟩, habsent⟩

end Persistence

end Gba.Desktop
