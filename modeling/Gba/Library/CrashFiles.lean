import Mathlib.Data.Set.Basic
import Mathlib.Logic.Function.Basic
import Mathlib.Tactic.Common

/-!
# File programs that fail and crash

A program over named files whose every operation may succeed, fail or be the last thing that the
process does. What happens to an operation is read from a list of faults, so a statement about all
lists covers every failure and every crash point. `Triple` is a Hoare triple with a third
assertion, which holds of the files that a crash leaves.
-/

namespace CrashFiles

/-- What happens to one operation. A failing write stores a part of its data. A crash happens
before (`progress = 0`) or after the effect of an atomic operation, or in the middle of a write. -/
inductive Fault where
  | succeeds
  | fails (written : Nat)
  | crashes (progress : Nat)
  deriving DecidableEq, Repr

/-- A map from names to contents. -/
abbrev Files (ν β : Type*) := ν → Option (List β)

/-- The files and the faults of the operations to come. -/
@[ext]
structure Disk (ν β : Type*) where
  files : Files ν β
  faults : List Fault

/-- A file program: it returns a value or crashes. -/
def FileM (ν β : Type*) (α : Type) := Disk ν β → Option α × Disk ν β

variable {ν β : Type*} {α γ : Type}

/-- What is left to happen after the next operation. An operation with no fault succeeds. -/
def Disk.nextFault (d : Disk ν β) : Fault × Disk ν β :=
  match d.faults with
  | [] => (.succeeds, d)
  | fault :: faults => (fault, { d with faults := faults })

@[simp] theorem Disk.nextFault_files (d : Disk ν β) : d.nextFault.2.files = d.files := by
  unfold nextFault
  split <;> rfl

namespace FileM

/-- A program that does nothing. -/
def ret (a : α) : FileM ν β α := fun d => (some a, d)

/-- One program after another, unless the first crashes. -/
def andThen (m : FileM ν β α) (f : α → FileM ν β γ) : FileM ν β γ := fun d =>
  match m d with
  | (some a, d) => f a d
  | (none, d) => (none, d)

instance : Monad (FileM ν β) where
  pure := ret
  bind := andThen

variable [DecidableEq ν]

/-- Replace one file. -/
def setFile (d : Disk ν β) (name : ν) (content : Option (List β)) : Disk ν β :=
  { d with files := Function.update d.files name content }

/-- Open a file for writing and truncate it. -/
def openTruncated (name : ν) : FileM ν β Bool := fun d =>
  match d.nextFault with
  | (.succeeds, d) => (some true, setFile d name (some []))
  | (.fails _, d) => (some false, d)
  | (.crashes 0, d) => (none, d)
  | (.crashes _, d) => (none, setFile d name (some []))

/-- Write all of a file that is open and empty. -/
def writeAll (name : ν) (content : List β) : FileM ν β Bool := fun d =>
  match d.nextFault with
  | (.succeeds, d) => (some true, setFile d name (some content))
  | (.fails written, d) => (some false, setFile d name (some (content.take written)))
  | (.crashes written, d) => (none, setFile d name (some (content.take written)))

/-- Ask whether a file exists. -/
def isPresent (name : ν) : FileM ν β Bool := fun d =>
  match d.nextFault with
  | (.crashes _, d) => (none, d)
  | (_, d) => (some (d.files name).isSome, d)

/-- Remove a file; a failure is ignored. -/
def remove (name : ν) : FileM ν β Unit := fun d =>
  match d.nextFault with
  | (.succeeds, d) => (some (), setFile d name none)
  | (.fails _, d) => (some (), d)
  | (.crashes 0, d) => (none, d)
  | (.crashes _, d) => (none, setFile d name none)

/-- Replace the file at `dst` by the file at `src`. -/
def moveFile (d : Disk ν β) (src dst : ν) (content : List β) : Disk ν β :=
  setFile (setFile d src none) dst (some content)

/-- Rename a file over another one, atomically. A missing source is a failure. -/
def rename (src dst : ν) : FileM ν β Bool := fun d =>
  match d.nextFault, d.files src with
  | (.succeeds, d), some content => (some true, moveFile d src dst content)
  | (.crashes (_ + 1), d), some content => (none, moveFile d src dst content)
  | (.crashes _, d), _ => (none, d)
  | (_, d), _ => (some false, d)

end FileM

/-! ## Triples -/

/-- From files that satisfy `pre`, a program that returns leaves files that satisfy `post`, and one
that crashes leaves files that satisfy `crash`. -/
def Triple (pre : Files ν β → Prop) (m : FileM ν β α) (post : α → Files ν β → Prop)
    (crash : Files ν β → Prop) : Prop :=
  ∀ files faults, pre files →
    match m ⟨files, faults⟩ with
    | (some a, d) => post a d.files
    | (none, d) => crash d.files

namespace Triple

variable {P P' : Files ν β → Prop} {Q : α → Files ν β → Prop} {C : Files ν β → Prop}

theorem pure {a : α} (h : ∀ files, P files → Q a files) :
    Triple P (Pure.pure a : FileM ν β α) Q C :=
  fun files _ hpre => h files hpre

theorem bind {M : α → Files ν β → Prop} {Q : γ → Files ν β → Prop} {m : FileM ν β α}
    {f : α → FileM ν β γ} (hm : Triple P m M C)
    (hf : ∀ a, Triple (M a) (f a) Q C) : Triple P (m >>= f) Q C := by
  intro files faults hpre
  have hfirst := hm files faults hpre
  show match FileM.andThen m f ⟨files, faults⟩ with
    | (some a, d) => Q a d.files
    | (none, d) => C d.files
  unfold FileM.andThen
  cases hrun : m ⟨files, faults⟩ with
  | mk result d =>
      rw [hrun] at hfirst
      cases result with
      | none => exact hfirst
      | some a => exact hf a d.files d.faults hfirst

/-- Strengthen the precondition. -/
theorem strengthen {m : FileM ν β α} (h : Triple P m Q C)
    (hpre : ∀ files, P' files → P files) : Triple P' m Q C :=
  fun files faults hp => h files faults (hpre files hp)

theorem ite {c : Prop} [Decidable c] {m₁ m₂ : FileM ν β α} (h₁ : c → Triple P m₁ Q C)
    (h₂ : ¬c → Triple P m₂ Q C) : Triple P (if c then m₁ else m₂) Q C := by
  by_cases hc : c
  · rw [if_pos hc]; exact h₁ hc
  · rw [if_neg hc]; exact h₂ hc

/-! ## The rules of the operations -/

section Operations

variable [DecidableEq ν]

open FileM

theorem openTruncated {name : ν} {Q : Bool → Files ν β → Prop}
    (h : ∀ files, P files → Q false files ∧ C files ∧
      Q true (Function.update files name (some [])) ∧
      C (Function.update files name (some []))) :
    Triple P (openTruncated name) Q C := by
  intro files faults hpre
  obtain ⟨hfail, hbefore, hok, hafter⟩ := h files hpre
  rcases faults with _ | ⟨_ | _ | _ | _, faults⟩
  all_goals simpa [FileM.openTruncated, Disk.nextFault, setFile]

theorem writeAll {name : ν} {content : List β} {Q : Bool → Files ν β → Prop}
    (h : ∀ files, P files → Q true (Function.update files name (some content)) ∧
      ∀ part, Q false (Function.update files name (some part)) ∧
        C (Function.update files name (some part))) :
    Triple P (writeAll name content) Q C := by
  intro files faults hpre
  obtain ⟨hok, hpart⟩ := h files hpre
  rcases faults with _ | ⟨_ | _ | written, faults⟩
  · simpa [FileM.writeAll, Disk.nextFault, setFile]
  · simpa [FileM.writeAll, Disk.nextFault, setFile]
  · simpa [FileM.writeAll, Disk.nextFault, setFile] using (hpart _).1
  · simpa [FileM.writeAll, Disk.nextFault, setFile] using (hpart _).2

omit [DecidableEq ν] in
theorem isPresent {name : ν} {Q : Bool → Files ν β → Prop}
    (h : ∀ files, P files → Q (files name).isSome files ∧ C files) :
    Triple P (isPresent name) Q C := by
  intro files faults hpre
  obtain ⟨hok, hcrash⟩ := h files hpre
  rcases faults with _ | ⟨_ | _ | _, faults⟩
  all_goals simpa [FileM.isPresent, Disk.nextFault]

theorem remove {name : ν} {Q : Unit → Files ν β → Prop}
    (h : ∀ files, P files → Q () files ∧ C files ∧
      Q () (Function.update files name none) ∧ C (Function.update files name none)) :
    Triple P (remove name) Q C := by
  intro files faults hpre
  obtain ⟨hfail, hbefore, hok, hafter⟩ := h files hpre
  rcases faults with _ | ⟨_ | _ | _ | _, faults⟩
  all_goals simpa [FileM.remove, Disk.nextFault, setFile]

theorem rename {src dst : ν} {Q : Bool → Files ν β → Prop}
    (h : ∀ files, P files → Q false files ∧ C files ∧
      ∀ content, files src = some content →
        Q true (Function.update (Function.update files src none) dst (some content)) ∧
        C (Function.update (Function.update files src none) dst (some content))) :
    Triple P (rename src dst) Q C := by
  intro files faults hpre
  obtain ⟨hfail, hbefore, hmove⟩ := h files hpre
  cases hsrc : files src with
  | none =>
      rcases faults with _ | ⟨_ | _ | _ | _, faults⟩
      all_goals simpa [FileM.rename, Disk.nextFault, hsrc]
  | some content =>
      obtain ⟨hok, hafter⟩ := hmove content hsrc
      rcases faults with _ | ⟨_ | _ | _ | _, faults⟩
      all_goals simpa [FileM.rename, Disk.nextFault, hsrc, moveFile, setFile]

end Operations

end Triple

/-! ## What a returned value says

A program that returns has met no crash, and each of its operations went the way its fault says.
-/

/-- What happens to the next operation. -/
def Disk.fault (d : Disk ν β) : Fault := d.faults.headD .succeeds

theorem Disk.nextFault_eq (d : Disk ν β) :
    d.nextFault = (d.fault, ⟨d.files, d.faults.tail⟩) := by
  rcases d with ⟨files, _ | ⟨fault, faults⟩⟩ <;> rfl

namespace FileM

theorem bind_eq_some {m : FileM ν β α} {f : α → FileM ν β γ} {d d' : Disk ν β} {c : γ}
    (h : (m >>= f) d = (some c, d')) :
    ∃ a mid, m d = (some a, mid) ∧ f a mid = (some c, d') := by
  change andThen m f d = (some c, d') at h
  unfold andThen at h
  cases hm : m d with
  | mk result mid =>
      rw [hm] at h
      cases result with
      | none => simp at h
      | some a => exact ⟨a, mid, rfl, h⟩

theorem pure_eq_some {a b : α} {d d' : Disk ν β}
    (h : (Pure.pure a : FileM ν β α) d = (some b, d')) : a = b ∧ d = d' := by
  change (some a, d) = (some b, d') at h
  simpa using h

theorem isPresent_eq_some {name : ν} {d d' : Disk ν β} {there : Bool}
    (h : isPresent name d = (some there, d')) :
    there = (d.files name).isSome ∧ d' = ⟨d.files, d.faults.tail⟩ := by
  unfold isPresent at h
  rw [Disk.nextFault_eq] at h
  cases hf : d.fault <;> rw [hf] at h <;> simp_all

variable [DecidableEq ν]

theorem openTruncated_eq_some {name : ν} {d d' : Disk ν β} {ok : Bool}
    (h : openTruncated name d = (some ok, d')) :
    d'.faults = d.faults.tail ∧
      ((ok = true ∧ d.fault = .succeeds ∧ d'.files = Function.update d.files name (some [])) ∨
        (ok = false ∧ d'.files = d.files)) := by
  unfold openTruncated at h
  rw [Disk.nextFault_eq] at h
  rcases hf : d.fault with _ | _ | _ | _ <;> rw [hf] at h <;> simp [setFile] at h
  · obtain ⟨rfl, rfl⟩ := h
    exact ⟨rfl, .inl ⟨rfl, rfl, rfl⟩⟩
  · obtain ⟨rfl, rfl⟩ := h
    exact ⟨rfl, .inr ⟨rfl, rfl⟩⟩

theorem writeAll_eq_some {name : ν} {content : List β} {d d' : Disk ν β} {ok : Bool}
    (h : writeAll name content d = (some ok, d')) :
    d'.faults = d.faults.tail ∧
      ((ok = true ∧ d.fault = .succeeds ∧
          d'.files = Function.update d.files name (some content)) ∨
        (ok = false ∧ ∃ part, d'.files = Function.update d.files name (some part))) := by
  unfold writeAll at h
  rw [Disk.nextFault_eq] at h
  rcases hf : d.fault with _ | _ | _ <;> rw [hf] at h <;> simp [setFile] at h
  · obtain ⟨rfl, rfl⟩ := h
    exact ⟨rfl, .inl ⟨rfl, rfl, rfl⟩⟩
  · obtain ⟨rfl, rfl⟩ := h
    exact ⟨rfl, .inr ⟨rfl, _, rfl⟩⟩

theorem remove_eq_some {name : ν} {d d' : Disk ν β} {u : Unit}
    (h : remove name d = (some u, d')) :
    d'.faults = d.faults.tail ∧
      (d'.files = Function.update d.files name none ∨ d'.files = d.files) := by
  unfold remove at h
  rw [Disk.nextFault_eq] at h
  rcases hf : d.fault with _ | _ | _ | _ <;> rw [hf] at h <;> simp [setFile] at h
  · subst h
    exact ⟨rfl, .inl rfl⟩
  · subst h
    exact ⟨rfl, .inr rfl⟩

theorem rename_eq_some {src dst : ν} {d d' : Disk ν β} {ok : Bool}
    (h : rename src dst d = (some ok, d')) :
    d'.faults = d.faults.tail ∧
      ((ok = true ∧ d.fault = .succeeds ∧ ∃ content, d.files src = some content ∧
          d'.files = Function.update (Function.update d.files src none) dst (some content)) ∨
        (ok = false ∧ d'.files = d.files ∧ (d.fault ≠ .succeeds ∨ d.files src = none))) := by
  unfold rename at h
  rw [Disk.nextFault_eq] at h
  cases hsrc : d.files src with
  | none =>
      rcases hf : d.fault with _ | _ | _ | _ <;> rw [hf] at h <;> simp [hsrc] at h
      all_goals
        obtain ⟨rfl, rfl⟩ := h
        exact ⟨rfl, .inr ⟨rfl, rfl, .inr rfl⟩⟩
  | some content =>
      rcases hf : d.fault with _ | _ | _ | _ <;> rw [hf] at h <;>
        simp [hsrc, moveFile, setFile] at h
      · obtain ⟨rfl, rfl⟩ := h
        exact ⟨rfl, .inl ⟨rfl, rfl, content, rfl, rfl⟩⟩
      · obtain ⟨rfl, rfl⟩ := h
        exact ⟨rfl, .inr ⟨rfl, rfl, .inl (by simp)⟩⟩

end FileM

/-! ## Footprints -/

/-- A program that changes no file outside `names`, however it fails or crashes. -/
def Within (names : Set ν) (m : FileM ν β α) : Prop :=
  ∀ d name, name ∉ names → (m d).2.files name = d.files name

namespace Within

variable {names : Set ν}

theorem pure (a : α) : Within names (Pure.pure a : FileM ν β α) := fun _ _ _ => rfl

theorem bind {m : FileM ν β α} {f : α → FileM ν β γ} (hm : Within names m)
    (hf : ∀ a, Within names (f a)) : Within names (m >>= f) := by
  intro d name hname
  have hfirst := hm d name hname
  show (FileM.andThen m f d).2.files name = _
  unfold FileM.andThen
  cases hrun : m d with
  | mk result d' =>
      rw [hrun] at hfirst
      cases result with
      | none => exact hfirst
      | some a => exact (hf a d' name hname).trans hfirst

theorem ite {c : Prop} [Decidable c] {m₁ m₂ : FileM ν β α} (h₁ : Within names m₁)
    (h₂ : Within names m₂) : Within names (if c then m₁ else m₂) := by
  split
  · exact h₁
  · exact h₂

variable [DecidableEq ν]

open FileM

theorem openTruncated {name : ν} (h : name ∈ names) :
    Within names (openTruncated name : FileM ν β Bool) := by
  intro d other hother
  have hne : other ≠ name := fun heq => hother (heq ▸ h)
  rcases d with ⟨files, _ | ⟨_ | _ | _ | _, faults⟩⟩ <;>
    simp [FileM.openTruncated, Disk.nextFault, setFile, hne]

theorem writeAll {name : ν} (h : name ∈ names) (content : List β) :
    Within names (writeAll name content) := by
  intro d other hother
  have hne : other ≠ name := fun heq => hother (heq ▸ h)
  rcases d with ⟨files, _ | ⟨_ | _ | _, faults⟩⟩ <;>
    simp [FileM.writeAll, Disk.nextFault, setFile, hne]

omit [DecidableEq ν] in
theorem isPresent (name : ν) : Within names (isPresent name : FileM ν β Bool) := by
  intro d other _
  rcases d with ⟨files, _ | ⟨_ | _ | _, faults⟩⟩ <;> rfl

theorem remove {name : ν} (h : name ∈ names) :
    Within names (remove name : FileM ν β Unit) := by
  intro d other hother
  have hne : other ≠ name := fun heq => hother (heq ▸ h)
  rcases d with ⟨files, _ | ⟨_ | _ | _ | _, faults⟩⟩ <;>
    simp [FileM.remove, Disk.nextFault, setFile, hne]

theorem rename {src dst : ν} (hsrc : src ∈ names) (hdst : dst ∈ names) :
    Within names (rename src dst : FileM ν β Bool) := by
  intro d other hother
  have hs : other ≠ src := fun heq => hother (heq ▸ hsrc)
  have hd : other ≠ dst := fun heq => hother (heq ▸ hdst)
  rcases d with ⟨files, _ | ⟨_ | _ | _ | _, faults⟩⟩ <;> cases hfile : files src <;>
    simp [FileM.rename, Disk.nextFault, moveFile, setFile, hfile, hs, hd]

end Within

end CrashFiles
