import Gba.Desktop.Persistence
import Mathlib.Data.Set.Insert

/-!
# Runs of save writes

Any number of writes of one file, each with its own failures and possibly cut off by a crash, and
of recoveries at load time. `acceptable` is the specification: an atomic register that a crashed
write may or may not have updated. `write_file_atomic_crash_safe` says that the files always hold
an acceptable content in full.
-/

namespace Gba.Desktop

open CrashFiles

namespace Persistence

/-- One write or one recovery, with what happens to its operations. -/
inductive SaveEvent where
  | write (bytes : Bytes) (faults : List Fault)
  | recover (faults : List Fault)

/-- A finished write: the value that it returned, or none if it crashed. -/
structure SaveCall where
  bytes : Bytes
  result : Option Bool
  deriving DecidableEq

/-- The files after some events, and the writes among them in order. -/
structure SaveRun where
  files : HostFiles
  calls : List SaveCall

/-- One event. -/
def SaveRun.step (path : String) (run : SaveRun) : SaveEvent → SaveRun
  | .write bytes faults =>
      let r := writeFileAtomic path bytes ⟨run.files, faults⟩
      ⟨r.2.files, run.calls ++ [⟨bytes, r.1⟩]⟩
  | .recover faults => { run with files := (recoverOrphan path ⟨run.files, faults⟩).2.files }

/-- All events from some files on. -/
def runEvents (path : String) (files : HostFiles) (events : List SaveEvent) : SaveRun :=
  events.foldl (SaveRun.step path) ⟨files, []⟩

/-- What an atomic register may hold after one more write. -/
def acceptableAfter (acc : Set (Option Bytes)) (call : SaveCall) : Set (Option Bytes) :=
  match call.result with
  | some true => {some call.bytes}
  | some false => acc
  | none => insert (some call.bytes) acc

/-- What an atomic register may hold after some writes. -/
def acceptable (initial : Option Bytes) (calls : List SaveCall) : Set (Option Bytes) :=
  calls.foldl acceptableAfter {initial}

theorem acceptable_append_singleton (initial : Option Bytes) (calls : List SaveCall)
    (call : SaveCall) :
    acceptable initial (calls ++ [call]) = acceptableAfter (acceptable initial calls) call := by
  simp [acceptable, List.foldl_append]

/-- A content that may be held after further writes, none of which returned true, was held before
them or is that of a crashed one. -/
theorem foldl_acceptableAfter {acc : Set (Option Bytes)} {calls : List SaveCall}
    (h : ∀ c ∈ calls, c.result ≠ some true) {content : Option Bytes}
    (hmem : content ∈ calls.foldl acceptableAfter acc) :
    content ∈ acc ∨ ∃ c ∈ calls, c.result = none ∧ some c.bytes = content := by
  induction calls generalizing acc with
  | nil => exact .inl hmem
  | cons c calls ih =>
      rcases ih (fun c hc => h c (List.mem_cons_of_mem _ hc)) hmem with hacc | ⟨d, hd, hcrash⟩
      · unfold acceptableAfter at hacc
        cases hresult : c.result with
        | none =>
            rw [hresult] at hacc
            rcases Set.mem_insert_iff.mp hacc with hnew | hold
            · exact .inr ⟨c, List.mem_cons_self, hresult, hnew.symm⟩
            · exact .inl hold
        | some ok =>
            cases ok with
            | true => exact absurd hresult (h c List.mem_cons_self)
            | false =>
                rw [hresult] at hacc
                exact .inl hacc
      · exact .inr ⟨d, List.mem_cons_of_mem _ hd, hcrash⟩

/-- Nothing but the initial content and the contents of the writes is acceptable. -/
theorem mem_acceptable {initial content : Option Bytes} {calls : List SaveCall}
    (h : content ∈ acceptable initial calls) :
    content = initial ∨ ∃ c ∈ calls, some c.bytes = content := by
  induction calls using List.reverseRecOn with
  | nil => exact .inl h
  | append_singleton calls c ih =>
      have hlift : (content = initial ∨ ∃ d ∈ calls, some d.bytes = content) →
          content = initial ∨ ∃ d ∈ calls ++ [c], some d.bytes = content := by
        rintro (h | ⟨d, hd, hbytes⟩)
        · exact .inl h
        · exact .inr ⟨d, List.mem_append_left _ hd, hbytes⟩
      have hlast : some c.bytes = content → ∃ d ∈ calls ++ [c], some d.bytes = content :=
        fun h => ⟨c, by simp, h⟩
      rw [acceptable_append_singleton, acceptableAfter] at h
      split at h
      · exact .inr (hlast h.symm)
      · exact hlift (ih h)
      · rcases Set.mem_insert_iff.mp h with h | h
        · exact .inr (hlast h.symm)
        · exact hlift (ih h)

/-- One event keeps the recoverable content acceptable. -/
theorem step_acceptable {path : String} {initial : Option Bytes} {run : SaveRun}
    (h : recoverable path run.files ∈ acceptable initial run.calls) (event : SaveEvent) :
    recoverable path (run.step path event).files ∈
      acceptable initial (run.step path event).calls := by
  cases event with
  | write bytes faults =>
      have htriple := writeFileAtomic_triple path (recoverable path run.files) bytes
        run.files faults rfl
      simp only [SaveRun.step, acceptable_append_singleton, acceptableAfter]
      cases hrun : writeFileAtomic path bytes ⟨run.files, faults⟩ with
      | mk result disk =>
          rw [hrun] at htriple
          cases result with
          | none =>
              rcases htriple with hold | hnew
              · rw [hold]; exact Set.mem_insert_of_mem _ h
              · rw [hnew]; exact Set.mem_insert _ _
          | some ok =>
              cases ok with
              | true => exact htriple
              | false =>
                  have hold : recoverable path disk.files = recoverable path run.files := htriple
                  rw [hold]; exact h
  | recover faults =>
      have htriple := recoverOrphan_triple path (recoverable path run.files) run.files faults rfl
      have hsame : recoverable path (run.step path (.recover faults)).files =
          recoverable path run.files := by
        simp only [SaveRun.step]
        cases hrun : recoverOrphan path ⟨run.files, faults⟩ with
        | mk result disk =>
            rw [hrun] at htriple
            cases result <;> exact htriple
      rw [hsame]
      exact h

/-- The recoverable content is acceptable after every run. -/
theorem runEvents_acceptable (path : String) (files : HostFiles) (events : List SaveEvent) :
    recoverable path (runEvents path files events).files ∈
      acceptable (recoverable path files) (runEvents path files events).calls := by
  induction events using List.reverseRecOn with
  | nil => exact rfl
  | append_singleton events event ih =>
      have hstep : runEvents path files (events ++ [event]) =
          (runEvents path files events).step path event := by
        simp [runEvents, List.foldl_append]
      rw [hstep]
      exact step_acceptable ih event

/-- Save writing is crash safe. After any run of writes and recoveries, the content of the last
write that returned true, or that of a later one that crashed, is present in full at the file, or
at its sibling while the file is absent; without a write that returned true the same holds of what
was recoverable at first; and the file never holds anything but a complete content. -/
theorem write_file_atomic_crash_safe (path : String) (files : HostFiles)
    (events : List SaveEvent) :
    (∀ before last after,
      (runEvents path files events).calls = before ++ ⟨last, some true⟩ :: after →
      (∀ c ∈ after, c.result ≠ some true) →
      ∃ content, recoverable path (runEvents path files events).files = some content ∧
        (content = last ∨ ∃ c ∈ after, c.result = none ∧ c.bytes = content)) ∧
    ((∀ c ∈ (runEvents path files events).calls, c.result ≠ some true) →
      recoverable path (runEvents path files events).files = recoverable path files ∨
        ∃ c ∈ (runEvents path files events).calls, c.result = none ∧
          recoverable path (runEvents path files events).files = some c.bytes) ∧
    (∀ content, (runEvents path files events).files path = some content →
      recoverable path files = some content ∨
        ∃ c ∈ (runEvents path files events).calls, c.bytes = content) := by
  have hacc := runEvents_acceptable path files events
  generalize runEvents path files events = run at hacc
  refine ⟨?_, ?_, ?_⟩
  · intro before last after hcalls hafter
    rw [hcalls, acceptable, List.foldl_append, List.foldl_cons] at hacc
    rcases foldl_acceptableAfter hafter hacc with hlast | ⟨c, hc, hcrash, hbytes⟩
    · exact ⟨last, hlast, .inl rfl⟩
    · exact ⟨c.bytes, hbytes.symm, .inr ⟨c, hc, hcrash, rfl⟩⟩
  · intro hnone
    rcases foldl_acceptableAfter hnone hacc with hfirst | ⟨c, hc, hcrash, hbytes⟩
    · exact .inl hfirst
    · exact .inr ⟨c, hc, hcrash, hbytes.symm⟩
  · intro content hcontent
    have hrec : recoverable path run.files = some content := by simp [recoverable, hcontent]
    rcases mem_acceptable hacc with hfirst | ⟨c, hc, hbytes⟩
    · exact .inl (hfirst.symm.trans hrec)
    · exact .inr ⟨c, hc, Option.some.inj (hbytes.trans hrec)⟩

end Persistence

end Gba.Desktop
