import Gba.Core.SaveStateRuns
import Gba.Desktop.FailClosed
import Gba.Desktop.SaveStateGuard
import Gba.Desktop.WriteResults
import Gba.Library.Reachable

/-!
# Save states that a worker writes

`AsyncSaveWriter` and the part of `DesktopApp` that uses it. The emulation thread captures a
snapshot and hands it to a worker, which encodes and writes it while the emulation goes on; the
result is kept until the emulation thread collects it. The two threads share the writer and the
files. Whatever the order of their steps, every job that was taken is written once and reported once,
and the file holds the session as it was when the save was asked for.
-/

namespace Gba.Desktop

open CrashFiles CrashFiles.FileM Core

namespace Persistence

/-! ## The names -/

/-- `save_state_path`. -/
def saveStatePath (savePrefix : String) (slot : Int) : String :=
  savePrefix ++ ".state" ++ toString slot

/-- The last character of a name. -/
def lastChar (name : String) : Option Char := name.toList.getLast?

theorem lastChar_append {name suffix : String} (h : suffix.toList ≠ []) :
    lastChar (name ++ suffix) = lastChar suffix := by
  unfold lastChar
  rw [String.toList_append]
  exact List.getLast?_append_of_ne_nil _ h

/-- A number ends in a digit. -/
theorem lastChar_number (n : Nat) : ∃ digit, lastChar n.repr = some digit ∧ digit.isDigit := by
  unfold lastChar
  rw [Nat.toList_repr]
  have hne : Nat.toDigits 10 n ≠ [] := Nat.toDigits_ne_nil
  exact ⟨_, List.getLast?_eq_some_getLast hne,
    Nat.isDigit_of_mem_toDigits (by omega) (by omega) (List.getLast_mem hne)⟩

theorem lastChar_saveStatePath (savePrefix : String) (slot : Int) :
    ∃ digit, lastChar (saveStatePath savePrefix slot) = some digit ∧ digit.isDigit := by
  have hrepr (n : Nat) : n.repr.toList ≠ [] := by
    rw [Nat.toList_repr]
    exact Nat.toDigits_ne_nil
  cases slot with
  | ofNat n =>
      have hlast : lastChar (saveStatePath savePrefix (.ofNat n)) = lastChar n.repr :=
        lastChar_append (hrepr n)
      rw [hlast]
      exact lastChar_number n
  | negSucc n =>
      have hlast : lastChar (saveStatePath savePrefix (.negSucc n)) = lastChar (n + 1).repr := by
        show lastChar (savePrefix ++ ".state" ++ ("-" ++ (n + 1).repr)) = _
        rw [← String.append_assoc]
        exact lastChar_append (hrepr (n + 1))
      rw [hlast]
      exact lastChar_number (n + 1)

/-- A save state is not named like a file that ends in a letter. -/
theorem saveStatePath_ne {savePrefix : String} {slot : Int} {name : String} {last : Char}
    (hname : lastChar name = some last) (hletter : last.isDigit = false) :
    saveStatePath savePrefix slot ≠ name := by
  rintro rfl
  obtain ⟨digit, hdigit, hisDigit⟩ := lastChar_saveStatePath savePrefix slot
  obtain rfl := Option.some.inj (hdigit.symm.trans hname)
  rw [hletter] at hisDigit
  cases hisDigit

theorem lastChar_tempPath (path : String) : lastChar (tempPath path) = some 'p' :=
  lastChar_append (by decide)

theorem lastChar_backupPath (path : String) : lastChar (backupPath path) = some 'd' :=
  lastChar_append (by decide)

/-- A save state is not one of the files of another one. -/
theorem saveState_notMem_saveState {savePrefix savePrefix' : String} {slot slot' : Int}
    (hne : saveStatePath savePrefix slot ≠ saveStatePath savePrefix' slot') :
    saveStatePath savePrefix slot ∉ writeNames (saveStatePath savePrefix' slot') := by
  rintro (h | h | h)
  · exact hne h
  · exact saveStatePath_ne (lastChar_tempPath _) rfl h
  · exact saveStatePath_ne (lastChar_backupPath _) rfl h

/-- A save state is not one of the files of a cartridge save. -/
theorem saveState_notMem_cartridge (savePrefix savePrefix' : String) (slot : Int) :
    saveStatePath savePrefix slot ∉ writeNames (cartridgeSavePath savePrefix') := by
  rintro (h | h | h)
  · exact saveStatePath_ne (lastChar_append (by decide) : lastChar (_ ++ ".sav") = some 'v') rfl h
  · exact saveStatePath_ne (lastChar_tempPath _) rfl h
  · exact saveStatePath_ne (lastChar_backupPath _) rfl h

/-- The recovery at load time changes the names of the file and its orphan only. -/
theorem recoverOrphan_within (path : String) : Within (writeNames path) (recoverOrphan path) :=
  .bind (.isPresent _) fun _ => .bind (.isPresent _) fun _ =>
    .ite (.bind (.rename (.inr (.inr rfl)) (.inl rfl)) fun _ => .pure ()) (.pure ())

end Persistence

open Persistence

/-! ## The writer -/

/-- `AsyncSaveWriter::Result`. -/
structure SaveResult where
  path : String
  written : Bool
  error : String
  deriving DecidableEq

/-- A job: its destination, and what its encoder comes to, which is the bytes or an exception with
the text that it has, if any. The encoder owns its inputs. -/
structure SaveJob where
  path : String
  encoded : Except (Option String) Bytes

/-- The body of the worker; no result if the process crashes while it writes. -/
def SaveJob.run (job : SaveJob) (disk : Disk String U8) : Option SaveResult × Disk String U8 :=
  match job.encoded with
  | .ok blob =>
      match writeFileAtomic job.path blob disk with
      | (some written, disk) =>
          (some ⟨job.path, written, if written then "" else "atomic write failed"⟩, disk)
      | (none, disk) => (none, disk)
  | .error what => (some ⟨job.path, false, what.getD "unknown save worker error"⟩, disk)

/-- The state of a future that is valid. -/
inductive PendingSave where
  | running (job : SaveJob)
  | ready (result : SaveResult)

/-- `AsyncSaveWriter`. -/
structure AsyncSaveWriter where
  pending : Option PendingSave

namespace AsyncSaveWriter

/-- `busy`. -/
def busy (writer : AsyncSaveWriter) : Bool := writer.pending.isSome

/-- `start`: whether the job was taken. -/
def start (job : SaveJob) (writer : AsyncSaveWriter) : Bool × AsyncSaveWriter :=
  if writer.busy then (false, writer) else (true, ⟨some (.running job)⟩)

/-- `poll`. -/
def poll (writer : AsyncSaveWriter) : Option SaveResult × AsyncSaveWriter :=
  match writer.pending with
  | some (.ready result) => (some result, ⟨none⟩)
  | _ => (none, writer)

/-- `finish`; it has to wait while the worker runs. -/
def finish (writer : AsyncSaveWriter) : Option (Option SaveResult × AsyncSaveWriter) :=
  match writer.pending with
  | none => some (none, writer)
  | some (.ready result) => some (some result, ⟨none⟩)
  | some (.running _) => none

end AsyncSaveWriter

/-! ## The host -/

/-- A request that was accepted: the session at that moment, and the job. -/
structure SaveRequest where
  saved : CoreSession
  job : SaveJob

/-- The part of `DesktopApp` that saves and loads states, with the files, the requests that it has
accepted and the results that it has reported. -/
structure SaveStateHost where
  session : CoreSession
  savePrefix : String
  writer : AsyncSaveWriter
  files : HostFiles
  requests : List SaveRequest
  reports : List SaveResult

namespace SaveStateHost

/-- A result that was collected is reported. -/
def report (collected : Option SaveResult × AsyncSaveWriter) (host : SaveStateHost) :
    SaveStateHost :=
  { host with writer := collected.2, reports := host.reports ++ collected.1.toList }

/-- `collect_save_state`; it has to wait if it is asked to and the worker runs. -/
def collectSaveState (wait : Bool) (host : SaveStateHost) : Option SaveStateHost :=
  if wait then host.writer.finish.map (host.report ·) else some (host.report host.writer.poll)

/-- What the encoder of `write_save_state` makes of the snapshot that it owns: the save state of a
private machine. -/
def encodeSnapshot (snapshot : CoreSessionState) : Bytes :=
  SaveStateCodec.encode (CoreSession.initial.loadState snapshot)

/-- The job of `write_save_state`, whose encoder may throw. -/
def saveJob (path : String) (session : CoreSession) (thrown : Option (Option String)) : SaveJob :=
  ⟨path, thrown.elim (.ok (encodeSnapshot session.saveState)) .error⟩

/-- `write_save_state`: whether the state was queued. The worker may fail to start. -/
def writeSaveState (slot : Int) (starts : Bool) (thrown : Option (Option String))
    (host : SaveStateHost) : Bool × SaveStateHost :=
  if host.savePrefix.isEmpty then (false, host)
  else
    let path := saveStatePath host.savePrefix slot
    let host := host.report host.writer.poll
    if host.writer.busy || !starts then (false, host)
    else
      let job := saveJob path host.session thrown
      let started := host.writer.start job
      if started.1 then
        (true, { host with
          writer := started.2
          requests := host.requests ++ [⟨host.session, job⟩] })
      else (false, host)

/-- `read_save_state`: whether the state was loaded; it has to wait while the worker runs. The keys
that are held are applied to the session that was loaded. -/
def readSaveState (slot : Int) (readable : Bool) (inputMask : U16) (host : SaveStateHost) :
    Option (Bool × SaveStateHost) :=
  (host.collectSaveState true).bind fun host =>
    if host.savePrefix.isEmpty then some (false, host)
    else
      let blob := readBinaryFile readable host.files (saveStatePath host.savePrefix slot)
      if blob.isEmpty then some (false, host)
      else
        (loadSaveStateForSession host.session blob .initial).map fun (status, session, _) =>
          if status = .ok then
            (true, { host with session := (session.setInputMask inputMask).2 })
          else (false, host)

/-- A step of one of the two threads. -/
inductive Step (host : SaveStateHost) : SaveStateHost → Prop where
  /-- The emulation goes on, in whatever way. -/
  | emulate (session : CoreSession) : Step host { host with session := session }
  | switchRom (savePrefix : String) : Step host { host with savePrefix := savePrefix }
  | flushCartridgeSave {bytes : Bytes} {faults : List Fault} {ok : Bool} {disk : Disk String U8}
      (h : writeFileAtomic (cartridgeSavePath host.savePrefix) bytes ⟨host.files, faults⟩ =
        (some ok, disk)) : Step host { host with files := disk.files }
  | recoverCartridgeSave {faults : List Fault} {disk : Disk String U8}
      (h : recoverOrphan (cartridgeSavePath host.savePrefix) ⟨host.files, faults⟩ =
        (some (), disk)) : Step host { host with files := disk.files }
  /-- The worker runs its job to the end. -/
  | work {job : SaveJob} {faults : List Fault} {result : SaveResult} {disk : Disk String U8}
      (hrunning : host.writer.pending = some (.running job))
      (h : job.run ⟨host.files, faults⟩ = (some result, disk)) :
      Step host { host with writer := ⟨some (.ready result)⟩, files := disk.files }
  | collectSaveState {wait : Bool} {after : SaveStateHost}
      (h : host.collectSaveState wait = some after) : Step host after
  | writeSaveState (slot : Int) (starts : Bool) (thrown : Option (Option String)) :
      Step host (host.writeSaveState slot starts thrown).2
  | readSaveState {slot : Int} {readable : Bool} {inputMask : U16} {loaded : Bool}
      {after : SaveStateHost}
      (h : host.readSaveState slot readable inputMask = some (loaded, after)) : Step host after

/-- A host that has just been made. -/
def Fresh (host : SaveStateHost) : Prop :=
  host.writer.pending = none ∧ host.requests = [] ∧ host.reports = []

end SaveStateHost

/-! ## What was asked for and what was reported -/

namespace AsyncSaveWriter

/-- The job that the worker runs. -/
def running (writer : AsyncSaveWriter) : List SaveJob :=
  match writer.pending with
  | some (.running job) => [job]
  | _ => []

/-- The result that was not collected yet. -/
def ready (writer : AsyncSaveWriter) : List SaveResult :=
  match writer.pending with
  | some (.ready result) => [result]
  | _ => []

/-- A writer that is idle takes the job. -/
theorem start_idle {writer : AsyncSaveWriter} (h : writer.pending = none) (job : SaveJob) :
    writer.start job = (true, ⟨some (.running job)⟩) := by
  simp [start, busy, h]

/-- A result that was waited for is the one that polling finds. -/
theorem poll_of_finish {writer : AsyncSaveWriter}
    {collected : Option SaveResult × AsyncSaveWriter} (h : writer.finish = some collected) :
    collected = writer.poll := by
  obtain ⟨_ | _ | _⟩ := writer <;> cases h <;> rfl

/-- Collecting takes the result out of the writer and leaves the job in it. -/
theorem poll_collects (writer : AsyncSaveWriter) :
    writer.poll.1.toList ++ writer.poll.2.ready = writer.ready ∧
      writer.poll.2.running = writer.running := by
  obtain ⟨_ | _ | _⟩ := writer <;> exact ⟨rfl, rfl⟩

end AsyncSaveWriter

/-- The request is one that `write_save_state` makes. -/
def SaveRequest.Issued (request : SaveRequest) : Prop :=
  ∃ savePrefix slot thrown,
    request.job = SaveStateHost.saveJob (saveStatePath savePrefix slot) request.saved thrown

/-- The result says what has become of the request. -/
structure Answers (request : SaveRequest) (result : SaveResult) : Prop where
  path : result.path = request.job.path
  written : result.written = true →
    request.job.encoded = .ok (SaveStateCodec.encode request.saved) ∧ result.error = ""
  failed : result.written = false →
    result.error = match request.job.encoded with
      | .ok _ => "atomic write failed"
      | .error what => what.getD "unknown save worker error"

/-- What is known to be stored under a name after some jobs: the session of the last one, if it was
written. -/
def storedAfter (path : String) (finished : List (SaveRequest × SaveResult)) : Option Bytes :=
  finished.foldl (fun stored job =>
    if job.1.job.path = path then
      if job.2.written then some (SaveStateCodec.encode job.1.saved) else none
    else stored) none

/-- The jobs that are finished account for the requests, the reports and the files. -/
structure Accounted (finished : List (SaveRequest × SaveResult)) (host : SaveStateHost) : Prop where
  requests : ∃ rest, host.requests = finished.map Prod.fst ++ rest ∧
    rest.map SaveRequest.job = host.writer.running
  reports : host.reports ++ host.writer.ready = finished.map Prod.snd
  issued : ∀ request ∈ host.requests, request.Issued
  answers : ∀ job ∈ finished, Answers job.1 job.2
  stored : ∀ savePrefix slot content, storedAfter (saveStatePath savePrefix slot) finished =
    some content → host.files (saveStatePath savePrefix slot) = some content

namespace Accounted

variable {finished : List (SaveRequest × SaveResult)} {host : SaveStateHost}

/-- Other files may change. -/
theorem touched (h : Accounted finished host) {files : HostFiles}
    (hfiles : ∀ savePrefix slot, files (saveStatePath savePrefix slot) =
      host.files (saveStatePath savePrefix slot)) :
    Accounted finished { host with files := files } :=
  { h with
    stored := fun savePrefix slot content hcontent =>
      (hfiles savePrefix slot).trans (h.stored savePrefix slot content hcontent) }

/-- Collecting a result reports it. -/
theorem report (h : Accounted finished host) :
    Accounted finished (host.report host.writer.poll) := by
  obtain ⟨hready, hrunning⟩ := host.writer.poll_collects
  refine { h with requests := ?_, reports := ?_ }
  · obtain ⟨rest, hrequests, hrest⟩ := h.requests
    exact ⟨rest, hrequests, hrest.trans hrunning.symm⟩
  · show host.reports ++ host.writer.poll.1.toList ++ host.writer.poll.2.ready = _
    rw [List.append_assoc, hready]
    exact h.reports

theorem collectSaveState (h : Accounted finished host) {wait : Bool} {after : SaveStateHost}
    (hcollect : host.collectSaveState wait = some after) : Accounted finished after := by
  unfold SaveStateHost.collectSaveState at hcollect
  split at hcollect
  · obtain ⟨collected, hfinish, rfl⟩ := Option.map_eq_some_iff.mp hcollect
    rw [AsyncSaveWriter.poll_of_finish hfinish]
    exact h.report
  · obtain rfl := Option.some.inj hcollect
    exact h.report

/-- A job that is taken is the one that the worker runs. -/
theorem writeSaveState (h : Accounted finished host) (slot : Int) (starts : Bool)
    (thrown : Option (Option String)) :
    Accounted finished (host.writeSaveState slot starts thrown).2 := by
  unfold SaveStateHost.writeSaveState
  split
  · exact h
  dsimp only
  have hcollected := h.report
  generalize host.report host.writer.poll = collected at hcollected ⊢
  split
  · exact hcollected
  next hidle =>
  have hnone : collected.writer.pending = none := by
    rw [Bool.or_eq_true, not_or] at hidle
    simpa [AsyncSaveWriter.busy] using hidle.1
  obtain ⟨rest, hrequests, hrest⟩ := hcollected.requests
  have hidleRuns : collected.writer.running = [] := by simp [AsyncSaveWriter.running, hnone]
  have hidleReady : collected.writer.ready = [] := by simp [AsyncSaveWriter.ready, hnone]
  obtain rfl : rest = [] := List.map_eq_nil_iff.mp (hrest.trans hidleRuns)
  rw [AsyncSaveWriter.start_idle hnone, if_pos rfl]
  let request : SaveRequest :=
    ⟨collected.session,
      SaveStateHost.saveJob (saveStatePath host.savePrefix slot) collected.session thrown⟩
  refine ⟨⟨[request], ?_, rfl⟩, ?_, ?_, hcollected.answers, hcollected.stored⟩
  · show collected.requests ++ _ = _
    rw [hrequests, List.append_nil]
  · have hreports := hcollected.reports
    rw [hidleReady] at hreports
    exact hreports
  · intro request hrequest
    rcases List.mem_append.mp hrequest with hbefore | hnew
    · exact hcollected.issued request hbefore
    · rw [List.mem_singleton.mp hnew]
      exact ⟨host.savePrefix, slot, thrown, rfl⟩

/-- The state that a private machine encodes is the one of the session that was captured. -/
theorem encodeSnapshot_saveState (session : CoreSession) :
    SaveStateHost.encodeSnapshot session.saveState = SaveStateCodec.encode session := rfl

/-- What a worker reports about a request. -/
theorem answers_run {request : SaveRequest} (hissued : request.Issued) {result : SaveResult}
    {disk after : Disk String U8} (h : request.job.run disk = (some result, after)) :
    Answers request result ∧
      (result.written = true →
        after.files request.job.path = some (SaveStateCodec.encode request.saved)) ∧
      ∀ name, name ∉ writeNames request.job.path → after.files name = disk.files name := by
  obtain ⟨savePrefix, slot, thrown, hjob⟩ := hissued
  unfold SaveJob.run at h
  cases thrown with
  | some what =>
      have hencoded : request.job.encoded = .error what := by rw [hjob]; rfl
      rw [hencoded] at h
      obtain ⟨hresult, rfl⟩ := Prod.mk.inj h
      obtain rfl := Option.some.inj hresult
      refine ⟨⟨rfl, nofun, fun _ => ?_⟩, nofun, fun _ _ => rfl⟩
      rw [hencoded]
  | none =>
      have hencoded : request.job.encoded = .ok (SaveStateCodec.encode request.saved) := by
        rw [hjob]
        exact congrArg Except.ok (encodeSnapshot_saveState request.saved)
      rw [hencoded] at h
      dsimp only at h
      have hwithin := writeFileAtomic_within request.job.path (SaveStateCodec.encode request.saved)
        disk
      split at h
      · next written disk' hwrite =>
        have hstores := (writeFileAtomic_returns hwrite).stored
        rw [hwrite] at hwithin
        obtain ⟨hresult, rfl⟩ := Prod.mk.inj h
        obtain rfl := Option.some.inj hresult
        refine ⟨⟨rfl, fun hwritten => ⟨hencoded, ?_⟩, fun hfailed => ?_⟩, hstores, hwithin⟩
        · exact if_pos hwritten
        · rw [hencoded]
          exact if_neg (Bool.eq_false_iff.mp hfailed)
      · cases (Prod.mk.inj h).1

/-- What is stored under a name after one more job. -/
theorem storedAfter_snoc (path : String) (job : SaveRequest × SaveResult) :
    storedAfter path (finished ++ [job]) =
      if job.1.job.path = path then
        if job.2.written then some (SaveStateCodec.encode job.1.saved) else none
      else storedAfter path finished := by
  unfold storedAfter
  rw [List.foldl_append]
  rfl

/-- The worker finishes its job. -/
theorem work (h : Accounted finished host) {job : SaveJob} {faults : List Fault}
    {result : SaveResult} {disk : Disk String U8}
    (hrunning : host.writer.pending = some (.running job))
    (hrun : job.run ⟨host.files, faults⟩ = (some result, disk)) :
    ∃ request, Accounted (finished ++ [(request, result)])
      { host with writer := ⟨some (.ready result)⟩, files := disk.files } := by
  obtain ⟨rest, hrequests, hrest⟩ := h.requests
  have hruns : host.writer.running = [job] := by simp [AsyncSaveWriter.running, hrunning]
  have hnotReady : host.writer.ready = [] := by simp [AsyncSaveWriter.ready, hrunning]
  obtain ⟨request, rfl, rfl⟩ := List.map_eq_singleton_iff.mp (hrest.trans hruns)
  have hissued : request.Issued := h.issued request (by rw [hrequests]; simp)
  obtain ⟨hanswers, hwritten, hothers⟩ := answers_run hissued hrun
  obtain ⟨savePrefix', slot', thrown, hjob⟩ := hissued
  have hpath : request.job.path = saveStatePath savePrefix' slot' := congrArg SaveJob.path hjob
  refine ⟨request, ⟨[], ?_, rfl⟩, ?_, h.issued, ?_, ?_⟩
  · rw [List.map_append, List.append_nil]
    exact hrequests
  · have hreports := h.reports
    rw [hnotReady, List.append_nil] at hreports
    rw [List.map_append, ← hreports]
    rfl
  · intro entry hentry
    rcases List.mem_append.mp hentry with hbefore | hnew
    · exact h.answers entry hbefore
    · rw [List.mem_singleton.mp hnew]
      exact hanswers
  · intro savePrefix slot content hcontent
    rw [storedAfter_snoc] at hcontent
    dsimp only at hcontent
    split at hcontent
    · next hsame =>
      split at hcontent
      · next hok =>
        rw [← hsame, ← hcontent]
        exact hwritten hok
      · cases hcontent
    · next hother =>
      rw [hpath] at hother hothers
      have hkept := hothers _ (saveState_notMem_saveState fun hsame => hother hsame.symm)
      exact hkept.trans (h.stored savePrefix slot content hcontent)

/-- Loading a state collects the result and changes the session only. -/
theorem readSaveState (h : Accounted finished host) {slot : Int} {readable loaded : Bool}
    {inputMask : U16} {after : SaveStateHost}
    (hread : host.readSaveState slot readable inputMask = some (loaded, after)) :
    Accounted finished after := by
  unfold SaveStateHost.readSaveState at hread
  obtain ⟨collected, hcollect, hread⟩ := Option.bind_eq_some_iff.mp hread
  have hcollected := h.collectSaveState hcollect
  dsimp only at hread
  split at hread
  · obtain ⟨-, rfl⟩ := Prod.mk.inj (Option.some.inj hread)
    exact hcollected
  split at hread
  · obtain ⟨-, rfl⟩ := Prod.mk.inj (Option.some.inj hread)
    exact hcollected
  · obtain ⟨⟨status, session, scratch⟩, -, hafter⟩ := Option.map_eq_some_iff.mp hread
    dsimp only at hafter
    split at hafter
    · obtain ⟨-, rfl⟩ := Prod.mk.inj hafter
      exact { hcollected with }
    · obtain ⟨-, rfl⟩ := Prod.mk.inj hafter
      exact hcollected

/-- Every step of every thread keeps the account, which grows with the jobs that are finished. -/
theorem step {after : SaveStateHost} (hstep : host.Step after) (h : Accounted finished host) :
    ∃ more, Accounted (finished ++ more) after := by
  have hsame {after : SaveStateHost} (h : Accounted finished after) :
      ∃ more, Accounted (finished ++ more) after :=
    ⟨[], by rwa [List.append_nil]⟩
  have hcartridge {α : Type} {program : FileM String U8 α}
      (hprogram : Within (writeNames (cartridgeSavePath host.savePrefix)) program)
      (disk : Disk String U8) (hdisk : disk.files = host.files) :
      Accounted finished { host with files := (program disk).2.files } :=
    h.touched fun savePrefix slot =>
      (hprogram disk _ (saveState_notMem_cartridge savePrefix host.savePrefix slot)).trans
        (congrFun hdisk _)
  cases hstep with
  | emulate session => exact hsame { h with }
  | switchRom savePrefix => exact hsame { h with }
  | @flushCartridgeSave bytes faults ok disk hwrite =>
      have hkept := hcartridge (writeFileAtomic_within _ bytes) ⟨host.files, faults⟩ rfl
      rw [hwrite] at hkept
      exact hsame hkept
  | @recoverCartridgeSave faults disk hrecover =>
      have hkept := hcartridge (recoverOrphan_within _) ⟨host.files, faults⟩ rfl
      rw [hrecover] at hkept
      exact hsame hkept
  | work hrunning hrun =>
      obtain ⟨request, hdone⟩ := h.work hrunning hrun
      exact ⟨_, hdone⟩
  | collectSaveState hcollect => exact hsame (h.collectSaveState hcollect)
  | writeSaveState slot starts thrown => exact hsame (h.writeSaveState slot starts thrown)
  | readSaveState hread => exact hsame (h.readSaveState hread)

end Accounted

/-- The state of the last job of a name is known to be stored. -/
theorem storedAfter_last {path : String} {before after : List (SaveRequest × SaveResult)}
    {job : SaveRequest × SaveResult} (hpath : job.1.job.path = path) (hwritten : job.2.written = true)
    (hlast : ∀ later ∈ after, later.1.job.path ≠ path) :
    storedAfter path (before ++ job :: after) = some (SaveStateCodec.encode job.1.saved) := by
  unfold storedAfter
  rw [List.foldl_append, List.foldl_cons, if_pos hpath, if_pos hwritten]
  induction after with
  | nil => rfl
  | cons later after ih =>
      rw [List.foldl_cons, if_neg (hlast later List.mem_cons_self)]
      exact ih fun other hother => hlast other (List.mem_cons_of_mem _ hother)

namespace SaveStateHost

variable {host : SaveStateHost}

/-- The hosts that the threads reach in whatever order they step. -/
abbrev Reached (host : SaveStateHost) : Prop := Library.Reachable Fresh Step host

theorem accounted (h : host.Reached) : ∃ finished, Accounted finished host := by
  refine Library.Reachable.invariant (P := fun host => ∃ finished, Accounted finished host) ?_ ?_ h
  · rintro host ⟨hidle, hrequests, hreports⟩
    refine ⟨[], ⟨[], hrequests, ?_⟩, ?_, ?_, fun _ hjob => absurd hjob List.not_mem_nil,
      fun _ _ _ hstored => ?_⟩
    · simp [AsyncSaveWriter.running, hidle]
    · simp [AsyncSaveWriter.ready, hidle, hreports]
    · rw [hrequests]
      exact fun _ hrequest => absurd hrequest List.not_mem_nil
    · cases hstored
  · rintro host after hstep ⟨finished, hfinished⟩
    obtain ⟨more, hmore⟩ := hfinished.step hstep
    exact ⟨_, hmore⟩

/-- A session of a game with a save. -/
def played : CoreSession := .gameSession CoreSession.savingProgram

/-- A host that has queued the state of the game. -/
def queued (files : HostFiles) : SaveStateHost :=
  let job := saveJob (saveStatePath "game.gba" 1) played none
  ⟨played, "game.gba", ⟨some (.running job)⟩, files, [⟨played, job⟩], []⟩

/-- The same host once the worker has written the state. -/
def saved (files : HostFiles) : SaveStateHost :=
  { queued files with writer := ⟨some (.ready ⟨saveStatePath "game.gba" 1, true, ""⟩)⟩ }

theorem reached_saved : ∃ files, (saved files).Reached := by
  let path := saveStatePath "game.gba" 1
  obtain ⟨files, hwrite, -, -⟩ :=
    writeFileAtomic_no_faults path (encodeSnapshot played.saveState) fun _ => none
  have hfirst : Reached ⟨played, "game.gba", ⟨none⟩, fun _ => none, [], []⟩ :=
    .start ⟨rfl, rfl, rfl⟩
  have hqueued : Reached (queued fun _ => none) := hfirst.step (.writeSaveState 1 true none)
  have hrun : (saveJob path played none).run ⟨(queued fun _ => none).files, []⟩ =
      (some ⟨path, true, ""⟩, ⟨files, []⟩) := by
    show SaveJob.run ⟨path, .ok (encodeSnapshot played.saveState)⟩
      ⟨fun _ => none, []⟩ = _
    unfold SaveJob.run
    dsimp only
    rw [hwrite]
    rfl
  exact ⟨files, hqueued.step (.work rfl hrun)⟩

/-- Whatever the order of the steps: every request that was accepted is finished or is the one that
the worker runs, every finished one is reported once, in order, or waits to be collected, with what
has become of it, and a state that was written is stored as the session was when it was asked for,
until its slot is saved again. -/
theorem saves_accounted (h : host.Reached) :
    ∃ (finished : List (SaveRequest × SaveResult)) (rest : List SaveRequest),
      host.requests = finished.map Prod.fst ++ rest ∧
      rest.map SaveRequest.job = host.writer.running ∧
      host.reports ++ host.writer.ready = finished.map Prod.snd ∧
      (∀ job ∈ finished, Answers job.1 job.2) ∧
      ∀ before job after, finished = before ++ job :: after → job.2.written = true →
        (∀ later ∈ after, later.1.job.path ≠ job.1.job.path) →
        host.files job.1.job.path = some (SaveStateCodec.encode job.1.saved) := by
  obtain ⟨finished, hfinished⟩ := accounted h
  obtain ⟨rest, hrequests, hrest⟩ := hfinished.requests
  refine ⟨finished, rest, hrequests, hrest, hfinished.reports, hfinished.answers, ?_⟩
  rintro before job after rfl hwritten hlast
  have hjob : job.1 ∈ host.requests := by
    rw [hrequests]
    simp
  obtain ⟨savePrefix, slot, thrown, hissued⟩ := hfinished.issued job.1 hjob
  have hpath : job.1.job.path = saveStatePath savePrefix slot := congrArg SaveJob.path hissued
  rw [hpath]
  exact hfinished.stored savePrefix slot _ (storedAfter_last hpath hwritten (hpath ▸ hlast))

/-- The state of a game that was saved once. -/
theorem saves_accounted_saved :
    ∃ files, ∃ (finished : List (SaveRequest × SaveResult)) (rest : List SaveRequest),
      (saved files).requests = finished.map Prod.fst ++ rest ∧
      rest.map SaveRequest.job = (saved files).writer.running ∧
      (saved files).reports ++ (saved files).writer.ready = finished.map Prod.snd ∧
      (∀ job ∈ finished, Answers job.1 job.2) ∧
      ∀ before job after, finished = before ++ job :: after → job.2.written = true →
        (∀ later ∈ after, later.1.job.path ≠ job.1.job.path) →
        files job.1.job.path = some (SaveStateCodec.encode job.1.saved) := by
  obtain ⟨files, hsaved⟩ := reached_saved
  exact ⟨files, saves_accounted hsaved⟩

/-- A request whose report says that it was written is stored while its slot is not saved again. -/
theorem stored_of_report (h : host.Reached) (hidle : host.writer.running = [])
    {before after : List SaveRequest} {request : SaveRequest} {result : SaveResult}
    (hrequests : host.requests = before ++ request :: after)
    (hreport : (host.reports ++ host.writer.ready)[before.length]? = some result)
    (hwritten : result.written = true)
    (hlast : ∀ later ∈ after, later.job.path ≠ request.job.path) :
    host.files request.job.path = some (SaveStateCodec.encode request.saved) := by
  obtain ⟨finished, hfinished⟩ := accounted h
  obtain ⟨rest, hall, hrest⟩ := hfinished.requests
  obtain rfl : rest = [] := List.map_eq_nil_iff.mp (hrest.trans hidle)
  rw [List.append_nil, hrequests] at hall
  -- the job that answers the request is at its place
  obtain ⟨first, last, rfl, hbefore, hlater⟩ := List.map_eq_append_iff.mp hall.symm
  obtain ⟨job, later, rfl, hjob, hafter⟩ := List.map_eq_cons_iff.mp hlater
  rw [hfinished.reports, List.map_append, ← hbefore, List.length_map] at hreport
  obtain rfl : job.2 = result := by simpa using hreport
  obtain ⟨savePrefix, slot, thrown, hissued⟩ := hfinished.issued request (by simp [hrequests])
  have hpath : request.job.path = saveStatePath savePrefix slot := congrArg SaveJob.path hissued
  have hjobPath : job.1.job.path = saveStatePath savePrefix slot := hjob ▸ hpath
  rw [hpath, ← hjob]
  refine hfinished.stored savePrefix slot _ (storedAfter_last hjobPath hwritten fun other hother => ?_)
  rw [← hpath]
  refine hlast other.1 ?_
  rw [← hafter]
  exact List.mem_map_of_mem hother

/-- The guard lets a save state of the same game with the same save type through. -/
theorem loadSaveStateForSession_encode {saved : CoreSession} (h : saved.Sound)
    (hframes : saved.scheduler.FramesRestorable)
    (hdebug : saved.system.memory.debugOutput.length < 2 ^ 32)
    (hdma : DmaController.loadState saved.system.devices.dma = some saved.system.devices.dma)
    {live : CoreSession} (hrom : saved.system.memory.gamePakRom = live.system.memory.gamePakRom)
    (htype : saved.system.memory.gamePakSave.saveType = live.system.memory.gamePakSave.saveType)
    (scratch : CoreSession) :
    ∃ restored scratchAfter,
      loadSaveStateForSession live (SaveStateCodec.encode saved) scratch =
        some (.ok, restored, scratchAfter) ∧
      SaveStateCodec.snapshotOf restored = SaveStateCodec.snapshotOf saved ∧ restored.Sound := by
  obtain ⟨decoded, hdecode, hsnapshot, -, -, hsound⟩ :=
    SaveStateCodec.decodeInto_encode h hframes hdebug hdma scratch
  have hmemory : decoded.system.memory = saved.system.memory :=
    congrArg SnapshotState.memory hsnapshot
  refine ⟨live.loadState decoded.saveState, decoded, ?_, hsnapshot,
    ⟨hsound.mode, hsound.memory, hsound.devices, hsound.scheduler⟩⟩
  unfold loadSaveStateForSession
  rw [hdecode, Option.map_some]
  dsimp only
  rw [if_neg (not_not.mpr rfl), hmemory, if_neg (not_not.mpr hrom), if_neg (not_not.mpr htype)]

/-- A state that was reported as written is loaded back exactly, whatever has happened since it was
asked for: the session becomes the one of that moment, to which the held keys are applied. -/
theorem readSaveState_restores (h : host.Reached) (hidle : host.writer.running = [])
    {before after : List SaveRequest} {request : SaveRequest} {result : SaveResult}
    (hrequests : host.requests = before ++ request :: after)
    (hreport : (host.reports ++ host.writer.ready)[before.length]? = some result)
    (hwritten : result.written = true)
    (hlast : ∀ later ∈ after, later.job.path ≠ request.job.path)
    {slot : Int} (hslot : request.job.path = saveStatePath host.savePrefix slot)
    (hloaded : host.savePrefix.isEmpty = false)
    (hsaved : request.saved.Reached) (hframes : request.saved.scheduler.FramesRestorable)
    (hdebug : request.saved.system.memory.debugOutput.length < 2 ^ 32)
    (hdma : DmaController.loadState request.saved.system.devices.dma =
      some request.saved.system.devices.dma)
    (hrom : request.saved.system.memory.gamePakRom = host.session.system.memory.gamePakRom)
    (htype : request.saved.system.memory.gamePakSave.saveType =
      host.session.system.memory.gamePakSave.saveType) (inputMask : U16) :
    ∃ restored loaded, host.readSaveState slot true inputMask = some (true, loaded) ∧
      loaded.session = (restored.setInputMask inputMask).2 ∧
      SaveStateCodec.snapshotOf restored = SaveStateCodec.snapshotOf request.saved ∧
      restored.stateHash = request.saved.stateHash ∧ restored.Sound := by
  have hstored := stored_of_report h hidle hrequests hreport hwritten hlast
  obtain ⟨restored, scratch, hload, hsnapshot, hsound⟩ :=
    loadSaveStateForSession_encode hsaved.sound hframes hdebug hdma hrom htype .initial
  have hcollect : host.collectSaveState true = some (host.report host.writer.poll) := by
    unfold collectSaveState AsyncSaveWriter.finish AsyncSaveWriter.poll
    unfold AsyncSaveWriter.running at hidle
    cases hpending : host.writer.pending with
    | none => rfl
    | some pending =>
        rw [hpending] at hidle
        cases pending with
        | running job => exact absurd hidle (List.cons_ne_nil _ _)
        | ready result => rfl
  have hblob : readBinaryFile true (host.report host.writer.poll).files
      (saveStatePath (host.report host.writer.poll).savePrefix slot) =
        SaveStateCodec.encode request.saved := by
    show (host.files (saveStatePath host.savePrefix slot)).getD [] = _
    rw [← hslot, hstored]
    rfl
  have hnonempty : (SaveStateCodec.encode request.saved).isEmpty = false := by
    unfold SaveStateCodec.encode SaveStateCodec.writeHeader
    rfl
  refine ⟨restored,
    { host.report host.writer.poll with session := (restored.setInputMask inputMask).2 }, ?_, rfl,
    hsnapshot, CoreSession.stateHash_of_snapshot hsnapshot, hsound⟩
  have hsession : (host.report host.writer.poll).session = host.session := rfl
  have hsame : (host.report host.writer.poll).savePrefix.isEmpty = false := hloaded
  unfold readSaveState
  rw [hcollect, Option.bind_some, hblob]
  dsimp only
  rw [hsame, hnonempty, hsession, hload]
  rfl

/-- The state of a game that was saved once is loaded back. -/
theorem readSaveState_restores_saved :
    ∃ files restored loaded, (saved files).readSaveState 1 true 1 = some (true, loaded) ∧
      loaded.session = (restored.setInputMask 1).2 ∧
      SaveStateCodec.snapshotOf restored = SaveStateCodec.snapshotOf played ∧
      restored.stateHash = played.stateHash ∧ restored.Sound := by
  obtain ⟨files, hsaved⟩ := reached_saved
  have hrequests : (saved files).requests =
      [] ++ ⟨played, saveJob (saveStatePath "game.gba" 1) played none⟩ :: [] := rfl
  have hreport : ((saved files).reports ++ (saved files).writer.ready)[([] : List SaveRequest).length]? =
      some ⟨saveStatePath "game.gba" 1, true, ""⟩ := rfl
  exact ⟨files, readSaveState_restores hsaved rfl hrequests hreport rfl
    (fun _ hlater => absurd hlater List.not_mem_nil) rfl rfl
    (CoreSession.gameSession_reached CoreSession.savingProgram) SaveStateCodec.restorable_reset
    (Nat.two_pow_pos 32) rfl rfl rfl 1⟩

end SaveStateHost

end Gba.Desktop
