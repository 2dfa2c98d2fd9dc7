import Gba.Core.SessionMachine

/-!
# Runs of many steps

`run_steps_from_pc` steps a session up to a number of times and accounts for every step: a step that
cannot fetch or whose instruction is unsupported ends the run. A run returns from every session that
is ever reached, its counters add up to the steps that it has taken, and a run may be split anywhere.
-/

namespace Gba.Core

open Gba.Library

namespace CoreSchedulerRunResult

/-- The result before the first step. -/
def start (maxSteps : U32) (session : CoreSession) : CoreSchedulerRunResult where
  requestedSteps := maxSteps
  attemptedSteps := 0
  executedSteps := 0
  skippedSteps := 0
  unsupportedSteps := 0
  fetchFailures := 0
  stopReason := .maxSteps
  finalPc := session.pc
  schedulerCycles := session.scheduler.schedulerCycles

/-- Account for one step: whether the run ends with it, and the result with it. A step that fetches
and has no result is not accounted for. -/
def count (result : CoreSchedulerRunResult) (fetched : CoreSchedulerFetchStepResult) :
    Option (Bool × CoreSchedulerRunResult) :=
  if fetched.fetchFailed then
    some (true, { result with
      fetchFailures := result.fetchFailures + 1
      stopReason := .fetchFailed })
  else
    fetched.step.map fun step =>
      let attempted := { result with attemptedSteps := result.attemptedSteps + 1 }
      match step.cpuStep.status with
      | .executed => (false, { attempted with executedSteps := result.executedSteps + 1 })
      | .skippedCondition => (false, { attempted with skippedSteps := result.skippedSteps + 1 })
      | .unsupported =>
          (true, { attempted with
            unsupportedSteps := result.unsupportedSteps + 1
            stopReason := .unsupportedInstruction })

/-- The result at the end of the run. -/
def finish (result : CoreSchedulerRunResult) (session : CoreSession) : CoreSchedulerRunResult :=
  { result with
    finalPc := session.pc
    schedulerCycles := session.scheduler.schedulerCycles }

end CoreSchedulerRunResult

namespace CoreSession

/-- A function that steps a session. -/
abbrev Step := CoreSession → Option (CoreSchedulerFetchStepResult × CoreSession)

/-- The loop of `run_steps_from_pc` with the given number of steps to go. -/
def runLoop (step : Step) :
    Nat → CoreSchedulerRunResult → CoreSession → Option (CoreSchedulerRunResult × CoreSession)
  | 0, result, session => some (result, session)
  | remaining + 1, result, session =>
      (step session).bind fun (fetched, after) =>
        (result.count fetched).bind fun (stop, counted) =>
          if stop then some (counted, after) else runLoop step remaining counted after

/-- `run_steps_from_pc`. -/
def runStepsFromPc (step : Step) (maxSteps : U32) (session : CoreSession) :
    Option (CoreSchedulerRunResult × CoreSession) :=
  (runLoop step maxSteps.toNat (.start maxSteps session) session).map fun (result, after) =>
    (result.finish after, after)

/-- `run_arm_from_pc`. -/
def runArmFromPc (maxSteps : U32) (session : CoreSession) :
    Option (CoreSchedulerRunResult × CoreSession) :=
  session.runStepsFromPc (stepArmFromPc sessionWiring autoIrqReady) maxSteps

/-- `CoreSession::run`, which is `run_from_pc` of the scheduler. -/
def run (maxSteps : U32) (session : CoreSession) : Option (CoreSchedulerRunResult × CoreSession) :=
  session.runStepsFromPc step maxSteps

/-- The session after a number of steps. -/
def afterSteps (step : Step) : Nat → CoreSession → Option CoreSession
  | 0, session => some session
  | n + 1, session => (step session).bind fun stepped => afterSteps step n stepped.2

end CoreSession

/-! ## The account of a run -/

namespace CoreSession

theorem runLoop_succ (step : Step) (remaining : Nat) (result : CoreSchedulerRunResult)
    (session : CoreSession) :
    runLoop step (remaining + 1) result session =
      (step session).bind fun (fetched, after) =>
        (result.count fetched).bind fun (stop, counted) =>
          if stop then some (counted, after) else runLoop step remaining counted after := rfl

end CoreSession

namespace CoreSchedulerRunResult

/-- No counter has wrapped, and nothing has ended the run so far. -/
structure Counting (taken : Nat) (result : CoreSchedulerRunResult) : Prop where
  attempted : result.attemptedSteps.toNat = taken
  passed : result.executedSteps.toNat + result.skippedSteps.toNat = taken
  unsupported : result.unsupportedSteps = 0
  fetchFailures : result.fetchFailures = 0
  stopReason : result.stopReason = .maxSteps

/-- What the counters of a run say about the steps that it has taken. -/
structure Accounts (maxSteps taken : Nat) (result : CoreSchedulerRunResult) : Prop where
  within : taken ≤ maxSteps
  steps : result.attemptedSteps.toNat + result.fetchFailures.toNat = taken
  attempted : result.attemptedSteps.toNat =
    result.executedSteps.toNat + result.skippedSteps.toNat + result.unsupportedSteps.toNat
  stop :
    match result.stopReason with
    | .maxSteps => taken = maxSteps ∧ result.unsupportedSteps = 0 ∧ result.fetchFailures = 0
    | .fetchFailed => result.unsupportedSteps = 0 ∧ result.fetchFailures = 1
    | .unsupportedInstruction => result.unsupportedSteps = 1 ∧ result.fetchFailures = 0

theorem counting_start (maxSteps : U32) (session : CoreSession) :
    (start maxSteps session).Counting 0 := ⟨rfl, rfl, rfl, rfl, rfl⟩

/-- A counter below its bound counts one more. -/
theorem toNat_succ {counter : U32} {taken : Nat} (h : counter.toNat ≤ taken)
    (hbound : taken + 1 < 2 ^ 32) : (counter + 1).toNat = counter.toNat + 1 := by
  rw [BitVec.toNat_add]
  exact Nat.mod_eq_of_lt (by simp; omega)

variable {taken maxSteps : Nat} {result : CoreSchedulerRunResult}

/-- The account of a run that has taken all its steps. -/
theorem Counting.accounts (h : result.Counting taken) (hall : taken = maxSteps) :
    result.Accounts maxSteps taken where
  within := hall.le
  steps := by
    rw [h.attempted, h.fetchFailures]
    rfl
  attempted := by
    rw [h.attempted, h.passed, h.unsupported]
    rfl
  stop := by
    rw [h.stopReason]
    exact ⟨hall, h.unsupported, h.fetchFailures⟩

/-- A step that has a result is accounted for: the run goes on, or it ends with the step. -/
theorem Counting.count (h : result.Counting taken) (htaken : taken < maxSteps)
    (hmax : maxSteps < 2 ^ 32) {fetched : CoreSchedulerFetchStepResult}
    (hanswered : fetched.fetchFailed = fetched.step.isNone) :
    Ensures (result.count fetched) fun counted =>
      if counted.1 then counted.2.Accounts maxSteps (taken + 1)
      else counted.2.Counting (taken + 1) := by
  have hbound : taken + 1 < 2 ^ 32 := by omega
  have hattempted := toNat_succ h.attempted.le hbound
  have hexecuted : (result.executedSteps + 1).toNat = _ :=
    toNat_succ ((Nat.le_add_right _ _).trans h.passed.le) hbound
  have hskipped : (result.skippedSteps + 1).toNat = _ :=
    toNat_succ ((Nat.le_add_left _ _).trans h.passed.le) hbound
  have hpassed := h.passed
  unfold CoreSchedulerRunResult.count
  refine .ite (fun _ => .ret ?_) fun hfetched => ?_
  · -- the fetch has failed
    refine ⟨htaken, ?_, ?_, ⟨h.unsupported, ?_⟩⟩
    · dsimp only
      rw [h.attempted, h.fetchFailures]
      rfl
    · dsimp only
      rw [h.attempted, h.passed, h.unsupported]
      rfl
    · rw [h.fetchFailures]
      rfl
  · rw [hanswered, Bool.not_eq_true, Option.isNone_eq_false_iff] at hfetched
    obtain ⟨step, hstep⟩ := Option.isSome_iff_exists.mp hfetched
    rw [hstep]
    refine .ret ?_
    dsimp only
    cases step.cpuStep.status with
    | executed =>
        refine ⟨hattempted.trans (congrArg (· + 1) h.attempted), ?_, h.unsupported,
          h.fetchFailures, h.stopReason⟩
        dsimp only
        rw [hexecuted]
        omega
    | skippedCondition =>
        refine ⟨hattempted.trans (congrArg (· + 1) h.attempted), ?_, h.unsupported,
          h.fetchFailures, h.stopReason⟩
        dsimp only
        rw [hskipped]
        omega
    | unsupported =>
        refine ⟨htaken, ?_, ?_, ⟨?_, h.fetchFailures⟩⟩
        · dsimp only
          rw [hattempted, h.attempted, h.fetchFailures]
          rfl
        · dsimp only
          rw [hattempted, h.attempted, hpassed, h.unsupported]
          rfl
        · rw [h.unsupported]
          rfl

end CoreSchedulerRunResult

namespace CoreSession

/-- A step function that returns from the sessions of an invariant, which it keeps, and answers
every step that could fetch. -/
def Answers (P : CoreSession → Prop) (step : Step) : Prop :=
  ∀ session, P session → Ensures (step session) fun stepped =>
    P stepped.2 ∧ stepped.1.fetchFailed = stepped.1.step.isNone

/-- A run accounts for the steps that it takes. -/
theorem runLoop_accounts {P : CoreSession → Prop} {step : Step} (hstep : Answers P step)
    {taken remaining : Nat} {result : CoreSchedulerRunResult} {session : CoreSession}
    (hcounting : result.Counting taken) (hmax : taken + remaining < 2 ^ 32) (h : P session) :
    Ensures (runLoop step remaining result session) fun (ran, after) =>
      P after ∧ ∃ more, afterSteps step more session = some after ∧
        ran.Accounts (taken + remaining) (taken + more) := by
  induction remaining generalizing taken result session with
  | zero => exact .ret ⟨h, 0, rfl, hcounting.accounts rfl⟩
  | succ remaining ih =>
      rw [runLoop_succ]
      obtain ⟨⟨fetched, middle⟩, heq, hmiddle, hanswered⟩ := hstep session h
      have hcounted := hcounting.count (Nat.lt_add_of_pos_right (Nat.succ_pos remaining)) hmax
        hanswered
      have hsteps (more : Nat) :
          afterSteps step (more + 1) session = afterSteps step more middle := by
        show (step session).bind _ = _
        rw [heq]
        rfl
      rw [heq]
      refine hcounted.bind fun ⟨stop, counted⟩ hcount => ?_
      cases stop with
      | true => exact .ret ⟨hmiddle, 1, hsteps 0, hcount⟩
      | false =>
          have hrest : taken + 1 + remaining = taken + (remaining + 1) := by omega
          refine (ih hcount (hrest ▸ hmax) hmiddle).conseq ?_
          rintro ⟨ran, after⟩ ⟨hafter, more, hmore, haccounts⟩
          refine ⟨hafter, more + 1, (hsteps more).trans hmore, ?_⟩
          rw [hrest, Nat.add_assoc, Nat.add_comm 1 more] at haccounts
          exact haccounts

/-- A run returns, keeps the invariant and accounts for its steps. -/
theorem runStepsFromPc_accounts {P : CoreSession → Prop} {step : Step} (hstep : Answers P step)
    (maxSteps : U32) {session : CoreSession} (h : P session) :
    Ensures (session.runStepsFromPc step maxSteps) fun (ran, after) =>
      P after ∧ ran.finalPc = after.pc ∧
        ran.schedulerCycles = after.scheduler.schedulerCycles ∧
        ∃ taken, afterSteps step taken session = some after ∧
          ran.Accounts maxSteps.toNat taken := by
  have hmax : 0 + maxSteps.toNat < 2 ^ 32 := by
    rw [Nat.zero_add]
    exact maxSteps.isLt
  unfold runStepsFromPc
  refine (runLoop_accounts hstep (CoreSchedulerRunResult.counting_start maxSteps session) hmax h).map ?_
  rintro ⟨ran, after⟩ ⟨hafter, taken, htaken, haccounts⟩
  refine ⟨hafter, rfl, rfl, taken, htaken, ?_⟩
  rw [Nat.zero_add, Nat.zero_add] at haccounts
  exact { haccounts with }

/-- `step_from_pc` answers from every session that is ever reached. -/
theorem answers_step : Answers Reached step := by
  intro session h
  obtain ⟨⟨result, after⟩, hstep, hstepped⟩ := session.step_stepped h.sound.devices.live
  exact ⟨_, hstep, h.step hstep, hstepped.answered⟩

/-- A run of a session that is ever reached returns after the steps that it accounts for. -/
theorem Reached.run_accounts {session : CoreSession} (h : Reached session) (maxSteps : U32) :
    ∃ ran after, session.run maxSteps = some (ran, after) ∧ Reached after ∧
      ran.finalPc = after.pc ∧ ran.schedulerCycles = after.scheduler.schedulerCycles ∧
      ∃ taken, afterSteps CoreSession.step taken session = some after ∧
        ran.Accounts maxSteps.toNat taken := by
  obtain ⟨⟨ran, after⟩, hrun, hran⟩ := runStepsFromPc_accounts answers_step maxSteps h
  exact ⟨ran, after, hrun, hran⟩

/-- A thousand steps of a game. -/
theorem Reached.run_accounts_game :
    ∃ ran after, (gameSession savingProgram).run 1000#32 = some (ran, after) ∧ Reached after ∧
      ran.finalPc = after.pc ∧ ran.schedulerCycles = after.scheduler.schedulerCycles ∧
      ∃ taken, afterSteps CoreSession.step taken (gameSession savingProgram) = some after ∧
        ran.Accounts 1000 taken :=
  (gameSession_reached savingProgram).run_accounts 1000#32

end CoreSession

/-! ## Splitting a run -/

namespace CoreSchedulerRunResult

/-- The account of a run followed by another. -/
def plus (first second : CoreSchedulerRunResult) : CoreSchedulerRunResult where
  requestedSteps := first.requestedSteps + second.requestedSteps
  attemptedSteps := first.attemptedSteps + second.attemptedSteps
  executedSteps := first.executedSteps + second.executedSteps
  skippedSteps := first.skippedSteps + second.skippedSteps
  unsupportedSteps := first.unsupportedSteps + second.unsupportedSteps
  fetchFailures := first.fetchFailures + second.fetchFailures
  stopReason := second.stopReason
  finalPc := second.finalPc
  schedulerCycles := second.schedulerCycles

/-- A change of results that the counting of steps does not notice. -/
def Unnoticed (f : CoreSchedulerRunResult → CoreSchedulerRunResult) : Prop :=
  ∀ result fetched, (f result).count fetched =
    (result.count fetched).map fun (stop, counted) => (stop, f counted)

/-- A step is counted alike whatever was counted before. -/
theorem unnoticed_plus (first : CoreSchedulerRunResult) : Unnoticed first.plus := by
  intro second fetched
  unfold count
  split
  · simp [plus, BitVec.add_assoc]
  · cases fetched.step with
    | none => rfl
    | some step => cases h : step.cpuStep.status <;> simp [h, plus, BitVec.add_assoc]

/-- The number of requested steps does not matter. -/
theorem unnoticed_requested (steps : U32) :
    Unnoticed fun result => { result with requestedSteps := steps } := by
  intro result fetched
  unfold count
  split
  · rfl
  · cases fetched.step with
    | none => rfl
    | some step => cases h : step.cpuStep.status <;> simp [h]

/-- Where a run ends and when does not matter. -/
theorem unnoticed_finish (session : CoreSession) : Unnoticed (·.finish session) := by
  intro result fetched
  unfold count
  split
  · rfl
  · cases fetched.step with
    | none => rfl
    | some step => cases h : step.cpuStep.status <;> simp [h, finish]

/-- The reason of a result that goes on is the one it started with. -/
theorem stopReason_count {result counted : CoreSchedulerRunResult}
    {fetched : CoreSchedulerFetchStepResult} {stop : Bool}
    (h : result.count fetched = some (stop, counted)) :
    if stop then counted.stopReason ≠ .maxSteps else counted.stopReason = result.stopReason := by
  unfold count at h
  split at h
  · obtain ⟨rfl, rfl⟩ := Prod.mk.inj (Option.some.inj h)
    simp
  · obtain ⟨step, -, hcounted⟩ := Option.map_eq_some_iff.mp h
    cases hstatus : step.cpuStep.status <;> simp only [hstatus] at hcounted <;>
      obtain ⟨rfl, rfl⟩ := Prod.mk.inj hcounted <;> simp

end CoreSchedulerRunResult

namespace CoreSession

variable {step : Step}

/-- What the counting does not notice, the loop does not notice. -/
theorem runLoop_unnoticed {f : CoreSchedulerRunResult → CoreSchedulerRunResult}
    (hf : CoreSchedulerRunResult.Unnoticed f) (remaining : Nat) (result : CoreSchedulerRunResult)
    (session : CoreSession) :
    runLoop step remaining (f result) session =
      (runLoop step remaining result session).map fun (ran, after) => (f ran, after) := by
  induction remaining generalizing result session with
  | zero => rfl
  | succ remaining ih =>
      rw [runLoop_succ, runLoop_succ]
      cases step session with
      | none => rfl
      | some stepped =>
          dsimp only [Option.bind_some]
          rw [hf result stepped.1]
          cases result.count stepped.1 with
          | none => rfl
          | some counted =>
              dsimp only [Option.map_some, Option.bind_some]
              cases counted.1 with
              | true => rfl
              | false => exact ih counted.2 stepped.2

/-- A loop in two parts: the second part runs where nothing has ended the first. -/
theorem runLoop_add (more remaining : Nat) {result : CoreSchedulerRunResult}
    (h : result.stopReason = .maxSteps) (session : CoreSession) :
    runLoop step (remaining + more) result session =
      (runLoop step remaining result session).bind fun (first, middle) =>
        if first.stopReason = .maxSteps then runLoop step more first middle
        else some (first, middle) := by
  induction remaining generalizing result session with
  | zero =>
      rw [Nat.zero_add]
      exact (if_pos h).symm
  | succ remaining ih =>
      rw [Nat.succ_add, runLoop_succ, runLoop_succ]
      cases step session with
      | none => rfl
      | some stepped =>
          dsimp only [Option.bind_some]
          cases hcount : result.count stepped.1 with
          | none => rfl
          | some counted =>
              obtain ⟨stop, counted⟩ := counted
              have hreason := CoreSchedulerRunResult.stopReason_count hcount
              dsimp only [Option.bind_some]
              cases stop with
              | true => exact (if_neg hreason).symm
              | false => exact ih (hreason.trans h) stepped.2

/-- A loop for more steps does the same. -/
theorem runLoop_requested (a steps : U32) (session : CoreSession) :
    runLoop step a.toNat (.start steps session) session =
      (runLoop step a.toNat (.start a session) session).map fun (ran, after) =>
        ({ ran with requestedSteps := steps }, after) :=
  @runLoop_unnoticed step _ (CoreSchedulerRunResult.unnoticed_requested steps) a.toNat
    (.start a session) session

/-- The number of requested steps is kept. -/
theorem requestedSteps_runLoop (a : U32) {ran : CoreSchedulerRunResult}
    {session middle : CoreSession}
    (h : runLoop step a.toNat (.start a session) session = some (ran, middle)) :
    ran.requestedSteps = a := by
  have hsame := h.symm.trans (runLoop_requested a a session)
  rw [h] at hsame
  exact congrArg (·.1.requestedSteps) (Option.some.inj hsame)

/-- The loop with the results at its end. -/
def finishedLoop (step : Step) (remaining : Nat) (result : CoreSchedulerRunResult)
    (session : CoreSession) : Option (CoreSchedulerRunResult × CoreSession) :=
  (runLoop step remaining result session).map fun (ran, after) => (ran.finish after, after)

/-- The address and the clock at the end do not depend on those at the start. -/
theorem finishedLoop_finish (remaining : Nat) (result : CoreSchedulerRunResult)
    (session : CoreSession) :
    finishedLoop step remaining (result.finish session) session =
      finishedLoop step remaining result session := by
  unfold finishedLoop
  rw [runLoop_unnoticed (CoreSchedulerRunResult.unnoticed_finish session), Option.map_map]
  rfl

/-- What was counted before is added at the end. -/
theorem finishedLoop_plus (remaining : Nat) (first second : CoreSchedulerRunResult)
    (session : CoreSession) :
    finishedLoop step remaining (first.plus second) session =
      (finishedLoop step remaining second session).map fun (ran, after) =>
        (first.plus ran, after) := by
  unfold finishedLoop
  rw [runLoop_unnoticed (CoreSchedulerRunResult.unnoticed_plus first), Option.map_map,
    Option.map_map]
  rfl

/-- A run of `a + b` steps is a run of `a` steps, followed by one of `b` steps unless it was ended. -/
theorem runStepsFromPc_add (step : Step) (a b : U32) (session : CoreSession)
    (hsum : a.toNat + b.toNat < 2 ^ 32) :
    session.runStepsFromPc step (a + b) =
      (session.runStepsFromPc step a).bind fun (first, middle) =>
        if first.stopReason = .maxSteps then
          (middle.runStepsFromPc step b).map fun (second, after) => (first.plus second, after)
        else some ({ first with requestedSteps := a + b }, middle) := by
  have hwidth : (a + b).toNat = a.toNat + b.toNat := by
    rw [BitVec.toNat_add]
    exact Nat.mod_eq_of_lt hsum
  unfold runStepsFromPc
  rw [hwidth, runLoop_add b.toNat a.toNat rfl]
  cases h : runLoop step a.toNat (.start a session) session with
  | none =>
      rw [runLoop_requested, h]
      rfl
  | some ran =>
      obtain ⟨ran, middle⟩ := ran
      have hrequested := requestedSteps_runLoop a h
      rw [runLoop_requested, h]
      dsimp only [Option.bind_some, Option.map_some]
      show Option.map _ (if ran.stopReason = .maxSteps then _ else _) =
        if ran.stopReason = .maxSteps then _ else _
      split
      · next hreason =>
        -- the second part counts from zero, with what the first has counted added
        have hsplit : ({ ran with requestedSteps := a + b }).finish middle =
            (ran.finish middle).plus (.start b middle) := by
          simp [CoreSchedulerRunResult.finish, CoreSchedulerRunResult.plus,
            CoreSchedulerRunResult.start, hrequested, hreason]
        show finishedLoop step b.toNat { ran with requestedSteps := a + b } middle =
          (finishedLoop step b.toNat (.start b middle) middle).map _
        rw [← finishedLoop_finish, hsplit, finishedLoop_plus]
      · rfl

/-- A thousand steps of a new session in two parts. -/
theorem runStepsFromPc_add_initial :
    CoreSession.initial.runStepsFromPc CoreSession.step (600#32 + 400#32) =
      (CoreSession.initial.runStepsFromPc CoreSession.step 600#32).bind fun (first, middle) =>
        if first.stopReason = .maxSteps then
          (middle.runStepsFromPc CoreSession.step 400#32).map fun (second, after) =>
            (first.plus second, after)
        else some ({ first with requestedSteps := 600#32 + 400#32 }, middle) :=
  runStepsFromPc_add CoreSession.step 600#32 400#32 .initial (by decide)

end CoreSession

end Gba.Core
