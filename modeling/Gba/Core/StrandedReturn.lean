import Gba.Core.AndroidRuntime
import Gba.Core.RunLoop

/-!
# Handlers that cannot return

A handler of the emulated BIOS returns through a sentinel address. If it has left a saved status that
names no mode the return fails, and the step that reports this carries no instruction: `step_frame`
takes such a step for a skipped one and goes on, although no time passes. `run_steps_from_pc` looks
at the status of the step and stops.
-/

namespace Gba.Core

open BiosHleConstants

namespace CoreSession

/-- The processor stands at the sentinel, there is an address to return to, and the saved status names
no mode. -/
structure Stranded (session : CoreSession) : Prop where
  hle : session.biosHleEnabled = true
  pc : session.pc = kIrqReturnSentinelPc
  mode : session.cpu.mode = .irq
  link : session.returnLink.isSome = true
  savedStatus : decodeCpuMode (session.cpu.savedPsr .irq) = none

/-- Neither the time nor the system has changed. -/
def SameTime (session after : CoreSession) : Prop :=
  after.scheduler.schedulerCycles = session.scheduler.schedulerCycles ∧
    after.system = session.system

namespace Stranded

variable {session : CoreSession}

/-- What the scheduler notes elsewhere makes no difference. -/
theorem modifyScheduler (h : session.Stranded) {f : CoreSchedulerState → CoreSchedulerState}
    (hlink : (f session.scheduler).hleIrqReturnLr = session.scheduler.hleIrqReturnLr) :
    (session.modifyScheduler f).Stranded := by
  refine ⟨h.hle, h.pc, h.mode, ?_, h.savedStatus⟩
  have hsame : (session.modifyScheduler f).returnLink = session.returnLink := by
    unfold returnLink CoreSession.modifyScheduler
    dsimp only
    rw [hlink]
  rw [hsame]
  exact h.link

/-- Queued work does not run at the sentinel. -/
theorem stepHleWork (h : session.Stranded) (wiring : SchedulerWiring) :
    session.stepHleWorkFromPc wiring = some (none, session) := by
  have hnone : session.runnableWork = none := by
    unfold runnableWork
    rw [h.mode, h.pc, Option.filter_eq_none_iff]
    intro frame _
    simp
  unfold stepHleWorkFromPc advanceHleWork
  rw [hnone]
  rfl

/-- The sentinel is not taken for a Thumb instruction. -/
theorem recover (h : session.Stranded) : session.recoverThumbStateFromRomMisfetch = session := by
  have hregion : cpuThumbMisfetchRegion kIrqReturnSentinelPc = false := by decide
  have hpc : session.cpu.registers Arm7tdmi.kPc = kIrqReturnSentinelPc := h.pc
  unfold recoverThumbStateFromRomMisfetch thumbMisfetch looksLikeThumbMisfetchAsArm
  rw [hpc, hregion]
  simp

/-- The return fails and may be tried again from the same place. -/
theorem dispatch (h : session.Stranded) :
    ∃ step after, session.dispatchHleIrqReturn session.pc = some (some step, after) ∧
      step.cpuStep.status = .unsupported ∧ after.Stranded ∧ SameTime session after := by
  obtain ⟨returnLr, hlink⟩ := Option.isSome_iff_exists.mp h.link
  have hguard : ¬((!session.biosHleEnabled) = true ∨ session.pc ≠ kIrqReturnSentinelPc ∨
      session.cpu.mode ≠ .irq) := by
    rw [h.hle, h.pc, h.mode]
    simp
  have hcontrol := SessionEffects.restoreRegisters_control returnLr
    session.scheduler.hleIrqSavedRegisters session.cpu
  have hpc : (restoreRegisters returnLr session.scheduler.hleIrqSavedRegisters
      session.cpu).registers Arm7tdmi.kPc = session.cpu.registers Arm7tdmi.kPc := by
    cases session.scheduler.hleIrqSavedRegisters <;> rfl
  unfold CoreSession.dispatchHleIrqReturn
  rw [if_neg hguard, hlink]
  dsimp only
  generalize restoreRegisters returnLr session.scheduler.hleIrqSavedRegisters session.cpu =
    restored at hcontrol hpc ⊢
  have hmode : restored.mode = .irq := (congrArg Arm7tdmi.Control.mode hcontrol).trans h.mode
  have hstatus : restored.savedPsr .irq = session.cpu.savedPsr .irq :=
    congrFun (congrArg Arm7tdmi.Control.savedPsr hcontrol) .irq
  have hspsr : restored.spsr = some (session.cpu.savedPsr .irq) := by
    unfold Arm7tdmi.spsr
    rw [hmode, ← hstatus]
    rfl
  -- the saved status is not accepted
  have hfails (adjustment : U32) : restored.returnFromException adjustment = none := by
    unfold Arm7tdmi.returnFromException Arm7tdmi.setCpsr
    rw [hspsr, Option.bind_eq_bind, Option.bind_some, h.savedStatus]
    rfl
  rw [hfails]
  exact ⟨_, _, rfl, rfl, ⟨h.hle, hpc.trans h.pc, hmode, rfl, hstatus ▸ h.savedStatus⟩, rfl, rfl⟩

/-- A step reports the failure without an instruction and leaves the session where it is. -/
theorem step (h : session.Stranded) :
    ∃ result stepped after, session.step = some (result, after) ∧ result.fetchFailed = false ∧
      result.instruction = none ∧ result.step = some stepped ∧
      stepped.cpuStep.status = .unsupported ∧ after.Stranded ∧ SameTime session after := by
  unfold CoreSession.step stepFromPc
  rw [h.stepHleWork]
  dsimp only [Option.bind_eq_bind, Option.bind_some]
  rw [h.recover]
  split
  · -- ARM
    have harm : (session.setSuppressBubble false).Stranded := h.modifyScheduler rfl
    obtain ⟨stepped, after, hdispatch, hstatus, hstranded, htime⟩ := harm.dispatch
    unfold stepArmFromPc
    rw [harm.stepHleWork]
    dsimp only [Option.bind_eq_bind, Option.bind_some]
    rw [hdispatch]
    exact ⟨_, stepped, _, rfl, rfl, rfl, rfl, hstatus, hstranded.modifyScheduler rfl, htime⟩
  · -- Thumb
    obtain ⟨stepped, after, hdispatch, hstatus, hstranded, htime⟩ := h.dispatch
    unfold stepThumbFromPc
    dsimp only [Option.bind_eq_bind]
    rw [hdispatch]
    exact ⟨_, stepped, _, rfl, rfl, rfl, rfl, hstatus, hstranded.modifyScheduler rfl, htime⟩

end Stranded

end CoreSession

/-! ## The loop of a frame -/

/-- A pass of the loop counts a skipped step and goes on. -/
theorem FrameRun.pass_stranded (advances : StepAdvances) {frame : FrameRun}
    (h : frame.session.Stranded) :
    ∃ next, frame.pass advances = some (false, next) ∧ next.session.Stranded ∧
      next.session.scheduler.schedulerCycles = frame.session.scheduler.schedulerCycles ∧
      next.run.executedSteps = frame.run.executedSteps := by
  obtain ⟨result, stepped, after, hstep, hfetched, hinstruction, -, -, hstranded, htime⟩ := h.step
  unfold FrameRun.pass
  rw [hstep, Option.map_some]
  dsimp only
  rw [hfetched, hinstruction]
  exact ⟨_, rfl, hstranded, htime.1, rfl⟩

/-- The loop of a frame whose time is not over never ends. -/
theorem FrameRun.loop_stranded (advances : StepAdvances) {cycleTarget : U64} {maxSteps : U32}
    (fuel : Nat) {frame : FrameRun} (h : frame.session.Stranded)
    (htime : frame.session.scheduler.schedulerCycles < cycleTarget)
    (hsteps : frame.run.executedSteps < maxSteps) :
    FrameRun.loop advances cycleTarget maxSteps fuel frame = none := by
  induction fuel generalizing frame with
  | zero =>
      unfold FrameRun.loop
      rw [if_pos ⟨htime, hsteps⟩]
  | succ fuel ih =>
      obtain ⟨next, hpass, hnext, hsame, hexecuted⟩ := FrameRun.pass_stranded advances h
      unfold FrameRun.loop
      rw [if_pos ⟨htime, hsteps⟩, hpass]
      exact ih hnext (hsame.symm ▸ htime) (hexecuted.symm ▸ hsteps)

/-- The frame that a time is in ends later. -/
theorem cycleTarget_lt {cycles : U64} (h : cycles.toNat + kCyclesPerFrame.toNat < 2 ^ 64) :
    cycles < cycles / kCyclesPerFrame.setWidth 64 * kCyclesPerFrame.setWidth 64 +
      kCyclesPerFrame.setWidth 64 := by
  have hframe : (kCyclesPerFrame.setWidth 64).toNat = kCyclesPerFrame.toNat := rfl
  have hbelow := Nat.div_mul_le_self cycles.toNat kCyclesPerFrame.toNat
  have habove := @Nat.lt_div_mul_add cycles.toNat kCyclesPerFrame.toNat (by decide)
  rw [BitVec.lt_def, BitVec.toNat_add, BitVec.toNat_mul, BitVec.toNat_udiv, hframe]
  rw [Nat.mod_eq_of_lt (hbelow.trans_lt cycles.isLt), Nat.mod_eq_of_lt (by omega)]
  exact habove

namespace AndroidRuntime

/-- From a stranded session `step_frame` does not return, however long it runs; a run of the
scheduler takes one step, which it reports as unsupported. -/
theorem stepFrame_stranded {runtime : AndroidRuntime} (h : runtime.session.Stranded)
    (htime : runtime.session.scheduler.schedulerCycles.toNat + kCyclesPerFrame.toNat < 2 ^ 64)
    {maxSteps : U32} (hsteps : maxSteps ≠ 0) :
    (∀ advances fuel, runtime.stepFrame advances fuel maxSteps = none) ∧
      ∃ ran after, runtime.session.run maxSteps = some (ran, after) ∧
        ran.stopReason = .unsupportedInstruction ∧ ran.attemptedSteps = 1 ∧
        ran.executedSteps = 0 ∧ after.Stranded := by
  constructor
  · intro advances fuel
    have hpositive : (startRun maxSteps).executedSteps < maxSteps := by
      show (0 : U32) < maxSteps
      bv_omega
    have hloop := @FrameRun.loop_stranded advances _ maxSteps fuel
      ⟨runtime.session, runtime.startRaster, startRun maxSteps, []⟩ h (cycleTarget_lt htime)
      hpositive
    unfold stepFrame
    rw [if_neg hsteps]
    dsimp only
    rw [hloop, Option.bind_none]
  · obtain ⟨result, stepped, after, hstep, hfetched, -, hresult, hstatus, hstranded, -⟩ := h.step
    obtain ⟨remaining, hremaining⟩ : ∃ remaining, maxSteps.toNat = remaining + 1 :=
      Nat.exists_eq_succ_of_ne_zero fun hzero => hsteps (BitVec.eq_of_toNat_eq hzero)
    have hcount (counted : CoreSchedulerRunResult) : counted.count result =
        some (true, { counted with
          attemptedSteps := counted.attemptedSteps + 1
          unsupportedSteps := counted.unsupportedSteps + 1
          stopReason := .unsupportedInstruction }) := by
      unfold CoreSchedulerRunResult.count
      rw [hfetched, hresult, if_neg Bool.false_ne_true, Option.map_some]
      dsimp only
      rw [hstatus]
    unfold CoreSession.run CoreSession.runStepsFromPc
    rw [hremaining, CoreSession.runLoop_succ, hstep, Option.bind_some]
    dsimp only
    rw [hcount, Option.bind_some]
    exact ⟨_, _, rfl, rfl, rfl, rfl, hstranded⟩

/-- A session in a handler that has set its saved status to zero, at the sentinel. -/
def strandedSession : CoreSession :=
  { CoreSession.initial with
    cpu :=
      { Arm7tdmi.reset with
        mode := .irq
        registers := Function.update Arm7tdmi.reset.registers Arm7tdmi.kPc kIrqReturnSentinelPc }
    bios := ⟨.hle⟩
    scheduler := { CoreSchedulerState.reset with hleIrqReturnLr := some 0x08000104#32 } }

/-- A frame of a thousand steps of that session. -/
theorem stepFrame_stranded_session :
    (∀ advances fuel, stepFrame advances fuel 1000#32
        { AndroidRuntime.initial with session := strandedSession } = none) ∧
      ∃ ran after, strandedSession.run 1000#32 = some (ran, after) ∧
        ran.stopReason = .unsupportedInstruction ∧ ran.attemptedSteps = 1 ∧
        ran.executedSteps = 0 ∧ after.Stranded :=
  @stepFrame_stranded { AndroidRuntime.initial with session := strandedSession }
    ⟨rfl, rfl, rfl, rfl, rfl⟩ (by decide) 1000#32 (by decide)

end AndroidRuntime

end Gba.Core
