import Gba.Core.SessionMachine
import Gba.Library.WorkStack

/-!
# What is charged on queued work

The pieces of work that services of the emulated BIOS leave behind lie on a stack: a step queues
pieces on top, or it charges some cycles on the piece on top and lets as much time pass. However
many handlers interrupt a piece and queue work of their own, it leaves the queue when its cycles have
been charged in full, and not before.
-/

namespace Gba.Core

open Gba.Library

/-! ## Steps that charge nothing -/

/-- What happens between two charges only adds to the queue. -/
theorem SessionEffect.queue_prefix {session after : CoreSession}
    (h : SessionEffect False session after) :
    session.scheduler.hleWorkFrames <+: after.scheduler.hleWorkFrames := by
  cases h with
  | cpu h => exact List.prefix_rfl
  | bus h => exact List.prefix_rfl
  | note h => rw [h.hleWorkFrames]
  | time h => rw [(CoreSession.advanceDevices_passed h).scheduler]
  | queue cycles =>
      unfold CoreSession.queueHleWork
      split
      · exact List.prefix_rfl
      · exact List.prefix_append _ _
  | charge hcharges => exact hcharges.elim

theorem SessionEffects.queue_prefix {session after : CoreSession}
    (h : SessionEffects False session after) :
    session.scheduler.hleWorkFrames <+: after.scheduler.hleWorkFrames := by
  induction h with
  | refl => exact List.prefix_rfl
  | tail _ heffect ih => exact ih.trans heffect.queue_prefix

namespace CoreSession

/-- A recovered Thumb state does not decide which work runs next. -/
theorem recoverThumbState_runnableWork {session : CoreSession}
    (h : session.cpu.mode ∈ CpuMode.named) :
    session.recoverThumbStateFromRomMisfetch.runnableWork = session.runnableWork := by
  obtain ⟨cpu, hset, hmode, hregisters, -⟩ := setCpsr_thumb session.cpu h true
  have hset : session.cpu.setCpsr (session.cpu.cpsr ||| kThumbStateFlag) = some cpu := hset
  refine SameWork.runnableWork ?_
  unfold recoverThumbStateFromRomMisfetch
  rw [hset]
  refine .ite ⟨hmode, ?_, rfl, rfl⟩ (.refl session)
  show cpu.registers Arm7tdmi.kPc = session.cpu.registers Arm7tdmi.kPc
  rw [hregisters]

/-- A step with no work to run charges none. -/
theorem step_queues {session after : CoreSession} {result : CoreSchedulerFetchStepResult}
    (h : session.Sound) (hwork : session.runnableWork = none)
    (hstep : session.step = some (result, after)) :
    session.scheduler.hleWorkFrames <+: after.scheduler.hleWorkFrames := by
  have hidle : session.runnableWork.isSome → False := by simp [hwork]
  have hrecovered : session.recoverThumbStateFromRomMisfetch.runnableWork.isSome → False := by
    simp [recoverThumbState_runnableWork h.mode, hwork]
  have hstepped : Ensures session.step (session.Stepped False) :=
    SessionEffects.stepFromPc session h.devices.live hidle hrecovered
  exact (hstepped.of_eq hstep).effects.queue_prefix

/-! ## Steps that charge work -/

/-- A step runs queued work: it reports the cycles that it has charged, and the clock has gone on by
these and by the cycles that DMA has taken from the bus. -/
structure RunsWork (session : CoreSession) (step : CoreSchedulerStepResult) (after : CoreSession) :
    Prop where
  executed : step.cpuStep.status = .executed
  cycles : step.devices.cycles = step.immediateDma.busCycles + step.cpuStep.elapsedCycles
  clock : after.scheduler.schedulerCycles.setWidth 32 =
    session.scheduler.schedulerCycles.setWidth 32 + step.devices.cycles +
      step.devices.triggeredDma.busCycles

/-- Time passes as it is reported. -/
theorem advanceDevices_clock {cycles : U32} {session next : CoreSession}
    {result : CoreDeviceTickResult} (h : session.advanceDevices cycles = some (result, next)) :
    result.cycles = cycles ∧ next.scheduler.schedulerCycles.setWidth 32 =
      session.scheduler.schedulerCycles.setWidth 32 + result.cycles +
        result.triggeredDma.busCycles := by
  unfold advanceDevices at h
  split at h
  · next hzero =>
      obtain ⟨rfl, rfl⟩ := Prod.mk.inj (Option.some.inj h)
      refine ⟨hzero.symm, ?_⟩
      show _ = _ + 0#32 + 0#32
      rw [BitVec.add_zero, BitVec.add_zero]
  · obtain ⟨advanced, -, hnext⟩ := Option.map_eq_some_iff.mp h
    obtain ⟨rfl, rfl⟩ := Prod.mk.inj hnext
    refine ⟨rfl, ?_⟩
    rw [finishAdvance_schedulerCycles, BitVec.setWidth_add _ _ (by omega),
      BitVec.setWidth_setWidth_of_le _ (by omega), BitVec.setWidth_eq, BitVec.add_assoc]

/-- Nothing is queued or charged, and no time passes. -/
structure SameAccount (session other : CoreSession) : Prop where
  hleWorkFrames : other.scheduler.hleWorkFrames = session.scheduler.hleWorkFrames
  schedulerCycles : other.scheduler.schedulerCycles = session.scheduler.schedulerCycles

namespace SameAccount

variable {session middle other : CoreSession}

theorem refl (session : CoreSession) : SameAccount session session := ⟨rfl, rfl⟩

theorem trans (h : SameAccount session middle) (h' : SameAccount middle other) :
    SameAccount session other where
  hleWorkFrames := h'.hleWorkFrames.trans h.hleWorkFrames
  schedulerCycles := h'.schedulerCycles.trans h.schedulerCycles

theorem servicePendingIrq (session : CoreSession)
    (fromDataAccess fromSpacedTimerIoAccess : Bool) :
    SameAccount session
      (session.servicePendingIrq fromDataAccess fromSpacedTimerIoAccess).2 := by
  refine ⟨session.servicePendingIrq_work _ _, ?_⟩
  unfold CoreSession.servicePendingIrq
  split
  · rfl
  unfold modifyScheduler
  dsimp only
  split_ifs <;> rfl

theorem serviceAutoIrq (session : CoreSession) (fromDataAccess fromSpacedTimerIoAccess : Bool) :
    SameAccount session (session.serviceAutoIrq fromDataAccess fromSpacedTimerIoAccess).2 := by
  have hserviced := servicePendingIrq session fromDataAccess fromSpacedTimerIoAccess
  unfold CoreSession.serviceAutoIrq
  split
  · next heq =>
      rw [heq] at hserviced
      exact hserviced.trans ⟨rfl, rfl⟩
  · next heq =>
      rw [heq] at hserviced
      exact hserviced

theorem updateAutoIrqLatency (session : CoreSession) (cycles : U32) :
    SameAccount session (session.updateAutoIrqLatency cycles) where
  hleWorkFrames := by rw [(session.updateAutoIrqLatency_passed cycles).scheduler]
  schedulerCycles := updateAutoIrqLatency_schedulerCycles session cycles

theorem serviceBeforeWork (session : CoreSession) :
    SameAccount session session.serviceBeforeWork.2 := by
  have hupdated := updateAutoIrqLatency session 0
  unfold CoreSession.serviceBeforeWork
  split
  · dsimp only
    split
    · exact hupdated.trans (serviceAutoIrq _ _ _)
    · exact hupdated
  · exact .refl session

end SameAccount

/-- What is left of a piece of work. -/
def leftOf (work : HleWorkFrame) (cycles : U32) : List HleWorkFrame :=
  if work.remainingCycles - cycles.setWidth 64 = 0 then []
  else [{ work with remainingCycles := work.remainingCycles - cycles.setWidth 64 }]

theorem chargeWork_frames {session : CoreSession} {below : List HleWorkFrame} {work : HleWorkFrame}
    (h : session.scheduler.hleWorkFrames = below ++ [work]) (cycles : U32) :
    (session.chargeWork cycles).scheduler.hleWorkFrames = below ++ leftOf work cycles := by
  unfold chargeWork modifyScheduler leftOf
  simp only [h, List.getLast?_concat, List.dropLast_concat]

theorem chargeWork_schedulerCycles (session : CoreSession) (cycles : U32) :
    (session.chargeWork cycles).scheduler.schedulerCycles = session.scheduler.schedulerCycles := by
  unfold chargeWork modifyScheduler
  dsimp only
  split
  · rfl
  · rfl

/-- A charge with what the step has done before it: what DMA has reported, and the clock. -/
theorem chargeNextWork_runs {start session after : CoreSession} {work : HleWorkFrame}
    {below : List HleWorkFrame} {devices : CoreDeviceTickResult} {dma : DmaRunResult}
    {result : CoreSchedulerStepResult}
    (hframes : session.scheduler.hleWorkFrames = below ++ [work])
    (hcycles : devices.cycles = dma.busCycles)
    (hclock : session.scheduler.schedulerCycles.setWidth 32 =
      start.scheduler.schedulerCycles.setWidth 32 + devices.cycles +
        devices.triggeredDma.busCycles)
    (h : session.chargeNextWork sessionWiring work devices dma = some (result, after)) :
    start.RunsWork result after ∧
      result.cpuStep.elapsedCycles.toNat ≤ work.remainingCycles.toNat ∧
      after.scheduler.hleWorkFrames = below ++ leftOf work result.cpuStep.elapsedCycles := by
  unfold chargeNextWork at h
  dsimp only at h
  obtain ⟨⟨ticked, passed⟩, hadvance, hnext⟩ := Option.map_eq_some_iff.mp h
  obtain ⟨hticked, hpassed⟩ := advanceDevices_clock hadvance
  have hqueue : passed.scheduler.hleWorkFrames = below ++ [work] := by
    rw [(advanceDevices_passed hadvance).scheduler]
    exact hframes
  have hserved (c : Prop) [Decidable c] (charged : CoreSession) : SameAccount charged
      (if c then charged.serviceAutoIrq false false else (false, charged)).2 := by
    split
    · exact .serviceAutoIrq charged _ _
    · exact .refl charged
  have hsame := hserved (passed.chargeWork (session.workCycles work)).autoIrqReady
    (passed.chargeWork (session.workCycles work))
  obtain ⟨rfl, rfl⟩ := Prod.mk.inj hnext
  refine ⟨⟨rfl, ?_, ?_⟩, workCycles_le work session, ?_⟩
  · show devices.cycles + ticked.cycles = dma.busCycles + session.workCycles work
    rw [hcycles, hticked]
  · refine (congrArg (BitVec.setWidth 32) hsame.schedulerCycles).trans ?_
    rw [chargeWork_schedulerCycles, hpassed, hclock]
    show _ = start.scheduler.schedulerCycles.setWidth 32 + (devices.cycles + ticked.cycles) +
      (devices.triggeredDma.busCycles + ticked.triggeredDma.busCycles)
    grind
  · exact hsame.hleWorkFrames.trans (chargeWork_frames hqueue _)

theorem leftOf_zero {work : HleWorkFrame} (h : work.remainingCycles ≠ 0) :
    leftOf work 0 = [work] := by
  have hsame : work.remainingCycles - (0 : U32).setWidth 64 = work.remainingCycles := by simp
  unfold leftOf
  rw [hsame, if_neg h]

/-- What a step that runs the last piece of the queue does to the queue. -/
theorem runWork_runs {session after : CoreSession} {work : HleWorkFrame}
    {below : List HleWorkFrame} {result : CoreSchedulerStepResult}
    (hframes : session.scheduler.hleWorkFrames = below ++ [work])
    (hpiece : work.remainingCycles ≠ 0)
    (h : session.runWork sessionWiring work = some (result, after)) :
    session.RunsWork result after ∧
      result.cpuStep.elapsedCycles.toNat ≤ work.remainingCycles.toNat ∧
      after.scheduler.hleWorkFrames = below ++ leftOf work result.cpuStep.elapsedCycles := by
  unfold runWork at h
  extract_lets prepared run dma at h
  have hrun : SameAccount session run.1 := ⟨rfl, rfl⟩
  clear_value prepared run
  obtain ⟨⟨devices, passed⟩, hpassed, hrest⟩ := Option.bind_eq_some_iff.mp h
  -- the cycles of immediate DMA pass first
  have hdma : devices.cycles = dma.busCycles ∧
      passed.scheduler.hleWorkFrames = below ++ [work] ∧
      passed.scheduler.schedulerCycles.setWidth 32 =
        session.scheduler.schedulerCycles.setWidth 32 + devices.cycles +
          devices.triggeredDma.busCycles := by
    split at hpassed
    · have hadvance : run.1.advanceDevices dma.busCycles = some (devices, passed) := hpassed
      obtain ⟨hcycles, hclock⟩ := advanceDevices_clock hadvance
      rw [hrun.schedulerCycles] at hclock
      refine ⟨hcycles, ?_, hclock⟩
      rw [(advanceDevices_passed hadvance).scheduler]
      exact hrun.hleWorkFrames.trans hframes
    · next hnone =>
        obtain ⟨rfl, rfl⟩ := Prod.mk.inj (Option.some.inj hpassed)
        refine ⟨(not_not.mp hnone).symm, hrun.hleWorkFrames.trans hframes, ?_⟩
        rw [hrun.schedulerCycles]
        show _ = _ + 0#32 + 0#32
        rw [BitVec.add_zero, BitVec.add_zero]
  obtain ⟨hcycles, hqueue, hclock⟩ := hdma
  -- where control goes back before a charge, nothing is charged
  have huncharged {other : CoreSession} (serviced : Bool) (hsame : SameAccount passed other) :
      session.RunsWork (workResult 0 devices dma serviced other) other ∧
        (workResult 0 devices dma serviced other).cpuStep.elapsedCycles.toNat ≤
          work.remainingCycles.toNat ∧
        other.scheduler.hleWorkFrames = below ++
          leftOf work (workResult 0 devices dma serviced other).cpuStep.elapsedCycles := by
    refine ⟨⟨rfl, ?_, ?_⟩, Nat.zero_le _, ?_⟩
    · show devices.cycles = dma.busCycles + 0#32
      rw [hcycles, BitVec.add_zero]
    · rw [hsame.schedulerCycles]
      exact hclock
    · show _ = below ++ leftOf work 0
      rw [leftOf_zero hpiece, hsame.hleWorkFrames, hqueue]
  dsimp only at hrest
  split at hrest
  · obtain ⟨rfl, rfl⟩ := Prod.mk.inj (Option.some.inj hrest)
    exact huncharged false (.refl passed)
  · have hserviced := SameAccount.serviceBeforeWork passed
    split at hrest
    · next heq =>
        rw [heq] at hserviced
        obtain ⟨rfl, rfl⟩ := Prod.mk.inj (Option.some.inj hrest)
        exact huncharged true hserviced
    · next heq =>
        rw [heq] at hserviced
        refine chargeNextWork_runs (hserviced.hleWorkFrames.trans hqueue) hcycles ?_ hrest
        rw [hserviced.schedulerCycles]
        exact hclock

/-- A step with work to run runs it. -/
theorem step_runs {session after : CoreSession} {result : CoreSchedulerFetchStepResult}
    {work : HleWorkFrame} (h : session.Sound) (hwork : session.runnableWork = some work)
    (hstep : session.step = some (result, after)) :
    ∃ below step, result.step = some step ∧
      session.scheduler.hleWorkFrames = below ++ [work] ∧ session.RunsWork step after ∧
      step.cpuStep.elapsedCycles.toNat ≤ work.remainingCycles.toNat ∧
      after.scheduler.hleWorkFrames = below ++ leftOf work step.cpuStep.elapsedCycles := by
  have hlast : session.scheduler.hleWorkFrames.getLast? = some work :=
    (Option.filter_eq_some_iff.mp hwork).1
  obtain ⟨below, hframes⟩ := List.getLast?_eq_some_iff.mp hlast
  have hpiece : work.remainingCycles ≠ 0 := h.scheduler.pieces work (by simp [hframes])
  obtain ⟨⟨step, ran⟩, hran, -⟩ :=
    @SessionEffects.runWork True session h.devices.live trivial work hlast
  have hadvance : session.advanceHleWork sessionWiring = some (some step, ran) := by
    unfold advanceHleWork
    rw [hwork]
    simp [hran]
  have hworked : session.step =
      some (unfetched session.instructionSet session.pc none (some step) false, ran) := by
    unfold CoreSession.step stepFromPc stepHleWorkFromPc
    rw [hadvance]
    rfl
  obtain ⟨rfl, rfl⟩ := Prod.mk.inj (Option.some.inj (hstep.symm.trans hworked))
  obtain ⟨hruns, hle, hafter⟩ := runWork_runs hframes hpiece hran
  exact ⟨below, step, rfl, hframes, hruns, hle, hafter⟩

/-! ## Runs -/

/-- The queued work: pieces with the depth of interrupts that they belong to. -/
def queuedWork (session : CoreSession) : List (Work U32) :=
  session.scheduler.hleWorkFrames.map fun frame =>
    ⟨frame.ownerIrqDepth, frame.remainingCycles.toNat⟩

/-- What a step has charged: the cycles that it reports, where it ran queued work. -/
def chargedWork (session : CoreSession) (result : CoreSchedulerFetchStepResult) : Nat :=
  match session.runnableWork, result.step with
  | some _, some step => step.cpuStep.elapsedCycles.toNat
  | _, _ => 0

/-- The steps of a run, each with the session that it starts from and its result. -/
inductive Runs : CoreSession → List (CoreSession × CoreSchedulerFetchStepResult) → CoreSession →
    Prop where
  | none (session : CoreSession) : Runs session [] session
  | step {session middle last : CoreSession} {result : CoreSchedulerFetchStepResult}
      {steps : List (CoreSession × CoreSchedulerFetchStepResult)}
      (hstep : session.step = some (result, middle)) (hruns : Runs middle steps last) :
      Runs session ((session, result) :: steps) last

/-- What is left of a piece, as work. -/
theorem leftOf_workOff {work : HleWorkFrame} {cycles : U32}
    (h : cycles.toNat ≤ work.remainingCycles.toNat) :
    (leftOf work cycles).map
        (fun frame => (⟨frame.ownerIrqDepth, frame.remainingCycles.toNat⟩ : Work U32)) =
      (⟨work.ownerIrqDepth, work.remainingCycles.toNat⟩ : Work U32).workOff cycles.toNat := by
  have hwide : (cycles.setWidth 64).toNat = cycles.toNat := by
    rw [BitVec.toNat_setWidth]
    exact Nat.mod_eq_of_lt (by omega)
  have hleft : (work.remainingCycles - cycles.setWidth 64).toNat =
      work.remainingCycles.toNat - cycles.toNat := by
    rw [BitVec.toNat_sub_of_le (BitVec.le_def.mpr (hwide ▸ h)), hwide]
  unfold leftOf Work.workOff
  by_cases hdone : cycles.toNat = work.remainingCycles.toNat
  · rw [if_pos hdone, if_pos (BitVec.eq_of_toNat_eq (by simp [hleft, hdone]))]
    rfl
  · have hrest : work.remainingCycles - cycles.setWidth 64 ≠ 0 := by
      intro hzero
      rw [hzero] at hleft
      have hnothing : (0 : U64).toNat = 0 := rfl
      omega
    rw [if_neg hdone, if_neg hrest, List.map_singleton, hleft]

/-- A step moves the queue: it puts pieces on top, or it works off the piece on top. -/
theorem step_move {session after : CoreSession} {result : CoreSchedulerFetchStepResult}
    (h : session.Sound) (hstep : session.step = some (result, after)) :
    Work.Move session.queuedWork (session.chargedWork result) after.queuedWork := by
  unfold queuedWork chargedWork
  cases hwork : session.runnableWork with
  | none =>
      obtain ⟨pieces, hpieces⟩ := step_queues h hwork hstep
      rw [← hpieces, List.map_append]
      exact .put _ _
  | some work =>
      obtain ⟨below, step, hresult, hframes, -, hle, hafter⟩ := step_runs h hwork hstep
      rw [hresult, hframes, hafter, List.map_append, List.map_append, leftOf_workOff hle]
      exact .workOff _ _ hle

theorem Runs.moves {session last : CoreSession}
    {steps : List (CoreSession × CoreSchedulerFetchStepResult)} (h : session.Sound)
    (hruns : session.Runs steps last) :
    Work.Moves session.queuedWork
      (steps.map fun step => (step.1.queuedWork, step.1.chargedWork step.2)) last.queuedWork := by
  induction hruns with
  | none session => exact .none _
  | step hstep _ ih => exact .next (step_move h hstep) (ih (h.step hstep))

/-- Every step of a run with work to run runs it. -/
theorem Runs.work {session last : CoreSession}
    {steps : List (CoreSession × CoreSchedulerFetchStepResult)} (h : session.Sound)
    (hruns : session.Runs steps last) :
    ∀ ran ∈ steps, ran.1.runnableWork.isSome → ∃ step after,
      ran.2.step = some step ∧ ran.1.step = some (ran.2, after) ∧ ran.1.RunsWork step after := by
  induction hruns with
  | none session =>
      intro ran hmem
      exact absurd hmem List.not_mem_nil
  | @step session middle last result steps hstep _ ih =>
      intro ran hmem hsome
      rcases List.mem_cons.mp hmem with rfl | hlater
      · obtain ⟨work, hwork⟩ := Option.isSome_iff_exists.mp hsome
        obtain ⟨below, step, hresult, -, hrunsWork, -⟩ := step_runs h hwork hstep
        exact ⟨step, middle, hresult, hstep, hrunsWork⟩
      · exact ih (h.step hstep) ran hlater hsome

/-- Queued work is charged exactly: while a piece lies in the queue, what has been charged on it and
what is left of it are together what was left of it at the start, whatever interrupts the run has
taken and whatever else they have queued and charged; it leaves the queue, with all that lay above
it, when it has been charged in full. Each charge is device time: the clock goes on by the charged
cycles and by those of DMA. -/
theorem Sound.work_charged {session last : CoreSession} (h : session.Sound)
    {steps : List (CoreSession × CoreSchedulerFetchStepResult)} (hruns : session.Runs steps last)
    {height : Nat} {piece : Work U32} (hpiece : session.queuedWork[height]? = some piece)
    (hpresent : ∀ step ∈ steps, height < step.1.queuedWork.length) :
    Work.Settled session.queuedWork height piece
        (Work.workedOff height
          (steps.map fun step => (step.1.queuedWork, step.1.chargedWork step.2)))
        last.queuedWork ∧
      ∀ ran ∈ steps, ran.1.runnableWork.isSome → ∃ step after,
        ran.2.step = some step ∧ ran.1.step = some (ran.2, after) ∧
          ran.1.RunsWork step after := by
  refine ⟨(hruns.moves h).settled hpiece ?_, hruns.work h⟩
  intro move hmove
  obtain ⟨step, hstep, rfl⟩ := List.mem_map.mp hmove
  exact hpresent step hstep

/-- The first step of a new session that has a piece of 1000 cycles to charge. -/
theorem Sound.work_charged_queued :
    ∃ result after, (CoreSession.initial.queueHleWork 1000).step = some (result, after) ∧
      Work.Settled (CoreSession.initial.queueHleWork 1000).queuedWork 0 ⟨0, 1000⟩
        (Work.workedOff 0 [((CoreSession.initial.queueHleWork 1000).queuedWork,
          (CoreSession.initial.queueHleWork 1000).chargedWork result)])
        after.queuedWork := by
  have hsound : (CoreSession.initial.queueHleWork 1000).Sound :=
    @sound_sessionEffect True _ _ (.queue 1000) .initial
  obtain ⟨⟨result, after⟩, hstep, -⟩ := step_stepped _ hsound.devices.live
  refine ⟨result, after, hstep, ?_⟩
  refine (hsound.work_charged (.step hstep (.none after)) rfl ?_).1
  intro step hmem
  rw [List.mem_singleton.mp hmem]
  exact Nat.zero_lt_one

end CoreSession

end Gba.Core
