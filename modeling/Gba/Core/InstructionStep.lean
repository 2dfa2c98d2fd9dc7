import Gba.Core.HleWork

/-!
# Stepping an instruction

`CoreScheduler::step_arm` and `CoreScheduler::step_thumb`: the cycles before a data access, an
interrupt that comes before the access, the execution, the time it takes, immediate DMA, and an
interrupt at the end. The two functions differ in what `InstructionForm` collects and are one
definition here. Simple instructions take a fast path with fewer stages.

The predicate `ready` says when an interrupt is accepted. The scheduler accepts it when
`auto_irq_ready` holds; other predicates serve to compare with a step that accepts none.
-/

namespace Gba.Core

open CoreSession

/-- How the two instruction sets differ in a step. -/
structure InstructionForm where
  width : U32
  dataAccess : Arm7tdmi → Option DataAccessTimingProbe
  hleCall : Option BiosSwiCall
  execute : Option WaitStateControl → Arm7tdmi → System → CpuStep Devices
  testOrCompare : Bool

/-- An ARM instruction, with the call that `execute_hle_arm_swi` takes: a conditional one is left to
the processor. -/
def armForm (instruction : U32) (elapsedOverride : Option ArmElapsedCycleEstimate) :
    InstructionForm where
  width := 4
  dataAccess cpu := firstArmDataAccessForTiming cpu instruction
  hleCall :=
    if canDecodeSoftwareInterrupt instruction && conditionField instruction = 0xE#4 then
      some (BiosController.decodeArmSwi instruction)
    else none
  execute waitcnt cpu system :=
    Arm7tdmi.stepArmMemory ioCallbacks instruction waitcnt elapsedOverride cpu system
  testOrCompare := armTestOrCompareInstruction instruction

/-- A Thumb instruction, with the call of `execute_hle_thumb_swi`. -/
def thumbForm (instruction : U16) (prefetchInternalLoadOverlap : Bool)
    (elapsedOverride : Option ArmElapsedCycleEstimate) : InstructionForm where
  width := 2
  dataAccess cpu := firstThumbDataAccessForTiming cpu instruction
  hleCall :=
    if canDecodeThumbSoftwareInterrupt instruction then
      some (BiosController.decodeThumbSwi instruction)
    else none
  execute waitcnt cpu system :=
    Arm7tdmi.stepThumbMemory ioCallbacks instruction waitcnt prefetchInternalLoadOverlap
      elapsedOverride cpu system
  testOrCompare := thumbTestOrCompareInstruction instruction

/-- What a step knows about its first data access. -/
structure AccessPlan where
  access : TimerIoAccess
  preAccessCycles : U32
  stallCycles : U32

namespace AccessPlan

/-- The access is a store to a timer register that waits. -/
def timerStore (plan : AccessPlan) : Bool :=
  plan.preAccessCycles ≠ 0 && plan.access.probe.any (!·.load) && plan.access.timerIo

/-- `data_access_trace`. -/
def trace (plan : AccessPlan) : Option CoreDataAccessTrace :=
  plan.access.probe.map fun probe =>
    { address := probe.address
      widthBytes := accessWidthBytes probe.width
      load := probe.load
      timerIo := plan.access.timerIo
      preAccessCycles := plan.preAccessCycles
      timerIoGapCycles := plan.access.gapCycles }

end AccessPlan

namespace CoreSession

/-! ## Before the access -/

/-- The first data access of an instruction, as the timer registers see it. -/
def timerIoAccess (form : InstructionForm) (session : CoreSession) : TimerIoAccess :=
  let probe := form.dataAccess session.cpu
  let timerIo := probe.any fun probe => timerIoAddress probe.address
  let gapCycles := if timerIo then session.scheduler.timerIoAccessGapCycles else 0
  { probe := probe
    timerIo := timerIo
    spaced := timerIo && kSpacedTimerIoDispatchGapCycles ≤ gapCycles
    gapCycles := gapCycles
    returnLatencyPending := session.scheduler.hleIrqReturnLatencyPending }

/-- The cycles before the access and the stall after it, before slow timers are considered. -/
def displayAccessCycles (access : TimerIoAccess) (session : CoreSession) : U32 × U32 :=
  let ppu := session.system.devices.ppu
  let interrupts := session.system.devices.interrupts
  match access.probe with
  | none => (0, 0)
  | some probe =>
      let stored := ioStorePreAccessCycles probe
      let late :=
        if lateHblankTimerLoadSamplesOnDataPhase probe ppu interrupts then
          kTimerIoLoadDataPhaseCycles
        else stored
      let cleared := (dispstatHblankClearTimerLoadPreAccessCycles probe ppu interrupts).getD late
      let polled :=
        if longHblankPollTimerLoadSamplesBeforeCompletion probe ppu interrupts access.gapCycles then
          kDispstatIoLoadDataPhaseCycles
        else cleared
      let adjusted := adjustDispstatHblankSetPreAccessCycles probe ppu polled
      (adjusted, dispstatStatusTransitionStallCycles probe ppu interrupts adjusted)

/-- Timer 0 has requested an interrupt. -/
def timer0Requested (session : CoreSession) : Bool :=
  session.system.devices.interrupts.requested .timer0

/-- What a step knows about its first data access. -/
def accessPlan (form : InstructionForm) (session : CoreSession) : AccessPlan :=
  let access := session.timerIoAccess form
  let cycles := session.displayAccessCycles access
  { access := access
    preAccessCycles := adjustSlowTimerLoadPreAccessCycles cycles.1 access
      session.scheduler.hleIrqPostReturnChainActive session.timer0Requested
      session.system.devices.timers
    stallCycles := cycles.2 }

/-- A prescaled timer 0 has requested an interrupt. -/
def slowTimer0Requested (session : CoreSession) : Bool :=
  session.timer0Requested && 1#16 < (session.system.devices.timers.timers 0).prescalerDivisor

/-- `defer_slow_timer_load_irq`. -/
def defersLoadIrq (plan : AccessPlan) (session : CoreSession) : Bool :=
  shouldDeferSlowTimerLoadIrqUntilAfterAccess plan.access plan.preAccessCycles
    session.scheduler.hleIrqPostReturnChainActive session.timer0Requested
    session.system.devices.timers

/-- The conditions on which an interrupt is serviced before a load from a timer register. -/
def interruptsLoad (ready : CoreSession → Bool) (plan : AccessPlan) (session : CoreSession) :
    Bool :=
  let state := session.scheduler
  plan.access.timerLoad &&
    (state.hleIrqPostReturnLatencyArmed && state.hleIrqPostReturnChainActive ||
      state.hleIrqPostReturnLatencyArmed && session.slowTimer0Requested ||
      plan.access.returnLatencyPending && session.slowTimer0Requested) &&
    !session.defersLoadIrq plan && ready session

/-- The interrupt before a load from a timer register. The program counter is rewound for some
loads, so that the handler returns to them. -/
def serviceBeforeAccess (plan : AccessPlan) (preStepPc : U32) (session : CoreSession) :
    Bool × CoreSession :=
  let replay := shouldReplaySlowTimerLoadAfterIrq plan.access
    (session.scheduler.hleIrqPostReturnLatencyArmed ||
      plan.access.returnLatencyPending && session.slowTimer0Requested)
    session.timer0Requested session.system.devices.timers
  let rewound := if replay then session.setPc preStepPc else session
  match rewound.servicePendingIrq true plan.access.spaced with
  | (true, serviced) =>
      (true, serviced.modifyScheduler fun state =>
        { state with
          timerIoAccessGapCycles := 0
          hleIrqReturnLatencyPending := false }.resetAutoIrqLatency)
  | (false, unserviced) =>
      (false, if replay then unserviced.setPc session.pc else unserviced)

/-- What the cycles before the access leave behind. -/
structure PreAccess where
  session : CoreSession
  devices : CoreDeviceTickResult
  deferred : Bool
  irqServiced : Bool

/-- The cycles before the access. -/
def beforeAccess (wiring : SchedulerWiring) (ready : CoreSession → Bool) (plan : AccessPlan)
    (session : CoreSession) : Option PreAccess :=
  if plan.preAccessCycles = 0 then some ⟨session, .empty, false, false⟩
  else
    (wiring.advanceDevices plan.preAccessCycles session).map fun (devices, passed) =>
      if passed.interruptsLoad ready plan then
        let serviced := passed.serviceBeforeAccess plan session.pc
        ⟨serviced.2, devices, passed.defersLoadIrq plan, serviced.1⟩
      else ⟨passed, devices, passed.defersLoadIrq plan, false⟩

/-! ## Execution -/

/-- The instruction itself: a call that the emulated BIOS takes, or a step of the processor. -/
def execute (wiring : SchedulerWiring) (form : InstructionForm) (session : CoreSession) :
    Option (ArmStepResult × CoreSession) :=
  match if session.biosHleEnabled then form.hleCall else none with
  | some call => session.executeHleSwi call session.pc
  | none =>
      let step := form.execute (wiring.waitcnt session.system.devices) session.cpu session.system
      some (step.result, { session with cpu := step.cpu, system := step.bus })

/-- The stall that a load from DISPSTAT adds to an executed instruction. -/
def stalled (plan : AccessPlan) (step : ArmStepResult) : ArmStepResult :=
  if step.status = .executed ∧ plan.stallCycles ≠ 0 then
    { step with
      elapsedCycles := step.elapsedCycles + plan.stallCycles
      totalElapsedCycles := step.totalElapsedCycles + plan.stallCycles.setWidth 64 }
  else step

/-! ## After the execution -/

/-- What a step has done so far. -/
structure StepProgress where
  session : CoreSession
  devices : CoreDeviceTickResult
  immediateDma : DmaRunResult
  irqServiced : Bool

namespace StepProgress

/-- Let time pass and merge what the devices report. -/
def advance (wiring : SchedulerWiring) (cycles : U32) (progress : StepProgress) :
    Option StepProgress :=
  (wiring.advanceDevices cycles progress.session).map fun (devices, session) =>
    { progress with session := session, devices := progress.devices.merge devices }

/-- Let time pass, if any. -/
def advanceSome (wiring : SchedulerWiring) (cycles : U32) (progress : StepProgress) :
    Option StepProgress :=
  if cycles ≠ 0 then progress.advance wiring cycles else some progress

end StepProgress

/-- A store to a timer register starts the timer with the access and ends a chain of interrupts. -/
def startTimers (plan : AccessPlan) (session : CoreSession) : CoreSession :=
  if plan.timerStore then
    { session with
      system :=
        { session.system with
          devices :=
            { session.system.devices with
              timers := session.system.devices.timers.deferNewlyEnabledTicks } }
      scheduler :=
        { session.scheduler with
          hleIrqReturnLatencyPending := false
          hleIrqPostReturnLatencyArmed := false
          hleIrqPostReturnChainActive := false } }
  else session

/-- `defer_chained_post_return_irq`. -/
def defersChainedIrq (form : InstructionForm) (plan : AccessPlan) (readyBefore : Bool)
    (elapsedCycles : U32) (session : CoreSession) : Bool :=
  !readyBefore && plan.access.probe.isNone && elapsedCycles = 1 && !form.testOrCompare &&
    session.scheduler.hleIrqPostReturnLatencyArmed &&
    session.scheduler.hleIrqPostReturnChainActive

/-- An interrupt after an instruction that has not moved the program counter from `preStepPc`. -/
def serviceSequential (width preStepPc : U32) (fromDataAccess fromSpacedTimerIoAccess : Bool)
    (session : CoreSession) : Bool × CoreSession :=
  match (session.setPc (preStepPc + width)).serviceAutoIrq fromDataAccess
    fromSpacedTimerIoAccess with
  | (true, serviced) => (true, serviced)
  | (false, unserviced) =>
      (false,
        if unserviced.pc = preStepPc + width then unserviced.setPc preStepPc else unserviced)

/-- The interrupt at the end of an instruction. -/
def serviceAfterStep (ready : CoreSession → Bool) (form : InstructionForm) (plan : AccessPlan)
    (preStepPc : U32) (deferred readyBefore : Bool) (elapsedCycles : U32)
    (session : CoreSession) : Bool × CoreSession :=
  if session.pc = preStepPc ∧ ready session ∧
      !session.defersChainedIrq form plan readyBefore elapsedCycles then
    session.serviceSequential form.width preStepPc deferred (deferred && plan.access.spaced)
  else (false, session)

/-- A data access disturbs the fetches of a cartridge that does not prefetch. -/
def disturbFetches (wiring : SchedulerWiring) (plan : AccessPlan) (preStepPc : U32)
    (session : CoreSession) : CoreSession :=
  match plan.access.probe with
  | none => session
  | some probe =>
      if prefetches (wiring.waitcnt session.system.devices) then session
      else
        let suppress := gamePakDataAccessDisturbsPrefetch probe.address preStepPc
        session.modifyScheduler fun state =>
          { state.resetFetchTimingSequence with
            suppressNextGamePakPrefetch := suppress
            recoverNextGamePakDataFetch :=
              nonWordGamePakDataAccess probe.address probe.width && suppress }

namespace StepProgress

/-- Immediate DMA and the time it takes. -/
def runDma (wiring : SchedulerWiring) (progress : StepProgress) : Option StepProgress :=
  let run := progress.session.runImmediateDma wiring.waitcnt
  { progress with session := run.1, immediateDma := run.2 }.advanceSome wiring run.2.busCycles

/-- The time of an executed instruction, up to the interrupt at its end. -/
def settleTime (wiring : SchedulerWiring) (plan : AccessPlan) (elapsedCycles : U32)
    (progress : StepProgress) : Option StepProgress :=
  let remainingCycles :=
    if plan.preAccessCycles < elapsedCycles then elapsedCycles - plan.preAccessCycles else 0
  (progress.advanceSome wiring remainingCycles).bind (StepProgress.runDma wiring)

/-- The part of a step after an instruction that has been executed. -/
def settle (wiring : SchedulerWiring) (ready : CoreSession → Bool) (form : InstructionForm)
    (plan : AccessPlan) (preStepPc : U32) (deferred : Bool) (elapsedCycles : U32)
    (progress : StepProgress) : Option StepProgress :=
  let started := { progress with session := progress.session.startTimers plan }
  (started.settleTime wiring plan elapsedCycles).map fun settled =>
    let serviced := settled.session.serviceAfterStep ready form plan preStepPc deferred
      (ready started.session) elapsedCycles
    { settled with
      session := serviced.2.disturbFetches wiring plan preStepPc
      irqServiced := serviced.1 }

/-- The time after the execution, by how the instruction ended. -/
def afterExecution (wiring : SchedulerWiring) (ready : CoreSession → Bool)
    (form : InstructionForm) (plan : AccessPlan) (preStepPc : U32) (deferred : Bool)
    (step : ArmStepResult) (progress : StepProgress) : Option StepProgress :=
  match step.status with
  | .skippedCondition => progress.advanceSome wiring step.elapsedCycles
  | .executed =>
      if step.elapsedCycles = 0 then some progress
      else progress.settle wiring ready form plan preStepPc deferred step.elapsedCycles
  | .unsupported => some progress

end StepProgress

/-- The end of a step. -/
def finishAccess (plan : AccessPlan) (channelsExecuted : U8) (session : CoreSession) :
    CoreSession :=
  let noted :=
    if plan.access.timerIo then
      session.modifyScheduler fun state => { state with timerIoAccessGapCycles := 0 }
    else session
  if plan.access.probe.isSome ∧ channelsExecuted = 0 then
    { noted with
      system :=
        { noted.system with
          memory := { noted.system.memory with openBusLatchValid := false } } }
  else noted

/-- The part of `step_arm` and `step_thumb` after their fast path. -/
def generalStep (wiring : SchedulerWiring) (ready : CoreSession → Bool) (form : InstructionForm)
    (session : CoreSession) : Option (CoreSchedulerStepResult × CoreSession) := do
  let preStepPc := session.pc
  let plan := session.accessPlan form
  let before ← session.beforeAccess wiring ready plan
  if before.irqServiced then
    return ({
        cpuStep :=
          ⟨.executed, plan.preAccessCycles, before.session.cpu.elapsedCycles, false, false⟩
        devices := before.devices
        immediateDma := .empty
        irqServiced := true
        schedulerCycles := before.session.scheduler.schedulerCycles
        dataAccess := plan.trace }, before.session)
  let (executed, after) ← before.session.execute wiring form
  let step := stalled plan executed
  let progress ← StepProgress.afterExecution wiring ready form plan preStepPc before.deferred step
    ⟨after, before.devices, .empty, false⟩
  return ({
      cpuStep := step
      devices := progress.devices
      immediateDma := progress.immediateDma
      irqServiced := progress.irqServiced
      schedulerCycles := progress.session.scheduler.schedulerCycles
      dataAccess := plan.trace },
    progress.session.finishAccess plan progress.devices.triggeredDma.channelsExecuted)

/-! ## Fast paths -/

/-- A simple instruction of an instruction set, as the fast paths execute it. -/
structure SimpleForm where
  width : U32
  step : Arm7tdmi → ArmStepResult × Arm7tdmi

/-- The body of the fast paths: `step_simple_arm_fast_path` and its copies in `step_arm`,
`step_thumb` and `step_from_pc`. -/
def fastStep (wiring : SchedulerWiring) (ready : CoreSession → Bool) (simple : SimpleForm)
    (session : CoreSession) : Option (CoreSchedulerStepResult × CoreSession) := do
  let preStepPc := session.pc
  let (step, cpu) := simple.step session.cpu
  let executed := { session with cpu := cpu }
  let (devices, passed) ←
    if step.status ≠ .unsupported ∧ step.elapsedCycles ≠ 0 then
      wiring.advanceDevices step.elapsedCycles executed
    else some (.empty, executed)
  let (irqServiced, finished) :=
    if step.status = .executed ∧ step.elapsedCycles ≠ 0 ∧ passed.pc = preStepPc ∧ ready passed then
      passed.serviceSequential simple.width preStepPc false false
    else (false, passed)
  return ({
      cpuStep := step
      devices := devices
      immediateDma := .empty
      irqServiced := irqServiced
      schedulerCycles := finished.scheduler.schedulerCycles
      dataAccess := none }, finished)

/-- The simple ARM instruction. -/
def simpleArm (instruction : U32) : SimpleForm := ⟨4, fun cpu => cpu.stepArm instruction⟩

/-- The simple Thumb instruction. -/
def simpleThumb (instruction : U16) : SimpleForm := ⟨2, fun cpu => cpu.stepThumb instruction⟩

/-- `hle_irq_timing_sensitive_state`. -/
def hleIrqTimingSensitiveState (session : CoreSession) : Bool :=
  session.scheduler.hleIrqReturnLatencyPending || session.scheduler.hleIrqPostReturnLatencyArmed ||
    session.scheduler.hleIrqPostReturnChainActive

/-- The guard that the fast paths share: no immediate DMA is pending and no interrupt chain is
timed. -/
def quiet (session : CoreSession) : Bool :=
  !session.system.devices.dma.immediatePending && !session.hleIrqTimingSensitiveState

/-- The scheduler has no wait-state control. -/
def unwired (wiring : SchedulerWiring) (session : CoreSession) : Bool :=
  (wiring.waitcnt session.system.devices).isNone

/-- `step_arm`. -/
def stepArm (wiring : SchedulerWiring) (ready : CoreSession → Bool) (instruction : U32)
    (elapsedOverride : Option ArmElapsedCycleEstimate) (session : CoreSession) :
    Option (CoreSchedulerStepResult × CoreSession) := do
  let (work, session) ← session.advanceHleWork wiring
  match work with
  | some result => return (result, session)
  | none =>
      if session.unwired wiring && elapsedOverride.isNone &&
          simpleArmNoDataInstruction instruction && session.quiet then
        session.fastStep wiring ready (simpleArm instruction)
      else session.generalStep wiring ready (armForm instruction elapsedOverride)

/-- `step_thumb`. -/
def stepThumb (wiring : SchedulerWiring) (ready : CoreSession → Bool) (instruction : U16)
    (prefetchInternalLoadOverlap : Bool) (elapsedOverride : Option ArmElapsedCycleEstimate)
    (session : CoreSession) : Option (CoreSchedulerStepResult × CoreSession) := do
  let (work, session) ← session.advanceHleWork wiring
  match work with
  | some result => return (result, session)
  | none =>
      if session.unwired wiring && !prefetchInternalLoadOverlap && elapsedOverride.isNone &&
          simpleThumbAluWithoutPcWrite instruction && session.quiet then
        session.fastStep wiring ready (simpleThumb instruction)
      else
        session.generalStep wiring ready
          (thumbForm instruction prefetchInternalLoadOverlap elapsedOverride)

end CoreSession

end Gba.Core
