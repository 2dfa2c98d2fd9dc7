import Gba.Core.AccessTiming
import Gba.Core.HleServices

/-!
# Queued work of the emulated BIOS

A service whose cycles are not charged at once queues them as work, which the scheduler charges
before it executes anything else at the same depth of interrupts: `advance_hle_work`. Interrupts
are admitted between the pieces, so that work of an outer depth waits for the handlers above it.
-/

namespace Gba.Core

open BiosHleConstants

namespace CoreSession

/-! ## Passing time -/

/-- Time has passed: besides the devices only the clocks and the interrupt latency have changed. -/
structure Passed (before after : CoreSession) : Prop where
  cpu : after.cpu = before.cpu
  bios : after.bios = before.bios
  stateGeneration : after.stateGeneration = before.stateGeneration
  scheduler : after.scheduler =
    { before.scheduler with
      schedulerCycles := after.scheduler.schedulerCycles
      timerIoAccessGapCycles := after.scheduler.timerIoAccessGapCycles
      autoIrqLineHigh := after.scheduler.autoIrqLineHigh
      autoIrqLatencyCycles := after.scheduler.autoIrqLatencyCycles
      hleIrqReturnLatencyPending := after.scheduler.hleIrqReturnLatencyPending
      hleIrqPostReturnLatencyArmed := after.scheduler.hleIrqPostReturnLatencyArmed }

namespace Passed

variable {before middle after other : CoreSession}

theorem refl (session : CoreSession) : Passed session session := ⟨rfl, rfl, rfl, rfl⟩

theorem trans (h : Passed before middle) (h' : Passed middle after) : Passed before after where
  cpu := h'.cpu.trans h.cpu
  bios := h'.bios.trans h.bios
  stateGeneration := h'.stateGeneration.trans h.stateGeneration
  scheduler := by
    rw [h'.scheduler, h.scheduler]

theorem ite {c : Prop} [Decidable c] (h : Passed before after) (h' : Passed before other) :
    Passed before (if c then after else other) := by
  split
  · exact h
  · exact h'

end Passed

theorem updateAutoIrqLatency_passed (session : CoreSession) (cycles : U32) :
    Passed session (session.updateAutoIrqLatency cycles) := by
  refine ⟨rfl, rfl, rfl, ?_⟩
  unfold updateAutoIrqLatency modifyScheduler
  dsimp only
  split_ifs <;> rfl

theorem startTimerIrqLatency_passed (session : CoreSession) :
    Passed session session.startTimerIrqLatency := ⟨rfl, rfl, rfl, rfl⟩

theorem noteTimerIrq_passed (session : CoreSession) (cycles : U32) (firstIrqCycle : U64) :
    Passed session (session.noteTimerIrq cycles firstIrqCycle) :=
  .ite (session.startTimerIrqLatency_passed.trans (updateAutoIrqLatency_passed _ _))
    session.startTimerIrqLatency_passed

theorem chargeTime_passed (session : CoreSession) (system : System) (cycles : U32) :
    Passed session (session.chargeTime system cycles) := ⟨rfl, rfl, rfl, rfl⟩

theorem finishAdvance_passed (session : CoreSession) (irqReadyBefore : Bool) (cycles : U32)
    (advanced : DeviceAdvance) :
    Passed session (session.finishAdvance irqReadyBefore cycles advanced) := by
  refine (session.chargeTime_passed advanced.system (cycles + advanced.totalDma.busCycles)).trans ?_
  unfold finishAdvance
  cases advanced.firstIrqCycle with
  | none => exact updateAutoIrqLatency_passed _ _
  | some firstIrqCycle => exact .ite (updateAutoIrqLatency_passed _ _) (noteTimerIrq_passed _ _ _)

/-- `advance_devices` lets time pass. -/
theorem advanceDevices_passed {cycles : U32} {session next : CoreSession}
    {result : CoreDeviceTickResult} (h : session.advanceDevices cycles = some (result, next)) :
    Passed session next := by
  unfold advanceDevices at h
  split at h
  · obtain ⟨-, rfl⟩ := Prod.mk.inj (Option.some.inj h)
    exact .refl session
  · obtain ⟨advanced, -, hnext⟩ := Option.map_eq_some_iff.mp h
    obtain ⟨-, rfl⟩ := Prod.mk.inj hnext
    exact finishAdvance_passed _ _ _ _

end CoreSession

/-- What the constructor of a scheduler decides: its pointer to a wait-state control, which may be
null, and with it how `advance_devices` times DMA. -/
structure SchedulerWiring where
  waitcnt : WaitcntPointer
  advanceDevices : U32 → CoreSession → Option (CoreDeviceTickResult × CoreSession)
  passed : ∀ {cycles : U32} {session next : CoreSession} {result : CoreDeviceTickResult},
    advanceDevices cycles session = some (result, next) → session.Passed next

/-- The scheduler of a session. -/
def sessionWiring : SchedulerWiring where
  waitcnt := sessionWaitcnt
  advanceDevices cycles session := session.advanceDevices cycles
  passed := CoreSession.advanceDevices_passed

/-- `merge_device_ticks`. -/
def CoreDeviceTickResult.merge (target source : CoreDeviceTickResult) : CoreDeviceTickResult where
  cycles := target.cycles + source.cycles
  apuFrameStep := source.apuFrameStep.or target.apuFrameStep
  apuTimerEvents := target.apuTimerEvents + source.apuTimerEvents
  lastDirectSound := source.lastDirectSound
  triggeredDma :=
    { channelsExecuted := BitVec.ofNat 8
        (min 255 (target.triggeredDma.channelsExecuted.toNat +
          source.triggeredDma.channelsExecuted.toNat))
      unitsTransferred :=
        target.triggeredDma.unitsTransferred + source.triggeredDma.unitsTransferred
      unsupportedRequest :=
        target.triggeredDma.unsupportedRequest || source.triggeredDma.unsupportedRequest
      busCycles := target.triggeredDma.busCycles + source.triggeredDma.busCycles }

/-- `reset_fetch_timing_sequence`. -/
def CoreSchedulerState.resetFetchTimingSequence (state : CoreSchedulerState) :
    CoreSchedulerState :=
  { state with
    lastFetchAddress := none
    lastFetchWidthBytes := none
    lastFetchWindow := none
    prefetchBufferHalfwords := 0
    suppressNextGamePakPrefetch := false
    recoverNextGamePakDataFetch := false }

namespace CoreSession

/-- `auto_irq_ready`. -/
def autoIrqReady (session : CoreSession) : Bool :=
  session.irqReady && session.scheduler.autoIrqLineHigh && session.scheduler.autoIrqLatencyCycles = 0

/-- `reset_auto_irq_latency`. -/
def resetAutoIrqLatency (session : CoreSession) : CoreSession :=
  session.modifyScheduler CoreSchedulerState.resetAutoIrqLatency

/-- An interrupt that is serviced where the scheduler accepts it, with the latency reset after it. -/
def serviceAutoIrq (fromDataAccess fromSpacedTimerIoAccess : Bool) (session : CoreSession) :
    Bool × CoreSession :=
  match session.servicePendingIrq fromDataAccess fromSpacedTimerIoAccess with
  | (true, serviced) => (true, serviced.resetAutoIrqLatency)
  | (false, unserviced) => (false, unserviced)

/-- The program counter. -/
def pc (session : CoreSession) : U32 := session.cpu.registers Arm7tdmi.kPc

/-- Set the program counter. -/
def setPc (session : CoreSession) (value : U32) : CoreSession :=
  { session with cpu := session.cpu.setRegister Arm7tdmi.kPc value }

/-- `run_immediate_dma`. -/
def runImmediateDma (waitcnt : WaitcntPointer) (session : CoreSession) :
    CoreSession × DmaRunResult :=
  let run := runImmediate waitcnt session.system
  ({ session with system := run.1 }, run.2)

/-- The frame of the display that the clock is in. -/
def frame (session : CoreSession) : U64 :=
  session.scheduler.schedulerCycles / kCyclesPerFrame.setWidth 64

/-! ## Charging work -/

/-- The work that runs next: the last piece queued, unless a handler above it runs or is about to
start or return. -/
def runnableWork (session : CoreSession) : Option HleWorkFrame :=
  session.scheduler.hleWorkFrames.getLast?.filter fun frame =>
    frame.ownerIrqDepth = session.hleIrqDepth &&
      !(session.cpu.mode = .irq &&
        (session.pc = kIrqVectorAddress || session.pc = kIrqReturnSentinelPc))

/-- The cycles of the next piece of work: up to the next edge that an interrupt may come from. -/
def workCycles (work : HleWorkFrame) (session : CoreSession) : U32 :=
  let devices := session.system.devices
  let frameRemaining : U32 := (kCyclesPerFrame.setWidth 64 -
    session.scheduler.schedulerCycles % kCyclesPerFrame.setWidth 64).setWidth 32
  let ppuRemaining : U32 :=
    (DeviceAdvance.boundary devices.ppu.lineCycle).setWidth 32 - devices.ppu.lineCycle.setWidth 32
  let horizon := minWord (minWord
    (intrWaitBatchCycles devices InterruptController.kSupportedMask) frameRemaining) ppuRemaining
  let cycles : U32 :=
    if work.remainingCycles < horizon.setWidth 64 then work.remainingCycles.setWidth 32
    else horizon
  if session.scheduler.autoIrqLineHigh ∧ session.scheduler.autoIrqLatencyCycles ≠ 0 then
    minWord cycles (session.scheduler.autoIrqLatencyCycles.setWidth 32)
  else cycles

/-- Take charged cycles off the last piece of work; a piece that is done leaves the queue. -/
def chargeWork (cycles : U32) (session : CoreSession) : CoreSession :=
  session.modifyScheduler fun state =>
    match state.hleWorkFrames.getLast? with
    | none => state
    | some work =>
        let remaining := work.remainingCycles - cycles.setWidth 64
        { state with
          hleWorkFrames := state.hleWorkFrames.dropLast ++
            if remaining = 0 then [] else [{ work with remainingCycles := remaining }] }

/-- The members that work resets before it runs. -/
def prepareWork (session : CoreSession) : CoreSession :=
  session.modifyScheduler fun state =>
    { state.resetFetchTimingSequence with
      previousThumbInternalLoad := false
      suppressNextThumbPrefetchExecuteBubble := false }

/-- The result of a step that charges work. -/
def workResult (cycles : U32) (devices : CoreDeviceTickResult) (dma : DmaRunResult)
    (irqServiced : Bool) (session : CoreSession) : CoreSchedulerStepResult where
  cpuStep := ⟨.executed, cycles, session.cpu.elapsedCycles, false, false⟩
  devices := devices
  immediateDma := dma
  irqServiced := irqServiced
  schedulerCycles := session.scheduler.schedulerCycles
  dataAccess := none

/-- The interrupt that `advance_hle_work` admits before it charges anything. -/
def serviceBeforeWork (session : CoreSession) : Bool × CoreSession :=
  if session.irqReady then
    let updated := session.updateAutoIrqLatency 0
    if updated.autoIrqReady then updated.serviceAutoIrq false false else (false, updated)
  else (false, session)

/-- The charge of the next piece of work, and the interrupt after it. -/
def chargeNextWork (wiring : SchedulerWiring) (work : HleWorkFrame)
    (devices : CoreDeviceTickResult) (dma : DmaRunResult) (session : CoreSession) :
    Option (CoreSchedulerStepResult × CoreSession) :=
  let cycles := session.workCycles work
  (wiring.advanceDevices cycles session).map fun (passed, session) =>
    let charged := session.chargeWork cycles
    let serviced :=
      if charged.autoIrqReady then charged.serviceAutoIrq false false else (false, charged)
    (workResult cycles (devices.merge passed) dma serviced.1 serviced.2, serviced.2)

/-- `advance_hle_work` with the given work. -/
def runWork (wiring : SchedulerWiring) (work : HleWorkFrame) (session : CoreSession) :
    Option (CoreSchedulerStepResult × CoreSession) :=
  let prepared := session.prepareWork
  let run := prepared.runImmediateDma wiring.waitcnt
  let dma := run.2
  (if dma.busCycles ≠ 0 then wiring.advanceDevices dma.busCycles run.1
    else some (.empty, run.1)).bind fun (devices, session) =>
      -- the host gets control at a frame boundary that DMA has reached
      if session.frame ≠ prepared.frame then
        some (workResult 0 devices dma false session, session)
      else
        match session.serviceBeforeWork with
        | (true, session) => some (workResult 0 devices dma true session, session)
        | (false, session) => session.chargeNextWork wiring work devices dma

/-- `advance_hle_work`: the inner option is the result of the source. -/
def advanceHleWork (wiring : SchedulerWiring) (session : CoreSession) :
    Option (Option CoreSchedulerStepResult × CoreSession) :=
  match session.runnableWork with
  | none => some (none, session)
  | some work => (session.runWork wiring work).map fun (result, session) => (some result, session)

end CoreSession

end Gba.Core
