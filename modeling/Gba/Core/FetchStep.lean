import Gba.Core.InstructionStep

/-!
# Stepping from the program counter

`CoreScheduler::step_from_pc` and `CoreScheduler::step_arm_from_pc`: what happens at the program
counter before an instruction is fetched, the time of the fetch, the instruction, and where the
program counter goes. The prefetch buffer of the cartridge is kept by `apply_fetch_timing` and
`refill_prefetch_after_step`.
-/

namespace Gba.Core

open BiosHleConstants

/-- `CoreInstructionSet`. -/
inductive CoreInstructionSet where
  | arm | thumb
  deriving DecidableEq, Repr

/-- `CoreSchedulerFetchStepResult`. -/
structure CoreSchedulerFetchStepResult where
  instructionSet : CoreInstructionSet
  instructionWidthBytes : U8
  fetchAddress : U32
  instruction : Option U32
  step : Option CoreSchedulerStepResult
  fetchCycles : U32
  fetchFailed : Bool
  pcAdvanced : Bool
  fetchTimingApplied : Bool
  fetchSequential : Bool
  prefetchEnabled : Bool
  prefetchHit : Bool
  prefetchBufferHalfwords : U8
  boundaryForcedNonsequential : Bool
  deriving DecidableEq

/-- The results of `apply_fetch_timing`. -/
structure FetchTiming where
  cycles : U32
  applied : Bool
  sequential : Bool
  prefetchEnabled : Bool
  prefetchHit : Bool
  boundaryForcedNonsequential : Bool

/-- A fetch without timing. -/
def FetchTiming.none : FetchTiming := ⟨0, false, false, false, false, false⟩

/-- The byte of a cartridge window. -/
def CartridgeWindow.toByte : CartridgeWindow → U8
  | .none => 0
  | .romWait0 => 1
  | .romWait1 => 2
  | .romWait2 => 3
  | .save => 4

namespace CoreInstructionSet

/-- The bytes of an instruction. -/
def widthBytes : CoreInstructionSet → U8
  | .arm => 4
  | .thumb => 2

/-- The width of a fetch. -/
def fetchWidth : CoreInstructionSet → AccessWidth
  | .arm => .word
  | .thumb => .halfword

/-- The address after an instruction. -/
def next (set : CoreInstructionSet) (address : U32) : U32 := address + set.widthBytes.setWidth 32

end CoreInstructionSet

namespace CoreSession

/-! ## Fetch timing -/

/-- `reset_fetch_timing_sequence`. -/
def resetFetchTimingSequence (session : CoreSession) : CoreSession :=
  session.modifyScheduler CoreSchedulerState.resetFetchTimingSequence

/-- A changed wait-state control ends the sequence of fetches. -/
def noticeWaitcnt (waitcnt : WaitStateControl) (session : CoreSession) : CoreSession :=
  if session.scheduler.lastWaitcntControl = some waitcnt.control then session
  else
    session.modifyScheduler fun state =>
      { state.resetFetchTimingSequence with lastWaitcntControl := some waitcnt.control }

/-- Whether a fetch from the cartridge continues the last one, and whether only the boundary of a
sequential block keeps it from that. -/
def fetchContinues (fetchAddress : U32) (session : CoreSession) : Bool × Bool :=
  let state := session.scheduler
  let continues : Bool :=
    match state.lastFetchAddress, state.lastFetchWidthBytes, state.lastFetchWindow with
    | some address, some width, some window =>
        fetchAddress = address + width.setWidth 32 &&
          (cartridgeWindow fetchAddress).toByte = window
    | _, _, _ => false
  let boundary : Bool := fetchAddress % kGamePakSequentialBoundary = 0
  (continues && !boundary, continues && boundary)

/-- The cycles of a fetch from the cartridge that misses the prefetch buffer. -/
def fetchMissCycles (set : CoreInstructionSet) (access : MemoryAccessTiming)
    (sequential prefetchEnabled recover : Bool) : U32 :=
  let sequentialCycles : U32 := access.sequential.setWidth 32
  let first := if sequential then sequentialCycles else access.nonsequential.setWidth 32
  let second := if set = .arm then first + sequentialCycles else first
  let unprefetched := if !prefetchEnabled && set = .arm then second + 1 else second
  if recover && access.sequential = 1 then unprefetched + 1 else unprefetched

/-- The cycles of a fetch that hits the prefetch buffer. -/
def fetchHitCycles (set : CoreInstructionSet) (access : MemoryAccessTiming) : U32 :=
  let sequentialCycles : U32 := access.sequential.setWidth 32
  match set with
  | .arm => sequentialCycles * 2
  | .thumb => if sequentialCycles = 0 then 0 else sequentialCycles - 1

/-- The prefetch buffer after a hit. -/
def bufferAfterHit (set : CoreInstructionSet) (buffer : U8) (cycles : U32) : U8 :=
  match set with
  | .arm => buffer - 2
  | .thumb =>
      let left := buffer - 1
      if cycles ≠ 0 then
        (minWord (kPrefetchBufferCapacityHalfwords.setWidth 32)
          (left.setWidth 32 + cycles)).setWidth 8
      else left

/-- The timing of a fetch from the cartridge, and the scheduler after it. -/
def cartridgeFetch (set : CoreInstructionSet) (fetchAddress : U32) (waitcnt : WaitStateControl)
    (session : CoreSession) : FetchTiming × CoreSession :=
  let state := session.scheduler
  let (sequential, boundary) := session.fetchContinues fetchAddress
  let access := timing fetchAddress set.fetchWidth waitcnt
  let suppressed := state.suppressNextGamePakPrefetch
  let prefetchEnabled := waitcnt.prefetchEnabled && !suppressed
  let buffer : U8 := if suppressed then 0 else state.prefetchBufferHalfwords
  let required : U8 := set.widthBytes / 2
  let hit := prefetchEnabled && sequential && required ≤ buffer
  let cycles :=
    if hit then fetchHitCycles set access
    else fetchMissCycles set access sequential prefetchEnabled state.recoverNextGamePakDataFetch
  (⟨cycles, cycles ≠ 0, sequential, prefetchEnabled, hit, boundary⟩,
    session.modifyScheduler fun state =>
      { state with
        suppressNextGamePakPrefetch := false
        recoverNextGamePakDataFetch := false
        prefetchBufferHalfwords := if hit then bufferAfterHit set buffer cycles else buffer })

/-- The fetch that the next one may continue. -/
def noteFetch (set : CoreInstructionSet) (fetchAddress : U32) (session : CoreSession) :
    CoreSession :=
  session.modifyScheduler fun state =>
    { state with
      lastFetchAddress := some fetchAddress
      lastFetchWidthBytes := some set.widthBytes
      lastFetchWindow := some (cartridgeWindow fetchAddress).toByte }

/-- Let the time of a fetch pass. -/
def passFetch (wiring : SchedulerWiring) (cycles : U32) (session : CoreSession) :
    Option CoreSession :=
  if cycles ≠ 0 then (wiring.advanceDevices cycles session).map Prod.snd else some session

/-- `apply_fetch_timing`. -/
def applyFetchTiming (wiring : SchedulerWiring) (set : CoreInstructionSet) (fetchAddress : U32)
    (session : CoreSession) : Option (FetchTiming × CoreSession) :=
  match wiring.waitcnt session.system.devices with
  | none =>
      some (.none, session.modifyScheduler fun state =>
        { state.resetFetchTimingSequence with lastWaitcntControl := none })
  | some waitcnt =>
      let noticed := session.noticeWaitcnt waitcnt
      match (classify fetchAddress).region with
      | .ewram =>
          let nonsequential := (timing fetchAddress set.fetchWidth waitcnt).nonsequential
          let cycles : U32 := if nonsequential = 0 then 0 else nonsequential.setWidth 32 - 1
          (noticed.resetFetchTimingSequence.passFetch wiring cycles).map fun session =>
            (⟨cycles, cycles ≠ 0, false, false, false, false⟩, session)
      | .gamePakRom =>
          let (fetch, session) := noticed.cartridgeFetch set fetchAddress waitcnt
          (session.passFetch wiring fetch.cycles).map fun session =>
            (fetch, session.noteFetch set fetchAddress)
      | _ => some (.none, noticed.resetFetchTimingSequence)

/-- Replace the number of prefetched halfwords. -/
def setPrefetchBuffer (halfwords : U8) (session : CoreSession) : CoreSession :=
  session.modifyScheduler fun state => { state with prefetchBufferHalfwords := halfwords }

/-- The end of `refill_prefetch_after_step`: the cycles that the instruction left the cartridge
idle fill the buffer. -/
def refillBuffer (waitcnt : WaitStateControl) (nextFetchAddress spareCycles : U32)
    (session : CoreSession) : CoreSession :=
  let sequential : U32 := (timing nextFetchAddress .halfword waitcnt).sequential.setWidth 32
  if nextFetchAddress % kGamePakSequentialBoundary = 0 then session.setPrefetchBuffer 0
  else if sequential = 0 then session
  else
    session.setPrefetchBuffer ((minWord (kPrefetchBufferCapacityHalfwords.setWidth 32)
      (session.scheduler.prefetchBufferHalfwords.setWidth 32 + spareCycles / sequential)).setWidth 8)

/-- The data access disturbs the prefetch buffer. -/
def disturbsPrefetch (fetchAddress : U32) (access : Option CoreDataAccessTrace) : Bool :=
  access.any fun access => gamePakDataAccessDisturbsPrefetch access.address fetchAddress

/-- The data access leaves a fetch to recover. -/
def recoversFetch (access : Option CoreDataAccessTrace) : Bool :=
  access.any fun access => gamePakDataAccess access.address && access.widthBytes ≠ 4

/-- `refill_prefetch_after_step`. -/
def refillPrefetchAfterStep (wiring : SchedulerWiring) (set : CoreInstructionSet)
    (fetchAddress : U32) (step : CoreSchedulerStepResult) (extraRefillCycles : U32)
    (session : CoreSession) : CoreSession :=
  match wiring.waitcnt session.system.devices with
  | none => session
  | some waitcnt =>
      let noticed :=
        if session.scheduler.lastWaitcntControl = some waitcnt.control then session
        else
          session.modifyScheduler fun state =>
            { state with
              prefetchBufferHalfwords := 0
              lastWaitcntControl := some waitcnt.control }
      if !waitcnt.prefetchEnabled ∨ step.cpuStep.status ≠ .executed ∨
          step.cpuStep.elapsedCycles ≤ 1 then noticed
      else if (classify fetchAddress).region ≠ .gamePakRom then noticed.setPrefetchBuffer 0
      else if disturbsPrefetch fetchAddress step.dataAccess then
        noticed.modifyScheduler fun state =>
          { state.resetFetchTimingSequence with
            suppressNextGamePakPrefetch := true
            recoverNextGamePakDataFetch := recoversFetch step.dataAccess }
      else
        noticed.refillBuffer waitcnt (set.next fetchAddress)
          (step.cpuStep.elapsedCycles - 1 + extraRefillCycles)

end CoreSession

/-! ## Charging more time -/

/-- A step whose instruction has run. -/
structure FetchProgress where
  session : CoreSession
  step : CoreSchedulerStepResult

namespace FetchProgress

variable (wiring : SchedulerWiring) (progress : FetchProgress)

/-- The instruction has been executed. -/
def executed : Bool := progress.step.cpuStep.status = .executed

/-- The wait-state control of the scheduler. -/
def waitcnt : Option WaitStateControl := wiring.waitcnt progress.session.system.devices

/-- The step took `cycles` more. -/
def charge (cycles : U32) (devices : CoreDeviceTickResult) (schedulerCycles : U64)
    (session : CoreSession) : FetchProgress where
  session := session
  step :=
    { progress.step with
      cpuStep :=
        { progress.step.cpuStep with
          elapsedCycles := progress.step.cpuStep.elapsedCycles + cycles
          totalElapsedCycles := progress.step.cpuStep.totalElapsedCycles + cycles.setWidth 64 }
      devices := progress.step.devices.merge devices
      schedulerCycles := schedulerCycles }

/-- The bubbles, stalls and penalties of the source. -/
def stall (condition : Bool) (cycles : U32) : Option FetchProgress :=
  if condition then
    (wiring.advanceDevices cycles progress.session).map fun (devices, session) =>
      progress.charge cycles devices session.scheduler.schedulerCycles session
  else some progress

/-- The refill of the pipeline, with `charge_pipeline_refill`. -/
def refill (cycles : U32) : Option FetchProgress :=
  (wiring.advanceDevices cycles progress.session).map fun (devices, session) =>
    if cycles = 0 then { progress with session := session }
    else
      progress.charge cycles devices
        (progress.step.schedulerCycles + (cycles + devices.triggeredDma.busCycles).setWidth 64)
        session

/-- `should_charge_prefetch_execute_bubble` at this point of the step. -/
def bubble (set : CoreInstructionSet) (fetchAddress : U32) (pcAdvanced prefetchHit : Bool) : Bool :=
  shouldChargePrefetchExecuteBubble fetchAddress (progress.waitcnt wiring) progress.step pcAdvanced
    prefetchHit set.widthBytes progress.session.scheduler.prefetchBufferHalfwords

/-- The interrupt after the refill of the pipeline. -/
def serviceRefilled (ready : CoreSession → Bool) (refilled : Bool) : Bool × FetchProgress :=
  if refilled && ready progress.session then
    match progress.session.serviceAutoIrq false false with
    | (true, session) => (true, ⟨session, { progress.step with irqServiced := true }⟩)
    | (false, session) => (false, { progress with session := session })
  else (false, progress)

/-- Where the program counter goes. The buffer of the next fetches is refilled behind an instruction
that has been passed, and started again behind a jump. -/
def moveOn (set : CoreInstructionSet) (fetchAddress : U32) (pcAdvanced seed : Bool)
    (extraRefillCycles : U32) : CoreSession :=
  if pcAdvanced then
    (progress.session.setPc (set.next fetchAddress)).refillPrefetchAfterStep wiring set fetchAddress
      progress.step extraRefillCycles
  else
    let reset := progress.session.resetFetchTimingSequence
    if seed then reset.setPrefetchBuffer 1 else reset

/-- The result of a step that fetched an instruction. -/
def report (set : CoreInstructionSet) (fetchAddress instruction : U32) (fetch : FetchTiming)
    (pcAdvanced : Bool) (session : CoreSession) : CoreSchedulerFetchStepResult where
  instructionSet := set
  instructionWidthBytes := set.widthBytes
  fetchAddress := fetchAddress
  instruction := some instruction
  step := some progress.step
  fetchCycles := fetch.cycles
  fetchFailed := false
  pcAdvanced := pcAdvanced
  fetchTimingApplied := fetch.applied
  fetchSequential := fetch.sequential
  prefetchEnabled := fetch.prefetchEnabled
  prefetchHit := fetch.prefetchHit
  prefetchBufferHalfwords := session.scheduler.prefetchBufferHalfwords
  boundaryForcedNonsequential := fetch.boundaryForcedNonsequential

end FetchProgress

namespace CoreSession

/-- The result of a step that fetched nothing. -/
def unfetched (set : CoreInstructionSet) (fetchAddress : U32) (instruction : Option U32)
    (step : Option CoreSchedulerStepResult) (fetchFailed : Bool) : CoreSchedulerFetchStepResult where
  instructionSet := set
  instructionWidthBytes := set.widthBytes
  fetchAddress := fetchAddress
  instruction := instruction
  step := step
  fetchCycles := 0
  fetchFailed := fetchFailed
  pcAdvanced := false
  fetchTimingApplied := false
  fetchSequential := false
  prefetchEnabled := false
  prefetchHit := false
  prefetchBufferHalfwords := 0
  boundaryForcedNonsequential := false

/-- The set of the next instruction. -/
def instructionSet (session : CoreSession) : CoreInstructionSet :=
  if session.cpu.thumbState then .thumb else .arm

/-- `step_hle_work_from_pc`. -/
def stepHleWorkFromPc (wiring : SchedulerWiring) (session : CoreSession) :
    Option (Option CoreSchedulerFetchStepResult × CoreSession) :=
  (session.advanceHleWork wiring).map fun (work, next) =>
    (work.map fun step => unfetched session.instructionSet session.pc none (some step) false, next)

/-- The step of the sentinel that marks the return from a handler, where nothing returns. -/
def sentinelStep (session : CoreSession) : CoreSchedulerStepResult where
  cpuStep := ⟨.unsupported, 1, session.cpu.elapsedCycles, false, false⟩
  devices := .empty
  immediateDma := .empty
  irqServiced := false
  schedulerCycles := session.scheduler.schedulerCycles
  dataAccess := none

/-! ## ARM -/

/-- The end of the fast paths in `step_arm_from_pc`. -/
def finishFastArm (wiring : SchedulerWiring) (fetchAddress instruction : U32)
    (fetch : FetchTiming) (progress : FetchProgress) :
    Option (CoreSchedulerFetchStepResult × CoreSession) := do
  let pcAdvanced :=
    progress.step.cpuStep.status ≠ .unsupported && progress.session.pc = fetchAddress
  let charged ← progress.stall wiring
    (progress.bubble wiring .arm fetchAddress pcAdvanced fetch.prefetchHit) 1
  let session := charged.moveOn wiring .arm fetchAddress pcAdvanced false 0
  return (charged.report .arm fetchAddress instruction fetch pcAdvanced session, session)

/-- The fast path of `step_arm_from_pc` in a scheduler without a wait-state control. -/
def unwiredFastArm (wiring : SchedulerWiring) (ready : CoreSession → Bool)
    (fetchAddress instruction : U32) (session : CoreSession) :
    Option (CoreSchedulerFetchStepResult × CoreSession) :=
  (session.fastStep wiring ready (simpleArm instruction)).map fun (step, session) =>
    let pcAdvanced := step.cpuStep.status ≠ .unsupported && session.pc = fetchAddress
    let moved := if pcAdvanced then session.setPc (fetchAddress + 4) else session
    ({ unfetched .arm fetchAddress (some instruction) (some step) false with
        pcAdvanced := pcAdvanced }, moved)

/-- The part of `step_arm_from_pc` after `step_arm`. -/
def finishArm (wiring : SchedulerWiring) (ready : CoreSession → Bool)
    (fetchAddress instruction : U32) (fetch : FetchTiming) (progress : FetchProgress) :
    Option (CoreSchedulerFetchStepResult × CoreSession) := do
  let target := progress.session.pc
  -- a taken branch to itself keeps its target although the program counter has not changed
  let executedBranchToSelf :=
    progress.executed && canDecodeBranch instruction && target = fetchAddress
  let pcAdvanced :=
    progress.step.cpuStep.status ≠ .unsupported && target = fetchAddress && !executedBranchToSelf
  let refills := !pcAdvanced && progress.executed && armInstructionRefillsPipeline instruction
  let exchange := canDecodeBranchExchange instruction
  let seed := refills && exchange &&
    branchExchangeSeedsFastPrefetch fetchAddress target (progress.waitcnt wiring)
  let refilled ←
    if refills then
      progress.refill wiring
        (if exchange then
          armBranchExchangeRefillCycles fetchAddress target (progress.waitcnt wiring)
        else armBranchRefillCycles target (progress.waitcnt wiring))
    else some progress
  let skipped ← refilled.stall wiring
    (refilled.step.cpuStep.status = .skippedCondition && canDecodeBranch instruction &&
      fetch.prefetchEnabled && regionOf fetchAddress = .gamePakRom) 1
  let charged ← skipped.stall wiring
    (skipped.bubble wiring .arm fetchAddress pcAdvanced fetch.prefetchHit) 1
  let (serviced, last) := charged.serviceRefilled ready refills
  let session := last.moveOn wiring .arm fetchAddress pcAdvanced (!serviced && seed) 0
  return (last.report .arm fetchAddress instruction fetch pcAdvanced session, session)

/-- The part of `step_arm_from_pc` after the fetch. -/
def executeFetchedArm (wiring : SchedulerWiring) (ready : CoreSession → Bool)
    (fetchAddress instruction : U32) (session : CoreSession) :
    Option (CoreSchedulerFetchStepResult × CoreSession) := do
  let simple := armImmediateDataProcessingWithoutPcWrite instruction
  if session.unwired wiring && simple && session.quiet then
    session.unwiredFastArm wiring ready fetchAddress instruction
  else
    let (fetch, session) ← session.applyFetchTiming wiring .arm fetchAddress
    let elapsedOverride :=
      if simple then none
      else armRomMultiplyElapsedOverride session.cpu instruction fetchAddress
        (wiring.waitcnt session.system.devices)
    if simple && session.quiet then
      let (step, session) ← session.fastStep wiring ready (simpleArm instruction)
      finishFastArm wiring fetchAddress instruction fetch ⟨session, step⟩
    else
      let (step, session) ← session.stepArm wiring ready instruction elapsedOverride
      finishArm wiring ready fetchAddress instruction fetch ⟨session, step⟩

/-- The part of `step_arm_from_pc` after the return from a handler has been excluded. -/
def fetchArm (wiring : SchedulerWiring) (ready : CoreSession → Bool) (fetchAddress : U32)
    (session : CoreSession) : Option (CoreSchedulerFetchStepResult × CoreSession) := do
  if fetchAddress = kIrqReturnSentinelPc then
    return (unfetched .arm fetchAddress (some 0xFFFFFFFF#32) (some session.sentinelStep) false,
      session.resetFetchTimingSequence)
  let (dispatched, session) ← session.dispatchHleIrqVector fetchAddress
  match dispatched with
  | some step =>
      return (unfetched .arm fetchAddress none (some step) false,
        session.resetFetchTimingSequence)
  | none =>
      match session.system.read32 ioCallbacks fetchAddress with
      | none =>
          return (unfetched .arm fetchAddress none none true, session.resetFetchTimingSequence)
      | some instruction => session.executeFetchedArm wiring ready fetchAddress instruction

/-- `step_arm_from_pc`. -/
def stepArmFromPc (wiring : SchedulerWiring) (ready : CoreSession → Bool) (session : CoreSession) :
    Option (CoreSchedulerFetchStepResult × CoreSession) := do
  let (work, session) ← session.stepHleWorkFromPc wiring
  match work with
  | some result => return (result, session)
  | none =>
      let (returned, session) ← session.dispatchHleIrqReturn session.pc
      match returned with
      | some step =>
          -- the address of the sentinel, from before the return
          return (unfetched .arm kIrqReturnSentinelPc none (some step) false,
            session.resetFetchTimingSequence)
      | none => session.fetchArm wiring ready session.pc

/-! ## Thumb -/

/-- The members that a Thumb step without an instruction resets. -/
def forgetThumbFetch (session : CoreSession) : CoreSession :=
  session.modifyScheduler fun state =>
    { state.resetFetchTimingSequence with
      suppressNextThumbPrefetchExecuteBubble := false
      previousThumbInternalLoad := false }

/-- Set whether the next Thumb instruction is spared the bubble. -/
def setSuppressBubble (value : Bool) (session : CoreSession) : CoreSession :=
  session.modifyScheduler fun state =>
    { state with suppressNextThumbPrefetchExecuteBubble := value }

/-- Set whether the last Thumb instruction loaded from work RAM. -/
def setPreviousInternalLoad (value : Bool) (session : CoreSession) : CoreSession :=
  session.modifyScheduler fun state => { state with previousThumbInternalLoad := value }

/-- The fast path of `step_from_pc` in a scheduler without a wait-state control. -/
def unwiredFastThumb (wiring : SchedulerWiring) (ready : CoreSession → Bool) (fetchAddress : U32)
    (instruction : U16) (session : CoreSession) :
    Option (CoreSchedulerFetchStepResult × CoreSession) :=
  (session.fastStep wiring ready (simpleThumb instruction)).map fun (step, session) =>
    let pcAdvanced := step.cpuStep.status ≠ .unsupported && session.pc = fetchAddress
    let moved := if pcAdvanced then session.setPc (fetchAddress + 2) else session
    ({ unfetched .thumb fetchAddress (some (instruction.setWidth 32)) (some step) false with
        pcAdvanced := pcAdvanced }, moved.setPreviousInternalLoad false)

/-- `prefetch_internal_load_overlap`. -/
def internalLoadOverlap (fetchAddress : U32) (instruction : U16) (fetch : FetchTiming)
    (session : CoreSession) : Option WaitStateControl → Bool
  | none => false
  | some waitcnt =>
      shouldOverlapThumbInternalDataLoad fetchAddress (some waitcnt) session.cpu instruction
          fetch.cycles &&
        !(!fetch.prefetchEnabled && waitcnt.prefetchEnabled &&
          (timing fetchAddress .halfword waitcnt).sequential ≤ 1)

/-- The stores of code in work RAM to work RAM that a pending horizontal blank shortens. -/
def hblankStoreOverride (fetchAddress : U32) (instruction : U16) (waitcnt : WaitStateControl)
    (session : CoreSession) : Option ArmElapsedCycleEstimate :=
  let devices := session.system.devices
  let decoded := decodeThumbMemoryTransfer instruction
  let dataAddress := session.cpu.thumbTransferAddress decoded
  let cycles : U32 :=
    (timing dataAddress (thumbTransferAccessWidth decoded.kind) waitcnt).sequential.setWidth 32 * 2
  if kPpuVisibleCycles ≤ devices.ppu.lineCycle ∧ devices.interrupts.requested .hblank ∧
      canDecodeThumbMemoryTransfer instruction ∧ !decoded.load ∧
      isWorkRam (regionOf fetchAddress) ∧ isWorkRam (regionOf dataAddress) ∧ cycles ≠ 0 then
    some ⟨cycles - 1, false, true⟩
  else none

/-- The override of the cycles of a Thumb instruction. -/
def thumbOverride (fetchAddress : U32) (instruction : U16) (session : CoreSession) :
    Option WaitStateControl → Option ArmElapsedCycleEstimate
  | none => none
  | some waitcnt =>
      (thumbRomMultiplyElapsedOverride session.cpu instruction fetchAddress (some waitcnt)).or
        (session.hblankStoreOverride fetchAddress instruction waitcnt)

/-- A conditional branch, by its bits. -/
def conditionalBranchBits (instruction : U16) : Bool :=
  instruction.extractLsb' 12 4 = 0xD#4 && instruction.extractLsb' 8 4 ≠ 0xF#4

/-- The programs that poll for the horizontal blank. -/
def hblankStatusSensitive (session : CoreSession) : Bool :=
  let devices := session.system.devices
  devices.ppu.hblankIrqEnabled || devices.interrupts.enabled .hblank ||
    devices.interrupts.requested .hblank

/-- `kInternalThumbBranchRolloverStallCycles`. -/
def kInternalThumbBranchRolloverStallCycles : U32 := 2#32

/-- The refill of the pipeline behind a Thumb branch, with the stalls of code in work RAM. -/
def refillThumb (wiring : SchedulerWiring) (fetchAddress target : U32) (instruction : U16)
    (progress : FetchProgress) : Option FetchProgress := do
  let waitcnt := progress.waitcnt wiring
  let refillCycles :=
    if isThumbBranchExchange instruction then
      thumbBranchExchangeRefillCycles fetchAddress target waitcnt
    else thumbBranchRefillCycles target waitcnt
  let internal := isWorkRam (regionOf fetchAddress)
  let sensitive := progress.session.hblankStatusSensitive
  let conditional := conditionalBranchBits instruction
  let sensitiveConditional := sensitive && conditional
  let lineCycle : U32 := progress.session.system.devices.ppu.lineCycle.setWidth 32
  let elapsed := progress.step.cpuStep.elapsedCycles
  let rollover := internal && sensitive && !conditional && elapsed ≠ 0 &&
    elapsed ≤ kCyclesPerLine.setWidth 32 && lineCycle < elapsed
  let refilled ← progress.refill wiring refillCycles
  let crosses := !sensitiveConditional && crossesPpuStatusTransition lineCycle refillCycles
  let stalled ← refilled.stall wiring
    (internal && sensitive && (!conditional || sensitiveConditional) && crosses) 1
  stalled.stall wiring rollover kInternalThumbBranchRolloverStallCycles

/-- The penalty of a literal load from the cartridge behind a load from work RAM. -/
def literalPenalty (wiring : SchedulerWiring) (fetchAddress : U32) (fetch : FetchTiming)
    (previousInternalLoad pcAdvanced : Bool) (progress : FetchProgress) : Bool :=
  previousInternalLoad && pcAdvanced && fetch.prefetchHit && fetch.cycles = 0 &&
    (progress.waitcnt wiring).any (fun waitcnt => waitcnt.prefetchEnabled &&
      (timing fetchAddress .halfword waitcnt).sequential ≤ 1) &&
    progress.step.dataAccess.any fun access =>
      access.load && access.widthBytes = 4 && regionOf access.address = .gamePakRom

/-- The data access of a step goes to work RAM. -/
def accessesWorkRam (step : CoreSchedulerStepResult) : Bool :=
  step.dataAccess.any fun access => isWorkRam (regionOf access.address)

/-- The data access of a step is a load from work RAM. -/
def loadsWorkRam (step : CoreSchedulerStepResult) : Bool :=
  step.dataAccess.any fun access => access.load && isWorkRam (regionOf access.address)

/-- `extra_refill_cycles`. -/
def extraRefillCycles (wiring : SchedulerWiring) (fetchAddress : U32) (fetch : FetchTiming)
    (overlap : Bool) (progress : FetchProgress) : U32 :=
  let waitcnt := progress.waitcnt wiring
  let slowRom : Bool :=
    waitcnt.any fun waitcnt => 1#8 < (timing fetchAddress .halfword waitcnt).sequential
  if prefetches waitcnt &&
      (overlap && !fetch.prefetchEnabled && loadsWorkRam progress.step ||
        fetch.prefetchEnabled && slowRom && accessesWorkRam progress.step) then 1
  else 0

/-- The part of `step_from_pc` after `step_thumb`. -/
def finishThumb (wiring : SchedulerWiring) (ready : CoreSession → Bool) (fetchAddress : U32)
    (instruction : U16) (fetch : FetchTiming) (overlap suppressBubble previousInternalLoad : Bool)
    (progress : FetchProgress) : Option (CoreSchedulerFetchStepResult × CoreSession) := do
  let target := progress.session.pc
  let executedBranchToSelf :=
    progress.executed && (canDecodeThumbUnconditionalBranch instruction ||
      canDecodeThumbConditionalBranch instruction) && target = fetchAddress
  let pcAdvanced :=
    progress.step.cpuStep.status ≠ .unsupported && target = fetchAddress && !executedBranchToSelf
  let refills := !pcAdvanced && progress.executed && thumbInstructionRefillsPipeline instruction
  let seed := refills && isThumbBranchExchange instruction &&
    branchExchangeSeedsFastPrefetch fetchAddress target (progress.waitcnt wiring)
  let refilled ←
    if refills then refillThumb wiring fetchAddress target instruction progress else some progress
  let penalized ← refilled.stall wiring
    (literalPenalty wiring fetchAddress fetch previousInternalLoad pcAdvanced refilled) 1
  let charged ← penalized.stall wiring
    (!suppressBubble &&
      penalized.bubble wiring .thumb fetchAddress pcAdvanced fetch.prefetchHit) 1
  let noted :=
    { charged with
      session := charged.session.setSuppressBubble
        (shouldSuppressNextThumbPrefetchExecuteBubble fetchAddress (charged.waitcnt wiring)
          charged.step pcAdvanced fetch.prefetchEnabled fetch.cycles) }
  let (serviced, last) := noted.serviceRefilled ready refills
  let moved := last.moveOn wiring .thumb fetchAddress pcAdvanced (!serviced && seed)
    (extraRefillCycles wiring fetchAddress fetch overlap last)
  let session := moved.setPreviousInternalLoad
    (pcAdvanced && last.executed && loadsWorkRam last.step)
  return (last.report .thumb fetchAddress (instruction.setWidth 32) fetch pcAdvanced session,
    session)

/-- The part of `step_from_pc` after the fetch. -/
def executeFetchedThumb (wiring : SchedulerWiring) (ready : CoreSession → Bool)
    (fetchAddress : U32) (instruction : U16) (session : CoreSession) :
    Option (CoreSchedulerFetchStepResult × CoreSession) := do
  if session.unwired wiring && !session.scheduler.suppressNextThumbPrefetchExecuteBubble &&
      !session.scheduler.previousThumbInternalLoad && simpleThumbAluWithoutPcWrite instruction &&
      session.quiet then
    session.unwiredFastThumb wiring ready fetchAddress instruction
  else
    -- without a wait-state control the fetch is not timed at all
    let (fetch, session) ←
      if session.unwired wiring then some (.none, session)
      else session.applyFetchTiming wiring .thumb fetchAddress
    let waitcnt := wiring.waitcnt session.system.devices
    let overlap := session.internalLoadOverlap fetchAddress instruction fetch waitcnt
    let suppressBubble := session.scheduler.suppressNextThumbPrefetchExecuteBubble
    let previousInternalLoad := session.scheduler.previousThumbInternalLoad
    let elapsedOverride := session.thumbOverride fetchAddress instruction waitcnt
    let (step, session) ← (session.setSuppressBubble false).stepThumb wiring ready instruction
      overlap elapsedOverride
    finishThumb wiring ready fetchAddress instruction fetch overlap suppressBubble
      previousInternalLoad ⟨session, step⟩

/-- The part of `step_from_pc` for Thumb after the return from a handler has been excluded. -/
def fetchThumb (wiring : SchedulerWiring) (ready : CoreSession → Bool) (fetchAddress : U32)
    (session : CoreSession) : Option (CoreSchedulerFetchStepResult × CoreSession) :=
  if fetchAddress = kIrqReturnSentinelPc then
    some (unfetched .thumb fetchAddress (some 0xFFFFFFFF#32) (some session.sentinelStep) false,
      session.forgetThumbFetch)
  else
    match session.system.read16 ioCallbacks fetchAddress with
    | none => some (unfetched .thumb fetchAddress none none true, session.forgetThumbFetch)
    | some instruction => session.executeFetchedThumb wiring ready fetchAddress instruction

/-- The Thumb part of `step_from_pc`. -/
def stepThumbFromPc (wiring : SchedulerWiring) (ready : CoreSession → Bool)
    (session : CoreSession) : Option (CoreSchedulerFetchStepResult × CoreSession) := do
  let (returned, session) ← session.dispatchHleIrqReturn session.pc
  match returned with
  | some step =>
      return (unfetched .thumb kIrqReturnSentinelPc none (some step) false,
        session.forgetThumbFetch)
  | none => session.fetchThumb wiring ready session.pc

/-- `step_from_pc`. -/
def stepFromPc (wiring : SchedulerWiring) (ready : CoreSession → Bool) (session : CoreSession) :
    Option (CoreSchedulerFetchStepResult × CoreSession) := do
  let (work, session) ← session.stepHleWorkFromPc wiring
  match work with
  | some result => return (result, session)
  | none =>
      let recovered := session.recoverThumbStateFromRomMisfetch
      if !recovered.cpu.thumbState then
        (recovered.setSuppressBubble false).stepArmFromPc wiring ready
      else recovered.stepThumbFromPc wiring ready

/-- `CoreSession::step`. -/
def step (session : CoreSession) : Option (CoreSchedulerFetchStepResult × CoreSession) :=
  session.stepFromPc sessionWiring autoIrqReady

end CoreSession

end Gba.Core
