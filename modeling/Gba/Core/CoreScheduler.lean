import Gba.Core.BiosController
import Gba.Core.DeviceAdvance
import Gba.Core.RegisterFile

/-!
# The scheduler

The device scheduler of `core_scheduler.cpp`: `advance_devices`, the automatic interrupt latency,
and the dispatch of interrupts to the handler of the program that stands in for the BIOS. A
scheduler holds references to the components of its session, so that its functions work on the
state of the whole session. Functions that can fail in the source by dividing by zero, leaving a
table or never returning are partial here.
-/

namespace Gba.Core

/-- `HleIrqFrame`. -/
structure HleIrqFrame where
  returnLr : U32
  savedRegisters : Option (Fin 13 → U32)
  longTimerReturnPending : Bool
  slowTimer0ReturnPending : Bool
  deriving DecidableEq

/-- `HleWorkFrame`. -/
structure HleWorkFrame where
  remainingCycles : U64
  ownerIrqDepth : U32
  deriving DecidableEq

/-- `CoreSchedulerState`: every member of the scheduler that is not a reference or a callback. -/
structure CoreSchedulerState where
  schedulerCycles : U64
  halted : Bool
  lastFetchAddress : Option U32
  lastFetchWidthBytes : Option U8
  lastFetchWindow : Option U8
  prefetchBufferHalfwords : U8
  suppressNextGamePakPrefetch : Bool
  recoverNextGamePakDataFetch : Bool
  suppressNextThumbPrefetchExecuteBubble : Bool
  previousThumbInternalLoad : Bool
  lastWaitcntControl : Option U16
  hleIrqReturnLr : Option U32
  hleIrqSavedRegisters : Option (Fin 13 → U32)
  hleIrqReentryDispatchPending : Bool
  hleIrqReturnLatencyPending : Bool
  hleIrqPostReturnLatencyArmed : Bool
  hleIrqPostReturnDispatchPending : Bool
  hleIrqChainedPostReturnDispatchPending : Bool
  hleIrqChainedPostReturnDataDispatchPending : Bool
  hleIrqChainedPostReturnSpacedDataDispatchPending : Bool
  hleIrqLongTimerChainedReturnPending : Bool
  hleIrqSlowTimer0ReturnPending : Bool
  hleIrqPostReturnChainActive : Bool
  hleIrqChainedSpacedDataServiceCount : U8
  autoIrqLineHigh : Bool
  autoIrqLatencyCycles : U8
  timerIoAccessGapCycles : U32
  thumbMisfetchRecoveryCount : U32
  hleIrqOuterFrames : List HleIrqFrame
  hleWorkFrames : List HleWorkFrame
  deriving DecidableEq

/-- The scheduler after `reset_scheduler_cycles`. -/
def CoreSchedulerState.reset : CoreSchedulerState where
  schedulerCycles := 0
  halted := false
  lastFetchAddress := none
  lastFetchWidthBytes := none
  lastFetchWindow := none
  prefetchBufferHalfwords := 0
  suppressNextGamePakPrefetch := false
  recoverNextGamePakDataFetch := false
  suppressNextThumbPrefetchExecuteBubble := false
  previousThumbInternalLoad := false
  lastWaitcntControl := none
  hleIrqReturnLr := none
  hleIrqSavedRegisters := none
  hleIrqReentryDispatchPending := false
  hleIrqReturnLatencyPending := false
  hleIrqPostReturnLatencyArmed := false
  hleIrqPostReturnDispatchPending := false
  hleIrqChainedPostReturnDispatchPending := false
  hleIrqChainedPostReturnDataDispatchPending := false
  hleIrqChainedPostReturnSpacedDataDispatchPending := false
  hleIrqLongTimerChainedReturnPending := false
  hleIrqSlowTimer0ReturnPending := false
  hleIrqPostReturnChainActive := false
  hleIrqChainedSpacedDataServiceCount := 0
  autoIrqLineHigh := false
  autoIrqLatencyCycles := 0
  timerIoAccessGapCycles := 0
  thumbMisfetchRecoveryCount := 0
  hleIrqOuterFrames := []
  hleWorkFrames := []

/-- The components of a `CoreSession`, with the members of its scheduler. -/
structure CoreSession where
  cpu : Arm7tdmi
  system : System
  bios : BiosController
  scheduler : CoreSchedulerState
  stateGeneration : U64

/-- `ArmStepResult`. -/
structure ArmStepResult where
  status : ExecuteStatus
  elapsedCycles : U32
  totalElapsedCycles : U64
  dataDependent : Bool
  memoryTimingApplied : Bool
  deriving DecidableEq

/-- `CoreDeviceTickResult`. -/
structure CoreDeviceTickResult where
  cycles : U32
  apuFrameStep : Option ApuFrameStep
  apuTimerEvents : U32
  lastDirectSound : DirectSoundTimerResult
  triggeredDma : DmaRunResult
  deriving DecidableEq

/-- `CoreDataAccessTrace`. -/
structure CoreDataAccessTrace where
  address : U32
  widthBytes : U8
  load : Bool
  timerIo : Bool
  preAccessCycles : U32
  timerIoGapCycles : U32
  deriving DecidableEq

/-- `CoreSchedulerStepResult`. -/
structure CoreSchedulerStepResult where
  cpuStep : ArmStepResult
  devices : CoreDeviceTickResult
  immediateDma : DmaRunResult
  irqServiced : Bool
  schedulerCycles : U64
  dataAccess : Option CoreDataAccessTrace
  deriving DecidableEq

/-- The empty `DmaRunResult` of an initializer list. -/
def DmaRunResult.empty : DmaRunResult := ⟨0, 0, false, 0⟩

/-- The empty `CoreDeviceTickResult` of an initializer list. -/
def CoreDeviceTickResult.empty : CoreDeviceTickResult :=
  ⟨0, none, 0, ⟨⟨false, 0, false⟩, ⟨false, 0, false⟩⟩, .empty⟩

def kAutoIrqLatencyCycles : U8 := 5#8

def kAutoIrqSlowTimerLatencyCycles : U8 := 3#8

def kAutoIrqPostHleReturnLatencyCycles : U8 := 2#8

def kAutoIrqLongTimerChainedPostHleReturnLatencyCycles : U8 := 0#8

def kAutoIrqSlowTimerChainedPostHleReturnLatencyCycles : U8 := 0#8

def kAutoIrqPhase184SecondSpacedDataLatencyCycles : U8 := 4#8

def kAutoIrqChainedPostHleReturnLatencyCycles : U8 := 1#8

/-- `reset_auto_irq_latency`. -/
def CoreSchedulerState.resetAutoIrqLatency (state : CoreSchedulerState) : CoreSchedulerState :=
  { state with
    autoIrqLineHigh := false
    autoIrqLatencyCycles := 0
    hleIrqPostReturnLatencyArmed := false }

namespace CoreSession

/-! ## Device time -/

/-- The interrupt line is active and the processor accepts it. -/
def irqReady (session : CoreSession) : Bool :=
  session.system.devices.interrupts.irqLineActive && !session.cpu.irqDisabled

/-- `bios_hle_enabled`; a session gives its scheduler a BIOS controller. -/
def biosHleEnabled (session : CoreSession) : Bool := session.bios.mode = .hle

/-- Change the members of the scheduler. -/
def modifyScheduler (session : CoreSession) (f : CoreSchedulerState → CoreSchedulerState) :
    CoreSession :=
  { session with scheduler := f session.scheduler }

/-- `update_auto_irq_latency`. -/
def updateAutoIrqLatency (elapsedCycles : U32) (session : CoreSession) : CoreSession :=
  session.modifyScheduler fun state =>
    if !session.irqReady then state.resetAutoIrqLatency
    else if !state.autoIrqLineHigh then
      { state with autoIrqLineHigh := true, autoIrqLatencyCycles := kAutoIrqLatencyCycles }
    else if elapsedCycles < state.autoIrqLatencyCycles.setWidth 32 then
      { state with
        autoIrqLatencyCycles :=
          (state.autoIrqLatencyCycles.setWidth 32 - elapsedCycles).setWidth 8 }
    else { state with autoIrqLatencyCycles := 0 }

/-- The latency that `advance_devices` gives an interrupt that a timer has just raised. -/
def timerIrqLatency (session : CoreSession) : U8 :=
  let state := session.scheduler
  let timer0 := session.system.devices.timers.timers 0
  let timer0Requested := session.system.devices.interrupts.requested .timer0
  let postHleReturnIrq := state.hleIrqReturnLatencyPending
  let chainedPostHleReturnIrq := postHleReturnIrq && state.hleIrqPostReturnChainActive
  let longTimerChainedPostHleReturnIrq :=
    chainedPostHleReturnIrq && timer0Requested && timer0.reload ≤ 0xFF80#16
  let slowTimer0Irq := timer0Requested && 1#16 < timer0.prescalerDivisor
  let slowTimerChainedPostHleReturnIrq := chainedPostHleReturnIrq && slowTimer0Irq
  let slowTimerNormalIrq := !postHleReturnIrq && slowTimer0Irq
  -- one capture of the timing tests was fitted to exactly this phase and reload
  let phase184SecondSpacedDataIrq :=
    slowTimerChainedPostHleReturnIrq && timer0.reload = 0xFFEE#16 &&
      timer0.prescalerDivisor = 1024#16 && timer0.lastEnablePhase = 184#16 &&
      state.hleIrqChainedSpacedDataServiceCount = 1#8
  if longTimerChainedPostHleReturnIrq then kAutoIrqLongTimerChainedPostHleReturnLatencyCycles
  else if phase184SecondSpacedDataIrq then kAutoIrqPhase184SecondSpacedDataLatencyCycles
  else if slowTimerChainedPostHleReturnIrq then kAutoIrqSlowTimerChainedPostHleReturnLatencyCycles
  else if chainedPostHleReturnIrq then kAutoIrqChainedPostHleReturnLatencyCycles
  else if postHleReturnIrq then kAutoIrqPostHleReturnLatencyCycles
  else if slowTimerNormalIrq then kAutoIrqSlowTimerLatencyCycles
  else kAutoIrqLatencyCycles

/-- The latency starts with an interrupt that a timer has just raised. -/
def startTimerIrqLatency (session : CoreSession) : CoreSession :=
  session.modifyScheduler fun state =>
    { state with
      autoIrqLineHigh := true
      autoIrqLatencyCycles := session.timerIrqLatency
      hleIrqPostReturnLatencyArmed := state.hleIrqReturnLatencyPending
      hleIrqReturnLatencyPending := false }

/-- The end of `advance_devices` when a timer raised the line at `firstIrqCycle`. -/
def noteTimerIrq (totalVisibleCycles : U32) (firstIrqCycle : U64) (session : CoreSession) :
    CoreSession :=
  let eventCycle : U32 :=
    if firstIrqCycle < totalVisibleCycles.setWidth 64 then firstIrqCycle.setWidth 32
    else totalVisibleCycles
  let cyclesAfterEvent := totalVisibleCycles - eventCycle
  if cyclesAfterEvent ≠ 0 then session.startTimerIrqLatency.updateAutoIrqLatency cyclesAfterEvent
  else session.startTimerIrqLatency

/-- The clocks of the scheduler after `totalVisibleCycles`, with the devices as they are then. -/
def chargeTime (system : System) (totalVisibleCycles : U32) (session : CoreSession) :
    CoreSession :=
  { session with system := system }.modifyScheduler fun state =>
    { state with
      schedulerCycles := state.schedulerCycles + totalVisibleCycles.setWidth 64
      timerIoAccessGapCycles :=
        if totalVisibleCycles = 0 then state.timerIoAccessGapCycles
        else if BitVec.allOnes 32 - state.timerIoAccessGapCycles < totalVisibleCycles then
          BitVec.allOnes 32
        else state.timerIoAccessGapCycles + totalVisibleCycles }

/-- The part of `advance_devices` after its loop. -/
def finishAdvance (irqReadyBefore : Bool) (cycles : U32) (advanced : DeviceAdvance)
    (session : CoreSession) : CoreSession :=
  let totalVisibleCycles := cycles + advanced.totalDma.busCycles
  let charged := session.chargeTime advanced.system totalVisibleCycles
  match advanced.firstIrqCycle with
  | some firstIrqCycle =>
      if irqReadyBefore || !charged.irqReady then charged.updateAutoIrqLatency totalVisibleCycles
      else charged.noteTimerIrq totalVisibleCycles firstIrqCycle
  | none => charged.updateAutoIrqLatency totalVisibleCycles

/-- `advance_devices`. -/
def advanceDevices (cycles : U32) (session : CoreSession) :
    Option (CoreDeviceTickResult × CoreSession) :=
  if cycles = 0 then some (.empty, session)
  else
    (DeviceAdvance.start session.system cycles).advanceLoop.map fun advanced =>
      (⟨cycles, advanced.apuFrameStep, advanced.apuTimerEvents, advanced.lastDirectSound,
          advanced.totalDma⟩,
        session.finishAdvance session.irqReady cycles advanced)

/-! ## Interrupts of the emulated BIOS -/

/-- `service_pending_irq` of the scheduler. -/
def servicePendingIrq (fromDataAccess fromSpacedTimerIoAccess : Bool) (session : CoreSession) :
    Bool × CoreSession :=
  if !session.irqReady then (false, session)
  else
    let cpu := session.cpu.enterException .irq
    let irqLink := cpu.registers Arm7tdmi.kLinkRegister
    let admitted := { session with cpu := cpu }
    let latched :=
      if session.biosHleEnabled ∧ irqLink ≠ BiosHleConstants.kIrqReturnSentinelPc then
        { admitted with
          system := (admitted.system.write32 ioCallbacks 0x03007FF8#32 irqLink).2
          scheduler :=
            { admitted.scheduler with
              hleIrqReturnLr := some (admitted.scheduler.hleIrqReturnLr.getD irqLink) } }
      else admitted
    (true, latched.modifyScheduler fun state =>
      let chain := state.hleIrqPostReturnChainActive
      let noted :=
        if state.hleIrqPostReturnLatencyArmed then
          { state with
            hleIrqPostReturnDispatchPending := true
            hleIrqChainedPostReturnDispatchPending := chain
            hleIrqChainedPostReturnDataDispatchPending := chain && fromDataAccess
            hleIrqChainedPostReturnSpacedDataDispatchPending :=
              chain && fromDataAccess && fromSpacedTimerIoAccess
            hleIrqPostReturnChainActive := true
            hleIrqChainedSpacedDataServiceCount :=
              if chain && fromDataAccess && fromSpacedTimerIoAccess then
                BitVec.ofNat 8 (min (state.hleIrqChainedSpacedDataServiceCount.toNat + 1) 255)
              else 0 }
        else
          { state with
            hleIrqChainedPostReturnDispatchPending := false
            hleIrqChainedPostReturnDataDispatchPending := false
            hleIrqChainedPostReturnSpacedDataDispatchPending := false
            hleIrqPostReturnChainActive := false
            hleIrqChainedSpacedDataServiceCount := 0 }
      { noted with hleIrqPostReturnLatencyArmed := false })

/-- `dispatch_hle_irq_vector` up to the charge of its cycles: the cycles and the session that enters
the handler; nothing where the source returns no result. -/
def enterHandler (fetchAddress : U32) (session : CoreSession) : Option (U32 × CoreSession) :=
  if !session.biosHleEnabled ∨ fetchAddress ≠ BiosHleConstants.kIrqVectorAddress ∨
      session.cpu.mode ≠ .irq then none
  else do
    let handler ← session.system.read32 ioCallbacks BiosHleConstants.kUserIrqHandlerPointer
    if handler = 0 then none
    else
      let cpsr := session.cpu.cpsr
      let cpu ← session.cpu.setCpsr
        (if anySet handler 0x1#32 then cpsr ||| kThumbStateFlag else cpsr &&& ~~~kThumbStateFlag)
      let state := session.scheduler
      let timer0 := session.system.devices.timers.timers 0
      let timer0Requested := session.system.devices.interrupts.requested .timer0
      let dispatchCycles := BiosController.irqDispatchCycles
        { reentry := state.hleIrqReentryDispatchPending
          postReturn := state.hleIrqPostReturnDispatchPending
          chainedPostReturn := state.hleIrqChainedPostReturnDispatchPending
          chainedPostReturnData := state.hleIrqChainedPostReturnDataDispatchPending
          chainedPostReturnSpacedData := state.hleIrqChainedPostReturnSpacedDataDispatchPending
          timer0InterruptRequested := timer0Requested
          timer0Reload := timer0.reload.setWidth 32
          timerIoAccessGapCycles := state.timerIoAccessGapCycles }
      let irqLink := cpu.registers Arm7tdmi.kLinkRegister
      let linked : Bool := irqLink ≠ BiosHleConstants.kIrqReturnSentinelPc
      let outer :=
        match state.hleIrqReturnLr, state.hleIrqSavedRegisters with
        | some returnLr, some saved =>
            if linked then
              [⟨returnLr, some saved, state.hleIrqLongTimerChainedReturnPending,
                state.hleIrqSlowTimer0ReturnPending⟩]
            else []
        | _, _ => []
      some (dispatchCycles,
        { session with
          cpu := (cpu.setRegister Arm7tdmi.kLinkRegister
            BiosHleConstants.kIrqReturnSentinelPc).setRegister Arm7tdmi.kPc (handler &&& ~~~0x1#32)
          system :=
            if linked ∧ outer = [] then
              (session.system.write32 ioCallbacks 0x03007FF8#32 irqLink).2
            else session.system
          scheduler :=
            { state with
              hleIrqOuterFrames := state.hleIrqOuterFrames ++ outer
              hleIrqReentryDispatchPending := false
              hleIrqPostReturnDispatchPending := false
              hleIrqChainedPostReturnDispatchPending := false
              hleIrqChainedPostReturnDataDispatchPending := false
              hleIrqChainedPostReturnSpacedDataDispatchPending := false
              hleIrqLongTimerChainedReturnPending :=
                state.hleIrqChainedPostReturnDispatchPending && timer0Requested &&
                  timer0.reload ≤ 0xFF80#16
              hleIrqSlowTimer0ReturnPending := timer0Requested && 1#16 < timer0.prescalerDivisor
              hleIrqReturnLr := if linked then some irqLink else state.hleIrqReturnLr
              hleIrqSavedRegisters :=
                some fun index => cpu.registers ⟨index.val, by omega⟩ } })

/-- `dispatch_hle_irq_vector`: the inner option is the result of the source. -/
def dispatchHleIrqVector (fetchAddress : U32) (session : CoreSession) :
    Option (Option CoreSchedulerStepResult × CoreSession) :=
  match session.enterHandler fetchAddress with
  | none => some (none, session)
  | some (dispatchCycles, entered) =>
      (entered.advanceDevices dispatchCycles).map fun (devices, advanced) =>
        (some
          { cpuStep := ⟨.executed, dispatchCycles, entered.cpu.elapsedCycles, false, false⟩
            devices := devices
            immediateDma := .empty
            irqServiced := false
            schedulerCycles := advanced.scheduler.schedulerCycles
            dataAccess := none },
          advanced)

/-- `cpu_thumb_misfetch_region`. -/
def cpuThumbMisfetchRegion (pc : U32) : Bool :=
  let region := (classify pc).region
  region = .gamePakRom || region = .iwram || region = .ewram

/-- `looks_like_thumb_misfetch_as_arm`. -/
def looksLikeThumbMisfetchAsArm (system : System) (pc : U32) : Bool :=
  if !cpuThumbMisfetchRegion pc then false
  else
    match system.read32 ioCallbacks (pc &&& ~~~0x3#32) with
    | none => false
    | some armWord =>
        if armWord >>> 28 &&& 0xF#32 ≠ 0xF#32 then false
        else (system.read16 ioCallbacks pc).isSome

/-- The recovery heuristic fires for a processor about to fetch at its program counter. -/
def thumbMisfetch (session : CoreSession) : Bool :=
  !session.cpu.thumbState &&
    looksLikeThumbMisfetchAsArm session.system (session.cpu.registers Arm7tdmi.kPc)

/-- `recover_thumb_state_from_rom_misfetch`. -/
def recoverThumbStateFromRomMisfetch (session : CoreSession) : CoreSession :=
  if session.thumbMisfetch then
    { session with
      cpu := (session.cpu.setCpsr (session.cpu.cpsr ||| kThumbStateFlag)).getD session.cpu
      scheduler :=
        { session.scheduler with
          thumbMisfetchRecoveryCount := session.scheduler.thumbMisfetchRecoveryCount + 1 } }
  else session

/-- The return address that `dispatch_hle_irq_return` uses: the latched one, or the copy in memory
when nothing is latched. -/
def returnLink (session : CoreSession) : Option U32 :=
  match session.scheduler.hleIrqReturnLr with
  | some returnLr => some returnLr
  | none =>
      (session.system.read32 ioCallbacks 0x03007FF8#32).filter fun fallback =>
        fallback ≠ 0 && fallback ≠ BiosHleConstants.kIrqReturnSentinelPc

/-- The processor with the link register and the saved registers of the interrupt restored. -/
def restoreRegisters (returnLr : U32) (saved : Option (Fin 13 → U32)) (cpu : Arm7tdmi) :
    Arm7tdmi :=
  let linked := cpu.setRegister Arm7tdmi.kLinkRegister returnLr
  match saved with
  | none => linked
  | some registers =>
      { linked with
        registers := fun index =>
          if h : index.val < 13 then registers ⟨index.val, h⟩ else linked.registers index }

/-- The members of the scheduler after the return from a handler: an outer interrupt becomes the
current one again. -/
def popFrame (state : CoreSchedulerState) : CoreSchedulerState :=
  match state.hleIrqOuterFrames.getLast? with
  | none =>
      { state with
        hleIrqReturnLr := none
        hleIrqSavedRegisters := none
        hleIrqLongTimerChainedReturnPending := false
        hleIrqSlowTimer0ReturnPending := false }
  | some frame =>
      { state with
        hleIrqOuterFrames := state.hleIrqOuterFrames.dropLast
        hleIrqReturnLr := some frame.returnLr
        hleIrqSavedRegisters := frame.savedRegisters
        hleIrqLongTimerChainedReturnPending := frame.longTimerReturnPending
        hleIrqSlowTimer0ReturnPending := frame.slowTimer0ReturnPending }

/-- The end of `dispatch_hle_irq_return`: an interrupt that is still pending is serviced at once. -/
def serviceAfterReturn (session : CoreSession) : Bool × CoreSession :=
  if session.irqReady then
    match session.servicePendingIrq false false with
    | (true, serviced) =>
        (true, serviced.modifyScheduler fun state =>
          { state with
            hleIrqReentryDispatchPending := true
            hleIrqReturnLatencyPending := false }.resetAutoIrqLatency)
    | (false, unserviced) =>
        (false, unserviced.modifyScheduler fun state =>
          { state with
            autoIrqLineHigh := true
            autoIrqLatencyCycles := 0
            hleIrqReturnLatencyPending := true })
  else
    (false, session.modifyScheduler fun state => { state with hleIrqReturnLatencyPending := true })

/-- `dispatch_hle_irq_return`: the inner option is the result of the source. -/
def dispatchHleIrqReturn (fetchAddress : U32) (session : CoreSession) :
    Option (Option CoreSchedulerStepResult × CoreSession) :=
  if !session.biosHleEnabled ∨ fetchAddress ≠ BiosHleConstants.kIrqReturnSentinelPc ∨
      session.cpu.mode ≠ .irq then some (none, session)
  else
    match session.returnLink with
    | none => some (none, session)
    | some returnLr =>
        let restored := restoreRegisters returnLr session.scheduler.hleIrqSavedRegisters session.cpu
        let adjustment : U32 :=
          match restored.spsr with
          | some spsr => if anySet spsr kThumbStateFlag then 2 else 4
          | none => 4
        match restored.returnFromException adjustment with
        | none =>
            some (some
              { cpuStep := ⟨.unsupported, 1, restored.elapsedCycles, false, false⟩
                devices := .empty
                immediateDma := .empty
                irqServiced := false
                schedulerCycles := session.scheduler.schedulerCycles
                dataAccess := none },
              { session with
                cpu := restored
                scheduler :=
                  { session.scheduler with
                    hleIrqReturnLr := some returnLr
                    hleIrqSavedRegisters := none } })
        | some returned =>
            let state := session.scheduler
            let timer0 := session.system.devices.timers.timers 0
            let returnCycles := BiosController.irqReturnCycles
              state.hleIrqLongTimerChainedReturnPending
              (state.hleIrqSlowTimer0ReturnPending && timer0.enabled &&
                1#16 < timer0.prescalerDivisor)
            let resumed := { session with cpu := returned }.recoverThumbStateFromRomMisfetch
            ((resumed.modifyScheduler popFrame).advanceDevices returnCycles).map
              fun (devices, advanced) =>
                let serviced := advanced.serviceAfterReturn
                (some
                  { cpuStep := ⟨.executed, returnCycles, resumed.cpu.elapsedCycles, false, false⟩
                    devices := devices
                    immediateDma := .empty
                    irqServiced := serviced.1
                    schedulerCycles := serviced.2.scheduler.schedulerCycles
                    dataAccess := none },
                  serviced.2)

end CoreSession

end Gba.Core
