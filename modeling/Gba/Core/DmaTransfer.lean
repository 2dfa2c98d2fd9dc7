import Gba.Core.IoRegisters
import Gba.Core.MemoryBus

/-!
# DMA transfers

The transfers of `DmaController` in `dma_controller.cpp`. A transfer reads and writes through the
bus, so that a destination in the I/O region re-enters the DMA registers in the middle of it; the
loop over the units therefore takes the state of the whole system along and reads the channel's
registers again for every unit.
-/

namespace Gba.Core

/-- The memory bus with the I/O facade behind its callbacks. -/
abbrev System := BusState Devices

/-- `io_callbacks`: the facade that a session installs. -/
def ioCallbacks : MemoryBusIoCallbacks Devices where
  read16 := some Devices.read16
  read32 := some Devices.read32
  write16 := some Devices.write16
  write32 := some Devices.write32

/-- The pointer to the wait-state control that a DMA run gets: the system's own, or none. -/
abbrev WaitcntPointer := Devices → Option WaitStateControl

/-- `DmaRunResult`. -/
@[ext]
structure DmaRunResult where
  channelsExecuted : U8
  unitsTransferred : U32
  unsupportedRequest : Bool
  busCycles : U32
  deriving DecidableEq, Repr

/-- `dma_interrupt_source`. -/
def dmaInterruptSource : Fin 4 → InterruptSource
  | 0 => .dma0
  | 1 => .dma1
  | 2 => .dma2
  | 3 => .dma3

/-- `step_address`. -/
def stepAddress (address : U32) (control : DmaAddressControl) (unitSize : U32) : U32 :=
  match control with
  | .increment | .incrementReload => address + unitSize
  | .decrement => address - unitSize
  | .fixed => address

/-- `trigger_timing`. -/
def triggerTiming : DmaTrigger → DmaStartTiming
  | .immediate => .immediate
  | .vblank => .vblank
  | .hblank => .hblank
  | .special | .fifoA | .fifoB => .special

/-- `dma_source_uses_latch`. -/
def dmaSourceUsesLatch (address : U32) : Bool := (classify address).region = .bios

/-- `dma_source_steps_as_game_pak_stream`. -/
def dmaSourceStepsAsGamePakStream (channel : Fin 4) (address : U32) : Bool :=
  channel ≠ 0 && (classify (address &&& 0x0FFFFFFF#32)).region = .gamePakRom

/-- `duplicate_halfword`. -/
def duplicateHalfword (value : U16) : U32 := value.setWidth 32 ||| value.setWidth 32 <<< 16

/-- `game_pak_region`. -/
def gamePakRegion (region : Region) : Bool := region = .gamePakRom || region = .gamePakSave

/-- `dma_timing`. -/
def dmaTiming (address : U32) (width : AccessWidth) (waitcnt : Option WaitStateControl) :
    MemoryAccessTiming :=
  match waitcnt with
  | some waitcnt => timing address width waitcnt
  | none => internalTiming address width

/-- `dma_access_phase_cycles`. -/
def dmaAccessPhaseCycles (timing : MemoryAccessTiming) (sequential externalWaitcntAccess : Bool) :
    U32 :=
  let cycles : U32 := (if sequential then timing.sequential else timing.nonsequential).setWidth 32
  if externalWaitcntAccess then cycles + 1 else cycles

/-- `dma_access_cycles`. -/
def dmaAccessCycles (address : U32) (width : AccessWidth) (sequential : Bool)
    (waitcnt : Option WaitStateControl) : U32 :=
  let timing := dmaTiming address width waitcnt
  let externalWaitcntAccess := waitcnt.isSome && gamePakRegion (classify address).region
  if width = .word ∧ externalWaitcntAccess then
    dmaAccessPhaseCycles timing sequential true + dmaAccessPhaseCycles timing true true
  else dmaAccessPhaseCycles timing sequential externalWaitcntAccess

/-- `dma_transfer_bus_cycles`. -/
def dmaTransferBusCycles (sourceAddress destinationAddress : U32) (wordTransfer : Bool)
    (sourceSequential destinationSequential : Bool) (waitcnt : Option WaitStateControl) : U32 :=
  let width : AccessWidth := if wordTransfer then .word else .halfword
  dmaAccessCycles sourceAddress width sourceSequential waitcnt +
    dmaAccessCycles destinationAddress width destinationSequential waitcnt

/-- `dma_stream_is_sequential`. -/
def dmaStreamIsSequential (unit : U32) (control : DmaAddressControl) : Bool :=
  unit ≠ 0 && (control = .increment || control = .incrementReload)

/-- `apply_dma_bus_adjustment`. -/
def applyDmaBusAdjustment (busCycles : U32) (adjustment : Int) : U32 :=
  if 0 ≤ adjustment then busCycles + BitVec.ofInt 32 adjustment
  else
    let magnitude := BitVec.ofInt 32 (-adjustment)
    if magnitude < busCycles then busCycles - magnitude else 0

/-- `dma_game_pak_arbitration_adjustment`. -/
def dmaGamePakArbitrationAdjustment (sourceAddress destinationAddress : U32)
    (waitcnt : Option WaitStateControl) : Int :=
  match waitcnt with
  | none => 0
  | some waitcnt =>
    let sourceGamePak := gamePakRegion (classify sourceAddress).region
    let destinationGamePak := gamePakRegion (classify destinationAddress).region
    if !sourceGamePak && !destinationGamePak then 0
    else if sourceGamePak && destinationGamePak then
      let timing := timing sourceAddress .halfword waitcnt
      let adjustment : Int :=
        -(if 2 < timing.nonsequential then (timing.nonsequential.toNat : Int) - 2 else 0)
      if !waitcnt.prefetchEnabled && timing.sequential ≤ 1 then adjustment - 1 else adjustment
    else if sourceGamePak then
      let timing := timing sourceAddress .halfword waitcnt
      if waitcnt.prefetchEnabled && timing.sequential ≤ 1 then 1 else 0
    else
      let timing := timing destinationAddress .halfword waitcnt
      if waitcnt.prefetchEnabled && 1 < timing.sequential then 1 else 0

/-- `effective_source_address`. -/
def effectiveSourceAddress (channel : Fin 4) (address : U32) : U32 :=
  address &&& (if channel = 0 then 0x07FFFFFF#32 else 0x0FFFFFFF#32)

/-- `effective_destination_address`. -/
def effectiveDestinationAddress (channel : Fin 4) (address : U32) : U32 :=
  address &&& (if channel = 3 then 0x0FFFFFFF#32 else 0x07FFFFFF#32)

namespace System

/-- The registers of one DMA channel. -/
def channel (system : System) (channel : Fin 4) : DmaChannelState :=
  system.devices.dma.channels channel

/-- Change the DMA controller. -/
def modifyDma (system : System) (f : DmaController → DmaController) : System :=
  { system with devices := { system.devices with dma := f system.devices.dma } }

/-- Change one DMA channel. -/
def modifyChannel (system : System) (channel : Fin 4) (f : DmaChannelState → DmaChannelState) :
    System :=
  system.modifyDma fun dma => dma.modify channel f

/-- Drive the open bus with a transferred value, if the trigger does. -/
def driveOpenBus (system : System) (drive : Bool) (value : U32) : System :=
  if drive then system.withMemory (system.memory.driveOpenBus value) else system

/-- Raise an interrupt. -/
def request (system : System) (source : InterruptSource) : System :=
  { system with
    devices := { system.devices with interrupts := system.devices.interrupts.request source } }

end System

/-- What the loop over the units threads through: the system, the two local addresses and the bus
cycles. -/
structure Transfer where
  system : System
  sourceAddress : U32
  destinationAddress : U32
  busCycles : U32

/-- The value that a unit moves, and the data latch after it: a source that cannot be read moves
the latch. -/
def transferRead (system : System) (channel : Fin 4) (wordTransfer : Bool) (alignedSource : U32) :
    U32 × U32 :=
  let latch := (system.channel channel).dataLatch
  if wordTransfer then
    let value :=
      (if dmaSourceUsesLatch alignedSource then none
        else system.read32 ioCallbacks alignedSource).getD latch
    (value, value)
  else
    match if dmaSourceUsesLatch alignedSource then none
      else system.read16 ioCallbacks alignedSource with
    | some value => (duplicateHalfword value, duplicateHalfword value)
    | none => (duplicateHalfword (latch.setWidth 16), latch)

/-- The store of a unit. -/
def transferWrite (system : System) (wordTransfer : Bool) (alignedDestination value : U32) :
    System :=
  if wordTransfer then (system.write32 ioCallbacks alignedDestination value).2
  else (system.write16 ioCallbacks alignedDestination (value.setWidth 16)).2

/-- The body of the loop of `execute_channel`. -/
def transferUnit (waitcnt : WaitcntPointer) (channel : Fin 4) (drive wordTransfer : Bool)
    (unit : U32) (t : Transfer) : Transfer :=
  let unitSize : U32 := if wordTransfer then 4 else 2
  let state := t.system.channel channel
  let alignedSource := effectiveSourceAddress channel t.sourceAddress &&& ~~~(unitSize - 1)
  let alignedDestination :=
    effectiveDestinationAddress channel t.destinationAddress &&& ~~~(unitSize - 1)
  let sourceStepControl :=
    if dmaSourceStepsAsGamePakStream channel t.sourceAddress then .increment
    else state.sourceControl
  let busCycles := t.busCycles + dmaTransferBusCycles alignedSource alignedDestination wordTransfer
    (dmaStreamIsSequential unit sourceStepControl)
    (dmaStreamIsSequential unit state.destinationControl) (waitcnt t.system.devices)
  let (value, latch) := transferRead t.system channel wordTransfer alignedSource
  let latched := t.system.modifyChannel channel fun state => { state with dataLatch := latch }
  let written := transferWrite (latched.driveOpenBus drive value) wordTransfer alignedDestination value
  { system := written
    sourceAddress := stepAddress t.sourceAddress sourceStepControl unitSize
    destinationAddress :=
      -- the channel's own store may have changed its destination control
      stepAddress t.destinationAddress (written.channel channel).destinationControl unitSize
    busCycles := busCycles }

/-- The loop of `execute_channel`: the bound is the channel's counter, read again for every unit. -/
def transferUnits (waitcnt : WaitcntPointer) (channel : Fin 4) (drive wordTransfer : Bool)
    (unit : U32) (t : Transfer) : Transfer :=
  if _ : unit < (t.system.channel channel).currentCount then
    transferUnits waitcnt channel drive wordTransfer (unit + 1)
      (transferUnit waitcnt channel drive wordTransfer unit t)
  else t
  termination_by 2 ^ 32 - unit.toNat
  decreasing_by bv_omega

/-- `execute_channel` up to the end of its loop. -/
def transferChannel (waitcnt : WaitcntPointer) (channel : Fin 4) (drive : Bool) (system : System)
    (busCycles : U32) : Transfer :=
  let state := system.channel channel
  transferUnits waitcnt channel drive state.transfer32bit 0
    ⟨system, state.currentSource, state.currentDestination, busCycles + 2⟩

/-- The channel takes the addresses its transfer reached, and its count is used up. -/
def Transfer.commit (t : Transfer) (channel : Fin 4) : System :=
  t.system.modifyChannel channel fun state =>
    { state with
      currentSource := t.sourceAddress
      currentDestination := t.destinationAddress
      currentCount := 0 }

/-- The completion interrupt of a channel. -/
def requestCompletion (channel : Fin 4) (system : System) : System :=
  if (system.channel channel).irqOnCompletion then system.request (dmaInterruptSource channel)
  else system

/-- The end of `execute_channel`: a repeating channel with a recurring start timing is armed again,
any other one is disabled. -/
def rearmOrDisable (channel : Fin 4) (state : DmaChannelState) : DmaChannelState :=
  if state.repeats ∧ state.startTiming ≠ .immediate then
    { state with
      currentCount := state.normalizedWordCount channel
      currentDestination :=
        if state.destinationControl = .incrementReload then state.destination
        else state.currentDestination }
  else { state with control := state.control &&& ~~~kDmaEnableFlag }

/-- `execute_channel`; `none` when the programmed source control is prohibited. -/
def executeChannel (waitcnt : WaitcntPointer) (channel : Fin 4) (drive : Bool) (system : System)
    (result : DmaRunResult) : Option (System × DmaRunResult) :=
  let state := system.channel channel
  if state.sourceControl = .incrementReload then none
  else
    let mask : U32 := ~~~((if state.transfer32bit then 4 else 2) - 1)
    let initialAlignedSource := effectiveSourceAddress channel state.currentSource &&& mask
    let initialAlignedDestination :=
      effectiveDestinationAddress channel state.currentDestination &&& mask
    let t := transferChannel waitcnt channel drive system result.busCycles
    let adjustment := dmaGamePakArbitrationAdjustment initialAlignedSource
      initialAlignedDestination (waitcnt t.system.devices)
    let requested := requestCompletion channel (t.commit channel)
    some (requested.modifyChannel channel (rearmOrDisable channel),
      { result with
        unitsTransferred := result.unitsTransferred + (t.system.channel channel).currentCount
        busCycles := applyDmaBusAdjustment t.busCycles adjustment })

/-- A channel that is executed is counted by its caller. -/
theorem executeChannel_count {waitcnt : WaitcntPointer} {channel : Fin 4} {drive : Bool}
    {system next : System} {result served : DmaRunResult}
    (h : executeChannel waitcnt channel drive system result = some (next, served)) :
    served.channelsExecuted = result.channelsExecuted ∧
      served.unsupportedRequest = result.unsupportedRequest := by
  unfold executeChannel at h
  dsimp only at h
  split at h
  · contradiction
  · obtain ⟨-, rfl⟩ := Prod.mk.inj (Option.some.inj h)
    exact ⟨rfl, rfl⟩

/-- What the loop of `run_trigger` threads through. -/
structure TriggerRun where
  system : System
  result : DmaRunResult
  immediateStillPending : Bool

/-- The channel is enabled with the start timing of the trigger. -/
def serviced (trigger : DmaTrigger) (channel : Fin 4) (system : System) : Bool :=
  (system.channel channel).enabled && (system.channel channel).startTiming = triggerTiming trigger

/-- The loop of `run_trigger` after a channel was executed. -/
def TriggerRun.executed (trigger : DmaTrigger) (channel : Fin 4) (run : TriggerRun)
    (system : System) (result : DmaRunResult) : TriggerRun where
  system := system
  result := { result with channelsExecuted := result.channelsExecuted + 1 }
  immediateStillPending :=
    run.immediateStillPending ||
      (trigger = .immediate && (system.channel channel).waitsImmediate)

/-- The loop of `run_trigger` over the channels; `false` when a channel was refused. -/
def runChannels (waitcnt : WaitcntPointer) (trigger : DmaTrigger) :
    List (Fin 4) → TriggerRun → Bool × TriggerRun
  | [], run => (true, run)
  | channel :: channels, run =>
      if !serviced trigger channel run.system then runChannels waitcnt trigger channels run
      else
        match executeChannel waitcnt channel (trigger ≠ .immediate) run.system run.result with
        | none => (false, { run with result := { run.result with unsupportedRequest := true } })
        | some (system, result) =>
            runChannels waitcnt trigger channels (run.executed trigger channel system result)

/-- `run_trigger`. -/
def runTrigger (waitcnt : WaitcntPointer) (trigger : DmaTrigger) (system : System) :
    System × DmaRunResult :=
  if trigger = .fifoA ∨ trigger = .fifoB then (system, ⟨0, 0, true, 0⟩)
  else
    let outcome := runChannels waitcnt trigger (List.finRange 4) ⟨system, ⟨0, 0, false, 0⟩, false⟩
    let run := outcome.2
    if trigger = .immediate then
      (run.system.modifyDma fun dma =>
        { dma with immediatePending := if outcome.1 then run.immediateStillPending else true },
        run.result)
    else (run.system, run.result)

/-- `run_immediate`. -/
def runImmediate (waitcnt : WaitcntPointer) (system : System) : System × DmaRunResult :=
  runTrigger waitcnt .immediate system

/-- `kSoundFifoWordsPerRequest`. -/
def kSoundFifoWordsPerRequest : Nat := 4

/-- What the loop of a sound FIFO burst threads through. -/
structure FifoBurst where
  system : System
  sourceAddress : U32
  busCycles : U32

/-- The loop of `execute_sound_fifo_channel` over the remaining words of the burst; `false` when a
word could not be read. -/
def burstWords (waitcnt : WaitcntPointer) (channel : Fin 4) (fifo : DirectSoundChannel) :
    Nat → FifoBurst → Bool × FifoBurst
  | 0, burst => (true, burst)
  | words + 1, burst =>
      let state := burst.system.channel channel
      let unit := BitVec.ofNat 32 (kSoundFifoWordsPerRequest - (words + 1))
      let alignedSource := effectiveSourceAddress channel burst.sourceAddress &&& ~~~0x3#32
      let busCycles := burst.busCycles + dmaTransferBusCycles alignedSource state.destination true
        (dmaStreamIsSequential unit state.sourceControl) false (waitcnt burst.system.devices)
      match burst.system.read32 ioCallbacks alignedSource with
      | none => (false, { burst with busCycles := busCycles })
      | some value =>
          let latched := burst.system.modifyChannel channel fun state =>
            { state with dataLatch := value }
          burstWords waitcnt channel fifo words
            { system :=
                { latched with
                  devices := { latched.devices with apu := latched.devices.apu.writeFifo fifo value } }
              sourceAddress := stepAddress burst.sourceAddress state.sourceControl 4
              busCycles := busCycles }

/-- The end of `execute_sound_fifo_channel`. -/
def finishFifo (channel : Fin 4) (state : DmaChannelState) : DmaChannelState :=
  if state.repeats then { state with currentCount := state.normalizedWordCount channel }
  else { state with currentCount := 0, control := state.control &&& ~~~kDmaEnableFlag }

/-- `execute_sound_fifo_channel`; the first component is `false` when the burst could not be
completed, in which case what was already moved stays moved. -/
def executeSoundFifoChannel (waitcnt : WaitcntPointer) (channel : Fin 4)
    (fifo : DirectSoundChannel) (system : System) (result : DmaRunResult) :
    Bool × System × DmaRunResult :=
  let state := system.channel channel
  if state.sourceControl = .incrementReload then (false, system, result)
  else
    match burstWords waitcnt channel fifo kSoundFifoWordsPerRequest
        ⟨system, state.currentSource, result.busCycles⟩ with
    | (false, burst) => (false, burst.system, { result with busCycles := burst.busCycles })
    | (true, burst) =>
        let moved := burst.system.modifyChannel channel fun state =>
          { state with
            currentSource := burst.sourceAddress
            currentDestination := state.destination }
        (true, (requestCompletion channel moved).modifyChannel channel (finishFifo channel),
          { result with
            unitsTransferred :=
              result.unitsTransferred + BitVec.ofNat 32 kSoundFifoWordsPerRequest
            busCycles := burst.busCycles })

/-- `trigger_fifo`. -/
def triggerFifo (trigger : DmaTrigger) : DirectSoundChannel := if trigger = .fifoB then .b else .a

/-- `trigger_fifo_address`. -/
def triggerFifoAddress (trigger : DmaTrigger) : U32 :=
  if trigger = .fifoB then kFifoBAddress else kFifoAAddress

/-- The loop of `run_sound_fifo` over the channels. -/
def runFifoChannels (waitcnt : WaitcntPointer) (trigger : DmaTrigger) :
    List (Fin 4) → System → DmaRunResult → System × DmaRunResult
  | [], system, result => (system, result)
  | channel :: channels, system, result =>
      let state := system.channel channel
      if !state.enabled ∨ state.startTiming ≠ .special ∨
          state.destination ≠ triggerFifoAddress trigger then
        runFifoChannels waitcnt trigger channels system result
      else
        match executeSoundFifoChannel waitcnt channel (triggerFifo trigger) system result with
        | (false, system, result) => (system, { result with unsupportedRequest := true })
        | (true, system, result) =>
            runFifoChannels waitcnt trigger channels system
              { result with channelsExecuted := result.channelsExecuted + 1 }

/-- `run_sound_fifo`. -/
def runSoundFifo (waitcnt : WaitcntPointer) (trigger : DmaTrigger) (system : System) :
    System × DmaRunResult :=
  if trigger ≠ .fifoA ∧ trigger ≠ .fifoB then (system, ⟨0, 0, true, 0⟩)
  else runFifoChannels waitcnt trigger [1, 2] system ⟨0, 0, false, 0⟩

end Gba.Core
