import Gba.Core.CpuStep

/-!
# Timing of data accesses and branches

The stateless helpers of `core_scheduler.cpp`: which data access an instruction makes first, how
many cycles pass before an access to an I/O register takes effect, and what refilling the pipeline
costs. Most of the constants are fitted to traces, so that the functions follow the source case by
case.
-/

namespace Gba.Core

def kGamePakSequentialBoundary : U32 := 0x20000#32

def kGamePakInlineLiteralWindowBytes : U32 := 256#32

def kPrefetchBufferCapacityHalfwords : U8 := 8#8

def kTimerIoBase : U32 := 0x04000100#32

def kTimerIoEnd : U32 := 0x04000110#32

def kDispstatIo : U32 := 0x04000004#32

def kInterruptFlagIo : U32 := 0x04000202#32

def kTimerIoDataPhaseCycles : U32 := 1#32

def kTimerIoLoadDataPhaseCycles : U32 := 3#32

def kDispstatIoLoadDataPhaseCycles : U32 := 2#32

def kDispstatIoLoadCompletionCycles : U32 := 3#32

def kDispstatHblankTransitionStallCycles : U32 := 1#32

def kDispstatLineRolloverStallCycles : U32 := 3#32

def kDispstatLateHblankSetStallCycles : U32 := 3#32

def kDispstatHblankClearTimerSampleCycle : U32 := 14#32

def kInterruptFlagStoreDataPhaseCycles : U32 := 2#32

def kSpacedTimerIoDispatchGapCycles : U32 := 16#32

def kTightChainedSlowTimerIoLoadExtraCycles : U32 := 0#32

def kSpacedSlowTimerIoLoadExtraCycles : U32 := 0#32

def kSpacedSlowTimerNearReloadIoLoadExtraCycles : U32 := 16#32

def kSpacedSlowTimerPostReloadIoLoadExtraCycles : U32 := 8#32

def kSpacedSlowTimerAlignedReloadIoLoadExtraCycles : U32 := 8#32

/-- `InterruptController::enabled`. -/
def InterruptController.enabled (c : InterruptController) (source : InterruptSource) : Bool :=
  anySet c.interruptEnable (interruptBit source)

/-! ## The first data access -/

/-- `DataAccessTimingProbe`. -/
structure DataAccessTimingProbe where
  address : U32
  width : AccessWidth
  load : Bool
  deriving DecidableEq

/-- `timer_io_address`. -/
def timerIoAddress (address : U32) : Bool := kTimerIoBase ≤ address && address < kTimerIoEnd

/-- `access_width_bytes`. -/
def accessWidthBytes : AccessWidth → U8
  | .byte => 1
  | .halfword => 2
  | .word => 4

/-- `first_arm_data_access_for_timing`. -/
def firstArmDataAccessForTiming (cpu : Arm7tdmi) (instruction : U32) :
    Option DataAccessTimingProbe :=
  let transferAddress (rn : Fin 16) (offset : U32) (preIndex up : Bool) : U32 :=
    let base := cpu.armVisibleRegisterValue rn
    if preIndex then offsetTransferAddress base offset up else base
  if canDecodeBlockDataTransfer instruction then
    let decoded := decodeBlockDataTransfer instruction
    if !cpu.conditionPassed decoded.condition then none
    else if decoded.load && decoded.writeBack &&
        registerListContains decoded.registerList decoded.rn then none
    else
      some ⟨(blockTransferAddress (cpu.registers decoded.rn)
        (countRegisters decoded.registerList) decoded.preIndex decoded.up).first, .word,
        decoded.load⟩
  else if canDecodeHalfwordDataTransfer instruction then
    let decoded := cpu.decodeHalfword instruction
    if !cpu.conditionPassed decoded.condition then none
    else if !supportedTransferAddressing decoded.preIndex decoded.writeBack then none
    else if transferNeedsWriteBack decoded.preIndex decoded.writeBack && decoded.load &&
        decoded.rn = decoded.rd then none
    else if !decoded.load && (decoded.signedTransfer || !decoded.halfword) then none
    else
      some ⟨transferAddress decoded.rn decoded.offset decoded.preIndex decoded.up,
        if decoded.halfword then .halfword else .byte, decoded.load⟩
  else if canDecodeSingleDataTransfer instruction then
    let decoded := cpu.decodeSingle instruction
    if !cpu.conditionPassed decoded.condition then none
    else if !supportedTransferAddressing decoded.preIndex decoded.writeBack then none
    else if transferNeedsWriteBack decoded.preIndex decoded.writeBack && decoded.load &&
        decoded.rn = decoded.rd then none
    else
      some ⟨transferAddress decoded.rn decoded.offset decoded.preIndex decoded.up,
        if decoded.byte then .byte else .word, decoded.load⟩
  else none

/-- `thumb_data_timing_probe_candidate`. -/
def thumbDataTimingProbeCandidate (instruction : U16) : Bool :=
  match (instruction >>> 12).toNat with
  | 0x4 => instruction.extractLsb' 11 5 = 0x9#5
  | 0x5 | 0x6 | 0x7 | 0x8 | 0x9 => true
  | 0xC => instruction.extractLsb' 0 8 ≠ 0#8
  | _ => false

/-- `first_thumb_data_access_for_timing`. -/
def firstThumbDataAccessForTiming (cpu : Arm7tdmi) (instruction : U16) :
    Option DataAccessTimingProbe :=
  if !thumbDataTimingProbeCandidate instruction then none
  else if canDecodeThumbBlockTransfer instruction then
    let decoded := decodeThumbBlockTransfer instruction
    some ⟨cpu.registers decoded.rb, .word, decoded.load⟩
  else if !canDecodeThumbMemoryTransfer instruction then none
  else
    let decoded := decodeThumbMemoryTransfer instruction
    if !decoded.load && (decoded.kind = .signedByte || decoded.kind = .signedHalfword) then none
    else
      some ⟨cpu.thumbTransferAddress decoded, thumbTransferAccessWidth decoded.kind, decoded.load⟩

/-! ## Classes of instructions -/

/-- `arm_test_or_compare_instruction`. -/
def armTestOrCompareInstruction (instruction : U32) : Bool :=
  let opcode := instruction.extractLsb' 21 4
  instruction.extractLsb' 26 2 = 0#2 && 0x8#4 ≤ opcode && opcode ≤ 0xB#4

/-- `thumb_test_or_compare_instruction`. -/
def thumbTestOrCompareInstruction (instruction : U16) : Bool :=
  let aluOpcode := instruction.extractLsb' 6 4
  if instruction.extractLsb' 11 5 = 0x05#5 then true
  else if instruction.extractLsb' 10 6 = 0x11#6 && instruction.extractLsb' 8 2 = 0x1#2 then true
  else
    instruction.extractLsb' 10 6 = 0x10#6 &&
      (aluOpcode = 0x8#4 || aluOpcode = 0xA#4 || aluOpcode = 0xB#4)

/-- `arm_immediate_data_processing_without_pc_write`. -/
def armImmediateDataProcessingWithoutPcWrite (instruction : U32) : Bool :=
  instruction.extractLsb' 25 3 = 0x1#3 && registerField instruction 12 ≠ Arm7tdmi.kPc

/-- `simple_arm_no_data_instruction`. -/
def simpleArmNoDataInstruction (instruction : U32) : Bool :=
  armImmediateDataProcessingWithoutPcWrite instruction

/-- `simple_thumb_alu_without_pc_write`. -/
def simpleThumbAluWithoutPcWrite (instruction : U16) : Bool :=
  instruction.extractLsb' 13 3 ≤ 0x1#3 || instruction.extractLsb' 10 6 = 0x10#6

/-! ## Cycles before an access -/

/-- `access_covers_address`. -/
def accessCoversAddress (address : U32) (width : AccessWidth) (target : U32) : Bool :=
  address ≤ target && target < address + (accessWidthBytes width).setWidth 32

/-- `interrupt_flag_io_address`. -/
def interruptFlagIoAddress (address : U32) (width : AccessWidth) : Bool :=
  accessCoversAddress address width kInterruptFlagIo

/-- `io_store_pre_access_cycles`, which covers loads too. -/
def ioStorePreAccessCycles (access : DataAccessTimingProbe) : U32 :=
  if access.load then
    if accessCoversAddress access.address access.width kDispstatIo then
      kDispstatIoLoadDataPhaseCycles
    else if timerIoAddress access.address && access.width = .word then kTimerIoLoadDataPhaseCycles
    else 0
  else if timerIoAddress access.address then kTimerIoDataPhaseCycles
  else if interruptFlagIoAddress access.address access.width then
    kInterruptFlagStoreDataPhaseCycles
  else 0

/-- The halfword loads from timer registers by a program that polls for the horizontal blank. -/
def polledTimerLoad (access : DataAccessTimingProbe) (interrupts : InterruptController) : Bool :=
  access.load && access.width = .halfword && timerIoAddress access.address &&
    !interrupts.masterEnabled && interrupts.enabled .hblank

/-- `late_hblank_timer_load_samples_on_data_phase`. -/
def lateHblankTimerLoadSamplesOnDataPhase (access : DataAccessTimingProbe) (ppu : PpuTiming)
    (interrupts : InterruptController) : Bool :=
  let start : U32 := ppu.lineCycle.setWidth 32
  let flagCycle : U32 := kHblankFlagCycles.setWidth 32
  polledTimerLoad access interrupts &&
    (ppu.vblank || ppu.hblank ||
      start < flagCycle && flagCycle ≤ start + kTimerIoLoadDataPhaseCycles)

/-- `dispstat_hblank_clear_timer_load_pre_access_cycles`. -/
def dispstatHblankClearTimerLoadPreAccessCycles (access : DataAccessTimingProbe)
    (ppu : PpuTiming) (interrupts : InterruptController) : Option U32 :=
  let start : U32 := ppu.lineCycle.setWidth 32
  if !polledTimerLoad access interrupts || !interrupts.requested .hblank || !ppu.vblank ||
      ppu.hblank then none
  else if kDispstatHblankClearTimerSampleCycle ≤ start then none
  else some (kDispstatHblankClearTimerSampleCycle - start)

/-- `kLongHblankPollingGapCycles`. -/
def kLongHblankPollingGapCycles : U32 :=
  kHblankFlagCycles.setWidth 32 - kDispstatIoLoadCompletionCycles -
    kDispstatHblankTransitionStallCycles - kTimerIoDataPhaseCycles

/-- `long_hblank_poll_timer_load_samples_before_completion`. -/
def longHblankPollTimerLoadSamplesBeforeCompletion (access : DataAccessTimingProbe)
    (ppu : PpuTiming) (interrupts : InterruptController) (timerIoGapCycles : U32) : Bool :=
  polledTimerLoad access interrupts && ppu.hblank && kLongHblankPollingGapCycles ≤ timerIoGapCycles

/-- A load from DISPSTAT that waits. -/
def waitsForDispstat (access : DataAccessTimingProbe) (preAccessCycles : U32) : Bool :=
  access.load && accessCoversAddress access.address access.width kDispstatIo &&
    preAccessCycles ≠ 0

/-- `adjust_dispstat_hblank_set_pre_access_cycles`. -/
def adjustDispstatHblankSetPreAccessCycles (access : DataAccessTimingProbe) (ppu : PpuTiming)
    (preAccessCycles : U32) : U32 :=
  let start : U32 := ppu.lineCycle.setWidth 32
  let flagCycle : U32 := kHblankFlagCycles.setWidth 32
  let dataSample := start + preAccessCycles
  if !waitsForDispstat access preAccessCycles then preAccessCycles
  else if start < flagCycle ∧ dataSample = flagCycle then 0
  else if dataSample < flagCycle ∧ flagCycle ≤ start + kDispstatIoLoadCompletionCycles then
    kDispstatIoLoadCompletionCycles
  else preAccessCycles

/-- `dispstat_status_transition_stall_cycles`. -/
def dispstatStatusTransitionStallCycles (access : DataAccessTimingProbe) (ppu : PpuTiming)
    (interrupts : InterruptController) (preAccessCycles : U32) : U32 :=
  let start : U32 := ppu.lineCycle.setWidth 32
  let flagCycle : U32 := kHblankFlagCycles.setWidth 32
  let visibleCycles : U32 := kPpuVisibleCycles.setWidth 32
  let finish := start + preAccessCycles
  let maskedPendingHblank :=
    !interrupts.masterEnabled && interrupts.enabled .hblank && interrupts.requested .hblank
  if !waitsForDispstat access preAccessCycles then 0
  else if maskedPendingHblank ∧
      flagCycle + kDispstatIoLoadCompletionCycles + kDispstatHblankTransitionStallCycles < start ∧
      start ≤ flagCycle + kDispstatIoLoadCompletionCycles + kDispstatLateHblankSetStallCycles ∧
      ppu.hblank then kDispstatLateHblankSetStallCycles
  else if kCyclesPerLine.setWidth 32 ≤ finish then kDispstatLineRolloverStallCycles
  else if start < flagCycle ∧ flagCycle ≤ finish then kDispstatHblankTransitionStallCycles
  else if start ≤ visibleCycles ∧ visibleCycles ≤ finish then 1
  else 0

/-- `crosses_ppu_status_transition`. -/
def crossesPpuStatusTransition (start cycles : U32) : Bool :=
  let visibleCycles : U32 := kPpuVisibleCycles.setWidth 32
  let flagCycle : U32 := kHblankFlagCycles.setWidth 32
  let finish := start + cycles
  cycles ≠ 0 &&
    (start < visibleCycles && visibleCycles ≤ finish || start < flagCycle && flagCycle ≤ finish ||
      kCyclesPerLine.setWidth 32 ≤ finish)

/-! ## Loads from a slow timer -/

/-- What the scheduler knows about an access to a timer register. -/
structure TimerIoAccess where
  probe : Option DataAccessTimingProbe
  timerIo : Bool
  spaced : Bool
  gapCycles : U32
  returnLatencyPending : Bool

/-- The access is a load from a timer register. -/
def TimerIoAccess.timerLoad (access : TimerIoAccess) : Bool :=
  access.probe.any (·.load) && access.timerIo

/-- Timer 0 counts cycles and raises interrupts. -/
def timer0CountsToIrq (timers : Timers) : Bool :=
  let timer0 := timers.timers 0
  timer0.enabled && !timer0.countUp 0 && timer0.irqEnabled

/-- The cycles until timer 0 overflows, given those until its next tick. -/
def cyclesUntilTimer0Overflow (timers : Timers) (cyclesUntilTick : U32) : U64 :=
  let timer0 := timers.timers 0
  let ticksToOverflow : U32 := 0x10000#32 - timer0.counter.setWidth 32
  cyclesUntilTick.setWidth 64 +
    (ticksToOverflow - 1).setWidth 64 * timer0.prescalerDivisor.setWidth 64

/-- The end of `adjust_slow_timer_load_pre_access_cycles`: the windows after `baseCycles` in which
the access waits for the overflow. -/
def waitsForOverflow (baseCycles : U32) (tight spaced chainActive : Bool) (reload divisor : U16)
    (cyclesUntilOverflow : U64) : Bool :=
  let within (extra : U32) : Bool :=
    cyclesUntilOverflow ≤ (baseCycles + extra).setWidth 64
  let before (extra : U32) : Bool :=
    cyclesUntilOverflow < (baseCycles + extra).setWidth 64
  baseCycles.setWidth 64 < cyclesUntilOverflow &&
    (tight && chainActive && within kTightChainedSlowTimerIoLoadExtraCycles ||
      spaced && chainActive &&
        (within kSpacedSlowTimerIoLoadExtraCycles ||
          reload = 0xFFEE#16 && before kSpacedSlowTimerNearReloadIoLoadExtraCycles ||
          reload = 0xFFED#16 && before kSpacedSlowTimerPostReloadIoLoadExtraCycles ||
          reload = 0xFFF0#16 && 256#16 ≤ divisor &&
            before kSpacedSlowTimerAlignedReloadIoLoadExtraCycles))

/-- `adjust_slow_timer_load_pre_access_cycles`. -/
def adjustSlowTimerLoadPreAccessCycles (baseCycles : U32) (access : TimerIoAccess)
    (chainActive timer0IrqRequested : Bool) (timers : Timers) : U32 :=
  let timer0 := timers.timers 0
  let tight : Bool := access.gapCycles ≤ kLooseTimerIoIrqDispatchGapCycles
  let cyclesUntilTick := timers.cyclesUntilNextPrescalerTick 0
  let cyclesUntilOverflow := cyclesUntilTimer0Overflow timers cyclesUntilTick
  let postEventLatency : U8 :=
    if chainActive then kAutoIrqSlowTimerChainedPostHleReturnLatencyCycles
    else kAutoIrqPostHleReturnLatencyCycles
  let matureCycles := cyclesUntilOverflow + postEventLatency.setWidth 64
  let matured : U32 :=
    (if baseCycles.setWidth 64 < matureCycles then matureCycles
      else baseCycles.setWidth 64).setWidth 32
  if baseCycles = 0 ∨ !access.timerLoad ∨ !access.returnLatencyPending ∨ timer0IrqRequested ∨
      !timer0CountsToIrq timers then baseCycles
  else if !access.spaced && !tight then baseCycles
  else if timer0.prescalerDivisor ≤ 1#16 then baseCycles
  else if cyclesUntilTick = 0 then baseCycles
  else if cyclesUntilOverflow ≤ baseCycles.setWidth 64 then matured
  else if tight ∧ !chainActive ∧ matureCycles ≤ (baseCycles + access.gapCycles).setWidth 64 then
    matured
  else if waitsForOverflow baseCycles tight access.spaced chainActive timer0.reload
      timer0.prescalerDivisor cyclesUntilOverflow then cyclesUntilOverflow.setWidth 32
  else baseCycles

/-- `should_replay_slow_timer_load_after_irq`. -/
def shouldReplaySlowTimerLoadAfterIrq (access : TimerIoAccess) (postReturnArmed
    timer0IrqRequested : Bool) (timers : Timers) : Bool :=
  let timer0 := timers.timers 0
  access.timerLoad && access.spaced && postReturnArmed && timer0IrqRequested &&
    timer0CountsToIrq timers && 1#16 < timer0.prescalerDivisor && timer0.reload = 0xFFED#16

/-- `should_defer_slow_timer_load_irq_until_after_access`. -/
def shouldDeferSlowTimerLoadIrqUntilAfterAccess (access : TimerIoAccess) (preAccessCycles : U32)
    (chainActive timer0IrqRequested : Bool) (timers : Timers) : Bool :=
  let timer0 := timers.timers 0
  let divisor := timer0.prescalerDivisor
  let enablePhase := timer0.lastEnablePhase &&& 0x7#16
  access.timerLoad && access.spaced && access.returnLatencyPending && chainActive &&
    timer0IrqRequested && timer0CountsToIrq timers && 2#16 ≤ enablePhase &&
    enablePhase ≤ 4#16 &&
    if timer0.reload = 0xFFEE#16 then
      divisor = 256#16 || divisor = 1024#16 && 5#32 ≤ preAccessCycles
    else timer0.reload = 0xFFED#16 && divisor = 256#16 && 7#32 ≤ preAccessCycles

/-! ## The cartridge bus -/

/-- `game_pak_data_access`. -/
def gamePakDataAccess (address : U32) : Bool :=
  let region := (classify address).region
  region = .gamePakRom || region = .gamePakSave

/-- `non_word_game_pak_data_access`. -/
def nonWordGamePakDataAccess (address : U32) (width : AccessWidth) : Bool :=
  gamePakDataAccess address && width ≠ .word

/-- `game_pak_data_access_disturbs_prefetch`. -/
def gamePakDataAccessDisturbsPrefetch (dataAddress fetchAddress : U32) : Bool :=
  gamePakDataAccess dataAddress &&
    (dataAddress < fetchAddress || kGamePakInlineLiteralWindowBytes < dataAddress - fetchAddress)

/-- `game_pak_rom_address`. -/
def gamePakRomAddress (address : U32) : Bool :=
  0x08000000#32 ≤ address && address ≤ 0x0DFFFFFF#32

/-- Prefetching is enabled, by a wait-state control that exists. -/
def prefetches (waitcnt : Option WaitStateControl) : Bool := waitcnt.any (·.prefetchEnabled)

/-- The region of an address. -/
def regionOf (address : U32) : Region := (classify address).region

/-- `should_charge_prefetch_execute_bubble`. -/
def shouldChargePrefetchExecuteBubble (fetchAddress : U32) (waitcnt : Option WaitStateControl)
    (step : CoreSchedulerStepResult) (pcAdvanced prefetchHit : Bool) (fetchWidthBytes : U8)
    (remainingPrefetchHalfwords : U8) : Bool :=
  prefetches waitcnt && pcAdvanced && step.cpuStep.status = .executed &&
    step.dataAccess.isNone &&
    !(fetchWidthBytes = 2 && (!prefetchHit || remainingPrefetchHalfwords = 0)) &&
    gamePakRomAddress fetchAddress

/-- `should_overlap_thumb_internal_data_load`. -/
def shouldOverlapThumbInternalDataLoad (fetchAddress : U32) (waitcnt : Option WaitStateControl)
    (cpu : Arm7tdmi) (instruction : U16) (fetchCycles : U32) : Bool :=
  prefetches waitcnt && fetchCycles ≠ 0 && regionOf fetchAddress = .gamePakRom &&
    (firstThumbDataAccessForTiming cpu instruction).any fun access =>
      access.load && isWorkRam (regionOf access.address)

/-- `should_suppress_next_thumb_prefetch_execute_bubble`. -/
def shouldSuppressNextThumbPrefetchExecuteBubble (fetchAddress : U32)
    (waitcnt : Option WaitStateControl) (step : CoreSchedulerStepResult)
    (pcAdvanced prefetchEnabled : Bool) (fetchCycles : U32) : Bool :=
  prefetches waitcnt && prefetchEnabled && fetchCycles = 0 && pcAdvanced &&
    step.cpuStep.status = .executed && regionOf fetchAddress = .gamePakRom &&
    step.dataAccess.any fun access => access.load && isWorkRam (regionOf access.address)

/-! ## Multiplications in ROM -/

/-- `nonprefetch_multiply_rom_recovery_cycles`. -/
def nonprefetchMultiplyRomRecoveryCycles (timing : MemoryAccessTiming) : U32 :=
  (if 2 < timing.nonsequential then timing.nonsequential.setWidth 32 - 2 else 0) +
    if timing.sequential = 1 then 1 else 0

/-- `prefetched_arm_multiply_cycles`. -/
def prefetchedArmMultiplyCycles (iterations : U32) (longMultiply accumulate : Bool)
    (timing : MemoryAccessTiming) : U32 :=
  if timing.sequential ≠ 1 then if longMultiply ∧ accumulate ∧ iterations = 4 then 2 else 1
  else if !longMultiply then if !accumulate ∧ iterations = 4 then 2 else 1
  else if accumulate then iterations
  else if 1 < iterations then iterations - 1
  else 1

/-- `arm_rom_multiply_elapsed_override`. -/
def armRomMultiplyElapsedOverride (cpu : Arm7tdmi) (instruction fetchAddress : U32) :
    Option WaitStateControl → Option ArmElapsedCycleEstimate
  | none => none
  | some waitcnt =>
      let romTiming := timing fetchAddress .word waitcnt
      let cycles (iterations : U32) (longMultiply accumulate : Bool) (baseCycles : U32) : U32 :=
        if waitcnt.prefetchEnabled then
          prefetchedArmMultiplyCycles iterations longMultiply accumulate romTiming
        else baseCycles + nonprefetchMultiplyRomRecoveryCycles romTiming
      if regionOf fetchAddress ≠ .gamePakRom then none
      else if canDecodeMultiplyLong instruction then
        let decoded := decodeMultiplyLong instruction
        let multiplier := cpu.registers decoded.rs
        let iterations :=
          if decoded.signedMultiply then signedMultiplyIterations multiplier
          else unsignedMultiplyIterations multiplier
        some ⟨cycles iterations true decoded.accumulate
          (iterations + if decoded.accumulate then 3 else 2), true, false⟩
      else if !canDecodeMultiply instruction then none
      else
        let decoded := decodeMultiply instruction
        let iterations := signedMultiplyIterations (cpu.registers decoded.rs)
        some ⟨cycles iterations false decoded.accumulate
          (iterations + if decoded.accumulate then 2 else 1), true, false⟩

/-- `thumb_rom_multiply_elapsed_override`. -/
def thumbRomMultiplyElapsedOverride (cpu : Arm7tdmi) (instruction : U16) (fetchAddress : U32) :
    Option WaitStateControl → Option ArmElapsedCycleEstimate
  | none => none
  | some waitcnt =>
      let decoded := decodeThumbAlu instruction
      let romTiming := timing fetchAddress .halfword waitcnt
      let iterations := signedMultiplyIterations (cpu.registers decoded.rd)
      if regionOf fetchAddress ≠ .gamePakRom ∨ !canDecodeThumbAlu instruction ∨
          decoded.opcode ≠ .mul then none
      else if waitcnt.prefetchEnabled then
        some ⟨if romTiming.sequential = 1 then iterations
          else if 1 < iterations then iterations - 1 else 1, true, false⟩
      else
        some ⟨iterations + 1 + nonprefetchMultiplyRomRecoveryCycles romTiming, true, false⟩

/-! ## Pipeline refills -/

/-- `arm_instruction_refills_pipeline`. -/
def armInstructionRefillsPipeline (instruction : U32) : Bool :=
  canDecodeBranch instruction || canDecodeBranchExchange instruction

/-- The Thumb `BX`. -/
def isThumbBranchExchange (instruction : U16) : Bool :=
  canDecodeThumbHighRegister instruction && (decodeThumbHighRegister instruction).opcode = .bx

/-- `thumb_instruction_refills_pipeline`. -/
def thumbInstructionRefillsPipeline (instruction : U16) : Bool :=
  canDecodeThumbUnconditionalBranch instruction || canDecodeThumbConditionalBranch instruction ||
    canDecodeThumbLongBranchLink instruction || isThumbBranchExchange instruction

/-- `arm_branch_refill_cycles`. -/
def armBranchRefillCycles (targetAddress : U32) (waitcnt : Option WaitStateControl) : U32 :=
  match regionOf targetAddress, waitcnt with
  | .iwram, _ => 0
  | .ewram, _ => 10
  | .gamePakRom, some waitcnt =>
      if (timing targetAddress .word waitcnt).sequential ≤ 1 then
        if waitcnt.prefetchEnabled then 7 else 6
      else if waitcnt.prefetchEnabled then 11
      else 10
  | _, _ => 0

/-- `thumb_branch_refill_cycles`. -/
def thumbBranchRefillCycles (targetAddress : U32) (waitcnt : Option WaitStateControl) : U32 :=
  match regionOf targetAddress, waitcnt with
  | .iwram, _ => 2
  | .ewram, _ => 6
  | .gamePakRom, some waitcnt =>
      if (timing targetAddress .halfword waitcnt).sequential ≤ 1 then 4 else 6
  | _, _ => 0

/-- What an exchange that goes backwards in ROM costs more while prefetching. -/
def backwardExchangeCycles (fetchAddress targetAddress : U32) (width : AccessWidth) :
    Option WaitStateControl → U32
  | none => 0
  | some waitcnt =>
      let romTiming := timing targetAddress width waitcnt
      if regionOf fetchAddress = .gamePakRom ∧ regionOf targetAddress = .gamePakRom ∧
          waitcnt.prefetchEnabled ∧ targetAddress < fetchAddress then
        if romTiming.sequential ≤ 1 then if 4 ≤ romTiming.nonsequential then 4 else 3
        else if 4 ≤ romTiming.nonsequential then 3
        else 2
      else 0

/-- `arm_branch_exchange_refill_cycles`. -/
def armBranchExchangeRefillCycles (fetchAddress targetAddress : U32)
    (waitcnt : Option WaitStateControl) : U32 :=
  match waitcnt.filter fun waitcnt =>
      regionOf fetchAddress = .iwram && regionOf targetAddress = .gamePakRom &&
        !waitcnt.prefetchEnabled with
  | some waitcnt => (timing targetAddress .word waitcnt).nonsequential.setWidth 32
  | none =>
      armBranchRefillCycles targetAddress waitcnt +
        backwardExchangeCycles fetchAddress targetAddress .word waitcnt

/-- `thumb_branch_exchange_refill_cycles`. -/
def thumbBranchExchangeRefillCycles (fetchAddress targetAddress : U32)
    (waitcnt : Option WaitStateControl) : U32 :=
  if regionOf fetchAddress = .gamePakRom ∧ regionOf targetAddress = .ewram ∧
      !prefetches waitcnt then 1
  else
    thumbBranchRefillCycles targetAddress waitcnt +
      backwardExchangeCycles fetchAddress targetAddress .halfword waitcnt

/-- `branch_exchange_seeds_fast_prefetch`. -/
def branchExchangeSeedsFastPrefetch (fetchAddress targetAddress : U32) :
    Option WaitStateControl → Bool
  | none => false
  | some waitcnt =>
      waitcnt.prefetchEnabled && regionOf fetchAddress = .gamePakRom &&
        regionOf targetAddress = .gamePakRom && targetAddress < fetchAddress &&
        (timing targetAddress .halfword waitcnt).sequential ≤ 1

end Gba.Core
