import Gba.Core.ThumbExecute
import Gba.Core.WaitStates

/-!
# Cycle estimates

The cycles that `arm7tdmi.cpp` charges for an instruction. An ARM instruction gets its sequential,
nonsequential and internal cycles from its class, and the wait states of the memory it accesses
from the address; a Thumb instruction costs one cycle unless it accesses memory or multiplies. A
few block loads have fitted counts of their own.
-/

namespace Gba.Core

/-- `ArmCycleEstimate`. -/
structure ArmCycleEstimate where
  sequential : U8
  nonsequential : U8
  internal : U8
  dataDependent : Bool

/-- `ArmElapsedCycleEstimate`. -/
structure ArmElapsedCycleEstimate where
  cycles : U32
  dataDependent : Bool
  memoryTimingApplied : Bool

def kArmSkippedConditionElapsedCycles : U32 := 0#32

def kThumbSkippedConditionElapsedCycles : U32 := 1#32

def kSeedThumbElapsedCycles : U32 := 1#32

def kOamMirrorBankStart : U32 := 0x07000000#32

def kGamePakRomStart : U32 := 0x08000000#32

def kMirroredOamArmPrefetchFastRomCycles : U32 := 5#32

def kMirroredOamArmPrefetchSlowRomCycles : U32 := 3#32

def kMirroredOamThumbPrefetchFastRomCycles : U32 := 7#32

def kMirroredOamThumbPrefetchSlowRomCycles : U32 := 6#32

/-! ## Cycles by class -/

/-- `data_processing_cycle_estimate`. -/
def dataProcessingCycleEstimate (instruction : U32) : ArmCycleEstimate :=
  let writesPc : Bool := registerField instruction 12 = Arm7tdmi.kPc
  ⟨if writesPc then 2 else 1, if writesPc then 1 else 0,
    if isRegisterShift instruction then 1 else 0, false⟩

/-- `branch_cycle_estimate`. -/
def branchCycleEstimate : ArmCycleEstimate := ⟨2, 1, 0, false⟩

/-- `single_transfer_cycle_estimate`. -/
def singleTransferCycleEstimate (instruction : U32) : ArmCycleEstimate :=
  let load := instruction.getLsbD 20
  let loadsPc : Bool := load && registerField instruction 12 = Arm7tdmi.kPc
  if load then ⟨if loadsPc then 2 else 1, if loadsPc then 2 else 1, 1, false⟩ else ⟨1, 1, 0, false⟩

/-- `block_transfer_cycle_estimate`. -/
def blockTransferCycleEstimate (instruction : U32) : ArmCycleEstimate :=
  let registerList : U16 := instruction.extractLsb' 0 16
  let registerCount : U8 := BitVec.ofNat 8 (countRegisters registerList)
  let load := instruction.getLsbD 20
  let loadsPc : Bool := load && registerListContains registerList Arm7tdmi.kPc
  if load then
    ⟨registerCount + if loadsPc then 1 else 0, 1 + if loadsPc then 1 else 0, 1, false⟩
  else ⟨registerCount - 1, 2, 0, false⟩

/-- `multiply_cycle_estimate`. -/
def multiplyCycleEstimate (accumulateOrLong longAccumulate : Bool) : ArmCycleEstimate :=
  ⟨1, 0, if accumulateOrLong then (if longAccumulate then 2 else 1) else 0, true⟩

/-- `Arm7tdmi::estimate_arm_cycles`. -/
def estimateArmCycles (instruction : U32) : Option ArmCycleEstimate :=
  let accumulate := instruction.getLsbD 21
  if canDecodeSoftwareInterrupt instruction then some branchCycleEstimate
  else if canDecodeSwap instruction then some ⟨0, 2, 1, false⟩
  else if canDecodePsrTransfer instruction then some ⟨1, 0, 0, false⟩
  else if canDecodeBranch instruction then some branchCycleEstimate
  else if canDecodeBranchExchange instruction then some branchCycleEstimate
  else if canDecodeMultiplyLong instruction then some (multiplyCycleEstimate true accumulate)
  else if canDecodeMultiply instruction then some (multiplyCycleEstimate accumulate false)
  else if canDecodeBlockDataTransfer instruction then some (blockTransferCycleEstimate instruction)
  else if canDecodeSingleDataTransfer instruction || canDecodeHalfwordDataTransfer instruction then
    some (singleTransferCycleEstimate instruction)
  else if canDecodeDataProcessingImmediate instruction ||
      canDecodeDataProcessingRegisterShift instruction then
    some (dataProcessingCycleEstimate instruction)
  else none

/-- `signed_multiply_iterations`. -/
def signedMultiplyIterations (value : U32) : U32 :=
  let signBits (mask : U32) : Bool := value &&& mask = 0 || value &&& mask = mask
  if signBits 0xFFFFFF00#32 then 1
  else if signBits 0xFFFF0000#32 then 2
  else if signBits 0xFF000000#32 then 3
  else 4

/-- `unsigned_multiply_iterations`. -/
def unsignedMultiplyIterations (value : U32) : U32 :=
  if value &&& 0xFFFFFF00#32 = 0 then 1
  else if value &&& 0xFFFF0000#32 = 0 then 2
  else if value &&& 0xFF000000#32 = 0 then 3
  else 4

/-! ## Wait states -/

/-- `can_estimate_memory_elapsed_cycles`. -/
def canEstimateMemoryElapsedCycles (instruction : U32) : Bool :=
  canDecodeSingleDataTransfer instruction || canDecodeHalfwordDataTransfer instruction ||
    canDecodeBlockDataTransfer instruction || canDecodeSwap instruction

/-- `transfer_access_width`. -/
def transferAccessWidth (instruction : U32) : AccessWidth :=
  let byteOrWord : AccessWidth := if instruction.getLsbD 22 then .byte else .word
  if canDecodeSwap instruction then byteOrWord
  else if canDecodeBlockDataTransfer instruction then .word
  else if canDecodeSingleDataTransfer instruction then byteOrWord
  else if canDecodeHalfwordDataTransfer instruction then
    if instruction.extractLsb' 5 2 = 0x2#2 then .byte else .halfword
  else .word

/-- `thumb_transfer_access_width`. -/
def thumbTransferAccessWidth : ThumbMemoryTransferKind → AccessWidth
  | .word => .word
  | .halfword | .signedHalfword => .halfword
  | .byte | .signedByte => .byte

/-- `thumb_memory_cycles`. -/
def thumbMemoryCycles (decoded : DecodedThumbMemoryTransferInstruction)
    (timing : MemoryAccessTiming) : U32 :=
  let cycles := timing.nonsequential.setWidth 32 + timing.sequential.setWidth 32
  if decoded.load then cycles + 1 else cycles

/-- The regions of the two internal memories for programs. -/
def isWorkRam (region : Region) : Bool := region = .ewram || region = .iwram

/-- `iwram_single_transfer_cycles`. -/
def iwramSingleTransferCycles (fetchAddress dataAddress : U32) (width : AccessWidth) (load : Bool)
    (waitcnt : WaitStateControl) : Option U32 :=
  let dataRegion := (classify dataAddress).region
  let accessTiming := timing dataAddress width waitcnt
  if (classify fetchAddress).region ≠ .iwram then none
  else if width ≠ .byte ∧ dataRegion ≠ .iwram then none
  else if accessTiming.nonsequential = 0 then none
  else
    let cartridgeBusCycle : U32 :=
      if dataRegion = .gamePakRom ∨ dataRegion = .gamePakSave then 1 else 0
    some (1 + accessTiming.nonsequential.setWidth 32 + cartridgeBusCycle + if load then 1 else 0)

/-- `thumb_prefetch_overlaps_internal_data_load_cycle`. -/
def thumbPrefetchOverlapsInternalDataLoadCycle (decoded : DecodedThumbMemoryTransferInstruction)
    (address : U32) (waitcntPrefetchEnabled : Bool) : Bool :=
  waitcntPrefetchEnabled && decoded.load && isWorkRam (classify address).region

/-- `compose_elapsed_cycles`. -/
def composeElapsedCycles (cycles : ArmCycleEstimate) (timing : MemoryAccessTiming) :
    ArmElapsedCycleEstimate :=
  ⟨cycles.sequential.setWidth 32 * timing.sequential.setWidth 32 +
      cycles.nonsequential.setWidth 32 * timing.nonsequential.setWidth 32 +
      cycles.internal.setWidth 32,
    cycles.dataDependent, true⟩

/-- `timing_for_elapsed_estimate`. -/
def timingForElapsedEstimate (address : U32) (width : AccessWidth) :
    Option WaitStateControl → MemoryAccessTiming
  | some waitcnt => timing address width waitcnt
  | none => internalTiming address width

/-- `MirroredOamTuning`. -/
structure MirroredOamTuning where
  prefetchFastRom : U32
  prefetchSlowRom : U32

/-- The cycles of the words of a mirrored block load that reach the cartridge. -/
def romWordCycles (mirroredWords romWords : U32) (romTiming : MemoryAccessTiming)
    (waitcntPrefetchEnabled : Bool) (elapsed : U32) : U32 :=
  let nonsequential := romTiming.nonsequential.setWidth 32
  let sequential := romTiming.sequential.setWidth 32
  let slowFirst : Bool := romTiming.nonsequential = 3
  let fastRom : Bool := romTiming.sequential = 1
  let transferred := elapsed + (romWords * (nonsequential + sequential) + sequential)
  let fitted :=
    if slowFirst then
      transferred + if mirroredWords = 2 then 2 else if mirroredWords = 3 then 1
        else if mirroredWords = 4 then 0 else 3
    else transferred
  let unprefetched :=
    if !waitcntPrefetchEnabled && fastRom then
      if mirroredWords = 4 then fitted + 1
      else fitted - if mirroredWords = 2 then 1 else if mirroredWords = 3 then 0 else 2
    else fitted
  if waitcntPrefetchEnabled then
    unprefetched +
      if mirroredWords = 2 then
        if slowFirst then (if fastRom then 2 else 3) else if fastRom then 3 else 4
      else if 3 ≤ mirroredWords ∧ !slowFirst ∧ fastRom then 5
      else if 3 ≤ mirroredWords ∧ slowFirst ∧ fastRom then 4
      else if slowFirst then 2
      else 3
  else unprefetched

/-- `mirrored_oam_cross_rom_block_load_elapsed_cycles`. -/
def mirroredOamCrossRomBlockLoadElapsedCycles (dataAddress registerCount : U32)
    (waitcnt : Option WaitStateControl) (waitcntPrefetchEnabled : Bool)
    (tuning : MirroredOamTuning) (trailingInternalCycles : U32) : Option U32 :=
  let first := classify dataAddress
  if first.region ≠ .oam ∨ !first.mirrored ∨ dataAddress < kOamMirrorBankStart ∨
      kGamePakRomStart ≤ dataAddress then none
  else
    let wordsToRom := (kGamePakRomStart - dataAddress) / 4
    let wordsUntilRom := if wordsToRom < 1 then 1 else wordsToRom
    let mirroredWords := if wordsUntilRom < registerCount then wordsUntilRom else registerCount
    let romWords := registerCount - mirroredWords
    let romTiming := timingForElapsedEstimate kGamePakRomStart .word waitcnt
    if romWords = 0 ∧ waitcntPrefetchEnabled then
      some (if romTiming.sequential = 1 then tuning.prefetchFastRom else tuning.prefetchSlowRom)
    else
      let elapsed := 1 + mirroredWords
      some ((if romWords ≠ 0 then
          romWordCycles mirroredWords romWords romTiming waitcntPrefetchEnabled elapsed
        else elapsed) + trailingInternalCycles)

/-- `mirrored_oam_block_load_elapsed_cycles`. -/
def mirroredOamBlockLoadElapsedCycles (instruction dataAddress : U32) (cycles : ArmCycleEstimate)
    (waitcnt : Option WaitStateControl) (waitcntPrefetchEnabled : Bool) : Option U32 :=
  let decoded := decodeBlockDataTransfer instruction
  if !canDecodeBlockDataTransfer instruction || !decoded.load then none
  else
    mirroredOamCrossRomBlockLoadElapsedCycles dataAddress
      (BitVec.ofNat 32 (countRegisters decoded.registerList)) waitcnt waitcntPrefetchEnabled
      ⟨kMirroredOamArmPrefetchFastRomCycles, kMirroredOamArmPrefetchSlowRomCycles⟩
      (cycles.internal.setWidth 32)

/-- `thumb_mirrored_oam_block_load_elapsed_cycles`. -/
def thumbMirroredOamBlockLoadElapsedCycles (decoded : DecodedThumbBlockTransferInstruction)
    (dataAddress : U32) (waitcnt : WaitStateControl) : Option U32 :=
  if !decoded.load then none
  else
    mirroredOamCrossRomBlockLoadElapsedCycles dataAddress
      (BitVec.ofNat 32 (countRegisters (decoded.registerList.setWidth 16))) (some waitcnt)
      waitcnt.prefetchEnabled
      ⟨kMirroredOamThumbPrefetchFastRomCycles, kMirroredOamThumbPrefetchSlowRomCycles⟩ 1

/-- `has_elapsed_timing_for_estimate`. -/
def hasElapsedTimingForEstimate (address : U32) (timing : MemoryAccessTiming)
    (waitcntAware : Bool) : Bool :=
  let region := (classify address).region
  let timed : Bool := timing.nonsequential ≠ 0 && timing.sequential ≠ 0
  if timing.readable || timing.writable then true
  -- a load can still take its value from the pipeline, so it is not refused for its timing
  else if (region = .io || region = .unknown || region = .bios) && timed then true
  else if !waitcntAware || !timed then false
  else region = .bios || region = .gamePakRom || region = .gamePakSave

/-- `arm_data_load_has_internal_cycle`. -/
def armDataLoadHasInternalCycle (instruction : U32) : Bool :=
  (canDecodeSingleDataTransfer instruction || canDecodeHalfwordDataTransfer instruction ||
    canDecodeBlockDataTransfer instruction) && instruction.getLsbD 20

/-- The cap of a prefetch overlap over the registers of a block transfer. -/
def cappedOverlap (registers : Nat) (fastRomSequentialPrefetch : Bool) : U32 :=
  BitVec.ofNat 32 (min registers (if fastRomSequentialPrefetch then 2 else 4))

/-- `prefetch_internal_data_load_overlap_cycles`. -/
def prefetchInternalDataLoadOverlapCycles (instruction dataAddress : U32)
    (cycles : ArmCycleEstimate) (waitcntPrefetchEnabled fastRomSequentialPrefetch : Bool) : U32 :=
  let decoded := decodeBlockDataTransfer instruction
  if !waitcntPrefetchEnabled ∨ cycles.internal = 0 ∨ !armDataLoadHasInternalCycle instruction then 0
  else if !isWorkRam (classify dataAddress).region then 0
  else if canDecodeBlockDataTransfer instruction && decoded.load then
    cappedOverlap (countRegisters decoded.registerList) fastRomSequentialPrefetch
  else 1

/-- `prefetch_block_store_overlap_cycles`. -/
def prefetchBlockStoreOverlapCycles (instruction dataAddress : U32)
    (waitcntPrefetchEnabled fastRomSequentialPrefetch : Bool) : U32 :=
  let decoded := decodeBlockDataTransfer instruction
  let registerCount := countRegisters decoded.registerList
  if !waitcntPrefetchEnabled || !canDecodeBlockDataTransfer instruction then 0
  else if !isWorkRam (classify dataAddress).region then 0
  else if decoded.load then 0
  else if registerCount < 2 then 0
  else cappedOverlap (registerCount - 1) fastRomSequentialPrefetch

/-- `arm_single_word_load_from_game_pak_rom`. -/
def armSingleWordLoadFromGamePakRom (instruction dataAddress : U32) : Bool :=
  canDecodeSingleDataTransfer instruction && instruction.getLsbD 20 &&
    !instruction.getLsbD 22 && (classify dataAddress).region = .gamePakRom

/-- `thumb_word_load_from_game_pak_rom`. -/
def thumbWordLoadFromGamePakRom (decoded : DecodedThumbMemoryTransferInstruction)
    (dataAddress : U32) : Bool :=
  decoded.load && decoded.kind = .word && (classify dataAddress).region = .gamePakRom

/-- `estimate_arm_elapsed_cycles_with_timing`, for an access with the given timing. -/
def estimateArmElapsedCyclesWithTiming (instruction dataAddress : U32)
    (timing : MemoryAccessTiming) (waitcntAware waitcntPrefetchEnabled
      fastRomSequentialPrefetch : Bool) (waitcnt : Option WaitStateControl) :
    Option ArmElapsedCycleEstimate :=
  match estimateArmCycles instruction with
  | none => none
  | some cycles =>
      if !canEstimateMemoryElapsedCycles instruction then
        some ⟨cycles.sequential.setWidth 32 + cycles.nonsequential.setWidth 32 +
          cycles.internal.setWidth 32, cycles.dataDependent, false⟩
      else if !hasElapsedTimingForEstimate dataAddress timing waitcntAware then none
      else
        let composed : ArmElapsedCycleEstimate :=
          match mirroredOamBlockLoadElapsedCycles instruction dataAddress cycles waitcnt
            waitcntPrefetchEnabled with
          | some mirrored => ⟨mirrored, cycles.dataDependent, true⟩
          | none => composeElapsedCycles cycles timing
        let elapsed :=
          if waitcntAware && armSingleWordLoadFromGamePakRom instruction dataAddress then
            composed.cycles + 3
          else composed.cycles
        let overlap :=
          prefetchInternalDataLoadOverlapCycles instruction dataAddress cycles
              waitcntPrefetchEnabled fastRomSequentialPrefetch +
            prefetchBlockStoreOverlapCycles instruction dataAddress waitcntPrefetchEnabled
              fastRomSequentialPrefetch
        some { composed with cycles := elapsed - if elapsed < overlap then elapsed else overlap }

/-- `Arm7tdmi::estimate_arm_elapsed_cycles`, with a wait-state control or without. -/
def estimateArmElapsedCycles (instruction dataAddress : U32) :
    Option WaitStateControl → Option ArmElapsedCycleEstimate
  | none =>
      estimateArmElapsedCyclesWithTiming instruction dataAddress
        (internalTiming dataAddress (transferAccessWidth instruction)) false false false none
  | some waitcnt =>
      estimateArmElapsedCyclesWithTiming instruction dataAddress
        (timing dataAddress (transferAccessWidth instruction) waitcnt) true
        waitcnt.prefetchEnabled ((waitcnt.romWaitStates .romWait0).sequential ≤ 1) (some waitcnt)

end Gba.Core
