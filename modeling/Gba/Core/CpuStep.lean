import Gba.Core.CoreScheduler
import Gba.Core.CycleEstimates

/-!
# One instruction of the processor

`Arm7tdmi::step_arm` and `Arm7tdmi::step_thumb`: an instruction is executed and its cycles are
added to the elapsed cycles of the processor. The processor leaves its program counter where the
instruction leaves it; moving on to the next instruction is the scheduler's part.
-/

namespace Gba.Core

/-- What a step of the processor leaves behind. -/
structure CpuStep (σ : Type) where
  result : ArmStepResult
  cpu : Arm7tdmi
  bus : BusState σ

namespace Arm7tdmi

/-! ## Data accesses -/

/-- `first_data_address`. -/
def firstDataAddress (cpu : Arm7tdmi) (instruction : U32) : Option U32 :=
  let transferAddress (rn : Fin 16) (offset : U32) (preIndex up : Bool) : U32 :=
    let base := cpu.armVisibleRegisterValue rn
    if preIndex then offsetTransferAddress base offset up else base
  if canDecodeSwap instruction then some (cpu.registers (registerField instruction 16))
  else if canDecodeBlockDataTransfer instruction then
    let decoded := decodeBlockDataTransfer instruction
    some (blockTransferAddress (cpu.registers decoded.rn) (countRegisters decoded.registerList)
      decoded.preIndex decoded.up).first
  else if canDecodeHalfwordDataTransfer instruction then
    let decoded := cpu.decodeHalfword instruction
    some (transferAddress decoded.rn decoded.offset decoded.preIndex decoded.up)
  else if canDecodeSingleDataTransfer instruction then
    let decoded := cpu.decodeSingle instruction
    some (transferAddress decoded.rn decoded.offset decoded.preIndex decoded.up)
  else none

/-- `memory_condition_passed`. -/
def memoryConditionPassed (cpu : Arm7tdmi) (instruction : U32) : Bool :=
  if canDecodeSwap instruction then cpu.conditionPassed (decodeSwap instruction).condition
  else if canDecodeBlockDataTransfer instruction then
    cpu.conditionPassed (decodeBlockDataTransfer instruction).condition
  else if canDecodeHalfwordDataTransfer instruction then
    cpu.conditionPassed (cpu.decodeHalfword instruction).condition
  else if canDecodeSingleDataTransfer instruction then
    cpu.conditionPassed (cpu.decodeSingle instruction).condition
  else true

/-! ## Charging cycles -/

/-- The result of a step that takes the given cycles. -/
def chargeStep (cpu : Arm7tdmi) (status : ExecuteStatus) (elapsed : ArmElapsedCycleEstimate) :
    ArmStepResult × Arm7tdmi :=
  let charged := { cpu with elapsedCycles := cpu.elapsedCycles + elapsed.cycles.setWidth 64 }
  (⟨status, elapsed.cycles, charged.elapsedCycles, elapsed.dataDependent,
    elapsed.memoryTimingApplied⟩, charged)

/-- The result of a step that takes no time. -/
def freeStep (cpu : Arm7tdmi) (status : ExecuteStatus) : ArmStepResult × Arm7tdmi :=
  (⟨status, 0, cpu.elapsedCycles, false, false⟩, cpu)

/-- `finish_step`. -/
def finishStep (cpu : Arm7tdmi) (instruction : U32) (dataAddress : Option U32)
    (waitcnt : Option WaitStateControl) (elapsedOverride : Option ArmElapsedCycleEstimate) :
    ExecuteStatus → ArmStepResult × Arm7tdmi
  | .skippedCondition =>
      cpu.chargeStep .skippedCondition ⟨kArmSkippedConditionElapsedCycles, false, false⟩
  | .unsupported => cpu.freeStep .unsupported
  | .executed =>
      match elapsedOverride.or
        (estimateArmElapsedCycles instruction (dataAddress.getD 0) waitcnt) with
      | none => cpu.freeStep .executed
      | some elapsed => cpu.chargeStep .executed elapsed

/-- The charge at the end of a Thumb step. -/
def finishThumbStep (cpu : Arm7tdmi) (estimate : Option ArmElapsedCycleEstimate) :
    ExecuteStatus → ArmStepResult × Arm7tdmi
  | .skippedCondition =>
      cpu.chargeStep .skippedCondition ⟨kThumbSkippedConditionElapsedCycles, false, false⟩
  | .unsupported => cpu.freeStep .unsupported
  | .executed => cpu.chargeStep .executed (estimate.getD ⟨kSeedThumbElapsedCycles, false, false⟩)

/-- `runtime_multiply_elapsed_cycles`. -/
def runtimeMultiplyElapsedCycles (cpu : Arm7tdmi) (instruction : U32) :
    Option ArmElapsedCycleEstimate :=
  if canDecodeMultiplyLong instruction then
    let decoded := decodeMultiplyLong instruction
    let multiplier := cpu.registers decoded.rs
    let iterations :=
      if decoded.signedMultiply then signedMultiplyIterations multiplier
      else unsignedMultiplyIterations multiplier
    some ⟨iterations + if decoded.accumulate then 3 else 2, true, false⟩
  else if canDecodeMultiply instruction then
    let decoded := decodeMultiply instruction
    some ⟨signedMultiplyIterations (cpu.registers decoded.rs) +
      if decoded.accumulate then 2 else 1, true, false⟩
  else none

/-- `runtime_thumb_elapsed_cycles`. -/
def runtimeThumbElapsedCycles (cpu : Arm7tdmi) (instruction : U16) :
    Option ArmElapsedCycleEstimate :=
  let decoded := decodeThumbAlu instruction
  if canDecodeThumbAlu instruction && decoded.opcode = .mul then
    some ⟨signedMultiplyIterations (cpu.registers decoded.rd) + 1, true, false⟩
  else none

/-! ## Steps without memory -/

/-- `step_arm` without memory. -/
def stepArm (cpu : Arm7tdmi) (instruction : U32) : ArmStepResult × Arm7tdmi :=
  let execution := executeArm instruction cpu
  execution.cpu.finishStep instruction none none (cpu.runtimeMultiplyElapsedCycles instruction)
    execution.status

/-- `step_thumb` without memory. -/
def stepThumb (cpu : Arm7tdmi) (instruction : U16) : ArmStepResult × Arm7tdmi :=
  let execution := executeThumb instruction cpu
  execution.cpu.finishThumbStep (cpu.runtimeThumbElapsedCycles instruction) execution.status

/-! ## Steps with memory -/

section Memory

variable {σ : Type} (callbacks : MemoryBusIoCallbacks σ)

/-- An execution whose charge is known. -/
def finished (execution : MemoryExecution σ) (charged : ArmStepResult × Arm7tdmi) : CpuStep σ :=
  ⟨charged.1, charged.2, execution.bus⟩

/-- The single transfers that get the timing of code in work RAM. -/
def iwramTransferOverride (cpu : Arm7tdmi) (instruction : U32) (dataAddress : Option U32)
    (waitcnt : WaitStateControl) : Option ArmElapsedCycleEstimate :=
  match dataAddress with
  | none => none
  | some address =>
      if !canDecodeSwap instruction &&
          (canDecodeSingleDataTransfer instruction || canDecodeHalfwordDataTransfer instruction) &&
          registerField instruction 12 ≠ kPc then
        (iwramSingleTransferCycles (cpu.registers kPc) address (transferAccessWidth instruction)
          (instruction.getLsbD 20) waitcnt).map fun cycles => ⟨cycles, false, true⟩
      else none

/-- `step_arm` with memory: a transfer whose timing is unknown is refused. Without a wait-state
control the source takes no override. -/
def stepArmMemory (instruction : U32) (waitcnt : Option WaitStateControl)
    (elapsedOverride : Option ArmElapsedCycleEstimate) (cpu : Arm7tdmi) (bus : BusState σ) :
    CpuStep σ :=
  let dataAddress := cpu.firstDataAddress instruction
  if dataAddress.isSome && cpu.memoryConditionPassed instruction &&
      (estimateArmElapsedCycles instruction (dataAddress.getD 0) waitcnt).isNone then
    finished ⟨.unsupported, cpu, bus⟩ (cpu.freeStep .unsupported)
  else
    let runtimeOverride :=
      match waitcnt with
      | none => cpu.runtimeMultiplyElapsedCycles instruction
      | some waitcnt =>
          (elapsedOverride.or (cpu.runtimeMultiplyElapsedCycles instruction)).or
            (cpu.iwramTransferOverride instruction dataAddress waitcnt)
    let execution := cpu.executeArmMemory callbacks instruction bus
    finished execution
      (execution.cpu.finishStep instruction dataAddress waitcnt runtimeOverride execution.status)

/-- The cycles of a Thumb transfer. -/
def thumbTransferEstimate (cpu : Arm7tdmi) (decoded : DecodedThumbMemoryTransferInstruction)
    (waitcnt : WaitStateControl) (prefetchInternalLoadOverlap : Bool) :
    Option ArmElapsedCycleEstimate :=
  let address := cpu.thumbTransferAddress decoded
  let width := thumbTransferAccessWidth decoded.kind
  let accessTiming := timing address width waitcnt
  if !hasElapsedTimingForEstimate address accessTiming true then none
  else
    let iwramCycles :=
      iwramSingleTransferCycles (cpu.registers kPc) address width decoded.load waitcnt
    let cycles := iwramCycles.getD (thumbMemoryCycles decoded accessTiming)
    let fetched := if thumbWordLoadFromGamePakRom decoded address then cycles + 3 else cycles
    let overlaps := thumbPrefetchOverlapsInternalDataLoadCycle decoded address
      (waitcnt.prefetchEnabled && prefetchInternalLoadOverlap)
    some ⟨if iwramCycles.isNone && overlaps then fetched - 1 else fetched, false, true⟩

/-- The cycles of a Thumb block transfer. -/
def thumbBlockEstimate (cpu : Arm7tdmi) (decoded : DecodedThumbBlockTransferInstruction)
    (waitcnt : WaitStateControl) : Option ArmElapsedCycleEstimate :=
  let address := cpu.registers decoded.rb
  let registerCount : U32 :=
    BitVec.ofNat 32 (countRegisters (decoded.registerList.setWidth 16))
  let accessTiming := timing address .word waitcnt
  match thumbMirroredOamBlockLoadElapsedCycles decoded address waitcnt with
  | some cycles => some ⟨cycles, false, true⟩
  | none =>
      if !hasElapsedTimingForEstimate address accessTiming true then none
      else
        some ⟨if decoded.load then
            1 + registerCount *
              (accessTiming.nonsequential.setWidth 32 + accessTiming.sequential.setWidth 32)
          else registerCount * accessTiming.sequential.setWidth 32, false, true⟩

/-- The cycles of the accesses of a Thumb instruction. -/
def thumbEstimate (cpu : Arm7tdmi) (instruction : U16) (waitcnt : WaitStateControl)
    (prefetchInternalLoadOverlap : Bool) : Option ArmElapsedCycleEstimate :=
  (if canDecodeThumbBlockTransfer instruction then
    cpu.thumbBlockEstimate (decodeThumbBlockTransfer instruction) waitcnt
  else none).or
    (if canDecodeThumbMemoryTransfer instruction then
      cpu.thumbTransferEstimate (decodeThumbMemoryTransfer instruction) waitcnt
        prefetchInternalLoadOverlap
    else none)

/-- `step_thumb` with memory. -/
def stepThumbMemory (instruction : U16) (waitcnt : Option WaitStateControl)
    (prefetchInternalLoadOverlap : Bool) (elapsedOverride : Option ArmElapsedCycleEstimate)
    (cpu : Arm7tdmi) (bus : BusState σ) : CpuStep σ :=
  let estimate :=
    match waitcnt with
    | none => cpu.runtimeThumbElapsedCycles instruction
    | some waitcnt =>
        (elapsedOverride.or (cpu.runtimeThumbElapsedCycles instruction)).or
          (cpu.thumbEstimate instruction waitcnt prefetchInternalLoadOverlap)
  let execution := cpu.executeThumbMemory callbacks instruction bus
  finished execution (execution.cpu.finishThumbStep estimate execution.status)

end Memory

end Arm7tdmi

end Gba.Core
