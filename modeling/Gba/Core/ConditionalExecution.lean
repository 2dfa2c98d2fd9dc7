import Gba.Core.ArithmeticFlags
import Gba.Core.ArmEncode
import Gba.Core.DmaTransfer

/-!
# Conditional execution

The condition field of an ARM instruction decides whether it acts, and nothing else: under a
condition that passes, every instruction does what the same word does under `al`, and under one that
does not pass it changes neither the processor nor the memory. After a comparison each condition
passes for one relation between the compared words.
-/

namespace Gba.Core

open SignedWords

/-! ## Words under `al` -/

/-- The word with the condition `al`. -/
def alwaysWord (instruction : U32) : U32 := 0xE#4 ++ instruction.extractLsb' 0 28

section Fields

variable (instruction : U32)

@[simp] theorem always_bit {index : Nat} (h : index < 28) :
    (alwaysWord instruction).getLsbD index = instruction.getLsbD index := by
  unfold alwaysWord
  rw [BitVec.getLsbD_append, if_pos h, BitVec.getLsbD_extractLsb', decide_eq_true h, Nat.zero_add,
    Bool.true_and]

@[simp] theorem always_field {start count : Nat} (h : start + count ≤ 28) :
    (alwaysWord instruction).extractLsb' start count = instruction.extractLsb' start count := by
  refine BitVec.eq_of_getLsbD_eq fun index hindex => ?_
  rw [BitVec.getLsbD_extractLsb', BitVec.getLsbD_extractLsb', always_bit instruction (by omega)]

theorem always_mask {mask : U32} (h : mask >>> 28 = 0) :
    alwaysWord instruction &&& mask = instruction &&& mask := by
  refine BitVec.eq_of_getLsbD_eq fun index hindex => ?_
  rw [BitVec.getLsbD_and, BitVec.getLsbD_and]
  -- above bit 27 the mask has no bits
  by_cases hlow : index < 28
  · rw [always_bit instruction hlow]
  · have hbit := congrArg (fun word => word.getLsbD (index - 28)) h
    have hindex : 28 + (index - 28) = index := by omega
    simp only [BitVec.getLsbD_ushiftRight, hindex] at hbit
    have hzero : mask.getLsbD index = false := hbit.trans BitVec.getLsbD_zero
    rw [hzero, Bool.and_false, Bool.and_false]

theorem always_condition : conditionField (alwaysWord instruction) = 0xE#4 := by
  unfold conditionField alwaysWord
  exact (BitVec.extractLsb'_append_eq_of_le (by decide)).trans rfl

theorem always_supported : supportedCondition (alwaysWord instruction) = true := by
  unfold supportedCondition
  rw [always_condition]
  rfl

theorem always_decodes : decodeCondition (alwaysWord instruction) = some .al := by
  unfold decodeCondition
  rw [always_condition]
  rfl

@[simp] theorem always_register {shift : Nat} (h : shift + 4 ≤ 28) :
    registerField (alwaysWord instruction) shift = registerField instruction shift := by
  unfold registerField
  rw [always_field instruction h]

theorem always_immediate :
    rotatedImmediate (alwaysWord instruction) = rotatedImmediate instruction := by
  unfold rotatedImmediate
  rw [always_mask instruction (by decide), always_field instruction (by decide)]

end Fields

/-! ## Classes -/

section Classes

variable {instruction : U32} (h : supportedCondition instruction = true)

theorem always_registerShift :
    isRegisterShift (alwaysWord instruction) = isRegisterShift instruction := by
  unfold isRegisterShift
  simp (disch := decide) only [always_bit]

theorem always_mrs : isMrs (alwaysWord instruction) = isMrs instruction := by
  unfold isMrs
  simp (disch := decide) only [always_field]

theorem always_coprocessorSpace : Arm7tdmi.isCoprocessorSpace (alwaysWord instruction) =
    Arm7tdmi.isCoprocessorSpace instruction := by
  unfold Arm7tdmi.isCoprocessorSpace
  simp (disch := decide) only [always_field]

include h

theorem always_softwareInterrupt : canDecodeSoftwareInterrupt (alwaysWord instruction) =
    canDecodeSoftwareInterrupt instruction := by
  unfold canDecodeSoftwareInterrupt
  simp (disch := decide) only [always_field, always_supported, h]

theorem always_swap : canDecodeSwap (alwaysWord instruction) = canDecodeSwap instruction := by
  unfold canDecodeSwap
  simp (disch := decide) only [always_field, always_register, always_supported, h]

theorem always_blockDataTransfer : canDecodeBlockDataTransfer (alwaysWord instruction) =
    canDecodeBlockDataTransfer instruction := by
  unfold canDecodeBlockDataTransfer
  simp (disch := decide) only [always_field, always_register, always_supported, h]

theorem always_halfwordTransfer : isHalfwordTransfer (alwaysWord instruction) =
    isHalfwordTransfer instruction := by
  unfold isHalfwordTransfer
  simp (disch := decide) only [always_field, always_bit, always_supported, h]

theorem always_halfwordRegister : canDecodeHalfwordDataTransferRegister (alwaysWord instruction) =
    canDecodeHalfwordDataTransferRegister instruction := by
  unfold canDecodeHalfwordDataTransferRegister
  simp (disch := decide) only [always_field, always_bit, always_halfwordTransfer h]

theorem always_halfwordDataTransfer : canDecodeHalfwordDataTransfer (alwaysWord instruction) =
    canDecodeHalfwordDataTransfer instruction := by
  unfold canDecodeHalfwordDataTransfer canDecodeHalfwordDataTransferImmediate
  simp (disch := decide) only [always_bit, always_halfwordTransfer h, always_halfwordRegister h]

theorem always_singleRegister : canDecodeSingleDataTransferRegister (alwaysWord instruction) =
    canDecodeSingleDataTransferRegister instruction := by
  unfold canDecodeSingleDataTransferRegister
  simp (disch := decide) only [always_field, always_bit, always_supported, h]

theorem always_singleDataTransfer : canDecodeSingleDataTransfer (alwaysWord instruction) =
    canDecodeSingleDataTransfer instruction := by
  unfold canDecodeSingleDataTransfer canDecodeSingleDataTransferImmediate
  simp (disch := decide) only [always_field, always_bit, always_supported, h,
    always_singleRegister h]

theorem always_psrTransfer : canDecodePsrTransfer (alwaysWord instruction) =
    canDecodePsrTransfer instruction := by
  unfold canDecodePsrTransfer
  simp (disch := decide) only [always_field, always_bit, always_mrs, always_supported, h]

theorem always_branch : canDecodeBranch (alwaysWord instruction) = canDecodeBranch instruction := by
  unfold canDecodeBranch
  simp (disch := decide) only [always_field, always_supported, h]

theorem always_branchExchange : canDecodeBranchExchange (alwaysWord instruction) =
    canDecodeBranchExchange instruction := by
  unfold canDecodeBranchExchange
  simp (disch := decide) only [always_field, always_supported, h]

theorem always_multiplyLong : canDecodeMultiplyLong (alwaysWord instruction) =
    canDecodeMultiplyLong instruction := by
  unfold canDecodeMultiplyLong
  simp (disch := decide) only [always_field, always_supported, h]

theorem always_multiply : canDecodeMultiply (alwaysWord instruction) =
    canDecodeMultiply instruction := by
  unfold canDecodeMultiply
  simp (disch := decide) only [always_field, always_supported, h]

theorem always_processingImmediate : canDecodeDataProcessingImmediate (alwaysWord instruction) =
    canDecodeDataProcessingImmediate instruction := by
  unfold canDecodeDataProcessingImmediate
  simp (disch := decide) only [always_field, always_bit, always_psrTransfer h, always_supported, h]

theorem always_processingRegister :
    canDecodeDataProcessingRegisterShift (alwaysWord instruction) =
      canDecodeDataProcessingRegisterShift instruction := by
  unfold canDecodeDataProcessingRegisterShift
  simp (disch := decide) only [always_field, always_bit, always_psrTransfer h, always_swap h,
    always_registerShift, always_supported, h]

end Classes

/-! ## Decoded instructions -/

section Decoded

variable (instruction : U32)

theorem always_decodeDataProcessing (shifter : ShifterResult) :
    decodeDataProcessing (alwaysWord instruction) shifter =
      { decodeDataProcessing instruction shifter with condition := some .al } := by
  unfold decodeDataProcessing
  simp (disch := decide) only [always_field, always_bit, always_register, always_decodes]

theorem always_decodePsrTransfer :
    decodePsrTransfer (alwaysWord instruction) =
      { decodePsrTransfer instruction with condition := some .al } := by
  unfold decodePsrTransfer
  simp (disch := decide) only [always_field, always_bit, always_register, always_decodes,
    always_mrs, always_immediate]
  split
  · rfl
  split
  · rfl
  · rfl

theorem always_decodeBranch :
    decodeBranch (alwaysWord instruction) =
      { decodeBranch instruction with condition := some .al } := by
  unfold decodeBranch
  simp (disch := decide) only [always_field, always_bit, always_decodes]

theorem always_decodeMultiply :
    decodeMultiply (alwaysWord instruction) =
      { decodeMultiply instruction with condition := some .al } := by
  unfold decodeMultiply
  simp (disch := decide) only [always_bit, always_register, always_decodes]

theorem always_decodeMultiplyLong :
    decodeMultiplyLong (alwaysWord instruction) =
      { decodeMultiplyLong instruction with condition := some .al } := by
  unfold decodeMultiplyLong
  simp (disch := decide) only [always_bit, always_register, always_decodes]

theorem always_decodeSwap :
    decodeSwap (alwaysWord instruction) =
      { decodeSwap instruction with condition := some .al } := by
  unfold decodeSwap
  simp (disch := decide) only [always_bit, always_register, always_decodes]

theorem always_decodeBlockDataTransfer :
    decodeBlockDataTransfer (alwaysWord instruction) =
      { decodeBlockDataTransfer instruction with condition := some .al } := by
  unfold decodeBlockDataTransfer
  simp (disch := decide) only [always_field, always_bit, always_register, always_decodes]

variable {instruction} (cpu : Arm7tdmi)

theorem always_decodeHalfword (h : supportedCondition instruction = true) :
    cpu.decodeHalfword (alwaysWord instruction) =
      { cpu.decodeHalfword instruction with condition := some .al } := by
  unfold Arm7tdmi.decodeHalfword decodeHalfwordDataTransferRegister
    decodeHalfwordDataTransferImmediate decodeHalfwordDataTransferWith
  simp (disch := decide) only [always_field, always_bit, always_register, always_decodes,
    always_halfwordRegister h]
  split
  · rfl
  · rfl

theorem always_decodeSingle (h : supportedCondition instruction = true) :
    cpu.decodeSingle (alwaysWord instruction) =
      { cpu.decodeSingle instruction with condition := some .al } := by
  unfold Arm7tdmi.decodeSingle decodeSingleDataTransferRegister
    decodeSingleDataTransferImmediate decodeSingleDataTransferWith
  rw [always_mask instruction (by decide)]
  simp (disch := decide) only [always_field, always_bit, always_register, always_decodes,
    always_singleRegister h]
  split
  · rfl
  · rfl

end Decoded

/-! ## Instructions whose condition passes -/

namespace Arm7tdmi

section Passed

variable {instruction : U32} (cpu : Arm7tdmi) {condition : Option ArmCondition}

theorem onCondition_passed (h : cpu.conditionPassed condition = true) (execution : Execution) :
    cpu.onCondition condition execution = execution := if_pos h

theorem onCondition_failed (h : cpu.conditionPassed condition = false) (execution : Execution) :
    cpu.onCondition condition execution = ⟨.skippedCondition, cpu⟩ :=
  if_neg (Bool.not_eq_true _ ▸ h)

/-- The condition `0xF` passes in no state. -/
theorem supported_of_passed (h : cpu.conditionPassed (decodeCondition instruction) = true) :
    supportedCondition instruction = true := by
  unfold supportedCondition
  refine decide_eq_true fun hfield => ?_
  unfold decodeCondition at h
  rw [hfield] at h
  exact Bool.false_ne_true h

/-! The operations do not read the condition that they are decoded with. -/

theorem executePsrTransfer_condition (decoded : DecodedPsrTransferInstruction) :
    cpu.executePsrTransfer { decoded with condition := condition } =
      cpu.executePsrTransfer decoded := rfl

theorem executeBranch_condition (decoded : DecodedBranchInstruction) :
    cpu.executeBranch { decoded with condition := condition } = cpu.executeBranch decoded := rfl

theorem executeMultiply_condition (decoded : DecodedMultiplyInstruction) :
    cpu.executeMultiply { decoded with condition := condition } = cpu.executeMultiply decoded := rfl

theorem executeMultiplyLong_condition (decoded : DecodedMultiplyLongInstruction) :
    cpu.executeMultiplyLong { decoded with condition := condition } =
      cpu.executeMultiplyLong decoded := rfl

theorem executeDataProcessing_condition (decoded : DecodedArmInstruction) (pcOffset : U32) :
    cpu.executeDataProcessing { decoded with condition := condition } pcOffset =
      cpu.executeDataProcessing decoded pcOffset := rfl

section Memory

variable {σ : Type} (callbacks : MemoryBusIoCallbacks σ) (bus : BusState σ)

theorem executeSwap_condition {decoded : DecodedSwapInstruction}
    (h : cpu.conditionPassed decoded.condition = true) :
    cpu.executeSwap callbacks { decoded with condition := some .al } bus =
      cpu.executeSwap callbacks decoded bus := by
  unfold executeSwap
  rw [h]
  rfl

/-- A transfer under `al`, against the same one under a condition that passes. -/
theorem transfer_always (h : cpu.conditionPassed condition = true)
    {skipped other execution : MemoryExecution σ} :
    (if !cpu.conditionPassed (some .al) then skipped else execution) =
      if !cpu.conditionPassed condition then other else execution := by
  rw [h]
  rfl

theorem executeBlockTransfer_condition (decoded : DecodedBlockDataTransferInstruction)
    (forceUserBank : Bool) :
    cpu.executeBlockTransfer callbacks { decoded with condition := condition } forceUserBank bus =
      cpu.executeBlockTransfer callbacks decoded forceUserBank bus := rfl

theorem executeHalfwordTransfer_condition (decoded : DecodedHalfwordDataTransferInstruction) :
    cpu.executeHalfwordTransfer callbacks { decoded with condition := condition } bus =
      cpu.executeHalfwordTransfer callbacks decoded bus := rfl

theorem executeSingleTransfer_condition (decoded : DecodedSingleDataTransferInstruction) :
    cpu.executeSingleTransfer callbacks { decoded with condition := condition } bus =
      cpu.executeSingleTransfer callbacks decoded bus := rfl

end Memory

theorem psrTransfer_condition :
    (decodePsrTransfer instruction).condition = decodeCondition instruction := by
  unfold decodePsrTransfer
  dsimp only
  split
  · rfl
  split
  · rfl
  · rfl

theorem halfword_condition :
    (cpu.decodeHalfword instruction).condition = decodeCondition instruction := by
  unfold decodeHalfword
  split
  · rfl
  · rfl

theorem single_condition :
    (cpu.decodeSingle instruction).condition = decodeCondition instruction := by
  unfold decodeSingle
  split
  · rfl
  · rfl

/-- An instruction under `al`, against the same one under a condition that passes. -/
theorem onCondition_always {passed always : Option ArmCondition} {left right : Execution}
    (h : cpu.conditionPassed passed = true) (halways : always = some .al) (heq : left = right) :
    cpu.onCondition always left = cpu.onCondition passed right := by
  subst halways heq
  rw [onCondition_passed cpu h]
  rfl

end Passed

/-- An outcome of an instruction that does nothing. -/
structure Skips (cpu : Arm7tdmi) (execution : Execution) : Prop where
  status : execution.status ≠ .executed
  cpu : execution.cpu = cpu

/-- An outcome of an instruction that does nothing, to memory either. -/
structure SkipsMemory {σ : Type} (cpu : Arm7tdmi) (bus : BusState σ)
    (execution : MemoryExecution σ) : Prop where
  status : execution.status ≠ .executed
  cpu : execution.cpu = cpu
  bus : execution.bus = bus

section Always

variable {instruction : U32} {cpu : Arm7tdmi}

theorem skips_onCondition {condition : Option ArmCondition}
    (h : cpu.conditionPassed condition = false) (execution : Execution) :
    cpu.Skips (cpu.onCondition condition execution) := by
  rw [onCondition_failed cpu h]
  exact ⟨nofun, rfl⟩

theorem Skips.withBus {σ : Type} {execution : Execution} (h : cpu.Skips execution)
    (bus : BusState σ) : cpu.SkipsMemory bus (execution.withBus bus) := ⟨h.status, h.cpu, rfl⟩

theorem skipsMemory_of_failed {σ : Type} {condition : Option ArmCondition} (bus : BusState σ)
    (h : cpu.conditionPassed condition = false) (execution : MemoryExecution σ) :
    cpu.SkipsMemory bus
      (if !cpu.conditionPassed condition then ⟨.skippedCondition, cpu, bus⟩ else execution) := by
  rw [h]
  exact ⟨nofun, rfl, rfl⟩

/-- Without memory, an instruction whose condition passes acts as under `al`. -/
theorem executeArm_always (h : cpu.conditionPassed (decodeCondition instruction) = true) :
    executeArm (alwaysWord instruction) cpu = executeArm instruction cpu := by
  have hsupported := cpu.supported_of_passed h
  have hfield : ¬conditionField instruction = 0xF#4 := of_decide_eq_true hsupported
  have halways : ¬conditionField (alwaysWord instruction) = 0xF#4 :=
    of_decide_eq_true (always_supported instruction)
  unfold executeArm
  dsimp only
  rw [if_neg hfield, if_neg halways, always_softwareInterrupt hsupported, always_coprocessorSpace,
    always_psrTransfer hsupported, always_branch hsupported, always_branchExchange hsupported,
    always_multiplyLong hsupported, always_multiply hsupported,
    always_processingImmediate hsupported, always_processingRegister hsupported,
    always_registerShift]
  -- the classes agree, so each instruction is compared with itself
  refine congrArg₂ (ite _) (cpu.onCondition_always h (always_decodes _) rfl) ?_
  refine congrArg₂ (ite _) (cpu.onCondition_always h (always_decodes _) rfl) ?_
  refine congrArg₂ (ite _) ?psrTransfer <| congrArg₂ (ite _) ?branch <|
    congrArg₂ (ite _) ?branchExchange <| congrArg₂ (ite _) ?multiplyLong <|
    congrArg₂ (ite _) ?multiply <| congrArg₂ (ite _) ?immediate <|
    congrArg₂ (ite _) (congrArg₂ (ite _) ?registerShift ?immediateShift) rfl
  case psrTransfer =>
    rw [always_decodePsrTransfer, psrTransfer_condition, executePsrTransfer_condition]
    exact cpu.onCondition_always h rfl rfl
  case branch =>
    rw [always_decodeBranch, executeBranch_condition]
    exact cpu.onCondition_always h rfl rfl
  case branchExchange =>
    unfold decodeBranchExchange
    rw [always_register instruction (by decide)]
    exact cpu.onCondition_always h (always_decodes _) rfl
  case multiplyLong =>
    rw [always_decodeMultiplyLong, executeMultiplyLong_condition]
    exact cpu.onCondition_always h rfl rfl
  case multiply =>
    rw [always_decodeMultiply, executeMultiply_condition]
    exact cpu.onCondition_always h rfl rfl
  case immediate =>
    unfold decodeDataProcessingImmediate
    rw [always_immediate, always_field instruction (by decide), always_decodeDataProcessing,
      executeDataProcessing_condition]
    exact cpu.onCondition_always h rfl rfl
  case registerShift =>
    unfold decodeDataProcessingRegisterShift
    rw [always_register instruction (by decide), always_register instruction (by decide),
      always_field instruction (by decide), always_decodeDataProcessing,
      executeDataProcessing_condition]
    exact cpu.onCondition_always h rfl rfl
  case immediateShift =>
    unfold decodeDataProcessingImmediateShift
    rw [always_register instruction (by decide), always_field instruction (by decide),
      always_field instruction (by decide), always_decodeDataProcessing,
      executeDataProcessing_condition]
    exact cpu.onCondition_always h rfl rfl

/-- Without memory, an instruction whose condition does not pass changes nothing. -/
theorem executeArm_failed (h : cpu.conditionPassed (decodeCondition instruction) = false) :
    cpu.Skips (executeArm instruction cpu) := by
  have hskips : ∀ execution,
      cpu.Skips (cpu.onCondition (decodeCondition instruction) execution) := skips_onCondition h
  unfold executeArm
  dsimp only
  rw [psrTransfer_condition]
  -- each class tests the condition before it acts
  refine iteInduction (fun _ => ⟨nofun, rfl⟩) fun _ => ?_
  refine iteInduction (fun _ => hskips _) fun _ => ?_
  refine iteInduction (fun _ => hskips _) fun _ => ?_
  refine iteInduction (fun _ => hskips _) fun _ => ?_
  refine iteInduction (fun _ => hskips _) fun _ => ?_
  refine iteInduction (fun _ => hskips _) fun _ => ?_
  refine iteInduction (fun _ => hskips _) fun _ => ?_
  refine iteInduction (fun _ => hskips _) fun _ => ?_
  refine iteInduction (fun _ => hskips _) fun _ => ?_
  refine iteInduction (fun _ => ?_) fun _ => ⟨nofun, rfl⟩
  exact iteInduction (fun _ => hskips _) fun _ => hskips _

variable {σ : Type} (callbacks : MemoryBusIoCallbacks σ) (bus : BusState σ)

theorem executeArmMemory_always (h : cpu.conditionPassed (decodeCondition instruction) = true) :
    executeArmMemory callbacks (alwaysWord instruction) cpu bus =
      executeArmMemory callbacks instruction cpu bus := by
  have hsupported := cpu.supported_of_passed h
  have hfield : ¬conditionField instruction = 0xF#4 := of_decide_eq_true hsupported
  have halways : ¬conditionField (alwaysWord instruction) = 0xF#4 :=
    of_decide_eq_true (always_supported instruction)
  unfold executeArmMemory
  dsimp only
  rw [if_neg hfield, if_neg halways, always_softwareInterrupt hsupported, always_coprocessorSpace,
    always_swap hsupported, always_blockDataTransfer hsupported,
    always_halfwordDataTransfer hsupported, always_singleDataTransfer hsupported,
    executeArm_always h]
  -- as without memory, class by class
  refine congrArg₂ (ite _) ?_ ?_
  · rw [cpu.onCondition_always h (always_decodes _) rfl]
  refine congrArg₂ (ite _) ?_ ?_
  · rw [cpu.onCondition_always h (always_decodes _) rfl]
  refine congrArg₂ (ite _) ?swap <| congrArg₂ (ite _) ?block <| congrArg₂ (ite _) ?halfword <|
    congrArg₂ (ite _) ?single rfl
  case swap =>
    rw [always_decodeSwap]
    exact cpu.executeSwap_condition callbacks bus h
  case block =>
    rw [always_decodeBlockDataTransfer, executeBlockTransfer_condition,
      always_bit instruction (by decide)]
    exact cpu.transfer_always h
  case halfword =>
    rw [always_decodeHalfword cpu hsupported, executeHalfwordTransfer_condition,
      halfword_condition]
    exact cpu.transfer_always h
  case single =>
    rw [always_decodeSingle cpu hsupported, executeSingleTransfer_condition, single_condition]
    exact cpu.transfer_always h

theorem executeArmMemory_failed (h : cpu.conditionPassed (decodeCondition instruction) = false) :
    cpu.SkipsMemory bus (executeArmMemory callbacks instruction cpu bus) := by
  have hskips : ∀ execution, cpu.SkipsMemory bus
      ((cpu.onCondition (decodeCondition instruction) execution).withBus bus) := fun execution =>
    (skips_onCondition h execution).withBus bus
  unfold executeArmMemory
  dsimp only
  rw [halfword_condition, single_condition]
  refine iteInduction (fun _ => ⟨nofun, rfl, rfl⟩) fun _ => ?_
  refine iteInduction (fun _ => hskips _) fun _ => ?_
  refine iteInduction (fun _ => hskips _) fun _ => ?_
  refine iteInduction (fun _ => skipsMemory_of_failed bus h _) fun _ => ?_
  refine iteInduction (fun _ => skipsMemory_of_failed bus h _) fun _ => ?_
  refine iteInduction (fun _ => skipsMemory_of_failed bus h _) fun _ => ?_
  refine iteInduction (fun _ => skipsMemory_of_failed bus h _) fun _ => ?_
  exact (executeArm_failed h).withBus bus

/-- The condition decides whether an instruction acts, and nothing else. -/
theorem executeArmMemory_conditional (instruction : U32) (cpu : Arm7tdmi) :
    if cpu.conditionPassed (decodeCondition instruction) then
      executeArmMemory callbacks instruction cpu bus =
        executeArmMemory callbacks (alwaysWord instruction) cpu bus
    else cpu.SkipsMemory bus (executeArmMemory callbacks instruction cpu bus) := by
  split
  · next h => exact (executeArmMemory_always callbacks bus h).symm
  · next h => exact executeArmMemory_failed callbacks bus (Bool.not_eq_true _ ▸ h)

end Always

end Arm7tdmi

/-! ## Comparisons -/

/-- What a condition says of two words after a comparison. -/
def ArmCondition.relates (left right : U32) : ArmCondition → Bool
  | .eq => left = right
  | .ne => left ≠ right
  | .cs => right.toNat ≤ left.toNat
  | .cc => left.toNat < right.toNat
  | .mi => (left - right).toInt < 0
  | .pl => 0 ≤ (left - right).toInt
  | .vs => ¬Fits 32 (left.toInt - right.toInt)
  | .vc => Fits 32 (left.toInt - right.toInt)
  | .hi => right.toNat < left.toNat
  | .ls => left.toNat ≤ right.toNat
  | .ge => right.toInt ≤ left.toInt
  | .lt => left.toInt < right.toInt
  | .gt => right.toInt < left.toInt
  | .le => left.toInt ≤ right.toInt
  | .al => true

namespace Arm7tdmi

/-! The four flags after a comparison, each as what it says of the compared words. -/

section Compared

variable (cpu : Arm7tdmi) (left right : U32)

theorem compared_zero :
    (cpu.setSubFlags left right (left - right)).zero = decide (left = right) := by
  show decide (left - right = 0) = decide (left = right)
  rw [decide_eq_decide]
  exact sub_eq_zero

theorem compared_negative :
    (cpu.setSubFlags left right (left - right)).negative = decide ((left - right).toInt < 0) := by
  show (left - right).msb = _
  exact BitVec.msb_eq_toInt

theorem compared_carry :
    (cpu.setSubFlags left right (left - right)).carry = decide (right.toNat ≤ left.toNat) := rfl

theorem compared_overflow :
    (cpu.setSubFlags left right (left - right)).overflow =
      decide (¬Fits 32 (left.toInt - right.toInt)) := by
  rw [setSubFlags_exact cpu left right cpu.carry]
  rfl

/-- The sign of a difference, corrected by the overflow, is that of the exact difference. -/
theorem compared_less :
    (decide ((left - right).toInt < 0) == decide (¬Fits 32 (left.toInt - right.toInt))) =
      decide (right.toInt ≤ left.toInt) := by
  have hleft := left.toInt_lt
  have hleft' := left.le_toInt
  have hright := right.toInt_lt
  have hright' := right.le_toInt
  have hsign := @ofInt_neg_iff (left.toInt - right.toInt) (by omega)
  -- a wrong sign and an overflow cancel
  rw [ofInt_sub] at hsign
  rw [Bool.eq_iff_iff, beq_iff_eq, decide_eq_decide, decide_eq_true_eq, fits_32]
  omega

/-- After a comparison a condition passes exactly where it holds of the compared words. -/
theorem compared_passed (condition : ArmCondition) :
    condition.passed (cpu.setSubFlags left right (left - right)) =
      condition.relates left right := by
  have hwords : left = right ↔ left.toNat = right.toNat := BitVec.toNat_inj.symm
  have hsigned : left = right ↔ left.toInt = right.toInt := BitVec.toInt_inj.symm
  unfold ArmCondition.passed ArmCondition.relates
  rw [compared_zero, compared_negative, compared_carry, compared_overflow]
  cases condition with
  | eq | cs | mi | vs | al => rfl
  | ne => exact decide_not.symm
  | vc =>
    dsimp only
    rw [← decide_not, decide_eq_decide]
    exact not_not
  | cc | pl =>
    dsimp only
    rw [← decide_not, decide_eq_decide]
    omega
  | hi =>
    dsimp only
    rw [← decide_not, ← Bool.decide_and, decide_eq_decide, hwords]
    omega
  | ls =>
    dsimp only
    rw [← decide_not, ← Bool.decide_or, decide_eq_decide, hwords]
    omega
  | ge => exact compared_less left right
  | lt =>
    dsimp only
    rw [bne, compared_less, ← decide_not, decide_eq_decide]
    omega
  | gt =>
    dsimp only
    rw [compared_less, ← decide_not, ← Bool.decide_and, decide_eq_decide, hsigned]
    omega
  | le =>
    dsimp only
    rw [bne, compared_less, ← decide_not, ← Bool.decide_or, decide_eq_decide, hsigned]
    omega

end Compared

/-- An instruction after a comparison acts exactly where its condition holds of the compared words:
then as under `al`, and otherwise not at all. -/
theorem compare_conditional {σ : Type} (callbacks : MemoryBusIoCallbacks σ) (bus : BusState σ)
    (cpu : Arm7tdmi) {decoded : DecodedArmInstruction} (hcompare : decoded.opcode = .cmp)
    (pcOffset : U32) {instruction : U32} {condition : ArmCondition}
    (hcondition : decodeCondition instruction = some condition) :
    let compared := cpu.executeDataProcessing decoded pcOffset
    if condition.relates (cpu.leftOperand decoded pcOffset) decoded.operand2 then
      executeArmMemory callbacks instruction compared bus =
        executeArmMemory callbacks (alwaysWord instruction) compared bus
    else compared.SkipsMemory bus (executeArmMemory callbacks instruction compared bus) := by
  intro compared
  have hcompared : compared = cpu.setSubFlags (cpu.leftOperand decoded pcOffset) decoded.operand2
      (cpu.leftOperand decoded pcOffset - decoded.operand2) := by
    unfold compared executeDataProcessing
    rw [hcompare]
    rfl
  have hpassed : compared.conditionPassed (decodeCondition instruction) =
      condition.relates (cpu.leftOperand decoded pcOffset) decoded.operand2 := by
    rw [hcondition, hcompared]
    exact compared_passed cpu _ _ condition
  split
  · next h => exact (executeArmMemory_always callbacks bus (hpassed.trans h)).symm
  · next h =>
    exact executeArmMemory_failed callbacks bus (hpassed.trans (Bool.not_eq_true _ ▸ h))

/-- `CMP r0, #1` in the reset state, and then `MOVNE r1, #42`. -/
theorem compare_conditional_ne :
    let compared := Arm7tdmi.reset.executeDataProcessing
      ⟨some .al, .cmp, true, 0, 0, 1, false, false⟩ 8
    executeArmMemory ioCallbacks 0x13A0102A#32 compared ⟨MemoryBus.initial, .reset⟩ =
      executeArmMemory ioCallbacks 0xE3A0102A#32 compared ⟨MemoryBus.initial, .reset⟩ := by
  intro compared
  have hconditional := @compare_conditional _ ioCallbacks ⟨MemoryBus.initial, .reset⟩
    Arm7tdmi.reset ⟨some .al, .cmp, true, 0, 0, 1, false, false⟩ rfl 8 0x13A0102A#32 .ne rfl
  have hrelates : ArmCondition.relates 0 1 .ne = true := by decide
  exact Eq.mp (if_pos hrelates) hconditional

end Arm7tdmi

end Gba.Core
