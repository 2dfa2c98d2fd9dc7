import Gba.Core.ArmEncode
import Gba.Core.CpuStep

/-!
# Decoders that agree

`arm7tdmi.cpp` tests the classes of ARM instructions in three places, each in an order of its own:
to execute an instruction, to estimate its cycles and to find the address of its first data access.
A word has one class for all three, but for the coprocessor space, where the executor lets an
instruction pass that the estimator does not know.
-/

namespace Gba.Core

open Arm7tdmi

/-- The classes of ARM instructions that have an estimate. -/
inductive ArmClass where
  | softwareInterrupt
  | swap
  | blockTransfer
  | halfwordTransfer
  | singleTransfer
  | psrTransfer
  | branch
  | branchExchange
  | multiplyLong
  | multiply
  | dataProcessing
  deriving DecidableEq, Repr

namespace ArmClass

/-- The classes that access memory. -/
def isTransfer : ArmClass → Bool
  | swap | blockTransfer | halfwordTransfer | singleTransfer => true
  | _ => false

/-- What an instruction of a class does without memory. -/
def executeAlone (kind : ArmClass) (instruction : U32) (cpu : Arm7tdmi) : Execution :=
  match kind with
  | softwareInterrupt =>
      cpu.onCondition (decodeCondition instruction) ⟨.executed, cpu.enterException .softwareInterrupt⟩
  | psrTransfer =>
      let decoded := decodePsrTransfer instruction
      cpu.onCondition decoded.condition (cpu.executePsrTransfer decoded)
  | branch =>
      let decoded := decodeBranch instruction
      cpu.onCondition decoded.condition ⟨.executed, cpu.executeBranch decoded⟩
  | branchExchange =>
      let decoded := decodeBranchExchange instruction
      cpu.onCondition decoded.condition
        ⟨.executed, cpu.branchExchange (cpu.armVisibleRegisterValue decoded.rm)⟩
  | multiplyLong =>
      let decoded := decodeMultiplyLong instruction
      cpu.onCondition decoded.condition ⟨.executed, cpu.executeMultiplyLong decoded⟩
  | multiply =>
      let decoded := decodeMultiply instruction
      cpu.onCondition decoded.condition ⟨.executed, cpu.executeMultiply decoded⟩
  | dataProcessing =>
      let rm := registerField instruction 0
      if canDecodeDataProcessingImmediate instruction then
        let decoded := decodeDataProcessingImmediate instruction
        cpu.onCondition decoded.condition ⟨.executed, cpu.executeDataProcessing decoded 8⟩
      else if isRegisterShift instruction then
        let decoded := decodeDataProcessingRegisterShift instruction
          (cpu.registerShiftVisibleValue rm)
          (cpu.registerShiftVisibleValue (registerField instruction 8))
        cpu.onCondition decoded.condition ⟨.executed, cpu.executeDataProcessing decoded 12⟩
      else
        let decoded := decodeDataProcessingImmediateShift instruction
          (cpu.armVisibleRegisterValue rm) cpu.carry
        cpu.onCondition decoded.condition ⟨.executed, cpu.executeDataProcessing decoded 8⟩
  | swap | blockTransfer | halfwordTransfer | singleTransfer => ⟨.unsupported, cpu⟩

/-- What an instruction of a class does with memory. -/
def execute {σ : Type} (callbacks : MemoryBusIoCallbacks σ) (kind : ArmClass) (instruction : U32)
    (cpu : Arm7tdmi) (bus : BusState σ) : MemoryExecution σ :=
  let skipped : MemoryExecution σ := ⟨.skippedCondition, cpu, bus⟩
  match kind with
  | swap => cpu.executeSwap callbacks (decodeSwap instruction) bus
  | blockTransfer =>
      let decoded := decodeBlockDataTransfer instruction
      if !cpu.conditionPassed decoded.condition then skipped
      else cpu.executeBlockTransfer callbacks decoded (instruction.getLsbD 22) bus
  | halfwordTransfer =>
      let decoded := cpu.decodeHalfword instruction
      if !cpu.conditionPassed decoded.condition then skipped
      else cpu.executeHalfwordTransfer callbacks decoded bus
  | singleTransfer =>
      let decoded := cpu.decodeSingle instruction
      if !cpu.conditionPassed decoded.condition then skipped
      else cpu.executeSingleTransfer callbacks decoded bus
  | other => (other.executeAlone instruction cpu).withBus bus

/-- The estimate for an instruction of a class. -/
def cycles (kind : ArmClass) (instruction : U32) : ArmCycleEstimate :=
  match kind with
  | softwareInterrupt | branch | branchExchange => branchCycleEstimate
  | swap => ⟨0, 2, 1, false⟩
  | psrTransfer => ⟨1, 0, 0, false⟩
  | multiplyLong => multiplyCycleEstimate true (instruction.getLsbD 21)
  | multiply => multiplyCycleEstimate (instruction.getLsbD 21) false
  | blockTransfer => blockTransferCycleEstimate instruction
  | halfwordTransfer | singleTransfer => singleTransferCycleEstimate instruction
  | dataProcessing => dataProcessingCycleEstimate instruction

/-- The first address that an instruction of a class accesses. -/
def address (kind : ArmClass) (instruction : U32) (cpu : Arm7tdmi) : Option U32 :=
  let transferAddress (rn : Fin 16) (offset : U32) (preIndex up : Bool) : U32 :=
    let base := cpu.armVisibleRegisterValue rn
    if preIndex then offsetTransferAddress base offset up else base
  match kind with
  | swap => some (cpu.registers (registerField instruction 16))
  | blockTransfer =>
      let decoded := decodeBlockDataTransfer instruction
      some (blockTransferAddress (cpu.registers decoded.rn) (countRegisters decoded.registerList)
        decoded.preIndex decoded.up).first
  | halfwordTransfer =>
      let decoded := cpu.decodeHalfword instruction
      some (transferAddress decoded.rn decoded.offset decoded.preIndex decoded.up)
  | singleTransfer =>
      let decoded := cpu.decodeSingle instruction
      some (transferAddress decoded.rn decoded.offset decoded.preIndex decoded.up)
  | _ => none

end ArmClass

/-- A word is executed, timed and looked up as one class; none stands for the words that no
condition lets pass. -/
structure ClassifiedAs {σ : Type} (callbacks : MemoryBusIoCallbacks σ) (instruction : U32)
    (kind : Option ArmClass) : Prop where
  never : kind = none ↔ supportedCondition instruction = false
  executed : ∀ cpu bus, executeArmMemory callbacks instruction cpu bus =
    (kind.elim ⟨.skippedCondition, cpu, bus⟩ fun kind =>
      kind.execute callbacks instruction cpu bus)
  executedAlone : ∀ cpu, executeArm instruction cpu =
    (kind.elim ⟨.skippedCondition, cpu⟩ fun kind => kind.executeAlone instruction cpu)
  untouched : kind.any ArmClass.isTransfer = false → ∀ cpu bus,
    (executeArmMemory callbacks instruction cpu bus).bus = bus
  timed : estimateArmCycles instruction = kind.map fun kind => kind.cycles instruction
  timedWithMemory : canEstimateMemoryElapsedCycles instruction = kind.any ArmClass.isTransfer
  addressed : ∀ cpu, cpu.firstDataAddress instruction =
    kind.bind fun kind => kind.address instruction cpu
  conditioned : ∀ cpu : Arm7tdmi, cpu.memoryConditionPassed instruction =
    (!kind.any ArmClass.isTransfer || cpu.conditionPassed (decodeCondition instruction))

/-- The word lies in the coprocessor space that the executor lets pass. -/
def inCoprocessorSpace (instruction : U32) : Prop :=
  supportedCondition instruction = true ∧ instruction.extractLsb' 24 4 = 0xE#4

/-- The class of a word that is no software interrupt and no transfer. -/
def otherClass (instruction : U32) : Option ArmClass :=
  if canDecodePsrTransfer instruction then some .psrTransfer
  else if canDecodeBranch instruction then some .branch
  else if canDecodeBranchExchange instruction then some .branchExchange
  else if canDecodeMultiplyLong instruction then some .multiplyLong
  else if canDecodeMultiply instruction then some .multiply
  else if canDecodeDataProcessingImmediate instruction ||
      canDecodeDataProcessingRegisterShift instruction then some .dataProcessing
  else none

/-- The class of a word, in the order of the executor. -/
def armClass (instruction : U32) : Option ArmClass :=
  if canDecodeSoftwareInterrupt instruction then some .softwareInterrupt
  else if canDecodeSwap instruction then some .swap
  else if canDecodeBlockDataTransfer instruction then some .blockTransfer
  else if canDecodeHalfwordDataTransfer instruction then some .halfwordTransfer
  else if canDecodeSingleDataTransfer instruction then some .singleTransfer
  else otherClass instruction

/-! ## Classes that exclude each other -/

section Groups

variable {instruction : U32}

/-- The bits 25 to 27 of a word. -/
def classGroup (instruction : U32) : BitVec 3 := instruction.extractLsb' 25 3

theorem group_of_softwareInterrupt (h : canDecodeSoftwareInterrupt instruction = true) :
    classGroup instruction = 0x7#3 := by
  unfold canDecodeSoftwareInterrupt at h
  simp only [Bool.and_eq_true, decide_eq_true_eq] at h
  exact (field_of_field h.2 (by decide) (by decide)).trans rfl

theorem group_of_coprocessor (h : instruction.extractLsb' 24 4 = 0xE#4) :
    classGroup instruction = 0x7#3 :=
  (field_of_field h (by decide) (by decide)).trans rfl

theorem group_of_block (h : canDecodeBlockDataTransfer instruction = true) :
    classGroup instruction = 0x4#3 := by
  unfold canDecodeBlockDataTransfer at h
  simp only [Bool.and_eq_true, decide_eq_true_eq] at h
  exact h.1.1.1

theorem group_of_branch (h : canDecodeBranch instruction = true) : classGroup instruction = 0x5#3 := by
  unfold canDecodeBranch at h
  simp only [Bool.and_eq_true, decide_eq_true_eq] at h
  exact h.1

theorem group_of_single (h : canDecodeSingleDataTransfer instruction = true) :
    classGroup instruction = 0x2#3 ∨ classGroup instruction = 0x3#3 := by
  have hfield : instruction.extractLsb' 26 2 = 0x1#2 := by
    unfold canDecodeSingleDataTransfer canDecodeSingleDataTransferImmediate
      canDecodeSingleDataTransferRegister at h
    simp only [Bool.or_eq_true, Bool.and_eq_true, decide_eq_true_eq] at h
    rcases h with h | h
    · exact h.1.1
    · exact h.1.1.1
  have hinner : (classGroup instruction).extractLsb' 1 2 = 0x1#2 :=
    (field_of_field (v := classGroup instruction) rfl (by decide) (by decide)).symm.trans hfield
  generalize classGroup instruction = value at hinner ⊢
  revert value
  decide

/-- What the fields of halfword transfers have in common. -/
theorem group_of_halfword (h : canDecodeHalfwordDataTransfer instruction = true) :
    classGroup instruction = 0#3 ∧ instruction.getLsbD 4 = true ∧ instruction.getLsbD 7 = true ∧
      instruction.extractLsb' 5 2 ≠ 0#2 := by
  have hboth : isHalfwordTransfer instruction = true := by
    unfold canDecodeHalfwordDataTransfer canDecodeHalfwordDataTransferImmediate
      canDecodeHalfwordDataTransferRegister at h
    simp only [Bool.or_eq_true, Bool.and_eq_true] at h
    rcases h with h | h
    · exact h.2
    · exact h.2
  unfold isHalfwordTransfer at hboth
  simp only [Bool.and_eq_true, Bool.or_eq_true, decide_eq_true_eq] at hboth
  obtain ⟨⟨⟨⟨hgroup, hseven⟩, hfour⟩, hkind⟩, -⟩ := hboth
  refine ⟨hgroup, hfour, hseven, fun hzero => ?_⟩
  rw [hzero] at hkind
  exact absurd hkind (by simp)

theorem group_of_swap (h : canDecodeSwap instruction = true) : classGroup instruction = 0#3 := by
  unfold canDecodeSwap at h
  simp only [Bool.and_eq_true, decide_eq_true_eq] at h
  exact (field_of_field h.1.1.1.1.1.1 (by decide) (by decide)).trans rfl

theorem group_of_multiply (h : canDecodeMultiply instruction = true) :
    classGroup instruction = 0#3 ∧ instruction.extractLsb' 4 4 = 0x9#4 := by
  unfold canDecodeMultiply at h
  simp only [Bool.and_eq_true, decide_eq_true_eq] at h
  exact ⟨(field_of_field h.1.1 (by decide) (by decide)).trans rfl, h.1.2⟩

theorem group_of_multiplyLong (h : canDecodeMultiplyLong instruction = true) :
    classGroup instruction = 0#3 ∧ instruction.extractLsb' 4 4 = 0x9#4 := by
  unfold canDecodeMultiplyLong at h
  simp only [Bool.and_eq_true, decide_eq_true_eq] at h
  exact ⟨(field_of_field h.1.1 (by decide) (by decide)).trans rfl, h.1.2⟩

theorem group_of_branchExchange (h : canDecodeBranchExchange instruction = true) :
    classGroup instruction = 0#3 ∧ instruction.getLsbD 7 = false := by
  unfold canDecodeBranchExchange at h
  simp only [Bool.and_eq_true, decide_eq_true_eq] at h
  exact ⟨(field_of_field h.1 (by decide) (by decide)).trans rfl,
    getLsbD_of_field h.1 (show 3 < 24 by decide)⟩

theorem group_of_psr (h : canDecodePsrTransfer instruction = true) :
    classGroup instruction = 0#3 ∧ instruction.getLsbD 4 = false ∨ classGroup instruction = 0x1#3 := by
  unfold canDecodePsrTransfer isMrs at h
  simp only [Bool.and_eq_true, Bool.or_eq_true, decide_eq_true_eq] at h
  rcases h.2 with ⟨⟨hgroup, -⟩, hlow⟩ | ⟨⟨hgroup, hlow⟩, -⟩ | ⟨hgroup, -⟩
  · exact .inl ⟨(field_of_field hgroup (by decide) (by decide)).trans rfl,
      getLsbD_of_field hlow (show 4 < 12 by decide)⟩
  · exact .inl ⟨(field_of_field hgroup (by decide) (by decide)).trans rfl,
      getLsbD_of_field hlow (show 0 < 8 by decide)⟩
  · exact .inr ((field_of_field hgroup (by decide) (by decide)).trans rfl)

theorem group_of_dataProcessing (h : (canDecodeDataProcessingImmediate instruction ||
    canDecodeDataProcessingRegisterShift instruction) = true) :
    classGroup instruction = 0#3 ∧ canDecodeSwap instruction = false ∧
        (instruction.getLsbD 4 = false ∨ instruction.getLsbD 7 = false) ∨
      classGroup instruction = 0x1#3 := by
  have hbit : (classGroup instruction).getLsbD 0 = instruction.getLsbD 25 :=
    (getLsbD_of_field (v := classGroup instruction) rfl (show 0 < 3 by decide)).symm
  have hinner : instruction.extractLsb' 26 2 = (classGroup instruction).extractLsb' 1 2 :=
    field_of_field (v := classGroup instruction) rfl (by decide) (by decide)
  have hlow : instruction.extractLsb' 26 2 = 0#2 →
      classGroup instruction = if instruction.getLsbD 25 then 0x1#3 else 0#3 := by
    rw [hinner, ← hbit]
    generalize classGroup instruction = value
    revert value
    decide
  unfold canDecodeDataProcessingImmediate canDecodeDataProcessingRegisterShift isRegisterShift at h
  simp only [Bool.or_eq_true, Bool.and_eq_true, Bool.not_eq_true', Bool.or_eq_false_iff,
    decide_eq_true_eq] at h
  rcases h with ⟨⟨⟨-, htop⟩, hset⟩, -⟩ | ⟨⟨⟨⟨⟨-, hswap⟩, htop⟩, hclear⟩, hshift⟩, -⟩
  · refine .inr ((hlow htop).trans ?_)
    rw [hset]
    rfl
  · refine .inl ⟨(hlow htop).trans ?_, hswap, hshift.imp_right And.right⟩
    rw [hclear]
    rfl

/-- The classes that a transfer is none of. -/
structure OnlyTransfer (instruction : U32) : Prop where
  not_psr : canDecodePsrTransfer instruction = false
  not_branch : canDecodeBranch instruction = false
  not_branchExchange : canDecodeBranchExchange instruction = false
  not_multiplyLong : canDecodeMultiplyLong instruction = false
  not_multiply : canDecodeMultiply instruction = false
  not_dataProcessing : (canDecodeDataProcessingImmediate instruction ||
    canDecodeDataProcessingRegisterShift instruction) = false

/-- The groups of the other classes are 0, 1 and 5. -/
theorem onlyTransfer_of_group (h : classGroup instruction ≠ 0#3 ∧ classGroup instruction ≠ 0x1#3 ∧
    classGroup instruction ≠ 0x5#3) : OnlyTransfer instruction := by
  obtain ⟨hzero, hone, hfive⟩ := h
  refine ⟨?_, ?_, ?_, ?_, ?_, ?_⟩ <;> refine Bool.eq_false_iff.mpr fun hclass => ?_
  · exact (group_of_psr hclass).elim (fun h => hzero h.1) hone
  · exact hfive (group_of_branch hclass)
  · exact hzero (group_of_branchExchange hclass).1
  · exact hzero (group_of_multiplyLong hclass).1
  · exact hzero (group_of_multiply hclass).1
  · exact (group_of_dataProcessing hclass).elim (fun h => hzero h.1) hone

theorem onlyTransfer_of_block (h : canDecodeBlockDataTransfer instruction = true) :
    OnlyTransfer instruction := by
  refine onlyTransfer_of_group ?_
  rw [group_of_block h]
  decide

theorem onlyTransfer_of_single (h : canDecodeSingleDataTransfer instruction = true) :
    OnlyTransfer instruction := by
  refine onlyTransfer_of_group ?_
  rcases group_of_single h with h | h <;> rw [h] <;> decide

/-- Halfword transfers share their group with other classes, but not the bits 4 to 7. -/
theorem onlyTransfer_of_halfword (h : canDecodeHalfwordDataTransfer instruction = true) :
    OnlyTransfer instruction := by
  obtain ⟨hgroup, hfour, hseven, hkind⟩ := group_of_halfword h
  have hmultiply : instruction.extractLsb' 4 4 ≠ 0x9#4 := fun hfield =>
    hkind ((field_of_field hfield (by decide) (by decide)).trans rfl)
  have hother : ∀ value : BitVec 3, value ≠ 0#3 → classGroup instruction ≠ value :=
    fun value hne heq => hne (heq.symm.trans hgroup)
  refine ⟨?_, ?_, ?_, ?_, ?_, ?_⟩ <;> refine Bool.eq_false_iff.mpr fun hclass => ?_
  · rcases group_of_psr hclass with ⟨-, hclear⟩ | hone
    · exact Bool.noConfusion (hfour.symm.trans hclear)
    · exact hother _ (by decide) hone
  · exact hother _ (by decide) (group_of_branch hclass)
  · exact Bool.noConfusion (hseven.symm.trans (group_of_branchExchange hclass).2)
  · exact hmultiply (group_of_multiplyLong hclass).2
  · exact hmultiply (group_of_multiply hclass).2
  · rcases group_of_dataProcessing hclass with ⟨-, -, hclear | hclear⟩ | hone
    · exact Bool.noConfusion (hfour.symm.trans hclear)
    · exact Bool.noConfusion (hseven.symm.trans hclear)
    · exact hother _ (by decide) hone

/-- Swaps share their group with other classes, but not the bits 4 to 7 or those above 22. -/
theorem onlyTransfer_of_swap (h : canDecodeSwap instruction = true) : OnlyTransfer instruction := by
  have hgroup := group_of_swap h
  have hother : ∀ value : BitVec 3, value ≠ 0#3 → classGroup instruction ≠ value :=
    fun value hne heq => hne (heq.symm.trans hgroup)
  obtain ⟨htop, hlow⟩ : instruction.extractLsb' 23 5 = 0x2#5 ∧
      instruction.extractLsb' 4 8 = 0x9#8 := by
    unfold canDecodeSwap at h
    simp only [Bool.and_eq_true, decide_eq_true_eq] at h
    exact ⟨h.1.1.1.1.1.1, h.1.1.1.1.2⟩
  have hfour : instruction.getLsbD 4 = true := getLsbD_of_field hlow (show 0 < 8 by decide)
  have hseven : instruction.getLsbD 7 = true := getLsbD_of_field hlow (show 3 < 8 by decide)
  refine ⟨?_, ?_, ?_, ?_, ?_, ?_⟩ <;> refine Bool.eq_false_iff.mpr fun hclass => ?_
  · rcases group_of_psr hclass with ⟨-, hclear⟩ | hone
    · exact Bool.noConfusion (hfour.symm.trans hclear)
    · exact hother _ (by decide) hone
  · exact hother _ (by decide) (group_of_branch hclass)
  · exact Bool.noConfusion (hseven.symm.trans (group_of_branchExchange hclass).2)
  · unfold canDecodeMultiplyLong at hclass
    rw [htop] at hclass
    exact Bool.noConfusion hclass
  · unfold canDecodeMultiply at hclass
    simp only [Bool.and_eq_true, decide_eq_true_eq] at hclass
    have hzero := htop.symm.trans (field_of_field hclass.1.1 (by decide) (by decide))
    exact absurd hzero (by decide)
  · rcases group_of_dataProcessing hclass with ⟨-, hswap, -⟩ | hone
    · exact Bool.noConfusion (h.symm.trans hswap)
    · exact hother _ (by decide) hone

/-- The classes that the group of software interrupts excludes. -/
structure OnlySystem (instruction : U32) : Prop extends OnlyTransfer instruction where
  not_swap : canDecodeSwap instruction = false
  not_block : canDecodeBlockDataTransfer instruction = false
  not_halfword : canDecodeHalfwordDataTransfer instruction = false
  not_single : canDecodeSingleDataTransfer instruction = false

theorem onlySystem_of_group (h : classGroup instruction = 0x7#3) : OnlySystem instruction := by
  have hother : ∀ value : BitVec 3, value ≠ 0x7#3 → classGroup instruction ≠ value :=
    fun value hne heq => hne (heq.symm.trans h)
  refine ⟨onlyTransfer_of_group ?_, ?_, ?_, ?_, ?_⟩
  · rw [h]
    decide
  all_goals refine Bool.eq_false_iff.mpr fun hclass => ?_
  · exact hother _ (by decide) (group_of_swap hclass)
  · exact hother _ (by decide) (group_of_block hclass)
  · exact hother _ (by decide) (group_of_halfword hclass).1
  · rcases group_of_single hclass with h | h
    · exact hother _ (by decide) h
    · exact hother _ (by decide) h

end Groups

/-! ## The three decoders -/

section Decoders

variable {instruction : U32}

/-- The estimator and the executor order the classes differently, and find the same one. -/
theorem estimateArmCycles_class (instruction : U32) :
    estimateArmCycles instruction = (armClass instruction).map fun kind =>
      kind.cycles instruction := by
  unfold estimateArmCycles armClass
  dsimp only
  by_cases hinterrupt : canDecodeSoftwareInterrupt instruction = true
  · rw [if_pos hinterrupt, if_pos hinterrupt]
    rfl
  rw [if_neg hinterrupt, if_neg hinterrupt]
  by_cases hswap : canDecodeSwap instruction = true
  · rw [if_pos hswap, if_pos hswap]
    rfl
  rw [if_neg hswap, if_neg hswap]
  by_cases hblock : canDecodeBlockDataTransfer instruction = true
  · have honly := onlyTransfer_of_block hblock
    simp only [honly.not_psr, honly.not_branch, honly.not_branchExchange, honly.not_multiplyLong,
      honly.not_multiply, hblock, Bool.false_eq_true, if_false, if_true]
    rfl
  by_cases hhalfword : canDecodeHalfwordDataTransfer instruction = true
  · have honly := onlyTransfer_of_halfword hhalfword
    simp only [honly.not_psr, honly.not_branch, honly.not_branchExchange, honly.not_multiplyLong,
      honly.not_multiply, hblock, hhalfword, Bool.or_true, Bool.false_eq_true, if_false, if_true]
    rfl
  by_cases hsingle : canDecodeSingleDataTransfer instruction = true
  · have honly := onlyTransfer_of_single hsingle
    simp only [honly.not_psr, honly.not_branch, honly.not_branchExchange, honly.not_multiplyLong,
      honly.not_multiply, hblock, hhalfword, hsingle, Bool.true_or, Bool.false_eq_true, if_false,
      if_true]
    rfl
  -- the rest is tested in the same order
  rw [if_neg hblock, if_neg hblock, if_neg hhalfword, if_neg hsingle]
  have hneither : ¬(canDecodeSingleDataTransfer instruction ||
      canDecodeHalfwordDataTransfer instruction) = true := by
    simp [hsingle, hhalfword]
  unfold otherClass
  by_cases hpsr : canDecodePsrTransfer instruction = true
  · rw [if_pos hpsr, if_pos hpsr]
    rfl
  rw [if_neg hpsr, if_neg hpsr]
  by_cases hbranch : canDecodeBranch instruction = true
  · rw [if_pos hbranch, if_pos hbranch]
    rfl
  rw [if_neg hbranch, if_neg hbranch]
  by_cases hexchange : canDecodeBranchExchange instruction = true
  · rw [if_pos hexchange, if_pos hexchange]
    rfl
  rw [if_neg hexchange, if_neg hexchange]
  by_cases hlong : canDecodeMultiplyLong instruction = true
  · rw [if_pos hlong, if_pos hlong]
    rfl
  rw [if_neg hlong, if_neg hlong]
  by_cases hmultiply : canDecodeMultiply instruction = true
  · rw [if_pos hmultiply, if_pos hmultiply]
    rfl
  rw [if_neg hmultiply, if_neg hmultiply]
  by_cases hdata : (canDecodeDataProcessingImmediate instruction ||
      canDecodeDataProcessingRegisterShift instruction) = true
  · rw [if_pos hdata, if_neg hneither, if_pos hdata]
    rfl
  rw [if_neg hdata, if_neg hneither, if_neg hdata]
  rfl

/-- The other classes are no transfers. -/
theorem otherClass_any (instruction : U32) :
    (otherClass instruction).any ArmClass.isTransfer = false := by
  unfold otherClass
  by_cases hpsr : canDecodePsrTransfer instruction = true
  · rw [if_pos hpsr]
    rfl
  rw [if_neg hpsr]
  by_cases hbranch : canDecodeBranch instruction = true
  · rw [if_pos hbranch]
    rfl
  rw [if_neg hbranch]
  by_cases hexchange : canDecodeBranchExchange instruction = true
  · rw [if_pos hexchange]
    rfl
  rw [if_neg hexchange]
  by_cases hlong : canDecodeMultiplyLong instruction = true
  · rw [if_pos hlong]
    rfl
  rw [if_neg hlong]
  by_cases hmultiply : canDecodeMultiply instruction = true
  · rw [if_pos hmultiply]
    rfl
  rw [if_neg hmultiply]
  by_cases hdata : (canDecodeDataProcessingImmediate instruction ||
      canDecodeDataProcessingRegisterShift instruction) = true
  · rw [if_pos hdata]
    rfl
  rw [if_neg hdata]
  rfl

/-- No class has the condition that never passes. -/
theorem supported_of_class {kind : ArmClass} (h : armClass instruction = some kind) :
    supportedCondition instruction = true := by
  by_contra hnever
  rw [Bool.not_eq_true] at hnever
  have hnone : armClass instruction = none := by
    unfold armClass otherClass canDecodeSoftwareInterrupt canDecodeSwap canDecodeBlockDataTransfer
      canDecodeHalfwordDataTransfer canDecodeHalfwordDataTransferImmediate
      canDecodeHalfwordDataTransferRegister isHalfwordTransfer canDecodeSingleDataTransfer
      canDecodeSingleDataTransferImmediate canDecodeSingleDataTransferRegister
      canDecodePsrTransfer canDecodeBranch canDecodeBranchExchange canDecodeMultiplyLong
      canDecodeMultiply canDecodeDataProcessingImmediate canDecodeDataProcessingRegisterShift
    simp only [hnever, Bool.false_and, Bool.and_false, Bool.or_self, Bool.false_eq_true, if_false]
  exact absurd (hnone.symm.trans h) (by simp)

theorem firstDataAddress_class (instruction : U32) (cpu : Arm7tdmi) :
    cpu.firstDataAddress instruction =
      (armClass instruction).bind fun kind => kind.address instruction cpu := by
  unfold firstDataAddress armClass
  dsimp only
  by_cases hinterrupt : canDecodeSoftwareInterrupt instruction = true
  · have honly := onlySystem_of_group (group_of_softwareInterrupt hinterrupt)
    simp only [honly.not_swap, honly.not_block, honly.not_halfword, honly.not_single, hinterrupt,
      Bool.false_eq_true, if_false, if_true]
    rfl
  rw [if_neg hinterrupt]
  by_cases hswap : canDecodeSwap instruction = true
  · rw [if_pos hswap, if_pos hswap]
    rfl
  rw [if_neg hswap, if_neg hswap]
  by_cases hblock : canDecodeBlockDataTransfer instruction = true
  · rw [if_pos hblock, if_pos hblock]
    rfl
  rw [if_neg hblock, if_neg hblock]
  by_cases hhalfword : canDecodeHalfwordDataTransfer instruction = true
  · rw [if_pos hhalfword, if_pos hhalfword]
    rfl
  rw [if_neg hhalfword, if_neg hhalfword]
  by_cases hsingle : canDecodeSingleDataTransfer instruction = true
  · rw [if_pos hsingle, if_pos hsingle]
    rfl
  rw [if_neg hsingle, if_neg hsingle]
  have hother := otherClass_any instruction
  cases hkind : otherClass instruction with
  | none => rfl
  | some kind =>
    rw [hkind] at hother
    cases kind with
    | swap | blockTransfer | halfwordTransfer | singleTransfer => exact Bool.noConfusion hother
    | _ => rfl

theorem memoryConditionPassed_class (instruction : U32) (cpu : Arm7tdmi) :
    cpu.memoryConditionPassed instruction =
      (!(armClass instruction).any ArmClass.isTransfer ||
        cpu.conditionPassed (decodeCondition instruction)) := by
  have hhalfword : (cpu.decodeHalfword instruction).condition = decodeCondition instruction := by
    unfold decodeHalfword
    split <;> rfl
  have hsingle : (cpu.decodeSingle instruction).condition = decodeCondition instruction := by
    unfold decodeSingle
    split <;> rfl
  unfold memoryConditionPassed armClass
  rw [hhalfword, hsingle]
  by_cases hinterrupt : canDecodeSoftwareInterrupt instruction = true
  · have honly := onlySystem_of_group (group_of_softwareInterrupt hinterrupt)
    simp only [honly.not_swap, honly.not_block, honly.not_halfword, honly.not_single, hinterrupt,
      Bool.false_eq_true, if_false, if_true]
    rfl
  rw [if_neg hinterrupt]
  by_cases hswap : canDecodeSwap instruction = true
  · rw [if_pos hswap, if_pos hswap]
    rfl
  rw [if_neg hswap, if_neg hswap]
  by_cases hblock : canDecodeBlockDataTransfer instruction = true
  · rw [if_pos hblock, if_pos hblock]
    rfl
  rw [if_neg hblock, if_neg hblock]
  by_cases hhalf : canDecodeHalfwordDataTransfer instruction = true
  · rw [if_pos hhalf, if_pos hhalf]
    rfl
  rw [if_neg hhalf, if_neg hhalf]
  by_cases hword : canDecodeSingleDataTransfer instruction = true
  · rw [if_pos hword, if_pos hword]
    rfl
  rw [if_neg hword, if_neg hword, otherClass_any]
  rfl

theorem canEstimateMemoryElapsedCycles_class (instruction : U32) :
    canEstimateMemoryElapsedCycles instruction =
      (armClass instruction).any ArmClass.isTransfer := by
  unfold canEstimateMemoryElapsedCycles armClass
  by_cases hinterrupt : canDecodeSoftwareInterrupt instruction = true
  · have honly := onlySystem_of_group (group_of_softwareInterrupt hinterrupt)
    simp only [honly.not_swap, honly.not_block, honly.not_halfword, honly.not_single, hinterrupt,
      Bool.or_self, if_true]
    rfl
  rw [if_neg hinterrupt]
  cases hswap : canDecodeSwap instruction with
  | true =>
    rw [if_pos rfl, Bool.or_true]
    rfl
  | false =>
    cases hblock : canDecodeBlockDataTransfer instruction with
    | true =>
      rw [if_neg Bool.false_ne_true, if_pos rfl, Bool.or_true]
      rfl
    | false =>
      cases hhalfword : canDecodeHalfwordDataTransfer instruction with
      | true =>
        rw [if_neg Bool.false_ne_true, if_neg Bool.false_ne_true, if_pos rfl, Bool.or_true]
        rfl
      | false =>
        cases hsingle : canDecodeSingleDataTransfer instruction with
        | true =>
          rw [if_neg Bool.false_ne_true, if_neg Bool.false_ne_true, if_neg Bool.false_ne_true,
            if_pos rfl]
          rfl
        | false =>
          rw [if_neg Bool.false_ne_true, if_neg Bool.false_ne_true, if_neg Bool.false_ne_true,
            if_neg Bool.false_ne_true, otherClass_any]
          rfl

end Decoders

/-! ## The executor -/

section Executor

variable {instruction : U32}

/-- The classes that come first in the executor. -/
structure NotSystem (instruction : U32) : Prop where
  supported : ¬conditionField instruction = 0xF#4
  not_softwareInterrupt : ¬canDecodeSoftwareInterrupt instruction = true
  not_coprocessor : ¬isCoprocessorSpace instruction = true

theorem notSystem_of_space (hspace : ¬inCoprocessorSpace instruction)
    (hsupported : supportedCondition instruction = true)
    (hinterrupt : ¬canDecodeSoftwareInterrupt instruction = true) : NotSystem instruction := by
  refine ⟨by simpa [supportedCondition] using hsupported, hinterrupt, ?_⟩
  unfold isCoprocessorSpace
  rw [Bool.or_eq_true, decide_eq_true_eq, decide_eq_true_eq]
  rintro (hfield | hfield)
  · exact hspace ⟨hsupported, hfield⟩
  · refine hinterrupt ?_
    unfold canDecodeSoftwareInterrupt
    rw [hsupported, hfield]
    rfl

/-- The executor without memory knows no transfers. -/
theorem executeArm_transfer (h : NotSystem instruction) (honly : OnlyTransfer instruction)
    (cpu : Arm7tdmi) : executeArm instruction cpu = ⟨.unsupported, cpu⟩ := by
  obtain ⟨himmediate, hregister⟩ := Bool.or_eq_false_iff.mp honly.not_dataProcessing
  unfold executeArm
  dsimp only
  rw [if_neg h.supported, if_neg h.not_softwareInterrupt, if_neg h.not_coprocessor]
  simp only [honly.not_psr, honly.not_branch, honly.not_branchExchange, honly.not_multiplyLong,
    honly.not_multiply, himmediate, hregister, Bool.false_eq_true, if_false]

/-- A condition that never passes is tested first. -/
theorem never_class (h : supportedCondition instruction = false) :
    conditionField instruction = 0xF#4 ∧ armClass instruction = none := by
  refine ⟨by simpa [supportedCondition] using h, ?_⟩
  rw [Option.eq_none_iff_forall_ne_some]
  intro kind hkind
  exact Bool.noConfusion (h.symm.trans (supported_of_class hkind))

/-- Outside the coprocessor space an instruction is executed as its class. -/
theorem executeArm_class (hspace : ¬inCoprocessorSpace instruction) (cpu : Arm7tdmi) :
    executeArm instruction cpu =
      (armClass instruction).elim
        ⟨if supportedCondition instruction then .unsupported else .skippedCondition, cpu⟩
        fun kind => kind.executeAlone instruction cpu := by
  cases hsupported : supportedCondition instruction with
  | false =>
    obtain ⟨hfield, hnone⟩ := never_class hsupported
    unfold executeArm
    dsimp only
    rw [if_pos hfield, hnone]
    rfl
  | true =>
    -- the cases are the decoders in the order in which the executor asks them
    by_cases hinterrupt : canDecodeSoftwareInterrupt instruction = true
    · have hfield : ¬conditionField instruction = 0xF#4 := by
        simpa [supportedCondition] using hsupported
      unfold executeArm armClass
      dsimp only
      rw [if_neg hfield, if_pos hinterrupt, if_pos hinterrupt]
      rfl
    have hsystem := notSystem_of_space hspace hsupported hinterrupt
    unfold armClass
    rw [if_neg hinterrupt]
    by_cases hswap : canDecodeSwap instruction = true
    · rw [if_pos hswap, executeArm_transfer hsystem (onlyTransfer_of_swap hswap)]
      rfl
    rw [if_neg hswap]
    by_cases hblock : canDecodeBlockDataTransfer instruction = true
    · rw [if_pos hblock, executeArm_transfer hsystem (onlyTransfer_of_block hblock)]
      rfl
    rw [if_neg hblock]
    by_cases hhalfword : canDecodeHalfwordDataTransfer instruction = true
    · rw [if_pos hhalfword, executeArm_transfer hsystem (onlyTransfer_of_halfword hhalfword)]
      rfl
    rw [if_neg hhalfword]
    by_cases hsingle : canDecodeSingleDataTransfer instruction = true
    · rw [if_pos hsingle, executeArm_transfer hsystem (onlyTransfer_of_single hsingle)]
      rfl
    rw [if_neg hsingle]
    -- a transfer needs memory; what follows is executed without it
    unfold executeArm otherClass
    dsimp only
    rw [if_neg hsystem.supported, if_neg hsystem.not_softwareInterrupt,
      if_neg hsystem.not_coprocessor]
    by_cases hpsr : canDecodePsrTransfer instruction = true
    · rw [if_pos hpsr, if_pos hpsr]
      rfl
    rw [if_neg hpsr, if_neg hpsr]
    by_cases hbranch : canDecodeBranch instruction = true
    · rw [if_pos hbranch, if_pos hbranch]
      rfl
    rw [if_neg hbranch, if_neg hbranch]
    by_cases hexchange : canDecodeBranchExchange instruction = true
    · rw [if_pos hexchange, if_pos hexchange]
      rfl
    rw [if_neg hexchange, if_neg hexchange]
    by_cases hlong : canDecodeMultiplyLong instruction = true
    · rw [if_pos hlong, if_pos hlong]
      rfl
    rw [if_neg hlong, if_neg hlong]
    by_cases hmultiply : canDecodeMultiply instruction = true
    · rw [if_pos hmultiply, if_pos hmultiply]
      rfl
    rw [if_neg hmultiply, if_neg hmultiply]
    by_cases himmediate : canDecodeDataProcessingImmediate instruction = true
    · rw [if_pos himmediate, if_pos (Bool.or_eq_true_iff.mpr (.inl himmediate))]
      show _ = ArmClass.executeAlone .dataProcessing instruction cpu
      unfold ArmClass.executeAlone
      dsimp only
      rw [if_pos himmediate]
    rw [if_neg himmediate]
    by_cases hregister : canDecodeDataProcessingRegisterShift instruction = true
    · rw [if_pos hregister, if_pos (Bool.or_eq_true_iff.mpr (.inr hregister))]
      show _ = ArmClass.executeAlone .dataProcessing instruction cpu
      unfold ArmClass.executeAlone
      dsimp only
      rw [if_neg himmediate]
    rw [if_neg hregister, if_neg (by simp [himmediate, hregister])]
    rfl

/-- Memory makes no difference to the other classes. -/
theorem execute_alone {σ : Type} (callbacks : MemoryBusIoCallbacks σ) {kind : ArmClass}
    (h : kind.isTransfer = false) (instruction : U32) (cpu : Arm7tdmi) (bus : BusState σ) :
    kind.execute callbacks instruction cpu bus = (kind.executeAlone instruction cpu).withBus bus := by
  cases kind with
  | swap | blockTransfer | halfwordTransfer | singleTransfer => exact Bool.noConfusion h
  | _ => rfl

/-- Outside the coprocessor space an instruction is executed with memory as its class. -/
theorem executeArmMemory_class {σ : Type} (callbacks : MemoryBusIoCallbacks σ)
    (hspace : ¬inCoprocessorSpace instruction) (cpu : Arm7tdmi) (bus : BusState σ) :
    executeArmMemory callbacks instruction cpu bus =
      (armClass instruction).elim
        ⟨if supportedCondition instruction then .unsupported else .skippedCondition, cpu, bus⟩
        fun kind => kind.execute callbacks instruction cpu bus := by
  have halone := executeArm_class hspace cpu
  cases hsupported : supportedCondition instruction with
  | false =>
    obtain ⟨hfield, hnone⟩ := never_class hsupported
    unfold executeArmMemory
    dsimp only
    rw [if_pos hfield, hnone]
    rfl
  | true =>
    rw [hsupported] at halone
    by_cases hinterrupt : canDecodeSoftwareInterrupt instruction = true
    · have hfield : ¬conditionField instruction = 0xF#4 := by
        simpa [supportedCondition] using hsupported
      unfold executeArmMemory armClass
      dsimp only
      rw [if_neg hfield, if_pos hinterrupt, if_pos hinterrupt]
      rfl
    have hsystem := notSystem_of_space hspace hsupported hinterrupt
    unfold armClass at halone ⊢
    unfold executeArmMemory
    dsimp only
    rw [if_neg hsystem.supported, if_neg hsystem.not_softwareInterrupt,
      if_neg hsystem.not_coprocessor, if_neg hinterrupt]
    rw [if_neg hinterrupt] at halone
    by_cases hswap : canDecodeSwap instruction = true
    · rw [if_pos hswap, if_pos hswap]
      rfl
    rw [if_neg hswap] at halone
    rw [if_neg hswap, if_neg hswap]
    by_cases hblock : canDecodeBlockDataTransfer instruction = true
    · rw [if_pos hblock, if_pos hblock]
      rfl
    rw [if_neg hblock] at halone
    rw [if_neg hblock, if_neg hblock]
    by_cases hhalfword : canDecodeHalfwordDataTransfer instruction = true
    · rw [if_pos hhalfword, if_pos hhalfword]
      rfl
    rw [if_neg hhalfword] at halone
    rw [if_neg hhalfword, if_neg hhalfword]
    by_cases hsingle : canDecodeSingleDataTransfer instruction = true
    · rw [if_pos hsingle, if_pos hsingle]
      rfl
    rw [if_neg hsingle] at halone
    rw [if_neg hsingle, if_neg hsingle, halone]
    -- what is no transfer is handed to `executeArm`, whose class is known
    have hother := otherClass_any instruction
    cases hkind : otherClass instruction with
    | none => rfl
    | some kind =>
      rw [hkind] at hother
      exact (execute_alone callbacks hother instruction cpu bus).symm

/-- A word with a class is decoded as that class, and so is a word that never passes. -/
theorem classifiedAs_armClass {σ : Type} (callbacks : MemoryBusIoCallbacks σ)
    (hspace : ¬inCoprocessorSpace instruction)
    (hclass : armClass instruction = none → supportedCondition instruction = false) :
    ClassifiedAs callbacks instruction (armClass instruction) := by
  have hnever : armClass instruction = none ↔ supportedCondition instruction = false :=
    ⟨hclass, fun h => (never_class h).2⟩
  have hexecuted : ∀ cpu bus, executeArmMemory callbacks instruction cpu bus =
      (armClass instruction).elim ⟨.skippedCondition, cpu, bus⟩ fun kind =>
        kind.execute callbacks instruction cpu bus := by
    intro cpu bus
    rw [executeArmMemory_class callbacks hspace cpu bus]
    cases hkind : armClass instruction with
    | none =>
      rw [hnever.mp hkind]
      rfl
    | some kind => rfl
  refine ⟨hnever, hexecuted, ?_, ?_, estimateArmCycles_class instruction,
    canEstimateMemoryElapsedCycles_class instruction, firstDataAddress_class instruction,
    memoryConditionPassed_class instruction⟩
  · intro cpu
    rw [executeArm_class hspace cpu]
    cases hkind : armClass instruction with
    | none =>
      rw [hnever.mp hkind]
      rfl
    | some kind => rfl
  · intro hother cpu bus
    rw [hexecuted cpu bus]
    cases hkind : armClass instruction with
    | none => rfl
    | some kind =>
      rw [hkind] at hother
      show (kind.execute callbacks instruction cpu bus).bus = bus
      rw [execute_alone callbacks hother instruction cpu bus]
      rfl

end Executor

/-! ## Agreement -/

/-- One of the executors does not report the word as unsupported. -/
def Accepted {σ : Type} (callbacks : MemoryBusIoCallbacks σ) (instruction : U32) (cpu : Arm7tdmi)
    (bus : BusState σ) : Prop :=
  (executeArm instruction cpu).status ≠ .unsupported ∨
    (executeArmMemory callbacks instruction cpu bus).status ≠ .unsupported

/-- The estimator knows no word of the coprocessor space. -/
theorem estimateArmCycles_coprocessor {instruction : U32} (h : inCoprocessorSpace instruction) :
    estimateArmCycles instruction = none := by
  have honly := onlySystem_of_group (group_of_coprocessor h.2)
  have hinterrupt : canDecodeSoftwareInterrupt instruction = false := by
    unfold canDecodeSoftwareInterrupt
    rw [h.2]
    exact Bool.and_false _
  unfold estimateArmCycles
  simp only [hinterrupt, honly.not_swap, honly.not_psr, honly.not_branch, honly.not_branchExchange,
    honly.not_multiplyLong, honly.not_multiply, honly.not_block, honly.not_single,
    honly.not_halfword, honly.not_dataProcessing, Bool.or_self, Bool.false_eq_true, if_false]

theorem accepted_coprocessor {σ : Type} (callbacks : MemoryBusIoCallbacks σ) {instruction : U32}
    (h : inCoprocessorSpace instruction) (cpu : Arm7tdmi) (bus : BusState σ) :
    Accepted callbacks instruction cpu bus := by
  have hfield : ¬conditionField instruction = 0xF#4 := by
    simpa [supportedCondition] using h.1
  have hinterrupt : ¬canDecodeSoftwareInterrupt instruction = true := by
    unfold canDecodeSoftwareInterrupt
    rw [h.2]
    simp
  have hspace : isCoprocessorSpace instruction = true := by
    unfold isCoprocessorSpace
    rw [h.2]
    rfl
  refine .inl ?_
  unfold executeArm onCondition
  dsimp only
  rw [if_neg hfield, if_neg hinterrupt, if_pos hspace]
  split
  · exact ExecuteStatus.noConfusion
  · exact ExecuteStatus.noConfusion

/-- A word that is accepted is executed, timed and looked up as one class exactly outside the
coprocessor space. -/
theorem armDecoders_agree_iff {σ : Type} (callbacks : MemoryBusIoCallbacks σ) (instruction : U32)
    (cpu : Arm7tdmi) (bus : BusState σ) :
    (Accepted callbacks instruction cpu bus → ∃ kind, ClassifiedAs callbacks instruction kind) ↔
      ¬inCoprocessorSpace instruction := by
  constructor
  · intro h hspace
    obtain ⟨kind, hkind⟩ := h (accepted_coprocessor callbacks hspace cpu bus)
    have hnone : kind = none := by
      have htimed := hkind.timed
      rw [estimateArmCycles_coprocessor hspace] at htimed
      exact Option.map_eq_none_iff.mp htimed.symm
    exact Bool.noConfusion (hspace.1.symm.trans (hkind.never.mp hnone))
  · intro hspace haccepted
    refine ⟨_, classifiedAs_armClass callbacks hspace fun hnone => ?_⟩
    by_contra hsupported
    rw [Bool.not_eq_false] at hsupported
    -- without a class both executors report the word as unsupported
    have halone := executeArm_class hspace cpu
    have hmemory := executeArmMemory_class callbacks hspace cpu bus
    rw [hnone, hsupported] at halone hmemory
    rcases haccepted with h | h
    · exact h (congrArg Execution.status halone)
    · exact h (congrArg MemoryExecution.status hmemory)

/-- A coprocessor instruction is executed, and the estimator has no class for it. -/
theorem coprocessor_without_class :
    Accepted (⟨none, none, none, none⟩ : MemoryBusIoCallbacks Unit) 0xEE000000#32 Arm7tdmi.reset
        ⟨MemoryBus.initial, ()⟩ ∧
      estimateArmCycles 0xEE000000#32 = none ∧
      ¬∃ kind, ClassifiedAs (⟨none, none, none, none⟩ : MemoryBusIoCallbacks Unit) 0xEE000000#32
        kind := by
  refine ⟨.inl (by decide), by decide, ?_⟩
  rintro ⟨kind, h⟩
  have hnone : kind = none := by
    have htimed := h.timed
    rw [(by decide : estimateArmCycles 0xEE000000#32 = none)] at htimed
    exact Option.map_eq_none_iff.mp htimed.symm
  exact absurd (h.never.mp hnone) (by decide)

end Gba.Core
