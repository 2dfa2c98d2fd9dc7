import Gba.Core.ArmExecute

/-!
# Words of ARM instructions

The data-processing instructions and multiplications that set the flags, assembled from their
fields. A word that `dataProcessingWord` assembles has the fields it was assembled from, and what
`execute_arm` does with it is said once for each kind of second operand.
-/

namespace Gba.Core

/-! ## Fields and bits -/

/-- The bits of a field. -/
theorem getLsbD_of_field {w s n : Nat} {x : BitVec w} {v : BitVec n} (h : x.extractLsb' s n = v)
    {i : Nat} (hi : i < n) : x.getLsbD (s + i) = v.getLsbD i := by
  rw [← h, BitVec.getLsbD_extractLsb', decide_eq_true hi, Bool.true_and]

/-- A field inside another field. -/
theorem field_of_field {w s n t m : Nat} {x : BitVec w} {v : BitVec n}
    (h : x.extractLsb' s n = v) (hlow : s ≤ t) (hhigh : t + m ≤ s + n) :
    x.extractLsb' t m = v.extractLsb' (t - s) m := by
  subst h
  ext i hi
  simp only [BitVec.getElem_extractLsb', BitVec.getLsbD_extractLsb']
  have hinside : t - s + i < n := by omega
  have hindex : s + (t - s + i) = t + i := by omega
  rw [decide_eq_true hinside, Bool.true_and, hindex]

/-- Fields that disagree on a bit. -/
theorem field_ne_of_bit {w s n : Nat} {x : BitVec w} {v : BitVec n} {i : Nat} (hi : i < n)
    (hbit : x.getLsbD (s + i) ≠ v.getLsbD i) : x.extractLsb' s n ≠ v :=
  fun h => hbit (getLsbD_of_field h hi)

/-! ## Assembling -/

/-- An instruction of the data-processing format that sets the flags, under the condition `al`. -/
def dataProcessingWord (group : BitVec 3) (opcode rn rd : BitVec 4) (operand : BitVec 12) : U32 :=
  0xE#4 ++ (group ++ (opcode ++ (1#1 ++ (rn ++ (rd ++ operand)))))

/-- A rotated immediate operand without rotation. -/
def immediateOperand (value : BitVec 8) : BitVec 12 := 0#4 ++ value

/-- A register shifted by an immediate amount. -/
def immediateShiftOperand (amount : BitVec 5) (type : BitVec 2) (rm : BitVec 4) : BitVec 12 :=
  amount ++ (type ++ (0#1 ++ rm))

/-- A register shifted by a register. -/
def registerShiftOperand (rs : BitVec 4) (type : BitVec 2) (rm : BitVec 4) : BitVec 12 :=
  rs ++ (0#1 ++ (type ++ (1#1 ++ rm)))

/-- The operands of a multiplication. -/
def multiplyOperand (rs rm : BitVec 4) : BitVec 12 := rs ++ (0x9#4 ++ rm)

section Fields

variable (group : BitVec 3) (opcode rn rd : BitVec 4) (operand : BitVec 12)

theorem dataProcessingWord_condition :
    conditionField (dataProcessingWord group opcode rn rd operand) = 0xE#4 := by
  unfold conditionField dataProcessingWord
  exact (BitVec.extractLsb'_append_eq_of_le (by decide)).trans rfl

theorem dataProcessingWord_group :
    (dataProcessingWord group opcode rn rd operand).extractLsb' 25 3 = group := by
  unfold dataProcessingWord
  refine (BitVec.extractLsb'_append_eq_of_add_le (by decide)).trans ?_
  refine (BitVec.extractLsb'_append_eq_of_le (by decide)).trans ?_
  exact BitVec.extractLsb'_eq_self

theorem dataProcessingWord_opcode :
    (dataProcessingWord group opcode rn rd operand).extractLsb' 21 4 = opcode := by
  unfold dataProcessingWord
  refine (BitVec.extractLsb'_append_eq_of_add_le (by decide)).trans ?_
  refine (BitVec.extractLsb'_append_eq_of_add_le (by decide)).trans ?_
  refine (BitVec.extractLsb'_append_eq_of_le (by decide)).trans ?_
  exact BitVec.extractLsb'_eq_self

theorem dataProcessingWord_setFlags :
    (dataProcessingWord group opcode rn rd operand).getLsbD 20 = true := by
  unfold dataProcessingWord
  simp only [BitVec.getLsbD_append]
  rfl

theorem dataProcessingWord_rn :
    (dataProcessingWord group opcode rn rd operand).extractLsb' 16 4 = rn := by
  unfold dataProcessingWord
  iterate 4 refine (BitVec.extractLsb'_append_eq_of_add_le (by decide)).trans ?_
  refine (BitVec.extractLsb'_append_eq_of_le (by decide)).trans ?_
  exact BitVec.extractLsb'_eq_self

theorem dataProcessingWord_rd :
    (dataProcessingWord group opcode rn rd operand).extractLsb' 12 4 = rd := by
  unfold dataProcessingWord
  iterate 5 refine (BitVec.extractLsb'_append_eq_of_add_le (by decide)).trans ?_
  refine (BitVec.extractLsb'_append_eq_of_le (by decide)).trans ?_
  exact BitVec.extractLsb'_eq_self

theorem dataProcessingWord_operand :
    (dataProcessingWord group opcode rn rd operand).extractLsb' 0 12 = operand := by
  unfold dataProcessingWord
  iterate 6 refine (BitVec.extractLsb'_append_eq_of_add_le (by decide)).trans ?_
  exact BitVec.extractLsb'_eq_self

end Fields

/-! ## Classes of instructions that set the flags -/

/-- The bits by which `execute_arm` finds a data-processing instruction or a multiplication that
sets the flags. -/
structure SetsFlags (instruction : U32) (group : BitVec 3) : Prop where
  condition : conditionField instruction = 0xE#4
  group : instruction.extractLsb' 25 3 = group
  setFlags : instruction.getLsbD 20 = true

theorem dataProcessingWord_setsFlags (group : BitVec 3) (opcode rn rd : BitVec 4)
    (operand : BitVec 12) : SetsFlags (dataProcessingWord group opcode rn rd operand) group :=
  ⟨dataProcessingWord_condition .., dataProcessingWord_group .., dataProcessingWord_setFlags ..⟩

namespace SetsFlags

variable {instruction : U32} {group : BitVec 3} (h : SetsFlags instruction group)

include h

theorem supported : supportedCondition instruction = true := by
  unfold supportedCondition
  rw [h.condition]
  rfl

theorem passed (cpu : Arm7tdmi) : cpu.conditionPassed (decodeCondition instruction) = true := by
  unfold Arm7tdmi.conditionPassed decodeCondition
  rw [h.condition]
  rfl

theorem onCondition (cpu : Arm7tdmi) (execution : Execution) :
    cpu.onCondition (decodeCondition instruction) execution = execution :=
  if_pos (h.passed cpu)

theorem not_psrTransfer : canDecodePsrTransfer instruction = false := by
  have hmrs : isMrs instruction = false := by
    unfold isMrs
    have hfield : instruction.extractLsb' 16 6 ≠ 0x0F#6 :=
      field_ne_of_bit (i := 4) (by decide) (by rw [h.setFlags]; decide)
    rw [decide_eq_false hfield]
    simp
  unfold canDecodePsrTransfer
  rw [hmrs]
  simp [h.setFlags]

theorem not_swap : canDecodeSwap instruction = false := by
  have hfield : instruction.extractLsb' 20 2 ≠ 0#2 :=
    field_ne_of_bit (i := 0) (by decide) (by rw [h.setFlags]; decide)
  unfold canDecodeSwap
  rw [decide_eq_false hfield]
  simp

theorem not_branchExchange : canDecodeBranchExchange instruction = false := by
  have hfield : instruction.extractLsb' 4 24 ≠ 0x12FFF1#24 :=
    field_ne_of_bit (i := 16) (by decide) (by rw [h.setFlags]; decide)
  unfold canDecodeBranchExchange
  rw [decide_eq_false hfield]
  rfl

theorem not_branch (hgroup : group ≠ 0x5#3) : canDecodeBranch instruction = false := by
  unfold canDecodeBranch
  rw [h.group, decide_eq_false hgroup]
  rfl

/-- Neither software interrupts nor coprocessor instructions. -/
theorem not_system (hgroup : group ≠ 0x7#3) :
    canDecodeSoftwareInterrupt instruction = false ∧
      Arm7tdmi.isCoprocessorSpace instruction = false := by
  have hfield : ∀ v : BitVec 4, v.extractLsb' 1 3 = 0x7#3 → instruction.extractLsb' 24 4 ≠ v := by
    intro v hv heq
    have hinner := field_of_field heq (t := 25) (m := 3) (by decide) (by decide)
    rw [h.group] at hinner
    exact hgroup (hinner.trans hv)
  unfold canDecodeSoftwareInterrupt Arm7tdmi.isCoprocessorSpace
  rw [decide_eq_false (hfield 0xE#4 rfl), decide_eq_false (hfield 0xF#4 rfl)]
  simp

theorem not_multiply (hgroup : group ≠ 0#3) :
    canDecodeMultiply instruction = false ∧ canDecodeMultiplyLong instruction = false := by
  have hshort : instruction.extractLsb' 22 6 ≠ 0#6 := by
    intro heq
    have hinner := field_of_field heq (t := 25) (m := 3) (by decide) (by decide)
    rw [h.group] at hinner
    exact hgroup (hinner.trans rfl)
  have hlong : instruction.extractLsb' 23 5 ≠ 0x1#5 := by
    intro heq
    have hinner := field_of_field heq (t := 25) (m := 3) (by decide) (by decide)
    rw [h.group] at hinner
    exact hgroup (hinner.trans rfl)
  unfold canDecodeMultiply canDecodeMultiplyLong
  rw [decide_eq_false hshort, decide_eq_false hlong]
  exact ⟨rfl, rfl⟩

/-! ### What is executed -/

/-- The instruction passes the classes that `execute_arm` looks for first. -/
theorem executeArm_eq (hgroup : group = 0#3 ∨ group = 1#3) (cpu : Arm7tdmi) :
    Arm7tdmi.executeArm instruction cpu =
      if canDecodeMultiplyLong instruction then
        ⟨.executed, cpu.executeMultiplyLong (decodeMultiplyLong instruction)⟩
      else if canDecodeMultiply instruction then
        ⟨.executed, cpu.executeMultiply (decodeMultiply instruction)⟩
      else if canDecodeDataProcessingImmediate instruction then
        ⟨.executed, cpu.executeDataProcessing (decodeDataProcessingImmediate instruction) 8⟩
      else if canDecodeDataProcessingRegisterShift instruction then
        if isRegisterShift instruction then
          ⟨.executed, cpu.executeDataProcessing
            (decodeDataProcessingRegisterShift instruction
              (cpu.registerShiftVisibleValue (registerField instruction 0))
              (cpu.registerShiftVisibleValue (registerField instruction 8))) 12⟩
        else
          ⟨.executed, cpu.executeDataProcessing
            (decodeDataProcessingImmediateShift instruction
              (cpu.armVisibleRegisterValue (registerField instruction 0)) cpu.carry) 8⟩
      else ⟨.unsupported, cpu⟩ := by
  have hsystem := h.not_system (by rcases hgroup with rfl | rfl <;> decide)
  have hbranch := h.not_branch (by rcases hgroup with rfl | rfl <;> decide)
  have hunconditional : conditionField instruction ≠ 0xF#4 := by
    rw [h.condition]
    decide
  unfold Arm7tdmi.executeArm
  simp only [if_neg hunconditional, hsystem.1, hsystem.2, h.not_psrTransfer, hbranch,
    h.not_branchExchange, Bool.false_eq_true, if_false]
  have hcondition : ∀ execution, cpu.onCondition (decodeCondition instruction) execution =
      execution := h.onCondition cpu
  simp only [decodeMultiplyLong, decodeMultiply, decodeDataProcessingImmediate,
    decodeDataProcessingRegisterShift, decodeDataProcessingImmediateShift, decodeDataProcessing,
    hcondition]

/-- The form with an immediate operand. -/
theorem executeArm_immediate (hgroup : group = 1#3) (cpu : Arm7tdmi) :
    Arm7tdmi.executeArm instruction cpu =
      ⟨.executed, cpu.executeDataProcessing (decodeDataProcessingImmediate instruction) 8⟩ := by
  have hmultiply := h.not_multiply (by rw [hgroup]; decide)
  have hzero : instruction.extractLsb' 26 2 = 0#2 := by
    rw [field_of_field h.group (by decide) (by decide), hgroup]
    decide
  have himmediate : instruction.getLsbD 25 = true := by
    have hbit := getLsbD_of_field h.group (i := 0) (by decide)
    rw [hgroup] at hbit
    exact hbit
  have hdecode : canDecodeDataProcessingImmediate instruction = true := by
    unfold canDecodeDataProcessingImmediate
    rw [h.not_psrTransfer, hzero, himmediate, h.supported]
    rfl
  rw [h.executeArm_eq (.inr hgroup), hmultiply.1, hmultiply.2, hdecode]
  rfl

/-- The forms with a register operand are data processing unless bits 4 and 7 are both set. -/
theorem canDecodeRegister (hgroup : group = 0#3)
    (hshift : instruction.getLsbD 4 = false ∨ instruction.getLsbD 7 = false) :
    canDecodeMultiply instruction = false ∧ canDecodeMultiplyLong instruction = false ∧
      canDecodeDataProcessingImmediate instruction = false ∧
      canDecodeDataProcessingRegisterShift instruction = true := by
  have hnine : instruction.extractLsb' 4 4 ≠ 0x9#4 := by
    rcases hshift with hbit | hbit
    · exact field_ne_of_bit (i := 0) (by decide) (by rw [hbit]; decide)
    · exact field_ne_of_bit (i := 3) (by decide) (by rw [hbit]; decide)
  have hzero : instruction.extractLsb' 26 2 = 0#2 := by
    rw [field_of_field h.group (by decide) (by decide), hgroup]
    decide
  have himmediate : instruction.getLsbD 25 = false := by
    have hbit := getLsbD_of_field h.group (i := 0) (by decide)
    rw [hgroup] at hbit
    exact hbit
  have hform : (!instruction.getLsbD 4 || isRegisterShift instruction) = true := by
    unfold isRegisterShift
    rcases hshift with hbit | hbit <;> rw [hbit] <;> simp
  refine ⟨?_, ?_, ?_, ?_⟩
  · unfold canDecodeMultiply
    rw [decide_eq_false hnine]
    simp
  · unfold canDecodeMultiplyLong
    rw [decide_eq_false hnine]
    simp
  · unfold canDecodeDataProcessingImmediate
    rw [himmediate]
    simp
  · unfold canDecodeDataProcessingRegisterShift
    rw [h.not_psrTransfer, h.not_swap, hzero, himmediate, hform, h.supported]
    rfl

/-- The form with a register shifted by an immediate amount. -/
theorem executeArm_immediateShift (hgroup : group = 0#3) (hshift : instruction.getLsbD 4 = false)
    (cpu : Arm7tdmi) :
    Arm7tdmi.executeArm instruction cpu =
      ⟨.executed, cpu.executeDataProcessing
        (decodeDataProcessingImmediateShift instruction
          (cpu.armVisibleRegisterValue (registerField instruction 0)) cpu.carry) 8⟩ := by
  obtain ⟨hshort, hlong, himmediate, hregister⟩ := h.canDecodeRegister hgroup (.inl hshift)
  have hkind : isRegisterShift instruction = false := by
    unfold isRegisterShift
    rw [hshift]
    rfl
  rw [h.executeArm_eq (.inl hgroup), hlong, hshort, himmediate, hregister, hkind]
  rfl

/-- The form with a register shifted by a register. -/
theorem executeArm_registerShift (hgroup : group = 0#3) (hshift : instruction.getLsbD 4 = true)
    (hdata : instruction.getLsbD 7 = false) (cpu : Arm7tdmi) :
    Arm7tdmi.executeArm instruction cpu =
      ⟨.executed, cpu.executeDataProcessing
        (decodeDataProcessingRegisterShift instruction
          (cpu.registerShiftVisibleValue (registerField instruction 0))
          (cpu.registerShiftVisibleValue (registerField instruction 8))) 12⟩ := by
  obtain ⟨hshort, hlong, himmediate, hregister⟩ := h.canDecodeRegister hgroup (.inr hdata)
  have hkind : isRegisterShift instruction = true := by
    unfold isRegisterShift
    rw [hshift, hdata]
    rfl
  rw [h.executeArm_eq (.inl hgroup), hlong, hshort, himmediate, hregister, hkind]
  rfl

/-- A multiplication. -/
theorem executeArm_multiply (hgroup : group = 0#3) (hopcode : instruction.extractLsb' 21 4 = 0#4)
    (hnine : instruction.extractLsb' 4 4 = 0x9#4) (cpu : Arm7tdmi) :
    Arm7tdmi.executeArm instruction cpu =
      ⟨.executed, cpu.executeMultiply (decodeMultiply instruction)⟩ := by
  have hbit : instruction.getLsbD 23 = false := getLsbD_of_field hopcode (i := 2) (by decide)
  have hlong : canDecodeMultiplyLong instruction = false := by
    have hfield : instruction.extractLsb' 23 5 ≠ 0x1#5 :=
      field_ne_of_bit (i := 0) (by decide) (by rw [hbit]; decide)
    unfold canDecodeMultiplyLong
    rw [decide_eq_false hfield]
    simp
  have hzero : instruction.extractLsb' 22 6 = 0#6 := by
    refine BitVec.eq_of_getLsbD_eq fun i hi => ?_
    rw [BitVec.getLsbD_extractLsb', decide_eq_true hi, Bool.true_and]
    by_cases hlow : i < 3
    · have hopcodeBit := getLsbD_of_field hopcode (i := i + 1) (by omega)
      rw [show 22 + i = 21 + (i + 1) by omega, hopcodeBit]
      simp
    · have hgroupBit := getLsbD_of_field h.group (i := i - 3) (by omega)
      rw [show 22 + i = 25 + (i - 3) by omega, hgroupBit, hgroup]
      simp
  have hshort : canDecodeMultiply instruction = true := by
    unfold canDecodeMultiply
    rw [hzero, hnine, h.supported]
    rfl
  rw [h.executeArm_eq (.inl hgroup), hlong, hshort]
  rfl

end SetsFlags

end Gba.Core
