import Gba.Core.ArmEncode
import Gba.Core.ThumbExecute

/-!
# The ARM equivalents of Thumb instructions

The Thumb instructions of formats 1 to 4 are flag-setting ARM instructions in a shorter encoding.
`armEquivalent` assembles the ARM instruction, and for each kind of equivalent it is said what
`execute_arm` makes of it.
-/

namespace Gba.Core

/-! ## The equivalent instruction -/

/-- The field of a low register in an ARM instruction. -/
def lowField (instruction : U16) (shift : Nat) : BitVec 4 :=
  (instruction.extractLsb' shift 3).setWidth 4

/-- A data-processing instruction with a register operand that is not shifted. -/
def registerWord (opcode rn rd rm : BitVec 4) : U32 :=
  dataProcessingWord 0x0#3 opcode rn rd (immediateShiftOperand 0#5 0#2 rm)

/-- A data-processing instruction with an immediate operand. -/
def immediateWord (opcode rn rd : BitVec 4) (value : BitVec 8) : U32 :=
  dataProcessingWord 0x1#3 opcode rn rd (immediateOperand value)

/-- A shift by a register. -/
def registerShiftWord (type : BitVec 2) (rd rs : BitVec 4) : U32 :=
  dataProcessingWord 0x0#3 0xD#4 0x0#4 rd (registerShiftOperand rs type rd)

/-- Format 1: `MOVS rd, rs, shift #amount`. -/
def shiftImmediateEquivalent (instruction : U16) : U32 :=
  dataProcessingWord 0x0#3 0xD#4 0x0#4 (lowField instruction 0)
    (immediateShiftOperand (instruction.extractLsb' 6 5) (instruction.extractLsb' 11 2)
      (lowField instruction 3))

/-- Format 2: `ADDS` and `SUBS` of a register or three immediate bits. -/
def addSubtractEquivalent (instruction : U16) : U32 :=
  let opcode : BitVec 4 := if instruction.getLsbD 9 then 0x2#4 else 0x4#4
  let rs := lowField instruction 3
  let rd := lowField instruction 0
  if instruction.getLsbD 10 then
    immediateWord opcode rs rd ((instruction.extractLsb' 6 3).setWidth 8)
  else registerWord opcode rs rd (lowField instruction 6)

/-- Format 3: `MOVS`, `CMP`, `ADDS` and `SUBS` of eight immediate bits. -/
def immediateEquivalent (instruction : U16) : U32 :=
  let rd := lowField instruction 8
  let value := instruction.extractLsb' 0 8
  match (decodeThumbImmediate instruction).opcode with
  | .mov => immediateWord 0xD#4 0x0#4 rd value
  | .cmp => immediateWord 0xA#4 rd 0x0#4 value
  | .add => immediateWord 0x4#4 rd rd value
  | .sub => immediateWord 0x2#4 rd rd value

/-- Format 4: the operations between two registers. -/
def aluEquivalent (instruction : U16) : U32 :=
  let rd := lowField instruction 0
  let rs := lowField instruction 3
  match (decodeThumbAlu instruction).opcode with
  | .and => registerWord 0x0#4 rd rd rs
  | .eor => registerWord 0x1#4 rd rd rs
  | .lsl => registerShiftWord 0x0#2 rd rs
  | .lsr => registerShiftWord 0x1#2 rd rs
  | .asr => registerShiftWord 0x2#2 rd rs
  | .adc => registerWord 0x5#4 rd rd rs
  | .sbc => registerWord 0x6#4 rd rd rs
  | .ror => registerShiftWord 0x3#2 rd rs
  | .tst => registerWord 0x8#4 rd 0x0#4 rs
  | .neg => immediateWord 0x3#4 rs rd 0#8
  | .cmp => registerWord 0xA#4 rd 0x0#4 rs
  | .cmn => registerWord 0xB#4 rd 0x0#4 rs
  | .orr => registerWord 0xC#4 rd rd rs
  | .mul => dataProcessingWord 0x0#3 0x0#4 rd 0x0#4 (multiplyOperand rd rs)
  | .bic => registerWord 0xE#4 rd rd rs
  | .mvn => registerWord 0xF#4 0x0#4 rd rs

/-- The ARM instruction that a Thumb instruction of formats 1 to 4 stands for. -/
def armEquivalent (instruction : U16) : Option U32 :=
  if canDecodeThumbShiftImmediate instruction then some (shiftImmediateEquivalent instruction)
  else if canDecodeThumbAddSubtract instruction then some (addSubtractEquivalent instruction)
  else if canDecodeThumbImmediate instruction then some (immediateEquivalent instruction)
  else if canDecodeThumbAlu instruction then some (aluEquivalent instruction)
  else none

/-! ## Decoding the equivalent -/

theorem lowField_ne_pc (instruction : U16) (shift : Nat) :
    (lowField instruction shift).toFin ≠ Arm7tdmi.kPc := by
  have hlow : ∀ x : BitVec 3, (x.setWidth 4).toFin ≠ Arm7tdmi.kPc := by decide
  exact hlow _

theorem lowRegisterField_eq (instruction : U16) (shift : Nat) :
    lowRegisterField instruction shift = (lowField instruction shift).toFin := rfl

section Operands

variable (opcode rn rd : BitVec 4)

theorem registerField_rn (group : BitVec 3) (operand : BitVec 12) :
    registerField (dataProcessingWord group opcode rn rd operand) 16 = rn.toFin := by
  unfold registerField
  rw [dataProcessingWord_rn]

theorem registerField_rd (group : BitVec 3) (operand : BitVec 12) :
    registerField (dataProcessingWord group opcode rn rd operand) 12 = rd.toFin := by
  unfold registerField
  rw [dataProcessingWord_rd]

/-- A field of the second operand. -/
theorem operandField (group : BitVec 3) (operand : BitVec 12) {start size : Nat}
    (h : start + size ≤ 12) :
    (dataProcessingWord group opcode rn rd operand).extractLsb' start size =
      operand.extractLsb' start size := by
  rw [field_of_field (dataProcessingWord_operand group opcode rn rd operand) (Nat.zero_le _)
    (by omega), Nat.sub_zero]

/-- A bit of the second operand. -/
theorem operandBit (group : BitVec 3) (operand : BitVec 12) {i : Nat} (h : i < 12) :
    (dataProcessingWord group opcode rn rd operand).getLsbD i = operand.getLsbD i := by
  have hbit := getLsbD_of_field (dataProcessingWord_operand group opcode rn rd operand) h
  rwa [Nat.zero_add] at hbit

theorem decode_dataProcessingWord (group : BitVec 3) (operand : BitVec 12)
    (shifter : ShifterResult) :
    decodeDataProcessing (dataProcessingWord group opcode rn rd operand) shifter =
      ⟨some .al, ArmOpcode.ofBits opcode, true, rn.toFin, rd.toFin, shifter.value,
        shifter.carryValid, shifter.carry⟩ := by
  unfold decodeDataProcessing decodeCondition
  rw [dataProcessingWord_condition, dataProcessingWord_opcode, dataProcessingWord_setFlags,
    registerField_rn, registerField_rd]
  rfl

theorem immediateOperand_value (value : BitVec 8) :
    (immediateOperand value).extractLsb' 0 8 = value ∧
      (immediateOperand value).extractLsb' 8 4 = 0#4 := by
  unfold immediateOperand
  constructor
  · refine (BitVec.extractLsb'_append_eq_of_add_le (by decide)).trans ?_
    exact BitVec.extractLsb'_eq_self
  · exact (BitVec.extractLsb'_append_eq_of_le (by decide)).trans rfl

theorem rotatedImmediate_immediateWord (value : BitVec 8) :
    rotatedImmediate (immediateWord opcode rn rd value) = value.setWidth 32 := by
  have hrotate : (immediateWord opcode rn rd value).extractLsb' 8 4 = 0#4 := by
    unfold immediateWord
    rw [operandField _ _ _ _ _ (by decide)]
    exact (immediateOperand_value value).2
  have hvalue : (immediateWord opcode rn rd value).extractLsb' 0 8 = value := by
    unfold immediateWord
    rw [operandField _ _ _ _ _ (by decide)]
    exact (immediateOperand_value value).1
  have hmask : ∀ x : U32, x &&& 0xFF#32 = (x.extractLsb' 0 8).setWidth 32 := by
    intro x
    refine BitVec.eq_of_toNat_eq ?_
    have hff : (0xFF#32).toNat = 2 ^ 8 - 1 := rfl
    rw [BitVec.toNat_and, hff, Nat.and_two_pow_sub_one_eq_mod]
    simp only [BitVec.toNat_setWidth, BitVec.extractLsb'_toNat, Nat.shiftRight_zero]
    omega
  unfold rotatedImmediate
  rw [hrotate, hmask, hvalue]
  exact rotateRight_zero _

/-! ### The fields of the second operand -/

theorem immediateShiftOperand_fields (amount : BitVec 5) (type : BitVec 2) (rm : BitVec 4) :
    (immediateShiftOperand amount type rm).extractLsb' 7 5 = amount ∧
      (immediateShiftOperand amount type rm).extractLsb' 5 2 = type ∧
      (immediateShiftOperand amount type rm).getLsbD 4 = false ∧
      (immediateShiftOperand amount type rm).extractLsb' 0 4 = rm := by
  unfold immediateShiftOperand
  refine ⟨?_, ?_, ?_, ?_⟩
  · refine (BitVec.extractLsb'_append_eq_of_le (by decide)).trans ?_
    exact BitVec.extractLsb'_eq_self
  · refine (BitVec.extractLsb'_append_eq_of_add_le (by decide)).trans ?_
    refine (BitVec.extractLsb'_append_eq_of_le (by decide)).trans ?_
    exact BitVec.extractLsb'_eq_self
  · simp only [BitVec.getLsbD_append]
    rfl
  · iterate 3 refine (BitVec.extractLsb'_append_eq_of_add_le (by decide)).trans ?_
    exact BitVec.extractLsb'_eq_self

theorem registerShiftOperand_fields (rs : BitVec 4) (type : BitVec 2) (rm : BitVec 4) :
    (registerShiftOperand rs type rm).extractLsb' 8 4 = rs ∧
      (registerShiftOperand rs type rm).getLsbD 7 = false ∧
      (registerShiftOperand rs type rm).extractLsb' 5 2 = type ∧
      (registerShiftOperand rs type rm).getLsbD 4 = true ∧
      (registerShiftOperand rs type rm).extractLsb' 0 4 = rm := by
  unfold registerShiftOperand
  refine ⟨?_, ?_, ?_, ?_, ?_⟩
  · refine (BitVec.extractLsb'_append_eq_of_le (by decide)).trans ?_
    exact BitVec.extractLsb'_eq_self
  · simp only [BitVec.getLsbD_append]
    rfl
  · iterate 2 refine (BitVec.extractLsb'_append_eq_of_add_le (by decide)).trans ?_
    refine (BitVec.extractLsb'_append_eq_of_le (by decide)).trans ?_
    exact BitVec.extractLsb'_eq_self
  · simp only [BitVec.getLsbD_append]
    rfl
  · iterate 4 refine (BitVec.extractLsb'_append_eq_of_add_le (by decide)).trans ?_
    exact BitVec.extractLsb'_eq_self

theorem multiplyOperand_fields (rs rm : BitVec 4) :
    (multiplyOperand rs rm).extractLsb' 8 4 = rs ∧
      (multiplyOperand rs rm).extractLsb' 4 4 = 0x9#4 ∧
      (multiplyOperand rs rm).extractLsb' 0 4 = rm := by
  unfold multiplyOperand
  refine ⟨?_, ?_, ?_⟩
  · refine (BitVec.extractLsb'_append_eq_of_le (by decide)).trans ?_
    exact BitVec.extractLsb'_eq_self
  · refine (BitVec.extractLsb'_append_eq_of_add_le (by decide)).trans ?_
    exact (BitVec.extractLsb'_append_eq_of_le (by decide)).trans rfl
  · iterate 2 refine (BitVec.extractLsb'_append_eq_of_add_le (by decide)).trans ?_
    exact BitVec.extractLsb'_eq_self

end Operands

/-! ## Executing the equivalent -/

namespace Arm7tdmi

variable (cpu : Arm7tdmi) (opcode rn rd rm : BitVec 4)

/-- The decoded form of an equivalent, once its second operand is known. -/
def equivalentInstruction (shifter : ShifterResult) : DecodedArmInstruction :=
  ⟨some .al, ArmOpcode.ofBits opcode, true, rn.toFin, rd.toFin, shifter.value, shifter.carryValid,
    shifter.carry⟩

theorem executeArm_immediateWord (value : BitVec 8) :
    executeArm (immediateWord opcode rn rd value) cpu =
      ⟨.executed, cpu.executeDataProcessing
        (equivalentInstruction opcode rn rd ⟨value.setWidth 32, false, false⟩) 8⟩ := by
  have hsets : SetsFlags (immediateWord opcode rn rd value) 0x1#3 :=
    dataProcessingWord_setsFlags ..
  have hrotate : (immediateWord opcode rn rd value).extractLsb' 8 4 = 0#4 := by
    unfold immediateWord
    rw [operandField _ _ _ _ _ (by decide)]
    exact (immediateOperand_value value).2
  have hsign : anySet (value.setWidth 32) 0x80000000#32 = false := by
    have hvalues : ∀ v : BitVec 8, anySet (v.setWidth 32) 0x80000000#32 = false := by decide
    exact hvalues value
  rw [hsets.executeArm_immediate rfl]
  unfold decodeDataProcessingImmediate
  dsimp only
  rw [rotatedImmediate_immediateWord, hrotate, hsign]
  unfold immediateWord
  rw [decode_dataProcessingWord]
  rfl

theorem executeArm_shiftWord (amount : BitVec 5) (type : BitVec 2) (hrm : rm.toFin ≠ kPc) :
    executeArm (dataProcessingWord 0x0#3 opcode rn rd (immediateShiftOperand amount type rm)) cpu =
      ⟨.executed, cpu.executeDataProcessing
        (equivalentInstruction opcode rn rd
          (applyImmediateShift (cpu.registers rm.toFin) (ArmShiftType.ofBits type) amount.toNat
            cpu.carry)) 8⟩ := by
  have hsets := dataProcessingWord_setsFlags 0x0#3 opcode rn rd
    (immediateShiftOperand amount type rm)
  obtain ⟨hamount, htype, hbit, hregister⟩ := immediateShiftOperand_fields amount type rm
  have hshift : (dataProcessingWord 0x0#3 opcode rn rd
      (immediateShiftOperand amount type rm)).getLsbD 4 = false := by
    rw [operandBit _ _ _ _ _ (by decide), hbit]
  rw [hsets.executeArm_immediateShift rfl hshift]
  unfold decodeDataProcessingImmediateShift registerField armVisibleRegisterValue
  rw [operandField _ _ _ _ _ (by decide), operandField _ _ _ _ _ (by decide),
    operandField _ _ _ _ _ (by decide), hamount, htype, hregister, if_neg hrm,
    decode_dataProcessingWord]
  rfl

theorem executeArm_registerShiftWord (rs : BitVec 4) (type : BitVec 2) (hrd : rd.toFin ≠ kPc)
    (hrs : rs.toFin ≠ kPc) :
    executeArm (registerShiftWord type rd rs) cpu =
      ⟨.executed, cpu.executeDataProcessing
        (equivalentInstruction 0xD#4 0x0#4 rd
          (applyRegisterShift (cpu.registers rd.toFin) (ArmShiftType.ofBits type)
            (cpu.registers rs.toFin &&& 0xFF#32).toNat)) 12⟩ := by
  have hsets : SetsFlags (registerShiftWord type rd rs) 0x0#3 := dataProcessingWord_setsFlags ..
  obtain ⟨hamount, hdata, htype, hbit, hregister⟩ := registerShiftOperand_fields rs type rd
  unfold registerShiftWord at hsets ⊢
  rw [hsets.executeArm_registerShift rfl
    (by rw [operandBit _ _ _ _ _ (by decide), hbit])
    (by rw [operandBit _ _ _ _ _ (by decide), hdata])]
  unfold decodeDataProcessingRegisterShift registerField registerShiftVisibleValue
  rw [operandField _ _ _ _ _ (by decide), operandField _ _ _ _ _ (by decide),
    operandField _ _ _ _ _ (by decide), hamount, htype, hregister, if_neg hrd, if_neg hrs,
    decode_dataProcessingWord]
  rfl

theorem executeMultiply_setsFlags {instruction : U32} (haccumulate : instruction.getLsbD 21 = false)
    (hflags : instruction.getLsbD 20 = true) :
    cpu.executeMultiply (decodeMultiply instruction) =
      cpu.writeNz (registerField instruction 16) (cpu.registers (registerField instruction 0) *
        cpu.registers (registerField instruction 8)) := by
  unfold executeMultiply decodeMultiply
  simp only [haccumulate, hflags, Bool.false_eq_true, if_false, if_true]
  rfl

theorem executeArm_multiplyWord (rs : BitVec 4) :
    executeArm (dataProcessingWord 0x0#3 0x0#4 rd 0x0#4 (multiplyOperand rs rm)) cpu =
      ⟨.executed, cpu.writeNz rd.toFin (cpu.registers rm.toFin * cpu.registers rs.toFin)⟩ := by
  have hsets := dataProcessingWord_setsFlags 0x0#3 0x0#4 rd 0x0#4 (multiplyOperand rs rm)
  obtain ⟨hmultiplier, hnine, hmultiplicand⟩ := multiplyOperand_fields rs rm
  have hopcode := dataProcessingWord_opcode 0x0#3 0x0#4 rd 0x0#4 (multiplyOperand rs rm)
  have haccumulate : (dataProcessingWord 0x0#3 0x0#4 rd 0x0#4
      (multiplyOperand rs rm)).getLsbD 21 = false := getLsbD_of_field hopcode (i := 0) (by decide)
  rw [hsets.executeArm_multiply rfl hopcode
    (by rw [operandField _ _ _ _ _ (by decide), hnine]),
    cpu.executeMultiply_setsFlags haccumulate hsets.setFlags]
  unfold registerField
  rw [dataProcessingWord_rn, operandField _ _ _ _ _ (by decide),
    operandField _ _ _ _ _ (by decide), hmultiplier, hmultiplicand]

end Arm7tdmi

end Gba.Core
