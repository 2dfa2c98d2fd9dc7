import Gba.Core.ThumbEquivalents

/-!
# Thumb data processing as ARM data processing

`execute_thumb` and `execute_arm` of `arm7tdmi.cpp` shift, add and set flags in separate code. The
Thumb instructions of formats 1 to 4 do what their ARM equivalents do, in every state.
-/

namespace Gba.Core

/-! ## The two shifters -/

theorem anySet_sign (value : U32) : anySet value 0x80000000#32 = value.msb := by
  have hmask : (0x80000000#32 : U32) = BitVec.twoPow 32 31 := rfl
  unfold anySet
  rw [hmask, BitVec.and_twoPow, BitVec.msb_eq_getLsbD_last]
  cases value.getLsbD 31 <;> simp

theorem anySet_one (value : U32) : anySet value 0x1#32 = value.getLsbD 0 := by
  have hmask : (0x1#32 : U32) = BitVec.twoPow 32 0 := rfl
  have hone : ¬BitVec.twoPow 32 0 = 0#32 := by decide
  unfold anySet
  rw [hmask, BitVec.and_twoPow]
  cases value.getLsbD 0 <;> simp [hone]

theorem arithmeticShift_eq (value : U32) {amount : Nat} (hlow : 0 < amount) (hhigh : amount < 32) :
    arithmeticShift value amount = value.sshiftRight amount := by
  unfold arithmeticShift
  rw [anySet_sign]
  refine BitVec.eq_of_getLsbD_eq fun i hi => ?_
  rw [BitVec.getLsbD_sshiftRight, decide_eq_false (by omega : ¬32 ≤ i), Bool.not_false,
    Bool.true_and]
  cases hsign : value.msb with
  | false =>
    rw [if_neg Bool.false_ne_true, BitVec.getLsbD_ushiftRight]
    by_cases hinside : amount + i < 32
    · rw [if_pos hinside]
    · rw [if_neg hinside, BitVec.getLsbD_of_ge _ _ (by omega)]
  | true =>
    have hones : (0xFFFFFFFF#32 : U32) = BitVec.allOnes 32 := rfl
    rw [if_pos rfl, BitVec.getLsbD_or, BitVec.getLsbD_ushiftRight, hones,
      BitVec.getLsbD_shiftLeft, BitVec.getLsbD_allOnes, decide_eq_true hi, Bool.true_and]
    by_cases hinside : amount + i < 32
    · rw [if_pos hinside, decide_eq_true (by omega : i < 32 - amount)]
      simp
    · rw [if_neg hinside, decide_eq_false (by omega : ¬i < 32 - amount),
        decide_eq_true (by omega : i - (32 - amount) < 32)]
      simp

theorem sshiftRight_full (value : U32) :
    value.sshiftRight 32 = if value.msb then 0xFFFFFFFF#32 else 0#32 := by
  refine BitVec.eq_of_getLsbD_eq fun i hi => ?_
  have hones : (0xFFFFFFFF#32 : U32) = BitVec.allOnes 32 := rfl
  rw [BitVec.getLsbD_sshiftRight, decide_eq_false (by omega : ¬32 ≤ i), if_neg (by omega), hones]
  cases value.msb with
  | false => simp
  | true => rw [if_pos rfl, BitVec.getLsbD_allOnes, decide_eq_true hi, Bool.not_false, Bool.and_true]

/-- The shift by a register is the same in both instruction sets. -/
theorem thumbAluShift_eq (type : ArmShiftType) (left : U32) (amount : Nat) :
    Arm7tdmi.thumbAluShift type left amount =
      ((applyRegisterShift left type amount).value,
        if (applyRegisterShift left type amount).carryValid then
          some (applyRegisterShift left type amount).carry
        else none) := by
  unfold Arm7tdmi.thumbAluShift applyRegisterShift
  by_cases hzero : amount = 0
  · simp only [if_pos hzero]
    rfl
  · simp only [if_neg hzero]
    cases type with
    | lsl =>
      by_cases hlow : amount < 32
      · simp only [if_pos hlow, if_true]
      · by_cases hfull : amount = 32 <;> simp [hlow, hfull, anySet_one]
    | lsr =>
      by_cases hlow : amount < 32
      · simp only [if_pos hlow, if_true]
      · by_cases hfull : amount = 32 <;> simp [hlow, hfull, anySet_sign]
    | asr =>
      by_cases hlow : amount < 32
      · simp only [if_pos hlow, if_true, arithmeticShift_eq left (Nat.pos_of_ne_zero hzero) hlow]
      · simp only [if_neg hlow, anySet_sign, if_true]
    | ror => simp only [anySet_sign, if_true]

/-! ## The same execution -/

namespace Arm7tdmi

section Written

variable (cpu : Arm7tdmi) {decoded : DecodedArmInstruction} (hset : decoded.setFlags = true)
  (hrd : decoded.rd ≠ kPc)

include hset hrd

/-- A result below the program counter does not restore a saved status. -/
theorem writeFlagged_setFlags (result : U32) (setFlags : Arm7tdmi → Arm7tdmi) :
    cpu.writeFlagged decoded result setFlags = setFlags (cpu.setRegister decoded.rd result) := by
  have hrestore : cpu.spsrRestoreToPc decoded = false := by
    unfold spsrRestoreToPc
    rw [decide_eq_false hrd]
    rfl
  unfold writeFlagged writeResult
  rw [hrestore, hset]
  rfl

/-- A bitwise result, with the carry of the shifter where it has one. -/
theorem writeLogical_setFlags (result : U32) :
    cpu.writeLogical decoded result =
      if decoded.shifterCarryValid then
        { cpu.writeNz decoded.rd result with carry := decoded.shifterCarry }
      else cpu.writeNz decoded.rd result :=
  cpu.writeFlagged_setFlags hset hrd result _

end Written

/-- A result of a shift, with its carry where there is one. -/
def writeShifted (cpu : Arm7tdmi) (rd : Fin 16) (shifter : ShifterResult) : Arm7tdmi :=
  if shifter.carryValid then { cpu.writeNz rd shifter.value with carry := shifter.carry }
  else cpu.writeNz rd shifter.value

theorem executeThumbShift_eq (cpu : Arm7tdmi) {type : ArmShiftType} (htype : type ≠ .ror)
    (rd rs : Fin 16) {amount : Nat} (hamount : amount < 32) (carryIn : Bool) :
    cpu.executeThumbShift ⟨type, rd, rs, amount⟩ =
      ⟨.executed, cpu.writeShifted rd
        (applyImmediateShift (cpu.registers rs) type amount carryIn)⟩ := by
  unfold executeThumbShift writeShifted applyImmediateShift
  cases type with
  | ror => exact absurd rfl htype
  | lsl => by_cases hzero : amount = 0 <;> simp [hzero]
  | lsr =>
    by_cases hzero : amount = 0
    · -- the shift by 32 leaves nothing of the value and carries its sign out
      subst hzero
      have hshift : cpu.registers rs >>> 32 = 0#32 := BitVec.ushiftRight_eq_zero (Nat.le_refl 32)
      simp [hshift, anySet_sign, BitVec.msb_eq_getLsbD_last]
    · simp [hzero]
  | asr =>
    by_cases hzero : amount = 0
    · subst hzero
      have hshift : (cpu.registers rs).sshiftRight 32 =
          if (cpu.registers rs).msb then 0xFFFFFFFF#32 else 0#32 := sshiftRight_full _
      simp [hshift, anySet_sign, BitVec.msb_eq_getLsbD_last]
    · simp [hzero, arithmeticShift_eq _ (Nat.pos_of_ne_zero hzero) hamount]

theorem executeThumbAluShift_eq (cpu : Arm7tdmi) (opcode : ThumbAluOpcode) (rd rs : Fin 16)
    (type : ArmShiftType) :
    cpu.executeThumbAluShift ⟨opcode, rd, rs⟩ type =
      cpu.writeShifted rd (applyRegisterShift (cpu.registers rd) type
        (cpu.registers rs &&& 0xFF#32).toNat) := by
  unfold executeThumbAluShift writeShifted
  rw [thumbAluShift_eq]
  dsimp only
  generalize applyRegisterShift (cpu.registers rd) type (cpu.registers rs &&& 0xFF#32).toNat =
    shifter
  cases shifter.carryValid <;> rfl

/-- The equivalent of a shift is `MOVS`. -/
theorem executeDataProcessing_mov (cpu : Arm7tdmi) {rd : BitVec 4} (hrd : rd.toFin ≠ kPc)
    (shifter : ShifterResult) (pcOffset : U32) :
    cpu.executeDataProcessing (equivalentInstruction 0xD#4 0x0#4 rd shifter) pcOffset =
      cpu.writeShifted rd.toFin shifter :=
  cpu.writeLogical_setFlags rfl hrd shifter.value

theorem executeArm_registerWord (cpu : Arm7tdmi) (opcode rn rd rm : BitVec 4)
    (hrm : rm.toFin ≠ kPc) :
    executeArm (registerWord opcode rn rd rm) cpu =
      ⟨.executed, cpu.executeDataProcessing
        (equivalentInstruction opcode rn rd ⟨cpu.registers rm.toFin, false, false⟩) 8⟩ :=
  cpu.executeArm_shiftWord opcode rn rd rm 0#5 0#2 hrm

/-- Format 4. -/
theorem executeThumbAlu_eq (instruction : U16) (cpu : Arm7tdmi) :
    (⟨.executed, cpu.executeThumbAlu (decodeThumbAlu instruction)⟩ : Execution) =
      executeArm (aluEquivalent instruction) cpu := by
  have hrd := lowField_ne_pc instruction 0
  have hrs := lowField_ne_pc instruction 3
  have hdecoded : decodeThumbAlu instruction =
      ⟨(decodeThumbAlu instruction).opcode, (lowField instruction 0).toFin,
        (lowField instruction 3).toFin⟩ := rfl
  unfold aluEquivalent
  rw [hdecoded]
  dsimp only
  generalize (decodeThumbAlu instruction).opcode = opcode
  generalize lowField instruction 0 = rd at hrd ⊢
  generalize lowField instruction 3 = rs at hrs ⊢
  have hshift (type : BitVec 2) :
      executeArm (registerShiftWord type rd rs) cpu =
        ⟨.executed, cpu.executeThumbAluShift ⟨opcode, rd.toFin, rs.toFin⟩
          (ArmShiftType.ofBits type)⟩ := by
    rw [cpu.executeArm_registerShiftWord rd rs type hrd hrs, cpu.executeDataProcessing_mov hrd,
      executeThumbAluShift_eq]
  unfold executeThumbAlu
  cases opcode with
  | lsl => exact (hshift 0x0#2).symm
  | lsr => exact (hshift 0x1#2).symm
  | asr => exact (hshift 0x2#2).symm
  | ror => exact (hshift 0x3#2).symm
  | mul =>
    dsimp only
    rw [executeArm_multiplyWord, BitVec.mul_comm]
  | neg =>
    rw [executeArm_immediateWord]
    simp [executeDataProcessing, equivalentInstruction, ArmOpcode.ofBits, hrs,
      writeFlagged_setFlags, hrd]
    rfl
  | tst | cmp | cmn =>
    rw [cpu.executeArm_registerWord _ _ _ _ hrs]
    simp [executeDataProcessing, equivalentInstruction, ArmOpcode.ofBits, hrd, setLogicalFlags]
  | and | eor | orr | bic | mvn =>
    rw [cpu.executeArm_registerWord _ _ _ _ hrs]
    simp [executeDataProcessing, equivalentInstruction, ArmOpcode.ofBits, hrd,
      writeLogical_setFlags]
  | adc | sbc =>
    rw [cpu.executeArm_registerWord _ _ _ _ hrs]
    simp [executeDataProcessing, equivalentInstruction, ArmOpcode.ofBits, hrd,
      writeFlagged_setFlags]
    rfl

/-- Format 2. -/
theorem executeThumbAddSubtract_eq (instruction : U16) (cpu : Arm7tdmi) :
    (⟨.executed, cpu.executeThumbDataProcessing (decodeThumbAddSubtract instruction)⟩ : Execution) =
      executeArm (addSubtractEquivalent instruction) cpu := by
  have hrd := lowField_ne_pc instruction 0
  have hrs := lowField_ne_pc instruction 3
  have hrm := lowField_ne_pc instruction 6
  have hwidth : ∀ value : BitVec 3, (value.setWidth 8).setWidth 32 = value.setWidth 32 := by decide
  unfold addSubtractEquivalent decodeThumbAddSubtract executeThumbDataProcessing
  simp only [lowRegisterField_eq]
  cases instruction.getLsbD 10 <;> cases instruction.getLsbD 9
  all_goals
    simp [executeArm_immediateWord, executeArm_registerWord, hrm, executeDataProcessing,
      equivalentInstruction, ArmOpcode.ofBits, hrs, writeFlagged_setFlags, hrd, operandValue,
      hwidth]

/-- Format 3. -/
theorem executeThumbImmediate_eq (instruction : U16) (cpu : Arm7tdmi) :
    (⟨.executed, cpu.executeThumbDataProcessing (decodeThumbImmediate instruction)⟩ : Execution) =
      executeArm (immediateEquivalent instruction) cpu := by
  have hrd := lowField_ne_pc instruction 8
  have hdecoded : decodeThumbImmediate instruction =
      ⟨(decodeThumbImmediate instruction).opcode, (lowField instruction 8).toFin,
        (lowField instruction 8).toFin,
        .immediate ((instruction.extractLsb' 0 8).setWidth 32)⟩ := rfl
  unfold immediateEquivalent
  rw [hdecoded]
  dsimp only
  cases (decodeThumbImmediate instruction).opcode
  all_goals
    simp [executeThumbDataProcessing, executeArm_immediateWord, executeDataProcessing,
      equivalentInstruction, ArmOpcode.ofBits, hrd, writeFlagged_setFlags, writeLogical_setFlags,
      operandValue]

/-- Format 1. -/
theorem executeThumbShiftImmediate_eq (instruction : U16) (cpu : Arm7tdmi)
    (hclass : canDecodeThumbShiftImmediate instruction = true) :
    cpu.executeThumbShift (decodeThumbShiftImmediate instruction) =
      executeArm (shiftImmediateEquivalent instruction) cpu := by
  have hkind : instruction.extractLsb' 11 2 ≠ 0x3#2 := by
    simp only [canDecodeThumbShiftImmediate, Bool.and_eq_true, decide_eq_true_eq] at hclass
    exact hclass.2
  have htype : ∀ kind : BitVec 2, kind ≠ 0x3#2 → ArmShiftType.ofBits kind ≠ .ror := by decide
  have hamount : (instruction.extractLsb' 6 5).toNat < 32 := (instruction.extractLsb' 6 5).isLt
  unfold shiftImmediateEquivalent
  rw [cpu.executeArm_shiftWord _ _ _ _ _ _ (lowField_ne_pc instruction 3),
    cpu.executeDataProcessing_mov (lowField_ne_pc instruction 0)]
  exact cpu.executeThumbShift_eq (htype _ hkind) _ _ hamount cpu.carry

end Arm7tdmi

/-! ## The classes of Thumb instructions -/

section ThumbClasses

variable {instruction : U16}

/-- The fields that reach to the top of an instruction are fields of its upper six bits. -/
theorem topField_eq {start size : Nat} (hstart : 10 ≤ start) (hsize : start + size = 16) :
    instruction.extractLsb' start size =
      (instruction.extractLsb' 10 6).extractLsb' (start - 10) size :=
  field_of_field rfl hstart (by omega)

theorem topBits_of_byte {value : U8} (h : instruction.extractLsb' 8 8 = value) :
    instruction.extractLsb' 10 6 = value.extractLsb' 2 6 :=
  field_of_field h (by decide) (by decide)

theorem topBits_of_mask {mask value : U16} (h : instruction &&& mask = value) :
    instruction.extractLsb' 10 6 &&& mask.extractLsb' 10 6 = value.extractLsb' 10 6 := by
  rw [← BitVec.extractLsb'_and, h]

/-- The format of an instruction that has an equivalent. -/
theorem armEquivalent_cases {word : U32} (h : armEquivalent instruction = some word) :
    (canDecodeThumbShiftImmediate instruction = true ∧ word = shiftImmediateEquivalent instruction) ∨
      (canDecodeThumbAddSubtract instruction = true ∧ word = addSubtractEquivalent instruction) ∨
      (canDecodeThumbImmediate instruction = true ∧ word = immediateEquivalent instruction) ∨
      (canDecodeThumbAlu instruction = true ∧ word = aluEquivalent instruction) := by
  unfold armEquivalent at h
  split at h
  · exact .inl ⟨‹_›, (Option.some.inj h).symm⟩
  · split at h
    · exact .inr (.inl ⟨‹_›, (Option.some.inj h).symm⟩)
    · split at h
      · exact .inr (.inr (.inl ⟨‹_›, (Option.some.inj h).symm⟩))
      · split at h
        · exact .inr (.inr (.inr ⟨‹_›, (Option.some.inj h).symm⟩))
        · cases h

/-- What the upper six bits say about the classes of `execute_thumb` before data processing. -/
structure IsDataProcessing (instruction : U16) : Prop where
  not_softwareInterrupt : canDecodeThumbSoftwareInterrupt instruction = false
  not_highRegister : canDecodeThumbHighRegister instruction = false
  not_conditionalBranch : canDecodeThumbConditionalBranch instruction = false
  not_unconditionalBranch : canDecodeThumbUnconditionalBranch instruction = false
  not_longBranchLink : canDecodeThumbLongBranchLink instruction = false
  not_stackPointerAdjust : canDecodeThumbStackPointerAdjust instruction = false
  not_loadAddress : canDecodeThumbLoadAddress instruction = false
  not_blockTransfer : canDecodeThumbBlockTransfer instruction = false
  not_stackTransfer : canDecodeThumbStackTransfer instruction = false
  not_memoryTransfer : canDecodeThumbMemoryTransfer instruction = false

theorem isDataProcessing_of_topBits (h : instruction.extractLsb' 10 6 ≤ 0x10#6) :
    IsDataProcessing instruction := by
  have hbyte : ∀ value : U8, ¬value.extractLsb' 2 6 ≤ 0x10#6 →
      instruction.extractLsb' 8 8 ≠ value :=
    fun value hvalue heq => hvalue (topBits_of_byte heq ▸ h)
  have hmask : ∀ value : U16, ¬value.extractLsb' 10 6 ≤ 0x10#6 →
      instruction &&& 0xFE00#16 ≠ value := by
    intro value hvalue heq
    have hlow : ∀ top : BitVec 6, top ≤ 0x10#6 → top &&& 0x3F#6 ≤ 0x10#6 := by decide
    have hmasked : value.extractLsb' 10 6 ≤ 0x10#6 := by
      rw [← topBits_of_mask heq]
      exact hlow _ h
    exact hvalue hmasked
  have hfour : ∀ value : BitVec 4, 0x5#4 ≤ value → instruction.extractLsb' 12 4 ≠ value := by
    have hvalues : ∀ top : BitVec 6, top ≤ 0x10#6 → ∀ value : BitVec 4, 0x5#4 ≤ value →
        top.extractLsb' 2 4 ≠ value := by decide
    rw [topField_eq (by decide) rfl]
    exact hvalues _ h
  have hfive : ∀ value : BitVec 5, 0x9#5 ≤ value → instruction.extractLsb' 11 5 ≠ value := by
    have hvalues : ∀ top : BitVec 6, top ≤ 0x10#6 → ∀ value : BitVec 5, 0x9#5 ≤ value →
        top.extractLsb' 1 5 ≠ value := by decide
    rw [topField_eq (by decide) rfl]
    exact hvalues _ h
  have hthree : instruction.extractLsb' 13 3 ≠ 0x3#3 := by
    have hvalues : ∀ top : BitVec 6, top ≤ 0x10#6 → top.extractLsb' 3 3 ≠ 0x3#3 := by decide
    rw [topField_eq (by decide) rfl]
    exact hvalues _ h
  have hsix : instruction.extractLsb' 10 6 ≠ 0x11#6 := by
    intro heq
    rw [heq] at h
    exact absurd h (by decide)
  constructor
  · exact decide_eq_false (hbyte _ (by decide))
  · exact decide_eq_false hsix
  · simp [canDecodeThumbConditionalBranch, hfour]
  · exact decide_eq_false (hfive _ (by decide))
  · simp [canDecodeThumbLongBranchLink, hfive]
  · exact decide_eq_false (hbyte _ (by decide))
  · exact decide_eq_false (hfour _ (by decide))
  · simp [canDecodeThumbBlockTransfer, hfour]
  · simp [canDecodeThumbStackTransfer, hmask]
  · simp [canDecodeThumbMemoryTransfer, hfive, hfour, hthree]

/-- The upper six bits of each format. -/
theorem topBits_of_armEquivalent {word : U32} (h : armEquivalent instruction = some word) :
    instruction.extractLsb' 10 6 ≤ 0x10#6 := by
  have hfive : ∀ top : BitVec 6, top.extractLsb' 1 5 = 0x3#5 → top ≤ 0x10#6 := by decide
  have hthree : ∀ top : BitVec 6,
      top.extractLsb' 3 3 = 0x0#3 ∨ top.extractLsb' 3 3 = 0x1#3 → top ≤ 0x10#6 := by decide
  rcases armEquivalent_cases h with ⟨hclass, -⟩ | ⟨hclass, -⟩ | ⟨hclass, -⟩ | ⟨hclass, -⟩
  · simp only [canDecodeThumbShiftImmediate, Bool.and_eq_true, decide_eq_true_eq] at hclass
    rw [topField_eq (by decide) rfl] at hclass
    exact hthree _ (.inl hclass.1)
  · have hfield := of_decide_eq_true hclass
    rw [topField_eq (by decide) rfl] at hfield
    exact hfive _ hfield
  · have hfield := of_decide_eq_true hclass
    rw [topField_eq (by decide) rfl] at hfield
    exact hthree _ (.inr hfield)
  · rw [of_decide_eq_true hclass]
    exact BitVec.le_refl _

/-- The classes among which `execute_thumb` finds data processing. -/
theorem IsDataProcessing.executeThumb_eq (h : IsDataProcessing instruction) (cpu : Arm7tdmi) :
    Arm7tdmi.executeThumb instruction cpu =
      if canDecodeThumbShiftImmediate instruction then
        cpu.executeThumbShift (decodeThumbShiftImmediate instruction)
      else if canDecodeThumbAlu instruction then
        ⟨.executed, cpu.executeThumbAlu (decodeThumbAlu instruction)⟩
      else if canDecodeThumbAddSubtract instruction then
        ⟨.executed, cpu.executeThumbDataProcessing (decodeThumbAddSubtract instruction)⟩
      else if canDecodeThumbImmediate instruction then
        ⟨.executed, cpu.executeThumbDataProcessing (decodeThumbImmediate instruction)⟩
      else ⟨.unsupported, cpu⟩ := by
  unfold Arm7tdmi.executeThumb
  simp only [h.not_softwareInterrupt, h.not_highRegister, h.not_conditionalBranch,
    h.not_unconditionalBranch, h.not_longBranchLink, h.not_stackPointerAdjust, h.not_loadAddress,
    Bool.false_eq_true, if_false]

theorem not_shiftImmediate_of_addSubtract (h : canDecodeThumbAddSubtract instruction = true) :
    canDecodeThumbShiftImmediate instruction = false := by
  have hfield := field_of_field (of_decide_eq_true h) (t := 11) (m := 2) (by decide) (by decide)
  have hkind : instruction.extractLsb' 11 2 = 0x3#2 := hfield
  simp [canDecodeThumbShiftImmediate, hkind]

theorem not_shiftImmediate_of_group (h : instruction.extractLsb' 13 3 ≠ 0x0#3) :
    canDecodeThumbShiftImmediate instruction = false := by
  simp [canDecodeThumbShiftImmediate, h]

theorem not_alu_of_group (h : instruction.extractLsb' 13 3 ≠ 0x2#3) :
    canDecodeThumbAlu instruction = false := by
  refine decide_eq_false fun heq => h ?_
  exact (field_of_field heq (by decide) (by decide)).trans rfl

theorem not_addSubtract_of_group (h : instruction.extractLsb' 13 3 ≠ 0x0#3) :
    canDecodeThumbAddSubtract instruction = false := by
  refine decide_eq_false fun heq => h ?_
  exact (field_of_field heq (by decide) (by decide)).trans rfl

/-- A Thumb instruction of formats 1 to 4 is executed as its equivalent is. -/
theorem executeThumb_eq_executeArm {word : U32} (h : armEquivalent instruction = some word)
    (cpu : Arm7tdmi) : Arm7tdmi.executeThumb instruction cpu = Arm7tdmi.executeArm word cpu := by
  have hdata := isDataProcessing_of_topBits (topBits_of_armEquivalent h)
  rw [hdata.executeThumb_eq]
  rcases armEquivalent_cases h with ⟨hclass, rfl⟩ | ⟨hclass, rfl⟩ | ⟨hclass, rfl⟩ | ⟨hclass, rfl⟩
  · rw [if_pos hclass]
    exact Arm7tdmi.executeThumbShiftImmediate_eq instruction cpu hclass
  · have hgroup : instruction.extractLsb' 13 3 = 0x0#3 :=
      field_of_field (of_decide_eq_true hclass) (t := 13) (m := 3) (by decide) (by decide)
    rw [not_shiftImmediate_of_addSubtract hclass, not_alu_of_group (by rw [hgroup]; decide),
      hclass]
    exact Arm7tdmi.executeThumbAddSubtract_eq instruction cpu
  · have hgroup : instruction.extractLsb' 13 3 = 0x1#3 := of_decide_eq_true hclass
    have hlow : instruction.extractLsb' 13 3 ≠ 0x0#3 := by
      rw [hgroup]
      decide
    rw [not_shiftImmediate_of_group hlow, not_alu_of_group (by rw [hgroup]; decide),
      not_addSubtract_of_group hlow, hclass]
    exact Arm7tdmi.executeThumbImmediate_eq instruction cpu
  · have hgroup : instruction.extractLsb' 13 3 = 0x2#3 :=
      field_of_field (of_decide_eq_true hclass) (t := 13) (m := 3) (by decide) (by decide)
    rw [not_shiftImmediate_of_group (by rw [hgroup]; decide), hclass]
    exact Arm7tdmi.executeThumbAlu_eq instruction cpu

theorem executeThumb_executed {word : U32} (h : armEquivalent instruction = some word)
    (cpu : Arm7tdmi) : (Arm7tdmi.executeThumb instruction cpu).status = .executed := by
  rw [(isDataProcessing_of_topBits (topBits_of_armEquivalent h)).executeThumb_eq]
  rcases armEquivalent_cases h with ⟨hclass, -⟩ | ⟨hclass, -⟩ | ⟨hclass, -⟩ | ⟨hclass, -⟩
  · rw [if_pos hclass, Arm7tdmi.executeThumbShiftImmediate_eq instruction cpu hclass]
    unfold shiftImmediateEquivalent
    rw [cpu.executeArm_shiftWord _ _ _ _ _ _ (lowField_ne_pc instruction 3)]
  · rw [not_shiftImmediate_of_addSubtract hclass, hclass]
    cases canDecodeThumbAlu instruction <;> rfl
  · have hgroup : instruction.extractLsb' 13 3 = 0x1#3 := of_decide_eq_true hclass
    rw [not_shiftImmediate_of_group (by rw [hgroup]; decide), hclass]
    cases canDecodeThumbAlu instruction <;> cases canDecodeThumbAddSubtract instruction <;> rfl
  · have hgroup : instruction.extractLsb' 13 3 = 0x2#3 :=
      field_of_field (of_decide_eq_true hclass) (t := 13) (m := 3) (by decide) (by decide)
    rw [not_shiftImmediate_of_group (by rw [hgroup]; decide), hclass]
    rfl

end ThumbClasses

/-! ## With memory -/

/-- The words of equivalents, which no class of memory transfers has. -/
structure IsEquivalentWord (word : U32) : Prop where
  setsFlags : SetsFlags word 0x0#3 ∨ SetsFlags word 0x1#3
  not_halfword : isHalfwordTransfer word = false

theorem not_halfwordTransfer_of_bit {word : U32}
    (h : word.getLsbD 4 = false ∨ word.getLsbD 7 = false) : isHalfwordTransfer word = false := by
  unfold isHalfwordTransfer
  rcases h with h | h <;> simp only [h, Bool.and_false, Bool.false_and]

section EquivalentWords

variable (opcode rn rd rm : BitVec 4)

theorem immediateWord_isEquivalentWord (value : BitVec 8) :
    IsEquivalentWord (immediateWord opcode rn rd value) := by
  have hsets : SetsFlags (immediateWord opcode rn rd value) 0x1#3 := dataProcessingWord_setsFlags ..
  refine ⟨.inr hsets, ?_⟩
  unfold isHalfwordTransfer
  rw [hsets.group]
  rfl

theorem shiftWord_isEquivalentWord (amount : BitVec 5) (type : BitVec 2) :
    IsEquivalentWord
      (dataProcessingWord 0x0#3 opcode rn rd (immediateShiftOperand amount type rm)) := by
  refine ⟨.inl (dataProcessingWord_setsFlags ..), not_halfwordTransfer_of_bit (.inl ?_)⟩
  rw [operandBit _ _ _ _ _ (by decide)]
  exact (immediateShiftOperand_fields amount type rm).2.2.1

theorem registerShiftWord_isEquivalentWord (type : BitVec 2) (rs : BitVec 4) :
    IsEquivalentWord (registerShiftWord type rd rs) := by
  refine ⟨.inl (dataProcessingWord_setsFlags ..), not_halfwordTransfer_of_bit (.inr ?_)⟩
  unfold registerShiftWord
  rw [operandBit _ _ _ _ _ (by decide)]
  exact (registerShiftOperand_fields rs type rd).2.1

theorem multiplyWord_isEquivalentWord (rs : BitVec 4) :
    IsEquivalentWord (dataProcessingWord 0x0#3 opcode rn rd (multiplyOperand rs rm)) := by
  refine ⟨.inl (dataProcessingWord_setsFlags ..), ?_⟩
  have hkind : (multiplyOperand rs rm).extractLsb' 5 2 = 0#2 :=
    (field_of_field (multiplyOperand_fields rs rm).2.1 (by decide) (by decide)).trans rfl
  unfold isHalfwordTransfer
  simp [operandField, hkind]

end EquivalentWords

theorem isEquivalentWord_of_armEquivalent {instruction : U16} {word : U32}
    (h : armEquivalent instruction = some word) : IsEquivalentWord word := by
  rcases armEquivalent_cases h with ⟨-, rfl⟩ | ⟨-, rfl⟩ | ⟨-, rfl⟩ | ⟨-, rfl⟩
  · exact shiftWord_isEquivalentWord ..
  · unfold addSubtractEquivalent
    cases instruction.getLsbD 10
    · exact shiftWord_isEquivalentWord ..
    · exact immediateWord_isEquivalentWord ..
  · unfold immediateEquivalent
    cases (decodeThumbImmediate instruction).opcode <;> exact immediateWord_isEquivalentWord ..
  · unfold aluEquivalent
    cases (decodeThumbAlu instruction).opcode with
    | neg => exact immediateWord_isEquivalentWord ..
    | mul => exact multiplyWord_isEquivalentWord ..
    | lsl | lsr | asr | ror => exact registerShiftWord_isEquivalentWord ..
    | _ => exact shiftWord_isEquivalentWord ..

section Memory

variable {σ : Type} (callbacks : MemoryBusIoCallbacks σ)

theorem IsDataProcessing.executeThumbMemory_eq {instruction : U16}
    (h : IsDataProcessing instruction) (cpu : Arm7tdmi) (bus : BusState σ) :
    Arm7tdmi.executeThumbMemory callbacks instruction cpu bus =
      (Arm7tdmi.executeThumb instruction cpu).withBus bus := by
  unfold Arm7tdmi.executeThumbMemory
  rw [h.not_blockTransfer, h.not_stackTransfer, h.not_memoryTransfer]
  rfl

theorem IsEquivalentWord.executeArmMemory_eq {word : U32} (h : IsEquivalentWord word)
    (cpu : Arm7tdmi) (bus : BusState σ) :
    Arm7tdmi.executeArmMemory callbacks word cpu bus =
      (Arm7tdmi.executeArm word cpu).withBus bus := by
  obtain ⟨group, hsets, hgroup⟩ : ∃ group, SetsFlags word group ∧ (group = 0#3 ∨ group = 1#3) := by
    rcases h.setsFlags with hsets | hsets
    · exact ⟨_, hsets, .inl rfl⟩
    · exact ⟨_, hsets, .inr rfl⟩
  have hsystem := hsets.not_system (by rcases hgroup with rfl | rfl <;> decide)
  have hunconditional : conditionField word ≠ 0xF#4 := by
    rw [hsets.condition]
    decide
  have hblock : canDecodeBlockDataTransfer word = false := by
    unfold canDecodeBlockDataTransfer
    rw [hsets.group]
    rcases hgroup with rfl | rfl <;> rfl
  have hhalfword : canDecodeHalfwordDataTransfer word = false := by
    unfold canDecodeHalfwordDataTransfer canDecodeHalfwordDataTransferImmediate
      canDecodeHalfwordDataTransferRegister
    rw [h.not_halfword]
    simp
  have hzero : word.extractLsb' 26 2 = 0#2 := by
    rw [field_of_field hsets.group (by decide) (by decide)]
    rcases hgroup with rfl | rfl <;> rfl
  have hsingle : canDecodeSingleDataTransfer word = false := by
    unfold canDecodeSingleDataTransfer canDecodeSingleDataTransferImmediate
      canDecodeSingleDataTransferRegister
    rw [hzero]
    rfl
  unfold Arm7tdmi.executeArmMemory
  simp only [if_neg hunconditional, hsystem.1, hsystem.2, hsets.not_swap, hblock, hhalfword,
    hsingle, Bool.false_eq_true, if_false]

/-- Thumb data processing refines ARM data processing: a Thumb instruction of formats 1 to 4 is
executed, and it leaves every register, every flag and all of memory as its equivalent does. -/
theorem thumbDataProcessing_refines {instruction : U16} {word : U32}
    (h : armEquivalent instruction = some word) (cpu : Arm7tdmi) (bus : BusState σ) :
    (Arm7tdmi.executeThumb instruction cpu).status = .executed ∧
      Arm7tdmi.executeThumb instruction cpu = Arm7tdmi.executeArm word cpu ∧
      Arm7tdmi.executeThumbMemory callbacks instruction cpu bus =
        Arm7tdmi.executeArmMemory callbacks word cpu bus := by
  have hdata := isDataProcessing_of_topBits (topBits_of_armEquivalent h)
  refine ⟨executeThumb_executed h cpu, executeThumb_eq_executeArm h cpu, ?_⟩
  rw [hdata.executeThumbMemory_eq callbacks,
    (isEquivalentWord_of_armEquivalent h).executeArmMemory_eq callbacks,
    executeThumb_eq_executeArm h cpu]

/-- `ADC r0, r1` is `ADCS r0, r0, r1`. -/
theorem thumbDataProcessing_refines_adc :
    armEquivalent 0x4148#16 = some 0xE0B00001#32 ∧
      (Arm7tdmi.executeThumb 0x4148#16 Arm7tdmi.reset).status = .executed ∧
      Arm7tdmi.executeThumb 0x4148#16 Arm7tdmi.reset =
        Arm7tdmi.executeArm 0xE0B00001#32 Arm7tdmi.reset ∧
      Arm7tdmi.executeThumbMemory (⟨none, none, none, none⟩ : MemoryBusIoCallbacks Unit) 0x4148#16
          Arm7tdmi.reset ⟨MemoryBus.initial, ()⟩ =
        Arm7tdmi.executeArmMemory ⟨none, none, none, none⟩ 0xE0B00001#32 Arm7tdmi.reset
          ⟨MemoryBus.initial, ()⟩ :=
  have h : armEquivalent 0x4148#16 = some 0xE0B00001#32 := by decide
  ⟨h, thumbDataProcessing_refines ⟨none, none, none, none⟩ h Arm7tdmi.reset
    ⟨MemoryBus.initial, ()⟩⟩

end Memory

end Gba.Core
