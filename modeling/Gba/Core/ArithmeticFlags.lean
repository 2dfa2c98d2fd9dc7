import Gba.Core.ArmExecute
import Gba.Library.SignedWords

/-!
# Flags of the arithmetic instructions

What `execute_data_processing` computes for an opcode that adds or subtracts is the exact integer
result, as far as 32 bits hold it, with four flags that are read off exact results: the carry off
that of the operands as unsigned numbers, the overflow off that of the operands as signed ones.
-/

namespace Gba.Core

open SignedWords

namespace ArmOpcode

/-- The opcodes that add or subtract. -/
def arithmetic : ArmOpcode → Bool
  | .add | .adc | .sub | .sbc | .rsb | .rsc | .cmp | .cmn => true
  | _ => false

/-- The arithmetic opcodes without a destination. -/
def compares : ArmOpcode → Bool
  | .cmp | .cmn => true
  | _ => false

/-- The exact result of an arithmetic opcode. -/
def exact (opcode : ArmOpcode) (left right : Int) (carryIn : Bool) : Int :=
  let carry : Int := if carryIn then 1 else 0
  let borrow : Int := if carryIn then 0 else 1
  match opcode with
  | .add | .cmn => left + right
  | .adc => left + right + carry
  | .sub | .cmp => left - right
  | .sbc => left - right - borrow
  | .rsb => right - left
  | .rsc => right - left - borrow
  | _ => 0

/-- The carry that belongs to an exact unsigned result: the carry out of a sum, and no borrow from a
difference. -/
def carryOut (opcode : ArmOpcode) (exact : Int) : Bool :=
  match opcode with
  | .add | .adc | .cmn => 2 ^ 32 ≤ exact
  | _ => 0 ≤ exact

/-- The word that an arithmetic opcode computes. -/
def exactWord (opcode : ArmOpcode) (left right : U32) (carryIn : Bool) : U32 :=
  BitVec.ofInt 32 (opcode.exact left.toInt right.toInt carryIn)

end ArmOpcode

/-! ## Overflow -/

/-- The sign of a word that holds a number of 33 bits is wrong when 32 bits do not hold it. -/
theorem ofInt_neg_iff {value : Int} (h : -2 ^ 32 ≤ value ∧ value < 2 ^ 32) :
    (BitVec.ofInt 32 value).toInt < 0 ↔ (value < 0 ↔ -2 ^ 31 ≤ value ∧ value < 2 ^ 31) := by
  rw [BitVec.toInt_ofInt, Int.bmod_def]
  split <;> omega

/-- A sum overflows when its operands agree in their signs, and the result does not. -/
theorem sum_overflow (left right : U32) {carry : Int} (h : carry = 0 ∨ carry = 1) :
    (left.msb == right.msb &&
        left.msb != (BitVec.ofInt 32 (left.toInt + right.toInt + carry)).msb) =
      decide (¬Fits 32 (left.toInt + right.toInt + carry)) := by
  have hleft := left.toInt_lt
  have hleft' := left.le_toInt
  have hright := right.toInt_lt
  have hright' := right.le_toInt
  have hsign := @ofInt_neg_iff (left.toInt + right.toInt + carry) (by omega)
  rw [BitVec.msb_eq_toInt, BitVec.msb_eq_toInt, BitVec.msb_eq_toInt, Bool.eq_iff_iff]
  simp only [Bool.and_eq_true, beq_iff_eq, bne_iff_ne, ne_eq, decide_eq_decide, decide_eq_true_eq,
    fits_32]
  omega

/-- A difference overflows when its operands differ in their signs, and the result has not that of
the first. -/
theorem difference_overflow (left right : U32) {borrow : Int} (h : borrow = 0 ∨ borrow = 1) :
    (left.msb != right.msb &&
        left.msb != (BitVec.ofInt 32 (left.toInt - right.toInt - borrow)).msb) =
      decide (¬Fits 32 (left.toInt - right.toInt - borrow)) := by
  have hleft := left.toInt_lt
  have hleft' := left.le_toInt
  have hright := right.toInt_lt
  have hright' := right.le_toInt
  have hsign := @ofInt_neg_iff (left.toInt - right.toInt - borrow) (by omega)
  rw [BitVec.msb_eq_toInt, BitVec.msb_eq_toInt, BitVec.msb_eq_toInt, Bool.eq_iff_iff]
  simp only [Bool.and_eq_true, bne_iff_ne, ne_eq, decide_eq_decide, decide_eq_true_eq,
    fits_32]
  omega

namespace Arm7tdmi

/-- The flags of an exact result. -/
def withExactFlags (cpu : Arm7tdmi) (opcode : ArmOpcode) (left right : U32) (carryIn : Bool) :
    Arm7tdmi :=
  let result := opcode.exactWord left right carryIn
  { cpu with
    negative := result.toInt < 0
    zero := result = 0
    carry := opcode.carryOut (opcode.exact left.toNat right.toNat carryIn)
    overflow := ¬Fits 32 (opcode.exact left.toInt right.toInt carryIn) }

section Flags

variable (cpu : Arm7tdmi) (left right : U32) (carryIn : Bool)

theorem add_exactWord : left + right = ArmOpcode.exactWord .add left right carryIn := by
  show _ = BitVec.ofInt 32 (left.toInt + right.toInt)
  rw [BitVec.ofInt_add, BitVec.ofInt_toInt, BitVec.ofInt_toInt]

theorem sub_exactWord : left - right = ArmOpcode.exactWord .sub left right carryIn :=
  (ofInt_sub left right).symm

theorem adc_exactWord :
    left + right + (if carryIn then 1 else 0) = ArmOpcode.exactWord .adc left right carryIn := by
  unfold ArmOpcode.exactWord ArmOpcode.exact
  rw [BitVec.ofInt_add, BitVec.ofInt_add, BitVec.ofInt_toInt, BitVec.ofInt_toInt]
  cases carryIn <;> rfl

theorem sbc_exactWord :
    left - right - (if carryIn then 0 else 1) = ArmOpcode.exactWord .sbc left right carryIn := by
  unfold ArmOpcode.exactWord ArmOpcode.exact
  dsimp only
  cases carryIn with
  | false =>
    rw [if_neg Bool.false_ne_true, if_neg Bool.false_ne_true, Int.sub_eq_add_neg, BitVec.ofInt_add,
      ofInt_sub, BitVec.sub_eq_add_neg]
    rfl
  | true =>
    rw [if_pos rfl, if_pos rfl, Int.sub_zero, ofInt_sub]
    exact BitVec.sub_zero _

/-- Flags are exact where the result, the carry and the overflow are. -/
theorem exactFlags_of {opcode : ArmOpcode} {result : U32} {carry overflow : Bool}
    (hresult : result = opcode.exactWord left right carryIn)
    (hcarry : carry = opcode.carryOut (opcode.exact left.toNat right.toNat carryIn))
    (hoverflow : overflow = decide (¬Fits 32 (opcode.exact left.toInt right.toInt carryIn))) :
    { cpu.setNz result with carry := carry, overflow := overflow } =
      cpu.withExactFlags opcode left right carryIn := by
  subst hresult hcarry hoverflow
  unfold setNz withExactFlags
  rw [BitVec.msb_eq_toInt]

theorem setAddFlags_exact :
    cpu.setAddFlags left right (left + right) = cpu.withExactFlags .add left right carryIn := by
  refine exactFlags_of cpu left right carryIn (add_exactWord left right carryIn) ?_ ?_
  · show decide (left + right < left) = decide ((2 : Int) ^ 32 ≤ left.toNat + right.toNat)
    rw [decide_eq_decide]
    bv_omega
  · have hoverflow := @sum_overflow left right 0 (.inl rfl)
    rw [Int.add_zero] at hoverflow
    rw [add_exactWord left right carryIn]
    exact hoverflow

theorem setAdcFlags_exact :
    cpu.setAdcFlags left right carryIn (left + right + if carryIn then 1 else 0) =
      cpu.withExactFlags .adc left right carryIn := by
  refine exactFlags_of cpu left right carryIn (adc_exactWord left right carryIn) ?_ ?_
  · show decide (0xFFFFFFFF#64 < left.setWidth 64 + right.setWidth 64 + if carryIn then 1 else 0) =
      decide ((2 : Int) ^ 32 ≤ left.toNat + right.toNat + if carryIn then 1 else 0)
    rw [decide_eq_decide]
    cases carryIn
    · simp only [Bool.false_eq_true, if_false]
      bv_omega
    · simp only [if_true]
      bv_omega
  · rw [adc_exactWord]
    exact sum_overflow left right (by cases carryIn <;> decide)

theorem setSubFlags_exact :
    cpu.setSubFlags left right (left - right) = cpu.withExactFlags .sub left right carryIn := by
  refine exactFlags_of cpu left right carryIn (sub_exactWord left right carryIn) ?_ ?_
  · show decide (right ≤ left) = decide ((0 : Int) ≤ left.toNat - right.toNat)
    rw [decide_eq_decide]
    bv_omega
  · have hoverflow := @difference_overflow left right 0 (.inl rfl)
    rw [Int.sub_zero] at hoverflow
    rw [sub_exactWord left right carryIn]
    exact hoverflow

theorem setSbcFlags_exact :
    cpu.setSbcFlags left right carryIn (left - right - if carryIn then 0 else 1) =
      cpu.withExactFlags .sbc left right carryIn := by
  refine exactFlags_of cpu left right carryIn (sbc_exactWord left right carryIn) ?_ ?_
  · show decide ((right.setWidth 64 + if carryIn then 0 else 1) ≤ left.setWidth 64) =
      decide ((0 : Int) ≤ left.toNat - right.toNat - if carryIn then 0 else 1)
    rw [decide_eq_decide]
    cases carryIn
    · simp only [Bool.false_eq_true, if_false]
      bv_omega
    · simp only [if_true]
      bv_omega
  · rw [sbc_exactWord]
    exact difference_overflow left right (by cases carryIn <;> decide)

/-! ## Reversed operands -/

theorem rsb_exact (left right : Int) : ArmOpcode.exact .rsb left right carryIn =
    ArmOpcode.exact .sub right left carryIn := rfl

theorem rsc_exact (left right : Int) : ArmOpcode.exact .rsc left right carryIn =
    ArmOpcode.exact .sbc right left carryIn := rfl

theorem rsb_exactWord :
    ArmOpcode.exactWord .rsb left right carryIn = ArmOpcode.exactWord .sub right left carryIn := by
  unfold ArmOpcode.exactWord
  rw [rsb_exact]

theorem rsc_exactWord :
    ArmOpcode.exactWord .rsc left right carryIn = ArmOpcode.exactWord .sbc right left carryIn := by
  unfold ArmOpcode.exactWord
  rw [rsc_exact]

theorem withExactFlags_rsb :
    cpu.withExactFlags .rsb left right carryIn = cpu.withExactFlags .sub right left carryIn := by
  unfold withExactFlags
  rw [rsb_exactWord, rsb_exact, rsb_exact]
  rfl

theorem withExactFlags_rsc :
    cpu.withExactFlags .rsc left right carryIn = cpu.withExactFlags .sbc right left carryIn := by
  unfold withExactFlags
  rw [rsc_exactWord, rsc_exact, rsc_exact]
  rfl

end Flags

/-! ## Instructions -/

/-- The first operand of a data-processing instruction. -/
def leftOperand (cpu : Arm7tdmi) (decoded : DecodedArmInstruction) (pcOffset : U32) : U32 :=
  if decoded.rn = kPc then cpu.registers kPc + pcOffset else cpu.registers decoded.rn

/-- The exact effect of an arithmetic instruction: the result in its destination, the flags where
they are set, and nothing else. -/
def exactArithmetic (cpu : Arm7tdmi) (decoded : DecodedArmInstruction) (pcOffset : U32) :
    Arm7tdmi :=
  let left := cpu.leftOperand decoded pcOffset
  let result := decoded.opcode.exactWord left decoded.operand2 cpu.carry
  let written := if decoded.opcode.compares then cpu else cpu.setRegister decoded.rd result
  if decoded.setFlags || decoded.opcode.compares then
    written.withExactFlags decoded.opcode left decoded.operand2 cpu.carry
  else written

/-- A written result with its flags, where the destination is not the program counter. -/
theorem writeFlagged_exact {cpu : Arm7tdmi} {decoded : DecodedArmInstruction} {pcOffset result : U32}
    {opcode : ArmOpcode} {setFlags : Arm7tdmi → Arm7tdmi} (hopcode : decoded.opcode = opcode)
    (hcompares : opcode.compares = false) (hrd : decoded.rd ≠ kPc)
    (hresult : result =
      opcode.exactWord (cpu.leftOperand decoded pcOffset) decoded.operand2 cpu.carry)
    (hflags : ∀ written : Arm7tdmi, setFlags written =
      written.withExactFlags opcode (cpu.leftOperand decoded pcOffset) decoded.operand2 cpu.carry) :
    cpu.writeFlagged decoded result setFlags = cpu.exactArithmetic decoded pcOffset := by
  have hrestore : cpu.spsrRestoreToPc decoded = false := by
    unfold spsrRestoreToPc
    rw [decide_eq_false hrd]
    rfl
  unfold writeFlagged writeResult exactArithmetic
  rw [hrestore, hopcode, hcompares, Bool.not_false, Bool.and_true, Bool.or_false, hresult]
  simp only [hflags, Bool.false_eq_true, if_false]

/-- Every arithmetic instruction has its exact effect. -/
theorem executeDataProcessing_exact (cpu : Arm7tdmi) (decoded : DecodedArmInstruction)
    (pcOffset : U32) (harithmetic : decoded.opcode.arithmetic = true)
    (hrd : decoded.opcode.compares = false → decoded.rd ≠ kPc) :
    cpu.executeDataProcessing decoded pcOffset = cpu.exactArithmetic decoded pcOffset := by
  have hcompare : decoded.opcode.compares = true → cpu.exactArithmetic decoded pcOffset =
      cpu.withExactFlags decoded.opcode (cpu.leftOperand decoded pcOffset) decoded.operand2
        cpu.carry := by
    intro hcompares
    unfold exactArithmetic
    rw [hcompares, Bool.or_true]
    rfl
  unfold executeDataProcessing
  rw [← leftOperand]
  cases hopcode : decoded.opcode with
  | and | eor | tst | teq | orr | mov | bic | mvn =>
    rw [hopcode] at harithmetic
    contradiction
  | cmp =>
    rw [hopcode] at hcompare
    rw [hcompare rfl]
    exact setSubFlags_exact cpu _ _ cpu.carry
  | cmn =>
    rw [hopcode] at hcompare
    rw [hcompare rfl]
    exact setAddFlags_exact cpu _ _ cpu.carry
  | add =>
    rw [hopcode] at hrd
    exact writeFlagged_exact hopcode rfl (hrd rfl) (add_exactWord _ _ _)
      fun written => setAddFlags_exact written _ _ _
  | sub =>
    rw [hopcode] at hrd
    exact writeFlagged_exact hopcode rfl (hrd rfl) (sub_exactWord _ _ _)
      fun written => setSubFlags_exact written _ _ _
  | rsb =>
    rw [hopcode] at hrd
    -- the reversed forms are the plain ones with the operands exchanged
    refine writeFlagged_exact hopcode rfl (hrd rfl) ?_ fun written => ?_
    · rw [rsb_exactWord]
      exact sub_exactWord _ _ _
    · rw [withExactFlags_rsb]
      exact setSubFlags_exact written _ _ _
  | adc =>
    rw [hopcode] at hrd
    exact writeFlagged_exact hopcode rfl (hrd rfl) (adc_exactWord _ _ _)
      fun written => setAdcFlags_exact written _ _ _
  | sbc =>
    rw [hopcode] at hrd
    exact writeFlagged_exact hopcode rfl (hrd rfl) (sbc_exactWord _ _ _)
      fun written => setSbcFlags_exact written _ _ _
  | rsc =>
    rw [hopcode] at hrd
    refine writeFlagged_exact hopcode rfl (hrd rfl) ?_ fun written => ?_
    · rw [rsc_exactWord]
      exact sbc_exactWord _ _ _
    · rw [withExactFlags_rsc]
      exact setSbcFlags_exact written _ _ _

/-- `SBCS r1, r0, #0` without a carry. -/
theorem executeDataProcessing_exact_sbc :
    Arm7tdmi.reset.executeDataProcessing ⟨some .al, .sbc, true, 0, 1, 0, false, false⟩ 8 =
      Arm7tdmi.reset.exactArithmetic ⟨some .al, .sbc, true, 0, 1, 0, false, false⟩ 8 :=
  executeDataProcessing_exact _ _ _ rfl fun _ => by decide

end Arm7tdmi

end Gba.Core
