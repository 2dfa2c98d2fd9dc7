import Gba.Core.Arm7tdmi
import Gba.Core.MemoryBus

/-!
# Decoding ARM instructions

The barrel shifter and the `can_decode_*` and `decode_*` functions of `arm7tdmi.cpp` for the ARM
instruction set. A `decode_*` of the source throws on an instruction that its `can_decode_*`
refuses; every caller asks first, so that the decoders here are total.
-/

namespace Gba.Core

/-- `ArmCondition`. -/
inductive ArmCondition where
  | eq | ne | cs | cc | mi | pl | vs | vc | hi | ls | ge | lt | gt | le | al
  deriving DecidableEq, Repr

/-- The condition with a number; the last number names none. -/
def ArmCondition.ofBits (bits : BitVec 4) : Option ArmCondition :=
  [ArmCondition.eq, .ne, .cs, .cc, .mi, .pl, .vs, .vc, .hi, .ls, .ge, .lt, .gt, .le, .al][bits.toNat]?

/-- `ArmOpcode`. -/
inductive ArmOpcode where
  | and | eor | sub | rsb | add | adc | sbc | rsc | tst | teq | cmp | cmn | orr | mov | bic | mvn
  deriving DecidableEq, Repr

/-- The opcode with a number; the sixteen numbers are all in use. -/
def ArmOpcode.ofBits (bits : BitVec 4) : ArmOpcode :=
  [ArmOpcode.and, .eor, .sub, .rsb, .add, .adc, .sbc, .rsc, .tst, .teq, .cmp, .cmn, .orr, .mov,
    .bic, .mvn].getD bits.toNat .mvn

/-- `ArmShiftType`. -/
inductive ArmShiftType where
  | lsl | lsr | asr | ror
  deriving DecidableEq, Repr

/-- The shift type with a number. -/
def ArmShiftType.ofBits (bits : BitVec 2) : ArmShiftType :=
  [ArmShiftType.lsl, .lsr, .asr, .ror].getD bits.toNat .ror

/-- The register that four bits of an instruction name. -/
def registerField {w : Nat} (instruction : BitVec w) (shift : Nat) : Fin 16 :=
  (instruction.extractLsb' shift 4).toFin

/-! ## The barrel shifter -/

/-- `ShifterResult`. -/
structure ShifterResult where
  value : U32
  carryValid : Bool
  carry : Bool
  deriving DecidableEq, Repr

/-- `value >> amount` with copies of the sign above it, for an amount from 1 to 31. -/
def arithmeticShift (value : U32) (amount : Nat) : U32 :=
  if anySet value 0x80000000#32 then value >>> amount ||| 0xFFFFFFFF#32 <<< (32 - amount)
  else value >>> amount

/-- `apply_immediate_shift`: an amount of zero stands for 32, and for `rrx` in a rotation. -/
def applyImmediateShift (value : U32) (type : ArmShiftType) (amount : Nat) (carryIn : Bool) :
    ShifterResult :=
  match type with
  | .lsl =>
      if amount = 0 then ⟨value, false, false⟩
      else ⟨value <<< amount, true, value.getLsbD (32 - amount)⟩
  | .lsr =>
      if amount = 0 then ⟨0, true, anySet value 0x80000000#32⟩
      else ⟨value >>> amount, true, value.getLsbD (amount - 1)⟩
  | .asr =>
      if amount = 0 then
        ⟨if anySet value 0x80000000#32 then 0xFFFFFFFF#32 else 0, true,
          anySet value 0x80000000#32⟩
      else ⟨arithmeticShift value amount, true, value.getLsbD (amount - 1)⟩
  | .ror =>
      if amount = 0 then
        ⟨(if carryIn then 0x80000000#32 else 0) ||| value >>> 1, true, anySet value 0x1#32⟩
      else
        ⟨rotateRight value amount, true, anySet (rotateRight value amount) 0x80000000#32⟩

/-- `apply_register_shift`. -/
def applyRegisterShift (value : U32) (type : ArmShiftType) (amount : Nat) : ShifterResult :=
  if amount = 0 then ⟨value, false, false⟩
  else
    match type with
    | .lsl =>
        if amount < 32 then ⟨value <<< amount, true, value.getLsbD (32 - amount)⟩
        else if amount = 32 then ⟨0, true, anySet value 0x1#32⟩
        else ⟨0, true, false⟩
    | .lsr =>
        if amount < 32 then ⟨value >>> amount, true, value.getLsbD (amount - 1)⟩
        else if amount = 32 then ⟨0, true, anySet value 0x80000000#32⟩
        else ⟨0, true, false⟩
    | .asr =>
        if amount < 32 then
          ⟨arithmeticShift value amount, true, value.getLsbD (amount - 1)⟩
        else
          ⟨if anySet value 0x80000000#32 then 0xFFFFFFFF#32 else 0, true,
            anySet value 0x80000000#32⟩
    | .ror =>
        let result := rotateRight value amount
        ⟨result, true, anySet result 0x80000000#32⟩

/-! ## Classes of instructions -/

/-- The condition field of an ARM instruction. -/
def conditionField (instruction : U32) : BitVec 4 := instruction.extractLsb' 28 4

/-- `supported_condition`. -/
def supportedCondition (instruction : U32) : Bool := conditionField instruction ≠ 0xF#4

/-- The condition of a decoded instruction. -/
def decodeCondition (instruction : U32) : Option ArmCondition :=
  ArmCondition.ofBits (conditionField instruction)

/-- The encoding of `MRS`. -/
def isMrs (instruction : U32) : Bool :=
  instruction.extractLsb' 23 5 = 0x2#5 && instruction.extractLsb' 16 6 = 0x0F#6 &&
    instruction.extractLsb' 0 12 = 0#12

/-- `can_decode_psr_transfer`. -/
def canDecodePsrTransfer (instruction : U32) : Bool :=
  let opGroup := instruction.extractLsb' 23 5
  let write : Bool :=
    instruction.getLsbD 21 && !instruction.getLsbD 20 &&
      instruction.extractLsb' 12 4 = 0xF#4 && instruction.extractLsb' 16 4 ≠ 0#4
  let registerMsr : Bool := opGroup = 0x2#5 && instruction.extractLsb' 4 8 = 0#8 && write
  let immediateMsr : Bool := opGroup = 0x6#5 && write
  supportedCondition instruction && (isMrs instruction || (registerMsr || immediateMsr))

/-- `can_decode_software_interrupt`. -/
def canDecodeSoftwareInterrupt (instruction : U32) : Bool :=
  supportedCondition instruction && instruction.extractLsb' 24 4 = 0xF#4

/-- `can_decode_swap`. -/
def canDecodeSwap (instruction : U32) : Bool :=
  instruction.extractLsb' 23 5 = 0x2#5 && instruction.extractLsb' 20 2 = 0#2 &&
    instruction.extractLsb' 4 8 = 0x9#8 && supportedCondition instruction &&
    registerField instruction 16 ≠ Arm7tdmi.kPc && registerField instruction 12 ≠ Arm7tdmi.kPc &&
    registerField instruction 0 ≠ Arm7tdmi.kPc

/-- A register shifts the operand of a data-processing instruction. -/
def isRegisterShift (instruction : U32) : Bool :=
  instruction.getLsbD 4 && !instruction.getLsbD 7

/-- `can_decode_data_processing_immediate`. -/
def canDecodeDataProcessingImmediate (instruction : U32) : Bool :=
  !canDecodePsrTransfer instruction && instruction.extractLsb' 26 2 = 0#2 &&
    instruction.getLsbD 25 && supportedCondition instruction

/-- `can_decode_data_processing_register_shift`. -/
def canDecodeDataProcessingRegisterShift (instruction : U32) : Bool :=
  !(canDecodePsrTransfer instruction || canDecodeSwap instruction) &&
    instruction.extractLsb' 26 2 = 0#2 && !instruction.getLsbD 25 &&
    (!instruction.getLsbD 4 || isRegisterShift instruction) && supportedCondition instruction

/-- `can_decode_multiply`. -/
def canDecodeMultiply (instruction : U32) : Bool :=
  instruction.extractLsb' 22 6 = 0#6 && instruction.extractLsb' 4 4 = 0x9#4 &&
    supportedCondition instruction

/-- `can_decode_multiply_long`. -/
def canDecodeMultiplyLong (instruction : U32) : Bool :=
  instruction.extractLsb' 23 5 = 0x1#5 && instruction.extractLsb' 4 4 = 0x9#4 &&
    supportedCondition instruction

/-- `can_decode_branch`. -/
def canDecodeBranch (instruction : U32) : Bool :=
  instruction.extractLsb' 25 3 = 0x5#3 && supportedCondition instruction

/-- `can_decode_branch_exchange`. -/
def canDecodeBranchExchange (instruction : U32) : Bool :=
  instruction.extractLsb' 4 24 = 0x12FFF1#24 && supportedCondition instruction

/-- `can_decode_single_data_transfer_immediate`. -/
def canDecodeSingleDataTransferImmediate (instruction : U32) : Bool :=
  instruction.extractLsb' 26 2 = 0x1#2 && !instruction.getLsbD 25 &&
    supportedCondition instruction

/-- `can_decode_single_data_transfer_register`. -/
def canDecodeSingleDataTransferRegister (instruction : U32) : Bool :=
  instruction.extractLsb' 26 2 = 0x1#2 && instruction.getLsbD 25 && !instruction.getLsbD 4 &&
    supportedCondition instruction

/-- Either form of a word or byte transfer. -/
def canDecodeSingleDataTransfer (instruction : U32) : Bool :=
  canDecodeSingleDataTransferImmediate instruction ||
    canDecodeSingleDataTransferRegister instruction

/-- What the two forms of a halfword transfer have in common. -/
def isHalfwordTransfer (instruction : U32) : Bool :=
  let transferKind := instruction.extractLsb' 5 2
  instruction.extractLsb' 25 3 = 0#3 && instruction.getLsbD 7 && instruction.getLsbD 4 &&
    (transferKind = 0x1#2 ||
      instruction.getLsbD 20 && (transferKind = 0x2#2 || transferKind = 0x3#2)) &&
    supportedCondition instruction

/-- `can_decode_halfword_data_transfer_immediate`. -/
def canDecodeHalfwordDataTransferImmediate (instruction : U32) : Bool :=
  instruction.getLsbD 22 && isHalfwordTransfer instruction

/-- `can_decode_halfword_data_transfer_register`. -/
def canDecodeHalfwordDataTransferRegister (instruction : U32) : Bool :=
  !instruction.getLsbD 22 && instruction.extractLsb' 8 4 = 0#4 && isHalfwordTransfer instruction

/-- Either form of a halfword transfer. -/
def canDecodeHalfwordDataTransfer (instruction : U32) : Bool :=
  canDecodeHalfwordDataTransferImmediate instruction ||
    canDecodeHalfwordDataTransferRegister instruction

/-- `can_decode_block_data_transfer`. -/
def canDecodeBlockDataTransfer (instruction : U32) : Bool :=
  instruction.extractLsb' 25 3 = 0x4#3 && instruction.extractLsb' 0 16 ≠ 0#16 &&
    registerField instruction 16 ≠ Arm7tdmi.kPc && supportedCondition instruction

/-! ## Decoded instructions -/

/-- `DecodedArmInstruction`. -/
structure DecodedArmInstruction where
  condition : Option ArmCondition
  opcode : ArmOpcode
  setFlags : Bool
  rn : Fin 16
  rd : Fin 16
  operand2 : U32
  shifterCarryValid : Bool
  shifterCarry : Bool

/-- A data-processing instruction with its second operand. -/
def decodeDataProcessing (instruction : U32) (shifter : ShifterResult) : DecodedArmInstruction where
  condition := decodeCondition instruction
  opcode := ArmOpcode.ofBits (instruction.extractLsb' 21 4)
  setFlags := instruction.getLsbD 20
  rn := registerField instruction 16
  rd := registerField instruction 12
  operand2 := shifter.value
  shifterCarryValid := shifter.carryValid
  shifterCarry := shifter.carry

/-- The rotated immediate operand of an instruction. -/
def rotatedImmediate (instruction : U32) : U32 :=
  rotateRight (instruction &&& 0xFF#32) ((instruction.extractLsb' 8 4).toNat * 2)

/-- `decode_data_processing_immediate`. -/
def decodeDataProcessingImmediate (instruction : U32) : DecodedArmInstruction :=
  let operand2 := rotatedImmediate instruction
  decodeDataProcessing instruction
    ⟨operand2, instruction.extractLsb' 8 4 ≠ 0#4, anySet operand2 0x80000000#32⟩

/-- `decode_data_processing_register_shift` for a shift by an immediate amount. -/
def decodeDataProcessingImmediateShift (instruction rmValue : U32) (carryIn : Bool) :
    DecodedArmInstruction :=
  decodeDataProcessing instruction
    (applyImmediateShift rmValue (ArmShiftType.ofBits (instruction.extractLsb' 5 2))
      (instruction.extractLsb' 7 5).toNat carryIn)

/-- `decode_data_processing_register_shift` for a shift by a register. -/
def decodeDataProcessingRegisterShift (instruction rmValue rsValue : U32) :
    DecodedArmInstruction :=
  decodeDataProcessing instruction
    (applyRegisterShift rmValue (ArmShiftType.ofBits (instruction.extractLsb' 5 2))
      (rsValue &&& 0xFF#32).toNat)

/-- `DecodedMultiplyInstruction`. -/
structure DecodedMultiplyInstruction where
  condition : Option ArmCondition
  accumulate : Bool
  setFlags : Bool
  rd : Fin 16
  rn : Fin 16
  rs : Fin 16
  rm : Fin 16

/-- `decode_multiply`. -/
def decodeMultiply (instruction : U32) : DecodedMultiplyInstruction where
  condition := decodeCondition instruction
  accumulate := instruction.getLsbD 21
  setFlags := instruction.getLsbD 20
  rd := registerField instruction 16
  rn := registerField instruction 12
  rs := registerField instruction 8
  rm := registerField instruction 0

/-- `DecodedMultiplyLongInstruction`. -/
structure DecodedMultiplyLongInstruction where
  condition : Option ArmCondition
  signedMultiply : Bool
  accumulate : Bool
  setFlags : Bool
  rdHi : Fin 16
  rdLo : Fin 16
  rs : Fin 16
  rm : Fin 16

/-- `decode_multiply_long`. -/
def decodeMultiplyLong (instruction : U32) : DecodedMultiplyLongInstruction where
  condition := decodeCondition instruction
  signedMultiply := instruction.getLsbD 22
  accumulate := instruction.getLsbD 21
  setFlags := instruction.getLsbD 20
  rdHi := registerField instruction 16
  rdLo := registerField instruction 12
  rs := registerField instruction 8
  rm := registerField instruction 0

/-- `DecodedBranchInstruction`; the offset is the source's signed one as a word. -/
structure DecodedBranchInstruction where
  condition : Option ArmCondition
  link : Bool
  offset : U32

/-- `decode_branch`, with `sign_extend_branch_offset`. -/
def decodeBranch (instruction : U32) : DecodedBranchInstruction where
  condition := decodeCondition instruction
  link := instruction.getLsbD 24
  offset := (instruction.extractLsb' 0 24).signExtend 32 * 4

/-- `DecodedBranchExchangeInstruction`. -/
structure DecodedBranchExchangeInstruction where
  condition : Option ArmCondition
  rm : Fin 16

/-- `decode_branch_exchange`. -/
def decodeBranchExchange (instruction : U32) : DecodedBranchExchangeInstruction where
  condition := decodeCondition instruction
  rm := registerField instruction 0

/-- `DecodedSingleDataTransferInstruction`. -/
structure DecodedSingleDataTransferInstruction where
  condition : Option ArmCondition
  load : Bool
  byte : Bool
  preIndex : Bool
  up : Bool
  writeBack : Bool
  rn : Fin 16
  rd : Fin 16
  offset : U32

/-- A word or byte transfer with its offset. -/
def decodeSingleDataTransferWith (instruction offset : U32) :
    DecodedSingleDataTransferInstruction where
  condition := decodeCondition instruction
  load := instruction.getLsbD 20
  byte := instruction.getLsbD 22
  preIndex := instruction.getLsbD 24
  up := instruction.getLsbD 23
  writeBack := instruction.getLsbD 21
  rn := registerField instruction 16
  rd := registerField instruction 12
  offset := offset

/-- `decode_single_data_transfer_immediate`. -/
def decodeSingleDataTransferImmediate (instruction : U32) :
    DecodedSingleDataTransferInstruction :=
  decodeSingleDataTransferWith instruction (instruction &&& 0xFFF#32)

/-- `decode_single_data_transfer_register`. -/
def decodeSingleDataTransferRegister (instruction rmValue : U32) (carryIn : Bool) :
    DecodedSingleDataTransferInstruction :=
  decodeSingleDataTransferWith instruction
    (applyImmediateShift rmValue (ArmShiftType.ofBits (instruction.extractLsb' 5 2))
      (instruction.extractLsb' 7 5).toNat carryIn).value

/-- `ArmProgramStatusRegister`. -/
inductive ArmProgramStatusRegister where
  | cpsr | spsr
  deriving DecidableEq, Repr

/-- `DecodedPsrTransferInstruction`. -/
structure DecodedPsrTransferInstruction where
  condition : Option ArmCondition
  write : Bool
  psr : ArmProgramStatusRegister
  rdOrRm : Fin 16
  fieldMask : BitVec 4
  operand : U32
  immediateOperand : Bool

/-- `decode_psr_transfer`. -/
def decodePsrTransfer (instruction : U32) : DecodedPsrTransferInstruction :=
  let psr := if instruction.getLsbD 22 then ArmProgramStatusRegister.spsr else .cpsr
  if isMrs instruction then
    ⟨decodeCondition instruction, false, psr, registerField instruction 12, 0, 0, false⟩
  else if instruction.getLsbD 25 then
    ⟨decodeCondition instruction, true, psr, 0, instruction.extractLsb' 16 4,
      rotatedImmediate instruction, true⟩
  else
    ⟨decodeCondition instruction, true, psr, registerField instruction 0,
      instruction.extractLsb' 16 4, 0, false⟩

/-- `DecodedSwapInstruction`. -/
structure DecodedSwapInstruction where
  condition : Option ArmCondition
  byte : Bool
  rn : Fin 16
  rd : Fin 16
  rm : Fin 16

/-- `decode_swap`. -/
def decodeSwap (instruction : U32) : DecodedSwapInstruction where
  condition := decodeCondition instruction
  byte := instruction.getLsbD 22
  rn := registerField instruction 16
  rd := registerField instruction 12
  rm := registerField instruction 0

/-- `DecodedHalfwordDataTransferInstruction`. -/
structure DecodedHalfwordDataTransferInstruction where
  condition : Option ArmCondition
  load : Bool
  signedTransfer : Bool
  halfword : Bool
  preIndex : Bool
  up : Bool
  writeBack : Bool
  rn : Fin 16
  rd : Fin 16
  offset : U32

/-- A halfword transfer with its offset. -/
def decodeHalfwordDataTransferWith (instruction offset : U32) :
    DecodedHalfwordDataTransferInstruction where
  condition := decodeCondition instruction
  load := instruction.getLsbD 20
  signedTransfer := instruction.getLsbD 6
  halfword := instruction.getLsbD 5
  preIndex := instruction.getLsbD 24
  up := instruction.getLsbD 23
  writeBack := instruction.getLsbD 21
  rn := registerField instruction 16
  rd := registerField instruction 12
  offset := offset

/-- `decode_halfword_data_transfer_immediate`. -/
def decodeHalfwordDataTransferImmediate (instruction : U32) :
    DecodedHalfwordDataTransferInstruction :=
  decodeHalfwordDataTransferWith instruction
    ((instruction.extractLsb' 8 4).setWidth 32 <<< 4 ||| (instruction.extractLsb' 0 4).setWidth 32)

/-- `decode_halfword_data_transfer_register`. -/
def decodeHalfwordDataTransferRegister (instruction rmValue : U32) :
    DecodedHalfwordDataTransferInstruction :=
  decodeHalfwordDataTransferWith instruction rmValue

/-- `DecodedBlockDataTransferInstruction`. -/
structure DecodedBlockDataTransferInstruction where
  condition : Option ArmCondition
  load : Bool
  preIndex : Bool
  up : Bool
  writeBack : Bool
  rn : Fin 16
  registerList : U16

/-- `decode_block_data_transfer`. -/
def decodeBlockDataTransfer (instruction : U32) : DecodedBlockDataTransferInstruction where
  condition := decodeCondition instruction
  load := instruction.getLsbD 20
  preIndex := instruction.getLsbD 24
  up := instruction.getLsbD 23
  writeBack := instruction.getLsbD 21
  rn := registerField instruction 16
  registerList := instruction.extractLsb' 0 16

/-! ## Addresses of transfers -/

/-- `supported_transfer_addressing`. -/
def supportedTransferAddressing (preIndex writeBack : Bool) : Bool := preIndex || !writeBack

/-- `transfer_needs_write_back`. -/
def transferNeedsWriteBack (preIndex writeBack : Bool) : Bool := !preIndex || writeBack

/-- `offset_transfer_address`. -/
def offsetTransferAddress (base offset : U32) (up : Bool) : U32 :=
  if up then base + offset else base - offset

/-- The listed registers among the first `count`, in order. -/
def listedRegisters (registerList : U16) (count : Nat) : List (Fin 16) :=
  (List.finRange 16).filter fun index => index.val < count && registerList.getLsbD index.val

/-- `count_registers`. -/
def countRegisters (registerList : U16) : Nat := (listedRegisters registerList 16).length

/-- `register_list_contains`. -/
def registerListContains (registerList : U16) (index : Fin 16) : Bool :=
  registerList.getLsbD index.val

/-- `BlockTransferAddress`. -/
structure BlockTransferAddress where
  first : U32
  writeBack : U32

/-- `block_transfer_address`. -/
def blockTransferAddress (base : U32) (registerCount : Nat) (preIndex up : Bool) :
    BlockTransferAddress :=
  let byteCount : U32 := BitVec.ofNat 32 registerCount * 4
  if up then ⟨if preIndex then base + 4 else base, base + byteCount⟩
  else ⟨if preIndex then base - byteCount else base - byteCount + 4, base - byteCount⟩

end Gba.Core
