import Gba.Core.ArmDecode

/-!
# Decoding Thumb instructions

The `can_decode_thumb_*` and `decode_thumb_*` functions of `arm7tdmi.cpp`. As for ARM, the decoders
are called only on instructions of their class.
-/

namespace Gba.Core

/-- One of the low registers, which three bits of an instruction name. -/
def lowRegisterField (instruction : U16) (shift : Nat) : Fin 16 :=
  ((instruction.extractLsb' shift 3).setWidth 4).toFin

/-- `ThumbOpcode`. -/
inductive ThumbOpcode where
  | mov | cmp | add | sub
  deriving DecidableEq, Repr

/-- `ThumbHighRegisterOpcode`. -/
inductive ThumbHighRegisterOpcode where
  | add | cmp | mov | bx
  deriving DecidableEq, Repr

/-- `ThumbAluOpcode`. -/
inductive ThumbAluOpcode where
  | and | eor | lsl | lsr | asr | adc | sbc | ror | tst | neg | cmp | cmn | orr | mul | bic | mvn
  deriving DecidableEq, Repr

/-- The opcode with a number; the sixteen numbers are all in use. -/
def ThumbAluOpcode.ofBits (bits : BitVec 4) : ThumbAluOpcode :=
  [ThumbAluOpcode.and, .eor, .lsl, .lsr, .asr, .adc, .sbc, .ror, .tst, .neg, .cmp, .cmn, .orr,
    .mul, .bic, .mvn].getD bits.toNat .mvn

/-- `ThumbMemoryTransferKind`. -/
inductive ThumbMemoryTransferKind where
  | word | byte | halfword | signedByte | signedHalfword
  deriving DecidableEq, Repr

/-! ## Classes of instructions -/

/-- `can_decode_thumb_shift_immediate`. -/
def canDecodeThumbShiftImmediate (instruction : U16) : Bool :=
  instruction.extractLsb' 13 3 = 0x0#3 && instruction.extractLsb' 11 2 ≠ 0x3#2

/-- `can_decode_thumb_alu`. -/
def canDecodeThumbAlu (instruction : U16) : Bool := instruction.extractLsb' 10 6 = 0x10#6

/-- `can_decode_thumb_add_subtract`. -/
def canDecodeThumbAddSubtract (instruction : U16) : Bool := instruction.extractLsb' 11 5 = 0x3#5

/-- `can_decode_thumb_immediate`. -/
def canDecodeThumbImmediate (instruction : U16) : Bool := instruction.extractLsb' 13 3 = 0x1#3

/-- `can_decode_thumb_unconditional_branch`. -/
def canDecodeThumbUnconditionalBranch (instruction : U16) : Bool :=
  instruction.extractLsb' 11 5 = 0x1C#5

/-- `can_decode_thumb_conditional_branch`: the two numbers above `le` are other instructions. -/
def canDecodeThumbConditionalBranch (instruction : U16) : Bool :=
  instruction.extractLsb' 12 4 = 0xD#4 && instruction.extractLsb' 8 4 ≤ 0xD#4

/-- `can_decode_thumb_long_branch_link`. -/
def canDecodeThumbLongBranchLink (instruction : U16) : Bool :=
  instruction.extractLsb' 11 5 = 0x1E#5 || instruction.extractLsb' 11 5 = 0x1F#5

/-- `can_decode_thumb_high_register`. -/
def canDecodeThumbHighRegister (instruction : U16) : Bool := instruction.extractLsb' 10 6 = 0x11#6

/-- `can_decode_thumb_memory_transfer`. -/
def canDecodeThumbMemoryTransfer (instruction : U16) : Bool :=
  let topNibble := instruction.extractLsb' 12 4
  instruction.extractLsb' 11 5 = 0x9#5 || topNibble = 0x5#4 ||
    instruction.extractLsb' 13 3 = 0x3#3 || topNibble = 0x8#4 || topNibble = 0x9#4

/-- `can_decode_thumb_block_transfer`. -/
def canDecodeThumbBlockTransfer (instruction : U16) : Bool :=
  instruction.extractLsb' 12 4 = 0xC#4 && instruction.extractLsb' 0 8 ≠ 0#8

/-- `can_decode_thumb_stack_transfer`. -/
def canDecodeThumbStackTransfer (instruction : U16) : Bool :=
  instruction &&& 0xFE00#16 = 0xB400#16 || instruction &&& 0xFE00#16 = 0xBC00#16

/-- `can_decode_thumb_stack_pointer_adjust`. -/
def canDecodeThumbStackPointerAdjust (instruction : U16) : Bool :=
  instruction.extractLsb' 8 8 = 0xB0#8

/-- `can_decode_thumb_load_address`. -/
def canDecodeThumbLoadAddress (instruction : U16) : Bool := instruction.extractLsb' 12 4 = 0xA#4

/-- `can_decode_thumb_software_interrupt`. -/
def canDecodeThumbSoftwareInterrupt (instruction : U16) : Bool :=
  instruction.extractLsb' 8 8 = 0xDF#8

/-! ## Decoded instructions -/

/-- `DecodedThumbShiftInstruction`. -/
structure DecodedThumbShiftInstruction where
  type : ArmShiftType
  rd : Fin 16
  rs : Fin 16
  amount : Nat

/-- `decode_thumb_shift_immediate`. -/
def decodeThumbShiftImmediate (instruction : U16) : DecodedThumbShiftInstruction where
  type := ArmShiftType.ofBits (instruction.extractLsb' 11 2)
  rd := lowRegisterField instruction 0
  rs := lowRegisterField instruction 3
  amount := (instruction.extractLsb' 6 5).toNat

/-- `DecodedThumbAluInstruction`. -/
structure DecodedThumbAluInstruction where
  opcode : ThumbAluOpcode
  rd : Fin 16
  rs : Fin 16

/-- `decode_thumb_alu`. -/
def decodeThumbAlu (instruction : U16) : DecodedThumbAluInstruction where
  opcode := ThumbAluOpcode.ofBits (instruction.extractLsb' 6 4)
  rd := lowRegisterField instruction 0
  rs := lowRegisterField instruction 3

/-- The second operand of a Thumb instruction: `operand` and `operand_is_register`, or `offset` and
`offset_is_register`. -/
inductive ThumbOperand where
  | register (index : Fin 16)
  | immediate (value : U32)

/-- `DecodedThumbInstruction`. -/
structure DecodedThumbInstruction where
  opcode : ThumbOpcode
  rd : Fin 16
  rs : Fin 16
  operand : ThumbOperand

/-- `decode_thumb_add_subtract`. -/
def decodeThumbAddSubtract (instruction : U16) : DecodedThumbInstruction where
  opcode := if instruction.getLsbD 9 then .sub else .add
  rd := lowRegisterField instruction 0
  rs := lowRegisterField instruction 3
  operand :=
    if instruction.getLsbD 10 then .immediate ((instruction.extractLsb' 6 3).setWidth 32)
    else .register (lowRegisterField instruction 6)

/-- `decode_thumb_immediate`. -/
def decodeThumbImmediate (instruction : U16) : DecodedThumbInstruction where
  opcode :=
    [ThumbOpcode.mov, .cmp, .add, .sub].getD (instruction.extractLsb' 11 2).toNat .sub
  rd := lowRegisterField instruction 8
  rs := lowRegisterField instruction 8
  operand := .immediate ((instruction.extractLsb' 0 8).setWidth 32)

/-- `DecodedThumbBranchInstruction`. -/
structure DecodedThumbBranchInstruction where
  conditional : Bool
  condition : Option ArmCondition
  offset : U32

/-- `decode_thumb_unconditional_branch`. -/
def decodeThumbUnconditionalBranch (instruction : U16) : DecodedThumbBranchInstruction where
  conditional := false
  condition := some .al
  offset := (instruction.extractLsb' 0 11).signExtend 32 * 2

/-- `decode_thumb_conditional_branch`. -/
def decodeThumbConditionalBranch (instruction : U16) : DecodedThumbBranchInstruction where
  conditional := true
  condition := ArmCondition.ofBits (instruction.extractLsb' 8 4)
  offset := (instruction.extractLsb' 0 8).signExtend 32 * 2

/-- `DecodedThumbLongBranchLinkInstruction`. -/
structure DecodedThumbLongBranchLinkInstruction where
  secondHalf : Bool
  offset : U32

/-- `decode_thumb_long_branch_link`. -/
def decodeThumbLongBranchLink (instruction : U16) : DecodedThumbLongBranchLinkInstruction :=
  let raw := instruction.extractLsb' 0 11
  if instruction.getLsbD 11 then ⟨true, raw.setWidth 32 * 2⟩
  else ⟨false, raw.signExtend 32 * 4096⟩

/-- `DecodedThumbHighRegisterInstruction`. -/
structure DecodedThumbHighRegisterInstruction where
  opcode : ThumbHighRegisterOpcode
  rd : Fin 16
  rs : Fin 16

/-- `decode_thumb_high_register`. -/
def decodeThumbHighRegister (instruction : U16) : DecodedThumbHighRegisterInstruction where
  opcode :=
    [ThumbHighRegisterOpcode.add, .cmp, .mov, .bx].getD (instruction.extractLsb' 8 2).toNat .bx
  rd := (instruction.extractLsb' 7 1 ++ instruction.extractLsb' 0 3).toFin
  rs := registerField instruction 3

/-- `DecodedThumbMemoryTransferInstruction`. -/
structure DecodedThumbMemoryTransferInstruction where
  load : Bool
  kind : ThumbMemoryTransferKind
  rd : Fin 16
  rb : Fin 16
  offset : ThumbOperand

/-- The load and store with a register offset. -/
def decodeThumbRegisterTransfer (instruction : U16) : DecodedThumbMemoryTransferInstruction :=
  let op := instruction.extractLsb' 9 3
  { load := 0x4#3 ≤ op || op = 0x3#3
    kind :=
      [ThumbMemoryTransferKind.word, .halfword, .byte, .signedByte, .word, .halfword, .byte,
        .signedHalfword].getD op.toNat .word
    rd := lowRegisterField instruction 0
    rb := lowRegisterField instruction 3
    offset := .register (lowRegisterField instruction 6) }

/-- `decode_thumb_memory_transfer`. -/
def decodeThumbMemoryTransfer (instruction : U16) : DecodedThumbMemoryTransferInstruction :=
  let topNibble := instruction.extractLsb' 12 4
  let rawOffset : U32 := (instruction.extractLsb' 6 5).setWidth 32
  let wordOffset : U32 := (instruction.extractLsb' 0 8).setWidth 32 * 4
  if instruction.extractLsb' 11 5 = 0x9#5 then
    ⟨true, .word, lowRegisterField instruction 8, Arm7tdmi.kPc, .immediate wordOffset⟩
  else if topNibble = 0x5#4 then decodeThumbRegisterTransfer instruction
  else if instruction.extractLsb' 13 3 = 0x3#3 then
    let byte := instruction.getLsbD 12
    ⟨instruction.getLsbD 11, if byte then .byte else .word, lowRegisterField instruction 0,
      lowRegisterField instruction 3, .immediate (if byte then rawOffset else rawOffset * 4)⟩
  else if topNibble = 0x8#4 then
    ⟨instruction.getLsbD 11, .halfword, lowRegisterField instruction 0,
      lowRegisterField instruction 3, .immediate (rawOffset * 2)⟩
  else
    ⟨instruction.getLsbD 11, .word, lowRegisterField instruction 8, Arm7tdmi.kStackPointer,
      .immediate wordOffset⟩

/-- `DecodedThumbBlockTransferInstruction`. -/
structure DecodedThumbBlockTransferInstruction where
  load : Bool
  rb : Fin 16
  registerList : U8

/-- `decode_thumb_block_transfer`. -/
def decodeThumbBlockTransfer (instruction : U16) : DecodedThumbBlockTransferInstruction where
  load := instruction.getLsbD 11
  rb := lowRegisterField instruction 8
  registerList := instruction.extractLsb' 0 8

/-- `DecodedThumbStackInstruction`. -/
structure DecodedThumbStackInstruction where
  load : Bool
  extraRegister : Bool
  registerList : U8

/-- `decode_thumb_stack_transfer`. -/
def decodeThumbStackTransfer (instruction : U16) : DecodedThumbStackInstruction where
  load := instruction.getLsbD 11
  extraRegister := instruction.getLsbD 8
  registerList := instruction.extractLsb' 0 8

/-- `DecodedThumbStackPointerInstruction`. -/
structure DecodedThumbStackPointerInstruction where
  subtract : Bool
  offset : U32

/-- `decode_thumb_stack_pointer_adjust`. -/
def decodeThumbStackPointerAdjust (instruction : U16) : DecodedThumbStackPointerInstruction where
  subtract := instruction.getLsbD 7
  offset := (instruction.extractLsb' 0 7).setWidth 32 * 4

/-- `DecodedThumbLoadAddressInstruction`. -/
structure DecodedThumbLoadAddressInstruction where
  baseIsSp : Bool
  rd : Fin 16
  offset : U32

/-- `decode_thumb_load_address`. -/
def decodeThumbLoadAddress (instruction : U16) : DecodedThumbLoadAddressInstruction where
  baseIsSp := instruction.getLsbD 11
  rd := lowRegisterField instruction 8
  offset := (instruction.extractLsb' 0 8).setWidth 32 * 4

end Gba.Core
