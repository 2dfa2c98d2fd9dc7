import Gba.Core.ArmExecute
import Gba.Core.ThumbDecode

/-!
# Executing Thumb instructions

`execute_thumb` of `arm7tdmi.cpp`, with and without a memory bus.
-/

namespace Gba.Core

namespace Arm7tdmi

/-- `thumb_visible_register_value`. -/
def thumbVisibleRegisterValue (cpu : Arm7tdmi) (index : Fin 16) : U32 :=
  if index = kPc then (cpu.registers index + 4) &&& ~~~1#32 else cpu.registers index

/-- The value of a second operand. -/
def operandValue (cpu : Arm7tdmi) : ThumbOperand → U32
  | .register index => cpu.registers index
  | .immediate value => value

/-- A result with its sign and zero flags. -/
def writeNz (cpu : Arm7tdmi) (rd : Fin 16) (result : U32) : Arm7tdmi :=
  (cpu.setRegister rd result).setNz result

/-- `execute_thumb_shift`. -/
def executeThumbShift (cpu : Arm7tdmi) (decoded : DecodedThumbShiftInstruction) : Execution :=
  let value := cpu.registers decoded.rs
  -- an amount of zero is a shift by 32, except to the left
  let amount := if decoded.amount = 0 then 32 else decoded.amount
  match decoded.type with
  | .lsl =>
      if decoded.amount = 0 then ⟨.executed, cpu.writeNz decoded.rd value⟩
      else
        ⟨.executed, { cpu.writeNz decoded.rd (value <<< decoded.amount) with
          carry := value.getLsbD (32 - decoded.amount) }⟩
  | .lsr =>
      ⟨.executed, { cpu.writeNz decoded.rd (value >>> amount) with
        carry := value.getLsbD (amount - 1) }⟩
  | .asr =>
      ⟨.executed, { cpu.writeNz decoded.rd (value.sshiftRight amount) with
        carry := value.getLsbD (amount - 1) }⟩
  | .ror => ⟨.unsupported, cpu⟩

/-- The result and the carry of a shift by a register in `execute_thumb_alu`; the carry is kept
where there is none. -/
def thumbAluShift (type : ArmShiftType) (left : U32) (amount : Nat) : U32 × Option Bool :=
  if amount = 0 then (left, none)
  else
    match type with
    | .lsl =>
        if amount < 32 then (left <<< amount, some (left.getLsbD (32 - amount)))
        else (0, some (amount = 32 && left.getLsbD 0))
    | .lsr =>
        if amount < 32 then (left >>> amount, some (left.getLsbD (amount - 1)))
        else (0, some (amount = 32 && left.msb))
    | .asr =>
        if amount < 32 then (left.sshiftRight amount, some (left.getLsbD (amount - 1)))
        else (if left.msb then 0xFFFFFFFF#32 else 0, some left.msb)
    | .ror =>
        let result := rotateRight left amount
        (result, some result.msb)

/-- A shift by a register. -/
def executeThumbAluShift (cpu : Arm7tdmi) (decoded : DecodedThumbAluInstruction)
    (type : ArmShiftType) : Arm7tdmi :=
  let shifted := thumbAluShift type (cpu.registers decoded.rd)
    (cpu.registers decoded.rs &&& 0xFF#32).toNat
  { cpu.writeNz decoded.rd shifted.1 with carry := shifted.2.getD cpu.carry }

/-- `execute_thumb_alu`; every opcode is executed. -/
def executeThumbAlu (cpu : Arm7tdmi) (decoded : DecodedThumbAluInstruction) : Arm7tdmi :=
  let left := cpu.registers decoded.rd
  let right := cpu.registers decoded.rs
  match decoded.opcode with
  | .and => cpu.writeNz decoded.rd (left &&& right)
  | .eor => cpu.writeNz decoded.rd (left ^^^ right)
  | .lsl => cpu.executeThumbAluShift decoded .lsl
  | .lsr => cpu.executeThumbAluShift decoded .lsr
  | .asr => cpu.executeThumbAluShift decoded .asr
  | .adc =>
      let result := left + right + if cpu.carry then 1 else 0
      (cpu.setAdcFlags left right cpu.carry result).setRegister decoded.rd result
  | .sbc =>
      let result := left - right - if cpu.carry then 0 else 1
      (cpu.setSbcFlags left right cpu.carry result).setRegister decoded.rd result
  | .ror => cpu.executeThumbAluShift decoded .ror
  | .tst => cpu.setNz (left &&& right)
  | .neg =>
      let result := 0 - right
      (cpu.setSubFlags 0 right result).setRegister decoded.rd result
  | .cmp => cpu.setSubFlags left right (left - right)
  | .cmn => cpu.setAddFlags left right (left + right)
  | .orr => cpu.writeNz decoded.rd (left ||| right)
  | .mul => cpu.writeNz decoded.rd (left * right)
  | .bic => cpu.writeNz decoded.rd (left &&& ~~~right)
  | .mvn => cpu.writeNz decoded.rd (~~~right)

/-- `execute_thumb_data_processing`; every opcode is executed. -/
def executeThumbDataProcessing (cpu : Arm7tdmi) (decoded : DecodedThumbInstruction) : Arm7tdmi :=
  let operand := cpu.operandValue decoded.operand
  match decoded.opcode with
  | .mov => cpu.writeNz decoded.rd operand
  | .cmp =>
      let left := cpu.registers decoded.rd
      cpu.setSubFlags left operand (left - operand)
  | .add =>
      let left := cpu.registers decoded.rs
      let result := left + operand
      (cpu.setRegister decoded.rd result).setAddFlags left operand result
  | .sub =>
      let left := cpu.registers decoded.rs
      let result := left - operand
      (cpu.setRegister decoded.rd result).setSubFlags left operand result

/-- `execute_thumb_branch`. -/
def executeThumbBranch (cpu : Arm7tdmi) (decoded : DecodedThumbBranchInstruction) : Execution :=
  if decoded.conditional && !cpu.conditionPassed decoded.condition then ⟨.skippedCondition, cpu⟩
  else ⟨.executed, cpu.setRegister kPc (cpu.thumbVisibleRegisterValue kPc + decoded.offset)⟩

/-- `execute_thumb_long_branch_link`. -/
def executeThumbLongBranchLink (cpu : Arm7tdmi) (decoded : DecodedThumbLongBranchLinkInstruction) :
    Arm7tdmi :=
  if !decoded.secondHalf then
    cpu.setRegister kLinkRegister (cpu.thumbVisibleRegisterValue kPc + decoded.offset)
  else
    let target := cpu.registers kLinkRegister + decoded.offset
    let linked := cpu.setRegister kLinkRegister ((cpu.registers kPc + 2) ||| 0x1#32)
    { linked.setRegister kPc (target &&& ~~~0x1#32) with thumbState := true }

/-- A result written to a register that may be the program counter. -/
def writeHigh (cpu : Arm7tdmi) (rd : Fin 16) (result : U32) : Arm7tdmi :=
  cpu.setRegister rd (if rd = kPc then result &&& ~~~0x1#32 else result)

/-- `execute_thumb_high_register`; every opcode is executed. -/
def executeThumbHighRegister (cpu : Arm7tdmi) (decoded : DecodedThumbHighRegisterInstruction) :
    Arm7tdmi :=
  let source := cpu.thumbVisibleRegisterValue decoded.rs
  let left := cpu.thumbVisibleRegisterValue decoded.rd
  match decoded.opcode with
  | .add => cpu.writeHigh decoded.rd (left + source)
  | .cmp => cpu.setSubFlags left source (left - source)
  | .mov => cpu.writeHigh decoded.rd source
  | .bx => cpu.branchExchange source

/-- `execute_thumb_stack_pointer_adjust`. -/
def executeThumbStackPointerAdjust (cpu : Arm7tdmi)
    (decoded : DecodedThumbStackPointerInstruction) : Arm7tdmi :=
  let sp := cpu.registers kStackPointer
  cpu.setRegister kStackPointer (if decoded.subtract then sp - decoded.offset else sp + decoded.offset)

/-- `execute_thumb_load_address`. -/
def executeThumbLoadAddress (cpu : Arm7tdmi) (decoded : DecodedThumbLoadAddressInstruction) :
    Arm7tdmi :=
  let base :=
    if decoded.baseIsSp then cpu.registers kStackPointer
    else alignWord (cpu.thumbVisibleRegisterValue kPc)
  cpu.setRegister decoded.rd (base + decoded.offset)

/-- `execute_thumb` without memory. -/
def executeThumb (instruction : U16) (cpu : Arm7tdmi) : Execution :=
  if canDecodeThumbSoftwareInterrupt instruction then
    ⟨.executed, cpu.enterException .softwareInterrupt⟩
  else if canDecodeThumbHighRegister instruction then
    ⟨.executed, cpu.executeThumbHighRegister (decodeThumbHighRegister instruction)⟩
  else if canDecodeThumbConditionalBranch instruction then
    cpu.executeThumbBranch (decodeThumbConditionalBranch instruction)
  else if canDecodeThumbUnconditionalBranch instruction then
    cpu.executeThumbBranch (decodeThumbUnconditionalBranch instruction)
  else if canDecodeThumbLongBranchLink instruction then
    ⟨.executed, cpu.executeThumbLongBranchLink (decodeThumbLongBranchLink instruction)⟩
  else if canDecodeThumbShiftImmediate instruction then
    cpu.executeThumbShift (decodeThumbShiftImmediate instruction)
  else if canDecodeThumbAlu instruction then
    ⟨.executed, cpu.executeThumbAlu (decodeThumbAlu instruction)⟩
  else if canDecodeThumbStackPointerAdjust instruction then
    ⟨.executed, cpu.executeThumbStackPointerAdjust (decodeThumbStackPointerAdjust instruction)⟩
  else if canDecodeThumbLoadAddress instruction then
    ⟨.executed, cpu.executeThumbLoadAddress (decodeThumbLoadAddress instruction)⟩
  else if canDecodeThumbAddSubtract instruction then
    ⟨.executed, cpu.executeThumbDataProcessing (decodeThumbAddSubtract instruction)⟩
  else if canDecodeThumbImmediate instruction then
    ⟨.executed, cpu.executeThumbDataProcessing (decodeThumbImmediate instruction)⟩
  else ⟨.unsupported, cpu⟩

/-! ## Transfers -/

section Memory

variable {σ : Type} (callbacks : MemoryBusIoCallbacks σ)

/-- `read8_or_thumb_pipeline_open_bus`. -/
def read8OrThumbPipelineOpenBus (bus : BusState σ) (address pc : U32) : Option U8 :=
  match bus.read8 callbacks address with
  | some value => some value
  | none =>
      (bus.read32 callbacks (pc + 4)).map fun (openBus : U32) =>
        (openBus >>> laneShift address).setWidth 8

/-- `read16_or_thumb_pipeline_open_bus`: the upper half, whatever the address. -/
def read16OrThumbPipelineOpenBus (bus : BusState σ) (address pc : U32) : Option U16 :=
  match bus.read16 callbacks address with
  | some value => some value
  | none =>
      (bus.read32 callbacks (pc + 4)).map fun (openBus : U32) => (openBus >>> 16).setWidth 16

/-- A halfword in both halves of a word, rotated to the addressed byte. -/
def duplicatedHalfword (address : U32) (half : U16) : U32 :=
  rotateRight (half.setWidth 32 ||| half.setWidth 32 <<< 16) (laneShift address)

/-- `read32_or_thumb_pipeline_open_bus`. -/
def read32OrThumbPipelineOpenBus (bus : BusState σ) (address pc : U32) : Option U32 :=
  match bus.read32 callbacks address with
  | some value => some value
  | none => (bus.read16 callbacks (pc + 4)).map (duplicatedHalfword address)

/-- `read32_or_thumb_block_open_bus`: the latched value of the bus comes first. -/
def read32OrThumbBlockOpenBus (bus : BusState σ) (pc address : U32) : Option U32 :=
  match bus.read32 callbacks address with
  | some value => some value
  | none =>
      if bus.memory.openBusLatchValid then
        some (rotateRight bus.memory.openBusLatch (laneShift address))
      else (bus.read16 callbacks (pc + 4)).map (duplicatedHalfword address)

/-- The address of a Thumb transfer. -/
def thumbTransferAddress (cpu : Arm7tdmi) (decoded : DecodedThumbMemoryTransferInstruction) : U32 :=
  let base :=
    if decoded.rb = kPc then alignWord (cpu.registers kPc + 4) else cpu.registers decoded.rb
  base + cpu.operandValue decoded.offset

/-- `execute_thumb_memory_transfer`. -/
def executeThumbMemoryTransfer (cpu : Arm7tdmi) (decoded : DecodedThumbMemoryTransferInstruction)
    (bus : BusState σ) : MemoryExecution σ :=
  let address := cpu.thumbTransferAddress decoded
  let pc := cpu.registers kPc
  let value := cpu.registers decoded.rd
  if decoded.load then
    cpu.finishLoad bus decoded.rd decoded.rb none <|
      match decoded.kind with
      | .word => read32OrThumbPipelineOpenBus callbacks bus address pc
      | .byte => (read8OrThumbPipelineOpenBus callbacks bus address pc).map (BitVec.setWidth 32)
      | .halfword => (read16OrThumbPipelineOpenBus callbacks bus address pc).map (BitVec.setWidth 32)
      | .signedByte => (read8OrThumbPipelineOpenBus callbacks bus address pc).map signExtend8
      | .signedHalfword => (read16OrThumbPipelineOpenBus callbacks bus address pc).map signExtend16
  else
    match decoded.kind with
    | .word =>
        cpu.finishStore decoded.rb none (bus.write32 callbacks (wordStoreAddress address) value)
    | .byte => cpu.finishStore decoded.rb none (bus.write8 callbacks address (value.setWidth 8))
    | .halfword =>
        let region := (classify address).region
        cpu.finishStore decoded.rb none
          (bus.write16 callbacks
            (if region = .gamePakSave ∨ region = .io then address else address &&& ~~~0x1#32)
            (value.setWidth 16))
    | .signedByte | .signedHalfword => ⟨.unsupported, cpu, bus⟩

/-- The registers of a Thumb load. -/
def writeRegisters (cpu : Arm7tdmi) (registers : List (Fin 16)) (loaded : Fin 16 → U32) :
    Arm7tdmi :=
  registers.foldl (fun cpu index => cpu.setRegister index (loaded index)) cpu

/-- `execute_thumb_block_transfer`. -/
def executeThumbBlockTransfer (cpu : Arm7tdmi) (decoded : DecodedThumbBlockTransferInstruction)
    (bus : BusState σ) : MemoryExecution σ :=
  let registers := listedRegisters (decoded.registerList.setWidth 16) 8
  let oldBase := cpu.registers decoded.rb
  let newBase := oldBase + BitVec.ofNat 32 registers.length * 4
  if registers.length = 0 then ⟨.unsupported, cpu, bus⟩
  else if decoded.load then
    match loadWords (read32OrThumbBlockOpenBus callbacks bus (cpu.registers kPc)) registers
      oldBase with
    | none => ⟨.unsupported, cpu, bus⟩
    | some loaded =>
        ⟨.executed, (cpu.writeRegisters registers loaded).setRegister decoded.rb newBase, bus⟩
  else
    cpu.finishStore decoded.rb (some newBase)
      (storeWords callbacks cpu.registers registers oldBase bus)

/-- The end of a pop: the program counter where it is popped, then the stack pointer. -/
def finishPop (cpu : Arm7tdmi) (poppedPc : Option U32) (newSp : U32) : Execution :=
  match poppedPc with
  | none => ⟨.executed, cpu.setRegister kStackPointer newSp⟩
  | some loadedPc =>
      let jumped := cpu.loadPc loadedPc
      if jumped.status = .executed then ⟨.executed, jumped.cpu.setRegister kStackPointer newSp⟩
      else jumped

/-- `execute_thumb_stack_transfer`. -/
def executeThumbStackTransfer (cpu : Arm7tdmi) (decoded : DecodedThumbStackInstruction)
    (bus : BusState σ) : MemoryExecution σ :=
  let low := listedRegisters (decoded.registerList.setWidth 16) 8
  let registerCount := low.length + if decoded.extraRegister then 1 else 0
  let byteCount : U32 := BitVec.ofNat 32 registerCount * 4
  let oldSp := cpu.registers kStackPointer
  if registerCount = 0 then ⟨.unsupported, cpu, bus⟩
  else if !decoded.load then
    cpu.finishStore kStackPointer (some (oldSp - byteCount))
      (storeWords callbacks cpu.registers
        (low ++ if decoded.extraRegister then [kLinkRegister] else []) (oldSp - byteCount) bus)
  else
    match loadWords (bus.read32 callbacks)
      (low ++ if decoded.extraRegister then [kPc] else []) oldSp with
    | none => ⟨.unsupported, cpu, bus⟩
    | some loaded =>
        ((cpu.writeRegisters low loaded).finishPop
          (if decoded.extraRegister then some (loaded kPc) else none)
          (oldSp + byteCount)).withBus bus

/-- `execute_thumb` with memory. -/
def executeThumbMemory (instruction : U16) (cpu : Arm7tdmi) (bus : BusState σ) :
    MemoryExecution σ :=
  if canDecodeThumbBlockTransfer instruction then
    cpu.executeThumbBlockTransfer callbacks (decodeThumbBlockTransfer instruction) bus
  else if canDecodeThumbStackTransfer instruction then
    cpu.executeThumbStackTransfer callbacks (decodeThumbStackTransfer instruction) bus
  else if canDecodeThumbMemoryTransfer instruction then
    cpu.executeThumbMemoryTransfer callbacks (decodeThumbMemoryTransfer instruction) bus
  else (executeThumb instruction cpu).withBus bus

end Memory

end Arm7tdmi

end Gba.Core
