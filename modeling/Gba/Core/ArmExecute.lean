import Gba.Core.ArmDecode
import Gba.Core.ArmMultiplier

/-!
# Executing ARM instructions

`execute_arm` of `arm7tdmi.cpp`, with and without a memory bus. An instruction that is refused
part way through keeps what it has done up to there, as in the source.
-/

namespace Gba.Core

/-- `condition_passed`. -/
def ArmCondition.passed (cpu : Arm7tdmi) : ArmCondition → Bool
  | .eq => cpu.zero
  | .ne => !cpu.zero
  | .cs => cpu.carry
  | .cc => !cpu.carry
  | .mi => cpu.negative
  | .pl => !cpu.negative
  | .vs => cpu.overflow
  | .vc => !cpu.overflow
  | .hi => cpu.carry && !cpu.zero
  | .ls => !cpu.carry || cpu.zero
  | .ge => cpu.negative == cpu.overflow
  | .lt => cpu.negative != cpu.overflow
  | .gt => !cpu.zero && cpu.negative == cpu.overflow
  | .le => cpu.zero || cpu.negative != cpu.overflow
  | .al => true

/-- The outcome of an instruction that does not access memory. -/
structure Execution where
  status : ExecuteStatus
  cpu : Arm7tdmi

/-- The outcome of an instruction that may access memory. -/
structure MemoryExecution (σ : Type) where
  status : ExecuteStatus
  cpu : Arm7tdmi
  bus : BusState σ

/-- The outcome beside memory that is left alone. -/
def Execution.withBus {σ : Type} (execution : Execution) (bus : BusState σ) : MemoryExecution σ :=
  ⟨execution.status, execution.cpu, bus⟩

namespace Arm7tdmi

/-- `condition_passed`; a byte that names no condition never passes. -/
def conditionPassed (cpu : Arm7tdmi) (condition : Option ArmCondition) : Bool :=
  condition.any (ArmCondition.passed cpu)

/-- An instruction under its condition. -/
def onCondition (cpu : Arm7tdmi) (condition : Option ArmCondition) (execution : Execution) :
    Execution :=
  if cpu.conditionPassed condition then execution else ⟨.skippedCondition, cpu⟩

/-! ## Flags -/

/-- `set_nz`. -/
def setNz (cpu : Arm7tdmi) (result : U32) : Arm7tdmi :=
  { cpu with negative := result.msb, zero := result = 0 }

/-- `set_nz64`. -/
def setNz64 (cpu : Arm7tdmi) (result : U64) : Arm7tdmi :=
  { cpu with negative := result.msb, zero := result = 0 }

/-- `set_add_flags`. -/
def setAddFlags (cpu : Arm7tdmi) (left right result : U32) : Arm7tdmi :=
  { cpu.setNz result with
    carry := result < left
    overflow := left.msb == right.msb && left.msb != result.msb }

/-- `set_adc_flags`. -/
def setAdcFlags (cpu : Arm7tdmi) (left right : U32) (carryIn : Bool) (result : U32) : Arm7tdmi :=
  { cpu.setNz result with
    carry := 0xFFFFFFFF#64 < left.setWidth 64 + right.setWidth 64 + if carryIn then 1 else 0
    overflow := left.msb == right.msb && left.msb != result.msb }

/-- `set_sub_flags`. -/
def setSubFlags (cpu : Arm7tdmi) (left right result : U32) : Arm7tdmi :=
  { cpu.setNz result with
    carry := right ≤ left
    overflow := left.msb != right.msb && left.msb != result.msb }

/-- `set_sbc_flags`. -/
def setSbcFlags (cpu : Arm7tdmi) (left right : U32) (carryIn : Bool) (result : U32) : Arm7tdmi :=
  { cpu.setNz result with
    carry := (right.setWidth 64 + if carryIn then 0 else 1) ≤ left.setWidth 64
    overflow := left.msb != right.msb && left.msb != result.msb }

/-- `set_logical_flags`. -/
def setLogicalFlags (cpu : Arm7tdmi) (result : U32) (decoded : DecodedArmInstruction) : Arm7tdmi :=
  let flagged := cpu.setNz result
  if decoded.shifterCarryValid then { flagged with carry := decoded.shifterCarry } else flagged

/-! ## Registers -/

/-- `has_spsr`. -/
def hasSpsr (cpu : Arm7tdmi) : Bool := cpu.mode.spsrBank.isSome

/-- `arm_visible_register_value`: the program counter runs two instructions ahead. -/
def armVisibleRegisterValue (cpu : Arm7tdmi) (index : Fin 16) : U32 :=
  if index = kPc then cpu.registers index + 8 else cpu.registers index

/-- The lambda `register_shift_visible_value`. -/
def registerShiftVisibleValue (cpu : Arm7tdmi) (index : Fin 16) : U32 :=
  if index = kPc then cpu.registers index + 12 else cpu.registers index

/-! ## Data processing -/

/-- The write to `r15` that also restores the saved status. -/
def spsrRestoreToPc (cpu : Arm7tdmi) (decoded : DecodedArmInstruction) : Bool :=
  decoded.rd = kPc && decoded.setFlags && cpu.hasSpsr

/-- The lambda `write_result`. -/
def writeResult (cpu : Arm7tdmi) (decoded : DecodedArmInstruction) (result : U32) : Arm7tdmi :=
  if cpu.spsrRestoreToPc decoded then
    ((cpu.spsr.bind cpu.setCpsr).getD cpu).setRegister kPc (result &&& ~~~0x3#32)
  else cpu.setRegister decoded.rd result

/-- A result that is written, and its flags where the instruction sets them. -/
def writeFlagged (cpu : Arm7tdmi) (decoded : DecodedArmInstruction) (result : U32)
    (setFlags : Arm7tdmi → Arm7tdmi) : Arm7tdmi :=
  let written := cpu.writeResult decoded result
  if decoded.setFlags && !cpu.spsrRestoreToPc decoded then setFlags written else written

/-- A bitwise result that is written. -/
def writeLogical (cpu : Arm7tdmi) (decoded : DecodedArmInstruction) (result : U32) : Arm7tdmi :=
  cpu.writeFlagged decoded result fun written => written.setLogicalFlags result decoded

/-- `execute_data_processing`; every opcode is executed. -/
def executeDataProcessing (cpu : Arm7tdmi) (decoded : DecodedArmInstruction) (pcOffset : U32) :
    Arm7tdmi :=
  let left := if decoded.rn = kPc then cpu.registers kPc + pcOffset else cpu.registers decoded.rn
  let operand2 := decoded.operand2
  let carryIn := cpu.carry
  let carryValue : U32 := if carryIn then 1 else 0
  let borrow : U32 := if carryIn then 0 else 1
  match decoded.opcode with
  | .and => cpu.writeLogical decoded (left &&& operand2)
  | .eor => cpu.writeLogical decoded (left ^^^ operand2)
  | .mov => cpu.writeLogical decoded operand2
  | .add =>
      let result := left + operand2
      cpu.writeFlagged decoded result fun written => written.setAddFlags left operand2 result
  | .sub =>
      let result := left - operand2
      cpu.writeFlagged decoded result fun written => written.setSubFlags left operand2 result
  | .rsb =>
      let result := operand2 - left
      cpu.writeFlagged decoded result fun written => written.setSubFlags operand2 left result
  | .adc =>
      let result := left + operand2 + carryValue
      cpu.writeFlagged decoded result fun written =>
        written.setAdcFlags left operand2 carryIn result
  | .sbc =>
      let result := left - operand2 - borrow
      cpu.writeFlagged decoded result fun written =>
        written.setSbcFlags left operand2 carryIn result
  | .rsc =>
      let result := operand2 - left - borrow
      cpu.writeFlagged decoded result fun written =>
        written.setSbcFlags operand2 left carryIn result
  | .cmp => cpu.setSubFlags left operand2 (left - operand2)
  | .cmn => cpu.setAddFlags left operand2 (left + operand2)
  | .tst => cpu.setLogicalFlags (left &&& operand2) decoded
  | .teq => cpu.setLogicalFlags (left ^^^ operand2) decoded
  | .orr => cpu.writeLogical decoded (left ||| operand2)
  | .bic => cpu.writeLogical decoded (left &&& ~~~operand2)
  | .mvn => cpu.writeLogical decoded (~~~operand2)

/-! ## Status transfers and multiplication -/

/-- `psr_field_mask`. -/
def psrFieldMask (fieldMask : BitVec 4) : U32 :=
  (if fieldMask.getLsbD 0 then 0x000000FF#32 else 0) |||
    (if fieldMask.getLsbD 1 then 0x0000FF00#32 else 0) |||
    (if fieldMask.getLsbD 2 then 0x00FF0000#32 else 0) |||
    if fieldMask.getLsbD 3 then 0xFF000000#32 else 0

/-- `kControlByteMask`. -/
def kControlByteMask : U32 := 0x000000FF#32

/-- The processor after an operation, or as it was where the source answers `unsupported`. -/
def orUnsupported (cpu : Arm7tdmi) : Option Arm7tdmi → Execution
  | some next => ⟨.executed, next⟩
  | none => ⟨.unsupported, cpu⟩

/-- `execute_psr_transfer`. -/
def executePsrTransfer (cpu : Arm7tdmi) (decoded : DecodedPsrTransferInstruction) : Execution :=
  if !decoded.write then
    match decoded.psr with
    | .spsr => cpu.orUnsupported (cpu.spsr.map (cpu.setRegister decoded.rdOrRm))
    | .cpsr => ⟨.executed, cpu.setRegister decoded.rdOrRm cpu.cpsr⟩
  else
    let fieldMask := psrFieldMask decoded.fieldMask
    if fieldMask = 0 then ⟨.unsupported, cpu⟩
    else
      let operand :=
        if decoded.immediateOperand then decoded.operand
        else cpu.armVisibleRegisterValue decoded.rdOrRm
      match decoded.psr with
      | .spsr =>
          cpu.orUnsupported (cpu.spsr.bind fun oldValue =>
            cpu.setSpsr (oldValue &&& ~~~fieldMask ||| operand &&& fieldMask))
      | .cpsr =>
          -- user mode cannot write the control byte
          let effective :=
            if cpu.mode = .user then fieldMask &&& ~~~kControlByteMask else fieldMask
          cpu.orUnsupported (cpu.setCpsr (cpu.cpsr &&& ~~~effective ||| operand &&& effective))

/-- `execute_multiply`. -/
def executeMultiply (cpu : Arm7tdmi) (decoded : DecodedMultiplyInstruction) : Arm7tdmi :=
  let product := cpu.registers decoded.rm * cpu.registers decoded.rs
  let result := if decoded.accumulate then product + cpu.registers decoded.rn else product
  let written := cpu.setRegister decoded.rd result
  if decoded.setFlags then written.setNz result else written

/-- `execute_multiply_long`. -/
def executeMultiplyLong (cpu : Arm7tdmi) (decoded : DecodedMultiplyLongInstruction) : Arm7tdmi :=
  let rm := cpu.registers decoded.rm
  let rs := cpu.registers decoded.rs
  let product : U64 :=
    if decoded.signedMultiply then rm.signExtend 64 * rs.signExtend 64
    else rm.setWidth 64 * rs.setWidth 64
  let accumulator : U64 :=
    if decoded.accumulate then
      (cpu.registers decoded.rdHi).setWidth 64 <<< 32 ||| (cpu.registers decoded.rdLo).setWidth 64
    else 0
  let result := product + accumulator
  let written := (cpu.setRegister decoded.rdLo (result.setWidth 32)).setRegister decoded.rdHi
    ((result >>> 32).setWidth 32)
  if decoded.setFlags then
    { written.setNz64 result with
      carry := (arm7tdmiMultiplyLongOutput decoded.signedMultiply rm rs accumulator).carry }
  else written

/-! ## Instructions without memory -/

/-- The branch of `execute_arm`. -/
def executeBranch (cpu : Arm7tdmi) (decoded : DecodedBranchInstruction) : Arm7tdmi :=
  let pc := cpu.registers kPc
  let linked := if decoded.link then cpu.setRegister kLinkRegister (pc + 4) else cpu
  linked.setRegister kPc (pc + 8 + decoded.offset)

/-- The exchange of instruction sets at a target address. -/
def branchExchange (cpu : Arm7tdmi) (target : U32) : Arm7tdmi :=
  { cpu with thumbState := target.getLsbD 0 }.setRegister kPc (target &&& ~~~0x1#32)

/-- The space of coprocessor instructions, which do nothing here. -/
def isCoprocessorSpace (instruction : U32) : Bool :=
  instruction.extractLsb' 24 4 = 0xE#4 || instruction.extractLsb' 24 4 = 0xF#4

/-- `execute_arm` without memory. -/
def executeArm (instruction : U32) (cpu : Arm7tdmi) : Execution :=
  let condition := decodeCondition instruction
  if conditionField instruction = 0xF#4 then ⟨.skippedCondition, cpu⟩
  else if canDecodeSoftwareInterrupt instruction then
    cpu.onCondition condition ⟨.executed, cpu.enterException .softwareInterrupt⟩
  else if isCoprocessorSpace instruction then cpu.onCondition condition ⟨.executed, cpu⟩
  else if canDecodePsrTransfer instruction then
    let decoded := decodePsrTransfer instruction
    cpu.onCondition decoded.condition (cpu.executePsrTransfer decoded)
  else if canDecodeBranch instruction then
    let decoded := decodeBranch instruction
    cpu.onCondition decoded.condition ⟨.executed, cpu.executeBranch decoded⟩
  else if canDecodeBranchExchange instruction then
    let decoded := decodeBranchExchange instruction
    cpu.onCondition decoded.condition
      ⟨.executed, cpu.branchExchange (cpu.armVisibleRegisterValue decoded.rm)⟩
  else if canDecodeMultiplyLong instruction then
    let decoded := decodeMultiplyLong instruction
    cpu.onCondition decoded.condition ⟨.executed, cpu.executeMultiplyLong decoded⟩
  else if canDecodeMultiply instruction then
    let decoded := decodeMultiply instruction
    cpu.onCondition decoded.condition ⟨.executed, cpu.executeMultiply decoded⟩
  else if canDecodeDataProcessingImmediate instruction then
    let decoded := decodeDataProcessingImmediate instruction
    cpu.onCondition decoded.condition ⟨.executed, cpu.executeDataProcessing decoded 8⟩
  else if canDecodeDataProcessingRegisterShift instruction then
    let rm := registerField instruction 0
    if isRegisterShift instruction then
      let decoded := decodeDataProcessingRegisterShift instruction
        (cpu.registerShiftVisibleValue rm)
        (cpu.registerShiftVisibleValue (registerField instruction 8))
      cpu.onCondition decoded.condition ⟨.executed, cpu.executeDataProcessing decoded 12⟩
    else
      let decoded := decodeDataProcessingImmediateShift instruction
        (cpu.armVisibleRegisterValue rm) cpu.carry
      cpu.onCondition decoded.condition ⟨.executed, cpu.executeDataProcessing decoded 8⟩
  else ⟨.unsupported, cpu⟩

/-! ## Transfers -/

section Memory

variable {σ : Type} (callbacks : MemoryBusIoCallbacks σ)

/-- `read8_or_arm_pipeline_open_bus`. -/
def read8OrArmPipelineOpenBus (bus : BusState σ) (address pc : U32) : Option U8 :=
  match bus.read8 callbacks address with
  | some value => some value
  | none =>
      (bus.read32 callbacks (pc + 8)).map fun (openBus : U32) =>
        (openBus >>> laneShift address).setWidth 8

/-- `read16_or_arm_pipeline_open_bus`. -/
def read16OrArmPipelineOpenBus (bus : BusState σ) (address pc : U32) : Option U16 :=
  match bus.read16 callbacks address with
  | some value => some value
  | none =>
      (bus.read32 callbacks (pc + 8)).map fun (openBus : U32) =>
        (openBus >>> ((address &&& 0x2#32).toNat * 8)).setWidth 16

/-- `read32_or_arm_pipeline_open_bus`. -/
def read32OrArmPipelineOpenBus (bus : BusState σ) (address pc : U32) : Option U32 :=
  match bus.read32 callbacks address with
  | some value => some value
  | none =>
      (bus.read32 callbacks (pc + 8)).map fun openBus => rotateRight openBus (laneShift address)

/-- The end of a load into `rd`, with the write-back to `rn` where there is one. -/
def finishLoad (cpu : Arm7tdmi) (bus : BusState σ) (rd rn : Fin 16) (writeBack : Option U32)
    (value : Option U32) : MemoryExecution σ :=
  match value with
  | none => ⟨.unsupported, cpu, bus⟩
  | some value =>
      let loaded := cpu.setRegister rd value
      ⟨.executed, (writeBack.map (loaded.setRegister rn)).getD loaded, bus⟩

/-- The end of a store, with the write-back to `rn` where there is one. -/
def finishStore (cpu : Arm7tdmi) (rn : Fin 16) (writeBack : Option U32)
    (stored : Bool × BusState σ) : MemoryExecution σ :=
  if stored.1 then ⟨.executed, (writeBack.map (cpu.setRegister rn)).getD cpu, stored.2⟩
  else ⟨.unsupported, cpu, stored.2⟩

/-- `execute_swap`. -/
def executeSwap (cpu : Arm7tdmi) (decoded : DecodedSwapInstruction) (bus : BusState σ) :
    MemoryExecution σ :=
  if !cpu.conditionPassed decoded.condition then ⟨.skippedCondition, cpu, bus⟩
  else
    let address := cpu.registers decoded.rn
    let swap (oldValue : U32) (stored : Bool × BusState σ) : MemoryExecution σ :=
      if stored.1 then ⟨.executed, cpu.setRegister decoded.rd oldValue, stored.2⟩
      else ⟨.unsupported, cpu, stored.2⟩
    if decoded.byte then
      match bus.read8 callbacks address with
      | none => ⟨.unsupported, cpu, bus⟩
      | some oldValue =>
          swap (oldValue.setWidth 32)
            (bus.write8 callbacks address ((cpu.registers decoded.rm).setWidth 8))
    else
      match bus.read32 callbacks address with
      | none => ⟨.unsupported, cpu, bus⟩
      | some oldValue =>
          swap oldValue (bus.write32 callbacks address (cpu.registers decoded.rm))

/-- The words at consecutive addresses for the listed registers, as the array `loaded` holds
them; nothing when one cannot be read. -/
def loadWords (read : U32 → Option U32) : List (Fin 16) → U32 → Option (Fin 16 → U32)
  | [], _ => some fun _ => 0
  | index :: rest, address => do
      let value ← read address
      let loaded ← loadWords read rest (address + 4)
      pure (Function.update loaded index value)

/-- The values of the listed registers stored at consecutive addresses, until a store fails. -/
def storeWords (value : Fin 16 → U32) :
    List (Fin 16) → U32 → BusState σ → Bool × BusState σ
  | [], _, bus => (true, bus)
  | index :: rest, address, bus =>
      BusState.andThen (bus.write32 callbacks address (value index)) fun stored =>
        storeWords value rest (address + 4) stored

/-- The lambda `user_bank_value`. -/
def userBankValue (cpu : Arm7tdmi) (index : Fin 16) : U32 :=
  if index = kStackPointer then cpu.sp .user
  else if index = kLinkRegister then cpu.lr .user
  else cpu.registers index

/-- The lambda `write_user_bank_value`. -/
def writeUserBankValue (cpu : Arm7tdmi) (index : Fin 16) (value : U32) : Arm7tdmi :=
  if index = kStackPointer then { cpu with sp := Function.update cpu.sp .user value }
  else if index = kLinkRegister then { cpu with lr := Function.update cpu.lr .user value }
  else cpu.setRegister index value

/-- A loaded program counter selects the instruction set with its lowest bit. -/
def loadPc (cpu : Arm7tdmi) (loadedPc : U32) : Execution :=
  let jumped := cpu.setRegister kPc (loadedPc &&& ~~~0x1#32)
  jumped.orUnsupported (jumped.setCpsr
    (if loadedPc.getLsbD 0 then jumped.cpsr ||| kThumbStateFlag
    else jumped.cpsr &&& ~~~kThumbStateFlag))

/-- The registers of a block load. -/
def writeLoaded (cpu : Arm7tdmi) (registerList : U16) (forceUserBank : Bool)
    (loaded : Fin 16 → U32) : Arm7tdmi :=
  (listedRegisters registerList 15).foldl
    (fun cpu index =>
      if forceUserBank then cpu.writeUserBankValue index (loaded index)
      else cpu.setRegister index (loaded index)) cpu

/-- The processor after the words of a block load, up to the write-back. -/
def executeBlockLoad (cpu : Arm7tdmi) (registerList : U16) (forceUserBank : Bool)
    (loaded : Fin 16 → U32) : Execution :=
  if !registerListContains registerList kPc then
    ⟨.executed, cpu.writeLoaded registerList forceUserBank loaded⟩
  else if forceUserBank then
    -- the exception return: the status is restored before the user bank is written
    match cpu.spsr.bind cpu.setCpsr with
    | none => ⟨.unsupported, cpu⟩
    | some returned =>
        ⟨.executed, (returned.writeLoaded registerList true loaded).setRegister kPc
          (loaded kPc &&& ~~~0x3#32)⟩
  else (cpu.writeLoaded registerList false loaded).loadPc (loaded kPc)

/-- The block transfer of `execute_arm`. -/
def executeBlockTransfer (cpu : Arm7tdmi) (decoded : DecodedBlockDataTransferInstruction)
    (forceUserBank : Bool) (bus : BusState σ) : MemoryExecution σ :=
  let hasPc := registerListContains decoded.registerList kPc
  if decoded.load && decoded.writeBack && registerListContains decoded.registerList decoded.rn then
    ⟨.unsupported, cpu, bus⟩
  else if forceUserBank && !cpu.hasSpsr then ⟨.unsupported, cpu, bus⟩
  else if !decoded.load && forceUserBank && hasPc then ⟨.unsupported, cpu, bus⟩
  else
    let transfer := blockTransferAddress (cpu.registers decoded.rn)
      (countRegisters decoded.registerList) decoded.preIndex decoded.up
    let writeBack := if decoded.writeBack then some transfer.writeBack else none
    if decoded.load then
      match loadWords (bus.read32 callbacks) (listedRegisters decoded.registerList 16)
        transfer.first with
      | none => ⟨.unsupported, cpu, bus⟩
      | some loaded =>
          let execution := cpu.executeBlockLoad decoded.registerList forceUserBank loaded
          if execution.status = .executed then
            ⟨.executed,
              (writeBack.map (execution.cpu.setRegister decoded.rn)).getD execution.cpu, bus⟩
          else execution.withBus bus
    else
      let value (index : Fin 16) : U32 :=
        let raw := if forceUserBank then cpu.userBankValue index else cpu.registers index
        if index = kPc then raw + 12 else raw
      cpu.finishStore decoded.rn writeBack
        (storeWords callbacks value (listedRegisters decoded.registerList 16) transfer.first bus)

/-- The halfword transfer of an instruction. -/
def decodeHalfword (cpu : Arm7tdmi) (instruction : U32) : DecodedHalfwordDataTransferInstruction :=
  if canDecodeHalfwordDataTransferRegister instruction then
    decodeHalfwordDataTransferRegister instruction
      (cpu.armVisibleRegisterValue (registerField instruction 0))
  else decodeHalfwordDataTransferImmediate instruction

/-- The word or byte transfer of an instruction. -/
def decodeSingle (cpu : Arm7tdmi) (instruction : U32) : DecodedSingleDataTransferInstruction :=
  if canDecodeSingleDataTransferRegister instruction then
    decodeSingleDataTransferRegister instruction
      (cpu.armVisibleRegisterValue (registerField instruction 0)) cpu.carry
  else decodeSingleDataTransferImmediate instruction

/-- `sign_extend8`. -/
def signExtend8 (value : U8) : U32 := value.signExtend 32

/-- `sign_extend16`. -/
def signExtend16 (value : U16) : U32 := value.signExtend 32

/-- The value that a halfword load puts into its register. -/
def loadHalfword (decoded : DecodedHalfwordDataTransferInstruction) (address pc : U32)
    (bus : BusState σ) : Option U32 :=
  if decoded.signedTransfer && (!decoded.halfword || anySet address 0x1#32) then
    (read8OrArmPipelineOpenBus callbacks bus address pc).map signExtend8
  else
    let halfwordAddress :=
      if (classify address).region = .gamePakSave then address else address &&& ~~~0x1#32
    (read16OrArmPipelineOpenBus callbacks bus halfwordAddress pc).map fun value =>
      if decoded.signedTransfer then signExtend16 value
      else if anySet address 0x1#32 then rotateRight (value.setWidth 32) 8
      else value.setWidth 32

/-- The halfword transfer of `execute_arm`. -/
def executeHalfwordTransfer (cpu : Arm7tdmi) (decoded : DecodedHalfwordDataTransferInstruction)
    (bus : BusState σ) : MemoryExecution σ :=
  if !supportedTransferAddressing decoded.preIndex decoded.writeBack then
    ⟨.unsupported, cpu, bus⟩
  else
    let base := cpu.armVisibleRegisterValue decoded.rn
    let writeBackAddress := offsetTransferAddress base decoded.offset decoded.up
    let address := if decoded.preIndex then writeBackAddress else base
    let needsWriteBack := transferNeedsWriteBack decoded.preIndex decoded.writeBack
    let writeBack := if needsWriteBack then some writeBackAddress else none
    if needsWriteBack && decoded.load && decoded.rn = decoded.rd then ⟨.unsupported, cpu, bus⟩
    else if decoded.load then
      cpu.finishLoad bus decoded.rd decoded.rn writeBack
        (loadHalfword callbacks decoded address (cpu.registers kPc) bus)
    else if decoded.signedTransfer || !decoded.halfword then ⟨.unsupported, cpu, bus⟩
    else
      cpu.finishStore decoded.rn writeBack
        (bus.write16 callbacks
          (if (classify address).region = .gamePakSave then address else address &&& ~~~0x1#32)
          ((cpu.registers decoded.rd).setWidth 16))

/-- The address of a word store: some regions see the address as it is. -/
def wordStoreAddress (address : U32) : U32 :=
  let region := (classify address).region
  if region = .gamePakSave ∨ region = .io then address else address &&& ~~~0x3#32

/-- The word or byte transfer of `execute_arm`. -/
def executeSingleTransfer (cpu : Arm7tdmi) (decoded : DecodedSingleDataTransferInstruction)
    (bus : BusState σ) : MemoryExecution σ :=
  if !supportedTransferAddressing decoded.preIndex decoded.writeBack then
    ⟨.unsupported, cpu, bus⟩
  else
    let base := cpu.armVisibleRegisterValue decoded.rn
    let writeBackAddress := offsetTransferAddress base decoded.offset decoded.up
    let address := if decoded.preIndex then writeBackAddress else base
    let needsWriteBack := transferNeedsWriteBack decoded.preIndex decoded.writeBack
    let writeBack := if needsWriteBack then some writeBackAddress else none
    if needsWriteBack && decoded.load && decoded.rn = decoded.rd then ⟨.unsupported, cpu, bus⟩
    else if decoded.load then
      cpu.finishLoad bus decoded.rd decoded.rn writeBack
        (if decoded.byte then
          (read8OrArmPipelineOpenBus callbacks bus address (cpu.registers kPc)).map
            (BitVec.setWidth 32)
        else read32OrArmPipelineOpenBus callbacks bus address (cpu.registers kPc))
    else if decoded.byte then
      cpu.finishStore decoded.rn writeBack
        (bus.write8 callbacks address ((cpu.registers decoded.rd).setWidth 8))
    else
      cpu.finishStore decoded.rn writeBack
        (bus.write32 callbacks (wordStoreAddress address)
          (if decoded.rd = kPc then cpu.registers kPc + 12 else cpu.registers decoded.rd))

/-- `execute_arm` with memory. -/
def executeArmMemory (instruction : U32) (cpu : Arm7tdmi) (bus : BusState σ) :
    MemoryExecution σ :=
  let condition := decodeCondition instruction
  let skipped : MemoryExecution σ := ⟨.skippedCondition, cpu, bus⟩
  if conditionField instruction = 0xF#4 then skipped
  else if canDecodeSoftwareInterrupt instruction then
    (cpu.onCondition condition
      ⟨.executed, cpu.enterException .softwareInterrupt⟩).withBus bus
  else if isCoprocessorSpace instruction then
    (cpu.onCondition condition ⟨.executed, cpu⟩).withBus bus
  else if canDecodeSwap instruction then
    cpu.executeSwap callbacks (decodeSwap instruction) bus
  else if canDecodeBlockDataTransfer instruction then
    let decoded := decodeBlockDataTransfer instruction
    if !cpu.conditionPassed decoded.condition then skipped
    else cpu.executeBlockTransfer callbacks decoded (instruction.getLsbD 22) bus
  else if canDecodeHalfwordDataTransfer instruction then
    let decoded := cpu.decodeHalfword instruction
    if !cpu.conditionPassed decoded.condition then skipped
    else cpu.executeHalfwordTransfer callbacks decoded bus
  else if canDecodeSingleDataTransfer instruction then
    let decoded := cpu.decodeSingle instruction
    if !cpu.conditionPassed decoded.condition then skipped
    else cpu.executeSingleTransfer callbacks decoded bus
  else (executeArm instruction cpu).withBus bus

end Memory

end Arm7tdmi

end Gba.Core
