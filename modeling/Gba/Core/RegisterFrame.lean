import Gba.Core.BlockTransfer
import Gba.Core.SessionInvariant
import Gba.Core.UserMode

/-!
# The registers that an instruction names

An instruction writes no general register but those that its word names: its destinations, the base
of a transfer that writes back, the link register and the program counter of a branch. Where it may
leave the mode, the registers that modes have of their own are named too. Every other register has
its value after the instruction, whether it was executed, skipped or refused.
-/

namespace Gba.Core

/-! ## Named registers -/

/-- No register. -/
def noRegister (_ : Fin 16) : Bool := false

/-- One register. -/
def onlyRegister (register index : Fin 16) : Bool := index = register

/-- One of two registers. -/
def eitherRegister (first second index : Fin 16) : Bool := index = first || index = second

/-- The registers that some mode has of its own. -/
def bankedRegister (index : Fin 16) : Bool := 8 ≤ index.val && index.val ≤ 14

/-- The registers that the entry to an exception writes. -/
def exceptionWrites (index : Fin 16) : Bool := bankedRegister index || index = Arm7tdmi.kPc

/-- The destination of a result; with the saved status the registers of another mode come back. -/
def DecodedArmInstruction.resultWrites (decoded : DecodedArmInstruction) (index : Fin 16) : Bool :=
  index = decoded.rd ||
    (decoded.rd = Arm7tdmi.kPc && decoded.setFlags && bankedRegister index)

/-- What a data-processing instruction writes: a comparison sets flags only. -/
def DecodedArmInstruction.writes (decoded : DecodedArmInstruction) : Fin 16 → Bool :=
  match decoded.opcode with
  | .tst | .teq | .cmp | .cmn => noRegister
  | _ => decoded.resultWrites

/-- What a status transfer writes: the control byte of the current status selects the mode. -/
def DecodedPsrTransferInstruction.writes (decoded : DecodedPsrTransferInstruction) :
    Fin 16 → Bool :=
  if !decoded.write then onlyRegister decoded.rdOrRm
  else if decoded.psr = .cpsr && decoded.fieldMask.getLsbD 0 then bankedRegister
  else noRegister

/-- What a branch writes. -/
def DecodedBranchInstruction.writes (decoded : DecodedBranchInstruction) : Fin 16 → Bool :=
  if decoded.link then eitherRegister Arm7tdmi.kPc Arm7tdmi.kLinkRegister
  else onlyRegister Arm7tdmi.kPc

/-- The loaded register and the base that is written back. -/
def transferWrites (load preIndex writeBack : Bool) (rd rn index : Fin 16) : Bool :=
  load && index = rd || transferNeedsWriteBack preIndex writeBack && index = rn

/-- The loaded registers, the base that is written back, and the registers of the mode that a load
of the program counter with the saved status returns to. -/
def DecodedBlockDataTransferInstruction.writes (decoded : DecodedBlockDataTransferInstruction)
    (forceUserBank : Bool) (index : Fin 16) : Bool :=
  decoded.load && registerListContains decoded.registerList index ||
    decoded.writeBack && index = decoded.rn ||
    decoded.load && forceUserBank &&
      registerListContains decoded.registerList Arm7tdmi.kPc && bankedRegister index

/-- What an ARM instruction without memory writes, in the order in which the classes are tried. -/
def armWrites (instruction : U32) : Fin 16 → Bool :=
  if conditionField instruction = 0xF#4 then noRegister
  else if canDecodeSoftwareInterrupt instruction then exceptionWrites
  else if Arm7tdmi.isCoprocessorSpace instruction then noRegister
  else if canDecodePsrTransfer instruction then (decodePsrTransfer instruction).writes
  else if canDecodeBranch instruction then (decodeBranch instruction).writes
  else if canDecodeBranchExchange instruction then onlyRegister Arm7tdmi.kPc
  else if canDecodeMultiplyLong instruction then
    eitherRegister (decodeMultiplyLong instruction).rdLo (decodeMultiplyLong instruction).rdHi
  else if canDecodeMultiply instruction then onlyRegister (decodeMultiply instruction).rd
  else if canDecodeDataProcessingImmediate instruction then
    (decodeDataProcessingImmediate instruction).writes
  else if canDecodeDataProcessingRegisterShift instruction then
    -- the operand does not matter
    (decodeDataProcessing instruction ⟨0, false, false⟩).writes
  else noRegister

/-- What an ARM transfer writes. -/
def armTransferWrites (instruction : U32) : Fin 16 → Bool :=
  if canDecodeSwap instruction then onlyRegister (decodeSwap instruction).rd
  else if canDecodeBlockDataTransfer instruction then
    (decodeBlockDataTransfer instruction).writes (instruction.getLsbD 22)
  else if canDecodeHalfwordDataTransfer instruction || canDecodeSingleDataTransfer instruction then
    transferWrites (instruction.getLsbD 20) (instruction.getLsbD 24) (instruction.getLsbD 21)
      (registerField instruction 12) (registerField instruction 16)
  else noRegister

/-- What an ARM instruction writes. -/
def armMemoryWrites (instruction : U32) (index : Fin 16) : Bool :=
  armTransferWrites instruction index || armWrites instruction index

/-- What a Thumb instruction of the ALU format writes. -/
def DecodedThumbAluInstruction.writes (decoded : DecodedThumbAluInstruction) : Fin 16 → Bool :=
  match decoded.opcode with
  | .tst | .cmp | .cmn => noRegister
  | _ => onlyRegister decoded.rd

/-- What a Thumb instruction on high registers writes. -/
def DecodedThumbHighRegisterInstruction.writes (decoded : DecodedThumbHighRegisterInstruction) :
    Fin 16 → Bool :=
  match decoded.opcode with
  | .add | .mov => onlyRegister decoded.rd
  | .cmp => noRegister
  | .bx => onlyRegister Arm7tdmi.kPc

/-- What an addition, a subtraction or an operation with an immediate writes. -/
def DecodedThumbInstruction.writes (decoded : DecodedThumbInstruction) : Fin 16 → Bool :=
  match decoded.opcode with
  | .cmp => noRegister
  | _ => onlyRegister decoded.rd

/-- What half of a long branch writes. -/
def DecodedThumbLongBranchLinkInstruction.writes
    (decoded : DecodedThumbLongBranchLinkInstruction) : Fin 16 → Bool :=
  if !decoded.secondHalf then onlyRegister Arm7tdmi.kLinkRegister
  else eitherRegister Arm7tdmi.kPc Arm7tdmi.kLinkRegister

/-- What a Thumb block transfer writes. -/
def DecodedThumbBlockTransferInstruction.writes (decoded : DecodedThumbBlockTransferInstruction)
    (index : Fin 16) : Bool :=
  index = decoded.rb ||
    decoded.load && registerListContains (decoded.registerList.setWidth 16) index

/-- What a push or a pop writes. -/
def DecodedThumbStackInstruction.writes (decoded : DecodedThumbStackInstruction)
    (index : Fin 16) : Bool :=
  index = Arm7tdmi.kStackPointer ||
    decoded.load && (registerListContains (decoded.registerList.setWidth 16) index ||
      decoded.extraRegister && index = Arm7tdmi.kPc)

/-- What a Thumb instruction without memory writes. -/
def thumbWrites (instruction : U16) : Fin 16 → Bool :=
  if canDecodeThumbSoftwareInterrupt instruction then exceptionWrites
  else if canDecodeThumbHighRegister instruction then
    (decodeThumbHighRegister instruction).writes
  else if canDecodeThumbConditionalBranch instruction then onlyRegister Arm7tdmi.kPc
  else if canDecodeThumbUnconditionalBranch instruction then onlyRegister Arm7tdmi.kPc
  else if canDecodeThumbLongBranchLink instruction then
    (decodeThumbLongBranchLink instruction).writes
  else if canDecodeThumbShiftImmediate instruction then
    onlyRegister (decodeThumbShiftImmediate instruction).rd
  else if canDecodeThumbAlu instruction then (decodeThumbAlu instruction).writes
  else if canDecodeThumbStackPointerAdjust instruction then onlyRegister Arm7tdmi.kStackPointer
  else if canDecodeThumbLoadAddress instruction then
    onlyRegister (decodeThumbLoadAddress instruction).rd
  else if canDecodeThumbAddSubtract instruction then
    (decodeThumbAddSubtract instruction).writes
  else if canDecodeThumbImmediate instruction then (decodeThumbImmediate instruction).writes
  else noRegister

/-- What a Thumb instruction writes. -/
def thumbMemoryWrites (instruction : U16) : Fin 16 → Bool :=
  if canDecodeThumbBlockTransfer instruction then (decodeThumbBlockTransfer instruction).writes
  else if canDecodeThumbStackTransfer instruction then
    (decodeThumbStackTransfer instruction).writes
  else if canDecodeThumbMemoryTransfer instruction then
    let decoded := decodeThumbMemoryTransfer instruction
    if decoded.load then onlyRegister decoded.rd else noRegister
  else thumbWrites instruction

theorem onlyRegister_self (register : Fin 16) : onlyRegister register register = true :=
  decide_eq_true rfl

theorem resultWrites_rd (decoded : DecodedArmInstruction) :
    decoded.resultWrites decoded.rd = true := by
  simp [DecodedArmInstruction.resultWrites]

namespace Arm7tdmi

/-- Two processors agree in every register that is not written. -/
def Frame (writes : Fin 16 → Bool) (cpu after : Arm7tdmi) : Prop :=
  ∀ index, writes index = false → after.registers index = cpu.registers index

namespace Frame

variable {writes other : Fin 16 → Bool} {cpu middle after : Arm7tdmi}

theorem refl (cpu : Arm7tdmi) : Frame writes cpu cpu := fun _ _ => rfl

theorem trans (h : Frame writes cpu middle) (h' : Frame writes middle after) :
    Frame writes cpu after := by
  intro index hindex
  rw [h' index hindex, h index hindex]

/-- More registers may be written. -/
theorem mono (h : Frame writes cpu after)
    (hwrites : ∀ index, writes index = true → other index = true) : Frame other cpu after := by
  intro index hindex
  refine h index ?_
  rw [← Bool.not_eq_true]
  intro hwritten
  rw [hwrites index hwritten] at hindex
  contradiction

/-- The registers are all that counts. -/
theorem of_registers (h : after.registers = cpu.registers) : Frame writes cpu after := by
  intro index _
  rw [h]

/-- A register is written that may be written. -/
theorem setRegister (h : Frame writes cpu after) {index : Fin 16} (hindex : writes index = true)
    (value : U32) : Frame writes cpu (after.setRegister index value) := by
  intro other hother
  have hne : other ≠ index := by
    rintro rfl
    rw [hindex] at hother
    contradiction
  show Function.update after.registers index value other = cpu.registers other
  rw [Function.update_of_ne hne]
  exact h other hother

/-- One register is written. -/
theorem only (cpu : Arm7tdmi) (index : Fin 16) (value : U32) :
    Frame (onlyRegister index) cpu (cpu.setRegister index value) :=
  (refl cpu).setRegister (onlyRegister_self index) value

/-- One class of instructions, and the classes after it. -/
theorem branch {c : Prop} [Decidable c] {execution rest : Execution}
    (h : Frame writes cpu execution.cpu) (h' : Frame other cpu rest.cpu) :
    Frame (if c then writes else other) cpu (if c then execution else rest).cpu := by
  split
  · exact h
  · exact h'

theorem ite {c : Prop} [Decidable c] {execution rest : Execution}
    (h : Frame writes cpu execution.cpu) (h' : Frame writes cpu rest.cpu) :
    Frame writes cpu (if c then execution else rest).cpu := by
  split
  · exact h
  · exact h'

theorem iteMemory {σ : Type} {c : Prop} [Decidable c] {execution rest : MemoryExecution σ}
    (h : c → Frame writes cpu execution.cpu) (h' : ¬c → Frame writes cpu rest.cpu) :
    Frame writes cpu (if c then execution else rest).cpu := by
  split
  · next hc => exact h hc
  · next hc => exact h' hc

/-- An instruction under its condition. -/
theorem onCondition {execution : Execution} (h : Frame writes cpu execution.cpu)
    (condition : Option ArmCondition) :
    Frame writes cpu (cpu.onCondition condition execution).cpu := by
  unfold Arm7tdmi.onCondition
  split
  · exact h
  · exact refl cpu

theorem orUnsupported {next : Option Arm7tdmi}
    (h : ∀ after, next = some after → Frame writes cpu after) :
    Frame writes cpu (cpu.orUnsupported next).cpu := by
  cases next with
  | none => exact refl cpu
  | some after => exact h after rfl

/-- The write-back at the end of a transfer. -/
theorem writeBack (h : Frame writes cpu after) {rn : Fin 16} {value : Option U32}
    (hrn : value.isSome = true → writes rn = true) :
    Frame writes cpu ((value.map (after.setRegister rn)).getD after) := by
  cases value with
  | none => exact h
  | some value => exact h.setRegister (hrn rfl) value

/-- A list of registers that may be written. -/
theorem foldl {write : Arm7tdmi → Fin 16 → Arm7tdmi} {registers : List (Fin 16)}
    (hwrite : ∀ after index, index ∈ registers → Frame writes cpu after →
      Frame writes cpu (write after index)) (h : Frame writes cpu after) :
    Frame writes cpu (registers.foldl write after) := by
  induction registers generalizing after with
  | nil => exact h
  | cons index registers ih =>
      refine ih (fun after index hmem => hwrite after index (List.mem_cons_of_mem _ hmem)) ?_
      exact hwrite after index List.mem_cons_self h

/-! ## The status registers -/

/-- A switch of the mode exchanges registers that modes have of their own. -/
theorem switchMode (cpu : Arm7tdmi) (mode : CpuMode) :
    Frame bankedRegister cpu (cpu.switchMode mode) := by
  intro index hindex
  have hunbanked : index.val < 8 ∨ index = kPc := by
    revert index
    decide
  unfold Arm7tdmi.switchMode
  split
  · rfl
  · rw [loadBankedRegisters_unbanked _ _ hunbanked]
    exact congrFun (cpu.saveBankedRegisters_frame cpu.mode).1 index

theorem setCpsr {value : U32} (h : cpu.setCpsr value = some after) :
    Frame bankedRegister cpu after := by
  unfold Arm7tdmi.setCpsr at h
  obtain ⟨mode, -, rfl⟩ := Option.map_eq_some_iff.mp h
  exact switchMode _ mode

/-- A status word of the same mode writes no register. -/
theorem setCpsr_same {value : U32} (hmode : cpu.mode ∈ CpuMode.named)
    (hsame : value &&& 0xDF#32 = cpu.cpsr &&& 0xDF#32) (h : cpu.setCpsr value = some after) :
    Frame writes cpu after := by
  have hkept : after.mode = cpu.mode :=
    congrArg Control.mode (setCpsr_control hmode hsame h)
  unfold Arm7tdmi.setCpsr at h
  obtain ⟨mode, -, rfl⟩ := Option.map_eq_some_iff.mp h
  have hcurrent : cpu.mode = mode := by
    rw [← hkept, switchMode_mode]
  subst hcurrent
  refine of_registers ?_
  rw [switchMode_self _ rfl]

theorem enterException (cpu : Arm7tdmi) (kind : ExceptionKind) :
    Frame exceptionWrites cpu (cpu.enterException kind) := by
  have hswitched : Frame exceptionWrites cpu (cpu.switchMode (exceptionVector kind).mode) := by
    refine (switchMode cpu _).mono fun index hindex => ?_
    simp [exceptionWrites, hindex]
  have hsaved : Frame exceptionWrites cpu
      ((cpu.switchMode (exceptionVector kind).mode).setSpsrForMode
        (exceptionVector kind).mode cpu.cpsr) := by
    refine hswitched.trans (of_registers ?_)
    unfold Arm7tdmi.setSpsrForMode
    split <;> rfl
  unfold Arm7tdmi.enterException
  dsimp only
  refine setRegister ?_ rfl _
  split
  · exact hsaved.setRegister rfl _
  · exact hswitched

/-! ## ARM instructions without memory -/

theorem writeResult (cpu : Arm7tdmi) (decoded : DecodedArmInstruction) (result : U32) :
    Frame decoded.resultWrites cpu (cpu.writeResult decoded result) := by
  unfold Arm7tdmi.writeResult
  split
  · next hrestore =>
    unfold spsrRestoreToPc at hrestore
    simp only [Bool.and_eq_true, decide_eq_true_eq] at hrestore
    obtain ⟨⟨hrd, hflags⟩, -⟩ := hrestore
    have hpc : decoded.resultWrites kPc = true := by
      rw [← hrd]
      exact resultWrites_rd decoded
    refine setRegister ?_ hpc _
    cases hset : cpu.spsr.bind cpu.setCpsr with
    | none => exact refl cpu
    | some restored =>
        obtain ⟨value, -, hvalue⟩ := Option.bind_eq_some_iff.mp hset
        refine (setCpsr hvalue).mono fun index hindex => ?_
        simp [DecodedArmInstruction.resultWrites, hrd, hflags, hindex]
  · exact (refl cpu).setRegister (resultWrites_rd decoded) _

theorem writeFlagged (cpu : Arm7tdmi) (decoded : DecodedArmInstruction) (result : U32)
    {setFlags : Arm7tdmi → Arm7tdmi} (h : ∀ cpu, (setFlags cpu).registers = cpu.registers) :
    Frame decoded.resultWrites cpu (cpu.writeFlagged decoded result setFlags) := by
  unfold Arm7tdmi.writeFlagged
  dsimp only
  split
  · exact (writeResult cpu decoded result).trans (of_registers (h _))
  · exact writeResult cpu decoded result

theorem setLogicalFlags_registers (cpu : Arm7tdmi) (result : U32)
    (decoded : DecodedArmInstruction) :
    (cpu.setLogicalFlags result decoded).registers = cpu.registers := by
  unfold Arm7tdmi.setLogicalFlags
  dsimp only
  split <;> rfl

theorem executeDataProcessing (cpu : Arm7tdmi) (decoded : DecodedArmInstruction)
    (pcOffset : U32) : Frame decoded.writes cpu (cpu.executeDataProcessing decoded pcOffset) := by
  have hlogical : ∀ result, Frame decoded.resultWrites cpu (cpu.writeLogical decoded result) := by
    intro result
    exact writeFlagged cpu decoded result fun written =>
      setLogicalFlags_registers written result decoded
  unfold Arm7tdmi.executeDataProcessing DecodedArmInstruction.writes
  dsimp only
  cases decoded.opcode with
  | and => exact hlogical _
  | eor => exact hlogical _
  | mov => exact hlogical _
  | orr => exact hlogical _
  | bic => exact hlogical _
  | mvn => exact hlogical _
  | cmp => exact of_registers rfl
  | cmn => exact of_registers rfl
  | tst => exact of_registers (setLogicalFlags_registers cpu _ decoded)
  | teq => exact of_registers (setLogicalFlags_registers cpu _ decoded)
  | _ => exact writeFlagged cpu decoded _ fun _ => rfl

/-- Without the control byte a field mask selects no bit of it. -/
theorem psrFieldMask_control {fieldMask : BitVec 4} (h : fieldMask.getLsbD 0 = false) :
    psrFieldMask fieldMask &&& 0xDF#32 = 0 := by
  unfold psrFieldMask
  rw [h]
  cases fieldMask.getLsbD 1 <;> cases fieldMask.getLsbD 2 <;> cases fieldMask.getLsbD 3 <;> rfl

theorem executePsrTransfer (decoded : DecodedPsrTransferInstruction)
    (hmode : cpu.mode ∈ CpuMode.named) :
    Frame decoded.writes cpu (cpu.executePsrTransfer decoded).cpu := by
  unfold Arm7tdmi.executePsrTransfer DecodedPsrTransferInstruction.writes
  refine branch ?_ ?_
  · cases decoded.psr with
    | spsr =>
        refine orUnsupported fun after hafter => ?_
        obtain ⟨value, -, rfl⟩ := Option.map_eq_some_iff.mp hafter
        exact only cpu _ value
    | cpsr => exact only cpu _ _
  dsimp only
  cases decoded.psr with
  | spsr =>
      refine ite (refl cpu) (orUnsupported fun after hafter => ?_)
      obtain ⟨value, -, hset⟩ := Option.bind_eq_some_iff.mp hafter
      obtain ⟨bank, -, rfl⟩ := Option.map_eq_some_iff.mp hset
      exact of_registers rfl
  | cpsr =>
      refine ite (refl cpu) (orUnsupported fun after hafter => ?_)
      cases hcontrol : decoded.fieldMask.getLsbD 0 with
      | true => exact setCpsr hafter
      | false =>
          -- the mode is not among the bits that are written
          refine setCpsr_same hmode (CpuEffects.masked_control _ _ _ ?_) hafter
          split
          · rw [BitVec.and_assoc, BitVec.and_comm (~~~kControlByteMask), ← BitVec.and_assoc,
              psrFieldMask_control hcontrol]
            exact BitVec.zero_and
          · exact psrFieldMask_control hcontrol

theorem executeMultiply (cpu : Arm7tdmi) (decoded : DecodedMultiplyInstruction) :
    Frame (onlyRegister decoded.rd) cpu (cpu.executeMultiply decoded) := by
  unfold Arm7tdmi.executeMultiply
  dsimp only
  split
  · exact only cpu _ _
  · exact only cpu _ _

theorem executeMultiplyLong (cpu : Arm7tdmi) (decoded : DecodedMultiplyLongInstruction) :
    Frame (eitherRegister decoded.rdLo decoded.rdHi) cpu (cpu.executeMultiplyLong decoded) := by
  have hwritten : ∀ low high, Frame (eitherRegister decoded.rdLo decoded.rdHi) cpu
      ((cpu.setRegister decoded.rdLo low).setRegister decoded.rdHi high) := by
    intro low high
    have hlow : eitherRegister decoded.rdLo decoded.rdHi decoded.rdLo = true := by
      simp [eitherRegister]
    have hhigh : eitherRegister decoded.rdLo decoded.rdHi decoded.rdHi = true := by
      simp [eitherRegister]
    exact ((refl cpu).setRegister hlow low).setRegister hhigh high
  unfold Arm7tdmi.executeMultiplyLong
  dsimp only
  split
  · exact hwritten _ _
  · exact hwritten _ _

theorem executeBranch (cpu : Arm7tdmi) (decoded : DecodedBranchInstruction) :
    Frame decoded.writes cpu (cpu.executeBranch decoded) := by
  unfold Arm7tdmi.executeBranch DecodedBranchInstruction.writes
  dsimp only
  split
  · exact ((refl cpu).setRegister rfl _).setRegister rfl _
  · exact (refl cpu).setRegister rfl _

/-- An ARM instruction without memory. -/
theorem executeArm (instruction : U32) (hmode : cpu.mode ∈ CpuMode.named) :
    Frame (armWrites instruction) cpu (Arm7tdmi.executeArm instruction cpu).cpu := by
  have hsame : Frame noRegister cpu (Execution.mk .executed cpu).cpu := refl cpu
  unfold armWrites Arm7tdmi.executeArm
  dsimp only
  -- the classes in the order of the source
  refine branch (refl cpu) (branch (onCondition (enterException cpu _) _) ?_)
  refine branch (onCondition hsame _) (branch (onCondition (executePsrTransfer _ hmode) _) ?_)
  refine branch (onCondition (executeBranch cpu _) _) ?_
  refine branch (onCondition (only cpu _ _) _) ?_
  refine branch (onCondition (executeMultiplyLong cpu _) _) ?_
  refine branch (onCondition (executeMultiply cpu _) _) ?_
  refine branch (onCondition (executeDataProcessing cpu _ _) _) (branch ?_ (refl cpu))
  refine ite (onCondition ?_ _) (onCondition ?_ _)
  · exact executeDataProcessing cpu
      (decodeDataProcessingRegisterShift instruction _ _) _
  · exact executeDataProcessing cpu
      (decodeDataProcessingImmediateShift instruction _ _) _

/-! ## Transfers -/

section Memory

variable {σ : Type} {callbacks : MemoryBusIoCallbacks σ}

theorem finishLoad (cpu : Arm7tdmi) (bus : BusState σ) {rd rn : Fin 16} {value : Option U32}
    {writeBack : Option U32} (hrd : writes rd = true)
    (hrn : writeBack.isSome = true → writes rn = true) :
    Frame writes cpu (cpu.finishLoad bus rd rn writeBack value).cpu := by
  cases value with
  | none => exact refl cpu
  | some value => exact Frame.writeBack ((refl cpu).setRegister hrd value) hrn

theorem finishStore (cpu : Arm7tdmi) {rn : Fin 16} {writeBack : Option U32}
    (stored : Bool × BusState σ) (hrn : writeBack.isSome = true → writes rn = true) :
    Frame writes cpu (cpu.finishStore rn writeBack stored).cpu := by
  unfold Arm7tdmi.finishStore
  split
  · exact Frame.writeBack (refl cpu) hrn
  · exact refl cpu

theorem executeSwap (cpu : Arm7tdmi) (decoded : DecodedSwapInstruction) (bus : BusState σ) :
    Frame (onlyRegister decoded.rd) cpu (cpu.executeSwap callbacks decoded bus).cpu := by
  have hswap : ∀ (oldValue : U32) (stored : Bool × BusState σ),
      Frame (onlyRegister decoded.rd) cpu
        (if stored.1 then (⟨.executed, cpu.setRegister decoded.rd oldValue, stored.2⟩ :
          MemoryExecution σ) else ⟨.unsupported, cpu, stored.2⟩).cpu := by
    intro oldValue stored
    split
    · exact only cpu _ oldValue
    · exact refl cpu
  unfold Arm7tdmi.executeSwap
  dsimp only
  split
  · exact refl cpu
  split
  · split
    · exact refl cpu
    · exact hswap _ _
  · split
    · exact refl cpu
    · exact hswap _ _

/-- A word for the user bank goes to its register, or to a bank that the mode does not show. -/
theorem writeUserBankValue (h : Frame writes cpu after) {index : Fin 16}
    (hindex : writes index = true) (value : U32) :
    Frame writes cpu (after.writeUserBankValue index value) := by
  unfold Arm7tdmi.writeUserBankValue
  split
  · exact h
  split
  · exact h
  · exact h.setRegister hindex value

theorem writeLoaded {registerList : U16} (h : Frame writes cpu after)
    (hlisted : ∀ index, registerListContains registerList index = true → writes index = true)
    (forceUserBank : Bool) (loaded : Fin 16 → U32) :
    Frame writes cpu (after.writeLoaded registerList forceUserBank loaded) := by
  refine foldl (fun after index hmem hafter => ?_) h
  have hindex := hlisted index (mem_listedRegisters.mp hmem).2
  split
  · exact writeUserBankValue hafter hindex _
  · exact hafter.setRegister hindex _

/-- A loaded program counter selects the instruction set and no mode. -/
theorem loadPc (h : Frame writes cpu after) (hmode : after.mode ∈ CpuMode.named)
    (hpc : writes kPc = true) (loadedPc : U32) :
    Frame writes cpu (after.loadPc loadedPc).cpu := by
  refine (h.setRegister hpc (loadedPc &&& ~~~0x1#32)).trans (orUnsupported fun set hset => ?_)
  exact setCpsr_same hmode (MemoryExecution.Follows.thumb_masked _ _) hset

theorem executeBlockLoad (decoded : DecodedBlockDataTransferInstruction) (forceUserBank : Bool)
    (hload : decoded.load = true) (hmode : cpu.mode ∈ CpuMode.named) (loaded : Fin 16 → U32) :
    Frame (decoded.writes forceUserBank) cpu
      (cpu.executeBlockLoad decoded.registerList forceUserBank loaded).cpu := by
  have hlisted : ∀ index, registerListContains decoded.registerList index = true →
      decoded.writes forceUserBank index = true := by
    intro index hindex
    simp [DecodedBlockDataTransferInstruction.writes, hload, hindex]
  have hwritten : ∀ user, Frame (decoded.writes forceUserBank) cpu
      (cpu.writeLoaded decoded.registerList user loaded) :=
    fun user => writeLoaded (refl cpu) hlisted user loaded
  unfold Arm7tdmi.executeBlockLoad
  split
  · exact hwritten _
  next hpc =>
  have hcontains : registerListContains decoded.registerList kPc = true := by simpa using hpc
  split
  · next huser =>
    cases hrestore : cpu.spsr.bind cpu.setCpsr with
    | none => exact refl cpu
    | some returned =>
        obtain ⟨value, -, hvalue⟩ := Option.bind_eq_some_iff.mp hrestore
        have hreturned : Frame (decoded.writes forceUserBank) cpu returned := by
          refine (setCpsr hvalue).mono fun index hindex => ?_
          simp [DecodedBlockDataTransferInstruction.writes, hload, huser, hcontains, hindex]
        exact (writeLoaded hreturned hlisted true loaded).setRegister (hlisted _ hcontains) _
  · refine loadPc (hwritten false) ?_ (hlisted _ hcontains) _
    have hkept : (cpu.writeLoaded decoded.registerList false loaded).mode = cpu.mode :=
      congrArg Control.mode (cpu.writeLoaded_control _ _ _)
    rw [hkept]
    exact hmode

theorem executeBlockTransfer (decoded : DecodedBlockDataTransferInstruction)
    (forceUserBank : Bool) (hmode : cpu.mode ∈ CpuMode.named) (bus : BusState σ) :
    Frame (decoded.writes forceUserBank) cpu
      (cpu.executeBlockTransfer callbacks decoded forceUserBank bus).cpu := by
  have hbase : ∀ value : U32, (if decoded.writeBack then some value else none).isSome = true →
      decoded.writes forceUserBank decoded.rn = true := by
    intro value hsome
    cases hwrite : decoded.writeBack with
    | false =>
        rw [hwrite] at hsome
        exact absurd hsome (by simp)
    | true => simp [DecodedBlockDataTransferInstruction.writes, hwrite]
  unfold Arm7tdmi.executeBlockTransfer
  dsimp only
  split
  · exact refl cpu
  split
  · exact refl cpu
  split
  · exact refl cpu
  split
  · next hload =>
    split
    · exact refl cpu
    · next loaded _ =>
      have hexecuted := executeBlockLoad decoded forceUserBank hload hmode loaded
      split
      · exact Frame.writeBack hexecuted (hbase _)
      · exact hexecuted
  · exact finishStore cpu _ (hbase _)

/-- The base of a single transfer is named where it is written back. -/
theorem transferWrites_base {load preIndex writeBack : Bool} {rd rn : Fin 16} {value : U32}
    (h : (if transferNeedsWriteBack preIndex writeBack then some value else none).isSome = true) :
    transferWrites load preIndex writeBack rd rn rn = true := by
  cases hneeds : transferNeedsWriteBack preIndex writeBack with
  | false =>
      rw [hneeds] at h
      exact absurd h (by simp)
  | true => simp [transferWrites, hneeds]

theorem transferWrites_loaded {load preIndex writeBack : Bool} {rd rn : Fin 16}
    (h : load = true) : transferWrites load preIndex writeBack rd rn rd = true := by
  simp [transferWrites, h]

theorem executeHalfwordTransfer (cpu : Arm7tdmi)
    (decoded : DecodedHalfwordDataTransferInstruction) (bus : BusState σ) :
    Frame (transferWrites decoded.load decoded.preIndex decoded.writeBack decoded.rd decoded.rn) cpu
      (cpu.executeHalfwordTransfer callbacks decoded bus).cpu := by
  unfold Arm7tdmi.executeHalfwordTransfer
  dsimp only
  split
  · exact refl cpu
  split
  · exact refl cpu
  split
  · next hload => exact finishLoad cpu bus (transferWrites_loaded hload) transferWrites_base
  split
  · exact refl cpu
  · exact finishStore cpu _ transferWrites_base

theorem executeSingleTransfer (cpu : Arm7tdmi)
    (decoded : DecodedSingleDataTransferInstruction) (bus : BusState σ) :
    Frame (transferWrites decoded.load decoded.preIndex decoded.writeBack decoded.rd decoded.rn) cpu
      (cpu.executeSingleTransfer callbacks decoded bus).cpu := by
  unfold Arm7tdmi.executeSingleTransfer
  dsimp only
  split
  · exact refl cpu
  split
  · exact refl cpu
  split
  · next hload => exact finishLoad cpu bus (transferWrites_loaded hload) transferWrites_base
  split
  · exact finishStore cpu _ transferWrites_base
  · exact finishStore cpu _ transferWrites_base

/-- The transfers of an instruction are some of what it writes. -/
theorem transfer {instruction : U32} (h : Frame (armTransferWrites instruction) cpu after) :
    Frame (armMemoryWrites instruction) cpu after := by
  refine h.mono fun index hindex => ?_
  unfold armMemoryWrites
  rw [hindex, Bool.true_or]

/-- What an instruction writes without memory is some of what it writes. -/
theorem withoutMemory {instruction : U32} (h : Frame (armWrites instruction) cpu after) :
    Frame (armMemoryWrites instruction) cpu after := by
  refine h.mono fun index hindex => ?_
  unfold armMemoryWrites
  rw [hindex, Bool.or_true]

/-- An ARM instruction with memory. -/
theorem executeArmMemory (instruction : U32) (hmode : cpu.mode ∈ CpuMode.named)
    (bus : BusState σ) :
    Frame (armMemoryWrites instruction) cpu
      (cpu.executeArmMemory callbacks instruction bus).cpu := by
  have harm := executeArm instruction hmode
  unfold Arm7tdmi.executeArmMemory
  dsimp only
  split
  · exact refl cpu
  next hcondition =>
  split
  · next hswi =>
    -- an exception is entered with and without memory
    refine withoutMemory ?_
    unfold armWrites
    rw [if_neg hcondition, if_pos hswi]
    exact onCondition (enterException cpu _) _
  split
  · have hsame : Frame (armMemoryWrites instruction) cpu (Execution.mk .executed cpu).cpu :=
      refl cpu
    exact onCondition hsame _
  split
  · next hswap =>
    refine transfer ?_
    unfold armTransferWrites
    rw [if_pos hswap]
    exact executeSwap cpu _ bus
  next hswap =>
  split
  · next hblock =>
    refine transfer ?_
    unfold armTransferWrites
    rw [if_neg hswap, if_pos hblock]
    split
    · exact refl cpu
    · exact executeBlockTransfer _ _ hmode bus
  next hblock =>
  split
  · next hhalfword =>
    refine transfer ?_
    unfold armTransferWrites
    rw [if_neg hswap, if_neg hblock, if_pos (by rw [hhalfword, Bool.true_or])]
    split
    · exact refl cpu
    · unfold decodeHalfword
      split
      · exact executeHalfwordTransfer cpu (decodeHalfwordDataTransferRegister instruction _) bus
      · exact executeHalfwordTransfer cpu (decodeHalfwordDataTransferImmediate instruction) bus
  split
  · next hsingle =>
    refine transfer ?_
    unfold armTransferWrites
    rw [if_neg hswap, if_neg hblock, if_pos (by rw [hsingle, Bool.or_true])]
    split
    · exact refl cpu
    · unfold decodeSingle
      split
      · exact executeSingleTransfer cpu (decodeSingleDataTransferRegister instruction _ _) bus
      · exact executeSingleTransfer cpu (decodeSingleDataTransferImmediate instruction) bus
  · exact withoutMemory harm

/-! ## Thumb instructions -/

theorem writeRegisters {registers : List (Fin 16)} (h : Frame writes cpu after)
    (hlisted : ∀ index ∈ registers, writes index = true) (loaded : Fin 16 → U32) :
    Frame writes cpu (after.writeRegisters registers loaded) := by
  unfold Arm7tdmi.writeRegisters
  exact foldl (fun after index hmem hafter => hafter.setRegister (hlisted index hmem) _) h

theorem executeThumbMemoryTransfer (cpu : Arm7tdmi)
    (decoded : DecodedThumbMemoryTransferInstruction) (bus : BusState σ) :
    Frame (if decoded.load then onlyRegister decoded.rd else noRegister) cpu
      (cpu.executeThumbMemoryTransfer callbacks decoded bus).cpu := by
  unfold Arm7tdmi.executeThumbMemoryTransfer
  dsimp only
  split
  · exact finishLoad cpu bus (onlyRegister_self _) fun h => absurd h (by simp)
  · split
    · exact finishStore cpu _ fun h => absurd h (by simp)
    · exact finishStore cpu _ fun h => absurd h (by simp)
    · exact finishStore cpu _ fun h => absurd h (by simp)
    · exact refl cpu
    · exact refl cpu

theorem executeThumbBlockTransfer (cpu : Arm7tdmi)
    (decoded : DecodedThumbBlockTransferInstruction) (bus : BusState σ) :
    Frame decoded.writes cpu (cpu.executeThumbBlockTransfer callbacks decoded bus).cpu := by
  have hbase : decoded.writes decoded.rb = true := by
    simp [DecodedThumbBlockTransferInstruction.writes]
  unfold Arm7tdmi.executeThumbBlockTransfer
  dsimp only
  split
  · exact refl cpu
  split
  · next hload =>
    split
    · exact refl cpu
    · refine Frame.setRegister (writeRegisters (refl cpu) (fun index hmem => ?_) _) hbase _
      have hlisted := (mem_listedRegisters.mp hmem).2
      simp [DecodedThumbBlockTransferInstruction.writes, hload, hlisted]
  · exact finishStore cpu _ fun _ => hbase

theorem finishPop {poppedPc : Option U32} (h : Frame writes cpu after)
    (hmode : after.mode ∈ CpuMode.named) (hsp : writes kStackPointer = true)
    (hpc : poppedPc.isSome = true → writes kPc = true) (newSp : U32) :
    Frame writes cpu (after.finishPop poppedPc newSp).cpu := by
  cases poppedPc with
  | none => exact h.setRegister hsp newSp
  | some loadedPc =>
      have hjumped := loadPc h hmode (hpc rfl) loadedPc
      unfold Arm7tdmi.finishPop
      dsimp only
      split
      · exact hjumped.setRegister hsp newSp
      · exact hjumped

theorem executeThumbStackTransfer (decoded : DecodedThumbStackInstruction)
    (hmode : cpu.mode ∈ CpuMode.named) (bus : BusState σ) :
    Frame decoded.writes cpu (cpu.executeThumbStackTransfer callbacks decoded bus).cpu := by
  have hsp : decoded.writes kStackPointer = true := by
    simp [DecodedThumbStackInstruction.writes]
  unfold Arm7tdmi.executeThumbStackTransfer
  refine iteMemory (fun _ => refl cpu) fun _ => ?_
  refine iteMemory (fun _ => finishStore cpu _ fun _ => hsp) fun hload => ?_
  have hloads : decoded.load = true := by simpa using hload
  split
  · exact refl cpu
  · next loaded _ =>
    have hwritten : Frame decoded.writes cpu (cpu.writeRegisters
        (listedRegisters (decoded.registerList.setWidth 16) 8) loaded) := by
      refine writeRegisters (refl cpu) (fun index hmem => ?_) loaded
      have hlisted := (mem_listedRegisters.mp hmem).2
      simp [DecodedThumbStackInstruction.writes, hloads, hlisted]
    refine finishPop hwritten ?_ hsp (fun hpopped => ?_) _
    · have hkept : (cpu.writeRegisters
          (listedRegisters (decoded.registerList.setWidth 16) 8) loaded).mode = cpu.mode :=
        congrArg Control.mode (cpu.writeRegisters_control _ loaded)
      rw [hkept]
      exact hmode
    · cases hextra : decoded.extraRegister with
      | false =>
          rw [hextra] at hpopped
          exact absurd hpopped (by simp)
      | true => simp [DecodedThumbStackInstruction.writes, hloads, hextra]

end Memory

theorem executeThumbShift (cpu : Arm7tdmi) (decoded : DecodedThumbShiftInstruction) :
    Frame (onlyRegister decoded.rd) cpu (cpu.executeThumbShift decoded).cpu := by
  unfold Arm7tdmi.executeThumbShift
  cases decoded.type with
  | lsl =>
      dsimp only
      split
      · exact only cpu _ _
      · exact only cpu _ _
  | lsr => exact only cpu _ _
  | asr => exact only cpu _ _
  | ror => exact refl cpu

theorem executeThumbAlu (cpu : Arm7tdmi) (decoded : DecodedThumbAluInstruction) :
    Frame decoded.writes cpu (cpu.executeThumbAlu decoded) := by
  unfold Arm7tdmi.executeThumbAlu DecodedThumbAluInstruction.writes
  dsimp only
  cases decoded.opcode with
  | tst => exact of_registers rfl
  | cmp => exact of_registers rfl
  | cmn => exact of_registers rfl
  | _ => exact only cpu _ _

theorem executeThumbDataProcessing (cpu : Arm7tdmi) (decoded : DecodedThumbInstruction) :
    Frame decoded.writes cpu (cpu.executeThumbDataProcessing decoded) := by
  unfold Arm7tdmi.executeThumbDataProcessing DecodedThumbInstruction.writes
  dsimp only
  cases decoded.opcode with
  | cmp => exact of_registers rfl
  | _ => exact only cpu _ _

theorem executeThumbBranch (cpu : Arm7tdmi) (decoded : DecodedThumbBranchInstruction) :
    Frame (onlyRegister kPc) cpu (cpu.executeThumbBranch decoded).cpu := by
  unfold Arm7tdmi.executeThumbBranch
  exact ite (refl cpu) (only cpu _ _)

theorem executeThumbLongBranchLink (cpu : Arm7tdmi)
    (decoded : DecodedThumbLongBranchLinkInstruction) :
    Frame decoded.writes cpu (cpu.executeThumbLongBranchLink decoded) := by
  unfold Arm7tdmi.executeThumbLongBranchLink DecodedThumbLongBranchLinkInstruction.writes
  dsimp only
  split
  · exact (refl cpu).setRegister rfl _
  · exact ((refl cpu).setRegister rfl _).setRegister rfl _

theorem executeThumbHighRegister (cpu : Arm7tdmi) (decoded : DecodedThumbHighRegisterInstruction) :
    Frame decoded.writes cpu (cpu.executeThumbHighRegister decoded) := by
  unfold Arm7tdmi.executeThumbHighRegister DecodedThumbHighRegisterInstruction.writes
  dsimp only
  cases decoded.opcode with
  | add => exact only cpu _ _
  | mov => exact only cpu _ _
  | cmp => exact of_registers rfl
  | bx => exact only cpu _ _

/-- A Thumb instruction without memory. -/
theorem executeThumb (instruction : U16) (cpu : Arm7tdmi) :
    Frame (thumbWrites instruction) cpu (Arm7tdmi.executeThumb instruction cpu).cpu := by
  unfold thumbWrites Arm7tdmi.executeThumb
  -- the classes in the order of the source
  refine branch (enterException cpu _) (branch (executeThumbHighRegister cpu _) ?_)
  refine branch (executeThumbBranch cpu _) (branch (executeThumbBranch cpu _) ?_)
  refine branch (executeThumbLongBranchLink cpu _) (branch (executeThumbShift cpu _) ?_)
  refine branch (executeThumbAlu cpu _) ?_
  refine branch (only cpu _ _) ?_
  refine branch (only cpu _ _) ?_
  exact branch (executeThumbDataProcessing cpu _)
    (branch (executeThumbDataProcessing cpu _) (refl cpu))

/-- A Thumb instruction with memory. -/
theorem executeThumbMemory {σ : Type} {callbacks : MemoryBusIoCallbacks σ} (instruction : U16)
    (hmode : cpu.mode ∈ CpuMode.named) (bus : BusState σ) :
    Frame (thumbMemoryWrites instruction) cpu
      (cpu.executeThumbMemory callbacks instruction bus).cpu := by
  unfold thumbMemoryWrites Arm7tdmi.executeThumbMemory
  split
  · exact executeThumbBlockTransfer cpu _ bus
  split
  · exact executeThumbStackTransfer _ hmode bus
  split
  · exact executeThumbMemoryTransfer cpu _ bus
  · exact executeThumb instruction cpu

/-! ## Steps -/

theorem finishStep (h : Frame writes cpu after) (instruction : U32) (dataAddress : Option U32)
    (waitcnt : Option WaitStateControl) (elapsedOverride : Option ArmElapsedCycleEstimate)
    (status : ExecuteStatus) :
    Frame writes cpu
      (after.finishStep instruction dataAddress waitcnt elapsedOverride status).2 := by
  cases status with
  | skippedCondition => exact h
  | unsupported => exact h
  | executed =>
      unfold Arm7tdmi.finishStep
      dsimp only
      split
      · exact h
      · exact h

theorem finishThumbStep (h : Frame writes cpu after) (estimate : Option ArmElapsedCycleEstimate)
    (status : ExecuteStatus) : Frame writes cpu (after.finishThumbStep estimate status).2 := by
  cases status with
  | skippedCondition => exact h
  | unsupported => exact h
  | executed => exact h

end Frame

end Arm7tdmi

/-! ## Programs -/

namespace ProgramStep

/-- The registers that the instruction of a step names. -/
def writes : ProgramStep → Fin 16 → Bool
  | arm instruction => armWrites instruction
  | thumb instruction => thumbWrites instruction
  | armMemory instruction .. => armMemoryWrites instruction
  | thumbMemory instruction .. => thumbMemoryWrites instruction

/-- A step writes no register that its instruction does not name. -/
theorem execute_frame (step : ProgramStep) {cpu : Arm7tdmi} (hmode : cpu.mode ∈ CpuMode.named) :
    Arm7tdmi.Frame step.writes cpu (step.execute cpu) := by
  cases step with
  | arm instruction => exact (Arm7tdmi.Frame.executeArm instruction hmode).finishStep _ _ _ _ _
  | thumb instruction => exact (Arm7tdmi.Frame.executeThumb instruction cpu).finishThumbStep _ _
  | armMemory instruction waitcnt elapsedOverride system =>
      show Arm7tdmi.Frame _ cpu
        (Arm7tdmi.stepArmMemory ioCallbacks instruction waitcnt elapsedOverride cpu system).cpu
      unfold Arm7tdmi.stepArmMemory
      dsimp only
      split
      · exact .refl cpu
      · exact (Arm7tdmi.Frame.executeArmMemory instruction hmode system).finishStep _ _ _ _ _
  | thumbMemory instruction waitcnt prefetchInternalLoadOverlap elapsedOverride system =>
      exact (Arm7tdmi.Frame.executeThumbMemory instruction hmode system).finishThumbStep _ _

/-- A step ends in a mode that the enumeration names. -/
theorem execute_named (step : ProgramStep) {cpu : Arm7tdmi} (hmode : cpu.mode ∈ CpuMode.named) :
    (step.execute cpu).mode ∈ CpuMode.named := by
  refine named_cpuEffect.star (?_ : CpuEffects AnyException cpu (step.execute cpu)) hmode
  cases step with
  | arm instruction => exact CpuEffects.stepArm instruction cpu fun _ => trivial
  | thumb instruction => exact CpuEffects.stepThumb instruction cpu fun _ => trivial
  | armMemory instruction waitcnt elapsedOverride system =>
      exact (Arm7tdmi.stepArmMemory_effects instruction waitcnt elapsedOverride cpu system
        fun _ => trivial).1
  | thumbMemory instruction waitcnt prefetchInternalLoadOverlap elapsedOverride system =>
      exact (Arm7tdmi.stepThumbMemory_effects instruction waitcnt prefetchInternalLoadOverlap
        elapsedOverride cpu system fun _ => trivial).1

/-- The registers that the instructions of a program name. -/
def programWrites (program : List ProgramStep) (index : Fin 16) : Bool :=
  program.any fun step => step.writes index

/-- A program writes no register that its instructions do not name, and it ends in a mode that the
enumeration names. -/
theorem run_written (program : List ProgramStep) {cpu : Arm7tdmi}
    (hmode : cpu.mode ∈ CpuMode.named) :
    Arm7tdmi.Frame (programWrites program) cpu (run program cpu) ∧
      (run program cpu).mode ∈ CpuMode.named := by
  induction program generalizing cpu with
  | nil => exact ⟨.refl cpu, hmode⟩
  | cons step program ih =>
      obtain ⟨hrest, hended⟩ := ih (step.execute_named hmode)
      have hfirst : Arm7tdmi.Frame (programWrites (step :: program)) cpu (step.execute cpu) := by
        refine (step.execute_frame hmode).mono fun index hindex => ?_
        simp [programWrites, hindex]
      have hlater : Arm7tdmi.Frame (programWrites (step :: program)) (step.execute cpu)
          (run program (step.execute cpu)) := by
        refine hrest.mono fun index hindex => ?_
        have hany : program.any (fun later => later.writes index) = true := hindex
        simp [programWrites, hany]
      exact ⟨hfirst.trans hlater, hended⟩

theorem programWrites_false {program : List ProgramStep} {index : Fin 16}
    (h : ∀ step ∈ program, step.writes index = false) :
    programWrites program index = false := by
  unfold programWrites
  rw [List.any_eq_false]
  intro step hstep
  rw [h step hstep]
  exact Bool.false_ne_true

/-- A register that no instruction of a program names keeps its value, whatever the program does
with memory, with its flags and with the mode. -/
theorem run_frame (program : List ProgramStep) {cpu : Arm7tdmi} (hmode : cpu.mode ∈ CpuMode.named)
    {index : Fin 16} (hwrites : ∀ step ∈ program, step.writes index = false) :
    (run program cpu).registers index = cpu.registers index :=
  (run_written program hmode).1 index (programWrites_false hwrites)

/-- `MOV r0, #1`, `ADD r1, r0, r0` and `MSR CPSR_c, r0` after a reset leave `r4` alone. -/
theorem run_frame_reset :
    (run [.arm 0xE3A00001#32, .thumb 0x1801#16, .arm 0xE121F000#32] Arm7tdmi.reset).registers 4 =
      Arm7tdmi.reset.registers 4 :=
  @run_frame [.arm 0xE3A00001#32, .thumb 0x1801#16, .arm 0xE121F000#32] Arm7tdmi.reset
    (by decide) 4 (by simp only [List.forall_mem_cons]; decide)

end ProgramStep

end Gba.Core
