import Gba.Core.BusEffects
import Gba.Core.CpuStep
import Gba.Core.RegisterFile

/-!
# What an instruction does to the processor

An instruction changes registers and flags; what is banked away, the mode and the interrupt masks
change only by a write to the status registers, which user mode cannot do, and by the entry to an
exception. Every instruction of both sets is a sequence of such effects beside its stores.
-/

namespace Gba.Core

namespace Arm7tdmi

/-- The part of the processor that is out of reach of a program in user mode: the mode and the
interrupt masks, and what is banked away. -/
structure Control where
  mode : CpuMode
  irqDisabled : Bool
  fiqDisabled : Bool
  sharedR8R12 : Fin 5 → U32
  fiqR8R12 : Fin 5 → U32
  sp : RegisterBank → U32
  lr : RegisterBank → U32
  savedPsr : ExceptionBank → U32

/-- The control part; the banks of user mode are not part of it. -/
def control (cpu : Arm7tdmi) : Control where
  mode := cpu.mode
  irqDisabled := cpu.irqDisabled
  fiqDisabled := cpu.fiqDisabled
  sharedR8R12 := cpu.sharedR8R12
  fiqR8R12 := cpu.fiqR8R12
  sp := Function.update cpu.sp .user 0
  lr := Function.update cpu.lr .user 0
  savedPsr := cpu.savedPsr

end Arm7tdmi

/-- One thing that an instruction does to the processor; the exceptions that it may enter are of the
given kinds. -/
inductive CpuEffect (kinds : ExceptionKind → Prop) (cpu : Arm7tdmi) : Arm7tdmi → Prop where
  | program {after : Arm7tdmi} (h : after.control = cpu.control) : CpuEffect kinds cpu after
  | status {value : U32} {after : Arm7tdmi} (privileged : cpu.mode ≠ .user)
      (h : cpu.setCpsr value = some after) : CpuEffect kinds cpu after
  | savedStatus {value : U32} {after : Arm7tdmi} (h : cpu.setSpsr value = some after) :
      CpuEffect kinds cpu after
  | exception {kind : ExceptionKind} (h : kinds kind) :
      CpuEffect kinds cpu (cpu.enterException kind)

/-- A sequence of effects. -/
abbrev CpuEffects (kinds : ExceptionKind → Prop) : Arm7tdmi → Arm7tdmi → Prop :=
  Relation.ReflTransGen (CpuEffect kinds)

/-- Every exception may be entered. -/
def AnyException (_ : ExceptionKind) : Prop := True

namespace Arm7tdmi

variable (cpu : Arm7tdmi)

/-! ## Registers and flags -/

@[simp] theorem setRegister_control (index : Fin 16) (value : U32) :
    (cpu.setRegister index value).control = cpu.control := rfl

@[simp] theorem setNz_control (result : U32) : (cpu.setNz result).control = cpu.control := rfl

@[simp] theorem setAddFlags_control (left right result : U32) :
    (cpu.setAddFlags left right result).control = cpu.control := rfl

@[simp] theorem setAdcFlags_control (left right : U32) (carryIn : Bool) (result : U32) :
    (cpu.setAdcFlags left right carryIn result).control = cpu.control := rfl

@[simp] theorem setSubFlags_control (left right result : U32) :
    (cpu.setSubFlags left right result).control = cpu.control := rfl

@[simp] theorem setSbcFlags_control (left right : U32) (carryIn : Bool) (result : U32) :
    (cpu.setSbcFlags left right carryIn result).control = cpu.control := rfl

@[simp] theorem setLogicalFlags_control (result : U32) (decoded : DecodedArmInstruction) :
    (cpu.setLogicalFlags result decoded).control = cpu.control := by
  unfold setLogicalFlags
  dsimp only
  split <;> rfl

theorem executeMultiply_control (decoded : DecodedMultiplyInstruction) :
    (cpu.executeMultiply decoded).control = cpu.control := by
  unfold executeMultiply
  dsimp only
  split <;> rfl

theorem executeMultiplyLong_control (decoded : DecodedMultiplyLongInstruction) :
    (cpu.executeMultiplyLong decoded).control = cpu.control := by
  unfold executeMultiplyLong
  dsimp only
  split <;> rfl

theorem executeBranch_control (decoded : DecodedBranchInstruction) :
    (cpu.executeBranch decoded).control = cpu.control := by
  unfold executeBranch
  dsimp only
  split <;> rfl

theorem branchExchange_control (target : U32) :
    (cpu.branchExchange target).control = cpu.control := rfl

theorem writeUserBankValue_control (index : Fin 16) (value : U32) :
    (cpu.writeUserBankValue index value).control = cpu.control := by
  unfold writeUserBankValue
  split
  · unfold control
    dsimp only
    rw [Function.update_idem]
  split
  · unfold control
    dsimp only
    rw [Function.update_idem]
  · rfl

/-- A list of registers that is written. -/
theorem foldl_control {write : Arm7tdmi → Fin 16 → Arm7tdmi}
    (h : ∀ cpu index, (write cpu index).control = cpu.control) (registers : List (Fin 16)) :
    (registers.foldl write cpu).control = cpu.control := by
  induction registers generalizing cpu with
  | nil => rfl
  | cons index registers ih => exact (ih _).trans (h cpu index)

theorem writeLoaded_control (registerList : U16) (forceUserBank : Bool) (loaded : Fin 16 → U32) :
    (cpu.writeLoaded registerList forceUserBank loaded).control = cpu.control := by
  refine cpu.foldl_control (fun cpu index => ?_) _
  split
  · exact cpu.writeUserBankValue_control index _
  · rfl

theorem writeRegisters_control (registers : List (Fin 16)) (loaded : Fin 16 → U32) :
    (cpu.writeRegisters registers loaded).control = cpu.control := by
  unfold writeRegisters
  exact cpu.foldl_control (fun cpu index => cpu.setRegister_control index (loaded index)) registers

theorem writeBack_control (cpu : Arm7tdmi) (rn : Fin 16) (writeBack : Option U32) :
    ((writeBack.map (cpu.setRegister rn)).getD cpu).control = cpu.control := by
  cases writeBack with
  | none => rfl
  | some value => rfl

/-! ## Thumb -/

theorem executeThumbShift_control (decoded : DecodedThumbShiftInstruction) :
    (cpu.executeThumbShift decoded).cpu.control = cpu.control := by
  unfold executeThumbShift
  cases decoded.type with
  | lsl =>
      dsimp only
      split <;> rfl
  | lsr => rfl
  | asr => rfl
  | ror => rfl

theorem executeThumbAlu_control (decoded : DecodedThumbAluInstruction) :
    (cpu.executeThumbAlu decoded).control = cpu.control := by
  unfold executeThumbAlu
  cases decoded.opcode <;> rfl

theorem executeThumbDataProcessing_control (decoded : DecodedThumbInstruction) :
    (cpu.executeThumbDataProcessing decoded).control = cpu.control := by
  unfold executeThumbDataProcessing
  cases decoded.opcode <;> rfl

theorem executeThumbBranch_control (decoded : DecodedThumbBranchInstruction) :
    (cpu.executeThumbBranch decoded).cpu.control = cpu.control := by
  unfold executeThumbBranch
  split <;> rfl

theorem executeThumbLongBranchLink_control (decoded : DecodedThumbLongBranchLinkInstruction) :
    (cpu.executeThumbLongBranchLink decoded).control = cpu.control := by
  unfold executeThumbLongBranchLink
  split <;> rfl

theorem executeThumbHighRegister_control (decoded : DecodedThumbHighRegisterInstruction) :
    (cpu.executeThumbHighRegister decoded).control = cpu.control := by
  unfold executeThumbHighRegister
  cases decoded.opcode <;> rfl

/-! ## The status registers -/

/-- A mode with a saved status is not user mode. -/
theorem privileged_of_bank {cpu : Arm7tdmi} {bank : ExceptionBank}
    (h : cpu.mode.spsrBank = some bank) : cpu.mode ≠ .user := by
  intro huser
  rw [huser] at h
  exact Option.some_ne_none bank h.symm

/-- A status word that agrees with the current status but for the flags and the Thumb bit leaves the
control part alone. -/
theorem setCpsr_control {cpu after : Arm7tdmi} {value : U32} (hmode : cpu.mode ∈ CpuMode.named)
    (hsame : value &&& 0xDF#32 = cpu.cpsr &&& 0xDF#32) (h : cpu.setCpsr value = some after) :
    after.control = cpu.control := by
  obtain ⟨hdecode, hstatus⟩ := ProgramStatus.ofWord_toWord cpu.status hmode
  have hmasked : ∀ mask : U32, 0xDF#32 &&& mask = mask → value &&& mask = cpu.cpsr &&& mask := by
    intro mask hmask
    rw [← hmask, ← BitVec.and_assoc, hsame, BitVec.and_assoc]
  have hirq : anySet value kIrqDisableFlag = cpu.irqDisabled := by
    rw [anySet, hmasked _ rfl]
    exact congrArg ProgramStatus.irqDisabled hstatus
  have hfiq : anySet value kFiqDisableFlag = cpu.fiqDisabled := by
    rw [anySet, hmasked _ rfl]
    exact congrArg ProgramStatus.fiqDisabled hstatus
  have hsameMode : decodeCpuMode value = some cpu.mode := by
    unfold decodeCpuMode
    rw [hmasked _ rfl]
    exact hdecode
  rw [setCpsr, hsameMode] at h
  obtain rfl := Option.some.inj h
  dsimp only
  rw [switchMode_self _ rfl, hirq, hfiq]
  rfl

end Arm7tdmi

namespace CpuEffects

variable {kinds : ExceptionKind → Prop} {cpu after middle : Arm7tdmi}

theorem one (h : CpuEffect kinds cpu after) : CpuEffects kinds cpu after := .single h

theorem program (h : after.control = cpu.control) : CpuEffects kinds cpu after := .single (.program h)

/-- Effects after which registers and flags change. -/
theorem then_program (h : CpuEffects kinds cpu middle) (hcontrol : after.control = middle.control) :
    CpuEffects kinds cpu after := h.tail (.program hcontrol)

/-- A write to the status: user mode keeps the bits that it may not change. -/
theorem setCpsr {value : U32} (h : cpu.setCpsr value = some after)
    (huser : cpu.mode = .user → value &&& 0xDF#32 = cpu.cpsr &&& 0xDF#32) :
    CpuEffects kinds cpu after := by
  by_cases hmode : cpu.mode = .user
  · have hnamed : cpu.mode ∈ CpuMode.named := by
      rw [hmode]
      decide
    exact program (Arm7tdmi.setCpsr_control hnamed (huser hmode) h)
  · exact .one (.status hmode h)

/-- The saved status restored. -/
theorem restoreStatus (h : cpu.spsr.bind cpu.setCpsr = some after) : CpuEffects kinds cpu after := by
  obtain ⟨value, hspsr, hset⟩ := Option.bind_eq_some_iff.mp h
  obtain ⟨bank, hbank, -⟩ := Option.map_eq_some_iff.mp hspsr
  exact .one (.status (Arm7tdmi.privileged_of_bank hbank) hset)

theorem ite {c : Prop} [Decidable c] {execution other : Execution}
    (h : CpuEffects kinds cpu execution.cpu) (h' : CpuEffects kinds cpu other.cpu) :
    CpuEffects kinds cpu (if c then execution else other).cpu := by
  split
  · exact h
  · exact h'

theorem onCondition {execution : Execution} (h : CpuEffects kinds cpu execution.cpu)
    (condition : Option ArmCondition) :
    CpuEffects kinds cpu (cpu.onCondition condition execution).cpu := by
  unfold Arm7tdmi.onCondition
  split
  · exact h
  · exact .refl

/-! ## Instructions without memory -/

theorem writeResult (cpu : Arm7tdmi) (decoded : DecodedArmInstruction) (result : U32) :
    CpuEffects kinds cpu (cpu.writeResult decoded result) := by
  unfold Arm7tdmi.writeResult
  split
  · cases hrestore : cpu.spsr.bind cpu.setCpsr with
    | none => exact program rfl
    | some restored => exact (restoreStatus hrestore).then_program rfl
  · exact program rfl

theorem writeFlagged (cpu : Arm7tdmi) (decoded : DecodedArmInstruction) (result : U32)
    {setFlags : Arm7tdmi → Arm7tdmi} (h : ∀ cpu, (setFlags cpu).control = cpu.control) :
    CpuEffects kinds cpu (cpu.writeFlagged decoded result setFlags) := by
  unfold Arm7tdmi.writeFlagged
  dsimp only
  split
  · exact (writeResult cpu decoded result).then_program (h _)
  · exact writeResult cpu decoded result

theorem executeDataProcessing (cpu : Arm7tdmi) (decoded : DecodedArmInstruction)
    (pcOffset : U32) : CpuEffects kinds cpu (cpu.executeDataProcessing decoded pcOffset) := by
  have hlogical : ∀ result, CpuEffects kinds cpu (cpu.writeLogical decoded result) := fun result =>
    writeFlagged cpu decoded result fun written => written.setLogicalFlags_control result decoded
  unfold Arm7tdmi.executeDataProcessing
  dsimp only
  cases decoded.opcode with
  | and => exact hlogical _
  | eor => exact hlogical _
  | mov => exact hlogical _
  | orr => exact hlogical _
  | bic => exact hlogical _
  | mvn => exact hlogical _
  | cmp => exact program rfl
  | cmn => exact program rfl
  | tst => exact program (cpu.setLogicalFlags_control _ decoded)
  | teq => exact program (cpu.setLogicalFlags_control _ decoded)
  | _ => exact writeFlagged cpu decoded _ fun _ => rfl

theorem orUnsupported {next : Option Arm7tdmi}
    (h : ∀ after, next = some after → CpuEffects kinds cpu after) :
    CpuEffects kinds cpu (cpu.orUnsupported next).cpu := by
  cases next with
  | none => exact .refl
  | some after => exact h after rfl

/-- Without the control byte a field mask selects no bit of it. -/
theorem masked_control (cpsr operand mask : U32) (hmask : mask &&& 0xDF#32 = 0) :
    (cpsr &&& ~~~mask ||| operand &&& mask) &&& 0xDF#32 = cpsr &&& 0xDF#32 := by
  refine BitVec.eq_of_getLsbD_eq fun i hi => ?_
  have hbit : (mask.getLsbD i && (0xDF#32).getLsbD i) = false := by
    rw [← BitVec.getLsbD_and, hmask]
    exact BitVec.getLsbD_zero
  simp only [BitVec.getLsbD_and, BitVec.getLsbD_or, BitVec.getLsbD_not]
  rcases Bool.and_eq_false_iff.mp hbit with hbit | hbit
  · rw [hbit, decide_eq_true hi]
    simp
  · rw [hbit]
    simp

theorem executePsrTransfer (cpu : Arm7tdmi) (decoded : DecodedPsrTransferInstruction) :
    CpuEffects kinds cpu (cpu.executePsrTransfer decoded).cpu := by
  unfold Arm7tdmi.executePsrTransfer
  split
  · cases decoded.psr with
    | spsr =>
        refine orUnsupported fun after hafter => ?_
        obtain ⟨value, -, rfl⟩ := Option.map_eq_some_iff.mp hafter
        exact program rfl
    | cpsr => exact program rfl
  dsimp only
  split
  · exact .refl
  cases decoded.psr with
  | spsr =>
      refine orUnsupported fun after hafter => ?_
      obtain ⟨value, -, hset⟩ := Option.bind_eq_some_iff.mp hafter
      exact .one (.savedStatus hset)
  | cpsr =>
      refine orUnsupported fun after hafter => setCpsr hafter fun huser => ?_
      rw [if_pos huser]
      refine masked_control _ _ _ ?_
      rw [BitVec.and_assoc]
      exact BitVec.and_zero

/-- An instruction without memory: a software interrupt is the only one that enters an exception. -/
theorem executeArm (instruction : U32) (cpu : Arm7tdmi)
    (hswi : canDecodeSoftwareInterrupt instruction = true → kinds .softwareInterrupt) :
    CpuEffects kinds cpu (Arm7tdmi.executeArm instruction cpu).cpu := by
  have hsame : CpuEffects kinds cpu (Execution.mk .executed cpu).cpu := .refl
  unfold Arm7tdmi.executeArm
  dsimp only
  -- the classes in the order of the source
  refine ite .refl ?_
  split
  · next hdecoded => exact onCondition (.one (.exception (hswi hdecoded))) _
  refine ite (hsame.onCondition _) (ite (onCondition (executePsrTransfer _ _) _) ?_)
  refine ite (onCondition (program (cpu.executeBranch_control _)) _) ?_
  refine ite (onCondition (program (cpu.branchExchange_control _)) _) ?_
  refine ite (onCondition (program (cpu.executeMultiplyLong_control _)) _) ?_
  refine ite (onCondition (program (cpu.executeMultiply_control _)) _) ?_
  refine ite (onCondition (executeDataProcessing _ _ _) _) (ite ?_ .refl)
  exact ite (onCondition (executeDataProcessing _ _ _) _)
    (onCondition (executeDataProcessing _ _ _) _)

theorem executeThumb (instruction : U16) (cpu : Arm7tdmi)
    (hswi : canDecodeThumbSoftwareInterrupt instruction = true → kinds .softwareInterrupt) :
    CpuEffects kinds cpu (Arm7tdmi.executeThumb instruction cpu).cpu := by
  unfold Arm7tdmi.executeThumb
  split
  · next hdecoded => exact .one (.exception (hswi hdecoded))
  refine program ?_
  split
  · exact cpu.executeThumbHighRegister_control _
  split
  · exact cpu.executeThumbBranch_control _
  split
  · exact cpu.executeThumbBranch_control _
  split
  · exact cpu.executeThumbLongBranchLink_control _
  split
  · exact cpu.executeThumbShift_control _
  split
  · exact cpu.executeThumbAlu_control _
  split
  · rfl
  split
  · rfl
  split
  · exact cpu.executeThumbDataProcessing_control _
  split
  · exact cpu.executeThumbDataProcessing_control _
  · rfl

/-! ## Cycles -/

theorem finishStep (cpu : Arm7tdmi) (instruction : U32) (dataAddress : Option U32)
    (waitcnt : Option WaitStateControl) (elapsedOverride : Option ArmElapsedCycleEstimate)
    (status : ExecuteStatus) :
    (cpu.finishStep instruction dataAddress waitcnt elapsedOverride status).2.control =
      cpu.control := by
  cases status with
  | skippedCondition => rfl
  | unsupported => rfl
  | executed =>
      unfold Arm7tdmi.finishStep
      dsimp only
      split <;> rfl

theorem finishThumbStep (cpu : Arm7tdmi) (estimate : Option ArmElapsedCycleEstimate)
    (status : ExecuteStatus) :
    (cpu.finishThumbStep estimate status).2.control = cpu.control := by
  cases status <;> rfl

/-- `step_arm` without memory. -/
theorem stepArm (instruction : U32) (cpu : Arm7tdmi)
    (hswi : canDecodeSoftwareInterrupt instruction = true → kinds .softwareInterrupt) :
    CpuEffects kinds cpu (cpu.stepArm instruction).2 :=
  (executeArm instruction cpu hswi).then_program (finishStep _ _ _ _ _ _)

/-- `step_thumb` without memory. -/
theorem stepThumb (instruction : U16) (cpu : Arm7tdmi)
    (hswi : canDecodeThumbSoftwareInterrupt instruction = true → kinds .softwareInterrupt) :
    CpuEffects kinds cpu (cpu.stepThumb instruction).2 :=
  (executeThumb instruction cpu hswi).then_program (finishThumbStep _ _ _)

end CpuEffects

/-! ## Transfers -/

/-- The processor and the system after an execution with memory. -/
def MemoryExecution.Follows (execution : MemoryExecution Devices) (kinds : ExceptionKind → Prop)
    (cpu : Arm7tdmi) (system : System) : Prop :=
  CpuEffects kinds cpu execution.cpu ∧ BusEffects system execution.bus

namespace MemoryExecution.Follows

variable {kinds : ExceptionKind → Prop} {cpu : Arm7tdmi} {system : System}

/-- An execution that leaves memory alone. -/
theorem withBus {execution : Execution} (h : CpuEffects kinds cpu execution.cpu) (system : System) :
    (execution.withBus system).Follows kinds cpu system := ⟨h, .refl⟩

/-- An execution that is refused or skipped. -/
theorem kept (status : ExecuteStatus) (cpu : Arm7tdmi) (system : System) :
    Follows ⟨status, cpu, system⟩ kinds cpu system := ⟨.refl, .refl⟩

theorem ite {c : Prop} [Decidable c] {execution other : MemoryExecution Devices}
    (h : execution.Follows kinds cpu system) (h' : other.Follows kinds cpu system) :
    (if c then execution else other).Follows kinds cpu system := by
  split
  · exact h
  · exact h'

theorem finishLoad (cpu : Arm7tdmi) (system : System) (rd rn : Fin 16) (writeBack value : Option U32) :
    (cpu.finishLoad system rd rn writeBack value).Follows kinds cpu system := by
  cases value with
  | none => exact kept _ _ _
  | some value => exact ⟨.program (Arm7tdmi.writeBack_control _ _ _), .refl⟩

theorem finishStore (rn : Fin 16) (writeBack : Option U32) {stored : Bool × System}
    (h : BusEffects system stored.2) : (cpu.finishStore rn writeBack stored).Follows kinds cpu system := by
  unfold Arm7tdmi.finishStore
  split
  · exact ⟨.program (Arm7tdmi.writeBack_control _ _ _), h⟩
  · exact ⟨.refl, h⟩

theorem storeWords (value : Fin 16 → U32) (registers : List (Fin 16)) (address : U32)
    (system : System) :
    BusEffects system (Arm7tdmi.storeWords ioCallbacks value registers address system).2 := by
  induction registers generalizing address system with
  | nil => exact .refl
  | cons index registers ih =>
      exact .andThen (.one (.store32 address (value index))) fun middle => ih _ middle

theorem executeSwap (cpu : Arm7tdmi) (decoded : DecodedSwapInstruction) (system : System) :
    (cpu.executeSwap ioCallbacks decoded system).Follows kinds cpu system := by
  have hswap : ∀ (oldValue : U32) (stored : Bool × System), BusEffects system stored.2 →
      Follows (if stored.1 then ⟨.executed, cpu.setRegister decoded.rd oldValue, stored.2⟩
        else ⟨.unsupported, cpu, stored.2⟩) kinds cpu system := by
    intro oldValue stored hstored
    split
    · exact ⟨.program rfl, hstored⟩
    · exact ⟨.refl, hstored⟩
  unfold Arm7tdmi.executeSwap
  split
  · exact kept _ _ _
  dsimp only
  split
  · split
    · exact kept _ _ _
    · exact hswap _ _ (.one (.store8 _ _))
  · split
    · exact kept _ _ _
    · exact hswap _ _ (.one (.store32 _ _))

/-- The Thumb bit is no part of what user mode may not change. -/
theorem thumb_masked (cpsr : U32) (thumb : Bool) :
    (if thumb then cpsr ||| kThumbStateFlag else cpsr &&& ~~~kThumbStateFlag) &&& 0xDF#32 =
      cpsr &&& 0xDF#32 := by
  cases thumb with
  | false =>
      show cpsr &&& ~~~kThumbStateFlag &&& 0xDF#32 = _
      rw [BitVec.and_assoc]
      rfl
  | true =>
      show (cpsr ||| kThumbStateFlag) &&& 0xDF#32 = _
      rw [BitVec.and_or_distrib_right]
      exact BitVec.or_zero

theorem loadPc (cpu : Arm7tdmi) (loadedPc : U32) : CpuEffects kinds cpu (cpu.loadPc loadedPc).cpu := by
  have hjumped : CpuEffects kinds cpu
      (cpu.setRegister Arm7tdmi.kPc (loadedPc &&& ~~~0x1#32)) := .program rfl
  refine hjumped.trans (CpuEffects.orUnsupported fun after hafter => ?_)
  exact CpuEffects.setCpsr hafter fun _ => thumb_masked _ _

theorem executeBlockLoad (cpu : Arm7tdmi) (registerList : U16) (forceUserBank : Bool)
    (loaded : Fin 16 → U32) :
    CpuEffects kinds cpu (cpu.executeBlockLoad registerList forceUserBank loaded).cpu := by
  unfold Arm7tdmi.executeBlockLoad
  split
  · exact .program (cpu.writeLoaded_control _ _ _)
  split
  · cases hrestore : cpu.spsr.bind cpu.setCpsr with
    | none => exact .refl
    | some returned =>
        exact (CpuEffects.restoreStatus hrestore).then_program
          (returned.writeLoaded_control registerList true loaded)
  · have hloaded : CpuEffects kinds cpu (cpu.writeLoaded registerList false loaded) :=
      .program (cpu.writeLoaded_control _ _ _)
    exact hloaded.trans (loadPc _ _)

theorem executeBlockTransfer (cpu : Arm7tdmi) (decoded : DecodedBlockDataTransferInstruction)
    (forceUserBank : Bool) (system : System) :
    (cpu.executeBlockTransfer ioCallbacks decoded forceUserBank system).Follows kinds cpu system := by
  unfold Arm7tdmi.executeBlockTransfer
  dsimp only
  split
  · exact kept _ _ _
  split
  · exact kept _ _ _
  split
  · exact kept _ _ _
  split
  · split
    · exact kept _ _ _
    · next loaded _ =>
      have hload := @executeBlockLoad kinds cpu decoded.registerList forceUserBank
        loaded
      split
      · exact ⟨hload.then_program (Arm7tdmi.writeBack_control _ _ _), .refl⟩
      · exact withBus hload system
  · exact finishStore _ _ (storeWords _ _ _ _)

theorem executeHalfwordTransfer (cpu : Arm7tdmi) (decoded : DecodedHalfwordDataTransferInstruction)
    (system : System) : (cpu.executeHalfwordTransfer ioCallbacks decoded system).Follows kinds cpu system := by
  unfold Arm7tdmi.executeHalfwordTransfer
  dsimp only
  split
  · exact kept _ _ _
  split
  · exact kept _ _ _
  split
  · exact finishLoad _ _ _ _ _ _
  split
  · exact kept _ _ _
  · exact finishStore _ _ (.one (.store16 _ _))

theorem executeSingleTransfer (cpu : Arm7tdmi) (decoded : DecodedSingleDataTransferInstruction)
    (system : System) : (cpu.executeSingleTransfer ioCallbacks decoded system).Follows kinds cpu system := by
  unfold Arm7tdmi.executeSingleTransfer
  dsimp only
  split
  · exact kept _ _ _
  split
  · exact kept _ _ _
  split
  · exact finishLoad _ _ _ _ _ _
  split
  · exact finishStore _ _ (.one (.store8 _ _))
  · exact finishStore _ _ (.one (.store32 _ _))

/-- `execute_arm` with memory. -/
theorem executeArmMemory (instruction : U32) (cpu : Arm7tdmi) (system : System)
    (hswi : canDecodeSoftwareInterrupt instruction = true → kinds .softwareInterrupt) :
    (cpu.executeArmMemory ioCallbacks instruction system).Follows kinds cpu system := by
  unfold Arm7tdmi.executeArmMemory
  dsimp only
  split
  · exact kept _ _ _
  split
  · next hdecoded => exact withBus (.onCondition (.one (.exception (hswi hdecoded))) _) system
  split
  · have hsame : CpuEffects kinds cpu (Execution.mk .executed cpu).cpu := .refl
    exact withBus (hsame.onCondition _) system
  split
  · exact executeSwap _ _ _
  split
  · split
    · exact kept _ _ _
    · exact executeBlockTransfer _ _ _ _
  split
  · split
    · exact kept _ _ _
    · exact executeHalfwordTransfer _ _ _
  split
  · split
    · exact kept _ _ _
    · exact executeSingleTransfer _ _ _
  · exact withBus (.executeArm instruction cpu hswi) system

theorem executeThumbMemoryTransfer (cpu : Arm7tdmi)
    (decoded : DecodedThumbMemoryTransferInstruction) (system : System) :
    (cpu.executeThumbMemoryTransfer ioCallbacks decoded system).Follows kinds cpu system := by
  unfold Arm7tdmi.executeThumbMemoryTransfer
  dsimp only
  split
  · exact finishLoad _ _ _ _ _ _
  · split
    · exact finishStore _ _ (.one (.store32 _ _))
    · exact finishStore _ _ (.one (.store8 _ _))
    · exact finishStore _ _ (.one (.store16 _ _))
    · exact kept _ _ _
    · exact kept _ _ _

theorem executeThumbBlockTransfer (cpu : Arm7tdmi)
    (decoded : DecodedThumbBlockTransferInstruction) (system : System) :
    (cpu.executeThumbBlockTransfer ioCallbacks decoded system).Follows kinds cpu system := by
  unfold Arm7tdmi.executeThumbBlockTransfer
  dsimp only
  split
  · exact kept _ _ _
  split
  · split
    · exact kept _ _ _
    · exact ⟨.program (cpu.writeRegisters_control _ _), .refl⟩
  · exact finishStore _ _ (storeWords _ _ _ _)

theorem finishPop (cpu : Arm7tdmi) (poppedPc : Option U32) (newSp : U32) :
    CpuEffects kinds cpu (cpu.finishPop poppedPc newSp).cpu := by
  cases poppedPc with
  | none => exact .program rfl
  | some loadedPc =>
      unfold Arm7tdmi.finishPop
      dsimp only
      split
      · exact (loadPc cpu loadedPc).then_program rfl
      · exact loadPc cpu loadedPc

theorem executeThumbStackTransfer (cpu : Arm7tdmi) (decoded : DecodedThumbStackInstruction)
    (system : System) :
    (cpu.executeThumbStackTransfer ioCallbacks decoded system).Follows kinds cpu system := by
  unfold Arm7tdmi.executeThumbStackTransfer
  refine ite (kept _ _ _) (ite (finishStore _ _ (storeWords _ _ _ _)) ?_)
  · split
    · exact kept _ _ _
    · next loaded _ =>
      have hwritten : CpuEffects kinds cpu (cpu.writeRegisters
          (listedRegisters (decoded.registerList.setWidth 16) 8) loaded) :=
        .program (cpu.writeRegisters_control _ _)
      exact withBus (hwritten.trans (finishPop _ _ _)) system

/-- `execute_thumb` with memory. -/
theorem executeThumbMemory (instruction : U16) (cpu : Arm7tdmi) (system : System)
    (hswi : canDecodeThumbSoftwareInterrupt instruction = true → kinds .softwareInterrupt) :
    (cpu.executeThumbMemory ioCallbacks instruction system).Follows kinds cpu system := by
  unfold Arm7tdmi.executeThumbMemory
  split
  · exact executeThumbBlockTransfer _ _ _
  split
  · exact executeThumbStackTransfer _ _ _
  split
  · exact executeThumbMemoryTransfer _ _ _
  · exact withBus (.executeThumb instruction cpu hswi) system

end MemoryExecution.Follows

namespace Arm7tdmi

/-- `step_arm` with memory. -/
theorem stepArmMemory_effects (instruction : U32) (waitcnt : Option WaitStateControl)
    (elapsedOverride : Option ArmElapsedCycleEstimate) (cpu : Arm7tdmi) (system : System)
    {kinds : ExceptionKind → Prop}
    (hswi : canDecodeSoftwareInterrupt instruction = true → kinds .softwareInterrupt) :
    let step := stepArmMemory ioCallbacks instruction waitcnt elapsedOverride cpu system
    CpuEffects kinds cpu step.cpu ∧ BusEffects system step.bus := by
  unfold stepArmMemory
  dsimp only
  split
  · exact ⟨.refl, .refl⟩
  · obtain ⟨hcpu, hbus⟩ := MemoryExecution.Follows.executeArmMemory instruction cpu system hswi
    exact ⟨hcpu.then_program (CpuEffects.finishStep _ _ _ _ _ _), hbus⟩

/-- `step_thumb` with memory. -/
theorem stepThumbMemory_effects (instruction : U16) (waitcnt : Option WaitStateControl)
    (prefetchInternalLoadOverlap : Bool) (elapsedOverride : Option ArmElapsedCycleEstimate)
    (cpu : Arm7tdmi) (system : System) {kinds : ExceptionKind → Prop}
    (hswi : canDecodeThumbSoftwareInterrupt instruction = true → kinds .softwareInterrupt) :
    let step := stepThumbMemory ioCallbacks instruction waitcnt prefetchInternalLoadOverlap
      elapsedOverride cpu system
    CpuEffects kinds cpu step.cpu ∧ BusEffects system step.bus := by
  obtain ⟨hcpu, hbus⟩ := MemoryExecution.Follows.executeThumbMemory instruction cpu system hswi
  exact ⟨hcpu.then_program (CpuEffects.finishThumbStep _ _ _), hbus⟩

end Arm7tdmi

end Gba.Core
