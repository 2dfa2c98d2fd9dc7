import Gba.Core.Arm7tdmi

/-!
# The architectural register file

What a programmer sees of the processor: every banked register has one value, wherever the
implementation keeps it. A mode switch changes nothing but the mode, and interrupt entry and the
return from it are assignments to named registers. `Arm7tdmi` refines this description.
-/

namespace Gba.Core

/-- The current program status register. -/
@[ext]
structure ProgramStatus where
  negative : Bool
  zero : Bool
  carry : Bool
  overflow : Bool
  thumbState : Bool
  fiqDisabled : Bool
  irqDisabled : Bool
  mode : CpuMode
  deriving DecidableEq, Repr

namespace ProgramStatus

/-- The status as a word. -/
def toWord (s : ProgramStatus) : U32 :=
  s.mode.value.setWidth 32 ||| (if s.negative then kNegativeFlag else 0) |||
    (if s.zero then kZeroFlag else 0) ||| (if s.carry then kCarryFlag else 0) |||
    (if s.overflow then kOverflowFlag else 0) ||| (if s.thumbState then kThumbStateFlag else 0) |||
    (if s.fiqDisabled then kFiqDisableFlag else 0) |||
    (if s.irqDisabled then kIrqDisableFlag else 0)

/-- The status that a word sets, in a given mode. -/
def ofWord (value : U32) (mode : CpuMode) : ProgramStatus where
  negative := anySet value kNegativeFlag
  zero := anySet value kZeroFlag
  carry := anySet value kCarryFlag
  overflow := anySet value kOverflowFlag
  thumbState := anySet value kThumbStateFlag
  fiqDisabled := anySet value kFiqDisableFlag
  irqDisabled := anySet value kIrqDisableFlag
  mode := mode

/-- Reading the word of a status back gives the status. -/
theorem ofWord_toWord (s : ProgramStatus) (h : s.mode ∈ CpuMode.named) :
    decodeCpuMode s.toWord = some s.mode ∧ ofWord s.toWord s.mode = s := by
  obtain ⟨n, z, c, v, t, f, i, mode⟩ := s
  -- eight flags of one bit each beside the seven mode bytes: no two overlap
  have key : ∀ mode ∈ CpuMode.named, ∀ n z c v t f i : Bool,
      decodeCpuMode (toWord ⟨n, z, c, v, t, f, i, mode⟩) = some mode ∧
        ofWord (toWord ⟨n, z, c, v, t, f, i, mode⟩) mode = ⟨n, z, c, v, t, f, i, mode⟩ := by
    decide +kernel
  exact key mode h n z c v t f i

end ProgramStatus

/-- Every register of the processor, each with its one value. -/
@[ext]
structure RegisterFile where
  /-- `r0` to `r7`. -/
  low : Fin 8 → U32
  /-- `r8` to `r12`: the registers of FIQ mode, and those that all other modes share. -/
  high : Bool → Fin 5 → U32
  /-- `r13`. -/
  sp : RegisterBank → U32
  /-- `r14`. -/
  lr : RegisterBank → U32
  savedPsr : ExceptionBank → U32
  pc : U32
  status : ProgramStatus

namespace RegisterFile

/-- Interrupt entry: the return address and the status go to the registers of IRQ mode. -/
def enterIrq (f : RegisterFile) : RegisterFile :=
  { f with
    lr := Function.update f.lr .irq (f.pc + if f.status.thumbState then 2 else 4)
    savedPsr := Function.update f.savedPsr .irq f.status.toWord
    pc := 0x00000018#32
    status := { f.status with thumbState := false, irqDisabled := true, mode := .irq } }

/-- `after` has the visible and banked registers, the address and the status of `before`. Only the
link register and the saved status of IRQ mode, which belong to the next interrupt, may differ. -/
structure Restores (before after : RegisterFile) : Prop where
  low : after.low = before.low
  high : after.high = before.high
  sp : after.sp = before.sp
  lr : ∀ bank, bank ≠ .irq → after.lr bank = before.lr bank
  savedPsr : ∀ bank, bank ≠ .irq → after.savedPsr bank = before.savedPsr bank
  pc : after.pc = before.pc
  status : after.status = before.status

end RegisterFile

namespace Arm7tdmi

/-- The status of the processor. -/
def status (cpu : Arm7tdmi) : ProgramStatus :=
  ⟨cpu.negative, cpu.zero, cpu.carry, cpu.overflow, cpu.thumbState, cpu.fiqDisabled,
    cpu.irqDisabled, cpu.mode⟩

/-- The register file of the processor: the registers of the current mode's banks are the visible
ones, those of the other banks are the stored ones. -/
def registerFile (cpu : Arm7tdmi) : RegisterFile where
  low := fun index => cpu.registers ⟨index.val, by omega⟩
  high := fun fiq =>
    if (cpu.mode = .fiq) = (fiq = true) then cpu.r8R12
    else if fiq then cpu.fiqR8R12 else cpu.sharedR8R12
  sp := fun bank =>
    if cpu.mode.registerBank = some bank then cpu.registers kStackPointer else cpu.sp bank
  lr := fun bank =>
    if cpu.mode.registerBank = some bank then cpu.registers kLinkRegister else cpu.lr bank
  savedPsr := cpu.savedPsr
  pc := cpu.registers kPc
  status := cpu.status

theorem toWord_status (cpu : Arm7tdmi) : cpu.status.toWord = cpu.cpsr := rfl

/-! ## Bank switching -/

/-- The modes with names are those that have a bank. -/
theorem registerBank_of_named {mode : CpuMode} (h : mode ∈ CpuMode.named) :
    ∃ bank, mode.registerBank = some bank := by
  have key : ∀ mode ∈ CpuMode.named, mode.registerBank.isSome = true := by decide
  exact Option.isSome_iff_exists.mp (key mode h)

section Save

variable (cpu : Arm7tdmi)

/-- Saving the current mode's bank brings every stored value up to date. -/
theorem saveBankedRegisters_stored :
    (cpu.saveBankedRegisters cpu.mode).sp = cpu.registerFile.sp ∧
      (cpu.saveBankedRegisters cpu.mode).lr = cpu.registerFile.lr ∧
      (cpu.saveBankedRegisters cpu.mode).fiqR8R12 = cpu.registerFile.high true ∧
      (cpu.saveBankedRegisters cpu.mode).sharedR8R12 = cpu.registerFile.high false := by
  cases h : cpu.mode.registerBank with
  | none =>
      -- a byte that names no mode has no stack pointer and link register to save
      refine ⟨?_, ?_, ?_, ?_⟩ <;>
        simp only [saveBankedRegisters, h, registerFile] <;> split_ifs <;> simp_all
  | some bank =>
      have hupdate : ∀ (stored : RegisterBank → U32) (value : U32),
          Function.update stored bank value =
            fun other => if cpu.mode.registerBank = some other then value else stored other := by
        intro stored value
        funext other
        simp only [Function.update_apply, h, Option.some.injEq, eq_comm]
      refine ⟨?_, ?_, ?_, ?_⟩
      · simp only [saveBankedRegisters, h, hupdate, registerFile]
        split_ifs <;> rfl
      · simp only [saveBankedRegisters, h, hupdate, registerFile]
        split_ifs <;> rfl
      · simp only [saveBankedRegisters, h, registerFile]
        split_ifs <;> simp_all
      · simp only [saveBankedRegisters, h, registerFile]
        split_ifs <;> simp_all

/-- Saving a bank changes nothing else. -/
theorem saveBankedRegisters_frame (mode : CpuMode) :
    (cpu.saveBankedRegisters mode).registers = cpu.registers ∧
      (cpu.saveBankedRegisters mode).savedPsr = cpu.savedPsr ∧
      (cpu.saveBankedRegisters mode).status = cpu.status := by
  unfold saveBankedRegisters
  dsimp only
  split <;> split <;> exact ⟨rfl, rfl, rfl⟩

end Save

theorem withR8R12_high (registers : Fin 16 → U32) (values : Fin 5 → U32) (index : Fin 5) :
    withR8R12 registers values (highRegister index) = values index := by
  unfold withR8R12
  rw [dif_pos (by dsimp only [highRegister]; omega)]
  exact congrArg values (Fin.ext (Nat.add_sub_cancel_left _ _))

theorem withR8R12_other (registers : Fin 16 → U32) (values : Fin 5 → U32) {index : Fin 16}
    (h : index.val < 8 ∨ 13 ≤ index.val) : withR8R12 registers values index = registers index := by
  unfold withR8R12
  rw [dif_neg (by omega)]

/-- The registers outside `r8` to `r14` are not banked. -/
theorem loadBankedRegisters_unbanked (cpu : Arm7tdmi) (mode : CpuMode) {index : Fin 16}
    (h : index.val < 8 ∨ index = kPc) :
    (cpu.loadBankedRegisters mode).registers index = cpu.registers index := by
  have hrange : index.val < 8 ∨ 13 ≤ index.val := by
    rcases h with h | rfl
    · exact .inl h
    · exact .inr (by decide)
  have hsp : index ≠ kStackPointer := by rcases h with h | rfl <;> grind [kStackPointer, kPc]
  have hlr : index ≠ kLinkRegister := by rcases h with h | rfl <;> grind [kLinkRegister, kPc]
  unfold loadBankedRegisters
  dsimp only
  split
  · show Function.update (Function.update _ kStackPointer _) kLinkRegister _ index = _
    rw [Function.update_of_ne hlr, Function.update_of_ne hsp, withR8R12_other _ _ hrange]
  · exact withR8R12_other _ _ hrange

/-- The visible `r8` to `r12` after a load. -/
theorem loadBankedRegisters_r8R12 (cpu : Arm7tdmi) (mode : CpuMode) :
    (cpu.loadBankedRegisters mode).r8R12 =
      if mode = .fiq then cpu.fiqR8R12 else cpu.sharedR8R12 := by
  funext index
  have hsp : highRegister index ≠ kStackPointer := by grind [highRegister, kStackPointer]
  have hlr : highRegister index ≠ kLinkRegister := by grind [highRegister, kLinkRegister]
  unfold loadBankedRegisters r8R12
  dsimp only
  split
  · show Function.update (Function.update _ kStackPointer _) kLinkRegister _
      (highRegister index) = _
    rw [Function.update_of_ne hlr, Function.update_of_ne hsp, withR8R12_high]
  · exact withR8R12_high _ _ _

/-- The visible `r13` and `r14` after a load. -/
theorem loadBankedRegisters_stack (cpu : Arm7tdmi) {mode : CpuMode} {bank : RegisterBank}
    (h : mode.registerBank = some bank) :
    (cpu.loadBankedRegisters mode).registers kStackPointer = cpu.sp bank ∧
      (cpu.loadBankedRegisters mode).registers kLinkRegister = cpu.lr bank := by
  unfold loadBankedRegisters
  rw [h]
  dsimp only
  constructor
  · show Function.update (Function.update _ kStackPointer _) kLinkRegister _ kStackPointer = _
    rw [Function.update_of_ne (by decide), Function.update_self]
  · show Function.update _ kLinkRegister _ kLinkRegister = _
    exact Function.update_self _ _ _

/-- Loading a bank changes nothing but the visible registers. -/
theorem loadBankedRegisters_frame (cpu : Arm7tdmi) (mode : CpuMode) :
    (cpu.loadBankedRegisters mode) =
      { cpu with registers := (cpu.loadBankedRegisters mode).registers } := by
  unfold loadBankedRegisters
  dsimp only
  split <;> rfl

/-- Loading the bank of the current mode makes the stored values the visible ones. -/
theorem loadBankedRegisters_registerFile (cpu : Arm7tdmi) :
    (cpu.loadBankedRegisters cpu.mode).registerFile =
      { low := fun index => cpu.registers ⟨index.val, by omega⟩
        high := fun fiq => if fiq then cpu.fiqR8R12 else cpu.sharedR8R12
        sp := cpu.sp
        lr := cpu.lr
        savedPsr := cpu.savedPsr
        pc := cpu.registers kPc
        status := cpu.status } := by
  have hframe := cpu.loadBankedRegisters_frame cpu.mode
  have hmode : (cpu.loadBankedRegisters cpu.mode).mode = cpu.mode := by rw [hframe]
  refine RegisterFile.ext ?_ ?_ ?_ ?_ ?_ ?_ ?_
  · funext index
    exact cpu.loadBankedRegisters_unbanked cpu.mode (.inl index.isLt)
  · funext fiq
    show (if ((cpu.loadBankedRegisters cpu.mode).mode = .fiq) = (fiq = true) then _
      else if fiq then (cpu.loadBankedRegisters cpu.mode).fiqR8R12
      else (cpu.loadBankedRegisters cpu.mode).sharedR8R12) = _
    rw [hmode, loadBankedRegisters_r8R12, hframe]
    by_cases hfiq : cpu.mode = .fiq <;> cases fiq <;> simp [hfiq]
  · funext bank
    show (if (cpu.loadBankedRegisters cpu.mode).mode.registerBank = some bank then _
      else (cpu.loadBankedRegisters cpu.mode).sp bank) = _
    rw [hmode]
    split
    · next h => exact (cpu.loadBankedRegisters_stack h).1
    · rw [hframe]
  · funext bank
    show (if (cpu.loadBankedRegisters cpu.mode).mode.registerBank = some bank then _
      else (cpu.loadBankedRegisters cpu.mode).lr bank) = _
    rw [hmode]
    split
    · next h => exact (cpu.loadBankedRegisters_stack h).2
    · rw [hframe]
  · show (cpu.loadBankedRegisters cpu.mode).savedPsr = _
    rw [hframe]
  · exact cpu.loadBankedRegisters_unbanked cpu.mode (.inr rfl)
  · show (cpu.loadBankedRegisters cpu.mode).status = _
    rw [hframe]
    rfl

theorem switchMode_self (cpu : Arm7tdmi) {mode : CpuMode} (h : cpu.mode = mode) :
    cpu.switchMode mode = cpu := if_pos h

/-- Switching modes changes the mode and nothing else. -/
theorem switchMode_registerFile (cpu : Arm7tdmi) (mode : CpuMode) :
    (cpu.switchMode mode).registerFile =
      { cpu.registerFile with status := { cpu.status with mode := mode } } := by
  unfold switchMode
  split
  · next heq =>
      subst heq
      rfl
  · obtain ⟨hsp, hlr, hfiq, hshared⟩ := cpu.saveBankedRegisters_stored
    obtain ⟨hregisters, hpsr, hstatus⟩ := cpu.saveBankedRegisters_frame cpu.mode
    have hload := loadBankedRegisters_registerFile
      { cpu.saveBankedRegisters cpu.mode with mode := mode }
    dsimp only at hload
    rw [hload]
    refine RegisterFile.ext ?_ ?_ hsp hlr hpsr ?_ ?_
    · funext index
      show (cpu.saveBankedRegisters cpu.mode).registers _ = _
      rw [hregisters]
      rfl
    · funext fiq
      cases fiq
      · exact hshared
      · exact hfiq
    · show (cpu.saveBankedRegisters cpu.mode).registers kPc = _
      rw [hregisters]
      rfl
    · show { (cpu.saveBankedRegisters cpu.mode).status with mode := mode } = _
      rw [hstatus]

/-! ## Single registers -/

/-- Writing the visible link register of a mode with a bank. -/
theorem setRegister_lr_registerFile (cpu : Arm7tdmi) {bank : RegisterBank} (value : U32)
    (h : cpu.mode.registerBank = some bank) :
    (cpu.setRegister kLinkRegister value).registerFile =
      { cpu.registerFile with lr := Function.update cpu.registerFile.lr bank value } := by
  have hother : ∀ index : Fin 16, index ≠ kLinkRegister →
      (cpu.setRegister kLinkRegister value).registers index = cpu.registers index :=
    fun index hne => Function.update_of_ne hne _ _
  refine RegisterFile.ext ?_ ?_ ?_ ?_ rfl (hother kPc (by decide)) rfl
  · funext index
    exact hother _ (by grind [kLinkRegister])
  · funext fiq
    have hhigh : (cpu.setRegister kLinkRegister value).r8R12 = cpu.r8R12 := by
      funext index
      exact hother _ (by grind [kLinkRegister])
    show (if _ then _ else _) = _
    rw [hhigh]
    rfl
  · funext other
    show (if _ then (cpu.setRegister kLinkRegister value).registers kStackPointer else _) = _
    rw [hother _ (by decide)]
    rfl
  · funext other
    show (if cpu.mode.registerBank = some other then
      (cpu.setRegister kLinkRegister value).registers kLinkRegister else cpu.lr other) =
        Function.update cpu.registerFile.lr bank value other
    by_cases heq : other = bank
    · subst heq
      rw [if_pos h, Function.update_self]
      exact Function.update_self kLinkRegister value cpu.registers
    · have hne : ¬cpu.mode.registerBank = some other := by
        rw [h]
        exact fun hsome => heq (Option.some.inj hsome).symm
      rw [if_neg hne, Function.update_of_ne heq]
      exact (if_neg hne).symm

/-- Writing the program counter. -/
theorem setRegister_pc_registerFile (cpu : Arm7tdmi) (value : U32) :
    (cpu.setRegister kPc value).registerFile = { cpu.registerFile with pc := value } := by
  have hother : ∀ index : Fin 16, index ≠ kPc →
      (cpu.setRegister kPc value).registers index = cpu.registers index :=
    fun index hne => Function.update_of_ne hne _ _
  refine RegisterFile.ext ?_ ?_ ?_ ?_ rfl ?_ rfl
  · funext index
    exact hother _ (by grind [kPc])
  · funext fiq
    have hhigh : (cpu.setRegister kPc value).r8R12 = cpu.r8R12 := by
      funext index
      exact hother _ (by grind [kPc])
    show (if _ then _ else _) = _
    rw [hhigh]
    rfl
  · funext other
    show (if _ then (cpu.setRegister kPc value).registers kStackPointer else _) = _
    rw [hother _ (by decide)]
    rfl
  · funext other
    show (if _ then (cpu.setRegister kPc value).registers kLinkRegister else _) = _
    rw [hother _ (by decide)]
    rfl
  · show (cpu.setRegister kPc value).registers kPc = value
    exact Function.update_self kPc value cpu.registers

/-! ## Interrupt entry and return -/

/-- Setting the status from a word that names a mode. -/
theorem setCpsr_registerFile (cpu : Arm7tdmi) {value : U32} {mode : CpuMode}
    (hmode : decodeCpuMode value = some mode) :
    ∃ after, cpu.setCpsr value = some after ∧
      after.registerFile =
        { cpu.registerFile with status := ProgramStatus.ofWord value mode } := by
  refine ⟨_, by rw [setCpsr, hmode]; rfl, ?_⟩
  rw [switchMode_registerFile]
  rfl

/-- Interrupt entry assigns the registers of IRQ mode. -/
theorem enterException_registerFile (cpu : Arm7tdmi) (h : cpu.mode ∈ CpuMode.named) :
    (cpu.enterException .irq).registerFile = cpu.registerFile.enterIrq := by
  have hswitch := switchMode_registerFile cpu .irq
  have hmode : (cpu.switchMode .irq).mode = .irq := by
    have := congrArg (fun file => file.status.mode) hswitch
    exact this
  have hword := ProgramStatus.ofWord_toWord cpu.status h
  have hoffset : linkOffset .irq cpu.cpsr = if cpu.thumbState then 2 else 4 := by
    have hthumb : anySet cpu.cpsr kThumbStateFlag = cpu.thumbState :=
      congrArg ProgramStatus.thumbState hword.2
    unfold linkOffset
    rw [hthumb]
    cases cpu.thumbState <;> rfl
  have hbank : ((cpu.switchMode .irq).setSpsrForMode .irq cpu.cpsr).mode.registerBank =
      some .irq := by
    show (cpu.switchMode .irq).mode.registerBank = some .irq
    rw [hmode]
    rfl
  have hlink := setRegister_lr_registerFile _
    (cpu.registers kPc + linkOffset .irq cpu.cpsr) hbank
  have hspsr : ((cpu.switchMode .irq).setSpsrForMode .irq cpu.cpsr).registerFile =
      { (cpu.switchMode .irq).registerFile with
        savedPsr := Function.update cpu.savedPsr .irq cpu.cpsr } := by
    have hpsr : (cpu.switchMode .irq).savedPsr = cpu.savedPsr :=
      congrArg RegisterFile.savedPsr hswitch
    show { (cpu.switchMode .irq).registerFile with
      savedPsr := Function.update (cpu.switchMode .irq).savedPsr .irq cpu.cpsr } = _
    rw [hpsr]
  rw [hspsr, hswitch, hoffset] at hlink
  unfold enterException
  dsimp only [exceptionVector]
  rw [if_pos rfl, setRegister_pc_registerFile]
  rw [hoffset]
  generalize hlinked : ((cpu.switchMode .irq).setSpsrForMode .irq cpu.cpsr).setRegister
    kLinkRegister (cpu.registers kPc + if cpu.thumbState then 2 else 4) = linked at hlink
  show { linked.registerFile with
      pc := 0x00000018#32
      status := { linked.registerFile.status with thumbState := false, irqDisabled := true } } = _
  rw [hlink]
  rfl

/-- The return from an interrupt: the address and the status come back from IRQ mode. -/
theorem returnFromException_registerFile {cpu : Arm7tdmi} {status : ProgramStatus}
    (hirq : cpu.mode = .irq) (hnamed : status.mode ∈ CpuMode.named)
    (hsaved : cpu.savedPsr .irq = status.toWord) (linkAdjustment : U32) :
    ∃ after, cpu.returnFromException linkAdjustment = some after ∧
      after.registerFile =
        { cpu.registerFile with
          pc := cpu.registers kLinkRegister - linkAdjustment
          status := status } := by
  have hspsr : cpu.spsr = some status.toWord := by
    rw [spsr, hirq, ← hsaved]
    rfl
  obtain ⟨hdecode, hstatus⟩ := ProgramStatus.ofWord_toWord status hnamed
  obtain ⟨after, hset, hafter⟩ := cpu.setCpsr_registerFile hdecode
  refine ⟨after.setRegister kPc (cpu.registers kLinkRegister - linkAdjustment), ?_, ?_⟩
  · simp only [returnFromException, hspsr, hset, Option.bind_eq_bind, Option.bind_some]
    rfl
  · rw [setRegister_pc_registerFile, hafter, hstatus]

end Arm7tdmi

end Gba.Core
