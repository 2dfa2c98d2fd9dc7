import Gba.Core.RegisterFile
import Gba.Library.LastWrite

/-!
# Banked registers over runs

The registers that a mode sees under the names `r8` to `r14` and SPSR are cells of the register
file, shared between modes as the banks prescribe. Read `register_value_run` first: whatever
modes a run visits, a register reads as the last value written to its cell.
-/

namespace Gba.Core

open Gba.Library

/-- A register of one bank. -/
inductive BankedRegister where
  | high (fiq : Bool) (index : Fin 5)
  | sp (bank : RegisterBank)
  | lr (bank : RegisterBank)
  | savedPsr (bank : ExceptionBank)
  deriving DecidableEq, Repr

/-- A register by the name that a program uses. -/
inductive RegisterName where
  | register (index : Fin 16)
  | spsr
  deriving DecidableEq, Repr

/-- The banked register that a mode sees under a name; nothing for a name that is not banked, and
for SPSR in user and system mode. -/
def CpuMode.banked (mode : CpuMode) : RegisterName → Option BankedRegister
  | .register index =>
      if h : 8 ≤ index.val ∧ index.val < 13 then
        some (.high (mode = .fiq) (Arm7tdmi.highIndex index h))
      else if index = Arm7tdmi.kStackPointer then mode.registerBank.map .sp
      else if index = Arm7tdmi.kLinkRegister then mode.registerBank.map .lr
      else none
  | .spsr => mode.spsrBank.map .savedPsr

namespace CpuMode

theorem banked_high (mode : CpuMode) (index : Fin 5) :
    mode.banked (.register (Arm7tdmi.highRegister index)) = some (.high (mode = fiq) index) := by
  have hrange : 8 ≤ (Arm7tdmi.highRegister index).val ∧
      (Arm7tdmi.highRegister index).val < 13 := by
    dsimp only [Arm7tdmi.highRegister]
    omega
  unfold banked
  dsimp only
  rw [dif_pos hrange]
  refine congrArg (fun index => some (BankedRegister.high _ index)) (Fin.ext ?_)
  exact Nat.add_sub_cancel_left _ _

theorem banked_sp (mode : CpuMode) :
    mode.banked (.register Arm7tdmi.kStackPointer) = mode.registerBank.map .sp := rfl

theorem banked_lr (mode : CpuMode) :
    mode.banked (.register Arm7tdmi.kLinkRegister) = mode.registerBank.map .lr := rfl

/-- The names of the banked registers. -/
theorem banked_register {mode : CpuMode} {index : Fin 16} {cell : BankedRegister}
    (h : mode.banked (.register index) = some cell) :
    (∃ high : Fin 5, index = Arm7tdmi.highRegister high) ∨ index = Arm7tdmi.kStackPointer ∨
      index = Arm7tdmi.kLinkRegister := by
  unfold banked at h
  dsimp only at h
  split_ifs at h with hhigh hsp hlr
  · exact .inl ⟨Arm7tdmi.highIndex index hhigh, Fin.ext (Nat.add_sub_cancel' hhigh.1).symm⟩
  · exact .inr (.inl hsp)
  · exact .inr (.inr hlr)

end CpuMode

/-- User and system mode see the same registers. -/
example (index : Fin 16) :
    CpuMode.user.banked (.register index) = CpuMode.system.banked (.register index) := rfl

/-- The value of a banked register. -/
def RegisterFile.banked (f : RegisterFile) : BankedRegister → U32
  | .high fiq index => f.high fiq index
  | .sp bank => f.sp bank
  | .lr bank => f.lr bank
  | .savedPsr bank => f.savedPsr bank

/-- What a program and the hardware do to the registers. -/
inductive RegisterOperation where
  | setCpsr (value : U32)
  | setRegister (index : Fin 16) (value : U32)
  | setSpsr (value : U32)
  | enterException (kind : ExceptionKind)
  | returnFromException (linkAdjustment : U32)

namespace Arm7tdmi

/-- The register that the current mode sees under a name. -/
def read (cpu : Arm7tdmi) : RegisterName → Option U32
  | .register index => some (cpu.registers index)
  | .spsr => cpu.spsr

/-- One operation; a refused one changes nothing. -/
def operate (cpu : Arm7tdmi) : RegisterOperation → Arm7tdmi
  | .setCpsr value => (cpu.setCpsr value).getD cpu
  | .setRegister index value => cpu.setRegister index value
  | .setSpsr value => (cpu.setSpsr value).getD cpu
  | .enterException kind => cpu.enterException kind
  | .returnFromException linkAdjustment => (cpu.returnFromException linkAdjustment).getD cpu

/-- The value that an operation writes to a banked register: a write goes to the register that the
current mode sees, an exception that saves the status links into the mode it enters. -/
def writes (cpu : Arm7tdmi) (op : RegisterOperation) (cell : BankedRegister) : Option U32 :=
  match op with
  | .setCpsr _ => none
  | .setRegister index value =>
      if cpu.mode.banked (.register index) = some cell then some value else none
  | .setSpsr value => if cpu.mode.banked .spsr = some cell then some value else none
  | .enterException kind =>
      let vector := exceptionVector kind
      if !vector.saveCpsr then none
      else if vector.mode.banked (.register kLinkRegister) = some cell then
        some (cpu.registers kPc + linkOffset kind cpu.cpsr)
      else if vector.mode.banked .spsr = some cell then some cpu.cpsr
      else none
  | .returnFromException _ => none

/-! ## Reading -/

/-- The current mode's `r8` to `r12` are the visible ones. -/
theorem registerFile_high (cpu : Arm7tdmi) (index : Fin 5) :
    cpu.registerFile.high (cpu.mode = CpuMode.fiq) index = cpu.r8R12 index := by
  show (if (cpu.mode = CpuMode.fiq) = (decide (cpu.mode = CpuMode.fiq) = true) then cpu.r8R12
    else if decide (cpu.mode = CpuMode.fiq) then cpu.fiqR8R12 else cpu.sharedR8R12) index = _
  rw [if_pos decide_eq_true_eq.symm]

/-- The visible registers are those of the current mode's banks. -/
theorem read_banked {cpu : Arm7tdmi} {name : RegisterName} {cell : BankedRegister}
    (h : cpu.mode.banked name = some cell) :
    cpu.read name = some (cpu.registerFile.banked cell) := by
  cases name with
  | register index =>
      obtain ⟨high, rfl⟩ | rfl | rfl := CpuMode.banked_register h
      · obtain rfl := Option.some.inj (cpu.mode.banked_high high ▸ h)
        exact congrArg some (cpu.registerFile_high high).symm
      · obtain ⟨bank, hbank, rfl⟩ := Option.map_eq_some_iff.mp (cpu.mode.banked_sp ▸ h)
        show _ = some (if cpu.mode.registerBank = some bank then _ else _)
        rw [if_pos hbank]
        rfl
      · obtain ⟨bank, hbank, rfl⟩ := Option.map_eq_some_iff.mp (cpu.mode.banked_lr ▸ h)
        show _ = some (if cpu.mode.registerBank = some bank then _ else _)
        rw [if_pos hbank]
        rfl
  | spsr =>
      obtain ⟨bank, hbank, rfl⟩ := Option.map_eq_some_iff.mp h
      show cpu.mode.spsrBank.map cpu.savedPsr = _
      rw [hbank]
      rfl

/-! ## Writing -/

/-- A banked register that the current mode does not see is not in the visible registers. -/
theorem setRegister_banked_of_ne (cpu : Arm7tdmi) {index : Fin 16} (value : U32)
    {cell : BankedRegister} (h : cpu.mode.banked (.register index) ≠ some cell) :
    (cpu.setRegister index value).registerFile.banked cell = cpu.registerFile.banked cell := by
  have hother : ∀ other : Fin 16, cpu.mode.banked (.register other) = some cell →
      (cpu.setRegister index value).registers other = cpu.registers other := by
    intro other hcell
    refine Function.update_of_ne (fun heq => ?_) _ _
    exact h (heq ▸ hcell)
  cases cell with
  | high fiq high =>
      show (if (cpu.mode = CpuMode.fiq) = (fiq = true) then (cpu.setRegister index value).r8R12
          else if fiq then cpu.fiqR8R12 else cpu.sharedR8R12) high =
        (if (cpu.mode = CpuMode.fiq) = (fiq = true) then cpu.r8R12
          else if fiq then cpu.fiqR8R12 else cpu.sharedR8R12) high
      split
      · next hfiq =>
          have hdecide : decide (cpu.mode = CpuMode.fiq) = fiq := by cases fiq <;> simp_all
          exact hother _ (hdecide ▸ cpu.mode.banked_high high)
      · rfl
  | sp bank =>
      show (if cpu.mode.registerBank = some bank then _ else _) =
        if cpu.mode.registerBank = some bank then _ else _
      split
      · next hbank => exact hother _ (by rw [CpuMode.banked_sp, hbank]; rfl)
      · rfl
  | lr bank =>
      show (if cpu.mode.registerBank = some bank then _ else _) =
        if cpu.mode.registerBank = some bank then _ else _
      split
      · next hbank => exact hother _ (by rw [CpuMode.banked_lr, hbank]; rfl)
      · rfl
  | savedPsr bank => rfl

/-- The program counter is not banked. -/
theorem setRegister_pc_banked (cpu : Arm7tdmi) (value : U32) (cell : BankedRegister) :
    (cpu.setRegister kPc value).registerFile.banked cell = cpu.registerFile.banked cell :=
  cpu.setRegister_banked_of_ne value (Option.some_ne_none cell).symm

/-- A register write reaches the banked register that the current mode sees, and no other. -/
theorem setRegister_banked (cpu : Arm7tdmi) (index : Fin 16) (value : U32)
    (cell : BankedRegister) :
    (cpu.setRegister index value).registerFile.banked cell =
      if cpu.mode.banked (.register index) = some cell then value
      else cpu.registerFile.banked cell := by
  split
  · next hcell =>
      have hread := @read_banked (cpu.setRegister index value) _ _ hcell
      rw [← Option.some.inj hread]
      exact Function.update_self index value cpu.registers
  · next hcell => exact cpu.setRegister_banked_of_ne value hcell

/-- A status write to the bank of a mode reaches the saved status of the mode, and no other
register. -/
theorem setSpsrForMode_banked (cpu : Arm7tdmi) (mode : CpuMode) (value : U32)
    (cell : BankedRegister) :
    (cpu.setSpsrForMode mode value).registerFile.banked cell =
      if mode.banked .spsr = some cell then value else cpu.registerFile.banked cell := by
  unfold setSpsrForMode CpuMode.banked
  cases hbank : mode.spsrBank with
  | none => rfl
  | some bank =>
      cases cell with
      | savedPsr other =>
          show Function.update cpu.savedPsr bank value other = _
          simp only [Function.update_apply, Option.map_some, Option.some.injEq,
            BankedRegister.savedPsr.injEq, eq_comm]
          rfl
      | _ => simp only [Option.map_some, Option.some.injEq, reduceCtorEq, if_false]; rfl

/-- A status write reaches the saved status of the current mode. -/
theorem setSpsr_eq (cpu : Arm7tdmi) (value : U32) :
    (cpu.setSpsr value).getD cpu = cpu.setSpsrForMode cpu.mode value := by
  unfold setSpsr setSpsrForMode
  cases cpu.mode.spsrBank with
  | none => rfl
  | some bank => rfl

/-- A change of the status word moves no register. -/
theorem setCpsr_banked (cpu : Arm7tdmi) (value : U32) (cell : BankedRegister) :
    ((cpu.setCpsr value).getD cpu).registerFile.banked cell =
      cpu.registerFile.banked cell := by
  cases hmode : decodeCpuMode value with
  | none => rw [setCpsr, hmode]; rfl
  | some mode =>
      obtain ⟨after, hset, hafter⟩ := cpu.setCpsr_registerFile hmode
      rw [hset, Option.getD_some, hafter]
      cases cell <;> rfl

/-- The return from an exception moves no banked register. -/
theorem returnFromException_banked (cpu : Arm7tdmi) (linkAdjustment : U32)
    (cell : BankedRegister) :
    ((cpu.returnFromException linkAdjustment).getD cpu).registerFile.banked cell =
      cpu.registerFile.banked cell := by
  unfold returnFromException
  cases cpu.spsr with
  | none => rfl
  | some savedPsr =>
      have hset := cpu.setCpsr_banked savedPsr cell
      cases hreturned : cpu.setCpsr savedPsr with
      | none =>
          simp only [Option.bind_eq_bind, Option.bind_some, hreturned]
          rfl
      | some returned =>
          rw [hreturned] at hset
          simp only [Option.bind_eq_bind, Option.bind_some, hreturned]
          show (returned.setRegister kPc _).registerFile.banked cell = _
          rw [setRegister_pc_banked]
          exact hset

/-- A mode switch moves no banked register. -/
theorem switchMode_banked (cpu : Arm7tdmi) (mode : CpuMode) (cell : BankedRegister) :
    (cpu.switchMode mode).registerFile.banked cell = cpu.registerFile.banked cell := by
  rw [switchMode_registerFile]
  cases cell <;> rfl

theorem switchMode_mode (cpu : Arm7tdmi) (mode : CpuMode) : (cpu.switchMode mode).mode = mode :=
  congrArg (fun file => file.status.mode) (cpu.switchMode_registerFile mode)

theorem setSpsrForMode_mode (cpu : Arm7tdmi) (mode : CpuMode) (value : U32) :
    (cpu.setSpsrForMode mode value).mode = cpu.mode := by
  unfold setSpsrForMode
  split <;> rfl

/-- Exception entry links the address and the status into the mode it enters. -/
theorem enterException_banked (cpu : Arm7tdmi) (kind : ExceptionKind) (cell : BankedRegister) :
    (cpu.enterException kind).registerFile.banked cell =
      (cpu.writes (.enterException kind) cell).getD (cpu.registerFile.banked cell) := by
  unfold enterException writes
  dsimp only
  rw [setRegister_pc_banked]
  split
  · next hsave =>
      -- the flags that entry clears and sets are no registers
      show (((cpu.switchMode _).setSpsrForMode _ _).setRegister kLinkRegister
        _).registerFile.banked cell = _
      rw [setRegister_banked, setSpsrForMode_banked, switchMode_banked]
      rw [setSpsrForMode_mode, switchMode_mode]
      simp only [hsave, Bool.not_true, Bool.false_eq_true, if_false]
      split
      · rfl
      · split <;> rfl
  · next hsave =>
      show (cpu.switchMode _).registerFile.banked cell = _
      rw [switchMode_banked]
      simp only [hsave, Bool.not_false, if_true, Option.getD_none]

/-! ## Runs -/

/-- The processor as a store of banked registers. -/
def bankedRegisters : LastWrite Arm7tdmi RegisterOperation BankedRegister U32 where
  step := operate
  writes := writes
  value cpu := cpu.registerFile.banked
  value_step cpu op cell := by
    cases op with
    | setCpsr value => exact cpu.setCpsr_banked value cell
    | setRegister index value =>
        refine (cpu.setRegister_banked index value cell).trans ?_
        unfold writes
        dsimp only
        split <;> rfl
    | setSpsr value =>
        show ((cpu.setSpsr value).getD cpu).registerFile.banked cell = _
        rw [setSpsr_eq, setSpsrForMode_banked]
        unfold writes
        dsimp only
        split <;> rfl
    | enterException kind => exact cpu.enterException_banked kind cell
    | returnFromException linkAdjustment => exact cpu.returnFromException_banked linkAdjustment cell

/-- After any run a banked register reads as the last value written to it, whichever of the modes
that share it wrote the value and whichever reads it; one that was never written keeps its value. -/
theorem register_value_run {cpu : Arm7tdmi} {ops : List RegisterOperation} {name : RegisterName}
    {cell : BankedRegister} (h : (bankedRegisters.run cpu ops).mode.banked name = some cell) :
    (bankedRegisters.run cpu ops).read name =
      some ((bankedRegisters.lastWritten cpu ops cell).getD (cpu.registerFile.banked cell)) := by
  rw [read_banked h]
  exact congrArg some (bankedRegisters.value_run cpu ops cell)

/-- The stack pointer of supervisor mode after a visit to user mode. -/
theorem register_value_run_sp :
    (bankedRegisters.run reset
      [.setRegister kStackPointer 7, .setCpsr 0x10, .setRegister kStackPointer 9,
        .setCpsr 0x13]).read (.register kStackPointer) = some 7 :=
  (register_value_run (show _ = some (BankedRegister.sp .supervisor) from rfl)).trans rfl

end Arm7tdmi

end Gba.Core
