import Gba.Core.CpuEffects

/-!
# Programs in user mode

A program in user mode changes its own registers and flags only: the mode, the interrupt masks, the
registers banked for other modes and the saved statuses change with the entry to an exception and
with nothing else, whatever instructions the program consists of.
-/

namespace Gba.Core

/-- Without an exception, what happens to the processor in user mode leaves the control part
alone. -/
theorem CpuEffects.user_control {cpu after : Arm7tdmi} (h : CpuEffects (fun _ => False) cpu after)
    (huser : cpu.mode = .user) : after.control = cpu.control := by
  induction h with
  | refl => rfl
  | @tail middle after _ heffect ih =>
      have hmode : middle.mode = .user := (congrArg Arm7tdmi.Control.mode ih).trans huser
      cases heffect with
      | program h => exact h.trans ih
      | status privileged h => exact absurd hmode privileged
      | savedStatus h =>
          -- user mode has no saved status
          obtain ⟨bank, hbank, -⟩ := Option.map_eq_some_iff.mp h
          exact absurd hmode (Arm7tdmi.privileged_of_bank hbank)
      | exception h => exact h.elim

namespace Arm7tdmi

/-- What an instruction does to the control part of a processor in user mode: nothing, or it is a
software interrupt and enters the exception. -/
def Confined (softwareInterrupt : Bool) (cpu after : Arm7tdmi) : Prop :=
  after.control = cpu.control ∨
    softwareInterrupt = true ∧ after.control = (cpu.enterException .softwareInterrupt).control

variable {cpu : Arm7tdmi}

/-- What happens without an exception is confined. -/
theorem Confined.of_effects {after : Arm7tdmi} (softwareInterrupt : Bool) (huser : cpu.mode = .user)
    (h : CpuEffects (fun _ => False) cpu after) : Confined softwareInterrupt cpu after :=
  .inl (h.user_control huser)

/-- The charge of a step is no part of the control. -/
theorem Confined.charged {softwareInterrupt : Bool} {middle after : Arm7tdmi}
    (h : Confined softwareInterrupt cpu middle) (hcharge : after.control = middle.control) :
    Confined softwareInterrupt cpu after := by
  unfold Confined
  rw [hcharge]
  exact h

/-- A software interrupt is taken or skipped. -/
theorem Confined.onCondition (cpu : Arm7tdmi) (condition : Option ArmCondition) :
    Confined true cpu
      (cpu.onCondition condition ⟨.executed, cpu.enterException .softwareInterrupt⟩).cpu := by
  unfold Arm7tdmi.onCondition
  split
  · exact .inr ⟨rfl, rfl⟩
  · exact .inl rfl

theorem executeArm_confined (instruction : U32) (huser : cpu.mode = .user) :
    Confined (canDecodeSoftwareInterrupt instruction) cpu (executeArm instruction cpu).cpu := by
  cases hswi : canDecodeSoftwareInterrupt instruction with
  | false =>
      refine .of_effects _ huser (CpuEffects.executeArm instruction cpu fun h => ?_)
      exact Bool.false_ne_true (hswi.symm.trans h)
  | true =>
      unfold executeArm
      dsimp only
      split
      · exact .inl rfl
      · exact .onCondition cpu _

theorem executeArmMemory_confined (instruction : U32) (system : System) (huser : cpu.mode = .user) :
    Confined (canDecodeSoftwareInterrupt instruction) cpu
      (cpu.executeArmMemory ioCallbacks instruction system).cpu := by
  cases hswi : canDecodeSoftwareInterrupt instruction with
  | false =>
      refine .of_effects _ huser
        (MemoryExecution.Follows.executeArmMemory instruction cpu system fun h => ?_).1
      exact Bool.false_ne_true (hswi.symm.trans h)
  | true =>
      unfold executeArmMemory
      dsimp only
      split
      · exact .inl rfl
      · exact .onCondition cpu _

theorem executeThumb_confined (instruction : U16) (huser : cpu.mode = .user) :
    Confined (canDecodeThumbSoftwareInterrupt instruction) cpu (executeThumb instruction cpu).cpu := by
  cases hswi : canDecodeThumbSoftwareInterrupt instruction with
  | false =>
      refine .of_effects _ huser (CpuEffects.executeThumb instruction cpu fun h => ?_)
      exact Bool.false_ne_true (hswi.symm.trans h)
  | true =>
      refine .inr ⟨rfl, ?_⟩
      rw [executeThumb, if_pos hswi]

theorem executeThumbMemory_confined (instruction : U16) (system : System)
    (huser : cpu.mode = .user) :
    Confined (canDecodeThumbSoftwareInterrupt instruction) cpu
      (cpu.executeThumbMemory ioCallbacks instruction system).cpu := by
  unfold executeThumbMemory
  -- a transfer enters no exception, whatever else its word would decode as
  split
  · exact .of_effects _ huser (MemoryExecution.Follows.executeThumbBlockTransfer _ _ _).1
  split
  · exact .of_effects _ huser (MemoryExecution.Follows.executeThumbStackTransfer _ _ _).1
  split
  · exact .of_effects _ huser (MemoryExecution.Follows.executeThumbMemoryTransfer _ _ _).1
  · exact executeThumb_confined instruction huser

end Arm7tdmi

/-! ## Programs -/

/-- One step of a program: an instruction of either set, with the system that it meets. Where the
timing is not known the wait states are `none`. -/
inductive ProgramStep
  | arm (instruction : U32)
  | thumb (instruction : U16)
  | armMemory (instruction : U32) (waitcnt : Option WaitStateControl)
      (elapsedOverride : Option ArmElapsedCycleEstimate) (system : System)
  | thumbMemory (instruction : U16) (waitcnt : Option WaitStateControl)
      (prefetchInternalLoadOverlap : Bool) (elapsedOverride : Option ArmElapsedCycleEstimate)
      (system : System)

namespace ProgramStep

/-- Whether the instruction is a software interrupt. -/
def softwareInterrupt : ProgramStep → Bool
  | arm instruction | armMemory instruction .. => canDecodeSoftwareInterrupt instruction
  | thumb instruction | thumbMemory instruction .. => canDecodeThumbSoftwareInterrupt instruction

/-- The processor after the step. -/
def execute (cpu : Arm7tdmi) : ProgramStep → Arm7tdmi
  | arm instruction => (cpu.stepArm instruction).2
  | thumb instruction => (cpu.stepThumb instruction).2
  | armMemory instruction waitcnt elapsedOverride system =>
      (Arm7tdmi.stepArmMemory ioCallbacks instruction waitcnt elapsedOverride cpu system).cpu
  | thumbMemory instruction waitcnt prefetchInternalLoadOverlap elapsedOverride system =>
      (Arm7tdmi.stepThumbMemory ioCallbacks instruction waitcnt prefetchInternalLoadOverlap
        elapsedOverride cpu system).cpu

/-- A step of a program in user mode. -/
theorem execute_confined (step : ProgramStep) {cpu : Arm7tdmi} (huser : cpu.mode = .user) :
    Arm7tdmi.Confined step.softwareInterrupt cpu (step.execute cpu) := by
  cases step with
  | arm instruction =>
      exact (Arm7tdmi.executeArm_confined instruction huser).charged
        (CpuEffects.finishStep _ _ _ _ _ _)
  | thumb instruction =>
      exact (Arm7tdmi.executeThumb_confined instruction huser).charged
        (CpuEffects.finishThumbStep _ _ _)
  | armMemory instruction waitcnt elapsedOverride system =>
      show Arm7tdmi.Confined _ cpu
        (Arm7tdmi.stepArmMemory ioCallbacks instruction waitcnt elapsedOverride cpu system).cpu
      unfold Arm7tdmi.stepArmMemory
      dsimp only
      split
      · exact .inl rfl
      · exact (Arm7tdmi.executeArmMemory_confined instruction system huser).charged
          (CpuEffects.finishStep _ _ _ _ _ _)
  | thumbMemory instruction waitcnt prefetchInternalLoadOverlap elapsedOverride system =>
      exact (Arm7tdmi.executeThumbMemory_confined instruction system huser).charged
        (CpuEffects.finishThumbStep _ _ _)

/-- The processor after a program. -/
def run (program : List ProgramStep) (cpu : Arm7tdmi) : Arm7tdmi :=
  program.foldl execute cpu

/-- A program in user mode leaves the control part alone up to its first software interrupt that is
taken, and that one enters the exception. -/
theorem run_user_confined (program : List ProgramStep) {cpu : Arm7tdmi} (huser : cpu.mode = .user) :
    (run program cpu).control = cpu.control ∨
      ∃ (before : List ProgramStep) (step : ProgramStep) (rest : List ProgramStep),
        program = before ++ step :: rest ∧ step.softwareInterrupt = true ∧
          (run before cpu).control = cpu.control ∧
          (step.execute (run before cpu)).control =
            ((run before cpu).enterException .softwareInterrupt).control := by
  induction program generalizing cpu with
  | nil => exact .inl rfl
  | cons step program ih =>
      rcases step.execute_confined huser with hkept | ⟨hswi, hentered⟩
      · have hmode : (step.execute cpu).mode = .user :=
          (congrArg Arm7tdmi.Control.mode hkept).trans huser
        rcases ih hmode with hrun | ⟨before, first, rest, rfl, hswi, hbefore, hentered⟩
        · exact .inl (hrun.trans hkept)
        · exact .inr ⟨step :: before, first, rest, rfl, hswi, hbefore.trans hkept, hentered⟩
      · exact .inr ⟨[], step, program, rfl, hswi, rfl, hentered⟩

/-- A processor that a reset has put into user mode, and a program of one software interrupt. -/
theorem run_user_confined_reset :
    let cpu := { Arm7tdmi.reset with mode := .user }
    (run [.arm 0xEF000000#32] cpu).control = cpu.control ∨
      ∃ (before : List ProgramStep) (step : ProgramStep) (rest : List ProgramStep),
        [.arm 0xEF000000#32] = before ++ step :: rest ∧ step.softwareInterrupt = true ∧
          (run before cpu).control = cpu.control ∧
          (step.execute (run before cpu)).control =
            ((run before cpu).enterException .softwareInterrupt).control :=
  @run_user_confined [.arm 0xEF000000#32] { Arm7tdmi.reset with mode := .user } rfl

end ProgramStep

end Gba.Core
