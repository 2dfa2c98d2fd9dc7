import Gba.Core.SavedRegisters

/-!
# Nested subroutines

A subroutine that saves registers may call others that do, to any depth. The stack pointer comes
through every nest of pushes and pops, and of the registers that the instructions inside name only
those can change that no level around them has saved.
-/

namespace Gba.Core

/-- The registers that may change over a body between a push and its pop: those that the body may
change and the push has not saved, and the program counter where the pop loads it. -/
def unsavedWrites (push : U16) (writes : Fin 16 → Bool) (index : Fin 16) : Bool :=
  !(stackList push).any (onlyRegister index) && writes index ||
    (decodeThumbStackTransfer push).extraRegister && index = Arm7tdmi.kPc

/-- A push has registers to save, and its stack is aligned and in work RAM. -/
structure Saves (push : U16) (cpu : Arm7tdmi) : Prop where
  nonempty : ((BlockInstruction.thumbStack push).transfer cpu).registers ≠ []
  aligned : (cpu.registers Arm7tdmi.kStackPointer).toNat % 4 = 0
  ram : ((BlockInstruction.thumbStack push).transfer cpu).WithinRam

/-- The pop of a push meets what was saved. -/
def Restores (push : U16) (cpu : Arm7tdmi) (bus later : System) : Prop :=
  ((BlockInstruction.thumbStack push).transfer cpu).Intact
    (cpu.executeThumbMemory ioCallbacks push bus).bus.memory later.memory

/-- Code that keeps the stack discipline, with the registers that it may change: none,
instructions that do not name the stack pointer, code after code, and code between a push and its
pop. What other memory the instructions meet is left open. -/
inductive Nested : (Fin 16 → Bool) → Arm7tdmi → Arm7tdmi → Prop
  | done {cpu : Arm7tdmi} : Nested noRegister cpu cpu
  | step {cpu : Arm7tdmi} (step : ProgramStep)
      (hstack : step.writes Arm7tdmi.kStackPointer = false) :
      Nested step.writes cpu (step.execute cpu)
  | append {writes other : Fin 16 → Bool} {cpu middle after : Arm7tdmi}
      (first : Nested writes cpu middle) (second : Nested other middle after) :
      Nested (fun index => writes index || other index) cpu after
  | saved {push pop : U16} (h : PushPop push pop) {cpu : Arm7tdmi} (bus later : System)
      (hsaves : Saves push cpu) {writes : Fin 16 → Bool} {arrived : Arm7tdmi}
      (body : Nested writes (cpu.executeThumbMemory ioCallbacks push bus).cpu arrived)
      (hrestores : Restores push cpu bus later) :
      Nested (unsavedWrites push writes) cpu
        (arrived.executeThumbMemory ioCallbacks pop later).cpu

/-! ## One level -/

section Level

variable {push pop : U16} {writes : Fin 16 → Bool} {cpu arrived after : Arm7tdmi}

theorem unsavedWrites_stack (h : writes Arm7tdmi.kStackPointer = false) :
    unsavedWrites push writes Arm7tdmi.kStackPointer = false := by
  have hpc : decide (Arm7tdmi.kStackPointer = Arm7tdmi.kPc) = false := rfl
  unfold unsavedWrites
  rw [h, hpc, Bool.and_false, Bool.and_false]
  rfl

/-- What the pop gives back and what the body has kept are the registers that cannot change. -/
theorem unsaved_frame {first : U32}
    (hbody : Arm7tdmi.Frame writes (cpu.setRegister Arm7tdmi.kStackPointer first) arrived)
    (hreturned : Returned (stackList push) (decodeThumbStackTransfer push).extraRegister cpu
      arrived after) : Arm7tdmi.Frame (unsavedWrites push writes) cpu after := by
  intro index hindex
  unfold unsavedWrites at hindex
  rw [Bool.or_eq_false_iff] at hindex
  obtain ⟨hwritten, hpc⟩ := hindex
  -- saved by the push, moved with the stack, or kept by the body
  by_cases hmem : index ∈ stackList push
  · exact hreturned.saved index hmem
  by_cases hstack : index = Arm7tdmi.kStackPointer
  · rw [hstack]
    exact hreturned.stack
  have hkept : arrived.registers index = cpu.registers index := by
    have hunsaved : (stackList push).any (onlyRegister index) = false := by
      rw [List.any_eq_false]
      intro listed hlisted honly
      exact hmem (of_decide_eq_true honly ▸ hlisted)
    rw [hunsaved, Bool.not_false, Bool.true_and] at hwritten
    refine (hbody index hwritten).trans ?_
    exact Function.update_of_ne hstack first cpu.registers
  by_cases hjump : index = Arm7tdmi.kPc
  · rw [hjump, decide_eq_true rfl, Bool.and_true] at hpc
    rw [hjump] at hkept ⊢
    exact (hreturned.continues hpc).1.trans hkept
  · exact (hreturned.others index hmem hstack hjump).trans hkept

theorem Returned.mode {list : List (Fin 16)} {link : Bool}
    (h : Returned list link cpu arrived after) : after.mode = arrived.mode := by
  rw [h.rest]

/-- A body that keeps the stack pointer, between a push and its pop. -/
theorem PushPop.level (h : PushPop push pop) (bus later : System) (hsaves : Saves push cpu)
    (hrestores : Restores push cpu bus later) (hwrites : writes Arm7tdmi.kStackPointer = false)
    (hbody : Arm7tdmi.Frame writes (cpu.executeThumbMemory ioCallbacks push bus).cpu arrived)
    (hmode : arrived.mode ∈ CpuMode.named) :
    ∃ after, arrived.executeThumbMemory ioCallbacks pop later = ⟨.executed, after, later⟩ ∧
      Returned (stackList push) (decodeThumbStackTransfer push).extraRegister cpu arrived after ∧
      Arm7tdmi.Frame (unsavedWrites push writes) cpu after := by
  obtain ⟨-, hcpu⟩ := h.push_executed bus hsaves.nonempty hsaves.ram
  rw [hcpu] at hbody
  have hstack := (hbody _ hwrites).trans
    (Function.update_self Arm7tdmi.kStackPointer _ cpu.registers)
  obtain ⟨after, hafter, hreturned⟩ :=
    h.pop_returned bus hsaves.nonempty hsaves.ram hsaves.aligned hmode hstack hrestores
  exact ⟨after, hafter, hreturned, unsaved_frame hbody hreturned⟩

theorem PushPop.push_mode (h : PushPop push pop) (bus : System) (hsaves : Saves push cpu) :
    (cpu.executeThumbMemory ioCallbacks push bus).cpu.mode = cpu.mode := by
  rw [(h.push_executed bus hsaves.nonempty hsaves.ram).2]
  rfl

/-- A push of a known number of words. -/
theorem PushPop.saves_of_length (h : PushPop push pop) {count : Nat}
    (hlength : ((BlockInstruction.thumbStack push).transfer cpu).registers.length = count + 1)
    (haligned : (cpu.registers Arm7tdmi.kStackPointer).toNat % 4 = 0)
    (hram : ∀ index < count + 1, ∀ lane < 4,
      InRam (((BlockInstruction.thumbStack push).transfer cpu).address index +
        BitVec.ofNat 32 lane)) : Saves push cpu := by
  refine ⟨fun hnil => ?_, haligned, fun index hindex => ?_⟩
  · rw [hnil] at hlength
    exact absurd hlength (Nat.succ_ne_zero count).symm
  · have hstores : ((BlockInstruction.thumbStack push).transfer cpu).load = false := h.stores
    rw [hstores, if_neg Bool.false_ne_true]
    exact hram index (hlength ▸ hindex)

end Level

/-! ## Every level -/

namespace Nested

variable {writes : Fin 16 → Bool} {cpu after : Arm7tdmi}

/-- Code that keeps the stack discipline keeps the stack pointer and every register that it may not
change, and it ends in a mode that the enumeration names. -/
theorem kept (h : Nested writes cpu after) (hmode : cpu.mode ∈ CpuMode.named) :
    writes Arm7tdmi.kStackPointer = false ∧ Arm7tdmi.Frame writes cpu after ∧
      after.mode ∈ CpuMode.named := by
  induction h with
  | done => exact ⟨rfl, .refl _, hmode⟩
  | step step hstack => exact ⟨hstack, step.execute_frame hmode, step.execute_named hmode⟩
  | append _ _ ihfirst ihsecond =>
      obtain ⟨hfirst, hframe, hmiddle⟩ := ihfirst hmode
      obtain ⟨hsecond, hrest, hended⟩ := ihsecond hmiddle
      refine ⟨Bool.or_eq_false_iff.mpr ⟨hfirst, hsecond⟩, ?_, hended⟩
      refine (hframe.mono fun index hindex => ?_).trans (hrest.mono fun index hindex => ?_)
      · rw [hindex, Bool.true_or]
      · rw [hindex, Bool.or_true]
  | saved h bus later hsaves _ hrestores ih =>
      -- the body starts in the mode of the push, and the pop ends in that of the body
      obtain ⟨hstack, hbody, harrived⟩ := ih ((h.push_mode bus hsaves).symm ▸ hmode)
      obtain ⟨after, hafter, hreturned, hframe⟩ :=
        h.level bus later hsaves hrestores hstack hbody harrived
      refine ⟨unsavedWrites_stack hstack, ?_⟩
      rw [hafter]
      exact ⟨hframe, hreturned.mode.symm ▸ harrived⟩

/-- A program that does not name the stack pointer is such code. -/
theorem run (program : List ProgramStep) (cpu : Arm7tdmi)
    (h : ∀ step ∈ program, step.writes Arm7tdmi.kStackPointer = false) :
    Nested (ProgramStep.programWrites program) cpu (ProgramStep.run program cpu) := by
  induction program generalizing cpu with
  | nil => exact .done
  | cons step program ih =>
      rw [List.forall_mem_cons] at h
      exact .append (.step step h.1) (ih (step.execute cpu) h.2)

/-- A subroutine whose body calls others to any depth gives back the registers that it has saved,
and changes no register but those that its body may change. -/
theorem call_kept {push pop : U16} (h : PushPop push pop) (hmode : cpu.mode ∈ CpuMode.named)
    (bus : System) (hsaves : Saves push cpu) {arrived : Arm7tdmi}
    (hbody : Nested writes (cpu.executeThumbMemory ioCallbacks push bus).cpu arrived)
    {later : System} (hrestores : Restores push cpu bus later) :
    (cpu.executeThumbMemory ioCallbacks push bus).status = .executed ∧
      ∃ after, arrived.executeThumbMemory ioCallbacks pop later = ⟨.executed, after, later⟩ ∧
        Returned (stackList push) (decodeThumbStackTransfer push).extraRegister cpu arrived
          after ∧
        Arm7tdmi.Frame (unsavedWrites push writes) cpu after := by
  obtain ⟨hstack, hframe, harrived⟩ := hbody.kept ((h.push_mode bus hsaves).symm ▸ hmode)
  exact ⟨(h.push_executed bus hsaves.nonempty hsaves.ram).1,
    h.level bus later hsaves hrestores hstack hframe harrived⟩

/-! ### A subroutine that calls another -/

/-- `PUSH {r4, r5, lr}` and `POP {r4, r5, pc}`. -/
theorem outer : PushPop 0xB530#16 0xBD30#16 := by
  constructor <;> decide

theorem caller_saves : Saves 0xB530#16 PushPop.caller :=
  @PushPop.saves_of_length _ _ PushPop.caller outer 2 (by decide) (by decide) (by decide)

/-- The processor in the subroutine. -/
def inside : Arm7tdmi := PushPop.caller.setRegister Arm7tdmi.kStackPointer 0x03007EF4#32

theorem inside_saves : Saves 0xB510#16 inside :=
  @PushPop.saves_of_length _ _ inside PushPop.callee 1 (by decide) (by decide) (by decide)

theorem pushed_inside (bus : System) :
    (PushPop.caller.executeThumbMemory ioCallbacks 0xB530#16 bus).cpu = inside := by
  rw [(outer.push_executed bus caller_saves.nonempty caller_saves.ram).2]
  rfl

/-- The body is `PUSH {r4, lr}`, `MOV r4, #7` and `POP {r4, pc}`. -/
theorem call_kept_outer :
    let bus : System := ⟨MemoryBus.initial, .reset⟩
    let pushed := PushPop.caller.executeThumbMemory ioCallbacks 0xB530#16 bus
    let inner := pushed.cpu.executeThumbMemory ioCallbacks 0xB510#16 pushed.bus
    let arrived := (ProgramStep.run [.thumb 0x2407#16] inner.cpu).executeThumbMemory ioCallbacks
      0xBD10#16 inner.bus
    pushed.status = .executed ∧
      ∃ after, arrived.cpu.executeThumbMemory ioCallbacks 0xBD30#16 pushed.bus =
          ⟨.executed, after, pushed.bus⟩ ∧
        Returned (stackList 0xB530#16) (decodeThumbStackTransfer 0xB530#16).extraRegister
          PushPop.caller arrived.cpu after ∧
        Arm7tdmi.Frame (unsavedWrites 0xB530#16
          (unsavedWrites 0xB510#16 (ProgramStep.programWrites [.thumb 0x2407#16]))) PushPop.caller
          after := by
  intro bus pushed inner arrived
  have hinside : pushed.cpu = inside := pushed_inside bus
  have hmove : ∀ step ∈ [ProgramStep.thumb 0x2407#16],
      step.writes Arm7tdmi.kStackPointer = false := by
    rw [List.forall_mem_singleton]
    decide
  have hbody := Nested.saved PushPop.callee pushed.bus inner.bus (hinside ▸ inside_saves)
    (.run [.thumb 0x2407#16] inner.cpu hmove) fun _ _ _ _ => rfl
  exact call_kept outer (by decide) bus caller_saves hbody fun _ _ _ _ => rfl

end Nested

end Gba.Core
