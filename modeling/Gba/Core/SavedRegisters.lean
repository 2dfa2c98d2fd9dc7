import Gba.Core.RamTransfers
import Gba.Core.RegisterFrame

/-!
# Registers saved over a body

What a push saves in work RAM comes back with the pop, whatever has run in between, as long as the
instructions in between do not name the stack pointer and the saved words are still there: the
convention by which a subroutine keeps the registers of its caller.
-/

namespace Gba.Core

/-- The bytes of a block are the same in two memories. -/
def BlockTransfer.Intact (t : BlockTransfer) (memory later : MemoryBus) : Prop :=
  ∀ index < t.registers.length, ∀ lane < 4,
    later.cell (t.address index + BitVec.ofNat 32 lane) =
      memory.cell (t.address index + BitVec.ofNat 32 lane)

/-- An intact word is the word. -/
theorem BlockTransfer.Intact.cells {t : BlockTransfer} {memory later : MemoryBus}
    (h : t.Intact memory later) {index : Nat} (hindex : index < t.registers.length) :
    later.cells (t.address index) 4 = memory.cells (t.address index) 4 :=
  later.cells_eq (h index hindex)

namespace BlockInstruction

variable {σ : Type} (callbacks : MemoryBusIoCallbacks σ) {store reload : BlockInstruction}
  {cpu later : Arm7tdmi}

/-- A load of a block that a store left behind takes the stored values as long as the block is
intact, whatever else has become of the memory. -/
theorem reload_exact (h : store.Accepted cpu) (bus : BusState σ) {other : BusState σ}
    (hstore : (store.transfer cpu).load = false) (hram : (store.transfer cpu).WithinRam)
    (haligned : (store.transfer cpu).first.toNat % 4 = 0)
    (hintact : (store.transfer cpu).Intact (store.execute callbacks cpu bus).bus.memory
      other.memory)
    (haccepted : reload.Accepted later) (hnames : reload.NamesMode later)
    (hload : (reload.transfer later).load = true)
    (hfirst : (reload.transfer later).first = (store.transfer cpu).first)
    (hlength : (reload.transfer later).registers.length = (store.transfer cpu).registers.length) :
    ∃ after, reload.execute callbacks later other = ⟨.executed, after, other⟩ ∧
      (reload.transfer later).Loads
        (fun index => BlockTransfer.storedValue cpu ((store.transfer cpu).registers.getD index 0))
        later after := by
  obtain ⟨memory, hexecute, hstores⟩ := store_exact callbacks h bus hstore hram
  rw [hexecute] at hintact
  refine load_exact callbacks haccepted other hload hnames fun index hindex => ?_
  have hplace : index < (store.transfer cpu).registers.length := hlength ▸ hindex
  have haddress : (reload.transfer later).address index = (store.transfer cpu).address index := by
    unfold BlockTransfer.address
    rw [hfirst]
  have hword : InRam ((store.transfer cpu).address index) := by
    have hlanes := hram index hplace
    rw [hstore, if_neg Bool.false_ne_true] at hlanes
    simpa using hlanes 0 (by decide)
  have hnumber : ((store.transfer cpu).address index).toNat % 4 = 0 :=
    wordAddress_aligned haligned index
  rw [haddress, BusState.read32_cells callbacks other (BusState.internal_of_inRam hword), rotated_of_aligned _ hnumber,
    hintact.cells hplace]
  refine congrArg some ((hstores.word_cells hplace).trans ?_)
  simp [hplace]

end BlockInstruction

/-! ## Subroutines -/

/-- A push and a pop of the same registers; where the push saves the link register the pop loads the
program counter. -/
structure PushPop (push pop : U16) : Prop where
  pushes : canDecodeThumbStackTransfer push = true
  pops : canDecodeThumbStackTransfer pop = true
  stores : (decodeThumbStackTransfer push).load = false
  loads : (decodeThumbStackTransfer pop).load = true
  list : (decodeThumbStackTransfer pop).registerList = (decodeThumbStackTransfer push).registerList
  extra : (decodeThumbStackTransfer pop).extraRegister =
    (decodeThumbStackTransfer push).extraRegister

/-- What a subroutine gives back: the saved registers and the stack pointer are those of the caller,
and where the link register was saved it returns there. The other registers are those that the body
has left. -/
structure Returned (list : List (Fin 16)) (link : Bool) (caller arrived after : Arm7tdmi) :
    Prop where
  saved : ∀ index ∈ list, after.registers index = caller.registers index
  stack : after.registers Arm7tdmi.kStackPointer = caller.registers Arm7tdmi.kStackPointer
  returns : link = true →
    after.registers Arm7tdmi.kPc = caller.registers Arm7tdmi.kLinkRegister &&& ~~~0x1#32 ∧
      after.thumbState = (caller.registers Arm7tdmi.kLinkRegister).getLsbD 0
  continues : link = false →
    after.registers Arm7tdmi.kPc = arrived.registers Arm7tdmi.kPc ∧
      after.thumbState = arrived.thumbState
  others : ∀ index ∉ list, index ≠ Arm7tdmi.kStackPointer → index ≠ Arm7tdmi.kPc →
    after.registers index = arrived.registers index
  rest : after = { arrived with registers := after.registers, thumbState := after.thumbState }

/-- The low registers of a push or a pop. -/
def stackList (instruction : U16) : List (Fin 16) :=
  listedRegisters ((decodeThumbStackTransfer instruction).registerList.setWidth 16) 8

theorem lt_of_mem_stackList {instruction : U16} {index : Fin 16}
    (h : index ∈ stackList instruction) : index.val < 8 := (mem_listedRegisters.mp h).1

theorem pc_not_mem_stackList {instruction : U16} : Arm7tdmi.kPc ∉ stackList instruction :=
  fun hmem => absurd (lt_of_mem_stackList hmem) (by decide)

namespace PushPop

variable {push pop : U16} (h : PushPop push pop)
include h

theorem push_registers (cpu : Arm7tdmi) :
    ((BlockInstruction.thumbStack push).transfer cpu).registers =
      stackList push ++ if (decodeThumbStackTransfer push).extraRegister then
        [Arm7tdmi.kLinkRegister] else [] := by
  show stackList push ++ (if (decodeThumbStackTransfer push).extraRegister then
    [if (decodeThumbStackTransfer push).load then Arm7tdmi.kPc else Arm7tdmi.kLinkRegister]
      else []) = _
  rw [h.stores]
  rfl

theorem pop_registers (cpu : Arm7tdmi) :
    ((BlockInstruction.thumbStack pop).transfer cpu).registers =
      stackList push ++ if (decodeThumbStackTransfer push).extraRegister then [Arm7tdmi.kPc]
        else [] := by
  show stackList pop ++ (if (decodeThumbStackTransfer pop).extraRegister then
    [if (decodeThumbStackTransfer pop).load then Arm7tdmi.kPc else Arm7tdmi.kLinkRegister]
      else []) = _
  unfold stackList
  rw [h.loads, h.list, h.extra]
  rfl

theorem length_registers (cpu later : Arm7tdmi) :
    ((BlockInstruction.thumbStack pop).transfer later).registers.length =
      ((BlockInstruction.thumbStack push).transfer cpu).registers.length := by
  rw [h.push_registers cpu, h.pop_registers later]
  cases (decodeThumbStackTransfer push).extraRegister <;> simp

theorem push_first (cpu : Arm7tdmi) :
    ((BlockInstruction.thumbStack push).transfer cpu).first =
      cpu.registers Arm7tdmi.kStackPointer - BitVec.ofNat 32
        ((BlockInstruction.thumbStack push).transfer cpu).registers.length * 4 := by
  show blockFirst _ ((BlockInstruction.thumbStack push).transfer cpu).registers.length
    (!(decodeThumbStackTransfer push).load) (decodeThumbStackTransfer push).load = _
  rw [h.stores]
  rfl

/-- The stack pointer goes down to the first word of the block. -/
theorem push_base (cpu : Arm7tdmi) :
    ((BlockInstruction.thumbStack push).transfer cpu).baseWritten cpu =
      cpu.setRegister Arm7tdmi.kStackPointer
        ((BlockInstruction.thumbStack push).transfer cpu).first := by
  rw [h.push_first cpu]
  show cpu.setRegister Arm7tdmi.kStackPointer (blockEnd _
    ((BlockInstruction.thumbStack push).transfer cpu).registers.length
      (decodeThumbStackTransfer push).load) = _
  rw [h.stores]
  rfl

theorem pop_first (later : Arm7tdmi) :
    ((BlockInstruction.thumbStack pop).transfer later).first =
      later.registers Arm7tdmi.kStackPointer := by
  show blockFirst _ ((BlockInstruction.thumbStack pop).transfer later).registers.length
    (!(decodeThumbStackTransfer pop).load) (decodeThumbStackTransfer pop).load = _
  rw [h.loads]
  rfl

theorem pop_writeBack (later : Arm7tdmi) :
    ((BlockInstruction.thumbStack pop).transfer later).writeBack =
      some (later.registers Arm7tdmi.kStackPointer + BitVec.ofNat 32
        ((BlockInstruction.thumbStack pop).transfer later).registers.length * 4) := by
  show some (blockEnd _ ((BlockInstruction.thumbStack pop).transfer later).registers.length
    (decodeThumbStackTransfer pop).load) = _
  rw [h.loads]
  rfl

/-- A block below an aligned stack pointer is aligned. -/
theorem push_aligned {cpu : Arm7tdmi}
    (haligned : (cpu.registers Arm7tdmi.kStackPointer).toNat % 4 = 0) :
    ((BlockInstruction.thumbStack push).transfer cpu).first.toNat % 4 = 0 := by
  have hfour : BitVec.toNat (4 : U32) = 4 := rfl
  rw [h.push_first cpu, BitVec.toNat_sub, BitVec.toNat_mul, hfour]
  omega

/-- The pop loads the listed registers, and the program counter where the link register was
saved. -/
theorem mem_pop {later : Arm7tdmi} {index : Fin 16} :
    index ∈ ((BlockInstruction.thumbStack pop).transfer later).registers ↔
      index ∈ stackList push ∨
        (decodeThumbStackTransfer push).extraRegister = true ∧ index = Arm7tdmi.kPc := by
  rw [h.pop_registers later, List.mem_append]
  cases (decodeThumbStackTransfer push).extraRegister <;> simp

theorem stackPointer_not_mem_pop {later : Arm7tdmi} :
    Arm7tdmi.kStackPointer ∉ ((BlockInstruction.thumbStack pop).transfer later).registers := by
  rw [h.mem_pop]
  rintro (hmem | ⟨-, hpc⟩)
  · exact absurd (lt_of_mem_stackList hmem) (by decide)
  · exact absurd hpc (by decide)

section Loads

variable {cpu later after : Arm7tdmi}
  (hloads : ((BlockInstruction.thumbStack pop).transfer later).Loads
    (fun index => BlockTransfer.storedValue cpu
      (((BlockInstruction.thumbStack push).transfer cpu).registers.getD index 0)) later after)
include hloads

/-- A listed register has the same place in both blocks. -/
theorem saved_of_loads {index : Fin 16} (hmem : index ∈ stackList push) :
    after.registers index = cpu.registers index := by
  have hpc : index ≠ Arm7tdmi.kPc := fun heq => pc_not_mem_stackList (heq ▸ hmem)
  obtain ⟨place, hplace, rfl⟩ := List.getElem_of_mem hmem
  have hshort : place < ((BlockInstruction.thumbStack pop).transfer later).registers.length := by
    rw [h.pop_registers later, List.length_append]
    omega
  have hpopped : ((BlockInstruction.thumbStack pop).transfer later).registers[place] =
      (stackList push)[place] := by
    rw [List.getElem_of_eq (h.pop_registers later), List.getElem_append_left hplace]
  have hpushed : ((BlockInstruction.thumbStack push).transfer cpu).registers.getD place 0 =
      (stackList push)[place] := by
    rw [h.push_registers cpu]
    simp [List.getElem?_append_left hplace, hplace]
  have hstack : ((BlockInstruction.thumbStack pop).transfer later).registers[place] ≠
      Arm7tdmi.kStackPointer := fun heq =>
    h.stackPointer_not_mem_pop (heq ▸ List.getElem_mem hshort)
  have hloaded := hloads.listed place hshort (hpopped ▸ hpc) fun _ => hstack
  rw [hpopped] at hloaded
  rw [hloaded, hpushed]
  exact if_neg hpc

/-- The last word of the blocks is the link register in the one and the program counter in the
other. -/
theorem pc_of_loads (hlink : (decodeThumbStackTransfer push).extraRegister = true) :
    after.registers Arm7tdmi.kPc = cpu.registers Arm7tdmi.kLinkRegister &&& ~~~0x1#32 ∧
      after.thumbState = (cpu.registers Arm7tdmi.kLinkRegister).getLsbD 0 := by
  have hplace : (stackList push).length <
      ((BlockInstruction.thumbStack pop).transfer later).registers.length := by
    rw [h.pop_registers later, hlink]
    simp
  have hpopped : ((BlockInstruction.thumbStack pop).transfer later).registers[
      (stackList push).length] = Arm7tdmi.kPc := by
    rw [List.getElem_of_eq (h.pop_registers later)]
    simp [hlink]
  have hpushed : ((BlockInstruction.thumbStack push).transfer cpu).registers.getD
      (stackList push).length 0 = Arm7tdmi.kLinkRegister := by
    rw [h.push_registers cpu, hlink]
    simp
  have hloaded := hloads.pc (stackList push).length hplace hpopped
  rw [hpushed] at hloaded
  exact hloaded

/-- The pop puts the words of the push back. -/
theorem returned_of_loads
    (hstack : later.registers Arm7tdmi.kStackPointer =
      ((BlockInstruction.thumbStack push).transfer cpu).first) :
    Returned (stackList push) (decodeThumbStackTransfer push).extraRegister cpu later after := by
  refine ⟨fun index hmem => h.saved_of_loads hloads hmem, ?stack, h.pc_of_loads hloads, ?continues,
    ?others, hloads.rest⟩
  case stack =>
    refine (hloads.base _ (h.pop_writeBack later) h.stackPointer_not_mem_pop).trans ?_
    rw [hstack, h.push_first cpu, h.length_registers cpu later]
    exact BitVec.sub_add_cancel _ _
  case continues =>
    intro hlink
    have hpc : Arm7tdmi.kPc ∉ ((BlockInstruction.thumbStack pop).transfer later).registers := by
      rw [h.mem_pop, hlink]
      rintro (hmem | ⟨hfalse, -⟩)
      · exact pc_not_mem_stackList hmem
      · exact Bool.false_ne_true hfalse
    have hne : Arm7tdmi.kPc ≠ Arm7tdmi.kStackPointer := by decide
    exact ⟨hloads.others _ hpc fun _ => hne, hloads.thumbState hpc⟩
  case others =>
    intro index hmem hstackPointer hpc
    refine hloads.others index ?_ fun _ => hstackPointer
    rw [h.mem_pop]
    rintro (hlisted | ⟨-, heq⟩)
    · exact hmem hlisted
    · exact hpc heq

end Loads

section Saving

variable {cpu : Arm7tdmi} (bus : System)
  (hnonempty : ((BlockInstruction.thumbStack push).transfer cpu).registers ≠ [])
  (hram : ((BlockInstruction.thumbStack push).transfer cpu).WithinRam)
include hnonempty hram

/-- The push executes, and of the processor it moves the stack pointer only. -/
theorem push_executed :
    (cpu.executeThumbMemory ioCallbacks push bus).status = .executed ∧
      (cpu.executeThumbMemory ioCallbacks push bus).cpu =
        cpu.setRegister Arm7tdmi.kStackPointer
          ((BlockInstruction.thumbStack push).transfer cpu).first := by
  have hpush : (BlockInstruction.thumbStack push).Accepted cpu := ⟨h.pushes, hnonempty⟩
  obtain ⟨memory, hexecute, -⟩ :=
    BlockInstruction.store_exact ioCallbacks hpush bus h.stores hram
  have hpushed : cpu.executeThumbMemory ioCallbacks push bus = _ := hexecute
  rw [hpushed]
  exact ⟨rfl, h.push_base cpu⟩

/-- The pop gives back what the push has saved, once the stack pointer is where the push has put
it. -/
theorem pop_returned (haligned : (cpu.registers Arm7tdmi.kStackPointer).toNat % 4 = 0)
    {arrived : Arm7tdmi} (hmode : arrived.mode ∈ CpuMode.named)
    (hstack : arrived.registers Arm7tdmi.kStackPointer =
      ((BlockInstruction.thumbStack push).transfer cpu).first) {later : System}
    (hintact : ((BlockInstruction.thumbStack push).transfer cpu).Intact
      (cpu.executeThumbMemory ioCallbacks push bus).bus.memory later.memory) :
    ∃ after, arrived.executeThumbMemory ioCallbacks pop later = ⟨.executed, after, later⟩ ∧
      Returned (stackList push) (decodeThumbStackTransfer push).extraRegister cpu arrived
        after := by
  have hpush : (BlockInstruction.thumbStack push).Accepted cpu := ⟨h.pushes, hnonempty⟩
  have hpop : (BlockInstruction.thumbStack pop).Accepted arrived := by
    refine ⟨h.pops, fun hnil => hnonempty ?_⟩
    have hlength := h.length_registers cpu arrived
    rw [hnil] at hlength
    exact List.length_eq_zero_iff.mp hlength.symm
  have hfirst : ((BlockInstruction.thumbStack pop).transfer arrived).first =
      ((BlockInstruction.thumbStack push).transfer cpu).first :=
    (h.pop_first arrived).trans hstack
  obtain ⟨after, hafter, hloads⟩ := BlockInstruction.reload_exact ioCallbacks hpush bus h.stores
    hram (h.push_aligned haligned) hintact hpop (fun _ _ => hmode) h.loads hfirst
    (h.length_registers cpu arrived)
  exact ⟨after, hafter, h.returned_of_loads hloads hstack⟩

end Saving

/-- A subroutine that saves registers gives them back: between a push and its pop any program may
run, with whatever memory its instructions meet, as long as none of them names the stack pointer and
the pop meets the saved words. -/
theorem call_returns {cpu : Arm7tdmi} (hmode : cpu.mode ∈ CpuMode.named) (bus : System)
    (hnonempty : ((BlockInstruction.thumbStack push).transfer cpu).registers ≠ [])
    (haligned : (cpu.registers Arm7tdmi.kStackPointer).toNat % 4 = 0)
    (hram : ((BlockInstruction.thumbStack push).transfer cpu).WithinRam)
    {body : List ProgramStep}
    (hbody : ∀ step ∈ body, step.writes Arm7tdmi.kStackPointer = false) {later : System}
    (hintact : ((BlockInstruction.thumbStack push).transfer cpu).Intact
      (cpu.executeThumbMemory ioCallbacks push bus).bus.memory later.memory) :
    let pushed := cpu.executeThumbMemory ioCallbacks push bus
    let arrived := ProgramStep.run body pushed.cpu
    pushed.status = .executed ∧
      ∃ after, arrived.executeThumbMemory ioCallbacks pop later = ⟨.executed, after, later⟩ ∧
        Returned (stackList push) (decodeThumbStackTransfer push).extraRegister cpu arrived
          after := by
  obtain ⟨hstatus, hcpu⟩ := h.push_executed bus hnonempty hram
  intro pushed arrived
  have hstart : pushed.cpu.mode ∈ CpuMode.named := by
    rw [show pushed.cpu = _ from hcpu]
    exact hmode
  -- the body leaves the stack pointer where the push has put it
  obtain ⟨hframe, hended⟩ := ProgramStep.run_written body hstart
  have hstack : arrived.registers Arm7tdmi.kStackPointer =
      ((BlockInstruction.thumbStack push).transfer cpu).first := by
    refine (hframe _ (ProgramStep.programWrites_false hbody)).trans ?_
    rw [show pushed.cpu = _ from hcpu]
    exact Function.update_self Arm7tdmi.kStackPointer _ cpu.registers
  exact ⟨hstatus, h.pop_returned bus hnonempty hram haligned hended hstack hintact⟩

/-! ### A subroutine that uses `r4` -/

omit h in
/-- `PUSH {r4, lr}` and `POP {r4, pc}`. -/
theorem callee : PushPop 0xB510#16 0xBD10#16 := by
  constructor <;> decide

/-- A processor with its stack in IWRAM. -/
def caller : Arm7tdmi := Arm7tdmi.reset.setRegister Arm7tdmi.kStackPointer 0x03007F00#32

omit h in
/-- `MOV r4, #7` between the two. -/
theorem call_returns_callee :
    let pushed := caller.executeThumbMemory ioCallbacks 0xB510#16 ⟨MemoryBus.initial, .reset⟩
    let arrived := ProgramStep.run [.thumb 0x2407#16] pushed.cpu
    pushed.status = .executed ∧
      ∃ after, arrived.executeThumbMemory ioCallbacks 0xBD10#16 pushed.bus =
          ⟨.executed, after, pushed.bus⟩ ∧
        Returned (stackList 0xB510#16) (decodeThumbStackTransfer 0xB510#16).extraRegister caller
          arrived after := by
  have hlength : ((BlockInstruction.thumbStack 0xB510#16).transfer caller).registers.length = 2 := by
    decide
  have hram : ((BlockInstruction.thumbStack 0xB510#16).transfer caller).WithinRam := by
    unfold BlockTransfer.WithinRam
    rw [hlength]
    decide
  exact @call_returns 0xB510#16 0xBD10#16 callee caller (by decide) ⟨MemoryBus.initial, .reset⟩
    (fun hnil => by rw [hnil] at hlength; exact absurd hlength (by decide)) (by decide) hram
    [.thumb 0x2407#16] (by simp only [List.forall_mem_cons]; decide) _ fun _ _ _ _ => rfl

end PushPop

end Gba.Core
