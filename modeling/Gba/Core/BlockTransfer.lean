import Gba.Core.ArmEncode
import Gba.Core.BankedRegisters
import Gba.Core.ThumbDecode

/-!
# Block transfers

The block data transfers of `execute_arm`: how an instruction of the class is executed, and what a
load leaves in the register file.
-/

namespace Gba.Core

/-! ## Register lists -/

theorem mem_listedRegisters {registerList : U16} {count : Nat} {index : Fin 16} :
    index ∈ listedRegisters registerList count ↔
      index.val < count ∧ registerListContains registerList index = true := by
  unfold listedRegisters registerListContains
  simp

theorem listedRegisters_nodup (registerList : U16) (count : Nat) :
    (listedRegisters registerList count).Nodup :=
  (List.nodup_finRange 16).filter _

/-- The registers below the program counter. -/
theorem mem_listedRegisters_fifteen {registerList : U16} {index : Fin 16} :
    index ∈ listedRegisters registerList 15 ↔
      index ≠ Arm7tdmi.kPc ∧ index ∈ listedRegisters registerList 16 := by
  rw [mem_listedRegisters, mem_listedRegisters]
  have hpc : index ≠ Arm7tdmi.kPc ↔ index.val < 15 := by
    rw [Ne, Fin.ext_iff]
    have := index.isLt
    show ¬index.val = 15 ↔ _
    omega
  have := index.isLt
  rw [hpc]
  constructor
  · rintro ⟨hlt, hlisted⟩
    exact ⟨hlt, by omega, hlisted⟩
  · rintro ⟨hlt, -, hlisted⟩
    exact ⟨hlt, hlisted⟩

/-- A list without the program counter. -/
theorem listedRegisters_without_pc {registerList : U16}
    (h : Arm7tdmi.kPc ∉ listedRegisters registerList 16) :
    listedRegisters registerList 16 = listedRegisters registerList 15 := by
  have hbit : registerList.getLsbD 15 = false := by
    rw [mem_listedRegisters] at h
    simpa [registerListContains, Arm7tdmi.kPc] using h
  refine List.filter_congr fun index _ => ?_
  have hindex := index.isLt
  by_cases hlast : index.val = 15
  · rw [hlast, hbit]
    simp
  · rw [decide_eq_true hindex, decide_eq_true (by omega : index.val < 15)]

/-- Three bits name a low register. -/
theorem lowRegisterField_lt (instruction : U16) (shift : Nat) :
    (lowRegisterField instruction shift).val < 8 := by
  have hlt := (instruction.extractLsb' shift 3).isLt
  show ((instruction.extractLsb' shift 3).setWidth 4).toNat < 8
  rw [BitVec.toNat_setWidth]
  omega

/-- The upper bits of a push or a pop. -/
theorem thumbStackTransfer_nibble {instruction : U16}
    (h : canDecodeThumbStackTransfer instruction = true) :
    instruction.extractLsb' 12 4 = 0xB#4 := by
  have hmask : (instruction &&& 0xFE00#16).extractLsb' 12 4 = instruction.extractLsb' 12 4 := by
    rw [BitVec.extractLsb'_and]
    exact BitVec.and_allOnes
  unfold canDecodeThumbStackTransfer at h
  simp only [Bool.or_eq_true, decide_eq_true_eq] at h
  rw [← hmask]
  rcases h with hpush | hpop
  · rw [hpush]
    rfl
  · rw [hpop]
    rfl

namespace Arm7tdmi

/-! ## The class -/

section Class

variable {σ : Type} (callbacks : MemoryBusIoCallbacks σ)

/-- The class of block transfers comes after no class that it overlaps with. -/
theorem executeArmMemory_blockTransfer {instruction : U32}
    (h : canDecodeBlockDataTransfer instruction = true) (cpu : Arm7tdmi) (bus : BusState σ) :
    executeArmMemory callbacks instruction cpu bus =
      if cpu.conditionPassed (decodeCondition instruction) then
        cpu.executeBlockTransfer callbacks (decodeBlockDataTransfer instruction)
          (instruction.getLsbD 22) bus
      else ⟨.skippedCondition, cpu, bus⟩ := by
  have hclass := h
  unfold canDecodeBlockDataTransfer at hclass
  simp only [Bool.and_eq_true, decide_eq_true_eq] at hclass
  obtain ⟨⟨⟨hgroup, -⟩, -⟩, hcondition⟩ := hclass
  have hunconditional : conditionField instruction ≠ 0xF#4 := by
    simpa [supportedCondition] using hcondition
  -- bits 25 to 27 tell the class from the ones before it
  have hsystem : ∀ v : BitVec 4, v.extractLsb' 1 3 ≠ 0x4#3 → instruction.extractLsb' 24 4 ≠ v := by
    intro v hv heq
    have hinner := field_of_field heq (t := 25) (m := 3) (by decide) (by decide)
    rw [hgroup] at hinner
    exact hv hinner.symm
  have hinterrupt : canDecodeSoftwareInterrupt instruction = false := by
    unfold canDecodeSoftwareInterrupt
    rw [decide_eq_false (hsystem 0xF#4 (by decide))]
    simp
  have hcoprocessor : isCoprocessorSpace instruction = false := by
    unfold isCoprocessorSpace
    rw [decide_eq_false (hsystem 0xE#4 (by decide)), decide_eq_false (hsystem 0xF#4 (by decide))]
    rfl
  have hswap : canDecodeSwap instruction = false := by
    have hfield : instruction.extractLsb' 23 5 ≠ 0x2#5 := by
      intro heq
      have hinner := field_of_field heq (t := 25) (m := 3) (by decide) (by decide)
      rw [hgroup] at hinner
      exact absurd hinner (by decide)
    unfold canDecodeSwap
    rw [decide_eq_false hfield]
    simp
  unfold executeArmMemory
  simp only [if_neg hunconditional, hinterrupt, hcoprocessor, hswap, h, Bool.false_eq_true,
    if_false, if_true]
  unfold decodeBlockDataTransfer
  dsimp only
  cases cpu.conditionPassed (decodeCondition instruction) <;> rfl

/-- A store depends on the words of its list only. -/
theorem storeWords_congr {value other : Fin 16 → U32} {registers : List (Fin 16)}
    (h : ∀ index ∈ registers, value index = other index) (address : U32) (bus : BusState σ) :
    storeWords callbacks value registers address bus =
      storeWords callbacks other registers address bus := by
  induction registers generalizing address bus with
  | nil => rfl
  | cons index rest ih =>
    have hrest : ∀ index ∈ rest, value index = other index :=
      fun index hindex => h index (List.mem_cons_of_mem _ hindex)
    unfold storeWords
    rw [h index List.mem_cons_self]
    congr 1
    funext stored
    exact ih hrest _ stored

end Class

/-! ## What a load writes -/

/-- The registers of a list written with their words. -/
theorem writeLoaded_current (cpu : Arm7tdmi) (registerList : U16) (loaded : Fin 16 → U32) :
    cpu.writeLoaded registerList false loaded =
      { cpu with registers := fun index =>
          if index ∈ listedRegisters registerList 15 then loaded index
          else cpu.registers index } := by
  unfold writeLoaded
  generalize listedRegisters registerList 15 = registers
  simp only [Bool.false_eq_true, if_false]
  induction registers using List.reverseRecOn with
  | nil => simp
  | append_singleton registers index ih =>
    rw [List.foldl_append, ih]
    show Arm7tdmi.setRegister _ index _ = _
    unfold setRegister
    congr 1
    funext other
    rw [Function.update_apply]
    by_cases hother : other = index
    · simp [hother]
    · simp [hother]

/-- The registers of a list written to the user bank: the stack pointer and the link register go to
its slots, the others to the visible registers. -/
theorem writeLoaded_user (cpu : Arm7tdmi) (registerList : U16) (loaded : Fin 16 → U32) :
    cpu.writeLoaded registerList true loaded =
      { cpu with
        registers := fun index =>
          if index ∈ listedRegisters registerList 15 ∧ index ≠ kStackPointer ∧
              index ≠ kLinkRegister then loaded index
          else cpu.registers index
        sp := if kStackPointer ∈ listedRegisters registerList 15 then
            Function.update cpu.sp .user (loaded kStackPointer) else cpu.sp
        lr := if kLinkRegister ∈ listedRegisters registerList 15 then
            Function.update cpu.lr .user (loaded kLinkRegister) else cpu.lr } := by
  unfold writeLoaded
  generalize listedRegisters registerList 15 = registers
  simp only [if_true]
  induction registers using List.reverseRecOn with
  | nil => simp
  | append_singleton registers index ih =>
    rw [List.foldl_append, ih]
    show Arm7tdmi.writeUserBankValue _ index _ = _
    unfold writeUserBankValue setRegister
    have hne : kLinkRegister ≠ kStackPointer := by decide
    have hagain (slots : RegisterBank → U32) (value : U32) (p : Prop) [Decidable p] :
        Function.update (if p then Function.update slots .user value else slots) .user value =
          Function.update slots .user value := by
      split
      · exact Function.update_idem ..
      · rfl
    by_cases hsp : index = kStackPointer
    · subst hsp
      simp only [if_true, hagain, List.mem_append, List.mem_singleton, hne, or_false, or_true]
      congr 1
      funext other
      by_cases hother : other = kStackPointer <;> simp [hother]
    · by_cases hlr : index = kLinkRegister
      · subst hlr
        simp only [if_neg hsp, if_true, hagain, List.mem_append, List.mem_singleton, hne.symm,
          or_false, or_true]
        congr 1
        funext other
        by_cases hother : other = kLinkRegister <;> simp [hother]
      · simp only [if_neg hsp, if_neg hlr, List.mem_append, List.mem_singleton, Ne.symm hsp,
          Ne.symm hlr, or_false]
        congr 1
        funext other
        rw [Function.update_apply]
        by_cases hother : other = index <;> simp [hother, hsp, hlr]

end Arm7tdmi

end Gba.Core
