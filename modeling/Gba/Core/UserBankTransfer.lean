import Gba.Core.BlockTransfer

/-!
# User-bank transfers

The block transfers with the S bit and without the program counter, which move the registers of
user mode while another mode executes.
-/

namespace Gba.Core

/-! ## What a mode sees -/

/-- The value that a mode sees under the name of a register. -/
def RegisterFile.view (f : RegisterFile) (mode : CpuMode) (index : Fin 16) : U32 :=
  match mode.banked (.register index) with
  | some cell => f.banked cell
  | none => if index = Arm7tdmi.kPc then f.pc else f.low ⟨index.val % 8, Nat.mod_lt _ (by decide)⟩

/-- Words are loaded into the registers that a mode sees under listed names, and nowhere else. -/
structure LoadsInto (mode : CpuMode) (registers : List (Fin 16)) (loaded : Fin 16 → U32)
    (before after : RegisterFile) : Prop where
  listed : ∀ index ∈ registers, after.view mode index = loaded index
  unlisted : ∀ index ∉ registers, after.view mode index = before.view mode index
  hidden : ∀ cell, (∀ index, mode.banked (.register index) ≠ some cell) →
    after.banked cell = before.banked cell

namespace Arm7tdmi

/-- The registers that are not banked. -/
theorem unbanked_cases {mode : CpuMode} (hmode : mode ∈ CpuMode.named) {index : Fin 16}
    (h : mode.banked (.register index) = none) : index.val < 8 ∨ index = kPc := by
  obtain ⟨bank, hbank⟩ := registerBank_of_named hmode
  unfold CpuMode.banked at h
  rw [hbank] at h
  dsimp only at h
  split_ifs at h with hhigh hsp hlr
  · cases h
  · cases h
  · have hindex := index.isLt
    rw [Fin.ext_iff] at hsp hlr ⊢
    simp only [kStackPointer, kLinkRegister, kPc] at hsp hlr ⊢
    omega

/-- The visible registers are those that the current mode sees. -/
theorem registers_eq_view (cpu : Arm7tdmi) (hmode : cpu.mode ∈ CpuMode.named) (index : Fin 16) :
    cpu.registers index = cpu.registerFile.view cpu.mode index := by
  unfold RegisterFile.view
  cases hcell : cpu.mode.banked (.register index) with
  | some cell => exact Option.some.inj (read_banked hcell)
  | none =>
    rcases unbanked_cases hmode hcell with hlow | rfl
    · have hne : index ≠ kPc := by
        rintro rfl
        exact absurd hlow (by decide)
      dsimp only
      rw [if_neg hne]
      show _ = cpu.registers _
      congr 1
      exact Fin.ext (Nat.mod_eq_of_lt hlow).symm
    · exact (if_pos rfl).symm

/-- What a later switch to a mode observes. -/
theorem switchMode_registers (cpu : Arm7tdmi) {mode : CpuMode} (hmode : mode ∈ CpuMode.named)
    (index : Fin 16) : (cpu.switchMode mode).registers index = cpu.registerFile.view mode index := by
  have hnamed : (cpu.switchMode mode).mode ∈ CpuMode.named := by
    rw [switchMode_mode]
    exact hmode
  rw [registers_eq_view _ hnamed, switchMode_mode, switchMode_registerFile]
  unfold RegisterFile.view
  cases mode.banked (.register index) with
  | some cell => cases cell <;> rfl
  | none => rfl

/-! ## The user bank -/

/-- A value written to the slot of the user bank. -/
theorem writeSlot (mode : CpuMode) (slots : RegisterBank → U32) (visible : U32)
    (bank : RegisterBank) (value : U32) (listed : Prop) [Decidable listed] :
    (if mode.registerBank = some bank then visible
      else (if listed then Function.update slots .user value else slots) bank) =
      if bank = .user ∧ mode.registerBank ≠ some .user ∧ listed then value
      else if mode.registerBank = some bank then visible else slots bank := by
  by_cases hbank : mode.registerBank = some bank
  · have hstale : ¬(bank = .user ∧ mode.registerBank ≠ some .user ∧ listed) := by
      rintro ⟨rfl, hne, -⟩
      exact hne hbank
    rw [if_pos hbank, if_neg hstale, if_pos hbank]
  · rw [if_neg hbank, if_neg hbank]
    by_cases hlisted : listed
    · rw [if_pos hlisted, Function.update_apply]
      by_cases huser : bank = .user
      · subst huser
        rw [if_pos rfl, if_pos ⟨rfl, hbank, hlisted⟩]
      · rw [if_neg huser, if_neg fun h => huser h.1]
    · rw [if_neg hlisted, if_neg fun h => hlisted h.2.2]

/-- A load into the user bank: `r8` to `r12` go to the registers that the current mode sees, and the
stack pointer and the link register to slots that are stale while a mode uses them. -/
theorem writeLoaded_user_banked (cpu : Arm7tdmi) (registerList : U16) (loaded : Fin 16 → U32)
    (cell : BankedRegister) :
    (cpu.writeLoaded registerList true loaded).registerFile.banked cell =
      match cell with
      | .high fiq index =>
          if (cpu.mode = .fiq) = (fiq = true) ∧
              highRegister index ∈ listedRegisters registerList 15 then loaded (highRegister index)
          else cpu.registerFile.high fiq index
      | .sp bank =>
          if bank = .user ∧ cpu.mode.registerBank ≠ some .user ∧
              kStackPointer ∈ listedRegisters registerList 15 then loaded kStackPointer
          else cpu.registerFile.sp bank
      | .lr bank =>
          if bank = .user ∧ cpu.mode.registerBank ≠ some .user ∧
              kLinkRegister ∈ listedRegisters registerList 15 then loaded kLinkRegister
          else cpu.registerFile.lr bank
      | .savedPsr bank => cpu.savedPsr bank := by
  rw [writeLoaded_user]
  cases cell with
  | high fiq index =>
    -- no banked high register is `r13` or `r14`, so the store to the current registers takes it
    have hsp : highRegister index ≠ kStackPointer := by grind [highRegister, kStackPointer]
    have hlr : highRegister index ≠ kLinkRegister := by grind [highRegister, kLinkRegister]
    show (if (cpu.mode = CpuMode.fiq) = (fiq = true) then
        (fun index : Fin 5 => if highRegister index ∈ listedRegisters registerList 15 ∧
            highRegister index ≠ kStackPointer ∧ highRegister index ≠ kLinkRegister then
          loaded (highRegister index) else cpu.registers (highRegister index))
      else if fiq then cpu.fiqR8R12 else cpu.sharedR8R12) index = _
    have hvisible : cpu.registers (highRegister index) = cpu.r8R12 index := rfl
    unfold registerFile
    dsimp only
    by_cases hmode : (cpu.mode = CpuMode.fiq) = (fiq = true)
    · rw [if_pos hmode, if_pos hmode]
      by_cases hlisted : highRegister index ∈ listedRegisters registerList 15
      · rw [if_pos ⟨hlisted, hsp, hlr⟩, if_pos ⟨hmode, hlisted⟩]
      · rw [if_neg fun h => hlisted h.1, if_neg fun h => hlisted h.2, hvisible]
    · have hother : ¬((cpu.mode = CpuMode.fiq) = (fiq = true) ∧
          highRegister index ∈ listedRegisters registerList 15) := fun h => hmode h.1
      rw [if_neg hmode, if_neg hmode, if_neg hother]
  | sp bank =>
    show (if cpu.mode.registerBank = some bank then
        (if kStackPointer ∈ listedRegisters registerList 15 ∧ kStackPointer ≠ kStackPointer ∧
          kStackPointer ≠ kLinkRegister then loaded kStackPointer
          else cpu.registers kStackPointer)
      else (if kStackPointer ∈ listedRegisters registerList 15 then
        Function.update cpu.sp .user (loaded kStackPointer) else cpu.sp) bank) = _
    -- `r13` goes to the user slot of its bank, never to the visible register
    rw [if_neg fun h : _ ∧ kStackPointer ≠ kStackPointer ∧ _ => h.2.1 rfl]
    exact writeSlot cpu.mode cpu.sp (cpu.registers kStackPointer) bank _ _
  | lr bank =>
    show (if cpu.mode.registerBank = some bank then
        (if kLinkRegister ∈ listedRegisters registerList 15 ∧ kLinkRegister ≠ kStackPointer ∧
          kLinkRegister ≠ kLinkRegister then loaded kLinkRegister
          else cpu.registers kLinkRegister)
      else (if kLinkRegister ∈ listedRegisters registerList 15 then
        Function.update cpu.lr .user (loaded kLinkRegister) else cpu.lr) bank) = _
    rw [if_neg fun h : _ ∧ _ ∧ kLinkRegister ≠ kLinkRegister => h.2.2 rfl]
    exact writeSlot cpu.mode cpu.lr (cpu.registers kLinkRegister) bank _ _
  | savedPsr bank => rfl

/-- The modes with a saved status have a bank of their own. -/
theorem ownBank_of_hasSpsr {cpu : Arm7tdmi} (h : cpu.hasSpsr = true) :
    cpu.mode ∈ CpuMode.named ∧ cpu.mode.registerBank ≠ some .user := by
  unfold hasSpsr CpuMode.spsrBank at h
  split_ifs at h with hfiq hsupervisor habort hirq hundefined
  · rw [hfiq]
    decide
  · rw [hsupervisor]
    decide
  · rw [habort]
    decide
  · rw [hirq]
    decide
  · rw [hundefined]
    decide
  · cases h

section View

variable (cpu : Arm7tdmi) (registerList : U16) (loaded : Fin 16 → U32)

/-- What user mode sees after a load into its bank from a mode with a bank of its own. In FIQ mode
the load misses `r8` to `r12`. -/
theorem writeLoaded_user_view (hbank : cpu.mode.registerBank ≠ some .user) (index : Fin 16) :
    (cpu.writeLoaded registerList true loaded).registerFile.view .user index =
      if index ∈ listedRegisters registerList 15 ∧
          ¬(cpu.mode = .fiq ∧ ∃ high, index = highRegister high) then loaded index
      else cpu.registerFile.view .user index := by
  have hnotHigh : ∀ index : Fin 16, index = kStackPointer ∨ index = kLinkRegister ∨
      index.val < 8 ∨ index = kPc → ¬∃ high, index = highRegister high := by
    rintro index hindex ⟨high, rfl⟩
    grind [highRegister, kStackPointer, kLinkRegister, kPc]
  unfold RegisterFile.view
  cases hcell : CpuMode.user.banked (.register index) with
  | some cell =>
    dsimp only
    rw [writeLoaded_user_banked]
    obtain ⟨high, rfl⟩ | rfl | rfl := CpuMode.banked_register hcell
    · have hhigh : cell = .high false high :=
        Option.some.inj (hcell.symm.trans (CpuMode.banked_high .user high))
      subst hhigh
      -- the shared registers are the visible ones in every mode but FIQ
      by_cases hfiq : cpu.mode = .fiq
      · rw [if_neg fun h => h.2 ⟨hfiq, high, rfl⟩]
        dsimp only
        rw [if_neg (by simp [hfiq])]
        rfl
      · simp [hfiq]
        rfl
    · have hsp : cell = .sp .user := Option.some.inj (hcell.symm.trans (CpuMode.banked_sp .user))
      subst hsp
      simp [hbank, hnotHigh kStackPointer (.inl rfl)]
      rfl
    · have hlr : cell = .lr .user := Option.some.inj (hcell.symm.trans (CpuMode.banked_lr .user))
      subst hlr
      simp [hbank, hnotHigh kLinkRegister (.inr (.inl rfl))]
      rfl
  | none =>
    have hcases := unbanked_cases (by decide) hcell
    have hother : ¬∃ high, index = highRegister high := hnotHigh index (.inr (.inr hcases))
    dsimp only
    rw [writeLoaded_user]
    rcases hcases with hlow | rfl
    · have hpc : index ≠ kPc := by grind [kPc]
      have hsp : index ≠ kStackPointer := by grind [kStackPointer]
      have hlr : index ≠ kLinkRegister := by grind [kLinkRegister]
      have hindex : (⟨index.val % 8, by omega⟩ : Fin 16) = index := Fin.ext (Nat.mod_eq_of_lt hlow)
      rw [if_neg hpc, if_neg hpc]
      show (if (⟨index.val % 8, by omega⟩ : Fin 16) ∈ listedRegisters registerList 15 ∧ _ ∧ _ then
        loaded _ else cpu.registers _) = if _ then loaded index else cpu.registers _
      rw [hindex]
      simp [hsp, hlr, hother]
    · have hlisted : kPc ∉ listedRegisters registerList 15 := by
        rw [mem_listedRegisters_fifteen]
        exact fun h => h.1 rfl
      have hskipped (p : Prop) : ¬(kPc ∈ listedRegisters registerList 15 ∧ p) := fun h => hlisted h.1
      rw [if_pos rfl, if_pos rfl, if_neg (hskipped _)]
      show (if kPc ∈ listedRegisters registerList 15 ∧ kPc ≠ kStackPointer ∧ kPc ≠ kLinkRegister
        then loaded kPc else cpu.registers kPc) = cpu.registers kPc
      rw [if_neg (hskipped _)]

theorem view_user_high (high : Fin 5) :
    cpu.registerFile.view .user (highRegister high) = cpu.registerFile.high false high := by
  unfold RegisterFile.view
  rw [CpuMode.banked_high]
  rfl

/-- In FIQ mode the shared `r8` to `r12` are stored, and those of the mode are visible. -/
theorem registerFile_high_of_fiq (hfiq : cpu.mode = .fiq) (high : Fin 5) :
    cpu.registerFile.high false high = cpu.sharedR8R12 high ∧
      cpu.registerFile.high true high = cpu.registers (highRegister high) := by
  unfold registerFile
  rw [hfiq]
  simp only [Bool.false_eq_true, if_true]
  exact ⟨rfl, rfl⟩

/-- A load into the user bank is one into the registers that user mode sees, unless FIQ mode makes it
with `r8` to `r12` in the list: those go to FIQ mode's registers. -/
theorem writeLoaded_user_loadsInto (hbank : cpu.mode.registerBank ≠ some .user)
    (hpc : kPc ∉ listedRegisters registerList 16) :
    LoadsInto .user (listedRegisters registerList 16) loaded cpu.registerFile
        (cpu.writeLoaded registerList true loaded).registerFile ↔
      (cpu.mode = .fiq → ∀ high, highRegister high ∈ listedRegisters registerList 16 →
        cpu.sharedR8R12 high = loaded (highRegister high) ∧
          cpu.registers (highRegister high) = loaded (highRegister high)) := by
  rw [listedRegisters_without_pc hpc]
  constructor
  · intro hloads hfiq high hlisted
    obtain ⟨hshared, hvisible⟩ := cpu.registerFile_high_of_fiq hfiq high
    -- a listed high register has to show its word in user mode, where the load did not write it
    have hseen := hloads.listed (highRegister high) hlisted
    rw [writeLoaded_user_view _ _ _ hbank, if_neg fun h => h.2 ⟨hfiq, high, rfl⟩,
      view_user_high, hshared] at hseen
    -- and it has to be unchanged in FIQ mode, where the load did write it
    have hown := hloads.hidden (.high true high) (by
      intro index hcell
      obtain ⟨other, rfl⟩ | rfl | rfl := CpuMode.banked_register hcell
      · rw [CpuMode.banked_high] at hcell
        cases hcell
      · cases hcell
      · cases hcell)
    rw [writeLoaded_user_banked] at hown
    dsimp only at hown
    rw [if_pos ⟨by simp [hfiq], hlisted⟩] at hown
    exact ⟨hseen, (hown.trans hvisible).symm⟩
  · intro hcondition
    refine ⟨?_, ?_, ?_⟩
    · intro index hlisted
      rw [writeLoaded_user_view _ _ _ hbank]
      by_cases hmissed : cpu.mode = .fiq ∧ ∃ high, index = highRegister high
      · obtain ⟨hfiq, high, rfl⟩ := hmissed
        rw [if_neg fun h => h.2 ⟨hfiq, high, rfl⟩, view_user_high,
          (cpu.registerFile_high_of_fiq hfiq high).1]
        exact (hcondition hfiq high hlisted).1
      · rw [if_pos ⟨hlisted, hmissed⟩]
    · intro index hunlisted
      rw [writeLoaded_user_view _ _ _ hbank, if_neg fun h => hunlisted h.1]
    · intro cell hhidden
      rw [writeLoaded_user_banked]
      cases cell with
      | high fiq high =>
        dsimp only
        cases fiq with
        | false => exact absurd (CpuMode.banked_high .user high) (hhidden _)
        | true =>
          by_cases hwritten : (cpu.mode = CpuMode.fiq) = (true = true) ∧
              highRegister high ∈ listedRegisters registerList 15
          · rw [if_pos hwritten]
            have hfiq : cpu.mode = .fiq := hwritten.1.mpr rfl
            rw [← (hcondition hfiq high hwritten.2).2]
            exact (cpu.registerFile_high_of_fiq hfiq high).2.symm
          · rw [if_neg hwritten]
            rfl
      | sp bank =>
        have hother : bank ≠ .user := by
          rintro rfl
          exact hhidden kStackPointer rfl
        dsimp only
        rw [if_neg fun h => hother h.1]
        rfl
      | lr bank =>
        have hother : bank ≠ .user := by
          rintro rfl
          exact hhidden kLinkRegister rfl
        dsimp only
        rw [if_neg fun h => hother h.1]
        rfl
      | savedPsr bank => rfl

end View

/-- The value that a store takes from the user bank. -/
theorem userBankValue_eq_view (cpu : Arm7tdmi) (hbank : cpu.mode.registerBank ≠ some .user)
    {index : Fin 16} (hpc : index ≠ kPc) :
    cpu.userBankValue index = cpu.registerFile.view .user index ↔
      (cpu.mode = .fiq → ∀ high, index = highRegister high →
        cpu.sharedR8R12 high = cpu.registers index) := by
  unfold userBankValue
  by_cases hhigh : ∃ high, index = highRegister high
  · obtain ⟨high, rfl⟩ := hhigh
    have hsp : highRegister high ≠ kStackPointer := by grind [highRegister, kStackPointer]
    have hlr : highRegister high ≠ kLinkRegister := by grind [highRegister, kLinkRegister]
    have hinjective : ∀ other, highRegister high = highRegister other → other = high := by
      intro other heq
      grind [highRegister]
    rw [if_neg hsp, if_neg hlr, view_user_high]
    by_cases hfiq : cpu.mode = .fiq
    · rw [(cpu.registerFile_high_of_fiq hfiq high).1]
      constructor
      · intro heq _ other hother
        rw [hinjective other hother, heq]
      · intro hcondition
        exact (hcondition hfiq high rfl).symm
    · have hvisible : cpu.registerFile.high false high = cpu.registers (highRegister high) := by
        unfold registerFile
        simp only [hfiq, Bool.false_eq_true, if_true]
        rfl
      rw [hvisible]
      exact ⟨fun _ h => absurd h hfiq, fun _ => rfl⟩
  · have hother : cpu.mode = .fiq → ∀ high, index = highRegister high →
        cpu.sharedR8R12 high = cpu.registers index := fun _ high heq => absurd ⟨high, heq⟩ hhigh
    refine iff_of_true ?_ hother
    unfold RegisterFile.view
    cases hcell : CpuMode.user.banked (.register index) with
    | some cell =>
      obtain ⟨high, rfl⟩ | rfl | rfl := CpuMode.banked_register hcell
      · exact absurd ⟨high, rfl⟩ hhigh
      · rw [CpuMode.banked_sp] at hcell
        cases hcell
        exact (if_neg hbank).symm
      · rw [CpuMode.banked_lr] at hcell
        cases hcell
        exact (if_neg hbank).symm
    | none =>
      rcases unbanked_cases (by decide) hcell with hlow | heq
      · have hsp : index ≠ kStackPointer := by grind [kStackPointer]
        have hlr : index ≠ kLinkRegister := by grind [kLinkRegister]
        rw [if_neg hsp, if_neg hlr]
        dsimp only
        rw [if_neg hpc]
        exact congrArg cpu.registers (Fin.ext (Nat.mod_eq_of_lt hlow).symm)
      · exact absurd heq hpc

/-! ## The instruction -/

/-- A transfer of the user bank from a mode with a saved status: with the S bit, without the program
counter and without write-back. -/
structure IsUserBankTransfer (instruction : U32) (cpu : Arm7tdmi) : Prop where
  decodes : canDecodeBlockDataTransfer instruction = true
  passes : cpu.conditionPassed (decodeCondition instruction) = true
  userBank : instruction.getLsbD 22 = true
  withoutWriteBack : instruction.getLsbD 21 = false
  withoutPc : kPc ∉ listedRegisters (decodeBlockDataTransfer instruction).registerList 16
  hasSpsr : cpu.hasSpsr = true

section Instruction

variable {σ : Type} (callbacks : MemoryBusIoCallbacks σ) (instruction : U32) (cpu : Arm7tdmi)
  (bus : BusState σ)

/-- The registers that an instruction lists. -/
def transferRegisters : List (Fin 16) :=
  listedRegisters (decodeBlockDataTransfer instruction).registerList 16

/-- The address of the first word that an instruction transfers. -/
def transferFirst : U32 :=
  let decoded := decodeBlockDataTransfer instruction
  (blockTransferAddress (cpu.registers decoded.rn) (countRegisters decoded.registerList)
    decoded.preIndex decoded.up).first

/-- The words that a load reads. -/
def transferWords : Option (Fin 16 → U32) :=
  loadWords (bus.read32 callbacks) (transferRegisters instruction) (transferFirst instruction cpu)

/-- What a transfer of the user bank is for: a load reaches the registers that user mode sees and no
others, and a store takes its words from them. A refused word cuts a store short; what is asked of a
store is asked of all registers that it lists. -/
def UserBankExact : Prop :=
  if (decodeBlockDataTransfer instruction).load then
    match transferWords callbacks instruction cpu bus with
    | none => executeArmMemory callbacks instruction cpu bus = ⟨.unsupported, cpu, bus⟩
    | some loaded =>
        ∃ after, executeArmMemory callbacks instruction cpu bus = ⟨.executed, after, bus⟩ ∧
          LoadsInto .user (transferRegisters instruction) loaded cpu.registerFile
            after.registerFile
  else
    executeArmMemory callbacks instruction cpu bus =
        cpu.finishStore (decodeBlockDataTransfer instruction).rn none
          (storeWords callbacks cpu.userBankValue (transferRegisters instruction)
            (transferFirst instruction cpu) bus) ∧
      ∀ index ∈ transferRegisters instruction,
        cpu.userBankValue index = cpu.registerFile.view .user index

/-- A transfer that does not miss `r8` to `r12` of user mode: not in FIQ mode, unless the list has
none of them or both banks hold the words anyway. -/
def ReachesUserBank : Prop :=
  cpu.mode = .fiq → ∀ high, highRegister high ∈ transferRegisters instruction →
    if (decodeBlockDataTransfer instruction).load then
      ∀ loaded, transferWords callbacks instruction cpu bus = some loaded →
        cpu.sharedR8R12 high = loaded (highRegister high) ∧
          cpu.registers (highRegister high) = loaded (highRegister high)
    else cpu.sharedR8R12 high = cpu.registers (highRegister high)

variable {instruction cpu} (h : IsUserBankTransfer instruction cpu)

include h

theorem executeArmMemory_userBankLoad (hload : (decodeBlockDataTransfer instruction).load = true) :
    executeArmMemory callbacks instruction cpu bus =
      match transferWords callbacks instruction cpu bus with
      | none => ⟨.unsupported, cpu, bus⟩
      | some loaded =>
          ⟨.executed, cpu.writeLoaded (decodeBlockDataTransfer instruction).registerList true loaded,
            bus⟩ := by
  have hlisted : registerListContains (decodeBlockDataTransfer instruction).registerList kPc =
      false := by
    have := h.withoutPc
    rw [mem_listedRegisters] at this
    simpa [kPc] using this
  have hwriteBack : (decodeBlockDataTransfer instruction).writeBack = false := h.withoutWriteBack
  rw [executeArmMemory_blockTransfer callbacks h.decodes, if_pos h.passes, h.userBank]
  unfold executeBlockTransfer transferWords transferRegisters transferFirst executeBlockLoad
  simp only [hload, hwriteBack, hlisted, h.hasSpsr, Bool.and_false, Bool.not_true, Bool.false_and,
    Bool.and_true, Bool.false_eq_true, if_false, if_true, Bool.not_false]
  generalize loadWords (bus.read32 callbacks) _ _ = words
  cases words <;> rfl

theorem executeArmMemory_userBankStore
    (hload : (decodeBlockDataTransfer instruction).load = false) :
    executeArmMemory callbacks instruction cpu bus =
      cpu.finishStore (decodeBlockDataTransfer instruction).rn none
        (storeWords callbacks cpu.userBankValue (transferRegisters instruction)
          (transferFirst instruction cpu) bus) := by
  have hlisted : registerListContains (decodeBlockDataTransfer instruction).registerList kPc =
      false := by
    have := h.withoutPc
    rw [mem_listedRegisters] at this
    simpa [kPc] using this
  have hwriteBack : (decodeBlockDataTransfer instruction).writeBack = false := h.withoutWriteBack
  have hvalue : ∀ index ∈ transferRegisters instruction,
      (if index = kPc then cpu.userBankValue index + 12 else cpu.userBankValue index) =
        cpu.userBankValue index := by
    intro index hindex
    have hne : index ≠ kPc := by
      rintro rfl
      exact h.withoutPc hindex
    rw [if_neg hne]
  rw [executeArmMemory_blockTransfer callbacks h.decodes, if_pos h.passes, h.userBank]
  unfold executeBlockTransfer
  simp only [hload, hwriteBack, hlisted, h.hasSpsr, Bool.and_false, Bool.not_true, Bool.false_and,
    Bool.and_true, Bool.false_eq_true, if_false, if_true, Bool.not_false]
  exact congrArg _ (storeWords_congr callbacks hvalue _ bus)

/-- A transfer of the user bank does what it is for exactly when it does not miss `r8` to `r12`. -/
theorem userBankTransfer_exact :
    UserBankExact callbacks instruction cpu bus ↔ ReachesUserBank callbacks instruction cpu bus := by
  have hbank := (ownBank_of_hasSpsr h.hasSpsr).2
  unfold UserBankExact ReachesUserBank
  cases hload : (decodeBlockDataTransfer instruction).load with
  | true =>
    rw [if_pos rfl, executeArmMemory_userBankLoad callbacks bus h hload]
    simp only [if_true]
    cases hwords : transferWords callbacks instruction cpu bus with
    | none =>
      refine iff_of_true rfl ?_
      intro _ high _ loaded hloaded
      cases hloaded
    | some loaded =>
      have hloads := cpu.writeLoaded_user_loadsInto _ loaded hbank h.withoutPc
      constructor
      · rintro ⟨after, hafter, hview⟩ hfiq high hlisted other hother
        cases hother
        cases hafter
        exact hloads.mp hview hfiq high hlisted
      · intro hcondition
        exact ⟨_, rfl, hloads.mpr fun hfiq high hlisted => hcondition hfiq high hlisted loaded rfl⟩
  | false =>
    simp only [Bool.false_eq_true, if_false]
    have hne : ∀ index ∈ transferRegisters instruction, index ≠ kPc := by
      rintro index hindex rfl
      exact h.withoutPc hindex
    constructor
    · rintro ⟨-, hvalue⟩ hfiq high hlisted
      exact (cpu.userBankValue_eq_view hbank (hne _ hlisted)).mp (hvalue _ hlisted) hfiq high rfl
    · intro hcondition
      refine ⟨executeArmMemory_userBankStore callbacks bus h hload, ?_⟩
      intro index hlisted
      refine (cpu.userBankValue_eq_view hbank (hne index hlisted)).mpr ?_
      rintro hfiq high rfl
      exact hcondition hfiq high hlisted

/-- A transfer that does not miss `r8` to `r12` is what a later switch to user mode observes: after a
load the listed registers hold the words and the others what they held, and a store has taken the
registers of user mode. -/
theorem executeArmMemory_observed (hreaches : ReachesUserBank callbacks instruction cpu bus) :
    ((decodeBlockDataTransfer instruction).load = true →
      ∀ loaded, transferWords callbacks instruction cpu bus = some loaded →
        ∃ after, executeArmMemory callbacks instruction cpu bus = ⟨.executed, after, bus⟩ ∧
          ∀ index, (after.switchMode .user).registers index =
            if index ∈ transferRegisters instruction then loaded index
            else (cpu.switchMode .user).registers index) ∧
      ((decodeBlockDataTransfer instruction).load = false →
        ∀ index ∈ transferRegisters instruction,
          cpu.userBankValue index = (cpu.switchMode .user).registers index) := by
  have hbank := (ownBank_of_hasSpsr h.hasSpsr).2
  have huser : CpuMode.user ∈ CpuMode.named := by decide
  unfold ReachesUserBank at hreaches
  constructor
  · intro hload loaded hwords
    simp only [hload, if_true] at hreaches
    have hloads := (cpu.writeLoaded_user_loadsInto _ loaded hbank h.withoutPc).mpr
      fun hfiq high hlisted => hreaches hfiq high hlisted loaded hwords
    refine ⟨_, by rw [executeArmMemory_userBankLoad callbacks bus h hload, hwords], ?_⟩
    intro index
    rw [switchMode_registers _ huser, switchMode_registers _ huser]
    split
    · exact hloads.listed index ‹_›
    · exact hloads.unlisted index ‹_›
  · intro hload index hlisted
    simp only [hload, Bool.false_eq_true, if_false] at hreaches
    have hne : index ≠ kPc := by
      rintro rfl
      exact h.withoutPc hlisted
    rw [switchMode_registers _ huser]
    refine (cpu.userBankValue_eq_view hbank hne).mpr ?_
    rintro hfiq high rfl
    exact hreaches hfiq high hlisted

end Instruction

/-! ### A load in FIQ mode -/

/-- FIQ mode with a base in internal memory. -/
def fiqState : Arm7tdmi :=
  { reset with
    mode := .fiq
    registers := fun index => if index = 0 then 0x03000000#32 else 7
    sharedR8R12 := fun _ => 5 }

/-- `LDMIA r0, {r8}^`. -/
def loadUserR8 : U32 := 0xE8D00100#32

theorem loadUserR8_isUserBankTransfer : IsUserBankTransfer loadUserR8 fiqState where
  decodes := by decide
  passes := by decide
  userBank := by decide
  withoutWriteBack := by decide
  withoutPc := by decide
  hasSpsr := by decide

/-- The load misses user mode's `r8`: in FIQ mode it is not a transfer of the user bank. -/
theorem not_userBankExact_fiq :
    IsUserBankTransfer loadUserR8 fiqState ∧
      ¬UserBankExact (⟨none, none, none, none⟩ : MemoryBusIoCallbacks Unit) loadUserR8 fiqState
        ⟨MemoryBus.initial, ()⟩ := by
  refine ⟨loadUserR8_isUserBankTransfer, fun hexact => ?_⟩
  have hload : (decodeBlockDataTransfer loadUserR8).load = true := by decide
  have hregisters : transferRegisters loadUserR8 = [8] := by decide
  have hfirst : transferFirst loadUserR8 fiqState = 0x03000000#32 := by decide
  have hread : BusState.read32 (⟨none, none, none, none⟩ : MemoryBusIoCallbacks Unit)
      ⟨MemoryBus.initial, ()⟩ 0x03000000#32 = some 0 := by decide
  have hwords : transferWords (⟨none, none, none, none⟩ : MemoryBusIoCallbacks Unit) loadUserR8
      fiqState ⟨MemoryBus.initial, ()⟩ = some (Function.update (fun _ => 0) 8 0) := by
    unfold transferWords
    rw [hregisters, hfirst]
    unfold loadWords
    rw [hread]
    rfl
  unfold UserBankExact at hexact
  rw [if_pos hload, executeArmMemory_userBankLoad _ _ loadUserR8_isUserBankTransfer hload,
    hwords] at hexact
  obtain ⟨after, hafter, hloads⟩ := hexact
  cases hafter
  have hbank := (ownBank_of_hasSpsr loadUserR8_isUserBankTransfer.hasSpsr).2
  have hshared := ((fiqState.writeLoaded_user_loadsInto _ _ hbank
    loadUserR8_isUserBankTransfer.withoutPc).mp hloads rfl 0 (by decide)).1
  exact absurd hshared (by decide)

/-- In IRQ mode the same load reaches the user bank. -/
theorem userBankTransfer_exact_irq :
    UserBankExact (⟨none, none, none, none⟩ : MemoryBusIoCallbacks Unit) loadUserR8
        { fiqState with mode := .irq } ⟨MemoryBus.initial, ()⟩ ↔
      ReachesUserBank (⟨none, none, none, none⟩ : MemoryBusIoCallbacks Unit) loadUserR8
        { fiqState with mode := .irq } ⟨MemoryBus.initial, ()⟩ :=
  userBankTransfer_exact _ _
    { decodes := by decide
      passes := by decide
      userBank := by decide
      withoutWriteBack := by decide
      withoutPc := by decide
      hasSpsr := by decide }

end Arm7tdmi

end Gba.Core
