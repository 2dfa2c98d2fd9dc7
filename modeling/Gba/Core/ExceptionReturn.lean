import Gba.Core.UserBankTransfer

/-!
# The exception return of block loads

The block load with the S bit and the program counter in its list, which restores the saved status
and writes the other registers afterwards, in the mode that it returns to.
-/

namespace Gba.Core

namespace Arm7tdmi

/-- A load that returns from an exception: in a mode whose saved status names a mode, with the S bit
and the program counter in the list, and accepted. -/
structure IsExceptionReturn (instruction : U32) (cpu : Arm7tdmi) (saved : U32) (mode : CpuMode) :
    Prop where
  decodes : canDecodeBlockDataTransfer instruction = true
  passes : cpu.conditionPassed (decodeCondition instruction) = true
  load : (decodeBlockDataTransfer instruction).load = true
  userBank : instruction.getLsbD 22 = true
  withPc : kPc ∈ transferRegisters instruction
  accepted : (decodeBlockDataTransfer instruction).writeBack = true →
    (decodeBlockDataTransfer instruction).rn ∉ transferRegisters instruction
  status : cpu.spsr = some saved
  valid : decodeCpuMode saved = some mode

/-- The base after the transfer. -/
def transferWriteBack (instruction : U32) (cpu : Arm7tdmi) : U32 :=
  let decoded := decodeBlockDataTransfer instruction
  (blockTransferAddress (cpu.registers decoded.rn) (countRegisters decoded.registerList)
    decoded.preIndex decoded.up).writeBack

/-- A return into the registers of the mode that executes it: they take the listed words and the
base, the status and the address are restored, and no other register changes. -/
structure ReturnsIntoOwnBank (instruction : U32) (loaded : Fin 16 → U32) (saved : U32)
    (mode : CpuMode) (cpu after : Arm7tdmi) : Prop where
  listed : ∀ index ∈ transferRegisters instruction, index ≠ kPc →
    after.registerFile.view cpu.mode index = loaded index
  base : (decodeBlockDataTransfer instruction).writeBack = true →
    after.registerFile.view cpu.mode (decodeBlockDataTransfer instruction).rn =
      transferWriteBack instruction cpu
  status : after.status = ProgramStatus.ofWord saved mode
  pc : after.registers kPc = loaded kPc &&& ~~~0x3#32
  hidden : ∀ cell, (∀ index, cpu.mode.banked (.register index) ≠ some cell) →
    after.registerFile.banked cell = cpu.registerFile.banked cell

/-- What the return does: the status is restored first, so that the listed registers are those of the
user bank. A mode with a bank of its own does not see the slots of the stack pointer and the link
register, and keeps its own. -/
structure ReturnsIntoUserBank (instruction : U32) (loaded : Fin 16 → U32) (saved : U32)
    (mode : CpuMode) (cpu after : Arm7tdmi) : Prop where
  status : after.status = ProgramStatus.ofWord saved mode
  pc : after.registers kPc = loaded kPc &&& ~~~0x3#32
  low : ∀ index ∈ transferRegisters instruction, index.val < 8 →
    after.registers index = loaded index
  high : mode ≠ .fiq → ∀ high, highRegister high ∈ transferRegisters instruction →
    after.registerFile.view .user (highRegister high) = loaded (highRegister high)
  stack : mode.registerBank ≠ some .user → ∀ index ∈ transferRegisters instruction,
    index = kStackPointer ∨ index = kLinkRegister →
      after.registerFile.view .user index = loaded index
  base : (decodeBlockDataTransfer instruction).writeBack = true →
    cpu.mode.banked (.register (decodeBlockDataTransfer instruction).rn) =
      mode.banked (.register (decodeBlockDataTransfer instruction).rn) →
    after.registerFile.view cpu.mode (decodeBlockDataTransfer instruction).rn =
      transferWriteBack instruction cpu
  unlisted : ∀ index : Fin 16, index.val < 8 → index ∉ transferRegisters instruction →
    ((decodeBlockDataTransfer instruction).writeBack = true →
      index ≠ (decodeBlockDataTransfer instruction).rn) →
    after.registers index = cpu.registers index
  others : ∀ cell,
    (∀ index ∈ transferRegisters instruction,
      CpuMode.user.banked (.register index) ≠ some cell) →
    (∀ high, highRegister high ∈ transferRegisters instruction →
      mode.banked (.register (highRegister high)) ≠ some cell) →
    ((decodeBlockDataTransfer instruction).writeBack = true →
      mode.banked (.register (decodeBlockDataTransfer instruction).rn) ≠ some cell) →
    after.registerFile.banked cell = cpu.registerFile.banked cell

/-! ### Before the base is written -/

section Written

variable {cpu returned : Arm7tdmi} {saved : U32} {mode : CpuMode}
  (hfile : returned.registerFile =
    { cpu.registerFile with status := ProgramStatus.ofWord saved mode })
  (registerList : U16) (loaded : Fin 16 → U32)

/-- The processor after the restored status, the listed words and the address. -/
def writtenReturn (returned : Arm7tdmi) (registerList : U16) (loaded : Fin 16 → U32) : Arm7tdmi :=
  (returned.writeLoaded registerList true loaded).setRegister kPc (loaded kPc &&& ~~~0x3#32)

include hfile

theorem writtenReturn_status :
    (writtenReturn returned registerList loaded).status = ProgramStatus.ofWord saved mode := by
  have hstatus : returned.status = ProgramStatus.ofWord saved mode :=
    congrArg RegisterFile.status hfile
  unfold writtenReturn
  rw [writeLoaded_user]
  exact hstatus

omit hfile in
theorem writtenReturn_pc (returned : Arm7tdmi) (registerList : U16) (loaded : Fin 16 → U32) :
    (writtenReturn returned registerList loaded).registers kPc = loaded kPc &&& ~~~0x3#32 :=
  Function.update_self kPc _ (returned.writeLoaded registerList true loaded).registers

theorem writtenReturn_low {index : Fin 16} (hindex : index.val < 8) :
    (writtenReturn returned registerList loaded).registers index =
      if index ∈ listedRegisters registerList 16 then loaded index else cpu.registers index := by
  have hpc : index ≠ kPc := by grind [kPc]
  have hsp : index ≠ kStackPointer := by grind [kStackPointer]
  have hlr : index ≠ kLinkRegister := by grind [kLinkRegister]
  have hlow : returned.registers index = cpu.registers index :=
    congrFun (congrArg RegisterFile.low hfile) ⟨index.val, hindex⟩
  unfold writtenReturn
  rw [writeLoaded_user]
  show Function.update _ kPc _ index = _
  rw [Function.update_of_ne hpc]
  show (if index ∈ listedRegisters registerList 15 ∧ index ≠ kStackPointer ∧
    index ≠ kLinkRegister then loaded index else returned.registers index) = _
  rw [hlow]
  simp [mem_listedRegisters_fifteen, hpc, hsp, hlr]

theorem writtenReturn_banked (cell : BankedRegister) :
    (writtenReturn returned registerList loaded).registerFile.banked cell =
      match cell with
      | .high fiq index =>
          if (mode = .fiq) = (fiq = true) ∧
              highRegister index ∈ listedRegisters registerList 16 then loaded (highRegister index)
          else cpu.registerFile.banked (.high fiq index)
      | .sp bank =>
          if bank = .user ∧ mode.registerBank ≠ some .user ∧
              kStackPointer ∈ listedRegisters registerList 16 then loaded kStackPointer
          else cpu.registerFile.banked (.sp bank)
      | .lr bank =>
          if bank = .user ∧ mode.registerBank ≠ some .user ∧
              kLinkRegister ∈ listedRegisters registerList 16 then loaded kLinkRegister
          else cpu.registerFile.banked (.lr bank)
      | .savedPsr bank => cpu.registerFile.banked (.savedPsr bank) := by
  have hmode : returned.mode = mode := congrArg (fun file => file.status.mode) hfile
  have hhigh (high : Fin 5) : highRegister high ≠ kPc := by grind [highRegister, kPc]
  have hsp : kStackPointer ≠ kPc := by decide
  have hlr : kLinkRegister ≠ kPc := by decide
  unfold writtenReturn
  rw [setRegister_pc_banked, writeLoaded_user_banked, hmode]
  simp only [hfile, mem_listedRegisters_fifteen, hhigh, hsp, hlr, ne_eq, not_false_eq_true,
    true_and]
  cases cell with
  | savedPsr bank => exact congrFun (congrArg RegisterFile.savedPsr hfile) bank
  | _ => rfl

end Written

/-- The mode of a word is one of the named ones. -/
theorem named_of_decodeCpuMode {value : U32} {mode : CpuMode} (h : decodeCpuMode value = some mode) :
    mode ∈ CpuMode.named := by
  unfold decodeCpuMode at h
  dsimp only at h
  split at h
  · next hnamed =>
    cases h
    exact hnamed
  · cases h

/-! ### After the base is written -/

/-- A banked register that a mode sees under a name. -/
theorem view_of_banked {file : RegisterFile} {mode : CpuMode} {index : Fin 16}
    {cell : BankedRegister} (h : mode.banked (.register index) = some cell) :
    file.view mode index = file.banked cell := by
  unfold RegisterFile.view
  rw [h]

/-- The name of a banked register; a saved status has none among the sixteen. -/
def bankedIndex : BankedRegister → Fin 16
  | .high _ index => highRegister index
  | .sp _ => kStackPointer
  | .lr _ => kLinkRegister
  | .savedPsr _ => kPc

/-- A banked register has the same name in every mode. -/
theorem banked_index {mode : CpuMode} {index : Fin 16} {cell : BankedRegister}
    (h : mode.banked (.register index) = some cell) : index = bankedIndex cell := by
  obtain ⟨high, rfl⟩ | rfl | rfl := CpuMode.banked_register h
  · rw [CpuMode.banked_high] at h
    cases h
    rfl
  · obtain ⟨bank, -, rfl⟩ := Option.map_eq_some_iff.mp (mode.banked_sp ▸ h)
    rfl
  · obtain ⟨bank, -, rfl⟩ := Option.map_eq_some_iff.mp (mode.banked_lr ▸ h)
    rfl

/-- A mode with a bank of its own does not see the slots of the user bank. -/
theorem banked_ne_user {mode : CpuMode} (h : mode.registerBank ≠ some .user) {index : Fin 16}
    {cell : BankedRegister} (hcell : cell = .sp .user ∨ cell = .lr .user) :
    mode.banked (.register index) ≠ some cell := by
  intro hseen
  have hindex := banked_index hseen
  rcases hcell with rfl | rfl
  · rw [hindex, show bankedIndex (.sp .user) = kStackPointer from rfl, CpuMode.banked_sp] at hseen
    obtain ⟨bank, hbank, heq⟩ := Option.map_eq_some_iff.mp hseen
    cases heq
    exact h hbank
  · rw [hindex, show bankedIndex (.lr .user) = kLinkRegister from rfl, CpuMode.banked_lr] at hseen
    obtain ⟨bank, hbank, heq⟩ := Option.map_eq_some_iff.mp hseen
    cases heq
    exact h hbank

/-- The base of a block transfer is not the program counter. -/
theorem base_ne_pc {instruction : U32} (h : canDecodeBlockDataTransfer instruction = true) :
    (decodeBlockDataTransfer instruction).rn ≠ kPc := by
  unfold canDecodeBlockDataTransfer at h
  simp only [Bool.and_eq_true, decide_eq_true_eq] at h
  exact h.1.2

/-- The base, when the instruction writes it back. -/
def writtenBase (writeBack : Bool) (rn : Fin 16) (value : U32) (written : Arm7tdmi) : Arm7tdmi :=
  if writeBack then written.setRegister rn value else written

theorem writtenBase_registers {writeBack : Bool} {rn index : Fin 16}
    (h : writeBack = true → index ≠ rn) (value : U32) (written : Arm7tdmi) :
    (writtenBase writeBack rn value written).registers index = written.registers index := by
  unfold writtenBase
  cases writeBack with
  | false => rfl
  | true => exact Function.update_of_ne (h rfl) _ _

theorem writtenBase_status (writeBack : Bool) (rn : Fin 16) (value : U32) (written : Arm7tdmi) :
    (writtenBase writeBack rn value written).status = written.status := by
  unfold writtenBase
  cases writeBack <;> rfl

theorem writtenBase_banked {writeBack : Bool} {rn : Fin 16} {written : Arm7tdmi}
    {cell : BankedRegister}
    (h : writeBack = true → written.mode.banked (.register rn) ≠ some cell) (value : U32) :
    (writtenBase writeBack rn value written).registerFile.banked cell =
      written.registerFile.banked cell := by
  unfold writtenBase
  cases writeBack with
  | false => rfl
  | true => exact written.setRegister_banked_of_ne value (h rfl)

/-- A base that another mode sees under the same name. -/
theorem writtenBase_view {rn : Fin 16} {written : Arm7tdmi} (hnamed : written.mode ∈ CpuMode.named)
    {mode : CpuMode}
    (h : mode.banked (.register rn) = written.mode.banked (.register rn)) (value : U32) :
    (writtenBase true rn value written).registerFile.view mode rn = value := by
  have hview : (writtenBase true rn value written).registerFile.view mode rn =
      (writtenBase true rn value written).registerFile.view written.mode rn := by
    unfold RegisterFile.view
    rw [h]
  rw [hview]
  refine (registers_eq_view (writtenBase true rn value written) hnamed rn).symm.trans ?_
  exact Function.update_self rn value written.registers

/-! ## The instruction -/

section Return

variable {σ : Type} (callbacks : MemoryBusIoCallbacks σ) {instruction : U32} {cpu : Arm7tdmi}
  (bus : BusState σ) {saved : U32} {mode : CpuMode}
  (h : IsExceptionReturn instruction cpu saved mode)

include h

/-- A listed register is not the base that is written back. -/
theorem IsExceptionReturn.listed_ne {index : Fin 16} (hlisted : index ∈ transferRegisters instruction)
    (hwriteBack : (decodeBlockDataTransfer instruction).writeBack = true) :
    index ≠ (decodeBlockDataTransfer instruction).rn := by
  rintro rfl
  exact h.accepted hwriteBack hlisted

/-- The registers after the restored status, the listed words, the address and the base. -/
theorem writtenReturn_returnsIntoUserBank {returned : Arm7tdmi}
    (hfile : returned.registerFile =
      { cpu.registerFile with status := ProgramStatus.ofWord saved mode })
    (loaded : Fin 16 → U32) :
    ReturnsIntoUserBank instruction loaded saved mode cpu
      (writtenBase (decodeBlockDataTransfer instruction).writeBack
        (decodeBlockDataTransfer instruction).rn (transferWriteBack instruction cpu)
        (writtenReturn returned (decodeBlockDataTransfer instruction).registerList loaded)) := by
  have hstatus := writtenReturn_status hfile (decodeBlockDataTransfer instruction).registerList loaded
  have hbanked := writtenReturn_banked hfile (decodeBlockDataTransfer instruction).registerList loaded
  have hlow (index : Fin 16) (hindex : index.val < 8) := writtenReturn_low hfile
    (decodeBlockDataTransfer instruction).registerList loaded hindex
  have hpc := writtenReturn_pc returned (decodeBlockDataTransfer instruction).registerList loaded
  generalize writtenReturn returned (decodeBlockDataTransfer instruction).registerList loaded =
    written at hstatus hbanked hlow hpc ⊢
  have hmode : written.mode = mode := congrArg ProgramStatus.mode hstatus
  have hnamed : mode ∈ CpuMode.named := named_of_decodeCpuMode h.valid
  refine ⟨?_, ?_, ?_, ?_, ?_, ?_, ?_, ?_⟩
  · rw [writtenBase_status, hstatus]
  · rw [writtenBase_registers fun _ => (base_ne_pc h.decodes).symm, hpc]
  · intro index hlisted hindex
    rw [writtenBase_registers (h.listed_ne hlisted), hlow index hindex]
    exact if_pos hlisted
  · intro hfiq high hlisted
    have hcell : CpuMode.user.banked (.register (highRegister high)) = some (.high false high) :=
      CpuMode.banked_high .user high
    rw [view_of_banked hcell, writtenBase_banked, hbanked]
    · exact if_pos ⟨by simp [hfiq], hlisted⟩
    · -- only the register itself has the cell
      intro hwriteBack hbase
      exact h.listed_ne hlisted hwriteBack (banked_index hbase).symm
  · intro hbank index hlisted hstack
    rcases hstack with rfl | rfl
    · have hcell : CpuMode.user.banked (.register kStackPointer) = some (.sp .user) := rfl
      rw [view_of_banked hcell,
        writtenBase_banked fun _ => hmode ▸ banked_ne_user hbank (.inl rfl), hbanked]
      exact if_pos ⟨rfl, hbank, hlisted⟩
    · have hcell : CpuMode.user.banked (.register kLinkRegister) = some (.lr .user) := rfl
      rw [view_of_banked hcell,
        writtenBase_banked fun _ => hmode ▸ banked_ne_user hbank (.inr rfl), hbanked]
      exact if_pos ⟨rfl, hbank, hlisted⟩
  · intro hwriteBack hsame
    rw [hwriteBack]
    exact writtenBase_view (hmode ▸ hnamed) (hmode ▸ hsame) _
  · intro index hindex hunlisted hbase
    rw [writtenBase_registers hbase, hlow index hindex]
    exact if_neg hunlisted
  · intro cell huser hhigh hbase
    rw [writtenBase_banked fun hwriteBack => hmode ▸ hbase hwriteBack, hbanked]
    cases cell with
    | high fiq high =>
      refine if_neg fun hwritten => hhigh high hwritten.2 ?_
      rw [CpuMode.banked_high]
      have hfiq : decide (mode = CpuMode.fiq) = fiq := by
        cases fiq <;> simpa using hwritten.1
      rw [hfiq]
    | sp bank =>
      refine if_neg ?_
      rintro ⟨rfl, -, hlisted⟩
      exact huser kStackPointer hlisted rfl
    | lr bank =>
      refine if_neg ?_
      rintro ⟨rfl, -, hlisted⟩
      exact huser kLinkRegister hlisted rfl
    | savedPsr bank => rfl

/-- An accepted return loads its words, restores the status and writes the registers. -/
theorem executeArmMemory_isExceptionReturn :
    executeArmMemory callbacks instruction cpu bus =
      match transferWords callbacks instruction cpu bus with
      | none => ⟨.unsupported, cpu, bus⟩
      | some loaded =>
          match cpu.setCpsr saved with
          | none => ⟨.unsupported, cpu, bus⟩
          | some returned =>
              ⟨.executed, writtenBase (decodeBlockDataTransfer instruction).writeBack
                (decodeBlockDataTransfer instruction).rn (transferWriteBack instruction cpu)
                (writtenReturn returned (decodeBlockDataTransfer instruction).registerList loaded),
                bus⟩ := by
  have hlisted : registerListContains (decodeBlockDataTransfer instruction).registerList kPc =
      true := (mem_listedRegisters.mp h.withPc).2
  have haccepted : ((decodeBlockDataTransfer instruction).writeBack &&
      registerListContains (decodeBlockDataTransfer instruction).registerList
        (decodeBlockDataTransfer instruction).rn) = false := by
    cases hwriteBack : (decodeBlockDataTransfer instruction).writeBack with
    | false => rfl
    | true =>
      have hbase := h.accepted hwriteBack
      unfold transferRegisters at hbase
      rw [mem_listedRegisters] at hbase
      simpa using hbase
  have hspsr : cpu.hasSpsr = true := by
    have hsaved := h.status
    unfold spsr at hsaved
    unfold hasSpsr
    cases hbank : cpu.mode.spsrBank with
    | none =>
      rw [hbank] at hsaved
      cases hsaved
    | some bank => rfl
  rw [executeArmMemory_blockTransfer callbacks h.decodes, if_pos h.passes, h.userBank]
  unfold executeBlockTransfer executeBlockLoad transferWords transferRegisters transferFirst
    transferWriteBack writtenBase writtenReturn
  simp only [h.load, haccepted, hspsr, hlisted, h.status, Bool.true_and, Bool.not_true,
    Bool.and_false, Bool.false_and, Bool.false_eq_true, if_false, if_true, Option.bind_some]
  generalize loadWords (bus.read32 callbacks) _ _ = words
  cases words with
  | none => rfl
  | some loaded =>
    cases cpu.setCpsr saved with
    | none => rfl
    | some returned =>
      cases (decodeBlockDataTransfer instruction).writeBack <;> rfl

/-- The exception return: a refused read changes nothing; otherwise the status and the address are
restored, and the listed words go to the user bank. -/
theorem exceptionReturn_intoUserBank :
    match transferWords callbacks instruction cpu bus with
    | none => executeArmMemory callbacks instruction cpu bus = ⟨.unsupported, cpu, bus⟩
    | some loaded =>
        ∃ after, executeArmMemory callbacks instruction cpu bus = ⟨.executed, after, bus⟩ ∧
          ReturnsIntoUserBank instruction loaded saved mode cpu after := by
  obtain ⟨returned, hreturned, hfile⟩ := cpu.setCpsr_registerFile h.valid
  rw [executeArmMemory_isExceptionReturn callbacks bus h, hreturned]
  cases transferWords callbacks instruction cpu bus with
  | none => rfl
  | some loaded => exact ⟨_, rfl, writtenReturn_returnsIntoUserBank h hfile loaded⟩

end Return

/-! ### A return to supervisor mode -/

/-- IRQ mode, from which the saved status returns to supervisor mode. -/
def irqState : Arm7tdmi :=
  { reset with
    mode := .irq
    registers := fun index => if index = 0 then 0x03000000#32 else 7
    savedPsr := fun _ => 0x13#32 }

/-- `LDMIA r0, {sp, pc}^`. -/
def loadStackAndReturn : U32 := 0xE8D0A000#32

theorem loadStackAndReturn_isExceptionReturn :
    IsExceptionReturn loadStackAndReturn irqState 0x13#32 .supervisor where
  decodes := by decide
  passes := by decide
  load := by decide
  userBank := by decide
  withPc := by decide
  accepted := by decide
  status := by decide
  valid := by decide

/-- The words of the list, read from cleared memory. -/
theorem transferWords_loadStackAndReturn :
    transferWords (⟨none, none, none, none⟩ : MemoryBusIoCallbacks Unit) loadStackAndReturn irqState
      ⟨MemoryBus.initial, ()⟩ =
        some (Function.update (Function.update (fun _ => 0) 15 0) 13 0) := by
  have hregisters : transferRegisters loadStackAndReturn = [13, 15] := by decide
  have hfirst : transferFirst loadStackAndReturn irqState = 0x03000000#32 := by decide
  have hread (address : U32) (h : address = 0x03000000#32 ∨ address = 0x03000000#32 + 4) :
      BusState.read32 (⟨none, none, none, none⟩ : MemoryBusIoCallbacks Unit)
        ⟨MemoryBus.initial, ()⟩ address = some 0 := by
    rcases h with rfl | rfl <;> decide
  unfold transferWords
  rw [hregisters, hfirst]
  unfold loadWords
  rw [hread _ (.inl rfl)]
  unfold loadWords
  rw [hread _ (.inr rfl)]
  rfl

/-- The stack pointer of IRQ mode, which executes the load, does not take the listed word. -/
theorem not_returnsIntoOwnBank_irq :
    IsExceptionReturn loadStackAndReturn irqState 0x13#32 .supervisor ∧
      ∃ loaded, transferWords (⟨none, none, none, none⟩ : MemoryBusIoCallbacks Unit)
          loadStackAndReturn irqState ⟨MemoryBus.initial, ()⟩ = some loaded ∧
        ∃ after, executeArmMemory (⟨none, none, none, none⟩ : MemoryBusIoCallbacks Unit)
            loadStackAndReturn irqState ⟨MemoryBus.initial, ()⟩ =
              ⟨.executed, after, ⟨MemoryBus.initial, ()⟩⟩ ∧
          ¬ReturnsIntoOwnBank loadStackAndReturn loaded 0x13#32 .supervisor irqState after := by
  have h := loadStackAndReturn_isExceptionReturn
  obtain ⟨returned, hreturned, hfile⟩ := irqState.setCpsr_registerFile h.valid
  have hexecuted := executeArmMemory_isExceptionReturn
    (⟨none, none, none, none⟩ : MemoryBusIoCallbacks Unit) ⟨MemoryBus.initial, ()⟩ h
  rw [hreturned, transferWords_loadStackAndReturn] at hexecuted
  refine ⟨h, _, transferWords_loadStackAndReturn, _, hexecuted, ?_⟩
  intro hown
  have hstack := hown.listed kStackPointer (by decide) (by decide)
  have hcell : irqState.mode.banked (.register kStackPointer) = some (.sp .irq) := by decide
  have hwriteBack : (decodeBlockDataTransfer loadStackAndReturn).writeBack = false := by decide
  rw [view_of_banked hcell, writtenBase_banked (by rw [hwriteBack]; nofun),
    writtenReturn_banked hfile] at hstack
  exact absurd hstack (by decide)

/-- A return to supervisor mode reaches the slot of the user bank. -/
theorem exceptionReturn_intoUserBank_irq :
    ∃ after, executeArmMemory (⟨none, none, none, none⟩ : MemoryBusIoCallbacks Unit)
        loadStackAndReturn irqState ⟨MemoryBus.initial, ()⟩ =
          ⟨.executed, after, ⟨MemoryBus.initial, ()⟩⟩ ∧
      ReturnsIntoUserBank loadStackAndReturn
        (Function.update (Function.update (fun _ => 0) 15 0) 13 0) 0x13#32 .supervisor irqState
        after := by
  have h := exceptionReturn_intoUserBank (⟨none, none, none, none⟩ : MemoryBusIoCallbacks Unit)
    ⟨MemoryBus.initial, ()⟩ loadStackAndReturn_isExceptionReturn
  rw [transferWords_loadStackAndReturn] at h
  exact h

end Arm7tdmi

end Gba.Core
