import Gba.Core.BlockTransfer
import Gba.Core.ThumbExecute
import Gba.Core.WorkRam

/-!
# Parity of loads and stores

The single transfers of Thumb beside the ARM instructions that transfer the same register at the
same address. They agree on words and bytes; on halfwords they part at odd addresses, where only
the ARM instructions align.
-/

namespace Gba.Core

namespace Arm7tdmi

/-! ## The ARM instruction of a Thumb transfer -/

/-- An ARM instruction that transfers the same register in the same direction and with the same
width, at the same address and without write-back. -/
structure IsTwin (instruction : U32) (decoded : DecodedThumbMemoryTransferInstruction)
    (cpu : Arm7tdmi) : Prop where
  passes : cpu.conditionPassed (decodeCondition instruction) = true
  load : instruction.getLsbD 20 = decoded.load
  preIndex : instruction.getLsbD 24 = true
  withoutWriteBack : instruction.getLsbD 21 = false
  rd : registerField instruction 12 = decoded.rd
  kind :
    match decoded.kind with
    | .word => canDecodeSingleDataTransfer instruction = true ∧ instruction.getLsbD 22 = false
    | .byte => canDecodeSingleDataTransfer instruction = true ∧ instruction.getLsbD 22 = true
    | .halfword => canDecodeHalfwordDataTransfer instruction = true ∧
        instruction.getLsbD 6 = false ∧ instruction.getLsbD 5 = true
    | .signedByte => canDecodeHalfwordDataTransfer instruction = true ∧
        instruction.getLsbD 6 = true ∧ instruction.getLsbD 5 = false
    | .signedHalfword => canDecodeHalfwordDataTransfer instruction = true ∧
        instruction.getLsbD 6 = true ∧ instruction.getLsbD 5 = true
  address :
    (match decoded.kind with
      | .word | .byte =>
          offsetTransferAddress (cpu.armVisibleRegisterValue (registerField instruction 16))
            (cpu.decodeSingle instruction).offset (instruction.getLsbD 23)
      | .halfword | .signedByte | .signedHalfword =>
          offsetTransferAddress (cpu.armVisibleRegisterValue (registerField instruction 16))
            (cpu.decodeHalfword instruction).offset (instruction.getLsbD 23)) =
      cpu.thumbTransferAddress decoded

section Statement

variable {σ : Type} (callbacks : MemoryBusIoCallbacks σ)

/-- The bus answers a load of the width at an address. -/
def Mapped (bus : BusState σ) (kind : ThumbMemoryTransferKind) (address : U32) : Prop :=
  match kind with
  | .word => (bus.read32 callbacks address).isSome = true
  | .byte | .signedByte => (bus.read8 callbacks address).isSome = true
  | .halfword | .signedHalfword =>
      (bus.read8 callbacks address).isSome = true ∧
        (bus.read16 callbacks (address &&& ~~~0x1#32)).isSome = true

/-- The word that follows the pipeline's: a halfword load at an odd address takes its upper half. -/
def prefetchedHalf (bus : BusState σ) (cpu : Arm7tdmi) : Option U16 :=
  (bus.read32 callbacks (cpu.registers kPc + 4)).map fun (word : U32) => (word >>> 16).setWidth 16

/-- The states in which a halfword load or store at an odd address makes no difference. -/
def OddAddressAgrees (decoded : DecodedThumbMemoryTransferInstruction) (cpu : Arm7tdmi)
    (bus : BusState σ) : Prop :=
  let address := cpu.thumbTransferAddress decoded
  let aligned := address &&& ~~~0x1#32
  match decoded.kind, decoded.load with
  | .halfword, true =>
      if (classify address).region = .gamePakSave then bus.read8 callbacks address = some 0
      else ∃ half, bus.read16 callbacks aligned = some half ∧ half.setWidth 8 = 0#8 ∧
        prefetchedHalf callbacks bus cpu = some (half >>> 8)
  | .signedHalfword, true =>
      if (classify address).region = .gamePakSave then
        bus.read8 callbacks address = some 0 ∨ bus.read8 callbacks address = some 0xFF
      else ∃ byte, bus.read8 callbacks address = some byte ∧
        prefetchedHalf callbacks bus cpu = some (byte.signExtend 16)
  | .halfword, false =>
      (classify address).region = .io → ∀ write16 ∈ callbacks.write16,
        (write16 bus.devices aligned
            (((cpu.registers decoded.rd).setWidth 16).rotateRight 8)).2 =
          (write16 bus.devices aligned ((cpu.registers decoded.rd).setWidth 16)).2
  | _, _ => True

end Statement

/-! ## Routing -/

section Routing

variable {σ : Type} (callbacks : MemoryBusIoCallbacks σ) {instruction : U32}

/-- The classes with both of the bits 26 and 27 set come first. -/
theorem not_system {group : BitVec 2} (h : instruction.extractLsb' 26 2 = group)
    (hne : group ≠ 0x3#2) :
    canDecodeSoftwareInterrupt instruction = false ∧ isCoprocessorSpace instruction = false := by
  have hfield : ∀ v : BitVec 4, v.extractLsb' 2 2 = 0x3#2 → instruction.extractLsb' 24 4 ≠ v := by
    intro v hv heq
    have hinner := field_of_field heq (t := 26) (m := 2) (by decide) (by decide)
    rw [h, hv] at hinner
    exact hne hinner
  have hinterrupt := hfield 0xF#4 (by decide)
  have hcoprocessor := hfield 0xE#4 (by decide)
  unfold canDecodeSoftwareInterrupt isCoprocessorSpace
  rw [decide_eq_false hinterrupt, decide_eq_false hcoprocessor]
  simp

/-- The class of word and byte transfers overlaps with no class before it. -/
theorem executeArmMemory_single (h : canDecodeSingleDataTransfer instruction = true)
    (cpu : Arm7tdmi) (bus : BusState σ)
    (hpasses : cpu.conditionPassed (decodeCondition instruction) = true) :
    executeArmMemory callbacks instruction cpu bus =
      cpu.executeSingleTransfer callbacks (cpu.decodeSingle instruction) bus := by
  have hclass : instruction.extractLsb' 26 2 = 0x1#2 ∧ supportedCondition instruction = true := by
    unfold canDecodeSingleDataTransfer canDecodeSingleDataTransferImmediate
      canDecodeSingleDataTransferRegister at h
    simp only [Bool.or_eq_true, Bool.and_eq_true, decide_eq_true_eq] at h
    rcases h with h | h
    · exact ⟨h.1.1, h.2⟩
    · exact ⟨h.1.1.1, h.2⟩
  obtain ⟨hgroup, hcondition⟩ := hclass
  have hunconditional : conditionField instruction ≠ 0xF#4 := by
    simpa [supportedCondition] using hcondition
  obtain ⟨hinterrupt, hcoprocessor⟩ := not_system hgroup (by decide)
  have hswap : canDecodeSwap instruction = false := by
    have hfield : instruction.extractLsb' 23 5 ≠ 0x2#5 := by
      intro heq
      have hinner := field_of_field heq (t := 26) (m := 2) (by decide) (by decide)
      rw [hgroup] at hinner
      exact absurd hinner (by decide)
    unfold canDecodeSwap
    rw [decide_eq_false hfield]
    simp
  have hblock : canDecodeBlockDataTransfer instruction = false := by
    have hfield : instruction.extractLsb' 25 3 ≠ 0x4#3 := by
      intro heq
      have hinner := field_of_field heq (t := 26) (m := 2) (by decide) (by decide)
      rw [hgroup] at hinner
      exact absurd hinner (by decide)
    unfold canDecodeBlockDataTransfer
    rw [decide_eq_false hfield]
    simp
  have hhalfword : canDecodeHalfwordDataTransfer instruction = false := by
    have hfield : instruction.extractLsb' 25 3 ≠ 0#3 := by
      intro heq
      have hinner := field_of_field heq (t := 26) (m := 2) (by decide) (by decide)
      rw [hgroup] at hinner
      exact absurd hinner (by decide)
    unfold canDecodeHalfwordDataTransfer canDecodeHalfwordDataTransferImmediate
      canDecodeHalfwordDataTransferRegister isHalfwordTransfer
    rw [decide_eq_false hfield]
    simp
  have hdecoded : (cpu.decodeSingle instruction).condition = decodeCondition instruction := by
    unfold decodeSingle
    split <;> rfl
  unfold executeArmMemory
  simp only [if_neg hunconditional, hinterrupt, hcoprocessor, hswap, hblock, hhalfword, h, hdecoded,
    hpasses, Bool.false_eq_true, Bool.not_true, if_false, if_true]

/-- The class of halfword transfers overlaps with no class before it. -/
theorem executeArmMemory_halfword (h : canDecodeHalfwordDataTransfer instruction = true)
    (cpu : Arm7tdmi) (bus : BusState σ)
    (hpasses : cpu.conditionPassed (decodeCondition instruction) = true) :
    executeArmMemory callbacks instruction cpu bus =
      cpu.executeHalfwordTransfer callbacks (cpu.decodeHalfword instruction) bus := by
  have hclass : isHalfwordTransfer instruction = true := by
    unfold canDecodeHalfwordDataTransfer canDecodeHalfwordDataTransferImmediate
      canDecodeHalfwordDataTransferRegister at h
    simp only [Bool.or_eq_true, Bool.and_eq_true] at h
    rcases h with h | h
    · exact h.2
    · exact h.2
  unfold isHalfwordTransfer at hclass
  simp only [Bool.and_eq_true, Bool.or_eq_true, decide_eq_true_eq] at hclass
  obtain ⟨⟨⟨⟨hgroup, -⟩, -⟩, htransfer⟩, hcondition⟩ := hclass
  have hunconditional : conditionField instruction ≠ 0xF#4 := by
    simpa [supportedCondition] using hcondition
  have hinner := field_of_field hgroup (t := 26) (m := 2) (by decide) (by decide)
  obtain ⟨hinterrupt, hcoprocessor⟩ := not_system hinner (by decide)
  have hswap : canDecodeSwap instruction = false := by
    -- a swap has both of the bits 5 and 6 clear
    have hfield : instruction.extractLsb' 4 8 ≠ 0x9#8 := by
      intro heq
      have hkind := field_of_field heq (t := 5) (m := 2) (by decide) (by decide)
      rcases htransfer with hstore | ⟨-, hbyte | hsigned⟩
      · rw [hstore] at hkind
        exact absurd hkind (by decide)
      · rw [hbyte] at hkind
        exact absurd hkind (by decide)
      · rw [hsigned] at hkind
        exact absurd hkind (by decide)
    unfold canDecodeSwap
    rw [decide_eq_false hfield]
    simp
  have hblock : canDecodeBlockDataTransfer instruction = false := by
    unfold canDecodeBlockDataTransfer
    rw [hgroup]
    simp
  have hdecoded : (cpu.decodeHalfword instruction).condition = decodeCondition instruction := by
    unfold decodeHalfword
    split <;> rfl
  unfold executeArmMemory
  simp only [if_neg hunconditional, hinterrupt, hcoprocessor, hswap, hblock, h, hdecoded,
    hpasses, Bool.false_eq_true, Bool.not_true, if_false, if_true]

/-- The Thumb class of single transfers. -/
theorem executeThumbMemory_transfer {instruction : U16}
    (h : canDecodeThumbMemoryTransfer instruction = true) (cpu : Arm7tdmi) (bus : BusState σ) :
    executeThumbMemory callbacks instruction cpu bus =
      cpu.executeThumbMemoryTransfer callbacks (decodeThumbMemoryTransfer instruction) bus := by
  have hnibble : ∀ v : BitVec 4, v = 0xB#4 ∨ v = 0xC#4 → instruction.extractLsb' 12 4 ≠ v := by
    intro v hv heq
    unfold canDecodeThumbMemoryTransfer at h
    simp only [Bool.or_eq_true, decide_eq_true_eq] at h
    rcases h with (((hpc | hregister) | himmediate) | hhalfword) | hsp
    · have hinner := field_of_field hpc (t := 12) (m := 4) (by decide) (by decide)
      rw [heq] at hinner
      rcases hv with rfl | rfl <;> exact absurd hinner (by decide)
    · rw [hregister] at heq
      rcases hv with rfl | rfl <;> exact absurd heq (by decide)
    · have hinner := field_of_field heq (t := 13) (m := 3) (by decide) (by decide)
      rw [himmediate] at hinner
      rcases hv with rfl | rfl <;> exact absurd hinner (by decide)
    · rw [hhalfword] at heq
      rcases hv with rfl | rfl <;> exact absurd heq (by decide)
    · rw [hsp] at heq
      rcases hv with rfl | rfl <;> exact absurd heq (by decide)
  have hblock : canDecodeThumbBlockTransfer instruction = false := by
    unfold canDecodeThumbBlockTransfer
    rw [decide_eq_false (hnibble 0xC#4 (.inr rfl)), Bool.false_and]
  have hstack : canDecodeThumbStackTransfer instruction = false := by
    rw [Bool.eq_false_iff]
    exact fun hdecode => hnibble 0xB#4 (.inl rfl) (thumbStackTransfer_nibble hdecode)
  unfold executeThumbMemory
  simp only [hblock, hstack, h, Bool.false_eq_true, if_false, if_true]

end Routing

/-! ## Executions without write-back -/

section Executions

variable {σ : Type} (callbacks : MemoryBusIoCallbacks σ)

/-- Loads agree exactly when their values do; without write-back the base does not matter. -/
theorem finishLoad_eq_iff (cpu : Arm7tdmi) (bus : BusState σ) (rd rn other : Fin 16)
    (value value' : Option U32) :
    cpu.finishLoad bus rd rn none value = cpu.finishLoad bus rd other none value' ↔
      value = value' := by
  refine ⟨fun heq => ?_, ?_⟩
  · cases value with
    | none =>
      cases value' with
      | none => rfl
      | some value' => cases congrArg MemoryExecution.status heq
    | some value =>
      cases value' with
      | none => cases congrArg MemoryExecution.status heq
      | some value' =>
        have hregister := congrFun (congrArg registers (congrArg MemoryExecution.cpu heq)) rd
        have hvalue : value = value' := by
          simpa [finishLoad, setRegister] using hregister
        rw [hvalue]
  · rintro rfl
    cases value <;> rfl

/-- Stores agree exactly when the bus does. -/
theorem finishStore_eq_iff (cpu : Arm7tdmi) (rn other : Fin 16) (stored stored' : Bool × BusState σ) :
    cpu.finishStore rn none stored = cpu.finishStore other none stored' ↔ stored = stored' := by
  obtain ⟨done, bus⟩ := stored
  obtain ⟨done', bus'⟩ := stored'
  refine ⟨fun heq => ?_, ?_⟩
  · have hbus := congrArg MemoryExecution.bus heq
    have hstatus := congrArg MemoryExecution.status heq
    unfold finishStore at hbus hstatus
    cases done <;> cases done' <;> simp_all
  · intro heq
    cases heq
    rfl

theorem decodeSingle_eq (cpu : Arm7tdmi) (instruction : U32) :
    cpu.decodeSingle instruction =
      decodeSingleDataTransferWith instruction (cpu.decodeSingle instruction).offset := by
  unfold decodeSingle
  split <;> rfl

theorem decodeHalfword_eq (cpu : Arm7tdmi) (instruction : U32) :
    cpu.decodeHalfword instruction =
      decodeHalfwordDataTransferWith instruction (cpu.decodeHalfword instruction).offset := by
  unfold decodeHalfword
  split <;> rfl

variable {instruction : U32} {decoded : DecodedThumbMemoryTransferInstruction} {cpu : Arm7tdmi}
  (h : IsTwin instruction decoded cpu) (bus : BusState σ)

include h

/-- The ARM instruction of a word transfer. -/
theorem IsTwin.execute_word (hkind : decoded.kind = .word) :
    executeArmMemory callbacks instruction cpu bus =
      if decoded.load then
        cpu.finishLoad bus decoded.rd (registerField instruction 16) none
          (read32OrArmPipelineOpenBus callbacks bus (cpu.thumbTransferAddress decoded)
            (cpu.registers kPc))
      else
        cpu.finishStore (registerField instruction 16) none
          (bus.write32 callbacks (wordStoreAddress (cpu.thumbTransferAddress decoded))
            (if decoded.rd = kPc then cpu.registers kPc + 12 else cpu.registers decoded.rd)) := by
  obtain ⟨hpasses, hload, hpre, hwriteBack, hrd, hclass, haddress⟩ := h
  rw [hkind] at hclass haddress
  rw [executeArmMemory_single callbacks hclass.1 cpu bus hpasses, decodeSingle_eq]
  unfold executeSingleTransfer decodeSingleDataTransferWith
  simp only [hload, hpre, hwriteBack, hclass.2, hrd, haddress, supportedTransferAddressing,
    transferNeedsWriteBack, Bool.true_or, Bool.not_true, Bool.or_false, Bool.false_and,
    Bool.false_eq_true, if_false, if_true]

/-- The ARM instruction of a byte transfer. -/
theorem IsTwin.execute_byte (hkind : decoded.kind = .byte) :
    executeArmMemory callbacks instruction cpu bus =
      if decoded.load then
        cpu.finishLoad bus decoded.rd (registerField instruction 16) none
          ((read8OrArmPipelineOpenBus callbacks bus (cpu.thumbTransferAddress decoded)
            (cpu.registers kPc)).map (BitVec.setWidth 32))
      else
        cpu.finishStore (registerField instruction 16) none
          (bus.write8 callbacks (cpu.thumbTransferAddress decoded)
            ((cpu.registers decoded.rd).setWidth 8)) := by
  obtain ⟨hpasses, hload, hpre, hwriteBack, hrd, hclass, haddress⟩ := h
  rw [hkind] at hclass haddress
  rw [executeArmMemory_single callbacks hclass.1 cpu bus hpasses, decodeSingle_eq]
  unfold executeSingleTransfer decodeSingleDataTransferWith
  simp only [hload, hpre, hwriteBack, hclass.2, hrd, haddress, supportedTransferAddressing,
    transferNeedsWriteBack, Bool.true_or, Bool.not_true, Bool.or_false, Bool.false_and,
    Bool.false_eq_true, if_false, if_true]

/-- The ARM instruction of the other transfers. -/
theorem IsTwin.execute_halfword {signed halfword : Bool}
    (hclass : canDecodeHalfwordDataTransfer instruction = true)
    (hsigned : instruction.getLsbD 6 = signed) (hhalfword : instruction.getLsbD 5 = halfword)
    (hkind : decoded.kind ≠ .word ∧ decoded.kind ≠ .byte) :
    executeArmMemory callbacks instruction cpu bus =
      let address := cpu.thumbTransferAddress decoded
      if decoded.load then
        cpu.finishLoad bus decoded.rd (registerField instruction 16) none
          (if signed && (!halfword || anySet address 0x1#32) then
            (read8OrArmPipelineOpenBus callbacks bus address (cpu.registers kPc)).map signExtend8
          else
            (read16OrArmPipelineOpenBus callbacks bus
              (if (classify address).region = .gamePakSave then address
                else address &&& ~~~0x1#32) (cpu.registers kPc)).map fun value =>
              if signed then signExtend16 value
              else if anySet address 0x1#32 then rotateRight (value.setWidth 32) 8
              else value.setWidth 32)
      else if signed || !halfword then ⟨.unsupported, cpu, bus⟩
      else
        cpu.finishStore (registerField instruction 16) none
          (bus.write16 callbacks
            (if (classify address).region = .gamePakSave then address
              else address &&& ~~~0x1#32) ((cpu.registers decoded.rd).setWidth 16)) := by
  have haddress : offsetTransferAddress
      (cpu.armVisibleRegisterValue (registerField instruction 16))
      (cpu.decodeHalfword instruction).offset (instruction.getLsbD 23) =
        cpu.thumbTransferAddress decoded := by
    have haddress := h.address
    cases hcase : decoded.kind with
    | word => exact absurd hcase hkind.1
    | byte => exact absurd hcase hkind.2
    | _ =>
      rw [hcase] at haddress
      exact haddress
  obtain ⟨hpasses, hload, hpre, hwriteBack, hrd, -, -⟩ := h
  rw [executeArmMemory_halfword callbacks hclass cpu bus hpasses, decodeHalfword_eq]
  unfold executeHalfwordTransfer decodeHalfwordDataTransferWith loadHalfword
  simp only [hload, hpre, hwriteBack, hsigned, hhalfword, hrd, haddress,
    supportedTransferAddressing, transferNeedsWriteBack, Bool.true_or, Bool.not_true, Bool.or_false,
    Bool.false_and, Bool.false_eq_true, if_false, if_true]

end Executions

/-! ## Odd addresses -/

section Odd

variable {σ : Type} (callbacks : MemoryBusIoCallbacks σ) (bus : BusState σ) {address : U32}

theorem anySet_one (address : U32) : anySet address 0x1#32 = true ↔ address.toNat % 2 = 1 := by
  have hand : (address &&& 0x1#32).toNat = address.toNat % 2 := by
    rw [BitVec.toNat_and]
    exact Nat.and_one_is_mod _
  unfold anySet
  rw [bne_iff_ne, Ne, ← BitVec.toNat_inj, hand]
  show ¬address.toNat % 2 = 0 ↔ _
  omega

/-- The halfword at an even address is not moved. -/
theorem clearLowest_of_even (h : anySet address 0x1#32 = false) :
    address &&& ~~~0x1#32 = address := by
  have hzero : address &&& 0x1#32 = 0#32 := by
    unfold anySet at h
    simpa using h
  have hsplit : address &&& (0x1#32 ||| ~~~0x1#32) = address := BitVec.and_allOnes
  rw [BitVec.and_or_distrib_left, hzero, BitVec.zero_or] at hsplit
  exact hsplit

/-- The save memory answers halfwords with its bytes, at any address. -/
theorem read16_save (h : (classify address).region = .gamePakSave) :
    bus.read16 callbacks address = (bus.read8 callbacks address).map repeatByte16 := by
  have htop : (address >>> 24).toNat ≠ 4 := by
    intro htop
    have hclass : classify address =
        if address &&& 0x00FFFFFF#32 ≤ 0x3FE#32 then
          ⟨.io, address &&& 0x00FFFFFF#32, false, false⟩
        else ⟨.unknown, 0, false, false⟩ := by
      unfold classify
      dsimp only
      rw [htop]
      rfl
    rw [hclass] at h
    split at h <;> cases h
  have hnat : address.toNat / 2 ^ 24 ≠ 4 := by
    rwa [BitVec.toNat_ushiftRight, Nat.shiftRight_eq_div_pow] at htop
  unfold BusState.read16 BusState.read8
  dsimp only
  rw [if_pos h, if_neg, if_neg, h]
  · rintro ⟨hstart, hend⟩
    have hstart := BitVec.le_def.mp hstart
    have hend := BitVec.le_def.mp hend
    simp only [kMgbaDebugStringStart, kMgbaDebugStringEnd, BitVec.toNat_ofNat] at hstart hend
    omega
  · rintro ⟨hstart, hend⟩
    have hstart := BitVec.le_def.mp hstart
    have hend := BitVec.lt_def.mp hend
    have hlast : (kNoCashGbaDebugIdStart + 7).toNat = 0x04FFFA07 := by decide
    rw [hlast] at hend
    simp only [kNoCashGbaDebugIdStart, BitVec.toNat_ofNat] at hstart
    omega

/-- No other region answers a halfword at an odd address. -/
theorem read16_odd (h : (classify address).region ≠ .gamePakSave)
    (hodd : anySet address 0x1#32 = true) : bus.read16 callbacks address = none := by
  have hmod : address % 2 ≠ 0 := by
    have hnat := (anySet_one address).mp hodd
    intro hzero
    have hzero := congrArg BitVec.toNat hzero
    rw [BitVec.toNat_umod] at hzero
    exact absurd (hzero.symm.trans hnat) (by decide)
  unfold BusState.read16
  dsimp only
  rw [if_neg h, if_pos hmod]

/-- A rotated halfword that fits a halfword. -/
theorem rotated_eq_iff (half other : U16) :
    other.setWidth 32 = rotateRight (half.setWidth 32) 8 ↔
      half.setWidth 8 = 0#8 ∧ other = half >>> 8 := by
  have hbits : ∀ i < 32, (rotateRight (half.setWidth 32) 8).getLsbD i =
      if i < 24 then half.getLsbD (8 + i) else half.getLsbD (i - 24) := by
    intro i hi
    unfold rotateRight
    rw [BitVec.getLsbD_rotateRight]
    by_cases hlow : i < 24
    · simp [hlow]
      intro hbit
      exact lt_trans (BitVec.lt_of_getLsbD hbit) (by decide)
    · simp [hlow, hi, show i - 24 < 32 by omega]
  constructor
  · intro heq
    constructor
    · refine BitVec.eq_of_getLsbD_eq fun i hi => ?_
      have hbit := congrArg (fun word => BitVec.getLsbD word (24 + i)) heq
      rw [hbits _ (by omega), if_neg (by omega), Nat.add_sub_cancel_left,
        BitVec.getLsbD_setWidth, BitVec.getLsbD_of_ge other _ (by omega), Bool.and_false] at hbit
      rw [BitVec.getLsbD_setWidth, ← hbit]
      simp
    · refine BitVec.eq_of_getLsbD_eq fun i hi => ?_
      have hbit := congrArg (fun word => BitVec.getLsbD word i) heq
      rw [hbits _ (by omega), if_pos (by omega), BitVec.getLsbD_setWidth,
        decide_eq_true (by omega : i < 32), Bool.true_and] at hbit
      rw [hbit, BitVec.getLsbD_ushiftRight]
  · rintro ⟨hlow, rfl⟩
    refine BitVec.eq_of_getLsbD_eq fun i hi => ?_
    rw [hbits i hi, BitVec.getLsbD_setWidth, BitVec.getLsbD_ushiftRight, decide_eq_true hi,
      Bool.true_and]
    by_cases hplace : i < 24
    · rw [if_pos hplace]
    · have hzero := congrArg (fun byte => BitVec.getLsbD byte (i - 24)) hlow
      rw [BitVec.getLsbD_setWidth, decide_eq_true (by omega : i - 24 < 8), Bool.true_and,
        BitVec.getLsbD_zero] at hzero
      rw [if_neg hplace, hzero]
      exact BitVec.getLsbD_of_ge half _ (by omega)

/-- A halfword and a byte that extend to the same word. -/
theorem signExtend_eq_iff (half : U16) (byte : U8) :
    signExtend16 half = signExtend8 byte ↔ half = byte.signExtend 16 := by
  unfold signExtend16 signExtend8
  rw [← BitVec.toInt_inj, ← BitVec.toInt_inj, BitVec.toInt_signExtend_of_le (by decide),
    BitVec.toInt_signExtend_of_le (by decide), BitVec.toInt_signExtend_of_le (by decide)]

/-- A byte of the save memory in both halves, and rotated. -/
theorem repeated_eq_iff (byte : U8) :
    ((repeatByte16 byte).setWidth 32 = rotateRight ((repeatByte16 byte).setWidth 32) 8 ↔
      byte = 0) ∧
    (signExtend16 (repeatByte16 byte) = signExtend8 byte ↔ byte = 0 ∨ byte = 0xFF) := by
  revert byte
  decide +kernel

/-- What the loads of a halfword read: the same halfword at an even address, a byte of the save memory
in both halves, and elsewhere at an odd address the aligned halfword in ARM state and the pipeline in
Thumb state. -/
inductive HalfwordReads (pc : U32) : Prop
  | even {half : U16} (heven : anySet address 0x1#32 = false)
      (thumb : read16OrThumbPipelineOpenBus callbacks bus address pc = some half)
      (arm : read16OrArmPipelineOpenBus callbacks bus
        (if (classify address).region = .gamePakSave then address else address &&& ~~~0x1#32) pc =
          some half)
  | save {byte : U8} (hodd : anySet address 0x1#32 = true)
      (hsave : (classify address).region = .gamePakSave)
      (hbyte : bus.read8 callbacks address = some byte)
      (thumb : read16OrThumbPipelineOpenBus callbacks bus address pc = some (repeatByte16 byte))
      (arm : read16OrArmPipelineOpenBus callbacks bus
        (if (classify address).region = .gamePakSave then address else address &&& ~~~0x1#32) pc =
          some (repeatByte16 byte))
  | odd {byte : U8} {half : U16} (hodd : anySet address 0x1#32 = true)
      (hsave : (classify address).region ≠ .gamePakSave)
      (hbyte : bus.read8 callbacks address = some byte)
      (hhalf : bus.read16 callbacks (address &&& ~~~0x1#32) = some half)
      (thumb : read16OrThumbPipelineOpenBus callbacks bus address pc =
        (bus.read32 callbacks (pc + 4)).map fun (word : U32) => (word >>> 16).setWidth 16)
      (arm : read16OrArmPipelineOpenBus callbacks bus
        (if (classify address).region = .gamePakSave then address else address &&& ~~~0x1#32) pc =
          some half)

section Loads

variable (hbyte : (bus.read8 callbacks address).isSome = true)
  (hhalf : (bus.read16 callbacks (address &&& ~~~0x1#32)).isSome = true) (pc : U32)

include hbyte hhalf

theorem halfwordReads : @HalfwordReads _ callbacks bus address pc := by
  obtain ⟨byte, hbyte⟩ := Option.isSome_iff_exists.mp hbyte
  obtain ⟨half, hhalf⟩ := Option.isSome_iff_exists.mp hhalf
  by_cases hodd : anySet address 0x1#32 = true
  · by_cases hsave : (classify address).region = .gamePakSave
    · have hread := read16_save callbacks bus hsave
      rw [hbyte, Option.map_some] at hread
      refine .save hodd hsave hbyte ?_ ?_
      · unfold read16OrThumbPipelineOpenBus
        rw [hread]
      · unfold read16OrArmPipelineOpenBus
        rw [if_pos hsave, hread]
    · refine .odd hodd hsave hbyte hhalf ?_ ?_
      · unfold read16OrThumbPipelineOpenBus
        rw [read16_odd callbacks bus hsave hodd]
      · unfold read16OrArmPipelineOpenBus
        rw [if_neg hsave, hhalf]
  · have heven : anySet address 0x1#32 = false := by simpa using hodd
    have haligned := clearLowest_of_even heven
    rw [haligned] at hhalf
    refine @HalfwordReads.even _ callbacks bus address pc half heven ?_ ?_
    · unfold read16OrThumbPipelineOpenBus
      rw [hhalf]
    · unfold read16OrArmPipelineOpenBus
      rw [haligned, ite_self, hhalf]

/-- `LDRH` in both instruction sets. -/
theorem halfwordLoad_iff :
    (read16OrThumbPipelineOpenBus callbacks bus address pc).map (BitVec.setWidth 32) =
        (read16OrArmPipelineOpenBus callbacks bus
          (if (classify address).region = .gamePakSave then address else address &&& ~~~0x1#32)
          pc).map (fun value : U16 =>
            if anySet address 0x1#32 then rotateRight (value.setWidth 32) 8
            else value.setWidth 32) ↔
      (anySet address 0x1#32 = true →
        if (classify address).region = .gamePakSave then bus.read8 callbacks address = some 0
        else ∃ half, bus.read16 callbacks (address &&& ~~~0x1#32) = some half ∧
          half.setWidth 8 = 0#8 ∧
          ((bus.read32 callbacks (pc + 4)).map fun (word : U32) => (word >>> 16).setWidth 16) =
            some (half >>> 8)) := by
  cases halfwordReads callbacks bus hbyte hhalf pc with
  | even heven hthumb harm =>
    rw [hthumb, harm]
    simp [heven]
  | save hodd hsave hbyte hthumb harm =>
    rw [hthumb, harm]
    simp only [hodd, if_pos hsave, hbyte, if_true, Option.map_some, Option.some.injEq, forall_const]
    exact (repeated_eq_iff _).1
  | @odd byte half hodd hsave hbyte hhalf hthumb harm =>
    rw [hthumb, harm]
    simp only [hodd, if_neg hsave, hhalf, if_true, Option.map_some, forall_const]
    cases hword : bus.read32 callbacks (pc + 4) with
    | none => simp
    | some word =>
      simp only [Option.map_some, Option.some.injEq, rotated_eq_iff]
      constructor
      · rintro ⟨hlow, heq⟩
        exact ⟨half, rfl, hlow, heq⟩
      · rintro ⟨_, rfl, hlow, heq⟩
        exact ⟨hlow, heq⟩

/-- `LDRSH` in both instruction sets. -/
theorem signedHalfwordLoad_iff :
    (read16OrThumbPipelineOpenBus callbacks bus address pc).map signExtend16 =
        (if anySet address 0x1#32 then
          (read8OrArmPipelineOpenBus callbacks bus address pc).map signExtend8
        else
          (read16OrArmPipelineOpenBus callbacks bus
            (if (classify address).region = .gamePakSave then address else address &&& ~~~0x1#32)
            pc).map signExtend16) ↔
      (anySet address 0x1#32 = true →
        if (classify address).region = .gamePakSave then
          bus.read8 callbacks address = some 0 ∨ bus.read8 callbacks address = some 0xFF
        else ∃ byte, bus.read8 callbacks address = some byte ∧
          ((bus.read32 callbacks (pc + 4)).map fun (word : U32) => (word >>> 16).setWidth 16) =
            some (byte.signExtend 16)) := by
  cases halfwordReads callbacks bus hbyte hhalf pc with
  | even heven hthumb harm =>
    rw [hthumb, harm]
    simp [heven]
  | save hodd hsave hbyte hthumb harm =>
    unfold read8OrArmPipelineOpenBus
    rw [hthumb, hbyte]
    simp only [hodd, if_pos hsave, if_true, Option.map_some, Option.some.injEq, forall_const]
    exact (repeated_eq_iff _).2
  | @odd byte half hodd hsave hbyte hhalf hthumb harm =>
    unfold read8OrArmPipelineOpenBus
    rw [hthumb, hbyte]
    simp only [hodd, if_neg hsave, if_true, Option.map_some, forall_const]
    cases hword : bus.read32 callbacks (pc + 4) with
    | none => simp
    | some word =>
      simp only [Option.map_some, Option.some.injEq, signExtend_eq_iff]
      constructor
      · intro heq
        exact ⟨byte, rfl, heq⟩
      · rintro ⟨_, rfl, heq⟩
        exact heq

end Loads

/-- Stores reach I/O registers through the facade only. -/
theorem classify_io_writable (h : (classify address).region = .io) :
    (classify address).writable = false := by
  have htop : (address >>> 24).toNat = 4 := by
    rw [BitVec.toNat_ushiftRight, Nat.shiftRight_eq_div_pow]
    exact ((classify_io_iff address).mp h).1
  unfold classify
  dsimp only
  rw [htop]
  show AddressInfo.writable (if _ then _ else _) = _
  split <;> rfl

theorem classify_io_aligned (h : (classify address).region = .io) :
    (classify (address &&& ~~~0x1#32)).region = .io := by
  have hnat : (address &&& ~~~0x1#32).toNat = address.toNat / 2 * 2 :=
    @clearLow_toNat address 1 (by decide)
  rw [classify_io_iff] at h ⊢
  rw [hnat]
  omega

/-- A halfword stored in an I/O register. -/
theorem write16_io (h : (classify address).region = .io) (value : U16) :
    bus.write16 callbacks address value =
      match callbacks.write16 with
      | none => (false, bus)
      | some write16 =>
          (true, { bus with
            devices := (write16 bus.devices (address &&& ~~~0x1#32)
              (value.rotateRight ((address &&& 0x1#32).toNat * 8))).2 }) := by
  have hlt : address.toNat < 0x04000400 := by
    have := (classify_io_iff address).mp h
    omega
  have hdebug8 (value : U8) : bus.memory.writeDebug8 address value = none := by
    unfold MemoryBus.writeDebug8
    rw [if_neg, if_neg]
    · rintro rfl
      exact absurd hlt (by decide)
    · rintro ⟨hstart, -⟩
      exact absurd (BitVec.le_def.mp hstart) (Nat.not_le_of_lt (lt_trans hlt (by decide)))
  have hdebug : bus.writeDebug16 address value = none := by
    unfold BusState.writeDebug16
    rw [if_neg, if_neg, if_neg, if_neg]
    · rintro rfl
      exact absurd hlt (by decide)
    · rintro ⟨hstart, -⟩
      exact absurd (BitVec.le_def.mp hstart) (Nat.not_le_of_lt (lt_trans hlt (by decide)))
    · rintro rfl
      exact absurd hlt (by decide)
    · rintro rfl
      exact absurd hlt (by decide)
  have hwritable := classify_io_writable h
  unfold BusState.write16
  dsimp only
  rw [hdebug, h]
  simp only [reduceCtorEq, if_false]
  cases hwrite : callbacks.write16 with
  | some write16 => rfl
  | none =>
    have hbyte (value : U8) : bus.write8 callbacks address value = (false, bus) := by
      unfold BusState.write8
      rw [hdebug8 value]
      simp [h, hwrite, hwritable]
    dsimp only
    split
    · simp [BusState.writeBytes, BusState.andThen, hbyte]
    · simp [BusState.writeUnit, List.range_succ, hwritable]

/-- `STRH` in both instruction sets. -/
theorem halfwordStore_iff (value : U16) :
    bus.write16 callbacks
          (if (classify address).region = .gamePakSave ∨ (classify address).region = .io then address
            else address &&& ~~~0x1#32) value =
        bus.write16 callbacks
          (if (classify address).region = .gamePakSave then address else address &&& ~~~0x1#32)
          value ↔
      (anySet address 0x1#32 = true → (classify address).region = .io →
        ∀ write16 ∈ callbacks.write16,
          (write16 bus.devices (address &&& ~~~0x1#32) (value.rotateRight 8)).2 =
            (write16 bus.devices (address &&& ~~~0x1#32) value).2) := by
  by_cases hodd : anySet address 0x1#32 = true
  · by_cases hio : (classify address).region = .io
    · have hsave : (classify address).region ≠ .gamePakSave := by
        rw [hio]
        decide
      have hlane : (address &&& 0x1#32).toNat = 1 := by
        rw [BitVec.toNat_and]
        exact (Nat.and_one_is_mod _).trans ((anySet_one address).mp hodd)
      have halignedLane : (address &&& ~~~0x1#32 &&& 0x1#32).toNat = 0 := by
        rw [BitVec.and_assoc]
        exact congrArg BitVec.toNat BitVec.and_zero
      have hagain : address &&& ~~~0x1#32 &&& ~~~0x1#32 = address &&& ~~~0x1#32 := by
        rw [BitVec.and_assoc, BitVec.and_self]
      rw [if_pos (.inr hio), if_neg hsave, write16_io callbacks bus hio,
        write16_io callbacks bus (classify_io_aligned hio), hlane, halignedLane, hagain]
      cases callbacks.write16 with
      | none => simp
      | some write16 =>
        have hzero : value.rotateRight (0 * 8) = value := by
          simp [BitVec.rotateRight_eq_rotateRightAux_of_lt, BitVec.rotateRightAux]
        rw [hzero]
        simp [hodd, hio]
    · simp [hio]
  · have heven : anySet address 0x1#32 = false := by simpa using hodd
    have haligned := clearLowest_of_even heven
    rw [haligned, ite_self, ite_self]
    simp [heven]

end Odd

/-! ## The instructions -/

section Parity

variable {σ : Type} (callbacks : MemoryBusIoCallbacks σ) {instruction : U16} {armInstruction : U32}
  {cpu : Arm7tdmi} (bus : BusState σ)

/-- The register of a Thumb transfer is a low one, and only loads extend a sign. -/
theorem decodeThumbMemoryTransfer_fields (instruction : U16) :
    (decodeThumbMemoryTransfer instruction).rd ≠ kPc ∧
      ((decodeThumbMemoryTransfer instruction).kind = .signedByte ∨
        (decodeThumbMemoryTransfer instruction).kind = .signedHalfword →
          (decodeThumbMemoryTransfer instruction).load = true) := by
  have hlow (shift : Nat) : lowRegisterField instruction shift ≠ kPc := by
    intro hpc
    have hlt := lowRegisterField_lt instruction shift
    rw [hpc] at hlt
    exact absurd hlt (by decide)
  have hop : ∀ op : BitVec 3,
      [ThumbMemoryTransferKind.word, .halfword, .byte, .signedByte, .word, .halfword, .byte,
          .signedHalfword].getD op.toNat .word = .signedByte ∨
        [ThumbMemoryTransferKind.word, .halfword, .byte, .signedByte, .word, .halfword, .byte,
          .signedHalfword].getD op.toNat .word = .signedHalfword →
      (decide (0x4#3 ≤ op) || decide (op = 0x3#3)) = true := by
    decide
  unfold decodeThumbMemoryTransfer
  dsimp only
  split
  · exact ⟨hlow _, by simp⟩
  split
  · exact ⟨hlow _, hop _⟩
  split
  · refine ⟨hlow _, ?_⟩
    dsimp only
    split <;> simp
  split
  · exact ⟨hlow _, by simp⟩
  · exact ⟨hlow _, by simp⟩

/-- `LDRH` and `STRH` beside their ARM instructions. -/
theorem halfword_parity {decoded : DecodedThumbMemoryTransferInstruction}
    (h : IsTwin armInstruction decoded cpu) (hkind : decoded.kind = .halfword)
    (hmapped : decoded.load = true →
      Mapped callbacks bus .halfword (cpu.thumbTransferAddress decoded)) :
    executeThumbMemoryTransfer callbacks cpu decoded bus =
        executeArmMemory callbacks armInstruction cpu bus ↔
      (anySet (cpu.thumbTransferAddress decoded) 0x1#32 = true →
        OddAddressAgrees callbacks decoded cpu bus) := by
  have hclass := h.kind
  rw [hkind] at hclass
  rw [h.execute_halfword callbacks bus hclass.1 hclass.2.1 hclass.2.2 (by rw [hkind]; decide)]
  unfold executeThumbMemoryTransfer OddAddressAgrees prefetchedHalf
  rw [hkind]
  cases hload : decoded.load with
  | true =>
    have hread := hmapped hload
    simp only [if_true, Bool.false_and, Bool.false_eq_true, if_false]
    rw [finishLoad_eq_iff]
    exact halfwordLoad_iff callbacks bus hread.1 hread.2 _
  | false =>
    simp only [Bool.false_eq_true, if_false, Bool.not_true, Bool.or_false]
    rw [finishStore_eq_iff]
    exact halfwordStore_iff callbacks bus _

/-- A Thumb load or store has the effect of the ARM instruction at the same address exactly when the
address is even, the width is not a halfword, or memory happens to hide the difference. -/
theorem thumbTransfer_parity (hdecode : canDecodeThumbMemoryTransfer instruction = true)
    (h : IsTwin armInstruction (decodeThumbMemoryTransfer instruction) cpu)
    (hmapped : (decodeThumbMemoryTransfer instruction).load = true →
      Mapped callbacks bus (decodeThumbMemoryTransfer instruction).kind
        (cpu.thumbTransferAddress (decodeThumbMemoryTransfer instruction))) :
    executeThumbMemory callbacks instruction cpu bus =
        executeArmMemory callbacks armInstruction cpu bus ↔
      (anySet (cpu.thumbTransferAddress (decodeThumbMemoryTransfer instruction)) 0x1#32 = true →
        OddAddressAgrees callbacks (decodeThumbMemoryTransfer instruction) cpu bus) := by
  rw [executeThumbMemory_transfer callbacks hdecode]
  obtain ⟨hpc, hsigned⟩ := decodeThumbMemoryTransfer_fields instruction
  generalize decodeThumbMemoryTransfer instruction = decoded at *
  -- only the halfword loads look at the lowest address bit
  cases hkind : decoded.kind with
  | word =>
    have hagrees : OddAddressAgrees callbacks decoded cpu bus := by
      simp [OddAddressAgrees, hkind]
    refine iff_of_true ?_ fun _ => hagrees
    rw [h.execute_word callbacks bus hkind]
    unfold executeThumbMemoryTransfer
    rw [hkind]
    cases hload : decoded.load with
    | true =>
      have hread := hmapped hload
      rw [hkind] at hread
      obtain ⟨word, hword⟩ := Option.isSome_iff_exists.mp hread
      simp only [if_true]
      rw [finishLoad_eq_iff]
      unfold read32OrThumbPipelineOpenBus read32OrArmPipelineOpenBus
      rw [hword]
    | false =>
      simp only [Bool.false_eq_true, if_false]
      rw [finishStore_eq_iff, if_neg hpc]
  | byte =>
    have hagrees : OddAddressAgrees callbacks decoded cpu bus := by
      simp [OddAddressAgrees, hkind]
    refine iff_of_true ?_ fun _ => hagrees
    rw [h.execute_byte callbacks bus hkind]
    unfold executeThumbMemoryTransfer
    rw [hkind]
    cases hload : decoded.load with
    | true =>
      have hread := hmapped hload
      rw [hkind] at hread
      obtain ⟨byte, hbyte⟩ := Option.isSome_iff_exists.mp hread
      simp only [if_true]
      rw [finishLoad_eq_iff]
      unfold read8OrThumbPipelineOpenBus read8OrArmPipelineOpenBus
      rw [hbyte]
    | false =>
      simp only [Bool.false_eq_true, if_false]
      rw [finishStore_eq_iff]
  | halfword =>
    exact halfword_parity callbacks bus h hkind fun hload => by
      have hread := hmapped hload
      rwa [hkind] at hread
  | signedByte =>
    have hclass := h.kind
    rw [hkind] at hclass
    have hload := hsigned (.inl hkind)
    have hagrees : OddAddressAgrees callbacks decoded cpu bus := by
      simp [OddAddressAgrees, hkind]
    refine iff_of_true ?_ fun _ => hagrees
    rw [h.execute_halfword callbacks bus hclass.1 hclass.2.1 hclass.2.2 (by rw [hkind]; decide)]
    have hread := hmapped hload
    rw [hkind] at hread
    obtain ⟨byte, hbyte⟩ := Option.isSome_iff_exists.mp hread
    unfold executeThumbMemoryTransfer
    rw [hkind]
    simp only [hload, if_true, Bool.not_false, Bool.true_or, Bool.and_true]
    rw [finishLoad_eq_iff]
    unfold read8OrThumbPipelineOpenBus read8OrArmPipelineOpenBus
    rw [hbyte]
  | signedHalfword =>
    have hclass := h.kind
    rw [hkind] at hclass
    have hload := hsigned (.inr hkind)
    rw [h.execute_halfword callbacks bus hclass.1 hclass.2.1 hclass.2.2 (by rw [hkind]; decide)]
    unfold executeThumbMemoryTransfer OddAddressAgrees prefetchedHalf
    have hread := hmapped hload
    rw [hkind] at hread
    rw [hkind, hload]
    simp only [if_true, Bool.not_true, Bool.false_or, Bool.true_and]
    rw [finishLoad_eq_iff]
    exact signedHalfwordLoad_iff callbacks bus hread.1 hread.2 _

end Parity

/-! ### A halfword of EWRAM -/

/-- A base in EWRAM, and the pipeline in IWRAM. -/
def ewramBase (base : U32) : Arm7tdmi :=
  { reset with
    registers := fun index => if index = 1 then base else if index = kPc then 0x03000000#32 else 0 }

/-- EWRAM that starts with the halfword `0x1234`. -/
def ewramBus : BusState Unit :=
  ⟨{ MemoryBus.initial with
    ewram := fun index => if index.val = 0 then 0x34 else if index.val = 1 then 0x12 else 0 }, ()⟩

/-- `LDRH r0, [r1]` of both instruction sets. -/
theorem ldrh_isTwin (base : U32) :
    IsTwin 0xE1D100B0#32 (decodeThumbMemoryTransfer 0x8808#16) (ewramBase base) where
  passes := rfl
  load := by decide
  preIndex := by decide
  withoutWriteBack := by decide
  rd := by decide
  kind := by
    show canDecodeHalfwordDataTransfer 0xE1D100B0#32 = true ∧ _ ∧ _
    decide
  address := rfl

/-- At an odd address the Thumb load takes the pipeline's word, and the ARM load the halfword. -/
theorem not_parity_ldrh :
    IsTwin 0xE1D100B0#32 (decodeThumbMemoryTransfer 0x8808#16) (ewramBase 0x02000001#32) ∧
      Mapped ⟨none, none, none, none⟩ ewramBus .halfword 0x02000001#32 ∧
      executeThumbMemory ⟨none, none, none, none⟩ 0x8808#16 (ewramBase 0x02000001#32) ewramBus ≠
        executeArmMemory ⟨none, none, none, none⟩ 0xE1D100B0#32 (ewramBase 0x02000001#32)
          ewramBus := by
  have hmapped : Mapped ⟨none, none, none, none⟩ ewramBus .halfword 0x02000001#32 := by
    unfold Mapped
    decide
  refine ⟨ldrh_isTwin _, hmapped, fun heq => ?_⟩
  rw [executeThumbMemory_transfer _ (by decide)] at heq
  have hagrees := (halfword_parity _ _ (ldrh_isTwin 0x02000001#32) rfl fun _ => hmapped).mp heq
    (by decide)
  obtain ⟨half, hhalf, hlow, -⟩ : ∃ half : U16, BusState.read16 _ ewramBus
      (0x02000001#32 &&& ~~~0x1#32) = some half ∧ half.setWidth 8 = 0#8 ∧ _ := hagrees
  have hread : BusState.read16 (⟨none, none, none, none⟩ : MemoryBusIoCallbacks Unit) ewramBus
      (0x02000001#32 &&& ~~~0x1#32) = some 0x1234#16 := by decide
  cases hread.symm.trans hhalf
  exact absurd hlow (by decide)

/-- At an even address the loads agree. -/
theorem thumbTransfer_parity_even :
    executeThumbMemory ⟨none, none, none, none⟩ 0x8808#16 (ewramBase 0x02000000#32) ewramBus =
        executeArmMemory ⟨none, none, none, none⟩ 0xE1D100B0#32 (ewramBase 0x02000000#32)
          ewramBus ↔
      (anySet ((ewramBase 0x02000000#32).thumbTransferAddress
          (decodeThumbMemoryTransfer 0x8808#16)) 0x1#32 = true →
        OddAddressAgrees ⟨none, none, none, none⟩ (decodeThumbMemoryTransfer 0x8808#16)
          (ewramBase 0x02000000#32) ewramBus) :=
  thumbTransfer_parity _ _ (by decide) (ldrh_isTwin _) fun _ => by
    show Mapped _ _ .halfword 0x02000000#32
    unfold Mapped
    decide

end Arm7tdmi

end Gba.Core
