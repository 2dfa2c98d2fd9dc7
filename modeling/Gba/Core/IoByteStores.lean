import Gba.Core.DmaTransfer
import Gba.Core.IoWidths
import Gba.Core.TimerRestore
import Mathlib.Tactic.IntervalCases

/-!
# Byte stores to I/O

`write8` stores a byte of an I/O register by reading the halfword back, replacing the byte and
writing the halfword. The byte beside it is kept where reading a register returns what writing it
stores. It is not at the registers that acknowledge, that read as something else than they store,
or that cannot be read.
-/

namespace Gba.Core

/-! ## The registers -/

/-- The byte of a register beside the addressed one. -/
def siblingByte (address : U32) (half : U16) : U8 :=
  if address &&& 0x1#32 ≠ 0 then half.setWidth 8 else (half >>> 8).setWidth 8

namespace Devices

/-- The serial control register. -/
def siocnt (d : Devices) : U16 := (serialIndex kSiocnt).elim 0 d.io.serial

/-- The halfword that a serial register reads as. -/
def readSerial (d : Devices) (register : U32) (index : Fin 7) : U16 :=
  if register = kSiocnt then readSiocnt (d.io.serial index)
  else if register = kRcnt then readRcnt (d.io.serial index) d.siocnt
  else readSerialData register d.siocnt (d.io.serial index)

/-- The bits that a DMA register stores. -/
def storedDma (d : Devices) (channel : Fin 4) (offset : U32) : Option U16 :=
  let state := d.dma.channels channel
  if offset = 0 then some (state.source.setWidth 16)
  else if offset = 2 then some ((state.source >>> 16).setWidth 16)
  else if offset = 4 then some (state.destination.setWidth 16)
  else if offset = 6 then some ((state.destination >>> 16).setWidth 16)
  else if offset = 8 then some state.wordCount
  else if offset = 10 then some (state.control &&& dmaControlMask channel)
  else none

/-- The bits that the registers of a bank store. -/
def storedBanked (d : Devices) (register : U32) : Option U16 :=
  if h : isLcdControlAddress register = true then
    some (d.ppu.lcdControl ⟨lcdControlIndex register, lcdControlIndex_lt h⟩ &&&
      lcdControlReadMask register)
  else
    match timerIndex register with
    | some (timer, offset) =>
        if offset = 0 then some (d.timers.timers timer).reload
        else if offset = 2 then some (Timers.sanitizeControl timer (d.timers.timers timer).control)
        else none
    | none =>
      match serialIndex register with
      | some index => some (d.io.serial index)
      | none =>
        match waveRamIndex register with
        | some index => some (d.apu.waveRam index)
        | none => (dmaIndex register).bind fun (channel, offset) => d.storedDma channel offset

/-- The bits that a register stores, among those that a write can set; `none` where a write stores
nothing. -/
def storedHalf (d : Devices) (register : U32) : Option U16 :=
  ([(kDispstat, d.ppu.dispstatControl &&& kWritableDispstatMask),
    (kSoundcntL, d.apu.soundcntL &&& kSoundCntLMask),
    (kSoundcntH, d.apu.soundcntH &&& kSoundCntHStoredMask),
    (kSoundcntX, d.apu.soundcntXStatus &&& kMasterEnable),
    (kSoundbias, d.apu.soundbias &&& kSoundBiasMask),
    (kKeycnt, d.keypad.keycnt &&& (kButtonMask ||| kKeypadIrqEnable ||| kKeypadIrqConditionAnd)),
    (kIe, d.interrupts.interruptEnable &&& InterruptController.kSupportedMask),
    (kIf, d.interrupts.interruptFlags &&& InterruptController.kSupportedMask),
    (kWaitcnt, d.waitcnt.control &&& kWaitcntWritableMask),
    (kIme, d.interrupts.ime)].lookup register).or (d.storedBanked register)

/-- The halfword whose byte a byte store puts beside the addressed one: nothing for IF, which a
write clears, and for registers that cannot be read; the counter for a timer's reload; what a serial
register reads as; and the stored bits otherwise. -/
def rewrittenHalf (d : Devices) (register : U32) : U16 :=
  let stored := (d.storedHalf register).getD 0
  if register = kIf then 0
  else if isLcdControlAddress register && !isLcdControlReadable register then 0
  else
    match timerIndex register with
    | some (timer, offset) => if offset = 0 then (d.timers.timers timer).counter else stored
    | none =>
      match serialIndex register with
      | some index => d.readSerial register index
      | none =>
        match dmaIndex register with
        | some (_, offset) => if offset = 10 then stored else 0
        | none => stored

/-- The other byte of the addressed register is as it was. -/
def KeepsSibling (before after : Devices) (address : U32) : Prop :=
  ∀ half ∈ before.storedHalf (address &&& ~~~0x1#32),
    ∃ half' ∈ after.storedHalf (address &&& ~~~0x1#32),
      siblingByte address half' = siblingByte address half

/-- The byte that a byte store puts beside the addressed one is the one that is there. -/
def SiblingRewritten (d : Devices) (address : U32) : Prop :=
  ∀ half ∈ d.storedHalf (address &&& ~~~0x1#32),
    siblingByte address (d.rewrittenHalf (address &&& ~~~0x1#32)) = siblingByte address half

end Devices

/-! ## Bytes beside the addressed one -/

theorem siblingByte_and (address : U32) (half mask : U16) :
    siblingByte address (half &&& mask) = siblingByte address half &&& siblingByte address mask := by
  unfold siblingByte
  split
  · exact BitVec.setWidth_and
  · rw [BitVec.ushiftRight_and_distrib, BitVec.setWidth_and]

theorem siblingByte_not (address : U32) (half : U16) :
    siblingByte address (~~~half) = ~~~siblingByte address half := by
  refine BitVec.eq_of_getLsbD_eq fun bit hbit => ?_
  have hlow : bit < 16 := by omega
  have hhigh : 8 + bit < 16 := by omega
  unfold siblingByte
  split
  · simp [hbit, hlow]
  · simp [hbit, hhigh]

/-- A masked write of a halfword that has the same byte as what was read. -/
theorem siblingByte_masked {address : U32} {merged current mask stored : U16}
    (hmerged : siblingByte address merged = siblingByte address current)
    (hcurrent : current &&& mask = stored) :
    siblingByte address (merged &&& mask) = siblingByte address stored := by
  rw [← hcurrent, siblingByte_and, siblingByte_and, hmerged]

/-- The halfword that a byte store writes has the byte of the halfword read beside it. -/
theorem siblingByte_mergedByte {σ : Type} (callbacks : MemoryBusIoCallbacks σ) (bus : BusState σ)
    (address : U32) (value : U8) :
    siblingByte address (bus.mergedByte callbacks address value) =
      siblingByte address ((bus.ioRead16 callbacks (address &&& ~~~0x1#32)).getD 0) := by
  unfold siblingByte BusState.mergedByte
  dsimp only
  generalize (bus.ioRead16 callbacks (address &&& ~~~0x1#32)).getD 0 = current
  split
  · ext bit hbit
    interval_cases bit <;> simp
  · ext bit hbit
    interval_cases bit <;> simp

/-! ## The ranges of the banks -/

theorem lcdControl_range {register : U32} (h : isLcdControlAddress register = true) :
    register.toNat ≤ 0x04000054 := by
  unfold isLcdControlAddress at h
  split at h
  · contradiction
  next hrange =>
    rw [not_or, not_or] at hrange
    have hle := BitVec.le_def.mp (BitVec.not_lt.mp hrange.2.2)
    exact hle

theorem timerIndex_range {register : U32} {pair : Fin 4 × U32}
    (h : timerIndex register = some pair) :
    0x04000100 ≤ register.toNat ∧ register.toNat < 0x04000110 := by
  unfold timerIndex at h
  split at h
  · next hrange => exact ⟨BitVec.le_def.mp hrange.1, BitVec.lt_def.mp hrange.2⟩
  · contradiction

theorem serialIndex_range {register : U32} {index : Fin 7}
    (h : serialIndex register = some index) :
    0x04000120 ≤ register.toNat ∧ register.toNat ≤ 0x04000134 := by
  have hregister : register = kSerialRegisterAddresses index := by
    have hfound := List.find?_some h
    exact of_decide_eq_true hfound
  subst hregister
  revert index
  decide

theorem waveRamIndex_range {register : U32} {index : Fin 8}
    (h : waveRamIndex register = some index) :
    0x04000090 ≤ register.toNat ∧ register.toNat ≤ 0x0400009E := by
  unfold waveRamIndex at h
  split at h
  · next hrange => exact ⟨BitVec.le_def.mp hrange.1, BitVec.le_def.mp hrange.2.1⟩
  · contradiction

theorem dmaIndex_range {register : U32} {pair : Fin 4 × U32} (h : dmaIndex register = some pair) :
    0x040000B0 ≤ register.toNat ∧ register.toNat < 0x040000E0 := by
  unfold dmaIndex at h
  split at h
  · next hrange => exact ⟨BitVec.le_def.mp hrange.1, BitVec.lt_def.mp hrange.2⟩
  · contradiction

theorem timerIndex_none {register : U32}
    (h : ¬(0x04000100 ≤ register.toNat ∧ register.toNat < 0x04000110)) :
    timerIndex register = none := by
  cases hindex : timerIndex register with
  | none => rfl
  | some pair => exact absurd (timerIndex_range hindex) h

theorem serialIndex_none {register : U32}
    (h : ¬(0x04000120 ≤ register.toNat ∧ register.toNat ≤ 0x04000134)) :
    serialIndex register = none := by
  cases hindex : serialIndex register with
  | none => rfl
  | some index => exact absurd (serialIndex_range hindex) h

theorem waveRamIndex_none {register : U32}
    (h : ¬(0x04000090 ≤ register.toNat ∧ register.toNat ≤ 0x0400009E)) :
    waveRamIndex register = none := by
  cases hindex : waveRamIndex register with
  | none => rfl
  | some index => exact absurd (waveRamIndex_range hindex) h

theorem dmaIndex_none {register : U32}
    (h : ¬(0x040000B0 ≤ register.toNat ∧ register.toNat < 0x040000E0)) :
    dmaIndex register = none := by
  cases hindex : dmaIndex register with
  | none => rfl
  | some pair => exact absurd (dmaIndex_range hindex) h

theorem lcdControl_none {register : U32} (h : 0x04000054 < register.toNat) :
    isLcdControlAddress register = false := by
  by_contra hlcd
  rw [Bool.not_eq_false] at hlcd
  exact absurd (lcdControl_range hlcd) (Nat.not_le_of_lt h)

/-- The registers that are looked up by their address alone, for reading. -/
def readKeys : List U32 :=
  Devices.namedRegisters ++
    [0x04000060#32, 0x04000062#32, 0x04000064#32, 0x04000068#32, 0x0400006C#32, 0x04000070#32,
      0x04000072#32, 0x04000074#32, 0x04000078#32, 0x0400007C#32, 0x04000066#32, 0x0400006A#32,
      0x0400006E#32, 0x04000076#32, 0x0400007A#32, 0x0400007E#32, 0x04000086#32, 0x0400008A#32,
      0x04000136#32, 0x04000142#32, 0x0400015A#32, 0x04000206#32, 0x0400020A#32, 0x04000302#32]

namespace Devices

theorem read16_banked (d : Devices) {register : U32} (heven : register &&& 0x1#32 = 0)
    (h : register ∉ readKeys) :
    d.read16 register =
      match d.ppu.readLcdControl register with
      | some value => some value
      | none =>
        match timerIndex register with
        | some (timer, offset) =>
            if offset = 0 then some (d.timers.timers timer).counter
            else if offset = 2 then some (d.timers.timers timer).control
            else none
        | none => d.readIndexed register := by
  have hne : ∀ key ∈ readKeys, ¬(register == key) = true := by
    intro key hkey heq
    rw [eq_of_beq heq] at h
    exact h hkey
  have hsound : fixedSoundRead register = none := by
    unfold fixedSoundRead
    rw [List.lookup_eq_none_iff]
    intro pair hpair
    have hkey : pair.1 ∈ readKeys := by
      simp only [List.mem_cons, List.not_mem_nil, or_false] at hpair
      rcases hpair with rfl | rfl | rfl | rfl | rfl | rfl | rfl | rfl | rfl | rfl <;> decide
    simpa using hne pair.1 hkey
  have hnamed : d.readNamed register = none := by
    unfold readNamed
    rw [List.lookup_eq_none_iff]
    intro pair hpair
    have hkey : pair.1 ∈ List.map Prod.fst _ := List.mem_map.mpr ⟨pair, hpair, rfl⟩
    simpa using hne pair.1 (List.mem_append_left _ hkey)
  have hhole : zeroReadHole register = false := by
    unfold zeroReadHole
    rw [← Bool.not_eq_true, List.contains_iff_mem]
    intro hmem
    refine h (List.mem_append_right _ ?_)
    simp only [List.mem_cons, List.not_mem_nil, or_false] at hmem
    rcases hmem with rfl | rfl | rfl | rfl | rfl | rfl | rfl | rfl | rfl | rfl | rfl | rfl | rfl |
      rfl <;> decide
  unfold read16
  rw [if_neg (not_not.mpr heven), hsound, hnamed, hhole]
  rfl

/-- A register of a bank. -/
def isBanked (register : U32) : Bool :=
  isLcdControlAddress register || (timerIndex register).isSome || (serialIndex register).isSome ||
    (waveRamIndex register).isSome || (dmaIndex register).isSome

/-- No bank has a register that is looked up by its address alone. -/
theorem not_readKey {register : U32} (h : isBanked register = true) : register ∉ readKeys := by
  have hkeys : readKeys.all (fun key => !isBanked key) = true := by decide +kernel
  intro hkey
  have hfree := List.all_eq_true.mp hkeys register hkey
  rw [h] at hfree
  exact Bool.noConfusion hfree

theorem storedHalf_banked (d : Devices) {register : U32} (h : register ∉ namedRegisters) :
    d.storedHalf register = d.storedBanked register := by
  unfold storedHalf
  rw [List.lookup_eq_none_iff.mpr, Option.none_or]
  intro pair hpair
  have hkey : pair.1 ∈ List.map Prod.fst _ := List.mem_map.mpr ⟨pair, hpair, rfl⟩
  have hsub : ∀ register ∈ [kDispstat, kSoundcntL, kSoundcntH, kSoundcntX, kSoundbias, kKeycnt, kIe,
      kIf, kWaitcnt, kIme], register ∈ namedRegisters := by
    intro register hregister
    simp only [namedRegisters, List.mem_cons, List.not_mem_nil, or_false] at hregister ⊢
    grind
  have hne : register ≠ pair.1 := by
    rintro rfl
    exact h (hsub _ hkey)
  simpa using hne

/-! ## Each bank -/

variable (d : Devices) {address register : U32} {merged : U16}

/-- What a write that has the byte of the read halfword beside the addressed one stores there. -/
def WritesSibling (d : Devices) (address register : U32) (merged : U16) : Prop :=
  ∃ half ∈ (d.write16 register merged).2.storedHalf register,
    siblingByte address half = siblingByte address (d.rewrittenHalf register)

/-- No indexed register lies among the LCD control registers. -/
theorem readIndexed_low (h : register.toNat ≤ 0x04000054) : d.readIndexed register = none := by
  have hserial := @serialIndex_none register (by omega)
  have hwave := @waveRamIndex_none register (by omega)
  have hdma := @dmaIndex_none register (by omega)
  have hjoycnt : register ≠ kJoycnt := by
    rintro rfl
    exact absurd h (by decide)
  have hjoy : ¬joyData register = true := by
    unfold joyData
    rw [List.contains_iff_mem]
    intro hmem
    simp only [List.mem_cons, List.not_mem_nil, or_false] at hmem
    rcases hmem with rfl | rfl | rfl | rfl <;> exact absurd h (by decide)
  unfold readIndexed
  rw [hserial]
  dsimp only
  rw [if_neg hjoycnt, if_neg hjoy, hwave, hdma]

theorem lcd_writesSibling (heven : register &&& 0x1#32 = 0)
    (hlcd : isLcdControlAddress register = true)
    (hmerged : siblingByte address merged =
      siblingByte address ((d.read16 register).getD 0)) :
    d.WritesSibling address register merged := by
  have hrange := lcdControl_range hlcd
  have hkey : register ∉ readKeys := not_readKey (by unfold isBanked; rw [hlcd]; rfl)
  have hnamed : register ∉ namedRegisters := fun h => hkey (List.mem_append_left _ h)
  have htimer := @timerIndex_none register (by omega)
  have hserial := @serialIndex_none register (by omega)
  have hdma := @dmaIndex_none register (by omega)
  have hstored : ∀ d : Devices, d.storedHalf register = some (d.ppu.lcdControl
      ⟨lcdControlIndex register, lcdControlIndex_lt hlcd⟩ &&& lcdControlReadMask register) := by
    intro d
    rw [storedHalf_banked d hnamed]
    unfold storedBanked
    rw [dif_pos hlcd]
  have hwrite : (d.write16 register merged).2.ppu.lcdControl
      ⟨lcdControlIndex register, lcdControlIndex_lt hlcd⟩ =
        merged &&& lcdControlReadMask register := by
    rw [write16_unnamed d heven hnamed]
    unfold writeBanked PpuTiming.writeLcdControl
    rw [dif_pos hlcd]
    exact Function.update_self ..
  have hread := d.read16_banked heven hkey
  unfold PpuTiming.readLcdControl at hread
  rw [dif_pos hlcd, htimer] at hread
  refine ⟨_, hstored _, ?_⟩
  rw [hwrite, BitVec.and_assoc, BitVec.and_self]
  refine siblingByte_masked hmerged ?_
  unfold rewrittenHalf
  rw [hstored, hlcd, htimer, hserial, hdma]
  have hif : register ≠ kIf := by
    rintro rfl
    exact absurd hrange (by decide)
  dsimp only
  rw [if_neg hif]
  cases hreadable : isLcdControlReadable register with
  | true =>
    rw [hreadable] at hread
    rw [hread]
    simp [BitVec.and_assoc]
  | false =>
    rw [hreadable, readIndexed_low d hrange] at hread
    rw [hread]
    simp

/-- The control bits of a timer are a mask. -/
theorem sanitizeControl_and (index : Fin 4) : ∃ mask : U16, ∀ value,
    Timers.sanitizeControl index value = value &&& mask := by
  unfold Timers.sanitizeControl
  by_cases h : index = 0
  · refine ⟨kTimerControlMask &&& ~~~kTimerCountUpFlag, fun value => ?_⟩
    rw [if_pos h, BitVec.and_assoc]
  · exact ⟨kTimerControlMask, fun value => if_neg h⟩

theorem timer_writesSibling (heven : register &&& 0x1#32 = 0) {timer : Fin 4} {offset : U32}
    (htimer : timerIndex register = some (timer, offset)) (hoffset : offset = 0 ∨ offset = 2)
    (hmerged : siblingByte address merged =
      siblingByte address ((d.read16 register).getD 0)) :
    d.WritesSibling address register merged := by
  have hrange := timerIndex_range htimer
  have hkey : register ∉ readKeys := not_readKey (by unfold isBanked; rw [htimer]; simp)
  have hnamed : register ∉ namedRegisters := fun h => hkey (List.mem_append_left _ h)
  have hlcd := @lcdControl_none register (by omega)
  have hif : register ≠ kIf := by
    rintro rfl
    exact absurd hrange (by decide)
  have hread := d.read16_banked heven hkey
  unfold PpuTiming.readLcdControl at hread
  rw [dif_neg (by rw [hlcd]; exact Bool.false_ne_true), htimer] at hread
  have hstored : ∀ d : Devices, d.storedHalf register =
      if offset = 0 then some (d.timers.timers timer).reload
      else if offset = 2 then some (Timers.sanitizeControl timer (d.timers.timers timer).control)
      else none := by
    intro d
    rw [storedHalf_banked d hnamed]
    unfold storedBanked
    rw [dif_neg (by rw [hlcd]; exact Bool.false_ne_true), htimer]
  have hwrite : d.write16 register merged = d.writeBanked register merged :=
    write16_unnamed d heven hnamed merged
  unfold writeBanked PpuTiming.writeLcdControl at hwrite
  rw [dif_neg (by rw [hlcd]; exact Bool.false_ne_true), htimer] at hwrite
  unfold WritesSibling rewrittenHalf
  rw [hstored, hstored, hlcd, htimer]
  dsimp only at hread hwrite ⊢
  rw [if_neg hif, hwrite]
  rcases hoffset with rfl | rfl
  · -- the counter is read, the reload is written
    refine ⟨merged, ?_, ?_⟩
    · simp [Timers.writeReload, Timers.modify]
    · rw [hmerged, hread]
      simp
  · obtain ⟨mask, hmask⟩ := sanitizeControl_and timer
    have hne : ¬(2 : U32) = 0 := by decide
    refine ⟨Timers.sanitizeControl timer merged, ?_, ?_⟩
    · simp only [hne, if_false, if_true, Timers.writeControl, Timers.modify, Function.update_self,
        Timers.writeTimerControl_control]
      rw [hmask, hmask, BitVec.and_assoc, BitVec.and_self]
      rfl
    · rw [hmask]
      refine siblingByte_masked hmerged ?_
      rw [hread]
      simp [hmask]

/-- A register of the indexed banks, which lie above the LCD control registers and beside the timers:
it is read, written and stored in its bank. -/
structure IndexedRegister (register : U32) : Prop where
  lcd : isLcdControlAddress register = false
  timer : timerIndex register = none
  notIf : register ≠ kIf
  read16 : ∀ d : Devices, d.read16 register = d.readIndexed register
  write16 : ∀ (d : Devices) (value : U16), d.write16 register value = d.writeIndexed register value
  storedHalf : ∀ d : Devices, d.storedHalf register =
    match serialIndex register with
    | some index => some (d.io.serial index)
    | none =>
      match waveRamIndex register with
      | some index => some (d.apu.waveRam index)
      | none => (dmaIndex register).bind fun (channel, offset) => d.storedDma channel offset

theorem indexedRegister (heven : register &&& 0x1#32 = 0) (hbanked : isBanked register = true)
    (hlcd : 0x04000054 < register.toNat)
    (htimer : ¬(0x04000100 ≤ register.toNat ∧ register.toNat < 0x04000110)) :
    IndexedRegister register := by
  have hkey : register ∉ readKeys := not_readKey hbanked
  have hnamed : register ∉ namedRegisters := fun h => hkey (List.mem_append_left _ h)
  have hlcd := lcdControl_none hlcd
  have htimer := timerIndex_none htimer
  refine ⟨hlcd, htimer, ?_, fun d => ?_, fun d value => ?_, fun d => ?_⟩
  · rintro rfl
    exact hnamed (by decide)
  · rw [d.read16_banked heven hkey]
    unfold PpuTiming.readLcdControl
    rw [dif_neg (by rw [hlcd]; exact Bool.false_ne_true), htimer]
  · rw [write16_unnamed d heven hnamed]
    unfold writeBanked PpuTiming.writeLcdControl
    rw [dif_neg (by rw [hlcd]; exact Bool.false_ne_true), htimer]
  · rw [storedHalf_banked d hnamed]
    unfold storedBanked
    rw [dif_neg (by rw [hlcd]; exact Bool.false_ne_true), htimer]

theorem serial_writesSibling (heven : register &&& 0x1#32 = 0) {index : Fin 7}
    (hserial : serialIndex register = some index)
    (hmerged : siblingByte address merged =
      siblingByte address ((d.read16 register).getD 0)) :
    d.WritesSibling address register merged := by
  have hrange := serialIndex_range hserial
  have hregister := indexedRegister heven (by unfold isBanked; rw [hserial]; simp) (by omega)
    (by omega)
  have hread := hregister.read16 d
  unfold readIndexed at hread
  rw [hserial] at hread
  have hreads : d.read16 register = some (d.readSerial register index) := by
    rw [hread]
    unfold readSerial
    dsimp only
    split
    · rfl
    · split <;> rfl
  have hwrite := hregister.write16 d merged
  unfold writeIndexed at hwrite
  rw [hserial] at hwrite
  unfold WritesSibling rewrittenHalf
  rw [hregister.storedHalf, hregister.lcd, hregister.timer, hserial]
  dsimp only at hwrite ⊢
  rw [if_neg hregister.notIf, hwrite]
  refine ⟨merged, ?_, ?_⟩
  · unfold SerialRegisters.writeSerial
    dsimp only
    split <;> simp
  · rw [hmerged, hreads]
    simp

theorem not_joy_of_range (h : register.toNat < 0x04000140) :
    register ≠ kJoycnt ∧ ¬joyData register = true := by
  constructor
  · rintro rfl
    exact absurd h (by decide)
  · unfold joyData
    rw [List.contains_iff_mem]
    intro hmem
    simp only [List.mem_cons, List.not_mem_nil, or_false] at hmem
    rcases hmem with rfl | rfl | rfl | rfl <;> exact absurd h (by decide)

theorem waveRam_writeWaveRam (apu : Apu) (index : Fin 8) (value : U16) :
    (apu.writeWaveRam index value).waveRam index = value := by
  show Function.update apu.waveRamBanks apu.accessedBank
    (Function.update (apu.waveRamBanks apu.accessedBank) index value) apu.accessedBank index = value
  rw [Function.update_self, Function.update_self]

theorem wave_writesSibling (heven : register &&& 0x1#32 = 0) {index : Fin 8}
    (hwave : waveRamIndex register = some index)
    (hmerged : siblingByte address merged =
      siblingByte address ((d.read16 register).getD 0)) :
    d.WritesSibling address register merged := by
  have hrange := waveRamIndex_range hwave
  have hregister := indexedRegister heven (by unfold isBanked; rw [hwave]; simp) (by omega)
    (by omega)
  have hserial := @serialIndex_none register (by omega)
  have hdma := @dmaIndex_none register (by omega)
  obtain ⟨hjoycnt, hjoy⟩ := @not_joy_of_range register (by omega)
  have hread := hregister.read16 d
  unfold readIndexed at hread
  rw [hserial, hwave] at hread
  have hwrite := hregister.write16 d merged
  unfold writeIndexed at hwrite
  rw [hserial, hwave] at hwrite
  unfold WritesSibling rewrittenHalf
  rw [hregister.storedHalf, hregister.storedHalf, hregister.lcd, hregister.timer, hserial, hwave,
    hdma]
  dsimp only at hread hwrite ⊢
  rw [if_neg hjoycnt, if_neg hjoy] at hread
  rw [if_neg (not_or.mpr ⟨hjoycnt, hjoy⟩)] at hwrite
  rw [if_neg hregister.notIf, hwrite]
  refine ⟨merged, ?_, ?_⟩
  · exact congrArg some (waveRam_writeWaveRam d.apu index merged)
  · rw [hmerged, hread]
    simp

theorem writeControl_control (dma : DmaController) (channel : Fin 4) (value : U16) :
    ((dma.writeControl channel value).channels channel).control =
      value &&& dmaControlMask channel := by
  have hlatch : (DmaController.latchControl channel value (dma.channels channel)).control =
      value &&& dmaControlMask channel := by
    unfold DmaController.latchControl
    dsimp only
    split_ifs <;> rfl
  unfold DmaController.writeControl DmaController.refreshImmediatePending DmaController.modify
  dsimp only
  split_ifs
  all_goals
    show (Function.update dma.channels channel _ channel).control = _
    rw [Function.update_self, hlatch]

theorem replaceLow16_low (current : U32) (value : U16) :
    (replaceLow16 current value).setWidth 16 = value := by
  unfold replaceLow16
  ext bit hbit
  interval_cases bit <;> simp

theorem replaceHigh16_high (current : U32) (value : U16) :
    (replaceHigh16 current value >>> 16).setWidth 16 = value := by
  unfold replaceHigh16
  ext bit hbit
  interval_cases bit <;> simp

/-- A write to a DMA register stores the halfword under the mask of the control register. -/
theorem storedDma_writeRegister {channel : Fin 4} {offset : U32}
    (hdma : dmaIndex register = some (channel, offset))
    (hoffset : offset ∈ [(0 : U32), 2, 4, 6, 8, 10]) :
    ∃ dma, d.dma.writeRegister register merged = some dma ∧
      ({ d with dma := dma } : Devices).storedDma channel offset =
        some (if offset = 10 then merged &&& dmaControlMask channel else merged) := by
  unfold DmaController.writeRegister
  rw [hdma]
  simp only [List.mem_cons, List.not_mem_nil, or_false] at hoffset
  rcases hoffset with rfl | rfl | rfl | rfl | rfl | rfl
  · refine ⟨_, rfl, ?_⟩
    simp [storedDma, DmaController.writeSource, DmaController.modify, replaceLow16_low]
  · refine ⟨_, rfl, ?_⟩
    simp [storedDma, DmaController.writeSource, DmaController.modify, replaceHigh16_high]
  · refine ⟨_, rfl, ?_⟩
    simp [storedDma, DmaController.writeDestination, DmaController.modify, replaceLow16_low]
  · refine ⟨_, rfl, ?_⟩
    simp [storedDma, DmaController.writeDestination, DmaController.modify, replaceHigh16_high]
  · refine ⟨_, rfl, ?_⟩
    simp [storedDma, DmaController.writeWordCount, DmaController.modify]
  · refine ⟨_, rfl, ?_⟩
    simp [storedDma, writeControl_control, BitVec.and_assoc]

theorem storedDma_offset {channel : Fin 4} {offset : U32} {half : U16}
    (h : d.storedDma channel offset = some half) : offset ∈ [(0 : U32), 2, 4, 6, 8, 10] := by
  unfold storedDma at h
  dsimp only at h
  split_ifs at h <;> simp_all

theorem dma_writesSibling (heven : register &&& 0x1#32 = 0) {channel : Fin 4} {offset : U32}
    (hdma : dmaIndex register = some (channel, offset))
    (hoffset : offset ∈ [(0 : U32), 2, 4, 6, 8, 10])
    (hmerged : siblingByte address merged =
      siblingByte address ((d.read16 register).getD 0)) :
    d.WritesSibling address register merged := by
  have hrange := dmaIndex_range hdma
  have hregister := indexedRegister heven (by unfold isBanked; rw [hdma]; simp) (by omega)
    (by omega)
  have hserial := @serialIndex_none register (by omega)
  have hwave := @waveRamIndex_none register (by omega)
  obtain ⟨hjoycnt, hjoy⟩ := @not_joy_of_range register (by omega)
  have hread := hregister.read16 d
  unfold readIndexed at hread
  rw [hserial, hwave, hdma] at hread
  have hwrite := hregister.write16 d merged
  unfold writeIndexed at hwrite
  rw [hserial, hwave] at hwrite
  have hstored : ∀ d : Devices, d.storedHalf register = d.storedDma channel offset := by
    intro d
    rw [hregister.storedHalf, hserial, hwave, hdma]
    rfl
  obtain ⟨dma, hwritten, hafter⟩ := @storedDma_writeRegister d register merged _ _ hdma hoffset
  unfold WritesSibling rewrittenHalf
  rw [hstored, hstored, hregister.lcd, hregister.timer, hserial, hdma]
  dsimp only at hread hwrite ⊢
  rw [if_neg hjoycnt, if_neg hjoy] at hread
  rw [if_neg (not_or.mpr ⟨hjoycnt, hjoy⟩), hwritten] at hwrite
  rw [if_neg hregister.notIf, hwrite]
  refine ⟨_, hafter, ?_⟩
  by_cases hcontrol : offset = 10
  · subst hcontrol
    refine siblingByte_masked hmerged ?_
    rw [hread]
    rfl
  · simp only [if_neg hcontrol] at hread ⊢
    rw [hmerged, hread]
    split <;> simp

/-! ## The registers with an address of their own -/

/-- A status flag outside the mask. -/
theorem flag_and {flag mask : U16} (h : flag &&& mask = 0) (half : U16) (set : Bool) :
    (half ||| if set then flag else 0) &&& mask = half &&& mask := by
  cases set with
  | false => simp
  | true =>
    rw [if_pos rfl, BitVec.and_or_distrib_right, h]
    exact BitVec.or_zero

theorem dispstat_and (ppu : PpuTiming) :
    ppu.dispstat &&& kWritableDispstatMask = ppu.dispstatControl &&& kWritableDispstatMask := by
  unfold PpuTiming.dispstat
  rw [flag_and (by decide), flag_and (by decide), flag_and (by decide)]

theorem soundcntX_and (apu : Apu) :
    apu.soundcntX &&& kMasterEnable = apu.soundcntXStatus &&& kMasterEnable := by
  unfold Apu.soundcntX
  rw [flag_and (by decide), flag_and (by decide), flag_and (by decide), flag_and (by decide)]

/-- A halfword without an upper byte. -/
theorem getLsbD_upper {half : U16} (h : half &&& 0xFF00#16 = 0) {bit : Nat} (hlow : 8 ≤ bit)
    (hbit : bit < 16) : half.getLsbD bit = false := by
  have hand : (half &&& 0xFF00#16).getLsbD bit = false := by
    rw [h]
    exact BitVec.getLsbD_zero
  have hmask : (0xFF00#16).getLsbD bit = true := by
    interval_cases bit <;> rfl
  rw [BitVec.getLsbD_and, hmask, Bool.and_true] at hand
  exact hand

/-- A flag of the byte beside the addressed one is in the written halfword as it was read. -/
theorem anySet_sibling {current : U16} (hodd : address &&& 0x1#32 ≠ 0)
    (hmerged : siblingByte address merged = siblingByte address current) {flag : U16}
    (hflag : flag &&& 0xFF00#16 = 0) : anySet merged flag = anySet current flag := by
  unfold siblingByte at hmerged
  rw [if_pos hodd, if_pos hodd] at hmerged
  have hand : merged &&& flag = current &&& flag := by
    refine BitVec.eq_of_getLsbD_eq fun bit hbit => ?_
    rw [BitVec.getLsbD_and, BitVec.getLsbD_and]
    by_cases hlow : bit < 8
    · have hbyte : (merged.setWidth 8).getLsbD bit = (current.setWidth 8).getLsbD bit := by
        rw [hmerged]
      rw [BitVec.getLsbD_setWidth, BitVec.getLsbD_setWidth, decide_eq_true hlow, Bool.true_and,
        Bool.true_and] at hbyte
      rw [hbyte]
    · rw [getLsbD_upper hflag (Nat.le_of_not_lt hlow) hbit, Bool.and_false, Bool.and_false]
  unfold anySet
  rw [hand]

theorem siblingByte_upper {half : U16} (heven : ¬address &&& 0x1#32 ≠ 0)
    (h : half &&& 0xFF00#16 = 0) : siblingByte address half = 0 := by
  unfold siblingByte
  rw [if_neg heven]
  refine BitVec.eq_of_getLsbD_eq fun bit hbit => ?_
  rw [BitVec.getLsbD_setWidth, BitVec.getLsbD_ushiftRight,
    getLsbD_upper h (by omega) (by omega), Bool.and_false]
  exact BitVec.getLsbD_zero.symm

/-- The master enable is one bit. -/
theorem masterEnable_and {status : U16} (h : anySet status kMasterEnable = true) :
    status &&& kMasterEnable = kMasterEnable := by
  have hmask : kMasterEnable = BitVec.twoPow 16 7 := by decide
  have hand := BitVec.and_twoPow status 7
  rw [← hmask] at hand
  cases hbit : status.getLsbD 7 with
  | true =>
    simp only [hbit, if_true] at hand
    exact hand
  | false =>
    simp only [hbit, Bool.false_eq_true, if_false] at hand
    unfold anySet at h
    rw [hand] at h
    contradiction

theorem soundcntX_writesSibling
    (hmerged : siblingByte address merged = siblingByte address d.apu.soundcntX) :
    siblingByte address ((d.apu.writeSoundcntX merged).soundcntXStatus &&& kMasterEnable) =
      siblingByte address (d.apu.soundcntXStatus &&& kMasterEnable) := by
  have hupper : ∀ half : U16, half &&& kMasterEnable &&& 0xFF00#16 = 0 := by
    intro half
    rw [BitVec.and_assoc]
    exact BitVec.and_zero
  by_cases hodd : address &&& 0x1#32 ≠ 0
  · have hflag := anySet_sibling hodd hmerged (show kMasterEnable &&& 0xFF00#16 = 0 from rfl)
    have hread : anySet d.apu.soundcntX kMasterEnable = anySet d.apu.soundcntXStatus kMasterEnable := by
      unfold anySet
      rw [soundcntX_and]
    unfold Apu.writeSoundcntX
    rw [hflag, hread]
    cases hset : anySet d.apu.soundcntXStatus kMasterEnable with
    | false =>
      have hclear : d.apu.soundcntXStatus &&& kMasterEnable = 0 := by
        unfold anySet at hset
        simpa using hset
      rw [Bool.not_false, if_pos rfl, hclear]
      show siblingByte address (0#16 &&& kMasterEnable) = _
      rw [BitVec.zero_and]
      rfl
    | true =>
      have hstatus := masterEnable_and hset
      rw [Bool.not_true, if_neg Bool.false_ne_true]
      dsimp only
      rw [BitVec.and_or_distrib_right, hstatus, BitVec.and_self, BitVec.or_self]
  · rw [siblingByte_upper hodd (hupper _), siblingByte_upper hodd (hupper _)]

theorem ime_writesSibling (interrupts : InterruptController)
    (hmerged : siblingByte address merged = siblingByte address interrupts.ime) :
    siblingByte address (interrupts.writeIme merged).ime = siblingByte address interrupts.ime := by
  have hupper : ∀ interrupts : InterruptController, interrupts.ime &&& 0xFF00#16 = 0 := by
    intro interrupts
    unfold InterruptController.ime
    split <;> rfl
  by_cases hodd : address &&& 0x1#32 ≠ 0
  · have hflag := anySet_sibling hodd hmerged (show (0x1#16 : U16) &&& 0xFF00#16 = 0 from rfl)
    have hread : anySet interrupts.ime 0x1#16 = interrupts.masterEnabled := by
      unfold InterruptController.ime
      cases interrupts.masterEnabled <;> rfl
    unfold InterruptController.writeIme
    rw [hflag, hread]
  · rw [siblingByte_upper hodd (hupper _), siblingByte_upper hodd (hupper _)]

/-- A written flag register acknowledges every flag of the byte beside the addressed one. -/
theorem flags_writesSibling (interrupts : InterruptController)
    (hmerged : siblingByte address merged = siblingByte address interrupts.interruptFlags) :
    siblingByte address ((interrupts.writeInterruptFlags merged).interruptFlags &&&
      InterruptController.kSupportedMask) = siblingByte address 0 := by
  have hbits : ∀ half : U16, siblingByte address half = siblingByte address interrupts.interruptFlags →
      siblingByte address (interrupts.interruptFlags &&&
        ~~~(half &&& InterruptController.kSupportedMask) &&& InterruptController.kSupportedMask) =
      siblingByte address (interrupts.interruptFlags &&& ~~~(interrupts.interruptFlags &&&
        InterruptController.kSupportedMask) &&& InterruptController.kSupportedMask) := by
    intro half hhalf
    have hcomplement : siblingByte address (~~~(half &&& InterruptController.kSupportedMask)) =
        siblingByte address (~~~(interrupts.interruptFlags &&&
          InterruptController.kSupportedMask)) := by
      rw [siblingByte_not, siblingByte_not, siblingByte_and, siblingByte_and, hhalf]
    rw [siblingByte_and, siblingByte_and, hcomplement, ← siblingByte_and, ← siblingByte_and]
  have hzero : interrupts.interruptFlags &&& ~~~(interrupts.interruptFlags &&&
      InterruptController.kSupportedMask) &&& InterruptController.kSupportedMask = 0 := by
    ext bit hbit
    simp only [BitVec.getElem_and, BitVec.getElem_not]
    cases interrupts.interruptFlags[bit] <;>
      cases (InterruptController.kSupportedMask)[bit] <;> simp
  refine (hbits merged hmerged).trans ?_
  rw [hzero]

theorem named_writesSibling {half : U16}
    (hnamed : register ∈ namedRegisters) (hstored : d.storedHalf register = some half)
    (hmerged : siblingByte address merged =
      siblingByte address ((d.read16 register).getD 0)) :
    d.WritesSibling address register merged := by
  simp only [namedRegisters, List.mem_cons, List.not_mem_nil, or_false] at hnamed
  -- DISPSTAT, VCOUNT, SOUNDCNT_L, SOUNDCNT_H, SOUNDCNT_X, SOUNDBIAS, KEYINPUT, KEYCNT, IE, IF,
  -- WAITCNT and IME, in this order; VCOUNT and KEYINPUT store nothing
  rcases hnamed with rfl | rfl | rfl | rfl | rfl | rfl | rfl | rfl | rfl | rfl | rfl | rfl
  · refine ⟨merged &&& kWritableDispstatMask &&& kWritableDispstatMask, rfl, ?_⟩
    rw [BitVec.and_assoc, BitVec.and_self]
    exact siblingByte_masked hmerged (dispstat_and d.ppu)
  · have hnone : d.storedHalf kVcount = none := rfl
    rw [hnone] at hstored
    contradiction
  · refine ⟨(d.apu.writeSoundcntL merged).soundcntL &&& kSoundCntLMask, rfl, ?_⟩
    unfold Apu.writeSoundcntL
    split
    · rfl
    · show siblingByte address (merged &&& kSoundCntLMask &&& kSoundCntLMask) = _
      rw [BitVec.and_assoc, BitVec.and_self]
      exact siblingByte_masked hmerged rfl
  · refine ⟨(d.apu.writeSoundcntH merged).soundcntH &&& kSoundCntHStoredMask, rfl, ?_⟩
    unfold Apu.writeSoundcntH
    split
    · rfl
    · show siblingByte address (merged &&& kSoundCntHStoredMask &&& kSoundCntHStoredMask) = _
      rw [BitVec.and_assoc, BitVec.and_self]
      exact siblingByte_masked hmerged rfl
  · exact ⟨(d.apu.writeSoundcntX merged).soundcntXStatus &&& kMasterEnable, rfl,
      soundcntX_writesSibling d hmerged⟩
  · refine ⟨(d.apu.writeSoundbias merged).soundbias &&& kSoundBiasMask, rfl, ?_⟩
    unfold Apu.writeSoundbias
    split
    · rfl
    · show siblingByte address (merged &&& kSoundBiasMask &&& kSoundBiasMask) = _
      rw [BitVec.and_assoc, BitVec.and_self]
      exact siblingByte_masked hmerged rfl
  · have hnone : d.storedHalf kKeyinput = none := rfl
    rw [hnone] at hstored
    contradiction
  · refine ⟨merged &&& (kButtonMask ||| kKeypadIrqEnable ||| kKeypadIrqConditionAnd) &&&
      (kButtonMask ||| kKeypadIrqEnable ||| kKeypadIrqConditionAnd), rfl, ?_⟩
    rw [BitVec.and_assoc, BitVec.and_self]
    exact siblingByte_masked hmerged rfl
  · refine ⟨merged &&& InterruptController.kSupportedMask &&& InterruptController.kSupportedMask,
      rfl, ?_⟩
    rw [BitVec.and_assoc, BitVec.and_self]
    exact siblingByte_masked hmerged rfl
  · exact ⟨(d.interrupts.writeInterruptFlags merged).interruptFlags &&&
      InterruptController.kSupportedMask, rfl, flags_writesSibling d.interrupts hmerged⟩
  · refine ⟨merged &&& kWaitcntWritableMask &&& kWaitcntWritableMask, rfl, ?_⟩
    rw [BitVec.and_assoc, BitVec.and_self]
    exact siblingByte_masked hmerged rfl
  · exact ⟨(d.interrupts.writeIme merged).ime, rfl, ime_writesSibling d.interrupts hmerged⟩

/-- The register map: each register that stores a halfword is of one of these kinds. -/
theorem writesSibling {half : U16} (heven : register &&& 0x1#32 = 0)
    (hstored : d.storedHalf register = some half)
    (hmerged : siblingByte address merged =
      siblingByte address ((d.read16 register).getD 0)) :
    d.WritesSibling address register merged := by
  by_cases hnamed : register ∈ namedRegisters
  · exact named_writesSibling d hnamed hstored hmerged
  rw [storedHalf_banked d hnamed] at hstored
  unfold storedBanked at hstored
  split at hstored
  · next hlcd => exact lcd_writesSibling d heven hlcd hmerged
  split at hstored
  · next timer offset htimer =>
    refine timer_writesSibling d heven htimer ?_ hmerged
    by_contra hoffset
    rw [not_or] at hoffset
    rw [if_neg hoffset.1, if_neg hoffset.2] at hstored
    contradiction
  split at hstored
  · next index hserial => exact serial_writesSibling d heven hserial hmerged
  split at hstored
  · next index hwave => exact wave_writesSibling d heven hwave hmerged
  · cases hdma : dmaIndex register with
    | none =>
      rw [hdma] at hstored
      contradiction
    | some pair =>
      obtain ⟨channel, offset⟩ := pair
      rw [hdma] at hstored
      exact dma_writesSibling d heven hdma (storedDma_offset d hstored) hmerged

end Devices

namespace BusState

/-- A byte store to the I/O region writes the merged halfword. -/
theorem write8_io (bus : System) {address : U32} (h : (classify address).region = .io) (value : U8) :
    (bus.write8 ioCallbacks address value).2.devices =
      (bus.devices.write16 (address &&& ~~~0x1#32) (bus.mergedByte ioCallbacks address value)).2 := by
  have hrange := (classify_io_iff address).mp h
  have hdebug : bus.memory.writeDebug8 address value = none := by
    unfold MemoryBus.writeDebug8 kMgbaDebugStringStart kNoCashGbaDebugChar
    rw [if_neg (by bv_omega), if_neg (by bv_omega)]
  unfold write8
  rw [hdebug]
  dsimp only
  rw [h]
  rfl

/-- A byte store to an I/O register keeps the byte beside it exactly when the register returns it as
it is stored. -/
theorem write8_keepsSibling_iff (bus : System) {address : U32}
    (h : (classify address).region = .io) (value : U8) :
    Devices.KeepsSibling bus.devices (bus.write8 ioCallbacks address value).2.devices address ↔
      bus.devices.SiblingRewritten address := by
  have heven : address &&& ~~~0x1#32 &&& 0x1#32 = 0 := by
    rw [BitVec.and_assoc]
    exact BitVec.and_zero
  have hmerged := siblingByte_mergedByte ioCallbacks bus address value
  have hwrites : ∀ half ∈ bus.devices.storedHalf (address &&& ~~~0x1#32), _ :=
    fun half hstored => bus.devices.writesSibling heven hstored hmerged
  rw [write8_io bus h]
  constructor
  · intro hkeeps half hstored
    obtain ⟨half', hstored', hkept⟩ := hkeeps half hstored
    obtain ⟨written, hwritten, hsame⟩ := hwrites half hstored
    have heq : written = half' := Option.some.inj (hwritten.symm.trans hstored')
    rw [← hsame, heq, hkept]
  · intro hrewritten half hstored
    obtain ⟨written, hwritten, hsame⟩ := hwrites half hstored
    exact ⟨written, hwritten, hsame.trans (hrewritten half hstored)⟩

/-- The system after a reset with DMA 0 waiting to be served. -/
def dmaFlagged : System :=
  ⟨MemoryBus.initial,
    { Devices.reset with interrupts := Devices.reset.interrupts.request .dma0 }⟩

/-- A byte store to IME beside its unused byte. -/
theorem write8_keepsSibling_ime :
    Devices.KeepsSibling dmaFlagged.devices
      (dmaFlagged.write8 ioCallbacks kIme 1).2.devices kIme :=
  (write8_keepsSibling_iff dmaFlagged (by decide) 1).mpr fun _ hstored => by
    cases hstored
    rfl

/-- Acknowledging VBlank with a byte store to IF acknowledges DMA 0 as well. -/
theorem not_keepsSibling :
    ¬Devices.KeepsSibling dmaFlagged.devices
      (dmaFlagged.write8 ioCallbacks kIf 1).2.devices kIf := by
  intro hkeeps
  obtain ⟨half, hstored, hsame⟩ := hkeeps 0x0100#16 rfl
  have hcleared : (dmaFlagged.write8 ioCallbacks kIf 1).2.devices.storedHalf
      (kIf &&& ~~~0x1#32) = some 0 := rfl
  rw [Option.some.inj (hstored.symm.trans hcleared)] at hsame
  exact absurd hsame (by decide)

end BusState

end Gba.Core
