import Gba.Core.IoRegisters

/-!
# The widths of an I/O access

The word accesses of the I/O facade against its halfword accesses. A word is read as its halves. A
word is written as its halves where the table that `write32` consults lists every register that
`write16` takes; the wave RAM and the JOY bus registers are missing from it.
-/

namespace Gba.Core

namespace Devices

/-- The registers that `write16` takes and `can_write16_address` does not list. -/
def missingFromTable (address : U32) : Bool :=
  (waveRamIndex address).isSome || address = kJoycnt || joyData address

/-- Two halfword writes, the lower half first. -/
def writePair (d : Devices) (address value : U32) : Bool × Devices :=
  let low := d.write16 address (value.setWidth 16)
  let high := low.2.write16 (address + 2) ((value >>> 16).setWidth 16)
  (low.1 || high.1, high.2)

/-- Two halfword reads. -/
def readPair (d : Devices) (address : U32) : Option U32 := do
  let low ← d.read16 address
  let high ← d.read16 (address + 2)
  return combine16 low high

/-- The word accesses to an address are pairs of halfword accesses. -/
structure IoWidthsAgree (d : Devices) (address value : U32) : Prop where
  write : d.write32 address value = d.writePair address value
  read : d.read32 address = d.readPair address

/-! ## Refused halfwords -/

/-- The facade's table lists every LCD control register. -/
theorem not_isLcdControlAddress {address : U32} (hdispstat : address ≠ kDispstat)
    (hvcount : address ≠ kVcount) (h : isLcdControlWrite address = false) :
    isLcdControlAddress address = false := by
  by_contra hlcd
  rw [Bool.not_eq_false] at hlcd
  unfold isLcdControlAddress at hlcd
  unfold isLcdControlWrite at h
  split at hlcd
  · contradiction
  next hrange =>
    rw [not_or, not_or, not_not] at hrange
    rw [if_neg (not_not.mpr hrange.1)] at h
    split at hlcd
    · contradiction
    split at hlcd
    · next hlow =>
      rw [if_pos hlow] at h
      simp [hdispstat, hvcount] at h
    next hlow =>
      rw [if_neg hlow] at h
      split at hlcd
      · next hmid =>
        rw [if_pos hmid] at h
        contradiction
      next hmid =>
        rw [if_neg hmid, hlcd] at h
        contradiction

/-- The registers of `write16` that are looked up by their address alone. -/
def namedRegisters : List U32 :=
  [kDispstat, kVcount, kSoundcntL, kSoundcntH, kSoundcntX, kSoundbias, kKeyinput, kKeycnt, kIe, kIf,
    kWaitcnt, kIme]

theorem write16_unnamed (d : Devices) {address : U32} (heven : address &&& 0x1#32 = 0)
    (hnamed : address ∉ namedRegisters) (value : U16) :
    d.write16 address value = d.writeBanked address value := by
  have hne : ∀ register ∈ namedRegisters, address ≠ register := by
    rintro register hregister rfl
    exact hnamed hregister
  simp only [namedRegisters, List.forall_mem_cons] at hne
  obtain ⟨hdispstat, hvcount, hcntL, hcntH, hcntX, hbias, hkeyinput, hkeycnt, hie, hif, hwait, hime,
    -⟩ := hne
  unfold write16
  rw [if_neg (not_not.mpr heven), if_neg hdispstat, if_neg hvcount, if_neg hcntL, if_neg hcntH,
    if_neg hcntX, if_neg hbias, if_neg hkeyinput, if_neg hkeycnt, if_neg hie, if_neg hif,
    if_neg hwait, if_neg hime]

/-- A register of no bank refuses a halfword. -/
theorem writeBanked_refused (d : Devices) {address : U32}
    (hlcd : isLcdControlAddress address = false)
    (htimer : ∀ timer offset, timerIndex address = some (timer, offset) → offset ≠ 0 ∧ offset ≠ 2)
    (hmissing : missingFromTable address = false)
    (hserial : timerIndex address = none → serialIndex address = none)
    (hdma : timerIndex address = none → ∀ channel offset,
      dmaIndex address = some (channel, offset) → offset ∉ [(0 : U32), 2, 4, 6, 8, 10])
    (value : U16) :
    d.writeBanked address value = (false, d) := by
  unfold missingFromTable at hmissing
  rw [Bool.or_eq_false_iff, Bool.or_eq_false_iff] at hmissing
  obtain ⟨⟨hwave, hjoycnt⟩, hjoy⟩ := hmissing
  have hnoJoy : ¬(address = kJoycnt ∨ joyData address = true) := by
    rintro (h | h)
    · exact absurd (decide_eq_true h) (by rw [hjoycnt]; exact Bool.false_ne_true)
    · exact Bool.false_ne_true (hjoy.symm.trans h)
  unfold writeBanked PpuTiming.writeLcdControl
  rw [dif_neg (by rw [hlcd]; exact Bool.false_ne_true)]
  dsimp only
  cases hindex : timerIndex address with
  | some pair =>
    obtain ⟨timer, offset⟩ := pair
    obtain ⟨h0, h2⟩ := htimer timer offset hindex
    dsimp only
    rw [if_neg h0, if_neg h2]
  | none =>
    have hnoWave : waveRamIndex address = none := by simpa using hwave
    have hregister : d.dma.writeRegister address value = none := by
      unfold DmaController.writeRegister
      cases hchannel : dmaIndex address with
      | none => rfl
      | some pair =>
        obtain ⟨channel, offset⟩ := pair
        have hoffset := hdma hindex channel offset hchannel
        simp only [List.mem_cons, not_or] at hoffset
        obtain ⟨h0, h2, h4, h6, h8, h10, -⟩ := hoffset
        dsimp only
        rw [if_neg h0, if_neg h2, if_neg h4, if_neg h6, if_neg h8, if_neg h10]
    unfold writeIndexed
    rw [hserial hindex]
    dsimp only
    rw [if_neg hnoJoy, hnoWave, hregister]

/-- A register outside the table and the missing ones refuses a halfword. -/
theorem write16_refused (d : Devices) {address : U32} (hlisted : canWrite16Address address = false)
    (hmissing : missingFromTable address = false) (value : U16) :
    d.write16 address value = (false, d) := by
  by_cases hodd : address &&& 0x1#32 ≠ 0
  · unfold write16
    rw [if_pos hodd]
  unfold canWrite16Address at hlisted
  rw [if_neg hodd] at hlisted
  split at hlisted
  · contradiction
  next hwritable =>
  split at hlisted
  · next hvcount =>
    subst hvcount
    rfl
  next hvcount =>
  by_cases hkeyinput : address = kKeyinput
  · subst hkeyinput
    rfl
  -- a named register is in the table, but for VCOUNT and KEYINPUT, which are out of the way
  have hnamed : address ∉ namedRegisters := by
    intro hmem
    refine hwritable ?_
    rw [List.contains_iff_mem]
    simp only [namedRegisters, List.mem_cons, List.not_mem_nil, or_false] at hmem ⊢
    grind
  split at hlisted
  · contradiction
  next hlcd =>
  have hdispstat : address ≠ kDispstat := by
    rintro rfl
    exact hnamed (.head _)
  rw [write16_unnamed d (not_not.mp hodd) hnamed]
  refine writeBanked_refused d
    (not_isLcdControlAddress hdispstat hvcount (Bool.eq_false_of_not_eq_true hlcd)) ?_ hmissing ?_ ?_
    value
  · intro timer offset htimer
    rw [htimer] at hlisted
    simpa using hlisted
  · intro htimer
    rw [htimer] at hlisted
    dsimp only at hlisted
    split at hlisted
    · contradiction
    next hserial => simpa using hserial
  · intro htimer channel offset hchannel hmem
    rw [htimer, hchannel] at hlisted
    dsimp only at hlisted
    split at hlisted
    · contradiction
    · rw [List.contains_iff_mem.mpr hmem] at hlisted
      contradiction

/-- The words with a missing register. -/
def missingWords : List U32 :=
  [0x04000090#32, 0x04000094#32, 0x04000098#32, 0x0400009C#32, 0x04000140#32, 0x04000150#32,
    0x04000154#32]

theorem missing_range {address : U32} (h : missingFromTable address = true) :
    0x04000090 ≤ address.toNat ∧ address.toNat ≤ 0x0400009E ∨ address.toNat = 0x04000140 ∨
      0x04000150 ≤ address.toNat ∧ address.toNat ≤ 0x04000156 := by
  unfold missingFromTable at h
  rw [Bool.or_eq_true, Bool.or_eq_true] at h
  rcases h with (h | h) | h
  · unfold waveRamIndex at h
    split at h
    · next hrange => exact .inl ⟨BitVec.le_def.mp hrange.1, BitVec.le_def.mp hrange.2.1⟩
    · contradiction
  · rw [of_decide_eq_true h]
    exact .inr (.inl rfl)
  · refine .inr (.inr ?_)
    simp only [joyData, List.contains_cons, List.contains_nil, Bool.or_false, Bool.or_eq_true,
      beq_iff_eq] at h
    rcases h with rfl | rfl | rfl | rfl <;> decide

theorem missing_words {address : U32} (halign : address.toNat % 4 = 0)
    (h : missingFromTable address = true ∨ missingFromTable (address + 2) = true) :
    address ∈ missingWords := by
  have hnat : (address + 2).toNat = address.toNat + 2 := by bv_omega
  have hrange : address.toNat = 0x04000090 ∨ address.toNat = 0x04000094 ∨
      address.toNat = 0x04000098 ∨ address.toNat = 0x0400009C ∨ address.toNat = 0x04000140 ∨
      address.toNat = 0x04000150 ∨ address.toNat = 0x04000154 := by
    rcases h with h | h
    · have hrange := missing_range h
      omega
    · have hrange := missing_range h
      omega
  have heq : ∀ register : U32, address.toNat = register.toNat → register ∈ missingWords →
      address ∈ missingWords := by
    intro register hregister hmem
    rw [BitVec.eq_of_toNat_eq hregister]
    exact hmem
  rcases hrange with h | h | h | h | h | h | h
  · exact heq 0x04000090#32 h (by decide)
  · exact heq 0x04000094#32 h (by decide)
  · exact heq 0x04000098#32 h (by decide)
  · exact heq 0x0400009C#32 h (by decide)
  · exact heq 0x04000140#32 h (by decide)
  · exact heq 0x04000150#32 h (by decide)
  · exact heq 0x04000154#32 h (by decide)

/-- The table lists no half of these words, and none of them has a path of its own. -/
theorem missing_unlisted {address : U32} (h : address ∈ missingWords) :
    canWrite16Address address = false ∧ canWrite16Address (address + 2) = false ∧
      address &&& 0x3#32 = 0 ∧ address ≠ kIme ∧ address ≠ kWaitcnt ∧ address ≠ kFifoAAddress ∧
        address ≠ kFifoBAddress := by
  simp only [missingWords, List.mem_cons, List.not_mem_nil, or_false] at h
  rcases h with rfl | rfl | rfl | rfl | rfl | rfl | rfl <;> decide +kernel

/-- A halfword write takes the lower half of these words. -/
theorem write16_missing (d : Devices) {address : U32} (h : address ∈ missingWords) (value : U16) :
    (d.write16 address value).1 = true := by
  simp only [missingWords, List.mem_cons, List.not_mem_nil, or_false] at h
  rcases h with rfl | rfl | rfl | rfl | rfl | rfl | rfl <;> rfl

/-- A word with a missing register is refused, while its halves are taken one by one. -/
theorem missing_word (d : Devices) {address : U32} (h : address ∈ missingWords) (value : U32) :
    (d.write32 address value).1 = false ∧ (d.writePair address value).1 = true := by
  obtain ⟨hlow, hhigh, halign, hime, hwaitcnt, hfifoA, hfifoB⟩ := missing_unlisted h
  constructor
  · unfold write32 writeHalves
    rw [if_neg (not_not.mpr halign), if_neg (not_or.mpr ⟨hime, hwaitcnt⟩), if_neg hfifoA,
      if_neg hfifoB, hlow, hhigh]
    rfl
  · unfold writePair
    dsimp only
    rw [write16_missing d h]
    rfl

/-- Halves that are not missing are written alike by both. -/
theorem writeHalves_eq (d : Devices) {address : U32} (hlow : missingFromTable address = false)
    (hhigh : missingFromTable (address + 2) = false) (value : U32) :
    d.writeHalves address (value.setWidth 16) ((value >>> 16).setWidth 16) =
      d.writePair address value := by
  unfold writeHalves writePair
  cases hlisted : canWrite16Address address with
  | false =>
    rw [write16_refused d hlisted hlow]
    dsimp only
    cases hlisted' : canWrite16Address (address + 2) with
    | false =>
      rw [write16_refused d hlisted' hhigh]
      rfl
    | true => simp
  | true =>
    cases hlisted' : canWrite16Address (address + 2) with
    | false =>
      have hrefused := write16_refused (d.write16 address (value.setWidth 16)).2 hlisted' hhigh
        ((value >>> 16).setWidth 16)
      dsimp only at hrefused ⊢
      rw [hrefused]
      simp
    | true => simp [Bool.or_comm]

/-- Word accesses are pairs of halfword accesses exactly at the words without wave RAM and JOY bus
registers. -/
theorem ioWidthsAgree_iff (d : Devices) {address : U32} (halign : address.toNat % 4 = 0)
    (hfifoA : address ≠ kFifoAAddress) (hfifoB : address ≠ kFifoBAddress)
    (hwaitcnt : address ≠ kWaitcnt) (hime : address ≠ kIme) (value : U32) :
    d.IoWidthsAgree address value ↔
      missingFromTable address = false ∧ missingFromTable (address + 2) = false := by
  have halign' : address &&& 0x3#32 = 0 := by
    refine BitVec.eq_of_toNat_eq ?_
    rw [BitVec.toNat_and]
    show (address.toNat &&& (2 ^ 2 - 1)) = 0
    rw [Nat.and_two_pow_sub_one_eq_mod]
    exact halign
  constructor
  · intro hagree
    by_contra hmissing
    have hword : address ∈ missingWords := by
      refine missing_words halign ?_
      by_contra hneither
      rw [not_or, Bool.not_eq_true, Bool.not_eq_true] at hneither
      exact hmissing hneither
    obtain ⟨hrefused, htaken⟩ := missing_word d hword value
    rw [hagree.write, htaken] at hrefused
    exact Bool.noConfusion hrefused
  · rintro ⟨hlow, hhigh⟩
    refine ⟨?_, ?_⟩
    · rw [← writeHalves_eq d hlow hhigh]
      unfold write32
      rw [if_neg (not_not.mpr halign'), if_neg (not_or.mpr ⟨hime, hwaitcnt⟩), if_neg hfifoA,
        if_neg hfifoB]
    · unfold read32 readPair
      rw [if_neg (not_not.mpr halign'), if_neg hime]

/-- DISPSTAT and VCOUNT in one word. -/
theorem ioWidthsAgree_dispstat : reset.IoWidthsAgree kDispstat 0x00FF0038#32 :=
  (ioWidthsAgree_iff reset (by decide) (by decide) (by decide) (by decide) (by decide) _).mpr
    (by decide)

/-- A word of the wave RAM. -/
theorem not_ioWidthsAgree : ¬reset.IoWidthsAgree 0x04000090#32 0x76543210#32 := by
  intro hagree
  obtain ⟨hrefused, htaken⟩ := @missing_word reset 0x04000090#32 (by decide) 0x76543210#32
  rw [hagree.write, htaken] at hrefused
  exact Bool.noConfusion hrefused

end Devices

end Gba.Core
