import Gba.Core.MemoryBus

/-!
# Work RAM

The addresses of EWRAM and IWRAM, which take bytes and words at any address: where they lead, and
which of them lead to one byte.
-/

namespace Gba.Core

/-- An address of EWRAM or IWRAM. -/
def InRam (address : U32) : Prop :=
  (classify address).region = .ewram ∨ (classify address).region = .iwram

instance inRam_decidable (address : U32) : Decidable (InRam address) := by
  unfold InRam
  infer_instance

/-- Two addresses of one byte. -/
def SameCell (a b : U32) : Prop :=
  (classify a).region = (classify b).region ∧ (classify a).offset = (classify b).offset

instance sameCell_decidable (a b : U32) : Decidable (SameCell a b) := by
  unfold SameCell
  infer_instance

/-! ## Addresses -/

/-- The addresses of EWRAM. -/
theorem classify_ewram {address : U32} (h : address.toNat / 2 ^ 24 = 2) :
    (classify address).region = .ewram ∧ (classify address).writable = true ∧
      (classify address).offset.toNat = address.toNat % 2 ^ 18 := by
  have htop : (address >>> 24).toNat = 2 := by
    rw [BitVec.toNat_ushiftRight, Nat.shiftRight_eq_div_pow]
    exact h
  unfold classify
  dsimp only
  rw [htop]
  refine ⟨rfl, rfl, ?_⟩
  show (address &&& 0x00FFFFFF#32 &&& 0x3FFFF#32).toNat = _
  rw [BitVec.toNat_and, BitVec.toNat_and]
  show (address.toNat &&& (2 ^ 24 - 1)) &&& (2 ^ 18 - 1) = _
  rw [Nat.and_two_pow_sub_one_eq_mod, Nat.and_two_pow_sub_one_eq_mod]
  omega

/-- The addresses of IWRAM. -/
theorem classify_iwram {address : U32} (h : address.toNat / 2 ^ 24 = 3) :
    (classify address).region = .iwram ∧ (classify address).writable = true ∧
      (classify address).offset.toNat = address.toNat % 2 ^ 15 := by
  have htop : (address >>> 24).toNat = 3 := by
    rw [BitVec.toNat_ushiftRight, Nat.shiftRight_eq_div_pow]
    exact h
  unfold classify
  dsimp only
  rw [htop]
  refine ⟨rfl, rfl, ?_⟩
  show (address &&& 0x00FFFFFF#32 &&& 0x7FFF#32).toNat = _
  rw [BitVec.toNat_and, BitVec.toNat_and]
  show (address.toNat &&& (2 ^ 24 - 1)) &&& (2 ^ 15 - 1) = _
  rw [Nat.and_two_pow_sub_one_eq_mod, Nat.and_two_pow_sub_one_eq_mod]
  omega

/-- The upper byte of an address decides whether it is in RAM. -/
theorem inRam_iff {address : U32} :
    InRam address ↔ address.toNat / 2 ^ 24 = 2 ∨ address.toNat / 2 ^ 24 = 3 := by
  constructor
  · intro h
    have htop : (address >>> 24).toNat = address.toNat / 2 ^ 24 := by
      rw [BitVec.toNat_ushiftRight, Nat.shiftRight_eq_div_pow]
    unfold InRam classify at h
    dsimp only at h
    rw [htop] at h
    split at h
    case h_3 => next heq => exact .inl heq
    case h_4 => next heq => exact .inr heq
    case h_5 => split at h <;> simp at h
    all_goals simp at h
  · rintro (h | h)
    · exact .inl (classify_ewram h).1
    · exact .inr (classify_iwram h).1

theorem classify_of_inRam {address : U32} (h : InRam address) :
    ((classify address).region = .ewram ∨ (classify address).region = .iwram) ∧
      (classify address).writable = true := by
  refine ⟨h, ?_⟩
  rcases inRam_iff.mp h with h | h
  · exact (classify_ewram h).2.1
  · exact (classify_iwram h).2.1

/-- The low bits of an address cleared. -/
theorem clearLow_toNat (address : U32) {bits : Nat} (h : bits < 32) :
    (address &&& ~~~BitVec.ofNat 32 (2 ^ bits - 1)).toNat = address.toNat / 2 ^ bits * 2 ^ bits := by
  have hshift : address &&& ~~~BitVec.ofNat 32 (2 ^ bits - 1) = (address >>> bits) <<< bits := by
    refine BitVec.eq_of_getLsbD_eq fun i hi => ?_
    have hmask : (BitVec.ofNat 32 (2 ^ bits - 1)).getLsbD i = decide (i < bits) := by
      rw [BitVec.getLsbD_ofNat, Nat.testBit_two_pow_sub_one, decide_eq_true hi, Bool.true_and]
    rw [BitVec.getLsbD_and, BitVec.getLsbD_not, hmask, BitVec.getLsbD_shiftLeft,
      BitVec.getLsbD_ushiftRight]
    by_cases hlow : i < bits
    · simp [hlow]
    · rw [Nat.add_sub_cancel' (Nat.le_of_not_lt hlow)]
      simp [hlow, hi]
  have hle : address.toNat / 2 ^ bits * 2 ^ bits < 2 ^ 32 :=
    lt_of_le_of_lt (Nat.div_mul_le_self _ _) address.isLt
  rw [hshift, BitVec.toNat_shiftLeft, BitVec.toNat_ushiftRight, Nat.shiftLeft_eq,
    Nat.shiftRight_eq_div_pow, Nat.mod_eq_of_lt hle]

theorem alignWord_toNat (address : U32) : (alignWord address).toNat = address.toNat / 4 * 4 :=
  @clearLow_toNat address 2 (by decide)

theorem alignWord_of_aligned {address : U32} (h : address.toNat % 4 = 0) :
    alignWord address = address := by
  refine BitVec.eq_of_toNat_eq ?_
  rw [alignWord_toNat]
  omega

/-- No two addresses of one byte are less than the size of IWRAM apart. -/
theorem not_sameCell {a b : U32} (ha : InRam a) (hb : InRam b) (hne : a ≠ b)
    (hnear : a.toNat < b.toNat + 2 ^ 15 ∧ b.toNat < a.toNat + 2 ^ 15) : ¬SameCell a b := by
  rintro ⟨hregion, hoffset⟩
  have hnat : a.toNat ≠ b.toNat := fun h => hne (BitVec.eq_of_toNat_eq h)
  have hoffsets := congrArg BitVec.toNat hoffset
  rcases inRam_iff.mp ha with ha | ha <;> rcases inRam_iff.mp hb with hb | hb
  · rw [(classify_ewram ha).2.2, (classify_ewram hb).2.2] at hoffsets
    omega
  · rw [(classify_ewram ha).1, (classify_iwram hb).1] at hregion
    cases hregion
  · rw [(classify_iwram ha).1, (classify_ewram hb).1] at hregion
    cases hregion
  · rw [(classify_iwram ha).2.2, (classify_iwram hb).2.2] at hoffsets
    omega

/-- Bytes at different offsets from one address. -/
theorem not_sameCell_of_offset {address : U32} {j k : Nat}
    (hj : InRam (address + BitVec.ofNat 32 j)) (hk : InRam (address + BitVec.ofNat 32 k))
    (hjlt : j < 2 ^ 14) (hklt : k < 2 ^ 14) (hne : j ≠ k) :
    ¬SameCell (address + BitVec.ofNat 32 j) (address + BitVec.ofNat 32 k) := by
  have hjram := inRam_iff.mp hj
  have hkram := inRam_iff.mp hk
  simp only [BitVec.toNat_add, BitVec.toNat_ofNat] at hjram hkram
  refine not_sameCell hj hk ?_ ?_
  · intro heq
    have := congrArg BitVec.toNat heq
    simp only [BitVec.toNat_add, BitVec.toNat_ofNat] at this
    omega
  · simp only [BitVec.toNat_add, BitVec.toNat_ofNat]
    omega

/-! ## Bytes -/

theorem byteAt_setByte {n : Nat} (bytes : Fin n → U8) {offset : U32} (h : offset.toNat < n)
    (value : U8) (other : U32) :
    byteAt (setByte bytes offset value) other =
      if other = offset then value else byteAt bytes other := by
  unfold byteAt setByte
  rw [dif_pos h]
  by_cases hother : other = offset
  · subst hother
    rw [dif_pos h, if_pos rfl, Function.update_self]
  · rw [if_neg hother]
    split
    · next hlt =>
      refine Function.update_of_ne (fun heq => hother ?_) _ _
      exact BitVec.eq_of_toNat_eq (Fin.mk.inj heq)
    · rfl

namespace BusState

/-- RAM lies below the debug ports. -/
theorem lt_of_inRam {address : U32} (h : InRam address) : address.toNat < 0x04000000 := by
  rcases inRam_iff.mp h with h | h <;> omega

end BusState

end Gba.Core
