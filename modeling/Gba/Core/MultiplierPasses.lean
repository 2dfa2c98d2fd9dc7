import Gba.Core.ArmMultiplier
import Gba.Library.BoothRecoding
import Mathlib.Tactic.IntervalCases
import Mathlib.Tactic.LinearCombination

/-!
# Passes of the multiplier array

What one pass of the carry-save array in `ArmMultiplier` and a cycle of four passes add, as numbers.
The array holds 33 bits of a sum and of its carries, the carries in two's complement, and the rest
of the accumulator waits above them. A pass adds the addend of one Booth digit and lets two bits of
each word leave at the low end.
-/

namespace Gba.Core

open Gba.Library

/-! ## Words as numbers -/

section Numbers

variable (x y : U64)

theorem toNat_bit (i : Nat) :
    (if x.getLsbD i then 1 else 0 : U64).toNat = x.toNat / 2 ^ i % 2 := by
  rw [← BitVec.testBit_toNat, Nat.testBit_eq_decide_div_mod_eq]
  rcases Nat.mod_two_eq_zero_or_one (x.toNat / 2 ^ i) with h | h <;> rw [h] <;> rfl

theorem toNat_notBit (i : Nat) :
    (if x.getLsbD i then 0 else 1 : U64).toNat = 1 - x.toNat / 2 ^ i % 2 := by
  rw [← BitVec.testBit_toNat, Nat.testBit_eq_decide_div_mod_eq]
  rcases Nat.mod_two_eq_zero_or_one (x.toNat / 2 ^ i) with h | h <;> rw [h] <;> rfl

/-- Words without a common bit. -/
theorem toNat_or_of_lt {k : Nat} (hx : x.toNat < 2 ^ k) (hy : y.toNat % 2 ^ k = 0) :
    (x ||| y).toNat = x.toNat + y.toNat := by
  obtain ⟨n, hn⟩ : ∃ n, y.toNat = 2 ^ k * n := ⟨y.toNat / 2 ^ k, by
    rw [Nat.mul_div_cancel' (Nat.dvd_of_mod_eq_zero hy)]⟩
  rw [BitVec.toNat_or, hn, Nat.or_comm, ← Nat.two_pow_add_eq_or_of_lt hx, Nat.add_comm]

theorem toNat_and_mask33 : (x &&& 0x1FFFFFFFF#64).toNat = x.toNat % 2 ^ 33 := by
  rw [BitVec.toNat_and]
  exact Nat.and_two_pow_sub_one_eq_mod x.toNat 33

theorem toNat_and_mask34 : (x &&& 0x3FFFFFFFF#64).toNat = x.toNat % 2 ^ 34 := by
  rw [BitVec.toNat_and]
  exact Nat.and_two_pow_sub_one_eq_mod x.toNat 34

theorem toNat_and_mask2 : (x &&& 0x3#64).toNat = x.toNat % 4 := by
  rw [BitVec.toNat_and]
  exact Nat.and_two_pow_sub_one_eq_mod x.toNat 2

end Numbers

/-! ## One pass of the array -/

/-- A multiplicand of 34 bits in two's complement. -/
structure IsMultiplicand (word : U64) (value : Int) : Prop where
  word : (word.toNat : Int) = value % 2 ^ 34
  low : -2 ^ 31 ≤ value
  high : value < 2 ^ 32

/-- A number of `width + 1` bits in two's complement. -/
def signedValue (width : Nat) (word : U64) : Int :=
  word.toNat - 2 ^ (width + 1) * (word.toNat / 2 ^ width : Nat)

theorem signedValue_of_emod {width : Nat} {word : U64} {value : Int}
    (hword : (word.toNat : Int) = value % 2 ^ (width + 1)) (hlow : -2 ^ width ≤ value)
    (hhigh : value < 2 ^ width) : signedValue width word = value := by
  unfold signedValue
  rw [pow_succ] at *
  have hpos : (0 : Int) < 2 ^ width := by positivity
  push_cast
  generalize (2 : Int) ^ width = bound at *
  by_cases hsign : 0 ≤ value
  · rw [Int.emod_eq_of_lt hsign (by omega)] at hword
    rw [hword, Int.ediv_eq_zero_of_lt hsign hhigh]
    ring
  · have hshift : value % (bound * 2) = value + bound * 2 := by
      rw [← Int.add_emod_right, Int.emod_eq_of_lt (by omega) (by omega)]
    have hquotient : (value + bound * 2) / bound = 1 := by
      rw [Int.ediv_eq_iff_of_pos hpos]
      omega
    rw [hword, hshift, hquotient]
    ring

/-- The addend that a digit selects, as a number of 34 bits: the complement that stands for a
negative addend lacks one, which is its carry. -/
theorem boothRecode_value {word : U64} {value : Int} (h : IsMultiplicand word value)
    (chunk : BitVec 3) :
    signedValue 33 (boothRecode word chunk).output +
        (if (boothRecode word chunk).carry then 1 else 0) = boothDigit chunk.toNat * value := by
  obtain ⟨hword, hlow, hhigh⟩ := h
  have hdigits : boothDigit 0 = 0 ∧ boothDigit 1 = 1 ∧ boothDigit 2 = 1 ∧ boothDigit 3 = 2 ∧
      boothDigit 4 = -2 ∧ boothDigit 5 = -1 ∧ boothDigit 6 = -1 ∧ boothDigit 7 = 0 := by decide
  obtain ⟨h0, h1, h2, h3, h4, h5, h6, h7⟩ := hdigits
  have hchunk := chunk.isLt
  have hdouble : (2 * word).toNat = 2 * word.toNat := by
    rw [BitVec.toNat_mul]
    exact Nat.mod_eq_of_lt (by simp; omega)
  have hcomplement (x : U64) : (~~~x).toNat = 2 ^ 64 - 1 - x.toNat := BitVec.toNat_not
  have hword' := word.isLt
  have hzero : (0 : U64).toNat = 0 := rfl
  have hadd (output : U64) (carry digit : Int) (hcarry : carry = 0 ∨ carry = 1)
      (hdigit : digit ∈ [-2, -1, 0, 1, 2])
      (hvalue : ((output.toNat % 2 ^ 34 : Nat) : Int) = (digit * value - carry) % 2 ^ 34) :
      signedValue 33 (output &&& 0x3FFFFFFFF#64) + carry = digit * value := by
    have hbound : -2 ^ 33 < digit * value ∧ digit * value < 2 ^ 33 := by
      simp only [List.mem_cons, List.not_mem_nil, or_false] at hdigit
      rcases hdigit with rfl | rfl | rfl | rfl | rfl <;> omega
    have hsigned : signedValue 33 (output &&& 0x3FFFFFFFF#64) = digit * value - carry := by
      refine signedValue_of_emod ?_ (by omega) (by omega)
      rw [toNat_and_mask34]
      exact hvalue
    rw [hsigned, Int.sub_add_cancel]
  unfold boothRecode
  generalize chunk.toNat = digit at hchunk ⊢
  interval_cases digit
  · exact (hadd 0 0 0 (.inl rfl) (by decide) (by omega)).trans (by rw [← h0]; rfl)
  · exact (hadd word 0 1 (.inl rfl) (by decide) (by omega)).trans (by rw [← h1]; rfl)
  · exact (hadd word 0 1 (.inl rfl) (by decide) (by omega)).trans (by rw [← h2]; rfl)
  · exact (hadd (2 * word) 0 2 (.inl rfl) (by decide) (by omega)).trans (by rw [← h3]; rfl)
  · exact (hadd (~~~(2 * word)) 1 (-2) (.inr rfl) (by decide)
      (by rw [hcomplement]; omega)).trans (by rw [← h4]; rfl)
  · exact (hadd (~~~word) 1 (-1) (.inr rfl) (by decide)
      (by rw [hcomplement]; omega)).trans (by rw [← h5]; rfl)
  · exact (hadd (~~~word) 1 (-1) (.inr rfl) (by decide)
      (by rw [hcomplement]; omega)).trans (by rw [← h6]; rfl)
  · exact (hadd 0 0 0 (.inl rfl) (by decide) (by omega)).trans (by rw [← h7]; rfl)

/-- The number that a carry-save pair and the rest of the accumulator stand for. Both words of the
pair have 33 bits; the carries are signed. -/
def csaValue (csa : CarrySaveAdderOutput) (accShift : U64) : Int :=
  (csa.output &&& 0x1FFFFFFFF#64).toNat + signedValue 32 (csa.carry &&& 0x1FFFFFFFF#64) +
    2 ^ 33 * accShift.toNat

theorem toNat_shiftRight (x : U64) (amount : Nat) :
    (x >>> amount).toNat = x.toNat / 2 ^ amount := by
  rw [BitVec.toNat_ushiftRight, Nat.shiftRight_eq_div_pow]

theorem toNat_shiftLeft (x : U64) {amount : Nat} (h : x.toNat * 2 ^ amount < 2 ^ 64) :
    (x <<< amount).toNat = x.toNat * 2 ^ amount := by
  rw [BitVec.toNat_shiftLeft, Nat.shiftLeft_eq, Nat.mod_eq_of_lt h]

theorem carrySaveAdd_value {a b c : U64} (ha : a.toNat < 2 ^ 33) (hb : b.toNat < 2 ^ 33)
    (hc : c.toNat < 2 ^ 33) :
    (carrySaveAdd a b c).output.toNat + 2 * (carrySaveAdd a b c).carry.toNat =
        a.toNat + b.toNat + c.toNat ∧
      (carrySaveAdd a b c).output.toNat < 2 ^ 33 ∧ (carrySaveAdd a b c).carry.toNat < 2 ^ 33 := by
  unfold carrySaveAdd
  simp only [BitVec.toNat_xor, BitVec.toNat_or, BitVec.toNat_and]
  refine ⟨carrySave a.toNat b.toNat c.toNat, Nat.xor_lt_two_pow (Nat.xor_lt_two_pow ha hb) hc, ?_⟩
  exact Nat.or_lt_two_pow (Nat.or_lt_two_pow (Nat.and_lt_two_pow _ hb) (Nat.and_lt_two_pow _ hc))
    (Nat.and_lt_two_pow _ ha)

/-- The carries of the addition take in the carry of the addend. -/
theorem addedCarry_toNat {carry : U64} (h : carry.toNat < 2 ^ 33) (bit : Bool) :
    (carry <<< 1 ||| if bit then 1 else 0 : U64).toNat =
      2 * carry.toNat + (if bit then 1 else 0) := by
  have hshift : (carry <<< 1).toNat = carry.toNat * 2 ^ 1 := toNat_shiftLeft _ (by omega)
  have hbit : (if bit then 1 else 0 : U64).toNat = if bit then 1 else 0 := by
    cases bit <;> rfl
  rw [BitVec.or_comm, toNat_or_of_lt (k := 1), hshift, hbit]
  · omega
  · rw [hbit]
    split <;> decide
  · omega

/-- The bits that the sign extension puts above what is left of the sum. -/
theorem signFix_toNat {accShift carry output : U64} (hcarry : carry.toNat < 2 ^ 33)
    (houtput : output.toNat < 2 ^ 34) :
    ((if accShift.getLsbD 0 then 1 else 0) + (if carry.getLsbD 32 then 0 else 1) +
      (if output.getLsbD 33 then 0 else 1) : U64).toNat =
      accShift.toNat % 2 + (1 - carry.toNat / 2 ^ 32) + (1 - output.toNat / 2 ^ 33) := by
  rw [BitVec.toNat_add, BitVec.toNat_add, toNat_bit, toNat_notBit, toNat_notBit, pow_zero,
    Nat.div_one, Nat.mod_eq_of_lt (by omega : carry.toNat / 2 ^ 32 < 2),
    Nat.mod_eq_of_lt (by omega : output.toNat / 2 ^ 33 < 2)]
  have hfirst : accShift.toNat % 2 < 2 := Nat.mod_lt _ (by decide)
  have hsecond : 1 - carry.toNat / 2 ^ 32 ≤ 1 := Nat.sub_le _ _
  have hthird : 1 - output.toNat / 2 ^ 33 ≤ 1 := Nat.sub_le _ _
  generalize accShift.toNat % 2 = first at hfirst ⊢
  generalize 1 - carry.toNat / 2 ^ 32 = second at hsecond ⊢
  generalize 1 - output.toNat / 2 ^ 33 = third at hthird ⊢
  rw [Nat.mod_eq_of_lt (by omega : first + second < 2 ^ 64), Nat.mod_eq_of_lt (by omega)]

/-- The sum that is passed on: two bits have left it, and the sign extension stands above. -/
theorem nextOutput_toNat {output fix : U64} (houtput : output.toNat < 2 ^ 33)
    (hfix : fix.toNat < 4) :
    (output >>> 2 ||| fix <<< 31).toNat = output.toNat / 4 + fix.toNat * 2 ^ 31 := by
  have hshift : (output >>> 2).toNat = output.toNat / 2 ^ 2 := toNat_shiftRight _ _
  have hfixShift : (fix <<< 31).toNat = fix.toNat * 2 ^ 31 := toNat_shiftLeft _ (by omega)
  rw [toNat_or_of_lt (k := 31), hshift, hfixShift]
  · omega
  · omega
  · rw [hfixShift]
    exact Nat.mul_mod_left _ _

/-- The carries that are passed on: two bits have left them, and the complement of the next bit of
the accumulator stands above. -/
theorem nextCarry_toNat {carry : U64} (hcarry : carry.toNat < 2 ^ 34) (accShift : U64) :
    (carry >>> 2 ||| (((if accShift.getLsbD 1 then 0 else 1) <<< 32 : Nat) : U64)).toNat =
      carry.toNat / 4 + (1 - accShift.toNat / 2 % 2) * 2 ^ 32 := by
  have hoverflow (b : Bool) : (((if b then 0 else 1) <<< 32 : Nat) : U64).toNat =
      (if b then 0 else 1) * 2 ^ 32 := by
    cases b <;> rfl
  have hshift : (carry >>> 2).toNat = carry.toNat / 2 ^ 2 := toNat_shiftRight _ _
  have hbit : (if accShift.getLsbD 1 then 0 else 1 : Nat) = 1 - accShift.toNat / 2 % 2 := by
    rw [← BitVec.testBit_toNat, Nat.testBit_eq_decide_div_mod_eq, pow_one]
    rcases Nat.mod_two_eq_zero_or_one (accShift.toNat / 2) with h | h <;> rw [h] <;> rfl
  rw [toNat_or_of_lt (k := 32), hshift, hoverflow, hbit]
  · omega
  · omega
  · rw [hoverflow]
    exact Nat.mul_mod_left _ _

theorem and_mask33_lt (word : U64) : (word &&& 0x1FFFFFFFF#64).toNat < 2 ^ 33 := by
  rw [toNat_and_mask33]
  exact Nat.mod_lt _ (by decide)

theorem boothRecode_output_lt (multiplicand : U64) (chunk : BitVec 3) :
    (boothRecode multiplicand chunk).output.toNat < 2 ^ 34 := by
  unfold boothRecode
  rw [toNat_and_mask34]
  exact Nat.mod_lt _ (by decide)

/-- One pass adds a digit's addend: what leaves the array at its low end are two bits of each word. -/
theorem csaPass_value {multiplicand : U64} {value : Int} (h : IsMultiplicand multiplicand value)
    (multiplier : U64) (pass : Nat) (state : CsaCycle) :
    ∃ sum carry : U64, sum.toNat < 4 ∧ carry.toNat < 4 ∧
      (csaPass multiplicand multiplier pass state).final =
        ⟨state.final.output ||| sum <<< (2 * pass), state.final.carry ||| carry <<< (2 * pass)⟩ ∧
      (csaPass multiplicand multiplier pass state).accShift = state.accShift >>> 2 ∧
      (csaPass multiplicand multiplier pass state).csa.output.toNat < 2 ^ 33 ∧
      (csaPass multiplicand multiplier pass state).csa.carry.toNat < 2 ^ 33 ∧
      4 * csaValue (csaPass multiplicand multiplier pass state).csa
          (csaPass multiplicand multiplier pass state).accShift + sum.toNat + carry.toNat =
        csaValue state.csa state.accShift +
          boothDigit (multiplier.extractLsb' (2 * pass) 3).toNat * value := by
  have haddend := boothRecode_value h (multiplier.extractLsb' (2 * pass) 3)
  have haddendLt := boothRecode_output_lt multiplicand (multiplier.extractLsb' (2 * pass) 3)
  unfold csaPass csaValue
  dsimp only
  generalize boothRecode multiplicand (multiplier.extractLsb' (2 * pass) 3) = addend at *
  generalize boothDigit (multiplier.extractLsb' (2 * pass) 3).toNat * value = product at *
  have houtput := and_mask33_lt state.csa.output
  have hcarry := and_mask33_lt state.csa.carry
  generalize state.csa.output &&& 0x1FFFFFFFF#64 = output at *
  generalize state.csa.carry &&& 0x1FFFFFFFF#64 = carry at *
  have hlow : (addend.output &&& 0x1FFFFFFFF#64).toNat = addend.output.toNat % 2 ^ 33 :=
    toNat_and_mask33 _
  obtain ⟨hsum, hsumLt, hmajorityLt⟩ := carrySaveAdd_value houtput (and_mask33_lt addend.output)
    hcarry
  generalize carrySaveAdd output (addend.output &&& 0x1FFFFFFFF#64) carry = added at *
  have haddedCarry := addedCarry_toNat hmajorityLt addend.carry
  generalize (added.carry <<< 1 ||| if addend.carry then 1 else 0 : U64) = addedCarry at *
  have haddedCarryLt : addedCarry.toNat < 2 ^ 34 := by
    rw [haddedCarry]
    split <;> omega
  have hfix := @signFix_toNat state.accShift _ _ hcarry haddendLt
  generalize ((if state.accShift.getLsbD 0 then 1 else 0) + (if carry.getLsbD 32 then 0 else 1) +
      (if addend.output.getLsbD 33 then 0 else 1) : U64) = fix at *
  have hnextOutput := @nextOutput_toNat added.output fix hsumLt (by omega)
  have hnextCarry := nextCarry_toNat haddedCarryLt state.accShift
  refine ⟨added.output &&& 0x3#64, addedCarry &&& 0x3#64, ?_, ?_, rfl, rfl, ?_, ?_, ?_⟩
  · rw [toNat_and_mask2]
    omega
  · rw [toNat_and_mask2]
    omega
  · rw [hnextOutput]
    omega
  · rw [hnextCarry]
    omega
  · have hmask (x : U64) (hx : x.toNat < 2 ^ 33) : (x &&& 0x1FFFFFFFF#64).toNat = x.toNat := by
      rw [toNat_and_mask33, Nat.mod_eq_of_lt hx]
    have hshift : (state.accShift >>> 2).toNat = state.accShift.toNat / 2 ^ 2 :=
      toNat_shiftRight _ _
    unfold signedValue at haddend ⊢
    rw [hmask _ (by omega), hmask _ (by omega), hnextOutput, hnextCarry, hshift, toNat_and_mask2,
      toNat_and_mask2, ← haddend]
    clear hnextOutput hnextCarry hmask hshift
    cases hbit : addend.carry with
    | true =>
      rw [hbit, if_pos rfl] at haddedCarry
      rw [if_pos rfl]
      omega
    | false =>
      rw [hbit, if_neg Bool.false_ne_true] at haddedCarry
      rw [if_neg Bool.false_ne_true]
      omega

/-! ## A cycle of four passes -/

section Cycle

variable {multiplicand multiplier : U64} {value rest : Int} (previous : CarrySaveAdderOutput)
  (accShift : U64)

/-- What has happened after some passes of a cycle: the digits that are read and the bits that have
left the array make up for what the array still has to add. -/
structure AfterPasses (value rest : Int) (previous : CarrySaveAdderOutput) (accShift : U64)
    (passes : Nat) (state : CsaCycle) : Prop where
  output : state.final.output.toNat < 2 ^ (2 * passes)
  carry : state.final.carry.toNat < 2 ^ (2 * passes)
  shifted : state.accShift.toNat = accShift.toNat / 2 ^ (2 * passes)
  bounded : 0 < passes → state.csa.output.toNat < 2 ^ 33 ∧ state.csa.carry.toNat < 2 ^ 33
  value : csaValue previous accShift + roundedHalf rest * value =
    2 ^ (2 * passes) * (csaValue state.csa state.accShift +
      roundedHalf (rest / 2 ^ (2 * passes)) * value) +
      state.final.output.toNat + state.final.carry.toNat

theorem chunk_eq (hmultiplier : (multiplier.toNat : Int) % 2 ^ 9 = rest % 2 ^ 9) {pass : Nat}
    (hpass : pass < 4) :
    ((multiplier.extractLsb' (2 * pass) 3).toNat : Int) = rest / 2 ^ (2 * pass) % 8 := by
  rw [BitVec.extractLsb'_toNat, Nat.shiftRight_eq_div_pow]
  interval_cases pass <;> simp only [Nat.reduceMul, Nat.reducePow, Int.reducePow] <;> omega

theorem AfterPasses.step (h : IsMultiplicand multiplicand value)
    (hmultiplier : (multiplier.toNat : Int) % 2 ^ 9 = rest % 2 ^ 9) {passes : Nat}
    (hpasses : passes < 4) {state : CsaCycle}
    (hafter : AfterPasses value rest previous accShift passes state) :
    AfterPasses value rest previous accShift (passes + 1)
      (csaPass multiplicand multiplier passes state) := by
  obtain ⟨sum, carry, hsumLt, hcarryLt, hfinal, hacc, houtputBound, hcarryBound, hvalue⟩ :=
    csaPass_value h multiplier passes state
  rw [chunk_eq hmultiplier hpasses] at hvalue
  have hpower : 2 ^ (2 * passes) ≤ 2 ^ 6 := Nat.pow_le_pow_right (by decide) (by omega)
  have hsucc : 2 ^ (2 * (passes + 1)) = 4 * 2 ^ (2 * passes) := by
    rw [Nat.mul_add, pow_add]
    ring
  have hshift (x : U64) (hx : x.toNat < 4) :
      (x <<< (2 * passes)).toNat = x.toNat * 2 ^ (2 * passes) :=
    toNat_shiftLeft x ((Nat.mul_le_mul (Nat.le_of_lt_succ hx) hpower).trans_lt (by decide))
  have hor (x y : U64) (hx : x.toNat < 2 ^ (2 * passes)) (hy : y.toNat < 4) :
      (x ||| y <<< (2 * passes)).toNat = x.toNat + y.toNat * 2 ^ (2 * passes) := by
    rw [toNat_or_of_lt _ _ hx, hshift y hy]
    rw [hshift y hy]
    exact Nat.mul_mod_left _ _
  have houtput := hor _ _ hafter.output hsumLt
  have hcarry := hor _ _ hafter.carry hcarryLt
  have hrest : rest / 2 ^ (2 * (passes + 1)) = rest / 2 ^ (2 * passes) / 4 := by
    rw [Int.ediv_ediv_of_nonneg (by positivity)]
    congr 1
    rw [Nat.mul_add, pow_add]
    rfl
  refine ⟨?_, ?_, ?_, fun _ => ⟨houtputBound, hcarryBound⟩, ?_⟩
  · have hbits := Nat.mul_le_mul_right (2 ^ (2 * passes)) (Nat.le_of_lt_succ hsumLt)
    have hbound := hafter.output
    rw [hfinal, hsucc]
    dsimp only
    omega
  · have hbits := Nat.mul_le_mul_right (2 ^ (2 * passes)) (Nat.le_of_lt_succ hcarryLt)
    have hbound := hafter.carry
    rw [hfinal, hsucc]
    dsimp only
    omega
  · rw [hacc, toNat_shiftRight, hafter.shifted, Nat.div_div_eq_div_mul, hsucc]
    congr 1
    ring
  · have hdigit := roundedHalf_eq (rest / 2 ^ (2 * passes))
    rw [hafter.value, hfinal, hrest]
    dsimp only
    rw [houtput, hcarry]
    push_cast
    have hpow : (2 : Int) ^ (2 * (passes + 1)) = 4 * 2 ^ (2 * passes) := by exact_mod_cast hsucc
    rw [hpow]
    linear_combination (2 : Int) ^ (2 * passes) * value * hdigit - 2 ^ (2 * passes) * hvalue

theorem afterPasses_range (h : IsMultiplicand multiplicand value)
    (hmultiplier : (multiplier.toNat : Int) % 2 ^ 9 = rest % 2 ^ 9) {passes : Nat}
    (hpasses : passes ≤ 4) :
    AfterPasses value rest previous accShift passes
      ((List.range passes).foldl (fun state pass => csaPass multiplicand multiplier pass state)
        ⟨previous, ⟨0, 0⟩, accShift⟩) := by
  induction passes with
  | zero =>
    refine ⟨Nat.one_pos, Nat.one_pos, ?_, fun hpos => absurd hpos (Nat.lt_irrefl 0), ?_⟩
    · exact (Nat.div_one _).symm
    · simp
  | succ passes ih =>
    rw [List.range_succ, List.foldl_append]
    exact (ih (by omega)).step previous accShift h hmultiplier (by omega)

/-- A cycle reads four digits; eight bits of each word leave the array. -/
theorem multiplyCsaCycle_value (h : IsMultiplicand multiplicand value)
    (hmultiplier : (multiplier.toNat : Int) % 2 ^ 9 = rest % 2 ^ 9)
    {cycle : CarrySaveAdderOutput × U64}
    (hcycle : multiplyCsaCycle previous multiplicand multiplier accShift = cycle) :
    cycle.1.output.toNat < 2 ^ 41 ∧ cycle.1.carry.toNat < 2 ^ 41 ∧
      cycle.2.toNat = accShift.toNat / 2 ^ 8 ∧
      csaValue previous accShift + roundedHalf rest * value =
        2 ^ 8 * (csaValue ⟨cycle.1.output >>> 8, cycle.1.carry >>> 8⟩ cycle.2 +
          roundedHalf (rest / 2 ^ 8) * value) +
          (cycle.1.output.toNat % 2 ^ 8 : Nat) + (cycle.1.carry.toNat % 2 ^ 8 : Nat) := by
  have hafter := afterPasses_range previous accShift h hmultiplier (Nat.le_refl 4)
  subst hcycle
  unfold multiplyCsaCycle
  dsimp only
  generalize (List.range 4).foldl (fun state pass => csaPass multiplicand multiplier pass state)
    ⟨previous, ⟨0, 0⟩, accShift⟩ = last at hafter ⊢
  obtain ⟨houtputBound, hcarryBound⟩ := hafter.bounded (by decide)
  have houtputLow := hafter.output
  have hcarryLow := hafter.carry
  have hor (x y : U64) (hx : x.toNat < 2 ^ (2 * 4)) (hy : y.toNat < 2 ^ 33) :
      (x ||| y <<< 8).toNat = x.toNat + y.toNat * 2 ^ 8 := by
    have hshift : (y <<< 8).toNat = y.toNat * 2 ^ 8 := toNat_shiftLeft y (by omega)
    rw [toNat_or_of_lt _ _ hx, hshift]
    rw [hshift]
    exact Nat.mul_mod_left _ _
  have hupper (x y : U64) (hx : x.toNat < 2 ^ (2 * 4)) (hy : y.toNat < 2 ^ 33) :
      (x ||| y <<< 8) >>> 8 = y := by
    refine BitVec.eq_of_toNat_eq ?_
    rw [toNat_shiftRight, hor x y hx hy]
    omega
  refine ⟨?_, ?_, hafter.shifted, ?_⟩
  · rw [hor _ _ houtputLow houtputBound]
    omega
  · rw [hor _ _ hcarryLow hcarryBound]
    omega
  · rw [hupper _ _ houtputLow houtputBound, hupper _ _ hcarryLow hcarryBound,
      hor _ _ houtputLow houtputBound, hor _ _ hcarryLow hcarryBound, Nat.add_mul_mod_self_right,
      Nat.add_mul_mod_self_right, Nat.mod_eq_of_lt houtputLow, Nat.mod_eq_of_lt hcarryLow]
    exact hafter.value

end Cycle

end Gba.Core
