import Gba.Core.MultiplierPasses

/-!
# The multiplier array multiplies

The loop over the multiplier ends when no Booth digit is left, after one to four cycles. The bits
that have left the array by then and what the array still holds make up the product.
-/

namespace Gba.Core

open Gba.Library

/-! ## The loop -/

section Loop

/-- A multiplier of which the array reads 33 bits in two's complement. -/
structure IsMultiplier (word : U64) (rest : Int) : Prop where
  bits : (word.toNat : Int) % 2 ^ 33 = rest % 2 ^ 33
  narrow : 0 ≤ rest → word.toNat < 2 ^ 33
  low : -2 ^ 31 ≤ rest
  high : rest < 2 ^ 32

theorem toNat_or_high (x : U64) :
    (x ||| mask64Range 33 64).toNat = x.toNat % 2 ^ 33 + (2 ^ 64 - 2 ^ 33) := by
  have hsplit : x ||| mask64Range 33 64 = (x &&& 0x1FFFFFFFF#64) ||| mask64Range 33 64 := by
    have hmask : (0x1FFFFFFFF#64 : U64) = ~~~mask64Range 33 64 := by decide
    rw [hmask]
    ext i hi
    simp only [BitVec.getElem_or, BitVec.getElem_and, BitVec.getElem_not]
    cases x[i] <;> cases (mask64Range 33 64)[i] <;> rfl
  rw [hsplit, toNat_or_of_lt (k := 33), toNat_and_mask33]
  · rfl
  · rw [toNat_and_mask33]
    exact Nat.mod_lt _ (by decide)
  · decide

theorem IsMultiplier.signExtend {word : U64} {rest : Int} (h : IsMultiplier word rest) :
    (signExtend64 word 33 64).toInt = rest := by
  obtain ⟨hbits, hnarrow, hlow, hhigh⟩ := h
  have hsign : word.getLsbD (33 - 1) = decide (word.toNat / 2 ^ 32 % 2 = 1) := by
    rw [← BitVec.testBit_toNat, Nat.testBit_eq_decide_div_mod_eq]
  unfold signExtend64
  rw [if_pos (Nat.le_refl 64), hsign]
  by_cases hnegative : word.toNat / 2 ^ 32 % 2 = 1
  · rw [if_pos (decide_eq_true hnegative), BitVec.toInt_eq_toNat_cond, toNat_or_high]
    omega
  · have hpositive : 0 ≤ rest := by omega
    have hword := hnarrow hpositive
    rw [if_neg (by simpa using hnegative), BitVec.toInt_eq_toNat_cond]
    omega

theorem IsMultiplier.shift {word : U64} {rest : Int} (h : IsMultiplier word rest) :
    ((arithmeticShiftRight word 8 33).toNat : Int) = rest / 2 ^ 8 % 2 ^ 33 ∧
      IsMultiplier (arithmeticShiftRight word 8 33) (rest / 2 ^ 8) := by
  have hmask : ∀ x : U64, (x &&& mask64Range 0 33).toNat = x.toNat % 2 ^ 33 := toNat_and_mask33
  have hvalue : ((arithmeticShiftRight word 8 33).toNat : Int) = rest / 2 ^ 8 % 2 ^ 33 := by
    have hshift : ((signExtend64 word 33 64).sshiftRight 8).toInt = rest / 2 ^ 8 := by
      rw [BitVec.toInt_sshiftRight, h.signExtend, Int.shiftRight_eq_div_pow]
      rfl
    rw [BitVec.toInt_eq_toNat_cond] at hshift
    unfold arithmeticShiftRight
    rw [hmask]
    split at hshift <;> omega
  have hlow := h.low
  have hhigh := h.high
  exact ⟨hvalue, ⟨by omega, fun _ => by omega, by omega, by omega⟩⟩

/-- The loop ends when no digit is left. -/
theorem IsMultiplier.terminate {word : U64} {rest : Int} {signedMultiply : Bool}
    (h : IsMultiplier word rest) (hbits : (word.toNat : Int) = rest % 2 ^ 33)
    (hterminate : multiplyShouldTerminate word signedMultiply = true) : rest = 0 ∨ rest = -1 := by
  have hlow := h.low
  have hhigh := h.high
  unfold multiplyShouldTerminate at hterminate
  simp only [Bool.or_eq_true, Bool.and_eq_true, decide_eq_true_eq] at hterminate
  rcases hterminate with hzero | ⟨-, hones⟩
  · subst hzero
    left
    have hword : (0 : U64).toNat = 0 := rfl
    omega
  · subst hones
    right
    have hword : (0x1FFFFFFFF#64 : U64).toNat = 2 ^ 33 - 1 := rfl
    omega

/-- The bits that have left the array, at the top of the rotated pair. -/
structure HoldsBits (pair : U128Pair) (count bits : Nat) : Prop where
  lo : pair.lo = 0
  hi : pair.hi.toNat = bits * 2 ^ (64 - count)
  small : bits < 2 ^ count

/-- Eight more bits. -/
theorem HoldsBits.rotate {pair : U128Pair} {passes bits : Nat}
    (h : HoldsBits pair (1 + 8 * passes) bits) (hpasses : passes < 4) (word : U64) :
    HoldsBits (rotateRight128 { pair with lo := pair.lo ||| word &&& 0xFF#64 } 8)
      (1 + 8 * (passes + 1)) (bits + word.toNat % 2 ^ 8 * 2 ^ (1 + 8 * passes)) := by
  have hbyte : (word &&& 0xFF#64).toNat = word.toNat % 2 ^ 8 := by
    rw [BitVec.toNat_and]
    exact Nat.and_two_pow_sub_one_eq_mod word.toNat 8
  obtain ⟨hlo, hhi, hsmall⟩ := h
  unfold rotateRight128
  rw [hlo]
  simp only [BitVec.ofNat_eq_ofNat, BitVec.zero_or]
  generalize word &&& 0xFF#64 = byte at hbyte ⊢
  have hbyteShift : (byte <<< (64 - 8)).toNat = byte.toNat * 2 ^ 56 := toNat_shiftLeft _ (by omega)
  have hhiShift : (pair.hi >>> 8).toNat = pair.hi.toNat / 2 ^ 8 := toNat_shiftRight _ _
  have hlowByte : byte >>> 8 = 0#64 := by
    refine BitVec.eq_of_toNat_eq ?_
    rw [toNat_shiftRight, hbyte]
    simp
  have hlowHi : pair.hi <<< (64 - 8) = 0#64 := by
    refine BitVec.eq_of_toNat_eq ?_
    rw [BitVec.toNat_shiftLeft, Nat.shiftLeft_eq, hhi]
    interval_cases passes <;> simp <;> omega
  have hor : (pair.hi >>> 8 ||| byte <<< (64 - 8)).toNat =
      pair.hi.toNat / 2 ^ 8 + byte.toNat * 2 ^ 56 := by
    rw [toNat_or_of_lt (k := 56), hhiShift, hbyteShift]
    · omega
    · rw [hbyteShift]
      exact Nat.mul_mod_left _ _
  constructor
  · rw [hlowByte, hlowHi]
    rfl
  · dsimp only
    rw [hor, hhi, hbyte]
    interval_cases passes <;> simp <;> omega
  · interval_cases passes <;> simp at hsmall ⊢ <;> omega

/-- The loop after some passes over a multiplier: the bits that have left the array and what it
still has to add make up the product, but for the complement of the first addend. -/
structure LoopInvariant (value multiplier : Int) (accumulator : U64) (passes : Nat)
    (state : MultiplyLoop) : Prop where
  iterations : state.iterations = passes
  remaining : IsMultiplier state.multiplier (multiplier / 2 ^ (8 * passes))
  masked : 0 < passes →
    (state.multiplier.toNat : Int) = multiplier / 2 ^ (8 * passes) % 2 ^ 33 ∧
      state.csa.output.toNat < 2 ^ 33 ∧ state.csa.carry.toNat < 2 ^ 33
  shifted : state.accShift.toNat = accumulator.toNat / 2 ^ (34 + 8 * passes)
  product : ∃ sum carry : Nat,
    HoldsBits state.partialSum (1 + 8 * passes) sum ∧
      HoldsBits state.partialCarry (1 + 8 * passes) carry ∧
      accumulator.toNat + multiplier * value - multiplier % 2 =
        2 ^ (1 + 8 * passes) * (csaValue state.csa state.accShift +
          roundedHalf (multiplier / 2 ^ (8 * passes)) * value) + sum + carry

theorem LoopInvariant.step {multiplicand accumulator : U64} {value multiplier : Int}
    (h : IsMultiplicand multiplicand value) {passes : Nat} (hpasses : passes < 4)
    {state : MultiplyLoop} (hinv : LoopInvariant value multiplier accumulator passes state) :
    LoopInvariant value multiplier accumulator (passes + 1) (multiplyPass multiplicand state) := by
  obtain ⟨hiterations, hremaining, -, hshifted, sum, carry, hsum, hcarry, hproduct⟩ := hinv
  have hbits : (state.multiplier.toNat : Int) % 2 ^ 9 = multiplier / 2 ^ (8 * passes) % 2 ^ 9 := by
    have := hremaining.bits
    omega
  obtain ⟨houtputLt, hcarryLt, hacc, hvalue⟩ :=
    multiplyCsaCycle_value state.csa state.accShift h hbits rfl
  unfold multiplyPass
  dsimp only
  generalize multiplyCsaCycle state.csa multiplicand state.multiplier state.accShift = cycle at *
  have hnext : multiplier / 2 ^ (8 * (passes + 1)) = multiplier / 2 ^ (8 * passes) / 2 ^ 8 := by
    rw [Int.ediv_ediv_of_nonneg (by positivity), ← pow_add]
    rfl
  obtain ⟨hmultiplier, hshift⟩ := hremaining.shift
  constructor
  · rw [hiterations]
  · rw [hnext]
    exact hshift
  · intro _
    rw [hnext]
    refine ⟨hmultiplier, ?_, ?_⟩
    · rw [toNat_shiftRight]
      omega
    · rw [toNat_shiftRight]
      omega
  · rw [hacc, hshifted, Nat.div_div_eq_div_mul, ← pow_add]
    rfl
  · refine ⟨_, _, hsum.rotate hpasses cycle.1.output, hcarry.rotate hpasses cycle.1.carry, ?_⟩
    rw [hproduct, hnext, hvalue]
    have hpower : (2 : Int) ^ (1 + 8 * (passes + 1)) = 2 ^ 8 * 2 ^ (1 + 8 * passes) := by
      rw [← pow_add]
      congr 1
      omega
    rw [hpower]
    push_cast
    ring

/-- After four passes no digit is left. -/
theorem rest_of_four {multiplier : Int} (hlow : -2 ^ 31 ≤ multiplier) (hhigh : multiplier < 2 ^ 32) :
    multiplier / 2 ^ (8 * 4) = 0 ∨ multiplier / 2 ^ (8 * 4) = -1 := by
  omega

theorem multiplyLoop_invariant {multiplicand accumulator : U64} {value multiplier : Int}
    (h : IsMultiplicand multiplicand value) (hlow : -2 ^ 31 ≤ multiplier)
    (hhigh : multiplier < 2 ^ 32) (signedMultiply : Bool) {passes fuel : Nat}
    (hfuel : passes + fuel = 4) {state : MultiplyLoop}
    (hinv : LoopInvariant value multiplier accumulator passes state) :
    ∃ last, 0 < last ∧ last ≤ 4 ∧
      LoopInvariant value multiplier accumulator last
        (multiplyLoop multiplicand signedMultiply fuel state) ∧
      (multiplier / 2 ^ (8 * last) = 0 ∨ multiplier / 2 ^ (8 * last) = -1) := by
  induction fuel generalizing passes state with
  | zero =>
    have hpasses : passes = 4 := by omega
    subst hpasses
    exact ⟨4, by decide, Nat.le_refl 4, hinv, rest_of_four hlow hhigh⟩
  | succ fuel ih =>
    have hstep := hinv.step h (by omega)
    unfold multiplyLoop
    dsimp only
    cases hterminate : multiplyShouldTerminate (multiplyPass multiplicand state).multiplier
      signedMultiply with
    | true =>
      rw [if_pos rfl]
      exact ⟨passes + 1, Nat.succ_pos passes, by omega, hstep,
        hstep.remaining.terminate (hstep.masked (by omega)).1 hterminate⟩
    | false =>
      rw [if_neg Bool.false_ne_true]
      exact ih (by omega) hstep

/-- The state in which the loop starts. -/
theorem loopInvariant_start {multiplicand multiplierWord : U64} {value multiplier : Int}
    (h : IsMultiplicand multiplicand value) (hmultiplier : IsMultiplicand multiplierWord multiplier)
    (accumulator : U64) {carry : U64}
    (hcarry : carry = if multiplierWord.getLsbD 0 then ~~~multiplicand else 0) :
    LoopInvariant value multiplier accumulator 0
      { csa := ⟨accumulator >>> 1, carry >>> 1⟩
        accShift := accumulator >>> 34
        partialSum := rotateRight128 ⟨accumulator &&& 1, 0⟩ 1
        partialCarry := rotateRight128 ⟨carry &&& 1, 0⟩ 1
        multiplier := multiplierWord
        iterations := 0 } := by
  have hone (x : U64) : (x &&& 1).toNat = x.toNat % 2 := by
    rw [BitVec.toNat_and]
    exact Nat.and_two_pow_sub_one_eq_mod x.toNat 1
  have hfirst (x : U64) :
      HoldsBits (rotateRight128 ⟨x &&& 1, 0⟩ 1) (1 + 8 * 0) (x.toNat % 2) := by
    have hlow : (x &&& 1) >>> 1 = 0#64 := by
      refine BitVec.eq_of_toNat_eq ?_
      rw [toNat_shiftRight, hone]
      simp
    have hhigh : ((x &&& 1) <<< (64 - 1)).toNat = (x &&& 1).toNat * 2 ^ 63 :=
      toNat_shiftLeft _ (by rw [hone]; omega)
    unfold rotateRight128
    constructor
    · dsimp only
      rw [hlow]
      rfl
    · dsimp only
      rw [BitVec.ofNat_eq_ofNat, BitVec.zero_ushiftRight, BitVec.zero_or, hhigh, hone]
    · omega
  have hlow := hmultiplier.low
  have hhigh := hmultiplier.high
  have hword := hmultiplier.word
  constructor
  · rfl
  · simp only [Nat.mul_zero, pow_zero, Int.ediv_one]
    exact ⟨by omega, fun _ => by omega, hlow, hhigh⟩
  · intro hpos
    exact absurd hpos (Nat.lt_irrefl 0)
  · exact toNat_shiftRight _ _
  · refine ⟨_, _, hfirst accumulator, hfirst carry, ?_⟩
    -- an odd multiplier makes the first Booth digit negative; the carry word is then
    -- the complement, 1 less than the negative, which `product` leaves to the end
    have hoddBit : multiplierWord.getLsbD 0 = decide (multiplier % 2 = 1) := by
      rw [← BitVec.testBit_toNat, Nat.testBit_zero]
      exact decide_eq_decide.mpr (by omega)
    have hvalueLow := h.low
    have hvalueHigh := h.high
    have hmultiplicand := h.word
    have houtput : ((accumulator >>> 1 &&& 0x1FFFFFFFF#64).toNat : Int) +
        2 ^ 33 * ((accumulator >>> 34).toNat : Int) = (accumulator.toNat / 2 : Nat) := by
      rw [toNat_and_mask33, toNat_shiftRight, toNat_shiftRight]
      omega
    unfold csaValue
    dsimp only
    simp only [Nat.mul_zero, pow_zero, Int.ediv_one, Nat.add_zero, pow_one]
    by_cases hodd : multiplier % 2 = 1
    · have hcarryWord : carry = ~~~multiplicand := by
        rw [hcarry, hoddBit, decide_eq_true hodd]
        rfl
      have hcomplement : carry.toNat = 2 ^ 64 - 1 - multiplicand.toNat := by
        rw [hcarryWord]
        exact BitVec.toNat_not
      have hbound := multiplicand.isLt
      have hsigned : signedValue 32 (carry >>> 1 &&& 0x1FFFFFFFF#64) = (-value - 1) / 2 := by
        refine signedValue_of_emod ?_ (by omega) (by omega)
        rw [toNat_and_mask33, toNat_shiftRight]
        omega
      have hhalf : roundedHalf multiplier = (multiplier + 1) / 2 := rfl
      have hproduct : 2 * (roundedHalf multiplier * value) = multiplier * value + value := by
        have hdouble : 2 * roundedHalf multiplier = multiplier + 1 := by omega
        linear_combination value * hdouble
      rw [hsigned]
      omega
    · have hcarryWord : carry = 0#64 := by
        rw [hcarry, hoddBit, decide_eq_false hodd]
        rfl
      have hsigned : signedValue 32 (carry >>> 1 &&& 0x1FFFFFFFF#64) = 0 := by
        rw [hcarryWord]
        rfl
      have hcarryZero : carry.toNat = 0 := by rw [hcarryWord]; rfl
      have hhalf : roundedHalf multiplier = (multiplier + 1) / 2 := rfl
      have hproduct : 2 * (roundedHalf multiplier * value) = multiplier * value := by
        have hdouble : 2 * roundedHalf multiplier = multiplier := by omega
        linear_combination value * hdouble
      rw [hsigned, hcarryZero]
      omega

end Loop

/-! ## The last addition -/

section LastAddition

theorem add32_value (left right : U64) (carryIn : Bool) :
    (add32 left right carryIn).output.toNat =
        (left.toNat % 2 ^ 32 + right.toNat % 2 ^ 32 + if carryIn then 1 else 0) % 2 ^ 32 ∧
      (add32 left right carryIn).carry =
        decide (2 ^ 32 ≤ left.toNat % 2 ^ 32 + right.toNat % 2 ^ 32 + if carryIn then 1 else 0) := by
  have hmask (x : U64) : (x &&& 0xFFFFFFFF#64).toNat = x.toNat % 2 ^ 32 := by
    rw [BitVec.toNat_and]
    exact Nat.and_two_pow_sub_one_eq_mod x.toNat 32
  have hbit : (if carryIn then 1 else 0 : U64).toNat = if carryIn then 1 else 0 := by
    cases carryIn <;> rfl
  have hsum : ((left &&& 0xFFFFFFFF#64) + (right &&& 0xFFFFFFFF#64) +
      if carryIn then 1 else 0 : U64).toNat =
      left.toNat % 2 ^ 32 + right.toNat % 2 ^ 32 + if carryIn then 1 else 0 := by
    rw [BitVec.toNat_add, BitVec.toNat_add, hmask, hmask, hbit]
    split <;> omega
  unfold add32
  dsimp only
  refine ⟨?_, decide_eq_decide.mpr ?_⟩
  · rw [BitVec.toNat_setWidth, hsum]
  · rw [BitVec.lt_def, hsum]
    exact Iff.rfl

theorem toNat_pair (high low : U32) :
    (high.setWidth 64 <<< 32 ||| low.setWidth 64 : U64).toNat = low.toNat + high.toNat * 2 ^ 32 := by
  have hlow : (low.setWidth 64 : U64).toNat = low.toNat := by
    rw [BitVec.toNat_setWidth]
    omega
  have hhigh : (high.setWidth 64 : U64).toNat = high.toNat := by
    rw [BitVec.toNat_setWidth]
    omega
  have hshift : (high.setWidth 64 <<< 32 : U64).toNat = high.toNat * 2 ^ 32 := by
    rw [toNat_shiftLeft _ (by omega), hhigh]
  rw [BitVec.or_comm, toNat_or_of_lt (k := 32), hlow, hshift]
  · omega
  · rw [hshift]
    exact Nat.mul_mod_left _ _

variable {pair : U128Pair} {passes bits : Nat}

/-- The correction after fewer than four passes. -/
theorem HoldsBits.correct (h : HoldsBits pair (1 + 8 * passes) bits) (hpos : 0 < passes)
    (hpasses : passes < 4) (word : U64) :
    (rotateRight128 { pair with lo := pair.lo ||| word } (31 - 8 * passes)).hi.toNat / 2 ^ 32 =
        bits + word.toNat % 2 ^ (31 - 8 * passes) * 2 ^ (1 + 8 * passes) ∧
      (rotateRight128 { pair with lo := pair.lo ||| word } (31 - 8 * passes)).lo.toNat =
        word.toNat / 2 ^ (31 - 8 * passes) := by
  obtain ⟨hlo, hhi, hsmall⟩ := h
  unfold rotateRight128
  rw [hlo]
  dsimp only
  simp only [BitVec.ofNat_eq_ofNat, BitVec.zero_or]
  have hlowHi : pair.hi <<< (64 - (31 - 8 * passes)) = 0#64 := by
    refine BitVec.eq_of_toNat_eq ?_
    rw [BitVec.toNat_shiftLeft, Nat.shiftLeft_eq, hhi]
    interval_cases passes <;> simp <;> omega
  have hwordShift : (word <<< (64 - (31 - 8 * passes))).toNat =
      word.toNat % 2 ^ (31 - 8 * passes) * 2 ^ (33 + 8 * passes) := by
    rw [BitVec.toNat_shiftLeft, Nat.shiftLeft_eq]
    interval_cases passes <;> simp <;> omega
  have hhiShift : (pair.hi >>> (31 - 8 * passes)).toNat = bits * 2 ^ 32 := by
    rw [toNat_shiftRight, hhi]
    interval_cases passes <;> simp <;> omega
  rw [hlowHi, BitVec.or_zero]
  refine ⟨?_, toNat_shiftRight _ _⟩
  rw [toNat_or_of_lt (k := 33 + 8 * passes), hhiShift, hwordShift]
  · clear hlowHi hwordShift hhiShift
    interval_cases passes <;> simp at hsmall ⊢ <;> omega
  · clear hlowHi hwordShift hhiShift
    interval_cases passes <;> simp at hsmall ⊢ <;> omega
  · rw [hwordShift]
    exact Nat.mul_mod_left _ _

/-- The correction after four passes, which leaves all of the product in one word. -/
theorem HoldsBits.correctFull (h : HoldsBits pair (1 + 8 * 4) bits) (word : U64) :
    (rotateRight128 { pair with lo := pair.lo ||| word } 31).hi.toNat =
      bits + word.toNat * 2 ^ 33 % 2 ^ 64 := by
  obtain ⟨hlo, hhi, hsmall⟩ := h
  have hwordShift : (word <<< (64 - 31)).toNat = word.toNat * 2 ^ 33 % 2 ^ 64 := by
    rw [BitVec.toNat_shiftLeft, Nat.shiftLeft_eq]
  have hhiShift : (pair.hi >>> 31).toNat = bits := by
    rw [toNat_shiftRight, hhi]
    omega
  unfold rotateRight128
  rw [hlo]
  dsimp only
  simp only [BitVec.ofNat_eq_ofNat, BitVec.zero_or]
  rw [toNat_or_of_lt (k := 33), hhiShift, hwordShift]
  · rw [hhiShift]
    exact hsmall
  · rw [hwordShift]
    omega

/-- The sign extension of the carries after fewer than four passes. -/
theorem signExtend64_carry (hpos : 0 < passes) (hpasses : passes < 4) (word : U64)
    (hword : word.toNat < 2 ^ (2 + 8 * passes)) :
    (signExtend64 word (2 + 8 * passes) 64).toNat =
      word.toNat + word.toNat / 2 ^ (1 + 8 * passes) * (2 ^ 64 - 2 ^ (2 + 8 * passes)) := by
  have hsign : word.getLsbD (2 + 8 * passes - 1) =
      decide (word.toNat / 2 ^ (1 + 8 * passes) % 2 = 1) := by
    have hindex : 2 + 8 * passes - 1 = 1 + 8 * passes := by omega
    rw [hindex, ← BitVec.testBit_toNat, Nat.testBit_eq_decide_div_mod_eq]
  have hmask : (mask64Range (2 + 8 * passes) 64).toNat = 2 ^ 64 - 2 ^ (2 + 8 * passes) := by
    interval_cases passes <;> rfl
  unfold signExtend64
  rw [if_pos (Nat.le_refl 64), hsign]
  by_cases hnegative : word.toNat / 2 ^ (1 + 8 * passes) % 2 = 1
  · rw [if_pos (decide_eq_true hnegative), toNat_or_of_lt _ _ hword, hmask]
    · interval_cases passes <;> simp at hword hnegative ⊢ <;> omega
    · rw [hmask]
      interval_cases passes <;> rfl
  · rw [if_neg (by simpa using hnegative)]
    interval_cases passes <;> simp at hword hnegative ⊢ <;> omega

end LastAddition

/-! ## The product -/

section Product

variable {value multiplier : Int} {accumulator : U64} {passes : Nat} {last : MultiplyLoop}

/-- What the array still holds is added to the bits that have left it. -/
theorem LoopInvariant.finish (hinv : LoopInvariant value multiplier accumulator passes last)
    (hpos : 0 < passes)
    (hrest : multiplier / 2 ^ (8 * passes) = 0 ∨ multiplier / 2 ^ (8 * passes) = -1) :
    ∃ sum carry : Nat,
      HoldsBits last.partialSum (1 + 8 * passes) sum ∧
        HoldsBits last.partialCarry (1 + 8 * passes) carry ∧
        accumulator.toNat + multiplier * value - multiplier % 2 =
          2 ^ (1 + 8 * passes) * (last.csa.output.toNat + (last.csa.carry.toNat -
            2 ^ 33 * (last.csa.carry.toNat / 2 ^ 32 : Nat)) + 2 ^ 33 * last.accShift.toNat) +
            sum + carry := by
  obtain ⟨sum, carry, hsum, hcarry, hproduct⟩ := hinv.product
  obtain ⟨-, houtputLt, hcarryLt⟩ := hinv.masked hpos
  refine ⟨sum, carry, hsum, hcarry, ?_⟩
  rw [hproduct, roundedHalf_of_signs hrest]
  unfold csaValue signedValue
  rw [toNat_and_mask33, toNat_and_mask33, Nat.mod_eq_of_lt houtputLt, Nat.mod_eq_of_lt hcarryLt,
    Int.zero_mul, Int.add_zero]

/-- The words that a sum is split into, with the carry between them. -/
theorem addPair_value (lowLeft lowRight highLeft highRight : U64) (carryIn : Bool) :
    ((add32 highLeft highRight (add32 lowLeft lowRight carryIn).carry).output.setWidth 64 <<< 32 |||
        (add32 lowLeft lowRight carryIn).output.setWidth 64 : U64).toNat =
      (lowLeft.toNat % 2 ^ 32 + lowRight.toNat % 2 ^ 32 + (if carryIn then 1 else 0) +
        (highLeft.toNat + highRight.toNat) * 2 ^ 32) % 2 ^ 64 := by
  obtain ⟨hlow, hcarry⟩ := add32_value lowLeft lowRight carryIn
  obtain ⟨hhigh, -⟩ := add32_value highLeft highRight (add32 lowLeft lowRight carryIn).carry
  have hcarryIn : (if carryIn then 1 else 0 : Nat) ≤ 1 := by split <;> omega
  rw [toNat_pair, hlow, hhigh, hcarry]
  generalize (if carryIn then 1 else 0 : Nat) = first at *
  by_cases hoverflow : 2 ^ 32 ≤ lowLeft.toNat % 2 ^ 32 + lowRight.toNat % 2 ^ 32 + first
  · rw [decide_eq_true hoverflow, if_pos rfl]
    omega
  · rw [decide_eq_false hoverflow, if_neg Bool.false_ne_true]
    omega

/-- The end of `arm7tdmi_multiply_long_output` after four passes. -/
theorem finishFull_value {sum carry : Nat} {pairSum pairCarry : U128Pair}
    (hsum : HoldsBits pairSum (1 + 8 * 4) sum) (hcarry : HoldsBits pairCarry (1 + 8 * 4) carry)
    (output carryWord accShift : U64) (carryIn : Bool) {hi lo : Adder32Output}
    (hlo : lo = add32 (rotateRight128 { pairSum with lo := pairSum.lo ||| output } 31).hi
      (rotateRight128 { pairCarry with lo := pairCarry.lo ||| carryWord } 31).hi carryIn)
    (hhi : hi = add32 ((rotateRight128 { pairSum with lo := pairSum.lo ||| output } 31).hi >>> 32)
      ((rotateRight128 { pairCarry with lo := pairCarry.lo ||| carryWord } 31).hi >>> 32)
      lo.carry) :
    ((hi.output.setWidth 64 <<< 32 ||| lo.output.setWidth 64 : U64).toNat : Int) =
      (2 ^ (1 + 8 * 4) * (output.toNat + (carryWord.toNat -
        2 ^ 33 * (carryWord.toNat / 2 ^ 32 : Nat)) + 2 ^ 33 * accShift.toNat) + sum + carry +
          (if carryIn then 1 else 0)) % 2 ^ 64 := by
  subst hhi hlo
  rw [addPair_value, toNat_shiftRight, toNat_shiftRight, hsum.correctFull, hcarry.correctFull]
  cases carryIn with
  | false =>
    simp only [Bool.false_eq_true, if_false]
    omega
  | true =>
    simp only [if_true]
    omega

/-- The end of `arm7tdmi_multiply_long_output` after fewer passes. -/
theorem finishEarly_value {sum carry : Nat} {pairSum pairCarry : U128Pair} (hpos : 0 < passes)
    (hpasses : passes < 4) (hsum : HoldsBits pairSum (1 + 8 * passes) sum)
    (hcarry : HoldsBits pairCarry (1 + 8 * passes) carry) {output carryWord : U64}
    (houtput : output.toNat < 2 ^ 33) (hcarryWord : carryWord.toNat < 2 ^ 33) (accShift : U64)
    (carryIn : Bool) {correctedSum correctedCarry : U128Pair} {hi lo : Adder32Output}
    (hcorrectedSum : correctedSum =
      rotateRight128 { pairSum with lo := pairSum.lo ||| output } (31 - 8 * passes))
    (hcorrectedCarry : correctedCarry =
      rotateRight128 { pairCarry with lo := pairCarry.lo ||| carryWord } (31 - 8 * passes))
    (hlo : lo = add32 (correctedSum.hi >>> 32) (correctedCarry.hi >>> 32) carryIn)
    (hhi : hi = add32 (correctedSum.lo ||| accShift <<< (2 + 8 * passes))
      (signExtend64 correctedCarry.lo (2 + 8 * passes) 64) lo.carry) :
    ((hi.output.setWidth 64 <<< 32 ||| lo.output.setWidth 64 : U64).toNat : Int) =
      (2 ^ (1 + 8 * passes) * (output.toNat + (carryWord.toNat -
        2 ^ 33 * (carryWord.toNat / 2 ^ 32 : Nat)) + 2 ^ 33 * accShift.toNat) + sum + carry +
          (if carryIn then 1 else 0)) % 2 ^ 64 := by
  subst hcorrectedSum hcorrectedCarry
  subst hhi hlo
  obtain ⟨hsumHi, hsumLo⟩ := hsum.correct hpos hpasses output
  obtain ⟨hcarryHi, hcarryLo⟩ := hcarry.correct hpos hpasses carryWord
  have hsumSmall := hsum.small
  have hcarrySmall := hcarry.small
  -- from here only the values of the rotated pairs matter
  generalize rotateRight128 { pairSum with lo := pairSum.lo ||| output } (31 - 8 * passes) =
    correctedSum at *
  generalize rotateRight128 { pairCarry with lo := pairCarry.lo ||| carryWord } (31 - 8 * passes) =
    correctedCarry at *
  have haccShift : (accShift <<< (2 + 8 * passes)).toNat =
      accShift.toNat * 2 ^ (2 + 8 * passes) % 2 ^ 64 := by
    rw [BitVec.toNat_shiftLeft, Nat.shiftLeft_eq]
  have hsumOr : (correctedSum.lo ||| accShift <<< (2 + 8 * passes)).toNat =
      output.toNat / 2 ^ (31 - 8 * passes) + accShift.toNat * 2 ^ (2 + 8 * passes) % 2 ^ 64 := by
    rw [toNat_or_of_lt (k := 2 + 8 * passes), hsumLo, haccShift]
    · rw [hsumLo]
      interval_cases passes <;> simp <;> omega
    · rw [haccShift]
      interval_cases passes <;> simp
  have hextended := signExtend64_carry hpos hpasses correctedCarry.lo (by
    rw [hcarryLo]
    -- one linear fact for each number of passes
    interval_cases passes <;> simp <;> omega)
  rw [addPair_value, toNat_shiftRight, toNat_shiftRight, hsumHi, hcarryHi, hsumOr, hextended,
    hcarryLo]
  have hcarryIn : (if carryIn then 1 else 0 : Int) = ((if carryIn then 1 else 0 : Nat) : Int) := by
    cases carryIn <;> rfl
  rw [hcarryIn]
  generalize (if carryIn then 1 else 0 : Nat) = first
  clear hextended hsumOr haccShift hsumHi hsumLo hcarryHi hcarryLo hsum hcarry
  interval_cases passes
  · simp only [Nat.reduceMul, Nat.reduceAdd, Nat.reduceSub, Nat.reducePow, Int.reducePow] at *
    omega
  · simp only [Nat.reduceMul, Nat.reduceAdd, Nat.reduceSub, Nat.reducePow, Int.reducePow] at *
    omega
  · simp only [Nat.reduceMul, Nat.reduceAdd, Nat.reduceSub, Nat.reducePow, Int.reducePow] at *
    omega

/-- An operand as the instruction reads it. -/
def operandNumber (signedMultiply : Bool) (operand : U32) : Int :=
  if signedMultiply then operand.toInt else operand.toNat

/-- The lambda `extend` of `arm7tdmi_multiply_long_output`. -/
def extendOperand (signedMultiply : Bool) (operand : U32) : U64 :=
  if signedMultiply then signExtend64 (operand.setWidth 64) 32 34
  else operand.setWidth 64 &&& 0x1FFFFFFFF#64

/-- The extension of an operand to 34 bits. -/
theorem extendOperand_isMultiplicand (signedMultiply : Bool) (operand : U32) :
    IsMultiplicand (extendOperand signedMultiply operand)
      (operandNumber signedMultiply operand) := by
  have hwidth : (operand.setWidth 64 : U64).toNat = operand.toNat := by
    rw [BitVec.toNat_setWidth]
    omega
  have hbound := operand.isLt
  unfold operandNumber extendOperand
  cases signedMultiply with
  | false =>
    simp only [Bool.false_eq_true, if_false]
    refine ⟨?_, by omega, by omega⟩
    rw [toNat_and_mask33, hwidth]
    omega
  | true =>
    simp only [if_true]
    have hsign : (operand.setWidth 64 : U64).getLsbD (32 - 1) =
        decide (operand.toNat / 2 ^ 31 % 2 = 1) := by
      rw [← BitVec.testBit_toNat, Nat.testBit_eq_decide_div_mod_eq, hwidth]
    have hmask (x : U64) : (x &&& mask64Range 0 34).toNat = x.toNat % 2 ^ 34 :=
      toNat_and_mask34 x
    have hrange : (mask64Range 32 34).toNat = 3 * 2 ^ 32 := rfl
    refine ⟨?_, ?_, ?_⟩
    · unfold signExtend64
      rw [if_neg (by decide), hsign, hmask, BitVec.toInt_eq_toNat_cond]
      by_cases hnegative : operand.toNat / 2 ^ 31 % 2 = 1
      · rw [if_pos (decide_eq_true hnegative), toNat_or_of_lt (k := 32), hwidth, hrange]
        · omega
        · omega
        · rw [hrange]
          exact Nat.mul_mod_left _ _
      · rw [if_neg (by simpa using hnegative), hwidth]
        omega
    · rw [BitVec.toInt_eq_toNat_cond]
      omega
    · rw [BitVec.toInt_eq_toNat_cond]
      omega

theorem operandNumber_odd (signedMultiply : Bool) (operand : U32) :
    operandNumber signedMultiply operand % 2 = if operand.getLsbD 0 then 1 else 0 := by
  have hbit : operand.getLsbD 0 = decide (operand.toNat % 2 = 1) := by
    rw [← BitVec.testBit_toNat, Nat.testBit_zero]
  rw [hbit]
  unfold operandNumber
  by_cases hodd : operand.toNat % 2 = 1
  · rw [decide_eq_true hodd, if_pos rfl, BitVec.toInt_eq_toNat_cond]
    split <;> omega
  · rw [decide_eq_false hodd, if_neg Bool.false_ne_true, BitVec.toInt_eq_toNat_cond]
    split <;> omega

/-- The end of `arm7tdmi_multiply_long_output`, after the loop. -/
def finishMultiply (last : MultiplyLoop) (aluCarryIn : Bool) : MultiplyHardwareOutput :=
  let correctionRor :=
    if last.iterations = 1 then 23 else if last.iterations = 2 then 15
    else if last.iterations = 3 then 7 else 31
  let partialSum := rotateRight128
    { last.partialSum with lo := last.partialSum.lo ||| last.csa.output } correctionRor
  let partialCarry := rotateRight128
    { last.partialCarry with lo := last.partialCarry.lo ||| last.csa.carry } correctionRor
  if last.iterations = 4 then
    let lo := add32 partialSum.hi partialCarry.hi aluCarryIn
    let hi := add32 (partialSum.hi >>> 32) (partialCarry.hi >>> 32) lo.carry
    ⟨hi.output.setWidth 64 <<< 32 ||| lo.output.setWidth 64, partialCarry.hi.getLsbD 63⟩
  else
    let lo := add32 (partialSum.hi >>> 32) (partialCarry.hi >>> 32) aluCarryIn
    let shiftAmount := 2 + 8 * last.iterations
    let carryLo := signExtend64 partialCarry.lo shiftAmount 64
    let sumLo := partialSum.lo ||| last.accShift <<< shiftAmount
    let hi := add32 sumLo carryLo lo.carry
    ⟨hi.output.setWidth 64 <<< 32 ||| lo.output.setWidth 64, partialCarry.hi.getLsbD 63⟩

/-- The locals of `arm7tdmi_multiply_long_output` before the loop. -/
def startMultiply (multiplicand multiplier accumulator : U64) : MultiplyLoop :=
  let carry : U64 := if multiplier.getLsbD 0 then ~~~multiplicand else 0
  { csa := ⟨accumulator >>> 1, carry >>> 1⟩
    accShift := accumulator >>> 34
    partialSum := rotateRight128 ⟨accumulator &&& 1, 0⟩ 1
    partialCarry := rotateRight128 ⟨carry &&& 1, 0⟩ 1
    multiplier := multiplier
    iterations := 0 }

theorem arm7tdmiMultiplyLongOutput_eq (signedMultiply : Bool) (rm rs : U32) (accumulator : U64) :
    arm7tdmiMultiplyLongOutput signedMultiply rm rs accumulator =
      finishMultiply
        (multiplyLoop (extendOperand signedMultiply rm) signedMultiply 4
          (startMultiply (extendOperand signedMultiply rm) (extendOperand signedMultiply rs)
            accumulator)) (rs.getLsbD 0) := rfl

/-- The last addition of a loop that has finished. -/
theorem LoopInvariant.finishMultiply_output
    (hinv : LoopInvariant value multiplier accumulator passes last) (hpos : 0 < passes)
    (hpasses : passes ≤ 4)
    (hrest : multiplier / 2 ^ (8 * passes) = 0 ∨ multiplier / 2 ^ (8 * passes) = -1)
    (aluCarryIn : Bool) (hcarryIn : multiplier % 2 = if aluCarryIn then 1 else 0) :
    ((finishMultiply last aluCarryIn).output.toNat : Int) =
      (accumulator.toNat + multiplier * value) % 2 ^ 64 := by
  obtain ⟨-, houtputLt, hcarryLt⟩ := hinv.masked hpos
  obtain ⟨sum, carry, hsum, hcarry, hproduct⟩ := hinv.finish hpos hrest
  rw [hcarryIn] at hproduct
  rw [← Int.sub_add_cancel (accumulator.toNat + multiplier * value)
    (if aluCarryIn then 1 else 0), hproduct]
  unfold finishMultiply
  dsimp only
  rw [hinv.iterations]
  by_cases hfour : passes = 4
  · subst hfour
    rw [if_pos rfl]
    exact finishFull_value hsum hcarry _ _ _ _ rfl rfl
  · rw [if_neg hfour]
    have hcorrection : (if passes = 1 then 23 else if passes = 2 then 15
        else if passes = 3 then 7 else 31) = 31 - 8 * passes := by
      have hless : passes < 4 := by omega
      interval_cases passes <;> rfl
    rw [hcorrection]
    exact finishEarly_value hpos (by omega) hsum hcarry houtputLt hcarryLt _ _ rfl rfl rfl rfl

/-- The output as a number. -/
theorem multiplyLongOutput_number (signedMultiply : Bool) (rm rs : U32) (accumulator : U64) :
    ((arm7tdmiMultiplyLongOutput signedMultiply rm rs accumulator).output.toNat : Int) =
      (accumulator.toNat + operandNumber signedMultiply rs * operandNumber signedMultiply rm) %
        2 ^ 64 := by
  have hrm := extendOperand_isMultiplicand signedMultiply rm
  have hrs := extendOperand_isMultiplicand signedMultiply rs
  obtain ⟨passes, hpos, hpasses, hinv, hrest⟩ :=
    multiplyLoop_invariant hrm hrs.low hrs.high signedMultiply (Nat.zero_add 4)
      (loopInvariant_start hrm hrs accumulator rfl)
  rw [arm7tdmiMultiplyLongOutput_eq]
  exact hinv.finishMultiply_output hpos hpasses hrest _ (operandNumber_odd signedMultiply rs)

/-- The multiplier array multiplies: its output is the product of the operands, read with or without
sign, and the accumulator. -/
theorem arm7tdmiMultiplyLongOutput_output (signedMultiply : Bool) (rm rs : U32)
    (accumulator : U64) :
    (arm7tdmiMultiplyLongOutput signedMultiply rm rs accumulator).output =
      (if signedMultiply then rm.signExtend 64 * rs.signExtend 64
        else rm.setWidth 64 * rs.setWidth 64) + accumulator := by
  have hnumber := multiplyLongOutput_number signedMultiply rm rs accumulator
  have hoperand (operand : U32) :
      (if signedMultiply then operand.signExtend 64 else operand.setWidth 64) =
        BitVec.ofInt 64 (operandNumber signedMultiply operand) := by
    unfold operandNumber
    cases signedMultiply with
    | true => rfl
    | false =>
      simp only [Bool.false_eq_true, if_false]
      rw [BitVec.ofInt_natCast, BitVec.ofNat_toNat]
  have hproduct : (if signedMultiply then rm.signExtend 64 * rs.signExtend 64
      else rm.setWidth 64 * rs.setWidth 64) =
      BitVec.ofInt 64 (operandNumber signedMultiply rs * operandNumber signedMultiply rm) := by
    rw [Int.mul_comm, BitVec.ofInt_mul, ← hoperand, ← hoperand]
    cases signedMultiply <;> rfl
  have haccumulator : accumulator = BitVec.ofInt 64 accumulator.toNat := by
    rw [BitVec.ofInt_natCast, BitVec.ofNat_toNat, BitVec.setWidth_eq]
  rw [hproduct, BitVec.add_comm]
  nth_rewrite 2 [haccumulator]
  rw [← BitVec.ofInt_add]
  refine BitVec.eq_of_toNat_eq ?_
  rw [BitVec.toNat_ofInt]
  omega

end Product

end Gba.Core
