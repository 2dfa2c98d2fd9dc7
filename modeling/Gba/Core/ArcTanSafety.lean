import Gba.Core.HleArithmetic
import Gba.Library.SignedWords
import Mathlib.Algebra.Order.BigOperators.Group.List

/-!
# The arctangent is defined everywhere

`hle_arc_tan2` and the polynomial it calls, with the signed operations of the source left undefined
where their exact results do not fit. Dividing the smaller coordinate by the larger keeps the
argument of the polynomial inside a quarter turn, and the polynomial of such an argument small.
-/

namespace Gba.Core

open SignedWords

namespace BiosController

/-! ## The source with its undefined operations -/

/-- A step of the polynomial of `hle_arc_tan`. -/
def arcTanFactorChecked (polynomial factor coefficient : U32) : Option U32 := do
  let product ← mul factor polynomial
  add (product.sshiftRight 14) coefficient

/-- `hle_arc_tan`; the products are those of `wrap_mul_i32`, which need not be defined. -/
def hleArcTanChecked (value : U32) : Option ArcTanResult := do
  let square ← mul value value
  let polynomial ← neg (square.sshiftRight 14)
  let factor ← kArcTanCoefficients.foldlM (arcTanFactorChecked polynomial) 0xA9#32
  let product ← mul value factor
  return ⟨((product.sshiftRight 16).setWidth 16).signExtend 32, polynomial, factor⟩

/-- The polynomial of a quotient, and the sum with its angle. -/
def arcTanOfChecked (numerator denominator : U32) (angle : U32 → Option U32) :
    Option (U32 × U32) := do
  let quotient ← div (numerator <<< 14) denominator
  let result ← hleArcTanChecked quotient
  let sum ← angle result.angle
  return (sum, result.scratchR1)

/-- `hle_arc_tan2`. The coordinates are compared as 64-bit integers, and negated as such. -/
def hleArcTan2Checked (x y scratchR1 : U32) : Option (U32 × U32) :=
  let wideX : U64 := x.signExtend 64
  let wideY : U64 := y.signExtend 64
  let shallow (offset : U32) := arcTanOfChecked y x fun angle => add angle offset
  let steep (offset : U32) := arcTanOfChecked x y fun angle => sub offset angle
  if y = 0 then some (if 0 ≤ x.toInt then 0 else 0x8000#32, scratchR1)
  else if x = 0 then some (if 0 ≤ y.toInt then 0x4000#32 else 0xC000#32, scratchR1)
  else if 0 ≤ y.toInt then
    if 0 ≤ x.toInt then
      if y.toInt ≤ x.toInt then arcTanOfChecked y x some else steep 0x4000#32
    else do
      let negX ← neg wideX
      if wideY.toInt ≤ negX.toInt then shallow 0x8000#32 else steep 0x4000#32
  else if x.toInt ≤ 0 then do
    let negX ← neg wideX
    let negY ← neg wideY
    if negY.toInt < negX.toInt then shallow 0x8000#32 else steep 0xC000#32
  else do
    let negY ← neg wideY
    if negY.toInt ≤ wideX.toInt then shallow 0x10000#32 else steep 0xC000#32

/-! ## The polynomial -/

/-- A number between -2^14 and 2^14, as the quotient of the smaller coordinate by the larger is. -/
def InQuarter (value : U32) : Prop := -2 ^ 14 ≤ value.toInt ∧ value.toInt ≤ 2 ^ 14

theorem toInt_sshiftRight_14 (value : U32) : (value.sshiftRight 14).toInt = value.toInt / 2 ^ 14 := by
  rw [BitVec.toInt_sshiftRight, Int.shiftRight_eq_div_pow]
  rfl

/-- A step of the polynomial adds at most the coefficient to the magnitude of the factor. -/
theorem arcTanFactorChecked_eq {polynomial factor coefficient : U32} {bound : Int}
    (hpolynomial : -2 ^ 14 ≤ polynomial.toInt ∧ polynomial.toInt ≤ 0)
    (hfactor : -bound ≤ factor.toInt ∧ factor.toInt ≤ bound)
    (hcoefficient : 0 ≤ coefficient.toInt)
    (hbound : bound + coefficient.toInt < 2 ^ 17) :
    arcTanFactorChecked polynomial factor coefficient =
        some ((factor * polynomial).sshiftRight 14 + coefficient) ∧
      -(bound + coefficient.toInt) ≤
        ((factor * polynomial).sshiftRight 14 + coefficient).toInt ∧
      ((factor * polynomial).sshiftRight 14 + coefficient).toInt ≤ bound + coefficient.toInt := by
  have hproduct : -(bound * 2 ^ 14) ≤ factor.toInt * polynomial.toInt ∧
      factor.toInt * polynomial.toInt ≤ bound * 2 ^ 14 := by
    constructor <;> nlinarith [hpolynomial.1, hpolynomial.2, hfactor.1, hfactor.2]
  have hfits : Fits 32 (factor.toInt * polynomial.toInt) := by
    rw [fits_32]
    omega
  have hshifted : ((factor * polynomial).sshiftRight 14).toInt =
      factor.toInt * polynomial.toInt / 2 ^ 14 := by
    rw [toInt_sshiftRight_14, toInt_mul_of_fits (by decide) hfits]
  have hmul := mul_of_fits hfits
  generalize factor.toInt * polynomial.toInt = product at *
  have hquotient : -bound ≤ product / 2 ^ 14 ∧ product / 2 ^ 14 ≤ bound := by omega
  have hsum : Fits 32 (((factor * polynomial).sshiftRight 14).toInt + coefficient.toInt) := by
    rw [fits_32, hshifted]
    omega
  unfold arcTanFactorChecked
  rw [hmul, toInt_add_of_fits (by decide) hsum, hshifted]
  exact ⟨add_of_fits hsum, by omega, by omega⟩

/-- The steps of the polynomial over some coefficients. -/
theorem arcTanFactors_eq {polynomial : U32}
    (hpolynomial : -2 ^ 14 ≤ polynomial.toInt ∧ polynomial.toInt ≤ 0) (coefficients : List U32)
    {factor : U32} {bound : Int} (hfactor : -bound ≤ factor.toInt ∧ factor.toInt ≤ bound)
    (hcoefficients : ∀ coefficient ∈ coefficients, 0 ≤ coefficient.toInt)
    (hbound : bound + (coefficients.map BitVec.toInt).sum < 2 ^ 17) :
    coefficients.foldlM (arcTanFactorChecked polynomial) factor =
        some (coefficients.foldl
          (fun factor coefficient => (factor * polynomial).sshiftRight 14 + coefficient) factor) ∧
      -(bound + (coefficients.map BitVec.toInt).sum) ≤ (coefficients.foldl
        (fun factor coefficient => (factor * polynomial).sshiftRight 14 + coefficient)
        factor).toInt ∧
      (coefficients.foldl
        (fun factor coefficient => (factor * polynomial).sshiftRight 14 + coefficient)
        factor).toInt ≤ bound + (coefficients.map BitVec.toInt).sum := by
  induction coefficients generalizing factor bound with
  | nil => exact ⟨rfl, by simpa using hfactor.1, by simpa using hfactor.2⟩
  | cons coefficient rest ih =>
    have hhead := hcoefficients coefficient List.mem_cons_self
    have hrest : ∀ other ∈ rest, 0 ≤ other.toInt := fun other hother =>
      hcoefficients other (List.mem_cons_of_mem _ hother)
    have hsum : 0 ≤ (rest.map BitVec.toInt).sum := by
      refine List.sum_nonneg fun value hvalue => ?_
      obtain ⟨other, hother, rfl⟩ := List.mem_map.mp hvalue
      exact hrest other hother
    rw [List.map_cons, List.sum_cons, ← Int.add_assoc] at hbound ⊢
    obtain ⟨hstep, hlow, hhigh⟩ :=
      arcTanFactorChecked_eq hpolynomial hfactor hhead (by omega)
    obtain ⟨hloop, hends⟩ := ih ⟨hlow, hhigh⟩ hrest hbound
    refine ⟨?_, hends⟩
    rw [List.foldlM_cons, hstep]
    exact hloop

/-- The polynomial of a quarter is defined. -/
theorem hleArcTanChecked_eq {value : U32} (h : InQuarter value) :
    hleArcTanChecked value = some (hleArcTan value) := by
  obtain ⟨hlow, hhigh⟩ := h
  have hsquare : 0 ≤ value.toInt * value.toInt ∧ value.toInt * value.toInt ≤ 2 ^ 28 := by
    constructor <;> nlinarith
  have hfits : Fits 32 (value.toInt * value.toInt) := by
    rw [fits_32]
    omega
  have hshifted : ((value * value).sshiftRight 14).toInt = value.toInt * value.toInt / 2 ^ 14 := by
    rw [toInt_sshiftRight_14, toInt_mul_of_fits (by decide) hfits]
  have hneg : Fits 32 (-((value * value).sshiftRight 14).toInt) := by
    rw [fits_32, hshifted]
    omega
  have hpolynomial : -2 ^ 14 ≤ (-(value * value).sshiftRight 14).toInt ∧
      (-(value * value).sshiftRight 14).toInt ≤ 0 := by
    rw [toInt_neg_of_fits (by decide) hneg, hshifted]
    omega
  have hsum : (kArcTanCoefficients.map BitVec.toInt).sum = 77015 := by decide
  have hfirst : (0xA9#32).toInt = 169 := by decide
  have hpositive : kArcTanCoefficients.all (fun coefficient => 0 ≤ coefficient.toInt) = true := by
    decide
  have hcoefficients : ∀ coefficient ∈ kArcTanCoefficients, 0 ≤ coefficient.toInt :=
    fun coefficient hmem => of_decide_eq_true (List.all_eq_true.mp hpositive coefficient hmem)
  obtain ⟨hfactors, hfactorLow, hfactorHigh⟩ :=
    @arcTanFactors_eq _ hpolynomial kArcTanCoefficients 0xA9#32 169 (by omega) hcoefficients
      (by omega)
  rw [hsum] at hfactorLow hfactorHigh
  unfold hleArcTanChecked hleArcTan
  simp only [mul_of_fits hfits, neg_of_fits hneg, hfactors, Option.bind_eq_bind, Option.bind_some]
  generalize kArcTanCoefficients.foldl _ _ = factor at hfactorLow hfactorHigh
  have hproduct : Fits 32 (value.toInt * factor.toInt) := by
    rw [fits_32]
    constructor <;> nlinarith
  rw [mul_of_fits hproduct]
  rfl

/-! ## The quotient -/

/-- The quotient of a coordinate by one that is not smaller: the shift wraps only where the divisor
is too large to leave more than a quarter. -/
theorem quotient_inQuarter {numerator denominator : U32} (hdenominator : denominator ≠ 0)
    (h : numerator.toInt.natAbs ≤ denominator.toInt.natAbs) :
    div (numerator <<< 14) denominator = some ((numerator <<< 14).sdiv denominator) ∧
      InQuarter ((numerator <<< 14).sdiv denominator) := by
  have hshifted : (numerator <<< 14).toInt.natAbs ≤ 2 ^ 14 * denominator.toInt.natAbs := by
    by_cases hwide : 2 ^ 17 ≤ denominator.toInt.natAbs
    · have hlow := (numerator <<< 14).le_toInt
      have hhigh := (numerator <<< 14).toInt_lt
      omega
    · have hfactor : (16384#32).toInt = 16384 := by decide
      have hfits : Fits 32 (numerator.toInt * (16384#32).toInt) := by
        rw [fits_32, hfactor]
        omega
      have hproduct : numerator <<< 14 = numerator * 16384#32 :=
        BitVec.shiftLeft_eq_mul_twoPow numerator 14
      rw [hproduct, toInt_mul_of_fits (by decide) hfits, hfactor]
      omega
  have hquotient : ((numerator <<< 14).toInt.tdiv denominator.toInt).natAbs ≤ 2 ^ 14 := by
    rw [Int.natAbs_tdiv]
    refine Nat.div_le_of_le_mul ?_
    rw [Nat.mul_comm]
    exact hshifted
  have hfits : Fits 32 ((numerator <<< 14).toInt.tdiv denominator.toInt) := by
    rw [fits_32]
    omega
  refine ⟨div_of_fits hdenominator hfits, ?_⟩
  unfold InQuarter
  rw [toInt_sdiv_of_fits (by decide) hfits]
  omega

/-! ## Both coordinates -/

/-- The polynomial of a quotient is defined, and so is a sum that all angles of 16 bits have. -/
theorem arcTanOfChecked_eq {numerator denominator : U32} {angle : U32 → Option U32}
    {sum : U32 → U32} (hdenominator : denominator ≠ 0)
    (h : numerator.toInt.natAbs ≤ denominator.toInt.natAbs)
    (hangle : ∀ value : U16, angle (value.signExtend 32) = some (sum (value.signExtend 32))) :
    arcTanOfChecked numerator denominator angle = some (arcTanOf numerator denominator sum) := by
  obtain ⟨hdiv, hquarter⟩ := quotient_inQuarter hdenominator h
  unfold arcTanOfChecked arcTanOf
  rw [hdiv, Option.bind_eq_bind, Option.bind_some, hleArcTanChecked_eq hquarter]
  show (angle (hleArcTan _).angle).bind _ = _
  unfold hleArcTan
  dsimp only
  rw [hangle]
  rfl

theorem toInt_angle (value : U16) :
    -2 ^ 15 ≤ (value.signExtend 32).toInt ∧ (value.signExtend 32).toInt < 2 ^ 15 := by
  rw [BitVec.toInt_signExtend_of_le (by decide)]
  exact ⟨value.le_toInt, value.toInt_lt⟩

theorem neg_wide (value : U32) :
    neg (value.signExtend 64) = some (-(value.signExtend 64)) ∧
      (-(value.signExtend 64)).toInt = -value.toInt := by
  have hwide : (value.signExtend 64).toInt = value.toInt :=
    BitVec.toInt_signExtend_of_le (by decide)
  have hfits : Fits 64 (-(value.signExtend 64).toInt) := by
    have hlow := value.le_toInt
    have hhigh := value.toInt_lt
    rw [fits_64, hwide]
    omega
  exact ⟨neg_of_fits hfits, by rw [toInt_neg_of_fits (by decide) hfits, hwide]⟩

/-- `hle_arc_tan2` is defined for all coordinates: no signed operation in it or in its polynomial
has a result that does not fit, and no division is by zero. -/
theorem hleArcTan2Checked_eq (x y scratchR1 : U32) :
    hleArcTan2Checked x y scratchR1 = some (hleArcTan2 x y scratchR1) := by
  have hwideX : (x.signExtend 64).toInt = x.toInt := BitVec.toInt_signExtend_of_le (by decide)
  have hwideY : (y.signExtend 64).toInt = y.toInt := BitVec.toInt_signExtend_of_le (by decide)
  obtain ⟨hnegX, hnegX'⟩ := neg_wide x
  obtain ⟨hnegY, hnegY'⟩ := neg_wide y
  have hshallow : ∀ offset : U32, 0 ≤ offset.toInt → offset.toInt ≤ 2 ^ 16 → x ≠ 0 →
      y.toInt.natAbs ≤ x.toInt.natAbs →
      (arcTanOfChecked y x fun angle => add angle offset) =
        some (arcTanOf y x fun angle => angle + offset) := by
    intro offset hlow hhigh hx hle
    refine arcTanOfChecked_eq hx hle fun value => add_of_fits ?_
    have hangle := toInt_angle value
    rw [fits_32]
    omega
  have hsteep : ∀ offset : U32, 0 ≤ offset.toInt → offset.toInt ≤ 2 ^ 16 → y ≠ 0 →
      x.toInt.natAbs ≤ y.toInt.natAbs →
      (arcTanOfChecked x y fun angle => sub offset angle) =
        some (arcTanOf x y fun angle => offset - angle) := by
    intro offset hlow hhigh hy hle
    refine arcTanOfChecked_eq hy hle fun value => sub_of_fits ?_
    have hangle := toInt_angle value
    rw [fits_32]
    omega
  unfold hleArcTan2Checked hleArcTan2
  dsimp only
  rw [hnegX, hnegY, hwideX, hwideY]
  simp only [Option.bind_eq_bind, Option.bind_some, hnegX', hnegY']
  by_cases hy : y = 0
  · rw [if_pos hy, if_pos hy]
  rw [if_neg hy, if_neg hy]
  by_cases hx : x = 0
  · rw [if_pos hx, if_pos hx]
  rw [if_neg hx, if_neg hx]
  -- the divisor of every branch is the coordinate that is not the smaller one
  split_ifs
  · have hzero : ∀ value : U32, value + 0 = value := fun value => BitVec.add_zero value
    exact arcTanOfChecked_eq hx (by omega) fun value => by rw [hzero]
  · exact hsteep _ (by decide) (by decide) hy (by omega)
  · exact hshallow _ (by decide) (by decide) hx (by omega)
  · exact hsteep _ (by decide) (by decide) hy (by omega)
  · exact hshallow _ (by decide) (by decide) hx (by omega)
  · exact hsteep _ (by decide) (by decide) hy (by omega)
  · exact hshallow _ (by decide) (by decide) hx (by omega)
  · exact hsteep _ (by decide) (by decide) hy (by omega)

end BiosController

end Gba.Core
