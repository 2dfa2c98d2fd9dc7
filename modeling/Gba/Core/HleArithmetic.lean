import Gba.Core.BiosController
import Mathlib.Data.Nat.Sqrt

/-!
# Arithmetic services of the emulated BIOS

The stateless services of `bios.cpp`: which services are emulated, division, square root, arctangent
and the affine matrices. Signed 32-bit integers of the source are bit vectors whose signed
operations wrap, as the helpers `wrap_*` of the source make them.
-/

namespace Gba.Core

/-- `BiosSwiSource`. -/
inductive BiosSwiSource where
  | arm | thumb
  deriving DecidableEq, Repr

/-- `BiosSwiCall`, of which only the service number is used. -/
structure BiosSwiCall where
  source : BiosSwiSource
  service : U8

namespace BiosHleConstants

def kIntrWaitReturnCycles : U32 := 57#32

def kVBlankIntrWaitReturnCycles : U32 := 515#32

def kHblankHaltReturnCycles : U32 := 83#32

end BiosHleConstants

/-- `kHleHandledGbaServices`. -/
def kHleHandledGbaServices : List U8 :=
  [0x01, 0x02, 0x04, 0x05, 0x06, 0x07, 0x08, 0x09, 0x0A, 0x0B, 0x0C, 0x0E, 0x0F, 0x10, 0x11, 0x12,
    0x13, 0x14, 0x15, 0x16, 0x17]

/-- `kAffineQuarterSine`. -/
def kAffineQuarterSine : List Nat :=
  [0, 402, 803, 1205, 1605, 2005, 2404, 2801,
    3196, 3589, 3980, 4369, 4756, 5139, 5519, 5896,
    6269, 6639, 7005, 7366, 7723, 8075, 8423, 8765,
    9102, 9434, 9759, 10079, 10393, 10701, 11002, 11297,
    11585, 11866, 12139, 12406, 12665, 12916, 13159, 13395,
    13622, 13842, 14053, 14255, 14449, 14634, 14810, 14978,
    15136, 15286, 15426, 15557, 15678, 15790, 15892, 15985,
    16069, 16142, 16206, 16260, 16305, 16339, 16364, 16379,
    16384]

namespace BiosController

/-! ## Calls -/

/-- `decode_arm_swi`. -/
def decodeArmSwi (instruction : U32) : BiosSwiCall := ⟨.arm, instruction.extractLsb' 16 8⟩

/-- `decode_thumb_swi`. -/
def decodeThumbSwi (instruction : U16) : BiosSwiCall := ⟨.thumb, instruction.extractLsb' 0 8⟩

/-- `known_gba_service`. -/
def knownGbaService (service : U8) : Bool := kHleHandledGbaServices.contains service

/-- `handle_swi` answers `handled`. -/
def handlesSwi (bios : BiosController) (call : BiosSwiCall) : Bool :=
  bios.mode = .hle && knownGbaService call.service

/-! ## Division and square root -/

/-- The one quotient that does not fit. -/
def divOverflows (numerator denominator : U32) : Bool :=
  denominator = BitVec.allOnes 32 && numerator = BitVec.intMin 32

/-- `hle_div_quotient`. -/
def hleDivQuotient (numerator denominator : U32) : U32 :=
  if denominator = 0 then if numerator.msb then BitVec.allOnes 32 else 1
  else if divOverflows numerator denominator then BitVec.intMin 32
  else numerator.sdiv denominator

/-- `hle_div_remainder`. -/
def hleDivRemainder (numerator denominator : U32) : U32 :=
  if denominator = 0 then numerator
  else if divOverflows numerator denominator then 0
  else numerator.srem denominator

/-- `hle_div_abs_scratch`. -/
def hleDivAbsScratch (numerator denominator : U32) : U32 :=
  if denominator = 0 then 1
  else if divOverflows numerator denominator then BitVec.intMin 32
  else (numerator.sdiv denominator).abs

/-- `hle_div_base_cycles`. -/
def hleDivBaseCycles (numerator denominator : U32) : U32 :=
  if denominator = 0 ∨ divOverflows numerator denominator then 330
  else if numerator.toInt.natAbs < denominator.toInt.natAbs then 70
  else 330

/-- `hle_sqrt`: a 32-bit integer has an exact `double`, and so has the integer part of its root. -/
def hleSqrt (input : U32) : U32 := BitVec.ofNat 32 input.toNat.sqrt

/-- `hle_sqrt_base_cycles`. -/
def hleSqrtBaseCycles (value : U32) : U32 :=
  if value = 0 then 99 else if value ≤ 0xFF#32 then 214 else 1130

/-! ## Arctangent -/

/-- The coefficients of the polynomial in `hle_arc_tan` after the first. -/
def kArcTanCoefficients : List U32 := [0x390, 0x91C, 0xFB6, 0x16AA, 0x2081, 0x3651, 0xA2F9]

/-- The result of `hle_arc_tan` with its scratch registers `r1` and `r3`. -/
structure ArcTanResult where
  angle : U32
  scratchR1 : U32
  scratchR3 : U32

/-- `hle_arc_tan`. -/
def hleArcTan (value : U32) : ArcTanResult :=
  let polynomial := -(value * value).sshiftRight 14
  let factor := kArcTanCoefficients.foldl
    (fun factor coefficient => (factor * polynomial).sshiftRight 14 + coefficient) 0xA9#32
  ⟨(((value * factor).sshiftRight 16).setWidth 16).signExtend 32, polynomial, factor⟩

/-- An angle beside the value that `scratch_r1` is left with. -/
def arcTanOf (numerator denominator : U32) (angle : U32 → U32) : U32 × U32 :=
  let result := hleArcTan ((numerator <<< 14).sdiv denominator)
  (angle result.angle, result.scratchR1)

/-- `hle_arc_tan2`: the angle, and `scratch_r1`, which is kept where no polynomial is used. -/
def hleArcTan2 (x y scratchR1 : U32) : U32 × U32 :=
  let wideX := x.toInt
  let wideY := y.toInt
  let shallow (offset : U32) := arcTanOf y x fun angle => angle + offset
  let steep (offset : U32) := arcTanOf x y fun angle => offset - angle
  if y = 0 then (if 0 ≤ wideX then 0 else 0x8000#32, scratchR1)
  else if x = 0 then (if 0 ≤ wideY then 0x4000#32 else 0xC000#32, scratchR1)
  else if 0 ≤ wideY then
    if 0 ≤ wideX then if wideY ≤ wideX then shallow 0 else steep 0x4000#32
    else if wideY ≤ -wideX then shallow 0x8000#32
    else steep 0x4000#32
  else if wideX ≤ 0 then if -wideY < -wideX then shallow 0x8000#32 else steep 0xC000#32
  else if -wideY ≤ wideX then shallow 0x10000#32
  else steep 0xC000#32

/-! ## Affine matrices -/

/-- `affine_sine`. -/
def affineSine (angle : U8) : U32 :=
  let offset := (angle &&& 0x3F#8).toNat
  let value : U32 :=
    BitVec.ofNat 32 (kAffineQuarterSine.getD (if angle.getLsbD 6 then 64 - offset else offset) 0)
  if angle.msb then -value else value

/-- `WideAffineMatrix`. -/
structure WideAffineMatrix where
  pa : U32
  pb : U32
  pc : U32
  pd : U32

/-- `hle_affine_matrix_wide`. The narrow matrix of `hle_affine_matrix` is its low halves. -/
def hleAffineMatrixWide (scaleX scaleY rotation : U16) : WideAffineMatrix :=
  let angle : U8 := (rotation >>> 8).setWidth 8
  let sine := affineSine angle
  let cosine := affineSine (angle + 64)
  let scaled (scale : U16) (factor : U32) : U32 := (scale.signExtend 32 * factor).sshiftRight 14
  -- `pb` is negated after the shift, which rounds the other way than negating the product
  ⟨scaled scaleX cosine, -scaled scaleX sine, scaled scaleY sine, scaled scaleY cosine⟩

end BiosController

end Gba.Core
