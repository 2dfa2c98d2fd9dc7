import Gba.Core.Words

/-!
# The multiplier array

The carry-save array of `arm7tdmi.cpp`: `arm7tdmi_multiply_long_output`, whose carry-out becomes the
carry flag of a long multiplication that sets the flags.
-/

namespace Gba.Core

/-- `CarrySaveAdderOutput`. -/
structure CarrySaveAdderOutput where
  output : U64
  carry : U64

/-- `BoothRecodingOutput`. -/
structure BoothRecodingOutput where
  output : U64
  carry : Bool

/-- `U128Pair`. -/
structure U128Pair where
  lo : U64
  hi : U64

/-- `Adder32Output`. -/
structure Adder32Output where
  output : U32
  carry : Bool

/-- `MultiplyHardwareOutput`. -/
structure MultiplyHardwareOutput where
  output : U64
  carry : Bool

/-- `mask64_range`. -/
def mask64Range (low high : Nat) : U64 :=
  if high ≤ low then 0
  else if 64 ≤ high then if low = 0 then BitVec.allOnes 64 else BitVec.allOnes 64 <<< low
  else (1#64 <<< (high - low) - 1) <<< low

/-- `sign_extend64`. -/
def signExtend64 (value : U64) (fromBits toBits : Nat) : U64 :=
  let extended :=
    if value.getLsbD (fromBits - 1) then value ||| mask64Range fromBits toBits else value
  if 64 ≤ toBits then extended else extended &&& mask64Range 0 toBits

/-- `arithmetic_shift_right`. -/
def arithmeticShiftRight (value : U64) (shift width : Nat) : U64 :=
  (signExtend64 value width 64).sshiftRight shift &&& mask64Range 0 width

/-- `rotate_right_128`. -/
def rotateRight128 (value : U128Pair) (shift : Nat) : U128Pair :=
  ⟨value.lo >>> shift ||| value.hi <<< (64 - shift),
    value.hi >>> shift ||| value.lo <<< (64 - shift)⟩

/-- `add32`. -/
def add32 (left right : U64) (carryIn : Bool) : Adder32Output :=
  let sum := (left &&& 0xFFFFFFFF#64) + (right &&& 0xFFFFFFFF#64) + if carryIn then 1 else 0
  ⟨sum.setWidth 32, 0xFFFFFFFF#64 < sum⟩

/-- `booth_recode`. -/
def boothRecode (input : U64) (boothChunk : BitVec 3) : BoothRecodingOutput :=
  let recoded : BoothRecodingOutput :=
    match boothChunk.toNat with
    | 1 | 2 => ⟨input, false⟩
    | 3 => ⟨2 * input, false⟩
    | 4 => ⟨~~~(2 * input), true⟩
    | 5 | 6 => ⟨~~~input, true⟩
    | _ => ⟨0, false⟩
  { recoded with output := recoded.output &&& 0x3FFFFFFFF#64 }

/-- `carry_save_add`. -/
def carrySaveAdd (a b c : U64) : CarrySaveAdderOutput :=
  ⟨a ^^^ b ^^^ c, a &&& b ||| b &&& c ||| c &&& a⟩

/-- The locals of the loop in `multiply_csa_cycle`. -/
structure CsaCycle where
  csa : CarrySaveAdderOutput
  final : CarrySaveAdderOutput
  accShift : U64

/-- One pass of the loop in `multiply_csa_cycle`. -/
def csaPass (multiplicand multiplier : U64) (pass : Nat) (state : CsaCycle) : CsaCycle :=
  let output := state.csa.output &&& 0x1FFFFFFFF#64
  let carry := state.csa.carry &&& 0x1FFFFFFFF#64
  let addend := boothRecode multiplicand (multiplier.extractLsb' (2 * pass) 3)
  let added := carrySaveAdd output (addend.output &&& 0x1FFFFFFFF#64) carry
  let addedCarry := added.carry <<< 1 ||| if addend.carry then 1 else 0
  let signExtensionFix : U64 :=
    (if state.accShift.getLsbD 0 then 1 else 0) + (if carry.getLsbD 32 then 0 else 1) +
      if addend.output.getLsbD 33 then 0 else 1
  { csa :=
      ⟨added.output >>> 2 ||| signExtensionFix <<< 31,
        addedCarry >>> 2 ||| (if state.accShift.getLsbD 1 then 0 else 1) <<< 32⟩
    final :=
      ⟨state.final.output ||| (added.output &&& 0x3#64) <<< (2 * pass),
        state.final.carry ||| (addedCarry &&& 0x3#64) <<< (2 * pass)⟩
    accShift := state.accShift >>> 2 }

/-- `multiply_csa_cycle`, with the shifted accumulator that it leaves. -/
def multiplyCsaCycle (previous : CarrySaveAdderOutput) (multiplicand multiplier accShift : U64) :
    CarrySaveAdderOutput × U64 :=
  let last := (List.range 4).foldl (fun state pass => csaPass multiplicand multiplier pass state)
    ⟨previous, ⟨0, 0⟩, accShift⟩
  (⟨last.final.output ||| last.csa.output <<< 8, last.final.carry ||| last.csa.carry <<< 8⟩,
    last.accShift)

/-- `multiply_should_terminate`. -/
def multiplyShouldTerminate (multiplier : U64) (signedMultiply : Bool) : Bool :=
  multiplier = 0 || signedMultiply && multiplier = 0x1FFFFFFFF#64

/-- The locals of the loop in `arm7tdmi_multiply_long_output`. -/
structure MultiplyLoop where
  csa : CarrySaveAdderOutput
  accShift : U64
  partialSum : U128Pair
  partialCarry : U128Pair
  multiplier : U64
  iterations : Nat

/-- One pass of the loop. -/
def multiplyPass (multiplicand : U64) (state : MultiplyLoop) : MultiplyLoop :=
  let cycle := multiplyCsaCycle state.csa multiplicand state.multiplier state.accShift
  { csa := ⟨cycle.1.output >>> 8, cycle.1.carry >>> 8⟩
    accShift := cycle.2
    partialSum := rotateRight128
      { state.partialSum with lo := state.partialSum.lo ||| cycle.1.output &&& 0xFF#64 } 8
    partialCarry := rotateRight128
      { state.partialCarry with lo := state.partialCarry.lo ||| cycle.1.carry &&& 0xFF#64 } 8
    multiplier := arithmeticShiftRight state.multiplier 8 33
    iterations := state.iterations + 1 }

/-- The `do` loop, at most `fuel` further passes of it. Four passes shift all of a multiplier of 33
bits out. -/
def multiplyLoop (multiplicand : U64) (signedMultiply : Bool) : Nat → MultiplyLoop → MultiplyLoop
  | 0, state => state
  | fuel + 1, state =>
      let next := multiplyPass multiplicand state
      if multiplyShouldTerminate next.multiplier signedMultiply then next
      else multiplyLoop multiplicand signedMultiply fuel next

/-- `arm7tdmi_multiply_long_output`. -/
def arm7tdmiMultiplyLongOutput (signedMultiply : Bool) (rm rs : U32) (accumulator : U64) :
    MultiplyHardwareOutput :=
  let extend (value : U32) : U64 :=
    if signedMultiply then signExtend64 (value.setWidth 64) 32 34
    else value.setWidth 64 &&& 0x1FFFFFFFF#64
  let multiplier := extend rs
  let multiplicand := extend rm
  let aluCarryIn := rs.getLsbD 0
  let carry : U64 := if multiplier.getLsbD 0 then ~~~multiplicand else 0
  let last := multiplyLoop multiplicand signedMultiply 4
    { csa := ⟨accumulator >>> 1, carry >>> 1⟩
      accShift := accumulator >>> 34
      partialSum := rotateRight128 ⟨accumulator &&& 1, 0⟩ 1
      partialCarry := rotateRight128 ⟨carry &&& 1, 0⟩ 1
      multiplier := multiplier
      iterations := 0 }
  let correctionRor :=
    if last.iterations = 1 then 23 else if last.iterations = 2 then 15
    else if last.iterations = 3 then 7 else 31
  let partialSum := rotateRight128
    { last.partialSum with lo := last.partialSum.lo ||| last.csa.output } correctionRor
  let partialCarry := rotateRight128
    { last.partialCarry with lo := last.partialCarry.lo ||| last.csa.carry } correctionRor
  if last.iterations = 4 then
    let lo := add32 partialSum.hi partialCarry.hi aluCarryIn
    let hi := add32 (partialSum.hi >>> 32) (partialCarry.hi >>> 32) lo.carry
    ⟨hi.output.setWidth 64 <<< 32 ||| lo.output.setWidth 64, partialCarry.hi.getLsbD 63⟩
  else
    let lo := add32 (partialSum.hi >>> 32) (partialCarry.hi >>> 32) aluCarryIn
    let shiftAmount := 2 + 8 * last.iterations
    let carryLo := signExtend64 partialCarry.lo shiftAmount 64
    let sumLo := partialSum.lo ||| last.accShift <<< shiftAmount
    let hi := add32 sumLo carryLo lo.carry
    ⟨hi.output.setWidth 64 <<< 32 ||| lo.output.setWidth 64, partialCarry.hi.getLsbD 63⟩

end Gba.Core
