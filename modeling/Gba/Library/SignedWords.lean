import Mathlib.Tactic.Linarith
import Mathlib.Tactic.NormNum

/-!
# Signed words

Signed arithmetic on words of `w` bits in a language that leaves a result undefined when the word
cannot hold it. Such an operation gives a word exactly when the exact result fits, and is then the
operation that wraps.
-/

namespace SignedWords

variable {w : Nat}

/-- A number that `w` bits hold as a signed one. -/
def Fits (w : Nat) (value : Int) : Prop := -2 ^ (w - 1) ≤ value ∧ value < 2 ^ (w - 1)

instance fits_decidable (w : Nat) (value : Int) : Decidable (Fits w value) := by
  unfold Fits
  infer_instance

theorem fits_32 {value : Int} : Fits 32 value ↔ -2147483648 ≤ value ∧ value < 2147483648 := by
  unfold Fits
  norm_num

theorem fits_64 {value : Int} :
    Fits 64 value ↔ -9223372036854775808 ≤ value ∧ value < 9223372036854775808 := by
  unfold Fits
  norm_num

/-! ## Operations that may be undefined -/

/-- The word of an exact result. -/
def exact (w : Nat) (value : Int) : Option (BitVec w) :=
  if Fits w value then some (BitVec.ofInt w value) else none

/-- Signed addition. -/
def add (x y : BitVec w) : Option (BitVec w) := exact w (x.toInt + y.toInt)

/-- Signed subtraction. -/
def sub (x y : BitVec w) : Option (BitVec w) := exact w (x.toInt - y.toInt)

/-- Signed negation. -/
def neg (x : BitVec w) : Option (BitVec w) := exact w (-x.toInt)

/-- Signed multiplication. -/
def mul (x y : BitVec w) : Option (BitVec w) := exact w (x.toInt * y.toInt)

/-- Signed division, which rounds towards zero; there is none by zero. -/
def div (x y : BitVec w) : Option (BitVec w) :=
  if y = 0 then none else exact w (x.toInt.tdiv y.toInt)

/-! ## Operations that are defined -/

theorem exact_of_fits {value : Int} (h : Fits w value) :
    exact w value = some (BitVec.ofInt w value) := if_pos h

theorem ofInt_sub (x y : BitVec w) : BitVec.ofInt w (x.toInt - y.toInt) = x - y := by
  rw [Int.sub_eq_add_neg, BitVec.ofInt_add, BitVec.ofInt_neg, BitVec.ofInt_toInt,
    BitVec.ofInt_toInt, BitVec.sub_eq_add_neg]

theorem add_of_fits {x y : BitVec w} (h : Fits w (x.toInt + y.toInt)) : add x y = some (x + y) := by
  unfold add
  rw [exact_of_fits h, BitVec.ofInt_add, BitVec.ofInt_toInt, BitVec.ofInt_toInt]

theorem sub_of_fits {x y : BitVec w} (h : Fits w (x.toInt - y.toInt)) : sub x y = some (x - y) := by
  unfold sub
  rw [exact_of_fits h, ofInt_sub]

theorem neg_of_fits {x : BitVec w} (h : Fits w (-x.toInt)) : neg x = some (-x) := by
  unfold neg
  rw [exact_of_fits h, BitVec.ofInt_neg, BitVec.ofInt_toInt]

theorem mul_of_fits {x y : BitVec w} (h : Fits w (x.toInt * y.toInt)) : mul x y = some (x * y) := by
  unfold mul
  rw [exact_of_fits h, BitVec.ofInt_mul, BitVec.ofInt_toInt, BitVec.ofInt_toInt]

theorem div_of_fits {x y : BitVec w} (hy : y ≠ 0) (h : Fits w (x.toInt.tdiv y.toInt)) :
    div x y = some (x.sdiv y) := by
  unfold div
  rw [if_neg hy, exact_of_fits h]
  refine congrArg some (BitVec.eq_of_toInt_eq ?_)
  rw [BitVec.toInt_ofInt, BitVec.toInt_sdiv]

/-! ## The numbers of the results -/

theorem toInt_ofInt_of_fits (hw : 0 < w) {value : Int} (h : Fits w value) :
    (BitVec.ofInt w value).toInt = value :=
  BitVec.toInt_ofInt_eq_self hw h.1 h.2

theorem toInt_add_of_fits (hw : 0 < w) {x y : BitVec w} (h : Fits w (x.toInt + y.toInt)) :
    (x + y).toInt = x.toInt + y.toInt := by
  rw [← toInt_ofInt_of_fits hw h, BitVec.ofInt_add, BitVec.ofInt_toInt, BitVec.ofInt_toInt]

theorem toInt_neg_of_fits (hw : 0 < w) {x : BitVec w} (h : Fits w (-x.toInt)) :
    (-x).toInt = -x.toInt := by
  rw [← toInt_ofInt_of_fits hw h, BitVec.ofInt_neg, BitVec.ofInt_toInt]

theorem toInt_mul_of_fits (hw : 0 < w) {x y : BitVec w} (h : Fits w (x.toInt * y.toInt)) :
    (x * y).toInt = x.toInt * y.toInt := by
  rw [← toInt_ofInt_of_fits hw h, BitVec.ofInt_mul, BitVec.ofInt_toInt, BitVec.ofInt_toInt]

theorem toInt_sdiv_of_fits (hw : 0 < w) {x y : BitVec w} (h : Fits w (x.toInt.tdiv y.toInt)) :
    (x.sdiv y).toInt = x.toInt.tdiv y.toInt := by
  rw [BitVec.toInt_sdiv, ← BitVec.toInt_ofInt, toInt_ofInt_of_fits hw h]

end SignedWords
