import Mathlib.Data.BitVec
import Mathlib.Tactic.Common

/-!
# Machine words

The fixed-width integers of the core. Unsigned integers of the source are bit vectors of the same
width, so that `+`, `-` and `*` wrap exactly as in the source; `std::array` members are functions
from an index type, so that an index out of range cannot be written.
-/

namespace Gba.Core

/-- `std::uint8_t`. -/
abbrev U8 := BitVec 8

/-- `std::uint16_t`. -/
abbrev U16 := BitVec 16

/-- `std::uint32_t`. -/
abbrev U32 := BitVec 32

/-- `std::uint64_t`. -/
abbrev U64 := BitVec 64

/-- Timers, DMA channels and sound channels come in fours; their indices are literals. -/
instance neZero_two : NeZero (2 : Nat) := ⟨Nat.succ_ne_zero 1⟩

instance neZero_three : NeZero (3 : Nat) := ⟨Nat.succ_ne_zero 2⟩

instance neZero_four : NeZero (4 : Nat) := ⟨Nat.succ_ne_zero 3⟩

instance neZero_sixteen : NeZero (16 : Nat) := ⟨Nat.succ_ne_zero 15⟩

instance neZero_fifo : NeZero (32 : Nat) := ⟨Nat.succ_ne_zero 31⟩

instance neZero_audioBuffer : NeZero (2048 : Nat) := ⟨Nat.succ_ne_zero 2047⟩

/-- Some bit of `mask` is set in `value`: the source's `(value & mask) != 0`. -/
def anySet {w : Nat} (value mask : BitVec w) : Bool :=
  value &&& mask != 0#w

/-- Masking a value leaves nothing outside the mask. -/
theorem and_mask_and_not {w : Nat} (value mask : BitVec w) : value &&& mask &&& ~~~mask = 0#w := by
  simp [BitVec.and_assoc]

/-- A value with nothing outside a mask is its own masked value. -/
theorem and_mask_of_and_not {w : Nat} {value mask : BitVec w} (h : value &&& ~~~mask = 0#w) :
    value &&& mask = value :=
  calc value &&& mask
      = value &&& mask ||| value &&& ~~~mask := by rw [h, BitVec.or_zero]
    _ = value &&& (mask ||| ~~~mask) := (BitVec.and_or_distrib_left ..).symm
    _ = value := by
        rw [BitVec.or_comm, BitVec.not_or_self]
        exact BitVec.and_allOnes

end Gba.Core
