import Mathlib.Data.Nat.Bitwise
import Mathlib.Tactic.Ring

/-!
# Carry-save addition and Booth recoding

Two facts on which multiplier arrays rest. A carry-save adder replaces three numbers by two with the
same sum. Radix-4 Booth recoding reads a multiplier three bits at a time, overlapping in one, and
writes half of it, rounded up, with digits from -2 to 2.
-/

namespace Gba.Library

/-! ## Carry-save addition -/

/-- Where two or more of the three numbers have a bit. -/
def majority (a b c : Nat) : Nat := a &&& b ||| b &&& c ||| c &&& a

/-- The carry of one column. -/
theorem majority_mod_two (a b c : Nat) : majority a b c % 2 = (a % 2 + b % 2 + c % 2) / 2 := by
  have hone : majority a b c % 2 = 1 ↔ 2 ≤ a % 2 + b % 2 + c % 2 := by
    unfold majority
    simp only [Nat.or_mod_two_eq_one, Nat.and_mod_two_eq_one]
    omega
  omega

/-- The columns above the lowest one. -/
theorem majority_div_two (a b c : Nat) : majority a b c / 2 = majority (a / 2) (b / 2) (c / 2) := by
  unfold majority
  simp only [Nat.or_div_two, Nat.and_div_two]

/-- The bitwise sum and the carries of three numbers have their sum. -/
theorem carrySave (a b c : Nat) : (a ^^^ b ^^^ c) + 2 * majority a b c = a + b + c := by
  obtain ⟨width, ha, hb, hc⟩ : ∃ width, a < 2 ^ width ∧ b < 2 ^ width ∧ c < 2 ^ width := by
    refine ⟨a + b + c, ?_, ?_, ?_⟩
    all_goals
      refine Nat.lt_of_lt_of_le Nat.lt_two_pow_self (Nat.pow_le_pow_right (by decide) ?_)
      omega
  induction width generalizing a b c with
  | zero =>
    have hzero : a = 0 ∧ b = 0 ∧ c = 0 := by omega
    obtain ⟨rfl, rfl, rfl⟩ := hzero
    rfl
  | succ width ih =>
    rw [Nat.pow_succ] at ha hb hc
    have hupper := ih (a / 2) (b / 2) (c / 2) (by omega) (by omega) (by omega)
    have hlower : (a ^^^ b ^^^ c) % 2 = (a % 2 + b % 2 + c % 2) % 2 := by
      rw [Nat.xor_mod_two_eq, Nat.add_mod, Nat.xor_mod_two_eq]
      omega
    have hcarry := majority_mod_two a b c
    rw [← Nat.xor_div_two, ← Nat.xor_div_two, ← majority_div_two] at hupper
    omega

/-! ## Booth recoding -/

/-- Half of a number, rounded up: what the digits of the recoding write. -/
def roundedHalf (value : Int) : Int := (value + 1) / 2

/-- The digit for three bits, the lowest of which belongs to the digit before. -/
def boothDigit (chunk : Int) : Int := roundedHalf chunk - 4 * roundedHalf (chunk / 4)

/-- The lowest digit, and what the other digits write. -/
theorem roundedHalf_eq (value : Int) :
    roundedHalf value = boothDigit (value % 8) + 4 * roundedHalf (value / 4) := by
  unfold boothDigit roundedHalf
  omega

/-- The recoding of a number without further bits is finished. -/
theorem roundedHalf_of_signs {value : Int} (h : value = 0 ∨ value = -1) : roundedHalf value = 0 := by
  rcases h with rfl | rfl <;> rfl

end Gba.Library
