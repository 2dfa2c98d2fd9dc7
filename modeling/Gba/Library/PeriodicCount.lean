import Mathlib.Algebra.Order.Group.Nat
import Mathlib.Data.Nat.Count
import Mathlib.Tactic.Common

/-!
# Counting periodic events

How often an event happens in a window of time. An event that comes back after every period happens
equally often in every window of one period. An event at one place of every row of a period happens
once for each row that has it.
-/

namespace Gba

namespace PeriodicCount

/-- The instants of a window at which an event happens. -/
def occurrences (event : Nat → Prop) [DecidablePred event] (start length : Nat) : Nat :=
  Nat.count (fun offset => event (start + offset)) length

variable (event : Nat → Prop) [DecidablePred event]

@[simp] theorem occurrences_zero (start : Nat) : occurrences event start 0 = 0 := Nat.count_zero _

theorem occurrences_succ (start length : Nat) :
    occurrences event start (length + 1) =
      occurrences event start length + if event (start + length) then 1 else 0 :=
  Nat.count_succ _ length

theorem occurrences_add (start first second : Nat) :
    occurrences event start (first + second) =
      occurrences event start first + occurrences event (start + first) second := by
  unfold occurrences
  rw [Nat.count_add]
  simp only [Nat.add_assoc]

/-- Every window of one period has the same occurrences. -/
theorem occurrences_period {period : Nat} (hperiodic : ∀ time, event (period + time) ↔ event time)
    (start : Nat) : occurrences event start period = Nat.count event period := by
  have hafter := Nat.count_add event start period
  have hbefore := Nat.count_add event period start
  have hsame : Nat.count (fun time => event (period + time)) start = Nat.count event start := by
    induction start with
    | zero => rfl
    | succ start ih =>
      rw [Nat.count_succ, Nat.count_succ, ih (Nat.count_add event start period)
        (Nat.count_add event period start)]
      simp only [hperiodic]
  unfold occurrences
  rw [Nat.add_comm start period] at hafter
  omega

/-- An event at one place of some rows. -/
theorem count_rows {row : Nat → Prop} [DecidablePred row] {width place : Nat} (hplace : place < width)
    (hevent : ∀ time, event time ↔ time % width = place ∧ row (time / width)) (rows : Nat) :
    Nat.count event (rows * width) = Nat.count row rows := by
  -- one row at a time, up to any place in it
  have hrow : ∀ rows length, length ≤ width →
      Nat.count (fun offset => event (rows * width + offset)) length =
        if place < length ∧ row rows then 1 else 0 := by
    intro rows length
    induction length with
    | zero => simp
    | succ length ih =>
      intro hlength
      have hmod : (rows * width + length) % width = length := by
        rw [Nat.mul_add_mod_self_right, Nat.mod_eq_of_lt hlength]
      have hdiv : (rows * width + length) / width = rows := by
        rw [Nat.mul_comm, Nat.mul_add_div (Nat.lt_of_lt_of_le (Nat.succ_pos _) hlength),
          Nat.div_eq_of_lt hlength, Nat.add_zero]
      rw [Nat.count_succ, ih (Nat.le_of_succ_le hlength)]
      simp only [hevent, hmod, hdiv]
      by_cases hdone : row rows
      · simp only [hdone, and_true]
        split_ifs <;> omega
      · simp [hdone]
  induction rows with
  | zero => simp
  | succ rows ih =>
    rw [Nat.succ_mul, Nat.count_add, ih, hrow rows width le_rfl, Nat.count_succ]
    simp [hplace]

end PeriodicCount

end Gba
