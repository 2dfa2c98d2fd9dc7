import Mathlib.Logic.Relation

/-!
# Invariants of runs

A property that a relation keeps is kept by every sequence of its steps, and holds of every state
that steps reach from states that have it.
-/

namespace Gba.Library

variable {α : Type}

/-- Every step of the relation keeps the property. -/
def Kept (r : α → α → Prop) (P : α → Prop) : Prop := ∀ ⦃a b⦄, r a b → P a → P b

namespace Kept

variable {r : α → α → Prop} {P : α → Prop}

/-- A sequence of steps keeps what each step keeps. -/
theorem star (h : Kept r P) : Kept (Relation.ReflTransGen r) P := by
  intro a b hsteps ha
  induction hsteps with
  | refl => exact ha
  | tail _ hstep ih => exact h hstep ih

end Kept

/-- The states that steps reach from the initial ones. -/
inductive Reachable (initial : α → Prop) (step : α → α → Prop) : α → Prop where
  | start {a : α} (h : initial a) : Reachable initial step a
  | step {a b : α} (ha : Reachable initial step a) (h : step a b) : Reachable initial step b

/-- What holds initially and is kept by every step holds of every reachable state. -/
theorem Reachable.invariant {initial : α → Prop} {step : α → α → Prop} {P : α → Prop}
    (hinitial : ∀ a, initial a → P a) (hstep : Kept step P) {a : α}
    (h : Reachable initial step a) : P a := by
  induction h with
  | start h => exact hinitial _ h
  | step _ h ih => exact hstep h ih

end Gba.Library
