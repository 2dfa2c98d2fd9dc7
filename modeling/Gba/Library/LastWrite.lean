import Mathlib.Logic.Basic

/-!
# Stores that keep the last write

A store is described by what each operation writes to each cell. Where one operation changes a
cell exactly as described, a run leaves in every cell the last value written to it
(`LastWrite.value_run`), however many operations in between touch other cells.
-/

namespace Gba.Library

/-- A machine with cells: an operation may write a value to a cell, and a cell that it does not
write keeps its value. -/
structure LastWrite (State Op Cell Value : Type) where
  step : State → Op → State
  writes : State → Op → Cell → Option Value
  value : State → Cell → Value
  value_step : ∀ state op cell,
    value (step state op) cell = (writes state op cell).getD (value state cell)

namespace LastWrite

variable {State Op Cell Value : Type} (store : LastWrite State Op Cell Value)

/-- The state after a sequence of operations. -/
def run (state : State) (ops : List Op) : State := ops.foldl store.step state

/-- The last value that a sequence of operations writes to a cell. -/
def lastWritten : State → List Op → Cell → Option Value
  | _, [], _ => none
  | state, op :: ops, cell =>
      (lastWritten (store.step state op) ops cell).or (store.writes state op cell)

/-- A cell holds the last value written to it. -/
theorem value_run (state : State) (ops : List Op) (cell : Cell) :
    store.value (store.run state ops) cell =
      (store.lastWritten state ops cell).getD (store.value state cell) := by
  induction ops generalizing state with
  | nil => rfl
  | cons op ops ih =>
      have htail := ih (store.step state op)
      rw [store.value_step] at htail
      refine htail.trans ?_
      show _ = ((store.lastWritten (store.step state op) ops cell).or _).getD _
      cases store.lastWritten (store.step state op) ops cell with
      | none => rfl
      | some value => rfl

end LastWrite

end Gba.Library
