import Mathlib.Data.List.GetD
import Mathlib.Tactic.Common

/-!
# References back into a list

A copy from the end of a list to the end of the same list, one element at a time. Where it is longer
than its displacement it reads what it has just written; in closed form it repeats the last
`displacement` elements (`copyBack_eq`).
-/

namespace Gba.Library

variable {α : Type} (fallback : α)

/-- The last `displacement` elements, over and over. -/
def repeated (list : List α) (displacement length : Nat) : List α :=
  (List.range length).map fun index =>
    list.getD (list.length - displacement + index % displacement) fallback

/-- The list with elements from `displacement` back appended one at a time. -/
def copyBack (displacement : Nat) : Nat → List α → List α
  | 0, list => list
  | length + 1, list =>
      copyBack displacement length
        (list ++ [list.getD (list.length - displacement) fallback])

variable {fallback}

theorem repeated_length (list : List α) (displacement length : Nat) :
    (repeated fallback list displacement length).length = length := by
  unfold repeated
  rw [List.length_map, List.length_range]

theorem repeated_succ (list : List α) (displacement length : Nat) :
    repeated fallback list displacement (length + 1) =
      repeated fallback list displacement length ++
        [list.getD (list.length - displacement + length % displacement) fallback] := by
  unfold repeated
  rw [List.range_succ, List.map_append]
  rfl

/-- The element that a copy appends next. -/
theorem getD_repeated (list : List α) {displacement length : Nat} (hpos : 0 < displacement)
    (hle : displacement ≤ list.length) :
    (list ++ repeated fallback list displacement length).getD
        ((list ++ repeated fallback list displacement length).length - displacement) fallback =
      list.getD (list.length - displacement + length % displacement) fallback := by
  rw [List.length_append, repeated_length]
  by_cases hfirst : length < displacement
  · -- still in the list itself
    have hplace : list.length + length - displacement = list.length - displacement + length := by
      omega
    rw [hplace, Nat.mod_eq_of_lt hfirst, List.getD_append _ _ _ _ (by omega)]
  · have hplace : list.length + length - displacement = list.length + (length - displacement) := by
      omega
    rw [hplace, List.getD_append_right _ _ _ _ (by omega), Nat.add_sub_cancel_left]
    have hmod : (length - displacement) % displacement = length % displacement :=
      (Nat.mod_eq_sub_mod (Nat.not_lt.mp hfirst)).symm
    unfold repeated
    rw [List.getD_eq_getElem _ _ (by simp; omega), List.getElem_map, List.getElem_range, hmod]

/-- The copy repeats the last elements. -/
theorem copyBack_eq (list : List α) {displacement : Nat} (hpos : 0 < displacement)
    (hle : displacement ≤ list.length) (length : Nat) :
    copyBack fallback displacement length list =
      list ++ repeated fallback list displacement length := by
  have hrun : ∀ count done, copyBack fallback displacement count
      (list ++ repeated fallback list displacement done) =
        list ++ repeated fallback list displacement (done + count) := by
    intro count
    induction count with
    | zero => exact fun _ => rfl
    | succ count ih =>
      intro done
      show copyBack fallback displacement count (list ++ repeated fallback list displacement done ++
        [(list ++ repeated fallback list displacement done).getD _ fallback]) = _
      rw [getD_repeated list hpos hle, List.append_assoc, ← repeated_succ, ih (done + 1)]
      congr 2
      omega
  have hstart := hrun length 0
  rw [Nat.zero_add] at hstart
  simpa [repeated] using hstart

/-- The copy goes on from the list. -/
theorem copyBack_append (displacement length : Nat) (list : List α) :
    ∃ tail, copyBack fallback displacement length list = list ++ tail := by
  induction length generalizing list with
  | zero => exact ⟨[], (List.append_nil list).symm⟩
  | succ length ih =>
    obtain ⟨tail, htail⟩ := ih (list ++ [list.getD (list.length - displacement) fallback])
    rw [List.append_assoc] at htail
    exact ⟨_, htail⟩

end Gba.Library
