import Mathlib.Data.List.Sort
import Mathlib.Order.Basic

/-!
# The two least elements of a list

A pass over a list that keeps the two least elements seen so far by a key, and what it finds.
-/

namespace Gba.Library

section LeastTwo

variable {α κ : Type} [LinearOrder κ] (key : α → κ)

/-- The first two of a list are the least by a key, in order. -/
def LeastTwo (list : List α) (least second : α) : Prop :=
  ∃ rest, list.Perm (least :: second :: rest) ∧ key least ≤ key second ∧
    ∀ other ∈ rest, key second ≤ key other

/-- One more element beside the two least so far. -/
def keepLeast (pair : α × α) (element : α) : α × α :=
  if key element < key pair.1 then (element, pair.1)
  else if key element < key pair.2 then (pair.1, element)
  else pair

variable {key}

namespace LeastTwo

variable {list : List α} {least second element : α}

theorem of_perm {other : List α} (h : LeastTwo key list least second) (hperm : other.Perm list) :
    LeastTwo key other least second := by
  obtain ⟨rest, hlist, hkeys⟩ := h
  exact ⟨rest, hperm.trans hlist, hkeys⟩

theorem pair (h : key least ≤ key second) : LeastTwo key [least, second] least second :=
  ⟨[], List.Perm.refl _, h, fun _ hother => absurd hother List.not_mem_nil⟩

theorem keep (h : LeastTwo key list least second) (element : α) :
    LeastTwo key (element :: list) (keepLeast key (least, second) element).1
      (keepLeast key (least, second) element).2 := by
  obtain ⟨rest, hperm, hle, hrest⟩ := h
  have hcons : (element :: list).Perm (element :: least :: second :: rest) := hperm.cons element
  unfold keepLeast
  dsimp only
  split
  · next hleast =>
    refine ⟨second :: rest, hcons, le_of_lt hleast, ?_⟩
    intro other hother
    rcases List.mem_cons.mp hother with rfl | hother
    · exact hle
    · exact hle.trans (hrest other hother)
  next hleast =>
  split
  · next hsecond =>
    refine ⟨second :: rest, hcons.trans (List.Perm.swap least element _), not_lt.mp hleast, ?_⟩
    intro other hother
    rcases List.mem_cons.mp hother with rfl | hother
    · exact le_of_lt hsecond
    · exact (le_of_lt hsecond).trans (hrest other hother)
  · next hsecond =>
    refine ⟨element :: rest, ?_, hle, ?_⟩
    · exact (hcons.trans (List.Perm.swap least element _)).trans
        ((List.Perm.swap second element rest).cons least)
    · intro other hother
      rcases List.mem_cons.mp hother with rfl | hother
      · exact not_lt.mp hsecond
      · exact hrest other hother

/-- A pass over more elements. -/
theorem foldl (h : LeastTwo key list least second) (elements : List α) :
    LeastTwo key (elements ++ list) (elements.foldl (keepLeast key) (least, second)).1
      (elements.foldl (keepLeast key) (least, second)).2 := by
  induction elements generalizing list least second with
  | nil => exact h
  | cons element rest ih =>
    refine (ih (h.keep element)).of_perm ?_
    exact List.perm_middle.symm

theorem le_of_mem (h : LeastTwo key list least second) {other : α} (hother : other ∈ list) :
    key least ≤ key other := by
  obtain ⟨rest, hperm, hle, hrest⟩ := h
  rcases List.mem_cons.mp (hperm.mem_iff.mp hother) with rfl | hother
  · exact le_refl _
  rcases List.mem_cons.mp hother with rfl | hother
  · exact hle
  · exact hle.trans (hrest other hother)

/-- Where elements with one key are equal, the two least are determined. -/
theorem unique {least' second' : α} (h : LeastTwo key list least second)
    (h' : LeastTwo key list least' second')
    (hinjective : ∀ a ∈ list, ∀ b ∈ list, key a = key b → a = b) :
    least = least' ∧ second = second' := by
  have hmem {a b : α} (hab : LeastTwo key list a b) : a ∈ list ∧ b ∈ list := by
    obtain ⟨rest, hperm, -⟩ := hab
    exact ⟨hperm.mem_iff.mpr (by simp), hperm.mem_iff.mpr (by simp)⟩
  have hleast : least = least' :=
    hinjective _ (hmem h).1 _ (hmem h').1
      (le_antisymm (h.le_of_mem (hmem h').1) (h'.le_of_mem (hmem h).1))
  subst hleast
  refine ⟨rfl, ?_⟩
  obtain ⟨rest, hperm, -, hrest⟩ := h
  obtain ⟨rest', hperm', -, hrest'⟩ := h'
  have htail : (second :: rest).Perm (second' :: rest') :=
    (List.perm_cons least).mp (hperm.symm.trans hperm')
  have hsecond : key second ≤ key second' := by
    rcases List.mem_cons.mp (htail.mem_iff.mpr (List.mem_cons_self ..)) with heq | hmem
    · exact le_of_eq (congrArg key heq.symm)
    · exact hrest _ hmem
  have hsecond' : key second' ≤ key second := by
    rcases List.mem_cons.mp (htail.mem_iff.mp (List.mem_cons_self ..)) with heq | hmem
    · exact le_of_eq (congrArg key heq.symm)
    · exact hrest' _ hmem
  exact hinjective _ (hperm.mem_iff.mpr (by simp)) _ (hperm'.mem_iff.mpr (by simp))
    (le_antisymm hsecond hsecond')

end LeastTwo

variable (key) in
/-- The first two of a list that is sorted by a key. -/
def firstTwo (default : α) (list : List α) : α × α :=
  match list.insertionSort (fun a b => key a ≤ key b) with
  | [] => (default, default)
  | [least] => (least, default)
  | least :: second :: _ => (least, second)

/-- Sorting finds the two least, where the element of the last resort is the greatest. -/
theorem firstTwo_leastTwo {default : α} {list : List α} (hne : list ≠ [])
    (hdefault : ∀ element ∈ list, key element ≤ key default) :
    LeastTwo key (default :: list) (firstTwo key default list).1 (firstTwo key default list).2 := by
  have hperm := List.perm_insertionSort (fun a b => key a ≤ key b) list
  have hsorted : (list.insertionSort fun a b => key a ≤ key b).Pairwise
      (fun a b => key a ≤ key b) := by
    have : Std.Total (fun a b => key a ≤ key b) := ⟨fun a b => le_total (key a) (key b)⟩
    have : IsTrans α (fun a b => key a ≤ key b) := ⟨fun _ _ _ => le_trans⟩
    exact List.pairwise_insertionSort _ _
  unfold firstTwo
  generalize list.insertionSort (fun a b => key a ≤ key b) = sorted at hperm hsorted ⊢
  match sorted with
  | [] => exact absurd hperm.symm.eq_nil hne
  | [least] =>
      have hmem : least ∈ list := hperm.mem_iff.mp (List.mem_singleton_self least)
      exact (LeastTwo.pair (hdefault least hmem)).of_perm
        ((hperm.symm.cons default).trans (List.Perm.swap least default []))
  | least :: second :: rest =>
      obtain ⟨hleast, hsecond, -⟩ := List.pairwise_cons.mp hsorted |>.imp_right List.pairwise_cons.mp
      refine ⟨default :: rest, ?_, hleast second (List.mem_cons_self ..), ?_⟩
      · exact (hperm.symm.cons default).trans ((List.Perm.swap least default _).trans
          ((List.Perm.swap second default rest).cons least))
      · intro other hother
        rcases List.mem_cons.mp hother with rfl | hother
        · exact hdefault _ (hperm.mem_iff.mp (by simp))
        · exact hsecond other hother

end LeastTwo

end Gba.Library
