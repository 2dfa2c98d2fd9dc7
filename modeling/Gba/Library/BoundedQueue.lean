import Gba.Library.RingBuffer
import Mathlib.Data.List.Basic
import Mathlib.Data.List.Range
import Mathlib.Data.Nat.ModEq

/-!
# Ring buffers as queues

What a ring buffer holds, in the order in which it comes out: the list that `push` appends to and
drops the oldest element of, and that `pop` takes the head of.
-/

namespace Gba

namespace RingBuffer

variable {α : Type*} {capacity : Nat} [NeZero capacity]

/-! ## Several pushes -/

/-- Append elements one after the other. -/
def pushAll (r : RingBuffer α capacity) (samples : List α) : RingBuffer α capacity :=
  samples.foldl push r

omit [NeZero capacity] in
theorem makeRoom_full {r : RingBuffer α capacity} (h : r.size = capacity) :
    r.makeRoom = { r with head := (r.head + 1) % capacity, size := r.size - 1 } := if_pos h

omit [NeZero capacity] in
theorem makeRoom_room {r : RingBuffer α capacity} (h : r.size ≠ capacity) : r.makeRoom = r :=
  if_neg h

theorem push_full {r : RingBuffer α capacity} (h : r.size = capacity) (sample : α) :
    (r.push sample).head = (r.head + 1) % capacity ∧ (r.push sample).size = capacity := by
  have hpos : 0 < capacity := Nat.pos_of_neZero capacity
  unfold push
  rw [makeRoom_full h]
  refine ⟨rfl, ?_⟩
  show r.size - 1 + 1 = capacity
  omega

theorem push_room {r : RingBuffer α capacity} (h : r.size ≠ capacity) (sample : α) :
    (r.push sample).head = r.head ∧ (r.push sample).size = r.size + 1 := by
  unfold push
  rw [makeRoom_room h]
  exact ⟨rfl, rfl⟩

/-- Pushes into a full buffer move its head. -/
theorem pushAll_full {r : RingBuffer α capacity} (h : r.size = capacity) {samples : List α}
    (hsome : samples ≠ []) :
    (r.pushAll samples).head = (r.head + samples.length) % capacity ∧
      (r.pushAll samples).size = capacity := by
  induction samples generalizing r with
  | nil => contradiction
  | cons sample samples ih =>
    obtain ⟨hhead, hsize⟩ := push_full h sample
    cases samples with
    | nil => exact ⟨hhead, hsize⟩
    | cons second samples =>
      obtain ⟨hlast, hfull⟩ := ih hsize (List.cons_ne_nil _ _)
      refine ⟨hlast.trans ?_, hfull⟩
      rw [hhead, Nat.mod_add_mod, List.length_cons, List.length_cons, List.length_cons]
      congr 1
      omega

/-- Pushes into a buffer with room make it larger. -/
theorem pushAll_size {r : RingBuffer α capacity} (h : r.size ≠ capacity) {samples : List α}
    (hsome : samples ≠ []) : r.size < (r.pushAll samples).size := by
  induction samples generalizing r with
  | nil => contradiction
  | cons sample samples ih =>
    have hsize := (push_room h sample).2
    cases samples with
    | nil =>
      show r.size < (r.push sample).size
      omega
    | cons second samples =>
      by_cases hfull : (r.push sample).size = capacity
      · have hlast := (pushAll_full hfull (List.cons_ne_nil second samples)).2
        show r.size < ((r.push sample).pushAll (second :: samples)).size
        omega
      · have hlast := ih hfull (List.cons_ne_nil _ _)
        show r.size < ((r.push sample).pushAll (second :: samples)).size
        omega

/-- A buffer is never the same after pushes of fewer elements than it has places. -/
theorem pushAll_ne {r : RingBuffer α capacity} {samples : List α} (hsome : samples ≠ [])
    (hfew : samples.length < capacity) : r.pushAll samples ≠ r := by
  intro hsame
  by_cases hfull : r.size = capacity
  · have hhead := (pushAll_full hfull hsome).1
    have hcount : 0 < samples.length := List.length_pos_of_ne_nil hsome
    rw [hsame] at hhead
    have hinside : r.head < capacity := hhead ▸ Nat.mod_lt _ (Nat.pos_of_neZero capacity)
    have hsum : (r.head + samples.length) % capacity =
        if r.head + samples.length < capacity then r.head + samples.length
        else r.head + samples.length - capacity := by
      split
      · exact Nat.mod_eq_of_lt ‹_›
      · rw [Nat.mod_eq_sub_mod (by omega), Nat.mod_eq_of_lt (by omega)]
    split at hsum <;> omega
  · have hsize := pushAll_size hfull hsome
    rw [hsame] at hsize
    exact Nat.lt_irrefl _ hsize

/-! ## The queue in a ring -/

/-- What the buffer holds, the oldest element first. -/
def contents (r : RingBuffer α capacity) : List α :=
  (List.range r.size).map fun index => r.samples (Fin.ofNat capacity (r.head + index))

@[simp] theorem length_contents (r : RingBuffer α capacity) : r.contents.length = r.size := by
  simp [contents]

@[simp] theorem contents_filled (default : α) :
    (filled default : RingBuffer α capacity).contents = [] := rfl

/-- Two places less than a capacity apart are different. -/
theorem place_ne {head i j : Nat} (hi : i < j) (hj : j < i + capacity) :
    Fin.ofNat capacity (head + i) ≠ Fin.ofNat capacity (head + j) := by
  intro heq
  have hmod : (head + i) % capacity = (head + j) % capacity := congrArg Fin.val heq
  have hdvd : capacity ∣ head + j - (head + i) :=
    (Nat.modEq_iff_dvd' (by omega)).mp hmod
  have hle := Nat.le_of_dvd (by omega) hdvd
  omega

/-- Moving the head by one place drops the oldest element. -/
theorem contents_tail (r : RingBuffer α capacity) :
    (({ r with head := (r.head + 1) % capacity, size := r.size - 1 } :
      RingBuffer α capacity)).contents = r.contents.tail := by
  have hplace : ∀ index, Fin.ofNat capacity ((r.head + 1) % capacity + index) =
      Fin.ofNat capacity (r.head + (index + 1)) := by
    intro index
    refine Fin.ext ?_
    show ((r.head + 1) % capacity + index) % capacity = (r.head + (index + 1)) % capacity
    rw [Nat.mod_add_mod]
    congr 1
    omega
  unfold contents
  cases hsize : r.size with
  | zero => rfl
  | succ size =>
    rw [Nat.succ_sub_one, List.range_succ_eq_map, List.map_cons, List.tail_cons, List.map_map]
    refine List.map_congr_left fun index _ => ?_
    exact congrArg r.samples (hplace index)

/-- Writing behind the last element appends it. -/
theorem contents_append {r : RingBuffer α capacity} (h : r.size < capacity) (sample : α) :
    (({ r with
      samples := Function.update r.samples (Fin.ofNat capacity (r.head + r.size)) sample
      size := r.size + 1 } : RingBuffer α capacity)).contents = r.contents ++ [sample] := by
  unfold contents
  rw [List.range_succ, List.map_append]
  congr 1
  · refine List.map_congr_left fun index hindex => ?_
    have hlt : index < r.size := List.mem_range.mp hindex
    exact Function.update_of_ne (place_ne hlt (by omega)) _ _
  · simp

/-- A push appends an element, and drops the oldest one of a full buffer. -/
theorem contents_push {r : RingBuffer α capacity} (h : r.WellFormed) (sample : α) :
    (r.push sample).contents =
      (if r.contents.length = capacity then r.contents.tail else r.contents) ++ [sample] := by
  have hsize := h.size_le
  have hpos : 0 < capacity := Nat.pos_of_neZero capacity
  rw [length_contents]
  unfold push
  by_cases hfull : r.size = capacity
  · have hroom : ({ r with head := (r.head + 1) % capacity, size := r.size - 1 } :
        RingBuffer α capacity).size < capacity := by
      show r.size - 1 < capacity
      omega
    rw [if_pos hfull, makeRoom_full hfull, ← contents_tail]
    exact contents_append hroom sample
  · rw [if_neg hfull, makeRoom_room hfull]
    exact contents_append (by omega) sample

/-- A pop takes the oldest element off. -/
theorem contents_pop {r r' : RingBuffer α capacity} {sample : Option α}
    (h : r.pop = some (sample, r')) :
    sample = r.contents.head? ∧ r'.contents = r.contents.tail := by
  unfold pop at h
  split at h
  · next hempty =>
      have hnone : r.contents = [] := List.length_eq_zero_iff.mp ((length_contents r).trans hempty)
      obtain ⟨rfl, rfl⟩ := Prod.mk.inj (Option.some.inj h)
      rw [hnone]
      exact ⟨rfl, rfl⟩
  · next hsome =>
      split at h
      · next hhead =>
          obtain ⟨rfl, rfl⟩ := Prod.mk.inj (Option.some.inj h)
          refine ⟨?_, contents_tail r⟩
          obtain ⟨size, hsize⟩ := Nat.exists_eq_succ_of_ne_zero hsome
          have hplace : Fin.ofNat capacity (r.head + 0) = ⟨r.head, hhead⟩ :=
            Fin.ext (Nat.mod_eq_of_lt hhead)
          unfold contents
          rw [hsize, List.range_succ_eq_map, List.map_cons, List.head?_cons, hplace]
      · contradiction

end RingBuffer

/-! ## What happens to the elements of a queue -/

/-- What happens to a queue. -/
inductive QueueEvent (α : Type*) where
  | push (sample : α)
  | pop
  | clear

/-- The books of a queue: the elements that came in and those that were taken out, each in their
order, what is in the queue, and how many elements were lost because a push found the queue full or
because it was cleared. -/
@[ext]
structure QueueLedger (α : Type*) where
  entered : List α
  left : List α
  contents : List α
  dropped : Nat
  cleared : Nat

namespace QueueLedger

variable {α : Type*}

/-- A queue with some elements that has no history yet. -/
def start (contents : List α) : QueueLedger α := ⟨contents, [], contents, 0, 0⟩

/-- An event of a queue that drops its oldest element when a push finds it full. -/
def step (capacity : Nat) (ledger : QueueLedger α) : QueueEvent α → QueueLedger α
  | .push sample =>
      if ledger.contents.length = capacity then
        { ledger with
          entered := ledger.entered ++ [sample]
          contents := ledger.contents.tail ++ [sample]
          dropped := ledger.dropped + 1 }
      else
        { ledger with
          entered := ledger.entered ++ [sample]
          contents := ledger.contents ++ [sample] }
  | .pop =>
      { ledger with
        left := ledger.left ++ ledger.contents.head?.toList
        contents := ledger.contents.tail }
  | .clear =>
      { ledger with
        contents := []
        cleared := ledger.cleared + ledger.contents.length }

/-- The books of a queue are in order. What was taken out and what is left came in in that order,
each element once; nothing else was lost than what was dropped or cleared. -/
structure Sound (capacity : Nat) (ledger : QueueLedger α) : Prop where
  bounded : ledger.contents.length ≤ capacity
  order : (ledger.left ++ ledger.contents).Sublist ledger.entered
  losses : ledger.entered.length =
    ledger.left.length + ledger.contents.length + ledger.dropped + ledger.cleared

theorem sound_start {capacity : Nat} {contents : List α} (h : contents.length ≤ capacity) :
    (start contents).Sound capacity := by
  refine ⟨h, List.Sublist.refl _, ?_⟩
  simp [start]

theorem Sound.step {capacity : Nat} {ledger : QueueLedger α} (h : ledger.Sound capacity)
    (hpos : 0 < capacity) (event : QueueEvent α) : (ledger.step capacity event).Sound capacity := by
  obtain ⟨hbounded, horder, hlosses⟩ := h
  cases event with
  | push sample =>
    unfold QueueLedger.step
    dsimp only
    split
    · next hfull =>
        have htail : (ledger.left ++ ledger.contents.tail).Sublist ledger.entered :=
          ((List.tail_sublist _).append_left _).trans horder
        refine ⟨?_, ?_, ?_⟩
        · simp only [List.length_append, List.length_tail, List.length_singleton]
          omega
        · rw [← List.append_assoc]
          exact htail.append_right [sample]
        · simp only [List.length_append, List.length_tail, List.length_singleton]
          omega
    · next hroom =>
        refine ⟨?_, ?_, ?_⟩
        · simp only [List.length_append, List.length_singleton]
          omega
        · rw [← List.append_assoc]
          exact horder.append_right [sample]
        · simp only [List.length_append, List.length_singleton]
          omega
  | pop =>
    have hsplit : ledger.contents.head?.toList ++ ledger.contents.tail = ledger.contents := by
      cases ledger.contents <;> rfl
    have hlength := congrArg List.length hsplit
    rw [List.length_append] at hlength
    refine ⟨?_, ?_, ?_⟩
    · show ledger.contents.tail.length ≤ capacity
      omega
    · show (ledger.left ++ ledger.contents.head?.toList ++ ledger.contents.tail).Sublist
        ledger.entered
      rw [List.append_assoc, hsplit]
      exact horder
    · show ledger.entered.length = (ledger.left ++ ledger.contents.head?.toList).length +
        ledger.contents.tail.length + ledger.dropped + ledger.cleared
      rw [List.length_append]
      omega
  | clear =>
    refine ⟨Nat.zero_le _, ?_, ?_⟩
    · show (ledger.left ++ []).Sublist _
      exact ((List.nil_sublist _).append_left _).trans horder
    · show ledger.entered.length = ledger.left.length + 0 + ledger.dropped +
        (ledger.cleared + ledger.contents.length)
      omega

end QueueLedger

end Gba
