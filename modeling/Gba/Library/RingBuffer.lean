import Mathlib.Algebra.GroupWithZero.Nat
import Mathlib.Tactic.Common

/-!
# Bounded ring buffers

A fixed array with a head and a size, used as a queue that drops its oldest element when a push
finds it full. Reading the head is the only access that can leave the array, so `pop` says when it
is undefined; in a well-formed buffer it never is.
-/

namespace Gba

/-- A ring buffer over an array of `capacity` elements. -/
@[ext]
structure RingBuffer (α : Type*) (capacity : Nat) where
  samples : Fin capacity → α
  head : Nat
  size : Nat

namespace RingBuffer

variable {α : Type*} {capacity : Nat}

/-- An empty buffer that holds `default` everywhere. -/
def filled (default : α) : RingBuffer α capacity := ⟨fun _ => default, 0, 0⟩

/-- Head and size are inside the array. -/
structure WellFormed (r : RingBuffer α capacity) : Prop where
  head_lt : r.head < capacity
  size_le : r.size ≤ capacity

instance (r : RingBuffer α capacity) : Decidable r.WellFormed :=
  decidable_of_iff (r.head < capacity ∧ r.size ≤ capacity)
    ⟨fun h => ⟨h.1, h.2⟩, fun h => ⟨h.head_lt, h.size_le⟩⟩

/-- Drop the oldest element of a full buffer. -/
def makeRoom (r : RingBuffer α capacity) : RingBuffer α capacity :=
  if r.size = capacity then
    { r with head := (r.head + 1) % capacity, size := r.size - 1 }
  else r

/-- Append an element. -/
def push [NeZero capacity] (r : RingBuffer α capacity) (sample : α) : RingBuffer α capacity :=
  let room := r.makeRoom
  { room with
    samples := Function.update room.samples (Fin.ofNat capacity (room.head + room.size)) sample
    size := room.size + 1 }

/-- Take the oldest element off; an empty buffer has none. Undefined when the head is outside the
array. -/
def pop (r : RingBuffer α capacity) : Option (Option α × RingBuffer α capacity) :=
  if r.size = 0 then some (none, r)
  else if h : r.head < capacity then
    some (some (r.samples ⟨r.head, h⟩),
      { r with head := (r.head + 1) % capacity, size := r.size - 1 })
  else none

theorem wellFormed_filled [NeZero capacity] (default : α) :
    (filled default : RingBuffer α capacity).WellFormed :=
  ⟨Nat.pos_of_neZero capacity, Nat.zero_le _⟩

theorem WellFormed.push [NeZero capacity] {r : RingBuffer α capacity} (h : r.WellFormed)
    (sample : α) : (r.push sample).WellFormed := by
  have hpos : 0 < capacity := Nat.pos_of_neZero capacity
  have hsize := h.size_le
  by_cases hfull : r.size = capacity
  · have hroom : r.makeRoom = { r with head := (r.head + 1) % capacity, size := r.size - 1 } :=
      if_pos hfull
    refine ⟨?_, ?_⟩
    · simp only [RingBuffer.push, hroom]
      exact Nat.mod_lt _ hpos
    · simp only [RingBuffer.push, hroom]
      omega
  · have hroom : r.makeRoom = r := if_neg hfull
    refine ⟨?_, ?_⟩
    · simp only [RingBuffer.push, hroom]
      exact h.head_lt
    · simp only [RingBuffer.push, hroom]
      omega

/-- Popping a well-formed buffer is defined, and leaves a well-formed one. -/
theorem WellFormed.pop {r : RingBuffer α capacity} (h : r.WellFormed) :
    ∃ sample r', r.pop = some (sample, r') ∧ r'.WellFormed := by
  have hpos : 0 < capacity := Nat.lt_of_le_of_lt (Nat.zero_le _) h.head_lt
  by_cases hempty : r.size = 0
  · exact ⟨none, r, if_pos hempty, h⟩
  · refine ⟨some (r.samples ⟨r.head, h.head_lt⟩),
      { r with head := (r.head + 1) % capacity, size := r.size - 1 }, ?_, ?_⟩
    · rw [RingBuffer.pop, if_neg hempty, dif_pos h.head_lt]
    · have hsize : r.size - 1 ≤ capacity := Nat.le_trans (Nat.sub_le _ _) h.size_le
      exact ⟨Nat.mod_lt _ hpos, hsize⟩

end RingBuffer

end Gba
