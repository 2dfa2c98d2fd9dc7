import Mathlib.Data.Option.Basic

/-!
# Total correctness of partial functions

A function that may be undefined ensures a property when it is defined and its value has the
property. The rules follow the constructs that such functions are written with.
-/

namespace Gba.Library

variable {α β : Type}

/-- The computation is defined and its value satisfies `Q`. -/
def Ensures (x : Option α) (Q : α → Prop) : Prop := ∃ value, x = some value ∧ Q value

namespace Ensures

variable {x y : Option α} {Q R : α → Prop} {S : β → Prop}

theorem ret {value : α} (h : Q value) : Ensures (some value) Q := ⟨value, rfl, h⟩

theorem pure {value : α} (h : Q value) : Ensures (Pure.pure value : Option α) Q := ⟨value, rfl, h⟩

theorem conseq (h : Ensures x Q) (hQ : ∀ value, Q value → R value) : Ensures x R := by
  obtain ⟨value, hx, hvalue⟩ := h
  exact ⟨value, hx, hQ value hvalue⟩

theorem bind {f : α → Option β} (h : Ensures x Q) (hf : ∀ value, Q value → Ensures (f value) S) :
    Ensures (x.bind f) S := by
  obtain ⟨value, rfl, hvalue⟩ := h
  exact hf value hvalue

theorem map {f : α → β} (h : Ensures x Q) (hf : ∀ value, Q value → S (f value)) :
    Ensures (x.map f) S := by
  obtain ⟨value, rfl, hvalue⟩ := h
  exact ⟨f value, rfl, hf value hvalue⟩

theorem ite {c : Prop} [Decidable c] (h : c → Ensures x Q) (h' : ¬c → Ensures y Q) :
    Ensures (if c then x else y) Q := by
  split
  · next hc => exact h hc
  · next hc => exact h' hc

/-- The value has the property. -/
theorem of_eq (h : Ensures x Q) {value : α} (hx : x = some value) : Q value := by
  obtain ⟨other, hother, hvalue⟩ := h
  rw [hx] at hother
  exact Option.some.inj hother ▸ hvalue

end Ensures

end Gba.Library
