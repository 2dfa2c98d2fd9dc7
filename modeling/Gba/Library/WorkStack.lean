import Mathlib.Data.List.Basic
import Mathlib.Tactic.Common

/-!
# Work that interrupts work

Pieces of work lie on a stack. Pieces are put on top at any time, and only the piece on top is worked
off; when nothing is left of it, it leaves the stack. However often a piece is interrupted, what has
been worked off it and what is left of it are together what it was.
-/

namespace Gba.Library

/-- A piece of work: what it belongs to, and what is left of it. -/
@[ext]
structure Work (α : Type) where
  label : α
  remaining : Nat

namespace Work

variable {α : Type}

/-- What is left on the stack of a piece when some of it has been worked off. -/
def workOff (work : Work α) (amount : Nat) : List (Work α) :=
  if amount = work.remaining then [] else [{ work with remaining := work.remaining - amount }]

/-- A move: pieces are put on top, or some of the piece on top is worked off. -/
inductive Move : List (Work α) → Nat → List (Work α) → Prop where
  | put (stack pieces : List (Work α)) : Move stack 0 (stack ++ pieces)
  | workOff (below : List (Work α)) (work : Work α) {amount : Nat} (h : amount ≤ work.remaining) :
      Move (below ++ [work]) amount (below ++ work.workOff amount)

/-- A sequence of moves, each with the stack it starts from and what it works off. -/
inductive Moves : List (Work α) → List (List (Work α) × Nat) → List (Work α) → Prop where
  | none (stack : List (Work α)) : Moves stack [] stack
  | next {stack middle last : List (Work α)} {amount : Nat} {moves : List (List (Work α) × Nat)}
      (hmove : Move stack amount middle) (hmoves : Moves middle moves last) :
      Moves stack ((stack, amount) :: moves) last

/-- What the moves work off the piece at a height. -/
def workedOff (height : Nat) : List (List (Work α) × Nat) → Nat
  | [] => 0
  | (stack, amount) :: moves =>
      (if stack.length = height + 1 then amount else 0) + workedOff height moves

/-- A piece at a height before some moves and what has become of it: it lies where it lay with what
has not been worked off, or it has been worked off and has left with all that lay above it. The
pieces below are untouched. -/
structure Settled (stack : List (Work α)) (height : Nat) (work : Work α) (amount : Nat)
    (last : List (Work α)) : Prop where
  below : last.take height = stack.take height
  amount_le : amount ≤ work.remaining
  piece : last[height]? = some { work with remaining := work.remaining - amount } ∨
    last.length = height ∧ amount = work.remaining

variable {stack middle last : List (Work α)} {moves : List (List (Work α) × Nat)} {work : Work α}
  {height amount : Nat}

namespace Settled

/-- Nothing has moved. -/
theorem start (hwork : stack[height]? = some work) : Settled stack height work 0 stack :=
  ⟨rfl, Nat.zero_le _, .inl hwork⟩

/-- A move that leaves the pieces up to a height alone. -/
theorem after (h : Settled middle height work amount last)
    (hbelow : middle.take height = stack.take height) : Settled stack height work amount last :=
  ⟨h.below.trans hbelow, h.amount_le, h.piece⟩

end Settled

/-- While a piece lies on the stack, moves work off it what is missing of it, and it leaves when
nothing is left. -/
theorem Moves.settled (h : Moves stack moves last) (hwork : stack[height]? = some work)
    (hpresent : ∀ move ∈ moves, height < move.1.length) :
    Settled stack height work (workedOff height moves) last := by
  induction h generalizing work with
  | none stack => exact .start hwork
  | @next stack middle last amount moves hmove hmoves ih =>
      have hlater (move) (hmem : move ∈ moves) : height < move.1.length :=
        hpresent move (List.mem_cons_of_mem _ hmem)
      have hheight : height < stack.length := (List.getElem?_eq_some_iff.mp hwork).1
      unfold workedOff
      cases hmove with
      | put stack pieces =>
          have hlies : (stack ++ pieces)[height]? = some work := by
            rw [List.getElem?_append_left hheight]
            exact hwork
          rw [show (if stack.length = height + 1 then 0 else 0) = 0 from ite_self 0, Nat.zero_add]
          exact (ih hlies hlater).after (List.take_append_of_le_length (Nat.le_of_lt hheight))
      | workOff below top hle =>
          rw [List.length_append, List.length_singleton] at hheight ⊢
          by_cases htop : height = below.length
          · -- the piece itself is worked off
            subst htop
            obtain rfl : top = work := by
              rw [List.getElem?_append_right (Nat.le_refl _), Nat.sub_self] at hwork
              exact Option.some.inj hwork
            rw [if_pos rfl]
            have hbelow (pieces : List (Work α)) :
                (below ++ pieces).take below.length = below := List.take_left
            by_cases hdone : amount = top.remaining
            · have hmiddle : below ++ top.workOff amount = below := by
                unfold Work.workOff
                rw [if_pos hdone, List.append_nil]
              rw [hmiddle] at hmoves
              -- the piece has left, so that this was the last move
              cases hmoves with
              | none stack =>
                  refine ⟨?_, ?_, .inr ⟨rfl, ?_⟩⟩
                  · rw [List.take_length, hbelow]
                  · exact Nat.le_of_eq hdone
                  · exact hdone
              | next hmove hmoves =>
                  exact absurd (hlater _ List.mem_cons_self) (Nat.lt_irrefl _)
            · have hlies : (below ++ top.workOff amount)[below.length]? =
                  some { top with remaining := top.remaining - amount } := by
                unfold Work.workOff
                rw [if_neg hdone, List.getElem?_append_right (Nat.le_refl _), Nat.sub_self]
                rfl
              obtain ⟨hbelow', hle', hpiece⟩ := ih hlies hlater
              dsimp only at hle' hpiece
              refine ⟨by rw [hbelow', hbelow, hbelow], by omega, ?_⟩
              rw [Nat.sub_sub] at hpiece
              refine hpiece.imp id fun ⟨hlength, hamount⟩ => ⟨hlength, ?_⟩
              omega
          · -- a piece above it is worked off
            have hlt : height < below.length := by omega
            have hlies : (below ++ top.workOff amount)[height]? = some work := by
              rw [List.getElem?_append_left hlt] at hwork ⊢
              exact hwork
            rw [if_neg (by omega), Nat.zero_add]
            refine (ih hlies hlater).after ?_
            rw [List.take_append_of_le_length (Nat.le_of_lt hlt),
              List.take_append_of_le_length (Nat.le_of_lt hlt)]

end Work

end Gba.Library
