import Mathlib.Logic.Function.Basic
import Mathlib.Tactic.Common

/-!
# Machines that share nothing

Many machines of one kind are called in some order, each call addressed to one of them. Whatever the
order, a machine gives the answers, and comes to the state, that its own calls alone would give, and
all calls are answered if the own calls of each machine are.
-/

namespace Gba.Library

/-- The events of one machine. -/
def eventsOf {ι α : Type} [DecidableEq ι] (index : ι) (events : List (ι × α)) : List α :=
  (events.filter fun event => event.1 = index).map Prod.snd

/-- The answer of a machine to a call and its next state; nothing if it does not answer. -/
abbrev Machine (κ ρ σ : Type) : Type := κ → σ → Option (ρ × σ)

namespace Machine

variable {ι κ ρ σ : Type}

/-- The answers to some calls and the state after them. -/
def run (machine : Machine κ ρ σ) : List κ → σ → Option (List ρ × σ)
  | [], state => some ([], state)
  | call :: calls, state =>
      (machine call state).bind fun (answer, next) =>
        (machine.run calls next).map fun (answers, last) => (answer :: answers, last)

theorem run_cons (machine : Machine κ ρ σ) (call : κ) (calls : List κ) (state : σ) :
    machine.run (call :: calls) state =
      (machine call state).bind fun (answer, next) =>
        (machine.run calls next).map fun (answers, last) => (answer :: answers, last) := rfl

variable [DecidableEq ι]

/-- Many machines of a kind. -/
def many (machine : Machine κ ρ σ) : Machine (ι × κ) (ι × ρ) (ι → σ) := fun call states =>
  (machine call.2 (states call.1)).map fun (answer, next) =>
    ((call.1, answer), Function.update states call.1 next)

theorem eventsOf_cons_self {α : Type} (index : ι) (event : α) (events : List (ι × α)) :
    eventsOf index ((index, event) :: events) = event :: eventsOf index events := by
  unfold eventsOf
  rw [List.filter_cons_of_pos (by simp), List.map_cons]

theorem eventsOf_cons_of_ne {α : Type} {index other : ι} (h : other ≠ index) (event : α)
    (events : List (ι × α)) :
    eventsOf index ((other, event) :: events) = eventsOf index events := by
  unfold eventsOf
  rw [List.filter_cons_of_neg (by simpa using h)]

variable {machine : Machine κ ρ σ} {calls : List (ι × κ)} {states last : ι → σ}
  {answers : List (ι × ρ)}

/-- Each machine sees its own calls only. -/
theorem run_eventsOf (h : machine.many.run calls states = some (answers, last)) (index : ι) :
    machine.run (eventsOf index calls) (states index) =
      some (eventsOf index answers, last index) := by
  induction calls generalizing states answers with
  | nil =>
      obtain ⟨rfl, rfl⟩ := Prod.mk.inj (Option.some.inj h)
      rfl
  | cons call calls ih =>
      obtain ⟨called, call⟩ := call
      obtain ⟨⟨first, after⟩, hfirst, hrest⟩ := Option.bind_eq_some_iff.mp h
      obtain ⟨⟨answer, next⟩, hcall, hpair⟩ := Option.map_eq_some_iff.mp hfirst
      obtain ⟨rfl, rfl⟩ := Prod.mk.inj hpair
      obtain ⟨⟨rest, final⟩, hrun, hanswers⟩ := Option.map_eq_some_iff.mp hrest
      obtain ⟨rfl, rfl⟩ := Prod.mk.inj hanswers
      have hindex := ih hrun
      by_cases hsame : called = index
      · subst hsame
        rw [Function.update_self] at hindex
        rw [eventsOf_cons_self, eventsOf_cons_self, run_cons, hcall, Option.bind_some]
        dsimp only
        rw [hindex]
        rfl
      · rw [Function.update_of_ne (Ne.symm hsame)] at hindex
        rw [eventsOf_cons_of_ne hsame, eventsOf_cons_of_ne hsame]
        exact hindex

/-- All calls are answered if the own calls of each machine are. -/
theorem run_isSome
    (h : ∀ index, (machine.run (eventsOf index calls) (states index)).isSome) :
    ∃ answers last, machine.many.run calls states = some (answers, last) := by
  induction calls generalizing states with
  | nil => exact ⟨[], states, rfl⟩
  | cons call calls ih =>
      obtain ⟨called, call⟩ := call
      have hcalled := h called
      rw [eventsOf_cons_self, run_cons] at hcalled
      cases hcall : machine call (states called) with
      | none =>
          rw [hcall] at hcalled
          contradiction
      | some answered =>
          obtain ⟨answer, next⟩ := answered
          rw [hcall, Option.bind_some, Option.isSome_map] at hcalled
          obtain ⟨answers, last, hrun⟩ := @ih (Function.update states called next) fun index => by
            by_cases hsame : called = index
            · subst hsame
              rw [Function.update_self]
              exact hcalled
            · have hindex := h index
              rw [eventsOf_cons_of_ne hsame] at hindex
              rw [Function.update_of_ne (Ne.symm hsame)]
              exact hindex
          have hfirst : machine.many (called, call) states =
              some ((called, answer), Function.update states called next) := by
            unfold many
            rw [hcall]
            rfl
          refine ⟨(called, answer) :: answers, last, ?_⟩
          rw [run_cons, hfirst, Option.bind_some]
          dsimp only
          rw [hrun]
          rfl

end Machine

end Gba.Library
