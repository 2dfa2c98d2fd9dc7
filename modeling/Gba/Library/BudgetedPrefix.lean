import Mathlib.Data.List.Infix
import Mathlib.Order.Basic

/-!
# Items within a budget

Items are taken in order while a budget lasts. An item consists of units and is taken in part where
the budget pays only some of them, which ends the run. What is taken is a prefix of the items, its
work stays within the budget, and no item that is left out would have fitted.
-/

namespace Gba.Library

variable {α : Type}

/-- The units of an item, the work of a number of its units, and the units that a budget pays. -/
structure Costs (α : Type) where
  size : α → Nat
  work : α → Nat → Nat
  share : Nat → α → Nat

namespace Costs

/-- The work of a whole item. -/
def whole (costs : Costs α) (item : α) : Nat := costs.work item (costs.size item)

/-- A share takes all of an item that fits, and of another one as much as fits, up to less than the
`least` work of an item. -/
structure Fair (costs : Costs α) (least : Nat) (item : α) : Prop where
  least_le : least ≤ costs.whole item
  work_pos : ∀ units, 0 < units → 0 < costs.work item units
  size_pos : 0 < costs.size item
  share_whole : ∀ budget, costs.whole item ≤ budget → costs.share budget item = costs.size item
  share_le : ∀ budget, costs.share budget item ≤ costs.size item
  work_share : ∀ budget, 0 < costs.share budget item →
    costs.work item (costs.share budget item) ≤ budget
  share_tight : ∀ budget, budget < costs.whole item → 0 < costs.share budget item →
    budget < costs.work item (costs.share budget item) + least

/-- The items that a budget pays in order, each with its units that are paid. -/
def fill (costs : Costs α) : List α → Nat → List (α × Nat)
  | [], _ => []
  | item :: rest, budget =>
      if costs.share budget item = 0 then []
      else (item, costs.share budget item) :: costs.fill rest (budget - costs.whole item)

/-- The work of the parts. -/
def total (costs : Costs α) : List (α × Nat) → Nat
  | [] => 0
  | part :: rest => costs.work part.1 part.2 + costs.total rest

/-- The parts that are taken of items within a budget: an item that does not fit is taken in part, if
at all, and ends the run. -/
inductive Admits (costs : Costs α) : List α → Nat → List (α × Nat) → Prop where
  | nil (budget) : Admits costs [] budget []
  | none (item rest budget) : budget < costs.whole item → Admits costs (item :: rest) budget []
  | part (item rest budget) : budget < costs.whole item → 0 < costs.share budget item →
      Admits costs (item :: rest) budget [(item, costs.share budget item)]
  | whole (item rest budget parts) : costs.whole item ≤ budget →
      Admits costs rest (budget - costs.whole item) parts →
        Admits costs (item :: rest) budget ((item, costs.size item) :: parts)

variable {costs : Costs α} {least : Nat} {item : α} {items : List α} {budget : Nat}

namespace Fair

theorem share_zero (h : costs.Fair least item) : costs.share 0 item = 0 := by
  by_contra hshare
  have hpos := Nat.pos_of_ne_zero hshare
  exact absurd (h.work_share 0 hpos) (Nat.not_le.mpr (h.work_pos _ hpos))

end Fair

/-- Nothing is taken once the budget is used up. -/
theorem fill_zero (h : ∀ item ∈ items, costs.Fair least item) : costs.fill items 0 = [] := by
  cases items with
  | nil => rfl
  | cons item rest =>
    unfold fill
    rw [if_pos (h item (List.mem_cons_self ..)).share_zero]

/-- With fair shares the run is one of these. -/
theorem fill_admits (h : ∀ item ∈ items, costs.Fair least item) :
    costs.Admits items budget (costs.fill items budget) := by
  induction items generalizing budget with
  | nil => exact .nil budget
  | cons item rest ih =>
    have hitem := h item (List.mem_cons_self ..)
    have hrest : ∀ other ∈ rest, costs.Fair least other :=
      fun other hother => h other (List.mem_cons_of_mem _ hother)
    unfold fill
    by_cases hfits : costs.whole item ≤ budget
    · have hshare := hitem.share_whole budget hfits
      rw [if_neg (by rw [hshare]; exact hitem.size_pos.ne'), hshare]
      exact .whole item rest budget _ hfits (ih hrest)
    · split
      · exact .none item rest budget (Nat.not_le.mp hfits)
      · next hshare =>
        -- an item in part uses the budget up
        have hnone : budget - costs.whole item = 0 := by omega
        rw [hnone, fill_zero hrest]
        exact .part item rest budget (Nat.not_le.mp hfits) (Nat.pos_of_ne_zero hshare)

namespace Admits

variable {parts : List (α × Nat)}

/-- The items taken are the first ones. -/
theorem isPrefix (h : costs.Admits items budget parts) : parts.map Prod.fst <+: items := by
  induction h with
  | nil budget => exact List.nil_prefix
  | none item rest budget _ => exact List.nil_prefix
  | part item rest budget _ _ => exact ⟨rest, rfl⟩
  | whole item rest budget parts _ _ ih => exact (List.prefix_cons_inj item).mpr ih

/-- Some units of every item that is taken are paid, and no more than it has. -/
theorem units (h : costs.Admits items budget parts) (hfair : ∀ item ∈ items, costs.Fair least item) :
    ∀ part ∈ parts, 0 < part.2 ∧ part.2 ≤ costs.size part.1 := by
  induction h with
  | nil budget => exact fun part hpart => absurd hpart List.not_mem_nil
  | none item rest budget _ => exact fun part hpart => absurd hpart List.not_mem_nil
  | part item rest budget _ hshare =>
    intro part hpart
    obtain rfl := List.mem_singleton.mp hpart
    exact ⟨hshare, (hfair item (List.mem_cons_self ..)).share_le budget⟩
  | whole item rest budget parts _ _ ih =>
    intro part hpart
    rcases List.mem_cons.mp hpart with rfl | hpart
    · exact ⟨(hfair item (List.mem_cons_self ..)).size_pos, le_rfl⟩
    · exact ih (fun other hother => hfair other (List.mem_cons_of_mem _ hother)) part hpart

/-- Only the last item may be taken in part. -/
theorem whole_dropLast (h : costs.Admits items budget parts) :
    ∀ part ∈ parts.dropLast, part.2 = costs.size part.1 := by
  induction h with
  | nil budget => exact fun part hpart => absurd hpart List.not_mem_nil
  | none item rest budget _ => exact fun part hpart => absurd hpart List.not_mem_nil
  | part item rest budget _ _ => exact fun part hpart => absurd hpart List.not_mem_nil
  | whole item rest budget parts _ _ ih =>
    intro part hpart
    cases parts with
    | nil => exact absurd hpart List.not_mem_nil
    | cons next others =>
      rw [List.dropLast_cons_cons] at hpart
      rcases List.mem_cons.mp hpart with rfl | hpart
      · rfl
      · exact ih part hpart

/-- The work stays within the budget. -/
theorem total_le (h : costs.Admits items budget parts)
    (hfair : ∀ item ∈ items, costs.Fair least item) : costs.total parts ≤ budget := by
  induction h with
  | nil budget => exact Nat.zero_le _
  | none item rest budget _ => exact Nat.zero_le _
  | part item rest budget _ hshare =>
    exact (hfair item (List.mem_cons_self ..)).work_share budget hshare
  | whole item rest budget parts hfits _ ih =>
    have hlater := ih fun other hother => hfair other (List.mem_cons_of_mem _ hother)
    show costs.whole item + costs.total parts ≤ budget
    omega

/-- An item that is left out would not have fitted. -/
theorem left_out (h : costs.Admits items budget parts)
    (hfair : ∀ item ∈ items, costs.Fair least item) {next : α}
    (hnext : parts.map Prod.fst ++ [next] <+: items) :
    budget < costs.total parts + costs.whole next := by
  induction h with
  | nil budget => exact absurd (List.prefix_nil.mp hnext) (List.cons_ne_nil _ _)
  | none item rest budget hlarge =>
    obtain ⟨rfl, -⟩ := List.cons_prefix_cons.mp hnext
    exact hlarge.trans_eq (Nat.zero_add _).symm
  | part item rest budget hlarge hshare =>
    obtain ⟨-, hlater⟩ := List.cons_prefix_cons.mp hnext
    have hmem : next ∈ rest := hlater.subset (List.mem_singleton_self next)
    have hleast := (hfair next (List.mem_cons_of_mem _ hmem)).least_le
    have htight := (hfair item (List.mem_cons_self ..)).share_tight budget hlarge hshare
    show budget < costs.work item (costs.share budget item) + 0 + costs.whole next
    omega
  | whole item rest budget parts hfits _ ih =>
    obtain ⟨-, hlater⟩ := List.cons_prefix_cons.mp hnext
    have hlast := ih (fun other hother => hfair other (List.mem_cons_of_mem _ hother)) hlater
    show budget < costs.whole item + costs.total parts + costs.whole next
    omega

end Admits

end Costs

end Gba.Library
