import Gba.Core.Timers
import Gba.Library.Cascade

/-!
# The timers as a cascade

Each timer is a stage that consumes the cycles at which its counter increments and passes on those
at which it overflows. `incrementTimer_eq_run` says that the closed-form loop of `increment_timer`,
with its recursion through `handle_overflow`, is a stage-by-stage run of that cascade.
-/

namespace Gba.Core

namespace Timers

open Cascade

/-- The timers as stages: an event is the absolute cycle of one counter increment. -/
def stages : Stages 4 Timer U64 (InterruptController × TimerTickResult) where
  next timer _ :=
    if timer.counter = 0xFFFF#16 then
      { timer with counter := timer.reload, overflowCount := timer.overflowCount + 1 }
    else { timer with counter := timer.counter + 1 }
  emits timer _ := timer.counter == 0xFFFF#16
  admits index timer cycle := timer.enabled && timer.countUp index && !suppressed timer cycle
  note index timer cycle o := if timer.irqEnabled then noteIrq index cycle o else o

/-- The earlier of two cycles. -/
def earlier (cycle : U64) : Option U64 → Option U64
  | none => some cycle
  | some first => if cycle < first then some cycle else some first

theorem earlier_comm (c d : U64) (first : Option U64) :
    earlier d (earlier c first) = earlier c (earlier d first) := by
  cases first with
  | none =>
      simp only [earlier]
      split <;> split <;> first | rfl | (congr 1; bv_omega)
  | some first =>
      by_cases hc : c < first <;> by_cases hd : d < first <;> simp only [earlier, hc, hd, if_true,
        if_false]
      · split <;> split <;> first | rfl | (congr 1; bv_omega)
      · rw [if_neg (by bv_omega)]
      · rw [if_neg (by bv_omega)]

theorem noteIrq_snd (i : Fin 4) (c : U64) (o : InterruptController × TimerTickResult) :
    (noteIrq i c o).2 = ⟨earlier c o.2.firstIrqCycle⟩ := by
  obtain ⟨interrupts, ⟨first⟩⟩ := o
  cases first with
  | none => rfl
  | some first =>
      simp only [noteIrq, earlier]
      split <;> rfl

/-- The order in which IRQs are recorded does not matter. -/
theorem noteIrq_comm (i j : Fin 4) (c d : U64) (o : InterruptController × TimerTickResult) :
    noteIrq j d (noteIrq i c o) = noteIrq i c (noteIrq j d o) := by
  refine Prod.ext (InterruptController.request_comm _ _ _) ?_
  simp only [noteIrq_snd, earlier_comm]

theorem stages_lawful : stages.Lawful where
  admits_next i timer e := by
    funext cycle
    simp only [stages]
    split <;> rfl
  note_next i timer e := by
    funext cycle o
    simp only [stages]
    split <;> rfl
  note_comm i s e j t f o := by
    simp only [stages]
    split <;> split <;> first | rfl | exact noteIrq_comm i j e f o

/-- The window as a row of stages with its observer. -/
def TimerWindow.toRow (w : TimerWindow) :
    (Fin 4 → Timer) × InterruptController × TimerTickResult :=
  (w.timers, w.interrupts, w.result)

/-- A row of stages with its observer as a window. -/
def TimerWindow.ofRow (r : (Fin 4 → Timer) × InterruptController × TimerTickResult) :
    TimerWindow :=
  ⟨r.1, r.2.1, r.2.2⟩

@[simp] theorem TimerWindow.ofRow_toRow (w : TimerWindow) : ofRow (toRow w) = w := rfl

@[simp] theorem TimerWindow.toRow_ofRow
    (r : (Fin 4 → Timer) × InterruptController × TimerTickResult) : toRow (ofRow r) = r := rfl

/-- The cycles of `n` increments that start at `first` and are `stride` cycles apart. -/
def tickCycles (first stride : U64) (n : Nat) : List U64 :=
  (List.range n).map fun j => first + BitVec.ofNat 64 j * stride

theorem tickCycles_add (first stride : U64) (m n : Nat) :
    tickCycles first stride (m + n) =
      tickCycles first stride m ++ tickCycles (first + BitVec.ofNat 64 m * stride) stride n := by
  simp only [tickCycles, List.range_add, List.map_append, List.map_map]
  congr 1
  refine List.map_congr_left fun j _ => ?_
  show first + BitVec.ofNat 64 (m + j) * stride = _
  rw [BitVec.ofNat_add, BitVec.add_mul, BitVec.add_assoc]

theorem ticksToOverflow_pos (timer : Timer) : ticksToOverflow timer ≠ 0 := by
  have := timer.counter.isLt
  have := ticks_to_overflow_toNat timer
  bv_omega

theorem one_lt_ticksToOverflow (timer : Timer) :
    1#64 < ticksToOverflow timer ↔ timer.counter ≠ 0xFFFF#16 := by
  have := timer.counter.isLt
  have := ticks_to_overflow_toNat timer
  constructor
  · intro h; bv_omega
  · intro h; bv_omega

/-- Reloading, counting and raising is what the cascade does at an overflow. -/
theorem countOverflow_toRow (i : Fin 4) (w : TimerWindow) (cycle : U64)
    (hcounter : (w.timers i).counter = 0xFFFF#16) :
    TimerWindow.toRow (countOverflow i cycle
        (TimerWindow.set w i { w.timers i with counter := (w.timers i).reload })) =
      (Function.update w.timers i (stages.next (w.timers i) cycle),
        stages.note i (w.timers i) cycle (w.interrupts, w.result)) := by
  have hnext : stages.next (w.timers i) cycle =
      { w.timers i with
        counter := (w.timers i).reload, overflowCount := (w.timers i).overflowCount + 1 } := by
    simp [stages, hcounter]
  have hirq : ({ w.timers i with counter := (w.timers i).reload } : Timer).irqEnabled =
      (w.timers i).irqEnabled := rfl
  rw [hnext]
  simp only [countOverflow, TimerWindow.set, Function.update_self, Function.update_idem, hirq,
    stages]
  split <;> rfl

/-- An overflow is handled as the cascade handles the event that overflows the counter. -/
theorem handleOverflow_eq_push (i : Fin 4) (w : TimerWindow) (cycle : U64)
    (hcounter : (w.timers i).counter = 0xFFFF#16)
    (hcascade : ∀ (h : i.val + 1 < 4) (w' : TimerWindow),
      incrementTimer ⟨i.val + 1, h⟩ 1 w' cycle 1 =
        TimerWindow.ofRow (stages.push ⟨i.val + 1, h⟩ cycle (TimerWindow.toRow w'))) :
    handleOverflow i
        (TimerWindow.set w i { w.timers i with counter := (w.timers i).reload }) cycle =
      TimerWindow.ofRow (stages.push i cycle (TimerWindow.toRow w)) := by
  have hrow := countOverflow_toRow i w cycle hcounter
  have hemit : stages.emits (w.timers i) cycle = true := by simp [stages, hcounter]
  rw [handleOverflow, Stages.push]
  generalize countOverflow i cycle _ = w₁ at hrow
  obtain ⟨htimers, hobserver⟩ := Prod.ext_iff.mp hrow
  simp only [TimerWindow.toRow] at htimers hobserver
  simp only [TimerWindow.toRow, hemit, if_true]
  simp only [← htimers, ← hobserver]
  by_cases hi : i.val + 1 < 4
  · simp only [dif_pos hi, hcascade hi, TimerWindow.toRow]
    by_cases hup : (w₁.timers ⟨i.val + 1, hi⟩).enabled &&
        (w₁.timers ⟨i.val + 1, hi⟩).countUp ⟨i.val + 1, hi⟩
    · by_cases hsup : suppressed (w₁.timers ⟨i.val + 1, hi⟩) cycle
      · simp [stages, hup, hsup, TimerWindow.ofRow]
      · simp [stages, hup, hsup]
    · simp [stages, hup, TimerWindow.ofRow]
  · simp only [dif_neg hi]
    rfl

/-- One increment of a timer is one event of the cascade. -/
theorem incrementTimer_one (i : Fin 4) (w : TimerWindow) (cycle stride : U64) :
    incrementTimer i 1 w cycle stride =
      TimerWindow.ofRow (stages.push i cycle (TimerWindow.toRow w)) := by
  induction hm : 4 - i.val generalizing i w stride with
  | zero => omega
  | succ m ih =>
      rw [incrementTimer, dif_neg (by decide)]
      dsimp only
      by_cases hlt : (1 : U64) < ticksToOverflow (w.timers i)
      · have hcounter := (one_lt_ticksToOverflow _).mp hlt
        have hemit : stages.emits (w.timers i) cycle = false := by simp [stages, hcounter]
        have hnext : stages.next (w.timers i) cycle =
            { w.timers i with counter := (w.timers i).counter + 1 } := by
          simp [stages, hcounter]
        rw [dif_pos hlt, Stages.push]
        simp [TimerWindow.toRow, TimerWindow.ofRow, hemit, hnext, TimerWindow.set]
      · have hcounter : (w.timers i).counter = 0xFFFF#16 := by
          by_contra h
          exact hlt ((one_lt_ticksToOverflow _).mpr h)
        have hone : ticksToOverflow (w.timers i) = 1 := by
          simp [ticksToOverflow, hcounter]
        rw [dif_neg hlt, hone]
        simp only [BitVec.sub_self]
        rw [incrementTimer, dif_pos (show (0#64 : U64) = 0 from rfl)]
        simp only [BitVec.zero_mul, BitVec.add_zero]
        exact handleOverflow_eq_push i w cycle hcounter
          fun h w' => ih ⟨i.val + 1, h⟩ w' 1 (by simp only; omega)

/-- Increments that do not reach the overflow only advance the counter. -/
theorem foldl_push_quiet (i : Fin 4) (es : List U64) (w : TimerWindow)
    (h : es.length < (ticksToOverflow (w.timers i)).toNat) :
    es.foldl (fun r e => stages.push i e r) (TimerWindow.toRow w) =
      TimerWindow.toRow (TimerWindow.set w i
        { w.timers i with counter := (w.timers i).counter + BitVec.ofNat 16 es.length }) := by
  induction es generalizing w with
  | nil => simp [TimerWindow.toRow, TimerWindow.set]
  | cons e es ih =>
      rw [ticks_to_overflow_toNat, List.length_cons] at h
      have hcounter : (w.timers i).counter ≠ 0xFFFF#16 := by
        intro heq
        rw [heq] at h
        simp at h
      have hpush : stages.push i e (TimerWindow.toRow w) = TimerWindow.toRow
          (TimerWindow.set w i { w.timers i with counter := (w.timers i).counter + 1 }) := by
        rw [Stages.push]
        simp [TimerWindow.toRow, TimerWindow.set, stages, hcounter]
      have hsucc : ((w.timers i).counter + 1).toNat = (w.timers i).counter.toNat + 1 := by
        bv_omega
      rw [List.foldl_cons, hpush, ih]
      · have hsum : (w.timers i).counter + 1 + BitVec.ofNat 16 es.length =
            (w.timers i).counter + BitVec.ofNat 16 (es.length + 1) := by
          rw [BitVec.add_assoc, Nat.add_comm es.length 1, BitVec.ofNat_add]
          rfl
        simp only [TimerWindow.set, Function.update_self, Function.update_idem, List.length_cons,
          hsum]
      · rw [ticks_to_overflow_toNat]
        simp only [TimerWindow.set, Function.update_self, hsucc]
        omega

/-- The loop of `increment_timer` consumes its increments one after another. -/
theorem incrementTimer_eq_foldl (i : Fin 4) (ticks : U64) (w : TimerWindow) (first stride : U64) :
    incrementTimer i ticks w first stride =
      TimerWindow.ofRow ((tickCycles first stride ticks.toNat).foldl
        (fun r e => stages.push i e r) (TimerWindow.toRow w)) := by
  induction hm : ticks.toNat using Nat.strong_induction_on generalizing ticks w first with
  | _ m ih =>
      subst hm
      rw [incrementTimer]
      by_cases hzero : ticks = 0
      · subst hzero
        rw [dif_pos rfl]
        rfl
      rw [dif_neg hzero]
      dsimp only
      by_cases hlt : ticks < ticksToOverflow (w.timers i)
      · have hlen : (tickCycles first stride ticks.toNat).length = ticks.toNat := by
          simp [tickCycles]
        rw [dif_pos hlt, foldl_push_quiet _ _ _ (by rw [hlen]; exact hlt), hlen,
          TimerWindow.ofRow_toRow]
        congr 3
      · -- all increments up to the overflow, the overflow itself, and the rest of the batch
        have hle : ticksToOverflow (w.timers i) ≤ ticks := BitVec.not_lt.mp hlt
        have hpos := ticksToOverflow_pos (w.timers i)
        set k := ticksToOverflow (w.timers i) with hk
        have hrest : (ticks - k).toNat = ticks.toNat - k.toNat := by bv_omega
        have hsplit : ticks.toNat = (k.toNat - 1) + (1 + (ticks - k).toNat) := by bv_omega
        have hkpos : 0 < k.toNat := by bv_omega
        have hpred : BitVec.ofNat 64 (k.toNat - 1) = k - 1 := by bv_omega
        have hquiet := foldl_push_quiet i (tickCycles first stride (k.toNat - 1)) w
          (by rw [← hk]; simp [tickCycles]; omega)
        have hfull : (w.timers i).counter + BitVec.ofNat 16 (k.toNat - 1) = 0xFFFF#16 := by
          have := ticks_to_overflow_toNat (w.timers i)
          have := (w.timers i).counter.isLt
          bv_omega
        rw [dif_neg hlt, ih _ (by omega) _ _ _ rfl, hsplit, tickCycles_add, tickCycles_add,
          List.foldl_append, List.foldl_append, hquiet, hpred]
        simp only [tickCycles, List.length_map, List.length_range, hfull] at hquiet ⊢
        rw [show (List.range 1) = [0] from rfl]
        simp only [List.map_cons, List.map_nil, List.foldl_cons, List.foldl_nil, BitVec.zero_mul,
          BitVec.add_zero, BitVec.ofNat_eq_ofNat, BitVec.one_mul]
        have hover := handleOverflow_eq_push i
          (TimerWindow.set w i { w.timers i with counter := 0xFFFF#16 })
          (first + (k - 1#64) * stride) (by simp [TimerWindow.set])
          fun h w' => incrementTimer_one _ _ _ _
        simp only [TimerWindow.set, Function.update_self, Function.update_idem] at hover
        simp only [TimerWindow.set]
        rw [hover]
        simp only [TimerWindow.toRow_ofRow]

/-- The loop of `increment_timer` is a stage-by-stage run of the cascade. -/
theorem incrementTimer_eq_run (i : Fin 4) (ticks : U64) (w : TimerWindow) (first stride : U64) :
    incrementTimer i ticks w first stride =
      TimerWindow.ofRow (stages.run (TimerWindow.toRow w)
        (Stages.only i (tickCycles first stride ticks.toNat))) := by
  rw [incrementTimer_eq_foldl, Stages.fold_push stages_lawful]

end Timers

end Gba.Core
