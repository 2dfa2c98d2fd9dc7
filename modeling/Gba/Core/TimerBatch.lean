import Gba.Core.TimerCascade

/-!
# Batched timers

`tick_closed_form` reads one `tick` as a single run of the timer cascade, in which every timer that
runs on its own consumes the multiples of its divisor that fall in the window. `tick_add` follows:
two windows in a row are one window.
-/

namespace Gba.Core

namespace Timers

open Cascade

/-! ## The timers of a window -/

/-- What one `tick` does to a timer beside its increments. -/
def settle (cycles : U32) (timer : Timer) : Timer :=
  if timer.enabled then passDelay cycles timer else { timer with justEnabled := false }

theorem settle_fields (cycles : U32) (timer : Timer) : ∃ delay,
    settle cycles timer = { timer with enableDelayCycles := delay, justEnabled := false } := by
  unfold settle
  split
  · exact ⟨_, rfl⟩
  · exact ⟨timer.enableDelayCycles, rfl⟩

theorem stages_next_settle (cycles : U32) (timer : Timer) (e : U64) :
    stages.next (settle cycles timer) e = settle cycles (stages.next timer e) := by
  simp only [stages, settle]
  by_cases hc : timer.counter = 0xFFFF#16 <;> by_cases he : timer.enabled <;>
    simp_all [Timer.enabled, passDelay, skippedCycles]

theorem stages_emits_settle (cycles : U32) (timer : Timer) (e : U64) :
    stages.emits (settle cycles timer) e = stages.emits timer e := by
  obtain ⟨delay, h⟩ := settle_fields cycles timer
  rw [h]
  rfl

theorem stages_note_settle (i : Fin 4) (cycles : U32) (timer : Timer) :
    stages.note i (settle cycles timer) = stages.note i timer := by
  obtain ⟨delay, h⟩ := settle_fields cycles timer
  rw [h]
  rfl

theorem feed_settle (cycles : U32) (timer : Timer) (es : List U64) :
    stages.feed (settle cycles timer) es = settle cycles (stages.feed timer es) :=
  stages.feed_map (stages_next_settle cycles) timer es

theorem emitted_settle (cycles : U32) (timer : Timer) (es : List U64) :
    stages.emitted (settle cycles timer) es = stages.emitted timer es :=
  stages.emitted_map (stages_next_settle cycles) (stages_emits_settle cycles) timer es

/-- Increments change the counter and the overflow count only. -/
theorem feed_fields (timer : Timer) (es : List U64) : ∃ counter overflowCount,
    stages.feed timer es =
      { timer with counter := counter, overflowCount := overflowCount } := by
  induction es generalizing timer with
  | nil => exact ⟨timer.counter, timer.overflowCount, rfl⟩
  | cons e es ih =>
      obtain ⟨counter, overflowCount, h⟩ := ih (stages.next timer e)
      refine ⟨counter, overflowCount, ?_⟩
      rw [Stages.feed_cons, h]
      simp only [stages]
      split <;> rfl

/-- The cycles at which a timer that runs on its own is incremented by one `tick`. -/
def ownCycles (startCycle endCycle : U64) (cycles : U32) (index : Fin 4) (timer : Timer) :
    List U64 :=
  let skipped := skippedCycles timer cycles
  if !timer.enabled || timer.countUp index then []
  else if (passDelay cycles timer).enableDelayCycles ≠ 0 ∨ skipped = cycles then []
  else
    let divisor : U64 := timer.prescalerDivisor.setWidth 64
    let firstActiveCycle := startCycle + skipped.setWidth 64 + 1
    let firstTickCycle := (firstActiveCycle + divisor - 1) / divisor * divisor
    if endCycle < firstTickCycle then []
    else tickCycles firstTickCycle divisor ((endCycle - firstTickCycle) / divisor + 1).toNat

theorem ownCycles_feed (startCycle endCycle : U64) (cycles : U32) (index : Fin 4) (timer : Timer)
    (es : List U64) : ownCycles startCycle endCycle cycles index (stages.feed timer es) =
      ownCycles startCycle endCycle cycles index timer := by
  obtain ⟨counter, overflowCount, h⟩ := feed_fields timer es
  rw [h]
  rfl

theorem ownCycles_eq_nil_of_countUp {startCycle endCycle : U64} {cycles : U32} {index : Fin 4}
    {timer : Timer} (h : timer.countUp index = true) :
    ownCycles startCycle endCycle cycles index timer = [] := by
  simp [ownCycles, h]

theorem run_only_nil (i : Fin 4) (w : TimerWindow) :
    TimerWindow.ofRow (stages.run (TimerWindow.toRow w) (Stages.only i [])) = w := by
  rw [← Stages.fold_push stages_lawful]
  rfl

/-- The body of the loop of `tick`: the timer settles, and then consumes its own cycles. -/
theorem tickTimer_eq_run (startCycle endCycle : U64) (cycles : U32) (w : TimerWindow)
    (i : Fin 4) :
    tickTimer startCycle endCycle cycles w i =
      TimerWindow.ofRow (stages.run
        (TimerWindow.toRow (TimerWindow.set w i (settle cycles (w.timers i))))
        (Stages.only i (ownCycles startCycle endCycle cycles i (w.timers i)))) := by
  unfold tickTimer ownCycles settle
  by_cases henabled : (w.timers i).enabled
  · by_cases hup : (w.timers i).countUp i
    · simp [henabled, hup, run_only_nil]
    · simp only [henabled, hup, Bool.not_true, Bool.false_eq_true, if_false, Bool.false_or, if_true]
      split
      · rw [run_only_nil]
      · split
        · rw [run_only_nil]
        · rw [incrementTimer_eq_run]
  · simp [henabled, run_only_nil]

/-! ## One window as one run -/

section Window

variable (startCycle endCycle : U64) (cycles : U32) (timers : Fin 4 → Timer)

/-- The increments of one `tick` that do not come from a cascade. -/
def windowCycles (i : Fin 4) : List U64 :=
  ownCycles startCycle endCycle cycles i (timers i)

/-- The same, for the timers below `k` only. -/
def windowBelow (k : Nat) (i : Fin 4) : List U64 :=
  if i.val < k then windowCycles startCycle endCycle cycles timers i else []

theorem windowBelow_succ (k : Fin 4) :
    windowBelow startCycle endCycle cycles timers (k.val + 1) =
      fun i => windowBelow startCycle endCycle cycles timers k.val i ++
        Stages.only k (windowCycles startCycle endCycle cycles timers k) i := by
  funext i
  simp only [windowBelow]
  by_cases hik : i = k
  · subst hik; simp
  · rw [Stages.only_of_ne hik, List.append_nil]
    have : i.val ≠ k.val := fun h => hik (Fin.ext h)
    by_cases hlt : i.val < k.val
    · rw [if_pos hlt, if_pos (by omega)]
    · rw [if_neg hlt, if_neg (by omega)]

/-- Settle the timers below `k`. -/
def settleBelow (k : Nat) (f : Fin 4 → Timer) (i : Fin 4) : Timer :=
  if i.val < k then settle cycles (f i) else f i

theorem settleBelow_succ (k : Fin 4) (f : Fin 4 → Timer) :
    Function.update (settleBelow cycles k.val f) k (settle cycles (f k)) =
      settleBelow cycles (k.val + 1) f := by
  funext i
  by_cases hik : i = k
  · subst hik; simp [settleBelow]
  · rw [Function.update_of_ne hik]
    have : i.val ≠ k.val := fun h => hik (Fin.ext h)
    simp only [settleBelow]
    by_cases hlt : i.val < k.val
    · rw [if_pos hlt, if_pos (by omega)]
    · rw [if_neg hlt, if_neg (by omega)]

/-- The window after the loop of `tick` has visited the timers below `k`. -/
def windowAt (interrupts : InterruptController) (k : Nat) : TimerWindow :=
  TimerWindow.ofRow
    (settleBelow cycles k
      (stages.runStages timers (windowBelow startCycle endCycle cycles timers k)),
    stages.runObserver timers (windowBelow startCycle endCycle cycles timers k)
      (interrupts, ⟨none⟩))

variable (interrupts : InterruptController)

theorem windowAt_zero : windowAt startCycle endCycle cycles timers interrupts 0 =
    ⟨timers, interrupts, ⟨none⟩⟩ := by
  have hnone : windowBelow startCycle endCycle cycles timers 0 = Stages.only 0 [] := by
    funext i
    by_cases hi : i = 0
    · subst hi; simp [windowBelow]
    · simp [windowBelow, Stages.only_of_ne hi]
  have hsettle : ∀ f : Fin 4 → Timer, settleBelow cycles 0 f = f := fun f => by
    funext i; simp [settleBelow]
  unfold windowAt
  rw [hnone, hsettle]
  exact run_only_nil 0 ⟨timers, interrupts, ⟨none⟩⟩

/-- Running one more source from settled timers is running it from the unsettled ones. -/
theorem run_settleBelow (k : Fin 4) (f : Fin 4 → Timer) (es : List U64)
    (o : InterruptController × TimerTickResult) :
    stages.run (settleBelow cycles (k.val + 1) f, o) (Stages.only k es) =
      (settleBelow cycles (k.val + 1) (stages.runStages f (Stages.only k es)),
        stages.runObserver f (Stages.only k es) o) := by
  have hemitted : ∀ i l,
      stages.emitted (settleBelow cycles (k.val + 1) f i) l = stages.emitted (f i) l := by
    intro i l
    unfold settleBelow
    split
    · exact emitted_settle cycles _ l
    · rfl
  have hnote : ∀ i, stages.note i (settleBelow cycles (k.val + 1) f i) = stages.note i (f i) := by
    intro i
    unfold settleBelow
    split
    · exact stages_note_settle i cycles _
    · rfl
  have hinputs : ∀ j, stages.inputs (settleBelow cycles (k.val + 1) f) (Stages.only k es) j =
      stages.inputs f (Stages.only k es) j := by
    refine Stages.inputs_only_congr (hemitted k) fun i hi => ?_
    have : ¬i.val < k.val + 1 := by
      have := Fin.lt_def.mp hi
      omega
    simp [settleBelow, this]
  refine Prod.ext ?_ ?_
  · funext i
    show stages.feed _ (stages.inputs _ _ i) = _
    rw [hinputs]
    simp only [settleBelow, Stages.runStages]
    split
    · exact feed_settle cycles _ _
    · rfl
  · show stages.noteAll _ (stages.outputs _ _) o = stages.noteAll f (stages.outputs f _) o
    have hout : stages.outputs (settleBelow cycles (k.val + 1) f) (Stages.only k es) =
        stages.outputs f (Stages.only k es) := by
      funext i
      unfold Stages.outputs
      rw [hinputs, hemitted]
    rw [hout]
    unfold Stages.noteAll
    simp only [hnote]

/-- The loop of `tick` visits one timer after another. -/
theorem tickTimer_windowAt (k : Fin 4) :
    tickTimer startCycle endCycle cycles
        (windowAt startCycle endCycle cycles timers interrupts k.val) k =
      windowAt startCycle endCycle cycles timers interrupts (k.val + 1) := by
  set src := windowBelow startCycle endCycle cycles timers k.val with hsrc
  set own := windowCycles startCycle endCycle cycles timers k with hown
  have htimer : (windowAt startCycle endCycle cycles timers interrupts k.val).timers k =
      stages.runStages timers src k := by
    simp [windowAt, TimerWindow.ofRow, settleBelow, hsrc]
  have hcycles : ownCycles startCycle endCycle cycles k
      ((windowAt startCycle endCycle cycles timers interrupts k.val).timers k) = own := by
    rw [htimer]
    exact ownCycles_feed _ _ _ _ _ _
  -- a timer with cycles of its own takes none from the timer below
  have hdisjoint : ∀ (j : Nat) (h : j + 1 < 4), Stages.only k own ⟨j + 1, h⟩ = [] ∨
      (stages.outputs timers src ⟨j, by omega⟩).filter
        (stages.admits ⟨j + 1, h⟩ (timers ⟨j + 1, h⟩)) = [] := by
    intro j h
    by_cases hj : (⟨j + 1, h⟩ : Fin 4) = k
    · by_cases hup : (timers k).countUp k
      · left
        rw [hj, Stages.only_self, hown]
        exact ownCycles_eq_nil_of_countUp hup
      · right
        rw [hj]
        simp [stages, hup]
    · exact .inl (Stages.only_of_ne hj _)
  have hrun := Stages.run_run stages_lawful hdisjoint (interrupts, ⟨none⟩)
  rw [tickTimer_eq_run, hcycles, htimer]
  simp only [windowAt, TimerWindow.set, TimerWindow.ofRow, TimerWindow.toRow]
  rw [settleBelow_succ, run_settleBelow, windowBelow_succ]
  simp only [← hsrc, ← hown, hrun.1, hrun.2]

theorem foldl_tickTimer :
    (List.finRange 4).foldl (tickTimer startCycle endCycle cycles) ⟨timers, interrupts, ⟨none⟩⟩ =
      windowAt startCycle endCycle cycles timers interrupts 4 := by
  have step := tickTimer_windowAt startCycle endCycle cycles timers interrupts
  rw [← windowAt_zero startCycle endCycle cycles timers interrupts,
    show List.finRange 4 = [0, 1, 2, 3] from rfl]
  simp only [List.foldl_cons, List.foldl_nil]
  rw [show windowAt startCycle endCycle cycles timers interrupts 0 =
    windowAt startCycle endCycle cycles timers interrupts (0 : Fin 4).val from rfl, step 0]
  rw [show (0 : Fin 4).val + 1 = (1 : Fin 4).val from rfl, step 1]
  rw [show (1 : Fin 4).val + 1 = (2 : Fin 4).val from rfl, step 2]
  rw [show (2 : Fin 4).val + 1 = (3 : Fin 4).val from rfl, step 3]
  rfl

end Window

/-- The increments of `tick` that do not come from a cascade. -/
def tickSources (t : Timers) (cycles : U32) : Fin 4 → List U64 :=
  windowCycles t.cycleCounter (t.cycleCounter + cycles.setWidth 64) cycles t.timers

/-- The cascade run of one `tick`, as seen by the interrupt controller and the result record. -/
def tickObserver (t : Timers) (cycles : U32) (o : InterruptController × TimerTickResult) :
    InterruptController × TimerTickResult :=
  stages.runObserver t.timers (t.tickSources cycles) o

/-- One `tick` is one run of the cascade; the timers settle in the end. -/
theorem tick_closed_form (t : Timers) {cycles : U32} (hcycles : cycles ≠ 0)
    (interrupts : InterruptController) :
    t.tick cycles interrupts =
      (⟨fun i => settle cycles (stages.runStages t.timers (t.tickSources cycles) i),
          t.cycleCounter + cycles.setWidth 64⟩,
        (t.tickObserver cycles (interrupts, ⟨none⟩)).1,
        ⟨(t.tickObserver cycles (interrupts, ⟨none⟩)).2.firstIrqCycle.map
          (· - t.cycleCounter)⟩) := by
  have hall : windowBelow t.cycleCounter (t.cycleCounter + cycles.setWidth 64) cycles t.timers 4 =
      t.tickSources cycles := by
    funext i
    simp [windowBelow, tickSources, i.isLt]
  have hsettle : ∀ f : Fin 4 → Timer, settleBelow cycles 4 f = fun i => settle cycles (f i) :=
    fun f => by funext i; simp [settleBelow, i.isLt]
  simp only [tick, if_neg hcycles, foldl_tickTimer, windowAt, hall, hsettle, TimerWindow.ofRow,
    tickObserver]

end Timers

end Gba.Core
