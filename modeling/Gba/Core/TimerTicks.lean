import Gba.Core.TimerSplit

/-!
# Batched ticks are single ticks

`tick_add` splits one window of the timers into two, and `tick_eq_tickSingly` reduces a window to
single-cycle ticks, including the cycle of the first timer IRQ.
-/

namespace Gba.Core

namespace Timers

open Cascade

/-! ## Two windows in a row -/

/-- The cycles of a window lie after its start and not after its end. -/
theorem mem_tickSources {t : Timers} {cycles : U32} (hroom : t.Headroom cycles.toNat) {i : Fin 4}
    {e : U64} (he : e ∈ t.tickSources cycles i) :
    t.cycleCounter.toNat + (t.timers i).enableDelayCycles.toNat < e.toNat ∧
      e.toNat ≤ t.cycleCounter.toNat + cycles.toNat := by
  have hcycles := cycles.isLt
  unfold Headroom at hroom
  unfold tickSources windowCycles at he
  rw [ownCycles_eq_multiples hroom] at he
  split at he
  · obtain ⟨x, hx, rfl⟩ := List.mem_map.mp he
    obtain ⟨hlow, hhigh, -⟩ := mem_multiples.mp hx
    rw [BitVec.toNat_ofNat, Nat.mod_eq_of_lt (by omega)]
    omega
  · simp at he

section TwoWindows

variable {t : Timers} {first second : U32} (interrupts : InterruptController)

/-- The first window changes no control register and ends every delay. -/
theorem tick_timers_fields (h : t.WellTimed) (hfirst : first ≠ 0) (i : Fin 4) :
    ((t.tick first interrupts).1.timers i).control = (t.timers i).control ∧
      ((t.tick first interrupts).1.timers i).enableDelayCycles = 0 ∧
      ((t.tick first interrupts).1.timers i).enabledAtCycle = (t.timers i).enabledAtCycle := by
  obtain ⟨counter, overflowCount, hfeed⟩ := feed_fields (t.timers i)
    (stages.inputs t.timers (t.tickSources first) i)
  rw [h.tick_timer hfirst]
  simp only [Stages.runStages, hfeed, and_self]

theorem tick_cycleCounter :
    (t.tick first interrupts).1.cycleCounter = t.cycleCounter + first.setWidth 64 := by
  by_cases hfirst : first = 0
  · subst hfirst
    simp [tick]
  · rw [tick_closed_form t hfirst]

/-- The own cycles of two windows in a row are those of the whole window. -/
theorem tickSources_append (h : t.WellTimed) (hfirst : first ≠ 0)
    (hsum : first.toNat + second.toNat < 2 ^ 32)
    (hroom : t.Headroom (first.toNat + second.toNat)) (i : Fin 4) :
    t.tickSources first i ++ (t.tick first interrupts).1.tickSources second i =
      t.tickSources (first + second) i := by
  unfold Headroom at hroom
  obtain ⟨hcontrol, hended, -⟩ := tick_timers_fields interrupts h hfirst i
  have hadd : (first + second).toNat = first.toNat + second.toNat := by bv_omega
  have hmid : (t.cycleCounter + first.setWidth 64).toNat =
      t.cycleCounter.toNat + first.toNat := by bv_omega
  have hdelay : (t.timers i).enableDelayCycles.toNat ≤ first.toNat := by
    have := (h i).delay_le
    bv_omega
  unfold tickSources windowCycles
  rw [tick_cycleCounter interrupts, ownCycles_eq_multiples (by omega),
    ownCycles_eq_multiples (by omega), ownCycles_eq_multiples (by omega), hmid, hadd, hended]
  have henabled : ((t.tick first interrupts).1.timers i).enabled = (t.timers i).enabled := by
    simp only [Timer.enabled, hcontrol]
  have hup : ((t.tick first interrupts).1.timers i).countUp i = (t.timers i).countUp i := by
    simp only [Timer.countUp, hcontrol]
  have hdivisor : ((t.tick first interrupts).1.timers i).prescalerDivisor =
      (t.timers i).prescalerDivisor := by
    simp only [Timer.prescalerDivisor, hcontrol]
  simp only [henabled, hup, hdivisor]
  split
  · have hsplit := multiples_append (t.timers i).prescalerDivisor.toNat
      (t.cycleCounter.toNat + (t.timers i).enableDelayCycles.toNat + 1)
      (first.toNat - (t.timers i).enableDelayCycles.toNat) second.toNat
    rw [← List.map_append, show t.cycleCounter.toNat + first.toNat + (0 : U32).toNat + 1 =
        t.cycleCounter.toNat + (t.timers i).enableDelayCycles.toNat + 1 +
          (first.toNat - (t.timers i).enableDelayCycles.toNat) by
      rw [show (0 : U32).toNat = 0 from rfl]; omega,
      show second.toNat - (0 : U32).toNat = second.toNat from rfl, hsplit]
    congr 2
    omega
  · rfl

/-- A cascade event of the second window is suppressed by no enable delay. -/
theorem admits_second (h : t.WellTimed) (hfirst : first ≠ 0)
    (hroom : t.Headroom (first.toNat + second.toNat)) (i : Fin 4) {e : U64} {k : Fin 4}
    (he : e ∈ (t.tick first interrupts).1.tickSources second k) :
    stages.admits i ((t.tick first interrupts).1.timers i) e =
      stages.admits i (t.timers i) e := by
  unfold Headroom at hroom
  obtain ⟨hcontrol, hended, hanchor⟩ := tick_timers_fields interrupts h hfirst i
  have hmid : (t.tick first interrupts).1.cycleCounter.toNat =
      t.cycleCounter.toNat + first.toNat := by
    rw [tick_cycleCounter interrupts]
    bv_omega
  have hlate := (mem_tickSources (by unfold Headroom; omega) he).1
  have hsuppressed : suppressed ((t.tick first interrupts).1.timers i) e =
      suppressed (t.timers i) e := by
    unfold suppressed
    rw [hended, hanchor]
    by_cases hdelay : (t.timers i).enableDelayCycles = 0
    · rw [hdelay]
    · have hnow := ((h i).pending (.inl hdelay)).2
      have hone := (h i).delay_le
      rw [hnow, decide_eq_false (by bv_omega), decide_eq_false (by bv_omega)]
  simp only [stages, Timer.enabled, Timer.countUp, hcontrol, hsuppressed]

/-- What the timers consume in the whole window is what they consume in one half after the
other. -/
theorem inputs_tick (h : t.WellTimed) (hfirst : first ≠ 0)
    (hsum : first.toNat + second.toNat < 2 ^ 32)
    (hroom : t.Headroom (first.toNat + second.toNat)) (i : Fin 4) :
    stages.inputs t.timers (t.tickSources (first + second)) i =
      stages.inputs t.timers (t.tickSources first) i ++
        stages.inputs (t.tick first interrupts).1.timers
          ((t.tick first interrupts).1.tickSources second) i := by
  have happend := tickSources_append interrupts h hfirst hsum hroom
  rw [← funext happend]
  refine Stages.inputs_append ?_ ?_ ?_ i
  · intro j es
    rw [tick_closed_form t hfirst]
    exact emitted_settle _ _ _
  · intro j hj e he
    obtain ⟨k, hk⟩ := Stages.mem_outputs he
    exact admits_second interrupts h hfirst hroom _ hk
  · -- a timer with cycles of its own takes none from the timer below
    intro j hj
    by_cases hup : (t.timers ⟨j + 1, hj⟩).countUp ⟨j + 1, hj⟩
    · left
      obtain ⟨hcontrol, -⟩ := tick_timers_fields interrupts h hfirst ⟨j + 1, hj⟩
      refine ownCycles_eq_nil_of_countUp ?_
      simpa only [Timer.countUp, hcontrol] using hup
    · right
      simp [stages, hup]

/-- The timers after the whole window. -/
theorem tick_add_timers (h : t.WellTimed) (hfirst : first ≠ 0) (hsecond : second ≠ 0)
    (hsum : first.toNat + second.toNat < 2 ^ 32)
    (hroom : t.Headroom (first.toNat + second.toNat)) :
    (t.tick (first + second) interrupts).1 =
      ((t.tick first interrupts).1.tick second (t.tick first interrupts).2.1).1 := by
  have hnonzero : first + second ≠ 0 := by bv_omega
  have hwell := h.tick first interrupts
  refine Timers.ext (funext fun i => ?_) ?_
  · rw [h.tick_timer hnonzero, hwell.tick_timer hsecond]
    simp only [Stages.runStages]
    rw [inputs_tick interrupts h hfirst hsum hroom, Stages.feed_append]
    have hfeed : stages.feed ((t.tick first interrupts).1.timers i) =
        fun es => settle first (stages.feed (stages.runStages t.timers (t.tickSources first) i) es) := by
      funext es
      rw [tick_closed_form t hfirst]
      exact feed_settle _ _ _
    obtain ⟨delay, hsettle⟩ := settle_fields first (stages.feed
      (stages.runStages t.timers (t.tickSources first) i)
      (stages.inputs (t.tick first interrupts).1.timers
        ((t.tick first interrupts).1.tickSources second) i))
    rw [hfeed]
    simp only [hsettle]
    rfl
  · rw [tick_cycleCounter, tick_cycleCounter, tick_cycleCounter]
    bv_omega

/-- The overflows of the whole window are those of one half after the other. -/
theorem outputs_tick (h : t.WellTimed) (hfirst : first ≠ 0)
    (hsum : first.toNat + second.toNat < 2 ^ 32)
    (hroom : t.Headroom (first.toNat + second.toNat)) (i : Fin 4) :
    stages.outputs t.timers (t.tickSources (first + second)) i =
      stages.outputs t.timers (t.tickSources first) i ++
        stages.outputs (t.tick first interrupts).1.timers
          ((t.tick first interrupts).1.tickSources second) i := by
  have hemitted : ∀ es, stages.emitted ((t.tick first interrupts).1.timers i) es =
      stages.emitted (stages.runStages t.timers (t.tickSources first) i) es := by
    intro es
    rw [tick_closed_form t hfirst]
    exact emitted_settle _ _ _
  unfold Stages.outputs
  rw [inputs_tick interrupts h hfirst hsum hroom, Stages.emitted_append, hemitted]
  rfl

/-- The observer of the whole window. -/
theorem tickObserver_add (h : t.WellTimed) (hfirst : first ≠ 0)
    (hsum : first.toNat + second.toNat < 2 ^ 32)
    (hroom : t.Headroom (first.toNat + second.toNat))
    (o : InterruptController × TimerTickResult) :
    t.tickObserver (first + second) o =
      (t.tick first interrupts).1.tickObserver second (t.tickObserver first o) := by
  have hnote : ∀ j, stages.note j ((t.tick first interrupts).1.timers j) =
      stages.note j (t.timers j) := by
    intro j
    rw [tick_closed_form t hfirst]
    exact (stages_note_settle j first _).trans (stages_lawful.note_feed j _ _)
  have houtputs := funext (outputs_tick interrupts h hfirst hsum hroom)
  unfold tickObserver Stages.runObserver
  rw [houtputs, ← Stages.noteAll_noteAll stages_lawful]
  unfold Stages.noteAll
  simp only [hnote]

end TwoWindows

/-! ## The first timer IRQ of a window -/

/-- The interrupt controller does not see which cycle was recorded before. -/
theorem tickObserver_fst (t : Timers) (cycles : U32) (interrupts : InterruptController)
    (r s : TimerTickResult) :
    (t.tickObserver cycles (interrupts, r)).1 = (t.tickObserver cycles (interrupts, s)).1 := by
  refine Stages.noteAll_rel (R := fun a b : InterruptController × TimerTickResult => a.1 = b.1)
    ?_ rfl
  intro i e _ a b hab
  simp only [stages]
  split
  · exact congrArg (fun c : InterruptController => c.request (timerInterruptSource i)) hab
  · exact hab

/-- A recorded cycle that is not after any cycle of the window stays. -/
theorem tickObserver_keeps {t : Timers} {cycles : U32} {first : U64}
    (h : ∀ i, ∀ e ∈ t.tickSources cycles i, first ≤ e) (interrupts : InterruptController) :
    (t.tickObserver cycles (interrupts, ⟨some first⟩)).2 = ⟨some first⟩ := by
  refine Stages.noteAll_invariant
    (P := fun a : InterruptController × TimerTickResult => a.2 = ⟨some first⟩) ?_ rfl
  intro i e he a ha
  obtain ⟨k, hk⟩ := Stages.mem_outputs he
  simp only [stages]
  split
  · rw [noteIrq_snd, ha, earlier, if_neg (BitVec.not_lt.mpr (h k e hk))]
  · exact ha

/-- A recorded cycle is a cycle of the window. -/
theorem tickObserver_first_mem {t : Timers} {cycles : U32} {interrupts : InterruptController}
    {first : U64} (h : (t.tickObserver cycles (interrupts, ⟨none⟩)).2 = ⟨some first⟩) :
    ∃ i, first ∈ t.tickSources cycles i := by
  refine (?_ : ∀ first, (t.tickObserver cycles (interrupts, ⟨none⟩)).2 = ⟨some first⟩ →
    ∃ i, first ∈ t.tickSources cycles i) first h
  refine Stages.noteAll_invariant (P := fun a : InterruptController × TimerTickResult =>
    ∀ first, a.2 = ⟨some first⟩ → ∃ i, first ∈ t.tickSources cycles i) ?_ (by simp)
  intro i e he a ha first
  obtain ⟨k, hk⟩ := Stages.mem_outputs he
  simp only [stages]
  split
  · rw [noteIrq_snd]
    cases hold : a.2.firstIrqCycle with
    | none =>
        intro heq
        simp only [earlier, TimerTickResult.mk.injEq, Option.some.injEq] at heq
        exact ⟨k, heq ▸ hk⟩
    | some old =>
        intro heq
        simp only [earlier, TimerTickResult.mk.injEq] at heq
        split at heq
        · exact ⟨k, Option.some.inj heq ▸ hk⟩
        · exact ha first (by rw [← heq, ← hold])
  · exact ha first

/-- `tick` splits into two windows. -/
theorem tick_add {t : Timers} (h : t.WellTimed) {first second : U32}
    (hsum : first.toNat + second.toNat < 2 ^ 32)
    (hroom : t.Headroom (first.toNat + second.toNat)) (interrupts : InterruptController) :
    t.tick (first + second) interrupts =
      let one := t.tick first interrupts
      let two := one.1.tick second one.2.1
      (two.1, two.2.1,
        ⟨one.2.2.firstIrqCycle <|> two.2.2.firstIrqCycle.map (· + first.setWidth 64)⟩) := by
  by_cases hfirst : first = 0
  · subst hfirst
    simp [tick]
  by_cases hsecond : second = 0
  · subst hsecond
    simp [tick]
  have hnonzero : first + second ≠ 0 := by bv_omega
  have hobserver := tickObserver_add interrupts h hfirst hsum hroom (interrupts, ⟨none⟩)
  have hmid : (t.tick first interrupts).1.cycleCounter = t.cycleCounter + first.setWidth 64 :=
    tick_cycleCounter interrupts
  have hlate : ∀ i, ∀ e ∈ (t.tick first interrupts).1.tickSources second i,
      t.cycleCounter.toNat + first.toNat < e.toNat := by
    intro i e he
    unfold Headroom at hroom
    have hnat : (t.cycleCounter + first.setWidth 64).toNat =
        t.cycleCounter.toNat + first.toNat := by bv_omega
    have := (mem_tickSources (by unfold Headroom; rw [hmid, hnat]; omega) he).1
    rw [hmid, hnat] at this
    omega
  have htwo := tick_closed_form (t.tick first interrupts).1 hsecond (t.tick first interrupts).2.1
  have hone : (t.tick first interrupts).2 = ((t.tickObserver first (interrupts, ⟨none⟩)).1,
      ⟨(t.tickObserver first (interrupts, ⟨none⟩)).2.firstIrqCycle.map (· - t.cycleCounter)⟩) := by
    rw [tick_closed_form t hfirst]
  refine Prod.ext (tick_add_timers interrupts h hfirst hsecond hsum hroom) ?_
  simp only [htwo]
  rw [tick_closed_form t hnonzero]
  simp only [hobserver, hone]
  rcases ho : t.tickObserver first (interrupts, ⟨none⟩) with ⟨ic, ⟨_ | cycle⟩⟩
  · -- the first half raised no timer IRQ
    simp only [hmid, Option.map_none, Option.none_or, Option.map_map, Prod.mk.injEq, true_and,
      TimerTickResult.mk.injEq, Option.orElse_eq_orElse, Option.orElse_eq_or]
    congr 1
    funext x
    show x - t.cycleCounter = x - (t.cycleCounter + first.setWidth 64) + first.setWidth 64
    bv_omega
  · -- the first half raised one, and no cycle of the second half is before it
    obtain ⟨k, hk⟩ := tickObserver_first_mem (congrArg Prod.snd ho)
    have hbound := (mem_tickSources (by unfold Headroom at hroom ⊢; omega) hk).2
    have hkeeps : ((t.tick first interrupts).1.tickObserver second (ic, ⟨some cycle⟩)).2 =
        ⟨some cycle⟩ :=
      tickObserver_keeps (fun i e he => by have := hlate i e he; bv_omega) ic
    simp only [hkeeps, Option.map_some, Option.some_or, Prod.mk.injEq, and_true,
      Option.orElse_eq_orElse, Option.orElse_eq_or]
    exact tickObserver_fst _ _ _ _ _

/-! ## Single-cycle ticks -/

/-- `n` calls of `tick(1)`. -/
def tickSingly (t : Timers) (interrupts : InterruptController) :
    Nat → Timers × InterruptController
  | 0 => (t, interrupts)
  | n + 1 =>
      let before := tickSingly t interrupts n
      let r := before.1.tick 1 before.2
      (r.1, r.2.1)

/-- `tick(1)` raises a timer IRQ: it sets a bit of an empty IF register. -/
def raisesIrq (t : Timers) : Bool :=
  (t.tick 1 InterruptController.reset).2.1.interruptFlags != 0

/-- The 1-based index of the first of `n` calls of `tick(1)` that raises a timer IRQ. -/
def firstIrqTick (t : Timers) (interrupts : InterruptController) (n : Nat) : Option Nat :=
  ((List.range n).find? fun k => raisesIrq (tickSingly t interrupts k).1).map (· + 1)

theorem firstIrqTick_succ (t : Timers) (interrupts : InterruptController) (n : Nat) :
    firstIrqTick t interrupts (n + 1) =
      (firstIrqTick t interrupts n <|>
        if raisesIrq (tickSingly t interrupts n).1 then some (n + 1) else none) := by
  unfold firstIrqTick
  rw [List.range_succ, List.find?_append]
  cases (List.range n).find? fun k => raisesIrq (tickSingly t interrupts k).1 with
  | some k => rfl
  | none =>
      simp only [List.find?_cons, List.find?_nil, Option.map_none]
      cases raisesIrq (tickSingly t interrupts n).1 <;> rfl

/-- A request of a timer sets a bit of IF. -/
theorem request_timer_ne_zero (c : InterruptController) (i : Fin 4) :
    (c.request (timerInterruptSource i)).interruptFlags ≠ 0 := by
  have hbit : ∀ j : Fin 4,
      interruptBit (timerInterruptSource j) &&& InterruptController.kSupportedMask ≠ 0 := by decide
  intro hzero
  exact hbit i (BitVec.or_eq_zero_iff.mp hzero).2

/-- The result record tells whether a timer IRQ was raised. -/
theorem tickObserver_isSome (t : Timers) (cycles : U32) (interrupts : InterruptController) :
    (t.tickObserver cycles (interrupts, ⟨none⟩)).2.firstIrqCycle.isSome =
      ((t.tickObserver cycles (InterruptController.reset, ⟨none⟩)).1.interruptFlags != 0) := by
  refine Stages.noteAll_rel
    (R := fun a b : InterruptController × TimerTickResult =>
      a.2.firstIrqCycle.isSome = (b.1.interruptFlags != 0)) ?_ rfl
  intro i e _ a b hab
  simp only [stages]
  split
  · have hsome : (noteIrq i e a).2.firstIrqCycle.isSome = true := by
      rw [noteIrq_snd]
      cases a.2.firstIrqCycle with
      | none => rfl
      | some first =>
          simp only [earlier]
          split <;> rfl
    rw [hsome]
    exact (bne_iff_ne.mpr (request_timer_ne_zero b.1 i)).symm
  · exact hab

/-- One single-cycle tick reports cycle 1 if it raises a timer IRQ, and nothing else. -/
theorem tick_one_result {t : Timers} (hroom : t.Headroom 1) (interrupts : InterruptController) :
    (t.tick 1 interrupts).2.2 = ⟨if raisesIrq t then some 1 else none⟩ := by
  have hone : (1 : U32) ≠ 0 := by decide
  have hsome := tickObserver_isSome t 1 interrupts
  unfold raisesIrq
  rw [tick_closed_form t hone, tick_closed_form t hone]
  simp only [← hsome]
  cases hfirst : (t.tickObserver 1 (interrupts, ⟨none⟩)).2.firstIrqCycle with
  | none => rfl
  | some cycle =>
      obtain ⟨k, hk⟩ := tickObserver_first_mem (TimerTickResult.ext hfirst)
      have hone : t.Headroom (1 : U32).toNat := hroom
      obtain ⟨hlow, hhigh⟩ := mem_tickSources hone hk
      rw [show (1 : U32).toNat = 1 from rfl] at hhigh
      simp only [Option.map_some, Option.isSome_some, if_true, TimerTickResult.mk.injEq,
        Option.some.injEq]
      bv_omega

/-- A batched tick is as many single-cycle ticks, on every reachable state whose cycle counter
keeps the largest divisor below its end. -/
theorem tick_eq_tickSingly {t : Timers} (ht : Reachable t) (n : U32)
    (interrupts : InterruptController) (hroom : t.Headroom n.toNat) :
    t.tick n interrupts =
      ((tickSingly t interrupts n.toNat).1, (tickSingly t interrupts n.toNat).2,
        ⟨(firstIrqTick t interrupts n.toNat).map (BitVec.ofNat 64)⟩) := by
  have hwell := ht.wellTimed
  induction hn : n.toNat generalizing n with
  | zero =>
      have hzero : n = 0 := by bv_omega
      subst hzero
      simp [tick, tickSingly, firstIrqTick]
  | succ m ih =>
      have hm : (BitVec.ofNat 32 m).toNat = m := by bv_omega
      have hsplit : n = BitVec.ofNat 32 m + 1 := by bv_omega
      have hlast : (BitVec.ofNat 32 m : U32).toNat + (1 : U32).toNat = n.toNat := by
        rw [hm, hn]; rfl
      have hbefore := ih (BitVec.ofNat 32 m) (by rw [hm]; unfold Headroom at hroom ⊢; omega) hm
      have hsingle : (tickSingly t interrupts m).1.Headroom 1 := by
        have hcounter : (t.tick (BitVec.ofNat 32 m) interrupts).1.cycleCounter =
            t.cycleCounter + (BitVec.ofNat 32 m).setWidth 64 := tick_cycleCounter interrupts
        rw [hbefore] at hcounter
        unfold Headroom at hroom ⊢
        rw [hcounter]
        bv_omega
      rw [hsplit, tick_add hwell (by omega) (by rwa [hlast]), hbefore]
      have hindex : (1 : U64) + (BitVec.ofNat 32 m).setWidth 64 = BitVec.ofNat 64 (m + 1) := by
        bv_omega
      simp only [tickSingly, firstIrqTick_succ, tick_one_result hsingle, Prod.mk.injEq, true_and,
        TimerTickResult.mk.injEq]
      cases firstIrqTick t interrupts m with
      | some k => rfl
      | none =>
          split
          · simpa using hindex
          · rfl

theorem tick_eq_tickSingly_irq :
    let t := (reset.writeReload 3 0xFFFE).writeControl 3 0x00C0
    t.tick 3 InterruptController.reset =
      ((tickSingly t InterruptController.reset 3).1, (tickSingly t InterruptController.reset 3).2,
        ⟨(firstIrqTick t InterruptController.reset 3).map (BitVec.ofNat 64)⟩) :=
  tick_eq_tickSingly (.writeControl 3 0x00C0 (.writeReload 3 0xFFFE .reset)) 3
    InterruptController.reset (by unfold Headroom; decide)

/-! ## The end of the cycle counter -/

/-- A timer that overflows at every increment. -/
theorem feed_saturated {timer : Timer} (hcounter : timer.counter = 0xFFFF#16)
    (hreload : timer.reload = 0xFFFF#16) (es : List U64) :
    stages.feed timer es =
      { timer with overflowCount := timer.overflowCount + BitVec.ofNat 64 es.length } := by
  induction es generalizing timer with
  | nil => simp
  | cons e es ih =>
      have hnext : stages.next timer e = { timer with overflowCount := timer.overflowCount + 1 } := by
        simp only [stages, hcounter, if_true]
        rw [hreload, ← hcounter]
      rw [Stages.feed_cons, hnext, ih (by simpa using hcounter) (by simpa using hreload)]
      simp only [List.length_cons, Timer.mk.injEq, true_and, and_true]
      bv_omega

/-- A timer that runs on its own consumes its own cycles only. -/
theorem inputs_of_not_countUp {f : Fin 4 → Timer} {src : Fin 4 → List U64} {i : Fin 4}
    (h : (f i).countUp i = false) : stages.inputs f src i = src i := by
  obtain ⟨i, hi⟩ := i
  cases i with
  | zero => rfl
  | succ j => simp [Stages.inputs_succ, stages, h]

/-- The overflow count of a timer that overflows at every increment. -/
theorem tick_saturated {t : Timers} (h : t.WellTimed) {cycles : U32} (hcycles : cycles ≠ 0)
    {i : Fin 4} (hcounter : (t.timers i).counter = 0xFFFF#16)
    (hreload : (t.timers i).reload = 0xFFFF#16) (hup : (t.timers i).countUp i = false)
    (interrupts : InterruptController) :
    (t.tick cycles interrupts).1.timers i =
      { t.timers i with
        overflowCount := (t.timers i).overflowCount +
          BitVec.ofNat 64 (t.tickSources cycles i).length
        enableDelayCycles := 0, justEnabled := false } := by
  rw [h.tick_timer hcycles]
  simp only [Stages.runStages]
  rw [inputs_of_not_countUp hup, feed_saturated hcounter hreload]

/-- Timer 3 with divisor 1024 close to the end of the cycle counter. -/
def nearWrap (cycleCounter : U64) (overflowCount : U64) : Timers where
  timers index :=
    if index.val = 3 then
      ⟨0xFFFF, 0xFFFF, 0x0083, overflowCount, 0, 0, 0xFFFFFFFFFFFFFBFF, false⟩
    else Timer.reset
  cycleCounter := cycleCounter

theorem nearWrap_reachable : Reachable (nearWrap 0xFFFFFFFFFFFFFBFF 0) := by
  refine .loadState (nearWrap 0xFFFFFFFFFFFFFBFF 0).saveState ?_
  rw [loadState, if_pos (by decide)]
  refine congrArg some (Timers.ext (funext fun i => ?_) rfl)
  revert i
  decide

theorem nearWrap_wellTimed (cycleCounter overflowCount : U64) :
    (nearWrap cycleCounter overflowCount).WellTimed := by
  intro i
  refine Timer.wellTimed_of_idle ?_ ?_ _ <;> (simp only [nearWrap]; split <;> rfl)

/-- Only the overflow count of timer 3 and the cycle counter change. -/
theorem nearWrap_tick (cycleCounter overflowCount : U64) {cycles : U32} (hcycles : cycles ≠ 0)
    (interrupts : InterruptController) :
    ((nearWrap cycleCounter overflowCount).tick cycles interrupts).1 =
      nearWrap (cycleCounter + cycles.setWidth 64)
        (overflowCount +
          BitVec.ofNat 64 ((nearWrap cycleCounter overflowCount).tickSources cycles 3).length) := by
  have hwell := nearWrap_wellTimed cycleCounter overflowCount
  refine Timers.ext (funext fun i => ?_) (tick_cycleCounter interrupts)
  by_cases hi : i.val = 3
  · obtain rfl : i = 3 := Fin.ext hi
    rw [tick_saturated hwell hcycles rfl rfl
      (by simp [nearWrap, Timer.countUp, anySet, kTimerCountUpFlag])]
    rfl
  · have htimer : ∀ c o, (nearWrap c o).timers i = Timer.reset := fun _ _ => if_neg hi
    have hup : ((nearWrap cycleCounter overflowCount).timers i).countUp i = false := by
      rw [htimer]
      simp [Timer.countUp, Timer.reset, anySet]
    have hnone : (nearWrap cycleCounter overflowCount).tickSources cycles i = [] := by
      unfold tickSources windowCycles ownCycles
      rw [htimer]
      rfl
    rw [hwell.tick_timer hcycles]
    simp only [Stages.runStages]
    rw [inputs_of_not_countUp hup, hnone, Stages.feed_nil, htimer, htimer]
    rfl

/-- Within one divisor of its end the rounding of the next increment wraps although the cycle
counter does not: two single ticks count `2 ^ 54` overflows more than one tick of two cycles. -/
theorem tick_two_near_wrap :
    Reachable (nearWrap 0xFFFFFFFFFFFFFBFF 0) ∧
      (nearWrap 0xFFFFFFFFFFFFFBFF 0).cycleCounter.toNat + (2 : U32).toNat < 2 ^ 64 ∧
      (((nearWrap 0xFFFFFFFFFFFFFBFF 0).tick 2 InterruptController.reset).1.timers
        3).overflowCount = 1 ∧
      ((tickSingly (nearWrap 0xFFFFFFFFFFFFFBFF 0) InterruptController.reset 2).1.timers
        3).overflowCount = BitVec.ofNat 64 (2 ^ 54 + 1) := by
  have htwo : ((nearWrap 0xFFFFFFFFFFFFFBFF 0).tickSources 2 3).length = 1 := by decide +kernel
  have hone : ((nearWrap 0xFFFFFFFFFFFFFBFF 0).tickSources 1 3).length = 1 := by decide +kernel
  have hwrap : ((nearWrap 0xFFFFFFFFFFFFFC00 1).tickSources 1 3).length = 2 ^ 54 := by
    unfold tickSources windowCycles ownCycles
    rw [if_neg (by decide), if_neg (by decide), if_neg (by decide +kernel), tickCycles,
      List.length_map, List.length_range]
    decide +kernel
  refine ⟨nearWrap_reachable, by decide, ?_, ?_⟩
  · rw [nearWrap_tick _ _ (by decide), htwo]
    rfl
  · simp only [tickSingly]
    rw [nearWrap_tick _ _ (by decide), hone]
    show (((nearWrap 0xFFFFFFFFFFFFFC00 1).tick 1 _).1.timers 3).overflowCount = _
    rw [nearWrap_tick _ _ (by decide), hwrap]
    rfl

end Timers

end Gba.Core
