import Gba.Core.TimerBatch
import Mathlib.Data.List.Sort

/-!
# Splitting a window of timer cycles

The increments of a free-running timer are the multiples of its divisor, so the increments of a
window are those of its two halves. With the invariant `WellTimed` of the enable delays, the cascade
run of the whole window is the run of one half after the other (`tick_add`).
-/

namespace Gba.Core

namespace Timers

open Cascade

/-! ## Multiples of the divisor -/

/-- The multiples of `d` among the `m` numbers from `a` on. -/
def multiples (d a m : Nat) : List Nat :=
  (List.range' a m).filter (d ∣ ·)

theorem multiples_append (d a m n : Nat) :
    multiples d a m ++ multiples d (a + m) n = multiples d a (m + n) := by
  unfold multiples
  rw [← List.filter_append, List.range'_append_1]

theorem mem_multiples {d a m x : Nat} : x ∈ multiples d a m ↔ a ≤ x ∧ x < a + m ∧ d ∣ x := by
  simp [multiples, List.mem_range'_1, and_assoc]

theorem sortedLT_multiples (d a m : Nat) : (multiples d a m).SortedLT :=
  ((List.pairwise_lt_range' (s := a) (n := m)).filter _).sortedLT

/-- The first multiple of `d` that is not below `a`. -/
theorem roundUp_spec {d a : Nat} (hd : 0 < d) :
    a ≤ (a + d - 1) / d * d ∧ (a + d - 1) / d * d < a + d := by
  have hmod := Nat.mod_lt (a + d - 1) hd
  have hdiv := Nat.div_add_mod (a + d - 1) d
  rw [Nat.mul_comm] at hdiv
  omega

/-- A multiple of `d` that is not below `a` is not below the first one. -/
theorem roundUp_le {d a x : Nat} (hd : 0 < d) (hax : a ≤ x) (hdvd : d ∣ x) :
    (a + d - 1) / d * d ≤ x := by
  obtain ⟨k, rfl⟩ := hdvd
  rw [Nat.mul_comm d k]
  refine Nat.mul_le_mul_right d ?_
  rw [Nat.mul_comm] at hax
  calc (a + d - 1) / d ≤ (k * d + (d - 1)) / d := Nat.div_le_div_right (by omega)
    _ = k + (d - 1) / d := by rw [Nat.add_comm, Nat.add_mul_div_right _ _ hd, Nat.add_comm]
    _ = k := by rw [Nat.div_eq_of_lt (by omega), Nat.add_zero]

/-- The multiples of `d` from `a` up to `b` are evenly spaced. -/
theorem multiples_eq_map {d a b : Nat} (hd : 0 < d) (hb : (a + d - 1) / d * d ≤ b) :
    multiples d a (b + 1 - a) =
      (List.range ((b - (a + d - 1) / d * d) / d + 1)).map
        fun j => (a + d - 1) / d * d + j * d := by
  set first := (a + d - 1) / d * d with hfirst
  obtain ⟨hlow, -⟩ := roundUp_spec (a := a) hd
  rw [← hfirst] at hlow
  have hsorted : ((List.range ((b - first) / d + 1)).map fun j => first + j * d).SortedLT := by
    refine List.Pairwise.sortedLT (List.pairwise_map.mpr ?_)
    refine List.pairwise_lt_range.imp fun {j k} hjk => ?_
    have := Nat.mul_lt_mul_of_pos_right hjk hd
    omega
  refine (sortedLT_multiples d a _).eq_of_mem_iff hsorted fun x => ?_
  rw [mem_multiples, List.mem_map]
  constructor
  · rintro ⟨hax, hxb, hdvd⟩
    have hle : first ≤ x := roundUp_le hd hax hdvd
    have hsub : d ∣ x - first := Nat.dvd_sub hdvd ⟨(a + d - 1) / d, Nat.mul_comm _ _⟩
    refine ⟨(x - first) / d, ?_, ?_⟩
    · rw [List.mem_range]
      exact Nat.lt_succ_of_le (Nat.div_le_div_right (by omega))
    · rw [Nat.div_mul_cancel hsub]
      omega
  · rintro ⟨j, hj, rfl⟩
    rw [List.mem_range] at hj
    have hjd : j * d ≤ (b - first) / d * d := Nat.mul_le_mul_right d (by omega)
    have := Nat.div_mul_le_self (b - first) d
    refine ⟨by omega, by omega, ?_⟩
    exact Nat.dvd_add ⟨(a + d - 1) / d, Nat.mul_comm _ _⟩ ⟨j, Nat.mul_comm _ _⟩

/-- No multiple of `d` lies between `a` and the first one. -/
theorem multiples_eq_nil {d a b : Nat} (hd : 0 < d) (hb : b < (a + d - 1) / d * d) :
    multiples d a (b + 1 - a) = [] := by
  refine List.eq_nil_iff_forall_not_mem.mpr fun x hx => ?_
  obtain ⟨hax, hxb, hdvd⟩ := mem_multiples.mp hx
  have := roundUp_le hd hax hdvd
  omega

/-! ## The own cycles of a timer -/

theorem prescalerDivisor_bounds (timer : Timer) :
    0 < timer.prescalerDivisor.toNat ∧ timer.prescalerDivisor.toNat ≤ 1024 := by
  unfold Timer.prescalerDivisor divisorForControl
  split <;> decide

/-- The room that the cycle arithmetic of a window needs above its end. -/
def Headroom (t : Timers) (cycles : Nat) : Prop :=
  t.cycleCounter.toNat + cycles + 1023 < 2 ^ 64

/-- The own cycles of a timer are the multiples of its divisor after its enable delay. -/
theorem ownCycles_eq_multiples {start : U64} {cycles : U32} {i : Fin 4} {timer : Timer}
    (hroom : start.toNat + cycles.toNat + 1023 < 2 ^ 64) :
    ownCycles start (start + cycles.setWidth 64) cycles i timer =
      if timer.enabled && !timer.countUp i then
        (multiples timer.prescalerDivisor.toNat
          (start.toNat + timer.enableDelayCycles.toNat + 1)
          (cycles.toNat - timer.enableDelayCycles.toNat)).map (BitVec.ofNat 64)
      else [] := by
  unfold ownCycles
  by_cases henabled : timer.enabled
  swap
  · simp [henabled]
  by_cases hup : timer.countUp i
  · simp [hup]
  simp only [henabled, hup, Bool.not_true, Bool.not_false, Bool.and_self, Bool.or_self,
    Bool.false_eq_true, if_false, if_true]
  have hcycles := cycles.isLt
  by_cases hdelay : timer.enableDelayCycles < cycles
  · -- the delay ends inside the window
    have hskip : skippedCycles timer cycles = timer.enableDelayCycles := by
      unfold skippedCycles
      rw [if_neg (by bv_omega)]
    have hpassed : (passDelay cycles timer).enableDelayCycles = 0 := by
      simp [passDelay, hskip]
    have hne : timer.enableDelayCycles ≠ cycles := by bv_omega
    simp only [hskip, hpassed, hne, ne_eq, not_true_eq_false, or_self, if_false]
    obtain ⟨hpos, hle⟩ := prescalerDivisor_bounds timer
    set d := timer.prescalerDivisor with hd
    set delay := timer.enableDelayCycles with hdel
    have hdelayNat : delay.toNat < cycles.toNat := hdelay
    set a := start.toNat + delay.toNat + 1 with ha
    have hspec := roundUp_spec (a := a) hpos
    set first := (a + d.toNat - 1) / d.toNat * d.toNat with hfirst
    have hdiv : (start + delay.setWidth 64 + 1 + d.setWidth 64 - 1).toNat = a + d.toNat - 1 := by
      bv_omega
    have hfirstNat :
        ((start + delay.setWidth 64 + 1 + d.setWidth 64 - 1) / d.setWidth 64 *
          d.setWidth 64).toNat = first := by
      rw [BitVec.toNat_mul, BitVec.toNat_udiv, hdiv, BitVec.toNat_setWidth_of_le (by decide),
        Nat.mod_eq_of_lt (by omega)]
    set firstCycle := (start + delay.setWidth 64 + 1 + d.setWidth 64 - 1) / d.setWidth 64 *
      d.setWidth 64 with hfirstCycle
    have hend : (start + cycles.setWidth 64).toNat = start.toNat + cycles.toNat := by bv_omega
    have hlen : cycles.toNat - delay.toNat = (start.toNat + cycles.toNat) + 1 - a := by omega
    by_cases hlate : start + cycles.setWidth 64 < firstCycle
    · rw [if_pos hlate, hlen, multiples_eq_nil hpos (by
        rw [BitVec.lt_def, hend, hfirstNat] at hlate
        exact hlate)]
      rfl
    · have hreach : first ≤ start.toNat + cycles.toNat := by
        rw [BitVec.lt_def, hend, hfirstNat] at hlate
        exact not_lt.mp hlate
      have hticks : ((start + cycles.setWidth 64 - firstCycle) / d.setWidth 64 + 1).toNat =
          (start.toNat + cycles.toNat - first) / d.toNat + 1 := by
        have hsub : (start + cycles.setWidth 64 - firstCycle).toNat =
            start.toNat + cycles.toNat - first := by
          rw [BitVec.toNat_sub_of_le (BitVec.not_lt.mp hlate), hend, hfirstNat]
        have hquot : ((start + cycles.setWidth 64 - firstCycle) / d.setWidth 64).toNat =
            (start.toNat + cycles.toNat - first) / d.toNat := by
          rw [BitVec.toNat_udiv, hsub, BitVec.toNat_setWidth_of_le (by decide)]
        have := Nat.div_le_self (start.toNat + cycles.toNat - first) d.toNat
        rw [BitVec.toNat_add, hquot, show (1 : U64).toNat = 1 from rfl]
        exact Nat.mod_eq_of_lt (by omega)
      rw [if_neg hlate, hticks, hlen, multiples_eq_map hpos hreach, tickCycles, List.map_map]
      refine List.map_congr_left fun j _ => ?_
      have hcycle : firstCycle = BitVec.ofNat 64 first := by
        rw [← hfirstNat, BitVec.ofNat_toNat, BitVec.setWidth_eq]
      show _ = BitVec.ofNat 64 (first + j * d.toNat)
      rw [hcycle, BitVec.ofNat_add first, BitVec.ofNat_mul j, BitVec.ofNat_toNat]
  · -- the delay covers the window
    have hle : cycles.toNat ≤ timer.enableDelayCycles.toNat := BitVec.not_lt.mp hdelay
    have hempty : cycles.toNat - timer.enableDelayCycles.toNat = 0 := by omega
    have hcover : (passDelay cycles timer).enableDelayCycles ≠ 0 ∨
        skippedCycles timer cycles = cycles := by
      right
      unfold skippedCycles
      by_cases hlt : cycles < timer.enableDelayCycles
      · rw [if_pos hlt]
      · rw [if_neg hlt]
        bv_omega
    rw [if_pos hcover, hempty]
    rfl

/-! ## The invariant of the enable delays -/

/-- A timer whose enable delay is pending, or that the current instruction enabled, was enabled at
the current cycle. -/
structure Timer.WellTimed (cycleCounter : U64) (timer : Timer) : Prop where
  delay_le : timer.enableDelayCycles ≤ 1
  pending : timer.enableDelayCycles ≠ 0 ∨ timer.justEnabled = true →
    timer.enabled = true ∧ timer.enabledAtCycle = cycleCounter

/-- Every timer is well timed. -/
def WellTimed (t : Timers) : Prop := ∀ i, Timer.WellTimed t.cycleCounter (t.timers i)

/-- A window of at least one cycle ends the delay and the new-enable mark. -/
theorem settle_eq {now : U64} {timer : Timer} (h : Timer.WellTimed now timer) {cycles : U32}
    (hcycles : cycles ≠ 0) (es : List U64) :
    settle cycles (stages.feed timer es) =
      { stages.feed timer es with enableDelayCycles := 0, justEnabled := false } := by
  obtain ⟨counter, overflowCount, hfeed⟩ := feed_fields timer es
  rw [hfeed]
  unfold settle
  split
  · simp [passDelay, skippedCycles, show ¬cycles < timer.enableDelayCycles by
      have := h.delay_le
      bv_omega]
  next hdisabled =>
    have : timer.enableDelayCycles = 0 := by
      by_contra hdelay
      exact hdisabled (h.pending (.inl hdelay)).1
    rw [← this]

/-- A timer with no delay and no new-enable mark is well timed at any cycle. -/
theorem Timer.wellTimed_of_idle {timer : Timer} (hdelay : timer.enableDelayCycles = 0)
    (hmark : timer.justEnabled = false) (now : U64) : Timer.WellTimed now timer where
  delay_le := by rw [hdelay]; decide
  pending h := by simp [hdelay, hmark] at h

theorem wellTimed_reset : WellTimed reset :=
  fun _ => Timer.wellTimed_of_idle rfl rfl _

theorem WellTimed.modify {t : Timers} (h : t.WellTimed) (index : Fin 4) {f : Timer → Timer}
    (hf : Timer.WellTimed t.cycleCounter (f (t.timers index))) : (t.modify index f).WellTimed := by
  intro i
  show Timer.WellTimed t.cycleCounter (Function.update t.timers index _ i)
  by_cases hi : i = index
  · subst hi; rwa [Function.update_self]
  · rw [Function.update_of_ne hi]; exact h i

theorem WellTimed.writeReload {t : Timers} (h : t.WellTimed) (index : Fin 4) (value : U16) :
    (t.writeReload index value).WellTimed :=
  h.modify index ⟨(h index).delay_le, (h index).pending⟩

/-- The three outcomes of a control write: the timer is disabled, stays enabled or is enabled. -/
theorem writeTimerControl_cases (now : U64) (index : Fin 4) (value : U16) (timer : Timer) :
    let control := sanitizeControl index value
    let written := writeTimerControl now index value timer
    (anySet control kTimerEnableFlag = false ∧ written = { timer with
        control := control, enableDelayCycles := 0, lastEnablePhase := 0, enabledAtCycle := 0,
        justEnabled := false }) ∨
      (anySet control kTimerEnableFlag = true ∧ timer.enabled = true ∧
        written = { timer with control := control }) ∨
      (anySet control kTimerEnableFlag = true ∧ written = { timer with
        control := control, counter := timer.reload, enableDelayCycles := 0,
        lastEnablePhase := (now % (divisorForControl control).setWidth 64).setWidth 16,
        enabledAtCycle := now, justEnabled := true }) := by
  intro control written
  by_cases hnew : anySet control kTimerEnableFlag = true
  · cases hold : anySet timer.control kTimerEnableFlag with
    | true => exact .inr (.inl ⟨hnew, hold, by
        simp [written, writeTimerControl, hold, Timer.enabled, control, hnew]⟩)
    | false => exact .inr (.inr ⟨hnew, by
        simp [written, writeTimerControl, hold, Timer.enabled, control, hnew]⟩)
  · refine .inl ⟨by simpa using hnew, ?_⟩
    simp only [Bool.not_eq_true] at hnew
    simp [written, writeTimerControl, Timer.enabled, control, hnew]

theorem WellTimed.writeControl {t : Timers} (h : t.WellTimed) (index : Fin 4) (value : U16) :
    (t.writeControl index value).WellTimed := by
  refine h.modify index ?_
  have hold := h index
  rcases writeTimerControl_cases t.cycleCounter index value (t.timers index) with
    ⟨-, hw⟩ | ⟨hnew, -, hw⟩ | ⟨hnew, hw⟩
  · rw [hw]
    exact Timer.wellTimed_of_idle rfl rfl _
  · rw [hw]
    exact ⟨hold.delay_le, fun hp => ⟨hnew, (hold.pending hp).2⟩⟩
  · rw [hw]
    exact ⟨by bv_omega, fun _ => ⟨hnew, rfl⟩⟩

theorem WellTimed.deferNewlyEnabledTicks {t : Timers} (h : t.WellTimed) :
    t.deferNewlyEnabledTicks.WellTimed := by
  intro i
  simp only [Timers.deferNewlyEnabledTicks]
  split
  next hmark => exact ⟨BitVec.le_refl 1#32, fun _ => (h i).pending (.inr hmark)⟩
  next => exact h i

theorem wellTimed_loadState {s : TimersState} {t : Timers} (h : loadState s = some t) :
    t.WellTimed := by
  unfold loadState at h
  split at h
  swap
  · contradiction
  next hall =>
    rw [← Option.some.inj h]
    intro i
    have hi := List.all_eq_true.mp hall i (List.mem_finRange i)
    obtain ⟨-, -, hdelay, hmark, hpending⟩ := (restorable_iff i (s.timers i)).mp hi
    refine ⟨hdelay, fun hp => ?_⟩
    have henabled : anySet (s.timers i).control kTimerEnableFlag = true := hp.elim hpending hmark
    exact ⟨henabled, if_pos henabled⟩

/-- After a window every delay has ended. -/
theorem WellTimed.tick_timer {t : Timers} (h : t.WellTimed) {cycles : U32} (hcycles : cycles ≠ 0)
    (interrupts : InterruptController) (i : Fin 4) :
    (t.tick cycles interrupts).1.timers i =
      { stages.runStages t.timers (t.tickSources cycles) i with
        enableDelayCycles := 0, justEnabled := false } := by
  rw [tick_closed_form t hcycles]
  exact settle_eq (h i) hcycles _

theorem WellTimed.tick {t : Timers} (h : t.WellTimed) (cycles : U32)
    (interrupts : InterruptController) : (t.tick cycles interrupts).1.WellTimed := by
  by_cases hcycles : cycles = 0
  · simpa [Timers.tick, hcycles] using h
  · intro i
    rw [h.tick_timer hcycles]
    exact Timer.wellTimed_of_idle rfl rfl _

/-- Every reachable state is well timed. -/
theorem Reachable.wellTimed {t : Timers} (h : Reachable t) : t.WellTimed := by
  induction h with
  | reset => exact wellTimed_reset
  | writeReload index value _ ih => exact ih.writeReload index value
  | writeControl index value _ ih => exact ih.writeControl index value
  | deferNewlyEnabledTicks _ ih => exact ih.deferNewlyEnabledTicks
  | tick cycles interrupts _ ih => exact ih.tick cycles interrupts
  | loadState s hs => exact wellTimed_loadState hs

end Timers

end Gba.Core
