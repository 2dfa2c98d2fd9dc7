import Gba.Core.TimerTicks

/-!
# Timers after a restore

The snapshot of the timers leaves out the cycle at which a timer was enabled; `load_state` puts the
cycle of the snapshot in its place. A timer is anchored while that cycle is not in the future, and
then nobody who reads the registers, the interrupts or the results of `tick` can tell the restored
timers from the saved ones: `restored_alike`.
-/

namespace Gba.Core

namespace Timers

open Cascade

/-! ## What a restore accepts -/

/-- The control bits are such as the register writes leave them. -/
def Sanitized (t : Timers) : Prop :=
  ∀ i, (t.timers i).control &&& ~~~kTimerControlMask = 0 ∧
    (i = 0 → anySet (t.timers i).control kTimerCountUpFlag = false)

theorem sanitizeControl_sanitized (index : Fin 4) (value : U16) :
    sanitizeControl index value &&& ~~~kTimerControlMask = 0 ∧
      (index = 0 → anySet (sanitizeControl index value) kTimerCountUpFlag = false) := by
  unfold sanitizeControl
  split
  · refine ⟨?_, fun _ => ?_⟩
    · rw [BitVec.and_assoc, BitVec.and_comm (~~~kTimerCountUpFlag), ← BitVec.and_assoc,
        and_mask_and_not, BitVec.zero_and]
      rfl
    · have hclear : value &&& kTimerControlMask &&& ~~~kTimerCountUpFlag &&& kTimerCountUpFlag =
          0 := by
        rw [BitVec.and_assoc, BitVec.and_comm (~~~kTimerCountUpFlag)]
        exact BitVec.and_zero
      simp [anySet, hclear]
  · next hindex => exact ⟨and_mask_and_not _ _, fun h => absurd h hindex⟩

theorem writeTimerControl_control (now : U64) (index : Fin 4) (value : U16) (timer : Timer) :
    (writeTimerControl now index value timer).control = sanitizeControl index value := by
  rcases writeTimerControl_cases now index value timer with ⟨-, h⟩ | ⟨-, -, h⟩ | ⟨-, h⟩ <;> rw [h]

theorem modify_timers (t : Timers) (index : Fin 4) (f : Timer → Timer) (i : Fin 4) :
    (t.modify index f).timers i = if i = index then f (t.timers i) else t.timers i := by
  unfold modify
  by_cases h : i = index
  · subst h
    simp
  · simp [h]

theorem deferNewlyEnabledTicks_control (t : Timers) (i : Fin 4) :
    (t.deferNewlyEnabledTicks.timers i).control = (t.timers i).control := by
  unfold deferNewlyEnabledTicks
  dsimp only
  split <;> rfl

theorem loadState_eq {s : TimersState} {t : Timers} (h : loadState s = some t) :
    (∀ i, restorable i (s.timers i) = true) ∧
      t = ⟨fun i => restoreTimer s.cycleCounter (s.timers i), s.cycleCounter⟩ := by
  unfold loadState at h
  split at h
  · next hall =>
      exact ⟨fun i => List.all_eq_true.mp hall i (List.mem_finRange i), (Option.some.inj h).symm⟩
  · contradiction

theorem tick_control {t : Timers} (h : t.WellTimed) (cycles : U32) (interrupts : InterruptController)
    (i : Fin 4) :
    ((t.tick cycles interrupts).1.timers i).control = (t.timers i).control := by
  by_cases hcycles : cycles = 0
  · subst hcycles
    rfl
  · exact (tick_timers_fields interrupts h hcycles i).1

/-- Every reachable state is sanitized. -/
theorem Reachable.sanitized {t : Timers} (h : Reachable t) : t.Sanitized := by
  induction h with
  | reset =>
      have hzero : (0 : U16) &&& ~~~kTimerControlMask = 0 ∧
          anySet (0 : U16) kTimerCountUpFlag = false := by decide
      exact fun _ => ⟨hzero.1, fun _ => hzero.2⟩
  | writeReload index value _ ih =>
      intro i
      unfold Timers.writeReload
      rw [modify_timers]
      split <;> exact ih i
  | writeControl index value _ ih =>
      intro i
      unfold Timers.writeControl
      rw [modify_timers]
      split
      · next heq =>
          subst heq
          rw [writeTimerControl_control]
          exact sanitizeControl_sanitized i value
      · exact ih i
  | deferNewlyEnabledTicks _ ih =>
      intro i
      rw [deferNewlyEnabledTicks_control]
      exact ih i
  | tick cycles interrupts ht ih =>
      intro i
      rw [tick_control ht.wellTimed]
      exact ih i
  | loadState s hs =>
      obtain ⟨hall, rfl⟩ := loadState_eq hs
      intro i
      obtain ⟨hmask, hcountUp, -⟩ := (restorable_iff i (s.timers i)).mp (hall i)
      exact ⟨hmask, hcountUp⟩

/-- The snapshot of a reachable state is accepted. -/
theorem Reachable.loadState_saveState {t : Timers} (h : Reachable t) :
    Timers.loadState t.saveState =
      some ⟨fun i => restoreTimer t.cycleCounter (t.saveState.timers i), t.cycleCounter⟩ := by
  have hwell := h.wellTimed
  have hsanitized := h.sanitized
  refine if_pos (List.all_eq_true.mpr fun i _ => (restorable_iff i _).mpr ?_)
  obtain ⟨hmask, hcountUp⟩ := hsanitized i
  refine ⟨hmask, hcountUp, (hwell i).delay_le, fun hmark => ?_, fun hdelay => ?_⟩
  · exact ((hwell i).pending (.inr hmark)).1
  · exact ((hwell i).pending (.inl hdelay)).1

/-! ## Timers that look alike -/

/-- No timer was enabled in the future. -/
def Anchored (t : Timers) : Prop := ∀ i, (t.timers i).enabledAtCycle ≤ t.cycleCounter

/-- Two states of the timers with the same snapshot, which differ in nothing but the cycles at which
timers without a pending delay were enabled. -/
structure Alike (t u : Timers) : Prop where
  snapshot : u.saveState = t.saveState
  left : t.WellTimed
  right : u.WellTimed
  leftAnchored : t.Anchored
  rightAnchored : u.Anchored

/-- A timer with another enable cycle. -/
def enabledAt (cycle : U64) (timer : Timer) : Timer := { timer with enabledAtCycle := cycle }

theorem snapshot_iff {t u : Timers} :
    u.saveState = t.saveState ↔
      u.cycleCounter = t.cycleCounter ∧
        ∀ i, u.timers i = enabledAt (u.timers i).enabledAtCycle (t.timers i) := by
  constructor
  · intro h
    refine ⟨congrArg TimersState.cycleCounter h, fun i => ?_⟩
    have hi := congrFun (congrArg TimersState.timers h) i
    simp only [saveState, TimerState.mk.injEq] at hi
    obtain ⟨hcounter, hreload, hcontrol, hcount, hdelay, hphase, hmark⟩ := hi
    exact Timer.ext hcounter hreload hcontrol hcount hdelay hphase rfl hmark
  · rintro ⟨hcycle, htimers⟩
    refine TimersState.ext (funext fun i => ?_) hcycle
    simp only [saveState]
    rw [htimers i]
    rfl

/-- The restored timers are like the saved ones. -/
theorem Reachable.restored_alike {t u : Timers} (h : Reachable t) (hanchored : t.Anchored)
    (hload : Timers.loadState t.saveState = some u) : Alike t u := by
  have hright := wellTimed_loadState hload
  rw [h.loadState_saveState] at hload
  obtain rfl := Option.some.inj hload
  refine ⟨rfl, h.wellTimed, hright, hanchored, fun i => ?_⟩
  show (if _ then t.cycleCounter else 0) ≤ t.cycleCounter
  split
  · exact BitVec.le_refl _
  · exact Nat.zero_le _

/-! ### Windows -/

theorem next_enabledAt (cycle : U64) (timer : Timer) (e : U64) :
    stages.next (enabledAt cycle timer) e = enabledAt cycle (stages.next timer e) := by
  simp only [stages, enabledAt]
  split <;> rfl

theorem feed_enabledAt (cycle : U64) (timer : Timer) (es : List U64) :
    stages.feed (enabledAt cycle timer) es = enabledAt cycle (stages.feed timer es) :=
  stages.feed_map (next_enabledAt cycle) timer es

theorem emitted_enabledAt (cycle : U64) (timer : Timer) (es : List U64) :
    stages.emitted (enabledAt cycle timer) es = stages.emitted timer es := by
  have hemits : ∀ s e, stages.emits (enabledAt cycle s) e = stages.emits s e := fun _ _ => rfl
  exact stages.emitted_map (next_enabledAt cycle) hemits timer es

namespace Alike

variable {t u : Timers}

theorem cycleCounter (h : Alike t u) : u.cycleCounter = t.cycleCounter :=
  (snapshot_iff.mp h.snapshot).1

theorem timers (h : Alike t u) (i : Fin 4) :
    u.timers i = enabledAt (u.timers i).enabledAtCycle (t.timers i) :=
  (snapshot_iff.mp h.snapshot).2 i

theorem tickSources (h : Alike t u) (cycles : U32) : u.tickSources cycles = t.tickSources cycles := by
  funext i
  unfold Timers.tickSources windowCycles
  rw [h.cycleCounter, h.timers i]
  rfl

/-- A pending delay suppresses the same overflows of a window, and no other timer suppresses any. -/
theorem suppressed (h : Alike t u) {i : Fin 4} {e : U64} (he : t.cycleCounter < e) :
    suppressed (u.timers i) e = suppressed (t.timers i) e := by
  have hleft := h.left i
  have hright := h.right i
  have hanchored := h.leftAnchored i
  have hanchored' := h.rightAnchored i
  rw [h.cycleCounter] at hright hanchored'
  have hdelay : (u.timers i).enableDelayCycles = (t.timers i).enableDelayCycles := by
    rw [h.timers i]
    rfl
  unfold Timers.suppressed
  by_cases hpending : (t.timers i).enableDelayCycles = 0
  · rw [hdelay, hpending]
    rw [decide_eq_false (by bv_omega), decide_eq_false (by bv_omega)]
  · rw [hdelay, (hleft.pending (.inl hpending)).2,
      (hright.pending (.inl (by rwa [hdelay]))).2]

theorem inputs (h : Alike t u) {cycles : U32} (hroom : t.Headroom cycles.toNat) (j : Fin 4) :
    stages.inputs u.timers (t.tickSources cycles) j =
      stages.inputs t.timers (t.tickSources cycles) j := by
  obtain ⟨j, hj⟩ := j
  induction j with
  | zero => rfl
  | succ j ih =>
      have hbelow := ih (by omega)
      have houtputs : stages.outputs u.timers (t.tickSources cycles) ⟨j, by omega⟩ =
          stages.outputs t.timers (t.tickSources cycles) ⟨j, by omega⟩ := by
        unfold Stages.outputs
        rw [hbelow, h.timers, emitted_enabledAt]
      rw [Stages.inputs_succ, Stages.inputs_succ, houtputs]
      refine congrArg _ (List.filter_congr fun e he => ?_)
      obtain ⟨k, hk⟩ := Stages.mem_outputs he
      have hlate := (mem_tickSources hroom hk).1
      have hsuppressed := h.suppressed (i := ⟨j + 1, hj⟩) (show t.cycleCounter < e by bv_omega)
      simp only [stages]
      rw [hsuppressed, h.timers]
      rfl

theorem settle_enabledAt (cycles : U32) (cycle : U64) (timer : Timer) :
    settle cycles (enabledAt cycle timer) = enabledAt cycle (settle cycles timer) := by
  unfold settle
  have henabled : (enabledAt cycle timer).enabled = timer.enabled := rfl
  rw [henabled]
  split <;> rfl

/-- A window looks the same from both, and leaves them alike. -/
theorem tick (h : Alike t u) {cycles : U32} (hroom : t.Headroom cycles.toNat)
    (interrupts : InterruptController) :
    Alike (t.tick cycles interrupts).1 (u.tick cycles interrupts).1 ∧
      (u.tick cycles interrupts).2 = (t.tick cycles interrupts).2 := by
  by_cases hcycles : cycles = 0
  · rw [Timers.tick, Timers.tick, if_pos hcycles, if_pos hcycles]
    exact ⟨h, rfl⟩
  have htimer : ∀ i, (u.tick cycles interrupts).1.timers i =
      enabledAt (u.timers i).enabledAtCycle ((t.tick cycles interrupts).1.timers i) := by
    intro i
    rw [tick_closed_form t hcycles, tick_closed_form u hcycles]
    show settle cycles (stages.feed _ _) = enabledAt _ (settle cycles (stages.feed _ _))
    rw [h.tickSources, h.inputs hroom, ← settle_enabledAt, ← feed_enabledAt, ← h.timers]
  have hanchor : ∀ {v : Timers}, v.WellTimed → v.Anchored → v.cycleCounter = t.cycleCounter →
      (v.tick cycles interrupts).1.Anchored := by
    intro v hwell hv hcounter i
    have hi := hv i
    rw [hcounter] at hi
    rw [tick_cycleCounter, (tick_timers_fields interrupts hwell hcycles i).2.2, hcounter]
    unfold Headroom at hroom
    bv_omega
  refine ⟨⟨snapshot_iff.mpr ⟨?_, fun i => ?_⟩, h.left.tick cycles _, h.right.tick cycles _,
    hanchor h.left h.leftAnchored rfl, hanchor h.right h.rightAnchored h.cycleCounter⟩, ?_⟩
  · rw [tick_cycleCounter, tick_cycleCounter, h.cycleCounter]
  · rw [htimer i]
    rfl
  · have hobserver : u.tickObserver cycles (interrupts, ⟨none⟩) =
        t.tickObserver cycles (interrupts, ⟨none⟩) := by
      have houtputs : stages.outputs u.timers (t.tickSources cycles) =
          stages.outputs t.timers (t.tickSources cycles) := by
        funext i
        unfold Stages.outputs
        rw [h.inputs hroom, h.timers, emitted_enabledAt]
      have hnote : ∀ i, stages.note i (u.timers i) = stages.note i (t.timers i) := by
        intro i
        rw [h.timers]
        rfl
      unfold tickObserver Stages.runObserver Stages.noteAll
      rw [h.tickSources, houtputs]
      simp only [hnote]
    rw [tick_closed_form t hcycles, tick_closed_form u hcycles]
    simp only [hobserver, h.cycleCounter]

/-! ### Register writes -/

theorem modify (h : Alike t u) (index : Fin 4) {f g : Timer → Timer}
    (hsame : ∀ cycle timer, ∃ cycle', g (enabledAt cycle timer) = enabledAt cycle' (f timer))
    (hleft : (t.modify index f).WellTimed) (hright : (u.modify index g).WellTimed)
    (hleftAnchored : (f (t.timers index)).enabledAtCycle ≤ t.cycleCounter)
    (hrightAnchored : (g (u.timers index)).enabledAtCycle ≤ u.cycleCounter) :
    Alike (t.modify index f) (u.modify index g) := by
  refine ⟨snapshot_iff.mpr ⟨h.cycleCounter, fun i => ?_⟩, hleft, hright, fun i => ?_, fun i => ?_⟩
  · rw [modify_timers, modify_timers]
    split
    · next heq =>
        subst heq
        obtain ⟨cycle, hcycle⟩ := hsame (u.timers i).enabledAtCycle (t.timers i)
        rw [← h.timers i] at hcycle
        rw [hcycle]
        rfl
    · exact h.timers i
  · rw [modify_timers]
    split
    · next heq => exact heq ▸ hleftAnchored
    · exact h.leftAnchored i
  · rw [modify_timers]
    split
    · next heq => exact heq ▸ hrightAnchored
    · exact h.rightAnchored i

theorem writeReload (h : Alike t u) (index : Fin 4) (value : U16) :
    Alike (t.writeReload index value) (u.writeReload index value) :=
  h.modify index (fun cycle _ => ⟨cycle, rfl⟩) (h.left.writeReload index value)
    (h.right.writeReload index value) (h.leftAnchored index) (h.rightAnchored index)

theorem writeTimerControl_enabledAt (now cycle : U64) (index : Fin 4) (value : U16)
    (timer : Timer) : ∃ cycle', writeTimerControl now index value (enabledAt cycle timer) =
      enabledAt cycle' (writeTimerControl now index value timer) := by
  refine ⟨(writeTimerControl now index value (enabledAt cycle timer)).enabledAtCycle, ?_⟩
  have henabled : (enabledAt cycle timer).enabled = timer.enabled := rfl
  unfold writeTimerControl
  dsimp only
  rw [henabled]
  cases timer.enabled <;> cases hnew : anySet (sanitizeControl index value) kTimerEnableFlag <;>
    simp [enabledAt, Timer.enabled, hnew]

theorem writeTimerControl_anchored {now : U64} (index : Fin 4) (value : U16) {timer : Timer}
    (h : timer.enabledAtCycle ≤ now) :
    (writeTimerControl now index value timer).enabledAtCycle ≤ now := by
  rcases writeTimerControl_cases now index value timer with ⟨-, hw⟩ | ⟨-, -, hw⟩ | ⟨-, hw⟩
  · rw [hw]
    exact Nat.zero_le _
  · rw [hw]
    exact h
  · rw [hw]
    exact BitVec.le_refl _

theorem writeControl (h : Alike t u) (index : Fin 4) (value : U16) :
    Alike (t.writeControl index value) (u.writeControl index value) := by
  have hright := h.right.writeControl index value
  have hanchored := writeTimerControl_anchored index value (h.rightAnchored index)
  unfold Timers.writeControl at hright ⊢
  rw [h.cycleCounter] at hright ⊢
  refine h.modify index (fun cycle timer => writeTimerControl_enabledAt _ cycle index value timer)
    (h.left.writeControl index value) hright
    (writeTimerControl_anchored index value (h.leftAnchored index)) ?_
  rw [h.cycleCounter] at hanchored ⊢
  exact hanchored

theorem deferNewlyEnabledTicks (h : Alike t u) :
    Alike t.deferNewlyEnabledTicks u.deferNewlyEnabledTicks := by
  have hanchor : ∀ {v : Timers}, v.Anchored → v.deferNewlyEnabledTicks.Anchored := by
    intro v hv i
    unfold Timers.deferNewlyEnabledTicks
    dsimp only
    split <;> exact hv i
  refine ⟨snapshot_iff.mpr ⟨h.cycleCounter, fun i => ?_⟩, h.left.deferNewlyEnabledTicks,
    h.right.deferNewlyEnabledTicks, hanchor h.leftAnchored, hanchor h.rightAnchored⟩
  have hmark : (u.timers i).justEnabled = (t.timers i).justEnabled := by
    rw [h.timers i]
    rfl
  unfold Timers.deferNewlyEnabledTicks
  dsimp only
  rw [hmark]
  split
  · rw [h.timers i]
    rfl
  · exact h.timers i

end Alike

/-! ## Operations and what they show -/

/-- The timers and the interrupt controller that they raise their interrupts at. -/
structure TimerMachine where
  timers : Timers
  interrupts : InterruptController

/-- What can happen to the timers. The rest of the machine may change the interrupt controller. -/
inductive TimerOperation where
  | read
  | tick (cycles : U32)
  | writeReload (index : Fin 4) (value : U16)
  | writeControl (index : Fin 4) (value : U16)
  | deferNewlyEnabledTicks
  | setInterrupts (interrupts : InterruptController)

/-- What an operation lets see: every register that the class can be asked for, the interrupt
controller and the result of `tick`. -/
@[ext]
structure TimerObservation where
  registers : TimersState
  cyclesUntilTick : Fin 4 → U32
  interrupts : InterruptController
  result : Option TimerTickResult

namespace TimerOperation

/-- The cycles that pass during an operation. -/
def cycles : TimerOperation → Nat
  | .tick cycles => cycles.toNat
  | _ => 0

/-- An operation, with the result of `tick`. -/
def run (machine : TimerMachine) : TimerOperation → TimerMachine × Option TimerTickResult
  | .read => (machine, none)
  | .tick cycles =>
      let ticked := machine.timers.tick cycles machine.interrupts
      (⟨ticked.1, ticked.2.1⟩, some ticked.2.2)
  | .writeReload index value =>
      ({ machine with timers := machine.timers.writeReload index value }, none)
  | .writeControl index value =>
      ({ machine with timers := machine.timers.writeControl index value }, none)
  | .deferNewlyEnabledTicks =>
      ({ machine with timers := machine.timers.deferNewlyEnabledTicks }, none)
  | .setInterrupts interrupts => ({ machine with interrupts := interrupts }, none)

/-- What an operation lets see. -/
def observe (machine : TimerMachine) (operation : TimerOperation) : TimerObservation :=
  let after := operation.run machine
  { registers := after.1.timers.saveState
    cyclesUntilTick := after.1.timers.cyclesUntilNextPrescalerTick
    interrupts := after.1.interrupts
    result := after.2 }

/-- What a sequence of operations lets see. -/
def observeAll : TimerMachine → List TimerOperation → List TimerObservation
  | _, [] => []
  | machine, operation :: operations =>
      operation.observe machine :: observeAll (operation.run machine).1 operations

/-- The cycles that pass during a sequence of operations. -/
def totalCycles (operations : List TimerOperation) : Nat := (operations.map cycles).sum

end TimerOperation

/-- Reached while the cycle counter keeps clear of its end. -/
inductive ReachedBelowEnd : Timers → Prop
  | reset : ReachedBelowEnd reset
  | writeReload {t : Timers} (index : Fin 4) (value : U16) :
      ReachedBelowEnd t → ReachedBelowEnd (t.writeReload index value)
  | writeControl {t : Timers} (index : Fin 4) (value : U16) :
      ReachedBelowEnd t → ReachedBelowEnd (t.writeControl index value)
  | deferNewlyEnabledTicks {t : Timers} :
      ReachedBelowEnd t → ReachedBelowEnd t.deferNewlyEnabledTicks
  | tick {t : Timers} (cycles : U32) (interrupts : InterruptController) :
      ReachedBelowEnd t → t.Headroom cycles.toNat → ReachedBelowEnd (t.tick cycles interrupts).1
  | loadState {t : Timers} (s : TimersState) : loadState s = some t → ReachedBelowEnd t

theorem ReachedBelowEnd.reachable {t : Timers} (h : ReachedBelowEnd t) : Reachable t := by
  induction h with
  | reset => exact .reset
  | writeReload index value _ ih => exact .writeReload index value ih
  | writeControl index value _ ih => exact .writeControl index value ih
  | deferNewlyEnabledTicks _ ih => exact .deferNewlyEnabledTicks ih
  | tick cycles interrupts _ _ ih => exact .tick cycles interrupts ih
  | loadState s hs => exact .loadState s hs

/-- Below the end of the cycle counter no timer was enabled in the future. -/
theorem ReachedBelowEnd.anchored {t : Timers} (h : ReachedBelowEnd t) : t.Anchored := by
  induction h with
  | reset => exact fun _ => BitVec.le_refl _
  | writeReload index value _ ih =>
      intro i
      unfold Timers.writeReload
      rw [modify_timers]
      split <;> exact ih i
  | writeControl index value _ ih =>
      intro i
      unfold Timers.writeControl
      rw [modify_timers]
      split
      · exact Alike.writeTimerControl_anchored index value (ih i)
      · exact ih i
  | deferNewlyEnabledTicks _ ih =>
      intro i
      unfold Timers.deferNewlyEnabledTicks
      dsimp only
      split <;> exact ih i
  | @tick t cycles interrupts ht hroom ih =>
      intro i
      by_cases hcycles : cycles = 0
      · subst hcycles
        exact ih i
      · have hi := ih i
        unfold Headroom at hroom
        rw [tick_cycleCounter, (tick_timers_fields interrupts ht.reachable.wellTimed hcycles i).2.2]
        bv_omega
  | loadState s hs =>
      obtain ⟨-, rfl⟩ := loadState_eq hs
      intro i
      show (if _ then s.cycleCounter else 0) ≤ s.cycleCounter
      split
      · exact BitVec.le_refl _
      · exact Nat.zero_le _

namespace TimerOperation

/-- An operation looks the same on timers that look alike, and leaves them alike. -/
theorem run_alike {t u : Timers} (h : Alike t u) (interrupts : InterruptController)
    (operation : TimerOperation) (hroom : t.Headroom operation.cycles) :
    Alike (operation.run ⟨t, interrupts⟩).1.timers (operation.run ⟨u, interrupts⟩).1.timers ∧
      (operation.run ⟨u, interrupts⟩).1.interrupts = (operation.run ⟨t, interrupts⟩).1.interrupts ∧
      (operation.run ⟨u, interrupts⟩).2 = (operation.run ⟨t, interrupts⟩).2 := by
  cases operation with
  | read => exact ⟨h, rfl, rfl⟩
  | tick cycles =>
      obtain ⟨halike, hresult⟩ := h.tick hroom interrupts
      exact ⟨halike, congrArg Prod.fst hresult, congrArg (fun r : InterruptController × TimerTickResult => some r.2) hresult⟩
  | writeReload index value => exact ⟨h.writeReload index value, rfl, rfl⟩
  | writeControl index value => exact ⟨h.writeControl index value, rfl, rfl⟩
  | deferNewlyEnabledTicks => exact ⟨h.deferNewlyEnabledTicks, rfl, rfl⟩
  | setInterrupts other => exact ⟨h, rfl, rfl⟩

theorem cyclesUntilTick_alike {t u : Timers} (h : Alike t u) :
    u.cyclesUntilNextPrescalerTick = t.cyclesUntilNextPrescalerTick := by
  funext i
  unfold cyclesUntilNextPrescalerTick
  rw [h.cycleCounter, h.timers i]
  rfl

theorem observe_alike {t u : Timers} (h : Alike t u) (interrupts : InterruptController)
    (operation : TimerOperation) (hroom : t.Headroom operation.cycles) :
    operation.observe ⟨u, interrupts⟩ = operation.observe ⟨t, interrupts⟩ := by
  obtain ⟨halike, hinterrupts, hresult⟩ := run_alike h interrupts operation hroom
  exact TimerObservation.ext halike.snapshot (cyclesUntilTick_alike halike) hinterrupts hresult

/-- Operations move the cycle counter by their cycles. -/
theorem headroom_run {t : Timers} {operation : TimerOperation} {more : Nat}
    (h : t.Headroom (operation.cycles + more)) (interrupts : InterruptController) :
    (operation.run ⟨t, interrupts⟩).1.timers.Headroom more := by
  cases operation with
  | tick cycles =>
      show ((t.tick cycles interrupts).1).Headroom more
      have hsum : t.cycleCounter.toNat + (cycles.toNat + more) + 1023 < 2 ^ 64 := h
      unfold Headroom
      rw [tick_cycleCounter]
      bv_omega
  | read | writeReload index value | writeControl index value | deferNewlyEnabledTicks
  | setInterrupts other =>
      have hzero : t.Headroom (0 + more) := h
      rwa [Nat.zero_add] at hzero

/-- A sequence of operations looks the same on timers that look alike. -/
theorem observeAll_alike {t u : Timers} (h : Alike t u) (interrupts : InterruptController)
    (operations : List TimerOperation) (hroom : t.Headroom (totalCycles operations)) :
    observeAll ⟨u, interrupts⟩ operations = observeAll ⟨t, interrupts⟩ operations := by
  induction operations generalizing t u interrupts with
  | nil => rfl
  | cons operation operations ih =>
      have hsum : totalCycles (operation :: operations) =
          operation.cycles + totalCycles operations := List.sum_cons
      rw [hsum] at hroom
      have hfirst : t.Headroom operation.cycles := by
        unfold Headroom at hroom ⊢
        omega
      obtain ⟨halike, hinterrupts, -⟩ := run_alike h interrupts operation hfirst
      have hrest := ih halike (operation.run ⟨t, interrupts⟩).1.interrupts
        (headroom_run hroom interrupts)
      rw [observeAll, observeAll, observe_alike h interrupts operation hfirst]
      refine congrArg _ (Eq.trans ?_ hrest)
      rw [← hinterrupts]

end TimerOperation

/-- A save and a restore of timers whose cycle counter keeps clear of its end cannot be noticed:
whatever happens to the timers afterwards, as long as the counter keeps clear of its end, lets see
the same as without them. -/
theorem restored_observeAll {t : Timers} (h : ReachedBelowEnd t) :
    ∃ restored, loadState t.saveState = some restored ∧
      restored.saveState = t.saveState ∧
      ∀ (interrupts : InterruptController) (operations : List TimerOperation),
        t.Headroom (TimerOperation.totalCycles operations) →
          TimerOperation.observeAll ⟨restored, interrupts⟩ operations =
            TimerOperation.observeAll ⟨t, interrupts⟩ operations := by
  have hload := h.reachable.loadState_saveState
  have halike := h.reachable.restored_alike h.anchored hload
  exact ⟨_, hload, halike.snapshot, fun interrupts operations hroom =>
    TimerOperation.observeAll_alike halike interrupts operations hroom⟩

/-- A count-up timer that the current instruction has enabled, with its delay pending. -/
theorem restored_observeAll_deferred :
    let t := ((reset.writeControl 1 0x0084).writeControl 0 0x0080).deferNewlyEnabledTicks
    ∃ restored, loadState t.saveState = some restored ∧
      restored.saveState = t.saveState ∧
      ∀ (interrupts : InterruptController) (operations : List TimerOperation),
        t.Headroom (TimerOperation.totalCycles operations) →
          TimerOperation.observeAll ⟨restored, interrupts⟩ operations =
            TimerOperation.observeAll ⟨t, interrupts⟩ operations :=
  restored_observeAll (.deferNewlyEnabledTicks (.writeControl 0 0x0080 (.writeControl 1 0x0084
    .reset)))

/-! ## Past the end of the cycle counter -/

/-- The timers of a snapshot at the last cycle of the counter. -/
def atLastCycle : Timers := ⟨fun _ => .reset, BitVec.allOnes 64⟩

/-- Cycle 4 of a counter that has wrapped: timer 1, enabled at the given cycle, counts the overflows
of timer 0, which overflows in every cycle. -/
def afterWrap (enabledAtCycle : U64) : Timers where
  timers index :=
    if index.val = 0 then ⟨0xFFFF, 0xFFFF, 0x0080, 0, 0, 0, 4, true⟩
    else if index.val = 1 then ⟨0, 0, 0x0084, 0, 0, 0, enabledAtCycle, false⟩
    else .reset
  cycleCounter := 4

theorem afterWrap_reachable : Reachable (afterWrap (BitVec.allOnes 64)) := by
  have hload : loadState atLastCycle.saveState = some atLastCycle := by
    rw [loadState, if_pos (by decide)]
    refine congrArg some (Timers.ext (funext fun i => ?_) rfl)
    revert i
    decide
  have hreached : Reachable ((((atLastCycle.writeControl 1 0x0084).tick 5 .reset).1.writeReload 0
      0xFFFF).writeControl 0 0x0080) :=
    .writeControl 0 0x0080 (.writeReload 0 0xFFFF (.tick 5 .reset (.writeControl 1 0x0084
      (.loadState _ hload))))
  rw [tick_closed_form _ (by decide)] at hreached
  refine cast (congrArg Reachable (Timers.ext (funext fun i => ?_) (by decide +kernel))) hreached
  revert i
  decide +kernel

theorem afterWrap_loadState :
    loadState (afterWrap (BitVec.allOnes 64)).saveState = some (afterWrap 4) := by
  rw [loadState, if_pos (by decide)]
  refine congrArg some (Timers.ext (funext fun i => ?_) rfl)
  revert i
  decide

/-- The counter of timer 1 after one cycle, in which timer 0 overflows. -/
theorem afterWrap_counter :
    (((afterWrap (BitVec.allOnes 64)).tick 1 .reset).1.timers 1).counter = 0 ∧
      (((afterWrap 4).tick 1 .reset).1.timers 1).counter = 1 := by
  have hone : (1 : U32) ≠ 0 := by decide
  rw [tick_closed_form _ hone, tick_closed_form _ hone]
  decide +kernel

/-- A timer that was enabled before the cycle counter wrapped ignores overflows; a restore puts an
end to that. -/
theorem not_restored_observeAll :
    ¬∀ t : Timers, Reachable t → ∃ restored, loadState t.saveState = some restored ∧
      ∀ (interrupts : InterruptController) (operations : List TimerOperation),
        TimerOperation.observeAll ⟨restored, interrupts⟩ operations =
          TimerOperation.observeAll ⟨t, interrupts⟩ operations := by
  intro hlaw
  obtain ⟨restored, hload, hsame⟩ := hlaw _ afterWrap_reachable
  rw [afterWrap_loadState] at hload
  obtain rfl := Option.some.inj hload
  obtain ⟨hcounter, hrestored⟩ := afterWrap_counter
  have hseen : ∀ t u : Timers, TimerOperation.observeAll ⟨u, .reset⟩ [.tick 1] =
      TimerOperation.observeAll ⟨t, .reset⟩ [.tick 1] →
        ((u.tick 1 .reset).1.timers 1).counter = ((t.tick 1 .reset).1.timers 1).counter := by
    intro t u h
    have hregisters := congrArg TimerObservation.registers (List.cons.inj h).1
    exact congrArg (fun s : TimersState => (s.timers 1).counter) hregisters
  have hsaved := hseen _ _ (hsame .reset [.tick 1])
  rw [hcounter, hrestored] at hsaved
  exact absurd hsaved (by decide)

end Timers

end Gba.Core
