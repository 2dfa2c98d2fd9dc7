import Gba.Core.Interrupts

/-!
# The four hardware timers

`Timers` of `timers.cpp`. A free-running timer is advanced in closed form from the absolute cycle
counter; a count-up timer is advanced by the overflows of the timer below it. Cycles inside `tick`
are absolute 64-bit cycle numbers.
-/

namespace Gba.Core

/-- `kPrescalerMask`. -/
def kTimerPrescalerMask : U16 := 0x0003#16
/-- `kCountUpFlag`. -/
def kTimerCountUpFlag : U16 := 0x0004#16
/-- `kIrqFlag`. -/
def kTimerIrqFlag : U16 := 0x0040#16
/-- `kEnableFlag`. -/
def kTimerEnableFlag : U16 := 0x0080#16
/-- `kControlMask`. -/
def kTimerControlMask : U16 :=
  kTimerPrescalerMask ||| kTimerCountUpFlag ||| kTimerIrqFlag ||| kTimerEnableFlag

/-- The interrupt source of a timer. -/
def timerInterruptSource : Fin 4 → InterruptSource
  | 0 => .timer0
  | 1 => .timer1
  | 2 => .timer2
  | 3 => .timer3

/-- The prescaler divisor that a control value selects. -/
def divisorForControl (control : U16) : U16 :=
  match (control &&& kTimerPrescalerMask).toNat with
  | 0 => 1
  | 1 => 64
  | 2 => 256
  | 3 => 1024
  | _ => 1

/-- The private state of one timer. `enabledAtCycle` is the absolute cycle of the last enable and
anchors the window in which cascade increments are suppressed. -/
@[ext]
structure Timer where
  counter : U16
  reload : U16
  control : U16
  overflowCount : U64
  enableDelayCycles : U32
  lastEnablePhase : U16
  enabledAtCycle : U64
  justEnabled : Bool
  deriving DecidableEq, Repr

namespace Timer

/-- A timer after a hardware reset. -/
def reset : Timer := ⟨0, 0, 0, 0, 0, 0, 0, false⟩

/-- The enable bit. -/
def enabled (t : Timer) : Bool := anySet t.control kTimerEnableFlag

/-- The count-up bit; the first timer has none. -/
def countUp (t : Timer) (index : Fin 4) : Bool :=
  index != 0 && anySet t.control kTimerCountUpFlag

/-- The IRQ enable bit. -/
def irqEnabled (t : Timer) : Bool := anySet t.control kTimerIrqFlag

/-- The prescaler divisor. -/
def prescalerDivisor (t : Timer) : U16 := divisorForControl t.control

end Timer

/-- The timer block: four timers and the absolute cycle counter. -/
@[ext]
structure Timers where
  timers : Fin 4 → Timer
  cycleCounter : U64
  deriving DecidableEq

/-- `Timers::TickResult`: the cycle of the first timer IRQ, if one was raised. -/
@[ext]
structure TimerTickResult where
  firstIrqCycle : Option U64
  deriving DecidableEq, Repr

/-- `Timers::TimerState`, without the dead field that is always zero on the wire. -/
@[ext]
structure TimerState where
  counter : U16
  reload : U16
  control : U16
  overflowCount : U64
  enableDelayCycles : U32
  lastEnablePhase : U16
  justEnabled : Bool
  deriving DecidableEq, Repr

/-- `Timers::State`. -/
@[ext]
structure TimersState where
  timers : Fin 4 → TimerState
  cycleCounter : U64
  deriving DecidableEq

/-- What one `tick` call threads through its loops: the timers, the interrupt controller and the
result record. -/
@[ext]
structure TimerWindow where
  timers : Fin 4 → Timer
  interrupts : InterruptController
  result : TimerTickResult

namespace Timers

/-- The timers after a hardware reset. -/
def reset : Timers := ⟨fun _ => Timer.reset, 0⟩

/-- Change one timer. -/
def modify (t : Timers) (index : Fin 4) (f : Timer → Timer) : Timers :=
  { t with timers := Function.update t.timers index (f (t.timers index)) }

/-- A write to the reload register. -/
def writeReload (t : Timers) (index : Fin 4) (value : U16) : Timers :=
  t.modify index fun timer => { timer with reload := value }

/-- The control bits that a write stores. -/
def sanitizeControl (index : Fin 4) (value : U16) : U16 :=
  if index = 0 then value &&& kTimerControlMask &&& ~~~kTimerCountUpFlag
  else value &&& kTimerControlMask

/-- A write to one timer's control register at a given cycle. -/
def writeTimerControl (cycleCounter : U64) (index : Fin 4) (value : U16) (timer : Timer) : Timer :=
  let wasEnabled := timer.enabled
  let timer := { timer with control := sanitizeControl index value }
  let timer :=
    if !wasEnabled && timer.enabled then
      { timer with
        counter := timer.reload
        enableDelayCycles := 0
        lastEnablePhase :=
          (cycleCounter % (divisorForControl timer.control).setWidth 64).setWidth 16
        enabledAtCycle := cycleCounter
        justEnabled := true }
    else timer
  if !timer.enabled then
    { timer with
      enableDelayCycles := 0, lastEnablePhase := 0, enabledAtCycle := 0, justEnabled := false }
  else timer

/-- A write to the control register. -/
def writeControl (t : Timers) (index : Fin 4) (value : U16) : Timers :=
  t.modify index (writeTimerControl t.cycleCounter index value)

/-- A timer enabled by the current instruction starts counting one cycle later. -/
def deferNewlyEnabledTicks (t : Timers) : Timers :=
  { t with
    timers := fun index =>
      if (t.timers index).justEnabled then { t.timers index with enableDelayCycles := 1 }
      else t.timers index }

/-- The cascade increments of `timer` at `cycle` fall in its enable delay. -/
def suppressed (timer : Timer) (cycle : U64) : Bool :=
  cycle ≤ timer.enabledAtCycle + timer.enableDelayCycles.setWidth 64

/-- Record a timer IRQ at an absolute cycle: `first_irq_cycle` keeps the earliest one. -/
def noteIrq (index : Fin 4) (cycle : U64) (o : InterruptController × TimerTickResult) :
    InterruptController × TimerTickResult :=
  (o.1.request (timerInterruptSource index),
    match o.2.firstIrqCycle with
    | none => ⟨some cycle⟩
    | some first => if cycle < first then ⟨some cycle⟩ else o.2)

/-- The IRQ branch of `handle_overflow`. -/
def raise (index : Fin 4) (cycle : U64) (w : TimerWindow) : TimerWindow :=
  let o := noteIrq index cycle (w.interrupts, w.result)
  { w with interrupts := o.1, result := o.2 }

/-- Replace one timer of the window. -/
def TimerWindow.set (w : TimerWindow) (index : Fin 4) (timer : Timer) : TimerWindow :=
  { w with timers := Function.update w.timers index timer }

/-- The first half of `handle_overflow`: count the overflow and raise the timer's IRQ. -/
def countOverflow (index : Fin 4) (cycle : U64) (w : TimerWindow) : TimerWindow :=
  let timer := w.timers index
  let w := TimerWindow.set w index { timer with overflowCount := timer.overflowCount + 1 }
  if timer.irqEnabled then raise index cycle w else w

/-- `ticks_to_overflow`: the counter increments up to and including the next overflow. -/
def ticksToOverflow (timer : Timer) : U64 :=
  0x10000#64 - timer.counter.setWidth 64

theorem ticks_to_overflow_toNat (timer : Timer) :
    (ticksToOverflow timer).toNat = 0x10000 - timer.counter.toNat := by
  have := timer.counter.isLt
  simp only [ticksToOverflow]
  bv_omega

mutual

/-- Advance a timer by `ticks` increments, the first of them at `nextTickCycle` and then one every
`tickStride` cycles; each overflow reloads the counter and is handled at its own cycle. -/
def incrementTimer (index : Fin 4) (ticks : U64) (w : TimerWindow) (nextTickCycle : U64)
    (tickStride : U64) : TimerWindow :=
  if hpos : ticks = 0 then w
  else
    let timer := w.timers index
    if hlt : ticks < ticksToOverflow timer then
      TimerWindow.set w index { timer with counter := timer.counter + ticks.setWidth 16 }
    else
      let overflowCycle := nextTickCycle + (ticksToOverflow timer - 1) * tickStride
      have : (ticks - ticksToOverflow timer).toNat < ticks.toNat := by
        have := timer.counter.isLt
        have := ticks_to_overflow_toNat timer
        bv_omega
      incrementTimer index (ticks - ticksToOverflow timer)
        (handleOverflow index (TimerWindow.set w index { timer with counter := timer.reload })
          overflowCycle)
        (overflowCycle + tickStride) tickStride
  termination_by (4 - index.val, ticks.toNat)
  decreasing_by
    · exact Prod.Lex.left _ _ (by omega)
    · exact Prod.Lex.right _ (by assumption)

/-- One overflow: count it, raise the timer's IRQ, and advance a count-up timer above. -/
def handleOverflow (index : Fin 4) (w : TimerWindow) (cycle : U64) : TimerWindow :=
  let w := countOverflow index cycle w
  if h : index.val + 1 < 4 then
    let next : Fin 4 := ⟨index.val + 1, h⟩
    if (w.timers next).enabled && (w.timers next).countUp next then
      if suppressed (w.timers next) cycle then w
      else incrementTimer next 1 w cycle 1
    else w
  else w
  termination_by (3 - index.val, 2 ^ 64)
  decreasing_by exact Prod.Lex.right' _ (by simp) (by decide)

end

/-- `std::min` of the pending enable delay and the batch length. -/
def skippedCycles (timer : Timer) (cycles : U32) : U32 :=
  if cycles < timer.enableDelayCycles then cycles else timer.enableDelayCycles

/-- The delay and the new-enable mark of an enabled timer at the start of a batch. -/
def passDelay (cycles : U32) (timer : Timer) : Timer :=
  { timer with
    enableDelayCycles := timer.enableDelayCycles - skippedCycles timer cycles
    justEnabled := false }

/-- The body of the loop of `tick` over the four timers. -/
def tickTimer (startCycle endCycle : U64) (cycles : U32) (w : TimerWindow) (index : Fin 4) :
    TimerWindow :=
  let timer := w.timers index
  if !timer.enabled then TimerWindow.set w index { timer with justEnabled := false }
  else
    let skipped := skippedCycles timer cycles
    let delayed := passDelay cycles timer
    let w := TimerWindow.set w index delayed
    if timer.countUp index then w
    else if delayed.enableDelayCycles ≠ 0 ∨ skipped = cycles then w
    else
      let divisor : U64 := timer.prescalerDivisor.setWidth 64
      let firstActiveCycle := startCycle + skipped.setWidth 64 + 1
      let firstTickCycle := (firstActiveCycle + divisor - 1) / divisor * divisor
      if endCycle < firstTickCycle then w
      else
        let ticks := (endCycle - firstTickCycle) / divisor + 1
        incrementTimer index ticks w firstTickCycle divisor

/-- Advance all timers by `cycles`. The reported IRQ cycle is relative to the start of the
batch. -/
def tick (t : Timers) (cycles : U32) (interrupts : InterruptController) :
    Timers × InterruptController × TimerTickResult :=
  if cycles = 0 then (t, interrupts, ⟨none⟩)
  else
    let startCycle := t.cycleCounter
    let endCycle := t.cycleCounter + cycles.setWidth 64
    let w := (List.finRange 4).foldl (tickTimer startCycle endCycle cycles)
      ⟨t.timers, interrupts, ⟨none⟩⟩
    (⟨w.timers, endCycle⟩, w.interrupts, ⟨w.result.firstIrqCycle.map (· - startCycle)⟩)

/-- The serialisable snapshot. -/
def saveState (t : Timers) : TimersState where
  timers index :=
    let timer := t.timers index
    { counter := timer.counter
      reload := timer.reload
      control := timer.control
      overflowCount := timer.overflowCount
      enableDelayCycles := timer.enableDelayCycles
      lastEnablePhase := timer.lastEnablePhase
      justEnabled := timer.justEnabled }
  cycleCounter := t.cycleCounter

/-- The checks that `load_state` makes on one timer. -/
def restorable (index : Fin 4) (s : TimerState) : Bool :=
  s.control &&& ~~~kTimerControlMask = 0 &&
  !(index = 0 && anySet s.control kTimerCountUpFlag) &&
  s.enableDelayCycles ≤ 1 &&
  !(s.justEnabled && !anySet s.control kTimerEnableFlag) &&
  !(s.enableDelayCycles ≠ 0 && !anySet s.control kTimerEnableFlag)

theorem restorable_iff (index : Fin 4) (s : TimerState) :
    restorable index s = true ↔
      s.control &&& ~~~kTimerControlMask = 0 ∧
      (index = 0 → anySet s.control kTimerCountUpFlag = false) ∧
      s.enableDelayCycles ≤ 1 ∧
      (s.justEnabled = true → anySet s.control kTimerEnableFlag = true) ∧
      (s.enableDelayCycles ≠ 0 → anySet s.control kTimerEnableFlag = true) := by
  simp only [restorable, Bool.and_eq_true, decide_eq_true_eq, Bool.not_eq_true',
    Bool.and_eq_false_imp, Bool.not_eq_false', and_assoc]

/-- A restored timer; its enable cycle is anchored to the restored cycle counter. -/
def restoreTimer (cycleCounter : U64) (s : TimerState) : Timer where
  counter := s.counter
  reload := s.reload
  control := s.control
  overflowCount := s.overflowCount
  enableDelayCycles := s.enableDelayCycles
  lastEnablePhase := s.lastEnablePhase
  enabledAtCycle := if anySet s.control kTimerEnableFlag then cycleCounter else 0
  justEnabled := s.justEnabled

/-- Restore a snapshot; a rejected one changes nothing. -/
def loadState (s : TimersState) : Option Timers :=
  if (List.finRange 4).all fun index => restorable index (s.timers index) then
    some ⟨fun index => restoreTimer s.cycleCounter (s.timers index), s.cycleCounter⟩
  else none

/-- `cycles_until_next_prescaler_tick`. -/
def cyclesUntilNextPrescalerTick (t : Timers) (index : Fin 4) : U32 :=
  let timer := t.timers index
  if !timer.enabled || timer.countUp index || timer.enableDelayCycles ≠ 0 then 0
  else
    let divisor : U64 := timer.prescalerDivisor.setWidth 64
    let phase := t.cycleCounter % divisor
    if phase = 0 then divisor.setWidth 32 else (divisor - phase).setWidth 32

/-- The states that the public operations of the class reach from a reset. -/
inductive Reachable : Timers → Prop where
  | reset : Reachable reset
  | writeReload {t : Timers} (index : Fin 4) (value : U16) :
      Reachable t → Reachable (t.writeReload index value)
  | writeControl {t : Timers} (index : Fin 4) (value : U16) :
      Reachable t → Reachable (t.writeControl index value)
  | deferNewlyEnabledTicks {t : Timers} : Reachable t → Reachable t.deferNewlyEnabledTicks
  | tick {t : Timers} (cycles : U32) (interrupts : InterruptController) :
      Reachable t → Reachable (t.tick cycles interrupts).1
  | loadState {t : Timers} (s : TimersState) : loadState s = some t → Reachable t

end Timers

end Gba.Core
