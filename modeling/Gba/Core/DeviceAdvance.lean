import Gba.Core.DmaTransfer

/-!
# The event loop of the scheduler

The loop of `advance_devices` in `core_scheduler.cpp`: it advances the devices to the next edge of
the display, lets the events of that interval start DMA, and charges the time that DMA takes by
advancing the devices again. A chain of DMA that starts more DMA is bounded by a budget, which is
why the loop ends. Devices fail in the source by dividing by zero or leaving a table, so that the
loop is partial.
-/

namespace Gba.Core

def kMaxDmaChainExpansion : Nat := 16

def kPpuVisibleCycles : U16 := 960#16

/-- The wait-state control that a session gives its scheduler: its own. -/
def sessionWaitcnt : WaitcntPointer := fun devices => some devices.waitcnt

/-- The locals of `advance_devices` and the devices it advances. The two chain counters are `u64`
in the source and stay below `2 ^ 37`. -/
structure DeviceAdvance where
  system : System
  firstIrqCycle : Option U64
  apuFrameStep : Option ApuFrameStep
  apuTimerEvents : U32
  lastDirectSound : DirectSoundTimerResult
  totalDma : DmaRunResult
  cpuRemaining : U32
  dmaRemaining : U32
  elapsed : U32
  dmaChainBudget : Nat
  dmaChainGenerated : Nat
  allowNewDma : Bool

namespace DeviceAdvance

/-- The locals before the first interval. -/
def start (system : System) (cycles : U32) : DeviceAdvance where
  system := system
  firstIrqCycle := none
  apuFrameStep := none
  apuTimerEvents := 0
  lastDirectSound := ⟨⟨false, 0, false⟩, ⟨false, 0, false⟩⟩
  totalDma := ⟨0, 0, false, 0⟩
  cpuRemaining := cycles
  dmaRemaining := 0
  elapsed := 0
  dmaChainBudget := 0
  dmaChainGenerated := 0
  allowNewDma := true

/-- The lambda `accumulate_dma`. -/
def accumulateDma (a : DeviceAdvance) (event : DmaRunResult) : DeviceAdvance :=
  { a with
    totalDma :=
      { channelsExecuted := BitVec.ofNat 8
          (min 255 (a.totalDma.channelsExecuted.toNat + event.channelsExecuted.toNat))
        unitsTransferred := a.totalDma.unitsTransferred + event.unitsTransferred
        unsupportedRequest := a.totalDma.unsupportedRequest || event.unsupportedRequest
        busCycles := a.totalDma.busCycles + event.busCycles }
    dmaRemaining := a.dmaRemaining + event.busCycles }

/-- A DMA request of the display. -/
def runDma (trigger : DmaTrigger) (a : DeviceAdvance) : DeviceAdvance :=
  let run := runTrigger sessionWaitcnt trigger a.system
  { a with system := run.1 }.accumulateDma run.2

/-- A DMA request of a sound FIFO. -/
def runSoundDma (trigger : DmaTrigger) (a : DeviceAdvance) : DeviceAdvance :=
  let run := runSoundFifo sessionWaitcnt trigger a.system
  { a with system := run.1 }.accumulateDma run.2

/-- Replace the APU. -/
def withApu (a : DeviceAdvance) (apu : Apu) : DeviceAdvance :=
  { a with system := { a.system with devices := { a.system.devices with apu := apu } } }

/-- Refill a sound FIFO that asks for it, unless new DMA is held. -/
def refill (trigger : DmaTrigger) (request : Bool) (a : DeviceAdvance) : DeviceAdvance :=
  if a.allowNewDma && request then a.runSoundDma trigger else a

/-- Count a timer event; the counter saturates. -/
def countTimerEvent (a : DeviceAdvance) : DeviceAdvance :=
  { a with
    apuTimerEvents :=
      if a.apuTimerEvents ≠ BitVec.allOnes 32 then a.apuTimerEvents + 1 else a.apuTimerEvents }

/-- One overflow in the lambda `consume_direct_sound_timer`. -/
def soundTimerEvent (timerIndex : U8) (a : DeviceAdvance) : Option DeviceAdvance :=
  (a.system.devices.apu.timerOverflow timerIndex).map fun (sound, apu) =>
    (refill .fifoB sound.fifoB.refillRequest
      (refill .fifoA sound.fifoA.refillRequest
        { a.withApu apu with lastDirectSound := sound })).countTimerEvent

/-- The lambda `consume_direct_sound_timer`. -/
def consumeDirectSoundTimer (timerIndex : U8) : Nat → DeviceAdvance → Option DeviceAdvance
  | 0, a => some a
  | overflows + 1, a =>
      (a.soundTimerEvent timerIndex).bind (consumeDirectSoundTimer timerIndex overflows)

/-- The next edge of the display line. -/
def boundary (lineCycle : U16) : U16 :=
  if lineCycle < kPpuVisibleCycles then kPpuVisibleCycles
  else if lineCycle < kHblankFlagCycles then kHblankFlagCycles
  else kCyclesPerLine

/-- The cycles of the next interval. -/
def interval (a : DeviceAdvance) : U32 :=
  let remaining := if a.dmaRemaining ≠ 0 then a.dmaRemaining else a.cpuRemaining
  let lineCycle := a.system.devices.ppu.lineCycle
  let edge : U32 := (boundary lineCycle).setWidth 32 - lineCycle.setWidth 32
  if edge < remaining then edge else remaining

/-- Take the interval off the remaining time; an interval of the processor starts a new chain. -/
def charge (a : DeviceAdvance) (interval : U32) : DeviceAdvance :=
  if a.dmaRemaining ≠ 0 then { a with dmaRemaining := a.dmaRemaining - interval }
  else
    { a with
      cpuRemaining := a.cpuRemaining - interval
      dmaChainBudget := 0
      dmaChainGenerated := 0 }

/-- Advance timers, serial port and display by an interval. -/
def tickDevices (interval : U32) (a : DeviceAdvance) : PpuTickEvents × DeviceAdvance :=
  let devices := a.system.devices
  let timers := devices.timers.tick interval devices.interrupts
  let io := devices.io.tick interval timers.2.1
  let ppu := devices.ppu.tick interval io.2
  (ppu.2.2,
    { a with
      system :=
        { a.system with
          devices :=
            { devices with
              interrupts := ppu.2.1
              timers := timers.1
              io := io.1
              ppu := ppu.1 } }
      firstIrqCycle :=
        if timers.2.2.firstIrqCycle.isSome ∧ a.firstIrqCycle = none then
          timers.2.2.firstIrqCycle.map (a.elapsed.setWidth 64 + ·)
        else a.firstIrqCycle })

/-- Once a chain of DMA intervals has spent its budget, new triggers are held. -/
def limitChain (dmaInterval : Bool) (a : DeviceAdvance) : DeviceAdvance :=
  { a with allowNewDma := !dmaInterval || a.dmaChainGenerated < a.dmaChainBudget }

/-- The DMA requests of the display events of an interval. -/
def serveDisplay (events : PpuTickEvents) (a : DeviceAdvance) : DeviceAdvance :=
  if a.allowNewDma then
    (runDma .vblank)^[events.vblankEntries.toNat] ((runDma .hblank)^[events.hblankEntries.toNat] a)
  else a

/-- The timer events of an interval that the APU sees. -/
def serveSound (timer0Delta timer1Delta : U64) (a : DeviceAdvance) : Option DeviceAdvance :=
  (a.consumeDirectSoundTimer 0 timer0Delta.toNat).bind
    (consumeDirectSoundTimer 1 timer1Delta.toNat)

/-- Account for the DMA time that the events of an interval generated. -/
def noteGenerated (dmaInterval : Bool) (generatedDma : U32) (a : DeviceAdvance) : DeviceAdvance :=
  if !dmaInterval then
    { a with dmaChainBudget := generatedDma.toNat * kMaxDmaChainExpansion }
  else { a with dmaChainGenerated := a.dmaChainGenerated + generatedDma.toNat }

/-- The DMA and sound events of an interval. -/
def serveEvents (dmaInterval : Bool) (events : PpuTickEvents) (timer0Delta timer1Delta : U64)
    (a : DeviceAdvance) : Option DeviceAdvance :=
  if events.hblankEntries ≠ 0 ∨ events.vblankEntries ≠ 0 ∨ timer0Delta ≠ 0 ∨ timer1Delta ≠ 0 then
    ((serveDisplay events (a.limitChain dmaInterval)).serveSound timer0Delta timer1Delta).map
      fun served =>
        served.noteGenerated dmaInterval (served.totalDma.busCycles - a.totalDma.busCycles)
  else some a

/-- Advance the APU by an interval. -/
def tickApu (interval : U32) (a : DeviceAdvance) : Option DeviceAdvance :=
  (a.system.devices.apu.tick interval).map fun (step, apu) =>
    { a.withApu apu with
      apuFrameStep := if step.isSome then step else a.apuFrameStep
      elapsed := a.elapsed + interval }

/-- One pass of the loop. Undefined where the APU is, and where the pass takes no time: the loop of
the source then never ends. -/
def advanceInterval (a : DeviceAdvance) : Option DeviceAdvance :=
  let interval := a.interval
  let timers := a.system.devices.timers
  if interval = 0 then none
  else
    let ticked := (a.charge interval).tickDevices interval
    let overflows (timer : Fin 4) : U64 :=
      (ticked.2.system.devices.timers.timers timer).overflowCount -
        (timers.timers timer).overflowCount
    (ticked.2.serveEvents (a.dmaRemaining ≠ 0) ticked.1 (overflows 0) (overflows 1)).bind
      (tickApu interval)

/-- The loop is done. -/
def finished (a : DeviceAdvance) : Bool := a.cpuRemaining = 0 && a.dmaRemaining = 0

/-! ### Termination -/

/-- What events do to the counters of the loop: time that DMA takes is charged once, and nothing is
charged while new requests are held. -/
structure Serves (a b : DeviceAdvance) : Prop where
  cpuRemaining : b.cpuRemaining = a.cpuRemaining
  dmaChainBudget : b.dmaChainBudget = a.dmaChainBudget
  dmaChainGenerated : b.dmaChainGenerated = a.dmaChainGenerated
  allowNewDma : b.allowNewDma = a.allowNewDma
  charged : b.dmaRemaining - b.totalDma.busCycles = a.dmaRemaining - a.totalDma.busCycles
  held : a.allowNewDma = false → b.totalDma.busCycles = a.totalDma.busCycles

namespace Serves

variable {a b c : DeviceAdvance}

theorem refl (a : DeviceAdvance) : Serves a a := ⟨rfl, rfl, rfl, rfl, rfl, fun _ => rfl⟩

theorem trans (hab : Serves a b) (hbc : Serves b c) : Serves a c where
  cpuRemaining := hbc.cpuRemaining.trans hab.cpuRemaining
  dmaChainBudget := hbc.dmaChainBudget.trans hab.dmaChainBudget
  dmaChainGenerated := hbc.dmaChainGenerated.trans hab.dmaChainGenerated
  allowNewDma := hbc.allowNewDma.trans hab.allowNewDma
  charged := hbc.charged.trans hab.charged
  held hheld := (hbc.held (hab.allowNewDma.trans hheld)).trans (hab.held hheld)

/-- A DMA run that is allowed. -/
theorem accumulateDma (system : System) (event : DmaRunResult) (h : a.allowNewDma = true) :
    Serves a ({ a with system := system }.accumulateDma event) where
  cpuRemaining := rfl
  dmaChainBudget := rfl
  dmaChainGenerated := rfl
  allowNewDma := rfl
  charged := by
    show a.dmaRemaining + event.busCycles - (a.totalDma.busCycles + event.busCycles) = _
    bv_omega
  held hheld := absurd (h.symm.trans hheld) (by decide)

theorem iterate_runDma (trigger : DmaTrigger) (events : Nat) (h : a.allowNewDma = true) :
    Serves a ((runDma trigger)^[events] a) := by
  induction events generalizing a with
  | zero => exact refl a
  | succ events ih =>
      have hrun : Serves a (runDma trigger a) := accumulateDma _ _ h
      exact hrun.trans (ih (hrun.allowNewDma.trans h))

theorem refill (trigger : DmaTrigger) (request : Bool) : Serves a (a.refill trigger request) := by
  unfold DeviceAdvance.refill
  split
  · next h =>
      rw [Bool.and_eq_true] at h
      exact accumulateDma _ _ h.1
  · exact refl a

theorem soundTimerEvent {timerIndex : U8} (h : a.soundTimerEvent timerIndex = some b) :
    Serves a b := by
  obtain ⟨⟨sound, apu⟩, -, rfl⟩ := Option.map_eq_some_iff.mp h
  have hlatch : Serves a { a.withApu apu with lastDirectSound := sound } :=
    ⟨rfl, rfl, rfl, rfl, rfl, fun _ => rfl⟩
  have hcount : ∀ c : DeviceAdvance, Serves c c.countTimerEvent :=
    fun _ => ⟨rfl, rfl, rfl, rfl, rfl, fun _ => rfl⟩
  exact ((hlatch.trans (refill _ _)).trans (refill _ _)).trans (hcount _)

theorem consumeDirectSoundTimer {timerIndex : U8} {overflows : Nat}
    (h : a.consumeDirectSoundTimer timerIndex overflows = some b) : Serves a b := by
  induction overflows generalizing a with
  | zero => exact Option.some.inj h ▸ refl a
  | succ overflows ih =>
      obtain ⟨next, hevent, hrest⟩ := Option.bind_eq_some_iff.mp h
      exact (soundTimerEvent hevent).trans (ih hrest)

theorem serveDisplay (events : PpuTickEvents) : Serves a (a.serveDisplay events) := by
  unfold DeviceAdvance.serveDisplay
  split
  · next h =>
      have hhblank := iterate_runDma .hblank events.hblankEntries.toNat h
      exact hhblank.trans (iterate_runDma _ _ (hhblank.allowNewDma.trans h))
  · exact refl a

theorem serveSound {timer0Delta timer1Delta : U64}
    (h : a.serveSound timer0Delta timer1Delta = some b) : Serves a b := by
  obtain ⟨next, h0, h1⟩ := Option.bind_eq_some_iff.mp h
  exact (consumeDirectSoundTimer h0).trans (consumeDirectSoundTimer h1)

end Serves

/-- The time that the events of an interval charge to DMA. In an interval of the processor it sets
the budget of the chain, in an interval of DMA it is taken from that budget. -/
theorem serveEvents_charges {a b : DeviceAdvance} {dmaInterval : Bool} {events : PpuTickEvents}
    {timer0Delta timer1Delta : U64}
    (h : a.serveEvents dmaInterval events timer0Delta timer1Delta = some b) :
    b.cpuRemaining = a.cpuRemaining ∧ ∃ generated : U32,
      b.dmaRemaining = a.dmaRemaining + generated ∧
      (dmaInterval = false → b.dmaChainBudget = a.dmaChainBudget ∨
        b.dmaChainBudget = generated.toNat * kMaxDmaChainExpansion) ∧
      (dmaInterval = true → b.dmaChainBudget = a.dmaChainBudget ∧
        b.dmaChainGenerated = a.dmaChainGenerated + generated.toNat ∧
        (a.dmaChainBudget ≤ a.dmaChainGenerated → generated = 0)) := by
  unfold serveEvents at h
  split at h
  · obtain ⟨served, hserved, rfl⟩ := Option.map_eq_some_iff.mp h
    have hserves : Serves (a.limitChain dmaInterval) served :=
      (Serves.serveDisplay events).trans (Serves.serveSound hserved)
    have hcharged : served.dmaRemaining =
        a.dmaRemaining + (served.totalDma.busCycles - a.totalDma.busCycles) := by
      have : served.dmaRemaining - served.totalDma.busCycles =
        a.dmaRemaining - a.totalDma.busCycles := hserves.charged
      bv_omega
    refine ⟨?_, served.totalDma.busCycles - a.totalDma.busCycles, ?_, ?_, ?_⟩
    · unfold noteGenerated
      split <;> exact hserves.cpuRemaining
    · unfold noteGenerated
      split <;> exact hcharged
    · rintro rfl
      exact .inr rfl
    · rintro rfl
      refine ⟨hserves.dmaChainBudget, ?_, fun hspent => ?_⟩
      · show served.dmaChainGenerated + _ = _
        rw [hserves.dmaChainGenerated]
        rfl
      · have hheld : (a.limitChain true).allowNewDma = false := by
          simpa [limitChain] using hspent
        have hsame : served.totalDma.busCycles = a.totalDma.busCycles := hserves.held hheld
        rw [hsame]
        exact BitVec.sub_self _
  · obtain rfl := Option.some.inj h
    exact ⟨rfl, 0, (BitVec.add_zero _).symm, fun _ => .inl rfl, fun _ => ⟨rfl, rfl, fun _ => rfl⟩⟩

/-- What is left to do, in the order of the loop: processor time, then the budget of the chain,
then the time that DMA has charged. -/
def workLeft (a : DeviceAdvance) : Nat :=
  a.cpuRemaining.toNat * 2 ^ 70 + (a.dmaChainBudget - a.dmaChainGenerated) * 2 ^ 32 +
    a.dmaRemaining.toNat

theorem interval_le (a : DeviceAdvance) :
    a.interval ≤ if a.dmaRemaining ≠ 0 then a.dmaRemaining else a.cpuRemaining := by
  unfold interval
  dsimp only
  split_ifs <;> bv_omega

/-- Every pass of the loop lowers what is left to do. -/
theorem advanceInterval_workLeft {a b : DeviceAdvance} (h : a.advanceInterval = some b) :
    b.workLeft < a.workLeft := by
  unfold advanceInterval at h
  dsimp only at h
  split at h
  · contradiction
  · next hinterval =>
    obtain ⟨served, hserved, hapu⟩ := Option.bind_eq_some_iff.mp h
    obtain ⟨⟨step, apu⟩, -, hb⟩ := Option.map_eq_some_iff.mp hapu
    obtain ⟨hcpu, generated, hdma, hfirst, hchain⟩ := serveEvents_charges hserved
    have hle := a.interval_le
    have hwork : b.workLeft = served.workLeft := by rw [← hb]; rfl
    rw [hwork]
    unfold workLeft
    rw [hcpu, hdma]
    by_cases hdmaInterval : a.dmaRemaining = 0
    · -- an interval of the processor
      have hcharge : a.charge a.interval =
          { a with
            cpuRemaining := a.cpuRemaining - a.interval
            dmaChainBudget := 0
            dmaChainGenerated := 0 } := if_neg (not_not_intro hdmaInterval)
      rw [if_neg (not_not_intro hdmaInterval)] at hle
      have hbudget : served.dmaChainBudget ≤ 2 ^ 36 := by
        rcases hfirst (decide_eq_false (not_not_intro hdmaInterval)) with hbudget | hbudget
        · rw [hbudget, hcharge]
          exact Nat.zero_le _
        · rw [hbudget]
          unfold kMaxDmaChainExpansion
          have := generated.isLt
          omega
      have hticked : ((a.charge a.interval).tickDevices a.interval).2.cpuRemaining =
          a.cpuRemaining - a.interval := by
        rw [hcharge]
        rfl
      have hcpuLess : (a.cpuRemaining - a.interval).toNat + 1 ≤ a.cpuRemaining.toNat := by bv_omega
      have hdmaBound := (((a.charge a.interval).tickDevices a.interval).2.dmaRemaining +
        generated).isLt
      rw [hticked]
      omega
    · -- an interval of DMA
      have hcharge : a.charge a.interval =
          { a with dmaRemaining := a.dmaRemaining - a.interval } := if_pos hdmaInterval
      rw [if_pos hdmaInterval] at hle
      obtain ⟨hbudget, hgenerated, hheld⟩ := hchain (decide_eq_true hdmaInterval)
      rw [hbudget, hgenerated]
      rw [hcharge] at hheld ⊢
      show (a.cpuRemaining).toNat * 2 ^ 70 +
        (a.dmaChainBudget - (a.dmaChainGenerated + generated.toNat)) * 2 ^ 32 +
          (a.dmaRemaining - a.interval + generated).toNat < _
      have hsmaller : a.dmaRemaining - a.interval < a.dmaRemaining := by bv_omega
      by_cases hnone : generated = 0
      · -- nothing new: DMA time passes
        subst hnone
        have hzero : a.dmaRemaining - a.interval + 0 = a.dmaRemaining - a.interval :=
          BitVec.add_zero _
        rw [hzero]
        have : (a.dmaRemaining - a.interval).toNat < a.dmaRemaining.toNat := hsmaller
        have : (0 : U32).toNat = 0 := rfl
        omega
      · -- new DMA time: the budget shrinks
        have hroom : a.dmaChainGenerated < a.dmaChainBudget :=
          Nat.lt_of_not_le fun hspent => hnone (hheld hspent)
        have hpositive : generated.toNat ≠ 0 := fun hzero => hnone (BitVec.eq_of_toNat_eq hzero)
        have := (a.dmaRemaining - a.interval + generated).isLt
        omega

/-- The loop of `advance_devices`. -/
def advanceLoop (a : DeviceAdvance) : Option DeviceAdvance :=
  if a.finished then some a
  else
    match _ : a.advanceInterval with
    | none => none
    | some next => advanceLoop next
  termination_by a.workLeft
  decreasing_by exact advanceInterval_workLeft ‹_›

theorem advanceLoop_eq {a : DeviceAdvance} (h : a.finished = false) :
    a.advanceLoop = a.advanceInterval.bind advanceLoop := by
  rw [advanceLoop, if_neg (Bool.not_eq_true _ ▸ h)]
  split
  · next hnone => rw [hnone, Option.bind_none]
  · next next hsome => rw [hsome, Option.bind_some]

end DeviceAdvance

end Gba.Core
