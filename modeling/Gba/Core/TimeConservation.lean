import Gba.Core.NestedInterrupts
import Gba.Core.TimerTicks

/-!
# Conservation of device time

`advance_devices` advances the devices by the cycles it is given and by the bus cycles of the DMA
that starts meanwhile, no more and no less. Read `advanceDevices_time` first. The cycles of a run
are counted beside the loop, transfer by transfer (`triggeredCycles`), and every pass of the loop
moves time from what is left to do to the clocks of the devices.
-/

namespace Gba.Core

/-! ## The position of the display -/

namespace PpuTiming

/-- The cycles of a frame. -/
def frameCycles : Nat := 280896

/-- The position of the display in its frame, in cycles. -/
def position (p : PpuTiming) : Nat := p.line.toNat * kCyclesPerLine.toNat + p.lineCycle.toNat

theorem position_eq (p : PpuTiming) : p.position = p.line.toNat * 1232 + p.lineCycle.toNat := rfl

/-- The display is inside its frame. -/
structure InFrame (p : PpuTiming) : Prop where
  line : p.line < kTotalLines
  lineCycle : p.lineCycle < kCyclesPerLine

theorem InFrame.position_lt {p : PpuTiming} (h : p.InFrame) : p.position < frameCycles := by
  have hline : p.line.toNat < 228 := h.line
  have hcycle : p.lineCycle.toNat < 1232 := h.lineCycle
  rw [position_eq]
  unfold frameCycles
  omega

/-- Where a pass of the loop of `tick` leaves the display. -/
theorem tickPass_ppu (s : TickState) (step : U32) :
    (tickPass s step).ppu =
      if s.ppu.lineCycle + step.setWidth 16 = kCyclesPerLine then
        { s.ppu with
          line := if s.ppu.line + 1 = kTotalLines then 0 else s.ppu.line + 1
          lineCycle := 0 }
      else { s.ppu with lineCycle := s.ppu.lineCycle + step.setWidth 16 } := by
  unfold tickPass
  dsimp only
  by_cases hhblank : s.ppu.lineCycle + step.setWidth 16 = kHblankFlagCycles
  · have hne : s.ppu.lineCycle + step.setWidth 16 ≠ kCyclesPerLine := by
      rw [hhblank]
      decide
    rw [if_pos hhblank, if_neg hne]
    exact congrArg TickState.ppu (if_neg hne)
  · rw [if_neg hhblank]
    dsimp only
    split <;> rfl

/-- A pass of the loop of `tick` moves the display by the cycles it consumes. -/
theorem tickPass_position {s : TickState} (cycles : U32) (h : s.ppu.InFrame) :
    (tickPass s (tickStep s.ppu cycles)).ppu.InFrame ∧
      (tickPass s (tickStep s.ppu cycles)).ppu.position =
        (s.ppu.position + (tickStep s.ppu cycles).toNat) % frameCycles := by
  obtain ⟨hline, hcycle⟩ := h
  have hstep : s.ppu.lineCycle.toNat + (tickStep s.ppu cycles).toNat ≤ 1232 := by
    unfold tickStep kHblankFlagCycles kCyclesPerLine at *
    dsimp only
    split_ifs <;> bv_omega
  have hmoved : (s.ppu.lineCycle + (tickStep s.ppu cycles).setWidth 16).toNat =
      s.ppu.lineCycle.toNat + (tickStep s.ppu cycles).toNat := by bv_omega
  have hlineLt : s.ppu.line.toNat < 228 := hline
  generalize tickStep s.ppu cycles = step at *
  -- a pass ends the frame, ends a line inside it, or stays inside a line
  rw [tickPass_ppu]
  split
  · next hend =>
      have hsum : s.ppu.lineCycle.toNat + step.toNat = 1232 := by
        rw [← hmoved, hend]
        rfl
      split
      · next hlast =>
          have hlineEq : s.ppu.line.toNat = 227 := by
            unfold kTotalLines at hlast
            bv_omega
          have hwrapped : (s.ppu.position + step.toNat) % frameCycles = 0 := by
            rw [position_eq]
            unfold frameCycles
            omega
          rw [hwrapped]
          refine ⟨⟨show (0 : U16) < kTotalLines by decide,
            show (0 : U16) < kCyclesPerLine by decide⟩, ?_⟩
          rw [position_eq]
          simp
      · next hnext =>
          have hlineEq : (s.ppu.line + 1).toNat = s.ppu.line.toNat + 1 := by bv_omega
          have hinside : s.ppu.line.toNat + 1 < 228 := by
            unfold kTotalLines at hnext
            bv_omega
          refine ⟨⟨?_, show (0 : U16) < kCyclesPerLine by decide⟩, ?_⟩
          · show (s.ppu.line + 1).toNat < 228
            omega
          · show (s.ppu.line + 1).toNat * 1232 + (0 : U16).toNat = _
            have hzero : (0 : U16).toNat = 0 := rfl
            rw [position_eq]
            unfold frameCycles
            omega
  · next hshort =>
      have hne : s.ppu.lineCycle.toNat + step.toNat ≠ 1232 := by
        intro heq
        exact hshort (BitVec.eq_of_toNat_eq (hmoved.trans heq))
      refine ⟨⟨hline, ?_⟩, ?_⟩
      · show (s.ppu.lineCycle + step.setWidth 16).toNat < 1232
        omega
      · show s.ppu.line.toNat * 1232 + (s.ppu.lineCycle + step.setWidth 16).toNat = _
        rw [position_eq]
        unfold frameCycles
        omega

theorem tickStep_le (p : PpuTiming) (cycles : U32) : (tickStep p cycles).toNat ≤ cycles.toNat := by
  unfold tickStep
  dsimp only
  split_ifs <;> bv_omega

theorem tickLoop_position (cycles : U32) (s : TickState) (h : s.ppu.InFrame) :
    (tickLoop cycles s).ppu.InFrame ∧
      (tickLoop cycles s).ppu.position = (s.ppu.position + cycles.toNat) % frameCycles := by
  induction cycles, s using tickLoop.induct with
  | case1 s =>
      rw [tickLoop, dif_pos rfl]
      refine ⟨h, ?_⟩
      show s.ppu.position = (s.ppu.position + 0) % frameCycles
      rw [Nat.add_zero, Nat.mod_eq_of_lt h.position_lt]
  | case2 cycles s hne ih =>
      obtain ⟨hframe, hposition⟩ := tickPass_position cycles h
      obtain ⟨hlast, hmoved⟩ := ih hframe
      have hle := tickStep_le s.ppu cycles
      have hrest : (cycles - tickStep s.ppu cycles).toNat =
          cycles.toNat - (tickStep s.ppu cycles).toNat :=
        BitVec.toNat_sub_of_le hle
      rw [tickLoop, dif_neg hne]
      refine ⟨hlast, ?_⟩
      rw [hmoved, hposition, hrest, Nat.mod_add_mod]
      exact congrArg (· % frameCycles) (by omega)

/-- `tick` moves the display by its cycles. -/
theorem tick_position {p : PpuTiming} (cycles : U32) (interrupts : InterruptController)
    (h : p.InFrame) : (p.tick cycles interrupts).1.InFrame ∧
      (p.tick cycles interrupts).1.position = (p.position + cycles.toNat) % frameCycles :=
  tickLoop_position cycles ⟨p, interrupts, ⟨0, 0, 0⟩⟩ h

end PpuTiming

/-! ## The clocks of the devices -/

/-- The clocks: the cycle counter of the timers and the position of the display. -/
def Devices.clocks (d : Devices) : U64 × U16 × U16 :=
  (d.timers.cycleCounter, d.ppu.line, d.ppu.lineCycle)

/-- No register write moves a clock. -/
theorem clocks_registerWrite {d d' : Devices} (h : RegisterWrite d d') : d'.clocks = d.clocks := by
  cases h with
  | @lcdControl address value ppu hlcd =>
      unfold PpuTiming.writeLcdControl at hlcd
      split at hlcd
      · rw [← Option.some.inj hlcd]
        rfl
      · contradiction
  | _ => rfl

theorem clocks_deviceInvariant (clocks : U64 × U16 × U16) :
    DeviceInvariant fun d => d.clocks = clocks where
  io := keptByIo_of_writes fun h hd => (clocks_registerWrite h).trans hd
  dma hd _ := hd
  request hd _ := hd
  writeFifo hd _ _ := hd

namespace DeviceAdvance

/-! ## The bus cycles of a run

Beside each part of the loop stands the number of bus cycles of the transfers that it starts,
without the wrap of the accumulators.
-/

/-- The bus cycles of a DMA request of the display. -/
def dmaCycles (trigger : DmaTrigger) (a : DeviceAdvance) : Nat :=
  (runTrigger sessionWaitcnt trigger a.system).2.busCycles.toNat

/-- The bus cycles of several requests of the display. -/
def dmaCyclesOf (trigger : DmaTrigger) : Nat → DeviceAdvance → Nat
  | 0, _ => 0
  | events + 1, a => a.dmaCycles trigger + dmaCyclesOf trigger events (a.runDma trigger)

/-- The bus cycles of `serveDisplay`. -/
def displayCycles (events : PpuTickEvents) (a : DeviceAdvance) : Nat :=
  if a.allowNewDma then
    dmaCyclesOf .hblank events.hblankEntries.toNat a +
      dmaCyclesOf .vblank events.vblankEntries.toNat
        ((runDma .hblank)^[events.hblankEntries.toNat] a)
  else 0

/-- The bus cycles of `refill`. -/
def refillCycles (trigger : DmaTrigger) (request : Bool) (a : DeviceAdvance) : Nat :=
  if a.allowNewDma && request then
    (runSoundFifo sessionWaitcnt trigger a.system).2.busCycles.toNat
  else 0

/-- The bus cycles of `soundTimerEvent`. -/
def soundEventCycles (timerIndex : U8) (a : DeviceAdvance) : Nat :=
  match a.system.devices.apu.timerOverflow timerIndex with
  | none => 0
  | some (sound, apu) =>
      let latched := { a.withApu apu with lastDirectSound := sound }
      latched.refillCycles .fifoA sound.fifoA.refillRequest +
        (latched.refill .fifoA sound.fifoA.refillRequest).refillCycles .fifoB
          sound.fifoB.refillRequest

/-- The bus cycles of `consumeDirectSoundTimer`. -/
def soundTimerCycles (timerIndex : U8) : Nat → DeviceAdvance → Nat
  | 0, _ => 0
  | overflows + 1, a =>
      a.soundEventCycles timerIndex +
        match a.soundTimerEvent timerIndex with
        | none => 0
        | some next => soundTimerCycles timerIndex overflows next

/-- The bus cycles of `serveSound`. -/
def soundCycles (timer0Delta timer1Delta : U64) (a : DeviceAdvance) : Nat :=
  soundTimerCycles 0 timer0Delta.toNat a +
    match a.consumeDirectSoundTimer 0 timer0Delta.toNat with
    | none => 0
    | some next => soundTimerCycles 1 timer1Delta.toNat next

/-- The bus cycles of `serveEvents`. -/
def eventCycles (dmaInterval : Bool) (events : PpuTickEvents) (timer0Delta timer1Delta : U64)
    (a : DeviceAdvance) : Nat :=
  if events.hblankEntries ≠ 0 ∨ events.vblankEntries ≠ 0 ∨ timer0Delta ≠ 0 ∨ timer1Delta ≠ 0 then
    let limited := a.limitChain dmaInterval
    limited.displayCycles events +
      (limited.serveDisplay events).soundCycles timer0Delta timer1Delta
  else 0

/-- The bus cycles of `advanceInterval`. -/
def passCycles (a : DeviceAdvance) : Nat :=
  let ticked := (a.charge a.interval).tickDevices a.interval
  let overflows (timer : Fin 4) : U64 :=
    (ticked.2.system.devices.timers.timers timer).overflowCount -
      (a.system.devices.timers.timers timer).overflowCount
  ticked.2.eventCycles (a.dmaRemaining ≠ 0) ticked.1 (overflows 0) (overflows 1)

/-- The bus cycles of all transfers that the loop starts. -/
def triggeredCycles (a : DeviceAdvance) : Nat :=
  if a.finished then 0
  else
    match _ : a.advanceInterval with
    | none => 0
    | some next => a.passCycles + triggeredCycles next
  termination_by a.workLeft
  decreasing_by exact advanceInterval_workLeft ‹_›

theorem triggeredCycles_eq {a next : DeviceAdvance} (h : a.finished = false)
    (hnext : a.advanceInterval = some next) :
    a.triggeredCycles = a.passCycles + next.triggeredCycles := by
  rw [triggeredCycles, if_neg (Bool.not_eq_true _ ▸ h)]
  split
  · next hnone =>
      rw [hnext] at hnone
      contradiction
  · next other hother =>
      rw [hnext] at hother
      rw [Option.some.inj hother]

/-! ## One pass -/

/-- The events from `a` to `b` charge `cycles` bus cycles and move no clock. -/
structure Charges (a : DeviceAdvance) (cycles : Nat) (b : DeviceAdvance) : Prop where
  cpuRemaining : b.cpuRemaining = a.cpuRemaining
  dmaRemaining : b.dmaRemaining = a.dmaRemaining + BitVec.ofNat 32 cycles
  busCycles : b.totalDma.busCycles = a.totalDma.busCycles + BitVec.ofNat 32 cycles
  clocks : b.system.devices.clocks = a.system.devices.clocks

namespace Charges

variable {a b c : DeviceAdvance} {cycles more : Nat}

/-- Events that run no DMA. -/
theorem free (hcpu : b.cpuRemaining = a.cpuRemaining) (hdma : b.dmaRemaining = a.dmaRemaining)
    (htotal : b.totalDma = a.totalDma)
    (hclocks : b.system.devices.clocks = a.system.devices.clocks) : Charges a 0 b :=
  ⟨hcpu, hdma.trans (BitVec.add_zero _).symm, htotal ▸ (BitVec.add_zero _).symm, hclocks⟩

theorem trans (h : Charges a cycles b) (h' : Charges b more c) : Charges a (cycles + more) c where
  cpuRemaining := h'.cpuRemaining.trans h.cpuRemaining
  dmaRemaining := by
    rw [h'.dmaRemaining, h.dmaRemaining, BitVec.ofNat_add, BitVec.add_assoc]
  busCycles := by
    rw [h'.busCycles, h.busCycles, BitVec.ofNat_add, BitVec.add_assoc]
  clocks := h'.clocks.trans h.clocks

/-- A DMA run. -/
theorem accumulateDma {system : System} {event : DmaRunResult}
    (h : system.devices.clocks = a.system.devices.clocks) :
    Charges a event.busCycles.toNat ({ a with system := system }.accumulateDma event) := by
  refine ⟨rfl, ?_, ?_, h⟩
  · rw [BitVec.ofNat_toNat, BitVec.setWidth_eq]
    rfl
  · rw [BitVec.ofNat_toNat, BitVec.setWidth_eq]
    rfl

theorem runDma (trigger : DmaTrigger) (a : DeviceAdvance) :
    Charges a (a.dmaCycles trigger) (a.runDma trigger) :=
  accumulateDma ((clocks_deviceInvariant a.system.devices.clocks).runTrigger trigger rfl)

theorem iterate_runDma (trigger : DmaTrigger) (events : Nat) (a : DeviceAdvance) :
    Charges a (dmaCyclesOf trigger events a) ((DeviceAdvance.runDma trigger)^[events] a) := by
  induction events generalizing a with
  | zero => exact free rfl rfl rfl rfl
  | succ events ih => exact (runDma trigger a).trans (ih (a.runDma trigger))

theorem serveDisplay (events : PpuTickEvents) (a : DeviceAdvance) :
    Charges a (a.displayCycles events) (a.serveDisplay events) := by
  unfold DeviceAdvance.serveDisplay displayCycles
  split
  · exact (iterate_runDma _ _ a).trans (iterate_runDma _ _ _)
  · exact free rfl rfl rfl rfl

theorem refill (trigger : DmaTrigger) (request : Bool) (a : DeviceAdvance) :
    Charges a (a.refillCycles trigger request) (a.refill trigger request) := by
  unfold DeviceAdvance.refill refillCycles
  split
  · exact accumulateDma ((clocks_deviceInvariant a.system.devices.clocks).runSoundFifo trigger rfl)
  · exact free rfl rfl rfl rfl

theorem soundTimerEvent {timerIndex : U8} (h : a.soundTimerEvent timerIndex = some b) :
    Charges a (a.soundEventCycles timerIndex) b := by
  obtain ⟨⟨sound, apu⟩, hoverflow, rfl⟩ := Option.map_eq_some_iff.mp h
  unfold soundEventCycles
  rw [hoverflow]
  have hlatch : Charges a 0 { a.withApu apu with lastDirectSound := sound } :=
    free rfl rfl rfl rfl
  have hrefills := (hlatch.trans (refill .fifoA sound.fifoA.refillRequest _)).trans
    (refill .fifoB sound.fifoB.refillRequest _)
  rw [Nat.zero_add] at hrefills
  have hcount : ∀ d : DeviceAdvance, Charges d 0 d.countTimerEvent :=
    fun _ => free rfl rfl rfl rfl
  exact hrefills.trans (hcount _)

theorem consumeDirectSoundTimer {timerIndex : U8} {overflows : Nat}
    (h : a.consumeDirectSoundTimer timerIndex overflows = some b) :
    Charges a (soundTimerCycles timerIndex overflows a) b := by
  induction overflows generalizing a with
  | zero =>
      obtain rfl := Option.some.inj h
      exact free rfl rfl rfl rfl
  | succ overflows ih =>
      obtain ⟨next, hevent, hrest⟩ := Option.bind_eq_some_iff.mp h
      unfold soundTimerCycles
      rw [hevent]
      exact (soundTimerEvent hevent).trans (ih hrest)

theorem serveSound {timer0Delta timer1Delta : U64}
    (h : a.serveSound timer0Delta timer1Delta = some b) :
    Charges a (a.soundCycles timer0Delta timer1Delta) b := by
  obtain ⟨next, h0, h1⟩ := Option.bind_eq_some_iff.mp h
  unfold soundCycles
  rw [h0]
  exact (consumeDirectSoundTimer h0).trans (consumeDirectSoundTimer h1)

theorem serveEvents {dmaInterval : Bool} {events : PpuTickEvents} {timer0Delta timer1Delta : U64}
    (h : a.serveEvents dmaInterval events timer0Delta timer1Delta = some b) :
    Charges a (a.eventCycles dmaInterval events timer0Delta timer1Delta) b := by
  unfold DeviceAdvance.serveEvents at h
  unfold eventCycles
  split at h
  · next hevents =>
      obtain ⟨served, hserved, rfl⟩ := Option.map_eq_some_iff.mp h
      have hserves : Charges (a.limitChain dmaInterval) _ served :=
        (serveDisplay events _).trans (serveSound hserved)
      rw [if_pos hevents]
      unfold noteGenerated
      split <;> exact ⟨hserves.cpuRemaining, hserves.dmaRemaining, hserves.busCycles,
        hserves.clocks⟩
  · next hnone =>
      obtain rfl := Option.some.inj h
      rw [if_neg hnone]
      exact free rfl rfl rfl rfl

end Charges

variable {a b : DeviceAdvance}

/-- What is left to do. -/
def left (a : DeviceAdvance) : Nat := a.cpuRemaining.toNat + a.dmaRemaining.toNat

/-- The interval comes out of what is left to do. -/
theorem charge_left (a : DeviceAdvance) :
    (a.charge a.interval).left + a.interval.toNat = a.left ∧
      (a.charge a.interval).totalDma = a.totalDma ∧
      (a.charge a.interval).system = a.system := by
  have hle := a.interval_le
  unfold charge
  by_cases hdma : a.dmaRemaining = 0
  · rw [if_neg (not_not_intro hdma)] at hle ⊢
    refine ⟨?_, rfl, rfl⟩
    show (a.cpuRemaining - a.interval).toNat + a.dmaRemaining.toNat + a.interval.toNat = _
    unfold left
    bv_omega
  · rw [if_pos hdma] at hle ⊢
    refine ⟨?_, rfl, rfl⟩
    show a.cpuRemaining.toNat + (a.dmaRemaining - a.interval).toNat + a.interval.toNat = _
    unfold left
    bv_omega

/-- The devices' clocks, the DMA total and what is left to do after `cycles` of device time in which
DMA of `triggered` bus cycles was started. -/
structure Elapses (a : DeviceAdvance) (cycles triggered : Nat) (b : DeviceAdvance) : Prop where
  left : b.left + cycles = a.left + triggered
  busCycles : b.totalDma.busCycles = a.totalDma.busCycles + BitVec.ofNat 32 triggered
  cycleCounter : b.system.devices.timers.cycleCounter =
    a.system.devices.timers.cycleCounter + BitVec.ofNat 64 cycles
  inFrame : b.system.devices.ppu.InFrame
  position : b.system.devices.ppu.position =
    (a.system.devices.ppu.position + cycles) % PpuTiming.frameCycles

/-- One pass of the loop. -/
theorem advanceInterval_elapses (h : a.advanceInterval = some b)
    (hframe : a.system.devices.ppu.InFrame) (hwrap : a.left + a.passCycles < 2 ^ 32) :
    Elapses a a.interval.toNat a.passCycles b := by
  unfold advanceInterval at h
  dsimp only at h
  split at h
  · contradiction
  obtain ⟨served, hserved, hapu⟩ := Option.bind_eq_some_iff.mp h
  obtain ⟨⟨step, apu⟩, -, hb⟩ := Option.map_eq_some_iff.mp hapu
  obtain ⟨hleft, htotal, hsystem⟩ := a.charge_left
  have hcharges : Charges ((a.charge a.interval).tickDevices a.interval).2 a.passCycles served :=
    Charges.serveEvents hserved
  -- the timers and the display after the interval; the events leave both alone
  have hticked := PpuTiming.tick_position a.interval
    ((a.charge a.interval).system.devices.io.tick a.interval
      ((a.charge a.interval).system.devices.timers.tick a.interval
        (a.charge a.interval).system.devices.interrupts).2.1).2 (hsystem ▸ hframe)
  have hcounter : ((a.charge a.interval).system.devices.timers.tick a.interval
      (a.charge a.interval).system.devices.interrupts).1.cycleCounter = _ :=
    Timers.tick_cycleCounter _
  have hdevices : b.system.devices.clocks = served.system.devices.clocks := by
    rw [← hb]
    rfl
  have hclocks := hdevices.trans hcharges.clocks
  have hline : b.system.devices.ppu.line = _ := congrArg (fun clocks => clocks.2.1) hclocks
  have hcycle : b.system.devices.ppu.lineCycle = _ := congrArg (fun clocks => clocks.2.2) hclocks
  have hcpu : b.cpuRemaining = (a.charge a.interval).cpuRemaining := by
    rw [← hb]
    exact hcharges.cpuRemaining
  have hdma : b.dmaRemaining =
      (a.charge a.interval).dmaRemaining + BitVec.ofNat 32 a.passCycles := by
    rw [← hb]
    exact hcharges.dmaRemaining
  refine ⟨?_, ?_, ?_, ?_, ?_⟩
  · unfold left at *
    rw [hcpu, hdma]
    bv_omega
  · rw [← hb, ← htotal]
    exact hcharges.busCycles
  · have hcycleCounter : b.system.devices.timers.cycleCounter = _ := congrArg Prod.fst hclocks
    rw [hcycleCounter, BitVec.ofNat_toNat, ← hsystem]
    exact hcounter
  · exact ⟨hline ▸ hticked.1.line, hcycle ▸ hticked.1.lineCycle⟩
  · rw [PpuTiming.position_eq, hline, hcycle, ← hsystem]
    exact hticked.2

theorem Elapses.trans {c : DeviceAdvance} {cycles triggered cycles' triggered' : Nat}
    (h : Elapses a cycles triggered b) (h' : Elapses b cycles' triggered' c) :
    Elapses a (cycles + cycles') (triggered + triggered') c where
  left := by
    have := h.left
    have := h'.left
    omega
  busCycles := by
    rw [h'.busCycles, h.busCycles, BitVec.ofNat_add, BitVec.add_assoc]
  cycleCounter := by
    rw [h'.cycleCounter, h.cycleCounter, BitVec.ofNat_add, BitVec.add_assoc]
  inFrame := h'.inFrame
  position := by
    rw [h'.position, h.position, Nat.mod_add_mod, Nat.add_assoc]

/-- The bus cycles of the transfers that some passes start, if the loop is done after them. -/
def triggeredWithin : Nat → DeviceAdvance → Option Nat
  | 0, a => if a.finished then some 0 else none
  | passes + 1, a =>
      if a.finished then some 0
      else a.advanceInterval.bind fun next => (triggeredWithin passes next).map (a.passCycles + ·)

theorem triggeredCycles_of_within {passes cycles : Nat} (h : a.triggeredWithin passes = some cycles) :
    a.triggeredCycles = cycles := by
  induction passes generalizing a cycles with
  | zero =>
      unfold triggeredWithin at h
      split at h
      · next hdone =>
          rw [triggeredCycles, if_pos hdone]
          exact Option.some.inj h
      · contradiction
  | succ passes ih =>
      unfold triggeredWithin at h
      split at h
      · next hdone =>
          rw [triggeredCycles, if_pos hdone]
          exact Option.some.inj h
      · next hgoing =>
          obtain ⟨next, hnext, hrest⟩ := Option.bind_eq_some_iff.mp h
          obtain ⟨rest, hwithin, rfl⟩ := Option.map_eq_some_iff.mp hrest
          rw [triggeredCycles_eq (Bool.eq_false_of_not_eq_true hgoing) hnext, ih hwithin]

/-- Nothing is left to do when the loop is done. -/
theorem left_of_finished (h : a.finished = true) : a.left = 0 := by
  unfold finished at h
  rw [Bool.and_eq_true, decide_eq_true_eq, decide_eq_true_eq] at h
  unfold left
  rw [h.1, h.2]
  rfl

/-- The whole loop: what was left to do and the DMA started meanwhile have elapsed. -/
theorem advanceLoop_elapses (h : a.advanceLoop = some b)
    (hframe : a.system.devices.ppu.InFrame) (hwrap : a.left + a.triggeredCycles < 2 ^ 32) :
    Elapses a (a.left + a.triggeredCycles) a.triggeredCycles b := by
  induction a using advanceLoop.induct with
  | case1 a hdone =>
      rw [advanceLoop, if_pos hdone] at h
      obtain rfl := Option.some.inj h
      have hnone : a.triggeredCycles = 0 := by rw [triggeredCycles, if_pos hdone]
      rw [hnone, left_of_finished hdone]
      refine ⟨rfl, (BitVec.add_zero _).symm, (BitVec.add_zero _).symm, hframe, ?_⟩
      rw [Nat.add_zero, Nat.mod_eq_of_lt hframe.position_lt]
  | case2 a hgoing hnone =>
      rw [advanceLoop_eq (Bool.eq_false_of_not_eq_true hgoing), hnone] at h
      contradiction
  | case3 a hgoing next hnext ih =>
      have hgoing' := Bool.eq_false_of_not_eq_true hgoing
      rw [advanceLoop_eq hgoing', hnext, Option.bind_some] at h
      have htotal := triggeredCycles_eq hgoing' hnext
      have hpass := advanceInterval_elapses hnext hframe (by omega)
      have hleft := hpass.left
      have hrest := ih h hpass.inFrame (by omega)
      have hsum : a.interval.toNat + (next.left + next.triggeredCycles) =
          a.left + a.triggeredCycles := by omega
      rw [← hsum, htotal]
      exact hpass.trans hrest

end DeviceAdvance

namespace CoreSession

/-! ## The scheduler's clock -/

theorem updateAutoIrqLatency_schedulerCycles (session : CoreSession) (cycles : U32) :
    (session.updateAutoIrqLatency cycles).scheduler.schedulerCycles =
      session.scheduler.schedulerCycles := by
  unfold updateAutoIrqLatency modifyScheduler
  dsimp only
  split_ifs <;> rfl

theorem noteTimerIrq_schedulerCycles (session : CoreSession) (cycles : U32)
    (firstIrqCycle : U64) :
    (session.noteTimerIrq cycles firstIrqCycle).scheduler.schedulerCycles =
      session.scheduler.schedulerCycles := by
  unfold noteTimerIrq
  dsimp only
  generalize (if firstIrqCycle < cycles.setWidth 64 then firstIrqCycle.setWidth 32 else cycles) =
    eventCycle
  split
  · exact updateAutoIrqLatency_schedulerCycles _ _
  · rfl

/-- The scheduler charges the cycles and those of the DMA, whatever becomes of interrupts. -/
theorem finishAdvance_schedulerCycles (session : CoreSession) (irqReadyBefore : Bool)
    (cycles : U32) (advanced : DeviceAdvance) :
    (session.finishAdvance irqReadyBefore cycles advanced).scheduler.schedulerCycles =
      session.scheduler.schedulerCycles +
        (cycles + advanced.totalDma.busCycles).setWidth 64 := by
  unfold finishAdvance
  cases advanced.firstIrqCycle with
  | none => exact updateAutoIrqLatency_schedulerCycles _ _
  | some firstIrqCycle =>
      dsimp only
      split
      · exact updateAutoIrqLatency_schedulerCycles _ _
      · exact noteTimerIrq_schedulerCycles _ _ _

/-- Conservation of time. From live devices `advance_devices` returns; the scheduler, the timers
and the display have then advanced by the given cycles and by the bus cycles of all DMA transfers
that were started meanwhile. -/
theorem advanceDevices_time {session : CoreSession} (h : session.system.devices.Live)
    (hframe : session.system.devices.ppu.InFrame) (cycles : U32)
    (hwrap : cycles.toNat +
      (DeviceAdvance.start session.system cycles).triggeredCycles < 2 ^ 32) :
    ∃ result next, session.advanceDevices cycles = some (result, next) ∧
      let triggered := (DeviceAdvance.start session.system cycles).triggeredCycles
      result.triggeredDma.busCycles.toNat = triggered ∧
      next.scheduler.schedulerCycles =
        session.scheduler.schedulerCycles + BitVec.ofNat 64 (cycles.toNat + triggered) ∧
      next.system.devices.timers.cycleCounter =
        session.system.devices.timers.cycleCounter +
          BitVec.ofNat 64 (cycles.toNat + triggered) ∧
      next.system.devices.ppu.position =
        (session.system.devices.ppu.position + (cycles.toNat + triggered)) % 280896 := by
  by_cases hzero : cycles = 0
  · subst hzero
    have hnone : (DeviceAdvance.start session.system 0).triggeredCycles = 0 := by
      rw [DeviceAdvance.triggeredCycles, if_pos (by rfl)]
    rw [hnone, advanceDevices, if_pos rfl]
    refine ⟨_, session, rfl, rfl, (BitVec.add_zero _).symm, (BitVec.add_zero _).symm, ?_⟩
    show _ = (session.system.devices.ppu.position + 0) % PpuTiming.frameCycles
    rw [Nat.add_zero, Nat.mod_eq_of_lt hframe.position_lt]
  have hstart : (DeviceAdvance.start session.system cycles).Live := h
  obtain ⟨advanced, hloop, -⟩ := DeviceAdvance.advanceLoop_live hstart
  have hleft : (DeviceAdvance.start session.system cycles).left = cycles.toNat := rfl
  have helapses := DeviceAdvance.advanceLoop_elapses hloop hframe (by rw [hleft]; exact hwrap)
  rw [hleft] at helapses
  generalize (DeviceAdvance.start session.system cycles).triggeredCycles = triggered at *
  have hbus : advanced.totalDma.busCycles = BitVec.ofNat 32 triggered := by
    rw [helapses.busCycles]
    exact BitVec.zero_add _
  have hbusNat : advanced.totalDma.busCycles.toNat = triggered := by
    rw [hbus, BitVec.toNat_ofNat, Nat.mod_eq_of_lt (by omega)]
  rw [advanceDevices, if_neg hzero, hloop]
  refine ⟨_, _, rfl, hbusNat, ?_, ?_, ?_⟩
  · rw [finishAdvance_schedulerCycles]
    refine congrArg (session.scheduler.schedulerCycles + ·) (BitVec.eq_of_toNat_eq ?_)
    rw [hbus]
    bv_omega
  · rw [finishAdvance_system]
    exact helapses.cycleCounter
  · rw [finishAdvance_system]
    exact helapses.position

/-- A machine shortly before the horizontal blank of its first line, at which channel 3 copies a
halfword. -/
def hblankSession : CoreSession :=
  let waiting := waitingSession 0x08000000#32
  let copy : DmaChannelState :=
    ⟨0x02000000#32, 0x02000100#32, 1#16, 0xA000#16, 0x02000000#32, 0x02000100#32, 1#32, 0#32⟩
  { waiting with
    system :=
      { waiting.system with
        devices :=
          { Devices.reset with
            ppu := { PpuTiming.reset with lineCycle := 1000#16 }
            dma := ⟨Function.update (fun _ => ⟨0, 0, 0, 0, 0, 0, 0, 0⟩) 3 copy, false⟩ } } }

/-- The copy takes eight cycles of the bus, in which a hundred cycles of the processor wait. -/
theorem advanceDevices_time_hblank :
    ∃ result next, hblankSession.advanceDevices 100 = some (result, next) ∧
      result.triggeredDma.busCycles.toNat = 8 ∧
      next.scheduler.schedulerCycles = 108#64 ∧
      next.system.devices.timers.cycleCounter = 108#64 ∧
      next.system.devices.ppu.position = 1108 := by
  have htriggered : (DeviceAdvance.start hblankSession.system 100).triggeredCycles = 8 :=
    @DeviceAdvance.triggeredCycles_of_within _ 3 8 (by decide +kernel)
  have htime := @advanceDevices_time hblankSession
    ⟨.reset, show (1000#16 : U16) < kCyclesPerLine by decide⟩ ⟨by decide, by decide⟩ 100
    (by rw [htriggered]; decide)
  rw [htriggered] at htime
  exact htime

end CoreSession

end Gba.Core
