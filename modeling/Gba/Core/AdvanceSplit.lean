import Gba.Core.ApuPieces
import Gba.Core.NestedInterrupts
import Gba.Core.TimerTicks

/-!
# Advancing in pieces

With no DMA channel enabled, `advance_devices(a + b)` is compared with `advance_devices(a)` followed
by `advance_devices(b)`. Read `advanceDevices_add` first. All devices end up the same, except for
the values of audio samples: the loop hands every timer overflow of an interval to the sound unit
before it generates that interval's samples, and a split in the middle of the interval puts samples
between the overflows.
-/

namespace Gba.Core

namespace Timers

open Cascade

/-! ## Overflows of a window -/

/-- Feeding a timer counts its overflows. -/
theorem feed_overflowCount (timer : Timer) (es : List U64) :
    (stages.feed timer es).overflowCount =
      timer.overflowCount + BitVec.ofNat 64 (stages.emitted timer es).length := by
  induction es generalizing timer with
  | nil => exact (BitVec.add_zero _).symm
  | cons e es ih =>
      rw [Stages.feed_cons, ih]
      by_cases hmax : timer.counter = 0xFFFF#16
      · have hnext : stages.next timer e =
            { timer with counter := timer.reload, overflowCount := timer.overflowCount + 1 } :=
          if_pos hmax
        have hemits : stages.emits timer e = true := beq_iff_eq.mpr hmax
        simp only [Stages.emitted, hemits, if_true, List.length_cons, hnext]
        bv_omega
      · have hnext : stages.next timer e = { timer with counter := timer.counter + 1 } :=
          if_neg hmax
        have hemits : stages.emits timer e = false := beq_eq_false_iff_ne.mpr hmax
        simp only [Stages.emitted, hemits, Bool.false_eq_true, if_false, hnext]

/-- The overflows of a timer in a window, as the loop of the scheduler counts them. -/
def overflows (t : Timers) (cycles : U32) (interrupts : InterruptController) (i : Fin 4) : U64 :=
  ((t.tick cycles interrupts).1.timers i).overflowCount - (t.timers i).overflowCount

theorem overflows_eq {t : Timers} {cycles : U32} (hcycles : cycles ≠ 0)
    (interrupts : InterruptController) (i : Fin 4) :
    t.overflows cycles interrupts i =
      BitVec.ofNat 64 (stages.outputs t.timers (t.tickSources cycles) i).length := by
  unfold overflows
  rw [tick_closed_form t hcycles]
  obtain ⟨delay, hsettle⟩ :=
    settle_fields cycles (stages.runStages t.timers (t.tickSources cycles) i)
  simp only [hsettle]
  unfold Stages.runStages
  rw [feed_overflowCount]
  unfold Stages.outputs
  bv_omega

/-- A timer has at most one increment of its own in a cycle. -/
theorem length_tickSources_le {t : Timers} {cycles : U32} (hroom : t.Headroom cycles.toNat)
    (i : Fin 4) : (t.tickSources cycles i).length ≤ cycles.toNat := by
  unfold tickSources windowCycles
  rw [ownCycles_eq_multiples hroom]
  split
  · rw [List.length_map]
    unfold multiples
    have hfilter := List.length_filter_le
      ((t.timers i).prescalerDivisor.toNat ∣ ·)
      (List.range' (t.cycleCounter.toNat + (t.timers i).enableDelayCycles.toNat + 1)
        (cycles.toNat - (t.timers i).enableDelayCycles.toNat))
    rw [List.length_range'] at hfilter
    omega
  · exact Nat.zero_le _

theorem overflows_toNat {t : Timers} {cycles : U32} (hcycles : cycles ≠ 0)
    (hroom : t.Headroom cycles.toNat) (interrupts : InterruptController) (i : Fin 4) :
    (t.overflows cycles interrupts i).toNat =
      (stages.outputs t.timers (t.tickSources cycles) i).length := by
  have hinputs := Stages.length_inputs_le (c := stages) (f := t.timers)
    (length_tickSources_le hroom) i
  have houtputs := stages.length_emitted_le (t.timers i)
    (stages.inputs t.timers (t.tickSources cycles) i)
  have hcycles := cycles.isLt
  have hfour : (i.val + 1) * cycles.toNat ≤ 4 * cycles.toNat :=
    Nat.mul_le_mul_right _ (by omega)
  have hfew : (stages.outputs t.timers (t.tickSources cycles) i).length < 2 ^ 64 := by
    unfold Stages.outputs
    omega
  rw [overflows_eq ‹_›, BitVec.toNat_ofNat, Nat.mod_eq_of_lt hfew]

/-- The overflows of a window are those of one half and those of the other. -/
theorem overflows_add {t : Timers} (h : t.WellTimed) {first second : U32} (hfirst : first ≠ 0)
    (hsecond : second ≠ 0) (hsum : first.toNat + second.toNat < 2 ^ 32)
    (hroom : t.Headroom (first.toNat + second.toNat)) (interrupts other : InterruptController)
    (i : Fin 4) :
    (t.overflows (first + second) interrupts i).toNat =
      (t.overflows first interrupts i).toNat +
        ((t.tick first interrupts).1.overflows second other i).toNat := by
  have hadd : (first + second).toNat = first.toNat + second.toNat := by bv_omega
  have hroomFirst : t.Headroom first.toNat := by
    unfold Headroom at hroom ⊢
    omega
  have hroomSecond : (t.tick first interrupts).1.Headroom second.toNat := by
    unfold Headroom at hroom ⊢
    rw [tick_cycleCounter]
    bv_omega
  rw [overflows_toNat (by bv_omega) (by rw [hadd]; exact hroom), overflows_toNat hfirst hroomFirst,
    overflows_toNat hsecond hroomSecond, outputs_tick interrupts h hfirst hsum hroom,
    List.length_append]

/-- The timers do not see which interrupts are raised. -/
theorem tick_fst (t : Timers) {cycles : U32} (hcycles : cycles ≠ 0)
    (interrupts other : InterruptController) :
    (t.tick cycles interrupts).1 = (t.tick cycles other).1 := by
  rw [tick_closed_form t hcycles, tick_closed_form t hcycles]

/-- A request that is made before a tick can be made after it. -/
theorem tick_request (t : Timers) (cycles : U32) (interrupts : InterruptController)
    (source : InterruptSource) :
    t.tick cycles (interrupts.request source) =
      ((t.tick cycles interrupts).1, (t.tick cycles interrupts).2.1.request source,
        (t.tick cycles interrupts).2.2) := by
  by_cases hcycles : cycles = 0
  · subst hcycles
    simp [tick]
  have hobserver : (t.tickObserver cycles (interrupts.request source, ⟨none⟩)).1 =
        (t.tickObserver cycles (interrupts, ⟨none⟩)).1.request source ∧
      (t.tickObserver cycles (interrupts.request source, ⟨none⟩)).2 =
        (t.tickObserver cycles (interrupts, ⟨none⟩)).2 := by
    refine Stages.noteAll_rel (R := fun a b : InterruptController × TimerTickResult =>
      a.1 = b.1.request source ∧ a.2 = b.2) ?_ ⟨rfl, rfl⟩
    rintro i e _ a b ⟨hcontroller, hresult⟩
    simp only [stages]
    split
    · refine ⟨?_, ?_⟩
      · show a.1.request _ = (b.1.request _).request _
        rw [hcontroller, InterruptController.request_comm]
      · rw [noteIrq_snd, noteIrq_snd, hresult]
    · exact ⟨hcontroller, hresult⟩
  rw [tick_closed_form t hcycles, tick_closed_form t hcycles, hobserver.1, hobserver.2]

end Timers

/-! ## The serial port and the display -/

/-- The serial port raises its interrupt whatever others are raised. -/
theorem SerialRegisters.tick_cases (io : SerialRegisters) (cycles : U32) :
    ∃ next : SerialRegisters, (∀ interrupts, io.tick cycles interrupts = (next, interrupts)) ∨
      ∀ interrupts, io.tick cycles interrupts = (next, interrupts.request .serial) := by
  unfold SerialRegisters.tick
  split
  · exact ⟨_, .inl fun _ => rfl⟩
  split
  · exact ⟨_, .inl fun _ => rfl⟩
  split
  · exact ⟨_, .inr fun _ => rfl⟩
  · exact ⟨_, .inl fun _ => rfl⟩

theorem SerialRegisters.tick_add (io : SerialRegisters) {first second : U32}
    (hsum : first.toNat + second.toNat < 2 ^ 32) (interrupts : InterruptController) :
    io.tick (first + second) interrupts =
      (io.tick first interrupts).1.tick second (io.tick first interrupts).2 := by
  by_cases hfirst : first = 0
  · subst hfirst
    simp [SerialRegisters.tick]
  by_cases hsecond : second = 0
  · subst hsecond
    simp [SerialRegisters.tick]
  have hnonzero : first + second ≠ 0 := by bv_omega
  cases hactive : io.sioTransferActive with
  | false => simp [SerialRegisters.tick, hactive]
  | true =>
      unfold SerialRegisters.tick
      simp only [hactive, hfirst, hnonzero, Bool.not_true, Bool.false_eq_true, or_self, if_false]
      by_cases hdone : first < io.sioTransferCyclesRemaining
      · -- the transfer outlives the first part
        rw [if_pos hdone]
        simp only [hsecond, Bool.not_true, Bool.false_eq_true, or_self, if_false]
        have hrest : io.sioTransferCyclesRemaining - (first + second) =
            io.sioTransferCyclesRemaining - first - second := by bv_omega
        by_cases hlast : first + second < io.sioTransferCyclesRemaining
        · have hsecondShort : second < io.sioTransferCyclesRemaining - first := by bv_omega
          rw [if_pos hlast, if_pos hsecondShort, hrest]
        · have hsecondLong : ¬second < io.sioTransferCyclesRemaining - first := by bv_omega
          rw [if_neg hlast, if_neg hsecondLong]
      · have hlong : ¬first + second < io.sioTransferCyclesRemaining := by bv_omega
        rw [if_neg hdone, if_neg hlong]
        simp

namespace PpuTiming

/-- The cycles until the display raises its next event. -/
def untilEvent (p : PpuTiming) : U32 :=
  (if p.lineCycle < kHblankFlagCycles then kHblankFlagCycles else kCyclesPerLine).setWidth 32 -
    p.lineCycle.setWidth 32

/-- The display some cycles later on the same line. -/
def moved (p : PpuTiming) (cycles : U32) : PpuTiming :=
  { p with lineCycle := p.lineCycle + cycles.setWidth 16 }

/-- Short of its next event the display only moves. -/
theorem tick_of_lt {p : PpuTiming} {cycles : U32} (hline : p.lineCycle < kCyclesPerLine)
    (h : cycles < p.untilEvent) (interrupts : InterruptController) :
    p.tick cycles interrupts = (p.moved cycles, interrupts, ⟨0, 0, 0⟩) := by
  have hstep : tickStep p cycles = cycles := if_pos h
  have hmoved : (p.lineCycle + cycles.setWidth 16 : U16).toNat =
      p.lineCycle.toNat + cycles.toNat := by
    unfold untilEvent kHblankFlagCycles kCyclesPerLine at h
    unfold kCyclesPerLine at hline
    split at h <;> bv_omega
  unfold tick
  by_cases hzero : cycles = 0
  · subst hzero
    rw [tickLoop, dif_pos rfl]
    unfold moved
    simp
  have hnoHblank : p.lineCycle + cycles.setWidth 16 ≠ kHblankFlagCycles := by
    unfold untilEvent kHblankFlagCycles kCyclesPerLine at h
    unfold kHblankFlagCycles
    split at h <;> bv_omega
  have hnoLine : p.lineCycle + cycles.setWidth 16 ≠ kCyclesPerLine := by
    unfold untilEvent kHblankFlagCycles kCyclesPerLine at h
    unfold kCyclesPerLine
    split at h <;> bv_omega
  have hpass : tickPass ⟨p, interrupts, ⟨0, 0, 0⟩⟩ cycles =
      ⟨p.moved cycles, interrupts, ⟨0, 0, 0⟩⟩ := by
    unfold tickPass
    simp only [if_neg hnoHblank, if_neg hnoLine]
    rfl
  rw [tickLoop, dif_neg hzero]
  dsimp only
  have hdone : cycles - cycles = 0 := by bv_omega
  rw [hstep, hpass, hdone, tickLoop, dif_pos rfl]

/-- A tick whose first part is short of the next event. -/
theorem tick_add_of_lt {p : PpuTiming} {first second : U32} (hline : p.lineCycle < kCyclesPerLine)
    (h : first < p.untilEvent) (hsum : first.toNat + second.toNat < 2 ^ 32)
    (interrupts : InterruptController) :
    p.tick (first + second) interrupts = (p.moved first).tick second interrupts := by
  by_cases hsecond : second = 0
  · subst hsecond
    have hzero : first + 0 = first := by bv_omega
    rw [hzero, tick_of_lt hline h]
    unfold tick
    rw [tickLoop, dif_pos rfl]
  have hnonzero : first + second ≠ 0 := by bv_omega
  have hstep : tickStep p (first + second) = first + tickStep (p.moved first) second := by
    unfold tickStep
    unfold untilEvent at h
    unfold moved kHblankFlagCycles kCyclesPerLine at *
    dsimp only at h ⊢
    split at h <;> split_ifs <;> bv_omega
  have hfits : (tickStep (p.moved first) second).toNat ≤ second.toNat := by
    unfold tickStep
    dsimp only
    split_ifs <;> bv_omega
  have hwidth : p.lineCycle + (first + tickStep (p.moved first) second).setWidth 16 =
      (p.moved first).lineCycle + (tickStep (p.moved first) second).setWidth 16 := by
    unfold moved
    bv_omega
  have hpass : tickPass ⟨p, interrupts, ⟨0, 0, 0⟩⟩ (first + tickStep (p.moved first) second) =
      tickPass ⟨p.moved first, interrupts, ⟨0, 0, 0⟩⟩ (tickStep (p.moved first) second) := by
    unfold tickPass
    dsimp only
    rw [hwidth]
    rfl
  have hrest : first + second - (first + tickStep (p.moved first) second) =
      second - tickStep (p.moved first) second := by bv_omega
  have hwhole := tickLoop.eq_def (first + second) ⟨p, interrupts, ⟨0, 0, 0⟩⟩
  have hpart := tickLoop.eq_def second ⟨p.moved first, interrupts, ⟨0, 0, 0⟩⟩
  rw [dif_neg hnonzero] at hwhole
  rw [dif_neg hsecond] at hpart
  dsimp only at hwhole hpart
  rw [hstep, hpass, hrest] at hwhole
  unfold tick
  rw [hwhole, hpart]

end PpuTiming

/-! ## Intervals without DMA -/

namespace Devices

/-- No DMA channel is enabled. -/
def DmaIdle (d : Devices) : Prop := ∀ channel, (d.dma.channels channel).enabled = false

/-- The cycles to the next edge of the display line. -/
def untilEdge (d : Devices) : U32 :=
  (DeviceAdvance.boundary d.ppu.lineCycle).setWidth 32 - d.ppu.lineCycle.setWidth 32

/-- The next interval of `cycles` cycles of the processor. -/
def nextInterval (cycles : U32) (d : Devices) : U32 :=
  if d.untilEdge < cycles then d.untilEdge else cycles

/-- How often a sound timer overflows in an interval. -/
def soundOverflows (interval : U32) (d : Devices) (timer : Fin 4) : Nat :=
  (d.timers.overflows interval d.interrupts timer).toNat

/-- One interval of the loop when no DMA runs. -/
def pass (interval : U32) (d : Devices) : Option Devices :=
  let timers := d.timers.tick interval d.interrupts
  let io := d.io.tick interval timers.2.1
  let ppu := d.ppu.tick interval io.2
  ((d.apu.latched (d.soundOverflows interval 0) (d.soundOverflows interval 1)).tick interval).map
    fun ticked =>
      { d with
        interrupts := ppu.2.1
        timers := timers.1
        io := io.1
        ppu := ppu.1
        apu := ticked.2 }

/-- The intervals of `cycles` cycles of the processor when no DMA runs. -/
inductive Advances : U32 → Devices → Devices → Prop
  | done (d : Devices) : Advances 0 d d
  | pass {cycles : U32} {d next last : Devices} (hcycles : cycles ≠ 0)
      (hnext : d.pass (d.nextInterval cycles) = some next)
      (hrest : Advances (cycles - d.nextInterval cycles) next last) : Advances cycles d last

end Devices

namespace DeviceAdvance

variable {a b c : DeviceAdvance}

/-- The machine and the time left are those of `a`. -/
structure Alike (a b : DeviceAdvance) : Prop where
  system : b.system = a.system
  cpuRemaining : b.cpuRemaining = a.cpuRemaining
  dmaRemaining : b.dmaRemaining = a.dmaRemaining

theorem Alike.refl (a : DeviceAdvance) : Alike a a := ⟨rfl, rfl, rfl⟩

theorem Alike.trans (h : Alike a b) (h' : Alike b c) : Alike a c :=
  ⟨h'.system.trans h.system, h'.cpuRemaining.trans h.cpuRemaining,
    h'.dmaRemaining.trans h.dmaRemaining⟩

theorem Alike.withApu (h : Alike a b) (apu : Apu) : Alike (a.withApu apu) (b.withApu apu) := by
  refine ⟨?_, h.cpuRemaining, h.dmaRemaining⟩
  unfold DeviceAdvance.withApu
  rw [h.system]

/-- Only the last sound unit that is put in place counts. -/
theorem Alike.replaceApu {apu : Apu} (h : Alike (a.withApu apu) b) (other : Apu) :
    Alike (a.withApu other) (b.withApu other) := by
  refine ⟨?_, h.cpuRemaining, h.dmaRemaining⟩
  unfold DeviceAdvance.withApu at h ⊢
  rw [h.system]

theorem runChannels_idle {waitcnt : WaitcntPointer} {trigger : DmaTrigger} {run : TriggerRun}
    (h : run.system.devices.DmaIdle) (channels : List (Fin 4)) :
    runChannels waitcnt trigger channels run = (true, run) := by
  induction channels with
  | nil => rfl
  | cons channel channels ih =>
      have hskip : serviced trigger channel run.system = false := by
        unfold serviced System.channel
        rw [h channel]
        rfl
      rw [runChannels, hskip]
      exact ih

theorem runFifoChannels_idle {waitcnt : WaitcntPointer} {trigger : DmaTrigger} {system : System}
    (h : system.devices.DmaIdle) (channels : List (Fin 4)) (result : DmaRunResult) :
    runFifoChannels waitcnt trigger channels system result = (system, result) := by
  induction channels with
  | nil => rfl
  | cons channel channels ih =>
      have hoff : (system.channel channel).enabled = false := h channel
      rw [runFifoChannels, if_pos (.inl (by rw [hoff]; rfl))]
      exact ih

/-- A DMA request of the display finds no channel. -/
theorem runDma_alike {trigger : DmaTrigger} (htrigger : trigger = .hblank ∨ trigger = .vblank)
    (h : a.system.devices.DmaIdle) : Alike a (a.runDma trigger) := by
  have hrun : runTrigger sessionWaitcnt trigger a.system = (a.system, ⟨0, 0, false, 0⟩) := by
    unfold runTrigger
    rw [runChannels_idle h]
    rcases htrigger with rfl | rfl <;> rfl
  unfold runDma
  rw [hrun]
  exact ⟨rfl, rfl, BitVec.add_zero _⟩

theorem iterate_runDma_alike {trigger : DmaTrigger}
    (htrigger : trigger = .hblank ∨ trigger = .vblank) (h : a.system.devices.DmaIdle)
    (events : Nat) : Alike a ((runDma trigger)^[events] a) := by
  induction events generalizing a with
  | zero => exact Alike.refl a
  | succ events ih =>
      have hone := runDma_alike htrigger h
      refine hone.trans (ih ?_)
      rw [hone.system]
      exact h

theorem serveDisplay_alike (h : a.system.devices.DmaIdle) (events : PpuTickEvents) :
    Alike a (a.serveDisplay events) := by
  unfold serveDisplay
  split
  · have hhblank := iterate_runDma_alike (.inl rfl) h events.hblankEntries.toNat
    refine hhblank.trans (iterate_runDma_alike (.inr rfl) ?_ _)
    rw [hhblank.system]
    exact h
  · exact Alike.refl a

/-- A sound FIFO that asks for data gets none. -/
theorem refill_alike {trigger : DmaTrigger} (htrigger : trigger = .fifoA ∨ trigger = .fifoB)
    (h : a.system.devices.DmaIdle) (request : Bool) : Alike a (a.refill trigger request) := by
  unfold refill
  split
  · have hrun : runSoundFifo sessionWaitcnt trigger a.system = (a.system, ⟨0, 0, false, 0⟩) := by
      unfold runSoundFifo
      rw [runFifoChannels_idle h]
      rcases htrigger with rfl | rfl <;> rfl
    unfold runSoundDma
    rw [hrun]
    exact ⟨rfl, rfl, BitVec.add_zero _⟩
  · exact Alike.refl a

/-- An overflow of a sound timer clocks the sound unit and nothing else. -/
theorem soundTimerEvent_alike (h : a.system.devices.DmaIdle) {timerIndex : U8}
    {result : DirectSoundTimerResult} {apu : Apu}
    (hoverflow : a.system.devices.apu.timerOverflow timerIndex = some (result, apu)) :
    ∃ b, a.soundTimerEvent timerIndex = some b ∧ Alike (a.withApu apu) b := by
  rw [soundTimerEvent, hoverflow]
  refine ⟨_, rfl, ?_⟩
  have hidle : Devices.DmaIdle
      ({ a.withApu apu with lastDirectSound := result } : DeviceAdvance).system.devices := h
  have hlatched : Alike (a.withApu apu) { a.withApu apu with lastDirectSound := result } :=
    ⟨rfl, rfl, rfl⟩
  dsimp only
  generalize ({ a.withApu apu with lastDirectSound := result } : DeviceAdvance) = latched at *
  have hfifoA := refill_alike (.inl rfl) hidle result.fifoA.refillRequest
  rw [← hfifoA.system] at hidle
  have hfifoB := refill_alike (.inr rfl) hidle result.fifoB.refillRequest
  exact ((hlatched.trans hfifoA).trans hfifoB).trans ⟨rfl, rfl, rfl⟩

/-- The overflows of one sound timer, where `clock` is what one of them does to the unit. -/
theorem consumeDirectSoundTimer_alike {timerIndex : U8} {clock : Apu → Apu}
    (hclock : ∀ apu : Apu, apu.Playable →
      ∃ result, apu.timerOverflow timerIndex = some (result, clock apu))
    (h : a.system.devices.DmaIdle) (hplay : a.system.devices.apu.Playable) (overflows : Nat) :
    ∃ b, a.consumeDirectSoundTimer timerIndex overflows = some b ∧
      Alike (a.withApu (clock^[overflows] a.system.devices.apu)) b := by
  induction overflows generalizing a with
  | zero => exact ⟨a, rfl, rfl, rfl, rfl⟩
  | succ overflows ih =>
      obtain ⟨result, hoverflow⟩ := hclock _ hplay
      obtain ⟨next, hevent, halike⟩ := soundTimerEvent_alike h hoverflow
      have hapu : next.system.devices.apu = clock a.system.devices.apu := by
        rw [halike.system]
        rfl
      have hidle : next.system.devices.DmaIdle := by
        rw [halike.system]
        exact h
      have hplayNext : next.system.devices.apu.Playable := by
        obtain ⟨_, other, hother, hplayOther⟩ := hplay.timerOverflow timerIndex
        rw [hoverflow] at hother
        rw [hapu, (Prod.mk.inj (Option.some.inj hother)).2]
        exact hplayOther
      obtain ⟨last, hrest, hlast⟩ := ih hidle hplayNext
      refine ⟨last, ?_, ?_⟩
      · rw [consumeDirectSoundTimer, hevent]
        exact hrest
      · rw [Function.iterate_succ_apply, ← hapu]
        exact (halike.replaceApu _).trans hlast

/-- All timer events of an interval. -/
theorem serveSound_alike (h : a.system.devices.DmaIdle) (hplay : a.system.devices.apu.Playable)
    (timer0Delta timer1Delta : U64) :
    ∃ b, a.serveSound timer0Delta timer1Delta = some b ∧
      Alike (a.withApu (a.system.devices.apu.latched timer0Delta.toNat timer1Delta.toNat)) b := by
  obtain ⟨first, hfirst, halikeFirst⟩ :=
    consumeDirectSoundTimer_alike (fun _ => Apu.timerOverflow_timer0) h hplay timer0Delta.toNat
  rw [Apu.iterate_latched_timer0] at halikeFirst
  have hidle : first.system.devices.DmaIdle := by
    rw [halikeFirst.system]
    exact h
  have hapu : first.system.devices.apu =
      a.system.devices.apu.latched timer0Delta.toNat 0 := by
    rw [halikeFirst.system]
    rfl
  have hplayFirst : first.system.devices.apu.Playable := by
    rw [hapu]
    exact hplay.latched _ _
  obtain ⟨last, hlast, halike⟩ :=
    consumeDirectSoundTimer_alike (fun _ => Apu.timerOverflow_timer1) hidle hplayFirst
      timer1Delta.toNat
  rw [Apu.iterate_latched_timer1, hapu, Apu.latched_latched, Nat.zero_add, Nat.add_zero] at halike
  refine ⟨last, ?_, (halikeFirst.replaceApu _).trans halike⟩
  rw [serveSound, hfirst]
  exact hlast

/-- The interval that the loop takes when no DMA runs. -/
theorem interval_eq (hdma : a.dmaRemaining = 0) :
    a.interval = a.system.devices.nextInterval a.cpuRemaining := by
  unfold interval
  rw [if_neg (not_not_intro hdma)]
  rfl

/-- All events of an interval. -/
theorem serveEvents_alike (h : a.system.devices.DmaIdle) (hplay : a.system.devices.apu.Playable)
    {dmaInterval : Bool} {events : PpuTickEvents} {timer0Delta timer1Delta : U64}
    (hserved : a.serveEvents dmaInterval events timer0Delta timer1Delta = some b) :
    Alike (a.withApu (a.system.devices.apu.latched timer0Delta.toNat timer1Delta.toNat)) b := by
  unfold serveEvents at hserved
  split at hserved
  · -- the loop serves the events of the interval
    obtain ⟨sounded, hsounded, rfl⟩ := Option.map_eq_some_iff.mp hserved
    have hlimit : Alike a (a.limitChain dmaInterval) := ⟨rfl, rfl, rfl⟩
    have hidleLimit : (a.limitChain dmaInterval).system.devices.DmaIdle := h
    have hdisplay := hlimit.trans (serveDisplay_alike hidleLimit events)
    generalize (a.limitChain dmaInterval).serveDisplay events = displayed at hdisplay hsounded
    have hidleDisplayed : displayed.system.devices.DmaIdle := by
      rw [hdisplay.system]
      exact h
    have hapuDisplayed : displayed.system.devices.apu = a.system.devices.apu := by
      rw [hdisplay.system]
    obtain ⟨other, hother, halike⟩ := serveSound_alike hidleDisplayed
      (hapuDisplayed ▸ hplay) timer0Delta timer1Delta
    obtain rfl : other = sounded := Option.some.inj (hother.symm.trans hsounded)
    rw [hapuDisplayed] at halike
    have hnoted : ∀ generated, Alike other (other.noteGenerated dmaInterval generated) := by
      intro generated
      unfold noteGenerated
      split <;> exact ⟨rfl, rfl, rfl⟩
    exact ((hdisplay.withApu _).trans halike).trans (hnoted _)
  · -- nothing happened
    next hquiet =>
    obtain rfl := Option.some.inj hserved
    rw [not_or, not_or, not_or, not_not, not_not, not_not, not_not] at hquiet
    rw [hquiet.2.2.1, hquiet.2.2.2]
    have hsame : a.system.devices.apu.latched (0 : U64).toNat (0 : U64).toNat =
        a.system.devices.apu :=
      Apu.latched_of_pops_eq_zero fun c => by unfold Apu.pops; split <;> split <;> rfl
    rw [hsame]
    exact ⟨rfl, rfl, rfl⟩

/-- The devices after an interval, before its events. -/
theorem charge_tickDevices (hdma : a.dmaRemaining = 0) (interval : U32) :
    let ticked := ((a.charge interval).tickDevices interval).2
    ticked.system =
        { a.system with
          devices :=
            let timers := a.system.devices.timers.tick interval a.system.devices.interrupts
            let io := a.system.devices.io.tick interval timers.2.1
            let ppu := a.system.devices.ppu.tick interval io.2
            { a.system.devices with
              interrupts := ppu.2.1, timers := timers.1, io := io.1, ppu := ppu.1 } } ∧
      ticked.cpuRemaining = a.cpuRemaining - interval ∧ ticked.dmaRemaining = 0 := by
  have hcharge : a.charge interval =
      { a with
        cpuRemaining := a.cpuRemaining - interval
        dmaChainBudget := 0
        dmaChainGenerated := 0 } := if_neg (not_not_intro hdma)
  rw [hcharge]
  exact ⟨rfl, rfl, hdma⟩

/-- One pass of the loop when no DMA runs. -/
theorem advanceInterval_pass (hidle : a.system.devices.DmaIdle)
    (hplay : a.system.devices.apu.Playable) (hdma : a.dmaRemaining = 0)
    (h : a.advanceInterval = some b) :
    a.system.devices.pass a.interval = some b.system.devices ∧
      b.system = { a.system with devices := b.system.devices } ∧
      b.cpuRemaining = a.cpuRemaining - a.interval ∧ b.dmaRemaining = 0 := by
  unfold advanceInterval at h
  dsimp only at h
  split at h
  · contradiction
  obtain ⟨served, hserved, hapu⟩ := Option.bind_eq_some_iff.mp h
  obtain ⟨⟨step, apu⟩, htick, rfl⟩ := Option.map_eq_some_iff.mp hapu
  obtain ⟨hsystem, hcpu, hdmaTicked⟩ := charge_tickDevices hdma a.interval
  generalize (a.charge a.interval).tickDevices a.interval = ticked at hserved hsystem hcpu hdmaTicked
  have hidleTicked : ticked.2.system.devices.DmaIdle := by
    rw [hsystem]
    exact hidle
  have hapuTicked : ticked.2.system.devices.apu = a.system.devices.apu := by rw [hsystem]
  have hcount : ∀ timer, (ticked.2.system.devices.timers.timers timer).overflowCount -
      (a.system.devices.timers.timers timer).overflowCount =
        a.system.devices.timers.overflows a.interval a.system.devices.interrupts timer := by
    intro timer
    rw [hsystem]
    rfl
  rw [hcount, hcount] at hserved
  have hserve := serveEvents_alike hidleTicked (hapuTicked ▸ hplay) hserved
  rw [hapuTicked] at hserve
  refine ⟨?_, ?_, hserve.cpuRemaining.trans hcpu, hserve.dmaRemaining.trans hdmaTicked⟩
  · have hunit : served.system.devices.apu = a.system.devices.apu.latched
        (a.system.devices.soundOverflows a.interval 0)
        (a.system.devices.soundOverflows a.interval 1) := by
      rw [hserve.system]
      rfl
    rw [hunit] at htick
    unfold Devices.pass
    dsimp only
    rw [htick]
    unfold withApu at hserve ⊢
    dsimp only
    rw [hserve.system, hsystem]
    rfl
  · show { served.system with devices := { served.system.devices with apu := apu } } =
      { a.system with devices := { served.system.devices with apu := apu } }
    rw [hserve.system]
    unfold withApu
    rw [hsystem]

end DeviceAdvance

namespace Devices

variable {d next last other : Devices}

/-- The devices without the values of audio samples. -/
def withoutSamples (d : Devices) : Devices := { d with apu := d.apu.withoutSamples }

/-- What the devices keep from one interval to the next: they tick, no DMA runs, the remainders of
the sound unit have room for a line, and the cycle counter does not wrap in the `cycles` cycles
ahead. -/
structure Steady (cycles : Nat) (d : Devices) : Prop where
  live : d.Live
  idle : d.DmaIdle
  wellTimed : d.timers.WellTimed
  room : d.apu.Room kCyclesPerLine.toNat
  headroom : d.timers.Headroom cycles

theorem Steady.mono {cycles more : Nat} (h : d.Steady cycles) (hle : more ≤ cycles) :
    d.Steady more := by
  have hcounter := h.headroom
  unfold Timers.Headroom at hcounter
  exact ⟨h.live, h.idle, h.wellTimed, h.room, by unfold Timers.Headroom; omega⟩

theorem pass_keeps {interval : U32} (hlive : d.Live) (hidle : d.DmaIdle)
    (h : d.pass interval = some next) : next.Live ∧ next.DmaIdle := by
  unfold pass at h
  obtain ⟨⟨step, apu⟩, htick, rfl⟩ := Option.map_eq_some_iff.mp h
  refine ⟨⟨?_, PpuTiming.tick_lineCycle_lt _ _ hlive.ppu⟩, hidle⟩
  obtain ⟨_, other, hother, hplay⟩ := (hlive.apu.latched _ _).tick interval
  rw [htick] at hother
  have hapu : apu = other := (Prod.mk.inj (Option.some.inj hother)).2
  rw [← hapu] at hplay
  exact hplay

/-- The next edge is on this line. -/
theorem untilEdge_le (h : d.ppu.lineCycle < kCyclesPerLine) :
    d.untilEdge.toNat ≤ kCyclesPerLine.toNat := by
  unfold untilEdge DeviceAdvance.boundary kPpuVisibleCycles kHblankFlagCycles kCyclesPerLine at *
  split_ifs <;> bv_omega

/-- The remainders of the sound unit have room for an interval. -/
theorem Steady.roomFor {cycles : Nat} (h : d.Steady cycles) {interval : U32}
    (hinside : interval ≤ d.untilEdge) : d.apu.Room interval.toNat := by
  have hline := untilEdge_le h.live.ppu
  exact h.room.mono (by bv_omega)

theorem pass_steady {interval : U32} {more : Nat} (hsteady : d.Steady (interval.toNat + more))
    (hinside : interval ≤ d.untilEdge) (h : d.pass interval = some next) : next.Steady more := by
  obtain ⟨hlive, hidle⟩ := pass_keeps hsteady.live hsteady.idle h
  have hcounter := hsteady.headroom
  have hinterval := hsteady.roomFor hinside
  have hroom := hsteady.room
  unfold pass at h
  obtain ⟨⟨step, apu⟩, htick, rfl⟩ := Option.map_eq_some_iff.mp h
  refine ⟨hlive, hidle, hsteady.wellTimed.tick _ _, ?_, ?_⟩
  · -- latching moves samples of the FIFOs only: the counters that bound a run are the same
    have hlatched : ∀ first second n, d.apu.Room n → (d.apu.latched first second).Room n :=
      fun _ _ _ h => ⟨h.frame, h.audio⟩
    exact Apu.tick_keeps_room (hlatched _ _ _ hinterval) (hlatched _ _ _ hroom) (by decide) htick
  · unfold Timers.Headroom at hcounter ⊢
    dsimp only
    rw [Timers.tick_cycleCounter]
    bv_omega

end Devices

namespace DeviceAdvance

variable {a b : DeviceAdvance}

/-- The loop when no DMA runs. -/
theorem advanceLoop_advances (hlive : a.system.devices.Live) (hidle : a.system.devices.DmaIdle)
    (hdma : a.dmaRemaining = 0) (h : a.advanceLoop = some b) :
    Devices.Advances a.cpuRemaining a.system.devices b.system.devices ∧
      b.system = { a.system with devices := b.system.devices } := by
  induction a using advanceLoop.induct with
  | case1 a hdone =>
      rw [advanceLoop, if_pos hdone] at h
      obtain rfl := Option.some.inj h
      unfold finished at hdone
      rw [Bool.and_eq_true, decide_eq_true_eq] at hdone
      rw [hdone.1]
      exact ⟨.done _, rfl⟩
  | case2 a hgoing hnone =>
      rw [advanceLoop_eq (Bool.eq_false_of_not_eq_true hgoing), hnone] at h
      contradiction
  | case3 a hgoing next hnext ih =>
      have hgoing' := Bool.eq_false_of_not_eq_true hgoing
      rw [advanceLoop_eq hgoing', hnext, Option.bind_some] at h
      obtain ⟨hpass, hsystem, hcpu, hdmaNext⟩ :=
        advanceInterval_pass hidle hlive.apu hdma hnext
      obtain ⟨hliveNext, hidleNext⟩ := Devices.pass_keeps hlive hidle hpass
      obtain ⟨hrest, hlast⟩ := ih hliveNext hidleNext hdmaNext h
      have hcycles : a.cpuRemaining ≠ 0 := by
        intro hzero
        unfold finished at hgoing'
        rw [hzero, hdma] at hgoing'
        exact Bool.noConfusion hgoing'
      rw [interval_eq hdma] at hpass hcpu
      rw [hcpu] at hrest
      refine ⟨.pass hcycles hpass hrest, ?_⟩
      rw [hlast, hsystem]

end DeviceAdvance

namespace Devices

variable {d next last other : Devices}

/-! ## Cutting an interval -/

theorem nextInterval_le (cycles : U32) (d : Devices) : d.nextInterval cycles ≤ cycles := by
  unfold nextInterval
  split <;> bv_omega

theorem nextInterval_le_untilEdge (cycles : U32) (d : Devices) :
    d.nextInterval cycles ≤ d.untilEdge := by
  unfold nextInterval
  split <;> bv_omega

theorem untilEdge_ne_zero (h : d.ppu.lineCycle < kCyclesPerLine) : d.untilEdge ≠ 0 := by
  unfold untilEdge DeviceAdvance.boundary kPpuVisibleCycles kHblankFlagCycles kCyclesPerLine at *
  split_ifs <;> bv_omega

/-- Cycles short of the next edge leave the rest of the way to it. -/
theorem untilEdge_pass {first : U32} (hline : d.ppu.lineCycle < kCyclesPerLine)
    (hshort : first < d.untilEdge) (h : d.pass first = some next) :
    next.untilEdge = d.untilEdge - first := by
  have hevent : first < d.ppu.untilEvent := by
    unfold untilEdge DeviceAdvance.boundary kPpuVisibleCycles kHblankFlagCycles kCyclesPerLine
      at hshort
    unfold PpuTiming.untilEvent kHblankFlagCycles kCyclesPerLine
    unfold kCyclesPerLine at hline
    split_ifs at hshort ⊢ <;> bv_omega
  unfold pass at h
  obtain ⟨⟨step, apu⟩, -, rfl⟩ := Option.map_eq_some_iff.mp h
  unfold untilEdge
  dsimp only
  rw [PpuTiming.tick_of_lt hline hevent]
  unfold untilEdge DeviceAdvance.boundary kPpuVisibleCycles kHblankFlagCycles kCyclesPerLine
    at hshort
  unfold PpuTiming.moved DeviceAdvance.boundary kPpuVisibleCycles kHblankFlagCycles kCyclesPerLine
  unfold kCyclesPerLine at hline
  dsimp only
  split_ifs at hshort ⊢ <;> bv_omega

/-- The sound timers clock no direct-sound channel in the interval. -/
def SoundQuiet (interval : U32) (d : Devices) : Prop :=
  ∀ c, d.apu.pops (d.soundOverflows interval 0) (d.soundOverflows interval 1) c = 0

/-- An interval that is cut short of the next edge. -/
theorem pass_cut {first second : U32} {mid whole : Devices}
    (hsteady : d.Steady (first.toNat + second.toNat)) (hfirst : first ≠ 0) (hsecond : second ≠ 0)
    (hsum : first.toNat + second.toNat < 2 ^ 32) (hshort : first < d.untilEdge)
    (hinside : first + second ≤ d.untilEdge)
    (hwhole : d.pass (first + second) = some whole) (hmid : d.pass first = some mid)
    (hlast : mid.pass second = some last) :
    whole.withoutSamples = last.withoutSamples ∧ (mid.SoundQuiet second → whole = last) := by
  have hline := hsteady.live.ppu
  have hevent : first < d.ppu.untilEvent := by
    unfold untilEdge DeviceAdvance.boundary kPpuVisibleCycles kHblankFlagCycles kCyclesPerLine
      at hshort
    unfold PpuTiming.untilEvent kHblankFlagCycles kCyclesPerLine
    unfold kCyclesPerLine at hline
    split_ifs at hshort ⊢ <;> bv_omega
  unfold pass at hwhole hmid
  obtain ⟨⟨step, apu⟩, htick, rfl⟩ := Option.map_eq_some_iff.mp hwhole
  obtain ⟨⟨stepMid, apuMid⟩, htickMid, rfl⟩ := Option.map_eq_some_iff.mp hmid
  dsimp only at hlast ⊢
  rw [PpuTiming.tick_of_lt hline hevent] at hlast ⊢
  dsimp only at hlast ⊢
  -- the timers of the second part run as in the whole, before or after the serial interrupt
  have htimers := Timers.tick_add hsteady.wellTimed hsum hsteady.headroom d.interrupts
  generalize hone : d.timers.tick first d.interrupts = one at *
  dsimp only at htimers
  generalize htwo : one.1.tick second one.2.1 = two at *
  have hserial : ∃ interrupts, one.1.tick second (d.io.tick first one.2.1).2 =
        (two.1, interrupts, two.2.2) ∧
      (d.io.tick first one.2.1).1.tick second interrupts =
        d.io.tick (first + second) two.2.1 := by
    rw [SerialRegisters.tick_add _ hsum]
    obtain ⟨io, hquiet | hraise⟩ := d.io.tick_cases first
    · refine ⟨two.2.1, ?_, ?_⟩
      · rw [hquiet, htwo]
      · rw [hquiet, hquiet]
    · refine ⟨two.2.1.request .serial, ?_, ?_⟩
      · rw [hraise, Timers.tick_request, htwo]
      · rw [hraise, hraise]
  obtain ⟨interrupts, hsecondTimers, hio⟩ := hserial
  unfold pass at hlast
  obtain ⟨⟨stepLast, apuLast⟩, htickLast, rfl⟩ := Option.map_eq_some_iff.mp hlast
  dsimp only
  rw [htimers, hsecondTimers]
  dsimp only
  rw [hio, PpuTiming.tick_add_of_lt hline hevent hsum]
  -- the sound unit
  have hevents : ∀ timer, d.soundOverflows (first + second) timer =
      d.soundOverflows first timer + (one.1.overflows second
        (d.io.tick first one.2.1).2 timer).toNat := by
    intro timer
    have hadd := Timers.overflows_add hsteady.wellTimed hfirst hsecond hsum hsteady.headroom
      d.interrupts (d.io.tick first one.2.1).2 timer
    rw [hone] at hadd
    exact hadd
  rw [hevents, hevents] at htick
  have hadd : (first + second).toNat = first.toNat + second.toNat := by bv_omega
  have hroom := hsteady.roomFor hinside
  rw [hadd] at hroom
  obtain ⟨hsame, hquiet⟩ := Apu.latched_tick_split hsum hroom htick htickMid htickLast
  refine ⟨?_, fun hsound => ?_⟩
  · unfold withoutSamples
    rw [hsame]
  · rw [hquiet hsound]

/-- Devices that differ in the values of samples pass an interval alike. -/
theorem pass_withoutSamples {interval : U32} {nextOther : Devices}
    (hroom : d.apu.Room interval.toNat) (hsame : d.withoutSamples = other.withoutSamples)
    (h : d.pass interval = some next) (hother : other.pass interval = some nextOther) :
    next.withoutSamples = nextOther.withoutSamples := by
  have hapu : d.apu.withoutSamples = other.apu.withoutSamples := congrArg Devices.apu hsame
  have hrest : other = { d with apu := other.apu } := by
    have hjoin : ∀ devices : Devices,
        devices = { devices.withoutSamples with apu := devices.apu } := fun _ => rfl
    rw [hjoin other, ← hsame]
    rfl
  generalize other.apu = unit at hapu hrest
  subst hrest
  unfold pass at h hother
  obtain ⟨⟨step, apu⟩, htick, rfl⟩ := Option.map_eq_some_iff.mp h
  obtain ⟨⟨stepOther, apuOther⟩, htickOther, rfl⟩ := Option.map_eq_some_iff.mp hother
  have hlatched : ∀ n m, (d.apu.latched n m).withoutSamples = (unit.latched n m).withoutSamples := by
    intro n m
    show d.apu.withoutSamples.latched n m = unit.withoutSamples.latched n m
    rw [hapu]
  have hroomLatched : ∀ n m, (d.apu.latched n m).Room interval.toNat :=
    fun _ _ => ⟨hroom.frame, hroom.audio⟩
  have hunits := Apu.tick_withoutSamples (hroomLatched _ _) (hlatched _ _) htick htickOther
  unfold withoutSamples
  dsimp only
  rw [hunits]

/-! ## Cutting a run -/

/-- The run is a function of the cycles and the devices. -/
theorem Advances.unique {cycles : U32} (h : Advances cycles d last) (h' : Advances cycles d other) :
    last = other := by
  induction h with
  | done d =>
      cases h' with
      | done _ => rfl
      | pass hcycles _ _ => exact absurd rfl hcycles
  | pass hcycles hnext _ ih =>
      cases h' with
      | done _ => exact absurd rfl hcycles
      | pass _ hnext' hrest' =>
          rw [hnext] at hnext'
          obtain rfl := Option.some.inj hnext'
          exact ih hrest'

/-- What the first interval of a run leaves for the others. -/
theorem Steady.split {cycles : U32} (h : d.Steady cycles.toNat) :
    d.Steady ((d.nextInterval cycles).toNat + (cycles - d.nextInterval cycles).toNat) := by
  have hle := nextInterval_le cycles d
  exact h.mono (by bv_omega)

/-- Devices that differ in the values of samples run alike. -/
theorem Advances.withoutSamples {cycles : U32} {lastOther : Devices} (h : Advances cycles d last)
    (hother : Advances cycles other lastOther) (hsteady : d.Steady cycles.toNat)
    (hsame : d.withoutSamples = other.withoutSamples) :
    last.withoutSamples = lastOther.withoutSamples := by
  induction h generalizing other with
  | done d =>
      cases hother with
      | done _ => exact hsame
      | pass hcycles _ _ => exact absurd rfl hcycles
  | @pass cycles d next last hcycles hnext hrest ih =>
      cases hother with
      | done _ => exact absurd rfl hcycles
      | @pass _ _ nextOther _ _ hnextOther hrestOther =>
          have hppu : d.withoutSamples.ppu = other.withoutSamples.ppu := by rw [hsame]
          have hinterval : other.nextInterval cycles = d.nextInterval cycles := by
            unfold nextInterval untilEdge
            change d.ppu = other.ppu at hppu
            rw [hppu]
          rw [hinterval] at hnextOther hrestOther
          have hsplit := hsteady.split
          have hinside := nextInterval_le_untilEdge cycles d
          exact ih hrestOther (pass_steady hsplit hinside hnext)
            (pass_withoutSamples (hsteady.roomFor hinside) hsame hnext hnextOther)

theorem Advances.first {cycles : U32} (h : Advances cycles d last) (hcycles : cycles ≠ 0) :
    ∃ next, d.pass (d.nextInterval cycles) = some next ∧
      Advances (cycles - d.nextInterval cycles) next last := by
  cases h with
  | done _ => exact absurd rfl hcycles
  | pass _ hnext hrest => exact ⟨_, hnext, hrest⟩

/-- A run, cut anywhere. The two runs differ in one interval at most, the one that is cut. -/
theorem Advances.cut {first second : U32} {mid whole : Devices} (hmid : Advances first d mid)
    (hsteady : d.Steady (first.toNat + second.toNat))
    (hsum : first.toNat + second.toNat < 2 ^ 32) (hwhole : Advances (first + second) d whole)
    (hlast : Advances second mid last) :
    whole.withoutSamples = last.withoutSamples ∧
      (mid.SoundQuiet (mid.nextInterval second) → whole = last) := by
  induction hmid with
  | done d =>
      have hzero : 0 + second = second := by bv_omega
      rw [hzero] at hwhole
      obtain rfl := hwhole.unique hlast
      exact ⟨rfl, fun _ => rfl⟩
  | @pass first d next mid hfirst hnext hrest ih =>
      have hline := hsteady.live.ppu
      have hle := nextInterval_le first d
      have hnonzero : first + second ≠ 0 := by bv_omega
      obtain ⟨nextWhole, hnextWhole, hrestWhole⟩ := hwhole.first hnonzero
      by_cases hshort : first < d.untilEdge
      · -- the cut falls into this interval, which ends the first run
        have hinterval : d.nextInterval first = first := by
          unfold nextInterval
          rw [if_neg (by bv_omega)]
        have hnone : first - first = 0 := by bv_omega
        rw [hinterval] at hnext hrest
        rw [hnone] at hrest
        obtain rfl := hrest.unique (.done next)
        by_cases hsecond : second = 0
        · subst hsecond
          have hzero : first + 0 = first := by bv_omega
          rw [hzero] at hwhole
          obtain rfl := hlast.unique (.done mid)
          have hrun : Advances first d last :=
            .pass hfirst (hinterval.symm ▸ hnext) (by rw [hinterval, hnone]; exact .done _)
          exact ⟨by rw [hwhole.unique hrun], fun _ => hwhole.unique hrun⟩
        · obtain ⟨nextLast, hnextLast, hrestLast⟩ := hlast.first hsecond
          have hedge := untilEdge_pass hline hshort hnext
          have hliveMid := (pass_keeps hsteady.live hsteady.idle hnext).1
          have hedgeMid := untilEdge_ne_zero hliveMid.ppu
          have hsecondLe := nextInterval_le second mid
          have hsecondNonzero : mid.nextInterval second ≠ 0 := by
            unfold nextInterval
            split
            · exact hedgeMid
            · exact hsecond
          have hwholeInterval : d.nextInterval (first + second) =
              first + mid.nextInterval second := by
            unfold nextInterval
            rw [hedge]
            split_ifs <;> bv_omega
          have hwholeRest : first + second - (first + mid.nextInterval second) =
              second - mid.nextInterval second := by bv_omega
          rw [hwholeInterval] at hnextWhole hrestWhole
          rw [hwholeRest] at hrestWhole
          have hinside : first + mid.nextInterval second ≤ d.untilEdge := by
            have hsecondEdge := nextInterval_le_untilEdge second mid
            rw [hedge] at hsecondEdge
            bv_omega
          obtain ⟨hsame, hquiet⟩ := pass_cut
            (hsteady.mono (by bv_omega)) hfirst hsecondNonzero (by bv_omega) hshort hinside
            hnextWhole hnext hnextLast
          have hsteadyWhole : nextWhole.Steady (second - mid.nextInterval second).toNat :=
            pass_steady (hsteady.mono (by bv_omega)) hinside hnextWhole
          refine ⟨hrestWhole.withoutSamples hrestLast hsteadyWhole hsame, fun hsound => ?_⟩
          rw [hquiet hsound] at hrestWhole
          exact hrestWhole.unique hrestLast
      · -- the cut comes later, both runs take the interval to the edge
        have hsame : d.nextInterval (first + second) = d.nextInterval first := by
          unfold nextInterval
          split_ifs <;> bv_omega
        have hrestSum : first + second - d.nextInterval first =
            first - d.nextInterval first + second := by bv_omega
        rw [hsame] at hnextWhole hrestWhole
        rw [hrestSum] at hrestWhole
        obtain rfl : nextWhole = next := Option.some.inj (hnextWhole.symm.trans hnext)
        exact ih (pass_steady (hsteady.mono (by bv_omega)) (nextInterval_le_untilEdge first d) hnext)
          (by bv_omega) hrestWhole hlast

theorem Advances.keeps {cycles : U32} (h : Advances cycles d last) (hlive : d.Live)
    (hidle : d.DmaIdle) : last.Live ∧ last.DmaIdle := by
  induction h with
  | done d => exact ⟨hlive, hidle⟩
  | pass _ hnext _ ih =>
      obtain ⟨hliveNext, hidleNext⟩ := pass_keeps hlive hidle hnext
      exact ih hliveNext hidleNext

end Devices

namespace CoreSession

/-! ## Advancing the machine -/

/-- The machine advances by `first + second` cycles to `whole`, and by `first` cycles to `mid` and
on by `second` cycles to `last`. -/
structure SplitRun (session : CoreSession) (first second : U32) (whole mid last : CoreSession) :
    Prop where
  atOnce : ∃ result, session.advanceDevices (first + second) = some (result, whole)
  firstPart : ∃ result, session.advanceDevices first = some (result, mid)
  secondPart : ∃ result, mid.advanceDevices second = some (result, last)

/-- With no DMA channel enabled `advance_devices` runs the devices and touches nothing else of the
machine. -/
theorem advanceDevices_advances {session next : CoreSession} {cycles : U32}
    {result : CoreDeviceTickResult} (hlive : session.system.devices.Live)
    (hidle : session.system.devices.DmaIdle)
    (h : session.advanceDevices cycles = some (result, next)) :
    Devices.Advances cycles session.system.devices next.system.devices ∧
      next.system = { session.system with devices := next.system.devices } := by
  unfold advanceDevices at h
  split at h
  · next hzero =>
      subst hzero
      obtain ⟨-, rfl⟩ := Prod.mk.inj (Option.some.inj h)
      exact ⟨.done _, rfl⟩
  · obtain ⟨advanced, hloop, hnext⟩ := Option.map_eq_some_iff.mp h
    obtain ⟨-, rfl⟩ := Prod.mk.inj hnext
    rw [finishAdvance_system]
    exact DeviceAdvance.advanceLoop_advances hlive hidle rfl hloop

theorem advanceDevices_defined {session : CoreSession} (hlive : session.system.devices.Live)
    (cycles : U32) : ∃ result next, session.advanceDevices cycles = some (result, next) := by
  unfold advanceDevices
  split
  · exact ⟨_, _, rfl⟩
  · obtain ⟨advanced, hloop, -⟩ :=
      DeviceAdvance.advanceLoop_live (a := .start session.system cycles) hlive
    rw [hloop]
    exact ⟨_, _, rfl⟩

/-- Advancing with no DMA channel enabled does not depend on how the cycles are cut: memory and
devices end up the same up to the values of audio samples. Those agree too when the sound timers
clock no direct-sound channel between the cut and the next edge of the display line. -/
theorem advanceDevices_add {session : CoreSession} {first second : U32}
    (h : session.system.devices.Steady (first.toNat + second.toNat))
    (hsum : first.toNat + second.toNat < 2 ^ 32) :
    ∃ whole mid last, SplitRun session first second whole mid last ∧
      whole.system.memory = last.system.memory ∧
      whole.system.devices.withoutSamples = last.system.devices.withoutSamples ∧
      (mid.system.devices.SoundQuiet (mid.system.devices.nextInterval second) →
        whole.system = last.system) := by
  obtain ⟨resultWhole, whole, hwhole⟩ := advanceDevices_defined h.live (first + second)
  obtain ⟨resultMid, mid, hmid⟩ := advanceDevices_defined h.live first
  obtain ⟨hrunWhole, hsystemWhole⟩ := advanceDevices_advances h.live h.idle hwhole
  obtain ⟨hrunMid, hsystemMid⟩ := advanceDevices_advances h.live h.idle hmid
  obtain ⟨hliveMid, hidleMid⟩ := hrunMid.keeps h.live h.idle
  obtain ⟨resultLast, last, hlast⟩ := advanceDevices_defined hliveMid second
  obtain ⟨hrunLast, hsystemLast⟩ := advanceDevices_advances hliveMid hidleMid hlast
  obtain ⟨hsame, hquiet⟩ := hrunMid.cut h hsum hrunWhole hrunLast
  refine ⟨whole, mid, last, ⟨⟨_, hwhole⟩, ⟨_, hmid⟩, ⟨_, hlast⟩⟩, ?_, hsame, fun hsound => ?_⟩
  · rw [hsystemWhole, hsystemLast, hsystemMid]
  · rw [hsystemWhole, hsystemLast, hsystemMid, hquiet hsound]

/-- What the devices show of a run: the timers, the position of the display, the interrupt flags,
the serial port, the direct-sound channels and the audio samples. -/
structure SameRun (d e : Devices) : Prop where
  timers : d.timers = e.timers
  line : d.ppu.line = e.ppu.line
  lineCycle : d.ppu.lineCycle = e.ppu.lineCycle
  interruptFlags : d.interrupts.interruptFlags = e.interrupts.interruptFlags
  io : d.io = e.io
  latches : d.apu.directSoundLatchedSamples = e.apu.directSoundLatchedSamples
  fifos : d.apu.fifos = e.apu.fifos
  audioBuffer : d.apu.audioBuffer = e.apu.audioBuffer

/-- A machine that plays direct sound A on timer 0, which overflows after 600 cycles. -/
def playingDevices : Devices :=
  { Devices.reset with
    timers := ⟨fun index => if index.val = 0 then ⟨0xFDA8, 0, 0x0080, 0, 0, 0, 0, false⟩ else .reset, 0⟩
    apu :=
      { Apu.reset with
        soundcntXStatus := kMasterEnable
        soundcntH := 0x0304
        fifos := fun _ => (RingBuffer.filled 0).push 0x40 } }

/-- A session with some devices. -/
def sessionWith (devices : Devices) : CoreSession :=
  { waitingSession 0x08000000#32 with
    system := { (waitingSession 0x08000000#32).system with devices := devices } }

theorem playingDevices_steady : playingDevices.Steady 612 where
  live := ⟨⟨Apu.Playable.reset.square, Apu.Playable.reset.wave, Apu.Playable.reset.noise,
    fun _ => (RingBuffer.wellFormed_filled _).push _, Apu.Playable.reset.audioBuffer⟩, by decide⟩
  idle := by unfold Devices.DmaIdle; decide
  wellTimed := by
    intro i
    refine Timers.Timer.wellTimed_of_idle ?_ ?_ _ <;> (simp only [playingDevices]; split <;> rfl)
  room := ⟨by decide, by decide⟩
  headroom := by unfold Timers.Headroom; decide

theorem advanceDevices_add_playing :
    ∃ whole mid last, SplitRun (sessionWith playingDevices) 512 100 whole mid last ∧
      whole.system.memory = last.system.memory ∧
      whole.system.devices.withoutSamples = last.system.devices.withoutSamples ∧
      (mid.system.devices.SoundQuiet (mid.system.devices.nextInterval 100) →
        whole.system = last.system) :=
  advanceDevices_add playingDevices_steady (by decide)

/-- A run inside one interval of the display line is one pass. -/
theorem advances_within {d last : Devices} {cycles : U32} (hcycles : cycles ≠ 0)
    (hinside : ¬d.untilEdge < cycles) (h : Devices.Advances cycles d last) :
    d.pass cycles = some last := by
  obtain ⟨next, hnext, hrest⟩ := h.first hcycles
  have hinterval : d.nextInterval cycles = cycles := if_neg hinside
  have hnone : cycles - cycles = 0 := by bv_omega
  rw [hinterval] at hnext hrest
  rw [hnone] at hrest
  rw [hnext, hrest.unique (.done next)]

/-- The sound unit after a pass. -/
theorem pass_apu {d next : Devices} {cycles : U32} (hmaster : d.apu.masterEnabled = true)
    (hroom : d.apu.Room cycles.toNat) (h : d.pass cycles = some next) :
    Apu.generateMany ((d.apu.audioCycleRemainder.toNat + cycles.toNat) / 512)
      ((d.apu.latched (d.soundOverflows cycles 0) (d.soundOverflows cycles 1)).charged
        cycles.toNat) = some next.apu := by
  unfold Devices.pass at h
  obtain ⟨⟨step, apu⟩, htick, rfl⟩ := Option.map_eq_some_iff.mp h
  have hlatched : (d.apu.latched (d.soundOverflows cycles 0)
      (d.soundOverflows cycles 1)).Room cycles.toNat := ⟨hroom.frame, hroom.audio⟩
  have hmasterLatched : (d.apu.latched (d.soundOverflows cycles 0)
      (d.soundOverflows cycles 1)).masterEnabled = true := hmaster
  have heq := Apu.tick_eq hmasterLatched hlatched
  rw [htick] at heq
  exact heq.symm

/-- The overflows of the sound timers in a window are counted from their own cycles. -/
theorem soundOverflows_eq {d : Devices} {cycles : U32} (hcycles : cycles ≠ 0)
    (hroom : d.timers.Headroom cycles.toNat) (timer : Fin 4) :
    d.soundOverflows cycles timer =
      (Timers.stages.outputs d.timers.timers (d.timers.tickSources cycles) timer).length :=
  Timers.overflows_toNat hcycles hroom d.interrupts timer

/-- Run at once, the sample at cycle 512 plays what the timer latches at cycle 600. -/
theorem playing_whole {whole : Devices} (h : playingDevices.pass 612 = some whole) :
    (whole.apu.audioBuffer.samples 0).left = 16384 := by
  have happu := pass_apu rfl ⟨by decide, by decide⟩ h
  have h0 : playingDevices.soundOverflows 612 0 = 1 := by
    rw [soundOverflows_eq (by decide) (by unfold Timers.Headroom; decide)]
    decide +kernel
  have h1 : playingDevices.soundOverflows 612 1 = 0 := by
    rw [soundOverflows_eq (by decide) (by unfold Timers.Headroom; decide)]
    decide +kernel
  rw [h0, h1] at happu
  have hsample : (Apu.generateMany 1 ((playingDevices.apu.latched 1 0).charged 612)).map
      (fun apu => (apu.audioBuffer.samples 0).left) = some 16384 := by decide +kernel
  change Apu.generateMany 1 ((playingDevices.apu.latched 1 0).charged 612) = _ at happu
  rw [happu] at hsample
  exact Option.some.inj hsample

/-- Cut at cycle 512, it plays silence. -/
theorem playing_last {mid last : Devices} (hmid : playingDevices.pass 512 = some mid)
    (hlast : mid.pass 100 = some last) : (last.apu.audioBuffer.samples 0).left = 0 := by
  have happu := pass_apu rfl ⟨by decide, by decide⟩ hmid
  have h0 : playingDevices.soundOverflows 512 0 = 0 := by
    rw [soundOverflows_eq (by decide) (by unfold Timers.Headroom; decide)]
    decide +kernel
  have h1 : playingDevices.soundOverflows 512 1 = 0 := by
    rw [soundOverflows_eq (by decide) (by unfold Timers.Headroom; decide)]
    decide +kernel
  rw [h0, h1] at happu
  have hunit : (Apu.generateMany 1 ((playingDevices.apu.latched 0 0).charged 512)).map
      (fun apu => ((apu.audioBuffer.samples 0).left, apu.masterEnabled, apu.frameCycleRemainder,
        apu.audioCycleRemainder)) = some (0, true, 512, 0) := by decide +kernel
  change Apu.generateMany 1 ((playingDevices.apu.latched 0 0).charged 512) = _ at happu
  rw [happu] at hunit
  obtain ⟨hleft, hmaster, hframe, haudio⟩ :
      (mid.apu.audioBuffer.samples 0).left = 0 ∧ mid.apu.masterEnabled = true ∧
        mid.apu.frameCycleRemainder = 512 ∧ mid.apu.audioCycleRemainder = 0 := by
    simpa using hunit
  have happuLast := pass_apu hmaster
    ⟨by rw [hframe]; decide, by rw [haudio]; decide⟩ hlast
  rw [haudio] at happuLast
  change some ((mid.apu.latched _ _).charged 100) = _ at happuLast
  rw [← Option.some.inj happuLast]
  exact hleft

theorem pass_timers {d next : Devices} {cycles : U32} (h : d.pass cycles = some next) :
    next.timers = (d.timers.tick cycles d.interrupts).1 := by
  unfold Devices.pass at h
  obtain ⟨⟨step, apu⟩, -, rfl⟩ := Option.map_eq_some_iff.mp h
  rfl

theorem pass_lineCycle {d next : Devices} {cycles : U32} (hline : d.ppu.lineCycle < kCyclesPerLine)
    (hshort : cycles < d.ppu.untilEvent) (h : d.pass cycles = some next) :
    next.ppu.lineCycle = d.ppu.lineCycle + cycles.setWidth 16 := by
  unfold Devices.pass at h
  obtain ⟨⟨step, apu⟩, -, rfl⟩ := Option.map_eq_some_iff.mp h
  dsimp only
  rw [PpuTiming.tick_of_lt hline hshort]
  rfl

/-- The machine one divisor short of the end of its cycle counter. -/
def wrappingDevices : Devices :=
  { Devices.reset with timers := Timers.nearWrap 0xFFFFFFFFFFFFFBFF 0 }

/-- Two counterexamples to the law without its conditions. The first machine is steady and plays
other samples when its run is cut; in the second the cycle counter is close to its end and the cut
run counts other overflows. -/
theorem not_advanceDevices_add :
    (¬∀ (session whole mid last : CoreSession) (first second : U32),
      session.system.devices.Steady (first.toNat + second.toNat) →
        first.toNat + second.toNat < 2 ^ 32 → SplitRun session first second whole mid last →
          SameRun whole.system.devices last.system.devices) ∧
    ¬∀ (session whole mid last : CoreSession) (first second : U32),
      session.system.devices.Live → session.system.devices.DmaIdle →
        session.system.devices.timers.Reachable → first.toNat + second.toNat < 2 ^ 32 →
          SplitRun session first second whole mid last →
            SameRun whole.system.devices last.system.devices := by
  refine ⟨fun hlaw => ?_, fun hlaw => ?_⟩
  · obtain ⟨whole, mid, last, hrun, -⟩ := advanceDevices_add_playing
    -- the run in one piece latches at cycle 600 before it mixes the sample of cycle 512
    have hsame := hlaw (sessionWith playingDevices) whole mid last 512 100 playingDevices_steady
      (by decide) hrun
    obtain ⟨⟨_, hwhole⟩, ⟨_, hmid⟩, ⟨_, hlast⟩⟩ := hrun
    have hlive : (sessionWith playingDevices).system.devices.Live := playingDevices_steady.live
    have hidle : (sessionWith playingDevices).system.devices.DmaIdle := playingDevices_steady.idle
    obtain ⟨hrunWhole, -⟩ := advanceDevices_advances hlive hidle hwhole
    obtain ⟨hrunMid, -⟩ := advanceDevices_advances hlive hidle hmid
    obtain ⟨hliveMid, hidleMid⟩ := hrunMid.keeps hlive hidle
    obtain ⟨hrunLast, -⟩ := advanceDevices_advances hliveMid hidleMid hlast
    have hpassWhole := advances_within (by decide) (by decide) hrunWhole
    have hpassMid := advances_within (by decide) (by decide) hrunMid
    have hline := pass_lineCycle (by decide) (by decide) hpassMid
    have hedge : mid.system.devices.untilEdge = 448 := by
      unfold Devices.untilEdge
      rw [hline]
      decide
    have hpassLast := advances_within (by decide) (by rw [hedge]; decide) hrunLast
    have hleft := playing_last hpassMid hpassLast
    rw [← hsame.audioBuffer, playing_whole hpassWhole] at hleft
    exact absurd hleft (by decide)
  · have hlive : (sessionWith wrappingDevices).system.devices.Live := ⟨.reset, by decide⟩
    have hidle : (sessionWith wrappingDevices).system.devices.DmaIdle := by
      unfold Devices.DmaIdle
      decide
    obtain ⟨_, whole, hwhole⟩ := advanceDevices_defined hlive (1 + 1)
    obtain ⟨_, mid, hmid⟩ := advanceDevices_defined hlive 1
    obtain ⟨hrunWhole, -⟩ := advanceDevices_advances hlive hidle hwhole
    obtain ⟨hrunMid, -⟩ := advanceDevices_advances hlive hidle hmid
    obtain ⟨hliveMid, hidleMid⟩ := hrunMid.keeps hlive hidle
    obtain ⟨_, last, hlast⟩ := advanceDevices_defined hliveMid 1
    obtain ⟨hrunLast, -⟩ := advanceDevices_advances hliveMid hidleMid hlast
    have hsame := hlaw (sessionWith wrappingDevices) whole mid last 1 1 hlive hidle
      Timers.nearWrap_reachable (by decide) ⟨⟨_, hwhole⟩, ⟨_, hmid⟩, ⟨_, hlast⟩⟩
    have hpassMid := advances_within (by decide) (by decide) hrunMid
    have hline := pass_lineCycle (by decide) (by decide) hpassMid
    have hedge : mid.system.devices.untilEdge = 959 := by
      unfold Devices.untilEdge
      rw [hline]
      decide
    have htimersWhole := pass_timers (advances_within (by decide) (by decide) hrunWhole)
    have htimersMid := pass_timers hpassMid
    have htimersLast :=
      pass_timers (advances_within (by decide) (by rw [hedge]; decide) hrunLast)
    obtain ⟨-, -, hone, hmany⟩ := Timers.tick_two_near_wrap
    have hstart : (sessionWith wrappingDevices).system.devices.timers =
        Timers.nearWrap 0xFFFFFFFFFFFFFBFF 0 := rfl
    have hraised : (sessionWith wrappingDevices).system.devices.interrupts = .reset := rfl
    have hcount := congrArg (fun t : Timers => (t.timers 3).overflowCount) hsame.timers
    rw [htimersWhole, htimersLast, htimersMid, hstart, hraised,
      Timers.tick_fst _ (by decide) mid.system.devices.interrupts
        ((Timers.nearWrap 0xFFFFFFFFFFFFFBFF 0).tick 1 .reset).2.1] at hcount
    simp only [Timers.tickSingly] at hmany
    have htwo : (1 : U32) + 1 = 2 := by decide
    rw [htwo, hone, hmany] at hcount
    exact absurd hcount (by decide)

end CoreSession

end Gba.Core
