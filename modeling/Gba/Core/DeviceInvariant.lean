import Gba.Core.ApuSafety
import Gba.Core.DeviceAdvance
import Gba.Core.RegisterWrites

/-!
# Invariants of the devices

A property of the devices that register writes, completion interrupts and FIFO writes keep, and
that does not look at the DMA controller, survives every DMA run, wherever the transfers write. The
property proved this way is that all devices can be advanced: from a live state the event loop of
the scheduler is defined and ends.
-/

namespace Gba.Core

/-- A property that the parts of a DMA run outside the controller keep. -/
structure DeviceInvariant (P : Devices → Prop) : Prop where
  io : BusState.KeptByIo ioCallbacks P
  dma : ∀ {d : Devices}, P d → ∀ dma, P { d with dma := dma }
  request : ∀ {d : Devices}, P d → ∀ source,
    P { d with interrupts := d.interrupts.request source }
  writeFifo : ∀ {d : Devices}, P d → ∀ channel value,
    P { d with apu := d.apu.writeFifo channel value }

namespace DeviceInvariant

variable {P : Devices → Prop} {waitcnt : WaitcntPointer} {channel : Fin 4}

theorem modifyChannel (h : DeviceInvariant P) {system : System} (hsystem : P system.devices)
    (channel : Fin 4) (f : DmaChannelState → DmaChannelState) :
    P (system.modifyChannel channel f).devices :=
  h.dma hsystem (system.devices.dma.modify channel f)

theorem transferUnit (h : DeviceInvariant P) {t : Transfer} (ht : P t.system.devices)
    (drive wordTransfer : Bool) (unit : U32) :
    P (transferUnit waitcnt channel drive wordTransfer unit t).system.devices := by
  have hdriven : ∀ (latch value : U32),
      P ((t.system.modifyChannel channel fun state =>
        { state with dataLatch := latch }).driveOpenBus drive value).devices := by
    intro latch value
    unfold System.driveOpenBus
    split <;> exact h.dma ht _
  unfold Core.transferUnit Core.transferWrite
  dsimp only
  split
  · exact h.io.write32_bus (hdriven _ _) _ _
  · exact h.io.write16_bus (hdriven _ _) _ _

theorem transferUnits (h : DeviceInvariant P) (drive wordTransfer : Bool) (unit : U32)
    (t : Transfer) (ht : P t.system.devices) :
    P (transferUnits waitcnt channel drive wordTransfer unit t).system.devices := by
  induction unit, t using transferUnits.induct waitcnt channel drive wordTransfer with
  | case1 unit t hlt ih =>
      rw [Core.transferUnits, dif_pos hlt]
      exact ih (h.transferUnit ht drive wordTransfer unit)
  | case2 unit t hge =>
      rw [Core.transferUnits, dif_neg hge]
      exact ht

theorem requestCompletion (h : DeviceInvariant P) {system : System} (hsystem : P system.devices) :
    P (requestCompletion channel system).devices := by
  unfold Core.requestCompletion
  split
  · exact h.request hsystem _
  · exact hsystem

theorem executeChannel (h : DeviceInvariant P) {drive : Bool} {system system' : System}
    {result result' : DmaRunResult} (hsystem : P system.devices)
    (hexecute : executeChannel waitcnt channel drive system result = some (system', result')) :
    P system'.devices := by
  unfold Core.executeChannel at hexecute
  dsimp only at hexecute
  split at hexecute
  · contradiction
  · have hsystem' : (Core.requestCompletion channel ((transferChannel waitcnt channel drive system
        result.busCycles).commit channel)).modifyChannel channel (rearmOrDisable channel) =
        system' := congrArg Prod.fst (Option.some.inj hexecute)
    have hunits : P (transferChannel waitcnt channel drive system
        result.busCycles).system.devices := h.transferUnits _ _ _ _ hsystem
    rw [← hsystem']
    exact h.modifyChannel (h.requestCompletion (h.modifyChannel hunits channel _)) channel _

theorem runChannels (h : DeviceInvariant P) (trigger : DmaTrigger) (channels : List (Fin 4))
    (run : TriggerRun) (hrun : P run.system.devices) :
    P (runChannels waitcnt trigger channels run).2.system.devices := by
  induction channels generalizing run with
  | nil => exact hrun
  | cons channel channels ih =>
      unfold Core.runChannels
      split
      · exact ih run hrun
      · split
        · exact hrun
        · next hexecute => exact ih _ (h.executeChannel hrun hexecute)

/-- A DMA run keeps the invariant. -/
theorem runTrigger (h : DeviceInvariant P) (trigger : DmaTrigger) {system : System}
    (hsystem : P system.devices) : P (runTrigger waitcnt trigger system).1.devices := by
  have hrun : P (Core.runChannels waitcnt trigger (List.finRange 4)
      ⟨system, ⟨0, 0, false, 0⟩, false⟩).2.system.devices := h.runChannels _ _ _ hsystem
  unfold Core.runTrigger
  split
  · exact hsystem
  · dsimp only
    split
    · exact h.dma hrun _
    · exact hrun

theorem burstWords (h : DeviceInvariant P) (fifo : DirectSoundChannel) (words : Nat)
    (burst : FifoBurst) (hburst : P burst.system.devices) :
    P (burstWords waitcnt channel fifo words burst).2.system.devices := by
  induction words generalizing burst with
  | zero => exact hburst
  | succ words ih =>
      unfold Core.burstWords
      dsimp only
      split
      · exact hburst
      · exact ih _ (h.writeFifo (h.dma hburst _) _ _)

theorem executeSoundFifoChannel (h : DeviceInvariant P) (fifo : DirectSoundChannel)
    {system : System} (hsystem : P system.devices) (result : DmaRunResult) :
    P (executeSoundFifoChannel waitcnt channel fifo system result).2.1.devices := by
  have hwords : P (Core.burstWords waitcnt channel fifo kSoundFifoWordsPerRequest ⟨system,
      (system.channel channel).currentSource, result.busCycles⟩).2.system.devices :=
    h.burstWords _ _ _ hsystem
  unfold Core.executeSoundFifoChannel
  dsimp only
  split
  · exact hsystem
  split
  · next heq =>
      rw [heq] at hwords
      exact hwords
  · next heq =>
      rw [heq] at hwords
      exact h.modifyChannel (h.requestCompletion (h.modifyChannel hwords channel _)) channel
        (finishFifo channel)

theorem runFifoChannels (h : DeviceInvariant P) (trigger : DmaTrigger) (channels : List (Fin 4))
    (system : System) (result : DmaRunResult) (hsystem : P system.devices) :
    P (runFifoChannels waitcnt trigger channels system result).1.devices := by
  induction channels generalizing system result with
  | nil => exact hsystem
  | cons channel channels ih =>
      have hchannel : P (Core.executeSoundFifoChannel waitcnt channel (triggerFifo trigger) system
          result).2.1.devices := h.executeSoundFifoChannel _ hsystem result
      unfold Core.runFifoChannels
      dsimp only
      split
      · exact ih system result hsystem
      · split
        · next heq =>
            rw [heq] at hchannel
            exact hchannel
        · next heq =>
            rw [heq] at hchannel
            exact ih _ _ hchannel

/-- A sound FIFO burst keeps the invariant. -/
theorem runSoundFifo (h : DeviceInvariant P) (trigger : DmaTrigger) {system : System}
    (hsystem : P system.devices) : P (runSoundFifo waitcnt trigger system).1.devices := by
  unfold Core.runSoundFifo
  split
  · exact hsystem
  · exact h.runFifoChannels trigger _ _ _ hsystem

end DeviceInvariant

/-! ## Live devices -/

/-- Devices whose next tick is defined and takes time. -/
structure Devices.Live (d : Devices) : Prop where
  apu : d.apu.Playable
  ppu : d.ppu.lineCycle < kCyclesPerLine

theorem live_registerWrite {d d' : Devices} (h : RegisterWrite d d') (hd : d.Live) : d'.Live := by
  obtain ⟨hapu, hppu⟩ := hd
  cases h with
  | soundcntL value => exact ⟨hapu.writeSoundcntL value, hppu⟩
  | soundcntH value => exact ⟨hapu.writeSoundcntH value, hppu⟩
  | soundcntX value => exact ⟨hapu.writeSoundcntX value, hppu⟩
  | soundbias value => exact ⟨hapu.writeSoundbias value, hppu⟩
  | waveRam index value => exact ⟨hapu.writeWaveRam index value, hppu⟩
  | fifo channel value => exact ⟨hapu.writeFifo channel value, hppu⟩
  | @lcdControl address value ppu hlcd =>
      unfold PpuTiming.writeLcdControl at hlcd
      split at hlcd
      · exact ⟨hapu, Option.some.inj hlcd ▸ hppu⟩
      · contradiction
  | _ => exact ⟨hapu, hppu⟩

theorem live_deviceInvariant : DeviceInvariant Devices.Live where
  io := keptByIo_of_writes live_registerWrite
  dma hd _ := ⟨hd.apu, hd.ppu⟩
  request hd _ := ⟨hd.apu, hd.ppu⟩
  writeFifo hd channel value := ⟨hd.apu.writeFifo channel value, hd.ppu⟩

namespace PpuTiming

/-- A pass of the loop of `tick` leaves the line cycle inside the line. -/
theorem tickPass_lineCycle_lt {s : TickState} (cycles : U32) (h : s.ppu.lineCycle < kCyclesPerLine) :
    (tickPass s (tickStep s.ppu cycles)).ppu.lineCycle < kCyclesPerLine := by
  have hmoved : s.ppu.lineCycle + (tickStep s.ppu cycles).setWidth 16 ≤ kCyclesPerLine := by
    unfold tickStep kHblankFlagCycles kCyclesPerLine at *
    dsimp only
    split_ifs <;> bv_omega
  unfold tickPass
  generalize hstart : ({ s with
    ppu := { s.ppu with lineCycle := s.ppu.lineCycle + (tickStep s.ppu cycles).setWidth 16 } } :
    TickState) = moved
  have hline : moved.ppu.lineCycle ≤ kCyclesPerLine := by rw [← hstart]; exact hmoved
  have hkept : (if moved.ppu.lineCycle = kHblankFlagCycles then enterHblank moved
      else moved).ppu = moved.ppu := by split <;> rfl
  dsimp only
  generalize (if moved.ppu.lineCycle = kHblankFlagCycles then enterHblank moved else moved) = next
    at hkept
  split
  · exact (by decide : (0 : U16) < kCyclesPerLine)
  · next hne =>
      rw [hkept] at hne ⊢
      bv_omega

theorem tickLoop_lineCycle_lt (cycles : U32) (s : TickState) (h : s.ppu.lineCycle < kCyclesPerLine) :
    (tickLoop cycles s).ppu.lineCycle < kCyclesPerLine := by
  induction cycles, s using tickLoop.induct with
  | case1 s => 
      rw [tickLoop, dif_pos rfl]
      exact h
  | case2 cycles s hne ih =>
      rw [tickLoop, dif_neg hne]
      exact ih (tickPass_lineCycle_lt cycles h)

theorem tick_lineCycle_lt {p : PpuTiming} (cycles : U32) (interrupts : InterruptController)
    (h : p.lineCycle < kCyclesPerLine) : (p.tick cycles interrupts).1.lineCycle < kCyclesPerLine :=
  tickLoop_lineCycle_lt cycles ⟨p, interrupts, ⟨0, 0, 0⟩⟩ h

end PpuTiming

/-! ## The event loop -/

namespace DeviceAdvance

variable {a : DeviceAdvance}

/-- The devices of the loop are live. -/
def Live (a : DeviceAdvance) : Prop := a.system.devices.Live

theorem withApu_live {apu : Apu} (h : a.Live) (hapu : apu.Playable) : (a.withApu apu).Live :=
  ⟨hapu, h.ppu⟩

theorem runDma_live (h : a.Live) (trigger : DmaTrigger) : (a.runDma trigger).Live :=
  live_deviceInvariant.runTrigger trigger h

theorem iterate_runDma_live (h : a.Live) (trigger : DmaTrigger) (events : Nat) :
    ((runDma trigger)^[events] a).Live := by
  induction events generalizing a with
  | zero => exact h
  | succ events ih => exact ih (runDma_live h trigger)

theorem refill_live (h : a.Live) (trigger : DmaTrigger) (request : Bool) :
    (a.refill trigger request).Live := by
  unfold refill
  split
  · exact live_deviceInvariant.runSoundFifo trigger h
  · exact h

theorem soundTimerEvent_live (h : a.Live) (timerIndex : U8) :
    ∃ b, a.soundTimerEvent timerIndex = some b ∧ b.Live := by
  obtain ⟨sound, apu, hoverflow, hplay⟩ := h.apu.timerOverflow timerIndex
  refine ⟨_, by rw [soundTimerEvent, hoverflow]; rfl, ?_⟩
  have hlatched : Live { a.withApu apu with lastDirectSound := sound } := withApu_live h hplay
  exact refill_live (refill_live hlatched .fifoA _) .fifoB _

theorem consumeDirectSoundTimer_live (h : a.Live) (timerIndex : U8) (overflows : Nat) :
    ∃ b, a.consumeDirectSoundTimer timerIndex overflows = some b ∧ b.Live := by
  induction overflows generalizing a with
  | zero => exact ⟨a, rfl, h⟩
  | succ overflows ih =>
      obtain ⟨next, hevent, hlive⟩ := soundTimerEvent_live h timerIndex
      obtain ⟨last, hrest, hliveLast⟩ := ih hlive
      exact ⟨last, by rw [consumeDirectSoundTimer, hevent]; exact hrest, hliveLast⟩

theorem serveEvents_live (h : a.Live) (dmaInterval : Bool) (events : PpuTickEvents)
    (timer0Delta timer1Delta : U64) :
    ∃ b, a.serveEvents dmaInterval events timer0Delta timer1Delta = some b ∧ b.Live := by
  unfold serveEvents
  split
  · have hlimited : (a.limitChain dmaInterval).Live := h
    have hdisplay : ((a.limitChain dmaInterval).serveDisplay events).Live := by
      unfold serveDisplay
      split
      · exact iterate_runDma_live (iterate_runDma_live hlimited _ _) _ _
      · exact hlimited
    obtain ⟨sound, hsound, hliveSound⟩ := consumeDirectSoundTimer_live hdisplay 0 timer0Delta.toNat
    obtain ⟨served, hserved, hliveServed⟩ :=
      consumeDirectSoundTimer_live hliveSound 1 timer1Delta.toNat
    refine ⟨_, by rw [serveSound, hsound, Option.bind_some, hserved]; rfl, ?_⟩
    unfold noteGenerated
    split <;> exact hliveServed
  · exact ⟨a, rfl, h⟩

theorem tickDevices_live (h : a.Live) (interval : U32) : (a.tickDevices interval).2.Live :=
  ⟨h.apu, PpuTiming.tick_lineCycle_lt _ _ h.ppu⟩

/-- Short of the end of the line, the next edge lies ahead. -/
theorem interval_ne_zero (h : a.Live) (hgoing : a.finished = false) : a.interval ≠ 0 := by
  have hline := h.ppu
  have hremaining : (if a.dmaRemaining ≠ 0 then a.dmaRemaining else a.cpuRemaining) ≠ 0 := by
    unfold finished at hgoing
    rw [Bool.and_eq_false_iff, decide_eq_false_iff_not, decide_eq_false_iff_not] at hgoing
    split
    · assumption
    · tauto
  have hedge : (boundary a.system.devices.ppu.lineCycle).setWidth 32 -
      (a.system.devices.ppu.lineCycle.setWidth 32 : U32) ≠ 0 := by
    unfold boundary kPpuVisibleCycles kHblankFlagCycles kCyclesPerLine at *
    split_ifs <;> bv_omega
  unfold interval
  dsimp only
  generalize (if a.dmaRemaining ≠ 0 then a.dmaRemaining else a.cpuRemaining) = remaining
    at hremaining ⊢
  split
  · exact hedge
  · exact hremaining

theorem advanceInterval_live (h : a.Live) (hgoing : a.finished = false) :
    ∃ b, a.advanceInterval = some b ∧ b.Live := by
  have hcharge : ∀ interval, (a.charge interval).Live := by
    intro interval
    unfold charge
    split <;> exact h
  unfold advanceInterval
  dsimp only
  rw [if_neg (interval_ne_zero h hgoing)]
  obtain ⟨served, hserved, hlive⟩ := serveEvents_live
    (tickDevices_live (hcharge a.interval) a.interval) (a.dmaRemaining ≠ 0)
    ((a.charge a.interval).tickDevices a.interval).1
    ((((a.charge a.interval).tickDevices a.interval).2.system.devices.timers.timers 0).overflowCount -
      (a.system.devices.timers.timers 0).overflowCount)
    ((((a.charge a.interval).tickDevices a.interval).2.system.devices.timers.timers 1).overflowCount -
      (a.system.devices.timers.timers 1).overflowCount)
  obtain ⟨step, apu, htick, hplay⟩ := hlive.apu.tick a.interval
  rw [hserved, Option.bind_some, tickApu, htick]
  exact ⟨_, rfl, withApu_live hlive hplay⟩

/-- From live devices the loop is defined, ends, and leaves live devices. -/
theorem advanceLoop_live (h : a.Live) : ∃ b, a.advanceLoop = some b ∧ b.Live := by
  induction a using advanceLoop.induct with
  | case1 a hdone =>
      rw [advanceLoop, if_pos hdone]
      exact ⟨a, rfl, h⟩
  | case2 a hgoing hnone =>
      obtain ⟨next, hnext, -⟩ := advanceInterval_live h (Bool.eq_false_of_not_eq_true hgoing)
      exact absurd (hnone.symm.trans hnext) (Option.some_ne_none next).symm
  | case3 a hgoing next hnext ih =>
      have hgoing' := Bool.eq_false_of_not_eq_true hgoing
      obtain ⟨next', hnext', hlive⟩ := advanceInterval_live h hgoing'
      obtain rfl : next = next' := Option.some.inj (hnext.symm.trans hnext')
      rw [advanceLoop_eq hgoing', hnext, Option.bind_some]
      exact ih hlive

end DeviceAdvance

end Gba.Core
