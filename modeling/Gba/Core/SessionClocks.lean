import Gba.Core.SessionMachine
import Gba.Core.TimeConservation

/-!
# The clocks of a session

The scheduler, the timers and the display count cycles each for itself. Time passes in
`advance_devices` only, and whatever is executed, restored or done by the host, the three counts agree:
the cycle counter of the timers with the position of the display, and the clock of the scheduler, which
charges each call of `advance_devices` in a word of 32 bits, with their low word.
-/

namespace Gba.Core

open Gba.Library

/-! ## The devices -/

/-- Where the clocks of the devices stand after a number of cycles. -/
structure Devices.ClockedAt (d : Devices) (elapsed : Nat) : Prop where
  inFrame : d.ppu.InFrame
  cycleCounter : d.timers.cycleCounter = BitVec.ofNat 64 elapsed
  position : d.ppu.position = elapsed % PpuTiming.frameCycles

namespace Devices.ClockedAt

variable {d after : Devices} {elapsed : Nat}

theorem reset : Devices.reset.ClockedAt 0 := ⟨⟨by decide, by decide⟩, rfl, rfl⟩

/-- Nothing but the clocks matters. -/
theorem of_clocks (h : d.ClockedAt elapsed) (hclocks : after.clocks = d.clocks) :
    after.ClockedAt elapsed := by
  have hcounter : after.timers.cycleCounter = d.timers.cycleCounter := congrArg Prod.fst hclocks
  have hline : after.ppu.line = d.ppu.line := congrArg (fun clocks => clocks.2.1) hclocks
  have hcycle : after.ppu.lineCycle = d.ppu.lineCycle :=
    congrArg (fun clocks => clocks.2.2) hclocks
  refine ⟨⟨hline ▸ h.inFrame.line, hcycle ▸ h.inFrame.lineCycle⟩,
    hcounter.trans h.cycleCounter, ?_⟩
  rw [← h.position, PpuTiming.position_eq, PpuTiming.position_eq, hline, hcycle]

/-- An interval moves all the clocks. -/
theorem tickDevices {a : DeviceAdvance} (h : a.system.devices.ClockedAt elapsed) (interval : U32) :
    (a.tickDevices interval).2.system.devices.ClockedAt (elapsed + interval.toNat) := by
  obtain ⟨hframe, hposition⟩ := PpuTiming.tick_position interval
    (a.system.devices.io.tick interval
      (a.system.devices.timers.tick interval a.system.devices.interrupts).2.1).2 h.inFrame
  refine ⟨hframe, ?_, hposition.trans ?_⟩
  · show (a.system.devices.timers.tick interval a.system.devices.interrupts).1.cycleCounter = _
    rw [Timers.tick_cycleCounter, h.cycleCounter, BitVec.ofNat_add]
    refine congrArg (BitVec.ofNat 64 elapsed + ·) (BitVec.eq_of_toNat_eq ?_)
    simp
  · rw [h.position, Nat.mod_add_mod]

end Devices.ClockedAt

/-- What happens on the bus takes no time. -/
theorem BusEffect.clocks {system after : System} (h : BusEffect system after) :
    after.devices.clocks = system.devices.clocks := by
  have hinvariant := clocks_deviceInvariant system.devices.clocks
  cases h with
  | store8 address value => exact hinvariant.io.write8 rfl _ _
  | store16 address value => exact hinvariant.io.write16_bus rfl _ _
  | store32 address value => exact hinvariant.io.write32_bus rfl _ _
  | register h => exact clocks_registerWrite h
  | _ => rfl

/-- The clocks of the devices go on together. -/
theorem clockedAt_deviceEffect :
    Kept DeviceEffect fun system => ∃ elapsed, system.devices.ClockedAt elapsed := by
  rintro system after h ⟨elapsed, hclocked⟩
  cases h with
  | bus h => exact ⟨elapsed, hclocked.of_clocks h.clocks⟩
  | tick a interval h =>
      subst h
      exact ⟨elapsed + interval.toNat, hclocked.tickDevices interval⟩
  | sound h => exact ⟨elapsed, hclocked.of_clocks rfl⟩
  | soundTick h => exact ⟨elapsed, hclocked.of_clocks rfl⟩

/-! ## The clock of the scheduler -/

namespace DeviceAdvance

variable {a b : DeviceAdvance}

/-- The cycle counter at the end of the loop, if nothing more were triggered, less the cycles of DMA:
neither the passes of the loop nor the DMA that they trigger change it. -/
def tally (a : DeviceAdvance) : U32 :=
  a.system.devices.timers.cycleCounter.setWidth 32 + a.cpuRemaining + a.dmaRemaining -
    a.totalDma.busCycles

theorem charge_tally (a : DeviceAdvance) (interval : U32) :
    (a.charge interval).tally + interval = a.tally := by
  unfold charge
  split
  · show a.system.devices.timers.cycleCounter.setWidth 32 + a.cpuRemaining +
      (a.dmaRemaining - interval) - a.totalDma.busCycles + interval = a.tally
    unfold tally
    grind
  · show a.system.devices.timers.cycleCounter.setWidth 32 + (a.cpuRemaining - interval) +
      a.dmaRemaining - a.totalDma.busCycles + interval = a.tally
    unfold tally
    grind

theorem tickDevices_tally (a : DeviceAdvance) (interval : U32) :
    (a.tickDevices interval).2.tally = a.tally + interval := by
  have hcounter : (a.tickDevices interval).2.system.devices.timers.cycleCounter =
      a.system.devices.timers.cycleCounter + interval.setWidth 64 := Timers.tick_cycleCounter _
  have hlow : (a.system.devices.timers.cycleCounter + interval.setWidth 64).setWidth 32 =
      a.system.devices.timers.cycleCounter.setWidth 32 + interval := by
    rw [BitVec.setWidth_add _ _ (by omega), BitVec.setWidth_setWidth_of_le _ (by omega),
      BitVec.setWidth_eq]
  show (a.tickDevices interval).2.system.devices.timers.cycleCounter.setWidth 32 +
    a.cpuRemaining + a.dmaRemaining - a.totalDma.busCycles = _
  rw [hcounter, hlow]
  unfold tally
  grind

/-- The time of DMA is charged to what is left to do and to the cycles of DMA alike. -/
theorem Charges.tally {cycles : Nat} (h : Charges a cycles b) : b.tally = a.tally := by
  have hcounter : b.system.devices.timers.cycleCounter = a.system.devices.timers.cycleCounter :=
    congrArg Prod.fst h.clocks
  unfold DeviceAdvance.tally
  rw [hcounter, h.cpuRemaining, h.dmaRemaining, h.busCycles]
  grind

theorem advanceInterval_tally (h : a.advanceInterval = some b) : b.tally = a.tally := by
  unfold advanceInterval at h
  dsimp only at h
  split at h
  · contradiction
  obtain ⟨served, hserved, hapu⟩ := Option.bind_eq_some_iff.mp h
  obtain ⟨⟨step, apu⟩, -, rfl⟩ := Option.map_eq_some_iff.mp hapu
  have hticked := tickDevices_tally (a.charge a.interval) a.interval
  rw [charge_tally] at hticked
  show served.tally = a.tally
  exact (Charges.serveEvents hserved).tally.trans hticked

theorem advanceLoop_tally (h : a.advanceLoop = some b) :
    b.tally = a.tally ∧ b.finished = true := by
  induction a using advanceLoop.induct with
  | case1 a hdone =>
      rw [advanceLoop, if_pos hdone] at h
      obtain rfl := Option.some.inj h
      exact ⟨rfl, hdone⟩
  | case2 a hgoing hnone =>
      rw [advanceLoop_eq (Bool.eq_false_of_not_eq_true hgoing), hnone] at h
      contradiction
  | case3 a hgoing next hnext ih =>
      rw [advanceLoop_eq (Bool.eq_false_of_not_eq_true hgoing), hnext, Option.bind_some] at h
      obtain ⟨htally, hdone⟩ := ih h
      exact ⟨htally.trans (advanceInterval_tally hnext), hdone⟩

end DeviceAdvance

namespace CoreSession

variable {session after : CoreSession}

/-- The scheduler charges, in a word of 32 bits, what the timers have counted. -/
theorem advanceDevices_charges {cycles : U32} {result : CoreDeviceTickResult}
    (h : session.advanceDevices cycles = some (result, after)) :
    after.scheduler.schedulerCycles.setWidth 32 - session.scheduler.schedulerCycles.setWidth 32 =
      after.system.devices.timers.cycleCounter.setWidth 32 -
        session.system.devices.timers.cycleCounter.setWidth 32 := by
  unfold advanceDevices at h
  split at h
  · obtain ⟨-, rfl⟩ := Prod.mk.inj (Option.some.inj h)
    rw [BitVec.sub_self, BitVec.sub_self]
  · obtain ⟨advanced, hloop, hnext⟩ := Option.map_eq_some_iff.mp h
    obtain ⟨-, rfl⟩ := Prod.mk.inj hnext
    obtain ⟨htally, hdone⟩ := DeviceAdvance.advanceLoop_tally hloop
    unfold DeviceAdvance.finished at hdone
    rw [Bool.and_eq_true, decide_eq_true_eq, decide_eq_true_eq] at hdone
    have hstart : (DeviceAdvance.start session.system cycles).tally =
        session.system.devices.timers.cycleCounter.setWidth 32 + cycles + 0 - 0 := rfl
    have hend : advanced.tally = advanced.system.devices.timers.cycleCounter.setWidth 32 + 0 + 0 -
        advanced.totalDma.busCycles := by
      unfold DeviceAdvance.tally
      rw [hdone.1, hdone.2]
    rw [hstart, hend] at htally
    rw [finishAdvance_schedulerCycles, finishAdvance_system, BitVec.setWidth_add _ _ (by omega),
      BitVec.setWidth_setWidth_of_le _ (by omega), BitVec.setWidth_eq]
    generalize advanced.system.devices.timers.cycleCounter.setWidth 32 = counted at htally ⊢
    generalize session.system.devices.timers.cycleCounter.setWidth 32 = counter at htally ⊢
    generalize session.scheduler.schedulerCycles.setWidth 32 = clock
    grind

/-- Where the clocks of a session stand after a number of cycles. -/
structure ClockedAt (session : CoreSession) (elapsed : Nat) : Prop where
  devices : session.system.devices.ClockedAt elapsed
  schedulerCycles : session.scheduler.schedulerCycles.setWidth 32 = BitVec.ofNat 32 elapsed

namespace ClockedAt

variable {elapsed : Nat}

theorem reset (session : CoreSession) : session.reset.ClockedAt 0 := ⟨.reset, rfl⟩

/-- While time passes the clocks of the devices and the one of the scheduler go on alike. -/
theorem advanceDevices (h : session.ClockedAt elapsed) {cycles : U32}
    {result : CoreDeviceTickResult} (hadvance : session.advanceDevices cycles = some (result, after)) :
    ∃ later, after.ClockedAt later := by
  obtain ⟨later, hclocked⟩ := clockedAt_deviceEffect.star (advanceDevices_effects hadvance)
    ⟨elapsed, h.devices⟩
  have hcharges := advanceDevices_charges hadvance
  have hlow (n : Nat) : (BitVec.ofNat 64 n).setWidth 32 = BitVec.ofNat 32 n := by
    refine BitVec.eq_of_toNat_eq ?_
    rw [BitVec.toNat_setWidth, BitVec.toNat_ofNat, BitVec.toNat_ofNat]
    exact Nat.mod_mod_of_dvd n (by decide)
  rw [h.schedulerCycles, hclocked.cycleCounter, h.devices.cycleCounter, hlow, hlow] at hcharges
  refine ⟨later, hclocked, ?_⟩
  generalize after.scheduler.schedulerCycles.setWidth 32 = clock at hcharges ⊢
  grind

end ClockedAt

end CoreSession

namespace CoreSession

variable {session : CoreSession}

end CoreSession

end Gba.Core
