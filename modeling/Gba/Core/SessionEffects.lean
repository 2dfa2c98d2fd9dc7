import Gba.Core.CpuEffects
import Gba.Core.FetchStep
import Gba.Core.HleInterrupts
import Gba.Library.Ensures

/-!
# What happens to a session

Between two calls of the host a session changes by the effects of instructions on the processor and
on the bus, by device time, by work of the emulated BIOS that is queued and charged, and by what the
scheduler notes. Nothing else happens in a step, whatever it executes, so that a property of
sessions that each effect keeps is an invariant of every run.
-/

namespace Gba.Core

open Gba.Library

/-- What holds of the members of a scheduler whatever it has run: the buffer of the cartridge and
the latency stay within their bounds, the last fetch is known in full or not at all, an interrupted
interrupt has a return address and the registers of its program, and queued work is left to do. -/
structure CoreSchedulerState.Sound (state : CoreSchedulerState) : Prop where
  buffer : state.prefetchBufferHalfwords ≤ kPrefetchBufferCapacityHalfwords
  latency : state.autoIrqLatencyCycles ≤ kAutoIrqLatencyCycles
  width : state.lastFetchWidthBytes.isSome = state.lastFetchAddress.isSome
  window : state.lastFetchWindow.isSome = state.lastFetchAddress.isSome
  linked : state.hleIrqOuterFrames ≠ [] → state.hleIrqReturnLr.isSome
  saved : ∀ frame ∈ state.hleIrqOuterFrames, frame.savedRegisters.isSome
  pieces : ∀ frame ∈ state.hleWorkFrames, frame.remainingCycles ≠ 0

/-- The scheduler notes something: neither its clock nor the queued work changes. -/
structure CoreSchedulerState.Notes (state after : CoreSchedulerState) : Prop where
  schedulerCycles : after.schedulerCycles = state.schedulerCycles
  hleWorkFrames : after.hleWorkFrames = state.hleWorkFrames
  sound : state.Sound → after.Sound

/-- One thing that happens to a session while it runs; queued work is charged only where `charges`
says so. -/
inductive SessionEffect (charges : Prop) (session : CoreSession) : CoreSession → Prop where
  | cpu {cpu : Arm7tdmi} (h : CpuEffect AnyException session.cpu cpu) :
      SessionEffect charges session { session with cpu := cpu }
  | bus {system : System} (h : BusEffect session.system system) :
      SessionEffect charges session { session with system := system }
  | note {state : CoreSchedulerState} (h : session.scheduler.Notes state) :
      SessionEffect charges session { session with scheduler := state }
  | time {cycles : U32} {result : CoreDeviceTickResult} {next : CoreSession}
      (h : session.advanceDevices cycles = some (result, next)) : SessionEffect charges session next
  | queue (cycles : U64) : SessionEffect charges session (session.queueHleWork cycles)
  | charge (hcharges : charges) {work : HleWorkFrame} {cycles : U32}
      {result : CoreDeviceTickResult} {passed : CoreSession}
      (h : session.advanceDevices cycles = some (result, passed))
      (hwork : session.scheduler.hleWorkFrames.getLast? = some work)
      (hcycles : cycles.toNat ≤ work.remainingCycles.toNat) :
      SessionEffect charges session (passed.chargeWork cycles)

/-- A sequence of effects. -/
abbrev SessionEffects (charges : Prop) : CoreSession → CoreSession → Prop :=
  Relation.ReflTransGen (SessionEffect charges)

/-! ## Live devices -/

/-- Every effect on the bus leaves live devices. -/
theorem live_busEffect : Kept BusEffect fun system => system.devices.Live := by
  intro system after h hlive
  have hinvariant := live_deviceInvariant
  cases h with
  | store8 address value => exact hinvariant.io.write8 hlive _ _
  | store16 address value => exact hinvariant.io.write16_bus hlive _ _
  | store32 address value => exact hinvariant.io.write32_bus hlive _ _
  | openBus value => exact hlive
  | releaseOpenBus => exact hlive
  | clearRam flags => exact hlive
  | register h => exact live_registerWrite h hlive
  | request source => exact hinvariant.request hlive source
  | dma dma => exact hinvariant.dma hlive dma
  | deferTimers => exact ⟨hlive.apu, hlive.ppu⟩

/-- Live devices stay live while time passes. -/
theorem live_deviceEffect : Kept DeviceEffect fun system => system.devices.Live := by
  intro system after h hlive
  cases h with
  | bus h => exact live_busEffect h hlive
  | tick a interval h =>
      subst h
      exact DeviceAdvance.tickDevices_live hlive interval
  | @sound timerIndex result apu h =>
      obtain ⟨result', apu', hresult, hplay⟩ := hlive.apu.timerOverflow timerIndex
      obtain ⟨-, rfl⟩ := Prod.mk.inj (Option.some.inj (h.symm.trans hresult))
      exact ⟨hplay, hlive.ppu⟩
  | @soundTick interval step apu h =>
      obtain ⟨step', apu', htick, hplay⟩ := hlive.apu.tick interval
      obtain ⟨-, rfl⟩ := Prod.mk.inj (Option.some.inj (h.symm.trans htick))
      exact ⟨hplay, hlive.ppu⟩

namespace CoreSession

/-- What the devices do while time passes. -/
theorem advanceDevices_effects {cycles : U32} {session next : CoreSession}
    {result : CoreDeviceTickResult} (h : session.advanceDevices cycles = some (result, next)) :
    DeviceEffects session.system next.system := by
  unfold advanceDevices at h
  split at h
  · obtain ⟨-, rfl⟩ := Prod.mk.inj (Option.some.inj h)
    exact .refl
  · obtain ⟨advanced, hloop, hnext⟩ := Option.map_eq_some_iff.mp h
    obtain ⟨-, rfl⟩ := Prod.mk.inj hnext
    rw [finishAdvance_system]
    exact .advanceLoop hloop

@[simp] theorem chargeWork_system (session : CoreSession) (cycles : U32) :
    (session.chargeWork cycles).system = session.system := rfl

@[simp] theorem queueHleWork_system (session : CoreSession) (cycles : U64) :
    (session.queueHleWork cycles).system = session.system := by
  unfold queueHleWork
  split <;> rfl

end CoreSession

section

variable {charges : Prop}

/-- What an effect on a session does to the memory and the devices. -/
theorem SessionEffect.device_effects {session after : CoreSession}
    (h : SessionEffect charges session after) : DeviceEffects session.system after.system := by
  cases h with
  | cpu h => exact .refl
  | bus h => exact .single (.bus h)
  | note h => exact .refl
  | time h => exact CoreSession.advanceDevices_effects h
  | queue cycles =>
      rw [CoreSession.queueHleWork_system]
  | charge hcharges h hwork hcycles =>
      rw [CoreSession.chargeWork_system]
      exact CoreSession.advanceDevices_effects h

/-- What a run of a session does to the memory and the devices. -/
theorem SessionEffects.device_effects {session after : CoreSession}
    (h : SessionEffects charges session after) : DeviceEffects session.system after.system := by
  induction h with
  | refl => exact .refl
  | tail _ heffect ih => exact ih.trans heffect.device_effects

/-- Live devices stay live. -/
theorem SessionEffects.live {session after : CoreSession} (h : SessionEffects charges session after)
    (hlive : session.system.devices.Live) : after.system.devices.Live :=
  live_deviceEffect.star h.device_effects hlive

end

/-! ## Building sequences -/

theorem CoreSchedulerState.Notes.refl (state : CoreSchedulerState) : state.Notes state :=
  ⟨rfl, rfl, id⟩

namespace SessionEffects

variable {charges : Prop} {session after : CoreSession}

theorem ofCpu (session : CoreSession) {cpu : Arm7tdmi}
    (h : CpuEffects AnyException session.cpu cpu) :
    SessionEffects charges session { session with cpu := cpu } := by
  induction h with
  | refl => exact .refl
  | tail _ heffect ih => exact ih.tail (.cpu heffect)

theorem ofBus (session : CoreSession) {system : System} (h : BusEffects session.system system) :
    SessionEffects charges session { session with system := system } := by
  induction h with
  | refl => exact .refl
  | tail _ heffect ih => exact ih.tail (.bus heffect)

/-- The processor and the bus change together, and the scheduler takes note. -/
theorem ofParts (session : CoreSession) {cpu : Arm7tdmi} {system : System}
    {state : CoreSchedulerState} (hcpu : CpuEffects AnyException session.cpu cpu)
    (hbus : BusEffects session.system system) (hnotes : session.scheduler.Notes state) :
    SessionEffects charges session
      { session with cpu := cpu, system := system, scheduler := state } := by
  have hboth : SessionEffects charges session { session with cpu := cpu, system := system } :=
    (ofCpu session hcpu).trans (ofBus { session with cpu := cpu } hbus)
  exact hboth.tail (.note hnotes)

/-- Registers and flags change. -/
theorem ofProgram (session : CoreSession) {cpu : Arm7tdmi} (h : cpu.control = session.cpu.control) :
    SessionEffects charges session { session with cpu := cpu } := .single (.cpu (.program h))

theorem setPc (session : CoreSession) (value : U32) :
    SessionEffects charges session (session.setPc value) := ofProgram session rfl

/-- The scheduler notes something. -/
theorem note (session : CoreSession) {f : CoreSchedulerState → CoreSchedulerState}
    (h : session.scheduler.Notes (f session.scheduler)) :
    SessionEffects charges session (session.modifyScheduler f) := .single (.note h)

variable (charges) in
/-- Time passes for live devices. -/
theorem advance (session : CoreSession) (h : session.system.devices.Live) (cycles : U32) :
    Ensures (session.advanceDevices cycles) fun advanced =>
      SessionEffects charges session advanced.2 := by
  obtain ⟨result, next, hadvance, -, -⟩ := CoreSession.advanceDevices_same session h cycles
  exact ⟨(result, next), hadvance, .single (.time hadvance)⟩

theorem branch {c : Prop} [Decidable c] {other : CoreSession}
    (h : SessionEffects charges session after) (h' : SessionEffects charges session other) :
    SessionEffects charges session (if c then after else other) := by
  split
  · exact h
  · exact h'

end SessionEffects

end Gba.Core
