import Gba.Core.BankedRegisters
import Gba.Core.FetchEffects
import Gba.Core.MemoryEffects
import Gba.Core.TimeConservation
import Gba.Core.TimerRestore

/-!
# What holds of a session whatever has run

The invariants of the components: the processor is in a mode that exists, the registers hold
implemented bits only, the display is inside its frame, the sound unit is playable, the timers are
ones that their own operations reach, the save memory has the size of its type. Every effect on the
bus and on the processor keeps them, so that every sequence of effects does.
-/

namespace Gba.Core

open Gba.Library

/-! ## Interrupts -/

namespace InterruptController.WellFormed

variable {c : InterruptController}

/-- Masked bits are implemented bits. -/
theorem masked (value mask : U16) : value &&& mask &&& ~~~mask = 0 := by
  ext i hi
  simp

theorem request (h : c.WellFormed) (source : InterruptSource) : (c.request source).WellFormed := by
  refine ⟨h.1, ?_⟩
  show (c.interruptFlags ||| interruptBit source &&& kSupportedMask) &&& ~~~kSupportedMask = 0
  rw [BitVec.and_comm, BitVec.and_or_distrib_left, BitVec.and_comm, h.2, BitVec.and_comm, masked]
  rfl

theorem writeInterruptEnable (h : c.WellFormed) (value : U16) :
    (c.writeInterruptEnable value).WellFormed := ⟨masked value _, h.2⟩

theorem writeInterruptFlags (h : c.WellFormed) (value : U16) :
    (c.writeInterruptFlags value).WellFormed := by
  refine ⟨h.1, ?_⟩
  show c.interruptFlags &&& ~~~(value &&& kSupportedMask) &&& ~~~kSupportedMask = 0
  rw [BitVec.and_assoc, BitVec.and_comm (~~~(value &&& kSupportedMask)), ← BitVec.and_assoc, h.2]
  exact BitVec.zero_and

end InterruptController.WellFormed

/-! ## The ticks of the devices raise interrupts and do nothing else to the controller -/

section Requests

variable {P : InterruptController → Prop} (h : ∀ {c}, P c → ∀ source, P (c.request source))

include h

/-- A request that is made or not. -/
theorem request_if {x : InterruptController} (hx : P x) (c : Prop) [Decidable c]
    (source : InterruptSource) : P (if c then x.request source else x) := by
  split
  · exact h hx source
  · exact hx

theorem Timers.incrementTimer_requests (index : Fin 4) (ticks : U64) (w : TimerWindow)
    (first stride : U64) (hw : P w.interrupts) :
    P (incrementTimer index ticks w first stride).interrupts := by
  have hnote (k : Fin 4) (timer : Timer) (cycle : U64)
      (o : InterruptController × TimerTickResult) (ho : P o.1) :
      P (stages.note k timer cycle o).1 := by
    show P (if timer.irqEnabled then noteIrq k cycle o else o).1
    split
    · exact h ho _
    · exact ho
  rw [incrementTimer_eq_foldl]
  refine List.foldlRecOn (motive := fun row : (Fin 4 → Timer) × InterruptController ×
    TimerTickResult => P row.2.1) _ _ hw fun row hrow cycle _ => ?_
  exact Cascade.Stages.push_observer
    (P := fun o : InterruptController × TimerTickResult => P o.1) hnote index cycle row hrow

theorem Timers.tick_requests (t : Timers) (cycles : U32) {c : InterruptController} (hc : P c) :
    P (t.tick cycles c).2.1 := by
  have htimer (w : TimerWindow) (hw : P w.interrupts) (index : Fin 4) :
      P (tickTimer t.cycleCounter (t.cycleCounter + cycles.setWidth 64) cycles w index).interrupts := by
    unfold tickTimer
    dsimp only
    split_ifs
    · exact hw
    · exact hw
    · exact hw
    · exact hw
    · exact Timers.incrementTimer_requests h _ _ _ _ _ hw
  unfold tick
  split
  · exact hc
  · dsimp only
    refine List.foldlRecOn (motive := fun w : TimerWindow => P w.interrupts) _ _ ?_
      fun w hw index _ => htimer w hw index
    exact hc

theorem SerialRegisters.tick_requests (io : SerialRegisters) (cycles : U32)
    {c : InterruptController} (hc : P c) : P (io.tick cycles c).2 := by
  unfold tick
  split
  · exact hc
  split
  · exact hc
  · exact request_if h hc _ _

theorem PpuTiming.tickPass_requests {s : TickState} (hs : P s.interrupts) (step : U32) :
    P (tickPass s step).interrupts := by
  have hhblank (s : TickState) (hs : P s.interrupts) : P (enterHblank s).interrupts :=
    request_if h hs _ _
  have hline (s : TickState) (hs : P s.interrupts) : P (enterNextLine s).interrupts :=
    request_if h (request_if h hs _ _) _ _
  have hfirst (s : TickState) (hs : P s.interrupts) :
      P (if s.ppu.lineCycle = kHblankFlagCycles then enterHblank s else s).interrupts := by
    split
    · exact hhblank s hs
    · exact hs
  have hlast (s : TickState) (hs : P s.interrupts) :
      P (if s.ppu.lineCycle = kCyclesPerLine then enterNextLine s else s).interrupts := by
    split
    · exact hline s hs
    · exact hs
  exact hlast _ (hfirst { s with ppu := { s.ppu with
    lineCycle := s.ppu.lineCycle + step.setWidth 16 } } hs)

theorem PpuTiming.tick_requests (p : PpuTiming) (cycles : U32) {c : InterruptController}
    (hc : P c) : P (p.tick cycles c).2.1 := by
  have hloop (s : TickState) (hs : P s.interrupts) : P (tickLoop cycles s).interrupts := by
    induction cycles, s using tickLoop.induct with
    | case1 s => rwa [tickLoop, dif_pos rfl]
    | case2 cycles s hne ih =>
        rw [tickLoop, dif_neg hne]
        exact ih (PpuTiming.tickPass_requests h hs _)
  exact hloop _ hc

end Requests

/-! ## The sound unit -/

/-- The step of the frame sequencer is one of its steps. -/
def Apu.Sequenced (apu : Apu) : Prop := apu.frameStep < kFrameSequencerSteps

namespace Apu.Sequenced

variable {apu : Apu}

theorem clearFifo (h : apu.Sequenced) (channel : DirectSoundChannel) :
    (apu.clearFifo channel).Sequenced := h

theorem writeSoundcntL (h : apu.Sequenced) (value : U16) :
    (apu.writeSoundcntL value).Sequenced := by
  unfold Apu.writeSoundcntL
  split
  · exact h
  · exact h

theorem writeSoundcntH (h : apu.Sequenced) (value : U16) :
    (apu.writeSoundcntH value).Sequenced := by
  unfold Apu.writeSoundcntH
  split
  · exact h
  · dsimp only
    split_ifs
    · exact h
    · exact h
    · exact h
    · exact h

theorem writeSoundcntX (h : apu.Sequenced) (value : U16) :
    (apu.writeSoundcntX value).Sequenced := by
  unfold Apu.writeSoundcntX
  split
  · exact Nat.zero_lt_succ 7
  · exact h

theorem writeSoundbias (h : apu.Sequenced) (value : U16) :
    (apu.writeSoundbias value).Sequenced := by
  unfold Apu.writeSoundbias
  split
  · exact h
  · exact h

theorem writeFifo (h : apu.Sequenced) (channel : DirectSoundChannel) (value : U32) :
    (apu.writeFifo channel value).Sequenced :=
  List.foldlRecOn (motive := Apu.Sequenced) _ _ h fun _ hacc _ _ => hacc

theorem latchDirectSound (h : apu.Sequenced) {channel : DirectSoundChannel} {timerIndex : U8}
    {sample : DirectSoundSample} {next : Apu}
    (hlatch : apu.latchDirectSound channel timerIndex = some (sample, next)) : next.Sequenced := by
  unfold Apu.latchDirectSound at hlatch
  split at hlatch
  · obtain ⟨⟨result, popped⟩, hpop, hnext⟩ := Option.map_eq_some_iff.mp hlatch
    obtain ⟨⟨value, fifo⟩, -, hpopped⟩ := Option.map_eq_some_iff.mp hpop
    obtain ⟨-, rfl⟩ := Prod.mk.inj hnext
    cases value with
    | none => exact (Prod.mk.inj hpopped).2 ▸ h
    | some value => exact (Prod.mk.inj hpopped).2 ▸ h
  · exact (Prod.mk.inj (Option.some.inj hlatch)).2 ▸ h

theorem timerOverflow (h : apu.Sequenced) {timerIndex : U8} {result : DirectSoundTimerResult}
    {next : Apu} (hoverflow : apu.timerOverflow timerIndex = some (result, next)) :
    next.Sequenced := by
  unfold Apu.timerOverflow at hoverflow
  split at hoverflow
  · exact (Prod.mk.inj (Option.some.inj hoverflow)).2 ▸ h
  · obtain ⟨⟨fifoA, nextA⟩, hA, hoverflow⟩ := Option.bind_eq_some_iff.mp hoverflow
    obtain ⟨⟨fifoB, nextB⟩, hB, hoverflow⟩ := Option.bind_eq_some_iff.mp hoverflow
    exact (Prod.mk.inj (Option.some.inj hoverflow)).2 ▸ (h.latchDirectSound hA).latchDirectSound hB

theorem generateAudioSample (h : apu.Sequenced) {next : Apu}
    (hsample : apu.generateAudioSample = some next) : next.Sequenced := by
  obtain ⟨sample, -, hadvance⟩ := Option.bind_eq_some_iff.mp hsample
  unfold Apu.advancePsgGenerators at hadvance
  simp only [Option.bind_eq_bind, Option.bind_eq_some_iff] at hadvance
  obtain ⟨square0, -, square1, -, wave, -, noise, -, hnext⟩ := hadvance
  exact Option.some.inj hnext ▸ h

theorem generateAudioSamples {remainder : U32} (h : apu.Sequenced) {next : Apu}
    (hsamples : Apu.generateAudioSamples remainder apu = some next) : next.Sequenced := by
  induction remainder, apu using Apu.generateAudioSamples.induct with
  | case1 remainder apu hle ih =>
      rw [Apu.generateAudioSamples, dif_pos hle] at hsamples
      obtain ⟨sampled, hsample, hrest⟩ := Option.bind_eq_some_iff.mp hsamples
      have hcharged : ({ apu with
          audioCycleRemainder := remainder - kCpuCyclesPerAudioSample } : Apu).Sequenced := h
      exact ih sampled (hcharged.generateAudioSample hsample) hrest
  | case2 remainder apu hlt =>
      rw [Apu.generateAudioSamples, dif_neg hlt] at hsamples
      exact Option.some.inj hsamples ▸ h

theorem stepFrameSequencer (lastStep : Option ApuFrameStep) (h : apu.Sequenced) :
    (apu.stepFrameSequencer lastStep).1.Sequenced := by
  induction apu, lastStep using Apu.stepFrameSequencer.induct with
  | case1 apu lastStep hle step ih =>
      rw [Apu.stepFrameSequencer, dif_pos hle]
      refine ih ?_
      show (apu.frameStep + 1) % 8#8 < 8#8
      exact BitVec.umod_lt _ (by bv_omega)
  | case2 apu lastStep hlt =>
      rw [Apu.stepFrameSequencer, dif_neg hlt]
      exact h

theorem tick (h : apu.Sequenced) {cpuCycles : U32} {step : Option ApuFrameStep} {next : Apu}
    (htick : apu.tick cpuCycles = some (step, next)) : next.Sequenced := by
  unfold Apu.tick at htick
  split at htick
  · exact (Prod.mk.inj (Option.some.inj htick)).2 ▸ h
  · dsimp only at htick
    obtain ⟨sampled, hsamples, hnext⟩ := Option.map_eq_some_iff.mp htick
    obtain ⟨-, rfl⟩ := Prod.mk.inj hnext
    have hcharged : ({ apu with
        frameCycleRemainder := apu.frameCycleRemainder + cpuCycles
        audioCycleRemainder := apu.audioCycleRemainder + cpuCycles } : Apu).Sequenced := h
    exact (hcharged.stepFrameSequencer none).generateAudioSamples hsamples

end Apu.Sequenced

/-! ## The devices -/

/-- The registers of the keypad hold implemented bits only. -/
structure Keypad.Masked (k : Keypad) : Prop where
  pressedMask : k.pressedMask &&& kButtonMask = k.pressedMask
  keycnt : k.keycnt &&& (kButtonMask ||| kKeypadIrqEnable ||| kKeypadIrqConditionAnd) = k.keycnt

/-- What holds of the devices whatever has run. -/
structure Devices.Sound (d : Devices) : Prop where
  apu : d.apu.Playable
  sequenced : d.apu.Sequenced
  ppu : d.ppu.InFrame
  interrupts : d.interrupts.WellFormed
  timers : d.timers.Reachable
  keypad : d.keypad.Masked
  waitcnt : d.waitcnt.control &&& kWaitcntWritableMask = d.waitcnt.control

namespace Devices.Sound

variable {d d' : Devices}

theorem live (h : d.Sound) : d.Live := ⟨h.apu, h.ppu.lineCycle⟩

theorem reset : Devices.reset.Sound where
  apu := .reset
  sequenced := Nat.zero_lt_succ 7
  ppu := ⟨Nat.zero_lt_succ 227, Nat.zero_lt_succ 1231⟩
  interrupts := ⟨rfl, rfl⟩
  timers := .reset
  keypad := ⟨rfl, rfl⟩
  waitcnt := rfl

/-- Masking twice is masking once. -/
theorem masked (value mask : U16) : value &&& mask &&& mask = value &&& mask := by
  rw [BitVec.and_assoc, BitVec.and_self]

theorem requested (h : d.Sound) (source : InterruptSource) :
    { d with interrupts := d.interrupts.request source }.Sound :=
  { h with interrupts := h.interrupts.request source }

/-- A register write keeps the invariant. -/
theorem registerWrite (hwrite : RegisterWrite d d') (h : d.Sound) : d'.Sound := by
  cases hwrite with
  | ignored => exact h
  | dispstat value =>
      exact { h with
        ppu := ⟨h.ppu.line, h.ppu.lineCycle⟩
        interrupts := request_if (fun hc source => hc.request source) h.interrupts _ _ }
  | soundcntL value =>
      exact { h with
        apu := h.apu.writeSoundcntL value
        sequenced := h.sequenced.writeSoundcntL value }
  | soundcntH value =>
      exact { h with
        apu := h.apu.writeSoundcntH value
        sequenced := h.sequenced.writeSoundcntH value }
  | soundcntX value =>
      exact { h with
        apu := h.apu.writeSoundcntX value
        sequenced := h.sequenced.writeSoundcntX value }
  | soundbias value =>
      exact { h with
        apu := h.apu.writeSoundbias value
        sequenced := h.sequenced.writeSoundbias value }
  | waveRam index value =>
      exact { h with
        apu := h.apu.writeWaveRam index value
        sequenced := h.sequenced }
  | fifo channel value =>
      exact { h with
        apu := h.apu.writeFifo channel value
        sequenced := h.sequenced.writeFifo channel value }
  | keycnt value =>
      exact { h with
        keypad := ⟨h.keypad.pressedMask, masked value _⟩
        interrupts := request_if (fun hc source => hc.request source) h.interrupts _ _ }
  | interruptEnable value =>
      exact { h with interrupts := h.interrupts.writeInterruptEnable value }
  | interruptFlags value =>
      exact { h with interrupts := h.interrupts.writeInterruptFlags value }
  | ime value => exact { h with interrupts := ⟨h.interrupts.1, h.interrupts.2⟩ }
  | waitcnt value => exact { h with waitcnt := masked value _ }
  | @lcdControl address value ppu hlcd =>
      unfold PpuTiming.writeLcdControl at hlcd
      split at hlcd
      · obtain rfl := Option.some.inj hlcd
        exact { h with ppu := ⟨h.ppu.line, h.ppu.lineCycle⟩ }
      · contradiction
  | timerReload timer value => exact { h with timers := .writeReload timer value h.timers }
  | timerControl timer value => exact { h with timers := .writeControl timer value h.timers }
  | serial index value => exact { h with }
  | dma hdma => exact { h with }

theorem deviceInvariant : DeviceInvariant Devices.Sound where
  io := keptByIo_of_writes registerWrite
  dma hd _ := { hd with }
  request hd source := hd.requested source
  writeFifo hd channel value :=
    { hd with
      apu := hd.apu.writeFifo channel value
      sequenced := hd.sequenced.writeFifo channel value }

/-- The ticks of timers, serial port and display keep the invariant. -/
theorem tickDevices {a : DeviceAdvance} (h : a.system.devices.Sound) (interval : U32) :
    (a.tickDevices interval).2.system.devices.Sound := by
  have hkept : ∀ {c : InterruptController}, c.WellFormed → ∀ source, (c.request source).WellFormed :=
    fun hc source => hc.request source
  have htimers := Timers.tick_requests hkept a.system.devices.timers interval h.interrupts
  have hserial := SerialRegisters.tick_requests hkept a.system.devices.io interval htimers
  exact { h with
    ppu := (PpuTiming.tick_position interval _ h.ppu).1
    interrupts := PpuTiming.tick_requests hkept a.system.devices.ppu interval hserial
    timers := .tick interval _ h.timers }

end Devices.Sound

/-- Every effect on the bus keeps the invariant of the devices. -/
theorem sound_busEffect : Kept BusEffect fun system => system.devices.Sound := by
  intro system after heffect h
  have hinvariant := Devices.Sound.deviceInvariant
  cases heffect with
  | store8 address value => exact hinvariant.io.write8 h _ _
  | store16 address value => exact hinvariant.io.write16_bus h _ _
  | store32 address value => exact hinvariant.io.write32_bus h _ _
  | openBus value => exact h
  | releaseOpenBus => exact h
  | clearRam flags => exact h
  | register hwrite => exact h.registerWrite hwrite
  | request source => exact hinvariant.request h source
  | dma dma => exact hinvariant.dma h dma
  | deferTimers => exact { h with timers := .deferNewlyEnabledTicks h.timers }

/-- What happens while time passes keeps it. -/
theorem sound_deviceEffect : Kept DeviceEffect fun system => system.devices.Sound := by
  intro system after heffect h
  cases heffect with
  | bus heffect => exact sound_busEffect heffect h
  | tick a interval ha =>
      subst ha
      exact Devices.Sound.tickDevices h interval
  | @sound timerIndex result apu hoverflow =>
      obtain ⟨result', apu', hresult, hplay⟩ := h.apu.timerOverflow timerIndex
      obtain ⟨-, rfl⟩ := Prod.mk.inj (Option.some.inj (hoverflow.symm.trans hresult))
      exact { h with apu := hplay, sequenced := h.sequenced.timerOverflow hoverflow }
  | @soundTick interval step apu htick =>
      obtain ⟨step', apu', htick', hplay⟩ := h.apu.tick interval
      obtain ⟨-, rfl⟩ := Prod.mk.inj (Option.some.inj (htick.symm.trans htick'))
      exact { h with apu := hplay, sequenced := h.sequenced.tick htick }

/-! ## The session -/

/-- What holds of the memory whatever has run. -/
structure MemoryBus.Sound (memory : MemoryBus) : Prop where
  rom : memory.gamePakRom.length ≤ kGamePakRomWindowSize
  save : memory.gamePakSave.Sized

/-- What runs keeps the invariant of the memory. -/
theorem MemoryEffects.sound {memory after : MemoryBus} (h : MemoryEffects memory after)
    (hmemory : memory.Sound) : after.Sound := by
  obtain ⟨writes, hsave⟩ := h.save
  refine ⟨h.rom ▸ hmemory.rom, ?_⟩
  rw [hsave]
  exact (GamePakSave.writeAll_sized hmemory.save writes).2

/-- A status word that is accepted names a mode. -/
theorem Arm7tdmi.setCpsr_named {cpu after : Arm7tdmi} {value : U32}
    (h : cpu.setCpsr value = some after) : after.mode ∈ CpuMode.named := by
  obtain ⟨mode, hdecode, rfl⟩ := Option.map_eq_some_iff.mp h
  rw [switchMode_mode]
  unfold decodeCpuMode at hdecode
  dsimp only at hdecode
  split at hdecode
  · next hnamed => exact Option.some.inj hdecode ▸ hnamed
  · contradiction

/-- Every effect on the processor leaves it in a mode that exists. -/
theorem named_cpuEffect {kinds : ExceptionKind → Prop} :
    Kept (CpuEffect kinds) fun cpu => cpu.mode ∈ CpuMode.named := by
  intro cpu after heffect h
  cases heffect with
  | program hcontrol =>
      have hmode : after.mode = cpu.mode := congrArg Arm7tdmi.Control.mode hcontrol
      rw [hmode]
      exact h
  | status privileged hset => exact Arm7tdmi.setCpsr_named hset
  | savedStatus hset =>
      obtain ⟨bank, -, rfl⟩ := Option.map_eq_some_iff.mp hset
      exact h
  | @exception kind hkind =>
      have hmode : (cpu.enterException kind).mode = (exceptionVector kind).mode := by
        unfold Arm7tdmi.enterException
        dsimp only
        show (if (exceptionVector kind).saveCpsr = true then _ else _ : Arm7tdmi).mode = _
        split
        · exact (Arm7tdmi.setSpsrForMode_mode _ _ _).trans (Arm7tdmi.switchMode_mode cpu _)
        · exact Arm7tdmi.switchMode_mode cpu _
      rw [hmode]
      cases kind <;> decide

/-- The latency that a timer starts is no longer than that of any other source. -/
theorem CoreSession.timerIrqLatency_le (session : CoreSession) :
    session.timerIrqLatency ≤ kAutoIrqLatencyCycles := by
  unfold timerIrqLatency
  dsimp only
  split_ifs <;> decide

/-- Passing time keeps the invariant of the scheduler. -/
theorem CoreSession.finishAdvance_sound (session : CoreSession) (irqReadyBefore : Bool)
    (cycles : U32) (advanced : DeviceAdvance) (h : session.scheduler.Sound) :
    (session.finishAdvance irqReadyBefore cycles advanced).scheduler.Sound := by
  have hupdate (session : CoreSession) (cycles : U32) (h : session.scheduler.Sound) :
      (session.updateAutoIrqLatency cycles).scheduler.Sound :=
    (SessionEffects.updateAutoIrqLatency_notes session cycles).sound h
  have hstart (session : CoreSession) (h : session.scheduler.Sound) :
      session.startTimerIrqLatency.scheduler.Sound :=
    ⟨h.buffer, session.timerIrqLatency_le, h.width, h.window, h.linked, h.saved, h.pieces⟩
  have hnote (session : CoreSession) (total : U32) (firstIrqCycle : U64)
      (h : session.scheduler.Sound) :
      (session.noteTimerIrq total firstIrqCycle).scheduler.Sound := by
    unfold noteTimerIrq
    extract_lets eventCycle cyclesAfterEvent
    split
    · exact hupdate _ _ (hstart session h)
    · exact hstart session h
  unfold finishAdvance
  extract_lets total charged
  have hcharged : charged.scheduler.Sound :=
    ⟨h.buffer, h.latency, h.width, h.window, h.linked, h.saved, h.pieces⟩
  clear_value charged
  split
  · split
    · exact hupdate charged total hcharged
    · exact hnote charged total _ hcharged
  · exact hupdate charged total hcharged

theorem CoreSession.advanceDevices_sound {cycles : U32} {session next : CoreSession}
    {result : CoreDeviceTickResult} (hadvance : session.advanceDevices cycles = some (result, next))
    (h : session.scheduler.Sound) : next.scheduler.Sound := by
  unfold advanceDevices at hadvance
  split at hadvance
  · obtain ⟨-, rfl⟩ := Prod.mk.inj (Option.some.inj hadvance)
    exact h
  · obtain ⟨advanced, -, hnext⟩ := Option.map_eq_some_iff.mp hadvance
    obtain ⟨-, rfl⟩ := Prod.mk.inj hnext
    exact finishAdvance_sound session _ _ _ h

/-- Queued work is work to do. -/
theorem CoreSession.queueHleWork_sound (session : CoreSession) (cycles : U64)
    (h : session.scheduler.Sound) : (session.queueHleWork cycles).scheduler.Sound := by
  unfold queueHleWork
  split
  · exact h
  · next hcycles =>
      refine ⟨h.buffer, h.latency, h.width, h.window, h.linked, h.saved, fun frame hframe => ?_⟩
      rcases List.mem_append.mp hframe with hbefore | hnew
      · exact h.pieces frame hbefore
      · rw [List.mem_singleton.mp hnew]
        exact hcycles

/-- A piece of work that is done leaves the queue. -/
theorem CoreSession.chargeWork_sound (session : CoreSession) (cycles : U32)
    (h : session.scheduler.Sound) : (session.chargeWork cycles).scheduler.Sound := by
  unfold chargeWork modifyScheduler
  dsimp only
  split
  · exact h
  · next work hwork =>
      refine ⟨h.buffer, h.latency, h.width, h.window, h.linked, h.saved, fun frame hframe => ?_⟩
      rcases List.mem_append.mp hframe with hbefore | hlast
      · exact h.pieces frame (List.mem_of_mem_dropLast hbefore)
      · split at hlast
        · exact absurd hlast List.not_mem_nil
        · next hremaining =>
            rw [List.mem_singleton.mp hlast]
            exact hremaining

/-- What holds of a session whatever has run. -/
structure CoreSession.Sound (session : CoreSession) : Prop where
  mode : session.cpu.mode ∈ CpuMode.named
  memory : session.system.memory.Sound
  devices : session.system.devices.Sound
  scheduler : session.scheduler.Sound

/-- Every effect keeps the invariant of the session. -/
theorem sound_sessionEffect {charges : Prop} :
    Kept (SessionEffect charges) CoreSession.Sound := by
  intro session after heffect h
  have hdevice := heffect.device_effects
  have hmemory : after.system.memory.Sound := hdevice.memory_effects.sound h.memory
  have hdevices : after.system.devices.Sound := sound_deviceEffect.star hdevice h.devices
  cases heffect with
  | cpu hcpu => exact { h with mode := named_cpuEffect hcpu h.mode }
  | bus hsystem => exact { h with memory := hmemory, devices := hdevices }
  | note hnotes => exact { h with scheduler := hnotes.sound h.scheduler }
  | time hadvance =>
      have hcpu := (CoreSession.advanceDevices_passed hadvance).cpu
      exact ⟨hcpu ▸ h.mode, hmemory, hdevices, CoreSession.advanceDevices_sound hadvance h.scheduler⟩
  | queue cycles =>
      refine ⟨?_, hmemory, hdevices, session.queueHleWork_sound cycles h.scheduler⟩
      unfold CoreSession.queueHleWork
      split
      · exact h.mode
      · exact h.mode
  | @charge hcharges work cycles result passed hadvance hwork hcycles =>
      have hcpu := (CoreSession.advanceDevices_passed hadvance).cpu
      refine ⟨?_, hmemory, hdevices, ?_⟩
      · show passed.cpu.mode ∈ CpuMode.named
        rw [hcpu]
        exact h.mode
      · exact passed.chargeWork_sound cycles (CoreSession.advanceDevices_sound hadvance h.scheduler)

end Gba.Core
