import Gba.Core.DeviceAdvance
import Gba.Core.HleMemoryServices
import Gba.Core.RegisterWrites
import Gba.Library.Reachable

/-!
# What happens on the bus

Whatever runs, the memory and the devices change by a few primitive effects only: stores through the
bus, the open bus, register writes, and, while time passes, the ticks of the devices. DMA runs and
the memory services of the emulated BIOS take no ticks, the event loop of the scheduler does. A
property of the whole system is an invariant of every run once each effect keeps it.
-/

namespace Gba.Core

/-- The timers with the ticks of newly enabled ones deferred. -/
def System.deferTimers (system : System) : System :=
  { system with
    devices :=
      { system.devices with timers := system.devices.timers.deferNewlyEnabledTicks } }

/-- Replace the APU. -/
def System.withApu (system : System) (apu : Apu) : System :=
  { system with devices := { system.devices with apu := apu } }

/-- The latch of the open bus is invalid. -/
def System.releaseOpenBus (system : System) : System :=
  system.withMemory { system.memory with openBusLatchValid := false }

/-- One thing that happens to the memory or to the devices. -/
inductive BusEffect (system : System) : System → Prop where
  | store8 (address : U32) (value : U8) :
      BusEffect system (system.write8 ioCallbacks address value).2
  | store16 (address : U32) (value : U16) :
      BusEffect system (system.write16 ioCallbacks address value).2
  | store32 (address value : U32) :
      BusEffect system (system.write32 ioCallbacks address value).2
  | openBus (value : U32) : BusEffect system (system.withMemory (system.memory.driveOpenBus value))
  | releaseOpenBus : BusEffect system system.releaseOpenBus
  | clearRam (flags : U32) :
      BusEffect system (system.withMemory (system.memory.registerRamReset flags))
  | register {devices : Devices} (h : RegisterWrite system.devices devices) :
      BusEffect system { system with devices := devices }
  | request (source : InterruptSource) : BusEffect system (system.request source)
  | dma (dma : DmaController) : BusEffect system (system.modifyDma fun _ => dma)
  | deferTimers : BusEffect system system.deferTimers

/-- A sequence of effects. -/
abbrev BusEffects : System → System → Prop := Relation.ReflTransGen BusEffect

/-- One thing that happens while time passes. -/
inductive DeviceEffect (system : System) : System → Prop where
  | bus {after : System} (h : BusEffect system after) : DeviceEffect system after
  | tick (a : DeviceAdvance) (interval : U32) (h : a.system = system) :
      DeviceEffect system (a.tickDevices interval).2.system
  | sound {timerIndex : U8} {result : DirectSoundTimerResult} {apu : Apu}
      (h : system.devices.apu.timerOverflow timerIndex = some (result, apu)) :
      DeviceEffect system (system.withApu apu)
  | soundTick {interval : U32} {step : Option ApuFrameStep} {apu : Apu}
      (h : system.devices.apu.tick interval = some (step, apu)) :
      DeviceEffect system (system.withApu apu)

/-- A sequence of such effects. -/
abbrev DeviceEffects : System → System → Prop := Relation.ReflTransGen DeviceEffect

namespace BusEffects

variable {system after other : System}

theorem one (h : BusEffect system after) : BusEffects system after := .single h

theorem ite {c : Prop} [Decidable c] (h : BusEffects system after)
    (h' : BusEffects system other) : BusEffects system (if c then after else other) := by
  split
  · exact h
  · exact h'

/-! ## DMA -/

section Dma

variable {waitcnt : WaitcntPointer} {channel : Fin 4}

theorem modifyChannel (system : System) (channel : Fin 4)
    (f : DmaChannelState → DmaChannelState) :
    BusEffects system (system.modifyChannel channel f) :=
  .one (.dma (system.devices.dma.modify channel f))

theorem driveOpenBus (system : System) (drive : Bool) (value : U32) :
    BusEffects system (system.driveOpenBus drive value) :=
  .ite (.one (.openBus value)) .refl

theorem transferUnit (drive wordTransfer : Bool) (unit : U32) (t : Transfer) :
    BusEffects t.system (transferUnit waitcnt channel drive wordTransfer unit t).system := by
  have hwrite : ∀ (system : System) (address value : U32),
      BusEffects system (transferWrite system wordTransfer address value) := by
    intro system address value
    exact .ite (.one (.store32 address value)) (.one (.store16 address _))
  exact ((modifyChannel _ _ _).trans (driveOpenBus _ _ _)).trans (hwrite _ _ _)

theorem transferUnits (drive wordTransfer : Bool) (unit : U32) (t : Transfer) :
    BusEffects t.system (transferUnits waitcnt channel drive wordTransfer unit t).system := by
  induction unit, t using transferUnits.induct waitcnt channel drive wordTransfer with
  | case1 unit t hlt ih =>
      rw [Core.transferUnits, dif_pos hlt]
      exact (transferUnit drive wordTransfer unit t).trans ih
  | case2 unit t hge =>
      rw [Core.transferUnits, dif_neg hge]

theorem requestCompletion (system : System) (channel : Fin 4) :
    BusEffects system (requestCompletion channel system) :=
  .ite (.one (.request _)) .refl

theorem executeChannel {drive : Bool} {result result' : DmaRunResult}
    (h : executeChannel waitcnt channel drive system result = some (after, result')) :
    BusEffects system after := by
  unfold Core.executeChannel at h
  dsimp only at h
  split at h
  · contradiction
  · have hafter : (Core.requestCompletion channel ((transferChannel waitcnt channel drive system
        result.busCycles).commit channel)).modifyChannel channel (rearmOrDisable channel) =
        after := congrArg Prod.fst (Option.some.inj h)
    have hunits : BusEffects system
        (transferChannel waitcnt channel drive system result.busCycles).system :=
      transferUnits drive _ 0 ⟨system, (system.channel channel).currentSource,
        (system.channel channel).currentDestination, result.busCycles + 2⟩
    rw [← hafter]
    exact ((hunits.trans (modifyChannel _ _ _)).trans (requestCompletion _ _)).trans
      (modifyChannel _ _ _)

theorem runChannels (trigger : DmaTrigger) (channels : List (Fin 4)) (run : TriggerRun) :
    BusEffects run.system (runChannels waitcnt trigger channels run).2.system := by
  induction channels generalizing run with
  | nil => exact .refl
  | cons channel channels ih =>
      unfold Core.runChannels
      split
      · exact ih run
      · split
        · exact .refl
        · next served result hexecute =>
            exact (executeChannel hexecute).trans (ih (run.executed trigger channel served result))

/-- A DMA run. -/
theorem runTrigger (trigger : DmaTrigger) (system : System) :
    BusEffects system (runTrigger waitcnt trigger system).1 := by
  have hrun : BusEffects system (Core.runChannels waitcnt trigger (List.finRange 4)
      ⟨system, ⟨0, 0, false, 0⟩, false⟩).2.system :=
    runChannels trigger _ ⟨system, ⟨0, 0, false, 0⟩, false⟩
  unfold Core.runTrigger
  split
  · exact .refl
  · dsimp only
    split
    · exact hrun.tail (.dma _)
    · exact hrun

theorem burstWords (fifo : DirectSoundChannel) (words : Nat) (burst : FifoBurst) :
    BusEffects burst.system (burstWords waitcnt channel fifo words burst).2.system := by
  induction words generalizing burst with
  | zero => exact .refl
  | succ words ih =>
      unfold Core.burstWords
      dsimp only
      split
      · exact .refl
      · next value _ =>
          have hlatched := modifyChannel burst.system channel fun state =>
            { state with dataLatch := value }
          refine (hlatched.tail (.register (.fifo fifo value))).trans ?_
          exact ih ⟨_, _, _⟩

theorem executeSoundFifoChannel (fifo : DirectSoundChannel) (system : System)
    (result : DmaRunResult) :
    BusEffects system (executeSoundFifoChannel waitcnt channel fifo system result).2.1 := by
  have hwords : BusEffects system (Core.burstWords waitcnt channel fifo kSoundFifoWordsPerRequest
      ⟨system, (system.channel channel).currentSource, result.busCycles⟩).2.system :=
    burstWords fifo _ ⟨system, (system.channel channel).currentSource, result.busCycles⟩
  unfold Core.executeSoundFifoChannel
  dsimp only
  split
  · exact .refl
  split
  · next heq =>
      rw [heq] at hwords
      exact hwords
  · next heq =>
      rw [heq] at hwords
      exact ((hwords.trans (modifyChannel _ _ _)).trans (requestCompletion _ _)).trans
        (modifyChannel _ _ _)

theorem runFifoChannels (trigger : DmaTrigger) (channels : List (Fin 4)) (system : System)
    (result : DmaRunResult) :
    BusEffects system (runFifoChannels waitcnt trigger channels system result).1 := by
  induction channels generalizing system result with
  | nil => exact .refl
  | cons channel channels ih =>
      have hchannel : BusEffects system (Core.executeSoundFifoChannel waitcnt channel
          (triggerFifo trigger) system result).2.1 := executeSoundFifoChannel _ _ _
      unfold Core.runFifoChannels
      dsimp only
      split
      · exact ih system result
      · split
        · next heq =>
            rw [heq] at hchannel
            exact hchannel
        · next heq =>
            rw [heq] at hchannel
            exact hchannel.trans (ih _ _)

/-- A burst of a sound FIFO. -/
theorem runSoundFifo (trigger : DmaTrigger) (system : System) :
    BusEffects system (runSoundFifo waitcnt trigger system).1 := by
  unfold Core.runSoundFifo
  split
  · exact .refl
  · exact runFifoChannels _ _ _ _

end Dma

section Loop

variable {a : DeviceAdvance}

theorem iterate_runDma (trigger : DmaTrigger) (events : Nat) (a : DeviceAdvance) :
    BusEffects a.system ((DeviceAdvance.runDma trigger)^[events] a).system := by
  induction events generalizing a with
  | zero => exact .refl
  | succ events ih =>
      have hrun : BusEffects a.system (a.runDma trigger).system := runTrigger _ _
      exact hrun.trans (ih _)

theorem refill (trigger : DmaTrigger) (request : Bool) (a : DeviceAdvance) :
    BusEffects a.system (a.refill trigger request).system := by
  unfold DeviceAdvance.refill
  split
  · exact runSoundFifo _ _
  · exact .refl

theorem serveDisplay (events : PpuTickEvents) (a : DeviceAdvance) :
    BusEffects a.system (a.serveDisplay events).system := by
  unfold DeviceAdvance.serveDisplay
  split
  · exact (iterate_runDma _ _ _).trans (iterate_runDma _ _ _)
  · exact .refl

end Loop

/-! ## Stores that depend on each other -/

theorem andThen {first : Bool × System} {second : System → Bool × System}
    (hfirst : BusEffects system first.2) (hsecond : ∀ middle, BusEffects middle (second middle).2) :
    BusEffects system (BusState.andThen first second).2 := by
  unfold BusState.andThen
  split
  · exact hfirst.trans (hsecond _)
  · exact hfirst

theorem forUnits {unit : U32 → System → Bool × System}
    (h : ∀ index system, BusEffects system (unit index system).2) (count : Nat) (index : U32)
    (system : System) : BusEffects system (forUnits unit count index system).2 := by
  induction count generalizing index system with
  | zero => exact .refl
  | succ count ih => exact andThen (h index system) fun middle => ih _ middle

theorem storeAll {stores : List (System → Bool × System)}
    (h : ∀ store ∈ stores, ∀ system, BusEffects system (store system).2) (system : System) :
    BusEffects system (storeAll stores system).2 := by
  induction stores generalizing system with
  | nil => exact .refl
  | cons store stores ih =>
      exact andThen (h store List.mem_cons_self system) fun middle =>
        ih (fun store hstore => h store (List.mem_cons_of_mem _ hstore)) middle

theorem storeHalfword (address : U32) (value : U16) (system : System) :
    BusEffects system (storeHalfword address value system).2 := .one (.store16 address value)

theorem storeWord (address value : U32) (system : System) :
    BusEffects system (storeWord address value system).2 := .one (.store32 address value)

end BusEffects

/-! ## The event loop -/

/-- What happens on the bus happens while time passes, too. -/
theorem BusEffects.device_effects {system after : System} (h : BusEffects system after) :
    DeviceEffects system after :=
  Relation.ReflTransGen.mono (fun _ _ => DeviceEffect.bus) system after h

namespace DeviceEffects

variable {a b : DeviceAdvance}

theorem soundTimerEvent {timerIndex : U8} (h : a.soundTimerEvent timerIndex = some b) :
    DeviceEffects a.system b.system := by
  obtain ⟨⟨sound, apu⟩, hsound, rfl⟩ := Option.map_eq_some_iff.mp h
  have hlatched : DeviceEffects a.system (a.withApu apu).system := .single (.sound hsound)
  let latched : DeviceAdvance := { a.withApu apu with lastDirectSound := sound }
  have hfirst := BusEffects.refill .fifoA sound.fifoA.refillRequest latched
  have hrefills := hfirst.trans
    (BusEffects.refill .fifoB sound.fifoB.refillRequest
      (latched.refill .fifoA sound.fifoA.refillRequest))
  exact hlatched.trans (BusEffects.device_effects hrefills)

theorem consumeDirectSoundTimer {timerIndex : U8} {overflows : Nat}
    (h : a.consumeDirectSoundTimer timerIndex overflows = some b) :
    DeviceEffects a.system b.system := by
  induction overflows generalizing a with
  | zero => exact Option.some.inj h ▸ .refl
  | succ overflows ih =>
      obtain ⟨next, hevent, hrest⟩ := Option.bind_eq_some_iff.mp h
      exact (soundTimerEvent hevent).trans (ih hrest)

theorem serveEvents {dmaInterval : Bool} {events : PpuTickEvents} {timer0Delta timer1Delta : U64}
    (h : a.serveEvents dmaInterval events timer0Delta timer1Delta = some b) :
    DeviceEffects a.system b.system := by
  unfold DeviceAdvance.serveEvents at h
  split at h
  · obtain ⟨served, hserved, rfl⟩ := Option.map_eq_some_iff.mp h
    obtain ⟨next, h0, h1⟩ := Option.bind_eq_some_iff.mp hserved
    have hdisplay : BusEffects a.system
        ((a.limitChain dmaInterval).serveDisplay events).system :=
      .serveDisplay events (a.limitChain dmaInterval)
    have hserved := (hdisplay.device_effects.trans (consumeDirectSoundTimer h0)).trans
      (consumeDirectSoundTimer h1)
    unfold DeviceAdvance.noteGenerated
    split <;> exact hserved
  · exact Option.some.inj h ▸ .refl

theorem advanceInterval (h : a.advanceInterval = some b) : DeviceEffects a.system b.system := by
  unfold DeviceAdvance.advanceInterval at h
  dsimp only at h
  split at h
  · contradiction
  · obtain ⟨served, hserved, hapu⟩ := Option.bind_eq_some_iff.mp h
    obtain ⟨⟨step, apu⟩, htick, rfl⟩ := Option.map_eq_some_iff.mp hapu
    have hcharged : (a.charge a.interval).system = a.system := by
      unfold DeviceAdvance.charge
      split <;> rfl
    have hticked : DeviceEffects a.system ((a.charge a.interval).tickDevices a.interval).2.system :=
      .single (.tick _ _ hcharged)
    exact (hticked.trans (serveEvents hserved)).tail (.soundTick htick)

/-- Device time. -/
theorem advanceLoop (h : a.advanceLoop = some b) : DeviceEffects a.system b.system := by
  induction a using DeviceAdvance.advanceLoop.induct with
  | case1 a hdone =>
      rw [DeviceAdvance.advanceLoop, if_pos hdone] at h
      exact Option.some.inj h ▸ .refl
  | case2 a hgoing hnone =>
      rw [DeviceAdvance.advanceLoop_eq (Bool.eq_false_of_not_eq_true hgoing), hnone] at h
      contradiction
  | case3 a hgoing next hnext ih =>
      rw [DeviceAdvance.advanceLoop_eq (Bool.eq_false_of_not_eq_true hgoing), hnext,
        Option.bind_some] at h
      exact (advanceInterval hnext).trans (ih h)

end DeviceEffects

end Gba.Core
