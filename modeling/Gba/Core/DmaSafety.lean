import Gba.Core.DmaRuns

/-!
# The DMA invariant over whole runs

The DMA invariant in every state that register writes, stores of the program, triggers and sound
FIFO bursts reach from a reset, in any order, as long as every transfer is clean.
-/

namespace Gba.Core

/-! ## Sound FIFO bursts -/

section Burst

variable {P : DmaController → Prop} {waitcnt : WaitcntPointer} {channel : Fin 4}
  {fifo : DirectSoundChannel}

/-- The words of a burst change the controller in the data latch only. -/
theorem burstWords_kept
    (hlatch : ∀ {dma}, P dma → ∀ channel value,
      P (dma.modify channel fun state => { state with dataLatch := value }))
    (words : Nat) (burst : FifoBurst) (h : P burst.system.devices.dma) :
    P (burstWords waitcnt channel fifo words burst).2.system.devices.dma := by
  induction words generalizing burst with
  | zero => exact h
  | succ words ih =>
      unfold burstWords
      dsimp only
      split
      · exact h
      · exact ih _ (hlatch h _ _)

/-- A burst keeps the control of every channel. -/
theorem burstWords_control (words : Nat) (burst : FifoBurst) :
    ((burstWords waitcnt channel fifo words burst).2.system.channel channel).control =
      (burst.system.channel channel).control := by
  refine burstWords_kept
    (P := fun dma => (dma.channels channel).control = (burst.system.channel channel).control)
    (fun {dma} hdma other value => ?_) words burst rfl
  by_cases heq : channel = other
  · subst heq
    simpa [DmaController.modify] using hdma
  · simpa [DmaController.modify, heq] using hdma

/-- The end of a burst of an enabled channel leaves it consistent. -/
theorem finishFifo_consistent {state : DmaChannelState} (h : state.Consistent channel)
    (henabled : state.enabled = true) : (finishFifo channel state).Consistent channel := by
  unfold finishFifo
  split
  · refine ⟨h.control_mask, fun hidle => ?_, DmaController.normalizedWordCount_le _ _⟩
    exact absurd (henabled.symm.trans hidle) (by decide)
  · refine ⟨?_, fun _ => rfl, Nat.zero_le _⟩
    show state.control &&& ~~~kDmaEnableFlag &&& ~~~dmaControlMask channel = 0
    rw [BitVec.and_assoc, BitVec.and_comm (~~~kDmaEnableFlag), ← BitVec.and_assoc, h.control_mask]
    exact BitVec.zero_and

/-- A channel with special timing waits for no immediate service, before and after its burst. -/
theorem finishFifo_waitsImmediate {state : DmaChannelState} (h : state.startTiming = .special) :
    (finishFifo channel state).waitsImmediate = false := by
  unfold finishFifo
  split
  · show (state.enabled && state.startTiming = .immediate) = false
    simp [h]
  · have hoff : anySet (state.control &&& ~~~kDmaEnableFlag) kDmaEnableFlag = false :=
      enabled_clear _
    simp [DmaChannelState.waitsImmediate, DmaChannelState.enabled, hoff]

theorem executeSoundFifoChannel_invariant {system : System} {result : DmaRunResult}
    (h : DmaInvariant system.devices.dma) (henabled : (system.channel channel).enabled = true)
    (htiming : (system.channel channel).startTiming = .special) :
    DmaInvariant
      (executeSoundFifoChannel waitcnt channel fifo system result).2.1.devices.dma := by
  obtain ⟨hconsistent, hpending⟩ := (dmaInvariant_iff _).mp h
  unfold executeSoundFifoChannel
  dsimp only
  split
  · exact h
  generalize hstart : (⟨system, (system.channel channel).currentSource, result.busCycles⟩ :
    FifoBurst) = start
  have hsystem : start.system = system := by rw [← hstart]
  rw [← hsystem] at hconsistent hpending henabled htiming
  -- a latch update touches neither half of the invariant
  have hwords : (burstWords waitcnt channel fifo kSoundFifoWordsPerRequest
      start).2.system.devices.dma.Consistent :=
    burstWords_kept consistent_registerInvariant.latch kSoundFifoWordsPerRequest start hconsistent
  have hexact : (burstWords waitcnt channel fifo kSoundFifoWordsPerRequest
      start).2.system.devices.dma.PendingExact :=
    burstWords_kept pendingExact_registerInvariant.latch kSoundFifoWordsPerRequest start hpending
  have hcontrol : ((burstWords waitcnt channel fifo kSoundFifoWordsPerRequest
      start).2.system.channel channel).control = (start.system.channel channel).control :=
    burstWords_control _ _
  cases hburst : burstWords waitcnt channel fifo kSoundFifoWordsPerRequest start with
  | mk done burst =>
    rw [hburst] at hwords hexact hcontrol
    have hstill : (burst.system.channel channel).enabled = true := by
      rw [DmaChannelState.enabled, hcontrol]
      exact henabled
    have hspecial : (burst.system.channel channel).startTiming = .special := by
      rw [DmaChannelState.startTiming, hcontrol]
      exact htiming
    cases done with
    | false => exact (dmaInvariant_iff _).mpr ⟨hwords, hexact⟩
    | true =>
        have hconsistent' : (finishFifo channel { burst.system.channel channel with
            currentSource := burst.sourceAddress
            currentDestination := (burst.system.channel channel).destination }).Consistent channel :=
          finishFifo_consistent ⟨(hwords channel).1, (hwords channel).2, (hwords channel).3⟩ hstill
        have hwaits : (finishFifo channel { burst.system.channel channel with
            currentSource := burst.sourceAddress
            currentDestination :=
              (burst.system.channel channel).destination }).waitsImmediate = false :=
          finishFifo_waitsImmediate hspecial
        have hidle : (burst.system.channel channel).waitsImmediate = false := by
          simp [DmaChannelState.waitsImmediate, hspecial]
        rw [dmaInvariant_iff]
        show ((requestCompletion channel _).devices.dma.modify channel _).Consistent ∧
          ((requestCompletion channel _).devices.dma.modify channel _).PendingExact
        rw [requestCompletion_dma]
        show ((burst.system.devices.dma.modify channel _).modify channel _).Consistent ∧
          ((burst.system.devices.dma.modify channel _).modify channel _).PendingExact
        rw [DmaController.modify_modify]
        exact ⟨hwords.modify channel hconsistent', hexact.modify channel (hwaits.trans hidle.symm)⟩

theorem runFifoChannels_invariant (trigger : DmaTrigger) (channels : List (Fin 4))
    (system : System) (result : DmaRunResult) (h : DmaInvariant system.devices.dma) :
    DmaInvariant (runFifoChannels waitcnt trigger channels system result).1.devices.dma := by
  induction channels generalizing system result with
  | nil => exact h
  | cons channel channels ih =>
      unfold runFifoChannels
      dsimp only
      split
      · exact ih system result h
      · next hserviced =>
          rw [not_or, not_or, not_not] at hserviced
          obtain ⟨henabled, htiming, -⟩ := hserviced
          have hburst : DmaInvariant (executeSoundFifoChannel waitcnt channel (triggerFifo trigger)
              system result).2.1.devices.dma :=
            executeSoundFifoChannel_invariant h (by simpa using henabled) htiming
          split
          · next heq =>
              rw [heq] at hburst
              exact hburst
          · next heq =>
              rw [heq] at hburst
              exact ih _ _ hburst

/-- A sound FIFO burst keeps the invariant. -/
theorem runSoundFifo_invariant (trigger : DmaTrigger) {system : System}
    (h : DmaInvariant system.devices.dma) :
    DmaInvariant (runSoundFifo waitcnt trigger system).1.devices.dma := by
  unfold runSoundFifo
  split
  · exact h
  · exact runFifoChannels_invariant trigger _ _ _ h

end Burst

/-! ## Runs -/

/-- What can happen to the DMA controller, and to the system around it. -/
inductive DmaEvent where
  /-- The register interface of the controller. -/
  | writeSource (channel : Fin 4) (value : U32)
  | writeDestination (channel : Fin 4) (value : U32)
  | writeWordCount (channel : Fin 4) (value : U16)
  | writeControl (channel : Fin 4) (value : U16)
  /-- Stores of the program, to any address. -/
  | store8 (address : U32) (value : U8)
  | store16 (address : U32) (value : U16)
  | store32 (address value : U32)
  /-- Transfers, with or without a wait-state control. -/
  | runTrigger (waitcnt : WaitcntPointer) (trigger : DmaTrigger)
  | runSoundFifo (waitcnt : WaitcntPointer) (trigger : DmaTrigger)
  /-- A reset, and the restoration of a snapshot, which may be rejected. -/
  | reset
  | loadState (state : DmaController)
  /-- Anything that happens elsewhere in the system. -/
  | elsewhere (memory : MemoryBus) (devices : Devices)

/-- The system after an event. -/
def DmaEvent.apply (system : System) : DmaEvent → System
  | .writeSource channel value => system.modifyDma (·.writeSource channel value)
  | .writeDestination channel value => system.modifyDma (·.writeDestination channel value)
  | .writeWordCount channel value => system.modifyDma (·.writeWordCount channel value)
  | .writeControl channel value => system.modifyDma (·.writeControl channel value)
  | .store8 address value => (system.write8 ioCallbacks address value).2
  | .store16 address value => (system.write16 ioCallbacks address value).2
  | .store32 address value => (system.write32 ioCallbacks address value).2
  | .runTrigger waitcnt trigger => (Core.runTrigger waitcnt trigger system).1
  | .runSoundFifo waitcnt trigger => (Core.runSoundFifo waitcnt trigger system).1
  | .reset => system.modifyDma fun _ => .reset
  | .loadState state => system.modifyDma fun dma => (DmaController.loadState state).getD dma
  | .elsewhere memory devices => ⟨memory, { devices with dma := system.devices.dma }⟩

/-- The system after a sequence of events. -/
def runEvents (events : List DmaEvent) (system : System) : System :=
  events.foldl DmaEvent.apply system

/-- The transfers of an event are clean. -/
def DmaEvent.Clean (system : System) : DmaEvent → Prop
  | .runTrigger waitcnt trigger => CleanTrigger waitcnt trigger system
  | _ => True

instance (system : System) : ∀ event : DmaEvent, Decidable (event.Clean system)
  | .runTrigger waitcnt trigger => inferInstanceAs (Decidable (CleanTrigger waitcnt trigger system))
  | .writeSource .. | .writeDestination .. | .writeWordCount .. | .writeControl .. | .store8 ..
  | .store16 .. | .store32 .. | .runSoundFifo .. | .reset | .loadState .. | .elsewhere .. =>
      isTrue trivial

/-- Every event of a sequence is clean in the state it meets. -/
def CleanEvents : List DmaEvent → System → Prop
  | [], _ => True
  | event :: events, system => event.Clean system ∧ CleanEvents events (event.apply system)

instance decidableCleanEvents : ∀ events system, Decidable (CleanEvents events system)
  | [], _ => isTrue trivial
  | event :: events, system =>
      have := decidableCleanEvents events (event.apply system)
      inferInstanceAs (Decidable (event.Clean system ∧ CleanEvents events (event.apply system)))

/-- A system whose DMA controller was just reset. -/
def System.dmaReset (memory : MemoryBus) (devices : Devices) : System :=
  ⟨memory, { devices with dma := .reset }⟩

theorem dmaInvariant_reset : DmaInvariant .reset :=
  (dmaInvariant_iff _).mpr ⟨DmaController.reset_consistent, DmaController.reset_pendingExact⟩

theorem dmaInvariant_registerInvariant : RegisterInvariant DmaInvariant where
  writeSource h channel value := by
    rw [dmaInvariant_iff] at h ⊢
    exact ⟨consistent_registerInvariant.writeSource h.1 channel value,
      pendingExact_registerInvariant.writeSource h.2 channel value⟩
  writeDestination h channel value := by
    rw [dmaInvariant_iff] at h ⊢
    exact ⟨consistent_registerInvariant.writeDestination h.1 channel value,
      pendingExact_registerInvariant.writeDestination h.2 channel value⟩
  writeWordCount h channel value := by
    rw [dmaInvariant_iff] at h ⊢
    exact ⟨consistent_registerInvariant.writeWordCount h.1 channel value,
      pendingExact_registerInvariant.writeWordCount h.2 channel value⟩
  writeControl h channel value := by
    rw [dmaInvariant_iff] at h ⊢
    exact ⟨h.1.writeControl channel value, h.2.writeControl channel value⟩
  latch h channel value := by
    rw [dmaInvariant_iff] at h ⊢
    exact ⟨consistent_registerInvariant.latch h.1 channel value,
      pendingExact_registerInvariant.latch h.2 channel value⟩

/-- A clean event keeps the invariant. -/
theorem DmaEvent.apply_invariant {system : System} (event : DmaEvent)
    (h : DmaInvariant system.devices.dma) (hclean : event.Clean system) :
    DmaInvariant (event.apply system).devices.dma := by
  have hregisters := dmaInvariant_registerInvariant
  cases event with
  | writeSource channel value => exact hregisters.writeSource h channel value
  | writeDestination channel value => exact hregisters.writeDestination h channel value
  | writeWordCount channel value => exact hregisters.writeWordCount h channel value
  | writeControl channel value => exact hregisters.writeControl h channel value
  | store8 address value => exact hregisters.keptByIo.write8 h address value
  | store16 address value => exact hregisters.keptByIo.write16_bus h address value
  | store32 address value => exact hregisters.keptByIo.write32_bus h address value
  | runTrigger waitcnt trigger => exact runTrigger_invariant h hclean
  | runSoundFifo waitcnt trigger => exact runSoundFifo_invariant trigger h
  | reset => exact dmaInvariant_reset
  | loadState state =>
      show DmaInvariant ((DmaController.loadState state).getD system.devices.dma)
      cases hload : DmaController.loadState state with
      | none => exact h
      | some dma => exact (dmaInvariant_iff _).mpr (DmaController.Consistent.loadState hload)
  | elsewhere memory devices => exact h

/-- The invariant holds after every clean run from a state where it holds. -/
theorem runEvents_invariant (events : List DmaEvent) {system : System}
    (h : DmaInvariant system.devices.dma) (hclean : CleanEvents events system) :
    DmaInvariant (runEvents events system).devices.dma := by
  induction events generalizing system with
  | nil => exact h
  | cons event events ih => exact ih (event.apply_invariant h hclean.1) hclean.2

/-- The DMA invariant holds in every state that a clean run reaches from a reset. -/
theorem dmaInvariant_of_cleanEvents (memory : MemoryBus) (devices : Devices)
    (events : List DmaEvent) (hclean : CleanEvents events (System.dmaReset memory devices)) :
    DmaInvariant (runEvents events (System.dmaReset memory devices)).devices.dma :=
  runEvents_invariant events dmaInvariant_reset hclean

/-- A system with a halfword at the start of the external work RAM. -/
def System.holding (low high : U8) : System :=
  System.dmaReset
    { MemoryBus.initial with ewram := setByte (setByte MemoryBus.initial.ewram 0 low) 1 high }
    .reset

/-- One halfword is copied from the external work RAM by a channel with the given control. -/
def copyHalfword (channel : Fin 4) (destination : U32) (control : U16) (trigger : DmaTrigger) :
    List DmaEvent :=
  [.writeSource channel 0x02000000, .writeDestination channel destination,
    .writeWordCount channel 1, .writeControl channel control,
    .runTrigger (fun devices => some devices.waitcnt) trigger]

/-- A transfer of channel 3 that enables channel 0 for the next VBlank. -/
theorem dmaInvariant_enabling_vblank :
    DmaInvariant (runEvents (copyHalfword 3 0x040000BA 0x8000 .immediate)
      (System.holding 0x00 0x90)).devices.dma :=
  dmaInvariant_of_cleanEvents _ _ _ (by decide +kernel)

/-- The three ways in which a transfer to a DMA register breaks the invariant: channel 3 clears
its own Enable bit with Repeat and VBlank timing, and is left disabled with a count; channel 3
makes itself immediate during its VBlank transfer, and the flag stays set with no channel enabled;
an immediate transfer of channel 3 enables channel 0 as immediate, and the flag is cleared. -/
theorem dma_register_transfers_break_invariant :
    ¬DmaInvariant (runEvents (copyHalfword 3 0x040000DE 0x8000 .immediate)
      (System.holding 0x00 0x12)).devices.dma ∧
    ¬DmaInvariant (runEvents (copyHalfword 3 0x040000DE 0x9000 .vblank)
      (System.holding 0x00 0x80)).devices.dma ∧
    ¬DmaInvariant (runEvents (copyHalfword 3 0x040000BA 0x8000 .immediate)
      (System.holding 0x00 0x80)).devices.dma := by
  refine ⟨fun h => ?_, fun h => ?_, fun h => ?_⟩
  · exact absurd (h.idle 3 (by decide +kernel)) (by decide +kernel)
  · have hnone := h.pending.mp (by decide +kernel)
    exact absurd hnone (by decide +kernel)
  · have hset := h.pending.mpr ⟨0, by decide +kernel, by decide +kernel⟩
    exact absurd hset (by decide +kernel)

end Gba.Core
