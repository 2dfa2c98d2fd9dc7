import Gba.Core.DmaTransfer
import Gba.Library.BoundedQueue

/-!
# Sound FIFO bursts that fail

A burst reads four words and pushes each of them before it reads the next. The channel's addresses
and its control are only written after the last word; the data latch and the FIFO are not, so a word
that cannot be read leaves the words before it in both.
-/

namespace Gba.Core

open RingBuffer

/-! ## What a burst reads -/

namespace Apu

/-- The bytes of a word in the order in which `write_fifo` pushes them. -/
def fifoBytes (value : U32) : List U8 :=
  (List.range 4).map fun byte => (value >>> (byte * 8)).setWidth 8

theorem length_fifoBytes (value : U32) : (fifoBytes value).length = 4 := rfl

/-- `write_fifo` changes one FIFO and nothing else. -/
theorem writeFifo_eq (apu : Apu) (channel : DirectSoundChannel) (value : U32) :
    apu.writeFifo channel value =
      { apu with
        fifos := Function.update apu.fifos channel
          ((apu.fifos channel).pushAll (fifoBytes value)) } := by
  have hpushes : ∀ (bytes : List Nat) (apu : Apu),
      bytes.foldl (fun apu byte => apu.pushFifo channel ((value >>> (byte * 8)).setWidth 8)) apu =
        { apu with
          fifos := Function.update apu.fifos channel
            ((apu.fifos channel).pushAll
              (bytes.map fun byte => (value >>> (byte * 8)).setWidth 8)) } := by
    intro bytes
    induction bytes with
    | nil =>
      intro apu
      show apu = { apu with fifos := Function.update apu.fifos channel (apu.fifos channel) }
      rw [Function.update_eq_self]
    | cons byte bytes ih =>
      intro apu
      rw [List.foldl_cons, ih]
      simp [pushFifo, pushAll]
  exact hpushes (List.range 4) apu

end Apu

/-- Two systems with the same memory whose readable registers agree. -/
structure SameReads (system other : System) : Prop where
  memory : other.memory = system.memory
  read16 : other.devices.read16 = system.devices.read16

theorem SameReads.read32 {system other : System} (h : SameReads system other) (address : U32) :
    other.read32 ioCallbacks address = system.read32 ioCallbacks address := by
  have hio : ∀ address, other.ioRead16 ioCallbacks address = system.ioRead16 ioCallbacks address :=
    fun address => congrFun h.read16 address
  have hword : ∀ address, other.devices.read32 address = system.devices.read32 address := by
    intro address
    unfold Devices.read32
    rw [h.read16]
  have hbyte : ∀ address, other.read8 ioCallbacks address = system.read8 ioCallbacks address := by
    intro address
    unfold BusState.read8
    rw [h.memory]
    simp only [hio]
  have hbytes : other.read32Bytes ioCallbacks address = system.read32Bytes ioCallbacks address := by
    unfold BusState.read32Bytes
    simp only [hbyte]
  have hcallback : ioCallbacks.read32 = some Devices.read32 := rfl
  unfold BusState.read32
  rw [h.memory, hbytes, hcallback]
  simp only [Option.bind_some, hword]

/-- The source address of a word of a burst. -/
def burstSource (state : DmaChannelState) (word : Nat) : U32 :=
  (fun address => stepAddress address state.sourceControl 4)^[word] state.currentSource

/-- A word of a burst as it is in memory before the burst. -/
def burstWord (system : System) (channel : Fin 4) (word : Nat) : Option U32 :=
  system.read32 ioCallbacks
    (effectiveSourceAddress channel (burstSource (system.channel channel) word) &&& ~~~0x3#32)

/-! ## The words of a burst -/

/-- Some words of a burst have been moved: they are in the FIFO, and of the channel only the data
latch has changed. -/
structure Moved (system : System) (channel : Fin 4) (fifo : DirectSoundChannel) (words : Nat)
    (burst : FifoBurst) : Prop where
  reads : SameReads system burst.system
  registers : ∃ latch, burst.system.channel channel =
    { system.channel channel with dataLatch := latch }
  source : burst.sourceAddress = burstSource (system.channel channel) words
  fifo : ∃ bytes : List U8, bytes.length = 4 * words ∧
    burst.system.devices.apu.fifos fifo = (system.devices.apu.fifos fifo).pushAll bytes

section Burst

variable {waitcnt : WaitcntPointer} {channel : Fin 4} {fifo : DirectSoundChannel}
  {system : System} {burst : FifoBurst} {words : Nat}

theorem Moved.start (busCycles : U32) :
    Moved system channel fifo 0 ⟨system, (system.channel channel).currentSource, busCycles⟩ :=
  ⟨⟨rfl, rfl⟩, ⟨_, rfl⟩, rfl, [], rfl, rfl⟩

theorem Moved.sourceControl (h : Moved system channel fifo words burst) :
    (burst.system.channel channel).sourceControl = (system.channel channel).sourceControl := by
  obtain ⟨latch, hregisters⟩ := h.registers
  rw [hregisters]
  rfl

/-- The latch of a channel and the FIFOs are not readable. -/
theorem SameReads.move (h : SameReads system burst.system) (value : U32) :
    SameReads system
      { burst.system.modifyChannel channel fun state => { state with dataLatch := value } with
        devices := { (burst.system.modifyChannel channel fun state =>
            { state with dataLatch := value }).devices with
          apu := burst.system.devices.apu.writeFifo fifo value } } where
  memory := h.memory
  read16 := by
    rw [← h.read16]
    funext address
    have hcontrol : ∀ other,
        ((burst.system.devices.dma.modify channel fun state =>
          { state with dataLatch := value }).channels other).control =
        (burst.system.devices.dma.channels other).control := by
      intro other
      by_cases heq : other = channel
      · subst heq
        simp [DmaController.modify]
      · simp [DmaController.modify, heq]
    have hindexed : Devices.readIndexed
        { burst.system.devices with
          dma := burst.system.devices.dma.modify channel fun state =>
            { state with dataLatch := value }
          apu := burst.system.devices.apu.writeFifo fifo value } address =
        burst.system.devices.readIndexed address := by
      unfold Devices.readIndexed
      simp only [hcontrol, Apu.writeFifo_eq]
      rfl
    show Devices.read16
        { burst.system.devices with
          dma := burst.system.devices.dma.modify channel fun state =>
            { state with dataLatch := value }
          apu := burst.system.devices.apu.writeFifo fifo value } address = _
    unfold Devices.read16
    rw [hindexed, Apu.writeFifo_eq]
    rfl

/-- One more word. -/
theorem Moved.next (h : Moved system channel fifo words burst) (value : U32) (busCycles : U32) :
    Moved system channel fifo (words + 1)
      { system :=
          { burst.system.modifyChannel channel fun state => { state with dataLatch := value } with
            devices := { (burst.system.modifyChannel channel fun state =>
                { state with dataLatch := value }).devices with
              apu := burst.system.devices.apu.writeFifo fifo value } }
        sourceAddress :=
          stepAddress burst.sourceAddress (burst.system.channel channel).sourceControl 4
        busCycles := busCycles } where
  reads := h.reads.move value
  registers := by
    have hlatched : (burst.system.devices.dma.modify channel fun state =>
        { state with dataLatch := value }).channels channel =
        { burst.system.channel channel with dataLatch := value } := Function.update_self ..
    obtain ⟨latch, hregisters⟩ := h.registers
    exact ⟨value, hlatched.trans (by rw [hregisters])⟩
  source := by
    show stepAddress burst.sourceAddress (burst.system.channel channel).sourceControl 4 = _
    rw [h.sourceControl, h.source]
    unfold burstSource
    rw [Function.iterate_succ_apply']
  fifo := by
    obtain ⟨bytes, hlength, hfifo⟩ := h.fifo
    refine ⟨bytes ++ Apu.fifoBytes value, ?_, ?_⟩
    · rw [List.length_append, hlength, Apu.length_fifoBytes, Nat.mul_succ]
    · show (burst.system.devices.apu.writeFifo fifo value).fifos fifo = _
      rw [Apu.writeFifo_eq]
      show Function.update _ fifo _ fifo = _
      rw [Function.update_self, hfifo]
      exact (List.foldl_append ..).symm

/-- What a burst reads next. -/
theorem Moved.word (h : Moved system channel fifo words burst) :
    burst.system.read32 ioCallbacks
        (effectiveSourceAddress channel burst.sourceAddress &&& ~~~0x3#32) =
      burstWord system channel words := by
  rw [h.reads.read32, h.source]
  rfl

/-- The rest of a burst is completed, or stops at the first word that cannot be read. -/
theorem Moved.rest (left : Nat) (h : Moved system channel fifo words burst) :
    ((burstWords waitcnt channel fifo left burst).1 = true ∧
      ∀ word, words ≤ word → word < words + left → (burstWord system channel word).isSome) ∨
    ((burstWords waitcnt channel fifo left burst).1 = false ∧
      ∃ stopped, words ≤ stopped ∧ stopped < words + left ∧
        (∀ word, words ≤ word → word < stopped → (burstWord system channel word).isSome) ∧
        burstWord system channel stopped = none ∧
        Moved system channel fifo stopped (burstWords waitcnt channel fifo left burst).2 ∧
        (stopped = words → (burstWords waitcnt channel fifo left burst).2.system =
          burst.system)) := by
  induction left generalizing words burst with
  | zero => exact .inl ⟨rfl, fun word hfrom hto => absurd hto (by omega)⟩
  | succ left ih =>
    unfold burstWords
    dsimp only
    rw [h.word]
    cases hword : burstWord system channel words with
    | none =>
      right
      exact ⟨rfl, words, le_rfl, by omega, fun word hfrom hto => absurd hto (by omega), hword,
        ⟨h.reads, h.registers, h.source, h.fifo⟩, fun _ => rfl⟩
    | some value =>
      dsimp only
      have hmore : ∀ {stopped},
          (∀ word, words + 1 ≤ word → word < stopped → (burstWord system channel word).isSome) →
          ∀ word, words ≤ word → word < stopped → (burstWord system channel word).isSome := by
        intro stopped hreadable word hle hlt
        rcases Nat.eq_or_lt_of_le hle with rfl | hlater
        · rw [hword]
          rfl
        · exact hreadable word hlater hlt
      obtain ⟨hdone, hreadable⟩ |
        ⟨hfailed, stopped, hfrom, hto, hreadable, hnone, hmoved, -⟩ := ih (h.next value _)
      · left
        rw [Nat.succ_add_eq_add_succ] at hreadable
        exact ⟨hdone, hmore hreadable⟩
      · right
        refine ⟨hfailed, stopped, by omega, by omega, hmore hreadable, hnone, hmoved,
          fun hfirst => ?_⟩
        omega

end Burst

/-! ## Atomicity -/

/-- A burst that is not completed leaves the FIFO, and of the channel the internal source, the data
latch and the control, as they were. -/
def BurstAtomic (waitcnt : WaitcntPointer) (channel : Fin 4) (fifo : DirectSoundChannel)
    (system : System) (result : DmaRunResult) : Prop :=
  let outcome := executeSoundFifoChannel waitcnt channel fifo system result
  outcome.1 = false →
    outcome.2.1.devices.apu.fifos fifo = system.devices.apu.fifos fifo ∧
    (outcome.2.1.channel channel).currentSource = (system.channel channel).currentSource ∧
    (outcome.2.1.channel channel).dataLatch = (system.channel channel).dataLatch ∧
    (outcome.2.1.channel channel).control = (system.channel channel).control

/-- A burst is atomic if it is refused, if its first word cannot be read or if all its words can,
and only then: a word that was moved stays in the FIFO. -/
theorem executeSoundFifoChannel_atomic_iff (waitcnt : WaitcntPointer) (channel : Fin 4)
    (fifo : DirectSoundChannel) (system : System) (result : DmaRunResult) :
    BurstAtomic waitcnt channel fifo system result ↔
      (system.channel channel).sourceControl = .incrementReload ∨
      burstWord system channel 0 = none ∨
      ∀ word < 4, (burstWord system channel word).isSome := by
  unfold BurstAtomic executeSoundFifoChannel kSoundFifoWordsPerRequest
  by_cases hrefused : (system.channel channel).sourceControl = .incrementReload
  · simp [hrefused]
  simp only [hrefused, if_false, false_or]
  have hrest := @Moved.rest waitcnt channel fifo system _ 0 4 (.start result.busCycles)
  generalize burstWords waitcnt channel fifo 4
    ⟨system, (system.channel channel).currentSource, result.busCycles⟩ = outcome at hrest
  obtain ⟨done, burst⟩ := outcome
  obtain ⟨rfl, hreadable⟩ | ⟨rfl, stopped, -, hlt, hreadable, hnone, hmoved, hfirst⟩ := hrest
  · -- a completed burst has nothing to undo
    simp only [Bool.true_eq_false, false_implies, true_iff]
    exact .inr fun word hword => hreadable word (Nat.zero_le _) (by omega)
  · simp only [true_implies]
    cases stopped with
    | zero =>
      have hsame : burst.system = system := hfirst rfl
      rw [hsame]
      exact iff_of_true ⟨rfl, rfl, rfl, rfl⟩ (.inl hnone)
    | succ moved =>
      -- the words before the one that cannot be read are in the FIFO
      obtain ⟨bytes, hlength, hfifo⟩ := hmoved.fifo
      have hsome : bytes ≠ [] := by
        rintro rfl
        rw [List.length_nil] at hlength
        omega
      have hfew : bytes.length < 32 := by omega
      refine iff_of_false (fun hatomic => pushAll_ne hsome hfew (hfifo ▸ hatomic.1)) ?_
      rintro (hunread | hall)
      · have hread := hreadable 0 le_rfl (Nat.succ_pos _)
        rw [hunread] at hread
        contradiction
      · have hread := hall (moved + 1) (by omega)
        rw [hnone] at hread
        contradiction

/-- A sound channel that reads the background registers: the third word of its burst is made of
registers that can only be written. -/
def backgroundBurst : System where
  memory := .initial
  devices := { Devices.reset with
    dma := ((DmaController.reset.writeSource 1 0x04000008#32).writeDestination 1
      kFifoAAddress).writeControl 1 0xB600#16 }

theorem not_burstAtomic :
    ¬BurstAtomic (fun devices => some devices.waitcnt) 1 .a backgroundBurst ⟨0, 0, false, 0⟩ := by
  intro hatomic
  have hfifo := (hatomic (by decide +kernel)).1
  have hsize := congrArg RingBuffer.size hfifo
  revert hsize
  decide +kernel

end Gba.Core
