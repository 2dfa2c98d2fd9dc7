import Gba.Core.ApuPieces
import Gba.Core.FifoBurst

/-!
# The queues of the sound unit

The sound FIFOs and the audio ring over any sequence of operations, saves and loads: each is a queue
that drops its oldest element when it is full. The books of the queues are kept beside the unit
(`SoundRun`); `queues_run` says that the rings hold what the books say, that what was played and
drained is what the books let out, and how many samples were pushed.
-/

namespace Gba.Core

open RingBuffer

namespace Apu

/-! ## What the operations do to the queues -/

/-- The samples that the loop of `tick` pushes, in order. -/
def loopSamples (remainder : U32) (apu : Apu) : List ApuMixedSample :=
  if _ : kCpuCyclesPerAudioSample ≤ remainder then
    match generateAudioSample
        { apu with audioCycleRemainder := remainder - kCpuCyclesPerAudioSample } with
    | none => []
    | some next =>
        next.lastMixedSample :: loopSamples (remainder - kCpuCyclesPerAudioSample) next
  else []
  termination_by remainder.toNat
  decreasing_by
    unfold kCpuCyclesPerAudioSample at *
    bv_omega

/-- The samples that a tick pushes. -/
def tickSamples (apu : Apu) (cpuCycles : U32) : List ApuMixedSample :=
  if !apu.masterEnabled then []
  else
    let stepped := (stepFrameSequencer
      { apu with
        frameCycleRemainder := apu.frameCycleRemainder + cpuCycles
        audioCycleRemainder := apu.audioCycleRemainder + cpuCycles } none).1
    loopSamples stepped.audioCycleRemainder stepped

/-- The reset bit of a FIFO in SOUNDCNT_H. -/
def fifoReset : DirectSoundChannel → U16
  | .a => kFifoAReset
  | .b => kFifoBReset

/-- What an operation does to a FIFO. -/
def fifoEvents (apu : Apu) (channel : DirectSoundChannel) :
    ApuOperation → List (QueueEvent U8)
  | .writeFifo target value => if target = channel then (fifoBytes value).map .push else []
  | .writeSoundcntH value =>
      if apu.masterEnabled && anySet value (fifoReset channel) then [.clear] else []
  | .writeSoundcntX value => if anySet value kMasterEnable then [] else [.clear]
  | .timerOverflow timerIndex => if apu.clocks channel timerIndex then [.pop] else []
  | _ => []

/-- What an operation does to the audio ring. -/
def audioEvents (apu : Apu) : ApuOperation → List (QueueEvent ApuMixedSample)
  | .writeSoundcntX value => if anySet value kMasterEnable then [] else [.clear]
  | .tick cpuCycles => (apu.tickSamples cpuCycles).map .push
  | .popAudioSample => [.pop]
  | .clearAudioBuffer => [.clear]
  | _ => []

/-- The part of a channel in the result of a timer overflow. -/
def resultOf (result : DirectSoundTimerResult) : DirectSoundChannel → DirectSoundSample
  | .a => result.fifoA
  | .b => result.fifoB

/-- The bytes that an operation returns from a FIFO. -/
def playedBy (apu : Apu) (channel : DirectSoundChannel) : ApuOperation → List U8
  | .timerOverflow timerIndex =>
      match apu.timerOverflow timerIndex with
      | some (result, _) =>
          if (resultOf result channel).produced then [(resultOf result channel).sample] else []
      | none => []
  | _ => []

/-- The samples that an operation returns from the audio ring. -/
def drainedBy (apu : Apu) : ApuOperation → List ApuMixedSample
  | .popAudioSample =>
      match apu.popAudioSample with
      | some (some sample, _) => [sample]
      | _ => []
  | _ => []

/-! ## A tick -/

theorem generateAudioSample_queues {apu next : Apu} (h : apu.generateAudioSample = some next) :
    next.fifos = apu.fifos ∧
      next.audioBuffer = apu.audioBuffer.push next.lastMixedSample ∧
      next.audioCycleRemainder = apu.audioCycleRemainder := by
  unfold generateAudioSample at h
  obtain ⟨sample, -, h⟩ := Option.bind_eq_some_iff.mp h
  unfold advancePsgGenerators at h
  obtain ⟨square0, -, h⟩ := Option.bind_eq_some_iff.mp h
  obtain ⟨square1, -, h⟩ := Option.bind_eq_some_iff.mp h
  obtain ⟨wave, -, h⟩ := Option.bind_eq_some_iff.mp h
  obtain ⟨noise, -, h⟩ := Option.bind_eq_some_iff.mp h
  rw [← Option.some.inj h]
  exact ⟨rfl, rfl, rfl⟩

/-- The loop of `tick` pushes its samples, one for every full period of the remainder. -/
theorem generateAudioSamples_queues {remainder : U32} {apu last : Apu}
    (hremainder : apu.audioCycleRemainder = remainder)
    (h : generateAudioSamples remainder apu = some last) :
    last.fifos = apu.fifos ∧
      last.audioBuffer = apu.audioBuffer.pushAll (loopSamples remainder apu) ∧
      last.audioCycleRemainder.toNat = remainder.toNat % 512 ∧
      (loopSamples remainder apu).length = remainder.toNat / 512 := by
  induction hlen : remainder.toNat using Nat.strong_induction_on generalizing remainder apu with
  | _ length ih =>
    subst hlen
    rw [generateAudioSamples] at h
    rw [loopSamples]
    split at h
    · next hle =>
        have hfull : 512 ≤ remainder.toNat := hle
        have hrest : (remainder - kCpuCyclesPerAudioSample).toNat = remainder.toNat - 512 :=
          BitVec.toNat_sub_of_le hle
        obtain ⟨next, hnext, hlast⟩ := Option.bind_eq_some_iff.mp h
        obtain ⟨hfifos, hbuffer, hcharged⟩ := generateAudioSample_queues hnext
        have hshorter : (remainder - kCpuCyclesPerAudioSample).toNat < remainder.toNat := by omega
        obtain ⟨hfifosLast, hbufferLast, hremainderLast, hlength⟩ :=
          ih (remainder - kCpuCyclesPerAudioSample).toNat hshorter hcharged hlast rfl
        rw [dif_pos hle, hnext]
        dsimp only
        rw [hrest] at hremainderLast hlength
        refine ⟨hfifosLast.trans hfifos, ?_, ?_, ?_⟩
        · rw [hbufferLast, hbuffer]
          rfl
        · omega
        · rw [List.length_cons, hlength]
          omega
    · next hlt =>
        have hshort : remainder.toNat < 512 := Nat.lt_of_not_le hlt
        obtain rfl := Option.some.inj h
        rw [dif_neg hlt, hremainder, Nat.div_eq_of_lt hshort, Nat.mod_eq_of_lt hshort]
        exact ⟨rfl, rfl, rfl, rfl⟩

/-- What a tick does to the queues and to the remainder. -/
theorem tick_queues {apu next : Apu} {cpuCycles : U32} {step : Option ApuFrameStep}
    (h : apu.tick cpuCycles = some (step, next)) :
    next.fifos = apu.fifos ∧
      next.audioBuffer = apu.audioBuffer.pushAll (apu.tickSamples cpuCycles) ∧
      next.audioCycleRemainder.toNat =
        (if apu.masterEnabled then (apu.audioCycleRemainder + cpuCycles).toNat % 512
          else apu.audioCycleRemainder.toNat) ∧
      (apu.tickSamples cpuCycles).length =
        if apu.masterEnabled then (apu.audioCycleRemainder + cpuCycles).toNat / 512 else 0 := by
  unfold tick at h
  unfold tickSamples
  cases hmaster : apu.masterEnabled with
  | false =>
    rw [hmaster] at h
    obtain ⟨-, rfl⟩ := Prod.mk.inj (Option.some.inj h)
    exact ⟨rfl, rfl, rfl, rfl⟩
  | true =>
    rw [hmaster] at h
    simp only [Bool.not_true, Bool.false_eq_true, if_false, if_true] at h ⊢
    have hstepped := stepFrameSequencer_fst { apu with
      frameCycleRemainder := apu.frameCycleRemainder + cpuCycles
      audioCycleRemainder := apu.audioCycleRemainder + cpuCycles } none
    generalize (stepFrameSequencer { apu with
      frameCycleRemainder := apu.frameCycleRemainder + cpuCycles
      audioCycleRemainder := apu.audioCycleRemainder + cpuCycles } none) = stepped at h hstepped ⊢
    obtain ⟨last, hgenerate, hpair⟩ := Option.map_eq_some_iff.mp h
    obtain ⟨-, rfl⟩ := Prod.mk.inj hpair
    have hremainder : stepped.1.audioCycleRemainder = apu.audioCycleRemainder + cpuCycles := by
      rw [hstepped]
      rfl
    obtain ⟨hfifos, hbuffer, hlast, hlength⟩ := generateAudioSamples_queues rfl hgenerate
    rw [hremainder] at hlast hlength
    rw [hremainder] at hbuffer ⊢
    have hring : stepped.1.audioBuffer = apu.audioBuffer := by
      rw [hstepped]
      rfl
    refine ⟨hfifos.trans ?_, hbuffer.trans ?_, hlast, hlength⟩
    · rw [hstepped]
      rfl
    · rw [hring]

/-! ## A queue and its books -/

/-- The books of a queue after some events. -/
def booked {α : Type} (capacity : Nat) (ledger : QueueLedger α) (events : List (QueueEvent α)) :
    QueueLedger α :=
  events.foldl (QueueLedger.step capacity) ledger

theorem booked_sound {α : Type} {capacity : Nat} (hpos : 0 < capacity) {ledger : QueueLedger α}
    (h : ledger.Sound capacity) (events : List (QueueEvent α)) :
    (booked capacity ledger events).Sound capacity :=
  List.foldlRecOn _ _ h fun _ hsound event _ => hsound.step hpos event

/-- Pushes enter the ring as they enter the books, and let nothing out. -/
theorem booked_pushes {α : Type} {capacity : Nat} [NeZero capacity] {r : RingBuffer α capacity}
    (hwell : r.WellFormed) {ledger : QueueLedger α} (h : r.contents = ledger.contents)
    (samples : List α) :
    (r.pushAll samples).contents = (booked capacity ledger (samples.map .push)).contents ∧
      (booked capacity ledger (samples.map .push)).left = ledger.left := by
  induction samples generalizing r ledger with
  | nil => exact ⟨h, rfl⟩
  | cons sample samples ih =>
    have hpush : (r.push sample).contents =
        (ledger.step capacity (.push sample)).contents := by
      rw [contents_push hwell, h]
      unfold QueueLedger.step
      dsimp only
      split <;> rfl
    have hleft : (ledger.step capacity (.push sample)).left = ledger.left := by
      unfold QueueLedger.step
      dsimp only
      split <;> rfl
    obtain ⟨hcontents, hout⟩ := ih (hwell.push sample) hpush
    exact ⟨hcontents, hout.trans hleft⟩

/-- What one channel returns at an overflow. -/
theorem latchDirectSound_result {apu next : Apu} {c : DirectSoundChannel} {timerIndex : U8}
    {result : DirectSoundSample} (h : apu.latchDirectSound c timerIndex = some (result, next)) :
    (if result.produced then [result.sample] else []) =
      if apu.directSoundUsesTimer c timerIndex then (apu.fifos c).contents.head?.toList else [] := by
  unfold latchDirectSound at h
  split at h
  · next huses =>
      rw [if_pos huses]
      unfold popFifo at h
      obtain ⟨⟨popped, mid⟩, hpop, hlatch⟩ := Option.map_eq_some_iff.mp h
      obtain ⟨⟨sample, fifo⟩, hring, hsample⟩ := Option.map_eq_some_iff.mp hpop
      obtain ⟨rfl, -⟩ := Prod.mk.inj hlatch
      rw [← (contents_pop hring).1]
      cases sample with
      | none =>
        obtain ⟨rfl, -⟩ := Prod.mk.inj hsample
        rfl
      | some sample =>
        obtain ⟨rfl, -⟩ := Prod.mk.inj hsample
        rfl
  · next hnone =>
      obtain ⟨rfl, -⟩ := Prod.mk.inj (Option.some.inj h)
      rw [if_neg hnone]
      rfl

/-- A timer overflow takes the oldest byte of every FIFO it clocks, and returns it. -/
theorem timerOverflow_queues {apu next : Apu} (h : apu.Playable) {timerIndex : U8}
    {result : DirectSoundTimerResult} (hrun : apu.timerOverflow timerIndex = some (result, next))
    (c : DirectSoundChannel) :
    (next.fifos c).contents = (if apu.clocks c timerIndex then (apu.fifos c).contents.tail
        else (apu.fifos c).contents) ∧
      (if (resultOf result c).produced then [(resultOf result c).sample] else []) =
        if apu.clocks c timerIndex then (apu.fifos c).contents.head?.toList else [] := by
  constructor
  · obtain ⟨other, hoverflow⟩ := timerOverflow_eq h timerIndex
    obtain ⟨-, rfl⟩ := Prod.mk.inj (Option.some.inj (hrun.symm.trans hoverflow))
    show ((if apu.clocks c timerIndex then latchNext (apu.channel c)
      else apu.channel c).1).contents = _
    split
    · obtain ⟨sample, fifo, hpop, -⟩ := (h.fifo c).pop
      have hlatch : (latchNext (apu.channel c)).1 = fifo := by
        unfold latchNext channel
        rw [hpop]
      rw [hlatch]
      exact (contents_pop hpop).2
    · rfl
  · unfold timerOverflow at hrun
    unfold clocks
    cases hmaster : apu.masterEnabled with
    | false =>
      rw [hmaster] at hrun
      obtain ⟨rfl, -⟩ := Prod.mk.inj (Option.some.inj hrun)
      cases c <;> rfl
    | true =>
      rw [hmaster] at hrun
      obtain ⟨⟨sampleA, mid⟩, hA, hrest⟩ := Option.bind_eq_some_iff.mp hrun
      obtain ⟨⟨sampleB, last⟩, hB, hpair⟩ := Option.bind_eq_some_iff.mp hrest
      obtain ⟨rfl, -⟩ := Prod.mk.inj (Option.some.inj hpair)
      obtain ⟨other, hmid⟩ := latchDirectSound_eq (h.fifo .a) timerIndex
      obtain ⟨-, rfl⟩ := Prod.mk.inj (Option.some.inj (hA.symm.trans hmid))
      rw [Bool.true_and]
      cases c with
      | a => exact latchDirectSound_result hA
      | b =>
        -- the overflow of the first FIFO leaves the second one alone
        have hresult := latchDirectSound_result hB
        rw [directSoundUsesTimer_withChannels] at hresult
        exact hresult

end Apu

/-! ## Runs -/

/-- A run of the sound unit with the books of its queues, what it returned from them, and the cycles
and the samples since its master was last switched off. The cycles include the remainder from which
they were counted. -/
structure SoundRun where
  apu : Apu
  fifos : DirectSoundChannel → QueueLedger U8
  audio : QueueLedger ApuMixedSample
  played : DirectSoundChannel → List U8
  drained : List ApuMixedSample
  cycles : Nat
  samples : Nat

namespace SoundRun

/-- A run that starts from a state of the unit. -/
def start (apu : Apu) : SoundRun where
  apu := apu
  fifos channel := .start (apu.fifos channel).contents
  audio := .start apu.audioBuffer.contents
  played _ := []
  drained := []
  cycles := apu.audioCycleRemainder.toNat
  samples := 0

/-- The cycles counted after an operation. -/
def cyclesAfter (run : SoundRun) : ApuOperation → Nat
  | .tick cpuCycles => if run.apu.masterEnabled then run.cycles + cpuCycles.toNat else run.cycles
  | .writeSoundcntX value => if anySet value kMasterEnable then run.cycles else 0
  | _ => run.cycles

/-- The samples counted after an operation. -/
def samplesAfter (run : SoundRun) : ApuOperation → Nat
  | .tick cpuCycles => run.samples + (run.apu.tickSamples cpuCycles).length
  | .writeSoundcntX value => if anySet value kMasterEnable then run.samples else 0
  | _ => run.samples

/-- One operation of the unit. -/
def operate (run : SoundRun) (operation : ApuOperation) : Option SoundRun :=
  (operation.run run.apu).map fun next =>
    { apu := next
      fifos := fun channel =>
        Apu.booked kFifoCapacity (run.fifos channel) (run.apu.fifoEvents channel operation)
      audio := Apu.booked kAudioBufferCapacity run.audio (run.apu.audioEvents operation)
      played := fun channel => run.played channel ++ run.apu.playedBy channel operation
      drained := run.drained ++ run.apu.drainedBy operation
      cycles := run.cyclesAfter operation
      samples := run.samplesAfter operation }

end SoundRun

/-- An operation of the unit, a save or a load of an earlier snapshot. -/
inductive SoundOperation where
  | operate (operation : ApuOperation)
  | saveState
  | loadState (snapshot : Nat)

/-- A run with the snapshots that were saved. A snapshot keeps the books of its time. -/
structure SoundMachine where
  run : SoundRun
  snapshots : List SoundRun

/-- One operation. -/
def SoundOperation.step (machine : SoundMachine) : SoundOperation → Option SoundMachine
  | .operate operation =>
      (machine.run.operate operation).map fun run => { machine with run := run }
  | .saveState => some { machine with snapshots := machine.snapshots ++ [machine.run] }
  | .loadState snapshot =>
      match machine.snapshots[snapshot]? with
      | none => some machine
      | some saved =>
          match saved.apu.loadState with
          | none => some machine
          | some apu => some { machine with run := { saved with apu := apu } }

/-- A sequence of operations from a state of the unit. -/
def Apu.runSound (apu : Apu) (operations : List SoundOperation) : Option SoundMachine :=
  operations.foldlM SoundOperation.step ⟨.start apu, []⟩

/-! ## What a run keeps -/

section Operate

variable {apu next : Apu} {operation : ApuOperation}

/-- The operations that have nothing to do with a queue or with time. -/
def configures : ApuOperation → Bool
  | .writeSoundcntL _ | .writeSoundbias _ | .setWaveBankSelect _ | .writeWaveRam _ _ |
    .configureSquareChannel _ _ _ _ | .configureWaveChannel _ _ | .configureNoiseChannel _ _ _ |
    .disablePsgChannel _ | .mixSample => true
  | _ => false

theorem configures_kept (hconfigures : configures operation = true)
    (hrun : operation.run apu = some next) :
    next.fifos = apu.fifos ∧ next.audioBuffer = apu.audioBuffer ∧
      next.audioCycleRemainder = apu.audioCycleRemainder := by
  cases operation with
  | writeSoundcntL value =>
    obtain rfl := Option.some.inj hrun
    unfold Apu.writeSoundcntL
    split <;> exact ⟨rfl, rfl, rfl⟩
  | writeSoundbias value =>
    obtain rfl := Option.some.inj hrun
    unfold Apu.writeSoundbias
    split <;> exact ⟨rfl, rfl, rfl⟩
  | setWaveBankSelect playingBank =>
    obtain rfl := Option.some.inj hrun
    exact ⟨rfl, rfl, rfl⟩
  | writeWaveRam index value =>
    obtain rfl := Option.some.inj hrun
    exact ⟨rfl, rfl, rfl⟩
  | configureSquareChannel channel duty volume periodSamples =>
    obtain rfl := Option.some.inj hrun
    unfold Apu.configureSquareChannel
    split <;> exact ⟨rfl, rfl, rfl⟩
  | configureWaveChannel volumeShift periodSamples =>
    obtain rfl := Option.some.inj hrun
    unfold Apu.configureWaveChannel
    split <;> exact ⟨rfl, rfl, rfl⟩
  | configureNoiseChannel volume periodSamples narrowLfsr =>
    obtain rfl := Option.some.inj hrun
    unfold Apu.configureNoiseChannel
    split <;> exact ⟨rfl, rfl, rfl⟩
  | disablePsgChannel channel =>
    obtain rfl := Option.some.inj hrun
    unfold Apu.disablePsgChannel
    split_ifs <;> exact ⟨rfl, rfl, rfl⟩
  | mixSample =>
    obtain ⟨sample, -, rfl⟩ := Option.map_eq_some_iff.mp hrun
    exact ⟨rfl, rfl, rfl⟩
  | _ => contradiction

theorem fifos_writeSoundcntH (value : U16) (c : DirectSoundChannel) :
    (apu.writeSoundcntH value).fifos c =
      if apu.masterEnabled && anySet value (Apu.fifoReset c) then .filled 0 else apu.fifos c := by
  unfold Apu.writeSoundcntH
  cases apu.masterEnabled with
  | false => rfl
  | true =>
    cases c with
    | a =>
      show _ = if anySet value kFifoAReset then _ else _
      cases anySet value kFifoAReset <;> cases anySet value kFifoBReset <;> rfl
    | b =>
      show _ = if anySet value kFifoBReset then _ else _
      cases anySet value kFifoAReset <;> cases anySet value kFifoBReset <;> rfl

/-- The books of a FIFO follow it through an operation. -/
theorem operate_fifos (h : apu.Playable) (hrun : operation.run apu = some next)
    (c : DirectSoundChannel) {ledger : QueueLedger U8}
    (hcontents : (apu.fifos c).contents = ledger.contents) :
    (next.fifos c).contents =
        (Apu.booked kFifoCapacity ledger (apu.fifoEvents c operation)).contents ∧
      (Apu.booked kFifoCapacity ledger (apu.fifoEvents c operation)).left =
        ledger.left ++ apu.playedBy c operation := by
  -- what an operation that leaves both queues alone has to show
  have hkept : next.fifos = apu.fifos → (next.fifos c).contents = ledger.contents ∧
      ledger.left = ledger.left ++ [] := by
    intro hfifos
    rw [hfifos, hcontents, List.append_nil]
    exact ⟨rfl, rfl⟩
  cases operation with
  | writeSoundcntH value =>
    obtain rfl := Option.some.inj hrun
    have hevents : apu.fifoEvents c (.writeSoundcntH value) =
        if apu.masterEnabled && anySet value (Apu.fifoReset c) then [.clear] else [] := rfl
    rw [hevents, fifos_writeSoundcntH]
    cases apu.masterEnabled && anySet value (Apu.fifoReset c) with
    | true => exact ⟨rfl, (List.append_nil _).symm⟩
    | false => exact ⟨hcontents, (List.append_nil _).symm⟩
  | writeSoundcntX value =>
    obtain rfl := Option.some.inj hrun
    have hevents : apu.fifoEvents c (.writeSoundcntX value) =
        if anySet value kMasterEnable then [] else [.clear] := rfl
    rw [hevents]
    unfold Apu.writeSoundcntX
    cases anySet value kMasterEnable with
    | true => exact ⟨hcontents, (List.append_nil _).symm⟩
    | false => exact ⟨rfl, (List.append_nil _).symm⟩
  | writeFifo target value =>
    obtain rfl := Option.some.inj hrun
    have hevents : apu.fifoEvents c (.writeFifo target value) =
        if target = c then (Apu.fifoBytes value).map .push else [] := rfl
    rw [hevents, Apu.writeFifo_eq]
    by_cases htarget : target = c
    · subst htarget
      rw [if_pos rfl]
      -- a full queue gives up its oldest bytes, and so do its books
      obtain ⟨hpushed, hleft⟩ := Apu.booked_pushes (h.fifo target) hcontents (Apu.fifoBytes value)
      refine ⟨?_, hleft.trans (List.append_nil _).symm⟩
      show RingBuffer.contents (Function.update apu.fifos target
        ((apu.fifos target).pushAll (Apu.fifoBytes value)) target) = _
      rw [Function.update_self]
      exact hpushed
    · rw [if_neg htarget]
      refine ⟨?_, (List.append_nil _).symm⟩
      show RingBuffer.contents (Function.update apu.fifos target
        ((apu.fifos target).pushAll (Apu.fifoBytes value)) c) = _
      rw [Function.update_of_ne (Ne.symm htarget)]
      exact hcontents
  | tick cpuCycles =>
    obtain ⟨⟨step, last⟩, htick, rfl⟩ := Option.map_eq_some_iff.mp hrun
    exact hkept (Apu.tick_queues htick).1
  | timerOverflow timerIndex =>
    obtain ⟨⟨result, last⟩, hoverflow, rfl⟩ := Option.map_eq_some_iff.mp hrun
    -- only the timer that clocks the channel pops its queue
    obtain ⟨hfifo, hplayed⟩ := Apu.timerOverflow_queues h hoverflow c
    have hevents : apu.fifoEvents c (.timerOverflow timerIndex) =
        if apu.clocks c timerIndex then [.pop] else [] := rfl
    have hout : apu.playedBy c (.timerOverflow timerIndex) =
        if apu.clocks c timerIndex then (apu.fifos c).contents.head?.toList else [] := by
      unfold Apu.playedBy
      dsimp only
      rw [hoverflow]
      exact hplayed
    rw [hevents, hout, hfifo, hcontents]
    cases apu.clocks c timerIndex with
    | false => exact ⟨rfl, (List.append_nil _).symm⟩
    | true => exact ⟨rfl, rfl⟩
  | popAudioSample =>
    obtain ⟨⟨sample, last⟩, hpop, rfl⟩ := Option.map_eq_some_iff.mp hrun
    obtain ⟨⟨popped, buffer⟩, -, hlast⟩ := Option.map_eq_some_iff.mp hpop
    obtain ⟨-, rfl⟩ := Prod.mk.inj hlast
    exact hkept rfl
  | clearAudioBuffer =>
    obtain rfl := Option.some.inj hrun
    exact hkept rfl
  | _ => exact hkept (configures_kept rfl hrun).1

/-- The books of the audio ring follow it through an operation. -/
theorem operate_audio (h : apu.Playable) (hrun : operation.run apu = some next)
    {ledger : QueueLedger ApuMixedSample} (hcontents : apu.audioBuffer.contents = ledger.contents) :
    next.audioBuffer.contents =
        (Apu.booked kAudioBufferCapacity ledger (apu.audioEvents operation)).contents ∧
      (Apu.booked kAudioBufferCapacity ledger (apu.audioEvents operation)).left =
        ledger.left ++ apu.drainedBy operation := by
  have hkept : next.audioBuffer = apu.audioBuffer → next.audioBuffer.contents = ledger.contents ∧
      ledger.left = ledger.left ++ [] := by
    intro hring
    rw [hring, hcontents, List.append_nil]
    exact ⟨rfl, rfl⟩
  cases operation with
  | writeSoundcntH value =>
    obtain rfl := Option.some.inj hrun
    refine hkept ?_
    unfold Apu.writeSoundcntH
    split
    · rfl
    · dsimp only
      split_ifs <;> rfl
  | writeSoundcntX value =>
    obtain rfl := Option.some.inj hrun
    have hevents : apu.audioEvents (.writeSoundcntX value) =
        if anySet value kMasterEnable then [] else [.clear] := rfl
    rw [hevents]
    unfold Apu.writeSoundcntX
    cases anySet value kMasterEnable with
    | true => exact ⟨hcontents, (List.append_nil _).symm⟩
    | false => exact ⟨rfl, (List.append_nil _).symm⟩
  | writeFifo target value =>
    obtain rfl := Option.some.inj hrun
    refine hkept ?_
    rw [Apu.writeFifo_eq]
  | tick cpuCycles =>
    obtain ⟨⟨step, last⟩, htick, rfl⟩ := Option.map_eq_some_iff.mp hrun
    have hring : last.audioBuffer = apu.audioBuffer.pushAll (apu.tickSamples cpuCycles) :=
      (Apu.tick_queues htick).2.1
    have hevents : apu.audioEvents (.tick cpuCycles) =
        (apu.tickSamples cpuCycles).map .push := rfl
    -- the ring gives up its oldest samples when it is full, and so do the books
    obtain ⟨hpushed, hleft⟩ :=
      Apu.booked_pushes h.audioBuffer hcontents (apu.tickSamples cpuCycles)
    rw [hevents, hring]
    exact ⟨hpushed, hleft.trans (List.append_nil _).symm⟩
  | timerOverflow timerIndex =>
    obtain ⟨⟨result, last⟩, hoverflow, rfl⟩ := Option.map_eq_some_iff.mp hrun
    obtain ⟨other, heq⟩ := Apu.timerOverflow_eq h timerIndex
    obtain ⟨-, rfl⟩ := Prod.mk.inj (Option.some.inj (hoverflow.symm.trans heq))
    exact hkept rfl
  | popAudioSample =>
    obtain ⟨⟨sample, last⟩, hpop, rfl⟩ := Option.map_eq_some_iff.mp hrun
    obtain ⟨⟨popped, buffer⟩, hring, hlast⟩ := Option.map_eq_some_iff.mp hpop
    obtain ⟨rfl, rfl⟩ := Prod.mk.inj hlast
    obtain ⟨hhead, htail⟩ := contents_pop hring
    have hevents : apu.audioEvents .popAudioSample = [.pop] := rfl
    have hout : apu.drainedBy .popAudioSample = popped.toList := by
      unfold Apu.drainedBy
      dsimp only
      rw [hpop]
      cases popped <;> rfl
    rw [hevents, hout, hhead]
    refine ⟨htail.trans ?_, ?_⟩
    · rw [hcontents]
      rfl
    · rw [hcontents]
      rfl
  | clearAudioBuffer =>
    obtain rfl := Option.some.inj hrun
    exact ⟨rfl, (List.append_nil _).symm⟩
  | _ => exact hkept (configures_kept rfl hrun).2.1


/-- The cycles and the samples counted after an operation whose cycles fit the remainder. -/
theorem operate_count (h : apu.Playable) (hrun : operation.run apu = some next) {run : SoundRun}
    (hapu : run.apu = apu) (hshort : apu.audioCycleRemainder.toNat < 512)
    (hfit : ∀ cycles, operation = .tick cycles → cycles.toNat ≤ 2 ^ 32 - 512)
    (hcount : run.samples * 512 + apu.audioCycleRemainder.toNat = run.cycles) :
    next.audioCycleRemainder.toNat < 512 ∧
      run.samplesAfter operation * 512 + next.audioCycleRemainder.toNat =
        run.cyclesAfter operation := by
  have hkept : next.audioCycleRemainder = apu.audioCycleRemainder →
      next.audioCycleRemainder.toNat < 512 ∧
        run.samples * 512 + next.audioCycleRemainder.toNat = run.cycles := by
    intro hremainder
    rw [hremainder]
    exact ⟨hshort, hcount⟩
  cases operation with
  | writeSoundcntH value =>
    obtain rfl := Option.some.inj hrun
    refine hkept ?_
    unfold Apu.writeSoundcntH
    split
    · rfl
    · dsimp only
      split_ifs <;> rfl
  | writeSoundcntX value =>
    obtain rfl := Option.some.inj hrun
    have hsamples : run.samplesAfter (.writeSoundcntX value) =
        if anySet value kMasterEnable then run.samples else 0 := rfl
    have hcycles : run.cyclesAfter (.writeSoundcntX value) =
        if anySet value kMasterEnable then run.cycles else 0 := rfl
    rw [hsamples, hcycles]
    unfold Apu.writeSoundcntX
    cases anySet value kMasterEnable with
    | true => exact ⟨hshort, hcount⟩
    | false =>
      have hzero : (0 : U32).toNat < 512 := by decide
      simp only [Bool.false_eq_true, if_false]
      exact ⟨hzero, rfl⟩
  | writeFifo target value =>
    obtain rfl := Option.some.inj hrun
    refine hkept ?_
    rw [Apu.writeFifo_eq]
  | tick cpuCycles =>
    obtain ⟨⟨step, last⟩, htick, rfl⟩ := Option.map_eq_some_iff.mp hrun
    obtain ⟨-, -, hremainder, hlength⟩ := Apu.tick_queues htick
    have hcycles := hfit cpuCycles rfl
    -- the remainder and the cycles fit a word together
    have hsum : (apu.audioCycleRemainder + cpuCycles).toNat =
        apu.audioCycleRemainder.toNat + cpuCycles.toNat := by bv_omega
    have hsamples : run.samplesAfter (.tick cpuCycles) =
        run.samples + (apu.tickSamples cpuCycles).length := by
      rw [← hapu]
      rfl
    have hcyclesAfter : run.cyclesAfter (.tick cpuCycles) =
        if apu.masterEnabled then run.cycles + cpuCycles.toNat else run.cycles := by
      rw [← hapu]
      rfl
    rw [hsamples, hcyclesAfter, hlength]
    dsimp only
    rw [hremainder, hsum]
    cases apu.masterEnabled with
    | false =>
      simp only [Bool.false_eq_true, if_false]
      omega
    | true =>
      simp only [if_true]
      omega
  | timerOverflow timerIndex =>
    obtain ⟨⟨result, last⟩, hoverflow, rfl⟩ := Option.map_eq_some_iff.mp hrun
    obtain ⟨other, heq⟩ := Apu.timerOverflow_eq h timerIndex
    obtain ⟨-, rfl⟩ := Prod.mk.inj (Option.some.inj (hoverflow.symm.trans heq))
    exact hkept rfl
  | popAudioSample =>
    obtain ⟨⟨sample, last⟩, hpop, rfl⟩ := Option.map_eq_some_iff.mp hrun
    obtain ⟨⟨popped, buffer⟩, hring, hlast⟩ := Option.map_eq_some_iff.mp hpop
    obtain ⟨-, rfl⟩ := Prod.mk.inj hlast
    exact hkept rfl
  | clearAudioBuffer =>
    obtain rfl := Option.some.inj hrun
    exact hkept rfl
  | _ => exact hkept (configures_kept rfl hrun).2.2

end Operate

/-- A ring holds what its books say, what it returned is what the books let out, and the books are
in order. -/
structure Follows {α : Type} {capacity : Nat} [NeZero capacity] (r : RingBuffer α capacity)
    (ledger : QueueLedger α) (returned : List α) : Prop where
  contents : r.contents = ledger.contents
  returned : returned = ledger.left
  sound : ledger.Sound capacity

/-- The queues of a run follow their books, and the samples are counted by the cycles. -/
structure SoundRun.Booked (run : SoundRun) : Prop where
  playable : run.apu.Playable
  short : run.apu.audioCycleRemainder.toNat < 512
  fifos : ∀ channel, Follows (run.apu.fifos channel) (run.fifos channel) (run.played channel)
  audio : Follows run.apu.audioBuffer run.audio run.drained
  count : run.samples * 512 + run.apu.audioCycleRemainder.toNat = run.cycles

theorem SoundRun.booked_start {apu : Apu} (h : apu.Playable)
    (hshort : apu.audioCycleRemainder.toNat < 512) : (SoundRun.start apu).Booked where
  playable := h
  short := hshort
  fifos channel := by
    refine ⟨rfl, rfl, QueueLedger.sound_start ?_⟩
    rw [length_contents]
    exact (h.fifo channel).size_le
  audio := by
    refine ⟨rfl, rfl, QueueLedger.sound_start ?_⟩
    rw [length_contents]
    exact h.audioBuffer.size_le
  count := by
    show 0 * 512 + _ = _
    rw [Nat.zero_mul, Nat.zero_add]
    rfl

/-- An operation keeps the books. -/
theorem SoundRun.Booked.operate {run : SoundRun} (h : run.Booked) (operation : ApuOperation)
    (hfit : ∀ cycles, operation = .tick cycles → cycles.toNat ≤ 2 ^ 32 - 512) :
    ∃ next, run.operate operation = some next ∧ next.Booked := by
  obtain ⟨next, hrun, hplay⟩ := operation.run_playable h.playable
  obtain ⟨hshort, hcount⟩ := operate_count h.playable hrun rfl h.short hfit h.count
  rw [SoundRun.operate, hrun]
  refine ⟨_, rfl, hplay, hshort, fun channel => ?_, ?_, hcount⟩
  · obtain ⟨hfollows, hreturned, hsound⟩ := h.fifos channel
    obtain ⟨hcontents, hleft⟩ := operate_fifos h.playable hrun channel hfollows
    have hpos : 0 < kFifoCapacity := Nat.pos_of_neZero kFifoCapacity
    refine ⟨hcontents, ?_, Apu.booked_sound hpos hsound _⟩
    show run.played channel ++ run.apu.playedBy channel operation = _
    rw [hleft, hreturned]
  · obtain ⟨hcontents, hleft⟩ := operate_audio h.playable hrun h.audio.contents
    have hpos : 0 < kAudioBufferCapacity := Nat.pos_of_neZero kAudioBufferCapacity
    refine ⟨hcontents, ?_, Apu.booked_sound hpos h.audio.sound _⟩
    show run.drained ++ run.apu.drainedBy operation = _
    rw [hleft, h.audio.returned]

/-- The books of a machine are in order, and so are those of its snapshots. -/
structure SoundMachine.Booked (machine : SoundMachine) : Prop where
  run : machine.run.Booked
  snapshots : ∀ saved ∈ machine.snapshots, saved.Booked

/-- An operation, a save or a load keeps the books. -/
theorem SoundMachine.Booked.step {machine : SoundMachine} (h : machine.Booked)
    (operation : SoundOperation)
    (hfit : ∀ cycles, operation = .operate (.tick cycles) → cycles.toNat ≤ 2 ^ 32 - 512) :
    ∃ next, operation.step machine = some next ∧ next.Booked := by
  cases operation with
  | operate operation =>
    obtain ⟨run, hrun, hbooked⟩ := h.run.operate operation fun cycles heq =>
      hfit cycles (congrArg SoundOperation.operate heq)
    refine ⟨{ machine with run := run }, ?_, hbooked, h.snapshots⟩
    rw [SoundOperation.step, hrun]
    rfl
  | saveState =>
    refine ⟨_, rfl, h.run, fun saved hsaved => ?_⟩
    obtain hbefore | hnow := List.mem_append.mp hsaved
    · exact h.snapshots saved hbefore
    · rw [List.mem_singleton.mp hnow]
      exact h.run
  | loadState snapshot =>
    unfold SoundOperation.step
    dsimp only
    cases hsaved : machine.snapshots[snapshot]? with
    | none => exact ⟨machine, rfl, h⟩
    | some saved =>
      have hbooked := h.snapshots saved (List.mem_of_getElem? hsaved)
      dsimp only
      cases hload : saved.apu.loadState with
      | none => exact ⟨machine, rfl, h⟩
      | some apu =>
        -- what is loaded is what was saved
        have hsame : apu = saved.apu := by
          unfold Apu.loadState at hload
          split at hload
          · exact (Option.some.inj hload).symm
          · contradiction
        rw [hsame]
        exact ⟨_, rfl, hbooked, h.snapshots⟩

/-- From a playable state with a remainder shorter than a sample, every sequence of operations
whose ticks fit the remainder is defined and keeps the books. -/
theorem runSound_booked {machine : SoundMachine} (h : machine.Booked)
    (operations : List SoundOperation)
    (hfit : ∀ cycles, .operate (.tick cycles) ∈ operations → cycles.toNat ≤ 2 ^ 32 - 512) :
    ∃ last, operations.foldlM SoundOperation.step machine = some last ∧ last.Booked := by
  induction operations generalizing machine with
  | nil => exact ⟨machine, rfl, h⟩
  | cons operation operations ih =>
    obtain ⟨next, hstep, hnext⟩ := h.step operation fun cycles heq =>
      hfit cycles (heq ▸ List.mem_cons_self)
    obtain ⟨last, hlast, hbooked⟩ := ih hnext fun cycles hcycles =>
      hfit cycles (List.mem_cons_of_mem _ hcycles)
    refine ⟨last, ?_, hbooked⟩
    rw [List.foldlM_cons, hstep]
    exact hlast

/-- The queues of the sound unit. Over every sequence of operations, saves and loads, each FIFO and
the audio ring hold what a queue of their capacity holds that drops its oldest element when it is
full; what they return came in before, in that order and once; nothing is lost but what was dropped
or cleared. The samples pushed since the master was last switched off are the whole sample periods
in the cycles ticked while it was on. -/
theorem queues_run {apu : Apu} (h : apu.Playable) (hshort : apu.audioCycleRemainder.toNat < 512)
    (operations : List SoundOperation)
    (hfit : ∀ cycles, .operate (.tick cycles) ∈ operations → cycles.toNat ≤ 2 ^ 32 - 512) :
    ∃ last, apu.runSound operations = some last ∧
      (∀ channel, Follows (last.run.apu.fifos channel) (last.run.fifos channel)
        (last.run.played channel)) ∧
      Follows last.run.apu.audioBuffer last.run.audio last.run.drained ∧
      last.run.samples = last.run.cycles / 512 := by
  obtain ⟨last, hrun, hbooked⟩ := @runSound_booked ⟨.start apu, []⟩
    ⟨SoundRun.booked_start h hshort, fun _ hnone => absurd hnone List.not_mem_nil⟩ operations hfit
  obtain ⟨-, hremainder, hfifos, haudio, hcount⟩ := hbooked.run
  exact ⟨last, hrun, hfifos, haudio, by omega⟩

/-- A unit that is switched on, played, saved, drained and restored. -/
theorem queues_run_restored :
    ∃ last, Apu.reset.runSound [.operate (.writeSoundcntX 0x0080#16), .operate (.tick 1000#32),
        .operate (.writeFifo .a 0x04030201#32), .saveState, .operate .popAudioSample,
        .loadState 0, .operate (.tick 100#32)] = some last ∧
      (∀ channel, Follows (last.run.apu.fifos channel) (last.run.fifos channel)
        (last.run.played channel)) ∧
      Follows last.run.apu.audioBuffer last.run.audio last.run.drained ∧
      last.run.samples = last.run.cycles / 512 := by
  refine queues_run .reset (by decide) _ ?_
  intro cycles hcycles
  simp at hcycles
  obtain rfl | rfl := hcycles <;> decide

/-- The cycles of all ticks since the master was last switched off. -/
def cyclesTicked (start : Nat) (operations : List SoundOperation) : Nat :=
  operations.foldl (fun cycles operation =>
    match operation with
    | .operate (.tick cpuCycles) => cycles + cpuCycles.toNat
    | .operate (.writeSoundcntX value) => if anySet value kMasterEnable then cycles else 0
    | _ => cycles) start

/-- Ticks while the master is off push no samples, and cycles that overflow the remainder are
lost. -/
theorem not_samples_cyclesTicked :
    (Apu.reset.runSound [.operate (.tick 512#32)]).map (fun last => last.run.samples) ≠
      some (cyclesTicked 0 [.operate (.tick 512#32)] / 512) ∧
    (Apu.reset.runSound [.operate (.writeSoundcntX 0x0080#16), .operate (.tick 1#32),
        .operate (.tick 0xFFFFFFFF#32)]).map (fun last => last.run.samples) ≠
      some (cyclesTicked 0 [.operate (.writeSoundcntX 0x0080#16), .operate (.tick 1#32),
        .operate (.tick 0xFFFFFFFF#32)] / 512) := by
  refine ⟨by decide +kernel, by decide +kernel⟩

end Gba.Core
