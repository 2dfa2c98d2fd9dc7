import Gba.Core.Apu

/-!
# Defined operations of the sound unit

The generators divide by the period of their channel and look up tables with its duty, phase and
volume shift, and the queues index their arrays with a head. In a playable state all of this is
defined; every operation of the unit leaves a playable state.
-/

namespace Gba.Core

/-- A generator that runs has a period of at least one sample and a phase inside it. -/
def Running (enabled : Bool) (periodSamples phase : U16) : Prop :=
  enabled = true → 1 ≤ periodSamples ∧ phase < periodSamples

instance (enabled : Bool) (periodSamples phase : U16) :
    Decidable (Running enabled periodSamples phase) :=
  inferInstanceAs (Decidable (_ → _))

/-- A square channel whose output and advance are defined. -/
structure SquareChannel.Playable (square : SquareChannel) : Prop where
  running : Running square.enabled square.periodSamples square.phase
  duty : square.duty.toNat < 4

/-- A wave channel whose output and advance are defined. -/
structure WaveChannel.Playable (wave : WaveChannel) : Prop where
  running : Running wave.enabled wave.periodSamples wave.phase
  volumeShift : wave.volumeShift.toNat ≤ 4

/-- A noise channel whose advance is defined. -/
def NoiseChannel.Playable (noise : NoiseChannel) : Prop :=
  Running noise.enabled noise.periodSamples noise.phase

/-- A state from which every operation is defined. -/
structure Apu.Playable (apu : Apu) : Prop where
  square : ∀ channel, (apu.squareChannels channel).Playable
  wave : apu.waveChannel.Playable
  noise : apu.noiseChannel.Playable
  fifo : ∀ channel, (apu.fifos channel).WellFormed
  audioBuffer : apu.audioBuffer.WellFormed

namespace Apu

/-! ## The generators -/

theorem nextPhase_running (phase : U16) {periodSamples : U16} (h : 1 ≤ periodSamples) :
    ∃ next, nextPhase phase periodSamples = some next ∧ next < periodSamples := by
  have hperiod : periodSamples.toNat ≠ 0 := by bv_omega
  refine ⟨_, if_neg fun hzero => hperiod (by rw [hzero]; rfl), ?_⟩
  have hmod : (phase.toNat + 1) % periodSamples.toNat < periodSamples.toNat :=
    Nat.mod_lt _ (Nat.pos_of_ne_zero hperiod)
  have hbound := periodSamples.isLt
  rw [BitVec.lt_def, BitVec.toNat_ofNat, Nat.mod_eq_of_lt (by omega)]
  exact hmod

theorem squareOutput_isSome {square : SquareChannel} (h : square.Playable) :
    (squareOutput square).isSome := by
  unfold squareOutput
  split
  · rfl
  · next hon =>
      rw [not_or] at hon
      have henabled : square.enabled = true := by simpa using hon.1
      have hperiod : square.periodSamples ≠ 0 := by
        have := (h.running henabled).1
        bv_omega
      rw [if_neg hperiod]
      dsimp only
      rw [dif_pos h.duty]
      rfl

theorem waveOutput_isSome {apu : Apu} (h : apu.waveChannel.Playable) :
    apu.waveOutput.isSome := by
  unfold waveOutput
  dsimp only
  split
  · rfl
  · next hon =>
      rw [not_or] at hon
      have henabled : apu.waveChannel.enabled = true := by simpa using hon.1
      obtain ⟨hperiod, hphase⟩ := h.running henabled
      have hnonzero : apu.waveChannel.periodSamples ≠ 0 := by bv_omega
      -- a phase below the period scales to one of the 32 samples
      have hindex : apu.waveChannel.phase.toNat * 32 / apu.waveChannel.periodSamples.toNat < 32 :=
        Nat.div_lt_of_lt_mul (by bv_omega)
      have hsample : (BitVec.ofNat 8 (apu.waveChannel.phase.toNat * 32 /
          apu.waveChannel.periodSamples.toNat)).toNat / 4 < 8 := by
        rw [BitVec.toNat_ofNat, Nat.mod_eq_of_lt (by omega)]
        omega
      have hshift : apu.waveChannel.volumeShift.toNat - 1 < 32 := by
        have := h.volumeShift
        omega
      rw [if_neg hnonzero, dif_pos hsample, if_pos hshift]
      rfl

theorem advanceSquare_playable {square : SquareChannel} (h : square.Playable) :
    ∃ next, advanceSquare square = some next ∧ next.Playable := by
  unfold advanceSquare
  split
  · exact ⟨square, rfl, h⟩
  · next hon =>
      obtain ⟨hperiod, -⟩ := h.running (by simpa using hon)
      obtain ⟨phase, hphase, hlt⟩ := nextPhase_running square.phase hperiod
      exact ⟨{ square with phase := phase }, by rw [hphase]; rfl, ⟨fun _ => ⟨hperiod, hlt⟩, h.duty⟩⟩

theorem advanceWave_playable {wave : WaveChannel} (h : wave.Playable) :
    ∃ next, advanceWave wave = some next ∧ next.Playable := by
  unfold advanceWave
  split
  · exact ⟨wave, rfl, h⟩
  · next hon =>
      obtain ⟨hperiod, -⟩ := h.running (by simpa using hon)
      obtain ⟨phase, hphase, hlt⟩ := nextPhase_running wave.phase hperiod
      exact ⟨{ wave with phase := phase }, by rw [hphase]; rfl, ⟨fun _ => ⟨hperiod, hlt⟩, h.volumeShift⟩⟩

theorem advanceNoise_playable {noise : NoiseChannel} (h : noise.Playable) :
    ∃ next, advanceNoise noise = some next ∧ next.Playable := by
  unfold advanceNoise
  split
  · exact ⟨noise, rfl, h⟩
  · next hon =>
      obtain ⟨hperiod, -⟩ := h (by simpa using hon)
      obtain ⟨phase, hphase, hlt⟩ := nextPhase_running noise.phase hperiod
      refine ⟨{ noise with
        phase := phase, lfsr := if phase = 0 then clockLfsr noise else noise.lfsr }, ?_,
        fun _ => ⟨hperiod, hlt⟩⟩
      rw [hphase]
      rfl

end Apu

namespace Apu.Playable

variable {apu : Apu}

/-- Mixing a playable state is defined. -/
theorem mixSample (h : apu.Playable) : ∃ sample, apu.mixSample = some sample := by
  obtain ⟨square0, hsquare0⟩ := Option.isSome_iff_exists.mp (squareOutput_isSome (h.square 0))
  obtain ⟨square1, hsquare1⟩ := Option.isSome_iff_exists.mp (squareOutput_isSome (h.square 1))
  obtain ⟨wave, hwave⟩ := Option.isSome_iff_exists.mp (waveOutput_isSome h.wave)
  have houtputs : apu.psgChannelOutputs =
      some ![square0, square1, wave, noiseOutput apu.noiseChannel] := by
    simp only [psgChannelOutputs, hsquare0, hsquare1, hwave, Option.bind_eq_bind, Option.bind_some]
    rfl
  exact Option.isSome_iff_exists.mp (by rw [Apu.mixSample, houtputs]; rfl)

theorem advancePsgGenerators (h : apu.Playable) :
    ∃ next, apu.advancePsgGenerators = some next ∧ next.Playable := by
  obtain ⟨square0, hsquare0, hplay0⟩ := advanceSquare_playable (h.square 0)
  obtain ⟨square1, hsquare1, hplay1⟩ := advanceSquare_playable (h.square 1)
  obtain ⟨wave, hwave, hplayWave⟩ := advanceWave_playable h.wave
  obtain ⟨noise, hnoise, hplayNoise⟩ := advanceNoise_playable h.noise
  refine ⟨{ apu with
    squareChannels := ![square0, square1], waveChannel := wave, noiseChannel := noise }, ?_,
    ⟨?_, hplayWave, hplayNoise, h.fifo, h.audioBuffer⟩⟩
  · simp only [Apu.advancePsgGenerators, hsquare0, hsquare1, hwave, hnoise]
    rfl
  · intro channel
    match channel with
    | 0 => exact hplay0
    | 1 => exact hplay1

/-! ## The operations -/

theorem reset : Apu.reset.Playable where
  square _ := ⟨fun h => absurd h Bool.false_ne_true, Nat.zero_lt_succ 3⟩
  wave := ⟨fun h => absurd h Bool.false_ne_true, Nat.zero_le 4⟩
  noise h := absurd h Bool.false_ne_true
  fifo _ := RingBuffer.wellFormed_filled _
  audioBuffer := RingBuffer.wellFormed_filled _

theorem pushAudioSample (h : apu.Playable) (sample : ApuMixedSample) :
    (apu.pushAudioSample sample).Playable :=
  ⟨h.square, h.wave, h.noise, h.fifo, h.audioBuffer.push sample⟩

theorem generateAudioSample (h : apu.Playable) :
    ∃ next, apu.generateAudioSample = some next ∧ next.Playable := by
  obtain ⟨sample, hmix⟩ := h.mixSample
  have hmixed : ({ apu with lastMixedSample := sample } : Apu).Playable :=
    ⟨h.square, h.wave, h.noise, h.fifo, h.audioBuffer⟩
  have hpushed := hmixed.pushAudioSample sample
  have hcounted : Apu.Playable
      { { apu with lastMixedSample := sample }.pushAudioSample sample with
        audioSampleCount :=
          ({ apu with lastMixedSample := sample }.pushAudioSample sample).audioSampleCount + 1 } :=
    ⟨hpushed.square, hpushed.wave, hpushed.noise, hpushed.fifo, hpushed.audioBuffer⟩
  obtain ⟨next, hnext, hplay⟩ := hcounted.advancePsgGenerators
  refine ⟨next, ?_, hplay⟩
  simp only [Apu.generateAudioSample, hmix, Option.bind_eq_bind, Option.bind_some]
  exact hnext

theorem generateAudioSamples (remainder : U32) (h : apu.Playable) :
    ∃ next, Apu.generateAudioSamples remainder apu = some next ∧ next.Playable := by
  induction hcount : remainder.toNat using Nat.strong_induction_on generalizing remainder apu with
  | _ count ih =>
    rw [Apu.generateAudioSamples]
    split
    · next hle =>
        have hcharged : ({ apu with
            audioCycleRemainder := remainder - kCpuCyclesPerAudioSample } : Apu).Playable :=
          ⟨h.square, h.wave, h.noise, h.fifo, h.audioBuffer⟩
        obtain ⟨next, hnext, hplay⟩ := hcharged.generateAudioSample
        rw [hnext, Option.bind_some]
        refine ih _ ?_ _ hplay rfl
        rw [← hcount]
        unfold kCpuCyclesPerAudioSample at hle ⊢
        bv_omega
    · exact ⟨apu, rfl, h⟩

theorem stepFrameSequencer (lastStep : Option ApuFrameStep) (h : apu.Playable) :
    (apu.stepFrameSequencer lastStep).1.Playable := by
  induction apu, lastStep using Apu.stepFrameSequencer.induct with
  | case1 apu lastStep hle step ih =>
      rw [Apu.stepFrameSequencer, dif_pos hle]
      exact ih ⟨h.square, h.wave, h.noise, h.fifo, h.audioBuffer⟩
  | case2 apu lastStep hlt =>
      rw [Apu.stepFrameSequencer, dif_neg hlt]
      exact h

theorem clearFifo (h : apu.Playable) (channel : DirectSoundChannel) :
    (apu.clearFifo channel).Playable := by
  refine ⟨h.square, h.wave, h.noise, fun other => ?_, h.audioBuffer⟩
  show (Function.update apu.fifos channel _ other).WellFormed
  by_cases heq : other = channel
  · subst heq
    rw [Function.update_self]
    exact RingBuffer.wellFormed_filled _
  · rw [Function.update_of_ne heq]
    exact h.fifo other

theorem pushFifo (h : apu.Playable) (channel : DirectSoundChannel) (sample : U8) :
    (apu.pushFifo channel sample).Playable := by
  refine ⟨h.square, h.wave, h.noise, fun other => ?_, h.audioBuffer⟩
  show (Function.update apu.fifos channel _ other).WellFormed
  by_cases heq : other = channel
  · subst heq
    rw [Function.update_self]
    exact (h.fifo other).push sample
  · rw [Function.update_of_ne heq]
    exact h.fifo other

theorem writeFifo (h : apu.Playable) (channel : DirectSoundChannel) (value : U32) :
    (apu.writeFifo channel value).Playable :=
  List.foldlRecOn _ _ h fun _ hacc _ _ => hacc.pushFifo _ _

theorem writeSoundcntL (h : apu.Playable) (value : U16) : (apu.writeSoundcntL value).Playable := by
  unfold Apu.writeSoundcntL
  split
  · exact h
  · exact ⟨h.square, h.wave, h.noise, h.fifo, h.audioBuffer⟩

theorem writeSoundcntH (h : apu.Playable) (value : U16) : (apu.writeSoundcntH value).Playable := by
  unfold Apu.writeSoundcntH
  split
  · exact h
  · have hA : (if anySet value kFifoAReset then apu.clearFifo .a else apu).Playable := by
      split
      · exact h.clearFifo .a
      · exact h
    have hB : (if anySet value kFifoBReset then
        (if anySet value kFifoAReset then apu.clearFifo .a else apu).clearFifo .b
        else if anySet value kFifoAReset then apu.clearFifo .a else apu).Playable := by
      split
      · exact hA.clearFifo .b
      · exact hA
    exact ⟨hB.square, hB.wave, hB.noise, hB.fifo, hB.audioBuffer⟩

theorem writeSoundcntX (h : apu.Playable) (value : U16) : (apu.writeSoundcntX value).Playable := by
  unfold Apu.writeSoundcntX
  split
  · exact ⟨reset.square, reset.wave, reset.noise, reset.fifo, reset.audioBuffer⟩
  · exact ⟨h.square, h.wave, h.noise, h.fifo, h.audioBuffer⟩

theorem writeSoundbias (h : apu.Playable) (value : U16) : (apu.writeSoundbias value).Playable := by
  unfold Apu.writeSoundbias
  split
  · exact h
  · exact ⟨h.square, h.wave, h.noise, h.fifo, h.audioBuffer⟩

theorem writeWaveRam (h : apu.Playable) (index : Fin 8) (value : U16) :
    (apu.writeWaveRam index value).Playable :=
  ⟨h.square, h.wave, h.noise, h.fifo, h.audioBuffer⟩

theorem setWaveBankSelect (h : apu.Playable) (playingBank : Bool) :
    (apu.setWaveBankSelect playingBank).Playable :=
  ⟨h.square, h.wave, h.noise, h.fifo, h.audioBuffer⟩

theorem clearAudioBuffer (h : apu.Playable) : apu.clearAudioBuffer.Playable :=
  ⟨h.square, h.wave, h.noise, h.fifo, RingBuffer.wellFormed_filled _⟩

/-- The period that a configuration stores is at least one sample. -/
theorem running_configured (periodSamples : U16) :
    Running true (if periodSamples < 1 then 1 else periodSamples) 0 := by
  intro _
  split <;> constructor <;> bv_omega

theorem configureSquareChannel (h : apu.Playable) (channel duty volume : U8)
    (periodSamples : U16) :
    (apu.configureSquareChannel channel duty volume periodSamples).Playable := by
  unfold Apu.configureSquareChannel
  split
  · exact h
  · refine ⟨fun other => ?_, h.wave, h.noise, h.fifo, h.audioBuffer⟩
    show (Function.update apu.squareChannels _ _ other).Playable
    by_cases heq : other.val = channel.toNat
    · rw [Function.update_apply, if_pos (Fin.ext heq)]
      refine ⟨running_configured periodSamples, ?_⟩
      show (duty &&& 0x3#8).toNat < 4
      rw [BitVec.toNat_and]
      exact Nat.lt_of_le_of_lt Nat.and_le_right (Nat.lt_succ_self 3)
    · rw [Function.update_apply, if_neg fun hsame => heq (congrArg Fin.val hsame)]
      exact h.square other

theorem configureWaveChannel (h : apu.Playable) (volumeShift : U8) (periodSamples : U16) :
    (apu.configureWaveChannel volumeShift periodSamples).Playable := by
  unfold Apu.configureWaveChannel
  split
  · exact h
  · refine ⟨h.square, ⟨running_configured periodSamples, ?_⟩, h.noise, h.fifo, h.audioBuffer⟩
    show (if volumeShift < 4 then volumeShift else 4).toNat ≤ 4
    split <;> bv_omega

theorem configureNoiseChannel (h : apu.Playable) (volume : U8) (periodSamples : U16)
    (narrowLfsr : Bool) :
    (apu.configureNoiseChannel volume periodSamples narrowLfsr).Playable := by
  unfold Apu.configureNoiseChannel
  split
  · exact h
  · exact ⟨h.square, h.wave, running_configured periodSamples, h.fifo, h.audioBuffer⟩

theorem disablePsgChannel (h : apu.Playable) (channel : U8) :
    (apu.disablePsgChannel channel).Playable := by
  have hoff : ∀ {period phase : U16}, Running false period phase :=
    fun hon => absurd hon Bool.false_ne_true
  unfold Apu.disablePsgChannel
  split
  · next hsquare =>
      refine ⟨fun other => ?_, h.wave, h.noise, h.fifo, h.audioBuffer⟩
      show (Function.update apu.squareChannels _ _ other).Playable
      rw [Function.update_apply]
      split
      · exact ⟨hoff, (h.square ⟨channel.toNat, hsquare⟩).duty⟩
      · exact h.square other
  split
  · exact ⟨h.square, ⟨hoff, h.wave.volumeShift⟩, h.noise, h.fifo, h.audioBuffer⟩
  split
  · exact ⟨h.square, h.wave, hoff, h.fifo, h.audioBuffer⟩
  · exact h

theorem popFifo (h : apu.Playable) (channel : DirectSoundChannel) :
    ∃ sample next, apu.popFifo channel = some (sample, next) ∧ next.Playable := by
  obtain ⟨sample, fifo, hpop, hfifo⟩ := (h.fifo channel).pop
  have hplay : ({ apu with fifos := Function.update apu.fifos channel fifo } : Apu).Playable := by
    refine ⟨h.square, h.wave, h.noise, fun other => ?_, h.audioBuffer⟩
    show (Function.update apu.fifos channel fifo other).WellFormed
    rw [Function.update_apply]
    split
    · exact hfifo
    · exact h.fifo other
  unfold Apu.popFifo
  rw [hpop]
  cases sample with
  | none => exact ⟨_, _, rfl, hplay⟩
  | some sample => exact ⟨_, _, rfl, hplay⟩

theorem latchDirectSound (h : apu.Playable) (channel : DirectSoundChannel) (timerIndex : U8) :
    ∃ sample next, apu.latchDirectSound channel timerIndex = some (sample, next) ∧
      next.Playable := by
  unfold Apu.latchDirectSound
  split
  · obtain ⟨sample, next, hpop, hplay⟩ := h.popFifo channel
    rw [hpop]
    exact ⟨_, _, rfl, ⟨hplay.square, hplay.wave, hplay.noise, hplay.fifo, hplay.audioBuffer⟩⟩
  · exact ⟨_, _, rfl, h⟩

theorem timerOverflow (h : apu.Playable) (timerIndex : U8) :
    ∃ result next, apu.timerOverflow timerIndex = some (result, next) ∧ next.Playable := by
  unfold Apu.timerOverflow
  split
  · exact ⟨_, _, rfl, h⟩
  · obtain ⟨fifoA, nextA, hA, hplayA⟩ := h.latchDirectSound .a timerIndex
    obtain ⟨fifoB, nextB, hB, hplayB⟩ := hplayA.latchDirectSound .b timerIndex
    simp only [hA, hB, Option.bind_eq_bind, Option.bind_some]
    exact ⟨_, _, rfl, hplayB⟩

theorem popAudioSample (h : apu.Playable) :
    ∃ sample next, apu.popAudioSample = some (sample, next) ∧ next.Playable := by
  obtain ⟨sample, buffer, hpop, hbuffer⟩ := h.audioBuffer.pop
  unfold Apu.popAudioSample
  rw [hpop]
  exact ⟨_, _, rfl, ⟨h.square, h.wave, h.noise, h.fifo, hbuffer⟩⟩

theorem tick (h : apu.Playable) (cpuCycles : U32) :
    ∃ step next, apu.tick cpuCycles = some (step, next) ∧ next.Playable := by
  unfold Apu.tick
  split
  · exact ⟨_, _, rfl, h⟩
  · have hcharged : ({ apu with
        frameCycleRemainder := apu.frameCycleRemainder + cpuCycles
        audioCycleRemainder := apu.audioCycleRemainder + cpuCycles } : Apu).Playable :=
      ⟨h.square, h.wave, h.noise, h.fifo, h.audioBuffer⟩
    obtain ⟨next, hnext, hplay⟩ := (hcharged.stepFrameSequencer none).generateAudioSamples
      (Apu.stepFrameSequencer _ none).1.audioCycleRemainder
    dsimp only
    rw [hnext]
    exact ⟨_, _, rfl, hplay⟩

end Apu.Playable

/-! ## Runs -/

/-- The operations of the unit that change it or mix its channels. -/
inductive ApuOperation where
  | writeSoundcntL (value : U16)
  | writeSoundcntH (value : U16)
  | writeSoundcntX (value : U16)
  | writeSoundbias (value : U16)
  | setWaveBankSelect (playingBank : Bool)
  | writeWaveRam (index : Fin 8) (value : U16)
  | writeFifo (channel : DirectSoundChannel) (value : U32)
  | configureSquareChannel (channel duty volume : U8) (periodSamples : U16)
  | configureWaveChannel (volumeShift : U8) (periodSamples : U16)
  | configureNoiseChannel (volume : U8) (periodSamples : U16) (narrowLfsr : Bool)
  | disablePsgChannel (channel : U8)
  | tick (cpuCycles : U32)
  | timerOverflow (timerIndex : U8)
  | mixSample
  | popAudioSample
  | clearAudioBuffer

/-- One operation; nothing where it divides by zero or leaves a table. -/
def ApuOperation.run (apu : Apu) : ApuOperation → Option Apu
  | writeSoundcntL value => some (apu.writeSoundcntL value)
  | writeSoundcntH value => some (apu.writeSoundcntH value)
  | writeSoundcntX value => some (apu.writeSoundcntX value)
  | writeSoundbias value => some (apu.writeSoundbias value)
  | setWaveBankSelect playingBank => some (apu.setWaveBankSelect playingBank)
  | writeWaveRam index value => some (apu.writeWaveRam index value)
  | writeFifo channel value => some (apu.writeFifo channel value)
  | configureSquareChannel channel duty volume periodSamples =>
      some (apu.configureSquareChannel channel duty volume periodSamples)
  | configureWaveChannel volumeShift periodSamples =>
      some (apu.configureWaveChannel volumeShift periodSamples)
  | configureNoiseChannel volume periodSamples narrowLfsr =>
      some (apu.configureNoiseChannel volume periodSamples narrowLfsr)
  | disablePsgChannel channel => some (apu.disablePsgChannel channel)
  | tick cpuCycles => (apu.tick cpuCycles).map Prod.snd
  | timerOverflow timerIndex => (apu.timerOverflow timerIndex).map Prod.snd
  | mixSample => apu.mixSample.map fun _ => apu
  | popAudioSample => apu.popAudioSample.map Prod.snd
  | clearAudioBuffer => some apu.clearAudioBuffer

/-- A sequence of operations. -/
def Apu.runOperations (apu : Apu) (operations : List ApuOperation) : Option Apu :=
  operations.foldlM ApuOperation.run apu

theorem ApuOperation.run_playable {apu : Apu} (h : apu.Playable) (operation : ApuOperation) :
    ∃ next, operation.run apu = some next ∧ next.Playable := by
  cases operation with
  | writeSoundcntL value => exact ⟨_, rfl, h.writeSoundcntL value⟩
  | writeSoundcntH value => exact ⟨_, rfl, h.writeSoundcntH value⟩
  | writeSoundcntX value => exact ⟨_, rfl, h.writeSoundcntX value⟩
  | writeSoundbias value => exact ⟨_, rfl, h.writeSoundbias value⟩
  | setWaveBankSelect playingBank => exact ⟨_, rfl, h.setWaveBankSelect playingBank⟩
  | writeWaveRam index value => exact ⟨_, rfl, h.writeWaveRam index value⟩
  | writeFifo channel value => exact ⟨_, rfl, h.writeFifo channel value⟩
  | configureSquareChannel channel duty volume periodSamples =>
      exact ⟨_, rfl, h.configureSquareChannel channel duty volume periodSamples⟩
  | configureWaveChannel volumeShift periodSamples =>
      exact ⟨_, rfl, h.configureWaveChannel volumeShift periodSamples⟩
  | configureNoiseChannel volume periodSamples narrowLfsr =>
      exact ⟨_, rfl, h.configureNoiseChannel volume periodSamples narrowLfsr⟩
  | disablePsgChannel channel => exact ⟨_, rfl, h.disablePsgChannel channel⟩
  | tick cpuCycles =>
      obtain ⟨step, next, htick, hplay⟩ := h.tick cpuCycles
      exact ⟨next, by rw [run, htick]; rfl, hplay⟩
  | timerOverflow timerIndex =>
      obtain ⟨result, next, hoverflow, hplay⟩ := h.timerOverflow timerIndex
      exact ⟨next, by rw [run, hoverflow]; rfl, hplay⟩
  | mixSample =>
      obtain ⟨sample, hmix⟩ := h.mixSample
      exact ⟨apu, by rw [run, hmix]; rfl, h⟩
  | popAudioSample =>
      obtain ⟨sample, next, hpop, hplay⟩ := h.popAudioSample
      exact ⟨next, by rw [run, hpop]; rfl, hplay⟩
  | clearAudioBuffer => exact ⟨_, rfl, h.clearAudioBuffer⟩

/-- From a playable state every sequence of operations is defined. -/
theorem Apu.Playable.runOperations {apu : Apu} (h : apu.Playable)
    (operations : List ApuOperation) :
    ∃ next, apu.runOperations operations = some next ∧ next.Playable := by
  induction operations generalizing apu with
  | nil => exact ⟨apu, rfl, h⟩
  | cons operation operations ih =>
      obtain ⟨next, hrun, hplay⟩ := operation.run_playable h
      obtain ⟨last, hlast, hplayLast⟩ := ih hplay
      refine ⟨last, ?_, hplayLast⟩
      rw [Apu.runOperations, List.foldlM_cons, hrun]
      exact hlast

end Gba.Core
