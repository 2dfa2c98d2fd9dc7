import Gba.Core.Words
import Gba.Library.RingBuffer
import Mathlib.Data.Fin.VecNotation

/-!
# The sound unit

`Apu` of `apu.cpp`: the sound registers, the two direct-sound FIFOs, the four programmable sound
generators, and the ring of mixed samples. Dividing by a period of zero, shifting by more than the
word and indexing outside a table are undefined in the source; the operations that could do so
return `none` there.
-/

namespace Gba.Core

/-- `DirectSoundChannel`. -/
inductive DirectSoundChannel where
  | a
  | b
  deriving DecidableEq, Repr

/-- `ApuFrameStep`. -/
@[ext]
structure ApuFrameStep where
  step : U8
  lengthClock : Bool
  sweepClock : Bool
  envelopeClock : Bool
  deriving DecidableEq, Repr

/-- `DirectSoundSample`. -/
@[ext]
structure DirectSoundSample where
  produced : Bool
  sample : U8
  refillRequest : Bool
  deriving DecidableEq, Repr

/-- `DirectSoundTimerResult`. -/
@[ext]
structure DirectSoundTimerResult where
  fifoA : DirectSoundSample
  fifoB : DirectSoundSample
  deriving DecidableEq, Repr

/-- `ApuMixedSample`: two signed 16-bit samples. -/
@[ext]
structure ApuMixedSample where
  left : U16
  right : U16
  deriving DecidableEq, Repr

/-- `SquareChannel`. -/
@[ext]
structure SquareChannel where
  enabled : Bool
  duty : U8
  volume : U8
  periodSamples : U16
  phase : U16
  deriving DecidableEq, Repr

/-- `WaveChannel`. -/
@[ext]
structure WaveChannel where
  enabled : Bool
  volumeShift : U8
  periodSamples : U16
  phase : U16
  deriving DecidableEq, Repr

/-- `NoiseChannel`. -/
@[ext]
structure NoiseChannel where
  enabled : Bool
  volume : U8
  periodSamples : U16
  phase : U16
  lfsr : U16
  narrowLfsr : Bool
  deriving DecidableEq, Repr

/-- `kFifoCapacity`. -/
abbrev kFifoCapacity : Nat := 32
/-- `kFifoRefillThreshold`. -/
def kFifoRefillThreshold : Nat := 16
/-- `kAudioBufferCapacity`. -/
abbrev kAudioBufferCapacity : Nat := 2048
/-- `kCpuCyclesPerAudioSample`. -/
def kCpuCyclesPerAudioSample : U32 := 512#32
/-- `kCpuCyclesPerFrameSequencerStep`. -/
def kCpuCyclesPerFrameSequencerStep : U32 := 32768#32
/-- `kFrameSequencerSteps`. -/
def kFrameSequencerSteps : U8 := 8#8
/-- `kMasterEnable`. -/
def kMasterEnable : U16 := 0x0080#16
/-- `kSoundCntLMask`. -/
def kSoundCntLMask : U16 := 0xFF77#16
/-- `kFifoAReset`. -/
def kFifoAReset : U16 := 0x0800#16
/-- `kFifoBReset`. -/
def kFifoBReset : U16 := 0x8000#16
/-- `kSoundCntHStoredMask`. -/
def kSoundCntHStoredMask : U16 := 0xFF0F#16 &&& ~~~kFifoAReset &&& ~~~kFifoBReset
/-- `kSoundBiasMask`. -/
def kSoundBiasMask : U16 := 0x43FF#16
/-- `kDirectSoundHalfScale`. -/
def kDirectSoundHalfScale : Int := 128
/-- `kPsgScale`. -/
def kPsgScale : Int := 128

/-- `kSquareDutyHighSamples`. -/
def kSquareDutyHighSamples : Fin 4 → U8
  | 0 => 1
  | 1 => 2
  | 2 => 4
  | 3 => 6

/-- The state of the sound unit, which is also its snapshot. -/
@[ext]
structure Apu where
  soundcntL : U16
  soundcntH : U16
  soundcntXStatus : U16
  soundbias : U16
  waveRamBanks : Fin 2 → Fin 8 → U16
  waveBankSelect : Bool
  fifos : DirectSoundChannel → RingBuffer U8 kFifoCapacity
  directSoundLatchedSamples : DirectSoundChannel → U8
  squareChannels : Fin 2 → SquareChannel
  waveChannel : WaveChannel
  noiseChannel : NoiseChannel
  audioBuffer : RingBuffer ApuMixedSample kAudioBufferCapacity
  frameStepCount : U64
  audioSampleCount : U64
  frameCycleRemainder : U32
  audioCycleRemainder : U32
  frameStep : U8
  lastMixedSample : ApuMixedSample

namespace Apu

/-- A channel that was never configured. -/
def idleSquare : SquareChannel := ⟨false, 0, 0, 1, 0⟩
/-- A wave channel that was never configured. -/
def idleWave : WaveChannel := ⟨false, 0, 1, 0⟩
/-- A noise channel that was never configured. -/
def idleNoise : NoiseChannel := ⟨false, 0, 1, 0, 0x7FFF, false⟩

/-- The unit after a reset. -/
def reset : Apu where
  soundcntL := 0
  soundcntH := 0
  soundcntXStatus := 0
  soundbias := 0x0200
  waveRamBanks := fun _ _ => 0
  waveBankSelect := false
  fifos := fun _ => .filled 0
  directSoundLatchedSamples := fun _ => 0
  squareChannels := fun _ => idleSquare
  waveChannel := idleWave
  noiseChannel := idleNoise
  audioBuffer := .filled ⟨0, 0⟩
  frameStepCount := 0
  audioSampleCount := 0
  frameCycleRemainder := 0
  audioCycleRemainder := 0
  frameStep := 0
  lastMixedSample := ⟨0, 0⟩

/-- `master_enabled`. -/
def masterEnabled (apu : Apu) : Bool := anySet apu.soundcntXStatus kMasterEnable

/-- `clear_fifo`. -/
def clearFifo (apu : Apu) (channel : DirectSoundChannel) : Apu :=
  { apu with fifos := Function.update apu.fifos channel (.filled 0) }

/-- `clear_audio_buffer`. -/
def clearAudioBuffer (apu : Apu) : Apu := { apu with audioBuffer := .filled ⟨0, 0⟩ }

/-- `clear_sound_circuit`: everything except the wave RAM and SOUNDBIAS. -/
def clearSoundCircuit (apu : Apu) : Apu :=
  { reset with soundbias := apu.soundbias, waveRamBanks := apu.waveRamBanks }

/-- `write_soundcnt_l`. -/
def writeSoundcntL (apu : Apu) (value : U16) : Apu :=
  if !apu.masterEnabled then apu else { apu with soundcntL := value &&& kSoundCntLMask }

/-- `write_soundcnt_h`. -/
def writeSoundcntH (apu : Apu) (value : U16) : Apu :=
  if !apu.masterEnabled then apu
  else
    let apu := if anySet value kFifoAReset then apu.clearFifo .a else apu
    let apu := if anySet value kFifoBReset then apu.clearFifo .b else apu
    { apu with soundcntH := value &&& kSoundCntHStoredMask }

/-- `write_soundcnt_x`. -/
def writeSoundcntX (apu : Apu) (value : U16) : Apu :=
  if !anySet value kMasterEnable then apu.clearSoundCircuit
  else { apu with soundcntXStatus := apu.soundcntXStatus ||| kMasterEnable }

/-- `write_soundbias`. -/
def writeSoundbias (apu : Apu) (value : U16) : Apu :=
  if !apu.masterEnabled then apu else { apu with soundbias := value &&& kSoundBiasMask }

/-- The wave bank that the processor accesses, which is the one not playing. -/
def accessedBank (apu : Apu) : Fin 2 := if apu.waveBankSelect then 0 else 1

/-- `write_wave_ram`. -/
def writeWaveRam (apu : Apu) (index : Fin 8) (value : U16) : Apu :=
  { apu with
    waveRamBanks := Function.update apu.waveRamBanks apu.accessedBank
      (Function.update (apu.waveRamBanks apu.accessedBank) index value) }

/-- `wave_ram`. -/
def waveRam (apu : Apu) (index : Fin 8) : U16 := apu.waveRamBanks apu.accessedBank index

/-- `set_wave_bank_select`. -/
def setWaveBankSelect (apu : Apu) (playingBank : Bool) : Apu :=
  { apu with waveBankSelect := playingBank }

/-- `push_fifo`. -/
def pushFifo (apu : Apu) (channel : DirectSoundChannel) (sample : U8) : Apu :=
  { apu with fifos := Function.update apu.fifos channel ((apu.fifos channel).push sample) }

/-- `write_fifo`: the four bytes of a word, the lowest first. -/
def writeFifo (apu : Apu) (channel : DirectSoundChannel) (value : U32) : Apu :=
  (List.range 4).foldl
    (fun apu byte => apu.pushFifo channel ((value >>> (byte * 8)).setWidth 8)) apu

/-- `configure_square_channel`. -/
def configureSquareChannel (apu : Apu) (channel duty volume : U8) (periodSamples : U16) : Apu :=
  if h : !apu.masterEnabled ∨ 2 ≤ channel.toNat then apu
  else
    have hchannel : channel.toNat < 2 := by
      rw [not_or] at h
      exact Nat.lt_of_not_le h.2
    { apu with
      squareChannels := Function.update apu.squareChannels ⟨channel.toNat, hchannel⟩
        { enabled := true
          duty := duty &&& 0x3#8
          volume := if volume < 15 then volume else 15
          periodSamples := if periodSamples < 1 then 1 else periodSamples
          phase := 0 } }

/-- `configure_wave_channel`. -/
def configureWaveChannel (apu : Apu) (volumeShift : U8) (periodSamples : U16) : Apu :=
  if !apu.masterEnabled then apu
  else
    { apu with
      waveChannel :=
        { enabled := true
          volumeShift := if volumeShift < 4 then volumeShift else 4
          periodSamples := if periodSamples < 1 then 1 else periodSamples
          phase := 0 } }

/-- `configure_noise_channel`. -/
def configureNoiseChannel (apu : Apu) (volume : U8) (periodSamples : U16) (narrowLfsr : Bool) :
    Apu :=
  if !apu.masterEnabled then apu
  else
    { apu with
      noiseChannel :=
        { enabled := true
          volume := if volume < 15 then volume else 15
          periodSamples := if periodSamples < 1 then 1 else periodSamples
          phase := 0
          lfsr := 0x7FFF
          narrowLfsr := narrowLfsr } }

/-- `disable_psg_channel`. -/
def disablePsgChannel (apu : Apu) (channel : U8) : Apu :=
  if h : channel.toNat < 2 then
    let square := apu.squareChannels ⟨channel.toNat, h⟩
    { apu with
      squareChannels := Function.update apu.squareChannels ⟨channel.toNat, h⟩
        { square with enabled := false } }
  else if channel = 2 then { apu with waveChannel := { apu.waveChannel with enabled := false } }
  else if channel = 3 then { apu with noiseChannel := { apu.noiseChannel with enabled := false } }
  else apu

/-- `soundcnt_x`: the readback adds the state of the four channels. -/
def soundcntX (apu : Apu) : U16 :=
  apu.soundcntXStatus |||
    (if (apu.squareChannels 0).enabled then 0x0001#16 else 0) |||
    (if (apu.squareChannels 1).enabled then 0x0002#16 else 0) |||
    (if apu.waveChannel.enabled then 0x0004#16 else 0) |||
    (if apu.noiseChannel.enabled then 0x0008#16 else 0)

/-- `fifo_refill_needed`. -/
def fifoRefillNeeded (apu : Apu) (channel : DirectSoundChannel) : Bool :=
  (apu.fifos channel).size ≤ kFifoRefillThreshold

/-- `direct_sound_enabled`. -/
def directSoundEnabled (apu : Apu) (channel : DirectSoundChannel) : Bool :=
  anySet apu.soundcntH (match channel with | .a => 0x0300#16 | .b => 0x3000#16)

/-- `direct_sound_uses_timer`. -/
def directSoundUsesTimer (apu : Apu) (channel : DirectSoundChannel) (timerIndex : U8) : Bool :=
  if !apu.directSoundEnabled channel then false
  else
    let selectedTimer : U8 :=
      match channel with
      | .a => (apu.soundcntH >>> 10 &&& 0x1#16).setWidth 8
      | .b => (apu.soundcntH >>> 14 &&& 0x1#16).setWidth 8
    timerIndex ≤ 1 && selectedTimer = timerIndex

/-- `pop_fifo`. -/
def popFifo (apu : Apu) (channel : DirectSoundChannel) : Option (DirectSoundSample × Apu) :=
  (apu.fifos channel).pop.map fun (sample, fifo) =>
    let popped := { apu with fifos := Function.update apu.fifos channel fifo }
    match sample with
    | none => (⟨false, 0, true⟩, popped)
    | some sample => (⟨true, sample, popped.fifoRefillNeeded channel⟩, popped)

/-- A timer overflow as seen by one direct-sound channel. -/
def latchDirectSound (apu : Apu) (channel : DirectSoundChannel) (timerIndex : U8) :
    Option (DirectSoundSample × Apu) :=
  if apu.directSoundUsesTimer channel timerIndex then
    (apu.popFifo channel).map fun (result, apu) =>
      (result,
        { apu with
          directSoundLatchedSamples := Function.update apu.directSoundLatchedSamples channel
            (if result.produced then result.sample else 0) })
  else some (⟨false, 0, false⟩, apu)

/-- `timer_overflow`. -/
def timerOverflow (apu : Apu) (timerIndex : U8) : Option (DirectSoundTimerResult × Apu) :=
  if !apu.masterEnabled then some (⟨⟨false, 0, false⟩, ⟨false, 0, false⟩⟩, apu)
  else do
    let (fifoA, apu) ← apu.latchDirectSound .a timerIndex
    let (fifoB, apu) ← apu.latchDirectSound .b timerIndex
    return (⟨fifoA, fifoB⟩, apu)

/-- `pop_audio_sample`. -/
def popAudioSample (apu : Apu) : Option (Option ApuMixedSample × Apu) :=
  apu.audioBuffer.pop.map fun (sample, buffer) => (sample, { apu with audioBuffer := buffer })

/-- The part of `psg_channel_outputs` that one square channel contributes. -/
def squareOutput (square : SquareChannel) : Option Int :=
  if !square.enabled ∨ square.volume = 0 then some 0
  else if square.periodSamples = 0 then none
  else
    let dutyStep : U8 := BitVec.ofNat 8 (square.phase.toNat * 8 / square.periodSamples.toNat)
    if h : square.duty.toNat < 4 then
      let high : Bool := dutyStep < kSquareDutyHighSamples ⟨square.duty.toNat, h⟩
      some ((if high then 1 else -1) * (square.volume.toNat : Int) * kPsgScale)
    else none

/-- The part of `psg_channel_outputs` that the wave channel contributes. -/
def waveOutput (apu : Apu) : Option Int :=
  let wave := apu.waveChannel
  if !wave.enabled ∨ wave.volumeShift = 0 then some 0
  else if wave.periodSamples = 0 then none
  else
    let sampleIndex : U8 := BitVec.ofNat 8 (wave.phase.toNat * 32 / wave.periodSamples.toNat)
    let playingBank := apu.waveRamBanks (if apu.waveBankSelect then 1 else 0)
    if h : sampleIndex.toNat / 4 < 8 then
      let packed := playingBank ⟨sampleIndex.toNat / 4, h⟩
      let nibbleShift := (3 - sampleIndex.toNat % 4) * 4
      let sample : Int := ((packed >>> nibbleShift &&& 0x0F#16).toNat : Int) - 8
      if wave.volumeShift.toNat - 1 < 32 then
        some ((sample * kPsgScale) >>> (wave.volumeShift.toNat - 1))
      else none
    else none

/-- The part of `psg_channel_outputs` that the noise channel contributes. -/
def noiseOutput (noise : NoiseChannel) : Int :=
  if !noise.enabled ∨ noise.volume = 0 then 0
  else (if noise.lfsr &&& 0x1#16 = 0 then 1 else -1) * (noise.volume.toNat : Int) * kPsgScale

/-- `psg_channel_outputs`. -/
def psgChannelOutputs (apu : Apu) : Option (Fin 4 → Int) := do
  let square0 ← squareOutput (apu.squareChannels 0)
  let square1 ← squareOutput (apu.squareChannels 1)
  let wave ← apu.waveOutput
  return ![square0, square1, wave, noiseOutput apu.noiseChannel]

/-- `clamp_mixed_sample`. -/
def clampMixedSample (value : Int) : U16 := BitVec.ofInt 16 (max (-32768) (min value 32767))

/-- One side of the mix: the sum of the generators routed to it, scaled by its master volume. -/
def mixPsg (outputs : Fin 4 → Int) (routing : U16) (shift : Nat) (volume : Int) : Int :=
  (List.finRange 4).foldl (fun sum index =>
    if anySet routing (1#16 <<< (index.val + shift)) then sum + outputs index * volume else sum) 0

/-- What one direct-sound channel adds to a side. -/
def mixDirect (apu : Apu) (channel : DirectSoundChannel) (fullVolume route : U16) : Int :=
  if apu.directSoundEnabled channel ∧ anySet apu.soundcntH route then
    (apu.directSoundLatchedSamples channel).toInt * kDirectSoundHalfScale *
      (if anySet apu.soundcntH fullVolume then 2 else 1)
  else 0

/-- `mix_sample`. -/
def mixSample (apu : Apu) : Option ApuMixedSample :=
  apu.psgChannelOutputs.map fun outputs =>
    let nr50 := apu.soundcntL &&& 0x00FF#16
    let nr51 := apu.soundcntL >>> 8 &&& 0x00FF#16
    let leftVolume : Int := (nr50 >>> 4 &&& 0x7#16).toNat + 1
    let rightVolume : Int := (nr50 &&& 0x7#16).toNat + 1
    { left := clampMixedSample (mixPsg outputs nr51 4 leftVolume +
        apu.mixDirect .a 0x0004#16 0x0200#16 + apu.mixDirect .b 0x0008#16 0x2000#16)
      right := clampMixedSample (mixPsg outputs nr51 0 rightVolume +
        apu.mixDirect .a 0x0004#16 0x0100#16 + apu.mixDirect .b 0x0008#16 0x1000#16) }

/-- The next phase of a generator; undefined for a period of zero. -/
def nextPhase (phase periodSamples : U16) : Option U16 :=
  if periodSamples = 0 then none
  else some (BitVec.ofNat 16 ((phase.toNat + 1) % periodSamples.toNat))

/-- The square channel's part of `advance_psg_generators`. -/
def advanceSquare (square : SquareChannel) : Option SquareChannel :=
  if !square.enabled then some square
  else (nextPhase square.phase square.periodSamples).map fun phase => { square with phase := phase }

/-- The wave channel's part of `advance_psg_generators`. -/
def advanceWave (wave : WaveChannel) : Option WaveChannel :=
  if !wave.enabled then some wave
  else (nextPhase wave.phase wave.periodSamples).map fun phase => { wave with phase := phase }

/-- The shift register of the noise channel, clocked once. -/
def clockLfsr (noise : NoiseChannel) : U16 :=
  let bit := (noise.lfsr ^^^ noise.lfsr >>> 1) &&& 0x1#16
  let lfsr := noise.lfsr >>> 1 ||| bit <<< 14
  if noise.narrowLfsr then lfsr &&& ~~~(1#16 <<< 6) ||| bit <<< 6 else lfsr

/-- The noise channel's part of `advance_psg_generators`. -/
def advanceNoise (noise : NoiseChannel) : Option NoiseChannel :=
  if !noise.enabled then some noise
  else (nextPhase noise.phase noise.periodSamples).map fun phase =>
    { noise with phase := phase, lfsr := if phase = 0 then clockLfsr noise else noise.lfsr }

/-- `advance_psg_generators`. -/
def advancePsgGenerators (apu : Apu) : Option Apu := do
  let square0 ← advanceSquare (apu.squareChannels 0)
  let square1 ← advanceSquare (apu.squareChannels 1)
  let wave ← advanceWave apu.waveChannel
  let noise ← advanceNoise apu.noiseChannel
  return { apu with
    squareChannels := ![square0, square1], waveChannel := wave, noiseChannel := noise }

/-- `push_audio_sample`. -/
def pushAudioSample (apu : Apu) (sample : ApuMixedSample) : Apu :=
  { apu with audioBuffer := apu.audioBuffer.push sample }

/-- `generate_audio_sample`. -/
def generateAudioSample (apu : Apu) : Option Apu := do
  let sample ← apu.mixSample
  let apu := { apu with lastMixedSample := sample }.pushAudioSample sample
  { apu with audioSampleCount := apu.audioSampleCount + 1 }.advancePsgGenerators

/-- The loop of `tick` that steps the frame sequencer. -/
def stepFrameSequencer (apu : Apu) (lastStep : Option ApuFrameStep) : Apu × Option ApuFrameStep :=
  if _ : kCpuCyclesPerFrameSequencerStep ≤ apu.frameCycleRemainder then
    let step := (apu.frameStep + 1) % kFrameSequencerSteps
    stepFrameSequencer
      { apu with
        frameCycleRemainder := apu.frameCycleRemainder - kCpuCyclesPerFrameSequencerStep
        frameStep := step
        frameStepCount := apu.frameStepCount + 1 }
      (some ⟨step, step = 0 || step = 2 || step = 4 || step = 6, step = 2 || step = 6, step = 7⟩)
  else (apu, lastStep)
  termination_by apu.frameCycleRemainder.toNat
  decreasing_by
    unfold kCpuCyclesPerFrameSequencerStep at *
    show (apu.frameCycleRemainder - 32768#32).toNat < apu.frameCycleRemainder.toNat
    bv_omega

/-- The loop of `tick` that generates audio samples; `remainder` is the cycle remainder, which
generating a sample does not touch. -/
def generateAudioSamples (remainder : U32) (apu : Apu) : Option Apu :=
  if _ : kCpuCyclesPerAudioSample ≤ remainder then
    (generateAudioSample
      { apu with audioCycleRemainder := remainder - kCpuCyclesPerAudioSample }).bind
      (generateAudioSamples (remainder - kCpuCyclesPerAudioSample))
  else some apu
  termination_by remainder.toNat
  decreasing_by
    unfold kCpuCyclesPerAudioSample at *
    bv_omega

/-- `tick`. -/
def tick (apu : Apu) (cpuCycles : U32) : Option (Option ApuFrameStep × Apu) :=
  if !apu.masterEnabled then some (none, apu)
  else
    let (apu, lastStep) := stepFrameSequencer
      { apu with
        frameCycleRemainder := apu.frameCycleRemainder + cpuCycles
        audioCycleRemainder := apu.audioCycleRemainder + cpuCycles } none
    (generateAudioSamples apu.audioCycleRemainder apu).map fun apu => (lastStep, apu)

/-- `load_state`; `none` when the snapshot is rejected. The snapshot carries every member. -/
def loadState (state : Apu) : Option Apu :=
  if (state.fifos .a).WellFormed ∧ (state.fifos .b).WellFormed ∧ state.audioBuffer.WellFormed then
    some state
  else none

end Apu

end Gba.Core
