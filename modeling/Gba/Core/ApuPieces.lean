import Gba.Core.ApuSafety

/-!
# Ticks of the sound unit in pieces

A tick of the sound unit is split into two, and the overflows of the sound timers are moved past a
tick. The unit has two halves that meet only in the values of the mixed samples: the direct-sound
channels, which the overflows move (`latched`), and the rest, which a tick moves. So everything but
those values (`withoutSamples`) does not depend on the order of overflows and ticks.
-/

namespace Gba

namespace RingBuffer

variable {α : Type*} {capacity : Nat}

/-- The buffer with its elements forgotten. -/
def blank (default : α) (r : RingBuffer α capacity) : RingBuffer α capacity :=
  { r with samples := fun _ => default }

/-- A push moves head and size alike whatever the elements are. -/
theorem push_blank [NeZero capacity] (default sample other : α) (r : RingBuffer α capacity) :
    ((r.blank default).push other).blank default = (r.push sample).blank default := by
  by_cases hfull : r.size = capacity
  · have hroom : r.makeRoom = { r with head := (r.head + 1) % capacity, size := r.size - 1 } :=
      if_pos hfull
    have hroomBlank : (r.blank default).makeRoom =
        { r.blank default with head := (r.head + 1) % capacity, size := r.size - 1 } :=
      if_pos hfull
    simp only [push, hroom, hroomBlank]
    rfl
  · have hroom : r.makeRoom = r := if_neg hfull
    have hroomBlank : (r.blank default).makeRoom = r.blank default := if_neg hfull
    simp only [push, hroom, hroomBlank]
    rfl

end RingBuffer

namespace Core

namespace Apu

/-- The unit with the values of its samples forgotten; how many there are and where they stand in
the ring stays. -/
def withoutSamples (apu : Apu) : Apu :=
  { apu with audioBuffer := apu.audioBuffer.blank ⟨0, 0⟩, lastMixedSample := ⟨0, 0⟩ }

/-! ## Overflows of the sound timers -/

/-- A direct-sound channel: its FIFO and its latch. -/
def channel (apu : Apu) (c : DirectSoundChannel) : RingBuffer U8 kFifoCapacity × U8 :=
  (apu.fifos c, apu.directSoundLatchedSamples c)

/-- Replace the direct-sound channels. -/
def withChannels (apu : Apu) (channels : DirectSoundChannel → RingBuffer U8 kFifoCapacity × U8) :
    Apu :=
  { apu with
    fifos := fun c => (channels c).1
    directSoundLatchedSamples := fun c => (channels c).2 }

/-- The channel whose latch takes the next sample of the FIFO; an empty FIFO yields silence. -/
def latchNext (c : RingBuffer U8 kFifoCapacity × U8) : RingBuffer U8 kFifoCapacity × U8 :=
  match c.1.pop with
  | none => c
  | some (sample, fifo) => (fifo, sample.getD 0)

/-- The timer clocks the channel. -/
def clocks (apu : Apu) (c : DirectSoundChannel) (timerIndex : U8) : Bool :=
  apu.masterEnabled && apu.directSoundUsesTimer c timerIndex

/-- How often the overflows of the two sound timers clock a channel. -/
def pops (apu : Apu) (timer0 timer1 : Nat) (c : DirectSoundChannel) : Nat :=
  (if apu.clocks c 0 then timer0 else 0) + if apu.clocks c 1 then timer1 else 0

/-- The unit after overflows of the two sound timers. -/
def latched (timer0 timer1 : Nat) (apu : Apu) : Apu :=
  apu.withChannels fun c => latchNext^[apu.pops timer0 timer1 c] (apu.channel c)

theorem withChannels_channel (apu : Apu) : apu.withChannels apu.channel = apu := rfl

@[simp] theorem channel_withChannels (apu : Apu)
    (channels : DirectSoundChannel → RingBuffer U8 kFifoCapacity × U8) :
    (apu.withChannels channels).channel = channels := rfl

@[simp] theorem directSoundUsesTimer_withChannels (apu : Apu)
    (channels : DirectSoundChannel → RingBuffer U8 kFifoCapacity × U8) (c : DirectSoundChannel)
    (timerIndex : U8) :
    (apu.withChannels channels).directSoundUsesTimer c timerIndex =
      apu.directSoundUsesTimer c timerIndex := rfl

/-- Overflows in two portions are the overflows together, in whatever order the timers' events of
the portions come. -/
theorem latched_latched (apu : Apu) (n m n' m' : Nat) :
    (apu.latched n m).latched n' m' = apu.latched (n + n') (m + m') := by
  have hpops : ∀ c, apu.pops (n + n') (m + m') c = apu.pops n' m' c + apu.pops n m c := by
    intro c
    unfold pops
    split <;> split <;> omega
  have hsame : ∀ c, (apu.latched n m).pops n' m' c = apu.pops n' m' c := fun _ => rfl
  unfold latched at *
  simp only [hsame, hpops, Function.iterate_add_apply]
  rfl

/-- Overflows that clock no channel change nothing. -/
theorem latched_of_pops_eq_zero {apu : Apu} {timer0 timer1 : Nat}
    (h : ∀ c, apu.pops timer0 timer1 c = 0) : apu.latched timer0 timer1 = apu := by
  unfold latched
  simp only [h, Function.iterate_zero, id_eq]
  exact withChannels_channel apu

theorem iterate_latched_timer0 (overflows : Nat) (apu : Apu) :
    (latched 1 0)^[overflows] apu = apu.latched overflows 0 := by
  induction overflows with
  | zero => exact (latched_of_pops_eq_zero fun c => by unfold pops; split <;> split <;> rfl).symm
  | succ overflows ih => rw [Function.iterate_succ_apply', ih, latched_latched]

theorem iterate_latched_timer1 (overflows : Nat) (apu : Apu) :
    (latched 0 1)^[overflows] apu = apu.latched 0 overflows := by
  induction overflows with
  | zero => exact (latched_of_pops_eq_zero fun c => by unfold pops; split <;> split <;> rfl).symm
  | succ overflows ih => rw [Function.iterate_succ_apply', ih, latched_latched]

/-- What one channel does at an overflow. -/
theorem latchDirectSound_eq {apu : Apu} {c : DirectSoundChannel} (h : (apu.fifos c).WellFormed)
    (timerIndex : U8) :
    ∃ sample, apu.latchDirectSound c timerIndex = some (sample,
      apu.withChannels fun d =>
        if d = c ∧ apu.directSoundUsesTimer d timerIndex then latchNext (apu.channel d)
        else apu.channel d) := by
  unfold latchDirectSound
  cases huses : apu.directSoundUsesTimer c timerIndex with
  | false =>
      have hnone : ∀ d, ¬(d = c ∧ apu.directSoundUsesTimer d timerIndex = true) := by
        rintro d ⟨rfl, hd⟩
        rw [huses] at hd
        exact Bool.false_ne_true hd
      simp only [hnone, Bool.false_eq_true, if_false]
      exact ⟨_, rfl⟩
  | true =>
      obtain ⟨sample, fifo, hpop, -⟩ := h.pop
      have hlatch : latchNext (apu.channel c) = (fifo, sample.getD 0) := by
        unfold latchNext channel
        rw [hpop]
      have hchannels : ∀ d, (if d = c ∧ apu.directSoundUsesTimer d timerIndex then
          latchNext (apu.channel d) else apu.channel d) =
            (Function.update apu.fifos c fifo d,
              Function.update apu.directSoundLatchedSamples c (sample.getD 0) d) := by
        intro d
        by_cases hd : d = c
        · subst hd
          rw [if_pos ⟨rfl, huses⟩, hlatch]
          simp
        · rw [if_neg fun hboth => hd hboth.1]
          simp [hd, channel]
      unfold popFifo
      simp only [hpop, if_true, hchannels]
      cases sample with
      | none => exact ⟨_, rfl⟩
      | some sample => exact ⟨_, rfl⟩

/-- An overflow clocks the channels of its timer. -/
theorem timerOverflow_eq {apu : Apu} (h : apu.Playable) (timerIndex : U8) :
    ∃ result, apu.timerOverflow timerIndex = some (result,
      apu.withChannels fun c =>
        if apu.clocks c timerIndex then latchNext (apu.channel c) else apu.channel c) := by
  unfold timerOverflow
  cases hmaster : apu.masterEnabled with
  | false =>
      simp only [clocks, hmaster, Bool.false_and, Bool.false_eq_true, if_false]
      exact ⟨_, rfl⟩
  | true =>
      obtain ⟨sampleA, hA⟩ := latchDirectSound_eq (h.fifo .a) timerIndex
      generalize hmid : (apu.withChannels fun d =>
        if d = .a ∧ apu.directSoundUsesTimer d timerIndex then latchNext (apu.channel d)
        else apu.channel d) = mid at hA
      have hfifo : (mid.fifos .b).WellFormed := by
        rw [← hmid]
        exact h.fifo .b
      obtain ⟨sampleB, hB⟩ := latchDirectSound_eq hfifo timerIndex
      simp only [Bool.not_true, Bool.false_eq_true, if_false, hA, hB, Option.bind_eq_bind,
        Option.bind_some]
      refine ⟨_, congrArg (fun last => some (_, last)) ?_⟩
      rw [← hmid]
      refine congrArg apu.withChannels (funext fun c => ?_)
      simp only [clocks, hmaster, Bool.true_and]
      cases c with
      | a => simp
      | b => simp

theorem timerOverflow_timer0 {apu : Apu} (h : apu.Playable) :
    ∃ result, apu.timerOverflow 0 = some (result, apu.latched 1 0) := by
  obtain ⟨result, hoverflow⟩ := timerOverflow_eq h 0
  refine ⟨result, hoverflow.trans ?_⟩
  refine congrArg (fun channels => some (result, apu.withChannels channels)) (funext fun c => ?_)
  unfold pops
  cases apu.clocks c 0 <;> simp

theorem timerOverflow_timer1 {apu : Apu} (h : apu.Playable) :
    ∃ result, apu.timerOverflow 1 = some (result, apu.latched 0 1) := by
  obtain ⟨result, hoverflow⟩ := timerOverflow_eq h 1
  refine ⟨result, hoverflow.trans ?_⟩
  refine congrArg (fun channels => some (result, apu.withChannels channels)) (funext fun c => ?_)
  unfold pops
  cases apu.clocks c 1 <;> simp

theorem wellFormed_latchNext {c : RingBuffer U8 kFifoCapacity × U8} (h : c.1.WellFormed) :
    (latchNext c).1.WellFormed := by
  obtain ⟨sample, fifo, hpop, hwell⟩ := h.pop
  unfold latchNext
  rw [hpop]
  exact hwell

theorem Playable.latched {apu : Apu} (h : apu.Playable) (timer0 timer1 : Nat) :
    (apu.latched timer0 timer1).Playable := by
  have hkept : ∀ pops c, (latchNext^[pops] (apu.channel c)).1.WellFormed := by
    intro pops c
    induction pops with
    | zero => exact h.fifo c
    | succ pops ih =>
        rw [Function.iterate_succ_apply']
        exact wellFormed_latchNext ih
  exact ⟨h.square, h.wave, h.noise, fun c => hkept _ c, h.audioBuffer⟩

/-! ## Ticks -/

/-- Replace the counters that a tick charges its cycles to. -/
def withCounters (apu : Apu) (frameCycleRemainder audioCycleRemainder : U32) (frameStep : U8)
    (frameStepCount : U64) : Apu :=
  { apu with
    frameCycleRemainder := frameCycleRemainder
    audioCycleRemainder := audioCycleRemainder
    frameStep := frameStep
    frameStepCount := frameStepCount }

/-- Several audio samples. -/
def generateMany : Nat → Apu → Option Apu
  | 0, apu => some apu
  | samples + 1, apu => apu.generateAudioSample.bind (generateMany samples)

/-- The step that the frame sequencer takes. -/
def nextFrameStep (step : U8) : U8 := (step + 1) % kFrameSequencerSteps

/-- The counters after some cycles. -/
def charged (cycles : Nat) (apu : Apu) : Apu :=
  let frame := apu.frameCycleRemainder.toNat + cycles
  apu.withCounters (BitVec.ofNat 32 (frame % 32768))
    (BitVec.ofNat 32 ((apu.audioCycleRemainder.toNat + cycles) % 512))
    (nextFrameStep^[frame / 32768] apu.frameStep)
    (apu.frameStepCount + BitVec.ofNat 64 (frame / 32768))

/-- Generating a sample neither reads nor changes the counters. -/
theorem generateAudioSample_withCounters (apu : Apu) (frame audio : U32) (step : U8)
    (count : U64) : (apu.withCounters frame audio step count).generateAudioSample =
      apu.generateAudioSample.map fun next => next.withCounters frame audio step count := by
  have hmix : (apu.withCounters frame audio step count).mixSample = apu.mixSample := rfl
  unfold generateAudioSample
  rw [hmix]
  cases apu.mixSample with
  | none => rfl
  | some sample =>
      simp only [Option.bind_eq_bind, Option.bind_some]
      unfold advancePsgGenerators
      simp only [pushAudioSample, withCounters]
      cases advanceSquare (apu.squareChannels 0) with
      | none => rfl
      | some square0 =>
        cases advanceSquare (apu.squareChannels 1) with
        | none => rfl
        | some square1 =>
          cases advanceWave apu.waveChannel with
          | none => rfl
          | some wave =>
            cases advanceNoise apu.noiseChannel with
            | none => rfl
            | some noise => rfl

theorem generateMany_withCounters (samples : Nat) (apu : Apu) (frame audio : U32) (step : U8)
    (count : U64) : generateMany samples (apu.withCounters frame audio step count) =
      (generateMany samples apu).map fun next => next.withCounters frame audio step count := by
  induction samples generalizing apu with
  | zero => rfl
  | succ samples ih =>
      unfold generateMany
      rw [generateAudioSample_withCounters]
      cases apu.generateAudioSample with
      | none => rfl
      | some next => exact ih next

theorem generateMany_add (first second : Nat) (apu : Apu) :
    generateMany (first + second) apu = (generateMany first apu).bind (generateMany second) := by
  induction first generalizing apu with
  | zero => rw [Nat.zero_add]; rfl
  | succ first ih =>
      simp only [Nat.succ_add, generateMany]
      cases apu.generateAudioSample with
      | none => rfl
      | some next => exact ih next

/-- The frame sequencer takes a step for every full period of its remainder. -/
theorem stepFrameSequencer_fst (apu : Apu) (lastStep : Option ApuFrameStep) :
    (apu.stepFrameSequencer lastStep).1 =
      apu.withCounters (BitVec.ofNat 32 (apu.frameCycleRemainder.toNat % 32768))
        apu.audioCycleRemainder (nextFrameStep^[apu.frameCycleRemainder.toNat / 32768] apu.frameStep)
        (apu.frameStepCount + BitVec.ofNat 64 (apu.frameCycleRemainder.toNat / 32768)) := by
  induction apu, lastStep using stepFrameSequencer.induct with
  | case1 apu lastStep hle step ih =>
      rw [stepFrameSequencer, dif_pos hle]
      refine ih.trans ?_
      have hfull : 32768 ≤ apu.frameCycleRemainder.toNat := hle
      have hrest : (apu.frameCycleRemainder - kCpuCyclesPerFrameSequencerStep).toNat =
          apu.frameCycleRemainder.toNat - 32768 := BitVec.toNat_sub_of_le hle
      have hdiv : apu.frameCycleRemainder.toNat / 32768 =
          (apu.frameCycleRemainder.toNat - 32768) / 32768 + 1 := by omega
      have hmod : apu.frameCycleRemainder.toNat % 32768 =
          (apu.frameCycleRemainder.toNat - 32768) % 32768 := by omega
      simp only [withCounters, hrest]
      rw [hdiv, hmod, Function.iterate_succ_apply]
      refine Apu.ext_iff.mpr ?_
      simp only [true_and, and_true]
      refine ⟨?_, rfl⟩
      bv_omega
  | case2 apu lastStep hlt =>
      rw [stepFrameSequencer, dif_neg hlt]
      have hshort : apu.frameCycleRemainder.toNat < 32768 := Nat.lt_of_not_le hlt
      rw [Nat.div_eq_of_lt hshort, Nat.mod_eq_of_lt hshort]
      simp [withCounters]

/-- The loop of `tick` generates a sample for every full period of its remainder. -/
theorem generateAudioSamples_eq (remainder : U32) (apu : Apu) (frame : U32) (step : U8)
    (count : U64) :
    generateAudioSamples remainder (apu.withCounters frame remainder step count) =
      (generateMany (remainder.toNat / 512) apu).map fun next =>
        next.withCounters frame (BitVec.ofNat 32 (remainder.toNat % 512)) step count := by
  induction hlen : remainder.toNat using Nat.strong_induction_on generalizing remainder apu with
  | _ length ih =>
    subst hlen
    rw [generateAudioSamples]
    split
    · next hle =>
        have hfull : 512 ≤ remainder.toNat := hle
        have hrest : (remainder - kCpuCyclesPerAudioSample).toNat = remainder.toNat - 512 :=
          BitVec.toNat_sub_of_le hle
        have hdiv : remainder.toNat / 512 = (remainder.toNat - 512) / 512 + 1 := by omega
        have hmod : remainder.toNat % 512 = (remainder.toNat - 512) % 512 := by omega
        have hcharge : ({ apu.withCounters frame remainder step count with
            audioCycleRemainder := remainder - kCpuCyclesPerAudioSample } : Apu) =
            apu.withCounters frame (remainder - kCpuCyclesPerAudioSample) step count := rfl
        rw [hcharge, generateAudioSample_withCounters, hdiv, hmod]
        unfold generateMany
        cases apu.generateAudioSample with
        | none => rfl
        | some next =>
            have hnext := ih _ (by omega) (remainder - kCpuCyclesPerAudioSample) next rfl
            rw [hrest] at hnext
            exact hnext
    · next hlt =>
        have hshort : remainder.toNat < 512 := Nat.lt_of_not_le hlt
        rw [Nat.div_eq_of_lt hshort, Nat.mod_eq_of_lt hshort, BitVec.ofNat_toNat,
          BitVec.setWidth_eq]
        rfl

/-- The remainders have room for the cycles. -/
structure Room (apu : Apu) (cycles : Nat) : Prop where
  frame : apu.frameCycleRemainder.toNat + cycles < 2 ^ 32
  audio : apu.audioCycleRemainder.toNat + cycles < 2 ^ 32

/-- A tick of a unit that is switched on. -/
theorem tick_eq {apu : Apu} (hmaster : apu.masterEnabled = true) {cycles : U32}
    (hroom : apu.Room cycles.toNat) :
    (apu.tick cycles).map Prod.snd =
      generateMany ((apu.audioCycleRemainder.toNat + cycles.toNat) / 512)
        (apu.charged cycles.toNat) := by
  obtain ⟨hframe, haudio⟩ := hroom
  have hframeSum : (apu.frameCycleRemainder + cycles).toNat =
      apu.frameCycleRemainder.toNat + cycles.toNat := by bv_omega
  have haudioSum : (apu.audioCycleRemainder + cycles).toNat =
      apu.audioCycleRemainder.toNat + cycles.toNat := by bv_omega
  unfold tick
  rw [hmaster]
  simp only [Bool.not_true, Bool.false_eq_true, if_false, Option.map_map]
  have hstepped := stepFrameSequencer_fst { apu with
    frameCycleRemainder := apu.frameCycleRemainder + cycles
    audioCycleRemainder := apu.audioCycleRemainder + cycles } none
  simp only [hframeSum] at hstepped
  rw [hstepped]
  have hsamples := generateAudioSamples_eq (apu.audioCycleRemainder + cycles) apu
    (BitVec.ofNat 32 ((apu.frameCycleRemainder.toNat + cycles.toNat) % 32768))
    (nextFrameStep^[(apu.frameCycleRemainder.toNat + cycles.toNat) / 32768] apu.frameStep)
    (apu.frameStepCount +
      BitVec.ofNat 64 ((apu.frameCycleRemainder.toNat + cycles.toNat) / 32768))
  rw [haudioSum] at hsamples
  unfold charged
  rw [generateMany_withCounters]
  refine Eq.trans ?_ hsamples
  exact Option.map_id'

/-- What generating a sample changes. -/
theorem generateAudioSample_fields {apu next : Apu} (h : apu.generateAudioSample = some next) :
    ∃ squares wave noise buffer count last,
      next = { apu with
        squareChannels := squares
        waveChannel := wave
        noiseChannel := noise
        audioBuffer := buffer
        audioSampleCount := count
        lastMixedSample := last } := by
  unfold generateAudioSample at h
  obtain ⟨sample, -, h⟩ := Option.bind_eq_some_iff.mp h
  unfold advancePsgGenerators at h
  obtain ⟨square0, -, h⟩ := Option.bind_eq_some_iff.mp h
  obtain ⟨square1, -, h⟩ := Option.bind_eq_some_iff.mp h
  obtain ⟨wave, -, h⟩ := Option.bind_eq_some_iff.mp h
  obtain ⟨noise, -, h⟩ := Option.bind_eq_some_iff.mp h
  exact ⟨_, _, _, _, _, _, (Option.some.inj h).symm⟩

theorem generateMany_fields {samples : Nat} {apu next : Apu}
    (h : generateMany samples apu = some next) :
    ∃ squares wave noise buffer count last,
      next = { apu with
        squareChannels := squares
        waveChannel := wave
        noiseChannel := noise
        audioBuffer := buffer
        audioSampleCount := count
        lastMixedSample := last } := by
  induction samples generalizing apu with
  | zero => exact ⟨_, _, _, _, _, _, (Option.some.inj h).symm⟩
  | succ samples ih =>
      obtain ⟨mid, hmid, hrest⟩ := Option.bind_eq_some_iff.mp h
      obtain ⟨_, _, _, _, _, _, rfl⟩ := generateAudioSample_fields hmid
      obtain ⟨_, _, _, _, _, _, rfl⟩ := ih hrest
      exact ⟨_, _, _, _, _, _, rfl⟩

/-- Charging cycles in two portions is charging them at once. -/
theorem charged_charged (apu : Apu) {first second : Nat} (h : apu.Room (first + second)) :
    (apu.charged first).charged second = apu.charged (first + second) := by
  obtain ⟨hframe, haudio⟩ := h
  have hframeRest : (BitVec.ofNat 32 ((apu.frameCycleRemainder.toNat + first) % 32768)).toNat =
      (apu.frameCycleRemainder.toNat + first) % 32768 := by
    rw [BitVec.toNat_ofNat]
    omega
  have haudioRest : (BitVec.ofNat 32 ((apu.audioCycleRemainder.toNat + first) % 512)).toNat =
      (apu.audioCycleRemainder.toNat + first) % 512 := by
    rw [BitVec.toNat_ofNat]
    omega
  have hsteps : (apu.frameCycleRemainder.toNat + (first + second)) / 32768 =
      ((apu.frameCycleRemainder.toNat + first) % 32768 + second) / 32768 +
        (apu.frameCycleRemainder.toNat + first) / 32768 := by omega
  have hframeMod : (apu.frameCycleRemainder.toNat + (first + second)) % 32768 =
      ((apu.frameCycleRemainder.toNat + first) % 32768 + second) % 32768 := by omega
  have haudioMod : (apu.audioCycleRemainder.toNat + (first + second)) % 512 =
      ((apu.audioCycleRemainder.toNat + first) % 512 + second) % 512 := by omega
  unfold charged
  simp only [withCounters, hframeRest, haudioRest, hframeMod, haudioMod, hsteps,
    Function.iterate_add_apply]
  refine Apu.ext_iff.mpr ?_
  simp only [true_and, and_true]
  rw [BitVec.add_assoc, ← BitVec.ofNat_add, Nat.add_comm]

/-- Samples do not see how cycles are charged. -/
theorem generateMany_charged (samples cycles : Nat) (apu : Apu) :
    generateMany samples (apu.charged cycles) =
      (generateMany samples apu).map (charged cycles) := by
  unfold charged
  rw [generateMany_withCounters]
  cases hmany : generateMany samples apu with
  | none => rfl
  | some next =>
      obtain ⟨_, _, _, _, _, _, rfl⟩ := generateMany_fields hmany
      rfl

/-- A tick is two ticks. -/
theorem tick_add (apu : Apu) {first second : U32}
    (hsum : first.toNat + second.toNat < 2 ^ 32)
    (hroom : apu.Room (first.toNat + second.toNat)) :
    (apu.tick (first + second)).map Prod.snd =
      ((apu.tick first).map Prod.snd).bind fun mid => (mid.tick second).map Prod.snd := by
  cases hmaster : apu.masterEnabled with
  | false =>
      have hidle : ∀ cycles, apu.tick cycles = some (none, apu) := by
        intro cycles
        unfold tick
        rw [hmaster]
        rfl
      rw [hidle, hidle]
      show some apu = (apu.tick second).map Prod.snd
      rw [hidle]
      rfl
  | true =>
      have hadd : (first + second).toNat = first.toNat + second.toNat := by bv_omega
      have hfirst : apu.Room first.toNat := by
        obtain ⟨hframe, haudio⟩ := hroom
        exact ⟨by omega, by omega⟩
      rw [tick_eq hmaster (by rw [hadd]; exact hroom), tick_eq hmaster hfirst, hadd]
      have hcount : (apu.audioCycleRemainder.toNat + (first.toNat + second.toNat)) / 512 =
          (apu.audioCycleRemainder.toNat + first.toNat) / 512 +
            ((apu.audioCycleRemainder.toNat + first.toNat) % 512 + second.toNat) / 512 := by omega
      rw [hcount, generateMany_add, ← charged_charged apu hroom, generateMany_charged]
      -- the first tick leaves remainders that have room for the second
      cases hmany : generateMany ((apu.audioCycleRemainder.toNat + first.toNat) / 512)
          (apu.charged first.toNat) with
      | none => rfl
      | some mid =>
          obtain ⟨_, _, _, _, _, _, hmid⟩ := generateMany_fields hmany
          have hmasterMid : mid.masterEnabled = true := by
            rw [hmid]
            exact hmaster
          have hcounters : mid.frameCycleRemainder.toNat =
              (apu.frameCycleRemainder.toNat + first.toNat) % 32768 ∧
                mid.audioCycleRemainder.toNat =
                  (apu.audioCycleRemainder.toNat + first.toNat) % 512 := by
            rw [hmid]
            simp only [charged, withCounters, BitVec.toNat_ofNat]
            omega
          have hroomMid : mid.Room second.toNat := by
            have hframe := hroom.frame
            have haudio := hroom.audio
            refine ⟨?_, ?_⟩
            · rw [hcounters.1]
              omega
            · rw [hcounters.2]
              omega
          show generateMany _ (mid.charged second.toNat) = (mid.tick second).map Prod.snd
          rw [tick_eq hmasterMid hroomMid, hcounters.2]

/-! ## The two halves of the unit -/

/-- The unit without its direct-sound channels and without the values of its samples. -/
def generators (apu : Apu) : Apu :=
  apu.withoutSamples.withChannels fun _ => (.filled 0, 0)

theorem withoutSamples_ext {apu other : Apu} (hgenerators : apu.generators = other.generators)
    (hchannel : apu.channel = other.channel) : apu.withoutSamples = other.withoutSamples := by
  have hjoin : ∀ unit : Apu, unit.withoutSamples = unit.generators.withChannels unit.channel :=
    fun _ => rfl
  rw [hjoin, hjoin, hgenerators, hchannel]

theorem generators_of_withoutSamples {apu other : Apu}
    (h : apu.withoutSamples = other.withoutSamples) : apu.generators = other.generators :=
  congrArg (fun unit : Apu => unit.withChannels fun _ => (.filled 0, 0)) h

theorem channel_of_withoutSamples {apu other : Apu}
    (h : apu.withoutSamples = other.withoutSamples) : apu.channel = other.channel := by
  have hkept : ∀ unit : Apu, unit.channel = unit.withoutSamples.channel := fun _ => rfl
  rw [hkept apu, hkept other, h]

/-- Overflows reach the direct-sound channels only. -/
theorem generators_latched (apu : Apu) (timer0 timer1 : Nat) :
    (apu.latched timer0 timer1).generators = apu.generators := rfl

/-- The generators after a sample. -/
def nextGenerators (apu : Apu) :
    Option (SquareChannel × SquareChannel × WaveChannel × NoiseChannel) := do
  let square0 ← advanceSquare (apu.squareChannels 0)
  let square1 ← advanceSquare (apu.squareChannels 1)
  let wave ← advanceWave apu.waveChannel
  let noise ← advanceNoise apu.noiseChannel
  return (square0, square1, wave, noise)

/-- The unit after a sample. -/
def sampled (apu : Apu) (sample : ApuMixedSample)
    (next : SquareChannel × SquareChannel × WaveChannel × NoiseChannel) : Apu :=
  { apu with
    squareChannels := ![next.1, next.2.1]
    waveChannel := next.2.2.1
    noiseChannel := next.2.2.2
    audioBuffer := apu.audioBuffer.push sample
    audioSampleCount := apu.audioSampleCount + 1
    lastMixedSample := sample }

theorem generateAudioSample_eq (apu : Apu) :
    apu.generateAudioSample =
      apu.mixSample.bind fun sample => apu.nextGenerators.map (apu.sampled sample) := by
  unfold generateAudioSample advancePsgGenerators nextGenerators
  cases apu.mixSample with
  | none => rfl
  | some sample =>
      simp only [Option.bind_eq_bind, Option.bind_some, pushAudioSample]
      cases advanceSquare (apu.squareChannels 0) with
      | none => rfl
      | some square0 =>
        cases advanceSquare (apu.squareChannels 1) with
        | none => rfl
        | some square1 =>
          cases advanceWave apu.waveChannel with
          | none => rfl
          | some wave =>
            cases advanceNoise apu.noiseChannel with
            | none => rfl
            | some noise => rfl

/-- The value of a sample is all that it takes from the direct-sound channels. -/
theorem sampled_generators (apu : Apu) (sample other : ApuMixedSample)
    (next : SquareChannel × SquareChannel × WaveChannel × NoiseChannel) :
    (apu.generators.sampled other next).generators = (apu.sampled sample next).generators :=
  congrArg (fun buffer => { (apu.sampled sample next).generators with audioBuffer := buffer })
    (RingBuffer.push_blank ⟨0, 0⟩ sample other apu.audioBuffer)

/-- The generators take their samples alike whatever the direct-sound channels hold. -/
theorem generateAudioSample_generators (apu : Apu) :
    apu.generators.generateAudioSample.map generators =
      apu.generateAudioSample.map generators := by
  have houtputs : apu.generators.psgChannelOutputs = apu.psgChannelOutputs := rfl
  have hnext : apu.generators.nextGenerators = apu.nextGenerators := rfl
  rw [generateAudioSample_eq, generateAudioSample_eq, hnext]
  unfold mixSample
  rw [houtputs]
  cases apu.psgChannelOutputs with
  | none => rfl
  | some outputs =>
      simp only [Option.map_some, Option.bind_some]
      cases apu.nextGenerators with
      | none => rfl
      | some next => exact congrArg some (sampled_generators apu _ _ next)

theorem generateMany_generators (samples : Nat) (apu : Apu) :
    (generateMany samples apu.generators).map generators =
      (generateMany samples apu).map generators := by
  induction samples generalizing apu with
  | zero => rfl
  | succ samples ih =>
      have hsample := generateAudioSample_generators apu
      unfold generateMany
      cases hnext : apu.generateAudioSample with
      | none =>
          rw [hnext] at hsample
          rw [Option.map_eq_none_iff.mp hsample]
      | some next =>
          rw [hnext] at hsample
          obtain ⟨other, hother, hsame⟩ := Option.map_eq_some_iff.mp hsample
          rw [hother, Option.bind_some, Option.bind_some, ← ih next, ← ih other, hsame]

/-- Two units with the same generators tick alike. -/
theorem tick_generators {apu other next otherNext : Apu} {cycles : U32}
    {step otherStep : Option ApuFrameStep} (hroom : apu.Room cycles.toNat)
    (hsame : apu.generators = other.generators) (h : apu.tick cycles = some (step, next))
    (hother : other.tick cycles = some (otherStep, otherNext)) :
    next.generators = otherNext.generators := by
  have hmaster : apu.generators.masterEnabled = other.generators.masterEnabled := by rw [hsame]
  have hframe : apu.generators.frameCycleRemainder = other.generators.frameCycleRemainder := by
    rw [hsame]
  have haudio : apu.generators.audioCycleRemainder = other.generators.audioCycleRemainder := by
    rw [hsame]
  change apu.masterEnabled = other.masterEnabled at hmaster
  change apu.frameCycleRemainder = other.frameCycleRemainder at hframe
  change apu.audioCycleRemainder = other.audioCycleRemainder at haudio
  cases hon : apu.masterEnabled with
  | false =>
      have hoff : other.masterEnabled = false := hmaster.symm.trans hon
      unfold tick at h hother
      rw [hon] at h
      rw [hoff] at hother
      obtain ⟨-, rfl⟩ := Prod.mk.inj (Option.some.inj h)
      obtain ⟨-, rfl⟩ := Prod.mk.inj (Option.some.inj hother)
      exact hsame
  | true =>
      have hroomOther : other.Room cycles.toNat :=
        ⟨hframe ▸ hroom.frame, haudio ▸ hroom.audio⟩
      have hnext := tick_eq hon hroom
      have hotherNext := tick_eq (hmaster.symm.trans hon) hroomOther
      rw [h, Option.map_some] at hnext
      rw [hother, Option.map_some, ← haudio] at hotherNext
      have hcharged : (apu.charged cycles.toNat).generators =
          (other.charged cycles.toNat).generators := by
        show apu.generators.charged cycles.toNat = other.generators.charged cycles.toNat
        rw [hsame]
      have hleft := generateMany_generators
        ((apu.audioCycleRemainder.toNat + cycles.toNat) / 512) (apu.charged cycles.toNat)
      have hright := generateMany_generators
        ((apu.audioCycleRemainder.toNat + cycles.toNat) / 512) (other.charged cycles.toNat)
      rw [← hnext] at hleft
      rw [← hotherNext, ← hcharged, hleft] at hright
      exact Option.some.inj hright

/-- A tick leaves the direct-sound channels and the registers alone. -/
theorem tick_fields {apu next : Apu} {cycles : U32} {step : Option ApuFrameStep}
    (hroom : apu.Room cycles.toNat) (h : apu.tick cycles = some (step, next)) :
    next.channel = apu.channel ∧
      (∀ timer0 timer1 c, next.pops timer0 timer1 c = apu.pops timer0 timer1 c) := by
  cases hon : apu.masterEnabled with
  | false =>
      unfold tick at h
      rw [hon] at h
      obtain ⟨-, rfl⟩ := Prod.mk.inj (Option.some.inj h)
      exact ⟨rfl, fun _ _ _ => rfl⟩
  | true =>
      have hnext := tick_eq hon hroom
      rw [h, Option.map_some] at hnext
      obtain ⟨_, _, _, _, _, _, rfl⟩ := generateMany_fields hnext.symm
      exact ⟨rfl, fun _ _ _ => rfl⟩

/-- What is left of the remainders after a tick has room for the cycles that follow. -/
theorem tick_room {apu next : Apu} {cycles : U32} {more : Nat} {step : Option ApuFrameStep}
    (hroom : apu.Room (cycles.toNat + more)) (h : apu.tick cycles = some (step, next)) :
    next.Room more := by
  obtain ⟨hframe, haudio⟩ := hroom
  cases hon : apu.masterEnabled with
  | false =>
      unfold tick at h
      rw [hon] at h
      obtain ⟨-, rfl⟩ := Prod.mk.inj (Option.some.inj h)
      exact ⟨by omega, by omega⟩
  | true =>
      have hroom : apu.Room cycles.toNat := ⟨by omega, by omega⟩
      have hnext := tick_eq hon hroom
      rw [h, Option.map_some] at hnext
      obtain ⟨_, _, _, _, _, _, rfl⟩ := generateMany_fields hnext.symm
      constructor
      · show (BitVec.ofNat 32 ((apu.frameCycleRemainder.toNat + cycles.toNat) % 32768)).toNat +
          more < 2 ^ 32
        rw [BitVec.toNat_ofNat]
        omega
      · show (BitVec.ofNat 32 ((apu.audioCycleRemainder.toNat + cycles.toNat) % 512)).toNat +
          more < 2 ^ 32
        rw [BitVec.toNat_ofNat]
        omega

theorem Room.mono {apu : Apu} {cycles more : Nat} (h : apu.Room cycles) (hle : more ≤ cycles) :
    apu.Room more := by
  obtain ⟨hframe, haudio⟩ := h
  exact ⟨by omega, by omega⟩

/-- A tick leaves remainders below one period, or as they were. -/
theorem tick_keeps_room {apu next : Apu} {cycles : U32} {more : Nat} {step : Option ApuFrameStep}
    (hroom : apu.Room cycles.toNat) (hmore : apu.Room more) (hfew : more < 2 ^ 31)
    (h : apu.tick cycles = some (step, next)) : next.Room more := by
  cases hon : apu.masterEnabled with
  | false =>
      unfold tick at h
      rw [hon] at h
      obtain ⟨-, rfl⟩ := Prod.mk.inj (Option.some.inj h)
      exact hmore
  | true =>
      have hnext := tick_eq hon hroom
      rw [h, Option.map_some] at hnext
      obtain ⟨_, _, _, _, _, _, rfl⟩ := generateMany_fields hnext.symm
      constructor
      · show (BitVec.ofNat 32 ((apu.frameCycleRemainder.toNat + cycles.toNat) % 32768)).toNat +
          more < 2 ^ 32
        rw [BitVec.toNat_ofNat]
        omega
      · show (BitVec.ofNat 32 ((apu.audioCycleRemainder.toNat + cycles.toNat) % 512)).toNat +
          more < 2 ^ 32
        rw [BitVec.toNat_ofNat]
        omega

/-- Units that differ in the values of their samples tick alike. -/
theorem tick_withoutSamples {apu other next otherNext : Apu} {cycles : U32}
    {step otherStep : Option ApuFrameStep} (hroom : apu.Room cycles.toNat)
    (hsame : apu.withoutSamples = other.withoutSamples) (h : apu.tick cycles = some (step, next))
    (hother : other.tick cycles = some (otherStep, otherNext)) :
    next.withoutSamples = otherNext.withoutSamples := by
  have hgenerators := generators_of_withoutSamples hsame
  have hroomOther : other.Room cycles.toNat := by
    have hcounters : apu.withoutSamples.Room cycles.toNat := ⟨hroom.frame, hroom.audio⟩
    rw [hsame] at hcounters
    exact ⟨hcounters.frame, hcounters.audio⟩
  refine withoutSamples_ext (tick_generators hroom hgenerators h hother) ?_
  rw [(tick_fields hroom h).1, (tick_fields hroomOther hother).1]
  exact channel_of_withoutSamples hsame

/-! ## Overflows and ticks -/

/-- Events of two intervals, each followed by its tick, leave what the events of both followed by
one tick leave, up to the values of the samples. When the events of the second interval clock no
channel, the samples agree too. -/
theorem latched_tick_split {apu mid whole last : Apu} {first second : U32} {n m n' m' : Nat}
    {step step' step'' : Option ApuFrameStep} (hsum : first.toNat + second.toNat < 2 ^ 32)
    (hroom : apu.Room (first.toNat + second.toNat))
    (hwhole : (apu.latched (n + n') (m + m')).tick (first + second) = some (step, whole))
    (hmid : (apu.latched n m).tick first = some (step', mid))
    (hlast : (mid.latched n' m').tick second = some (step'', last)) :
    whole.withoutSamples = last.withoutSamples ∧
      ((∀ c, mid.pops n' m' c = 0) → whole = last) := by
  have hroomAll : (apu.latched (n + n') (m + m')).Room (first.toNat + second.toNat) :=
    ⟨hroom.frame, hroom.audio⟩
  have hroomFirst : apu.Room first.toNat := by
    have hframe := hroom.frame
    have haudio := hroom.audio
    exact ⟨by omega, by omega⟩
  -- the tick of the whole interval, cut where the first interval ends
  have hcut := tick_add (apu.latched (n + n') (m + m')) hsum hroomAll
  rw [hwhole, Option.map_some] at hcut
  obtain ⟨cut, hfirst, hsecond⟩ := Option.bind_eq_some_iff.mp hcut.symm
  obtain ⟨⟨stepLate, late⟩, hlate, hlateEq⟩ := Option.map_eq_some_iff.mp hfirst
  obtain ⟨⟨stepWhole, whole'⟩, hrest, hwholeEq⟩ := Option.map_eq_some_iff.mp hsecond
  change late = cut at hlateEq
  change whole' = whole at hwholeEq
  subst hlateEq hwholeEq
  have hroomLate : late.Room second.toNat := tick_room hroomAll hlate
  have hroomN : (apu.latched n m).Room first.toNat := ⟨hroomFirst.frame, hroomFirst.audio⟩
  have hroomN' : (apu.latched (n + n') (m + m')).Room first.toNat :=
    ⟨hroomFirst.frame, hroomFirst.audio⟩
  obtain ⟨hchannel, hpops⟩ := tick_fields hroomN hmid
  have hmeet : late.withoutSamples = (mid.latched n' m').withoutSamples := by
    refine withoutSamples_ext ?_ ?_
    · rw [generators_latched]
      refine tick_generators hroomN' ?_ hlate hmid
      rw [generators_latched, generators_latched]
    · rw [(tick_fields hroomN' hlate).1, ← latched_latched]
      unfold latched at hchannel hpops ⊢
      simp only [channel_withChannels, hpops, hchannel]
  refine ⟨tick_withoutSamples hroomLate hmeet hrest hlast, fun hquiet => ?_⟩
  -- nothing is clocked in the second interval, so both runs tick the same unit
  have hnone : ∀ c, (apu.latched n m).pops n' m' c = 0 := fun c => (hpops n' m' c).symm.trans (hquiet c)
  rw [← latched_latched, latched_of_pops_eq_zero hnone, hmid] at hlate
  obtain ⟨-, rfl⟩ := Prod.mk.inj (Option.some.inj hlate)
  rw [latched_of_pops_eq_zero hquiet, hrest] at hlast
  exact (Prod.mk.inj (Option.some.inj hlast)).2

end Apu

end Core

end Gba
