import Gba.Core.ApuSafety
import Gba.Core.SaveStateRoundTrip

/-!
# The sound unit of a restored session

The parser checks the duty and the volume shift of the generators and the restore checks the
queues, but nothing checks the periods and phases. Whether a restored sound unit is playable is
therefore decided by the period and phase that the byte string stores for each running generator
(`decodeInto_playable_iff`).
-/

namespace Gba.Core

open Gba.Library
open Gba.Library.Reader

/-! ## Where the generators stand in the byte string -/

/-- The end of the memory section that starts at `offset`: three blobs have their size in front. -/
def memoryEnd (bytes : List U8) (offset : Nat) : Nat :=
  let romAt := offset + (kEwramSize + kIwramSize + kPaletteSize + kVramSize + kOamSize)
  let saveAt := romAt + 4 + (u32At bytes romAt).toNat
  let debugAt := saveAt + 4 + (u32At bytes saveAt).toNat + 265
  debugAt + 4 + (u32At bytes debugAt).toNat

/-- The start of the sound section: header and processor are in front of the memory, interrupts,
timers, DMA and display behind it. -/
def apuSection (bytes : List U8) : Nat :=
  memoryEnd bytes (SaveStateCodec.kHeaderSize + 188) + 5 + 92 + 113 + 92

/-- A generator that the byte string stores as enabled has a period of at least one sample and a
phase below it. The phase stands behind the period. -/
def RunsAt (bytes : List U8) (enabledAt periodAt : Nat) : Prop :=
  u8At bytes enabledAt ≠ 0 →
    1 ≤ u16At bytes periodAt ∧ u16At bytes (periodAt + 2) < u16At bytes periodAt

instance (bytes : List U8) (enabledAt periodAt : Nat) : Decidable (RunsAt bytes enabledAt periodAt) :=
  inferInstanceAs (Decidable (_ → _))

/-- Every generator of a byte string is stored with a period and phase it can run with. -/
structure GeneratorsRun (bytes : List U8) : Prop where
  square : ∀ channel : Fin 2, RunsAt bytes (apuSection bytes + 123 + channel.val * 7)
    (apuSection bytes + 123 + channel.val * 7 + 3)
  wave : RunsAt bytes (apuSection bytes + 137) (apuSection bytes + 137 + 2)
  noise : RunsAt bytes (apuSection bytes + 143) (apuSection bytes + 143 + 2)

/-! ## The sections in front -/

theorem takes_cpuState : Takes parseCpuState 188 := by
  refine .first .readU64 (by decide) fun _ => .first (.readArray .readU32 16) (by decide) fun _ => ?_
  iterate 7 refine .first .readBool (by decide) fun _ => ?_
  refine .first .readU8 (by decide) fun _ => ?_
  iterate 2 refine .first (.readArray .readU32 5) (by decide) fun _ => ?_
  iterate 16 refine .first .readU32 (by decide) fun _ => ?_
  exact .last .readU32

theorem takes_interruptState : Takes parseInterruptState 5 := by
  iterate 2 refine .first .readU16 (by decide) fun _ => ?_
  exact .first .readBool (by decide) fun _ => .last (.check _)

theorem takes_timer : Takes parseTimer 21 := by
  iterate 3 refine .first .readU16 (by decide) fun _ => ?_
  refine .first .readU64 (by decide) fun _ => .first .readU32 (by decide) fun _ => ?_
  exact .first .readU16 (by decide) fun _ => .last .readBool

theorem takes_timersState : Takes parseTimersState 92 :=
  .first .readU64 (by decide) fun _ => .last (.readArray takes_timer 4)

theorem takes_dmaChannel : Takes parseDmaChannel 28 := by
  iterate 2 refine .first .readU32 (by decide) fun _ => ?_
  iterate 2 refine .first .readU16 (by decide) fun _ => ?_
  iterate 3 refine .first .readU32 (by decide) fun _ => ?_
  exact .last .readU32

theorem takes_dmaState : Takes parseDmaState 113 :=
  .first (.readArray takes_dmaChannel 4) (by decide) fun _ => .last .readBool

theorem takes_ppuState : Takes parsePpuState 92 := by
  iterate 3 refine .first .readU16 (by decide) fun _ => ?_
  exact .first (.readArray .readU16 0x2B) (by decide) fun _ => .last (.check _)

/-- The memory section ends behind its third blob. -/
theorem parseMemoryState_next {bytes : List U8} {offset next : Nat} {memory : MemoryBus.State}
    (h : parseMemoryState.run bytes offset = .value memory next) :
    next = memoryEnd bytes offset := by
  obtain ⟨ewram, afterEwram, hewram, h⟩ := run_bind_value h
  obtain ⟨iwram, afterIwram, hiwram, h⟩ := run_bind_value h
  obtain ⟨palette, afterPalette, hpalette, h⟩ := run_bind_value h
  obtain ⟨vram, afterVram, hvram, h⟩ := run_bind_value h
  obtain ⟨oam, afterOam, hoam, h⟩ := run_bind_value h
  obtain ⟨rom, afterRom, hrom, h⟩ := run_bind_value h
  obtain ⟨save, afterSave, hsave, h⟩ := run_bind_value h
  have hramEnd : afterOam =
      offset + (kEwramSize + kIwramSize + kPaletteSize + kVramSize + kOamSize) := by
    rw [(Takes.readFixed _).next_eq hoam, (Takes.readFixed _).next_eq hvram,
      (Takes.readFixed _).next_eq hpalette, (Takes.readFixed _).next_eq hiwram,
      (Takes.readFixed _).next_eq hewram]
    omega
  have hromEnd := readBlob_next hrom
  have hsaveEnd := readBlob_next hsave
  -- everything up to the debug output is of fixed size
  obtain ⟨saveTypeByte, afterType, htype, h⟩ := run_bind_value h
  obtain ⟨commandByte, afterCommand, hcommand, h⟩ := run_bind_value h
  obtain ⟨idMode, afterIdMode, hidMode, h⟩ := run_bind_value h
  obtain ⟨bank, afterBank, hbank, h⟩ := run_bind_value h
  obtain ⟨latch, afterLatch, hlatch, h⟩ := run_bind_value h
  obtain ⟨valid, afterValid, hvalid, h⟩ := run_bind_value h
  obtain ⟨debugString, afterString, hstring, h⟩ := run_bind_value h
  obtain ⟨saveType, afterOfType, hofType, h⟩ := run_bind_value h
  obtain ⟨command, afterOfCommand, hofCommand, h⟩ := run_bind_value h
  obtain ⟨checked, afterCheck, hcheck, h⟩ := run_bind_value h
  have hfixedEnd : afterCheck = afterSave + 265 := by
    rw [(check_value hcheck).2, (ofOption_value hofCommand).2, (ofOption_value hofType).2,
      (Takes.readFixed _).next_eq hstring, Takes.readBool.next_eq hvalid,
      Takes.readU32.next_eq hlatch, Takes.readU8.next_eq hbank, Takes.readBool.next_eq hidMode,
      Takes.readU8.next_eq hcommand, Takes.readU8.next_eq htype]
  obtain ⟨debug, afterDebug, hdebug, h⟩ := run_bind_value h
  obtain ⟨-, rfl⟩ := run_pure_value h
  rw [readBlob_next hdebug, hfixedEnd, hsaveEnd, hromEnd, hramEnd]
  rfl

/-! ## The sound section -/

/-- What the parser of a square channel read. -/
theorem parseSquareChannel_value {bytes : List U8} {offset next : Nat} {square : SquareChannel}
    (h : parseSquareChannel.run bytes offset = .value square next) :
    square.duty.toNat < 4 ∧
      (Running square.enabled square.periodSamples square.phase ↔
        RunsAt bytes offset (offset + 3)) := by
  obtain ⟨enabled, _, henabled, h⟩ := run_bind_value h
  obtain ⟨duty, _, hduty, h⟩ := run_bind_value h
  obtain ⟨volume, _, hvolume, h⟩ := run_bind_value h
  obtain ⟨period, _, hperiod, h⟩ := run_bind_value h
  obtain ⟨phase, _, hphase, h⟩ := run_bind_value h
  obtain ⟨checked, _, hcheck, h⟩ := run_bind_value h
  obtain ⟨rfl, -⟩ := run_pure_value h
  obtain ⟨henabledAt, rfl⟩ := readBool_value henabled
  obtain rfl := Takes.readU8.next_eq hduty
  obtain rfl := Takes.readU8.next_eq hvolume
  obtain ⟨rfl, rfl⟩ := readU16_value hperiod
  obtain ⟨rfl, -⟩ := readU16_value hphase
  have hdutyLe : duty ≤ 3#8 := of_decide_eq_true (check_value hcheck).1
  refine ⟨by bv_omega, ?_⟩
  exact imp_congr_left henabledAt

theorem takes_squareChannel : Takes parseSquareChannel 7 := by
  refine .first .readBool (by decide) fun _ => .first .readU8 (by decide) fun _ => ?_
  refine .first .readU8 (by decide) fun _ => .first .readU16 (by decide) fun _ => ?_
  exact .first .readU16 (by decide) fun _ => .last (.check _)

/-- What the parser of the wave channel read. -/
theorem parseWaveChannel_value {bytes : List U8} {offset next : Nat} {wave : WaveChannel}
    (h : parseWaveChannel.run bytes offset = .value wave next) :
    next = offset + 6 ∧ wave.volumeShift.toNat ≤ 4 ∧
      (Running wave.enabled wave.periodSamples wave.phase ↔
        RunsAt bytes offset (offset + 2)) := by
  obtain ⟨enabled, _, henabled, h⟩ := run_bind_value h
  obtain ⟨shift, _, hshift, h⟩ := run_bind_value h
  obtain ⟨period, _, hperiod, h⟩ := run_bind_value h
  obtain ⟨phase, _, hphase, h⟩ := run_bind_value h
  obtain ⟨checked, _, hcheck, h⟩ := run_bind_value h
  obtain ⟨rfl, rfl⟩ := run_pure_value h
  obtain ⟨henabledAt, rfl⟩ := readBool_value henabled
  obtain rfl := Takes.readU8.next_eq hshift
  obtain ⟨rfl, rfl⟩ := readU16_value hperiod
  obtain ⟨rfl, rfl⟩ := readU16_value hphase
  obtain ⟨hchecked, rfl⟩ := check_value hcheck
  have hshiftLe : shift ≤ 4#8 := of_decide_eq_true hchecked
  refine ⟨rfl, by bv_omega, ?_⟩
  exact imp_congr_left henabledAt

/-- What the parser of the noise channel read. -/
theorem parseNoiseChannel_value {bytes : List U8} {offset next : Nat} {noise : NoiseChannel}
    (h : parseNoiseChannel.run bytes offset = .value noise next) :
    noise.Playable ↔ RunsAt bytes offset (offset + 2) := by
  obtain ⟨enabled, _, henabled, h⟩ := run_bind_value h
  obtain ⟨volume, _, hvolume, h⟩ := run_bind_value h
  obtain ⟨period, _, hperiod, h⟩ := run_bind_value h
  obtain ⟨phase, _, hphase, h⟩ := run_bind_value h
  obtain ⟨lfsr, _, hlfsr, h⟩ := run_bind_value h
  obtain ⟨narrow, _, hnarrow, h⟩ := run_bind_value h
  obtain ⟨rfl, -⟩ := run_pure_value h
  obtain ⟨henabledAt, rfl⟩ := readBool_value henabled
  obtain rfl := Takes.readU8.next_eq hvolume
  obtain ⟨rfl, rfl⟩ := readU16_value hperiod
  obtain ⟨rfl, -⟩ := readU16_value hphase
  exact imp_congr_left henabledAt

theorem takes_fifoState : Takes parseFifoState 40 := by
  refine .first (.readArray .readU8 32) (by decide) fun _ => ?_
  exact .first .readU32 (by decide) fun _ => .last .readU32

/-- What the parser of the sound section read of its generators. -/
structure GeneratorsRead (bytes : List U8) (offset : Nat) (apu : Apu) : Prop where
  duty : ∀ channel, (apu.squareChannels channel).duty.toNat < 4
  volumeShift : apu.waveChannel.volumeShift.toNat ≤ 4
  square : ∀ channel, Running (apu.squareChannels channel).enabled
      (apu.squareChannels channel).periodSamples (apu.squareChannels channel).phase ↔
    RunsAt bytes (offset + 123 + channel.val * 7) (offset + 123 + channel.val * 7 + 3)
  wave : Running apu.waveChannel.enabled apu.waveChannel.periodSamples apu.waveChannel.phase ↔
    RunsAt bytes (offset + 137) (offset + 137 + 2)
  noise : apu.noiseChannel.Playable ↔ RunsAt bytes (offset + 143) (offset + 143 + 2)

theorem parseApuState_generators {bytes : List U8} {offset next : Nat} {apu : Apu}
    (h : parseApuState.run bytes offset = .value apu next) : GeneratorsRead bytes offset apu := by
  -- the control registers, the wave memory, the queues and the latched samples
  obtain ⟨soundcntL, _, hcntL, h⟩ := run_bind_value h
  obtain ⟨soundcntH, _, hcntH, h⟩ := run_bind_value h
  obtain ⟨soundcntX, _, hcntX, h⟩ := run_bind_value h
  obtain ⟨soundbias, _, hbias, h⟩ := run_bind_value h
  obtain ⟨banks, _, hbanks, h⟩ := run_bind_value h
  obtain ⟨bankSelect, _, hselect, h⟩ := run_bind_value h
  obtain ⟨fifoA, _, hfifoA, h⟩ := run_bind_value h
  obtain ⟨fifoB, _, hfifoB, h⟩ := run_bind_value h
  obtain ⟨latchedA, _, hlatchedA, h⟩ := run_bind_value h
  obtain ⟨latchedB, beforeSquares, hlatchedB, h⟩ := run_bind_value h
  have hstart : beforeSquares = offset + 123 := by
    rw [Takes.readU8.next_eq hlatchedB, Takes.readU8.next_eq hlatchedA,
      takes_fifoState.next_eq hfifoB, takes_fifoState.next_eq hfifoA,
      Takes.readBool.next_eq hselect, (Takes.readArray (.readArray .readU16 8) 2).next_eq hbanks,
      Takes.readU16.next_eq hbias, Takes.readU16.next_eq hcntX, Takes.readU16.next_eq hcntH,
      Takes.readU16.next_eq hcntL]
  -- the generators
  obtain ⟨squares, beforeWave, hsquares, h⟩ := run_bind_value h
  obtain ⟨wave, beforeNoise, hwave, h⟩ := run_bind_value h
  obtain ⟨noise, afterNoise, hnoise, h⟩ := run_bind_value h
  have hsquaresEnd := (Takes.readArray takes_squareChannel 2).next_eq hsquares
  have hwaveAt : beforeWave = offset + 137 := by omega
  rw [hwaveAt] at hwave
  obtain ⟨hwaveEnd, hshift, hwaveRuns⟩ := parseWaveChannel_value hwave
  rw [hwaveEnd] at hnoise
  have hnoiseRuns := parseNoiseChannel_value hnoise
  have hsquare := fun channel =>
    parseSquareChannel_value (readArray_value takes_squareChannel hsquares channel)
  rw [hstart] at hsquare
  -- the rest of the section does not touch them
  obtain ⟨samples, _, -, h⟩ := run_bind_value h
  obtain ⟨bufferHead, _, -, h⟩ := run_bind_value h
  obtain ⟨bufferSize, _, -, h⟩ := run_bind_value h
  obtain ⟨frameStepCount, _, -, h⟩ := run_bind_value h
  obtain ⟨audioSampleCount, _, -, h⟩ := run_bind_value h
  obtain ⟨frameCycles, _, -, h⟩ := run_bind_value h
  obtain ⟨audioCycles, _, -, h⟩ := run_bind_value h
  obtain ⟨frameStep, _, -, h⟩ := run_bind_value h
  obtain ⟨lastMixed, _, -, h⟩ := run_bind_value h
  obtain ⟨checked, _, -, h⟩ := run_bind_value h
  obtain ⟨rfl, -⟩ := run_pure_value h
  exact ⟨fun channel => (hsquare channel).1, hshift, fun channel => (hsquare channel).2, hwaveRuns,
    hnoiseRuns⟩

/-- The sections in front of the sound section end where it starts. -/
theorem parseSnapshot_generators {bytes : List U8} {version : U32} {next : Nat}
    {snapshot : SnapshotState}
    (h : (parseSnapshot version).run bytes SaveStateCodec.kHeaderSize = .value snapshot next) :
    GeneratorsRead bytes (apuSection bytes) snapshot.apu := by
  obtain ⟨sections, _, h, hatEnd⟩ := run_bind_value h
  obtain ⟨-, _, -, hsections⟩ := run_bind_value hatEnd
  obtain ⟨rfl, -⟩ := run_pure_value hsections
  obtain ⟨cpu, _, hcpu, h⟩ := run_bind_value h
  obtain ⟨memory, _, hmemory, h⟩ := run_bind_value h
  obtain ⟨interrupts, _, hinterrupts, h⟩ := run_bind_value h
  obtain ⟨timers, _, htimers, h⟩ := run_bind_value h
  obtain ⟨dma, _, hdma, h⟩ := run_bind_value h
  obtain ⟨ppu, _, hppu, h⟩ := run_bind_value h
  obtain ⟨apu, _, hapu, h⟩ := run_bind_value h
  rw [takes_ppuState.next_eq hppu, takes_dmaState.next_eq hdma, takes_timersState.next_eq htimers,
    takes_interruptState.next_eq hinterrupts, parseMemoryState_next hmemory,
    takes_cpuState.next_eq hcpu] at hapu
  have hgenerators := parseApuState_generators hapu
  obtain ⟨pressedMask, _, -, h⟩ := run_bind_value h
  obtain ⟨keycnt, _, -, h⟩ := run_bind_value h
  obtain ⟨waitcnt, _, -, h⟩ := run_bind_value h
  obtain ⟨biosModeByte, _, -, h⟩ := run_bind_value h
  obtain ⟨biosMode, _, -, h⟩ := run_bind_value h
  obtain ⟨io, _, -, h⟩ := run_bind_value h
  obtain ⟨scheduler, _, -, h⟩ := run_bind_value h
  obtain ⟨rfl, -⟩ := run_pure_value h
  exact hgenerators

/-- With the queues in range, a unit that was parsed is playable exactly if its generators run. -/
theorem GeneratorsRead.playable_iff {bytes : List U8} {apu : Apu}
    (h : GeneratorsRead bytes (apuSection bytes) apu) (hfifo : ∀ channel, (apu.fifos channel).WellFormed)
    (hbuffer : apu.audioBuffer.WellFormed) : apu.Playable ↔ GeneratorsRun bytes := by
  constructor
  · intro hplay
    exact ⟨fun channel => (h.square channel).mp (hplay.square channel).running,
      h.wave.mp hplay.wave.running, h.noise.mp hplay.noise⟩
  · intro hruns
    exact ⟨fun channel => ⟨(h.square channel).mpr (hruns.square channel), h.duty channel⟩,
      ⟨h.wave.mpr hruns.wave, h.volumeShift⟩, h.noise.mpr hruns.noise, hfifo, hbuffer⟩

/-! ## Restored sessions -/

/-- The sound unit of a rebuilt machine is the one that was parsed, and its queues are in range. -/
theorem restoreMachine_apu {snapshot : SnapshotState} {next : CoreSessionState}
    (h : restoreMachine snapshot = some next) :
    next.system.devices.apu = snapshot.apu ∧ (∀ channel, (snapshot.apu.fifos channel).WellFormed) ∧
      snapshot.apu.audioBuffer.WellFormed := by
  unfold restoreMachine at h
  simp only [Option.bind_eq_bind, Option.bind_eq_some_iff] at h
  obtain ⟨cpu, -, memory, -, timers, -, dma, -, apu, hapu, keypad, -, hnext⟩ := h
  obtain rfl := Option.some.inj hnext
  unfold Apu.loadState at hapu
  split at hapu
  · next hrings =>
      obtain rfl := Option.some.inj hapu
      refine ⟨rfl, fun channel => ?_, hrings.2.2⟩
      cases channel with
      | a => exact hrings.1
      | b => exact hrings.2.1
  · cases hapu

namespace SaveStateCodec

/-- What an accepted byte string went through. -/
theorem decodeInto_accepted {session after : CoreSession} {bytes : List U8}
    {result : SaveStateDecodeResult} (h : decodeInto session bytes = some (result, after))
    (hok : result.status = .ok) :
    ∃ encodedHash afterMagic afterVersion afterHash last snapshot machine,
      Reader.readU32.run bytes 0 = .value kMagic afterMagic ∧
        Reader.readU32.run bytes afterMagic = .value result.version afterVersion ∧
        Reader.readU64.run bytes afterVersion = .value encodedHash afterHash ∧
        (parseSnapshot result.version).run bytes afterHash = .value snapshot last ∧
        restoreMachine snapshot = some machine ∧
        machine.snapshotStateHash (result.version < 5#32) = encodedHash ∧
        after = session.loadState machine := by
  -- every branch that refuses the string has another status
  unfold decodeInto at h
  split at h
  · cases h
    cases hok
  split at h
  · cases h
  · cases h
    cases hok
  next magic afterMagic hmagic =>
  split at h
  · cases h
    cases hok
  next hsame =>
  rw [not_not] at hsame
  subst hsame
  split at h
  · cases h
  · cases h
    cases hok
  next version afterVersion hversion =>
  split at h
  · cases h
    cases hok
  split at h
  · cases h
  · cases h
    cases hok
  next encodedHash afterHash hhash =>
  split at h
  · cases h
  · cases h
    cases hok
  next snapshot last hparse =>
  unfold commit at h
  cases hmachine : restoreMachine snapshot with
  | none =>
      rw [hmachine] at h
      cases h
      cases hok
  | some machine =>
      rw [hmachine] at h
      dsimp only at h
      split at h
      · cases h
        cases hok
      · next hstored =>
        cases h
        exact ⟨encodedHash, afterMagic, afterVersion, afterHash, last, snapshot, machine, hmagic,
          hversion, hhash, hparse, hmachine, not_not.mp hstored, rfl⟩

/-- A byte string that is accepted was parsed and rebuilt. -/
theorem decodeInto_ok {session after : CoreSession} {bytes : List U8}
    {result : SaveStateDecodeResult} (h : decodeInto session bytes = some (result, after))
    (hok : result.status = .ok) :
    ∃ version snapshot next machine,
      (parseSnapshot version).run bytes kHeaderSize = .value snapshot next ∧
      restoreMachine snapshot = some machine ∧ after = session.loadState machine := by
  obtain ⟨encodedHash, afterMagic, afterVersion, afterHash, last, snapshot, machine, hmagic,
    hversion, hhash, hparse, hmachine, -, rfl⟩ := decodeInto_accepted h hok
  have hheader : afterHash = kHeaderSize := by
    rw [Takes.readU64.next_eq hhash, Takes.readU32.next_eq hversion, Takes.readU32.next_eq hmagic]
    rfl
  rw [hheader] at hparse
  exact ⟨result.version, snapshot, last, machine, hparse, hmachine, rfl⟩

/-- For a byte string that is accepted, the restored sound unit can run through every sequence of
operations, with every generator in range, exactly if the string stores a period and a phase below
it for every generator that it stores as enabled. -/
theorem decodeInto_playable_iff {session after : CoreSession} {bytes : List U8}
    {result : SaveStateDecodeResult} (h : decodeInto session bytes = some (result, after))
    (hok : result.status = .ok) :
    (after.system.devices.apu.Playable ∧
        ∀ operations, (after.system.devices.apu.runOperations operations).isSome) ↔
      GeneratorsRun bytes := by
  obtain ⟨version, snapshot, next, machine, hparse, hmachine, rfl⟩ := decodeInto_ok h hok
  obtain ⟨hapu, hfifo, hbuffer⟩ := restoreMachine_apu hmachine
  have hrestored : (session.loadState machine).system.devices.apu = snapshot.apu := hapu
  rw [hrestored, ← (parseSnapshot_generators hparse).playable_iff hfifo hbuffer]
  refine ⟨And.left, fun hplay => ⟨hplay, fun operations => ?_⟩⟩
  obtain ⟨last, hrun, -⟩ := hplay.runOperations operations
  rw [hrun]
  rfl

/-! ## A save state of a fresh machine -/

/-- The sections of a machine after a reset, except for its sound unit. -/
def freshSnapshot (apu : Apu) : SnapshotState where
  cpu := .reset
  memory := .initial
  interrupts := .reset
  timers := Timers.reset.saveState
  dma := .reset
  ppu := .reset
  apu := apu
  pressedMask := 0
  keycnt := 0
  waitcnt := 0
  biosMode := .noBios
  io := .reset
  scheduler := .reset

/-- The machine that is rebuilt from them. -/
def freshMachine (apu : Apu) : CoreSessionState where
  cpu := .reset
  system := ⟨.initial, { Devices.reset with apu := apu }⟩
  bios := .reset
  scheduler := .reset

/-- A session with the machine of a reset. -/
def freshSession : CoreSession where
  cpu := .reset
  system := ⟨.initial, .reset⟩
  bios := .reset
  scheduler := .reset
  stateGeneration := 0

/-- The save state of a fresh machine with some sound unit. -/
def freshSaveState (apu : Apu) : List U8 :=
  writeHeader ((freshMachine apu).snapshotStateHash false) ++ writeSnapshot (freshSnapshot apu)

theorem freshSnapshot_parsable {apu : Apu} (hduty : ∀ channel, (apu.squareChannels channel).duty ≤ 3)
    (hshift : apu.waveChannel.volumeShift ≤ 4) (hstep : apu.frameStep < kFrameSequencerSteps)
    (hfifo : ∀ channel, (apu.fifos channel).WellFormed) (hbuffer : apu.audioBuffer.WellFormed) :
    (freshSnapshot apu).Parsable where
  rom := Nat.zero_le _
  save := Nat.zero_le _
  bank := BitVec.le_of_lt (by decide : (0 : U8) < 1)
  debug := Nat.two_pow_pos 32
  interrupts := ⟨BitVec.zero_and, BitVec.zero_and⟩
  line := (by decide : (0 : U16) < kTotalLines)
  lineCycle := (by decide : (0 : U16) < kCyclesPerLine)
  duty := hduty
  volumeShift := hshift
  frameStep := hstep
  fifo := hfifo
  audioBuffer := hbuffer
  frames := ⟨fun h => absurd rfl h, trivial, Nat.two_pow_pos 32, Nat.two_pow_pos 32⟩

theorem restoreMachine_fresh {apu : Apu} (hfifo : ∀ channel, (apu.fifos channel).WellFormed)
    (hbuffer : apu.audioBuffer.WellFormed) :
    restoreMachine (freshSnapshot apu) = some (freshMachine apu) := by
  have hcpu : Arm7tdmi.loadState .reset = some .reset := rfl
  have hmemory : MemoryBus.loadState .initial = some .initial := rfl
  have htimers : Timers.loadState Timers.reset.saveState = some .reset := by
    unfold Timers.loadState
    rw [if_pos (by decide)]
    exact congrArg some (Timers.ext (funext fun _ => Timer.ext rfl rfl rfl rfl rfl rfl
      (ite_self _) rfl) rfl)
  have hdma : DmaController.loadState .reset = some .reset := rfl
  have hapu : Apu.loadState apu = some apu := if_pos ⟨hfifo .a, hfifo .b, hbuffer⟩
  have hkeypad : Keypad.reset.setPressedMask 0 = some .reset := rfl
  simp only [restoreMachine, freshSnapshot, hcpu, hmemory, htimers, hdma, hapu, hkeypad,
    Option.bind_eq_bind, Option.bind_some]
  rfl

/-- A save state of a fresh machine is accepted with every sound unit that the parser and the
restore checks let through. -/
theorem decodeInto_fresh (session : CoreSession) {apu : Apu}
    (hduty : ∀ channel, (apu.squareChannels channel).duty ≤ 3)
    (hshift : apu.waveChannel.volumeShift ≤ 4) (hstep : apu.frameStep < kFrameSequencerSteps)
    (hfifo : ∀ channel, (apu.fifos channel).WellFormed) (hbuffer : apu.audioBuffer.WellFormed) :
    decodeInto session (freshSaveState apu) =
      some (⟨.ok, kVersion, (freshMachine apu).snapshotStateHash false⟩,
        session.loadState (freshMachine apu)) := by
  rw [freshSaveState,
    decodeInto_written session (freshSnapshot_parsable hduty hshift hstep hfifo hbuffer)]
  unfold commit
  rw [restoreMachine_fresh hfifo hbuffer]
  have hversion : decide (kVersion < 5#32) = false := rfl
  dsimp only
  rw [hversion, if_neg (not_not.mpr rfl)]

/-- A fresh sound unit whose square channels run with a period of zero. -/
def periodlessApu : Apu := { Apu.reset with squareChannels := fun _ => ⟨true, 0, 1, 0, 0⟩ }

theorem filled_wellFormed {α : Type} {capacity : Nat} (default : α) (h : 0 < capacity) :
    (RingBuffer.filled default : RingBuffer α capacity).WellFormed :=
  ⟨h, Nat.zero_le _⟩

theorem decodeInto_periodless :
    decodeInto freshSession (freshSaveState periodlessApu) =
      some (⟨.ok, kVersion, (freshMachine periodlessApu).snapshotStateHash false⟩,
        freshSession.loadState (freshMachine periodlessApu)) :=
  decodeInto_fresh freshSession (fun _ => (by decide : (0 : U8) ≤ 3)) (by decide) (by decide)
    (fun _ => filled_wellFormed _ (by decide)) (filled_wellFormed _ (by decide))

theorem periodless_mixSample : periodlessApu.runOperations [.mixSample] = none := rfl

/-- A save state that stores a running square channel with a period of zero is accepted, and mixing
the restored unit divides by zero. -/
theorem not_decodeInto_playable :
    ¬ ∀ (session after : CoreSession) (bytes : List U8) (result : SaveStateDecodeResult),
      decodeInto session bytes = some (result, after) → result.status = .ok →
      after.system.devices.apu.Playable ∧
        ∀ operations, (after.system.devices.apu.runOperations operations).isSome := by
  intro h
  obtain ⟨-, hdefined⟩ := h _ _ _ _ decodeInto_periodless rfl
  have hmix := hdefined [.mixSample]
  have hnone : ((freshSession.loadState (freshMachine periodlessApu)).system.devices.apu.runOperations
      [.mixSample]) = none := periodless_mixSample
  rw [hnone] at hmix
  cases hmix

/-- A sound unit whose four generators run, each inside its period. -/
def playingApu : Apu :=
  { Apu.reset with
    squareChannels := fun _ => ⟨true, 2, 15, 100, 40⟩
    waveChannel := ⟨true, 1, 64, 63⟩
    noiseChannel := ⟨true, 15, 1, 0, 0x7FFF, false⟩ }

theorem playingApu_playable : playingApu.Playable where
  square _ :=
    ⟨fun _ => (by decide : (1 : U16) ≤ 100 ∧ (40 : U16) < 100), (by decide : (2 : U8).toNat < 4)⟩
  wave := ⟨fun _ => ⟨by decide, by decide⟩, by decide⟩
  noise := fun _ => ⟨by decide, by decide⟩
  fifo _ := filled_wellFormed _ (by decide)
  audioBuffer := filled_wellFormed _ (by decide)

theorem decodeInto_playing :
    decodeInto freshSession (freshSaveState playingApu) =
      some (⟨.ok, kVersion, (freshMachine playingApu).snapshotStateHash false⟩,
        freshSession.loadState (freshMachine playingApu)) :=
  decodeInto_fresh freshSession (fun _ => (by decide : (2 : U8) ≤ 3)) (by decide) (by decide)
    playingApu_playable.fifo playingApu_playable.audioBuffer

/-- The save state of a machine that plays stores generators that run. -/
theorem decodeInto_playable_iff_playing : GeneratorsRun (freshSaveState playingApu) := by
  refine (decodeInto_playable_iff decodeInto_playing rfl).mp ⟨playingApu_playable, fun ops => ?_⟩
  obtain ⟨last, hrun, -⟩ := playingApu_playable.runOperations ops
  exact Option.isSome_iff_exists.mpr ⟨last, hrun⟩

end SaveStateCodec

end Gba.Core
