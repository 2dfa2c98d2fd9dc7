import Gba.Core.SaveStateCodec

/-!
# Every section is read back

Each parser of `save_state_codec.cpp` reads back what the writer of its section wrote, for every
value that passes the checks the parser makes. Together: a well-formed snapshot that was written
behind a header is decoded to itself (`decodeInto_written`).
-/

namespace Gba.Core

open Gba.Library

/-- The pieces of queued work that the decoder accepts after one with owner `previous`: work is
left, the owners increase, and none is deeper than the current interrupt. -/
def WorkFramesFrom (irqDepth : Nat) : Option U32 → List HleWorkFrame → Prop
  | _, [] => True
  | previous, frame :: frames =>
      frame.remainingCycles ≠ 0 ∧ frame.ownerIrqDepth.toNat ≤ irqDepth ∧
        previous.all (· < frame.ownerIrqDepth) = true ∧
        WorkFramesFrom irqDepth (some frame.ownerIrqDepth) frames

/-- `hle_irq_depth`. -/
def CoreSchedulerState.hleIrqDepth (state : CoreSchedulerState) : Nat :=
  state.hleIrqOuterFrames.length + (if state.hleIrqSavedRegisters.isSome then 1 else 0)

/-- What the decoder requires of the frames of a scheduler. -/
structure CoreSchedulerState.FramesRestorable (state : CoreSchedulerState) : Prop where
  outer_linked : state.hleIrqOuterFrames ≠ [] → state.hleIrqReturnLr.isSome
  work : WorkFramesFrom state.hleIrqDepth none state.hleWorkFrames
  outer_count : state.hleIrqOuterFrames.length < 2 ^ 32
  work_count : state.hleWorkFrames.length < 2 ^ 32

/-- What the parsers require of a snapshot. -/
structure SnapshotState.Parsable (s : SnapshotState) : Prop where
  rom : s.memory.gamePakRom.length ≤ kGamePakRomWindowSize
  save : s.memory.gamePakSave.data.length ≤ saveSizeForType .flash128k
  bank : s.memory.gamePakSave.flashBank ≤ 1
  debug : s.memory.debugOutput.length < 2 ^ 32
  interrupts : s.interrupts.WellFormed
  line : s.ppu.line < kTotalLines
  lineCycle : s.ppu.lineCycle < kCyclesPerLine
  duty : ∀ channel, (s.apu.squareChannels channel).duty ≤ 3
  volumeShift : s.apu.waveChannel.volumeShift ≤ 4
  frameStep : s.apu.frameStep < kFrameSequencerSteps
  fifo : ∀ channel, (s.apu.fifos channel).WellFormed
  audioBuffer : s.apu.audioBuffer.WellFormed
  frames : s.scheduler.FramesRestorable

/-! ## The sections -/

theorem reads_cpuState (cpu : Arm7tdmi) : Reads parseCpuState (writeCpuState cpu) cpu := by
  refine .field (.readU64 _) (.field (.readArray _ fun _ => .readU32 _) ?_)
  iterate 7 refine .field (.readBool _) ?_
  refine .field (.readU8 _) ?_
  iterate 2 refine .field (.readArray _ fun _ => .readU32 _) ?_
  iterate 17 refine .field (.readU32 _) ?_
  refine .done ?_
  obtain ⟨⟩ := cpu
  -- the banks are tables over the names of the modes
  congr <;> (funext bank; cases bank <;> rfl)

theorem GamePakSaveType.ofU8_toU8 (type : GamePakSaveType) : ofU8 type.toU8 = some type := by
  cases type <;> rfl

theorem FlashCommandState.ofU8_toU8 (state : FlashCommandState) :
    ofU8 state.toU8 = some state := by
  cases state <;> rfl

theorem BiosExecutionMode.ofU8_toU8 (mode : BiosExecutionMode) : ofU8 mode.toU8 = some mode := by
  cases mode <;> rfl

theorem reads_memoryState {memory : MemoryBus.State}
    (hrom : memory.gamePakRom.length ≤ kGamePakRomWindowSize)
    (hsave : memory.gamePakSave.data.length ≤ saveSizeForType .flash128k)
    (hbank : memory.gamePakSave.flashBank ≤ 1) (hdebug : memory.debugOutput.length < 2 ^ 32) :
    Reads parseMemoryState (writeMemoryState memory) memory := by
  have hromBound : memory.gamePakRom.length ≤ (BitVec.ofNat 32 kGamePakRomWindowSize).toNat := hrom
  have hsaveBound : memory.gamePakSave.data.length ≤
      (BitVec.ofNat 32 (saveSizeForType .flash128k)).toNat := hsave
  have hdebugBound : memory.debugOutput.length ≤ (0xFFFFFFFF#32).toNat := by
    show _ ≤ 2 ^ 32 - 1
    omega
  iterate 5 refine .field (.readFixed _) ?_
  refine .field (.readBlob hromBound) (.field (.readBlob hsaveBound) ?_)
  refine .field (.readU8 _) (.field (.readU8 _) (.field (.readBool _) (.field (.readU8 _) ?_)))
  refine .field (.readU32 _) (.field (.readBool _) (.field (.readFixed _) ?_))
  refine .ofOption_bind (GamePakSaveType.ofU8_toU8 _) ?_
  refine .ofOption_bind (FlashCommandState.ofU8_toU8 _) ?_
  refine .check_bind (decide_eq_true hbank) ?_
  exact .field (.readBlob hdebugBound) (.done rfl)

theorem reads_interruptState {interrupts : InterruptController} (h : interrupts.WellFormed) :
    Reads parseInterruptState (writeInterruptState interrupts) interrupts := by
  refine .field (.readU16 _) (.field (.readU16 _) (.field (.readBool _) ?_))
  refine .check_bind ?_ (.done rfl)
  have hmask : ∀ value : U16, value &&& ~~~InterruptController.kSupportedMask = 0 →
      anySet value (~~~InterruptController.kSupportedMask) = false := by
    intro value hvalue
    rw [anySet, hvalue]
    rfl
  rw [hmask _ h.1, hmask _ h.2]
  rfl

theorem reads_timer (timer : TimerState) : Reads parseTimer (writeTimer timer) timer := by
  iterate 3 refine .field (.readU16 _) ?_
  refine .field (.readU64 _) (.field (.readU32 _) (.field (.readU16 _) ?_))
  exact .field (.readBool _) (.done rfl)

theorem reads_timersState (timers : TimersState) :
    Reads parseTimersState (writeTimersState timers) timers :=
  .field (.readU64 _) (.field (.readArray _ fun _ => reads_timer _) (.done rfl))

theorem reads_dmaChannel (channel : DmaChannelState) :
    Reads parseDmaChannel (writeDmaChannel channel) channel := by
  refine .field (.readU32 _) (.field (.readU32 _) (.field (.readU16 _) (.field (.readU16 _) ?_)))
  iterate 4 refine .field (.readU32 _) ?_
  exact .done rfl

theorem reads_dmaState (dma : DmaController) : Reads parseDmaState (writeDmaState dma) dma :=
  .field (.readArray _ fun _ => reads_dmaChannel _) (.field (.readBool _) (.done rfl))

theorem reads_ppuState {ppu : PpuTiming} (hline : ppu.line < kTotalLines)
    (hcycle : ppu.lineCycle < kCyclesPerLine) : Reads parsePpuState (writePpuState ppu) ppu := by
  iterate 3 refine .field (.readU16 _) ?_
  refine .field (.readArray _ fun _ => .readU16 _) (.check_bind ?_ (.done rfl))
  rw [decide_eq_true hline, decide_eq_true hcycle]
  rfl

theorem reads_fifoState {fifo : RingBuffer U8 kFifoCapacity} (h : fifo.WellFormed) :
    Reads parseFifoState (writeFifoState fifo) fifo := by
  refine .field (.readArray _ fun _ => .readU8 _) ?_
  refine .field (.readU32 _) (.field (.readU32 _) (.done ?_))
  have hhead := h.head_lt
  have hsize := h.size_le
  ext1
  · rfl
  · exact Nat.mod_eq_of_lt (Nat.lt_trans hhead (by decide))
  · exact Nat.mod_eq_of_lt (Nat.lt_of_le_of_lt hsize (by decide))

theorem reads_squareChannel {square : SquareChannel} (h : square.duty ≤ 3) :
    Reads parseSquareChannel (writeSquareChannel square) square := by
  refine .field (.readBool _) (.field (.readU8 _) (.field (.readU8 _) ?_))
  refine .field (.readU16 _) (.field (.readU16 _) ?_)
  exact .check_bind (decide_eq_true h) (.done rfl)

theorem reads_waveChannel {wave : WaveChannel} (h : wave.volumeShift ≤ 4) :
    Reads parseWaveChannel (writeWaveChannel wave) wave := by
  refine .field (.readBool _) (.field (.readU8 _) ?_)
  refine .field (.readU16 _) (.field (.readU16 _) ?_)
  exact .check_bind (decide_eq_true h) (.done rfl)

theorem reads_noiseChannel (noise : NoiseChannel) :
    Reads parseNoiseChannel (writeNoiseChannel noise) noise := by
  refine .field (.readBool _) (.field (.readU8 _) ?_)
  iterate 3 refine .field (.readU16 _) ?_
  exact .field (.readBool _) (.done rfl)

theorem reads_mixedSample (sample : ApuMixedSample) :
    Reads parseMixedSample (writeMixedSample sample) sample :=
  .field (.readU16 _) (.field (.readU16 _) (.done rfl))

theorem reads_apuState {apu : Apu} (hduty : ∀ channel, (apu.squareChannels channel).duty ≤ 3)
    (hshift : apu.waveChannel.volumeShift ≤ 4) (hstep : apu.frameStep < kFrameSequencerSteps)
    (hfifo : ∀ channel, (apu.fifos channel).WellFormed) (hbuffer : apu.audioBuffer.WellFormed) :
    Reads parseApuState (writeApuState apu) apu := by
  iterate 4 refine .field (.readU16 _) ?_
  refine .field (.readArray _ fun _ => .readArray _ fun _ => .readU16 _) (.field (.readBool _) ?_)
  refine .field (reads_fifoState (hfifo .a)) (.field (reads_fifoState (hfifo .b)) ?_)
  refine .field (.readU8 _) (.field (.readU8 _) ?_)
  refine .field (.readArray _ fun channel => reads_squareChannel (hduty channel)) ?_
  refine .field (reads_waveChannel hshift) (.field (reads_noiseChannel _) ?_)
  refine .field (.readArray _ fun _ => reads_mixedSample _) ?_
  refine .field (.readU32 _) (.field (.readU32 _) (.field (.readU64 _) (.field (.readU64 _) ?_)))
  refine .field (.readU32 _) (.field (.readU32 _) (.field (.readU8 _) ?_))
  refine .field (reads_mixedSample _) (.check_bind (decide_eq_true hstep) (.done ?_))
  have hhead := hbuffer.head_lt
  have hsize := hbuffer.size_le
  ext1
  all_goals try rfl
  · funext channel
    cases channel <;> rfl
  · funext channel
    cases channel <;> rfl
  · ext1
    · rfl
    · exact Nat.mod_eq_of_lt (Nat.lt_trans hhead (by decide))
    · exact Nat.mod_eq_of_lt (Nat.lt_of_le_of_lt hsize (by decide))

theorem reads_ioState (io : SerialRegisters) : Reads parseIoState (writeIoState io) io :=
  .field (.readArray _ fun _ => .readU16 _) (.field (.readBool _) (.field (.readU32 _) (.done rfl)))

theorem reads_outerFrame (frame : HleIrqFrame) :
    Reads parseOuterFrame (writeOuterFrame frame) frame := by
  refine .field (.readU32 _) ?_
  refine .field (.readOptional _ fun _ => .readArray _ fun _ => .readU32 _) ?_
  exact .field (.readBool _) (.field (.readBool _) (.done rfl))

/-- A frame without saved registers takes seven bytes. -/
theorem le_length_writeOuterFrame (frame : HleIrqFrame) : 7 ≤ (writeOuterFrame frame).length := by
  simp only [writeOuterFrame, writeU32, writeOptional, writeBool, writeU8, List.flatten_cons,
    List.flatten_nil, List.length_append, List.length_cons, List.length_nil, length_writeWord]
  omega

theorem length_writeWorkFrame (frame : HleWorkFrame) : (writeWorkFrame frame).length = 12 := by
  simp only [writeWorkFrame, writeU32, writeU64, List.flatten_cons, List.flatten_nil,
    List.length_append, List.length_nil, length_writeWord]

theorem reads_outerFrames {frames : List HleIrqFrame} {returnLr : Option U32}
    (hcount : frames.length < 2 ^ 32) (hlinked : frames ≠ [] → returnLr.isSome) :
    Reads (parseOuterFrames SaveStateCodec.kVersion returnLr) (writeOuterFrames frames) frames := by
  have hlength : (BitVec.ofNat 32 frames.length).toNat = frames.length :=
    Nat.mod_eq_of_lt hcount
  refine (Reads.readU32 _).bind (Reads.remaining_bind fun left hleft => ?_)
  have hsize := le_length_flatMap le_length_writeOuterFrame frames
  rw [hlength]
  refine .check_bind (decide_eq_true (by omega)) ?_
  refine (Reads.readList frames reads_outerFrame).bind_nil (.check_bind ?_ (Reads.pure frames))
  cases frames with
  | nil => rfl
  | cons frame frames =>
      rw [hlinked (List.cons_ne_nil _ _)]
      exact Bool.or_true _

/-- Induction on the pieces: each one that passed the checks is the predecessor of the next. -/
theorem reads_workFrameList {irqDepth : Nat} {previous : Option U32} {frames : List HleWorkFrame}
    (h : WorkFramesFrom irqDepth previous frames) :
    Reads (parseWorkFrameList irqDepth frames.length previous)
      (frames.flatMap writeWorkFrame) frames := by
  induction frames generalizing previous with
  | nil => exact Reads.pure []
  | cons frame frames ih =>
      obtain ⟨hwork, hdepth, hprevious, hrest⟩ := h
      have hspelled : (frame :: frames).flatMap writeWorkFrame =
          [writeU64 frame.remainingCycles, writeU32 frame.ownerIrqDepth,
            frames.flatMap writeWorkFrame].flatten := by
        simp [writeWorkFrame]
      rw [hspelled]
      refine .field (.readU64 _) (.check_bind (decide_eq_true hwork) (.field (.readU32 _) ?_))
      refine .check_bind ?_ (.field (ih hrest) (.done rfl))
      rw [decide_eq_true hdepth, hprevious]
      rfl

theorem reads_workFrames {irqDepth : Nat} {frames : List HleWorkFrame}
    (hcount : frames.length < 2 ^ 32) (h : WorkFramesFrom irqDepth none frames) :
    Reads (parseWorkFrames SaveStateCodec.kVersion irqDepth) (writeWorkFrames frames) frames := by
  have hlength : (BitVec.ofNat 32 frames.length).toNat = frames.length :=
    Nat.mod_eq_of_lt hcount
  refine (Reads.readU32 _).bind (Reads.remaining_bind fun left hleft => ?_)
  have hsize := le_length_flatMap (fun frame => (length_writeWorkFrame frame).ge) frames
  rw [hlength]
  exact .check_bind (decide_eq_true (by omega)) (reads_workFrameList h)

theorem reads_schedulerState {state : CoreSchedulerState} (h : state.FramesRestorable) :
    Reads (parseSchedulerState SaveStateCodec.kVersion) (writeSchedulerState state) state := by
  refine .field (.readU64 _) (.field (.readBool _) ?_)
  refine .field (.readOptional _ .readU32) (.field (.readOptional _ .readU8) ?_)
  refine .field (.readOptional _ .readU8) (.field (.readU8 _) ?_)
  iterate 4 refine .field (.readBool _) ?_
  refine .field (.readOptional _ .readU16) (.field (.readOptional _ .readU32) ?_)
  refine .field (.readOptional _ fun _ => .readArray _ fun _ => .readU32 _) ?_
  iterate 10 refine .field (.readBool _) ?_
  refine .field (.readU8 _) (.field (.readBool _) (.field (.readU8 _) ?_))
  refine .field (.readU32 _) (.field (.readU32 _) ?_)
  refine .field (reads_outerFrames h.outer_count h.outer_linked) ?_
  exact .field (reads_workFrames h.work_count h.work) (.done rfl)

/-! ## The snapshot -/

theorem reads_sections {snapshot : SnapshotState} (h : snapshot.Parsable) :
    Reads (parseSections SaveStateCodec.kVersion) (writeSnapshot snapshot) snapshot := by
  refine .field (reads_cpuState _) (.field (reads_memoryState h.rom h.save h.bank h.debug) ?_)
  refine .field (reads_interruptState h.interrupts) (.field (reads_timersState _) ?_)
  refine .field (reads_dmaState _) (.field (reads_ppuState h.line h.lineCycle) ?_)
  refine .field
    (reads_apuState h.duty h.volumeShift h.frameStep h.fifo h.audioBuffer) ?_
  iterate 3 refine .field (.readU16 _) ?_
  refine .field (.readU8 _) (.ofOption_bind (BiosExecutionMode.ofU8_toU8 _) ?_)
  exact .field (reads_ioState _) (.field (reads_schedulerState h.frames) (.done rfl))

namespace SaveStateCodec

/-- A snapshot that was written at the end of a string is parsed back. -/
theorem parseSnapshot_written {snapshot : SnapshotState} (h : snapshot.Parsable)
    (before : List U8) :
    (parseSnapshot kVersion).run (before ++ writeSnapshot snapshot) before.length =
      .value snapshot (before.length + (writeSnapshot snapshot).length) := by
  have hsections := reads_sections h
  unfold parseSnapshot
  generalize parseSections kVersion = sections at hsections ⊢
  generalize writeSnapshot snapshot = spelled at hsections ⊢
  exact hsections.bind_atEnd before

/-- A string whose header and sections read back is committed. -/
theorem decodeInto_of_reads (session : CoreSession) {bytes : List U8} {snapshot : SnapshotState}
    {stateHash : U64} {afterMagic afterVersion afterHash last : Nat}
    (hlong : ¬bytes.length < kHeaderSize)
    (hmagic : Reader.readU32.run bytes 0 = .value kMagic afterMagic)
    (hversion : Reader.readU32.run bytes afterMagic = .value kVersion afterVersion)
    (hhash : Reader.readU64.run bytes afterVersion = .value stateHash afterHash)
    (hsnapshot : (parseSnapshot kVersion).run bytes afterHash = .value snapshot last) :
    decodeInto session bytes = some (commit session kVersion stateHash snapshot) := by
  have hknown : ¬(kVersion ≠ 3 ∧ kVersion ≠ 4 ∧ kVersion ≠ 5 ∧ kVersion ≠ kVersion) := by
    rintro ⟨-, -, -, hne⟩
    exact hne rfl
  unfold decodeInto
  rw [if_neg hlong, hmagic]
  dsimp only
  rw [if_neg (not_not.mpr rfl), hversion]
  dsimp only
  rw [if_neg hknown, hhash]
  dsimp only
  rw [hsnapshot]

/-- The snapshot behind a header is restored if the components accept it and its hash is the
stored one. -/
theorem decodeInto_written (session : CoreSession) {snapshot : SnapshotState}
    (h : snapshot.Parsable) (stateHash : U64) :
    decodeInto session (writeHeader stateHash ++ writeSnapshot snapshot) =
      some (commit session kVersion stateHash snapshot) := by
  have hheader : (writeHeader stateHash).length = kHeaderSize := by
    simp only [writeHeader, writeU32, writeU64, List.flatten_cons, List.flatten_nil,
      List.length_append, List.length_nil, length_writeWord]
    rfl
  have hmagic := Reads.readU32 kMagic []
    (writeU32 kVersion ++ (writeU64 stateHash ++ writeSnapshot snapshot))
  have hversion := Reads.readU32 kVersion (writeU32 kMagic)
    (writeU64 stateHash ++ writeSnapshot snapshot)
  have hhash := Reads.readU64 stateHash (writeU32 kMagic ++ writeU32 kVersion)
    (writeSnapshot snapshot)
  have hsnapshot := parseSnapshot_written h (writeHeader stateHash)
  have hbytes : writeHeader stateHash ++ writeSnapshot snapshot =
      writeU32 kMagic ++ (writeU32 kVersion ++ (writeU64 stateHash ++ writeSnapshot snapshot)) := by
    simp only [writeHeader, List.flatten_cons, List.flatten_nil, List.append_nil,
      List.append_assoc]
  rw [List.append_assoc, ← hbytes] at hhash
  rw [← hbytes] at hversion
  rw [List.nil_append, ← hbytes] at hmagic
  generalize hall : writeHeader stateHash ++ writeSnapshot snapshot = bytes at *
  have hlong : ¬ bytes.length < kHeaderSize := by
    rw [← hall, List.length_append, hheader]
    omega
  -- each field ends where the next one starts
  have hmagicEnd : ([] : List U8).length + (writeU32 kMagic).length = (writeU32 kMagic).length :=
    Nat.zero_add _
  have hversionEnd : (writeU32 kMagic).length + (writeU32 kVersion).length =
      (writeU32 kMagic ++ writeU32 kVersion).length := List.length_append.symm
  have hhashEnd : (writeU32 kMagic ++ writeU32 kVersion).length + (writeU64 stateHash).length =
      (writeHeader stateHash).length := by
    simp only [writeHeader, List.flatten_cons, List.flatten_nil, List.append_nil,
      List.length_append, Nat.add_assoc]
  rw [hmagicEnd] at hmagic
  rw [hversionEnd] at hversion
  rw [hhashEnd] at hhash
  exact decodeInto_of_reads session hlong hmagic hversion hhash hsnapshot

end SaveStateCodec

end Gba.Core
