import Gba.Core.StateHash
import Gba.Library.ByteReader

/-!
# Save states

`SaveStateCodec` of `save_state_codec.cpp`. The sections of the wire format are written and parsed
in the same fixed order. `decode_into` parses everything into locals, rebuilds a machine through
the restore checks of the components, compares its hash with the stored one and commits it last.
-/

namespace Gba.Core

open Gba.Library
open Gba.Library.Reader

/-! ## Writing the sections -/

/-- `write_cpu_state`. -/
def writeCpuState (cpu : Arm7tdmi) : List U8 :=
  List.flatten
    [writeU64 cpu.elapsedCycles, writeArray writeU32 cpu.registers, writeBool cpu.negative,
      writeBool cpu.zero, writeBool cpu.carry, writeBool cpu.overflow, writeBool cpu.irqDisabled,
      writeBool cpu.fiqDisabled, writeBool cpu.thumbState, writeU8 cpu.mode.value,
      writeArray writeU32 cpu.sharedR8R12, writeArray writeU32 cpu.fiqR8R12,
      writeU32 (cpu.sp .user), writeU32 (cpu.lr .user), writeU32 (cpu.sp .fiq),
      writeU32 (cpu.lr .fiq), writeU32 (cpu.sp .irq), writeU32 (cpu.lr .irq),
      writeU32 (cpu.sp .supervisor), writeU32 (cpu.lr .supervisor), writeU32 (cpu.sp .abort),
      writeU32 (cpu.lr .abort), writeU32 (cpu.sp .undefined), writeU32 (cpu.lr .undefined),
      writeU32 (cpu.savedPsr .fiq), writeU32 (cpu.savedPsr .supervisor),
      writeU32 (cpu.savedPsr .abort), writeU32 (cpu.savedPsr .irq),
      writeU32 (cpu.savedPsr .undefined)]

/-- `write_memory_state`. -/
def writeMemoryState (memory : MemoryBus.State) : List U8 :=
  let save := memory.gamePakSave
  List.flatten
    [writeFixed memory.ewram, writeFixed memory.iwram, writeFixed memory.palette,
      writeFixed memory.vram, writeFixed memory.oam, writeBlob memory.gamePakRom,
      writeBlob save.data, writeU8 save.saveType.toU8, writeU8 save.flashCommandState.toU8,
      writeBool save.flashIdMode, writeU8 save.flashBank, writeU32 memory.openBusLatch,
      writeBool memory.openBusLatchValid, writeFixed memory.mgbaDebugString,
      writeBlob memory.debugOutput]

/-- `write_interrupt_state`. -/
def writeInterruptState (interrupts : InterruptController) : List U8 :=
  List.flatten
    [writeU16 interrupts.interruptEnable, writeU16 interrupts.interruptFlags,
      writeBool interrupts.masterEnabled]

/-- One timer of `write_timers_state`. -/
def writeTimer (timer : TimerState) : List U8 :=
  List.flatten
    [writeU16 timer.counter, writeU16 timer.reload, writeU16 timer.control,
      writeU64 timer.overflowCount, writeU32 timer.enableDelayCycles,
      writeU16 timer.lastEnablePhase, writeBool timer.justEnabled]

/-- `write_timers_state`. -/
def writeTimersState (timers : TimersState) : List U8 :=
  List.flatten [writeU64 timers.cycleCounter, writeArray writeTimer timers.timers]

/-- One channel of `write_dma_state`. -/
def writeDmaChannel (channel : DmaChannelState) : List U8 :=
  List.flatten
    [writeU32 channel.source, writeU32 channel.destination, writeU16 channel.wordCount,
      writeU16 channel.control, writeU32 channel.currentSource,
      writeU32 channel.currentDestination, writeU32 channel.currentCount,
      writeU32 channel.dataLatch]

/-- `write_dma_state`. -/
def writeDmaState (dma : DmaController) : List U8 :=
  List.flatten [writeArray writeDmaChannel dma.channels, writeBool dma.immediatePending]

/-- `write_ppu_state`. -/
def writePpuState (ppu : PpuTiming) : List U8 :=
  List.flatten
    [writeU16 ppu.line, writeU16 ppu.lineCycle, writeU16 ppu.dispstatControl,
      writeArray writeU16 ppu.lcdControl]

/-- One FIFO of `write_apu_state`. -/
def writeFifoState (fifo : RingBuffer U8 kFifoCapacity) : List U8 :=
  List.flatten
    [writeArray writeU8 fifo.samples, writeU32 (BitVec.ofNat 32 fifo.head),
      writeU32 (BitVec.ofNat 32 fifo.size)]

/-- One square channel of `write_apu_state`. -/
def writeSquareChannel (square : SquareChannel) : List U8 :=
  List.flatten
    [writeBool square.enabled, writeU8 square.duty, writeU8 square.volume,
      writeU16 square.periodSamples, writeU16 square.phase]

/-- The wave channel of `write_apu_state`. -/
def writeWaveChannel (wave : WaveChannel) : List U8 :=
  List.flatten
    [writeBool wave.enabled, writeU8 wave.volumeShift, writeU16 wave.periodSamples,
      writeU16 wave.phase]

/-- The noise channel of `write_apu_state`. -/
def writeNoiseChannel (noise : NoiseChannel) : List U8 :=
  List.flatten
    [writeBool noise.enabled, writeU8 noise.volume, writeU16 noise.periodSamples,
      writeU16 noise.phase, writeU16 noise.lfsr, writeBool noise.narrowLfsr]

/-- One mixed sample of `write_apu_state`. -/
def writeMixedSample (sample : ApuMixedSample) : List U8 :=
  List.flatten [writeU16 sample.left, writeU16 sample.right]

/-- `write_apu_state`. -/
def writeApuState (apu : Apu) : List U8 :=
  List.flatten
    [writeU16 apu.soundcntL, writeU16 apu.soundcntH, writeU16 apu.soundcntXStatus,
      writeU16 apu.soundbias, writeArray (writeArray writeU16) apu.waveRamBanks,
      writeBool apu.waveBankSelect, writeFifoState (apu.fifos .a), writeFifoState (apu.fifos .b),
      writeU8 (apu.directSoundLatchedSamples .a), writeU8 (apu.directSoundLatchedSamples .b),
      writeArray writeSquareChannel apu.squareChannels, writeWaveChannel apu.waveChannel,
      writeNoiseChannel apu.noiseChannel, writeArray writeMixedSample apu.audioBuffer.samples,
      writeU32 (BitVec.ofNat 32 apu.audioBuffer.head),
      writeU32 (BitVec.ofNat 32 apu.audioBuffer.size), writeU64 apu.frameStepCount,
      writeU64 apu.audioSampleCount, writeU32 apu.frameCycleRemainder,
      writeU32 apu.audioCycleRemainder, writeU8 apu.frameStep,
      writeMixedSample apu.lastMixedSample]

/-- `write_io_state`. -/
def writeIoState (io : SerialRegisters) : List U8 :=
  List.flatten
    [writeArray writeU16 io.serial, writeBool io.sioTransferActive,
      writeU32 io.sioTransferCyclesRemaining]

/-- One outer interrupt frame of `write_scheduler_state`. -/
def writeOuterFrame (frame : HleIrqFrame) : List U8 :=
  List.flatten
    [writeU32 frame.returnLr, writeOptional (writeArray writeU32) frame.savedRegisters,
      writeBool frame.longTimerReturnPending, writeBool frame.slowTimer0ReturnPending]

/-- One piece of queued work of `write_scheduler_state`. -/
def writeWorkFrame (frame : HleWorkFrame) : List U8 :=
  List.flatten [writeU64 frame.remainingCycles, writeU32 frame.ownerIrqDepth]

/-- The outer interrupt frames of `write_scheduler_state`. -/
def writeOuterFrames (frames : List HleIrqFrame) : List U8 :=
  writeU32 (BitVec.ofNat 32 frames.length) ++ frames.flatMap writeOuterFrame

/-- The queued work of `write_scheduler_state`. -/
def writeWorkFrames (frames : List HleWorkFrame) : List U8 :=
  writeU32 (BitVec.ofNat 32 frames.length) ++ frames.flatMap writeWorkFrame

/-- `write_scheduler_state`. -/
def writeSchedulerState (state : CoreSchedulerState) : List U8 :=
  List.flatten
    [writeU64 state.schedulerCycles, writeBool state.halted,
      writeOptional writeU32 state.lastFetchAddress,
      writeOptional writeU8 state.lastFetchWidthBytes,
      writeOptional writeU8 state.lastFetchWindow, writeU8 state.prefetchBufferHalfwords,
      writeBool state.suppressNextGamePakPrefetch, writeBool state.recoverNextGamePakDataFetch,
      writeBool state.suppressNextThumbPrefetchExecuteBubble,
      writeBool state.previousThumbInternalLoad, writeOptional writeU16 state.lastWaitcntControl,
      writeOptional writeU32 state.hleIrqReturnLr,
      writeOptional (writeArray writeU32) state.hleIrqSavedRegisters,
      writeBool state.hleIrqReentryDispatchPending, writeBool state.hleIrqReturnLatencyPending,
      writeBool state.hleIrqPostReturnLatencyArmed,
      writeBool state.hleIrqPostReturnDispatchPending,
      writeBool state.hleIrqChainedPostReturnDispatchPending,
      writeBool state.hleIrqChainedPostReturnDataDispatchPending,
      writeBool state.hleIrqChainedPostReturnSpacedDataDispatchPending,
      writeBool state.hleIrqLongTimerChainedReturnPending,
      writeBool state.hleIrqSlowTimer0ReturnPending,
      writeBool state.hleIrqPostReturnChainActive,
      writeU8 state.hleIrqChainedSpacedDataServiceCount, writeBool state.autoIrqLineHigh,
      writeU8 state.autoIrqLatencyCycles, writeU32 state.timerIoAccessGapCycles,
      writeU32 state.thumbMisfetchRecoveryCount,
      writeOuterFrames state.hleIrqOuterFrames, writeWorkFrames state.hleWorkFrames]

/-! ## Parsing the sections -/

/-- `parse_cpu_state`. The mode is checked when the processor is restored. -/
def parseCpuState : Reader Arm7tdmi := do
  let elapsedCycles ← readU64
  let registers ← readArray readU32 16
  let negative ← readBool
  let zero ← readBool
  let carry ← readBool
  let overflow ← readBool
  let irqDisabled ← readBool
  let fiqDisabled ← readBool
  let thumbState ← readBool
  let mode ← readU8
  let sharedR8R12 ← readArray readU32 5
  let fiqR8R12 ← readArray readU32 5
  let userSp ← readU32
  let userLr ← readU32
  let fiqSp ← readU32
  let fiqLr ← readU32
  let irqSp ← readU32
  let irqLr ← readU32
  let supervisorSp ← readU32
  let supervisorLr ← readU32
  let abortSp ← readU32
  let abortLr ← readU32
  let undefinedSp ← readU32
  let undefinedLr ← readU32
  let fiqSpsr ← readU32
  let supervisorSpsr ← readU32
  let abortSpsr ← readU32
  let irqSpsr ← readU32
  let undefinedSpsr ← readU32
  return {
    registers, elapsedCycles, negative, zero, carry, overflow, irqDisabled, fiqDisabled,
    thumbState, mode := ⟨mode⟩, sharedR8R12, fiqR8R12
    sp := fun
      | .user => userSp
      | .fiq => fiqSp
      | .irq => irqSp
      | .supervisor => supervisorSp
      | .abort => abortSp
      | .undefined => undefinedSp
    lr := fun
      | .user => userLr
      | .fiq => fiqLr
      | .irq => irqLr
      | .supervisor => supervisorLr
      | .abort => abortLr
      | .undefined => undefinedLr
    savedPsr := fun
      | .fiq => fiqSpsr
      | .supervisor => supervisorSpsr
      | .abort => abortSpsr
      | .irq => irqSpsr
      | .undefined => undefinedSpsr }

/-- The enumerator of a save type byte; nothing above `eeprom8k`. -/
def GamePakSaveType.ofU8 (value : U8) : Option GamePakSaveType :=
  [.none, .sram32k, .flash64k, .flash128k, .eeprom512, .eeprom8k][value.toNat]?

/-- The enumerator of a command state byte; nothing above `bank_select`. -/
def FlashCommandState.ofU8 (value : U8) : Option FlashCommandState :=
  [.idle, .unlock1, .unlock2, .programData, .eraseUnlock1, .eraseUnlock2, .eraseCommand,
    .bankSelect][value.toNat]?

/-- The enumerator of a mode byte; nothing above `hle`. -/
def BiosExecutionMode.ofU8 (value : U8) : Option BiosExecutionMode :=
  [.noBios, .callerProvidedBios, .hle][value.toNat]?

/-- `parse_memory_state`. -/
def parseMemoryState : Reader MemoryBus.State := do
  let ewram ← readFixed kEwramSize
  let iwram ← readFixed kIwramSize
  let palette ← readFixed kPaletteSize
  let vram ← readFixed kVramSize
  let oam ← readFixed kOamSize
  let gamePakRom ← readBlob (BitVec.ofNat 32 kGamePakRomWindowSize)
  let data ← readBlob (BitVec.ofNat 32 (saveSizeForType .flash128k))
  let saveTypeByte ← readU8
  let flashCommandStateByte ← readU8
  let flashIdMode ← readBool
  let flashBank ← readU8
  let openBusLatch ← readU32
  let openBusLatchValid ← readBool
  let mgbaDebugString ← readFixed 256
  let saveType ← ofOption (GamePakSaveType.ofU8 saveTypeByte)
  let flashCommandState ← ofOption (FlashCommandState.ofU8 flashCommandStateByte)
  check (flashBank ≤ 1#8)
  let debugOutput ← readBlob 0xFFFFFFFF#32
  return {
    ewram, iwram, palette, vram, oam, gamePakRom
    gamePakSave := { saveType, data, flashCommandState, flashIdMode, flashBank }
    mgbaDebugString, debugOutput, openBusLatch, openBusLatchValid }

/-- `parse_interrupt_state`. -/
def parseInterruptState : Reader InterruptController := do
  let interruptEnable ← readU16
  let interruptFlags ← readU16
  let masterEnabled ← readBool
  check (!anySet interruptEnable (~~~InterruptController.kSupportedMask) &&
    !anySet interruptFlags (~~~InterruptController.kSupportedMask))
  return { interruptEnable, interruptFlags, masterEnabled }

/-- One timer of `parse_timers_state`. -/
def parseTimer : Reader TimerState := do
  let counter ← readU16
  let reload ← readU16
  let control ← readU16
  let overflowCount ← readU64
  let enableDelayCycles ← readU32
  let lastEnablePhase ← readU16
  let justEnabled ← readBool
  return { counter, reload, control, overflowCount, enableDelayCycles, lastEnablePhase,
           justEnabled }

/-- `parse_timers_state`. -/
def parseTimersState : Reader TimersState := do
  let cycleCounter ← readU64
  let timers ← readArray parseTimer 4
  return { timers, cycleCounter }

/-- One channel of `parse_dma_state`. -/
def parseDmaChannel : Reader DmaChannelState := do
  let source ← readU32
  let destination ← readU32
  let wordCount ← readU16
  let control ← readU16
  let currentSource ← readU32
  let currentDestination ← readU32
  let currentCount ← readU32
  let dataLatch ← readU32
  return { source, destination, wordCount, control, currentSource, currentDestination,
           currentCount, dataLatch }

/-- `parse_dma_state`. -/
def parseDmaState : Reader DmaController := do
  let channels ← readArray parseDmaChannel 4
  let immediatePending ← readBool
  return { channels, immediatePending }

/-- `parse_ppu_state`. -/
def parsePpuState : Reader PpuTiming := do
  let line ← readU16
  let lineCycle ← readU16
  let dispstatControl ← readU16
  let lcdControl ← readArray readU16 0x2B
  check (line < kTotalLines && lineCycle < kCyclesPerLine)
  return { line, lineCycle, dispstatControl, lcdControl }

/-- One FIFO of `parse_apu_state`. -/
def parseFifoState : Reader (RingBuffer U8 kFifoCapacity) := do
  let samples ← readArray readU8 kFifoCapacity
  let head ← readU32
  let size ← readU32
  return { samples, head := head.toNat, size := size.toNat }

/-- One square channel of `parse_apu_state`. -/
def parseSquareChannel : Reader SquareChannel := do
  let enabled ← readBool
  let duty ← readU8
  let volume ← readU8
  let periodSamples ← readU16
  let phase ← readU16
  check (duty ≤ 3#8)
  return { enabled, duty, volume, periodSamples, phase }

/-- The wave channel of `parse_apu_state`. -/
def parseWaveChannel : Reader WaveChannel := do
  let enabled ← readBool
  let volumeShift ← readU8
  let periodSamples ← readU16
  let phase ← readU16
  check (volumeShift ≤ 4#8)
  return { enabled, volumeShift, periodSamples, phase }

/-- The noise channel of `parse_apu_state`. -/
def parseNoiseChannel : Reader NoiseChannel := do
  let enabled ← readBool
  let volume ← readU8
  let periodSamples ← readU16
  let phase ← readU16
  let lfsr ← readU16
  let narrowLfsr ← readBool
  return { enabled, volume, periodSamples, phase, lfsr, narrowLfsr }

/-- One mixed sample of `parse_apu_state`. -/
def parseMixedSample : Reader ApuMixedSample := do
  let left ← readU16
  let right ← readU16
  return { left, right }

/-- `parse_apu_state`. -/
def parseApuState : Reader Apu := do
  let soundcntL ← readU16
  let soundcntH ← readU16
  let soundcntXStatus ← readU16
  let soundbias ← readU16
  let waveRamBanks ← readArray (readArray readU16 8) 2
  let waveBankSelect ← readBool
  let fifoA ← parseFifoState
  let fifoB ← parseFifoState
  let latchedA ← readU8
  let latchedB ← readU8
  let squareChannels ← readArray parseSquareChannel 2
  let waveChannel ← parseWaveChannel
  let noiseChannel ← parseNoiseChannel
  let audioBufferSamples ← readArray parseMixedSample kAudioBufferCapacity
  let bufferHead ← readU32
  let bufferSize ← readU32
  let frameStepCount ← readU64
  let audioSampleCount ← readU64
  let frameCycleRemainder ← readU32
  let audioCycleRemainder ← readU32
  let frameStep ← readU8
  let lastMixedSample ← parseMixedSample
  check (frameStep < kFrameSequencerSteps)
  return {
    soundcntL, soundcntH, soundcntXStatus, soundbias, waveRamBanks, waveBankSelect
    fifos := fun
      | .a => fifoA
      | .b => fifoB
    directSoundLatchedSamples := fun
      | .a => latchedA
      | .b => latchedB
    squareChannels, waveChannel, noiseChannel
    audioBuffer := ⟨audioBufferSamples, bufferHead.toNat, bufferSize.toNat⟩
    frameStepCount, audioSampleCount, frameCycleRemainder, audioCycleRemainder, frameStep,
    lastMixedSample }

/-- `parse_io_state`. -/
def parseIoState : Reader SerialRegisters := do
  let serial ← readArray readU16 7
  let sioTransferActive ← readBool
  let sioTransferCyclesRemaining ← readU32
  return { serial, sioTransferActive, sioTransferCyclesRemaining }

/-- One outer interrupt frame of `parse_scheduler_state`. -/
def parseOuterFrame : Reader HleIrqFrame := do
  let returnLr ← readU32
  let savedRegisters ← readOptional (readArray readU32 13)
  let longTimerReturnPending ← readBool
  let slowTimer0ReturnPending ← readBool
  return { returnLr, savedRegisters, longTimerReturnPending, slowTimer0ReturnPending }

/-- The outer interrupt frames, which version 4 introduced. -/
def parseOuterFrames (version : U32) (hleIrqReturnLr : Option U32) : Reader (List HleIrqFrame) := do
  if 4#32 ≤ version then
    let count ← readU32
    let left ← remaining
    -- the count is bounded by the bytes that are left before anything is reserved
    check (count.toNat ≤ left / 7)
    let frames ← readList parseOuterFrame count.toNat
    check (count = 0#32 || hleIrqReturnLr.isSome)
    return frames
  else return []

/-- The pieces of queued work after one with owner `previous`. -/
def parseWorkFrameList (irqDepth : Nat) : (count : Nat) → Option U32 → Reader (List HleWorkFrame)
  | 0, _ => return []
  | count + 1, previous => do
      let remainingCycles ← readU64
      check (remainingCycles ≠ 0#64)
      let ownerIrqDepth ← readU32
      check (ownerIrqDepth.toNat ≤ irqDepth && previous.all (· < ownerIrqDepth))
      let frames ← parseWorkFrameList irqDepth count (some ownerIrqDepth)
      return ⟨remainingCycles, ownerIrqDepth⟩ :: frames

/-- The queued work, which version 6 introduced. -/
def parseWorkFrames (version : U32) (irqDepth : Nat) : Reader (List HleWorkFrame) := do
  if 6#32 ≤ version then
    let count ← readU32
    let left ← remaining
    check (count.toNat ≤ left / 12)
    parseWorkFrameList irqDepth count.toNat none
  else return []

/-- `parse_scheduler_state`. -/
def parseSchedulerState (version : U32) : Reader CoreSchedulerState := do
  let schedulerCycles ← readU64
  let halted ← readBool
  let lastFetchAddress ← readOptional readU32
  let lastFetchWidthBytes ← readOptional readU8
  let lastFetchWindow ← readOptional readU8
  let prefetchBufferHalfwords ← readU8
  let suppressNextGamePakPrefetch ← readBool
  let recoverNextGamePakDataFetch ← readBool
  let suppressNextThumbPrefetchExecuteBubble ← readBool
  let previousThumbInternalLoad ← readBool
  let lastWaitcntControl ← readOptional readU16
  let hleIrqReturnLr ← readOptional readU32
  let hleIrqSavedRegisters ← readOptional (readArray readU32 13)
  let hleIrqReentryDispatchPending ← readBool
  let hleIrqReturnLatencyPending ← readBool
  let hleIrqPostReturnLatencyArmed ← readBool
  let hleIrqPostReturnDispatchPending ← readBool
  let hleIrqChainedPostReturnDispatchPending ← readBool
  let hleIrqChainedPostReturnDataDispatchPending ← readBool
  let hleIrqChainedPostReturnSpacedDataDispatchPending ← readBool
  let hleIrqLongTimerChainedReturnPending ← readBool
  let hleIrqSlowTimer0ReturnPending ← readBool
  let hleIrqPostReturnChainActive ← readBool
  let hleIrqChainedSpacedDataServiceCount ← readU8
  let autoIrqLineHigh ← readBool
  let autoIrqLatencyCycles ← readU8
  let timerIoAccessGapCycles ← readU32
  let thumbMisfetchRecoveryCount ← readU32
  let hleIrqOuterFrames ← parseOuterFrames version hleIrqReturnLr
  let hleWorkFrames ← parseWorkFrames version
    (hleIrqOuterFrames.length + (if hleIrqSavedRegisters.isSome then 1 else 0))
  return {
    schedulerCycles, halted, lastFetchAddress, lastFetchWidthBytes, lastFetchWindow,
    prefetchBufferHalfwords, suppressNextGamePakPrefetch, recoverNextGamePakDataFetch,
    suppressNextThumbPrefetchExecuteBubble, previousThumbInternalLoad, lastWaitcntControl,
    hleIrqReturnLr, hleIrqSavedRegisters, hleIrqReentryDispatchPending,
    hleIrqReturnLatencyPending, hleIrqPostReturnLatencyArmed, hleIrqPostReturnDispatchPending,
    hleIrqChainedPostReturnDispatchPending, hleIrqChainedPostReturnDataDispatchPending,
    hleIrqChainedPostReturnSpacedDataDispatchPending, hleIrqLongTimerChainedReturnPending,
    hleIrqSlowTimer0ReturnPending, hleIrqPostReturnChainActive,
    hleIrqChainedSpacedDataServiceCount, autoIrqLineHigh, autoIrqLatencyCycles,
    timerIoAccessGapCycles, thumbMisfetchRecoveryCount, hleIrqOuterFrames, hleWorkFrames }

/-! ## The codec -/

/-- The locals that `decode_into` parses a snapshot into. -/
structure SnapshotState where
  cpu : Arm7tdmi
  memory : MemoryBus.State
  interrupts : InterruptController
  timers : TimersState
  dma : DmaController
  ppu : PpuTiming
  apu : Apu
  pressedMask : U16
  keycnt : U16
  waitcnt : U16
  biosMode : BiosExecutionMode
  io : SerialRegisters
  scheduler : CoreSchedulerState

/-- Everything that follows the header. -/
def writeSnapshot (snapshot : SnapshotState) : List U8 :=
  List.flatten
    [writeCpuState snapshot.cpu, writeMemoryState snapshot.memory,
      writeInterruptState snapshot.interrupts, writeTimersState snapshot.timers,
      writeDmaState snapshot.dma, writePpuState snapshot.ppu, writeApuState snapshot.apu,
      writeU16 snapshot.pressedMask, writeU16 snapshot.keycnt, writeU16 snapshot.waitcnt,
      writeU8 snapshot.biosMode.toU8, writeIoState snapshot.io,
      writeSchedulerState snapshot.scheduler]

/-- The sections that phase 1 of `decode_into` parses after the header. -/
def parseSections (version : U32) : Reader SnapshotState := do
  let cpu ← parseCpuState
  let memory ← parseMemoryState
  let interrupts ← parseInterruptState
  let timers ← parseTimersState
  let dma ← parseDmaState
  let ppu ← parsePpuState
  let apu ← parseApuState
  let pressedMask ← readU16
  let keycnt ← readU16
  let waitcnt ← readU16
  let biosModeByte ← readU8
  let biosMode ← ofOption (BiosExecutionMode.ofU8 biosModeByte)
  let io ← parseIoState
  let scheduler ← parseSchedulerState version
  return { cpu, memory, interrupts, timers, dma, ppu, apu, pressedMask, keycnt, waitcnt, biosMode,
           io, scheduler }

/-- Phase 1 of `decode_into` after the header: nothing may follow the sections. -/
def parseSnapshot (version : U32) : Reader SnapshotState := do
  let snapshot ← parseSections version
  atEnd
  return snapshot

/-- Bit by bit, the requests that restore the interrupt flags. -/
def restoreFlags (interruptFlags : U16) (interrupts : InterruptController) : InterruptController :=
  ([.vblank, .hblank, .vcount, .timer0, .timer1, .timer2, .timer3, .serial, .dma0, .dma1, .dma2,
    .dma3, .keypad, .gamePak] : List InterruptSource).foldl
    (fun interrupts source =>
      if anySet interruptFlags (interruptBit source) then interrupts.request source
      else interrupts) interrupts

/-- Phase 2 of `decode_into`: a machine built through the checks of its components. -/
def restoreMachine (snapshot : SnapshotState) : Option CoreSessionState := do
  let cpu ← Arm7tdmi.loadState snapshot.cpu
  let memory ← MemoryBus.loadState snapshot.memory
  let timers ← Timers.loadState snapshot.timers
  let dma ← DmaController.loadState snapshot.dma
  let apu ← Apu.loadState snapshot.apu
  let keypad ← Keypad.reset.setPressedMask snapshot.pressedMask
  let interrupts := restoreFlags snapshot.interrupts.interruptFlags
    (InterruptController.reset.writeInterruptEnable snapshot.interrupts.interruptEnable)
  return {
    cpu
    system :=
      { memory
        devices :=
          { interrupts := interrupts.setMasterEnabled snapshot.interrupts.masterEnabled
            timers, dma
            -- `PpuTiming::load_state` accepts every state
            ppu := snapshot.ppu
            apu
            waitcnt := .writeControl snapshot.waitcnt
            keypad := keypad.writeKeycnt snapshot.keycnt
            io := snapshot.io } }
    bios := ⟨snapshot.biosMode⟩
    scheduler := snapshot.scheduler }

/-- `SaveStateDecodeStatus`. -/
inductive SaveStateDecodeStatus where
  | ok | tooSmall | badMagic | unsupportedVersion | corruptPayload | restoreRejected
  | stateHashMismatch
  deriving DecidableEq, Repr

/-- `SaveStateDecodeResult`. -/
structure SaveStateDecodeResult where
  status : SaveStateDecodeStatus
  version : U32
  encodedStateHash : U64
  deriving DecidableEq

namespace SaveStateCodec

/-- `kMagic`. -/
def kMagic : U32 := 0x53534247#32

/-- `kVersion`. -/
def kVersion : U32 := 6#32

/-- `kHeaderSize`. -/
def kHeaderSize : Nat := 16

/-- The sections that `encode` writes for a session. -/
def snapshotOf (session : CoreSession) : SnapshotState :=
  let machine := session.saveState
  let devices := machine.system.devices
  { cpu := machine.cpu
    memory := machine.system.memory.saveState
    interrupts := devices.interrupts
    timers := devices.timers.saveState
    dma := devices.dma
    ppu := devices.ppu
    apu := devices.apu
    pressedMask := devices.keypad.pressedMask
    keycnt := devices.keypad.keycnt
    waitcnt := devices.waitcnt.control
    biosMode := machine.bios.mode
    io := devices.io
    scheduler := machine.scheduler }

/-- The header in front of a snapshot. -/
def writeHeader (stateHash : U64) : List U8 :=
  List.flatten [writeU32 kMagic, writeU32 kVersion, writeU64 stateHash]

/-- `encode`. -/
def encode (session : CoreSession) : List U8 :=
  writeHeader session.stateHash ++ writeSnapshot (snapshotOf session)

/-- The end of `decode_into`: the restored machine is committed if its hash is the stored one. -/
def commit (session : CoreSession) (version : U32) (encodedHash : U64)
    (snapshot : SnapshotState) : SaveStateDecodeResult × CoreSession :=
  match restoreMachine snapshot with
  | none => (⟨.restoreRejected, version, encodedHash⟩, session)
  | some next =>
      if next.snapshotStateHash (version < 5#32) ≠ encodedHash then
        (⟨.stateHashMismatch, version, encodedHash⟩, session)
      else (⟨.ok, version, encodedHash⟩, session.loadState next)

/-- `decode_into`; `none` if the reader takes a byte past the end, which throws in the source. -/
def decodeInto (session : CoreSession) (bytes : List U8) :
    Option (SaveStateDecodeResult × CoreSession) :=
  if bytes.length < kHeaderSize then some (⟨.tooSmall, 0, 0⟩, session)
  else
    match readU32.run bytes 0 with
    | .fault => none
    | .refused => some (⟨.badMagic, 0, 0⟩, session)
    | .value magic afterMagic =>
        if magic ≠ kMagic then some (⟨.badMagic, 0, 0⟩, session)
        else
          match readU32.run bytes afterMagic with
          | .fault => none
          | .refused => some (⟨.corruptPayload, 0, 0⟩, session)
          | .value version afterVersion =>
              if version ≠ 3 ∧ version ≠ 4 ∧ version ≠ 5 ∧ version ≠ kVersion then
                some (⟨.unsupportedVersion, version, 0⟩, session)
              else
                match readU64.run bytes afterVersion with
                | .fault => none
                | .refused => some (⟨.corruptPayload, version, 0⟩, session)
                | .value encodedHash afterHash =>
                    match (parseSnapshot version).run bytes afterHash with
                    | .fault => none
                    | .refused => some (⟨.corruptPayload, version, encodedHash⟩, session)
                    | .value snapshot _ => some (commit session version encodedHash snapshot)

end SaveStateCodec

end Gba.Core
