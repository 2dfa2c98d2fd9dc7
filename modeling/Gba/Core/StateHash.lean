import Gba.Core.CoreScheduler
import Gba.Core.SaveMemory

/-!
# State hashes

`StateHasher` of `state_hash.hpp` and the hash of every component of a session. The decoder of
save states compares the hash of the machine it rebuilt with the one that was stored; snapshots of
before version 5 were hashed with two kinds of words cut to their lowest byte.
-/

namespace Gba.Core

/-- `StateHasher`. -/
structure StateHasher where
  hash : U64

namespace StateHasher

/-- `kOffsetBasis`. -/
def kOffsetBasis : U64 := 14695981039346656037#64

/-- `kPrime`. -/
def kPrime : U64 := 1099511628211#64

/-- A hasher that was fed nothing. -/
def start : StateHasher := ⟨kOffsetBasis⟩

/-- `add_u8`. -/
def addU8 (hasher : StateHasher) (value : U8) : StateHasher :=
  ⟨(hasher.hash ^^^ value.setWidth 64) * kPrime⟩

/-- The lowest `count` bytes of a value, the lowest first. -/
def addWord {width : Nat} (hasher : StateHasher) (count : Nat) (value : BitVec width) :
    StateHasher :=
  (List.range count).foldl (fun hasher byte => hasher.addU8 ((value >>> (byte * 8)).setWidth 8))
    hasher

/-- `add_u16`. -/
def addU16 (hasher : StateHasher) (value : U16) : StateHasher := hasher.addWord 2 value

/-- `add_u32`. -/
def addU32 (hasher : StateHasher) (value : U32) : StateHasher := hasher.addWord 4 value

/-- `add_u64`. -/
def addU64 (hasher : StateHasher) (value : U64) : StateHasher := hasher.addWord 8 value

/-- `add_bool`. -/
def addBool (hasher : StateHasher) (value : Bool) : StateHasher :=
  hasher.addU8 (if value then 1 else 0)

/-- Every element of a container. -/
def addEach {α : Type} (hasher : StateHasher) (add : StateHasher → α → StateHasher)
    (values : List α) : StateHasher :=
  values.foldl add hasher

/-- The number of elements of a container, and every element. -/
def addSized {α : Type} (hasher : StateHasher) (add : StateHasher → α → StateHasher)
    (values : List α) : StateHasher :=
  (hasher.addU64 (BitVec.ofNat 64 values.length)).addEach add values

/-- `add_bytes`: an element is cut to its lowest byte. -/
def addBytes {width : Nat} (hasher : StateHasher) (values : List (BitVec width)) : StateHasher :=
  hasher.addSized (fun hasher value => hasher.addU8 (value.setWidth 8)) values

/-- An optional value: whether there is one, and the value. -/
def addOptional {α : Type} (hasher : StateHasher) (add : StateHasher → α → StateHasher)
    (value : Option α) : StateHasher :=
  (hasher.addBool value.isSome).addEach add value.toList

/-- `value`. -/
def value (hasher : StateHasher) : U64 := hasher.hash

end StateHasher

/-! ## The components -/

/-- `Arm7tdmi::state_hash`. -/
def Arm7tdmi.stateHash (cpu : Arm7tdmi) : U64 :=
  StateHasher.start
    |>.addEach .addU32 (List.ofFn cpu.registers)
    |>.addU64 cpu.elapsedCycles
    |>.addBool cpu.negative
    |>.addBool cpu.zero
    |>.addBool cpu.carry
    |>.addBool cpu.overflow
    |>.addBool cpu.irqDisabled
    |>.addBool cpu.fiqDisabled
    |>.addBool cpu.thumbState
    |>.addU8 cpu.mode.value
    |>.addEach .addU32 (List.ofFn cpu.sharedR8R12)
    |>.addEach .addU32 (List.ofFn cpu.fiqR8R12)
    |>.addEach (fun hasher bank => (hasher.addU32 (cpu.sp bank)).addU32 (cpu.lr bank))
        [.user, .fiq, .irq, .supervisor, .abort, .undefined]
    |>.addEach (fun hasher bank => hasher.addU32 (cpu.savedPsr bank))
        [.fiq, .supervisor, .abort, .irq, .undefined]
    |>.value

/-- The value of an enumerator of `GamePakSaveType`. -/
def GamePakSaveType.toU8 : GamePakSaveType → U8
  | .none => 0
  | .sram32k => 1
  | .flash64k => 2
  | .flash128k => 3
  | .eeprom512 => 4
  | .eeprom8k => 5

/-- The value of an enumerator of `FlashCommandState`. -/
def FlashCommandState.toU8 : FlashCommandState → U8
  | .idle => 0
  | .unlock1 => 1
  | .unlock2 => 2
  | .programData => 3
  | .eraseUnlock1 => 4
  | .eraseUnlock2 => 5
  | .eraseCommand => 6
  | .bankSelect => 7

/-- The value of an enumerator of `BiosExecutionMode`. -/
def BiosExecutionMode.toU8 : BiosExecutionMode → U8
  | .noBios => 0
  | .callerProvidedBios => 1
  | .hle => 2

/-- `MemoryBus::state_hash`. -/
def MemoryBus.stateHash (bus : MemoryBus) : U64 :=
  StateHasher.start
    |>.addBytes (List.ofFn bus.ewram)
    |>.addBytes (List.ofFn bus.iwram)
    |>.addBytes (List.ofFn bus.palette)
    |>.addBytes (List.ofFn bus.vram)
    |>.addBytes (List.ofFn bus.oam)
    |>.addBytes bus.gamePakRom
    |>.addU8 bus.gamePakSave.saveType.toU8
    |>.addU8 bus.gamePakSave.flashCommandState.toU8
    |>.addU8 (if bus.gamePakSave.flashIdMode then 1 else 0)
    |>.addU8 bus.gamePakSave.flashBank
    |>.addBool bus.openBusLatchValid
    |>.addU32 bus.openBusLatch
    |>.addBytes bus.gamePakSave.data
    |>.addBytes (List.ofFn bus.mgbaDebugString)
    |>.addBytes bus.debugOutput
    |>.value

/-- `InterruptController::state_hash`. -/
def InterruptController.stateHash (interrupts : InterruptController) : U64 :=
  StateHasher.start
    |>.addU16 interrupts.interruptEnable
    |>.addU16 interrupts.interruptFlags
    |>.addBool interrupts.masterEnabled
    |>.value

/-- `Timers::state_hash`. -/
def Timers.stateHash (t : Timers) : U64 :=
  StateHasher.start
    |>.addU64 t.cycleCounter
    |>.addEach (fun hasher (timer : Timer) =>
        hasher
          |>.addU16 timer.counter
          |>.addU16 timer.reload
          |>.addU16 timer.control
          |>.addU64 timer.overflowCount
          |>.addU32 timer.enableDelayCycles
          |>.addU16 timer.lastEnablePhase
          |>.addBool timer.justEnabled)
        (List.ofFn t.timers)
    |>.value

/-- `DmaController::state_hash`. -/
def DmaController.stateHash (dma : DmaController) : U64 :=
  StateHasher.start
    |>.addEach (fun hasher (channel : DmaChannelState) =>
        hasher
          |>.addU32 channel.source
          |>.addU32 channel.destination
          |>.addU16 channel.wordCount
          |>.addU16 channel.control
          |>.addU32 channel.currentSource
          |>.addU32 channel.currentDestination
          |>.addU32 channel.currentCount
          |>.addU32 channel.dataLatch)
        (List.ofFn dma.channels)
    |>.addBool dma.immediatePending
    |>.value

/-- `PpuTiming::state_hash`. -/
def PpuTiming.stateHash (ppu : PpuTiming) : U64 :=
  StateHasher.start
    |>.addU16 ppu.line
    |>.addU16 ppu.lineCycle
    |>.addU16 ppu.dispstatControl
    |>.addEach .addU16 (List.ofFn ppu.lcdControl)
    |>.value

/-- The two direct-sound channels in the order of their arrays. -/
def directSoundChannels : List DirectSoundChannel := [.a, .b]

/-- One mixed sample. -/
def StateHasher.addMixedSample (hasher : StateHasher) (sample : ApuMixedSample) : StateHasher :=
  (hasher.addU16 sample.left).addU16 sample.right

/-- `Apu::state_hash_impl`. -/
def Apu.stateHashImpl (apu : Apu) (legacyWaveWords : Bool) : U64 :=
  StateHasher.start
    |>.addU16 apu.soundcntL
    |>.addU16 apu.soundcntH
    |>.addU16 apu.soundcntXStatus
    |>.addU16 apu.soundbias
    |>.addEach (fun hasher (bank : Fin 8 → U16) =>
        if legacyWaveWords then hasher.addBytes (List.ofFn bank)
        else hasher.addSized .addU16 (List.ofFn bank))
        (List.ofFn apu.waveRamBanks)
    |>.addBool apu.waveBankSelect
    |>.addEach (fun hasher channel =>
        hasher
          |>.addBytes (List.ofFn (apu.fifos channel).samples)
          |>.addU64 (BitVec.ofNat 64 (apu.fifos channel).head)
          |>.addU64 (BitVec.ofNat 64 (apu.fifos channel).size))
        directSoundChannels
    |>.addEach (fun hasher channel => hasher.addU8 (apu.directSoundLatchedSamples channel))
        directSoundChannels
    |>.addEach (fun hasher (square : SquareChannel) =>
        hasher
          |>.addBool square.enabled
          |>.addU8 square.duty
          |>.addU8 square.volume
          |>.addU16 square.periodSamples
          |>.addU16 square.phase)
        (List.ofFn apu.squareChannels)
    |>.addBool apu.waveChannel.enabled
    |>.addU8 apu.waveChannel.volumeShift
    |>.addU16 apu.waveChannel.periodSamples
    |>.addU16 apu.waveChannel.phase
    |>.addBool apu.noiseChannel.enabled
    |>.addU8 apu.noiseChannel.volume
    |>.addU16 apu.noiseChannel.periodSamples
    |>.addU16 apu.noiseChannel.phase
    |>.addU16 apu.noiseChannel.lfsr
    |>.addBool apu.noiseChannel.narrowLfsr
    |>.addEach .addMixedSample (List.ofFn apu.audioBuffer.samples)
    |>.addU64 (BitVec.ofNat 64 apu.audioBuffer.head)
    |>.addU64 (BitVec.ofNat 64 apu.audioBuffer.size)
    |>.addU64 apu.frameStepCount
    |>.addU64 apu.audioSampleCount
    |>.addU32 apu.frameCycleRemainder
    |>.addU32 apu.audioCycleRemainder
    |>.addU8 apu.frameStep
    |>.addMixedSample apu.lastMixedSample
    |>.value

/-- `Keypad::state_hash`. -/
def Keypad.stateHash (keypad : Keypad) : U64 :=
  StateHasher.start |>.addU16 keypad.pressedMask |>.addU16 keypad.keycnt |>.value

/-- `WaitStateControl::state_hash`. -/
def WaitStateControl.stateHash (waitcnt : WaitStateControl) : U64 :=
  StateHasher.start |>.addU16 waitcnt.control |>.value

/-- `IoRegisters::state_hash`. -/
def SerialRegisters.stateHash (io : SerialRegisters) : U64 :=
  StateHasher.start
    |>.addEach .addU16 (List.ofFn io.serial)
    |>.addBool io.sioTransferActive
    |>.addU32 io.sioTransferCyclesRemaining
    |>.value

/-! ## The scheduler and the session -/

/-- The lambda `add_irq_registers`. -/
def StateHasher.addIrqRegisters (legacyIrqRegisters : Bool) (hasher : StateHasher)
    (registers : Fin 13 → U32) : StateHasher :=
  if legacyIrqRegisters then hasher.addBytes (List.ofFn registers)
  else hasher.addSized .addU32 (List.ofFn registers)

/-- The outer interrupt frames; no frames add nothing. -/
def StateHasher.addOuterFrames (hasher : StateHasher) (legacyIrqRegisters : Bool)
    (frames : List HleIrqFrame) : StateHasher :=
  if frames.isEmpty then hasher
  else
    (hasher.addU32 0x4952514E#32).addSized (fun hasher (frame : HleIrqFrame) =>
      hasher
        |>.addU32 frame.returnLr
        |>.addOptional (.addIrqRegisters legacyIrqRegisters) frame.savedRegisters
        |>.addBool frame.longTimerReturnPending
        |>.addBool frame.slowTimer0ReturnPending) frames

/-- The queued work of the emulated BIOS; no work adds nothing. -/
def StateHasher.addWorkFrames (hasher : StateHasher) (frames : List HleWorkFrame) : StateHasher :=
  if frames.isEmpty then hasher
  else
    (hasher.addU32 0x484C4557#32).addSized (fun hasher (frame : HleWorkFrame) =>
      (hasher.addU64 frame.remainingCycles).addU32 frame.ownerIrqDepth) frames

/-- `CoreScheduler::state_hash_impl`. -/
def CoreSchedulerState.stateHashImpl (state : CoreSchedulerState) (legacyIrqRegisters : Bool) :
    U64 :=
  StateHasher.start
    |>.addU64 state.schedulerCycles
    |>.addBool state.halted
    |>.addOptional .addU32 state.lastFetchAddress
    |>.addOptional .addU8 state.lastFetchWidthBytes
    |>.addOptional .addU8 state.lastFetchWindow
    |>.addU8 state.prefetchBufferHalfwords
    |>.addBool state.suppressNextGamePakPrefetch
    |>.addBool state.recoverNextGamePakDataFetch
    |>.addBool state.suppressNextThumbPrefetchExecuteBubble
    |>.addBool state.previousThumbInternalLoad
    |>.addOptional .addU16 state.lastWaitcntControl
    |>.addOptional .addU32 state.hleIrqReturnLr
    |>.addOptional (.addIrqRegisters legacyIrqRegisters) state.hleIrqSavedRegisters
    |>.addBool state.hleIrqReentryDispatchPending
    |>.addBool state.hleIrqReturnLatencyPending
    |>.addBool state.hleIrqPostReturnLatencyArmed
    |>.addBool state.hleIrqPostReturnDispatchPending
    |>.addBool state.hleIrqChainedPostReturnDispatchPending
    |>.addBool state.hleIrqChainedPostReturnDataDispatchPending
    |>.addBool state.hleIrqChainedPostReturnSpacedDataDispatchPending
    |>.addBool state.hleIrqLongTimerChainedReturnPending
    |>.addBool state.hleIrqSlowTimer0ReturnPending
    |>.addBool state.hleIrqPostReturnChainActive
    |>.addU8 state.hleIrqChainedSpacedDataServiceCount
    |>.addBool state.autoIrqLineHigh
    |>.addU8 state.autoIrqLatencyCycles
    |>.addU32 state.timerIoAccessGapCycles
    |>.addU32 state.thumbMisfetchRecoveryCount
    |>.addOuterFrames legacyIrqRegisters state.hleIrqOuterFrames
    |>.addWorkFrames state.hleWorkFrames
    |>.value

/-- `CoreSessionState`, a snapshot of the components of a session. -/
structure CoreSessionState where
  cpu : Arm7tdmi
  system : System
  bios : BiosController
  scheduler : CoreSchedulerState

/-- `snapshot_state_hash`. -/
def CoreSessionState.snapshotStateHash (snapshot : CoreSessionState) (legacyWordHashes : Bool) :
    U64 :=
  let devices := snapshot.system.devices
  StateHasher.start
    |>.addU64 snapshot.cpu.stateHash
    |>.addU64 snapshot.system.memory.stateHash
    |>.addU64 devices.interrupts.stateHash
    |>.addU64 devices.timers.stateHash
    |>.addU64 devices.dma.stateHash
    |>.addU64 devices.ppu.stateHash
    |>.addU64 (devices.apu.stateHashImpl legacyWordHashes)
    |>.addU8 snapshot.bios.mode.toU8
    |>.addU64 devices.keypad.stateHash
    |>.addU64 devices.waitcnt.stateHash
    |>.addU64 devices.io.stateHash
    |>.addU64 (snapshot.scheduler.stateHashImpl legacyWordHashes)
    |>.value

namespace CoreSession

/-- `save_state`. -/
def saveState (session : CoreSession) : CoreSessionState where
  cpu := session.cpu
  system := session.system
  bios := session.bios
  scheduler := session.scheduler

/-- `load_state`. -/
def loadState (session : CoreSession) (state : CoreSessionState) : CoreSession where
  cpu := state.cpu
  system := state.system
  bios := state.bios
  scheduler := state.scheduler
  stateGeneration := session.stateGeneration + 1

/-- `state_hash`, which hashes the components as `snapshot_state_hash` does. -/
def stateHash (session : CoreSession) : U64 := session.saveState.snapshotStateHash false

end CoreSession

end Gba.Core
