import Gba.Core.FetchStep
import Gba.Core.PpuRenderer
import Gba.Core.StateHash

/-!
# The runtime

`AndroidRuntime` of `android_runtime.cpp`: it runs the session for the time of a frame, renders
every scanline when the display completes it, and presents a frame once all its scanlines are there.
The scheduler tells the runtime of completed scanlines through the observer in `advance_devices`.
-/

namespace Gba.Core

/-! ## Completed scanlines -/

/-- A scanline that the display has completed, with the memory and the devices at that time. -/
structure Scanline where
  line : U16
  system : System

namespace DeviceAdvance

/-- The scanline of which one pass of the loop tells the observer. -/
def completedScanline (a : DeviceAdvance) : Option Scanline :=
  let ticked := ((a.charge a.interval).tickDevices a.interval).2
  let ppu := ticked.system.devices.ppu
  if ppu.lineCycle = kPpuVisibleCycles ∧ ppu.line < kVisibleLines then
    some ⟨ppu.line, ticked.system⟩
  else none

/-- The scanlines of which the loop of `advance_devices` tells the observer. -/
def scanlines (a : DeviceAdvance) : List Scanline :=
  if a.finished then []
  else
    match _ : a.advanceInterval with
    | none => []
    | some next => a.completedScanline.toList ++ scanlines next
  termination_by a.workLeft
  decreasing_by exact advanceInterval_workLeft ‹_›

end DeviceAdvance

/-- `PpuTiming::render_control`. -/
def PpuTiming.renderControl (p : PpuTiming) : PpuRenderControl :=
  let register (address : Fin 0x2B) : U16 := p.lcdControl address
  let affine (index : Fin 4) (bg2 bg3 : Fin 0x2B) : U16 :=
    if index = 2 then register bg2 else if index = 3 then register bg3 else 0
  let reference (index : Fin 4) (bg2Low bg3Low bg2High bg3High : Fin 0x2B) : U32 :=
    ((affine index bg2High bg3High).setWidth 32 &&& 0x0FFF#32) <<< 16 |||
      (affine index bg2Low bg3Low).setWidth 32
  -- a register stands at half its offset from 0x04000000
  { dispcnt := register 0
    bgControl := fun index => register ⟨4 + index.val, by omega⟩
    bgScrollX := fun index => register ⟨8 + 2 * index.val, by omega⟩
    bgScrollY := fun index => register ⟨9 + 2 * index.val, by omega⟩
    win0h := register 0x20
    win0v := register 0x22
    win1h := register 0x21
    win1v := register 0x23
    winin := register 0x24
    winout := register 0x25
    bldcnt := register 0x28
    bldalpha := register 0x29
    bldy := register 0x2A
    bgAffinePa := fun index => affine index 0x10 0x18
    bgAffinePb := fun index => affine index 0x11 0x19
    bgAffinePc := fun index => affine index 0x12 0x1A
    bgAffinePd := fun index => affine index 0x13 0x1B
    bgReferenceX := fun index => reference index 0x14 0x1C 0x15 0x1D
    bgReferenceY := fun index => reference index 0x16 0x1E 0x17 0x1F
    mosaic := register 0x26 }

/-! ## Resets and cartridges -/

/-- `contains_ascii_marker`. -/
def containsAsciiMarker (data : List U8) (marker : List Char) : Bool :=
  data.tails.any fun tail => (marker.map fun char => BitVec.ofNat 8 char.toNat).isPrefixOf tail

namespace MemoryBus

/-- `detect_game_pak_save_type`. -/
def detectGamePakSaveType (bus : MemoryBus) : Option GamePakSaveType :=
  if bus.gamePakRom.isEmpty then none
  else
    let marked (marker : String) := containsAsciiMarker bus.gamePakRom marker.toList
    let hasSram := marked "SRAM_V"
    let hasFlash128 := marked "FLASH1M_V"
    let hasFlash64 := marked "FLASH512_V" || marked "FLASH_V"
    let hasEeprom := marked "EEPROM_V"
    if [hasSram, hasFlash128, hasFlash64, hasEeprom].count true ≠ 1 then none
    else if hasSram then some .sram32k
    else if hasFlash128 then some .flash128k
    else if hasFlash64 then some .flash64k
    else some .eeprom8k

/-- `configure_game_pak_save`: whether the type is accepted, and the bus. -/
def configureGamePakSave (bus : MemoryBus) (type : GamePakSaveType) : Bool × MemoryBus :=
  (saveSizeForType type ≠ 0 || type = .none,
    { bus with gamePakSave := bus.gamePakSave.configure type })

end MemoryBus

namespace CoreSession

/-- The session after its construction. -/
def initial : CoreSession where
  cpu := .reset
  system := ⟨.initial, .reset⟩
  bios := .reset
  scheduler := .reset
  stateGeneration := 0

/-- `reset`. -/
def reset (session : CoreSession) : CoreSession where
  cpu := .reset
  system := ⟨session.system.memory.sessionReset, .reset⟩
  bios := .reset
  scheduler := .reset
  stateGeneration := session.stateGeneration + 1

/-- `configure_for_game_boot`; a CPSR that is refused is ignored. -/
def configureForGameBoot (session : CoreSession) : CoreSession :=
  let cpu := (session.cpu.setCpsr 0x0000001F#32).getD session.cpu
  { session with
    bios := ⟨.hle⟩
    cpu := (cpu.setRegister Arm7tdmi.kPc 0x08000000#32).setRegister 13 0x03007F00#32 }

/-- Replace the memory of the session. -/
def withMemory (session : CoreSession) (memory : MemoryBus) : CoreSession :=
  { session with system := { session.system with memory := memory } }

/-- The two counters by which the runtime notices that the session has been changed. -/
def counters (session : CoreSession) : U64 × U64 :=
  (session.stateGeneration, session.scheduler.schedulerCycles)

end CoreSession

/-! ## The runtime -/

/-- `CoreRunStopReason`. -/
inductive CoreRunStopReason where
  | maxSteps | fetchFailed | unsupportedInstruction
  deriving DecidableEq, Repr

/-- `CoreSchedulerRunResult`. -/
structure CoreSchedulerRunResult where
  requestedSteps : U32
  attemptedSteps : U32
  executedSteps : U32
  skippedSteps : U32
  unsupportedSteps : U32
  fetchFailures : U32
  stopReason : CoreRunStopReason
  finalPc : U32
  schedulerCycles : U64
  deriving DecidableEq

/-- `AndroidRuntimeStatus`. -/
inductive AndroidRuntimeStatus where
  | ok | invalidArgument | romRejected | inputRejected
  deriving DecidableEq, Repr

/-- `AndroidRuntimeFrameResult`. -/
structure AndroidRuntimeFrameResult where
  status : AndroidRuntimeStatus
  run : CoreSchedulerRunResult
  renderedScanlines : U16
  audioSamples : U32
  audioUnderruns : U32
  frameComplete : Bool
  stateHash : U64
  schedulerCyclesDelta : U64
  deriving DecidableEq

/-- The members of the runtime that collect the scanlines of a frame. -/
structure Raster where
  accumulating : Framebuffer
  nextScanline : U16
  supportedScanlines : U16
  ready : Bool

/-- `AndroidRuntime`. The control registers that the video diagnostics read are left out. -/
structure AndroidRuntime where
  session : CoreSession
  renderer : Framebuffer
  raster : Raster
  presentationGeneration : U64
  presentationCycles : U64
  lastAudioBatch : List ApuMixedSample
  stateHashEnabled : Bool

/-- `clear` of the renderer. -/
def clearFramebuffer : Framebuffer := fun _ _ => 0

namespace Raster

/-- Start a frame over. -/
def restart (raster : Raster) : Raster :=
  { raster with nextScanline := 0, supportedScanlines := 0, ready := false }

/-- What the renderer makes of a completed scanline. -/
def render (scanline : Scanline) (framebuffer : Framebuffer) : PpuRenderStats × Framebuffer :=
  PpuRenderer.renderScanline ioCallbacks scanline.system
    scanline.system.devices.ppu.renderControl scanline.line framebuffer

/-- `capture_scanline` for the scanline that comes next. -/
def accept (raster : Raster) (scanline : Scanline) : Raster :=
  let (stats, framebuffer) := render scanline raster.accumulating
  { accumulating := framebuffer
    nextScanline := raster.nextScanline + 1
    supportedScanlines := raster.supportedScanlines + if stats.supportedMode then 1 else 0
    ready := raster.nextScanline + 1 = BitVec.ofNat 16 kScreenHeight }

/-- `capture_scanline`. -/
def captureScanline (raster : Raster) (scanline : Scanline) : Raster :=
  if raster.ready then raster
  else
    let raster :=
      if scanline.line ≠ raster.nextScanline then
        { raster with nextScanline := 0, supportedScanlines := 0 }
      else raster
    if scanline.line ≠ raster.nextScanline then raster else raster.accept scanline

end Raster

/-- The calls of `advance_devices` that a step of a session makes: the session and the cycles of
each. It says of which scanlines the observer is told, and the session does not depend on it; what is
proved of `step_frame` holds for every choice of these lists. -/
abbrev StepAdvances := CoreSession → List (CoreSession × U32)

/-- The scanlines of which a step of the session tells the observer. -/
def StepAdvances.scanlines (advances : StepAdvances) (session : CoreSession) : List Scanline :=
  (advances session).flatMap fun (session, cycles) =>
    if cycles = 0 then [] else (DeviceAdvance.start session.system cycles).scanlines

/-- What a call of `step_frame` has done so far, and the scanlines that it has observed. -/
structure FrameRun where
  session : CoreSession
  raster : Raster
  run : CoreSchedulerRunResult
  observed : List Scanline

namespace FrameRun

/-- One pass of the loop of `step_frame`: whether it leaves the loop, and what has been done. -/
def pass (advances : StepAdvances) (frame : FrameRun) : Option (Bool × FrameRun) :=
  frame.session.step.map fun (fetch, session) =>
    let scanlines := advances.scanlines frame.session
    let stepped (run : CoreSchedulerRunResult) : FrameRun :=
      ⟨session, scanlines.foldl Raster.captureScanline frame.raster, run,
        frame.observed ++ scanlines⟩
    let run := frame.run
    if fetch.fetchFailed then
      (true, stepped { run with
        fetchFailures := run.fetchFailures + 1
        stopReason := .fetchFailed })
    else
      let attempted := { run with attemptedSteps := run.attemptedSteps + 1 }
      if fetch.instruction.isNone then
        (false, stepped { attempted with skippedSteps := run.skippedSteps + 1 })
      else if fetch.step.any fun step => step.cpuStep.status = .unsupported then
        (true, stepped { attempted with
          unsupportedSteps := run.unsupportedSteps + 1
          stopReason := .unsupportedInstruction })
      else (false, stepped { attempted with executedSteps := run.executedSteps + 1 })

/-- The loop of `step_frame`; nothing when it does not end within `fuel` passes. -/
def loop (advances : StepAdvances) (cycleTarget : U64) (maxSteps : U32) :
    Nat → FrameRun → Option FrameRun
  | fuel, frame =>
    if frame.session.scheduler.schedulerCycles < cycleTarget ∧
        frame.run.executedSteps < maxSteps then
      match fuel with
      | 0 => none
      | fuel + 1 =>
        match frame.pass advances with
        | none => none
        | some (true, last) => some last
        | some (false, next) => loop advances cycleTarget maxSteps fuel next
    else some frame

/-- The time of the frame is over and nothing has gone wrong: `frame_complete`. -/
def complete (cycleTarget : U64) (frame : FrameRun) : Bool :=
  cycleTarget ≤ frame.session.scheduler.schedulerCycles &&
    !(frame.run.stopReason = .fetchFailed || frame.run.stopReason = .unsupportedInstruction)

/-- The frame that a call presents, with the number of its scanlines in a supported mode. -/
def presented (cycleTarget : U64) (frame : FrameRun) : Option (Framebuffer × U16) :=
  if frame.complete cycleTarget && frame.raster.ready then
    some (frame.raster.accumulating, frame.raster.supportedScanlines)
  else none

end FrameRun

/-- The samples that a call takes off the audio queue. The queue has `remaining` samples. -/
def drainAudio : Nat → Apu → Option (List ApuMixedSample × Apu)
  | 0, apu => some ([], apu)
  | remaining + 1, apu =>
      match apu.popAudioSample with
      | none => none
      | some (none, apu) => some ([], apu)
      | some (some sample, apu) =>
          (drainAudio remaining apu).map fun (samples, apu) => (sample :: samples, apu)

/-- A call of `step_frame`: its result and the runtime after it, the frame that it presents with the
number of scanlines, and the scanlines that it has observed. -/
structure FrameCall where
  result : AndroidRuntimeFrameResult
  runtime : AndroidRuntime
  presented : Option (Framebuffer × U16)
  observed : List Scanline

namespace AndroidRuntime

/-- The runtime after its construction. -/
def initial : AndroidRuntime where
  session := .initial
  renderer := clearFramebuffer
  raster := ⟨clearFramebuffer, 0, 0, false⟩
  presentationGeneration := 0
  presentationCycles := 0
  lastAudioBatch := []
  stateHashEnabled := false

/-- `reset`. -/
def reset (runtime : AndroidRuntime) : AndroidRuntime :=
  { runtime with
    session := runtime.session.reset
    renderer := clearFramebuffer
    lastAudioBatch := [] }

/-- `load_rom`. -/
def loadRom (runtime : AndroidRuntime) (rom : List U8) : AndroidRuntimeStatus × AndroidRuntime :=
  if rom.isEmpty then (.invalidArgument, runtime)
  else
    let session := runtime.session.reset
    match session.system.memory.loadGamePakRom rom with
    | none => (.romRejected, { runtime with session := session })
    | some memory =>
        let saveType := memory.detectGamePakSaveType.getD .none
        match memory.configureGamePakSave saveType with
        | (false, memory) =>
            (.romRejected, { runtime with session := (session.withMemory memory).reset })
        | (true, memory) =>
            (.ok,
              { runtime with
                session := (session.withMemory memory).configureForGameBoot
                renderer := clearFramebuffer
                lastAudioBatch := [] })

/-- The raster at the start of a call: the collected scanlines are dropped when the session has been
changed since the last call. -/
def startRaster (runtime : AndroidRuntime) : Raster :=
  if (runtime.presentationGeneration, runtime.presentationCycles) = runtime.session.counters then
    runtime.raster
  else runtime.raster.restart

/-- The run of a call before its first step. -/
def startRun (maxSteps : U32) : CoreSchedulerRunResult :=
  ⟨maxSteps, 0, 0, 0, 0, 0, .maxSteps, 0, 0⟩

/-- The result of a call that is rejected. -/
def rejected : AndroidRuntimeFrameResult :=
  ⟨.invalidArgument, ⟨0, 0, 0, 0, 0, 0, .maxSteps, 0, 0⟩, 0, 0, 0, false, 0, 0⟩

/-- `step_frame` after its loop. -/
def finishFrame (runtime : AndroidRuntime) (cycleStart cycleTarget : U64) (frame : FrameRun) :
    Option FrameCall :=
  let cycles := frame.session.scheduler.schedulerCycles
  let run :=
    { frame.run with
      schedulerCycles := cycles
      finalPc := frame.session.pc }
  let presented := frame.presented cycleTarget
  let devices := frame.session.system.devices
  (drainAudio devices.apu.audioBuffer.size devices.apu).map fun (samples, apu) =>
    let session :=
      { frame.session with
        system := { frame.session.system with devices := { devices with apu := apu } } }
    let designedSilent :=
      anySet devices.ppu.renderControl.dispcnt 0x0080#16 || !apu.masterEnabled
    { result :=
        { status := .ok
          run := run
          renderedScanlines := (presented.map Prod.snd).getD 0
          audioSamples := BitVec.ofNat 32 samples.length
          audioUnderruns := if samples.isEmpty && !designedSilent then 1 else 0
          frameComplete := frame.complete cycleTarget
          stateHash := if runtime.stateHashEnabled then session.stateHash else 0
          schedulerCyclesDelta := cycles - cycleStart }
      runtime :=
        { runtime with
          session := session
          renderer := (presented.map Prod.fst).getD runtime.renderer
          raster := if presented.isSome then frame.raster.restart else frame.raster
          presentationGeneration := runtime.session.stateGeneration
          presentationCycles := cycles
          lastAudioBatch := samples }
      presented := presented
      observed := frame.observed }

/-- `step_frame`; nothing when its loop does not end within `fuel` passes. -/
def stepFrame (advances : StepAdvances) (fuel : Nat) (maxSteps : U32) (runtime : AndroidRuntime) :
    Option FrameCall :=
  if maxSteps = 0 then some ⟨rejected, runtime, none, []⟩
  else
    let frameCycles : U64 := kCyclesPerFrame.setWidth 64
    let cycleStart := runtime.session.scheduler.schedulerCycles / frameCycles * frameCycles
    let cycleTarget := cycleStart + frameCycles
    (FrameRun.loop advances cycleTarget maxSteps fuel
      ⟨runtime.session, runtime.startRaster, startRun maxSteps, []⟩).bind
        (runtime.finishFrame cycleStart cycleTarget)

end AndroidRuntime

end Gba.Core
