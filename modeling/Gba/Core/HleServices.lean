import Gba.Core.CoreScheduler
import Gba.Core.HleMemoryServices

/-!
# Services of the emulated BIOS

The software interrupts that `CoreScheduler::execute_hle_swi` serves itself, with the cycles they
charge. Copying and waiting for an interrupt let device time pass while they run.
-/

namespace Gba.Core

open BiosHleConstants

def kMaxBiosWaitCycles : U32 := 561792#32

def kIntrWaitCoarseBatchCycles : U32 := 64#32

def kHleLz77AdditionalCallCycles : U64 := 43#64

def kCpuSetChunkUnits : U32 := 64#32

def kCyclesPerFrame : U32 := 280896#32

/-! ## Cycles of a call -/

/-- `HleSwiProfileKind`. -/
inductive HleSwiProfileKind where
  | simple | literal | cpuSet
  deriving DecidableEq, Repr

/-- `hle_rom_wait_profile`. -/
def hleRomWaitProfile (waitcnt : WaitStateControl) : Nat :=
  (if anySet waitcnt.control 0x4000#16 then 1 else 0) +
    (if anySet waitcnt.control 0x0004#16 then 2 else 0) +
    if anySet waitcnt.control 0x0010#16 then 4 else 0

/-- The tables of `hle_swi_profile_adjustment` for calls from ROM. -/
def hleRomAdjustments (source : BiosSwiSource) : HleSwiProfileKind → List Int
  | .literal =>
      match source with
      | .thumb => [10, 13, 8, 10, 9, 13, 7, 10]
      | .arm => [16, 19, 14, 16, 13, 17, 11, 14]
  | .cpuSet =>
      match source with
      | .thumb => [10, 19, 8, 14, 9, 21, 7, 16]
      | .arm => [16, 16, 14, 14, 13, 13, 11, 11]
  | .simple =>
      match source with
      | .thumb => [10, 10, 8, 8, 9, 9, 7, 7]
      | .arm => [16, 16, 14, 14, 13, 13, 11, 11]

/-- `hle_swi_profile_adjustment`. -/
def hleSwiProfileAdjustment (call : BiosSwiCall) (fetchAddress : U32) (waitcnt : WaitStateControl)
    (profile : HleSwiProfileKind) : Int :=
  let thumb : Bool := call.source = .thumb
  match (classify fetchAddress).region with
  | .ewram =>
      match profile with
      | .literal => if thumb then 1 else 7
      | .cpuSet => if thumb then -9 else 12
      | .simple => if thumb then 6 else 12
  | .gamePakRom =>
      (hleRomAdjustments call.source profile).getD (hleRomWaitProfile waitcnt) 0
  | _ => 0

/-- `add_hle_profile_adjustment`. -/
def addHleProfileAdjustment (baseCycles : U32) (adjustment : Int) : U32 :=
  let magnitude : U32 := BitVec.ofNat 32 adjustment.natAbs
  if 0 ≤ adjustment then baseCycles + magnitude
  else if magnitude < baseCycles then baseCycles - magnitude
  else 0

/-! ## Copying -/

/-- `hle_cpu_set_source_allowed`. -/
def hleCpuSetSourceAllowed (source byteLength : U32) : Bool :=
  byteLength = 0 ||
    anySet source 0x0E000000#32 && anySet (source + byteLength) 0x0E000000#32

/-- The parameters of a copy: `hle_cpu_set` reads them from `r0` to `r2`. -/
structure CpuSetCall where
  fast : Bool
  source : U32
  dest : U32
  control : U32

namespace CpuSetCall

variable (call : CpuSetCall)

/-- The call of a processor. -/
def ofRegisters (fast : Bool) (cpu : Arm7tdmi) : CpuSetCall :=
  ⟨fast, cpu.registers 0, cpu.registers 1, cpu.registers 2⟩

/-- The copied units are words. -/
def word : Bool := call.fast || call.control.getLsbD 26

/-- The number of units. -/
def count : U32 :=
  let count := call.control &&& 0x001FFFFF#32
  if call.fast then (count + 7) &&& ~~~7#32 else count

/-- The source is refused. -/
def refused : Bool :=
  call.count ≠ 0 &&
    !hleCpuSetSourceAllowed call.source (call.count * if call.word then 4 else 2)

/-- `hle_cpu_set_base_cycles`. -/
def baseCycles : U32 :=
  if call.refused then if call.fast then 86 else 84
  else if call.fast then 318 + call.count * 12
  else 64 + call.count * if call.control.getLsbD 26 then 8 else 4

/-- `per_unit_cycles`. -/
def perUnitCycles : U32 := if call.fast then 12 else if call.control.getLsbD 26 then 8 else 4

end CpuSetCall

/-- The locals of `hle_cpu_set` that its loops change. -/
structure CpuSetRun where
  session : CoreSession
  consumedCycles : U32
  pendingUnits : U32

namespace CpuSetRun

/-- The lambda `settle_chunk`. -/
def settleChunk (perUnitCycles : U32) (run : CpuSetRun) : Option CpuSetRun :=
  if run.pendingUnits = 0 then some run
  else
    let chunkCycles := run.pendingUnits * perUnitCycles
    (run.session.advanceDevices chunkCycles).map fun (_, session) =>
      ⟨session, run.consumedCycles + chunkCycles, 0⟩

/-- The lambda `advance_unit`. -/
def advanceUnit (perUnitCycles : U32) (run : CpuSetRun) : Option CpuSetRun :=
  let counted := { run with pendingUnits := run.pendingUnits + 1 }
  if counted.pendingUnits = kCpuSetChunkUnits then counted.settleChunk perUnitCycles
  else some counted

end CpuSetRun

/-- How `hle_cpu_set` reads and writes its units. -/
structure CpuSetUnit (α : Type) where
  size : U32
  read : System → U32 → Option α
  storeAddress : U32 → U32
  store : U32 → α → System → Bool × System

/-- The lambda `read_word` and the word stores. -/
def cpuSetWord : CpuSetUnit U32 where
  size := 4
  read system address :=
    match (classify address).region with
    | .bios => some 0
    | .gamePakSave => system.read32 ioCallbacks address
    | _ => system.read32 ioCallbacks (address &&& ~~~0x3#32)
  storeAddress address :=
    if (classify address).region = .gamePakSave then address else address &&& ~~~0x3#32
  store := storeWord

/-- The lambda `read_halfword` and the halfword stores. -/
def cpuSetHalfword : CpuSetUnit U16 where
  size := 2
  read system address :=
    if (classify address).region = .bios then some 0
    else if !address.getLsbD 0 then system.read16 ioCallbacks address
    else (system.read8 ioCallbacks address).map (BitVec.setWidth 16)
  storeAddress address := address
  store := storeHalfword

/-- The loop of `hle_cpu_set` over the remaining units. A fill reads its value once. -/
def copyUnits {α : Type} (call : CpuSetCall) (unit : CpuSetUnit α) :
    Nat → U32 → Option α → CpuSetRun → Option (Bool × CpuSetRun)
  | 0, _, _, run => (run.settleChunk call.perUnitCycles).map fun run => (true, run)
  | count + 1, index, fillValue, run =>
      let fill := call.control.getLsbD 24
      let value :=
        if fill then fillValue.or (unit.read run.session.system call.source)
        else unit.read run.session.system (call.source + index * unit.size)
      match value with
      | none => some (false, run)
      | some value =>
          let address := unit.storeAddress (call.dest + index * unit.size)
          let region := (classify address).region
          let stored := unit.store address value run.session.system
          let next := { run with session := { run.session with system := stored.2 } }
          if !stored.1 && region ≠ .bios && region ≠ .gamePakRom then some (false, next)
          else
            (next.advanceUnit call.perUnitCycles).bind
              (copyUnits call unit count (index + 1) (if fill then some value else none))

/-- `hle_cpu_set`: the cycles that have passed, or nothing where the copy gives up. -/
def hleCpuSet (call : CpuSetCall) (session : CoreSession) : Option (Option U32 × CoreSession) :=
  if call.refused then some (some 0, session)
  else
    (if call.word then copyUnits call cpuSetWord call.count.toNat 0 none ⟨session, 0, 0⟩
    else copyUnits call cpuSetHalfword call.count.toNat 0 none ⟨session, 0, 0⟩).map
      fun (copied, run) => (if copied then some run.consumedCycles else none, run.session)

/-! ## Waiting for an interrupt -/

/-- The distance to the next edge of the display that a mask watches, as far as it matters. -/
def intrWaitPpuHorizonCycles (ppu : PpuTiming) (mask : U16) : U32 :=
  let lineCycle : U32 := ppu.lineCycle.setWidth 32
  let flagCycle : U32 := kHblankFlagCycles.setWidth 32
  let lineCycles : U32 := kCyclesPerLine.setWidth 32
  let watches (source : InterruptSource) : Bool := anySet mask (interruptBit source)
  let hblank : U32 :=
    if lineCycle < flagCycle then flagCycle - lineCycle else lineCycles - lineCycle + flagCycle
  let framePosition := (ppu.line.setWidth 32 * lineCycles + lineCycle) % kCyclesPerFrame
  let vblankEdge : U32 := kVisibleLines.setWidth 32 * lineCycles
  let vblankDistance := (vblankEdge + kCyclesPerFrame - framePosition) % kCyclesPerFrame
  let vblank := if vblankDistance = 0 then kCyclesPerFrame else vblankDistance
  let currentLine : U32 := ppu.line.setWidth 32
  let lines := (ppu.vcountSetting.setWidth 32 + kTotalLines.setWidth 32 - currentLine) %
    kTotalLines.setWidth 32
  let linesUntilMatch : U32 := if lines = 0 then kTotalLines.setWidth 32 else lines
  let vcount := (linesUntilMatch - 1) * lineCycles + (lineCycles - lineCycle)
  let bound (enabled : Bool) (distance horizon : U32) : U32 :=
    if enabled && distance < horizon then distance else horizon
  bound (watches .vcount && ppu.vcountIrqEnabled) vcount
    (bound (watches .vblank && ppu.vblankIrqEnabled) vblank
      (bound (watches .hblank && ppu.hblankIrqEnabled) hblank kIntrWaitCoarseBatchCycles))

/-- A timer that counts cycles itself. -/
def isRootTimer (timers : Timers) (index : Fin 4) : Bool :=
  (timers.timers index).enabled && !(timers.timers index).countUp index

/-- The cycles until a timer that counts cycles overflows. -/
def rootDistance (timers : Timers) (index : Fin 4) : U64 :=
  let timer := timers.timers index
  let ticksToOverflow : U32 := 0x10000#32 - timer.counter.setWidth 32
  (timers.cyclesUntilNextPrescalerTick index).setWidth 64 +
    (ticksToOverflow - 1).setWidth 64 * timer.prescalerDivisor.setWidth 64

/-- `intr_wait_timer_horizon_cycles`. -/
def intrWaitTimerHorizonCycles (timers : Timers) (mask : U16) : U32 :=
  let roots := (List.finRange 4).filter (isRootTimer timers)
  let earliestRoot := roots.foldl
    (fun earliest index =>
      let distance := rootDistance timers index
      if distance < earliest.setWidth 64 then distance.setWidth 32 else earliest)
    kIntrWaitCoarseBatchCycles
  if (List.finRange 4).any fun timer =>
      anySet mask (interruptBit (timerInterruptSource timer)) && roots.any fun root => root ≤ timer
  then if earliestRoot = 0 then 1 else earliestRoot
  else kIntrWaitCoarseBatchCycles

/-- `intr_wait_serial_horizon_cycles`. -/
def intrWaitSerialHorizonCycles (io : SerialRegisters) (mask : U16) : U32 :=
  if !anySet mask (interruptBit .serial) || !io.sioTransferActive then kIntrWaitCoarseBatchCycles
  else if io.sioTransferCyclesRemaining = 0 then 1
  else io.sioTransferCyclesRemaining

/-- The smaller of two words. -/
def minWord (left right : U32) : U32 := if right < left then right else left

/-- `intr_wait_batch_cycles`. -/
def intrWaitBatchCycles (devices : Devices) (mask : U16) : U32 :=
  let horizon := minWord (minWord (intrWaitPpuHorizonCycles devices.ppu mask)
    (intrWaitTimerHorizonCycles devices.timers mask))
    (intrWaitSerialHorizonCycles devices.io mask)
  if horizon < 1 then 1 else minWord horizon kIntrWaitCoarseBatchCycles

namespace CoreSession

/-- An interrupt that ends a wait is taken without latency. -/
def latchWait (session : CoreSession) : CoreSession :=
  if session.irqReady then
    session.modifyScheduler fun state =>
      { state with autoIrqLineHigh := true, autoIrqLatencyCycles := 0 }
  else session

/-- The watched interrupt has been requested. -/
def waitOver (mask : U16) (session : CoreSession) : Bool :=
  anySet session.system.devices.interrupts.interruptFlags mask

/-- The loop of `wait_for_interrupt_mask`, with batches of the given lengths. Every pass takes at
least one cycle, so that as many passes as there are cycles are enough. -/
def waitLoop (batchCycles : Devices → U16 → U32) (mask : U16) :
    Nat → U32 → CoreSession → Option (Bool × CoreSession)
  | 0, _, session => some (session.waitOver mask, if session.waitOver mask then session.latchWait
      else session)
  | passes + 1, cycles, session =>
      if session.waitOver mask then some (true, session.latchWait)
      else if kMaxBiosWaitCycles ≤ cycles then some (false, session)
      else
        let batch := minWord (batchCycles session.system.devices mask) (kMaxBiosWaitCycles - cycles)
        (session.advanceDevices batch).bind fun (_, session) =>
          waitLoop batchCycles mask passes (cycles + batch) session

/-- Acknowledge the watched interrupts. -/
def discardFlags (mask : U16) (session : CoreSession) : CoreSession :=
  { session with
    system :=
      { session.system with
        devices :=
          { session.system.devices with
            interrupts := session.system.devices.interrupts.writeInterruptFlags mask } } }

/-- `wait_for_interrupt_mask`. -/
def waitForInterruptMask (mask : U16) (discardOldFlags : Bool) (session : CoreSession) :
    Option (Bool × CoreSession) :=
  if mask = 0 then some (false, session)
  else
    waitLoop intrWaitBatchCycles mask kMaxBiosWaitCycles.toNat 0
      (if discardOldFlags then session.discardFlags mask else session)

/-! ## The calls -/

/-- `hle_irq_depth`. -/
def hleIrqDepth (session : CoreSession) : U32 :=
  BitVec.ofNat 32 session.scheduler.hleIrqOuterFrames.length +
    if session.scheduler.hleIrqSavedRegisters.isSome then 1 else 0

/-- `queue_hle_work`. -/
def queueHleWork (cycles : U64) (session : CoreSession) : CoreSession :=
  if cycles = 0 then session
  else
    session.modifyScheduler fun state =>
      { state with
        hleWorkFrames := state.hleWorkFrames ++ [⟨cycles, session.hleIrqDepth⟩] }

/-- The outcome of a service: its cycles before adjustment with their profile, or nothing where the
source answers `unsupported`. -/
abbrev HleOutcome := Option (U32 × HleSwiProfileKind) × CoreSession

/-- A service that changes registers only. -/
def servedBy (session : CoreSession) (cycles : U32) (profile : HleSwiProfileKind)
    (cpu : Arm7tdmi) : HleOutcome :=
  (some (cycles, profile), { session with cpu := cpu })

/-- A service that succeeds with its stores. -/
def servedIf (session : CoreSession) (cycles : U32) (profile : HleSwiProfileKind)
    (stored : Bool × System) : HleOutcome :=
  (if stored.1 then some (cycles, profile) else none, { session with system := stored.2 })

/-- A service that waits for an interrupt. -/
def servedAfterWait (session : CoreSession) (mask : U16) (discardOldFlags : Bool)
    (cycles : CoreSession → U32) : Option HleOutcome :=
  (session.waitForInterruptMask mask discardOldFlags).map fun (matched, session) =>
    (if matched then some (cycles session, .simple) else none, session)

/-- A service that copies. -/
def servedCopy (session : CoreSession) (fast : Bool) : Option HleOutcome :=
  let call := CpuSetCall.ofRegisters fast session.cpu
  (hleCpuSet call session).map fun (consumed, session) =>
    (consumed.map fun consumed => (call.baseCycles - consumed, .cpuSet), session)

/-- The end of an LZ77 service: the registers and the work that the decompression is worth. -/
def finishLz77 (session : CoreSession) (system : System) (state : Lz77State) (dest : U32)
    (cycles : U64) : CoreSession :=
  let cpu := ((session.cpu.setRegister 0 state.source).setRegister 1
    (dest + BitVec.ofNat 32 state.output.length)).setRegister 3 0
  { session with cpu := cpu, system := system }.queueHleWork
    (cycles + kHleLz77AdditionalCallCycles)

/-- `hle_lz77_uncomp_wram`. -/
def hleLz77UncompWram (session : CoreSession) : Bool × CoreSession :=
  let dest := session.cpu.registers 1
  match hleLz77DecompressFromSource session.system (session.cpu.registers 0) dest false with
  | none => (false, session)
  | some state =>
      match lz77WriteWram state.output dest state.cycles session.system with
      | (false, _, system) => (false, { session with system := system })
      | (true, cycles, system) => (true, session.finishLz77 system state dest cycles)

/-- `hle_lz77_uncomp_vram`. -/
def hleLz77UncompVram (session : CoreSession) : Bool × CoreSession :=
  let dest := session.cpu.registers 1 &&& ~~~1#32
  match hleLz77DecompressFromSource session.system (session.cpu.registers 0) dest true with
  | none => (false, session)
  | some state =>
      match hleWriteDecompressedVram state.output (session.cpu.registers 1) session.system with
      | (false, system) => (false, { session with system := system })
      | (true, system) =>
          (true, session.finishLz77 system state dest
            (state.cycles + lz77VramCycles system.devices.waitcnt state.output dest))

/-- An LZ77 service. -/
def servedLz77 (result : Bool × CoreSession) : HleOutcome :=
  (if result.1 then some (3, .cpuSet) else none, result.2)

/-- The registers after a division. -/
def divided (cpu : Arm7tdmi) (numerator denominator : U32) : Arm7tdmi :=
  ((cpu.setRegister 0 (BiosController.hleDivQuotient numerator denominator)).setRegister 1
    (BiosController.hleDivRemainder numerator denominator)).setRegister 3
    (BiosController.hleDivAbsScratch numerator denominator)

/-- The switch of `execute_hle_swi`; `Halt` is traced to a diagnostic sink there. -/
def hleService (service : U8) (session : CoreSession) : Option HleOutcome :=
  let cpu := session.cpu
  let system := session.system
  let written := writeDecompressed hleWriteDecompressedWram
  let writtenVram := writeDecompressed hleWriteDecompressedVram
  match service.toNat with
  | 0x01 =>
      let devices := system.devices
      some (some (200, .simple),
        { session with
          system :=
            { memory := system.memory.registerRamReset (cpu.registers 0)
              devices :=
                { devices with
                  ppu := (devices.ppu.writeLcdControl 0x04000000#32 0x0080#16).getD
                    devices.ppu } } })
  | 0x02 =>
      session.servedAfterWait system.devices.interrupts.interruptEnable false fun session =>
        if anySet session.system.devices.interrupts.pendingMask (interruptBit .hblank) then
          kHblankHaltReturnCycles
        else 1
  | 0x04 =>
      session.servedAfterWait ((cpu.registers 1).setWidth 16) (cpu.registers 0 ≠ 0) fun _ =>
        kIntrWaitReturnCycles
  | 0x05 => session.servedAfterWait 0x0001#16 true fun _ => kVBlankIntrWaitReturnCycles
  | 0x06 =>
      let numerator := cpu.registers 0
      let denominator := cpu.registers 1
      some (session.servedBy (BiosController.hleDivBaseCycles numerator denominator) .literal
        (divided cpu numerator denominator))
  | 0x07 =>
      let numerator := cpu.registers 1
      let denominator := cpu.registers 0
      some (session.servedBy (BiosController.hleDivBaseCycles numerator denominator) .literal
        (divided cpu numerator denominator))
  | 0x08 =>
      let input := cpu.registers 0
      some (session.servedBy (BiosController.hleSqrtBaseCycles input)
        (if 0xFF#32 < input then .literal else .simple)
        (cpu.setRegister 0 (BiosController.hleSqrt input)))
  | 0x09 =>
      let result := BiosController.hleArcTan (cpu.registers 0)
      some (session.servedBy 99 .simple
        (((cpu.setRegister 0 result.angle).setRegister 1 result.scratchR1).setRegister 3
          result.scratchR3))
  | 0x0A =>
      let result := BiosController.hleArcTan2 (cpu.registers 0) (cpu.registers 1) (cpu.registers 1)
      some (session.servedBy 99 .simple
        (((cpu.setRegister 0 (result.1 &&& 0xFFFF#32)).setRegister 1 result.2).setRegister 3
          0x170#32))
  | 0x0B => session.servedCopy false
  | 0x0C => session.servedCopy true
  | 0x0E => some (session.servedIf 3 .simple (hleBgAffineSet cpu system))
  | 0x0F => some (session.servedIf 3 .simple (hleObjAffineSet cpu system))
  | 0x10 => some (session.servedIf 3 .cpuSet (hleBitUnpack cpu system))
  | 0x11 => some (servedLz77 session.hleLz77UncompWram)
  | 0x12 => some (servedLz77 session.hleLz77UncompVram)
  | 0x13 =>
      some (session.servedIf 3 .cpuSet
        (written (hleRleDecompressFromSource 0x30#8 (cpu.registers 0) system) cpu system))
  | 0x14 =>
      some (session.servedIf 3 .cpuSet
        (writtenVram (hleRleDecompressFromSource 0x30#8 (cpu.registers 0) system) cpu system))
  | 0x15 =>
      some (session.servedIf 3 .cpuSet
        (written (hleDiff8DecompressFromSource 0x21#8 (cpu.registers 0) system) cpu system))
  | 0x16 =>
      some (session.servedIf 3 .cpuSet
        (writtenVram (hleDiff8DecompressFromSource 0x21#8 (cpu.registers 0) system) cpu system))
  | 0x17 =>
      some (session.servedIf 3 .cpuSet
        (writtenVram (hleDiff16DecompressFromSource 0x22#8 (cpu.registers 0) system) cpu system))
  | _ => some (none, session)

/-- The result of a call. -/
def hleResult (call : BiosSwiCall) (fetchAddress : U32) (outcome : HleOutcome) : ArmStepResult :=
  let session := outcome.2
  match outcome.1 with
  | none => ⟨.unsupported, 1, session.cpu.elapsedCycles, false, false⟩
  | some (baseCycles, profile) =>
      ⟨.executed,
        addHleProfileAdjustment baseCycles
          (hleSwiProfileAdjustment call fetchAddress session.system.devices.waitcnt profile),
        session.cpu.elapsedCycles, false, false⟩

/-- `execute_hle_swi`. -/
def executeHleSwi (call : BiosSwiCall) (fetchAddress : U32) (session : CoreSession) :
    Option (ArmStepResult × CoreSession) :=
  if session.bios.handlesSwi call then
    (session.hleService call.service).map fun outcome =>
      (hleResult call fetchAddress outcome, outcome.2)
  else some (hleResult call fetchAddress (none, session), session)

end CoreSession

end Gba.Core
