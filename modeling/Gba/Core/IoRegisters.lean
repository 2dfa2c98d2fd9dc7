import Gba.Core.Apu
import Gba.Core.DmaController
import Gba.Core.Keypad
import Gba.Core.PpuTiming
import Gba.Core.Timers
import Gba.Core.WaitStates

/-!
# The I/O registers

`IoRegisters` of `io_registers.cpp`: the facade through which the bus reads and writes the devices,
with the serial registers that it holds itself. `Devices` is everything the facade reaches.
-/

namespace Gba.Core

/-- `IoRegistersState`: the registers that the facade holds itself. -/
@[ext]
structure SerialRegisters where
  serial : Fin 7 → U16
  sioTransferActive : Bool
  sioTransferCyclesRemaining : U32
  deriving DecidableEq

/-- The devices behind the I/O facade. -/
@[ext]
structure Devices where
  interrupts : InterruptController
  timers : Timers
  dma : DmaController
  ppu : PpuTiming
  apu : Apu
  waitcnt : WaitStateControl
  keypad : Keypad
  io : SerialRegisters

/-- `kDispstat`. -/
def kDispstat : U32 := 0x04000004#32
/-- `kVcount`. -/
def kVcount : U32 := 0x04000006#32
/-- `kSoundcntL`. -/
def kSoundcntL : U32 := 0x04000080#32
/-- `kSoundcntH`. -/
def kSoundcntH : U32 := 0x04000082#32
/-- `kSoundcntX`. -/
def kSoundcntX : U32 := 0x04000084#32
/-- `kSoundbias`. -/
def kSoundbias : U32 := 0x04000088#32
/-- `kDmaBase`. -/
def kDmaBase : U32 := 0x040000B0#32
/-- `kDmaChannelStride`. -/
def kDmaChannelStride : U32 := 12#32
/-- `kTimerBase`. -/
def kTimerBase : U32 := 0x04000100#32
/-- `kTimerStride`. -/
def kTimerStride : U32 := 4#32
/-- `kKeyinput`. -/
def kKeyinput : U32 := 0x04000130#32
/-- `kKeycnt`. -/
def kKeycnt : U32 := 0x04000132#32
/-- `kRcnt`. -/
def kRcnt : U32 := 0x04000134#32
/-- `kSiocnt`. -/
def kSiocnt : U32 := 0x04000128#32
/-- `kJoycnt`. -/
def kJoycnt : U32 := 0x04000140#32
/-- `kIe`. -/
def kIe : U32 := 0x04000200#32
/-- `kIf`. -/
def kIf : U32 := 0x04000202#32
/-- `kWaitcnt`. -/
def kWaitcnt : U32 := 0x04000204#32
/-- `kIme`. -/
def kIme : U32 := 0x04000208#32
/-- `kSioIrqEnableBit`. -/
def kSioIrqEnableBit : U16 := 0x4000#16

/-- `kSerialRegisterAddresses`. -/
def kSerialRegisterAddresses : Fin 7 → U32
  | 0 => 0x04000120#32
  | 1 => 0x04000122#32
  | 2 => 0x04000124#32
  | 3 => 0x04000126#32
  | 4 => kSiocnt
  | 5 => 0x0400012A#32
  | 6 => kRcnt

/-- `serial_index`. -/
def serialIndex (address : U32) : Option (Fin 7) :=
  (List.finRange 7).find? fun index => address = kSerialRegisterAddresses index

/-- The channel and the offset within it of a DMA register. -/
def dmaIndex (address : U32) : Option (Fin 4 × U32) :=
  if h : kDmaBase ≤ address ∧ address < kDmaBase + 48#32 then
    have hrelative : ((address - kDmaBase) / kDmaChannelStride).toNat < 4 := by
      unfold kDmaBase at h ⊢
      rw [BitVec.toNat_udiv]
      exact Nat.div_lt_of_lt_mul (by simp only [kDmaChannelStride]; bv_omega)
    some (⟨((address - kDmaBase) / kDmaChannelStride).toNat, hrelative⟩,
      (address - kDmaBase) % kDmaChannelStride)
  else none

/-- The timer and the offset within it of a timer register. -/
def timerIndex (address : U32) : Option (Fin 4 × U32) :=
  if h : kTimerBase ≤ address ∧ address < kTimerBase + 16#32 then
    have hrelative : ((address - kTimerBase) / kTimerStride).toNat < 4 := by
      unfold kTimerBase at h ⊢
      rw [BitVec.toNat_udiv]
      exact Nat.div_lt_of_lt_mul (by simp only [kTimerStride]; bv_omega)
    some (⟨((address - kTimerBase) / kTimerStride).toNat, hrelative⟩,
      (address - kTimerBase) % kTimerStride)
  else none

/-- `wave_ram_index`. -/
def waveRamIndex (address : U32) : Option (Fin 8) :=
  if h : 0x04000090#32 ≤ address ∧ address ≤ 0x0400009E#32 ∧ address &&& 0x1#32 = 0 then
    have hindex : ((address - 0x04000090#32) / 2#32).toNat < 8 := by
      obtain ⟨hlow, hhigh, -⟩ := h
      rw [BitVec.toNat_udiv]
      exact Nat.div_lt_of_lt_mul (by simp only [BitVec.toNat_ofNat]; bv_omega)
    some ⟨((address - 0x04000090#32) / 2#32).toNat, hindex⟩
  else none

/-- `serial_mode`. -/
def serialMode (siocnt : U16) : U16 := siocnt &&& 0x3000#16

/-- `read_siocnt`. -/
def readSiocnt (value : U16) : U16 :=
  let mode := serialMode value
  0x4F8F#16 ||| mode ||| (if mode = 0x3000#16 then value &&& 0x0020#16 else 0)

/-- `read_rcnt`. -/
def readRcnt (rcnt siocnt : U16) : U16 :=
  if rcnt &&& 0xC000#16 = 0x8000#16 then 0x81FF#16
  else if rcnt &&& 0xC000#16 = 0xC000#16 then 0xC1FC#16
  else if serialMode siocnt = 0x0000#16 ∨ serialMode siocnt = 0x1000#16 then 0x01F5#16
  else 0x01FF#16

/-- `read_serial_data`. -/
def readSerialData (address : U32) (siocnt stored : U16) : U16 :=
  if address = 0x04000120#32 ∨ address = 0x04000122#32 then
    if serialMode siocnt = 0x1000#16 then stored else 0
  else if address = 0x04000124#32 ∨ address = 0x04000126#32 then 0
  else if address = 0x0400012A#32 then if serialMode siocnt = 0x3000#16 then 0 else stored
  else stored

/-- `serial_transfer_cycles`: the length of the transfer that a SIOCNT write starts, if any. -/
def serialTransferCycles (siocnt : U16) : Option U32 :=
  if !anySet siocnt 0x0080#16 ∨ !anySet siocnt 0x0001#16 then none
  else
    let cyclesPerBit : U32 := if anySet siocnt 0x0002#16 then 8 else 64
    if serialMode siocnt = 0x0000#16 then some (8 * cyclesPerBit + 40)
    else if serialMode siocnt = 0x1000#16 then some (32 * cyclesPerBit + 40)
    else none

/-- `zero_read_hole`. -/
def zeroReadHole (address : U32) : Bool :=
  [0x04000066#32, 0x0400006A#32, 0x0400006E#32, 0x04000076#32, 0x0400007A#32, 0x0400007E#32,
    0x04000086#32, 0x0400008A#32, 0x04000136#32, 0x04000142#32, 0x0400015A#32, 0x04000206#32,
    0x0400020A#32, 0x04000302#32].contains address

/-- The registers of the JOY bus that read as zero and ignore writes. -/
def joyData (address : U32) : Bool :=
  [0x04000150#32, 0x04000152#32, 0x04000154#32, 0x04000156#32].contains address

/-- The sound registers whose read value is fixed. -/
def fixedSoundRead (address : U32) : Option U16 :=
  [(0x04000060#32, 0x007F#16), (0x04000062#32, 0xFFC0#16), (0x04000064#32, 0x4000#16),
    (0x04000068#32, 0xFFC0#16), (0x0400006C#32, 0x4000#16), (0x04000070#32, 0x00E0#16),
    (0x04000072#32, 0xE000#16), (0x04000074#32, 0x4000#16), (0x04000078#32, 0xFF00#16),
    (0x0400007C#32, 0x40FF#16)].lookup address

/-- `replace_low16`. -/
def replaceLow16 (current : U32) (value : U16) : U32 :=
  current &&& 0xFFFF0000#32 ||| value.setWidth 32

/-- `replace_high16`. -/
def replaceHigh16 (current : U32) (value : U16) : U32 :=
  current &&& 0x0000FFFF#32 ||| value.setWidth 32 <<< 16

/-- `combine16`. -/
def combine16 (low high : U16) : U32 := low.setWidth 32 ||| high.setWidth 32 <<< 16

/-- `is_lcd_control_address` of the facade. -/
def isLcdControlWrite (address : U32) : Bool :=
  if address &&& 0x1#32 ≠ 0 then false
  else if address ≤ 0x0400001E#32 then address ≠ kDispstat && address ≠ kVcount
  else if 0x04000020#32 ≤ address ∧ address ≤ 0x0400003E#32 then true
  else 0x04000040#32 ≤ address ∧ address ≤ 0x04000054#32

/-- `can_write16_address`. -/
def canWrite16Address (address : U32) : Bool :=
  if address &&& 0x1#32 ≠ 0 then false
  else if [kDispstat, kSoundcntL, kSoundcntH, kSoundcntX, kSoundbias, kKeycnt, kIe, kIf, kWaitcnt,
      kIme].contains address then true
  else if address = kVcount then false
  else if isLcdControlWrite address then true
  else
    match timerIndex address with
    | some (_, offset) => offset = 0 || offset = 2
    | none =>
      if (serialIndex address).isSome then true
      else
        match dmaIndex address with
        | some (_, offset) => [0, 2, 4, 6, 8, 10].contains offset
        | none => false

/-- A write to a DMA register; `none` when the address is no writable one. -/
def DmaController.writeRegister (dma : DmaController) (address : U32) (value : U16) :
    Option DmaController :=
  match dmaIndex address with
  | none => none
  | some (channel, offset) =>
      let state := dma.channels channel
      if offset = 0 then some (dma.writeSource channel (replaceLow16 state.source value))
      else if offset = 2 then some (dma.writeSource channel (replaceHigh16 state.source value))
      else if offset = 4 then
        some (dma.writeDestination channel (replaceLow16 state.destination value))
      else if offset = 6 then
        some (dma.writeDestination channel (replaceHigh16 state.destination value))
      else if offset = 8 then some (dma.writeWordCount channel value)
      else if offset = 10 then some (dma.writeControl channel value)
      else none

namespace SerialRegisters

/-- The registers after a reset. -/
def reset : SerialRegisters := ⟨fun _ => 0, false, 0⟩

/-- A write to a serial register; SIOCNT starts or aborts a transfer. -/
def writeSerial (io : SerialRegisters) (index : Fin 7) (value : U16) : SerialRegisters :=
  let written := { io with serial := Function.update io.serial index value }
  if index = 4 then
    let transferCycles := serialTransferCycles value
    { written with
      sioTransferActive := transferCycles.isSome
      sioTransferCyclesRemaining := transferCycles.getD 0 }
  else written

/-- `tick`. -/
def tick (io : SerialRegisters) (cycles : U32) (interrupts : InterruptController) :
    SerialRegisters × InterruptController :=
  if !io.sioTransferActive ∨ cycles = 0 then (io, interrupts)
  else if cycles < io.sioTransferCyclesRemaining then
    ({ io with sioTransferCyclesRemaining := io.sioTransferCyclesRemaining - cycles }, interrupts)
  else
    ({ io with sioTransferActive := false, sioTransferCyclesRemaining := 0 },
      if anySet (io.serial 4) kSioIrqEnableBit then interrupts.request .serial else interrupts)

end SerialRegisters

namespace Devices

/-- The devices after a reset. -/
def reset : Devices where
  interrupts := .reset
  timers := .reset
  dma := .reset
  ppu := .reset
  apu := .reset
  waitcnt := .reset
  keypad := .reset
  io := .reset

/-- The registers of `read16` that are looked up by their address alone. -/
def readNamed (d : Devices) (address : U32) : Option U16 :=
  [(kDispstat, d.ppu.dispstat), (kVcount, d.ppu.line), (kSoundcntL, d.apu.soundcntL),
    (kSoundcntH, d.apu.soundcntH), (kSoundcntX, d.apu.soundcntX), (kSoundbias, d.apu.soundbias),
    (kKeyinput, d.keypad.keyinput), (kKeycnt, d.keypad.keycnt),
    (kIe, d.interrupts.interruptEnable), (kIf, d.interrupts.interruptFlags),
    (kWaitcnt, d.waitcnt.control), (kIme, d.interrupts.ime)].lookup address

/-- The end of `read16`: the serial, wave RAM and DMA registers. -/
def readIndexed (d : Devices) (address : U32) : Option U16 :=
  match serialIndex address with
  | some index =>
      if address = kSiocnt then some (readSiocnt (d.io.serial index))
      else if address = kRcnt then some (readRcnt (d.io.serial index) (d.io.serial 4))
      else some (readSerialData address (d.io.serial 4) (d.io.serial index))
  | none =>
    if address = kJoycnt then some 0x0040#16
    else if joyData address then some 0
    else
      match waveRamIndex address with
      | some index => some (d.apu.waveRam index)
      | none =>
        match dmaIndex address with
        | some (channel, offset) =>
            if offset = 8 then some 0
            else if offset = 10 then some (d.dma.channels channel).control
            else none
        | none => none

/-- `read16`. -/
def read16 (d : Devices) (address : U32) : Option U16 :=
  if address &&& 0x1#32 ≠ 0 then none
  else
    (fixedSoundRead address).or <| (d.readNamed address).or <|
      if zeroReadHole address then some 0
      else
        match d.ppu.readLcdControl address with
        | some value => some value
        | none =>
          match timerIndex address with
          | some (timer, offset) =>
              if offset = 0 then some (d.timers.timers timer).counter
              else if offset = 2 then some (d.timers.timers timer).control
              else none
          | none => d.readIndexed address

/-- `read32`. -/
def read32 (d : Devices) (address : U32) : Option U32 :=
  if address &&& 0x3#32 ≠ 0 then none
  else if address = kIme then (d.read16 address).map fun value => value.setWidth 32
  else do
    let low ← d.read16 address
    let high ← d.read16 (address + 2)
    return combine16 low high

/-- The end of `write16`: the serial, JOY, wave RAM and DMA registers. -/
def writeIndexed (d : Devices) (address : U32) (value : U16) : Bool × Devices :=
  match serialIndex address with
  | some index => (true, { d with io := d.io.writeSerial index value })
  | none =>
    if address = kJoycnt ∨ joyData address then (true, d)
    else
      match waveRamIndex address with
      | some index => (true, { d with apu := d.apu.writeWaveRam index value })
      | none =>
        match d.dma.writeRegister address value with
        | some dma => (true, { d with dma := dma })
        | none => (false, d)

/-- The part of `write16` after the registers with a fixed address. -/
def writeBanked (d : Devices) (address : U32) (value : U16) : Bool × Devices :=
  match d.ppu.writeLcdControl address value with
  | some ppu => (true, { d with ppu := ppu })
  | none =>
    match timerIndex address with
    | some (timer, offset) =>
        if offset = 0 then (true, { d with timers := d.timers.writeReload timer value })
        else if offset = 2 then (true, { d with timers := d.timers.writeControl timer value })
        else (false, d)
    | none => d.writeIndexed address value

/-- A write to DISPSTAT, which may newly assert the VCOUNT match. -/
def writeDispstat (d : Devices) (value : U16) : Devices :=
  let (asserted, ppu) := d.ppu.recheckVcountMatch value
  { d with
    ppu := ppu
    interrupts :=
      if asserted && ppu.vcountIrqEnabled then d.interrupts.request .vcount else d.interrupts }

/-- A write to KEYCNT polls the keypad interrupt. -/
def writeKeycnt (d : Devices) (value : U16) : Devices :=
  let keypad := d.keypad.writeKeycnt value
  { d with keypad := keypad, interrupts := keypad.pollInterrupt d.interrupts }

/-- `write16`. -/
def write16 (d : Devices) (address : U32) (value : U16) : Bool × Devices :=
  if address &&& 0x1#32 ≠ 0 then (false, d)
  else if address = kDispstat then (true, d.writeDispstat value)
  else if address = kVcount then (false, d)
  else if address = kSoundcntL then (true, { d with apu := d.apu.writeSoundcntL value })
  else if address = kSoundcntH then (true, { d with apu := d.apu.writeSoundcntH value })
  else if address = kSoundcntX then (true, { d with apu := d.apu.writeSoundcntX value })
  else if address = kSoundbias then (true, { d with apu := d.apu.writeSoundbias value })
  else if address = kKeyinput then (false, d)
  else if address = kKeycnt then (true, d.writeKeycnt value)
  else if address = kIe then
    (true, { d with interrupts := d.interrupts.writeInterruptEnable value })
  else if address = kIf then
    (true, { d with interrupts := d.interrupts.writeInterruptFlags value })
  else if address = kWaitcnt then (true, { d with waitcnt := .writeControl value })
  else if address = kIme then (true, { d with interrupts := d.interrupts.writeIme value })
  else d.writeBanked address value

/-- The two halves of `write32`: a half that is no writable register is dropped. -/
def writeHalves (d : Devices) (address : U32) (low high : U16) : Bool × Devices :=
  let (handledLow, d) := if canWrite16Address address then d.write16 address low else (false, d)
  if canWrite16Address (address + 2) then
    let (handledHigh, d) := d.write16 (address + 2) high
    (handledHigh || handledLow, d)
  else (handledLow, d)

/-- `write32`. -/
def write32 (d : Devices) (address value : U32) : Bool × Devices :=
  if address &&& 0x3#32 ≠ 0 then (false, d)
  else if address = kIme ∨ address = kWaitcnt then d.write16 address (value.setWidth 16)
  else if address = kFifoAAddress then (true, { d with apu := d.apu.writeFifo .a value })
  else if address = kFifoBAddress then (true, { d with apu := d.apu.writeFifo .b value })
  else d.writeHalves address (value.setWidth 16) ((value >>> 16).setWidth 16)

end Devices

end Gba.Core
