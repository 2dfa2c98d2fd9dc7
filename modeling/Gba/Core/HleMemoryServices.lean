import Gba.Core.Arm7tdmi
import Gba.Core.DmaTransfer
import Gba.Core.HleArithmetic

/-!
# Memory services of the emulated BIOS

The services of `CoreScheduler` that read and write memory while the devices stand still:
decompression, bit unpacking and the affine sets. A service that gives up half way keeps what it
has written. Decompression collects its output before it writes any of it, as in the source.
-/

namespace Gba.Core

/-! ## Wait states and resets -/

/-- `hle_memory_cycles`. -/
def hleMemoryCycles (waitcnt : WaitStateControl) (address : U32) (width : AccessWidth)
    (load : Bool) : U64 :=
  let region := (classify address).region
  let access := timing address width waitcnt
  let cartridge : U64 :=
    if region = .gamePakRom ∨ region = .gamePakSave then
      1 + if region = .gamePakRom ∧ width = .word then access.sequential.setWidth 64 + 1 else 0
    else 0
  access.nonsequential.setWidth 64 + cartridge + if load then 1 else 0

/-- `MemoryBus::register_ram_reset`. The top of the work RAM holds the stacks and survives. -/
def MemoryBus.registerRamReset (bus : MemoryBus) (flags : U32) : MemoryBus :=
  { bus with
    ewram := if flags.getLsbD 0 then fun _ => 0 else bus.ewram
    iwram :=
      if flags.getLsbD 1 then fun index =>
        if index.val < kIwramSize - 0x200 then 0 else bus.iwram index
      else bus.iwram
    palette := if flags.getLsbD 2 then fun _ => 0 else bus.palette
    vram := if flags.getLsbD 3 then fun _ => 0 else bus.vram
    oam := if flags.getLsbD 4 then fun _ => 0 else bus.oam }

/-! ## Affine sets -/

/-- A loop of the source over `count` units that gives up at the first failure. -/
def forUnits (unit : U32 → System → Bool × System) : Nat → U32 → System → Bool × System
  | 0, _, system => (true, system)
  | count + 1, index, system =>
      BusState.andThen (unit index system) fun system => forUnits unit count (index + 1) system

/-- Stores of the source joined by `&&`. -/
def storeAll : List (System → Bool × System) → System → Bool × System
  | [], system => (true, system)
  | store :: rest, system => BusState.andThen (store system) fun system => storeAll rest system

/-- A halfword store. -/
def storeHalfword (address : U32) (value : U16) (system : System) : Bool × System :=
  system.write16 ioCallbacks address value

/-- A word store. -/
def storeWord (address value : U32) (system : System) : Bool × System :=
  system.write32 ioCallbacks address value

/-- The bytes that one matrix of `hle_bg_affine_set` is made from. -/
structure BgAffineSource where
  originX : U32
  originY : U32
  centerX : U16
  centerY : U16
  scaleX : U16
  scaleY : U16
  rotation : U16

/-- The reads of `hle_bg_affine_set`. -/
def readBgAffineSource (src : U32) (system : System) : Option BgAffineSource := do
  let originX ← system.read32 ioCallbacks src
  let originY ← system.read32 ioCallbacks (src + 4)
  let centerX ← system.read16 ioCallbacks (src + 8)
  let centerY ← system.read16 ioCallbacks (src + 10)
  let scaleX ← system.read16 ioCallbacks (src + 12)
  let scaleY ← system.read16 ioCallbacks (src + 14)
  let rotation ← system.read16 ioCallbacks (src + 16)
  return { originX, originY, centerX, centerY, scaleX, scaleY, rotation }

/-- One pass of the loop of `hle_bg_affine_set`; of the 64-bit products only the low words
count. -/
def bgAffineUnit (source dest index : U32) (system : System) : Bool × System :=
  let dst := dest + index * 16
  match readBgAffineSource (source + index * 20) system with
  | none => (false, system)
  | some bg =>
      let matrix := BiosController.hleAffineMatrixWide bg.scaleX bg.scaleY bg.rotation
      let x : U32 := bg.centerX.signExtend 32
      let y : U32 := bg.centerY.signExtend 32
      storeAll
        [storeHalfword dst (matrix.pa.setWidth 16), storeHalfword (dst + 2) (matrix.pb.setWidth 16),
          storeHalfword (dst + 4) (matrix.pc.setWidth 16),
          storeHalfword (dst + 6) (matrix.pd.setWidth 16),
          storeWord (dst + 8) (bg.originX - (matrix.pa * x + matrix.pb * y)),
          storeWord (dst + 12) (bg.originY - (matrix.pc * x + matrix.pd * y))] system

/-- `hle_bg_affine_set`. -/
def hleBgAffineSet (cpu : Arm7tdmi) (system : System) : Bool × System :=
  let count := (cpu.registers 2).toInt
  if count ≤ 0 then (false, system)
  else forUnits (bgAffineUnit (cpu.registers 0) (cpu.registers 1)) count.toNat 0 system

/-- One pass of the loop of `hle_obj_affine_set`. -/
def objAffineUnit (source dest stride index : U32) (system : System) : Bool × System :=
  let src := source + index * 8
  let dst := dest + index * stride * 4
  match system.read16 ioCallbacks src, system.read16 ioCallbacks (src + 2),
    system.read16 ioCallbacks (src + 4) with
  | some scaleX, some scaleY, some rotation =>
      let matrix := BiosController.hleAffineMatrixWide scaleX scaleY rotation
      storeAll
        [storeHalfword dst (matrix.pa.setWidth 16),
          storeHalfword (dst + stride) (matrix.pb.setWidth 16),
          storeHalfword (dst + stride * 2) (matrix.pc.setWidth 16),
          storeHalfword (dst + stride * 3) (matrix.pd.setWidth 16)] system
  | _, _, _ => (false, system)

/-- `hle_obj_affine_set`. -/
def hleObjAffineSet (cpu : Arm7tdmi) (system : System) : Bool × System :=
  let count := (cpu.registers 2).toInt
  if count ≤ 0 ∨ (cpu.registers 3).toInt ≤ 0 then (false, system)
  else
    forUnits (objAffineUnit (cpu.registers 0) (cpu.registers 1) (cpu.registers 3)) count.toNat 0
      system

/-! ## Decompression -/

/-- The header of a compressed stream: its type and the size of its output. -/
def readHeader (system : System) (source : U32) : Option (U8 × U32) := do
  let headerType ← system.read8 ioCallbacks source
  let size0 ← system.read8 ioCallbacks (source + 1)
  let size1 ← system.read8 ioCallbacks (source + 2)
  let size2 ← system.read8 ioCallbacks (source + 3)
  return (headerType,
    size0.setWidth 32 ||| size1.setWidth 32 <<< 8 ||| size2.setWidth 32 <<< 16)

/-- The locals of `hle_lz77_decompress_from_source`. -/
structure Lz77State where
  source : U32
  output : List U8
  cycles : U64

/-- What one call of `hle_lz77_decompress_from_source` does not change. -/
structure Lz77Call where
  system : System
  destination : U32
  vram : Bool
  size : Nat

namespace Lz77Call

variable (call : Lz77Call)

/-- The wait states of the call. -/
def memoryCycles (address : U32) (width : AccessWidth) : U64 :=
  hleMemoryCycles call.system.devices.waitcnt address width true

/-- The lambda `read_byte`. -/
def readByte (state : Lz77State) : Option (U8 × Lz77State) :=
  (call.system.read8 ioCallbacks state.source).map fun byte =>
    (byte,
      { state with
        source := state.source + 1
        cycles := state.cycles + call.memoryCycles state.source .byte })

/-- The copy of `length` bytes from `displacement` back, up to the size of the output. -/
def copyBytes (displacement : Nat) : Nat → Lz77State → Lz77State
  | 0, state => state
  | length + 1, state =>
      if call.size ≤ state.output.length then state
      else
        let address := call.destination + BitVec.ofNat 32 state.output.length -
          BitVec.ofNat 32 displacement
        let cycles : U64 :=
          if call.vram then 14 + call.memoryCycles (address &&& ~~~1#32) .halfword
          else 10 + call.memoryCycles address .byte
        copyBytes displacement length
          { state with
            output := state.output ++ [state.output.getD (state.output.length - displacement) 0]
            cycles := state.cycles + cycles }

/-- A literal byte. -/
def literal (state : Lz77State) : Option Lz77State :=
  (call.readByte state).map fun (byte, state) => { state with output := state.output ++ [byte] }

/-- A reference back into the output. -/
def reference (state : Lz77State) : Option Lz77State := do
  let (tokenHi, state) ← call.readByte state
  let (tokenLo, state) ← call.readByte state
  let length := (tokenHi >>> 4).toNat + 3
  let displacement := (tokenHi &&& 0x0F#8).toNat * 256 + tokenLo.toNat + 1
  if state.output.length < displacement then none
  else some (call.copyBytes displacement length state)

/-- The loop over the remaining bits of a flag byte, from the highest down. -/
def blocks (flags : U8) : Nat → Lz77State → Option Lz77State
  | 0, state => some state
  | bits + 1, state =>
      if call.size ≤ state.output.length then some state
      else
        let charged := { state with cycles := state.cycles + 32 }
        (if flags.getLsbD bits then call.reference charged else call.literal charged).bind
          (blocks flags bits)

/-- The loop over the flag bytes. Every pass adds to the output, so that as many passes as the
output has bytes are enough. -/
def flagBytes : Nat → Lz77State → Option Lz77State
  | 0, state => some state
  | passes + 1, state =>
      if call.size ≤ state.output.length then some state
      else do
        let (flags, state) ← call.readByte { state with cycles := state.cycles + 14 }
        let state ← call.blocks flags 8 state
        flagBytes passes state

end Lz77Call

/-- `hle_lz77_decompress_from_source`: the output, the cycles and the end of the source. -/
def hleLz77DecompressFromSource (system : System) (source destination : U32) (vram : Bool) :
    Option Lz77State := do
  let (headerType, size) ← readHeader system source
  let start : Lz77State :=
    ⟨source + 4, [], 20 + hleMemoryCycles system.devices.waitcnt source .word true⟩
  -- an empty stream is accepted whatever its type
  if size = 0 then some start
  else if headerType ≠ 0x10#8 then none
  else Lz77Call.flagBytes ⟨system, destination, vram, size.toNat⟩ size.toNat start

/-- The loop over the remaining bits of a flag byte of `hle_rle_decompress_from_source`. -/
def rleBlocks (system : System) (size : Nat) (flags : U8) :
    Nat → U32 × List U8 → Option (U32 × List U8)
  | 0, state => some state
  | bits + 1, (source, output) =>
      if size ≤ output.length then some (source, output)
      else if flags.getLsbD bits then do
        let lengthByte ← system.read8 ioCallbacks source
        let value ← system.read8 ioCallbacks (source + 1)
        let length := min (lengthByte.toNat + 3) (size - output.length)
        rleBlocks system size flags bits (source + 2, output ++ List.replicate length value)
      else do
        let literal ← system.read8 ioCallbacks source
        rleBlocks system size flags bits (source + 1, output ++ [literal])

/-- The loop over the flag bytes of `hle_rle_decompress_from_source`. -/
def rleFlagBytes (system : System) (size : Nat) :
    Nat → U32 × List U8 → Option (U32 × List U8)
  | 0, state => some state
  | passes + 1, (source, output) =>
      if size ≤ output.length then some (source, output)
      else do
        let flags ← system.read8 ioCallbacks source
        let state ← rleBlocks system size flags 8 (source + 1, output)
        rleFlagBytes system size passes state

/-- `hle_rle_decompress_from_source`. -/
def hleRleDecompressFromSource (expectedType : U8) (source : U32) (system : System) :
    Option (List U8) := do
  let (headerType, size) ← readHeader system source
  if headerType ≠ expectedType then none
  else (rleFlagBytes system size.toNat size.toNat (source + 4, [])).map Prod.snd

/-- The loop of `hle_diff8_decompress_from_source`. -/
def diff8Bytes (system : System) : Nat → U32 → U8 → Option (List U8)
  | 0, _, _ => some []
  | count + 1, source, previous => do
      let delta ← system.read8 ioCallbacks source
      let rest ← diff8Bytes system count (source + 1) (previous + delta)
      return (previous + delta) :: rest

/-- `hle_diff8_decompress_from_source`. -/
def hleDiff8DecompressFromSource (expectedType : U8) (source : U32) (system : System) :
    Option (List U8) := do
  let (headerType, size) ← readHeader system source
  if headerType ≠ expectedType then none else diff8Bytes system size.toNat (source + 4) 0

/-- The loop of `hle_diff16_decompress_from_source`. -/
def diff16Bytes (system : System) : Nat → U32 → U16 → Option (List U8)
  | 0, _, _ => some []
  | count + 1, source, previous => do
      let deltaLo ← system.read8 ioCallbacks source
      let deltaHi ← system.read8 ioCallbacks (source + 1)
      let value := previous + (deltaLo.setWidth 16 ||| deltaHi.setWidth 16 <<< 8)
      let rest ← diff16Bytes system count (source + 2) value
      return value.setWidth 8 :: (value >>> 8).setWidth 8 :: rest

/-- `hle_diff16_decompress_from_source`; an odd size is refused. -/
def hleDiff16DecompressFromSource (expectedType : U8) (source : U32) (system : System) :
    Option (List U8) := do
  let (headerType, size) ← readHeader system source
  if headerType ≠ expectedType ∨ size.getLsbD 0 then none
  else diff16Bytes system (size.toNat / 2) (source + 4) 0

/-- `hle_write_decompressed_wram`. -/
def hleWriteDecompressedWram : List U8 → U32 → System → Bool × System
  | [], _, system => (true, system)
  | value :: rest, address, system =>
      BusState.andThen (system.write8 ioCallbacks address value) fun system =>
        hleWriteDecompressedWram rest (address + 1) system

/-- `hle_write_decompressed_vram`: an odd byte at the end is written with a zero above it. -/
def hleWriteDecompressedVram : List U8 → U32 → System → Bool × System
  | [], _, system => (true, system)
  | [low], address, system => system.write16 ioCallbacks address (low.setWidth 16)
  | low :: high :: rest, address, system =>
      BusState.andThen
        (system.write16 ioCallbacks address (low.setWidth 16 ||| high.setWidth 16 <<< 8))
        fun system => hleWriteDecompressedVram rest (address + 2) system

/-- Write a decompressed stream to where `r1` points, if there is one. -/
def writeDecompressed (write : List U8 → U32 → System → Bool × System) (output : Option (List U8))
    (cpu : Arm7tdmi) (system : System) : Bool × System :=
  match output with
  | none => (false, system)
  | some output => write output (cpu.registers 1) system

/-- The writes of `hle_lz77_uncomp_wram` with the cycles they take. -/
def lz77WriteWram : List U8 → U32 → U64 → System → Bool × U64 × System
  | [], _, cycles, system => (true, cycles, system)
  | value :: rest, address, cycles, system =>
      let stored := system.write8 ioCallbacks address value
      if stored.1 then
        lz77WriteWram rest (address + 1)
          (cycles + hleMemoryCycles stored.2.devices.waitcnt address .byte false) stored.2
      else (false, cycles, stored.2)

/-- The cycles that `hle_lz77_uncomp_vram` charges for its halfwords. -/
def lz77VramCycles (waitcnt : WaitStateControl) : List U8 → U32 → U64
  | [], _ => 0
  | [_], address => hleMemoryCycles waitcnt address .halfword false
  | _ :: _ :: rest, address =>
      hleMemoryCycles waitcnt address .halfword false + lz77VramCycles waitcnt rest (address + 2)

/-! ## Bit unpacking -/

/-- The locals of the lambda `read_bits`. -/
structure BitReader where
  source : U32
  bitBuffer : U32
  bitCount : U32

/-- The lambda `read_bits`; for at most eight bits one byte is always enough. -/
def BitReader.readBits (system : System) (count : U8) (reader : BitReader) :
    Option (U32 × BitReader) :=
  let taken (reader : BitReader) : U32 × BitReader :=
    let bitCount := reader.bitCount - count.setWidth 32
    (reader.bitBuffer >>> bitCount.toNat &&& 1 <<< count.toNat - 1,
      { reader with bitCount := bitCount })
  if reader.bitCount < count.setWidth 32 then
    (system.read8 ioCallbacks reader.source).map fun (byte : U8) =>
      taken ⟨reader.source + 1, reader.bitBuffer <<< 8 ||| byte.setWidth 32, reader.bitCount + 8⟩
  else some (taken reader)

/-- `BitUnPackInfo` as `hle_bit_unpack` reads it. -/
structure BitUnpackInfo where
  length : U16
  srcBitNum : U8
  destBitNum : U8
  dataOffset : U32

/-- The loops of `hle_bit_unpack` for whole bytes, halfwords and words. -/
def unpackUnits (info : BitUnpackInfo) (store : U32 → U32 → System → Bool × System) :
    Nat → U32 → BitReader → System → Bool × System
  | 0, _, _, system => (true, system)
  | count + 1, index, reader, system =>
      match reader.readBits system info.srcBitNum with
      | none => (false, system)
      | some (value, reader) =>
          BusState.andThen (store index (value + info.dataOffset) system) fun system =>
            unpackUnits info store count (index + 1) reader system

/-- The locals of `hle_bit_unpack` for units below a byte. -/
structure PackedByte where
  outByte : U32
  outBits : U8
  outIndex : U32

/-- The loop of `hle_bit_unpack` for units below a byte, with the last byte after it. -/
def unpackPacked (info : BitUnpackInfo) (dest : U32) :
    Nat → PackedByte → BitReader → System → Bool × System
  | 0, packed, _, system =>
      if packed.outBits = 0 then (true, system)
      else
        system.write8 ioCallbacks (dest + packed.outIndex)
          ((packed.outByte <<< (8 - packed.outBits).toNat).setWidth 8)
  | count + 1, packed, reader, system =>
      match reader.readBits system info.srcBitNum with
      | none => (false, system)
      | some (value, reader) =>
          let mask : U32 := 1 <<< info.destBitNum.toNat - 1
          let outByte := packed.outByte <<< info.destBitNum.toNat |||
            (value + info.dataOffset) &&& mask
          let outBits := packed.outBits + info.destBitNum
          if outBits = 8 then
            BusState.andThen
              (system.write8 ioCallbacks (dest + packed.outIndex) (outByte.setWidth 8))
              fun system => unpackPacked info dest count ⟨0, 0, packed.outIndex + 1⟩ reader system
          else unpackPacked info dest count ⟨outByte, outBits, packed.outIndex⟩ reader system

/-- The reads of `hle_bit_unpack` before its loops. -/
def readBitUnpackInfo (info : U32) (system : System) : Option BitUnpackInfo := do
  let length ← system.read16 ioCallbacks info
  let srcBitNum ← system.read8 ioCallbacks (info + 2)
  let destBitNum ← system.read8 ioCallbacks (info + 3)
  let dataOffset ← system.read32 ioCallbacks (info + 4)
  return { length, srcBitNum, destBitNum, dataOffset }

/-- `hle_bit_unpack`. -/
def hleBitUnpack (cpu : Arm7tdmi) (system : System) : Bool × System :=
  let dest := cpu.registers 1
  match readBitUnpackInfo (cpu.registers 2) system with
  | none => (false, system)
  | some info =>
      let reader : BitReader := ⟨cpu.registers 0, 0, 0⟩
      if info.srcBitNum = 0 ∨ 8#8 < info.srcBitNum then (false, system)
      else if info.destBitNum ∉ [1#8, 2#8, 4#8, 8#8, 16#8, 32#8] then (false, system)
      else if info.destBitNum = 8 then
        unpackUnits info (fun index value system =>
          system.write8 ioCallbacks (dest + index) (value.setWidth 8)) info.length.toNat 0 reader
          system
      else if info.destBitNum = 16 then
        unpackUnits info (fun index value => storeHalfword (dest + index * 2) (value.setWidth 16))
          info.length.toNat 0 reader system
      else if info.destBitNum = 32 then
        unpackUnits info (fun index value => storeWord (dest + index * 4) value)
          info.length.toNat 0 reader system
      else unpackPacked info dest info.length.toNat ⟨0, 0, 0⟩ reader system

end Gba.Core
