import Gba.Core.AddressMap
import Gba.Core.GamePakSave
import Mathlib.Logic.Function.Basic

/-!
# The memory bus

`MemoryBus` of `memory_bus.cpp`: the internal memories, the cartridge, the debug ports and the
open-bus latch. Accesses to the I/O region go through the callbacks to whatever state stands behind
them, which a write may change.
-/

namespace Gba.Core

/-- The byte of an array at an offset. Every offset the bus computes is inside the array it
indexes (`classify_offset_lt`). -/
def byteAt {n : Nat} (bytes : Fin n → U8) (offset : U32) : U8 :=
  if h : offset.toNat < n then bytes ⟨offset.toNat, h⟩ else 0

/-- An array with the byte at an offset replaced. -/
def setByte {n : Nat} (bytes : Fin n → U8) (offset : U32) (value : U8) : Fin n → U8 :=
  if h : offset.toNat < n then Function.update bytes ⟨offset.toNat, h⟩ value else bytes

/-- The little-endian halfword of an array at an offset. -/
def halfwordAt {n : Nat} (bytes : Fin n → U8) (offset : U32) : U16 :=
  (byteAt bytes offset).setWidth 16 ||| (byteAt bytes (offset + 1)).setWidth 16 <<< 8

/-- The little-endian word of an array at an offset. -/
def wordAt {n : Nat} (bytes : Fin n → U8) (offset : U32) : U32 :=
  (byteAt bytes offset).setWidth 32 ||| (byteAt bytes (offset + 1)).setWidth 32 <<< 8 |||
    (byteAt bytes (offset + 2)).setWidth 32 <<< 16 |||
    (byteAt bytes (offset + 3)).setWidth 32 <<< 24

/-- `kMgbaDebugEnable`. -/
def kMgbaDebugEnable : U32 := 0x04FFF780#32
/-- `kMgbaDebugEnableMagic`. -/
def kMgbaDebugEnableMagic : U16 := 0x1DEA#16
/-- `kMgbaDebugStringStart`. -/
def kMgbaDebugStringStart : U32 := 0x04FFF600#32
/-- `kMgbaDebugStringEnd`. -/
def kMgbaDebugStringEnd : U32 := 0x04FFF6FF#32
/-- `kMgbaDebugFlags`. -/
def kMgbaDebugFlags : U32 := 0x04FFF700#32
/-- `kNoCashGbaDebugIdStart`. -/
def kNoCashGbaDebugIdStart : U32 := 0x04FFFA00#32
/-- `kNoCashGbaDebugId`: the characters of `"no$gba "`. -/
def kNoCashGbaDebugId : List U8 := [0x6E, 0x6F, 0x24, 0x67, 0x62, 0x61, 0x20]
/-- `kNoCashGbaDebugOut`. -/
def kNoCashGbaDebugOut : U32 := 0x04FFFA10#32
/-- `kNoCashGbaDebugChar`. -/
def kNoCashGbaDebugChar : U32 := 0x04FFFA1C#32

/-- `kHleBiosVectorBytes`. -/
def kHleBiosVectorBytes : List U8 :=
  [0x04, 0x20, 0xA0, 0xE3, 0x01, 0x02, 0x03, 0x04, 0x05, 0x20, 0xA0, 0xE3, 0x07, 0x20, 0xA0, 0xE3]

/-- `rotate_right`. -/
def rotateRight (value : U32) (amount : Nat) : U32 := value.rotateRight (amount % 32)

/-- `repeat_byte16`. -/
def repeatByte16 (value : U8) : U16 := value.setWidth 16 ||| value.setWidth 16 <<< 8

/-- `repeat_byte32`. -/
def repeatByte32 (value : U8) : U32 :=
  value.setWidth 32 ||| value.setWidth 32 <<< 8 ||| value.setWidth 32 <<< 16 |||
    value.setWidth 32 <<< 24

/-- `align_word`. -/
def alignWord (address : U32) : U32 := address &&& ~~~0x3#32

/-- The bit position of the addressed byte in its word. -/
def laneShift (address : U32) : Nat := (address &&& 0x3#32).toNat * 8

theorem rotateRight_zero (value : U32) : rotateRight value 0 = value := by
  refine BitVec.eq_of_getLsbD_eq fun i hi => ?_
  rw [rotateRight, BitVec.getLsbD_rotateRight]
  simp [hi]

theorem laneShift_eq (address : U32) : laneShift address = address.toNat % 4 * 8 := by
  unfold laneShift
  rw [BitVec.toNat_and]
  show (address.toNat &&& (2 ^ 2 - 1)) * 8 = _
  rw [Nat.and_two_pow_sub_one_eq_mod]

/-- `game_pak_open_bus_aligned_word`. -/
def gamePakOpenBusAlignedWord (address : U32) : U32 :=
  let low : U16 := (alignWord address >>> 1).setWidth 16
  low.setWidth 32 ||| (low + 1).setWidth 32 <<< 16

/-- `game_pak_open_bus_word`. -/
def gamePakOpenBusWord (address : U32) : U32 :=
  rotateRight (gamePakOpenBusAlignedWord address) (laneShift address)

/-- The state of the memory bus without its callbacks, which are wiring. -/
@[ext]
structure MemoryBus where
  ewram : Fin kEwramSize → U8
  iwram : Fin kIwramSize → U8
  palette : Fin kPaletteSize → U8
  vram : Fin kVramSize → U8
  oam : Fin kOamSize → U8
  gamePakRom : List U8
  gamePakSave : GamePakSave
  mgbaDebugString : Fin 256 → U8
  debugOutput : List U8
  openBusLatch : U32
  openBusLatchValid : Bool

/-- `MemoryBusIoCallbacks`: the I/O facade over a context of type `σ`; a null pointer is `none`. -/
structure MemoryBusIoCallbacks (σ : Type) where
  read16 : Option (σ → U32 → Option U16)
  read32 : Option (σ → U32 → Option U32)
  write16 : Option (σ → U32 → U16 → Bool × σ)
  write32 : Option (σ → U32 → U32 → Bool × σ)

/-- The memory bus together with the devices that stand behind its callbacks. -/
@[ext]
structure BusState (σ : Type) where
  memory : MemoryBus
  devices : σ

namespace MemoryBus

/-- A bus that was just constructed. -/
def initial : MemoryBus where
  ewram := fun _ => 0
  iwram := fun _ => 0
  palette := fun _ => 0
  vram := fun _ => 0
  oam := fun _ => 0
  gamePakRom := []
  gamePakSave := ⟨.none, [], .idle, false, 0⟩
  mgbaDebugString := fun _ => 0
  debugOutput := []
  openBusLatch := 0
  openBusLatchValid := false

/-- `has_game_pak_rom`. -/
def hasGamePakRom (bus : MemoryBus) : Bool := !bus.gamePakRom.isEmpty

/-- `drive_open_bus`. -/
def driveOpenBus (bus : MemoryBus) (value : U32) : MemoryBus :=
  { bus with openBusLatch := value, openBusLatchValid := true }

/-- `load_game_pak_rom`; `none` when the image is rejected. -/
def loadGamePakRom (bus : MemoryBus) (data : List U8) : Option MemoryBus :=
  if data.isEmpty ∨ kGamePakRomWindowSize < data.length then none
  else some { bus with gamePakRom := data }

/-- The byte of the cartridge image at an offset. -/
def romAt (bus : MemoryBus) (offset : U32) : U8 := bus.gamePakRom.getD offset.toNat 0

/-- `write_debug8`; `none` when no debug port is addressed. -/
def writeDebug8 (bus : MemoryBus) (address : U32) (value : U8) : Option MemoryBus :=
  if kMgbaDebugStringStart ≤ address ∧ address ≤ kMgbaDebugStringEnd then
    some { bus with
      mgbaDebugString := setByte bus.mgbaDebugString (address - kMgbaDebugStringStart) value }
  else if address = kNoCashGbaDebugChar then
    some { bus with debugOutput := bus.debugOutput ++ [value] }
  else none

/-- `flush_mgba_debug_string`. -/
def flushMgbaDebugString (bus : MemoryBus) (flags : U16) : MemoryBus :=
  if !anySet flags 0x0100#16 then bus
  else
    let output :=
      bus.debugOutput ++ (List.ofFn bus.mgbaDebugString).takeWhile fun byte => byte != 0#8
    { bus with
      debugOutput := if output.getLast? = some 0x0A then output else output ++ [0x0A] }

end MemoryBus

namespace BusState

variable {σ : Type} (callbacks : MemoryBusIoCallbacks σ)

/-- The halfword that the I/O facade returns; without a facade there is none. -/
def ioRead16 (bus : BusState σ) (address : U32) : Option U16 :=
  callbacks.read16.bind fun read16 => read16 bus.devices address

/-- `read8`. -/
def read8 (bus : BusState σ) (address : U32) : Option U8 :=
  if kNoCashGbaDebugIdStart ≤ address ∧ address < kNoCashGbaDebugIdStart + 7 then
    some (kNoCashGbaDebugId.getD (address - kNoCashGbaDebugIdStart).toNat 0)
  else if kMgbaDebugStringStart ≤ address ∧ address ≤ kMgbaDebugStringEnd then
    some (byteAt bus.memory.mgbaDebugString (address - kMgbaDebugStringStart))
  else
    let info := classify address
    match info.region with
    | .ewram => some (byteAt bus.memory.ewram info.offset)
    | .iwram => some (byteAt bus.memory.iwram info.offset)
    | .palette => some (byteAt bus.memory.palette info.offset)
    | .vram => some (byteAt bus.memory.vram info.offset)
    | .oam => some (byteAt bus.memory.oam info.offset)
    | .bios =>
        if kBiosEnd < info.offset then none
        else if info.offset.toNat < kHleBiosVectorBytes.length then
          some (kHleBiosVectorBytes.getD info.offset.toNat 0)
        else some 0
    | .gamePakRom =>
        if bus.memory.gamePakRom.isEmpty then none
        else if bus.memory.gamePakRom.length ≤ info.offset.toNat then
          some ((gamePakOpenBusAlignedWord address >>> laneShift address).setWidth 8)
        else some (bus.memory.romAt info.offset)
    | .gamePakSave => bus.memory.gamePakSave.readByte info.offset.toNat
    | .io =>
        (bus.ioRead16 callbacks (address &&& ~~~0x1#32)).map fun (half : U16) =>
          (half >>> ((address &&& 0x1#32).toNat * 8)).setWidth 8
    | .unknown => none

/-- The byte-wise end of `read16`. -/
def read16Bytes (bus : BusState σ) (address : U32) : Option U16 := do
  let b0 ← bus.read8 callbacks address
  let b1 ← bus.read8 callbacks (address + 1)
  return b0.setWidth 16 ||| b1.setWidth 16 <<< 8

/-- `read16`. -/
def read16 (bus : BusState σ) (address : U32) : Option U16 :=
  let info := classify address
  if info.region = .gamePakSave then
    (bus.memory.gamePakSave.readByte info.offset.toNat).map repeatByte16
  else if address % 2 ≠ 0 then none
  else if info.region = .io ∧ callbacks.read16.isSome then bus.ioRead16 callbacks address
  else if address = kMgbaDebugEnable then some kMgbaDebugEnableMagic
  else
    match info.region with
    | .iwram => some (halfwordAt bus.memory.iwram info.offset)
    | .ewram => some (halfwordAt bus.memory.ewram info.offset)
    | .vram => some (halfwordAt bus.memory.vram info.offset)
    | .palette => some (halfwordAt bus.memory.palette info.offset)
    | .oam => some (halfwordAt bus.memory.oam info.offset)
    | .gamePakRom =>
        if bus.memory.gamePakRom.isEmpty then none
        else if bus.memory.gamePakRom.length ≤ info.offset.toNat + 1 then
          bus.read16Bytes callbacks address
        else
          some ((bus.memory.romAt info.offset).setWidth 16 |||
            (bus.memory.romAt (info.offset + 1)).setWidth 16 <<< 8)
    | _ => bus.read16Bytes callbacks address

/-- The byte-wise end of `read32`. -/
def read32Bytes (bus : BusState σ) (address : U32) : Option U32 := do
  let aligned := alignWord address
  let b0 ← bus.read8 callbacks aligned
  let b1 ← bus.read8 callbacks (aligned + 1)
  let b2 ← bus.read8 callbacks (aligned + 2)
  let b3 ← bus.read8 callbacks (aligned + 3)
  return rotateRight (b0.setWidth 32 ||| b1.setWidth 32 <<< 8 ||| b2.setWidth 32 <<< 16 |||
    b3.setWidth 32 <<< 24) (laneShift address)

/-- `read32`. -/
def read32 (bus : BusState σ) (address : U32) : Option U32 :=
  let directInfo := classify address
  if directInfo.region = .gamePakSave then
    (bus.memory.gamePakSave.readByte directInfo.offset.toNat).map repeatByte32
  else if directInfo.region = .gamePakRom ∧ bus.memory.hasGamePakRom ∧
      bus.memory.gamePakRom.length ≤ directInfo.offset.toNat then
    some (gamePakOpenBusWord address)
  else if address % 4 = 0 ∧ directInfo.region = .io ∧ callbacks.read32.isSome then
    callbacks.read32.bind fun read32 => read32 bus.devices address
  else
    let info := classify (alignWord address)
    let rotated (value : U32) := rotateRight value (laneShift address)
    match info.region with
    | .iwram => some (rotated (wordAt bus.memory.iwram info.offset))
    | .ewram => some (rotated (wordAt bus.memory.ewram info.offset))
    | .vram => some (rotated (wordAt bus.memory.vram info.offset))
    | .palette => some (rotated (wordAt bus.memory.palette info.offset))
    | .oam => some (rotated (wordAt bus.memory.oam info.offset))
    | .gamePakRom =>
        if bus.memory.gamePakRom.isEmpty then none
        else if bus.memory.gamePakRom.length ≤ info.offset.toNat + 3 then
          bus.read32Bytes callbacks address
        else
          some (rotated ((bus.memory.romAt info.offset).setWidth 32 |||
            (bus.memory.romAt (info.offset + 1)).setWidth 32 <<< 8 |||
            (bus.memory.romAt (info.offset + 2)).setWidth 32 <<< 16 |||
            (bus.memory.romAt (info.offset + 3)).setWidth 32 <<< 24))
    | _ => bus.read32Bytes callbacks address

/-- Change the memory only. -/
def withMemory (bus : BusState σ) (memory : MemoryBus) : BusState σ :=
  { bus with memory := memory }

/-- The source's `first && second` of two stores: the second one is made when the first one
succeeds. -/
def andThen (first : Bool × BusState σ) (second : BusState σ → Bool × BusState σ) :
    Bool × BusState σ :=
  if first.1 then second first.2 else first

/-- `write_game_pak_save_byte`. -/
def writeGamePakSaveByte (bus : BusState σ) (offset : U32) (value : U8) : Bool × BusState σ :=
  let written := bus.memory.gamePakSave.writeByte offset.toNat value
  (written.2, bus.withMemory { bus.memory with gamePakSave := written.1 })

/-- The halfword that a byte store to an I/O register writes: the addressed lane is replaced in
the halfword read back. -/
def mergedByte (bus : BusState σ) (address : U32) (value : U8) : U16 :=
  let current := (bus.ioRead16 callbacks (address &&& ~~~0x1#32)).getD 0
  if address &&& 0x1#32 ≠ 0 then current &&& 0x00FF#16 ||| value.setWidth 16 <<< 8
  else current &&& 0xFF00#16 ||| value.setWidth 16

/-- The stores of `write8` to regions with a memory of their own. -/
def write8Memory (bus : BusState σ) (info : AddressInfo) (value : U8) : Bool × BusState σ :=
  match info.region with
  | .ewram =>
      (true, bus.withMemory { bus.memory with ewram := setByte bus.memory.ewram info.offset value })
  | .iwram =>
      (true, bus.withMemory { bus.memory with iwram := setByte bus.memory.iwram info.offset value })
  | .palette =>
      let even := info.offset &&& ~~~1#32
      (true, bus.withMemory { bus.memory with
        palette := setByte (setByte bus.memory.palette even value) (even + 1) value })
  | .vram =>
      if 0x10000#32 ≤ info.offset then (true, bus)
      else
        let even := info.offset &&& ~~~1#32
        (true, bus.withMemory { bus.memory with
          vram := setByte (setByte bus.memory.vram even value) (even + 1) value })
  | .oam => (true, bus)
  | .bios | .io | .gamePakRom | .gamePakSave | .unknown => (false, bus)

/-- `write8`. -/
def write8 (bus : BusState σ) (address : U32) (value : U8) : Bool × BusState σ :=
  match bus.memory.writeDebug8 address value with
  | some memory => (true, bus.withMemory memory)
  | none =>
    let info := classify address
    if info.region = .unknown then (true, bus)
    else if info.region = .gamePakSave then bus.writeGamePakSaveByte info.offset value
    else if info.region = .gamePakRom then (bus.memory.hasGamePakRom, bus)
    else
      match info.region, callbacks.write16 with
      | .io, some write16 =>
          (true, { bus with
            devices :=
              (write16 bus.devices (address &&& ~~~0x1#32)
                (bus.mergedByte callbacks address value)).2 })
      | _, _ => if !info.writable then (false, bus) else bus.write8Memory info value

/-- Byte stores of the low `count` bytes of a value at consecutive addresses, until one fails. -/
def writeBytes (value : U32) (address : U32) :
    Nat → Bool × BusState σ → Bool × BusState σ
  | 0, result => result
  | count + 1, result =>
      andThen (writeBytes value address count result) fun bus =>
        bus.write8 callbacks (address + BitVec.ofNat 32 count)
          ((value >>> (count * 8)).setWidth 8)

/-- `write_debug16`; `none` when no debug port is addressed. -/
def writeDebug16 (bus : BusState σ) (address : U32) (value : U16) : Option (BusState σ) :=
  if address = kMgbaDebugEnable then some bus
  else if address = kMgbaDebugFlags then
    some (bus.withMemory (bus.memory.flushMgbaDebugString value))
  else if kMgbaDebugStringStart ≤ address ∧ address < kMgbaDebugStringEnd then
    ((bus.memory.writeDebug8 address (value.setWidth 8)).bind fun memory =>
      memory.writeDebug8 (address + 1) ((value >>> 8).setWidth 8)).map bus.withMemory
  else if address = kNoCashGbaDebugChar then
    some (bus.withMemory { bus.memory with
      debugOutput := bus.memory.debugOutput ++ [value.setWidth 8, (value >>> 8).setWidth 8] })
  else none

/-- The characters that a write to the string port emits: the bytes at consecutive addresses up to
the first that is zero or cannot be read, at most `fuel` of them. -/
def debugString (bus : BusState σ) (address : U32) : Nat → List U8
  | 0 => []
  | fuel + 1 =>
      match bus.read8 callbacks address with
      | none => []
      | some byte => if byte = 0 then [] else byte :: debugString bus (address + 1) fuel

/-- `write_debug32`; `none` when no debug port is addressed. -/
def writeDebug32 (bus : BusState σ) (address : U32) (value : U32) : Option (BusState σ) :=
  if kMgbaDebugStringStart ≤ address ∧ address ≤ kMgbaDebugStringEnd - 3 then
    ((List.range 4).foldlM (fun (memory : MemoryBus) index =>
      memory.writeDebug8 (address + BitVec.ofNat 32 index)
        ((value >>> (index * 8)).setWidth 8)) bus.memory).map bus.withMemory
  else if address = kNoCashGbaDebugChar then
    some (bus.withMemory { bus.memory with
      debugOutput := bus.memory.debugOutput ++
        [value.setWidth 8, (value >>> 8).setWidth 8, (value >>> 16).setWidth 8,
          (value >>> 24).setWidth 8] })
  else if address = kNoCashGbaDebugOut then
    some (bus.withMemory { bus.memory with
      debugOutput := bus.memory.debugOutput ++ bus.debugString callbacks value 256 })
  else none

/-- The low `count` bytes of a value stored at consecutive offsets of an array. -/
def setBytes {n : Nat} (bytes : Fin n → U8) (offset : Nat → U32) (value : U32) :
    Nat → Fin n → U8
  | 0 => bytes
  | count + 1 =>
      setByte (setBytes bytes offset value count) (offset count)
        ((value >>> (count * 8)).setWidth 8)

/-- The aligned halfword and word stores to the internal memories: all `count` bytes must be
writable; the video memories take the whole unit, other regions take byte stores. -/
def writeUnit (bus : BusState σ) (address : U32) (value : U32) (count : Nat) :
    Bool × BusState σ :=
  let info (index : Nat) := classify (address + BitVec.ofNat 32 index)
  let everywhere (region : Region) := (List.range count).all fun index => (info index).region = region
  let offset (index : Nat) := (info index).offset
  if !(List.range count).all fun index => (info index).writable then (false, bus)
  else if everywhere .palette then
    (true, bus.withMemory { bus.memory with
      palette := setBytes bus.memory.palette offset value count })
  else if everywhere .vram then
    (true, bus.withMemory { bus.memory with
      vram := setBytes bus.memory.vram offset value count })
  else if everywhere .oam then
    (true, bus.withMemory { bus.memory with
      oam := setBytes bus.memory.oam offset value count })
  else writeBytes callbacks value address count (true, bus)

/-- `write16`. -/
def write16 (bus : BusState σ) (address : U32) (value : U16) : Bool × BusState σ :=
  let info := classify address
  if info.region = .gamePakRom then (bus.memory.hasGamePakRom, bus)
  else if info.region = .gamePakSave then
    bus.writeGamePakSaveByte info.offset (value.setWidth 8)
  else
    match bus.writeDebug16 address value with
    | some bus => (true, bus)
    | none =>
      match info.region, callbacks.write16 with
      | .io, some write16 =>
          (true, { bus with
            devices :=
              (write16 bus.devices (address &&& ~~~0x1#32)
                (value.rotateRight ((address &&& 0x1#32).toNat * 8))).2 })
      | _, _ =>
        if address % 2 ≠ 0 then
          writeBytes callbacks (value.setWidth 32) address 2 (true, bus)
        else if info.region = .unknown then (true, bus)
        else bus.writeUnit callbacks address (value.setWidth 32) 2

/-- `write32`. -/
def write32 (bus : BusState σ) (address : U32) (value : U32) : Bool × BusState σ :=
  let info := classify address
  if info.region = .gamePakRom then (bus.memory.hasGamePakRom, bus)
  else if info.region = .gamePakSave then
    bus.writeGamePakSaveByte info.offset (value.setWidth 8)
  else
    match bus.writeDebug32 callbacks address value with
    | some bus => (true, bus)
    | none =>
      match info.region, callbacks.write32 with
      | .io, some write32 =>
          (true, { bus with
            devices :=
              (write32 bus.devices (alignWord address) (rotateRight value (laneShift address))).2 })
      | _, _ =>
        if address % 4 ≠ 0 then writeBytes callbacks value address 4 (true, bus)
        else if info.region = .unknown then (true, bus)
        else bus.writeUnit callbacks address value 4

/-! ## What a store does to the devices -/

/-- A property of the devices that every write through the callbacks keeps. -/
structure KeptByIo (P : σ → Prop) : Prop where
  write16 : ∀ write16 ∈ callbacks.write16, ∀ devices address value,
    P devices → P (write16 devices address value).2
  write32 : ∀ write32 ∈ callbacks.write32, ∀ devices address value,
    P devices → P (write32 devices address value).2

variable {callbacks} {P : σ → Prop}

theorem write8Memory_devices (bus : BusState σ) (info : AddressInfo) (value : U8) :
    (bus.write8Memory info value).2.devices = bus.devices := by
  unfold write8Memory
  cases info.region with
  | vram =>
      dsimp only
      split <;> rfl
  | _ => rfl

theorem KeptByIo.write8 (h : KeptByIo callbacks P) {bus : BusState σ} (hbus : P bus.devices)
    (address : U32) (value : U8) : P (bus.write8 callbacks address value).2.devices := by
  unfold BusState.write8
  split
  · exact hbus
  dsimp only
  split
  · exact hbus
  split
  · exact hbus
  split
  · exact hbus
  split
  · next write16 _ hwrite => exact h.write16 write16 hwrite _ _ _ hbus
  · split
    · exact hbus
    · rw [write8Memory_devices]
      exact hbus

theorem KeptByIo.writeBytes (h : KeptByIo callbacks P) (value address : U32) (count : Nat)
    {result : Bool × BusState σ} (hresult : P result.2.devices) :
    P (BusState.writeBytes callbacks value address count result).2.devices := by
  induction count with
  | zero => exact hresult
  | succ count ih =>
      unfold BusState.writeBytes andThen
      split
      · exact h.write8 ih _ _
      · exact ih

theorem writeDebug16_devices {bus bus' : BusState σ} {address : U32} {value : U16}
    (h : bus.writeDebug16 address value = some bus') : bus'.devices = bus.devices := by
  unfold writeDebug16 at h
  split at h
  · rw [Option.some.inj h]
  split at h
  · rw [← Option.some.inj h]
    rfl
  split at h
  · obtain ⟨memory, -, rfl⟩ := Option.map_eq_some_iff.mp h
    rfl
  split at h
  · rw [← Option.some.inj h]
    rfl
  · contradiction

theorem writeDebug32_devices {bus bus' : BusState σ} {address value : U32}
    (h : bus.writeDebug32 callbacks address value = some bus') : bus'.devices = bus.devices := by
  unfold writeDebug32 at h
  split at h
  · obtain ⟨memory, -, rfl⟩ := Option.map_eq_some_iff.mp h
    rfl
  split at h
  · rw [← Option.some.inj h]
    rfl
  split at h
  · rw [← Option.some.inj h]
    rfl
  · contradiction

theorem KeptByIo.writeUnit (h : KeptByIo callbacks P) {bus : BusState σ} (hbus : P bus.devices)
    (address value : U32) (count : Nat) :
    P (bus.writeUnit callbacks address value count).2.devices := by
  unfold BusState.writeUnit
  dsimp only
  split_ifs
  · exact hbus
  · exact hbus
  · exact hbus
  · exact hbus
  · exact h.writeBytes value address count hbus

theorem KeptByIo.write16_bus (h : KeptByIo callbacks P) {bus : BusState σ} (hbus : P bus.devices)
    (address : U32) (value : U16) : P (bus.write16 callbacks address value).2.devices := by
  unfold BusState.write16
  dsimp only
  split
  · exact hbus
  split
  · exact hbus
  split
  · next hdebug =>
      rw [writeDebug16_devices hdebug]
      exact hbus
  split
  · next write16 _ hwrite => exact h.write16 write16 hwrite _ _ _ hbus
  · split
    · exact h.writeBytes _ _ _ hbus
    split
    · exact hbus
    · exact h.writeUnit hbus _ _ _

theorem KeptByIo.write32_bus (h : KeptByIo callbacks P) {bus : BusState σ} (hbus : P bus.devices)
    (address value : U32) : P (bus.write32 callbacks address value).2.devices := by
  unfold BusState.write32
  dsimp only
  split
  · exact hbus
  split
  · exact hbus
  split
  · next hdebug =>
      rw [writeDebug32_devices hdebug]
      exact hbus
  split
  · next write32 _ hwrite => exact h.write32 write32 hwrite _ _ _ hbus
  · split
    · exact h.writeBytes _ _ _ hbus
    split
    · exact hbus
    · exact h.writeUnit hbus _ _ _

end BusState

end Gba.Core
