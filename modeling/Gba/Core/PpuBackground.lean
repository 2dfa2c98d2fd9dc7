import Gba.Core.MemoryBus

/-!
# Background pixels

`ppu_background.cpp`: the pixels of the text and the affine backgrounds. Coordinates are natural
numbers inside the map; addresses are words of the video memory.
-/

namespace Gba.Core

section VideoMemory

variable {σ : Type} (callbacks : MemoryBusIoCallbacks σ)

/-- `MemoryBus::read_video16`. -/
def BusState.readVideo16 (bus : BusState σ) (address : U32) : Option U16 :=
  let info := classify address
  if address &&& 0x1#32 = 0 ∧ info.region = .vram then some (halfwordAt bus.memory.vram info.offset)
  else if address &&& 0x1#32 = 0 ∧ info.region = .palette then
    some (halfwordAt bus.memory.palette info.offset)
  else bus.read16 callbacks address

end VideoMemory

/-- `BgColorMode`. -/
inductive BgColorMode where
  | bpp4 | bpp8
  deriving DecidableEq, Repr

/-- `BgControl`. -/
structure BgControl where
  raw : U16
  priority : Nat
  charblock : Nat
  screenblock : Nat
  colorMode : BgColorMode
  screenSize : Nat

/-- `BgPixel`. -/
structure BgPixel where
  mapEntry : U16
  tileId : Nat
  paletteBank : Nat
  colorIndex : Nat
  color : U16
  transparent : Bool
  hflip : Bool
  vflip : Bool

/-- `AffinePixel`. -/
structure AffinePixel where
  tileIndex : Nat
  colorIndex : Nat
  color : U16
  transparent : Bool

namespace PpuBackgroundFetcher

def kVramBase : U32 := 0x06000000#32

def kPaletteBase : U32 := 0x05000000#32

def kTilePixels : Nat := 8

def kScreenblockBytes : Nat := 0x800

def kCharblockBytes : Nat := 0x4000

/-- `decode_control`. -/
def decodeControl (control : U16) : BgControl where
  raw := control
  priority := (control.extractLsb' 0 2).toNat
  charblock := (control.extractLsb' 2 2).toNat
  screenblock := (control.extractLsb' 8 5).toNat
  colorMode := if control.getLsbD 7 then .bpp8 else .bpp4
  screenSize := (control.extractLsb' 14 2).toNat

/-- `text_map_width_tiles`. -/
def textMapWidthTiles (control : BgControl) : Nat := if control.screenSize.testBit 0 then 64 else 32

/-- `text_map_height_tiles`. -/
def textMapHeightTiles (control : BgControl) : Nat :=
  if control.screenSize.testBit 1 then 64 else 32

/-- `text_width_pixels`. -/
def textWidthPixels (control : BgControl) : Nat := textMapWidthTiles control * kTilePixels

/-- `text_height_pixels`. -/
def textHeightPixels (control : BgControl) : Nat := textMapHeightTiles control * kTilePixels

/-- `affine_map_pixels`. -/
def affineMapPixels (control : BgControl) : Nat := 128 * 2 ^ (control.screenSize % 4)

/-- `screenblock_base`. -/
def screenblockBase (screenblock : Nat) : U32 :=
  kVramBase + BitVec.ofNat 32 (screenblock % 32 * kScreenblockBytes)

/-- `charblock_base`. -/
def charblockBase (charblock : Nat) : U32 :=
  kVramBase + BitVec.ofNat 32 (charblock % 4 * kCharblockBytes)

/-- `screenblock_for_tile`. -/
def screenblockForTile (control : BgControl) (tileX tileY : Nat) : Nat :=
  let blockX := tileX / 32
  let blockY := tileY / 32
  let blockOffset := if textMapWidthTiles control = 64 then blockX + blockY * 2 else blockY
  (control.screenblock + blockOffset) % 32

section Fetch

variable {σ : Type} (callbacks : MemoryBusIoCallbacks σ) (bus : BusState σ)

/-- `fetch_text_pixel`. -/
def fetchTextPixel (control : BgControl) (x y : U16) : Option BgPixel := do
  let wrappedX := x.toNat % textWidthPixels control
  let wrappedY := y.toNat % textHeightPixels control
  let tileX := wrappedX / kTilePixels
  let tileY := wrappedY / kTilePixels
  let localX := wrappedX % kTilePixels
  let localY := wrappedY % kTilePixels
  let entry ← bus.readVideo16 callbacks
    (screenblockBase (screenblockForTile control tileX tileY) +
      BitVec.ofNat 32 ((tileY % 32 * 32 + tileX % 32) * 2))
  let tileId := (entry.extractLsb' 0 10).toNat
  let hflip := entry.getLsbD 10
  let vflip := entry.getLsbD 11
  let paletteBank := (entry.extractLsb' 12 4).toNat
  let pixelX := if hflip then 7 - localX else localX
  let pixelY := if vflip then 7 - localY else localY
  let bpp8 : Bool := control.colorMode = .bpp8
  let tileAddress := charblockBase control.charblock +
    BitVec.ofNat 32 (tileId * if bpp8 then 64 else 32)
  let packed ← bus.read8 callbacks
    (tileAddress + BitVec.ofNat 32 (if bpp8 then pixelY * 8 + pixelX else pixelY * 4 + pixelX / 2))
  let colorIndex :=
    if bpp8 then packed.toNat
    else if pixelX % 2 ≠ 0 then packed.toNat / 16
    else packed.toNat % 16
  let color ← bus.readVideo16 callbacks
    (kPaletteBase +
      BitVec.ofNat 32 (if bpp8 then colorIndex * 2 else paletteBank * 32 + colorIndex * 2))
  return { mapEntry := entry, tileId, paletteBank, colorIndex, color,
           transparent := colorIndex = 0, hflip, vflip }

/-- `fetch_affine_pixel`: outside of the map a background repeats or is transparent. -/
def fetchAffinePixel (control : BgControl) (texX texY : Int) : Option AffinePixel :=
  let mapPixels := affineMapPixels control
  let mapTiles := mapPixels / kTilePixels
  let outside : Bool :=
    texX < 0 || texY < 0 || (mapPixels : Int) ≤ texX || (mapPixels : Int) ≤ texY
  if outside && !control.raw.getLsbD 13 then some ⟨0, 0, 0, true⟩
  else do
    let maskedX := (texX % (mapPixels : Int)).toNat
    let maskedY := (texY % (mapPixels : Int)).toNat
    let tileIndex ← bus.read8 callbacks
      (screenblockBase control.screenblock +
        BitVec.ofNat 32 (maskedY / kTilePixels * mapTiles + maskedX / kTilePixels))
    let packed ← bus.read8 callbacks
      (charblockBase control.charblock +
        BitVec.ofNat 32 (tileIndex.toNat * 64 + maskedY % kTilePixels * 8 + maskedX % kTilePixels))
    let color ← bus.readVideo16 callbacks
      (kPaletteBase + BitVec.ofNat 32 (packed.toNat * 2))
    return { tileIndex := tileIndex.toNat, colorIndex := packed.toNat, color,
             transparent := packed = 0 }

end Fetch

end PpuBackgroundFetcher

end Gba.Core
