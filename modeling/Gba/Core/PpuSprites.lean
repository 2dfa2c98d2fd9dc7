import Gba.Core.PpuBackground

/-!
# Sprite pixels

`ppu_sprites.cpp`: the attributes of a sprite and the pixels of its texture.
-/

namespace Gba.Core

/-- `SpriteColorMode`. -/
inductive SpriteColorMode where
  | bpp4 | bpp8
  deriving DecidableEq, Repr

/-- `SpriteAttributes`. -/
structure SpriteAttributes where
  attr0 : U16
  attr1 : U16
  attr2 : U16
  x : Int
  y : Nat
  shape : Nat
  size : Nat
  width : Nat
  height : Nat
  tileId : Nat
  priority : Nat
  paletteBank : Nat
  colorMode : SpriteColorMode
  affineMatrixIndex : Nat
  affine : Bool
  doubleSize : Bool
  disabled : Bool
  hflip : Bool
  vflip : Bool
  semiTransparent : Bool
  objWindow : Bool
  mosaicEnabled : Bool

/-- `SpritePixel`. -/
structure SpritePixel where
  colorIndex : Nat
  paletteBank : Nat
  color : U16
  transparent : Bool

namespace PpuSpriteFetcher

def kOamBase : U32 := 0x07000000#32

def kObjTileBase : U32 := 0x06010000#32

def kObjPaletteBase : U32 := 0x05000200#32

def kSpriteCount : Nat := 128

/-- `kSpriteSizes`. -/
def kSpriteSizes : List (List (Nat × Nat)) :=
  [[(8, 8), (16, 16), (32, 32), (64, 64)],
    [(16, 8), (32, 8), (32, 16), (64, 32)],
    [(8, 16), (8, 32), (16, 32), (32, 64)],
    [(0, 0), (0, 0), (0, 0), (0, 0)]]

/-- `signed_obj_x`. -/
def signedObjX (attr1 : U16) : Int := (attr1.extractLsb' 0 9).toInt

/-- `obj_tile_row_stride`. -/
def objTileRowStride (sprite : SpriteAttributes) (bpp8 characterMapping1d : Bool) : Nat :=
  if !characterMapping1d then 32 else sprite.width / 8 * if bpp8 then 2 else 1

section Fetch

variable {σ : Type} (callbacks : MemoryBusIoCallbacks σ) (bus : BusState σ)

/-- `read_affine_param`. -/
def readAffineParam (matrixIndex component : Nat) : Option Int :=
  (bus.read16 callbacks
    (kOamBase + BitVec.ofNat 32 (matrixIndex * 32 + 6 + component * 8))).map BitVec.toInt

/-- `affine_texture_coordinates`. -/
def affineTextureCoordinates (sprite : SpriteAttributes) (localX localY : Nat) :
    Option (Nat × Nat) := do
  let pa ← readAffineParam callbacks bus sprite.affineMatrixIndex 0
  let pb ← readAffineParam callbacks bus sprite.affineMatrixIndex 1
  let pc ← readAffineParam callbacks bus sprite.affineMatrixIndex 2
  let pd ← readAffineParam callbacks bus sprite.affineMatrixIndex 3
  let screenWidth := if sprite.doubleSize then sprite.width * 2 else sprite.width
  let screenHeight := if sprite.doubleSize then sprite.height * 2 else sprite.height
  let dx : Int := (localX : Int) - (screenWidth / 2 : Nat)
  let dy : Int := (localY : Int) - (screenHeight / 2 : Nat)
  let textureX : Int := (sprite.width / 2 : Nat) + (pa * dx + pb * dy).shiftRight 8
  let textureY : Int := (sprite.height / 2 : Nat) + (pc * dx + pd * dy).shiftRight 8
  if textureX < 0 ∨ (sprite.width : Int) ≤ textureX ∨ textureY < 0 ∨
      (sprite.height : Int) ≤ textureY then none
  else some (textureX.toNat, textureY.toNat)

/-- `read_sprite`. -/
def readSprite (index : Nat) : Option SpriteAttributes :=
  if kSpriteCount ≤ index then none
  else do
    let base := kOamBase + BitVec.ofNat 32 (index * 8)
    let attr0 ← bus.read16 callbacks base
    let attr1 ← bus.read16 callbacks (base + 2)
    let attr2 ← bus.read16 callbacks (base + 4)
    let shape := (attr0.extractLsb' 14 2).toNat
    let size := (attr1.extractLsb' 14 2).toNat
    let dimensions := (kSpriteSizes.getD shape []).getD size (0, 0)
    let affine := attr0.getLsbD 8
    let graphicsMode := attr0.extractLsb' 10 2
    return {
      attr0, attr1, attr2
      x := signedObjX attr1
      y := (attr0.extractLsb' 0 8).toNat
      shape, size
      width := dimensions.1
      height := dimensions.2
      tileId := (attr2.extractLsb' 0 10).toNat
      priority := (attr2.extractLsb' 10 2).toNat
      paletteBank := (attr2.extractLsb' 12 4).toNat
      colorMode := if attr0.getLsbD 13 then .bpp8 else .bpp4
      affineMatrixIndex := (attr1.extractLsb' 9 5).toNat
      affine
      doubleSize := affine && attr0.getLsbD 9
      disabled := (!affine && attr0.getLsbD 9) || dimensions.1 = 0 || dimensions.2 = 0 ||
        graphicsMode = 3#2
      hflip := !affine && attr1.getLsbD 12
      vflip := !affine && attr1.getLsbD 13
      semiTransparent := graphicsMode = 1#2
      objWindow := graphicsMode = 2#2
      mosaicEnabled := attr0.getLsbD 12 }

/-- The texture coordinates of a pixel of a sprite. -/
def textureCoordinates (sprite : SpriteAttributes) (localX localY : Nat) : Option (Nat × Nat) :=
  if sprite.affine then affineTextureCoordinates callbacks bus sprite localX localY
  else
    some (if sprite.hflip then sprite.width - 1 - localX else localX,
      if sprite.vflip then sprite.height - 1 - localY else localY)

/-- `fetch_sprite_pixel`. -/
def fetchSpritePixel (sprite : SpriteAttributes) (localX localY : Nat)
    (characterMapping1d : Bool) : Option SpritePixel :=
  let screenWidth := if sprite.doubleSize then sprite.width * 2 else sprite.width
  let screenHeight := if sprite.doubleSize then sprite.height * 2 else sprite.height
  if sprite.disabled || decide (screenWidth ≤ localX) || decide (screenHeight ≤ localY) then none
  else do
    let bpp8 : Bool := sprite.colorMode = .bpp8
    let (pixelX, pixelY) ← textureCoordinates callbacks bus sprite localX localY
    let inTileX := pixelX % 8
    let inTileY := pixelY % 8
    let tileNumber := sprite.tileId +
      pixelY / 8 * objTileRowStride sprite bpp8 characterMapping1d +
      pixelX / 8 * if bpp8 then 2 else 1
    let pixelAddress := kObjTileBase + BitVec.ofNat 32 (tileNumber * 32) +
      BitVec.ofNat 32 (if bpp8 then inTileY * 8 + inTileX else inTileY * 4 + inTileX / 2)
    let packedWord ← bus.readVideo16 callbacks (pixelAddress &&& ~~~1#32)
    let packed := (packedWord.toNat / if pixelAddress.getLsbD 0 then 256 else 1) % 256
    let colorIndex :=
      if bpp8 then packed
      else if inTileX % 2 ≠ 0 then packed / 16
      else packed % 16
    let color ← bus.readVideo16 callbacks
      (kObjPaletteBase + BitVec.ofNat 32
        (if bpp8 then colorIndex * 2 else sprite.paletteBank * 32 + colorIndex * 2))
    return { colorIndex, paletteBank := sprite.paletteBank, color, transparent := colorIndex = 0 }

end Fetch

end PpuSpriteFetcher

end Gba.Core
