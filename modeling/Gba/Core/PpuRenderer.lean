import Gba.Core.PpuSprites

/-!
# The renderer

`ppu_renderer.cpp`: a scanline of the display, composed of backgrounds, bitmap and sprites under
windows and colour effects. Rows of sprites are resolved before the pixels are composed, as in the
source.
-/

namespace Gba.Core

/-- `PpuRenderControl`. -/
structure PpuRenderControl where
  dispcnt : U16
  bgControl : Fin 4 → U16
  bgScrollX : Fin 4 → U16
  bgScrollY : Fin 4 → U16
  win0h : U16
  win0v : U16
  win1h : U16
  win1v : U16
  winin : U16
  winout : U16
  bldcnt : U16
  bldalpha : U16
  bldy : U16
  bgAffinePa : Fin 4 → U16
  bgAffinePb : Fin 4 → U16
  bgAffinePc : Fin 4 → U16
  bgAffinePd : Fin 4 → U16
  bgReferenceX : Fin 4 → U32
  bgReferenceY : Fin 4 → U32
  mosaic : U16

/-- `PpuRenderStats`. -/
structure PpuRenderStats where
  scanline : U16
  bgPixels : Nat
  objPixels : Nat
  supportedMode : Bool
  forcedBlank : Bool
  bitmapPixels : Nat
  windowMaskedPixels : Nat
  blendPixels : Nat

def kScreenWidth : Nat := 240

def kScreenHeight : Nat := 160

/-- `Framebuffer`, by rows. -/
abbrev Framebuffer := Fin kScreenHeight → Fin kScreenWidth → U16

namespace PpuRenderer

/-- `normalize_color`. -/
def normalizeColor (color : U16) : U16 := color &&& 0x7FFF#16

/-- `kBackdropLayerBit`. -/
def kBackdropLayerBit : Nat := 5

def kBackdropColorAddress : U32 := 0x05000000#32

def kBitmapBaseAddress : U32 := 0x06000000#32

/-- `bg_enabled`. -/
def bgEnabled (dispcnt : U16) (bgIndex : Fin 4) : Bool := dispcnt.getLsbD (8 + bgIndex.val)

/-- `text_bg_available_in_mode`. -/
def textBgAvailableInMode (mode : Nat) (bgIndex : Fin 4) : Bool :=
  mode = 0 || mode = 1 && bgIndex.val < 2

/-- `affine_bg_available_in_mode`. -/
def affineBgAvailableInMode (mode : Nat) (bgIndex : Fin 4) : Bool :=
  mode = 1 && bgIndex.val = 2 || mode = 2 && (bgIndex.val = 2 || bgIndex.val = 3)

/-! ## Windows -/

/-- Inside a range that may wrap around. -/
def insideRange (first last position : Nat) : Bool :=
  if first ≤ last then first ≤ position && position < last
  else first ≤ position || position < last

/-- `inside_window_rect`. -/
def insideWindowRect (horizontal vertical : U16) (x y : Nat) : Bool :=
  insideRange (horizontal.extractLsb' 8 8).toNat (horizontal.extractLsb' 0 8).toNat x &&
    insideRange (vertical.extractLsb' 8 8).toNat (vertical.extractLsb' 0 8).toNat y

/-- `window_layer_mask`: a bit for each layer, and one for the colour effects. -/
def windowLayerMask (control : PpuRenderControl) (x y : Nat) (objWindowHit : Bool) : BitVec 6 :=
  let win0On := control.dispcnt.getLsbD 13
  let win1On := control.dispcnt.getLsbD 14
  let objWindowOn := control.dispcnt.getLsbD 15
  if !win0On && !win1On && !objWindowOn then 0x3F#6
  else if win0On && insideWindowRect control.win0h control.win0v x y then
    control.winin.extractLsb' 0 6
  else if win1On && insideWindowRect control.win1h control.win1v x y then
    control.winin.extractLsb' 8 6
  else if objWindowOn && objWindowHit then control.winout.extractLsb' 8 6
  else control.winout.extractLsb' 0 6

/-- `mosaic_block`. -/
def mosaicBlock (coord size : Nat) : Nat := if size ≤ 1 then coord else coord / size * size

/-! ## Colour effects -/

/-- `alpha_blend_channel`. -/
def alphaBlendChannel (first second eva evb : Nat) : Nat := min 31 ((first * eva + second * evb) / 16)

/-- A channel of a colour. -/
def channel (color : U16) (index : Fin 3) : Nat := (color.extractLsb' (index.val * 5) 5).toNat

/-- `alpha_blend`. -/
def alphaBlend (top bottom : U16) (eva evb : Nat) : U16 :=
  let blended (index : Fin 3) : U16 :=
    BitVec.ofNat 16 (alphaBlendChannel (channel top index) (channel bottom index) eva evb)
  blended 0 ||| blended 1 <<< 5 ||| blended 2 <<< 10

/-- The lambda `apply` of `brightness_blend`. The arithmetic wraps at 16 bits. -/
def applyBrightness (amount : Nat) (increase : Bool) (channel : Nat) : U16 :=
  if increase then BitVec.ofNat 16 (channel + (31 - channel) * amount / 16)
  else BitVec.ofNat 16 channel - BitVec.ofNat 16 (channel * amount / 16)

/-- `brightness_blend`: a channel that leaves its five bits runs into the others. -/
def brightnessBlend (color : U16) (amount : Nat) (increase : Bool) : U16 :=
  let applied (index : Fin 3) : U16 := applyBrightness amount increase (channel color index)
  applied 0 ||| applied 1 <<< 5 ||| applied 2 <<< 10

/-! ## Layers -/

/-- `PixelCandidate`. -/
structure PixelCandidate where
  color : U16
  layerBit : Nat
  priority : Nat
  deriving DecidableEq, Repr

/-- The place of a layer at equal priority. -/
def layerOrder (layerBit : Nat) : Nat := if layerBit = 4 then 0 else layerBit + 1

/-- `precedes`. -/
def precedes (candidate other : PixelCandidate) : Bool :=
  if candidate.priority ≠ other.priority then candidate.priority < other.priority
  else layerOrder candidate.layerBit < layerOrder other.layerBit

/-- The locals `best` and `second`. -/
structure Composition where
  best : PixelCandidate
  second : PixelCandidate

/-- The lambda `consider`: whether the candidate is the best so far. -/
def consider (composition : Composition) (candidate : PixelCandidate) : Bool × Composition :=
  if precedes candidate composition.best then (true, ⟨candidate, composition.best⟩)
  else if precedes candidate composition.second then (false, ⟨composition.best, candidate⟩)
  else (false, composition)

/-- Candidates in order, with the number of those that were the best so far. -/
def considerAll : List PixelCandidate → Composition → Nat × Composition
  | [], composition => (0, composition)
  | candidate :: rest, composition =>
      let considered := consider composition candidate
      let later := considerAll rest considered.2
      ((if considered.1 then 1 else 0) + later.1, later.2)

section Scanline

variable {σ : Type} (callbacks : MemoryBusIoCallbacks σ) (bus : BusState σ)
  (control : PpuRenderControl) (scanline : Nat)

/-- The mode of the display. -/
def mode : Nat := (control.dispcnt.extractLsb' 0 3).toNat

/-- The backdrop of the scanline. -/
def backdrop : U16 := normalizeColor ((bus.read16 callbacks kBackdropColorAddress).getD 0)

/-- The sizes of a mosaic: 0 and 1 are the background's width and height, 2 and 3 the sprites'. -/
def mosaicSize (index : Fin 4) : Nat := (control.mosaic.extractLsb' (index.val * 4) 4).toNat + 1

/-- The coordinates of a sample of a background. -/
def sampleAt (bg : BgControl) (x : Nat) : Nat × Nat :=
  if bg.raw.getLsbD 6 then
    (mosaicBlock x (mosaicSize control 0), mosaicBlock scanline (mosaicSize control 1))
  else (x, scanline)

/-- The background that a pass of a loop of the source considers. -/
def bgCandidate (bgIndex : Fin 4) (fetched : Option (U16 × Bool)) : Option PixelCandidate :=
  match fetched with
  | some (color, false) =>
      some ⟨normalizeColor color, bgIndex.val,
        (PpuBackgroundFetcher.decodeControl (control.bgControl bgIndex)).priority⟩
  | _ => none

/-- The pixel of a text background. -/
def textCandidate (x : Nat) (bgIndex : Fin 4) : Option PixelCandidate :=
  let bg := PpuBackgroundFetcher.decodeControl (control.bgControl bgIndex)
  let sample := sampleAt control scanline bg x
  bgCandidate control bgIndex
    ((PpuBackgroundFetcher.fetchTextPixel callbacks bus bg
      (BitVec.ofNat 16 sample.1 + control.bgScrollX bgIndex)
      (BitVec.ofNat 16 sample.2 + control.bgScrollY bgIndex)).map
        fun pixel => (pixel.color, pixel.transparent))

/-- `sign_extend_reference`. -/
def signExtendReference (raw28 : U32) : Int := (raw28.extractLsb' 0 28).toInt

/-- The pixel of an affine background. -/
def affineCandidate (x : Nat) (bgIndex : Fin 4) : Option PixelCandidate :=
  let bg := PpuBackgroundFetcher.decodeControl (control.bgControl bgIndex)
  let sample := sampleAt control scanline bg x
  let texXRaw : Int := signExtendReference (control.bgReferenceX bgIndex) +
    (control.bgAffinePa bgIndex).toInt * sample.1 + (control.bgAffinePb bgIndex).toInt * sample.2
  let texYRaw : Int := signExtendReference (control.bgReferenceY bgIndex) +
    (control.bgAffinePc bgIndex).toInt * sample.1 + (control.bgAffinePd bgIndex).toInt * sample.2
  bgCandidate control bgIndex
    ((PpuBackgroundFetcher.fetchAffinePixel callbacks bus bg (texXRaw.shiftRight 8) (texYRaw.shiftRight 8)).map
      fun pixel => (pixel.color, pixel.transparent))

/-- `fetch_bitmap_pixel`. -/
def fetchBitmapPixel (x : Nat) : Option U16 :=
  let page : U32 := if control.dispcnt.getLsbD 4 then 0xA000#32 else 0
  match mode control with
  | 3 => bus.read16 callbacks (kBitmapBaseAddress + BitVec.ofNat 32 ((scanline * 240 + x) * 2))
  | 4 =>
      match bus.read8 callbacks (kBitmapBaseAddress + page + BitVec.ofNat 32 (scanline * 240 + x)) with
      | none => none
      | some colorIndex =>
          if colorIndex = 0 then none
          else bus.read16 callbacks
            (kBackdropColorAddress + BitVec.ofNat 32 (colorIndex.toNat * 2))
  | 5 =>
      bus.read16 callbacks
        (kBitmapBaseAddress + page + BitVec.ofNat 32 ((scanline * 160 + x) * 2))
  | _ => none

/-- The pixels that a loop over backgrounds considers: those of the given backgrounds that are
available in the mode, enabled and visible. -/
def bgCandidates (available : Nat → Fin 4 → Bool) (candidate : Fin 4 → Option PixelCandidate)
    (layerMask : BitVec 6) (indices : List (Fin 4)) : List PixelCandidate :=
  indices.filterMap fun bgIndex =>
    if available (mode control) bgIndex && bgEnabled control.dispcnt bgIndex &&
        layerMask.getLsbD bgIndex.val then candidate bgIndex
    else none

/-! ## Sprites -/

/-- `sprite_screen_width`. -/
def spriteScreenWidth (sprite : SpriteAttributes) : Nat :=
  if sprite.affine && sprite.doubleSize then sprite.width * 2 else sprite.width

/-- `sprite_screen_height`. -/
def spriteScreenHeight (sprite : SpriteAttributes) : Nat :=
  if sprite.affine && sprite.doubleSize then sprite.height * 2 else sprite.height

/-- The line of a sprite that the scanline shows, modulo 256. -/
def spriteLine (sprite : SpriteAttributes) : Nat :=
  (((scanline : Int) - sprite.y) % 256).toNat

/-- `line_intersects_sprite`. -/
def lineIntersectsSprite (sprite : SpriteAttributes) : Bool :=
  spriteLine scanline sprite < spriteScreenHeight sprite

/-- The invisible columns on the left that are not fetched; unless a sprite is affine they are
fetched in pairs. -/
def leftPrefix (sprite : SpriteAttributes) : Nat :=
  if sprite.x < 0 then
    let offscreen := min (-sprite.x).toNat (spriteScreenWidth sprite)
    if sprite.affine then offscreen else offscreen / 2 * 2
  else 0

/-- The sprites of a scanline with the ends of their fetched columns, as far as the cycles for
sprites last. -/
def activeSprites : List Nat → Nat → List (SpriteAttributes × Nat)
  | [], _ => []
  | index :: rest, remaining =>
      match PpuSpriteFetcher.readSprite callbacks bus index with
      | none => activeSprites rest remaining
      | some sprite =>
          let fetchWidth := spriteScreenWidth sprite - leftPrefix sprite
          let cycles := if sprite.affine then 10 + fetchWidth * 2 else fetchWidth
          let admitted :=
            if cycles ≤ remaining then fetchWidth
            else if sprite.affine then if 10 < remaining then (remaining - 10) / 2 else 0
            else remaining
          if sprite.disabled || !lineIntersectsSprite scanline sprite then
            activeSprites rest remaining
          else if remaining = 0 then []
          else if fetchWidth = 0 then activeSprites rest remaining
          else if admitted = 0 then []
          else (sprite, leftPrefix sprite + admitted) :: activeSprites rest (remaining - cycles)

/-- The locals `obj_row`, `obj_semi_row` and `obj_window_row`. -/
structure ObjRow where
  candidate : Nat → Option PixelCandidate
  semi : Nat → Bool
  window : Nat → Bool

/-- The opaque pixel of a sprite at a column, if the sprite is fetched up to there. -/
def spritePixelAt (sprite : SpriteAttributes) (columns : Nat) (x : Nat) : Option SpritePixel :=
  if max 0 sprite.x ≤ (x : Int) ∧ (x : Int) < min (sprite.x + columns) kScreenWidth then
    let colorMosaic := sprite.mosaicEnabled && !sprite.objWindow
    let localX := (((x : Int) - sprite.x) % 256).toNat
    let localY := spriteLine scanline sprite
    (PpuSpriteFetcher.fetchSpritePixel callbacks bus sprite
      (if colorMosaic then mosaicBlock localX (mosaicSize control 2) else localX)
      (if colorMosaic then mosaicBlock localY (mosaicSize control 3) else localY)
      (control.dispcnt.getLsbD 6)).filter fun pixel => !pixel.transparent
  else none

/-- A pass of the loop over the active sprites: columns that are taken stay as they are. -/
def drawSprite (row : ObjRow) (active : SpriteAttributes × Nat) : ObjRow :=
  let sprite := active.1
  let pixelAt := spritePixelAt callbacks bus control scanline sprite active.2
  if sprite.objWindow then
    if control.dispcnt.getLsbD 15 then
      { row with window := fun x => row.window x || (pixelAt x).isSome }
    else row
  else
    { row with
      candidate := fun x =>
        (row.candidate x).or
          ((pixelAt x).map fun pixel => ⟨normalizeColor pixel.color, 4, sprite.priority⟩)
      semi := fun x =>
        if (row.candidate x).isNone && (pixelAt x).isSome then sprite.semiTransparent
        else row.semi x }

/-- The sprites of a scanline. -/
def objRow : ObjRow :=
  let active :=
    if control.dispcnt.getLsbD 12 then
      activeSprites callbacks bus scanline (List.range PpuSpriteFetcher.kSpriteCount)
        (if control.dispcnt.getLsbD 5 then 954 else 1210)
    else []
  active.foldl (drawSprite callbacks bus control scanline)
    ⟨fun _ => none, fun _ => false, fun _ => false⟩

/-! ## Composition -/

/-- The colour effects that `bldcnt` selects: 1 blends, 2 and 3 change the brightness. -/
def effect : BitVec 2 := control.bldcnt.extractLsb' 6 2

/-- The condition `do_alpha`. -/
def doAlpha (layerMask : BitVec 6) (composition : Composition) (semiTransparent : Bool) : Bool :=
  let firstTarget := control.bldcnt.getLsbD composition.best.layerBit
  let secondTarget := control.bldcnt.getLsbD (composition.second.layerBit + 8)
  let forcedObjAlpha := composition.best.layerBit = 4 && semiTransparent
  layerMask.getLsbD 5 && secondTarget && (forcedObjAlpha || effect control = 1#2 && firstTarget)

/-- The condition `do_brightness`, without that there is no blending. -/
def doBrightness (layerMask : BitVec 6) (composition : Composition) : Bool :=
  layerMask.getLsbD 5 && (effect control = 2#2 || effect control = 3#2) &&
    control.bldcnt.getLsbD composition.best.layerBit

/-- The colour of a pixel, and whether it was blended. -/
def finishPixel (layerMask : BitVec 6) (composition : Composition) (semiTransparent : Bool) :
    U16 × Bool :=
  let best := composition.best
  let color := normalizeColor best.color
  let amount := (control.bldy.extractLsb' 0 5).toNat
  if doAlpha control layerMask composition semiTransparent then
    (alphaBlend best.color composition.second.color (control.bldalpha.extractLsb' 0 5).toNat
      (control.bldalpha.extractLsb' 8 5).toNat, true)
  else if doBrightness control layerMask composition && amount ≠ 0 then
    (brightnessBlend color amount (effect control = 2#2), true)
  else (color, false)

/-- What a pass of the last loop of `render_scanline` writes and counts. -/
structure PixelResult where
  color : U16
  bgPixels : Nat
  objPixels : Nat
  bitmapPixels : Nat
  windowMasked : Bool
  blended : Bool

/-- The pixels of the backgrounds that are considered. -/
def backgroundCandidates (layerMask : BitVec 6) (x : Nat) : List PixelCandidate :=
  bgCandidates control textBgAvailableInMode (textCandidate callbacks bus control scanline x)
      layerMask [0, 1, 2, 3] ++
    bgCandidates control affineBgAvailableInMode (affineCandidate callbacks bus control scanline x)
      layerMask [2, 3]

/-- The pixel of the bitmap that is considered. -/
def bitmapCandidates (layerMask : BitVec 6) (x : Nat) : List PixelCandidate :=
  if 3 ≤ mode control && layerMask.getLsbD 2 then
    ((fetchBitmapPixel callbacks bus control scanline x).map fun color =>
      (⟨normalizeColor color, 2, 0⟩ : PixelCandidate)).toList
  else []

/-- The pixel of the sprites that is considered. -/
def objCandidates (row : ObjRow) (layerMask : BitVec 6) (x : Nat) : List PixelCandidate :=
  if control.dispcnt.getLsbD 12 && layerMask.getLsbD 4 then (row.candidate x).toList else []

/-- A pass of the last loop of `render_scanline`. Without visible layers no pixel is considered. -/
def composePixel (row : ObjRow) (x : Nat) : PixelResult :=
  let layerMask := windowLayerMask control x scanline (row.window x)
  let behind : PixelCandidate := ⟨backdrop callbacks bus, kBackdropLayerBit, 4⟩
  let backgrounds := considerAll (backgroundCandidates callbacks bus control scanline layerMask x)
    ⟨behind, behind⟩
  let bitmaps := bitmapCandidates callbacks bus control scanline layerMask x
  let withBitmap := considerAll bitmaps backgrounds.2
  let withObj := considerAll (objCandidates control row layerMask x) withBitmap.2
  let finished := finishPixel control layerMask withObj.2 (withObj.1 ≠ 0 && row.semi x)
  { color := normalizeColor finished.1
    bgPixels := backgrounds.1
    objPixels := withObj.1
    bitmapPixels := bitmaps.length
    windowMasked := layerMask = 0
    blended := finished.2 }

/-- A row of the framebuffer replaced. -/
def writeRow (framebuffer : Framebuffer) (row : Fin kScreenHeight) (color : Nat → U16) :
    Framebuffer :=
  Function.update framebuffer row fun x => color x.val

/-- `render_scanline`: white in a mode that does not exist and in a forced blank. -/
def renderScanline (scanline : U16) (framebuffer : Framebuffer) : PpuRenderStats × Framebuffer :=
  if h : scanline.toNat < kScreenHeight then
    if 5 < mode control then
      (⟨scanline, 0, 0, false, false, 0, 0, 0⟩,
        writeRow framebuffer ⟨scanline.toNat, h⟩ fun _ => 0x7FFF#16)
    else if control.dispcnt.getLsbD 7 then
      (⟨scanline, 0, 0, true, true, 0, 0, 0⟩,
        writeRow framebuffer ⟨scanline.toNat, h⟩ fun _ => 0x7FFF#16)
    else
      let row := objRow callbacks bus control scanline.toNat
      let pixel := composePixel callbacks bus control scanline.toNat row
      let total (count : PixelResult → Nat) := ((List.range kScreenWidth).map (count ∘ pixel)).sum
      ({ scanline := scanline
         bgPixels := total PixelResult.bgPixels
         objPixels := total PixelResult.objPixels
         supportedMode := true
         forcedBlank := false
         bitmapPixels := total PixelResult.bitmapPixels
         windowMaskedPixels := total fun pixel => if pixel.windowMasked then 1 else 0
         blendPixels := total fun pixel => if pixel.blended then 1 else 0 },
        writeRow framebuffer ⟨scanline.toNat, h⟩ fun x => (pixel x).color)
  else (⟨scanline, 0, 0, false, false, 0, 0, 0⟩, framebuffer)

end Scanline

end PpuRenderer

end Gba.Core
