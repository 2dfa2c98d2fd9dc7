import Gba.Core.SpriteLine
import Gba.Library.LeastTwo
import Mathlib.Data.Prod.Lex
import Mathlib.Tactic.FinCases
import Mathlib.Tactic.IntervalCases

/-!
# Compositing

What a pixel of a scanline is meant to be: the two frontmost of the opaque pixels of the visible
layers, under the window that the pixel lies in, mixed channel by channel. Of the renderer's
functions the reference uses only those that fetch a texel, a bitmap's pixel or a register's field.
The renderer agrees, but for the bitmap, which it takes as if its priority were 0, and for the
coefficients of the colour effects, which it does not limit to 16.
-/

namespace Gba.Core

open Library (LeastTwo keepLeast firstTwo)

namespace Compositor

open PpuRenderer

/-! ## Layers -/

/-- The layers of a picture. -/
inductive Layer where
  | obj
  | bg (index : Fin 4)
  | backdrop
  deriving DecidableEq, Repr

namespace Layer

/-- The place of a layer at equal priority, from the front to the back. -/
def place : Layer → Nat
  | obj => 0
  | bg index => index.val + 1
  | backdrop => 5

/-- The bit of a layer in what a window shows and in the targets of the effects. -/
def bit : Layer → Nat
  | bg index => index.val
  | obj => 4
  | backdrop => 5

end Layer

/-- An opaque pixel of a layer. -/
structure LayerPixel where
  layer : Layer
  priority : Nat
  color : U16
  deriving DecidableEq, Repr

/-- The rank of a pixel: its priority, then the place of its layer. -/
def rank (pixel : LayerPixel) : ℕ ×ₗ ℕ := toLex (pixel.priority, pixel.layer.place)

/-! ## Windows -/

/-- A position lies in a range, from its first coordinate to the one before its last. Coordinates run
round at 256. -/
def betweenEdges (edges : U16) (position : Nat) : Bool :=
  let first := (edges.extractLsb' 8 8).toNat
  let last := (edges.extractLsb' 0 8).toNat
  (position + (256 - first)) % 256 < (last + (256 - first)) % 256

/-- The windows of a pixel, the foremost first: whether it lies in each, and what each shows. -/
def windows (control : PpuRenderControl) (x y : Nat) (objWindowHit : Bool) :
    List (Bool × BitVec 6) :=
  [(control.dispcnt.getLsbD 13 && betweenEdges control.win0h x && betweenEdges control.win0v y,
      control.winin.extractLsb' 0 6),
    (control.dispcnt.getLsbD 14 && betweenEdges control.win1h x && betweenEdges control.win1v y,
      control.winin.extractLsb' 8 6),
    (control.dispcnt.getLsbD 15 && objWindowHit, control.winout.extractLsb' 8 6)]

/-- What is visible at a pixel: everything without windows. -/
def visible (control : PpuRenderControl) (x y : Nat) (objWindowHit : Bool) : BitVec 6 :=
  if control.dispcnt.extractLsb' 13 3 = 0#3 then BitVec.allOnes 6
  else
    match (windows control x y objWindowHit).find? Prod.fst with
    | some window => window.2
    | none => control.winout.extractLsb' 0 6

/-! ## Effects -/

/-- A colour effect with its coefficients. -/
inductive ColourEffect where
  | none
  | alpha (eva evb : Nat)
  | brighten (evy : Nat)
  | darken (evy : Nat)
  deriving DecidableEq, Repr

namespace ColourEffect

/-- A channel under an effect, whose coefficients saturate at 16. -/
def apply (effect : ColourEffect) (first second : Nat) : Nat :=
  match effect with
  | none => first
  | alpha eva evb => min 31 ((first * min eva 16 + second * min evb 16) / 16)
  | brighten evy => first + (31 - first) * min evy 16 / 16
  | darken evy => first - first * min evy 16 / 16

/-- The coefficients need no saturation. -/
def Fits : ColourEffect → Prop
  | none => True
  | alpha eva evb => eva ≤ 16 ∧ evb ≤ 16
  | brighten evy => evy ≤ 16
  | darken evy => evy ≤ 16

/-- A channel stays in its five bits. -/
theorem apply_le (effect : ColourEffect) {first : Nat} (hfirst : first ≤ 31) (second : Nat) :
    effect.apply first second ≤ 31 := by
  cases effect with
  | none => exact hfirst
  | alpha eva evb => exact min_le_left _ _
  | brighten evy =>
      have hshare : (31 - first) * min evy 16 / 16 ≤ 31 - first :=
        Nat.div_le_of_le_mul (by rw [Nat.mul_comm]; exact Nat.mul_le_mul_right _ (min_le_right _ _))
      show first + (31 - first) * min evy 16 / 16 ≤ 31
      omega
  | darken evy => exact (Nat.sub_le _ _).trans hfirst

end ColourEffect

/-- The effect at a pixel with the given layers in front. A translucent sprite is blended whatever
the effect; without a layer to blend with, it is an ordinary first target. -/
def colourEffect (control : PpuRenderControl) (shown : BitVec 6) (top second : LayerPixel)
    (translucent : Bool) : ColourEffect :=
  let first := control.bldcnt.getLsbD top.layer.bit
  let selected : BitVec 2 := control.bldcnt.extractLsb' 6 2
  let coefficient (register : U16) (start : Nat) : Nat := (register.extractLsb' start 5).toNat
  let evy := coefficient control.bldy 0
  if !shown.getLsbD 5 then .none
  else if control.bldcnt.getLsbD (8 + second.layer.bit) &&
      (decide (top.layer = .obj) && translucent || decide (selected = 1#2) && first) then
    .alpha (coefficient control.bldalpha 0) (coefficient control.bldalpha 8)
  else if !first then .none
  else if selected = 2#2 then .brighten evy
  else if selected = 3#2 then .darken evy
  else .none

/-- A colour from its channels. -/
def ofChannels (value : Fin 3 → Nat) : U16 :=
  BitVec.ofNat 16 (value 0) ||| BitVec.ofNat 16 (value 1) <<< 5 ||| BitVec.ofNat 16 (value 2) <<< 10

/-! ## Backgrounds -/

/-- What a background is made of. -/
inductive BackgroundKind where
  | text | affine | bitmap
  deriving DecidableEq, Repr

/-- The backgrounds of the modes. -/
def backgroundKinds : List (List (Option BackgroundKind)) :=
  [[some .text, some .text, some .text, some .text],
    [some .text, some .text, some .affine, none],
    [none, none, some .affine, some .affine],
    [none, none, some .bitmap, none],
    [none, none, some .bitmap, none],
    [none, none, some .bitmap, none]]

/-- The kind of a background in a mode. -/
def backgroundKind (mode : Nat) (index : Fin 4) : Option BackgroundKind :=
  (backgroundKinds.getD mode []).getD index.val none

/-- A mosaic holds the first coordinate of each of its blocks. -/
def held (size coordinate : Nat) : Nat := coordinate - coordinate % size

/-- The coordinates at which a background is sampled for a pixel. -/
def samplePosition (control : PpuRenderControl) (index : Fin 4) (x y : Nat) : Nat × Nat :=
  if (control.bgControl index).getLsbD 6 then
    (held ((control.mosaic.extractLsb' 0 4).toNat + 1) x,
      held ((control.mosaic.extractLsb' 4 4).toNat + 1) y)
  else (x, y)

/-- A coordinate of an affine texture, from a reference point of 20.8 bits and a row of the
matrix. -/
def textureCoordinate (reference : U32) (rowX rowY : U16) (position : Nat × Nat) : Int :=
  ((reference.extractLsb' 0 28).toInt + rowX.toInt * position.1 + rowY.toInt * position.2) / 256

section Pixel

variable {σ : Type} (callbacks : MemoryBusIoCallbacks σ) (bus : BusState σ)
  (control : PpuRenderControl) (scanline : Nat)

/-- The colour of a text background, if it is not transparent. -/
def textColor (index : Fin 4) (x : Nat) : Option U16 :=
  let position := samplePosition control index x scanline
  ((PpuBackgroundFetcher.fetchTextPixel callbacks bus
    (PpuBackgroundFetcher.decodeControl (control.bgControl index))
    (BitVec.ofNat 16 position.1 + control.bgScrollX index)
    (BitVec.ofNat 16 position.2 + control.bgScrollY index)).filter
      fun pixel => !pixel.transparent).map BgPixel.color

/-- The colour of an affine background, if it is not transparent. -/
def affineColor (index : Fin 4) (x : Nat) : Option U16 :=
  let position := samplePosition control index x scanline
  ((PpuBackgroundFetcher.fetchAffinePixel callbacks bus
    (PpuBackgroundFetcher.decodeControl (control.bgControl index))
    (textureCoordinate (control.bgReferenceX index) (control.bgAffinePa index)
      (control.bgAffinePb index) position)
    (textureCoordinate (control.bgReferenceY index) (control.bgAffinePc index)
      (control.bgAffinePd index) position)).filter
      fun pixel => !pixel.transparent).map AffinePixel.color

/-- The colour of a background at a pixel. Text and affine backgrounds have to be enabled, the bitmap
does not. -/
def backgroundColor (index : Fin 4) (x : Nat) : Option U16 :=
  let enabled := control.dispcnt.getLsbD (8 + index.val)
  match backgroundKind (mode control) index with
  | some .text => if enabled then textColor callbacks bus control scanline index x else none
  | some .affine => if enabled then affineColor callbacks bus control scanline index x else none
  | some .bitmap => fetchBitmapPixel callbacks bus control scanline x
  | none => none

/-! ## Sprites -/

/-- The parts of sprites that are drawn: those that take part, in the order of the OAM, as far as
the cycles of the line pay them. -/
def lineParts : List (SpriteAttributes × Nat) :=
  (spriteCosts.fill (lineSprites callbacks bus control scanline) (objBudget control)).map
    fun part => (part.1, leftPrefix part.1 + part.2)

/-- The first sprite with an opaque texel at a pixel, and the texel. -/
def objPixel (x : Nat) : Option (SpriteAttributes × SpritePixel) :=
  frontPixel (fun active => opaqueTexel callbacks bus control scanline active x)
    (lineParts callbacks bus control scanline)

/-- The sprite of a pixel is a translucent one. -/
def translucent (x : Nat) : Bool :=
  ((objPixel callbacks bus control scanline x).map fun front =>
    front.1.semiTransparent).getD false

/-- A window sprite has an opaque texel at a pixel. -/
def inObjWindow (x : Nat) : Bool :=
  (lineParts callbacks bus control scanline).any fun active =>
    active.1.objWindow && (opaqueTexel callbacks bus control scanline active x).isSome

/-! ## The reference -/

/-- What is visible at a pixel of the scanline. -/
def shownAt (x : Nat) : BitVec 6 :=
  visible control x scanline (inObjWindow callbacks bus control scanline x)

/-- The backdrop, behind everything. -/
def behind : LayerPixel :=
  ⟨.backdrop, 4, normalizeColor ((bus.read16 callbacks kBackdropColorAddress).getD 0)⟩

/-- The opaque pixel of a layer. A background has the priority of its own control register. -/
def layerPixel (x : Nat) : Layer → Option LayerPixel
  | .obj =>
      (objPixel callbacks bus control scanline x).map fun front =>
        ⟨.obj, front.1.priority, normalizeColor front.2.color⟩
  | .bg index =>
      (backgroundColor callbacks bus control scanline index x).map fun color =>
        ⟨.bg index, ((control.bgControl index).extractLsb' 0 2).toNat, normalizeColor color⟩
  | .backdrop => some (behind callbacks bus)

/-- The opaque pixel of a layer, if the layer is visible. -/
def visiblePixel (x : Nat) (layer : Layer) : Option LayerPixel :=
  if (shownAt callbacks bus control scanline x).getLsbD layer.bit then
    layerPixel callbacks bus control scanline x layer
  else none

/-- The opaque pixels of the visible layers in front of the backdrop. -/
def layers (x : Nat) : List LayerPixel :=
  [.bg 0, .bg 1, .bg 2, .bg 3, .obj].filterMap (visiblePixel callbacks bus control scanline x)

/-- The two frontmost layers. -/
def frontmost (x : Nat) : LayerPixel × LayerPixel :=
  firstTwo rank (behind callbacks bus)
    (layers callbacks bus control scanline x ++ [behind callbacks bus])

/-- The effect at a pixel. -/
def effectAt (x : Nat) : ColourEffect :=
  let front := frontmost callbacks bus control scanline x
  colourEffect control (shownAt callbacks bus control scanline x) front.1 front.2
    (translucent callbacks bus control scanline x)

/-- A pixel of the reference compositor. -/
def pixel (x : Nat) : U16 :=
  let front := frontmost callbacks bus control scanline x
  ofChannels fun index =>
    (effectAt callbacks bus control scanline x).apply (channel front.1.color index)
      (channel front.2.color index)

end Pixel

/-! ## Channels -/

theorem channel_le (color : U16) (index : Fin 3) : channel color index ≤ 31 :=
  Nat.le_of_lt_succ (color.extractLsb' (index.val * 5) 5).isLt

/-- Three fields of five bits. -/
theorem fields_of_colour (first second third : BitVec 5) :
    let colour : U16 :=
      first.setWidth 16 ||| second.setWidth 16 <<< 5 ||| third.setWidth 16 <<< 10
    colour.extractLsb' 0 5 = first ∧ colour.extractLsb' 5 5 = second ∧
      colour.extractLsb' 10 5 = third ∧ normalizeColor colour = colour := by
  refine ⟨?_, ?_, ?_, ?_⟩
  · ext bit hbit
    simp
    grind
  · ext bit hbit
    simp
    grind
  · ext bit hbit
    simp
    grind
  · unfold normalizeColor
    ext bit hbit
    interval_cases bit <;> simp

theorem setWidth_channel {value : Nat} (h : value ≤ 31) :
    BitVec.ofNat 16 value = (BitVec.ofNat 5 value).setWidth 16 := by
  apply BitVec.eq_of_toNat_eq
  rw [BitVec.toNat_setWidth, BitVec.toNat_ofNat, BitVec.toNat_ofNat]
  omega

theorem ofChannels_fields {value : Fin 3 → Nat} (h : ∀ index, value index ≤ 31) :
    (∀ index, channel (ofChannels value) index = value index) ∧
      normalizeColor (ofChannels value) = ofChannels value := by
  have hfields := fields_of_colour (BitVec.ofNat 5 (value 0)) (BitVec.ofNat 5 (value 1))
    (BitVec.ofNat 5 (value 2))
  have hcolour : ofChannels value = (BitVec.ofNat 5 (value 0)).setWidth 16 |||
      (BitVec.ofNat 5 (value 1)).setWidth 16 <<< 5 |||
      (BitVec.ofNat 5 (value 2)).setWidth 16 <<< 10 := by
    unfold ofChannels
    rw [setWidth_channel (h 0), setWidth_channel (h 1), setWidth_channel (h 2)]
  rw [← hcolour] at hfields
  obtain ⟨hfirst, hsecond, hthird, hnormal⟩ := hfields
  have hvalue (index : Fin 3) : (BitVec.ofNat 5 (value index)).toNat = value index := by
    rw [BitVec.toNat_ofNat]
    exact Nat.mod_eq_of_lt (Nat.lt_succ_of_le (h index))
  refine ⟨fun index => ?_, hnormal⟩
  fin_cases index
  · exact (congrArg BitVec.toNat hfirst).trans (hvalue 0)
  · exact (congrArg BitVec.toNat hsecond).trans (hvalue 1)
  · exact (congrArg BitVec.toNat hthird).trans (hvalue 2)

/-- A colour is its channels. -/
theorem ofChannels_channel (color : U16) : ofChannels (channel color) = normalizeColor color := by
  unfold ofChannels
  rw [setWidth_channel (channel_le color 0), setWidth_channel (channel_le color 1),
    setWidth_channel (channel_le color 2)]
  unfold channel normalizeColor
  rw [BitVec.ofNat_toNat, BitVec.ofNat_toNat, BitVec.ofNat_toNat]
  ext bit hbit
  interval_cases bit <;> simp

theorem channel_normalizeColor (color : U16) (index : Fin 3) :
    channel (normalizeColor color) index = channel color index := by
  rw [← ofChannels_channel]
  exact (ofChannels_fields (channel_le color)).1 index

/-! ## Colour effects of the renderer -/

theorem alphaBlend_fits {eva evb : Nat} (heva : eva ≤ 16) (hevb : evb ≤ 16) (top bottom : U16) :
    alphaBlend top bottom eva evb =
      ofChannels fun index =>
        (ColourEffect.alpha eva evb).apply (channel top index) (channel bottom index) := by
  have happly (first second : Nat) : (ColourEffect.alpha eva evb).apply first second =
      alphaBlendChannel first second eva evb := by
    show min 31 ((first * min eva 16 + second * min evb 16) / 16) = _
    rw [min_eq_left heva, min_eq_left hevb]
    rfl
  simp only [happly]
  rfl

theorem brightnessBlend_fits {evy : Nat} (hevy : evy ≤ 16) (increase : Bool) (color : U16) :
    brightnessBlend color evy increase =
      ofChannels fun index =>
        (if increase then ColourEffect.brighten evy else .darken evy).apply (channel color index)
          0 := by
  have happly (value : Nat) (hvalue : value ≤ 31) : applyBrightness evy increase value =
      BitVec.ofNat 16
        ((if increase then ColourEffect.brighten evy else .darken evy).apply value 0) := by
    unfold applyBrightness
    cases increase with
    | true =>
        show BitVec.ofNat 16 _ = BitVec.ofNat 16 (_ + _ * min evy 16 / 16)
        rw [min_eq_left hevy]
    | false =>
        have hshare : value * evy / 16 ≤ value :=
          Nat.div_le_of_le_mul (by rw [Nat.mul_comm]; exact Nat.mul_le_mul_right _ hevy)
        show BitVec.ofNat 16 _ - BitVec.ofNat 16 _ = BitVec.ofNat 16 (_ - _ * min evy 16 / 16)
        rw [min_eq_left hevy]
        apply BitVec.eq_of_toNat_eq
        rw [BitVec.toNat_sub, BitVec.toNat_ofNat, BitVec.toNat_ofNat, BitVec.toNat_ofNat]
        omega
  unfold brightnessBlend ofChannels
  dsimp only
  rw [happly _ (channel_le color 0), happly _ (channel_le color 1), happly _ (channel_le color 2)]

/-- With a larger coefficient some colours are blended wrongly. -/
theorem alphaBlend_exact (eva evb : Nat) :
    (∀ top bottom, alphaBlend top bottom eva evb =
      ofChannels fun index =>
        (ColourEffect.alpha eva evb).apply (channel top index) (channel bottom index)) ↔
      (ColourEffect.alpha eva evb).Fits := by
  constructor
  · intro h
    have hgrey : channel 0x4210#16 0 = 16 := by decide
    have hblack : channel 0#16 0 = 0 := by decide
    have hle {top bottom : U16} (index : Fin 3) :
        alphaBlendChannel (channel top index) (channel bottom index) eva evb ≤ 31 := min_le_left _ _
    have hchannel (top bottom : U16) :
        alphaBlendChannel (channel top 0) (channel bottom 0) eva evb =
          (ColourEffect.alpha eva evb).apply (channel top 0) (channel bottom 0) := by
      have hequal := congrArg (fun color => channel color 0) (h top bottom)
      have hright := (ofChannels_fields fun index => (ColourEffect.alpha eva evb).apply_le
        (channel_le top index) (channel bottom index)).1 0
      have hleft := (ofChannels_fields fun index => @hle top bottom index).1 0
      exact hleft.symm.trans (hequal.trans hright)
    have htop := hchannel 0x4210#16 0#16
    have hbottom := hchannel 0#16 0x4210#16
    rw [hgrey, hblack] at htop hbottom
    replace htop : min 31 ((16 * eva + 0 * evb) / 16) =
      min 31 ((16 * min eva 16 + 0 * min evb 16) / 16) := htop
    replace hbottom : min 31 ((0 * eva + 16 * evb) / 16) =
      min 31 ((0 * min eva 16 + 16 * min evb 16) / 16) := hbottom
    constructor
    · omega
    · omega
  · rintro ⟨heva, hevb⟩ top bottom
    exact alphaBlend_fits heva hevb top bottom

/-- With a larger coefficient some colours run from one channel into another. -/
theorem brightnessBlend_exact {evy : Nat} (hevy : evy ≤ 31) (increase : Bool) :
    (∀ color, brightnessBlend color evy increase =
      ofChannels fun index =>
        (if increase then ColourEffect.brighten evy else .darken evy).apply (channel color index)
          0) ↔ evy ≤ 16 := by
  constructor
  · intro h
    by_contra hlarge
    cases increase with
    | true =>
        have hblack := h 0#16
        revert hblack
        interval_cases evy <;> first | omega | decide
    | false =>
        have hgrey := h 0x4210#16
        revert hgrey
        interval_cases evy <;> first | omega | decide
  · exact fun hfits => brightnessBlend_fits hfits increase

end Compositor

end Gba.Core
