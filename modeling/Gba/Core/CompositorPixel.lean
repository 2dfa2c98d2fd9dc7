import Gba.Core.CompositorFront

/-!
# The pixel of a scanline

The renderer writes the pixel of the reference, but for misplaced bitmaps and for coefficients
above 16.
-/

namespace Gba.Core

namespace Compositor

open PpuRenderer

section Layers

variable {σ : Type} {callbacks : MemoryBusIoCallbacks σ} {bus : BusState σ}
  {control : PpuRenderControl} {scanline : Nat}

/-! ## The pixel -/

/-- The sprites' pixel was the best when it was considered if it is in front in the end. -/
theorem objCount_iff {candidate : Option PixelCandidate} {composition : Composition}
    (hlayer : ∀ sprite ∈ candidate, sprite.layerBit = 4) (hbest : composition.best.layerBit ≠ 4) :
    (considerAll candidate.toList composition).1 ≠ 0 ↔
      (considerAll candidate.toList composition).2.best.layerBit = 4 := by
  cases candidate with
  | none => exact iff_of_false (by simp [considerAll]) hbest
  | some sprite =>
      have hsprite := hlayer sprite rfl
      have hconsider := @consider_best composition sprite (by rw [hsprite]; exact hbest)
      rw [hsprite] at hconsider
      unfold Option.toList considerAll considerAll
      dsimp only
      rw [← hconsider]
      cases (consider composition sprite).1 with
      | true => exact iff_of_true (by decide) rfl
      | false => exact iff_of_false (by decide) (by decide)

/-- The effect in terms of the two candidates. -/
theorem colourEffect_candidates {composition : Composition} {top below : LayerPixel}
    (h : SamePixel composition.best top) (h' : SamePixel composition.second below)
    (shown : BitVec 6) (translucent : Bool) :
    colourEffect control shown top below translucent =
      if !shown.getLsbD 5 then .none
      else if control.bldcnt.getLsbD (8 + composition.second.layerBit) &&
          (decide (composition.best.layerBit = 4) && translucent ||
            decide (effect control = 1#2) && control.bldcnt.getLsbD composition.best.layerBit) then
        .alpha (control.bldalpha.extractLsb' 0 5).toNat (control.bldalpha.extractLsb' 8 5).toNat
      else if !control.bldcnt.getLsbD composition.best.layerBit then .none
      else if effect control = 2#2 then .brighten (control.bldy.extractLsb' 0 5).toNat
      else if effect control = 3#2 then .darken (control.bldy.extractLsb' 0 5).toNat
      else .none := by
  have hobj : top.layer = .obj ↔ composition.best.layerBit = 4 := by
    rw [h.1]
    exact ⟨congrArg Layer.bit, fun hbit => Layer.bit_injective hbit⟩
  unfold colourEffect effect
  rw [h.1, h'.1] at *
  simp only [hobj]

theorem doAlpha_eq (shown : BitVec 6) (composition : Composition) {semi translucent : Bool}
    (hsemi : (decide (composition.best.layerBit = 4) && semi) =
      (decide (composition.best.layerBit = 4) && translucent)) :
    doAlpha control shown composition semi =
      (shown.getLsbD 5 && (control.bldcnt.getLsbD (8 + composition.second.layerBit) &&
        (decide (composition.best.layerBit = 4) && translucent ||
          decide (effect control = 1#2) && control.bldcnt.getLsbD composition.best.layerBit))) := by
  unfold doAlpha
  dsimp only
  rw [hsemi, Nat.add_comm, Bool.and_assoc]

/-- The colour that the renderer mixes of two layers, with coefficients that need no saturation. -/
theorem finishPixel_fits {shown : BitVec 6} {composition : Composition} {top below : LayerPixel}
    {semi translucent : Bool} (hbest : SamePixel composition.best top)
    (hsecond : SamePixel composition.second below)
    (hsemi : (decide (composition.best.layerBit = 4) && semi) =
      (decide (composition.best.layerBit = 4) && translucent))
    (hfits : (colourEffect control shown top below translucent).Fits) :
    normalizeColor (finishPixel control shown composition semi).1 =
      ofChannels fun index =>
        (colourEffect control shown top below translucent).apply (channel top.color index)
          (channel below.color index) := by
  rw [colourEffect_candidates hbest hsecond] at hfits ⊢
  rw [← hbest.2, ← hsecond.2]
  have hnone : normalizeColor (normalizeColor composition.best.color) =
      ofChannels fun index => channel composition.best.color index := by
    rw [ofChannels_channel]
    unfold normalizeColor
    rw [BitVec.and_assoc, BitVec.and_self]
  have hnormal (applied : ColourEffect) :
      normalizeColor (ofChannels fun index =>
          applied.apply (channel composition.best.color index)
            (channel composition.second.color index)) =
        ofChannels fun index =>
          applied.apply (channel composition.best.color index)
            (channel composition.second.color index) :=
    (ofChannels_fields fun index => applied.apply_le (channel_le _ index) _).2
  -- the source skips a brightness coefficient of 0, under which every channel keeps its value
  have hbrightness (increase : Bool)
      (h : (control.bldy.extractLsb' 0 5).toNat ≤ 16) :
      normalizeColor
          (if decide ((control.bldy.extractLsb' 0 5).toNat ≠ 0) = true then
            (brightnessBlend (normalizeColor composition.best.color)
              (control.bldy.extractLsb' 0 5).toNat increase, true)
          else (normalizeColor composition.best.color, false)).1 =
        ofChannels fun index =>
          (if increase then ColourEffect.brighten (control.bldy.extractLsb' 0 5).toNat
            else .darken (control.bldy.extractLsb' 0 5).toNat).apply
              (channel composition.best.color index)
              (channel composition.second.color index) := by
    split
    · dsimp only
      rw [brightnessBlend_fits h]
      simp only [channel_normalizeColor]
      cases increase with
      | true => exact hnormal (.brighten (control.bldy.extractLsb' 0 5).toNat)
      | false => exact hnormal (.darken (control.bldy.extractLsb' 0 5).toNat)
    · next hzero =>
        replace hzero : (control.bldy.extractLsb' 0 5).toNat = 0 := by simpa using hzero
        rw [hzero, hnone]
        congr 1
        funext index
        cases increase with
        | true =>
            show _ = _ + _ * min 0 16 / 16
            simp
        | false =>
            show _ = _ - _ * min 0 16 / 16
            simp
  have halpha : doAlpha control shown composition semi = _ := doAlpha_eq shown composition hsemi
  unfold finishPixel doBrightness
  rw [halpha]
  dsimp only at hfits ⊢
  -- both sides branch on the same three conditions, which the cases below name
  generalize (control.bldcnt.getLsbD (8 + composition.second.layerBit) &&
    (decide (composition.best.layerBit = 4) && translucent ||
      decide (effect control = 1#2) && control.bldcnt.getLsbD composition.best.layerBit)) = mixes
    at hfits ⊢
  generalize control.bldcnt.getLsbD composition.best.layerBit = first at hfits ⊢
  generalize shown.getLsbD 5 = allowed at hfits ⊢
  cases allowed with
  | false => exact hnone
  | true =>
    cases mixes with
    | true =>
        obtain ⟨heva, hevb⟩ := hfits
        show normalizeColor (alphaBlend _ _ _ _) = _
        rw [alphaBlend_fits heva hevb]
        exact hnormal (.alpha _ _)
    | false =>
      cases first with
      | false =>
          simp only [Bool.and_false, Bool.false_and, Bool.false_eq_true, if_false]
          exact hnone
      | true =>
        by_cases hbrighten : effect control = 2#2
        · simp only [hbrighten] at hfits ⊢
          exact hbrightness true hfits
        by_cases hdarken : effect control = 3#2
        · simp only [hdarken] at hfits ⊢
          exact hbrightness false hfits
        · simp only [hbrighten, hdarken]
          exact hnone

/-- A guard that a condition entails says nothing beside it. -/
theorem and_guard {condition guard value : Bool} (h : condition = true → guard = true) :
    (condition && (guard && value)) = (condition && value) := by
  cases condition with
  | true => rw [h rfl, Bool.true_and]
  | false => rfl

/-- The pixel that the renderer writes. -/
theorem composePixel_color (hmode : mode control < 6) {x : Nat} (hx : x < kScreenWidth)
    (hline : scanline < kScreenHeight)
    (hplaced : ¬BitmapMisplaced callbacks bus control scanline x)
    (hfits : (effectAt callbacks bus control scanline x).Fits) :
    (composePixel callbacks bus control scanline (objRow callbacks bus control scanline) x).color =
      pixel callbacks bus control scanline x := by
  obtain ⟨hbest, hsecond⟩ := (composed_iff hmode hx hline).mpr hplaced
  unfold composed at hbest hsecond
  unfold composePixel
  unfold pixel
  unfold effectAt at hfits ⊢
  dsimp only at hfits hbest hsecond ⊢
  rw [windowLayerMask_shown hx hline] at hbest hsecond ⊢
  rw [objCandidates_eq hx] at hbest hsecond ⊢
  refine finishPixel_fits hbest hsecond ?_ hfits
  have hlower : ∀ candidate ∈ backgroundCandidates callbacks bus control scanline
      (shownAt callbacks bus control scanline x) x ++
        bitmapCandidates callbacks bus control scanline (shownAt callbacks bus control scanline x) x,
      candidate.layerBit ≠ 4 := by
    intro candidate hcandidate
    rcases List.mem_append.mp hcandidate with h | h
    · exact backgroundCandidates_layer h
    · exact bitmapCandidates_layer h
  have hbackgrounds := considerAll_layers hlower
    (show (composition (behind callbacks bus, behind callbacks bus)).best.layerBit ≠ 4 from
      (by decide : 5 ≠ 4))
  rw [considerAll_append] at hbackgrounds
  have hsprite : ∀ sprite ∈ (visiblePixel callbacks bus control scanline x .obj).map asCandidate,
      sprite.layerBit = 4 := by
    intro sprite h
    obtain ⟨pixel, hpixel, rfl⟩ := Option.map_eq_some_iff.mp h
    exact congrArg Layer.bit (visiblePixel_spec hpixel).1
  -- a translucent sprite in front was the best when it was considered
  rw [objRow_translucent hx]
  exact and_guard fun hfront => decide_eq_true
    ((objCount_iff hsprite hbackgrounds).mpr (of_decide_eq_true hfront))

end Layers

/-! ## A scanline -/

section Scanline

variable {σ : Type} (callbacks : MemoryBusIoCallbacks σ) (bus : BusState σ)
  (control : PpuRenderControl) (scanline : U16)

/-- The renderer composes every pixel of a scanline as the reference does, unless it misplaces the
bitmap or an effect has a coefficient above 16. It chooses the frontmost layers wherever the bitmap
is not misplaced and only there, and with a coefficient above 16 it mixes some colours wrongly. -/
theorem renderScanline_pixel (hmode : mode control ≤ 5)
    (hblank : control.dispcnt.getLsbD 7 = false) (hline : scanline.toNat < kScreenHeight)
    (framebuffer : Framebuffer) (x : Fin kScreenWidth) :
    let line := scanline.toNat
    let chosen := composed callbacks bus control line x.val
    let front := frontmost callbacks bus control line x.val
    let applied := effectAt callbacks bus control line x.val
    let written :=
      (renderScanline callbacks bus control scanline framebuffer).2 ⟨scanline.toNat, hline⟩ x
    (SamePixel chosen.best front.1 ∧ SamePixel chosen.second front.2 ↔
        ¬BitmapMisplaced callbacks bus control line x.val) ∧
      (¬BitmapMisplaced callbacks bus control line x.val → applied.Fits →
        written = pixel callbacks bus control line x.val ∧
          ∀ index, channel written index =
            applied.apply (channel front.1.color index) (channel front.2.color index)) ∧
      (∀ eva evb, (∀ top bottom, alphaBlend top bottom eva evb =
          ofChannels fun index =>
            (ColourEffect.alpha eva evb).apply (channel top index) (channel bottom index)) ↔
        (ColourEffect.alpha eva evb).Fits) ∧
      ∀ increase, ∀ evy ≤ 31, (∀ color, brightnessBlend color evy increase =
          ofChannels fun index =>
            (if increase then ColourEffect.brighten evy else .darken evy).apply
              (channel color index) 0) ↔
        evy ≤ 16 := by
  intro line chosen front applied written
  have hmodes : mode control < 6 := Nat.lt_succ_of_le hmode
  refine ⟨composed_iff hmodes x.isLt hline, fun hplaced hfits => ?_, alphaBlend_exact,
    fun increase evy hevy => brightnessBlend_exact hevy increase⟩
  have hwritten : written =
      (composePixel callbacks bus control line (objRow callbacks bus control line) x.val).color := by
    show (renderScanline callbacks bus control scanline framebuffer).2 _ x = _
    unfold renderScanline writeRow
    rw [dif_pos hline, if_neg (Nat.not_lt_of_le hmode), if_neg (by rw [hblank]; decide)]
    have hrow := Function.update_self (⟨scanline.toNat, hline⟩ : Fin kScreenHeight)
      (fun x : Fin kScreenWidth =>
        (composePixel callbacks bus control line (objRow callbacks bus control line) x.val).color)
      framebuffer
    exact congrFun hrow x
  have hpixel : written = pixel callbacks bus control line x.val :=
    hwritten.trans (composePixel_color hmodes x.isLt hline hplaced hfits)
  refine ⟨hpixel, fun index => ?_⟩
  rw [hpixel]
  exact (ofChannels_fields fun index => applied.apply_le (channel_le _ index) _).1 index

end Scanline

/-- Mode 0 without layers, and the backdrop brightened. -/
def brightened (evy : U16) : PpuRenderControl where
  dispcnt := 0
  bgControl := fun _ => 0
  bgScrollX := fun _ => 0
  bgScrollY := fun _ => 0
  win0h := 0
  win0v := 0
  win1h := 0
  win1v := 0
  winin := 0x3F
  winout := 0x3F
  bldcnt := 0x00A0
  bldalpha := 0
  bldy := evy
  bgAffinePa := fun _ => 0
  bgAffinePb := fun _ => 0
  bgAffinePc := fun _ => 0
  bgAffinePd := fun _ => 0
  bgReferenceX := fun _ => 0
  bgReferenceY := fun _ => 0
  mosaic := 0

/-- A bus with empty memories, and no device that answers. -/
def blackBus : BusState Unit := ⟨MemoryBus.initial, ()⟩

def noFacade : MemoryBusIoCallbacks Unit := ⟨none, none, none, none⟩

/-- A red sprite in front of a blue background: one translucent sprite, and a tile of one pixel in
each of the two tile memories. -/
def blendedBus : BusState Unit :=
  ⟨{ MemoryBus.initial with
      oam := fun index => if index.val = 1 then 0x04#8 else if index.val % 8 = 1 then 0x02#8 else 0
      vram := fun index => if index.val = 0 ∨ index.val = 0x10000 then 0x01#8 else 0
      palette := fun index =>
        if index.val = 0x03 then 0x7C#8 else if index.val = 0x202 then 0x1F#8 else 0 }, ()⟩

/-- Sprites and a background of priority 1 inside a window, and the background as second target. -/
def blended : PpuRenderControl :=
  { brightened 0 with
    dispcnt := 0x3100#16
    bgControl := fun _ => 0x0801#16
    win0h := 0x00F0#16
    win0v := 0x00A0#16
    winout := 0
    bldcnt := 0x0100#16
    bldalpha := 0x0808#16 }

/-- The translucent sprite is mixed with the background behind it. -/
theorem renderScanline_pixel_blended :
    (renderScanline noFacade blendedBus blended 0 fun _ _ => 0).2 ⟨0, by decide⟩ ⟨0, by decide⟩ =
      0x3C0F#16 := by
  have heffect : effectAt noFacade blendedBus blended 0 0 = .alpha 8 8 := by decide +kernel
  have hpixel : pixel noFacade blendedBus blended 0 0 = 0x3C0F#16 := by decide +kernel
  have hplaced : ¬BitmapMisplaced noFacade blendedBus blended 0 0 :=
    fun h => absurd h.1 (by decide)
  refine ((renderScanline_pixel noFacade blendedBus blended 0 (by decide) (by decide) (by decide)
    (fun _ _ => 0) ⟨0, by decide⟩).2.1 hplaced ?_).1.trans hpixel
  show (effectAt noFacade blendedBus blended 0 0).Fits
  rw [heffect]
  exact ⟨by decide, by decide⟩

/-- With a coefficient of 31 the channels of the backdrop run into each other. -/
theorem not_composited_brightened :
    (renderScanline noFacade blackBus (brightened 31) 0 fun _ _ => 0).2 ⟨0, by decide⟩
        ⟨0, by decide⟩ ≠
      pixel noFacade blackBus (brightened 31) 0 0 := by
  decide

end Compositor

end Gba.Core
