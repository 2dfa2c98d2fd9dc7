import Gba.Core.Compositor

/-!
# The layers of a pixel

The renderer considers the opaque pixels of the visible layers, each once. Its windows, its loops
over the backgrounds and its row of sprites come to the layers of the reference.
-/

namespace Gba.Core

namespace Compositor

open PpuRenderer

/-- A pixel of a layer as the renderer handles it. -/
def asCandidate (pixel : LayerPixel) : PixelCandidate :=
  ⟨pixel.color, pixel.layer.bit, pixel.priority⟩

section Layers

variable {σ : Type} {callbacks : MemoryBusIoCallbacks σ} {bus : BusState σ}
  {control : PpuRenderControl} {scanline : Nat}

/-! ## What the renderer considers -/

theorem mosaicBlock_eq (coordinate size : Nat) :
    mosaicBlock coordinate (size + 1) = held (size + 1) coordinate := by
  have hdivision := Nat.div_add_mod coordinate (size + 1)
  rw [Nat.mul_comm] at hdivision
  unfold mosaicBlock held
  split
  · next hone =>
      obtain rfl : size = 0 := by omega
      rw [Nat.mod_one, Nat.sub_zero]
  · omega

theorem sampleAt_eq (index : Fin 4) (x : Nat) :
    sampleAt control scanline (PpuBackgroundFetcher.decodeControl (control.bgControl index)) x =
      samplePosition control index x scanline := by
  unfold sampleAt samplePosition mosaicSize
  rw [mosaicBlock_eq, mosaicBlock_eq]
  rfl

/-- A pixel of a background as the renderer handles it. -/
def backgroundCandidate (control : PpuRenderControl) (index : Fin 4) (color : U16) :
    PixelCandidate :=
  ⟨normalizeColor color, index.val, ((control.bgControl index).extractLsb' 0 2).toNat⟩

theorem textCandidate_eq (index : Fin 4) (x : Nat) :
    textCandidate callbacks bus control scanline x index =
      (textColor callbacks bus control scanline index x).map
        (backgroundCandidate control index) := by
  unfold textCandidate textColor
  dsimp only
  rw [sampleAt_eq]
  generalize PpuBackgroundFetcher.fetchTextPixel callbacks bus _ _ _ = fetched
  cases fetched with
  | none => rfl
  | some pixel =>
      cases htransparent : pixel.transparent with
      | true => simp [bgCandidate, htransparent]
      | false =>
          simp [bgCandidate, htransparent]
          rfl

theorem shiftRight_eq_div (value : Int) : value.shiftRight 8 = value / 256 :=
  Int.shiftRight_eq_div_pow value 8

theorem affineCandidate_eq (index : Fin 4) (x : Nat) :
    affineCandidate callbacks bus control scanline x index =
      (affineColor callbacks bus control scanline index x).map
        (backgroundCandidate control index) := by
  unfold affineCandidate affineColor textureCoordinate
  dsimp only
  rw [sampleAt_eq, shiftRight_eq_div, shiftRight_eq_div]
  unfold signExtendReference
  generalize PpuBackgroundFetcher.fetchAffinePixel callbacks bus _ _ _ = fetched
  cases fetched with
  | none => rfl
  | some pixel =>
      cases htransparent : pixel.transparent with
      | true => simp [bgCandidate, htransparent]
      | false =>
          simp [bgCandidate, htransparent]
          rfl

/-! ### Windows -/

theorem insideRange_eq (edges : U16) {position : Nat} (h : position < 256) :
    insideRange (edges.extractLsb' 8 8).toNat (edges.extractLsb' 0 8).toNat position =
      betweenEdges edges position := by
  have hfirst := (edges.extractLsb' 8 8).isLt
  have hlast := (edges.extractLsb' 0 8).isLt
  unfold insideRange betweenEdges
  generalize (edges.extractLsb' 8 8).toNat = first at hfirst ⊢
  generalize (edges.extractLsb' 0 8).toNat = last at hlast ⊢
  rw [Bool.eq_iff_iff]
  split
  · simp only [Bool.and_eq_true, decide_eq_true_eq]
    omega
  · simp only [Bool.or_eq_true, decide_eq_true_eq]
    omega

/-- The three windows are off. -/
theorem windowsOff_iff (control : PpuRenderControl) :
    control.dispcnt.extractLsb' 13 3 = 0#3 ↔
      (!control.dispcnt.getLsbD 13 && !control.dispcnt.getLsbD 14 &&
        !control.dispcnt.getLsbD 15) = true := by
  constructor
  · intro h
    have hbit (index : Nat) := congrArg (fun field => BitVec.getLsbD field index) h
    have h13 := hbit 0
    have h14 := hbit 1
    have h15 := hbit 2
    simp at h13 h14 h15 ⊢
    exact ⟨⟨h13, h14⟩, h15⟩
  · intro h
    simp at h
    ext bit hbit
    interval_cases bit <;> simp [h]

theorem windowLayerMask_eq (control : PpuRenderControl) {x y : Nat} (hx : x < 256) (hy : y < 256)
    (objWindowHit : Bool) :
    windowLayerMask control x y objWindowHit = visible control x y objWindowHit := by
  unfold windowLayerMask visible windows insideWindowRect
  dsimp only
  rw [insideRange_eq _ hx, insideRange_eq _ hy, insideRange_eq _ hx, insideRange_eq _ hy,
    List.find?_cons, List.find?_cons, List.find?_cons, List.find?_nil]
  by_cases hwindows : control.dispcnt.extractLsb' 13 3 = 0#3
  · rw [if_pos hwindows, if_pos ((windowsOff_iff control).mp hwindows)]
    rfl
  · rw [if_neg hwindows, if_neg fun h => hwindows ((windowsOff_iff control).mpr h),
      ← Bool.and_assoc, ← Bool.and_assoc]
    generalize (control.dispcnt.getLsbD 13 && betweenEdges control.win0h x &&
      betweenEdges control.win0v y) = inWin0
    generalize (control.dispcnt.getLsbD 14 && betweenEdges control.win1h x &&
      betweenEdges control.win1v y) = inWin1
    generalize (control.dispcnt.getLsbD 15 && objWindowHit) = inWindow
    cases inWin0 <;> cases inWin1 <;> cases inWindow <;> rfl

/-! ### Sprites -/

theorem objRow_translucent {x : Nat} (hx : x < kScreenWidth) :
    (objRow callbacks bus control scanline).semi x =
      translucent callbacks bus control scanline x := by
  have hsemi := (@objRow_pixel σ callbacks bus control scanline x hx).2.1
  rw [admittedSprites_eq] at hsemi
  exact hsemi

/-- The window that the renderer finds a pixel in. -/
theorem windowLayerMask_shown {x : Nat} (hx : x < kScreenWidth) (hline : scanline < kScreenHeight) :
    windowLayerMask control x scanline ((objRow callbacks bus control scanline).window x) =
      shownAt callbacks bus control scanline x := by
  have hwindow := (@objRow_pixel σ callbacks bus control scanline x hx).2.2
  rw [admittedSprites_eq] at hwindow
  rw [windowLayerMask_eq control (hx.trans (by decide)) (hline.trans (by decide)), hwindow]
  unfold shownAt visible windows
  rw [← Bool.and_assoc, Bool.and_self]
  rfl

theorem objCandidates_eq {x : Nat} (hx : x < kScreenWidth) :
    objCandidates control (objRow callbacks bus control scanline)
        (shownAt callbacks bus control scanline x) x =
      ((visiblePixel callbacks bus control scanline x .obj).map asCandidate).toList := by
  have hcandidate := (@objRow_pixel σ callbacks bus control scanline x hx).1
  rw [admittedSprites_eq] at hcandidate
  unfold objCandidates visiblePixel layerPixel
  rw [hcandidate]
  show (if (control.dispcnt.getLsbD 12 &&
    (shownAt callbacks bus control scanline x).getLsbD 4) = true then _ else _) = _
  cases henabled : control.dispcnt.getLsbD 12 with
  | true =>
      show (if (shownAt callbacks bus control scanline x).getLsbD 4 = true then _ else _) =
        (Option.map _ (if (shownAt callbacks bus control scanline x).getLsbD 4 = true then _
          else _)).toList
      split
      · rw [Option.map_map]
        rfl
      · rfl
  | false =>
      have hnone : objPixel callbacks bus control scanline x = none := by
        unfold objPixel lineParts lineSprites
        rw [henabled]
        rfl
      rw [hnone]
      simp

/-! ### Backgrounds -/

/-- A pixel with the priority that the renderer gives it: that of the bitmap is 0. -/
def taken (control : PpuRenderControl) (pixel : LayerPixel) : LayerPixel :=
  if 3 ≤ mode control ∧ pixel.layer = .bg 2 then { pixel with priority := 0 } else pixel

theorem taken_layer (control : PpuRenderControl) (pixel : LayerPixel) :
    (taken control pixel).layer = pixel.layer ∧ (taken control pixel).color = pixel.color := by
  unfold taken
  split
  · exact ⟨rfl, rfl⟩
  · exact ⟨rfl, rfl⟩

/-- What the renderer should consider of a layer. -/
def visibleCandidate (callbacks : MemoryBusIoCallbacks σ) (bus : BusState σ)
    (control : PpuRenderControl) (scanline x : Nat) (layer : Layer) : Option PixelCandidate :=
  (visiblePixel callbacks bus control scanline x layer).map fun pixel =>
    asCandidate (taken control pixel)

theorem backgroundKind_text : ∀ mode < 6, ∀ index,
    (textBgAvailableInMode mode index = true ↔ backgroundKind mode index = some .text) ∧
      (backgroundKind mode index = some .text → mode < 3) := by
  decide

theorem backgroundKind_affine : ∀ mode < 6, ∀ index,
    (affineBgAvailableInMode mode index = true ↔ backgroundKind mode index = some .affine) ∧
      (backgroundKind mode index = some .affine → mode < 3) := by
  decide

theorem backgroundKind_bitmap : ∀ mode < 6,
    3 ≤ mode ↔ backgroundKind mode 2 = some .bitmap := by
  decide

theorem visibleCandidate_none {index : Fin 4} (h : backgroundKind (mode control) index = none)
    (x : Nat) : visibleCandidate callbacks bus control scanline x (.bg index) = none := by
  unfold visibleCandidate visiblePixel layerPixel backgroundColor
  dsimp only
  rw [h]
  simp

/-- A background of tiles is considered with its own priority. -/
theorem visibleCandidate_background {index : Fin 4} (h : mode control < 3) (x : Nat) :
    visibleCandidate callbacks bus control scanline x (.bg index) =
      if (shownAt callbacks bus control scanline x).getLsbD index.val then
        (backgroundColor callbacks bus control scanline index x).map
          (backgroundCandidate control index)
      else none := by
  have htaken (pixel : LayerPixel) : taken control pixel = pixel :=
    if_neg fun hbitmap => Nat.not_le_of_lt h hbitmap.1
  unfold visibleCandidate visiblePixel
  show Option.map _ (if (shownAt callbacks bus control scanline x).getLsbD index.val = true then _
    else none) = _
  simp only [htaken]
  split
  · unfold layerPixel
    rw [Option.map_map]
    rfl
  · rfl

theorem text_considered (hmode : mode control < 6) (index : Fin 4) (x : Nat) :
    (if textBgAvailableInMode (mode control) index && bgEnabled control.dispcnt index &&
        (shownAt callbacks bus control scanline x).getLsbD index.val then
      textCandidate callbacks bus control scanline x index
    else none) =
      if backgroundKind (mode control) index = some .text then
        visibleCandidate callbacks bus control scanline x (.bg index)
      else none := by
  obtain ⟨havailable, hlow⟩ := backgroundKind_text (mode control) hmode index
  by_cases hkind : backgroundKind (mode control) index = some .text
  · rw [if_pos hkind, havailable.mpr hkind, Bool.true_and, visibleCandidate_background (hlow hkind),
      textCandidate_eq]
    unfold backgroundColor bgEnabled
    rw [hkind]
    cases control.dispcnt.getLsbD (8 + index.val) <;>
      cases (shownAt callbacks bus control scanline x).getLsbD index.val <;> rfl
  · rw [if_neg hkind, if_neg]
    simp only [Bool.and_eq_true]
    exact fun h => hkind (havailable.mp h.1.1)

theorem affine_considered (hmode : mode control < 6) (index : Fin 4) (x : Nat) :
    (if affineBgAvailableInMode (mode control) index && bgEnabled control.dispcnt index &&
        (shownAt callbacks bus control scanline x).getLsbD index.val then
      affineCandidate callbacks bus control scanline x index
    else none) =
      if backgroundKind (mode control) index = some .affine then
        visibleCandidate callbacks bus control scanline x (.bg index)
      else none := by
  obtain ⟨havailable, hlow⟩ := backgroundKind_affine (mode control) hmode index
  by_cases hkind : backgroundKind (mode control) index = some .affine
  · rw [if_pos hkind, havailable.mpr hkind, Bool.true_and, visibleCandidate_background (hlow hkind),
      affineCandidate_eq]
    unfold backgroundColor bgEnabled
    rw [hkind]
    cases control.dispcnt.getLsbD (8 + index.val) <;>
      cases (shownAt callbacks bus control scanline x).getLsbD index.val <;> rfl
  · rw [if_neg hkind, if_neg]
    simp only [Bool.and_eq_true]
    exact fun h => hkind (havailable.mp h.1.1)

theorem bitmap_considered (hmode : mode control < 6) (x : Nat) :
    bitmapCandidates callbacks bus control scanline (shownAt callbacks bus control scanline x) x =
      (if backgroundKind (mode control) 2 = some .bitmap then
        visibleCandidate callbacks bus control scanline x (.bg 2)
      else none).toList := by
  have hkind := backgroundKind_bitmap (mode control) hmode
  unfold bitmapCandidates
  by_cases hbitmap : 3 ≤ mode control
  · rw [if_pos (hkind.mp hbitmap), decide_eq_true hbitmap, Bool.true_and]
    unfold visibleCandidate visiblePixel
    show _ = (Option.map _ (if (shownAt callbacks bus control scanline x).getLsbD 2 = true then _
      else none)).toList
    split
    · unfold layerPixel backgroundColor
      dsimp only
      rw [hkind.mp hbitmap, Option.map_map]
      dsimp only
      refine congrArg Option.toList (congrArg (fun f => Option.map f _) (funext fun color => ?_))
      have htaken (priority : Nat) :
          taken control ⟨.bg 2, priority, normalizeColor color⟩ =
            ⟨.bg 2, 0, normalizeColor color⟩ := if_pos ⟨hbitmap, rfl⟩
      exact (congrArg asCandidate (htaken _)).symm
    · rfl
  · rw [if_neg fun h => hbitmap (hkind.mpr h), decide_eq_false hbitmap]
    rfl

/-- The candidates of a pixel in the order in which the renderer considers them. -/
def considered (callbacks : MemoryBusIoCallbacks σ) (bus : BusState σ)
    (control : PpuRenderControl) (scanline x : Nat) : List PixelCandidate :=
  let row := objRow callbacks bus control scanline
  let shown := windowLayerMask control x scanline (row.window x)
  backgroundCandidates callbacks bus control scanline shown x ++
    (bitmapCandidates callbacks bus control scanline shown x ++ objCandidates control row shown x)

/-- The renderer considers the opaque pixels of the visible layers, each once. -/
theorem considered_eq (hmode : mode control < 6) {x : Nat} (hx : x < kScreenWidth)
    (hline : scanline < kScreenHeight) :
    considered callbacks bus control scanline x =
      (layers callbacks bus control scanline x).map fun pixel =>
        asCandidate (taken control pixel) := by
  have hobj : ((visiblePixel callbacks bus control scanline x .obj).map asCandidate) =
      visibleCandidate callbacks bus control scanline x .obj := by
    have htaken : ∀ pixel, visiblePixel callbacks bus control scanline x .obj = some pixel →
        taken control pixel = pixel := by
      intro pixel hpixel
      unfold visiblePixel layerPixel at hpixel
      split at hpixel
      · obtain ⟨front, -, rfl⟩ := Option.map_eq_some_iff.mp hpixel
        exact if_neg fun h => absurd h.2 (by simp)
      · contradiction
    unfold visibleCandidate
    cases hpixel : visiblePixel callbacks bus control scanline x .obj with
    | none => rfl
    | some pixel => simp [htaken pixel hpixel]
  have hlayers : (layers callbacks bus control scanline x).map
      (fun pixel => asCandidate (taken control pixel)) =
        [Layer.bg 0, .bg 1, .bg 2, .bg 3, .obj].flatMap fun layer =>
          (visibleCandidate callbacks bus control scanline x layer).toList := by
    unfold layers
    rw [List.map_filterMap, List.filterMap_eq_flatMap_toList]
    rfl
  unfold considered
  dsimp only
  rw [windowLayerMask_shown hx hline, objCandidates_eq hx, bitmap_considered hmode, hobj, hlayers]
  unfold backgroundCandidates bgCandidates
  simp only [text_considered hmode, affine_considered hmode, List.filterMap_eq_flatMap_toList]
  have hnone (index : Fin 4) (h : backgroundKind (mode control) index = none) :=
    @visibleCandidate_none σ callbacks bus control scanline index h x
  generalize mode control = mode at hmode hnone ⊢
  interval_cases mode <;> simp [hnone, backgroundKind, backgroundKinds]

end Layers

end Compositor

end Gba.Core
