import Gba.Core.SpriteAdmission

/-!
# The sprites of a line

The sprites that the cycles of a scanline pay, and the texels with which they cover its pixels. The
row that the renderer draws has at each pixel the first of them with an opaque texel.
-/

namespace Gba.Core

open Library

namespace PpuRenderer

section Line

variable {σ : Type} (callbacks : MemoryBusIoCallbacks σ) (bus : BusState σ)
  (control : PpuRenderControl) (scanline : Nat)

/-! ## What a line shows -/

/-- The sprites that take part in a scanline, none where the display shows no sprites. -/
def lineSprites : List SpriteAttributes :=
  if control.dispcnt.getLsbD 12 then
    partakingSprites callbacks bus scanline (List.range PpuSpriteFetcher.kSpriteCount)
  else []

/-- The sprites that are drawn, each with the end of its columns. -/
def admittedSprites : List (SpriteAttributes × Nat) :=
  if control.dispcnt.getLsbD 12 then
    activeSprites callbacks bus scanline (List.range PpuSpriteFetcher.kSpriteCount)
      (objBudget control)
  else []

/-- The columns of a sprite from its clipped ones to its end cover a pixel. -/
def Covers (active : SpriteAttributes × Nat) (x : Nat) : Prop :=
  active.1.x + leftPrefix active.1 ≤ x ∧ (x : Int) < active.1.x + active.2

instance covers_decidable (active : SpriteAttributes × Nat) (x : Nat) :
    Decidable (Covers active x) := by
  unfold Covers
  infer_instance

/-- The opaque texel with which a part of a sprite covers a pixel. The texels of a mosaic are those
of its blocks. -/
def opaqueTexel (active : SpriteAttributes × Nat) (x : Nat) : Option SpritePixel :=
  if Covers active x then
    let sprite := active.1
    let mosaic := sprite.mosaicEnabled && !sprite.objWindow
    let column := ((x : Int) - sprite.x).toNat
    let line := spriteLine scanline sprite
    (PpuSpriteFetcher.fetchSpritePixel callbacks bus sprite
      (if mosaic then mosaicBlock column (mosaicSize control 2) else column)
      (if mosaic then mosaicBlock line (mosaicSize control 3) else line)
      (control.dispcnt.getLsbD 6)).filter fun pixel => !pixel.transparent
  else none

/-- The work of the parts that are drawn. -/
def lineWork (admitted : List (SpriteAttributes × Nat)) : Nat :=
  (admitted.map fun active => spriteWork active.1 (active.2 - leftPrefix active.1)).sum

/-- The sprites that are drawn are the first ones that take part, whole except possibly the last, as
far as their work stays within the budget. -/
structure LineAdmission (budget : Nat) (sprites : List SpriteAttributes)
    (admitted : List (SpriteAttributes × Nat)) : Prop where
  in_order : admitted.map Prod.fst <+: sprites
  part : ∀ active ∈ admitted,
    leftPrefix active.1 < active.2 ∧ active.2 ≤ spriteScreenWidth active.1
  whole : ∀ active ∈ admitted.dropLast, active.2 = spriteScreenWidth active.1
  work : lineWork admitted ≤ budget
  left_out : ∀ sprite, admitted.map Prod.fst ++ [sprite] <+: sprites →
    budget < lineWork admitted + spriteWork sprite (fetchWidth sprite)

variable {callbacks bus control scanline}

/-! ## Admission -/

theorem lineSprites_fair :
    ∀ sprite ∈ lineSprites callbacks bus control scanline, spriteCosts.Fair 2 sprite := by
  unfold lineSprites
  split
  · exact partakingSprites_fair _
  · exact fun sprite hsprite => absurd hsprite List.not_mem_nil

theorem admittedSprites_eq :
    admittedSprites callbacks bus control scanline =
      (spriteCosts.fill (lineSprites callbacks bus control scanline) (objBudget control)).map
        fun part => (part.1, leftPrefix part.1 + part.2) := by
  unfold admittedSprites lineSprites
  split
  · exact activeSprites_eq _ _
  · rfl

theorem lineWork_parts (parts : List (SpriteAttributes × Nat)) :
    lineWork (parts.map fun part => (part.1, leftPrefix part.1 + part.2)) =
      spriteCosts.total parts := by
  induction parts with
  | nil => rfl
  | cons part rest ih =>
    show spriteWork part.1 (leftPrefix part.1 + part.2 - leftPrefix part.1) + lineWork _ =
      spriteWork part.1 part.2 + spriteCosts.total rest
    rw [ih, Nat.add_sub_cancel_left]

theorem admittedSprites_admission :
    LineAdmission (objBudget control) (lineSprites callbacks bus control scanline)
      (admittedSprites callbacks bus control scanline) := by
  have hfair := @lineSprites_fair σ callbacks bus control scanline
  have hadmits := @Costs.fill_admits _ _ _ _ (objBudget control) hfair
  rw [admittedSprites_eq]
  generalize spriteCosts.fill _ _ = parts at hadmits
  have hfirst : (parts.map fun part => (part.1, leftPrefix part.1 + part.2)).map Prod.fst =
      parts.map Prod.fst := by
    rw [List.map_map]
    rfl
  refine ⟨hfirst ▸ hadmits.isPrefix, ?_, ?_, ?_, ?_⟩
  · intro active hactive
    obtain ⟨part, hpart, rfl⟩ := List.mem_map.mp hactive
    obtain ⟨hpos, hle⟩ := hadmits.units hfair part hpart
    have hclipped := leftPrefix_le part.1
    have hsize : part.2 ≤ spriteScreenWidth part.1 - leftPrefix part.1 := hle
    show leftPrefix part.1 < leftPrefix part.1 + part.2 ∧
      leftPrefix part.1 + part.2 ≤ spriteScreenWidth part.1
    omega
  · intro active hactive
    rw [← List.map_dropLast] at hactive
    obtain ⟨part, hpart, rfl⟩ := List.mem_map.mp hactive
    have hwhole : part.2 = spriteScreenWidth part.1 - leftPrefix part.1 :=
      hadmits.whole_dropLast part hpart
    have hclipped := leftPrefix_le part.1
    show leftPrefix part.1 + part.2 = spriteScreenWidth part.1
    omega
  · rw [lineWork_parts]
    exact hadmits.total_le hfair
  · intro sprite hsprite
    rw [hfirst] at hsprite
    rw [lineWork_parts]
    exact hadmits.left_out hfair hsprite

theorem lineSprites_bounds :
    ∀ sprite ∈ lineSprites callbacks bus control scanline, SpriteBounds sprite := by
  unfold lineSprites
  split
  · intro sprite hsprite
    obtain ⟨index, -, hread⟩ := List.mem_filterMap.mp hsprite
    exact readSprite_bounds (Option.filter_eq_some_iff.mp hread).1
  · exact fun sprite hsprite => absurd hsprite List.not_mem_nil

theorem admittedSprites_bounds :
    ∀ active ∈ admittedSprites callbacks bus control scanline,
      SpriteBounds active.1 ∧ active.2 ≤ 128 := by
  intro active hactive
  have hadmission := @admittedSprites_admission σ callbacks bus control scanline
  have hbounds := lineSprites_bounds _
    (hadmission.in_order.subset (List.mem_map_of_mem hactive))
  exact ⟨hbounds, (hadmission.part active hactive).2.trans hbounds.screenWidth_le⟩

/-! ## Drawing -/

/-- The pass over the columns reads the opaque texels of a sprite. -/
theorem spritePixelAt_eq {active : SpriteAttributes × Nat} (hend : active.2 ≤ 128) {x : Nat}
    (hx : x < kScreenWidth) :
    spritePixelAt callbacks bus control scanline active.1 active.2 x =
      opaqueTexel callbacks bus control scanline active x := by
  have hwidth : kScreenWidth = 240 := rfl
  have hclipped : active.1.x + leftPrefix active.1 ≤ max 0 active.1.x := by
    unfold leftPrefix
    dsimp only
    split_ifs <;> omega
  have hcovers : max 0 active.1.x ≤ (x : Int) ∧
      (x : Int) < min (active.1.x + active.2) kScreenWidth ↔ Covers active x := by
    unfold Covers
    omega
  unfold spritePixelAt opaqueTexel
  by_cases h : Covers active x
  · -- a covered column is less than 128 columns from the left edge of its sprite
    have hcolumn : (((x : Int) - active.1.x) % 256).toNat = ((x : Int) - active.1.x).toNat := by
      have hcolumns := hcovers.mpr h
      omega
    rw [if_pos (hcovers.mpr h), if_pos h, hcolumn]
  · rw [if_neg (fun hpixel => h (hcovers.mp hpixel)), if_neg h]

/-- The first sprite with a pixel at a column, and the pixel. -/
def frontPixel (pixelAt : SpriteAttributes × Nat → Option SpritePixel)
    (admitted : List (SpriteAttributes × Nat)) : Option (SpriteAttributes × SpritePixel) :=
  admitted.findSome? fun active =>
    if active.1.objWindow then none else (pixelAt active).map fun pixel => (active.1, pixel)

theorem frontPixel_window {pixelAt : SpriteAttributes × Nat → Option SpritePixel}
    {active : SpriteAttributes × Nat} (rest : List (SpriteAttributes × Nat))
    (h : active.1.objWindow = true) :
    frontPixel pixelAt (active :: rest) = frontPixel pixelAt rest := by
  unfold frontPixel
  rw [List.findSome?_cons, h]
  rfl

theorem frontPixel_layer {pixelAt : SpriteAttributes × Nat → Option SpritePixel}
    {active : SpriteAttributes × Nat} (rest : List (SpriteAttributes × Nat))
    (h : active.1.objWindow = false) :
    frontPixel pixelAt (active :: rest) =
      ((pixelAt active).map fun pixel => (active.1, pixel)).or (frontPixel pixelAt rest) := by
  unfold frontPixel
  rw [List.findSome?_cons, h]
  cases pixelAt active <;> rfl

theorem frontPixel_none {pixelAt : SpriteAttributes × Nat → Option SpritePixel}
    {admitted : List (SpriteAttributes × Nat)}
    (h : ∀ active ∈ admitted, active.1.objWindow = false → pixelAt active = none) :
    frontPixel pixelAt admitted = none := by
  induction admitted with
  | nil => rfl
  | cons active rest ih =>
    have hrest := ih fun other hother => h other (List.mem_cons_of_mem _ hother)
    cases hobj : active.1.objWindow with
    | true => rw [frontPixel_window rest hobj, hrest]
    | false =>
      rw [frontPixel_layer rest hobj, h active (List.mem_cons_self ..) hobj, hrest]
      rfl

theorem frontPixel_congr {pixelAt other : SpriteAttributes × Nat → Option SpritePixel}
    {admitted : List (SpriteAttributes × Nat)}
    (h : ∀ active ∈ admitted, pixelAt active = other active) :
    frontPixel pixelAt admitted = frontPixel other admitted := by
  induction admitted with
  | nil => rfl
  | cons active rest ih =>
    have hrest := ih fun later hlater => h later (List.mem_cons_of_mem _ hlater)
    cases hobj : active.1.objWindow with
    | true => rw [frontPixel_window rest hobj, frontPixel_window rest hobj, hrest]
    | false =>
      rw [frontPixel_layer rest hobj, frontPixel_layer rest hobj, hrest,
        h active (List.mem_cons_self ..)]

/-- The sprite in front is one of those that are drawn. -/
theorem mem_of_frontPixel {pixelAt : SpriteAttributes × Nat → Option SpritePixel}
    {admitted : List (SpriteAttributes × Nat)} {front : SpriteAttributes × SpritePixel}
    (h : frontPixel pixelAt admitted = some front) : front.1 ∈ admitted.map Prod.fst := by
  obtain ⟨active, hactive, hpixel⟩ := List.exists_of_findSome?_eq_some h
  split at hpixel
  · contradiction
  · obtain ⟨pixel, -, rfl⟩ := Option.map_eq_some_iff.mp hpixel
    exact List.mem_map_of_mem hactive

/-- The sprites before the first one with a pixel do not matter. -/
theorem frontPixel_append {pixelAt : SpriteAttributes × Nat → Option SpritePixel}
    {before : List (SpriteAttributes × Nat)}
    (h : ∀ active ∈ before, active.1.objWindow = false → pixelAt active = none)
    (after : List (SpriteAttributes × Nat)) :
    frontPixel pixelAt (before ++ after) = frontPixel pixelAt after := by
  have hnone := frontPixel_none h
  unfold frontPixel at hnone ⊢
  rw [List.findSome?_append, hnone, Option.none_or]

section Fold

variable (callbacks bus control scanline)

/-- The pixel of a sprite that is drawn. -/
def drawnPixel (x : Nat) (active : SpriteAttributes × Nat) : Option SpritePixel :=
  spritePixelAt callbacks bus control scanline active.1 active.2 x

theorem drawSprite_window (row : ObjRow) {active : SpriteAttributes × Nat}
    (h : active.1.objWindow = true) :
    drawSprite callbacks bus control scanline row active =
      if control.dispcnt.getLsbD 15 then
        { row with window := fun x => row.window x ||
            (drawnPixel callbacks bus control scanline x active).isSome }
      else row :=
  if_pos h

theorem drawSprite_layer (row : ObjRow) {active : SpriteAttributes × Nat}
    (h : active.1.objWindow = false) :
    drawSprite callbacks bus control scanline row active =
      { row with
        candidate := fun x => (row.candidate x).or
          ((drawnPixel callbacks bus control scanline x active).map
            fun pixel => ⟨normalizeColor pixel.color, 4, active.1.priority⟩)
        semi := fun x =>
          if (row.candidate x).isNone &&
              (drawnPixel callbacks bus control scanline x active).isSome then
            active.1.semiTransparent
          else row.semi x } :=
  if_neg (by rw [h]; exact Bool.false_ne_true)

/-- A row that sprites are drawn on keeps the pixels it has, and takes the others from the first
sprite that has one. -/
theorem foldl_drawSprite (admitted : List (SpriteAttributes × Nat)) (row : ObjRow) (x : Nat) :
    (admitted.foldl (drawSprite callbacks bus control scanline) row).candidate x =
        (row.candidate x).or
          ((frontPixel (drawnPixel callbacks bus control scanline x) admitted).map
            fun front => ⟨normalizeColor front.2.color, 4, front.1.priority⟩) ∧
      (admitted.foldl (drawSprite callbacks bus control scanline) row).semi x =
        (if (row.candidate x).isNone then
          ((frontPixel (drawnPixel callbacks bus control scanline x) admitted).map
            fun front => front.1.semiTransparent).getD (row.semi x)
        else row.semi x) ∧
      (admitted.foldl (drawSprite callbacks bus control scanline) row).window x =
        (row.window x || control.dispcnt.getLsbD 15 && admitted.any fun active =>
          active.1.objWindow && (drawnPixel callbacks bus control scanline x active).isSome) := by
  induction admitted generalizing row with
  | nil =>
    refine ⟨?_, ?_, ?_⟩
    · exact (Option.or_none).symm
    · exact (ite_self _).symm
    · show row.window x = (row.window x || control.dispcnt.getLsbD 15 && false)
      rw [Bool.and_false, Bool.or_false]
  | cons active rest ih =>
    obtain ⟨hcandidate, hsemi, hwindow⟩ := ih (drawSprite callbacks bus control scanline row active)
    rw [List.foldl_cons, hcandidate, hsemi, hwindow, List.any_cons]
    cases hobj : active.1.objWindow with
    | true =>
      rw [drawSprite_window callbacks bus control scanline row hobj, frontPixel_window rest hobj]
      cases control.dispcnt.getLsbD 15 with
      | true => exact ⟨rfl, rfl, by simp [Bool.or_assoc]⟩
      | false => exact ⟨rfl, rfl, by simp⟩
    | false =>
      rw [drawSprite_layer callbacks bus control scanline row hobj, frontPixel_layer rest hobj]
      dsimp only
      rcases Option.eq_none_or_eq_some (drawnPixel callbacks bus control scanline x active) with
        hnone | ⟨pixel, hpixel⟩
      · rcases Option.eq_none_or_eq_some (row.candidate x) with hfree | ⟨candidate, htaken⟩
        · simp [hnone, hfree]
        · simp [hnone, htaken]
      · rcases Option.eq_none_or_eq_some (row.candidate x) with hfree | ⟨candidate, htaken⟩
        · simp [hpixel, hfree]
        · simp [hpixel, htaken]

end Fold

/-- The row is drawn by the admitted sprites. -/
theorem objRow_eq : objRow callbacks bus control scanline =
    (admittedSprites callbacks bus control scanline).foldl
      (drawSprite callbacks bus control scanline)
        ⟨fun _ => none, fun _ => false, fun _ => false⟩ := rfl

/-- A pixel of the row is that of the first sprite that covers it with an opaque texel. -/
theorem objRow_pixel {x : Nat} (hx : x < kScreenWidth) :
    (objRow callbacks bus control scanline).candidate x =
        (frontPixel (fun active => opaqueTexel callbacks bus control scanline active x)
          (admittedSprites callbacks bus control scanline)).map
            (fun front => ⟨normalizeColor front.2.color, 4, front.1.priority⟩) ∧
      (objRow callbacks bus control scanline).semi x =
        ((frontPixel (fun active => opaqueTexel callbacks bus control scanline active x)
          (admittedSprites callbacks bus control scanline)).map
            fun front => front.1.semiTransparent).getD false ∧
      (objRow callbacks bus control scanline).window x =
        (control.dispcnt.getLsbD 15 &&
          (admittedSprites callbacks bus control scanline).any fun active =>
            active.1.objWindow &&
              (opaqueTexel callbacks bus control scanline active x).isSome) := by
  have hbounds := @admittedSprites_bounds σ callbacks bus control scanline
  have hdrawn : ∀ active ∈ admittedSprites callbacks bus control scanline,
      drawnPixel callbacks bus control scanline x active =
        opaqueTexel callbacks bus control scanline active x :=
    fun active hactive => spritePixelAt_eq (hbounds active hactive).2 hx
  have hany : ((admittedSprites callbacks bus control scanline).any fun active =>
      active.1.objWindow && (drawnPixel callbacks bus control scanline x active).isSome) =
        (admittedSprites callbacks bus control scanline).any fun active =>
          active.1.objWindow && (opaqueTexel callbacks bus control scanline active x).isSome := by
    rw [Bool.eq_iff_iff, List.any_eq_true, List.any_eq_true]
    refine exists_congr fun active => and_congr_right fun hactive => ?_
    rw [hdrawn active hactive]
  have hfold := foldl_drawSprite callbacks bus control scanline
    (admittedSprites callbacks bus control scanline)
      ⟨fun _ => none, fun _ => false, fun _ => false⟩ x
  rw [← objRow_eq, frontPixel_congr hdrawn, hany] at hfold
  exact hfold

end Line

end PpuRenderer

end Gba.Core
