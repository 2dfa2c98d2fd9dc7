import Gba.Core.CompositorPixel

/-!
# The sprites of a row

The sprites that the cycles of a scanline pay are drawn in the order of the OAM: a pixel belongs to
the first of them that covers it with an opaque texel, and window sprites mark the pixels that they
cover where the display uses the window of sprites.
-/

namespace Gba.Core

open Library

namespace PpuRenderer

section Row

variable {σ : Type} (callbacks : MemoryBusIoCallbacks σ) (bus : BusState σ)
  (control : PpuRenderControl) (scanline : Nat)

/-- The sprites that are drawn, in the words of the source: nothing where a subtraction underflows. -/
def admittedSpriteWords : Option (List (SpriteAttributes × U16)) :=
  if control.dispcnt.getLsbD 12 then
    activeSpriteWords callbacks bus scanline (List.range PpuSpriteFetcher.kSpriteCount)
      (if control.dispcnt.getLsbD 5 then 954#16 else 1210#16)
  else some []

/-- A pixel of a row: the first sprite that covers it with an opaque texel is shown, and window
sprites mark it where their window is used. -/
structure RowResolved (admitted : List (SpriteAttributes × Nat)) (row : ObjRow) (x : Nat) :
    Prop where
  uncovered : (∀ active ∈ admitted, active.1.objWindow = false →
      opaqueTexel callbacks bus control scanline active x = none) →
    row.candidate x = none ∧ row.semi x = false
  front : ∀ before active after pixel, admitted = before ++ active :: after →
    active.1.objWindow = false →
      opaqueTexel callbacks bus control scanline active x = some pixel →
        (∀ other ∈ before, other.1.objWindow = false →
          opaqueTexel callbacks bus control scanline other x = none) →
            row.candidate x = some ⟨normalizeColor pixel.color, 4, active.1.priority⟩ ∧
              row.semi x = active.1.semiTransparent
  window : row.window x = true ↔
    control.dispcnt.getLsbD 15 = true ∧ ∃ active ∈ admitted, active.1.objWindow = true ∧
      (opaqueTexel callbacks bus control scanline active x).isSome = true

variable {callbacks bus control scanline}

/-- The words of the source are the numbers of the model, so that no subtraction underflows. -/
theorem admittedSpriteWords_eq :
    ∃ words, admittedSpriteWords callbacks bus control scanline = some words ∧
      words.map (fun active => (active.1, active.2.toNat)) =
        admittedSprites callbacks bus control scanline := by
  have hbounds := @admittedSprites_bounds σ callbacks bus control scanline
  unfold admittedSpriteWords
  unfold admittedSprites at hbounds ⊢
  split
  · next hshown =>
    rw [if_pos hshown] at hbounds
    have hbudget : (if control.dispcnt.getLsbD 5 then 954#16 else 1210#16 : U16).toNat =
        objBudget control := by
      unfold objBudget
      split <;> rfl
    rw [activeSpriteWords_eq, hbudget]
    refine ⟨_, rfl, ?_⟩
    rw [List.map_map]
    refine (List.map_congr_left fun active hactive => ?_).trans (List.map_id _)
    have hend := (hbounds active hactive).2
    show (active.1, (BitVec.ofNat 16 active.2).toNat) = active
    rw [BitVec.toNat_ofNat, Nat.mod_eq_of_lt (by omega)]
  · exact ⟨[], rfl, rfl⟩

/-- Every pixel of a row is resolved. -/
theorem objRow_resolved {x : Nat} (hx : x < kScreenWidth) :
    RowResolved callbacks bus control scanline (admittedSprites callbacks bus control scanline)
      (objRow callbacks bus control scanline) x := by
  obtain ⟨hcandidate, hsemi, hwindow⟩ := @objRow_pixel σ callbacks bus control scanline x hx
  generalize admittedSprites callbacks bus control scanline = admitted
    at hcandidate hsemi hwindow ⊢
  constructor
  · intro hnone
    rw [hcandidate, hsemi, frontPixel_none hnone]
    exact ⟨rfl, rfl⟩
  · intro before active after pixel hsplit hobj hpixel hbefore
    subst hsplit
    have hfront : frontPixel (fun active => opaqueTexel callbacks bus control scanline active x)
        (before ++ active :: after) = some (active.1, pixel) := by
      rw [frontPixel_append hbefore, frontPixel_layer after hobj, hpixel]
      rfl
    rw [hcandidate, hsemi, hfront]
    exact ⟨rfl, rfl⟩
  · rw [hwindow]
    simp only [Bool.and_eq_true, List.any_eq_true]

/-! ## The line -/

/-- The sprites of a scanline: those that take part are admitted in the order of the OAM within the
budget, with no subtraction that underflows, and every pixel of the row is that of the first admitted
sprite that covers it. -/
theorem objLine_resolved (callbacks : MemoryBusIoCallbacks σ) (bus : BusState σ)
    (control : PpuRenderControl) (scanline : Nat) :
    LineAdmission (objBudget control) (lineSprites callbacks bus control scanline)
        (admittedSprites callbacks bus control scanline) ∧
      (∃ words, admittedSpriteWords callbacks bus control scanline = some words ∧
        words.map (fun active => (active.1, active.2.toNat)) =
          admittedSprites callbacks bus control scanline) ∧
      ∀ x < kScreenWidth,
        RowResolved callbacks bus control scanline
          (admittedSprites callbacks bus control scanline)
          (objRow callbacks bus control scanline) x :=
  ⟨admittedSprites_admission, admittedSpriteWords_eq, fun _ hx => objRow_resolved hx⟩

end Row

/-- A bus with an opaque window sprite as the first one of the OAM. -/
def windowSpriteBus : BusState Unit :=
  ⟨{ MemoryBus.initial with
      oam := fun index => if index.val = 1 then 0x08#8 else 0
      vram := fun index => if index.val = 0x10000 then 0x01#8 else 0 }, ()⟩

/-- A display that shows sprites and does not use their window. -/
def withoutObjWindow : PpuRenderControl := { Compositor.brightened 0 with dispcnt := 0x1000#16 }

/-- A window sprite sets no flag where the display does not use the window of sprites. -/
theorem windowSprite_unset :
    (∃ active ∈ admittedSprites Compositor.noFacade windowSpriteBus withoutObjWindow 0,
      active.1.objWindow = true ∧
        (opaqueTexel Compositor.noFacade windowSpriteBus withoutObjWindow 0 active 0).isSome) ∧
      (objRow Compositor.noFacade windowSpriteBus withoutObjWindow 0).window 0 = false := by
  refine ⟨by decide +kernel, ?_⟩
  have hnone := foldl_drawSprite Compositor.noFacade windowSpriteBus withoutObjWindow 0
    (admittedSprites Compositor.noFacade windowSpriteBus withoutObjWindow 0)
    ⟨fun _ => none, fun _ => false, fun _ => false⟩ 0
  have hwindow : withoutObjWindow.dispcnt.getLsbD 15 = false := by decide
  rw [← objRow_eq, hwindow, Bool.false_and, Bool.or_false] at hnone
  exact hnone.2.2

end PpuRenderer

end Gba.Core
