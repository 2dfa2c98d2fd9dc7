import Gba.Core.PpuRenderer
import Gba.Library.BudgetedPrefix

/-!
# The sprites of a scanline

The renderer takes the sprites that a scanline shows in the order of the OAM, as far as its cycles
for sprites last. Its loop is a run within a budget; in the 16-bit words of the source no subtraction
of the loop underflows.
-/

namespace Gba.Core

open Library

namespace PpuRenderer

/-! ## Sprites -/

/-- What holds of the attributes that are read from the OAM. -/
structure SpriteBounds (sprite : SpriteAttributes) : Prop where
  width_le : sprite.width ≤ 64
  width_even : sprite.width % 2 = 0
  height_le : sprite.height ≤ 64
  le_x : -256 ≤ sprite.x

theorem kSpriteSizes_bounds : ∀ shape < 4, ∀ size < 4,
    ((PpuSpriteFetcher.kSpriteSizes.getD shape []).getD size (0, 0)).1 ≤ 64 ∧
      ((PpuSpriteFetcher.kSpriteSizes.getD shape []).getD size (0, 0)).1 % 2 = 0 ∧
      ((PpuSpriteFetcher.kSpriteSizes.getD shape []).getD size (0, 0)).2 ≤ 64 := by
  decide

theorem readSprite_bounds {σ : Type} {callbacks : MemoryBusIoCallbacks σ} {bus : BusState σ}
    {index : Nat} {sprite : SpriteAttributes}
    (h : PpuSpriteFetcher.readSprite callbacks bus index = some sprite) : SpriteBounds sprite := by
  unfold PpuSpriteFetcher.readSprite at h
  split at h
  · contradiction
  · simp only [Option.bind_eq_bind, Option.bind_eq_some_iff, Option.pure_def,
      Option.some.injEq] at h
    obtain ⟨attr0, -, attr1, -, attr2, -, rfl⟩ := h
    obtain ⟨hwidth, heven, hheight⟩ := kSpriteSizes_bounds _ (attr0.extractLsb' 14 2).isLt _
      (attr1.extractLsb' 14 2).isLt
    exact ⟨hwidth, heven, hheight, BitVec.le_toInt (attr1.extractLsb' 0 9)⟩

/-- The columns of a sprite that are fetched. -/
def fetchWidth (sprite : SpriteAttributes) : Nat := spriteScreenWidth sprite - leftPrefix sprite

/-- A sprite shows one of its lines on a scanline; the lines of the OAM wrap at 256. -/
def OnLine (scanline : Nat) (sprite : SpriteAttributes) : Prop :=
  ∃ row < spriteScreenHeight sprite, (sprite.y + row) % 256 = scanline % 256

instance onLine_decidable (scanline : Nat) (sprite : SpriteAttributes) :
    Decidable (OnLine scanline sprite) := by
  unfold OnLine
  infer_instance

/-- A sprite that takes part in a scanline: it is enabled, on the line, and has columns to fetch. -/
def TakesPart (scanline : Nat) (sprite : SpriteAttributes) : Prop :=
  sprite.disabled = false ∧ OnLine scanline sprite ∧ fetchWidth sprite ≠ 0

instance takesPart_decidable (scanline : Nat) (sprite : SpriteAttributes) :
    Decidable (TakesPart scanline sprite) := by
  unfold TakesPart
  infer_instance

namespace SpriteBounds

variable {sprite : SpriteAttributes}

theorem screenWidth_le (h : SpriteBounds sprite) : spriteScreenWidth sprite ≤ 128 := by
  have hwidth := h.width_le
  unfold spriteScreenWidth
  split <;> omega

theorem screenHeight_le (h : SpriteBounds sprite) : spriteScreenHeight sprite ≤ 128 := by
  have hheight := h.height_le
  unfold spriteScreenHeight
  split <;> omega

theorem screenWidth_even (h : SpriteBounds sprite) : spriteScreenWidth sprite % 2 = 0 := by
  have heven := h.width_even
  unfold spriteScreenWidth
  split <;> omega

/-- The test of the source for the line. -/
theorem onLine_iff (h : SpriteBounds sprite) (scanline : Nat) :
    lineIntersectsSprite scanline sprite = true ↔ OnLine scanline sprite := by
  have hheight := h.screenHeight_le
  unfold lineIntersectsSprite OnLine spriteLine
  rw [decide_eq_true_iff]
  constructor
  · intro hline
    exact ⟨_, hline, by omega⟩
  · rintro ⟨row, hrow, hline⟩
    omega

end SpriteBounds

theorem leftPrefix_le (sprite : SpriteAttributes) :
    leftPrefix sprite ≤ spriteScreenWidth sprite := by
  unfold leftPrefix
  dsimp only
  split_ifs <;> omega

/-! ## The budget -/

/-- The work of a part of a sprite. -/
def spriteWork (sprite : SpriteAttributes) (width : Nat) : Nat :=
  if sprite.affine then 10 + width * 2 else width

/-- The columns of a sprite that cycles pay. -/
def admittedWidth (remaining : Nat) (sprite : SpriteAttributes) : Nat :=
  if spriteWork sprite (fetchWidth sprite) ≤ remaining then fetchWidth sprite
  else if sprite.affine then if 10 < remaining then (remaining - 10) / 2 else 0
  else remaining

/-- Sprites as items of columns. -/
def spriteCosts : Costs SpriteAttributes where
  size := fetchWidth
  work := spriteWork
  share := admittedWidth

/-- The cycles of a scanline for sprites. -/
def objBudget (control : PpuRenderControl) : Nat :=
  if control.dispcnt.getLsbD 5 then 954 else 1210

section Fair

variable {sprite : SpriteAttributes}

/-- Columns are fetched in pairs unless a sprite is affine. -/
theorem fetchWidth_even (h : SpriteBounds sprite) (hnormal : sprite.affine = false) :
    fetchWidth sprite % 2 = 0 := by
  have heven := h.screenWidth_even
  unfold fetchWidth leftPrefix
  dsimp only
  rw [hnormal]
  simp only [Bool.false_eq_true, if_false]
  split <;> omega

/-- Sprites whose work grows with their width, one or two cycles a pixel behind a fixed part, are
paid fairly. -/
theorem fair_of_linear {base slope : Nat} (hslope : slope = 1 ∨ slope = 2)
    (hwork : ∀ width, spriteWork sprite width = base + width * slope)
    (hshare : ∀ budget, spriteCosts.share budget sprite =
      if base + fetchWidth sprite * slope ≤ budget then fetchWidth sprite
      else if base < budget then (budget - base) / slope else 0)
    (hleast : 2 ≤ base + fetchWidth sprite * slope) (hwidth : fetchWidth sprite ≠ 0) :
    spriteCosts.Fair 2 sprite := by
  have hwhole : spriteCosts.whole sprite = spriteWork sprite (fetchWidth sprite) := rfl
  refine ⟨?_, fun units hunits => ?_, Nat.pos_of_ne_zero hwidth, fun budget hfits => ?_,
    fun budget => ?_, fun budget hpos => ?_, fun budget hlarge hpos => ?_⟩
  · rw [hwhole, hwork]
    exact hleast
  · show 0 < spriteWork sprite units
    rw [hwork]
    rcases hslope with rfl | rfl <;> omega
  · rw [hwhole, hwork] at hfits
    rw [hshare, if_pos hfits]
    rfl
  · -- a part is no wider than the sprite
    show _ ≤ fetchWidth sprite
    rw [hshare]
    rcases hslope with rfl | rfl <;> split_ifs <;> omega
  · show spriteWork sprite _ ≤ budget
    rw [hwork]
    rw [hshare] at hpos ⊢
    rcases hslope with rfl | rfl <;> split_ifs at hpos ⊢ <;> omega
  · -- the division leaves less than a pixel
    show budget < spriteWork sprite _ + 2
    rw [hwork]
    rw [hwhole, hwork] at hlarge
    rw [hshare] at hpos ⊢
    rcases hslope with rfl | rfl <;> split_ifs at hpos ⊢ <;> omega

/-- Cycles pay sprites fairly: less than two are left over by a sprite in part, and no sprite takes
less than two. -/
theorem spriteCosts_fair (h : SpriteBounds sprite) (hwidth : fetchWidth sprite ≠ 0) :
    spriteCosts.Fair 2 sprite := by
  cases haffine : sprite.affine with
  | true =>
    have hwork (width : Nat) : spriteWork sprite width = 10 + width * 2 := if_pos haffine
    refine fair_of_linear (.inr rfl) hwork (fun budget => ?_) (by omega) hwidth
    show admittedWidth budget sprite = _
    unfold admittedWidth
    rw [hwork, if_pos haffine]
  | false =>
    have heven := fetchWidth_even h haffine
    have hwork (width : Nat) : spriteWork sprite width = 0 + width * 1 := by
      rw [Nat.zero_add, Nat.mul_one]
      exact if_neg (by rw [haffine]; exact Bool.false_ne_true)
    refine fair_of_linear (.inl rfl) hwork (fun budget => ?_) (by omega) hwidth
    show admittedWidth budget sprite = _
    unfold admittedWidth
    rw [hwork, haffine]
    show (if _ then _ else budget) = _
    split_ifs <;> omega

end Fair

/-! ## The run over the OAM -/

section Run

variable {σ : Type} (callbacks : MemoryBusIoCallbacks σ) (bus : BusState σ) (scanline : Nat)

/-- The sprites of the given indices that take part in a scanline. -/
def partakingSprites (indices : List Nat) : List SpriteAttributes :=
  indices.filterMap fun index =>
    (PpuSpriteFetcher.readSprite callbacks bus index).filter fun sprite =>
      decide (TakesPart scanline sprite)

variable {callbacks bus scanline}

theorem partakingSprites_fair (indices : List Nat) :
    ∀ sprite ∈ partakingSprites callbacks bus scanline indices, spriteCosts.Fair 2 sprite := by
  intro sprite hsprite
  obtain ⟨index, -, hread⟩ := List.mem_filterMap.mp hsprite
  obtain ⟨hread, htakes⟩ := Option.filter_eq_some_iff.mp hread
  exact spriteCosts_fair (readSprite_bounds hread) (of_decide_eq_true htakes).2.2

theorem partakingSprites_none {index : Nat} (rest : List Nat)
    (h : PpuSpriteFetcher.readSprite callbacks bus index = none) :
    partakingSprites callbacks bus scanline (index :: rest) =
      partakingSprites callbacks bus scanline rest := by
  unfold partakingSprites
  rw [List.filterMap_cons_none]
  rw [h]
  rfl

theorem partakingSprites_skip {index : Nat} (rest : List Nat) {sprite : SpriteAttributes}
    (h : PpuSpriteFetcher.readSprite callbacks bus index = some sprite)
    (hskip : ¬TakesPart scanline sprite) :
    partakingSprites callbacks bus scanline (index :: rest) =
      partakingSprites callbacks bus scanline rest := by
  unfold partakingSprites
  rw [List.filterMap_cons_none]
  rw [h]
  exact Option.filter_some_neg (by simpa using hskip)

theorem partakingSprites_cons {index : Nat} (rest : List Nat) {sprite : SpriteAttributes}
    (h : PpuSpriteFetcher.readSprite callbacks bus index = some sprite)
    (htakes : TakesPart scanline sprite) :
    partakingSprites callbacks bus scanline (index :: rest) =
      sprite :: partakingSprites callbacks bus scanline rest := by
  unfold partakingSprites
  rw [List.filterMap_cons_some]
  rw [h]
  exact Option.filter_some_pos (by simpa using htakes)

/-- A pass of the loop. -/
theorem activeSprites_cons {index : Nat} (rest : List Nat) {sprite : SpriteAttributes}
    (h : PpuSpriteFetcher.readSprite callbacks bus index = some sprite) (remaining : Nat) :
    activeSprites callbacks bus scanline (index :: rest) remaining =
      if sprite.disabled || !lineIntersectsSprite scanline sprite then
        activeSprites callbacks bus scanline rest remaining
      else if remaining = 0 then []
      else if fetchWidth sprite = 0 then activeSprites callbacks bus scanline rest remaining
      else if admittedWidth remaining sprite = 0 then []
      else
        (sprite, leftPrefix sprite + admittedWidth remaining sprite) ::
          activeSprites callbacks bus scanline rest
            (remaining - spriteWork sprite (fetchWidth sprite)) := by
  rw [activeSprites, h]
  rfl

theorem not_partaking {sprite : SpriteAttributes} (hbounds : SpriteBounds sprite) :
    (sprite.disabled || !lineIntersectsSprite scanline sprite) = true ↔
      ¬(sprite.disabled = false ∧ OnLine scanline sprite) := by
  rw [← hbounds.onLine_iff scanline]
  cases sprite.disabled <;> simp

/-- The loop of the source runs over the sprites that take part, within the budget. -/
theorem activeSprites_eq (indices : List Nat) (remaining : Nat) :
    activeSprites callbacks bus scanline indices remaining =
      (spriteCosts.fill (partakingSprites callbacks bus scanline indices) remaining).map
        fun part => (part.1, leftPrefix part.1 + part.2) := by
  induction indices generalizing remaining with
  | nil => rfl
  | cons index rest ih =>
    cases hread : PpuSpriteFetcher.readSprite callbacks bus index with
    | none =>
      rw [activeSprites, hread, partakingSprites_none rest hread]
      exact ih remaining
    | some sprite =>
      rw [activeSprites_cons rest hread]
      split
      · next hskip =>
        have hskip := (not_partaking (readSprite_bounds hread)).mp hskip
        rw [partakingSprites_skip rest hread fun h => hskip ⟨h.1, h.2.1⟩]
        exact ih remaining
      next htakes =>
      obtain ⟨henabled, hline⟩ : sprite.disabled = false ∧ OnLine scanline sprite := by
        by_contra hskip
        exact htakes ((not_partaking (readSprite_bounds hread)).mpr hskip)
      split
      · next hnone =>
        rw [hnone, Costs.fill_zero (partakingSprites_fair _)]
        rfl
      split
      · next hwidth =>
        rw [partakingSprites_skip rest hread fun h => h.2.2 hwidth]
        exact ih remaining
      next hwidth =>
      rw [partakingSprites_cons rest hread ⟨henabled, hline, hwidth⟩, ih]
      show _ = (if admittedWidth remaining sprite = 0 then [] else _).map _
      split
      · rfl
      · rfl

end Run

/-! ## The words of the source -/

/-- A subtraction that must not underflow. -/
def checkedSub (first second : U16) : Option U16 :=
  if second ≤ first then some (first - second) else none

theorem checkedSub_ofNat {first second : Nat} (hfirst : first < 2 ^ 16) (h : second ≤ first) :
    checkedSub (BitVec.ofNat 16 first) (BitVec.ofNat 16 second) =
      some (BitVec.ofNat 16 (first - second)) := by
  have hsecond : second < 2 ^ 16 := by omega
  unfold checkedSub
  rw [if_pos]
  · exact congrArg some (BitVec.eq_of_toNat_eq (by
      simp only [BitVec.toNat_sub, BitVec.toNat_ofNat]
      omega))
  · rw [BitVec.le_def, BitVec.toNat_ofNat, BitVec.toNat_ofNat]
    omega

/-- The local `left_prefix`. -/
def leftPrefixWord (sprite : SpriteAttributes) : U16 :=
  let width : U16 := BitVec.ofNat 16 (spriteScreenWidth sprite)
  let offscreen : U16 := BitVec.ofInt 16 (-sprite.x)
  let clipped := if offscreen < width then offscreen else width
  if sprite.x < 0 then if sprite.affine then clipped else clipped &&& 0xFFFE#16 else 0

/-- The local `fetch_width`. -/
def fetchWidthWord (sprite : SpriteAttributes) : Option U16 :=
  checkedSub (BitVec.ofNat 16 (spriteScreenWidth sprite)) (leftPrefixWord sprite)

/-- The local `cycles`. -/
def cyclesWord (sprite : SpriteAttributes) (fetchWidth : U16) : U16 :=
  if sprite.affine then 10 + fetchWidth * 2 else fetchWidth

/-- The local `admitted_width`. -/
def admittedWidthWord (sprite : SpriteAttributes) (fetchWidth remaining : U16) : Option U16 :=
  if remaining < cyclesWord sprite fetchWidth then
    if sprite.affine then
      if 10 < remaining then (checkedSub remaining 10).map (· / 2) else some 0
    else some remaining
  else some fetchWidth

/-- What is left of `obj_cycles_remaining`. -/
def remainingWord (remaining cycles : U16) : Option U16 :=
  if remaining ≤ cycles then some 0 else checkedSub remaining cycles

/-- The loop over the OAM in words: nothing where a subtraction underflows. -/
def activeSpriteWords {σ : Type} (callbacks : MemoryBusIoCallbacks σ) (bus : BusState σ)
    (scanline : Nat) : List Nat → U16 → Option (List (SpriteAttributes × U16))
  | [], _ => some []
  | index :: rest, remaining =>
      match PpuSpriteFetcher.readSprite callbacks bus index with
      | none => activeSpriteWords callbacks bus scanline rest remaining
      | some sprite =>
          if sprite.disabled || !lineIntersectsSprite scanline sprite then
            activeSpriteWords callbacks bus scanline rest remaining
          else if remaining = 0 then some []
          else
            (fetchWidthWord sprite).bind fun fetchWidth =>
              if fetchWidth = 0 then activeSpriteWords callbacks bus scanline rest remaining
              else
                (admittedWidthWord sprite fetchWidth remaining).bind fun admittedWidth =>
                  if admittedWidth = 0 then some []
                  else
                    (remainingWord remaining (cyclesWord sprite fetchWidth)).bind fun left =>
                      (activeSpriteWords callbacks bus scanline rest left).map
                        ((sprite, leftPrefixWord sprite + admittedWidth) :: ·)

section Words

variable {sprite : SpriteAttributes}

theorem ofNat_eq_zero_iff {value : Nat} (h : value < 2 ^ 16) :
    BitVec.ofNat 16 value = 0 ↔ value = 0 := by
  rw [← BitVec.toNat_inj, BitVec.toNat_ofNat, Nat.mod_eq_of_lt h]
  rfl

/-- Clipped columns are rounded down to pairs. -/
theorem pairs_word : ∀ columns ≤ 128,
    (BitVec.ofNat 16 columns &&& 0xFFFE#16 : U16) = BitVec.ofNat 16 (columns / 2 * 2) := by
  decide +kernel

theorem leftPrefixWord_eq (h : SpriteBounds sprite) :
    leftPrefixWord sprite = BitVec.ofNat 16 (leftPrefix sprite) := by
  have hwidth := h.screenWidth_le
  have hx := h.le_x
  refine BitVec.eq_of_toNat_eq ?_
  unfold leftPrefixWord leftPrefix
  dsimp only
  by_cases hleft : sprite.x < 0
  · rw [if_pos hleft, if_pos hleft]
    have hoffscreen : (BitVec.ofInt 16 (-sprite.x) : U16) = BitVec.ofNat 16 (-sprite.x).toNat := by
      conv_lhs => rw [← Int.toNat_of_nonneg (show 0 ≤ -sprite.x by omega)]
      exact BitVec.ofInt_natCast 16 _
    have hclipped : (if (BitVec.ofInt 16 (-sprite.x) : U16) <
          BitVec.ofNat 16 (spriteScreenWidth sprite) then BitVec.ofInt 16 (-sprite.x)
        else BitVec.ofNat 16 (spriteScreenWidth sprite)) =
          BitVec.ofNat 16 (min (-sprite.x).toNat (spriteScreenWidth sprite)) := by
      have hlt : (BitVec.ofNat 16 (-sprite.x).toNat : U16) <
          BitVec.ofNat 16 (spriteScreenWidth sprite) ↔
            (-sprite.x).toNat < spriteScreenWidth sprite := by
        rw [BitVec.lt_def, BitVec.toNat_ofNat, BitVec.toNat_ofNat]
        omega
      simp only [hoffscreen, hlt]
      split
      · exact congrArg (BitVec.ofNat 16) (by omega)
      · exact congrArg (BitVec.ofNat 16) (by omega)
    rw [hclipped]
    split
    · rfl
    · exact congrArg BitVec.toNat (pairs_word _ (by omega))
  · rw [if_neg hleft, if_neg hleft]
    rfl

theorem fetchWidthWord_eq (h : SpriteBounds sprite) :
    fetchWidthWord sprite = some (BitVec.ofNat 16 (fetchWidth sprite)) := by
  have hwidth := h.screenWidth_le
  unfold fetchWidthWord
  rw [leftPrefixWord_eq h]
  exact checkedSub_ofNat (by omega) (leftPrefix_le sprite)

theorem fetchWidth_le (h : SpriteBounds sprite) : fetchWidth sprite ≤ 128 :=
  (Nat.sub_le _ _).trans h.screenWidth_le

theorem spriteWork_le (h : SpriteBounds sprite) : spriteWork sprite (fetchWidth sprite) ≤ 266 := by
  have hwidth := fetchWidth_le h
  unfold spriteWork
  split <;> omega

theorem cyclesWord_eq (sprite : SpriteAttributes) (width : Nat) :
    cyclesWord sprite (BitVec.ofNat 16 width) = BitVec.ofNat 16 (spriteWork sprite width) := by
  unfold cyclesWord spriteWork
  split
  · rw [BitVec.ofNat_add, BitVec.ofNat_mul]
    rfl
  · rfl

theorem admittedWidthWord_eq (h : SpriteBounds sprite) (remaining : U16) :
    admittedWidthWord sprite (BitVec.ofNat 16 (fetchWidth sprite)) remaining =
      some (BitVec.ofNat 16 (admittedWidth remaining.toNat sprite)) := by
  have hwork := spriteWork_le h
  have hcycles : remaining < cyclesWord sprite (BitVec.ofNat 16 (fetchWidth sprite)) ↔
      ¬spriteWork sprite (fetchWidth sprite) ≤ remaining.toNat := by
    rw [cyclesWord_eq, BitVec.lt_def, BitVec.toNat_ofNat]
    omega
  have hremaining : remaining = BitVec.ofNat 16 remaining.toNat := by simp
  unfold admittedWidthWord admittedWidth
  by_cases hfits : spriteWork sprite (fetchWidth sprite) ≤ remaining.toNat
  · rw [if_neg (fun hlt => hcycles.mp hlt hfits), if_pos hfits]
  rw [if_pos (hcycles.mpr hfits), if_neg hfits]
  cases sprite.affine with
  | true =>
    by_cases hten : 10 < remaining.toNat
    · have hword : (10 : U16) < remaining := hten
      have hlt := remaining.isLt
      have hhalf : (BitVec.ofNat 16 (remaining.toNat - 10) / 2 : U16) =
          BitVec.ofNat 16 ((remaining.toNat - 10) / 2) := by
        refine BitVec.eq_of_toNat_eq ?_
        rw [BitVec.toNat_udiv, BitVec.toNat_ofNat, BitVec.toNat_ofNat]
        show (remaining.toNat - 10) % 2 ^ 16 / 2 = _
        omega
      have hsub : checkedSub remaining 10 = some (BitVec.ofNat 16 (remaining.toNat - 10)) := by
        conv_lhs => rw [hremaining]
        exact checkedSub_ofNat hlt hten.le
      simp only [if_true]
      rw [if_pos hword, if_pos hten, hsub, Option.map_some, hhalf]
    · have hword : ¬(10 : U16) < remaining := hten
      simp only [if_true]
      rw [if_neg hword, if_neg hten]
      rfl
  | false => exact congrArg some hremaining

theorem remainingWord_eq (remaining : U16) {cycles : Nat} (h : cycles < 2 ^ 16) :
    remainingWord remaining (BitVec.ofNat 16 cycles) =
      some (BitVec.ofNat 16 (remaining.toNat - cycles)) := by
  have hremaining : remaining = BitVec.ofNat 16 remaining.toNat := by simp
  have hle : remaining ≤ BitVec.ofNat 16 cycles ↔ remaining.toNat ≤ cycles := by
    rw [BitVec.le_def, BitVec.toNat_ofNat, Nat.mod_eq_of_lt h]
  unfold remainingWord
  by_cases hlast : remaining.toNat ≤ cycles
  · rw [if_pos (hle.mpr hlast), Nat.sub_eq_zero_of_le hlast]
    rfl
  · rw [if_neg (fun hword => hlast (hle.mp hword))]
    conv_lhs => rw [hremaining]
    exact checkedSub_ofNat remaining.isLt (Nat.not_le.mp hlast).le

variable {σ : Type} {callbacks : MemoryBusIoCallbacks σ} {bus : BusState σ} {scanline : Nat}

/-- No subtraction of the loop underflows, and its words are the numbers of the model. -/
theorem activeSpriteWords_eq (indices : List Nat) (remaining : U16) :
    activeSpriteWords callbacks bus scanline indices remaining =
      some ((activeSprites callbacks bus scanline indices remaining.toNat).map
        fun active => (active.1, BitVec.ofNat 16 active.2)) := by
  induction indices generalizing remaining with
  | nil => rfl
  | cons index rest ih =>
    cases hread : PpuSpriteFetcher.readSprite callbacks bus index with
    | none =>
      rw [activeSpriteWords, activeSprites, hread]
      exact ih remaining
    | some sprite =>
      have hbounds := readSprite_bounds hread
      have hwidth := fetchWidth_le hbounds
      have hwork := spriteWork_le hbounds
      have hnone : remaining = 0 ↔ remaining.toNat = 0 := by
        rw [← BitVec.toNat_inj]
        rfl
      have hadmitted : admittedWidth remaining.toNat sprite < 2 ^ 16 := by
        have hlt := remaining.isLt
        unfold admittedWidth
        split_ifs <;> omega
      rw [activeSprites_cons rest hread, activeSpriteWords, hread]
      dsimp only
      rw [fetchWidthWord_eq hbounds, Option.bind_some, admittedWidthWord_eq hbounds,
        Option.bind_some, cyclesWord_eq, remainingWord_eq remaining (by omega), Option.bind_some,
        ih, ih, leftPrefixWord_eq hbounds]
      have hleft : (BitVec.ofNat 16 (remaining.toNat - spriteWork sprite (fetchWidth sprite)) :
          U16).toNat = remaining.toNat - spriteWork sprite (fetchWidth sprite) := by
        rw [BitVec.toNat_ofNat, Nat.mod_eq_of_lt (by have hlt := remaining.isLt; omega)]
      rw [hleft]
      simp only [hnone, ofNat_eq_zero_iff hadmitted,
        ofNat_eq_zero_iff (show fetchWidth sprite < 2 ^ 16 by omega)]
      split_ifs
      · rfl
      · rfl
      · rfl
      · rfl
      · rw [List.map_cons, BitVec.ofNat_add]
        rfl

end Words

end PpuRenderer

end Gba.Core
