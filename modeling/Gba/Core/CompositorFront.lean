import Gba.Core.CompositorLayers

/-!
# The two frontmost layers

The pass of the renderer keeps the two frontmost of the pixels that it considers. With the
priorities that it gives them these are the two frontmost layers of the reference, unless a sprite
belongs in front of a bitmap.
-/

namespace Gba.Core

open Library (LeastTwo keepLeast firstTwo)

namespace Compositor

open PpuRenderer

theorem Layer.place_injective {a b : Layer} (h : a.place = b.place) : a = b := by
  rcases a with _ | index | _ <;> rcases b with _ | other | _ <;> simp only [place] at h
  · rfl
  · omega
  · omega
  · omega
  · exact congrArg bg (Fin.ext (by omega))
  · omega
  · omega
  · omega
  · rfl

theorem Layer.bit_injective {a b : Layer} (h : a.bit = b.bit) : a = b := by
  rcases a with _ | index | _ <;> rcases b with _ | other | _ <;> simp only [bit] at h
  · rfl
  · omega
  · omega
  · omega
  · exact congrArg bg (Fin.ext h)
  · omega
  · omega
  · omega
  · rfl

theorem Layer.order_eq (layer : Layer) :
    layerOrder layer.bit = if layer = .backdrop then 6 else layer.place := by
  unfold layerOrder
  cases layer with
  | obj => rfl
  | bg index => exact if_neg (Nat.ne_of_lt index.isLt)
  | backdrop => rfl

/-- The renderer's order of the bits is the order of the layers. -/
theorem Layer.order_iff (a b : Layer) :
    layerOrder a.bit < layerOrder b.bit ↔ a.place < b.place := by
  rw [a.order_eq, b.order_eq]
  rcases a with _ | index | _ <;> rcases b with _ | other | _ <;> simp [place] <;> omega

theorem layer_of_rank {first second : LayerPixel} (h : rank first = rank second) :
    first.layer = second.layer :=
  Layer.place_injective (congrArg (fun pair => (ofLex pair).2) h)

/-! ## The pass over the layers -/

theorem precedes_iff (first second : LayerPixel) :
    precedes (asCandidate first) (asCandidate second) = true ↔ rank first < rank second := by
  unfold precedes rank
  rw [Prod.Lex.toLex_lt_toLex]
  show (if first.priority ≠ second.priority then decide (first.priority < second.priority)
    else decide (layerOrder first.layer.bit < layerOrder second.layer.bit)) = true ↔ _
  split
  · next hne => simp [hne]
  · next heq =>
      rw [not_not] at heq
      simp [heq, Layer.order_iff]

/-- Two pixels as the renderer's two candidates. -/
def composition (pair : LayerPixel × LayerPixel) : Composition :=
  ⟨asCandidate pair.1, asCandidate pair.2⟩

theorem consider_composition (pair : LayerPixel × LayerPixel) (pixel : LayerPixel) :
    (consider (composition pair) (asCandidate pixel)).2 =
      composition (keepLeast rank pair pixel) := by
  unfold consider keepLeast composition
  simp only [precedes_iff]
  split
  · rfl
  split
  · rfl
  · rfl

theorem considerAll_composition (pixels : List LayerPixel) (pair : LayerPixel × LayerPixel) :
    (considerAll (pixels.map asCandidate) (composition pair)).2 =
      composition (pixels.foldl (keepLeast rank) pair) := by
  induction pixels generalizing pair with
  | nil => rfl
  | cons pixel rest ih =>
      rw [List.foldl_cons, ← ih, ← consider_composition]
      rfl

theorem considerAll_append (first second : List PixelCandidate) (composition : Composition) :
    (considerAll (first ++ second) composition).2 =
      (considerAll second (considerAll first composition).2).2 := by
  induction first generalizing composition with
  | nil => rfl
  | cons candidate rest ih => exact ih _

/-- When the last candidate is the only one with its layer, it is in front where it was the best. -/
theorem consider_best {composition : Composition} {candidate : PixelCandidate}
    (hbest : composition.best.layerBit ≠ candidate.layerBit) :
    (consider composition candidate).1 = true ↔
      (consider composition candidate).2.best.layerBit = candidate.layerBit := by
  unfold consider
  split
  · exact iff_of_true rfl rfl
  split
  · exact iff_of_false Bool.false_ne_true hbest
  · exact iff_of_false Bool.false_ne_true hbest

theorem considerAll_layers {candidates : List PixelCandidate} {composition : Composition}
    {layer : Nat} (h : ∀ candidate ∈ candidates, candidate.layerBit ≠ layer)
    (hbest : composition.best.layerBit ≠ layer) :
    (considerAll candidates composition).2.best.layerBit ≠ layer := by
  induction candidates generalizing composition with
  | nil => exact hbest
  | cons candidate rest ih =>
      refine ih (fun other hother => h other (List.mem_cons_of_mem _ hother)) ?_
      unfold consider
      split
      · exact h candidate (List.mem_cons_self ..)
      split
      · exact hbest
      · exact hbest

theorem bgCandidates_layer {control : PpuRenderControl} {available : Nat → Fin 4 → Bool}
    {fetched : Fin 4 → Option PixelCandidate} {shown : BitVec 6} {indices : List (Fin 4)}
    (hfetched : ∀ index, ∀ candidate ∈ fetched index, candidate.layerBit = index.val)
    {candidate : PixelCandidate}
    (h : candidate ∈ bgCandidates control available fetched shown indices) :
    candidate.layerBit ≠ 4 := by
  obtain ⟨index, -, h⟩ := List.mem_filterMap.mp h
  split at h
  · rw [hfetched index candidate h]
    exact Nat.ne_of_lt index.isLt
  · contradiction

section Front

variable {σ : Type} {callbacks : MemoryBusIoCallbacks σ} {bus : BusState σ}
  {control : PpuRenderControl} {scanline : Nat}

/-! ## Layers below the sprites -/

theorem backgroundCandidates_layer {shown : BitVec 6} {x : Nat} {candidate : PixelCandidate}
    (h : candidate ∈ backgroundCandidates callbacks bus control scanline shown x) :
    candidate.layerBit ≠ 4 := by
  rcases List.mem_append.mp h with h | h
  · refine bgCandidates_layer (fun index other hother => ?_) h
    rw [textCandidate_eq] at hother
    obtain ⟨color, -, rfl⟩ := Option.map_eq_some_iff.mp hother
    rfl
  · refine bgCandidates_layer (fun index other hother => ?_) h
    rw [affineCandidate_eq] at hother
    obtain ⟨color, -, rfl⟩ := Option.map_eq_some_iff.mp hother
    rfl

theorem bitmapCandidates_layer {shown : BitVec 6} {x : Nat} {candidate : PixelCandidate}
    (h : candidate ∈ bitmapCandidates callbacks bus control scanline shown x) :
    candidate.layerBit ≠ 4 := by
  unfold bitmapCandidates at h
  split at h
  · obtain ⟨color, -, rfl⟩ := Option.map_eq_some_iff.mp (Option.mem_toList.mp h)
    exact (by decide : 2 ≠ 4)
  · exact absurd h List.not_mem_nil

/-! ## Priorities -/

theorem readSprite_priority {index : Nat} {sprite : SpriteAttributes}
    (h : PpuSpriteFetcher.readSprite callbacks bus index = some sprite) : sprite.priority < 4 := by
  unfold PpuSpriteFetcher.readSprite at h
  split at h
  · contradiction
  · simp only [Option.bind_eq_bind, Option.bind_eq_some_iff, Option.pure_def,
      Option.some.injEq] at h
    obtain ⟨attr0, -, attr1, -, attr2, -, rfl⟩ := h
    exact (attr2.extractLsb' 10 2).isLt

theorem objPixel_priority {x : Nat} {front : SpriteAttributes × SpritePixel}
    (h : objPixel callbacks bus control scanline x = some front) : front.1.priority < 4 := by
  have hfront := mem_of_frontPixel h
  have horder := (@admittedSprites_admission σ callbacks bus control scanline).in_order
  rw [admittedSprites_eq] at horder
  have hsprite := horder.subset hfront
  unfold lineSprites at hsprite
  split at hsprite
  · obtain ⟨index, -, hread⟩ := List.mem_filterMap.mp hsprite
    exact readSprite_priority (Option.filter_eq_some_iff.mp hread).1
  · exact absurd hsprite List.not_mem_nil

theorem layerPixel_spec {x : Nat} {layer : Layer} {pixel : LayerPixel}
    (h : layerPixel callbacks bus control scanline x layer = some pixel) :
    pixel.layer = layer ∧ (layer ≠ .backdrop → pixel.priority < 4) := by
  cases layer with
  | obj =>
      obtain ⟨front, hfront, rfl⟩ := Option.map_eq_some_iff.mp h
      exact ⟨rfl, fun _ => objPixel_priority hfront⟩
  | bg index =>
      obtain ⟨color, -, rfl⟩ := Option.map_eq_some_iff.mp h
      exact ⟨rfl, fun _ => ((control.bgControl index).extractLsb' 0 2).isLt⟩
  | backdrop =>
      obtain rfl := Option.some.inj h
      exact ⟨rfl, fun hne => absurd rfl hne⟩

theorem visiblePixel_spec {x : Nat} {layer : Layer} {pixel : LayerPixel}
    (h : visiblePixel callbacks bus control scanline x layer = some pixel) :
    pixel.layer = layer ∧ (layer ≠ .backdrop → pixel.priority < 4) := by
  unfold visiblePixel at h
  split at h
  · exact layerPixel_spec h
  · contradiction

theorem mem_layers {x : Nat} {pixel : LayerPixel}
    (h : pixel ∈ layers callbacks bus control scanline x) :
    visiblePixel callbacks bus control scanline x pixel.layer = some pixel ∧
      pixel.layer ≠ .backdrop ∧ pixel.priority < 4 := by
  obtain ⟨layer, hlayer, hpixel⟩ := List.mem_filterMap.mp h
  obtain ⟨heq, hpriority⟩ := visiblePixel_spec hpixel
  have hne : layer ≠ .backdrop := by
    rintro rfl
    simp at hlayer
  rw [heq]
  exact ⟨hpixel, hne, hpriority hne⟩

theorem rank_le_behind {pixel : LayerPixel} (h : pixel.priority < 4) :
    rank pixel ≤ rank (behind callbacks bus) :=
  le_of_lt (Prod.Lex.toLex_lt_toLex.mpr (Or.inl h))

/-- The two frontmost layers and the backdrop, which is there twice. -/
theorem frontmost_leastTwo (x : Nat) :
    LeastTwo rank
      (behind callbacks bus ::
        (layers callbacks bus control scanline x ++ [behind callbacks bus]))
      (frontmost callbacks bus control scanline x).1
      (frontmost callbacks bus control scanline x).2 := by
  refine Library.firstTwo_leastTwo (by simp) fun pixel hpixel => ?_
  rcases List.mem_append.mp hpixel with hpixel | hpixel
  · exact rank_le_behind (mem_layers hpixel).2.2
  · rw [List.mem_singleton.mp hpixel]

/-! ## What the renderer chooses -/

/-- The composition that the renderer ends with. -/
def composed (callbacks : MemoryBusIoCallbacks σ) (bus : BusState σ) (control : PpuRenderControl)
    (scanline x : Nat) : Composition :=
  let row := objRow callbacks bus control scanline
  let shown := windowLayerMask control x scanline (row.window x)
  let behind : PixelCandidate := ⟨PpuRenderer.backdrop callbacks bus, kBackdropLayerBit, 4⟩
  (considerAll (objCandidates control row shown x)
    (considerAll (bitmapCandidates callbacks bus control scanline shown x)
      (considerAll (backgroundCandidates callbacks bus control scanline shown x)
        ⟨behind, behind⟩).2).2).2

/-- The renderer chooses the two frontmost of the pixels with the priorities that it gives them. -/
theorem composed_leastTwo (hmode : mode control < 6) {x : Nat} (hx : x < kScreenWidth)
    (hline : scanline < kScreenHeight) :
    ∃ pair, composed callbacks bus control scanline x = composition pair ∧
      LeastTwo rank
        ((layers callbacks bus control scanline x).map (taken control) ++
          [behind callbacks bus, behind callbacks bus]) pair.1 pair.2 := by
  have hstart := LeastTwo.pair (le_refl (rank (behind callbacks bus)))
  refine ⟨_, ?_, hstart.foldl _⟩
  have hconsidered := @considered_eq σ callbacks bus control scanline hmode x hx hline
  have hall : composed callbacks bus control scanline x =
      (considerAll (considered callbacks bus control scanline x)
        (composition (behind callbacks bus, behind callbacks bus))).2 := by
    unfold considered
    rw [considerAll_append, considerAll_append]
    rfl
  rw [hall, hconsidered, ← considerAll_composition, List.map_map]
  rfl

/-- A candidate is the pixel of a layer. -/
def SamePixel (candidate : PixelCandidate) (pixel : LayerPixel) : Prop :=
  candidate.layerBit = pixel.layer.bit ∧ candidate.color = pixel.color

theorem samePixel_asCandidate (pixel other : LayerPixel) :
    SamePixel (asCandidate pixel) other ↔ pixel.layer = other.layer ∧ pixel.color = other.color :=
  and_congr_left fun _ => ⟨Layer.bit_injective, congrArg Layer.bit⟩

/-- A bitmap that the renderer puts in front of a sprite, although the background has the lower
priority. -/
def BitmapMisplaced (callbacks : MemoryBusIoCallbacks σ) (bus : BusState σ)
    (control : PpuRenderControl) (scanline x : Nat) : Prop :=
  3 ≤ mode control ∧
    ∃ bitmap ∈ visiblePixel callbacks bus control scanline x (.bg 2),
      ∃ sprite ∈ visiblePixel callbacks bus control scanline x .obj,
        0 < sprite.priority ∧ sprite.priority ≤ bitmap.priority

/-- The two least of layers that are all different. -/
theorem leastTwo_unique {list : List LayerPixel} {first second first' second' : LayerPixel}
    (h : LeastTwo rank list first second) (h' : LeastTwo rank list first' second')
    (hlayers : ∀ a ∈ list, ∀ b ∈ list, a.layer = b.layer → a = b) :
    first = first' ∧ second = second' :=
  h.unique h' fun a ha b hb hrank => hlayers a ha b hb (layer_of_rank hrank)

/-- Where no bitmap is shown the renderer chooses as the reference does. -/
theorem composed_eq_frontmost (hmode : mode control < 6) {x : Nat} (hx : x < kScreenWidth)
    (hline : scanline < kScreenHeight)
    (hbitmap : 3 ≤ mode control → visiblePixel callbacks bus control scanline x (.bg 2) = none) :
    composed callbacks bus control scanline x =
      composition (frontmost callbacks bus control scanline x) := by
  obtain ⟨pair, heq, hpair⟩ :=
    @composed_leastTwo σ callbacks bus control scanline hmode x hx hline
  have hfront := @frontmost_leastTwo σ callbacks bus control scanline x
  have htaken : (layers callbacks bus control scanline x).map (taken control) =
      layers callbacks bus control scanline x := by
    refine (List.map_congr_left fun pixel hpixel => ?_).trans (List.map_id _)
    refine if_neg fun h => ?_
    have hvisible := (mem_layers hpixel).1
    rw [h.2, hbitmap h.1] at hvisible
    contradiction
  rw [htaken] at hpair
  have hperm : (layers callbacks bus control scanline x ++
      [behind callbacks bus, behind callbacks bus]).Perm
        (behind callbacks bus ::
          (layers callbacks bus control scanline x ++ [behind callbacks bus])) :=
    List.perm_middle
  obtain ⟨hfirst, hsecond⟩ := leastTwo_unique hpair (hfront.of_perm hperm) fun a ha b hb hlayer => by
    -- a layer has one pixel at most, and none is in the layer of the backdrop
    have hcases : ∀ pixel ∈ layers callbacks bus control scanline x ++
        [behind callbacks bus, behind callbacks bus],
        pixel ∈ layers callbacks bus control scanline x ∨ pixel = behind callbacks bus := by
      intro pixel hpixel
      rcases List.mem_append.mp hpixel with hpixel | hpixel
      · exact Or.inl hpixel
      · exact Or.inr (by simpa using hpixel)
    rcases hcases a ha with ha | rfl <;> rcases hcases b hb with hb | rfl
    · have hvisible := (mem_layers ha).1
      rw [hlayer, (mem_layers hb).1] at hvisible
      exact (Option.some.inj hvisible).symm
    · exact absurd hlayer (mem_layers ha).2.1
    · exact absurd hlayer.symm (mem_layers hb).2.1
    · rfl
  rw [heq]
  exact congrArg composition (Prod.ext hfirst hsecond)

/-! ## Bitmaps -/

/-- Beside a bitmap only a sprite is shown. -/
theorem layers_bitmap (hmode : mode control < 6) (hbitmap : 3 ≤ mode control) (x : Nat) :
    layers callbacks bus control scanline x =
      (visiblePixel callbacks bus control scanline x (.bg 2)).toList ++
        (visiblePixel callbacks bus control scanline x .obj).toList := by
  have hkind : ∀ mode < 6, 3 ≤ mode → ∀ index : Fin 4, index ≠ 2 →
      backgroundKind mode index = none := by decide
  have hnone : ∀ index : Fin 4, index ≠ 2 →
      visiblePixel callbacks bus control scanline x (.bg index) = none := by
    intro index hindex
    have hcandidate := @visibleCandidate_none σ callbacks bus control scanline index
      (hkind _ hmode hbitmap index hindex) x
    exact Option.map_eq_none_iff.mp hcandidate
  unfold layers
  rw [List.filterMap_eq_flatMap_toList]
  simp [hnone]

/-- Two pixels in front of the backdrop. -/
theorem leastTwo_pair {first second : LayerPixel} (h : rank first ≤ rank second)
    (hsecond : second.priority < 4) :
    LeastTwo rank [first, second, behind callbacks bus, behind callbacks bus] first second := by
  refine ⟨_, List.Perm.refl _, h, fun other hother => ?_⟩
  simp only [List.mem_cons, List.not_mem_nil, or_false, or_self] at hother
  rw [hother]
  exact rank_le_behind hsecond

/-- A sprite and a bitmap: the sprite is in front where its priority is not the greater. -/
theorem leastTwo_sprite {sprite bitmap first second : LayerPixel}
    (hsprite : sprite.layer = .obj ∧ sprite.priority < 4)
    (hbitmap : bitmap.layer = .bg 2 ∧ bitmap.priority < 4)
    (h : LeastTwo rank [bitmap, sprite, behind callbacks bus, behind callbacks bus] first second) :
    (first, second) =
      if sprite.priority ≤ bitmap.priority then (sprite, bitmap) else (bitmap, sprite) := by
  have hlayers : ∀ a ∈ [bitmap, sprite, behind callbacks bus, behind callbacks bus],
      ∀ b ∈ [bitmap, sprite, behind callbacks bus, behind callbacks bus],
      a.layer = b.layer → a = b := by
    have hbehind : (behind callbacks bus).layer = .backdrop := rfl
    simp only [List.mem_cons, List.not_mem_nil, or_false, or_self]
    rintro a (rfl | rfl | rfl) b (rfl | rfl | rfl) heq <;>
      simp_all
  split
  · next hle =>
      have hrank : rank sprite ≤ rank bitmap := by
        refine Prod.Lex.toLex_le_toLex.mpr ?_
        rcases Nat.lt_or_eq_of_le hle with hlt | heq
        · exact Or.inl hlt
        · refine Or.inr ⟨heq, ?_⟩
          rw [hsprite.1]
          exact Nat.zero_le _
      obtain ⟨rfl, rfl⟩ := leastTwo_unique h
        ((leastTwo_pair hrank hbitmap.2).of_perm (List.Perm.swap _ _ _)) hlayers
      rfl
  · next hgt =>
      have hrank : rank bitmap ≤ rank sprite :=
        le_of_lt (Prod.Lex.toLex_lt_toLex.mpr (Or.inl (Nat.lt_of_not_le hgt)))
      obtain ⟨rfl, rfl⟩ := leastTwo_unique h (leastTwo_pair hrank hsprite.2) hlayers
      rfl

/-- A bitmap alone is in front of the backdrop. -/
theorem leastTwo_bitmap {bitmap first second : LayerPixel}
    (hbitmap : bitmap.layer = .bg 2 ∧ bitmap.priority < 4)
    (h : LeastTwo rank [bitmap, behind callbacks bus, behind callbacks bus] first second) :
    first = bitmap ∧ second = behind callbacks bus := by
  have hpair : LeastTwo rank [bitmap, behind callbacks bus, behind callbacks bus] bitmap
      (behind callbacks bus) := by
    refine ⟨[behind callbacks bus], List.Perm.refl _, rank_le_behind hbitmap.2, ?_⟩
    intro other hother
    rw [List.mem_singleton.mp hother]
  refine leastTwo_unique h hpair ?_
  have hbehind : (behind callbacks bus).layer = .backdrop := rfl
  simp only [List.mem_cons, List.not_mem_nil, or_false, or_self]
  rintro a (rfl | rfl) b (rfl | rfl) heq <;> simp_all

/-- The bitmap as the renderer takes it: the same layer and colour, at priority 0. -/
theorem taken_bitmap (hbitmap : 3 ≤ mode control) {bitmap : LayerPixel}
    (hlayer : bitmap.layer = .bg 2) :
    (taken control bitmap).layer = .bg 2 ∧ (taken control bitmap).priority = 0 := by
  refine ⟨(taken_layer control bitmap).1.trans hlayer, ?_⟩
  unfold taken
  rw [if_pos ⟨hbitmap, hlayer⟩]

/-- A sprite and a bitmap are in the same order with the bitmap at priority 0 as at its own, unless
the priority of the sprite lies between the two. -/
theorem order_bitmap_iff {sprite bitmap raised best second top below : LayerPixel}
    (hdiffer : bitmap.layer ≠ sprite.layer)
    (hsame : raised.layer = bitmap.layer ∧ raised.color = bitmap.color)
    (hchosen : (best, second) =
      if sprite.priority ≤ 0 then (sprite, raised) else (raised, sprite))
    (hfront : (top, below) =
      if sprite.priority ≤ bitmap.priority then (sprite, bitmap) else (bitmap, sprite)) :
    (best.layer = top.layer ∧ best.color = top.color) ∧
        second.layer = below.layer ∧ second.color = below.color ↔
      ¬(0 < sprite.priority ∧ sprite.priority ≤ bitmap.priority) := by
  by_cases hfirst : sprite.priority ≤ 0
  · rw [if_pos hfirst] at hchosen
    rw [if_pos (by omega)] at hfront
    obtain ⟨hbest, hsecond⟩ := Prod.mk.inj hchosen
    obtain ⟨htop, hbelow⟩ := Prod.mk.inj hfront
    rw [hbest, hsecond, htop, hbelow]
    exact iff_of_true ⟨⟨rfl, rfl⟩, hsame⟩ (by omega)
  · rw [if_neg hfirst] at hchosen
    obtain ⟨hbest, hsecond⟩ := Prod.mk.inj hchosen
    rw [hbest, hsecond]
    by_cases hfrontmost : sprite.priority ≤ bitmap.priority
    · rw [if_pos hfrontmost] at hfront
      obtain ⟨htop, hbelow⟩ := Prod.mk.inj hfront
      rw [htop, hbelow]
      exact iff_of_false (fun h => hdiffer (hsame.1.symm.trans h.1.1)) (by omega)
    · rw [if_neg hfrontmost] at hfront
      obtain ⟨htop, hbelow⟩ := Prod.mk.inj hfront
      rw [htop, hbelow]
      exact iff_of_true ⟨hsame, rfl, rfl⟩ (by omega)

/-- With a bitmap there is at most a sprite besides, and the two are chosen alike unless the bitmap
is misplaced. -/
theorem composed_bitmap (hmode : mode control < 6) {x : Nat} (hx : x < kScreenWidth)
    (hline : scanline < kScreenHeight) (hbitmap : 3 ≤ mode control) {bitmap : LayerPixel}
    (h : visiblePixel callbacks bus control scanline x (.bg 2) = some bitmap) :
    SamePixel (composed callbacks bus control scanline x).best
          (frontmost callbacks bus control scanline x).1 ∧
        SamePixel (composed callbacks bus control scanline x).second
          (frontmost callbacks bus control scanline x).2 ↔
      ¬BitmapMisplaced callbacks bus control scanline x := by
  obtain ⟨pair, heq, hpair⟩ :=
    @composed_leastTwo σ callbacks bus control scanline hmode x hx hline
  have hfront := @frontmost_leastTwo σ callbacks bus control scanline x
  obtain ⟨hlayer, hpriority⟩ := visiblePixel_spec h
  have hlow := hpriority (by simp)
  obtain ⟨hraisedLayer, hraisedPriority⟩ := taken_bitmap hbitmap hlayer
  have hsame := taken_layer control bitmap
  have hlayers := @layers_bitmap σ callbacks bus control scanline hmode hbitmap x
  rw [h] at hlayers
  rw [heq]
  show SamePixel (asCandidate pair.1) _ ∧ SamePixel (asCandidate pair.2) _ ↔ _
  rw [samePixel_asCandidate, samePixel_asCandidate]
  unfold BitmapMisplaced
  rw [h]
  -- next to a bitmap only a sprite can be visible; only the two of them can stand out of order
  cases hobj : visiblePixel callbacks bus control scanline x .obj with
  | none =>
      rw [hobj] at hlayers
      rw [hlayers] at hpair hfront
      have hpair' : LeastTwo rank [taken control bitmap, behind callbacks bus, behind callbacks bus]
          _ _ := hpair
      obtain ⟨hbest, hsecond⟩ :=
        leastTwo_bitmap ⟨hraisedLayer, hraisedPriority ▸ Nat.succ_pos 3⟩ hpair'
      have hfront' : LeastTwo rank [bitmap, behind callbacks bus, behind callbacks bus] _ _ :=
        hfront.of_perm (List.Perm.swap _ _ _)
      obtain ⟨htop, hbelow⟩ := leastTwo_bitmap ⟨hlayer, hlow⟩ hfront'
      rw [hbest, hsecond, htop, hbelow]
      exact iff_of_true ⟨hsame, rfl, rfl⟩ (by simp)
  | some sprite =>
      obtain ⟨hsprite, hspritePriority⟩ := visiblePixel_spec hobj
      have hspriteLow := hspritePriority (by simp)
      have hspriteTaken : taken control sprite = sprite := if_neg fun h => by
        rw [hsprite] at h
        exact absurd h.2 (by simp)
      rw [hobj] at hlayers
      rw [hlayers] at hpair hfront
      -- the source raises the priority of the bitmap alone
      have hlist : ((some bitmap).toList ++ (some sprite).toList).map (taken control) =
          [taken control bitmap, sprite] := by
        show [taken control bitmap, taken control sprite] = _
        rw [hspriteTaken]
      rw [hlist] at hpair
      have hbest := leastTwo_sprite ⟨hsprite, hspriteLow⟩
        ⟨hraisedLayer, hraisedPriority ▸ Nat.succ_pos 3⟩ hpair
      rw [hraisedPriority] at hbest
      have hfront' : LeastTwo rank [bitmap, sprite, behind callbacks bus, behind callbacks bus]
          _ _ := hfront.of_perm
            (@List.perm_middle _ (behind callbacks bus) [bitmap, sprite] [behind callbacks bus])
      have htop := leastTwo_sprite ⟨hsprite, hspriteLow⟩ ⟨hlayer, hlow⟩ hfront'
      have hmisplaced : (3 ≤ mode control ∧ ∃ other ∈ some bitmap, ∃ sprite' ∈ some sprite,
          0 < sprite'.priority ∧ sprite'.priority ≤ other.priority) ↔
            0 < sprite.priority ∧ sprite.priority ≤ bitmap.priority := by
        simp [hbitmap]
      rw [hmisplaced]
      have hdiffer : bitmap.layer ≠ sprite.layer := by
        rw [hlayer, hsprite]
        simp
      exact order_bitmap_iff hdiffer hsame hbest htop

/-- The renderer chooses the two frontmost layers unless a bitmap is misplaced. -/
theorem composed_iff (hmode : mode control < 6) {x : Nat} (hx : x < kScreenWidth)
    (hline : scanline < kScreenHeight) :
    SamePixel (composed callbacks bus control scanline x).best
          (frontmost callbacks bus control scanline x).1 ∧
        SamePixel (composed callbacks bus control scanline x).second
          (frontmost callbacks bus control scanline x).2 ↔
      ¬BitmapMisplaced callbacks bus control scanline x := by
  by_cases hbitmap : 3 ≤ mode control
  · cases hpixel : visiblePixel callbacks bus control scanline x (.bg 2) with
    | some bitmap => exact composed_bitmap hmode hx hline hbitmap hpixel
    | none =>
        rw [composed_eq_frontmost hmode hx hline fun _ => hpixel]
        refine iff_of_true ⟨⟨rfl, rfl⟩, rfl, rfl⟩ ?_
        rintro ⟨-, bitmap, hmem, -⟩
        rw [hpixel] at hmem
        contradiction
  · rw [composed_eq_frontmost hmode hx hline fun h => absurd h hbitmap]
    exact iff_of_true ⟨⟨rfl, rfl⟩, rfl, rfl⟩ fun h => hbitmap h.1

end Front

end Compositor

end Gba.Core
