import Gba.Core.ByteBlocks

/-!
# Bytes stored in display memory

The palette and the lower part of VRAM are written in halfwords: a byte store puts its byte into
both bytes of the halfword that it addresses. OAM and the upper part of VRAM ignore byte stores, and
work RAM takes them as they are. Stores at unaligned addresses are byte stores, so that a block that
is stored byte by byte in display memory holds in each halfword its last byte twice.
-/

namespace Gba.Core

open LittleEndian

/-- The memories that can be written. -/
def internalRam : List Region := [.ewram, .iwram, .palette, .vram, .oam]

theorem internalRam_internal : ∀ region ∈ internalRam, region.internal = true := by decide

/-- An address whose byte stores fill a halfword. -/
def Doubles (address : U32) : Prop :=
  (classify address).region = .palette ∨
    (classify address).region = .vram ∧ (classify address).offset < 0x10000#32

instance doubles_decidable (address : U32) : Decidable (Doubles address) := by
  unfold Doubles
  infer_instance

/-- Two addresses of one halfword. -/
def SameHalfword (a b : U32) : Prop :=
  (classify a).region = (classify b).region ∧
    (classify a).offset.toNat / 2 = (classify b).offset.toNat / 2

instance sameHalfword_decidable (a b : U32) : Decidable (SameHalfword a b) := by
  unfold SameHalfword
  infer_instance

/-- A byte store at an address writes the byte of another address. -/
def Touches (other address : U32) : Prop :=
  Doubles address ∧ SameHalfword other address ∨ InRam address ∧ SameCell other address

instance touches_decidable (other address : U32) : Decidable (Touches other address) := by
  unfold Touches
  infer_instance

namespace SameHalfword

variable {a b c : U32}

theorem symm (h : SameHalfword a b) : SameHalfword b a := ⟨h.1.symm, h.2.symm⟩

theorem trans (h : SameHalfword a b) (h' : SameHalfword b c) : SameHalfword a c :=
  ⟨h.1.trans h'.1, h.2.trans h'.2⟩

theorem doubles (h : SameHalfword a b) (hb : Doubles b) : Doubles a := by
  obtain ⟨hregion, hoffset⟩ := h
  unfold Doubles at hb ⊢
  rw [hregion]
  refine hb.imp id fun hb => ⟨hb.1, ?_⟩
  have hlt := BitVec.lt_def.mp hb.2
  refine BitVec.lt_def.mpr ?_
  change _ < 65536 at hlt ⊢
  omega

/-- A halfword has two bytes. -/
theorem third (hb : SameHalfword b a) (hc : SameHalfword c a) (hab : ¬SameCell a b)
    (hac : ¬SameCell a c) : SameCell b c := by
  refine ⟨hb.1.trans hc.1.symm, BitVec.eq_of_toNat_eq ?_⟩
  have hb' : (classify a).offset.toNat ≠ (classify b).offset.toNat :=
    fun h => hab ⟨hb.1.symm, BitVec.eq_of_toNat_eq h⟩
  have hc' : (classify a).offset.toNat ≠ (classify c).offset.toNat :=
    fun h => hac ⟨hc.1.symm, BitVec.eq_of_toNat_eq h⟩
  have hbhalf := hb.2
  have hchalf := hc.2
  omega

end SameHalfword

theorem SameCell.sameHalfword {a b : U32} (h : SameCell a b) : SameHalfword a b :=
  ⟨h.1, by rw [h.2]⟩

theorem Doubles.internal {address : U32} (h : Doubles address) : Internal address := by
  unfold Internal
  rcases h with h | ⟨h, -⟩
  · rw [h]
    rfl
  · rw [h]
    rfl

theorem Doubles.not_inRam {address : U32} (h : Doubles address) : ¬InRam address := by
  rintro (hram | hram)
  · rcases h with h | ⟨h, -⟩ <;> exact absurd (h.symm.trans hram) (by decide)
  · rcases h with h | ⟨h, -⟩ <;> exact absurd (h.symm.trans hram) (by decide)

/-- The other byte of a halfword. -/
theorem Doubles.partner {address : U32} (h : Doubles address) :
    ∃ other, SameHalfword other address ∧ ¬SameCell other address := by
  have hinternal := h.internal
  have hfold := (classify address).region.fold_mod hinternal address.toNat
  rw [← hinternal.offset] at hfold
  by_cases heven : address.toNat % 2 = 0
  · obtain ⟨hregion, hoffset⟩ := hinternal.classify_lane (show address.toNat % 4 + 1 < 4 by omega)
    have hnat : ((classify address).offset + BitVec.ofNat 32 1).toNat =
        (classify address).offset.toNat + 1 := by bv_omega
    refine ⟨address + BitVec.ofNat 32 1, ⟨hregion, ?_⟩, fun hsame => ?_⟩
    · rw [hoffset, hnat]
      omega
    · have heq := congrArg BitVec.toNat hsame.2
      rw [hoffset, hnat] at heq
      omega
  · have hbefore : (address - 1).toNat = address.toNat - 1 := by bv_omega
    have hpage : (address - 1).toNat / 2 ^ 24 = (classify address).region.page := by
      rw [hbefore, ← hinternal.page]
      omega
    obtain ⟨hregion, -, hoffset⟩ := classify_internal hinternal hpage
    have hlane := (classify address).region.fold_add hinternal
      (show (address - 1).toNat % 4 + 1 < 4 by omega)
    have hback : (address - 1).toNat + 1 = address.toNat := by omega
    rw [hback, ← hinternal.offset, ← hoffset] at hlane
    refine ⟨address - 1, ⟨hregion, by omega⟩, fun hsame => ?_⟩
    have heq := congrArg BitVec.toNat hsame.2
    omega

namespace MemoryBus

/-- The memory after a byte store. -/
def storeByte (memory : MemoryBus) (address : U32) (value : U8) : MemoryBus :=
  let info := classify address
  let even := info.offset &&& ~~~1#32
  if Doubles address then
    (memory.setCellAt { info with offset := even } value).setCellAt { info with offset := even + 1 }
      value
  else if InRam address then memory.setCellAt info value
  else memory

/-- The memory after byte stores at consecutive addresses. -/
def storeBytes (memory : MemoryBus) : List U8 → U32 → MemoryBus
  | [], _ => memory
  | value :: rest, address => (memory.storeByte address value).storeBytes rest (address + 1)

theorem storeByte_sameOutside (memory : MemoryBus) (address : U32) (value : U8) :
    memory.SameOutside (memory.storeByte address value) := by
  unfold storeByte
  dsimp only
  split
  · exact (setCellAt_sameOutside _ _ _).trans (setCellAt_sameOutside _ _ _)
  split
  · exact setCellAt_sameOutside _ _ _
  · rfl

theorem storeBytes_sameOutside (memory : MemoryBus) (block : List U8) (address : U32) :
    memory.SameOutside (memory.storeBytes block address) := by
  induction block generalizing memory address with
  | nil => rfl
  | cons value rest ih => exact (storeByte_sameOutside _ _ _).trans (ih _ _)

theorem cell_storeByte (memory : MemoryBus) (address : U32) (value : U8) (other : U32) :
    (memory.storeByte address value).cell other =
      if Touches other address then value else memory.cell other := by
  have hlt := classify_offset_lt address
  unfold storeByte cell
  dsimp only
  -- a doubled byte fills its halfword, a byte of RAM its own cell, any other byte none
  by_cases hdoubles : Doubles address
  · have hinternal := hdoubles.internal
    have htouches : Touches other address ↔ SameHalfword other address :=
      ⟨fun h => h.elim And.right fun h => absurd h.1 hdoubles.not_inRam,
        fun h => Or.inl ⟨hdoubles, h⟩⟩
    have heven : ((classify address).offset &&& ~~~1#32).toNat =
        (classify address).offset.toNat / 2 * 2 :=
      @clearLow_toNat (classify address).offset 1 (by decide)
    have hsize : regionSize (classify address).region % 2 = 0 := by
      rcases hdoubles with h | ⟨h, -⟩
      · rw [h]
        rfl
      · rw [h]
        rfl
    have hodd : (((classify address).offset &&& ~~~1#32) + 1).toNat =
        (classify address).offset.toNat / 2 * 2 + 1 := by
      rw [← heven]
      bv_omega
    rw [if_pos hdoubles,
      @cellAt_setCellAt _ { classify address with
        offset := ((classify address).offset &&& ~~~1#32) + 1 } hinternal
        (by dsimp only; omega) value,
      @cellAt_setCellAt _ { classify address with
        offset := (classify address).offset &&& ~~~1#32 } hinternal (by dsimp only; omega) value]
    dsimp only
    have hbytes : SameHalfword other address ↔
        ((classify other).region = (classify address).region ∧
            (classify other).offset = ((classify address).offset &&& ~~~1#32) + 1) ∨
          ((classify other).region = (classify address).region ∧
            (classify other).offset = (classify address).offset &&& ~~~1#32) := by
      unfold SameHalfword
      rw [← and_or_left, ← BitVec.toNat_inj, ← BitVec.toNat_inj, heven, hodd]
      refine and_congr_right fun _ => ?_
      omega
    by_cases hhigh : (classify other).region = (classify address).region ∧
        (classify other).offset = ((classify address).offset &&& ~~~1#32) + 1
    · rw [if_pos hhigh, if_pos (htouches.mpr (hbytes.mpr (.inl hhigh)))]
    · rw [if_neg hhigh]
      refine if_congr ?_ rfl rfl
      rw [htouches, hbytes, or_iff_right hhigh]
  rw [if_neg hdoubles]
  by_cases hram : InRam address
  · rw [if_pos hram, cellAt_setCellAt _ (BusState.internal_of_inRam hram) hlt]
    refine if_congr ?_ rfl rfl
    exact ⟨fun h => Or.inr ⟨hram, h⟩, fun h => h.elim (fun h => absurd h.1 hdoubles) And.right⟩
  · rw [if_neg hram, if_neg fun h => h.elim (fun h => hdoubles h.1) fun h => hram h.1]

theorem storeBytes_append (memory : MemoryBus) (first second : List U8) (address : U32) :
    memory.storeBytes (first ++ second) address =
      (memory.storeBytes first address).storeBytes second
        (address + BitVec.ofNat 32 first.length) := by
  induction first generalizing memory address with
  | nil =>
    show memory.storeBytes second address = memory.storeBytes second (address + BitVec.ofNat 32 0)
    rw [offset_zero]
  | cons value rest ih =>
    rw [List.length_cons, offset_succ]
    exact ih _ _

/-- A byte that no store touches. -/
theorem cell_storeBytes_of_not (memory : MemoryBus) {block : List U8} {address other : U32}
    (h : ∀ index < block.length, ¬Touches other (address + BitVec.ofNat 32 index)) :
    (memory.storeBytes block address).cell other = memory.cell other := by
  induction block generalizing memory address with
  | nil => rfl
  | cons value rest ih =>
    have hfirst := h 0 (Nat.succ_pos _)
    rw [offset_zero] at hfirst
    refine (ih _ fun index hindex => ?_).trans ((cell_storeByte _ _ _ _).trans (if_neg hfirst))
    rw [← offset_succ]
    exact h (index + 1) (Nat.succ_lt_succ hindex)

/-- A byte holds what the last store that touches it has stored. -/
theorem cell_storeBytes (memory : MemoryBus) {block : List U8} {address other : U32} {index : Nat}
    (hindex : index < block.length) (h : Touches other (address + BitVec.ofNat 32 index))
    (hlast : ∀ later < block.length, index < later →
      ¬Touches other (address + BitVec.ofNat 32 later)) :
    (memory.storeBytes block address).cell other = block[index] := by
  induction block generalizing memory address index with
  | nil => exact absurd hindex (Nat.not_lt_zero _)
  | cons value rest ih =>
    cases index with
    | zero =>
      rw [offset_zero] at h
      have hrest : ∀ later < rest.length,
          ¬Touches other (address + 1 + BitVec.ofNat 32 later) := by
        intro later hlater
        rw [← offset_succ]
        exact hlast (later + 1) (Nat.succ_lt_succ hlater) (Nat.succ_pos _)
      exact (cell_storeBytes_of_not _ hrest).trans ((cell_storeByte _ _ _ _).trans (if_pos h))
    | succ index =>
      rw [offset_succ] at h
      refine ih _ (Nat.lt_of_succ_lt_succ hindex) h fun later hlater hafter => ?_
      rw [← offset_succ]
      exact hlast (later + 1) (Nat.succ_lt_succ hlater) (Nat.succ_lt_succ hafter)

end MemoryBus

/-! ## Stores of the bus -/

/-- A byte stored in one of the memories. -/
theorem write8_internal (system : System) {address : U32} (h : Internal address) (value : U8) :
    system.write8 ioCallbacks address value =
      (true, system.withMemory (system.memory.storeByte address value)) := by
  have hdebug : system.memory.writeDebug8 address value = none := by
    have hpage := BusState.Internal.page_ne h
    unfold MemoryBus.writeDebug8
    rw [if_neg (BusState.not_debugRange hpage _ _ (by decide) (by decide)), if_neg]
    rintro rfl
    exact absurd hpage (by decide)
  have hwritable := h.writable
  have hregion : (classify address).region = .ewram ∨ (classify address).region = .iwram ∨
      (classify address).region = .palette ∨ (classify address).region = .vram ∨
      (classify address).region = .oam := by
    have hinternal : (classify address).region.internal = true := h
    generalize (classify address).region = region at hinternal ⊢
    cases region <;> first | contradiction | simp
  unfold BusState.write8
  rw [hdebug]
  unfold MemoryBus.storeByte BusState.write8Memory MemoryBus.setCellAt Doubles InRam
  rcases hregion with h | h | h | h | h
  · simp [h, hwritable]
  · simp [h, hwritable]
  · simp [h, hwritable]
  · by_cases hlow : (classify address).offset < 0x10000#32
    · simp [h, hwritable, hlow, BitVec.not_le.mpr hlow]
    · simp [h, hwritable, hlow, BitVec.not_lt.mp hlow]
      rfl
  · simp [h, hwritable]
    rfl

/-- The low bytes of a value stored one after the other. -/
theorem writeBytes_internal (system : System) (value : U32) {address : U32} {count : Nat}
    (h : ∀ lane < count, Internal (address + BitVec.ofNat 32 lane)) :
    BusState.writeBytes ioCallbacks value address count (true, system) =
      (true, system.withMemory
        (system.memory.storeBytes ((List.range count).map (byte value)) address)) := by
  induction count with
  | zero => rfl
  | succ count ih =>
    unfold BusState.writeBytes BusState.andThen
    rw [ih fun lane hlane => h lane (Nat.lt_succ_of_lt hlane), if_pos rfl, List.range_succ,
      List.map_append, MemoryBus.storeBytes_append, List.length_map, List.length_range]
    exact write8_internal _ (h count (Nat.lt_succ_self count)) _

theorem Internal.region_ne {address : U32} (h : Internal address) :
    (classify address).region ≠ .gamePakRom ∧ (classify address).region ≠ .gamePakSave ∧
      (classify address).region ≠ .io := by
  have hregion : (classify address).region.internal = true := h
  refine ⟨?_, ?_, ?_⟩ <;> intro heq <;> rw [heq] at hregion <;> contradiction

/-- A halfword stored at an odd address. -/
theorem write16_odd (system : System) {address : U32}
    (h : ∀ lane < 2, Internal (address + BitVec.ofNat 32 lane)) (hodd : address.toNat % 2 ≠ 0)
    (value : U16) :
    system.write16 ioCallbacks address value =
      (true, system.withMemory
        (system.memory.storeBytes ((List.range 2).map (byte value)) address)) := by
  have hfirst : Internal address := by
    have hhead := h 0 (Nat.succ_pos _)
    rwa [offset_zero] at hhead
  obtain ⟨hrom, hsave, hio⟩ := hfirst.region_ne
  have hodd' : address % 2 ≠ 0 := by
    show address % 2#32 ≠ 0#32
    bv_omega
  have hlow : (List.range 2).map (byte (value.setWidth 32)) = (List.range 2).map (byte value) :=
    List.map_congr_left fun lane hlane => byte_setWidth value (by
      have hlt := List.mem_range.mp hlane
      omega)
  unfold BusState.write16
  dsimp only
  rw [if_neg hrom, if_neg hsave, BusState.writeDebug16_none system hfirst]
  dsimp only
  split
  · next heq _ => exact absurd heq hio
  · rw [if_pos hodd', writeBytes_internal system _ h, hlow]

/-- A word stored at an address that is not aligned. -/
theorem write32_unaligned (system : System) {address : U32}
    (h : ∀ lane < 4, Internal (address + BitVec.ofNat 32 lane)) (hunaligned : address.toNat % 4 ≠ 0)
    (value : U32) :
    system.write32 ioCallbacks address value =
      (true, system.withMemory
        (system.memory.storeBytes ((List.range 4).map (byte value)) address)) := by
  have hfirst : Internal address := by
    have hhead := h 0 (Nat.succ_pos _)
    rwa [offset_zero] at hhead
  obtain ⟨hrom, hsave, hio⟩ := hfirst.region_ne
  have hunaligned' : address % 4 ≠ 0 := by
    show address % 4#32 ≠ 0#32
    bv_omega
  unfold BusState.write32
  dsimp only
  rw [if_neg hrom, if_neg hsave, BusState.writeDebug32_none system hfirst]
  dsimp only
  split
  · next heq _ => exact absurd heq hio
  · rw [if_pos hunaligned', writeBytes_internal system _ h]

/-! ## Halfwords of a range -/

namespace BlockRange

variable {address : U32} {count : Nat}

/-- The memories lie below the cartridge, so that a range does not come back to address zero. -/
theorem offset_toNat {regions : List Region} (hregions : ∀ region ∈ regions, region.internal = true)
    (h : BlockRange regions address count) {index : Nat} (hindex : index < count) :
    (address + BitVec.ofNat 32 index).toNat = address.toNat + index := by
  have hcount := h.count_le hregions
  have hstart := internal_of_mem hregions (h.within 0 (by omega))
  have hpage := hstart.page
  rw [offset_zero] at hpage
  have hlow : (classify address).region.page ≤ 7 := by
    generalize (classify address).region = region
    cases region <;> decide
  rw [BitVec.toNat_add, BitVec.toNat_ofNat]
  omega

/-- The bytes of a range are different ones. -/
theorem apart {regions : List Region} (h : BlockRange regions address count) {first second : Nat}
    (hfirst : first < count) (hsecond : second < count) (hne : first ≠ second) :
    ¬SameCell (address + BitVec.ofNat 32 first) (address + BitVec.ofNat 32 second) := by
  rcases Nat.lt_or_gt_of_ne hne with hlt | hlt
  · exact h.distinct first second hlt hsecond
  · exact fun hsame => h.distinct second first hlt hfirst ⟨hsame.1.symm, hsame.2.symm⟩

/-- No three bytes of a range are in one halfword. -/
theorem not_third {regions : List Region} (h : BlockRange regions address count) {a b c : Nat}
    (ha : a < count) (hb : b < count) (hc : c < count) (hab : a ≠ b) (hac : a ≠ c) (hbc : b ≠ c)
    (hsame : SameHalfword (address + BitVec.ofNat 32 b) (address + BitVec.ofNat 32 a)) :
    ¬SameHalfword (address + BitVec.ofNat 32 c) (address + BitVec.ofNat 32 a) :=
  fun hsame' => h.apart hb hc hbc
    (hsame.third hsame' (h.apart ha hb hab) (h.apart ha hc hac))

/-- Two bytes of a range are not the same byte of the palette, which repeats every 1024 bytes. -/
theorem palette_distinct (h : BlockRange internalRam address count) {i j : Nat} (hij : i < j)
    (hj : j < count) (hi5 : (address.toNat + i) / 2 ^ 24 = 5)
    (hj5 : (address.toNat + j) / 2 ^ 24 = 5) :
    (address.toNat + i) % 1024 ≠ (address.toNat + j) % 1024 := by
  intro heq
  rw [← h.offset_toNat internalRam_internal (hij.trans hj)] at hi5 heq
  rw [← h.offset_toNat internalRam_internal hj] at hj5 heq
  have hmirrors : Mirrors (address + BitVec.ofNat 32 i) (address + BitVec.ofNat 32 j) :=
    ⟨.palette, rfl, hi5, hj5, heq⟩
  exact h.distinct i j hij hj (mirrors_iff.mp hmirrors).2

/-- In the palette the first and the last byte of a range can share a halfword when it is full. -/
theorem adjacent_palette (h : BlockRange internalRam address count) {first second : Nat}
    (hlt : first < second) (hsecond : second < count)
    (hfirst5 : (address.toNat + first) / 2 ^ 24 = 5)
    (hsecond5 : (address.toNat + second) / 2 ^ 24 = 5)
    (hhalf : (address.toNat + first) % 1024 / 2 = (address.toNat + second) % 1024 / 2) :
    second = first + 1 ∨ first = 0 ∧ second + 1 = count ∧ 1023 ≤ second := by
  have hnear : second < first + 1024 := by
    by_contra hfar
    exact h.palette_distinct (by omega : first < first + 1024) (by omega) hfirst5 (by omega)
      (by omega)
  by_cases hnext : second = first + 1
  · exact Or.inl hnext
  have hround : second = first + 1023 := by omega
  refine Or.inr ⟨?_, ?_, by omega⟩
  · by_contra hpositive
    exact h.palette_distinct (by omega : first - 1 < second) hsecond (by omega) hsecond5 (by omega)
  · by_contra hmore
    exact h.palette_distinct (by omega : first < second + 1) (by omega) hfirst5 (by omega)
      (by omega)

/-- The lower part of VRAM is not folded. -/
theorem fold_vram_low {place : Nat} (h : Region.vram.fold place < 0x10000) :
    place % 2 ^ 17 < 0x10000 ∧ Region.vram.fold place = place % 2 ^ 17 := by
  unfold Region.fold at h ⊢
  dsimp only at h ⊢
  split at h
  · omega
  · next hnot => exact ⟨h, if_neg hnot⟩

/-- Between two bytes of the lower part of VRAM that share a halfword and are not next to each other
lies the upper part, which ignores byte stores. -/
theorem adjacent_vram (h : BlockRange internalRam address count)
    (hdoubles : ∀ index < count, Doubles (address + BitVec.ofNat 32 index)) {first second : Nat}
    (hlt : first < second) (hsecond : second < count)
    (hfirst6 : (address.toNat + first) / 2 ^ 24 = 6)
    (hsecond6 : (address.toNat + second) / 2 ^ 24 = 6)
    (hfirstLow : Region.vram.fold (address.toNat + first) < 0x10000)
    (hsecondLow : Region.vram.fold (address.toNat + second) < 0x10000)
    (hhalf : Region.vram.fold (address.toNat + first) / 2 =
      Region.vram.fold (address.toNat + second) / 2) : second = first + 1 := by
  obtain ⟨hfirstBank, hfirstFold⟩ := fold_vram_low hfirstLow
  obtain ⟨hsecondBank, hsecondFold⟩ := fold_vram_low hsecondLow
  rw [hfirstFold, hsecondFold] at hhalf
  by_contra hfar
  obtain ⟨upper, hupper, hbank, hpage⟩ :
      ∃ upper, upper < second ∧ (address.toNat + upper) % 2 ^ 17 = 0x10000 ∧
        (address.toNat + upper) / 2 ^ 24 = 6 :=
    ⟨((address.toNat + first) / 2 ^ 17) * 2 ^ 17 + 0x10000 - address.toNat, by omega, by omega⟩
  have hplace := h.offset_toNat internalRam_internal (show upper < count by omega)
  have hregion := (@classify_internal .vram rfl (address + BitVec.ofNat 32 upper)
    (by rw [hplace]; exact hpage)).1
  have hoffset := (hdoubles upper (by omega)).internal.offset
  rw [hregion, hplace] at hoffset
  rcases hdoubles upper (by omega) with hpalette | ⟨-, hlow⟩
  · exact absurd (hpalette.symm.trans hregion) (by decide)
  · have hbelow := BitVec.lt_def.mp hlow
    rw [hoffset] at hbelow
    have hmod := (fold_vram_low hbelow).1
    omega

/-- Two bytes of a range that are in one halfword are next to each other, but for the first and the
last byte of a range that holds the whole palette. -/
theorem adjacent (h : BlockRange internalRam address count)
    (hdoubles : ∀ index < count, Doubles (address + BitVec.ofNat 32 index)) {first second : Nat}
    (hlt : first < second) (hsecond : second < count)
    (hsame : SameHalfword (address + BitVec.ofNat 32 first) (address + BitVec.ofNat 32 second)) :
    second = first + 1 ∨ first = 0 ∧ second + 1 = count ∧ 1023 ≤ second := by
  have hplace : ∀ index < count, (address + BitVec.ofNat 32 index).toNat = address.toNat + index :=
    fun index => h.offset_toNat internalRam_internal
  have hpage : ∀ index < count, (address.toNat + index) / 2 ^ 24 =
      (classify (address + BitVec.ofNat 32 index)).region.page := by
    intro index hindex
    rw [← hplace index hindex]
    exact (hdoubles index hindex).internal.page
  have hoffset : ∀ index < count, (classify (address + BitVec.ofNat 32 index)).offset.toNat =
      (classify (address + BitVec.ofNat 32 index)).region.fold (address.toNat + index) := by
    intro index hindex
    rw [← hplace index hindex]
    exact (hdoubles index hindex).internal.offset
  obtain ⟨hregion, hhalf⟩ := hsame
  have hfirst := hpage first (by omega)
  have hlast := hpage second hsecond
  rw [hoffset first (by omega), hoffset second hsecond] at hhalf
  rcases hdoubles second hsecond with hpalette | ⟨hvram, hlow⟩
  · rw [hregion, hpalette] at hfirst hhalf
    rw [hpalette] at hlast
    exact h.adjacent_palette hlt hsecond hfirst hlast hhalf
  · have hfirstLow : (classify (address + BitVec.ofNat 32 first)).offset.toNat < 0x10000 := by
      rcases hdoubles first (by omega) with hpalette | ⟨-, hlow⟩
      · exact absurd (hpalette.symm.trans (hregion.trans hvram)) (by decide)
      · exact BitVec.lt_def.mp hlow
    have hsecondLow : (classify (address + BitVec.ofNat 32 second)).offset.toNat < 0x10000 :=
      BitVec.lt_def.mp hlow
    rw [hoffset first (by omega), hregion, hvram] at hfirstLow
    rw [hoffset second hsecond, hvram] at hsecondLow
    rw [hregion, hvram] at hfirst hhalf
    rw [hvram] at hlast
    exact Or.inl (h.adjacent_vram hdoubles hlt hsecond hfirst hlast hfirstLow hsecondLow hhalf)

end BlockRange

end Gba.Core
