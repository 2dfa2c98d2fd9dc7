import Gba.Core.UnpackedAlike
import Mathlib.Data.Nat.Find

/-!
# Where unpacked sources are stored

`hle_bit_unpack` stores its output in work RAM as it is, and in any memory where it stores aligned
halfwords or words. In display memory its other stores are byte stores. There an output that is to
come out as the BIOS unpacks it has to fill halfwords of the palette or of the lower part of VRAM,
and in each of them the BIOS has to unpack the same byte twice, the one that the service stores last.
-/

namespace Gba.Core

open LittleEndian Library

/-! ## Outputs in halfwords -/

/-- A range of whole halfwords of the palette and of the lower part of VRAM. -/
def FillsHalfwords (destination : U32) (count : Nat) : Prop :=
  ∀ index < count, Doubles (destination + BitVec.ofNat 32 index) ∧
    ∃ other < count, other ≠ index ∧
      SameHalfword (destination + BitVec.ofNat 32 other) (destination + BitVec.ofNat 32 index)

instance fillsHalfwords_decidable (destination : U32) (count : Nat) :
    Decidable (FillsHalfwords destination count) := by
  unfold FillsHalfwords
  infer_instance

/-- Every byte of an output holds what the last store to its halfword has stored. -/
def HoldsLast (destination : U32) (block output : List U8) : Prop :=
  ∀ index (hindex : index < output.length), ∃ last, ∃ hlast : last < block.length,
    SameHalfword (destination + BitVec.ofNat 32 index) (destination + BitVec.ofNat 32 last) ∧
      (∀ later < block.length, last < later →
        ¬SameHalfword (destination + BitVec.ofNat 32 index)
          (destination + BitVec.ofNat 32 later)) ∧
      output[index] = block[last]

section Halfwords

variable {destination : U32} {block output : List U8}

theorem touches_iff_sameHalfword {other address : U32} (h : ¬InRam address) :
    Touches other address ↔ Doubles address ∧ SameHalfword other address :=
  ⟨fun htouches => htouches.resolve_right fun hram => h hram.1, Or.inl⟩

/-- The last store that touches a byte. -/
theorem last_touching {other : U32} {index : Nat} (hindex : index < block.length)
    (h : Touches other (destination + BitVec.ofNat 32 index)) :
    ∃ last, last < block.length ∧ Touches other (destination + BitVec.ofNat 32 last) ∧
      ∀ later < block.length, last < later →
        ¬Touches other (destination + BitVec.ofNat 32 later) := by
  obtain ⟨hlast, htouches⟩ := Nat.findGreatest_spec
    (P := fun index => index < block.length ∧ Touches other (destination + BitVec.ofNat 32 index))
    hindex.le ⟨hindex, h⟩
  refine ⟨_, hlast, htouches, fun later hlt hafter htouches' => ?_⟩
  exact Nat.findGreatest_is_greatest hafter hlt.le ⟨hlt, htouches'⟩

/-- Bytes that are stored in whole halfwords make a block. -/
theorem storesBlock_halfwords (memory : MemoryBus) (hlength : block.length ≤ output.length)
    (hrange : BlockRange internalRam destination output.length)
    (hfills : FillsHalfwords destination output.length)
    (hholds : HoldsLast destination block output) :
    StoresBlock memory (memory.storeBytes block destination) destination output := by
  refine ⟨fun index hindex => ?_, fun other hother => ?_, memory.storeBytes_sameOutside _ _⟩
  · obtain ⟨last, hlast, hsame, hlater, heq⟩ := hholds index hindex
    rw [heq]
    have hdoubles := (hfills last (hlast.trans_le hlength)).1
    refine memory.cell_storeBytes hlast (Or.inl ⟨hdoubles, hsame⟩) fun later hlt hafter => ?_
    have hdoubles' := (hfills later (hlt.trans_le hlength)).1
    rw [touches_iff_sameHalfword hdoubles'.not_inRam]
    exact fun htouches => hlater later hlt hafter htouches.2
  · refine memory.cell_storeBytes_of_not fun index hindex htouches => ?_
    have hlt := hindex.trans_le hlength
    obtain ⟨hdoubles, partner, hpartner, hne, hsame⟩ := hfills index hlt
    rw [touches_iff_sameHalfword hdoubles.not_inRam] at htouches
    have hapart : ¬SameCell (destination + BitVec.ofNat 32 index)
        (destination + BitVec.ofNat 32 partner) := hrange.apart hlt hpartner hne.symm
    refine hother partner hpartner (htouches.2.third hsame ?_ hapart)
    exact fun hcell => hother index hlt ⟨hcell.1.symm, hcell.2.symm⟩

/-- A memory with the same byte everywhere. -/
def Filled (memory : MemoryBus) (value : U8) : Prop :=
  ∀ address, Internal address → memory.cell address = value

/-- A block that comes out of byte stores whatever the memory held before is stored in whole
halfwords. -/
theorem halfwords_of_storesBlock {zeros ones : MemoryBus} (hzeros : Filled zeros 0)
    (hones : Filled ones 1) (hlength : block.length ≤ output.length)
    (hrange : BlockRange internalRam destination output.length)
    (hdisplay : ∀ index < output.length, ¬InRam (destination + BitVec.ofNat 32 index))
    (hzero : StoresBlock zeros (zeros.storeBytes block destination) destination output)
    (hone : StoresBlock ones (ones.storeBytes block destination) destination output) :
    FillsHalfwords destination output.length ∧ HoldsLast destination block output := by
  have hinternal : ∀ index < output.length, Internal (destination + BitVec.ofNat 32 index) :=
    fun index hindex => internal_of_mem internalRam_internal (hrange.within index hindex)
  have htouches : ∀ {other : U32} {index : Nat}, index < block.length →
      (Touches other (destination + BitVec.ofNat 32 index) ↔
        Doubles (destination + BitVec.ofNat 32 index) ∧
          SameHalfword other (destination + BitVec.ofNat 32 index)) :=
    fun hindex => touches_iff_sameHalfword (hdisplay _ (hindex.trans_le hlength))
  -- a byte that no store touches has both of the values before
  have hstored : ∀ index < output.length, ∃ place < block.length,
      Touches (destination + BitVec.ofNat 32 index) (destination + BitVec.ofNat 32 place) := by
    intro index hindex
    by_contra hnone
    have huntouched : ∀ place < block.length,
        ¬Touches (destination + BitVec.ofNat 32 index) (destination + BitVec.ofNat 32 place) :=
      fun place hplace h => hnone ⟨place, hplace, h⟩
    have heq := (hzero.stored index hindex).trans (hone.stored index hindex).symm
    rw [zeros.cell_storeBytes_of_not huntouched, ones.cell_storeBytes_of_not huntouched,
      hzeros _ (hinternal index hindex), hones _ (hinternal index hindex)] at heq
    exact absurd heq (by decide)
  -- and a byte that a store touches has the same value in both cases
  have hpartner : ∀ place < block.length, Doubles (destination + BitVec.ofNat 32 place) →
      ∃ other < output.length, other ≠ place ∧
        SameHalfword (destination + BitVec.ofNat 32 other)
          (destination + BitVec.ofNat 32 place) := by
    intro place hplace hdoubles
    obtain ⟨partner, hsame, hapart⟩ := hdoubles.partner
    obtain ⟨last, hlast, htouched, hlater⟩ :=
      last_touching hplace ((htouches hplace).mpr ⟨hdoubles, hsame⟩)
    by_contra hnone
    have hoff : ∀ index < output.length,
        ¬SameCell partner (destination + BitVec.ofNat 32 index) := by
      intro index hindex hcell
      have hback : SameHalfword (destination + BitVec.ofNat 32 index)
          (destination + BitVec.ofNat 32 place) := hcell.sameHalfword.symm.trans hsame
      refine hnone ⟨index, hindex, ?_, hback⟩
      rintro rfl
      exact hapart hcell
    have heq := (hzero.others partner hoff).symm.trans
      ((zeros.cell_storeBytes hlast htouched hlater).trans
        ((ones.cell_storeBytes hlast htouched hlater).symm.trans (hone.others partner hoff)))
    have hpartnerInternal : Internal partner := (hsame.doubles hdoubles).internal
    rw [hzeros _ hpartnerInternal, hones _ hpartnerInternal] at heq
    exact absurd heq (by decide)
  refine ⟨fun index hindex => ?_, fun index hindex => ?_⟩
  · obtain ⟨place, hplace, h⟩ := hstored index hindex
    obtain ⟨hdoubles, hsame⟩ := (htouches hplace).mp h
    refine ⟨hsame.doubles hdoubles, ?_⟩
    by_cases hne : place = index
    · subst hne
      exact hpartner place hplace hdoubles
    · exact ⟨place, hplace.trans_le hlength, hne, hsame.symm⟩
  · obtain ⟨place, hplace, h⟩ := hstored index hindex
    obtain ⟨last, hlast, htouched, hlater⟩ := last_touching hplace h
    refine ⟨last, hlast, ((htouches hlast).mp htouched).2, fun later hlt hafter hsame => ?_, ?_⟩
    · have hdoubles := hsame.symm.doubles
        (((htouches hlast).mp htouched).2.doubles ((htouches hlast).mp htouched).1)
      exact hlater later hlt hafter ((htouches hlt).mpr ⟨hdoubles, hsame⟩)
    · exact (hzero.stored index hindex).symm.trans (zeros.cell_storeBytes hlast htouched hlater)

/-- Where every byte is stored, the bytes of a halfword hold the upper one of its stores. -/
theorem holdsLast_iff (hlength : block.length = output.length)
    (hrange : BlockRange internalRam destination output.length)
    (hfills : FillsHalfwords destination output.length) :
    HoldsLast destination block output ↔
      ∀ second < output.length, ∀ first < second,
        SameHalfword (destination + BitVec.ofNat 32 first)
            (destination + BitVec.ofNat 32 second) →
          output.getD first 0 = block.getD second 0 ∧
            output.getD second 0 = block.getD second 0 := by
  constructor
  · intro h second hsecond first hlt hsame
    have hfirst := hlt.trans hsecond
    have hvalue : ∀ index < output.length, index = first ∨ index = second →
        output.getD index 0 = block.getD second 0 := by
      intro index hindex hcase
      obtain ⟨last, hlast, hlastSame, hlater, heq⟩ := h index hindex
      have hsecondSame : SameHalfword (destination + BitVec.ofNat 32 index)
          (destination + BitVec.ofNat 32 second) := by
        rcases hcase with rfl | rfl
        · exact hsame
        · exact ⟨rfl, rfl⟩
      have hlastEq : last = second := by
        by_contra hne
        have hle : second ≤ last := by
          by_contra hbefore
          exact hlater second (hlength ▸ hsecond) (Nat.not_le.mp hbefore) hsecondSame
        exact hrange.not_third hsecond hfirst (hlength ▸ hlast) (by omega) (by omega) (by omega)
          hsame (hlastSame.symm.trans hsecondSame)
      subst hlastEq
      rw [List.getD_eq_getElem _ _ hindex, List.getD_eq_getElem _ _ hlast]
      exact heq
    exact ⟨hvalue first hfirst (Or.inl rfl), hvalue second hsecond (Or.inr rfl)⟩
  · intro h index hindex
    obtain ⟨-, other, hother, hne, hsame⟩ := hfills index hindex
    rcases Nat.lt_or_gt_of_ne hne with hlt | hlt
    · have hvalue := (h index hindex other hlt hsame).2
      rw [List.getD_eq_getElem _ _ hindex, List.getD_eq_getElem _ _ (hlength ▸ hindex)] at hvalue
      refine ⟨index, hlength ▸ hindex, ⟨rfl, rfl⟩, fun later hlater hafter hsame' => ?_, hvalue⟩
      exact hrange.not_third hindex hother (hlength ▸ hlater) (by omega) (by omega) (by omega)
        hsame hsame'.symm
    · have hvalue := (h other hother index hlt hsame.symm).1
      rw [List.getD_eq_getElem _ _ hindex, List.getD_eq_getElem _ _ (hlength ▸ hother)] at hvalue
      refine ⟨other, hlength ▸ hother, hsame.symm, fun later hlater hafter hsame' => ?_, hvalue⟩
      exact hrange.not_third hindex hother (hlength ▸ hlater) (by omega) (by omega) (by omega)
        hsame hsame'.symm

/-- An output of whole halfwords of which at most the first half is stored has one halfword. -/
theorem length_eq_two_of_holdsLast (hrange : BlockRange internalRam destination output.length)
    (hfills : FillsHalfwords destination output.length)
    (hholds : HoldsLast destination block output) (hsome : 0 < output.length)
    (hhalf : 2 * block.length ≤ output.length + 1) : output.length = 2 := by
  have hadjacent := fun {first second : Nat} => @BlockRange.adjacent destination output.length hrange
    (fun index hindex => (hfills index hindex).1) first second
  have hreached : ∀ index < output.length, ∃ last < block.length,
      SameHalfword (destination + BitVec.ofNat 32 last) (destination + BitVec.ofNat 32 index) := by
    intro index hindex
    obtain ⟨last, hlast, hsame, -⟩ := hholds index hindex
    exact ⟨last, hlast, hsame.symm⟩
  obtain ⟨-, partner, hpartner, hpartnerNe, hpartnerSame⟩ := hfills 0 hsome
  have hshort : block.length < output.length := by omega
  -- the first byte after the stored ones shares a halfword with the last of them
  obtain ⟨last, hlast, hsame⟩ := hreached block.length hshort
  have hfull : output.length = block.length + 1 := by
    by_contra hmore
    obtain ⟨other, hother, hsame'⟩ := hreached (block.length + 1) (by omega)
    have hnext := hadjacent hlast hshort hsame
    have hnext' := hadjacent (by omega) (by omega) hsame'
    omega
  by_contra htwo
  -- three bytes are not whole halfwords
  have hthree : block.length = 2 := by omega
  have hlastOne : last = 1 := by
    have hnext := hadjacent hlast hshort hsame
    omega
  have hpartnerOne : partner = 1 := by
    have hnext := hadjacent (Nat.pos_of_ne_zero hpartnerNe) hpartner hpartnerSame.symm
    omega
  rw [hthree, hlastOne] at hsame
  rw [hpartnerOne] at hpartnerSame
  have hone : 1 < output.length := by omega
  have htwo' : 2 < output.length := by omega
  exact hrange.not_third hone hsome htwo' (by decide) (by decide) (by decide) hpartnerSame.symm
    hsame.symm

end Halfwords

/-! ## Bytes that are alike -/

/-- A byte of what the BIOS unpacks from units of a byte. -/
def biosByte (info : BitUnpackInfo) (source : List U8) (index : Nat) : U8 :=
  let size := info.destBitNum.toNat / 8
  byte (offsetUnit info.dataOffset ((source.getD (index / size) 0).setWidth 32)) (index % size)

/-- A byte of these units with the whole offset word. -/
def wholeByte (info : BitUnpackInfo) (source : List U8) (index : Nat) : U8 :=
  let size := info.destBitNum.toNat / 8
  byte ((source.getD (index / size) 0).setWidth 32 + info.dataOffset) (index % size)

/-- The unit in a slot of a byte that is filled from the high bits downward with the highest unit of
the first byte, and with the one below it if there are two bytes. -/
def slotUnit (info : BitUnpackInfo) (source : List U8) (slot : Nat) : U32 :=
  let width := info.srcBitNum.toNat
  let slots := 8 / info.destBitNum.toNat
  let unit (index : Nat) := sourceUnit width (source.headD 0) (8 / width - index) + info.dataOffset
  if slot + 1 = slots then unit 1
  else if slot + 2 = slots ∧ source.length = 2 then unit 2
  else 0

/-- The headers and sources that come out in halfwords of display memory as the BIOS unpacks
them. -/
def DoubledAlike (info : BitUnpackInfo) (source : List U8) (destination : U32) : Prop :=
  FillsHalfwords destination (outputLength info) ∧
    if info.srcBitNum = 8 then
      ∀ second < outputLength info, ∀ first < second,
        SameHalfword (destination + BitVec.ofNat 32 first)
            (destination + BitVec.ofNat 32 second) →
          biosByte info source first = wholeByte info source second ∧
            biosByte info source second = wholeByte info source second
    else
      outputLength info = 2 ∧ ∀ slot < 2 * (8 / info.destBitNum.toNat),
        (offsetUnit info.dataOffset
          ((sourceUnits info.srcBitNum.toNat source).getD slot 0)).setWidth info.destBitNum.toNat =
        (slotUnit info source (slot % (8 / info.destBitNum.toNat))).setWidth info.destBitNum.toNat

instance doubledAlike_decidable (info : BitUnpackInfo) (source : List U8) (destination : U32) :
    Decidable (DoubledAlike info source destination) := by
  unfold DoubledAlike
  infer_instance

section Alike

variable {info : BitUnpackInfo} {start destination : U32} {source : List U8}

theorem getD_lowBytes_map (f : U8 → U32) {size index : Nat}
    (hindex : index < source.length * size) :
    (lowBytes size (source.map f)).getD index 0 =
      byte (f (source.getD (index / size) 0)) (index % size) := by
  have hpos : 0 < size := by
    by_contra hzero
    rw [Nat.eq_zero_of_not_pos hzero] at hindex
    exact Nat.not_lt_zero _ hindex
  have hunit : index / size < source.length := Nat.div_lt_of_lt_mul (by rwa [Nat.mul_comm])
  have hget := @getD_lowBytes _ (source.map f) size (index / size) (index % size)
    (by rwa [List.length_map]) (Nat.mod_lt _ hpos)
  rw [Nat.div_add_mod'] at hget
  rw [hget, List.getD_eq_getElem _ _ (by rwa [List.length_map]), List.getElem_map,
    List.getD_eq_getElem _ _ hunit]

theorem outputLength_wide (hlength : source.length = info.length.toNat)
    (height : info.srcBitNum = 8) {size : Nat} (hsize : info.destBitNum.toNat = 8 * size) :
    outputLength info = source.length * size := by
  unfold outputLength
  rw [height, hsize, hlength]
  show info.length.toNat * (8 / 8) * (8 * size) / 8 = _
  rw [Nat.mul_one, Nat.mul_left_comm, Nat.mul_div_cancel_left _ (by decide)]

/-- Units of a byte come out of halfwords where both bytes are the upper one. -/
theorem holdsLast_wide_iff (hwidths : SupportedWidths info)
    (hlength : source.length = info.length.toNat) (height : info.srcBitNum = 8)
    (hrange : BlockRange internalRam destination (outputLength info))
    (hfills : FillsHalfwords destination (outputLength info)) :
    (∃ output, Packed info.destBitNum.toNat
        ((sourceUnits info.srcBitNum.toNat source).map (offsetUnit info.dataOffset)) output ∧
      HoldsLast destination (serviceOutput info start source) output) ↔
      ∀ second < outputLength info, ∀ first < second,
        SameHalfword (destination + BitVec.ofNat 32 first)
            (destination + BitVec.ofNat 32 second) →
          biosByte info source first = wholeByte info source second ∧
            biosByte info source second = wholeByte info source second := by
  obtain ⟨size, hsize, hpos, hservice⟩ :=
    @serviceOutput_wide info start source hwidths hlength height
  have hdiv : info.destBitNum.toNat / 8 = size := by omega
  have htotal := outputLength_wide hlength height hsize
  obtain ⟨output, houtput⟩ : ∃ output, output = lowBytes size
      (source.map fun value => offsetUnit info.dataOffset (value.setWidth 32)) := ⟨_, rfl⟩
  have hpacked : Packed info.destBitNum.toNat
      ((sourceUnits info.srcBitNum.toNat source).map (offsetUnit info.dataOffset)) output := by
    rw [sourceUnits_wide height, hsize, houtput]
    exact packed_lowBytes size _
  have hunique : (∃ output, Packed info.destBitNum.toNat
        ((sourceUnits info.srcBitNum.toNat source).map (offsetUnit info.dataOffset)) output ∧
      HoldsLast destination (serviceOutput info start source) output) ↔
      HoldsLast destination (serviceOutput info start source) output :=
    ⟨fun ⟨_, hother, h⟩ => hother.unique hpacked ▸ h, fun h => ⟨output, hpacked, h⟩⟩
  have hfull : output.length = outputLength info := by
    rw [houtput, length_lowBytes, List.length_map, htotal]
  have hsame : (serviceOutput info start source).length = output.length := by
    rw [hservice, houtput, length_lowBytes, length_lowBytes, List.length_map, List.length_map]
  have hbios : ∀ index < outputLength info, output.getD index 0 = biosByte info source index := by
    intro index hindex
    unfold biosByte
    rw [houtput, getD_lowBytes_map _ (htotal ▸ hindex), hdiv]
  have hwhole : ∀ index < outputLength info,
      (serviceOutput info start source).getD index 0 = wholeByte info source index := by
    intro index hindex
    unfold wholeByte
    rw [hservice, getD_lowBytes_map _ (htotal ▸ hindex), hdiv]
  rw [← hfull] at hrange hfills
  rw [hunique, holdsLast_iff hsame hrange hfills, hfull]
  refine forall₂_congr fun second hsecond => forall₂_congr fun first hlt => ?_
  rw [hbios first (hlt.trans hsecond), hbios second hsecond, hwhole second hsecond]

/-- For units of less than a byte the service stores at most the first half of the output. -/
theorem serviceOutput_length_half (hwidths : SupportedWidths info) (hnarrow : info.srcBitNum ≠ 8)
    (hsome : 0 < info.length.toNat) :
    0 < outputLength info ∧
      2 * (serviceOutput info start source).length ≤ outputLength info + 1 := by
  obtain ⟨hsource, hdestination, hle⟩ := widths_toNat hwidths
  have hne : info.srcBitNum.toNat ≠ 8 := fun h => hnarrow (BitVec.eq_of_toNat_eq h)
  rw [serviceOutput_length hwidths]
  unfold outputLength
  rcases hsource with h | h | h | h <;> rw [h] at hle hne ⊢ <;>
    rcases hdestination with h' | h' | h' | h' | h' | h' <;> rw [h'] at hle ⊢ <;> simp <;> omega

/-- Where a slot of a byte lies. -/
theorem slot_place {width slot lane : Nat} (hwidth : width = 1 ∨ width = 2 ∨ width = 4)
    (hslot : slot < 8 / width) (hlane : lane < width) :
    slot * width + lane < 8 ∧
      (slot + 1 = 8 / width → slot * width + lane = 8 - width + lane) ∧
      (slot + 1 ≠ 8 / width → slot * width + lane < 8 - width) ∧
      (slot + 2 = 8 / width → slot * width + lane = 8 - 2 * width + lane) ∧
      (slot + 1 ≠ 8 / width → slot + 2 ≠ 8 / width → slot * width + lane < 8 - 2 * width) := by
  rcases hwidth with rfl | rfl | rfl <;> simp only [Nat.reduceDiv] at hslot ⊢ <;> omega

/-- Two bytes are made of one byte with units of twice its width, or of two with units as wide. -/
theorem outputLength_two (hwidths : SupportedWidths info) (hnarrow : info.srcBitNum ≠ 8)
    (htwo : outputLength info = 2) :
    (info.srcBitNum.toNat = 1 ∨ info.srcBitNum.toNat = 2 ∨ info.srcBitNum.toNat = 4) ∧
      (info.length.toNat = 1 ∧ info.destBitNum.toNat = 2 * info.srcBitNum.toNat ∨
        info.length.toNat = 2 ∧ info.destBitNum.toNat = info.srcBitNum.toNat) := by
  obtain ⟨hsource, hdestination, hle⟩ := widths_toNat hwidths
  have hsource' : info.srcBitNum.toNat = 1 ∨ info.srcBitNum.toNat = 2 ∨
      info.srcBitNum.toNat = 4 := by
    rcases hsource with h | h | h | h
    · exact .inl h
    · exact .inr (.inl h)
    · exact .inr (.inr h)
    · exact absurd (BitVec.eq_of_toNat_eq h) hnarrow
  refine ⟨hsource', ?_⟩
  unfold outputLength at htwo
  rcases hsource' with h | h | h <;> rw [h] at htwo hle ⊢ <;>
    rcases hdestination with h' | h' | h' | h' | h' | h' <;> rw [h'] at htwo hle ⊢ <;>
    simp at htwo hle ⊢ <;> omega

/-- Units of less than a byte make a halfword from one stored byte. -/
theorem serviceOutput_pair (hwidths : SupportedWidths info)
    (hlength : source.length = info.length.toNat) (hnarrow : info.srcBitNum ≠ 8)
    (htwo : outputLength info = 2) :
    ∃ stored, serviceOutput info start source = [stored] ∧
      ∀ slot < 8 / info.destBitNum.toNat, ∀ lane < info.destBitNum.toNat,
        stored.getLsbD (slot * info.destBitNum.toNat + lane) =
          (slotUnit info source slot).getLsbD lane := by
  obtain ⟨hsource, hcase⟩ := outputLength_two hwidths hnarrow htwo
  have hne {width : U8} (h : info.destBitNum.toNat ≠ width.toNat) : ¬info.destBitNum = width :=
    fun heq => h (congrArg BitVec.toNat heq)
  have height : (8 : U8).toNat = 8 := rfl
  have hsixteen : (16 : U8).toNat = 16 := rfl
  have hword : (32 : U8).toNat = 32 := rfl
  have hnone : ∀ lane, (0 : U32).getLsbD lane = false := fun lane => BitVec.getLsbD_zero
  -- two output bytes: one source byte at twice the width, or two source bytes at the same width
  rcases hcase with ⟨hone, hdouble⟩ | ⟨hpair, hsame⟩
  · obtain ⟨value, rfl⟩ := List.length_eq_one_iff.mp (hlength.trans hone)
    have hunits : serviceUnits info start [value] =
        [sourceUnit info.srcBitNum.toNat value (8 / info.srcBitNum.toNat - 1) +
          info.dataOffset] := by
      unfold serviceUnits
      rw [hone, units_single hsource rfl rfl]
      rfl
    unfold serviceOutput
    rw [hunits]
    by_cases hfull : info.destBitNum = 8
    · rw [if_pos hfull]
      refine ⟨_, rfl, fun slot hslot lane hlane => ?_⟩
      rw [hfull, height] at hslot hlane ⊢
      obtain rfl : slot = 0 := by omega
      unfold slotUnit
      dsimp only
      rw [hfull, if_pos (show 0 + 1 = 8 / (8 : U8).toNat by decide), getLsbD_byte _ 0 (by omega)]
      simp only [Nat.zero_mul, Nat.zero_add]
      rfl
    · have hfull' : info.destBitNum.toNat ≠ 8 := fun h => hfull (BitVec.eq_of_toNat_eq h)
      have hwidth : info.destBitNum.toNat = 1 ∨ info.destBitNum.toNat = 2 ∨
          info.destBitNum.toNat = 4 := by omega
      obtain ⟨stored, hstored, hbits⟩ := packedBytes_single hwidth
        (sourceUnit info.srcBitNum.toNat value (8 / info.srcBitNum.toNat - 1) + info.dataOffset)
      rw [if_neg hfull, if_neg (hne (by omega)), if_neg (hne (by omega))]
      refine ⟨stored, hstored, fun slot hslot lane hlane => ?_⟩
      obtain ⟨hlt, htop, hbelow, -, -⟩ := slot_place hwidth hslot hlane
      rw [hbits _ hlt]
      unfold slotUnit
      dsimp only
      -- a lone unit lands in the top slot, and the slots below it stay 0
      by_cases hlast : slot + 1 = 8 / info.destBitNum.toNat
      · rw [if_pos hlast, htop hlast, decide_eq_true (Nat.le_add_right _ _),
          Nat.add_sub_cancel_left, Bool.true_and]
        rfl
      · rw [if_neg hlast, decide_eq_false (Nat.not_le.mpr (hbelow hlast)),
          if_neg (fun h => absurd h.2 (show ¬1 = 2 by decide)), hnone, Bool.false_and]
  · obtain ⟨first, second, rfl⟩ := List.length_eq_two.mp (hlength.trans hpair)
    have hwidth : info.destBitNum.toNat = 1 ∨ info.destBitNum.toNat = 2 ∨
        info.destBitNum.toNat = 4 := by omega
    obtain ⟨stored, hstored, hbits⟩ := packedBytes_double hwidth
      (sourceUnit info.srcBitNum.toNat first (8 / info.srcBitNum.toNat - 1) + info.dataOffset)
      (sourceUnit info.srcBitNum.toNat first (8 / info.srcBitNum.toNat - 2) + info.dataOffset)
    have hunits : serviceUnits info start [first, second] =
        [sourceUnit info.srcBitNum.toNat first (8 / info.srcBitNum.toNat - 1) + info.dataOffset,
          sourceUnit info.srcBitNum.toNat first (8 / info.srcBitNum.toNat - 2) +
            info.dataOffset] := by
      unfold serviceUnits
      rw [hpair, units_double hsource rfl rfl]
      rfl
    unfold serviceOutput
    rw [hunits, if_neg (hne (by omega)), if_neg (hne (by omega)), if_neg (hne (by omega))]
    refine ⟨stored, hstored, fun slot hslot lane hlane => ?_⟩
    obtain ⟨hlt, htop, hbelow, hnext, hrest⟩ := slot_place hwidth hslot hlane
    rw [hbits _ hlt]
    unfold slotUnit
    dsimp only
    by_cases hlast : slot + 1 = 8 / info.destBitNum.toNat
    · rw [if_pos hlast, htop hlast, if_pos (Nat.le_add_right _ _), Nat.add_sub_cancel_left]
      rfl
    rw [if_neg hlast, if_neg (Nat.not_le.mpr (hbelow hlast))]
    by_cases hsecond : slot + 2 = 8 / info.destBitNum.toNat
    · rw [if_pos ⟨hsecond, rfl⟩, hnext hsecond, decide_eq_true (Nat.le_add_right _ _),
        Nat.add_sub_cancel_left, Bool.true_and]
      rfl
    · rw [if_neg fun h => hsecond h.1,
        decide_eq_false (Nat.not_le.mpr (hrest hlast hsecond)), hnone, Bool.false_and]

/-- Units of less than a byte come out of a halfword where the BIOS unpacks the stored byte
twice. -/
theorem holdsLast_pair_iff (hwidths : SupportedWidths info)
    (hlength : source.length = info.length.toNat) (hnarrow : info.srcBitNum ≠ 8)
    (hrange : BlockRange internalRam destination (outputLength info))
    (hfills : FillsHalfwords destination (outputLength info)) (hsome : source ≠ []) :
    (∃ output, Packed info.destBitNum.toNat
        ((sourceUnits info.srcBitNum.toNat source).map (offsetUnit info.dataOffset)) output ∧
      HoldsLast destination (serviceOutput info start source) output) ↔
      outputLength info = 2 ∧ ∀ slot < 2 * (8 / info.destBitNum.toNat),
        (offsetUnit info.dataOffset
          ((sourceUnits info.srcBitNum.toNat source).getD slot 0)).setWidth info.destBitNum.toNat =
        (slotUnit info source (slot % (8 / info.destBitNum.toNat))).setWidth
          info.destBitNum.toNat := by
  have hpositive : 0 < info.length.toNat := hlength ▸ List.length_pos_iff.mpr hsome
  -- both bytes of a stored halfword equal the last byte of the output,
  -- so a block of two bytes compares each slot with the slot of that byte
  have hpair : outputLength info = 2 → ∀ stored : U8,
      (∀ slot < 8 / info.destBitNum.toNat, ∀ lane < info.destBitNum.toNat,
        stored.getLsbD (slot * info.destBitNum.toNat + lane) =
          (slotUnit info source slot).getLsbD lane) →
      (Packed info.destBitNum.toNat
          ((sourceUnits info.srcBitNum.toNat source).map (offsetUnit info.dataOffset))
          [stored, stored] ↔
        ∀ slot < 2 * (8 / info.destBitNum.toNat),
          (offsetUnit info.dataOffset
            ((sourceUnits info.srcBitNum.toNat source).getD slot 0)).setWidth
              info.destBitNum.toNat =
          (slotUnit info source (slot % (8 / info.destBitNum.toNat))).setWidth
            info.destBitNum.toNat) := by
    intro htwo stored hstored
    obtain ⟨hsource, hcase⟩ := outputLength_two hwidths hnarrow htwo
    obtain ⟨count, hcount⟩ : ∃ count, count = 8 / info.destBitNum.toNat := ⟨_, rfl⟩
    have hwhole : count * info.destBitNum.toNat = 8 := by
      rw [hcount]
      rcases hsource with h | h | h <;> rcases hcase with ⟨-, h'⟩ | ⟨-, h'⟩ <;> rw [h', h]
    have hunits : ((sourceUnits info.srcBitNum.toNat source).map
        (offsetUnit info.dataOffset)).length = 2 * count := by
      rw [List.length_map, length_sourceUnits, hlength, hcount]
      rcases hsource with h | h | h <;> rcases hcase with ⟨hone, h'⟩ | ⟨htwo, h'⟩ <;>
        rw [h', h] <;> simp only [*]
    rw [← hcount] at hstored ⊢
    rw [Packed.twice_iff stored hwhole hunits]
    refine forall₂_congr fun slot hslot => ?_
    have hmod : slot % count < count := Nat.mod_lt _ (by omega)
    have hget : ((sourceUnits info.srcBitNum.toNat source).map (offsetUnit info.dataOffset)).getD
        slot 0 = offsetUnit info.dataOffset
          ((sourceUnits info.srcBitNum.toNat source).getD slot 0) := by
      have hslot' := hunits ▸ hslot
      rw [List.getD_eq_getElem _ _ hslot', List.getElem_map, List.getD_eq_getElem _ _
        (by rwa [List.length_map] at hslot')]
    rw [hget, setWidth_eq_iff]
    refine forall₂_congr fun lane hlane => ?_
    rw [hstored _ hmod lane hlane, eq_comm]
  constructor
  · rintro ⟨output, hpacked, hholds⟩
    have hfull : output.length = outputLength info := packed_length hlength hpacked
    obtain ⟨hpositive', hhalf⟩ :=
      @serviceOutput_length_half info start source hwidths hnarrow hpositive
    have htwo : outputLength info = 2 := by
      rw [← hfull] at hrange hfills hpositive' hhalf ⊢
      exact length_eq_two_of_holdsLast hrange hfills hholds hpositive' hhalf
    obtain ⟨stored, hservice, hstored⟩ :=
      @serviceOutput_pair info start source hwidths hlength hnarrow htwo
    refine ⟨htwo, (hpair htwo stored hstored).mp ?_⟩
    rw [hservice] at hholds
    have hall : ∀ index (hindex : index < output.length), output[index] = stored := by
      intro index hindex
      obtain ⟨last, hlast, -, -, heq⟩ := hholds index hindex
      obtain rfl : last = 0 := Nat.lt_one_iff.mp hlast
      exact heq
    obtain ⟨first, second, rfl⟩ := List.length_eq_two.mp (hfull.trans htwo)
    have hfirst : first = stored := hall 0 (Nat.succ_pos 1)
    have hsecond : second = stored := hall 1 (Nat.lt_succ_self 1)
    rwa [hfirst, hsecond] at hpacked
  · rintro ⟨htwo, hslots⟩
    obtain ⟨stored, hservice, hstored⟩ :=
      @serviceOutput_pair info start source hwidths hlength hnarrow htwo
    refine ⟨[stored, stored], (hpair htwo stored hstored).mpr hslots, ?_⟩
    rw [hservice]
    rw [htwo] at hfills
    obtain ⟨-, partner, hpartner, hne, hsame⟩ := hfills 0 (by decide)
    obtain rfl : partner = 1 := by omega
    intro index hindex
    refine ⟨0, Nat.one_pos, ?_, fun later hlater hafter => ?_, ?_⟩
    · rcases (by simp at hindex; omega : index = 0 ∨ index = 1) with rfl | rfl
      · exact ⟨rfl, rfl⟩
      · exact hsame
    · exact absurd hlater (by simp; omega)
    · rcases (by simp at hindex; omega : index = 0 ∨ index = 1) with rfl | rfl <;> rfl

end Alike

end Gba.Core
