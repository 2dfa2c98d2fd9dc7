import Gba.Core.UnpackedStores

/-!
# Calls of the bit unpacking service

For which headers, sources and destinations `hle_bit_unpack` does what the BIOS does, in any of the
memories. Whether a call stores whole units or bytes depends on the memory, on the width of its
units and on its destination only. That nothing else is unpacked as in the BIOS is shown on a
cartridge with the header and the source, whose console holds one byte everywhere before the call.
-/

namespace Gba.Core

open LittleEndian Library

/-! ## How a call stores its output -/

/-- The stores of a call arrive as they are: in work RAM, and as aligned halfwords and words. -/
def StoredWhole (info : BitUnpackInfo) (destination : U32) : Prop :=
  InRam destination ∨ info.destBitNum = 16 ∧ destination.toNat % 2 = 0 ∨
    info.destBitNum = 32 ∧ destination.toNat % 4 = 0

instance storedWhole_decidable (info : BitUnpackInfo) (destination : U32) :
    Decidable (StoredWhole info destination) := by
  unfold StoredWhole
  infer_instance

/-- The headers, sources and destinations that the service serves as the BIOS does. -/
def UnpackedAt (info : BitUnpackInfo) (source : List U8) (destination : U32) : Prop :=
  source = [] ∨
    if StoredWhole info destination then UnpackedAlike info source
    else DoubledAlike info source destination

/-- The pages of work RAM are followed by a page without memory. -/
theorem BlockRange.inRam_iff {address : U32} {count : Nat}
    (h : BlockRange internalRam address count) {index : Nat} (hindex : index < count) :
    InRam (address + BitVec.ofNat 32 index) ↔ InRam address := by
  have hplace : ∀ place < count, (address + BitVec.ofNat 32 place).toNat = address.toNat + place :=
    fun place => h.offset_toNat internalRam_internal
  have hinternal : ∀ place < count, (address.toNat + place) / 2 ^ 24 ≠ 4 := by
    intro place hlt
    rw [← hplace place hlt]
    exact BusState.Internal.page_ne (internal_of_mem internalRam_internal (h.within place hlt))
  have hpages : ∀ place < count, 2 ≤ (address.toNat + place) / 2 ^ 24 := by
    intro place hlt
    have hmem := internal_of_mem internalRam_internal (h.within place hlt)
    have hregion : (classify (address + BitVec.ofNat 32 place)).region.internal = true := hmem
    rw [← hplace place hlt, hmem.page]
    generalize (classify (address + BitVec.ofNat 32 place)).region = region at hregion ⊢
    cases region <;> first | contradiction | decide
  rw [Gba.Core.inRam_iff, Gba.Core.inRam_iff, hplace index hindex]
  have hfirst := hpages 0 (by omega)
  have hlast := hpages index hindex
  constructor
  · intro hram
    omega
  · intro hram
    by_contra hout
    exact hinternal (4 * 2 ^ 24 - address.toNat) (by omega) (by omega)

namespace MemoryBus

theorem storeBlock_sameOutside (memory : MemoryBus) (block : List U8) (address : U32) :
    memory.SameOutside (memory.storeBlock block address) := by
  induction block generalizing memory address with
  | nil => rfl
  | cons value rest ih => exact (setCellAt_sameOutside _ _ _).trans (ih _ _)

end MemoryBus

section Stores

variable {info : BitUnpackInfo} {destination : U32} {total : Nat}

theorem BlockRange.lanes {regions : List Region} (h : BlockRange regions destination total)
    {start count : Nat} (hfits : start + count ≤ total) :
    ∀ lane < count, (classify (destination + BitVec.ofNat 32 start +
      BitVec.ofNat 32 lane)).region ∈ regions :=
  (h.sub hfits).within

/-- Stores that arrive as they are. -/
theorem storedBy_whole (hrange : BlockRange internalRam destination total)
    (hwhole : StoredWhole info destination) :
    StoredBy MemoryBus.storeBlock info destination total fun other =>
      ∀ place < total, ¬SameCell other (destination + BitVec.ofNat 32 place) where
  empty _ _ := rfl
  append := MemoryBus.storeBlock_append
  outside := MemoryBus.storeBlock_sameOutside
  others memory block start other hfits hspared _ := by
    refine (memory.storesBlock internalRam_internal (hrange.sub hfits)).others other ?_
    intro place hplace
    rw [← offset_add]
    exact hspared (start + place) (by omega)
  bytes hnarrow system value index hindex := by
    have hram : InRam destination := by
      refine hwhole.resolve_right ?_
      rintro (⟨h, -⟩ | ⟨h, -⟩)
      · rw [h] at hnarrow
        exact absurd hnarrow (by decide)
      · rw [h] at hnarrow
        exact absurd hnarrow (by decide)
    exact write8_workRam system ((hrange.inRam_iff hindex).mpr hram) value
  halfwords hwidth system value index hindex := by
    have hlanes : ∀ lane < 2, Internal (destination + BitVec.ofNat 32 (index * 2) +
        BitVec.ofNat 32 lane) :=
      fun lane hlane => internal_of_mem internalRam_internal (hrange.lanes hindex lane hlane)
    have hplace := hrange.offset_toNat internalRam_internal (show index * 2 < total by omega)
    rcases hwhole with hram | ⟨-, heven⟩ | ⟨h, -⟩
    · refine write16_ram system (fun lane hlane => ?_) value
      rw [← offset_add]
      exact (hrange.inRam_iff (by omega)).mpr hram
    · have hinternal := hlanes 0 (by decide)
      rw [offset_zero] at hinternal
      rw [BusState.write16_cells system hinternal (by omega),
        MemoryBus.writeCells_eq_storeBlock]
      refine congrArg (fun block => (true, system.withMemory (system.memory.storeBlock block _)))
        (List.map_congr_left fun lane hlane => byte_setWidth value ?_)
      have hlt := List.mem_range.mp hlane
      omega
    · rw [hwidth] at h
      exact absurd h (by decide)
  words hwidth system value index hindex := by
    have hplace := hrange.offset_toNat internalRam_internal (show index * 4 < total by omega)
    rcases hwhole with hram | ⟨h, -⟩ | ⟨-, haligned⟩
    · refine write32_block system (fun lane hlane => ?_) value
      rw [← offset_add]
      exact (hrange.inRam_iff (by omega)).mpr hram
    · rw [hwidth] at h
      exact absurd h (by decide)
    · have hinternal := internal_of_mem internalRam_internal
        (hrange.within (index * 4) (by omega))
      rw [BusState.write32_cells system hinternal (by omega),
        MemoryBus.writeCells_eq_storeBlock]

/-- Stores that are byte stores. -/
theorem storedBy_bytes (hrange : BlockRange internalRam destination total)
    (hwhole : ¬StoredWhole info destination) :
    StoredBy MemoryBus.storeBytes info destination total fun other =>
      ∀ place < total, ¬Touches other (destination + BitVec.ofNat 32 place) where
  empty _ _ := rfl
  append := MemoryBus.storeBytes_append
  outside := MemoryBus.storeBytes_sameOutside
  others memory block start other hfits hspared _ := by
    refine memory.cell_storeBytes_of_not fun place hplace => ?_
    rw [← offset_add]
    exact hspared (start + place) (by omega)
  bytes _ system value index hindex :=
    write8_internal system (internal_of_mem internalRam_internal (hrange.within index hindex)) value
  halfwords hwidth system value index hindex := by
    have hplace := hrange.offset_toNat internalRam_internal (show index * 2 < total by omega)
    refine write16_odd system (fun lane hlane => ?_) ?_ value
    · exact internal_of_mem internalRam_internal (hrange.lanes hindex lane hlane)
    · have hodd : destination.toNat % 2 ≠ 0 := fun h => hwhole (.inr (.inl ⟨hwidth, h⟩))
      omega
  words hwidth system value index hindex := by
    have hplace := hrange.offset_toNat internalRam_internal (show index * 4 < total by omega)
    refine write32_unaligned system (fun lane hlane => ?_) ?_ value
    · exact internal_of_mem internalRam_internal (hrange.lanes hindex lane hlane)
    · have hunaligned : destination.toNat % 4 ≠ 0 := fun h => hwhole (.inr (.inr ⟨hwidth, h⟩))
      omega

/-- Without units nothing is stored. -/
theorem storedBy_none : StoredBy MemoryBus.storeBlock info destination 0 fun _ => True where
  empty _ _ := rfl
  append := MemoryBus.storeBlock_append
  outside := MemoryBus.storeBlock_sameOutside
  others memory block start other hfits _ _ := by
    rw [List.length_eq_zero_iff.mp (by omega : block.length = 0)]
    rfl
  bytes _ _ _ _ hindex := absurd hindex (Nat.not_lt_zero _)
  halfwords _ _ _ _ hindex := absurd hindex (by omega)
  words _ _ _ _ hindex := absurd hindex (by omega)

end Stores

/-! ## Calls for every header -/

/-- The bytes of a header. -/
def infoBytes (info : BitUnpackInfo) : List U8 :=
  (List.range 2).map (byte info.length) ++ [info.srcBitNum, info.destBitNum] ++
    (List.range 4).map (byte info.dataOffset)

/-- A cartridge with a header and a source, and memories that are filled with a byte. -/
def unpackSystem (info : BitUnpackInfo) (source : List U8) (filled : U8) : System :=
  ⟨{ MemoryBus.initial with
      gamePakRom := infoBytes info ++ source
      ewram := fun _ => filled
      iwram := fun _ => filled
      palette := fun _ => filled
      vram := fun _ => filled
      oam := fun _ => filled }, .reset⟩

/-- The registers of a call for the cartridge. -/
def unpackCpu (destination : U32) : Arm7tdmi :=
  ((Arm7tdmi.reset.setRegister 0 0x08000008).setRegister 1 destination).setRegister 2 0x08000000

section Cartridge

variable {info : BitUnpackInfo} {source : List U8} {destination : U32} (filled : U8)

theorem unpackSystem_placed (hlength : source.length = info.length.toNat) :
    Placed (unpackSystem info source filled) 0x08000000#32 (infoBytes info ++ source) := by
  have hlt := info.length.isLt
  refine @placed_rom (unpackSystem info source filled) ?_
  show (infoBytes info ++ source).length ≤ 2 ^ 25
  rw [List.length_append, hlength]
  show 8 + _ ≤ _
  omega

theorem unpackSystem_header (hlength : source.length = info.length.toNat) :
    readBitUnpackInfo 0x08000000#32 (unpackSystem info source filled) = some info := by
  obtain ⟨hheader, -⟩ := placed_append.mp (unpackSystem_placed filled hlength)
  have hread : ∀ index (hindex : index < 8), (unpackSystem info source filled).read8 ioCallbacks
      (0x08000000#32 + BitVec.ofNat 32 index) = some ((infoBytes info).get ⟨index, hindex⟩) :=
    fun index hindex => hheader index hindex
  have hopen : ¬(unpackSystem info source filled).memory.gamePakRom.length ≤
      (classify 0x08000004#32).offset.toNat := by
    show ¬(infoBytes info ++ source).length ≤ 4
    rw [List.length_append]
    show ¬8 + _ ≤ 4
    omega
  have hlow : (unpackSystem info source filled).read16 ioCallbacks 0x08000000#32 =
      some info.length := by
    rw [BusState.read16_joined _ (by decide) (by decide) (by decide) (by decide),
      @BusState.joined16_of_bytes _ ioCallbacks (unpackSystem info source filled) 0x08000000#32
        (byte info.length) ?_, word_byte 2 rfl]
    intro lane hlane
    rcases (by omega : lane = 0 ∨ lane = 1) with rfl | rfl
    · exact hread 0 (by decide)
    · exact hread 1 (by decide)
  have hhigh : (unpackSystem info source filled).read32 ioCallbacks 0x08000004#32 =
      some info.dataOffset := by
    rw [BusState.read32_joined _ (by decide) (by decide) fun _ _ => hopen]
    have halign : alignWord 0x08000004#32 = 0x08000004#32 := rfl
    have hlane : laneShift 0x08000004#32 = 0 := rfl
    rw [halign, hlane, @BusState.joined32_of_bytes _ ioCallbacks (unpackSystem info source filled)
      0x08000004#32 (byte info.dataOffset) ?_, word_byte 4 rfl]
    · exact congrArg some (rotateRight_zero _)
    · intro lane hlane
      rcases (by omega : lane = 0 ∨ lane = 1 ∨ lane = 2 ∨ lane = 3) with rfl | rfl | rfl | rfl
      · exact hread 4 (by decide)
      · exact hread 5 (by decide)
      · exact hread 6 (by decide)
      · exact hread 7 (by decide)
  have hsource : (unpackSystem info source filled).read8 ioCallbacks (0x08000000#32 + 2) =
      some info.srcBitNum := hread 2 (by decide)
  have hdestination : (unpackSystem info source filled).read8 ioCallbacks (0x08000000#32 + 3) =
      some info.destBitNum := hread 3 (by decide)
  have hhigh' : (unpackSystem info source filled).read32 ioCallbacks (0x08000000#32 + 4) =
      some info.dataOffset := hhigh
  unfold readBitUnpackInfo
  rw [hlow, hsource, hdestination, hhigh']
  rfl

/-- The source is in the cartridge. -/
theorem unpackSource_region (hlength : source.length = info.length.toNat) {index : Nat}
    (hindex : index < source.length) :
    (classify (0x08000008#32 + BitVec.ofNat 32 index)).region = .gamePakRom := by
  have hlt := info.length.isLt
  have haddress : (0x08000008#32 + BitVec.ofNat 32 index).toNat = 0x08000008 + index := by
    rw [BitVec.toNat_add, BitVec.toNat_ofNat]
    show (0x08000008 + index % 2 ^ 32) % 2 ^ 32 = _
    omega
  exact (BusState.classify_rom (by rw [haddress]; omega)).1

/-- No store to a memory touches the source. -/
theorem unpackSource_spared (hlength : source.length = info.length.toNat) {index : Nat}
    (hindex : index < source.length) {address : U32} (h : Internal address) :
    (classify (0x08000008#32 + BitVec.ofNat 32 index)).region ≠ (classify address).region := by
  rw [unpackSource_region hlength hindex]
  intro hrom
  have hinternal : (classify address).region.internal = true := h
  rw [← hrom] at hinternal
  contradiction

theorem unpackSystem_call (hlength : source.length = info.length.toNat)
    (hrange : BlockRange internalRam destination (outputLength info)) :
    UnpackCall (unpackCpu destination) (unpackSystem info source filled) info source := by
  obtain ⟨-, hsource⟩ := placed_append.mp (unpackSystem_placed filled hlength)
  refine ⟨unpackSystem_header filled hlength, hlength, hsource, ?_⟩
  intro index hindex place hplace hsame
  exact unpackSource_spared hlength hindex
    (internal_of_mem internalRam_internal (hrange.within place hplace)) hsame.1

theorem unpackSystem_filled : Filled (unpackSystem info source filled).memory filled := by
  intro address h
  have hlt := classify_offset_lt address
  have hregion : (classify address).region.internal = true := h
  unfold MemoryBus.cell MemoryBus.cellAt
  generalize (classify address).region = region at hlt hregion ⊢
  cases region <;> first | exact dif_pos hlt | contradiction

/-- What a call leaves in memory is what the service puts there. -/
theorem unpackSystem_stores {put : MemoryBus → List U8 → U32 → MemoryBus} {spared : U32 → Prop}
    (hwidths : SupportedWidths info) (hlength : source.length = info.length.toNat)
    (hrange : BlockRange internalRam destination (outputLength info))
    (hput : StoredBy put info destination (outputLength info) spared)
    (hspared : ∀ index < source.length, spared (0x08000008#32 + BitVec.ofNat 32 index))
    (h : UnpacksAsBios (unpackCpu destination) (unpackSystem info source filled) info source) :
    ∃ output, Packed info.destBitNum.toNat
        ((sourceUnits info.srcBitNum.toNat source).map (offsetUnit info.dataOffset)) output ∧
      StoresBlock (unpackSystem info source filled).memory
        (put (unpackSystem info source filled).memory (serviceOutput info 0x08000008 source)
          destination) destination output := by
  have hcall := unpackSystem_call filled hlength hrange
  have hle := @serviceOutput_length_le info 0x08000008 source hwidths
  obtain ⟨memory, output, heq, hpacked, hstores⟩ := h
  have hmemory : memory = put (unpackSystem info source filled).memory
      (serviceOutput info 0x08000008 source) destination := by
    have hsame := heq.symm.trans (hleBitUnpack_eq hwidths hcall hput hspared hle)
    exact congrArg (fun result : Bool × System => result.2.memory) hsame
  exact ⟨output, hpacked, hmemory ▸ hstores⟩

end Cartridge

/-! ## Sources that are unpacked as in the BIOS -/

section Served

variable {info : BitUnpackInfo} {source : List U8} {destination : U32}

/-- The service does what the BIOS does where its output is what the BIOS unpacks. -/
theorem unpacksAsBios_of_packed {cpu : Arm7tdmi} {system : System} {spared : U32 → Prop}
    (hwidths : SupportedWidths info) (hcall : UnpackCall cpu system info source)
    (hrange : BlockRange internalRam (cpu.registers 1) (outputLength info))
    (hput : StoredBy MemoryBus.storeBlock info (cpu.registers 1) (outputLength info) spared)
    (hspared : ∀ index < source.length, spared (cpu.registers 0 + BitVec.ofNat 32 index))
    (h : Packed info.destBitNum.toNat
      ((sourceUnits info.srcBitNum.toNat source).map (offsetUnit info.dataOffset))
      (serviceOutput info (cpu.registers 0) source)) :
    UnpacksAsBios cpu system info source := by
  have hle := @serviceOutput_length_le info (cpu.registers 0) source hwidths
  exact ⟨_, _, hleBitUnpack_eq hwidths hcall hput hspared hle, h,
    system.memory.storesBlock internalRam_internal (hrange.take hle)⟩

/-- Without source bytes the service does nothing, as the BIOS does. -/
theorem unpacksAsBios_nil {cpu : Arm7tdmi} {system : System} (hwidths : SupportedWidths info)
    (hcall : UnpackCall cpu system info []) : UnpacksAsBios cpu system info [] := by
  have hzero : outputLength info = 0 := by
    unfold outputLength
    rw [← hcall.length]
    simp
  have hrange : BlockRange internalRam (cpu.registers 1) (outputLength info) := by
    rw [hzero]
    exact ⟨fun _ h => absurd h (Nat.not_lt_zero _), fun _ _ _ h => absurd h (Nat.not_lt_zero _)⟩
  exact unpacksAsBios_of_packed hwidths hcall hrange (hzero ▸ storedBy_none)
    (fun _ _ => trivial) ((packed_serviceOutput_iff hwidths hcall.length).mpr (.inl rfl))

/-- Stored as it is, the output of the service has to be what the BIOS unpacks. -/
theorem unpacks_whole_iff (hwidths : SupportedWidths info)
    (hlength : source.length = info.length.toNat)
    (hrange : BlockRange internalRam destination (outputLength info))
    (hwhole : StoredWhole info destination) :
    (∀ cpu system, cpu.registers 1 = destination → UnpackCall cpu system info source →
      UnpacksAsBios cpu system info source) ↔ UnpackedAlike info source := by
  constructor
  · intro h
    have hspared : ∀ index < source.length, ∀ place < outputLength info,
        ¬SameCell (0x08000008#32 + BitVec.ofNat 32 index) (destination + BitVec.ofNat 32 place) :=
      fun index hindex place hplace hsame => unpackSource_spared hlength hindex
        (internal_of_mem internalRam_internal (hrange.within place hplace)) hsame.1
    obtain ⟨output, hpacked, hstores⟩ := unpackSystem_stores 0 hwidths hlength hrange
      (storedBy_whole hrange hwhole) hspared (h _ _ rfl (unpackSystem_call 0 hlength hrange))
    obtain ⟨other, hother, hothers⟩ := unpackSystem_stores 1 hwidths hlength hrange
      (storedBy_whole hrange hwhole) hspared (h _ _ rfl (unpackSystem_call 1 hlength hrange))
    obtain rfl := hpacked.unique hother
    have hle := @serviceOutput_length_le info 0x08000008 source hwidths
    have hfits := packed_length hlength hpacked
    rw [← @packed_serviceOutput_iff info 0x08000008 source hwidths hlength]
    have hbyte : ∀ (filled : U8) (index : Nat) (hindex : index < output.length),
        StoresBlock (unpackSystem info source filled).memory
          ((unpackSystem info source filled).memory.storeBlock
            (serviceOutput info 0x08000008 source) destination) destination output →
        output[index] = (serviceOutput info 0x08000008 source).getD index filled := by
      intro filled index hindex hstored
      have hservice := (unpackSystem info source filled).memory.storesBlock internalRam_internal
        (hrange.take hle)
      rw [← hstored.stored index hindex]
      by_cases hlt : index < (serviceOutput info 0x08000008 source).length
      · rw [List.getD_eq_getElem _ _ hlt]
        exact hservice.stored index hlt
      · rw [List.getD_eq_default _ _ (Nat.not_lt.mp hlt)]
        have hlt' : index < outputLength info := hfits ▸ hindex
        refine (hservice.others _ fun place hplace => ?_).trans
          (unpackSystem_filled filled _ (internal_of_mem internalRam_internal
            (hrange.within index hlt')))
        exact hrange.apart hlt' (by omega) (by omega)
    have hfull : output = serviceOutput info 0x08000008 source := by
      have hall : output.length ≤ (serviceOutput info 0x08000008 source).length := by
        -- a byte that is not stored would have both of the values before
        by_contra hshort
        have hlast := Nat.not_le.mp hshort
        have hzero := hbyte 0 _ hlast hstores
        have hone := hbyte 1 _ hlast hothers
        rw [List.getD_eq_default _ _ le_rfl] at hzero hone
        exact absurd (hzero.symm.trans hone) (by decide)
      refine List.ext_getElem (by omega) fun index hindex hindex' => ?_
      rw [hbyte 0 index hindex hstores, List.getD_eq_getElem _ _ hindex']
    exact hfull ▸ hpacked
  · intro h cpu system hdestination hcall
    subst hdestination
    exact unpacksAsBios_of_packed hwidths hcall hrange (storedBy_whole hrange hwhole) hcall.apart
      ((packed_serviceOutput_iff hwidths hlength).mpr h)

/-- The headers and sources that come out alike are those with a halfword for all stores to it. -/
theorem doubledAlike_iff {start : U32} (hwidths : SupportedWidths info)
    (hlength : source.length = info.length.toNat)
    (hrange : BlockRange internalRam destination (outputLength info)) (hsome : source ≠ []) :
    DoubledAlike info source destination ↔ FillsHalfwords destination (outputLength info) ∧
      ∃ output, Packed info.destBitNum.toNat
        ((sourceUnits info.srcBitNum.toNat source).map (offsetUnit info.dataOffset)) output ∧
      HoldsLast destination (serviceOutput info start source) output := by
  unfold DoubledAlike
  refine and_congr_right fun hfills => ?_
  by_cases height : info.srcBitNum = 8
  · rw [if_pos height]
    exact (holdsLast_wide_iff hwidths hlength height hrange hfills).symm
  · rw [if_neg height]
    exact (holdsLast_pair_iff hwidths hlength height hrange hfills hsome).symm

/-- In whole halfwords no store touches a byte outside the output. -/
theorem not_touches_of_apart {count : Nat} {other : U32}
    (hrange : BlockRange internalRam destination count) (hfills : FillsHalfwords destination count)
    (hother : ∀ place < count, ¬SameCell other (destination + BitVec.ofNat 32 place)) :
    ∀ place < count, ¬Touches other (destination + BitVec.ofNat 32 place) := by
  intro place hplace htouches
  obtain ⟨hdoubles, partner, hpartner, hne, hsame⟩ := hfills place hplace
  have hhalf := ((touches_iff_sameHalfword hdoubles.not_inRam).mp htouches).2
  have hcell : ¬SameCell (destination + BitVec.ofNat 32 place) other :=
    fun hcell => hother place hplace ⟨hcell.1.symm, hcell.2.symm⟩
  have hapart : ¬SameCell (destination + BitVec.ofNat 32 place)
      (destination + BitVec.ofNat 32 partner) := hrange.apart hplace hpartner hne.symm
  exact hother partner hpartner (hhalf.third hsame hcell hapart)

/-- Stored in bytes of display memory, the output has to come out in whole halfwords. -/
theorem unpacks_bytes_iff (hwidths : SupportedWidths info)
    (hlength : source.length = info.length.toNat)
    (hrange : BlockRange internalRam destination (outputLength info))
    (hwhole : ¬StoredWhole info destination) (hsome : source ≠ []) :
    (∀ cpu system, cpu.registers 1 = destination → UnpackCall cpu system info source →
      UnpacksAsBios cpu system info source) ↔ DoubledAlike info source destination := by
  have hdisplay : ∀ place < outputLength info, ¬InRam (destination + BitVec.ofNat 32 place) :=
    fun place hplace hram => hwhole (.inl ((hrange.inRam_iff hplace).mp hram))
  constructor
  · intro h
    have hspared : ∀ index < source.length, ∀ place < outputLength info,
        ¬Touches (0x08000008#32 + BitVec.ofNat 32 index)
          (destination + BitVec.ofNat 32 place) := by
      intro index hindex place hplace htouches
      refine unpackSource_spared hlength hindex
        (internal_of_mem internalRam_internal (hrange.within place hplace)) ?_
      exact ((touches_iff_sameHalfword (hdisplay place hplace)).mp htouches).2.1
    obtain ⟨output, hpacked, hzero⟩ := unpackSystem_stores 0 hwidths hlength hrange
      (storedBy_bytes hrange hwhole) hspared (h _ _ rfl (unpackSystem_call 0 hlength hrange))
    obtain ⟨other, hother, hone⟩ := unpackSystem_stores 1 hwidths hlength hrange
      (storedBy_bytes hrange hwhole) hspared (h _ _ rfl (unpackSystem_call 1 hlength hrange))
    obtain rfl := hpacked.unique hother
    have hfull : output.length = outputLength info := packed_length hlength hpacked
    have hle := @serviceOutput_length_le info 0x08000008 source hwidths
    refine (@doubledAlike_iff _ _ _ 0x08000008 hwidths hlength hrange hsome).mpr ?_
    rw [← hfull] at hrange hdisplay hle
    obtain ⟨hfills, hholds⟩ := halfwords_of_storesBlock (unpackSystem_filled 0)
      (unpackSystem_filled 1) hle hrange hdisplay hzero hone
    exact ⟨hfull ▸ hfills, output, hpacked, hholds⟩
  · intro h cpu system hdestination hcall
    subst hdestination
    obtain ⟨hfills, output, hpacked, hholds⟩ :=
      (@doubledAlike_iff _ _ _ (cpu.registers 0) hwidths hlength hrange hsome).mp h
    have hfull : output.length = outputLength info := packed_length hlength hpacked
    have hle := @serviceOutput_length_le info (cpu.registers 0) source hwidths
    have hspared := fun index hindex =>
      not_touches_of_apart hrange hfills (hcall.apart index hindex)
    refine ⟨_, output, hleBitUnpack_eq hwidths hcall (storedBy_bytes hrange hwhole) hspared hle,
      hpacked, ?_⟩
    rw [← hfull] at hrange hfills hle
    exact storesBlock_halfwords _ hle hrange hfills hholds

end Served

/-- The service unpacks a source with a header to a destination as the BIOS does, whatever the
memory, exactly for units of a byte with the offset kept, for a single unit that is the highest of
its byte, and in display memory for bytes that are alike in pairs. -/
theorem hleBitUnpack_unpacks_iff (info : BitUnpackInfo) (source : List U8) (destination : U32)
    (hwidths : SupportedWidths info) (hlength : source.length = info.length.toNat)
    (hrange : BlockRange internalRam destination (outputLength info)) :
    (∀ cpu system, cpu.registers 1 = destination → UnpackCall cpu system info source →
      UnpacksAsBios cpu system info source) ↔ UnpackedAt info source destination := by
  by_cases hnil : source = []
  · subst hnil
    exact ⟨fun _ => .inl rfl, fun _ cpu system _ hcall => unpacksAsBios_nil hwidths hcall⟩
  · unfold UnpackedAt
    rw [or_iff_right hnil]
    by_cases hwhole : StoredWhole info destination
    · rw [if_pos hwhole]
      exact unpacks_whole_iff hwidths hlength hrange hwhole
    · rw [if_neg hwhole]
      exact unpacks_bytes_iff hwidths hlength hrange hwhole hnil

theorem hleBitUnpack_unpacks_iff_bytes :
    UnpacksAsBios (unpackCpu 0x02000000) (unpackSystem ⟨2, 8, 16, 0x80000100⟩ [0, 7] 0xEE)
        ⟨2, 8, 16, 0x80000100⟩ [0, 7] ∧
      UnpacksAsBios (unpackCpu 0x06000000) (unpackSystem ⟨2, 8, 8, 0⟩ [7, 7] 0xEE)
        ⟨2, 8, 8, 0⟩ [7, 7] := by
  have hrange : BlockRange internalRam 0x02000000#32 (outputLength ⟨2, 8, 16, 0x80000100⟩) := by
    decide +kernel
  have hdisplay : BlockRange internalRam 0x06000000#32 (outputLength ⟨2, 8, 8, 0⟩) := by
    decide +kernel
  constructor
  · refine (hleBitUnpack_unpacks_iff ⟨2, 8, 16, 0x80000100⟩ [0, 7] 0x02000000#32 (by decide) rfl
      hrange).mpr (.inr ?_) _ _ rfl (unpackSystem_call 0xEE rfl hrange)
    rw [if_pos (by decide +kernel)]
    exact .inr (.inl ⟨rfl, by decide⟩)
  · refine (hleBitUnpack_unpacks_iff ⟨2, 8, 8, 0⟩ [7, 7] 0x06000000#32 (by decide) rfl
      hdisplay).mpr (.inr ?_) _ _ rfl (unpackSystem_call 0xEE rfl hdisplay)
    rw [if_neg (by decide +kernel)]
    decide +kernel

/-- A byte of two units is unpacked as one unit only, the high one. -/
theorem highUnit_unpacked :
    UnpackCall (unpackCpu 0x02000000) (unpackSystem ⟨1, 4, 8, 0⟩ [0x21] 0xEE) ⟨1, 4, 8, 0⟩ [0x21] ∧
      ¬UnpacksAsBios (unpackCpu 0x02000000) (unpackSystem ⟨1, 4, 8, 0⟩ [0x21] 0xEE) ⟨1, 4, 8, 0⟩
        [0x21] := by
  have hrange : BlockRange internalRam 0x02000000#32 (outputLength ⟨1, 4, 8, 0⟩) := by
    decide +kernel
  have hwhole : StoredWhole ⟨1, 4, 8, 0⟩ 0x02000000#32 := by decide +kernel
  have hspared : ∀ index < [0x21#8].length, ∀ place < outputLength ⟨1, 4, 8, 0⟩,
      ¬SameCell (0x08000008#32 + BitVec.ofNat 32 index)
        (0x02000000#32 + BitVec.ofNat 32 place) := by decide +kernel
  refine ⟨unpackSystem_call 0xEE rfl hrange, fun h => ?_⟩
  obtain ⟨output, hpacked, hstores⟩ := unpackSystem_stores 0xEE (by decide) rfl hrange
    (storedBy_whole hrange hwhole) hspared h
  have hlength : output.length = 2 := packed_length rfl hpacked
  -- the BIOS stores the low unit of the byte first, the service the high one
  have hbios : (output.getD 0 0).getLsbD 0 = true := hpacked.bits 0 (by decide) 0 (by decide)
  have hservice := (unpackSystem ⟨1, 4, 8, 0⟩ [0x21] 0xEE).memory.storesBlock internalRam_internal
    (hrange.take (@serviceOutput_length_le ⟨1, 4, 8, 0⟩ 0x08000008 [0x21] (by decide)))
  have hhigh := (hstores.stored 0 (by omega)).symm.trans (hservice.stored 0 (by decide))
  rw [List.getD_eq_getElem _ _ (by omega), hhigh] at hbios
  exact absurd hbios (by decide)

end Gba.Core
