import Gba.Core.HleWork
import Gba.Core.Refusals

/-!
# Stores of services that give up

A service stores element after element and does not undo what it has stored. Here are the elements
of each service that only stores: the stores of an element, which may depend on what the elements
before it have left in memory, and where they go. A service that gives up has made its elements up
to one that it could not read or store as a whole.
-/

namespace Gba.Core

/-- The address of a store. -/
def BusStore.address : BusStore → U32
  | .byte address _ => address
  | .halfword address _ => address
  | .word address _ => address

/-- The addresses of `extent` bytes. -/
def Within (start : U32) (extent : Nat) (address : U32) : Prop :=
  (address - start).toNat < extent

theorem within_of_offset {start offset : U32} {extent : Nat} (h : offset.toNat < extent) :
    Within start extent (start + offset) := by
  unfold Within
  have hoffset : start + offset - start = offset := by bv_omega
  rw [hoffset]
  exact h

/-! ## Elements -/

/-- Of at most so many elements of a service the first have been made, each with all its stores, and
then one was refused: its source could not be read, or the bus refused one of its stores, after
those that come before it. -/
inductive Stopped {α : Type} (element : α → System → Option (List BusStore × α))
    (inside : U32 → Prop) : Nat → α → System → System → Prop where
  | unread {count : Nat} {held : α} {system : System} (h : element held system = none) :
      Stopped element inside (count + 1) held system system
  | refused {count : Nat} {held later : α} {system after : System} {stores : List BusStore}
      (helement : element held system = some (stores, later))
      (hinside : ∀ store ∈ stores, inside store.address)
      (hkept : BusStore.Kept ioCallbacks stores system after) :
      Stopped element inside (count + 1) held system after
  | next {count : Nat} {held later : α} {system middle after : System} {stores : List BusStore}
      (helement : element held system = some (stores, later))
      (hinside : ∀ store ∈ stores, inside store.address)
      (hstored : BusStore.performEach ioCallbacks stores system = (true, middle))
      (hrest : Stopped element inside count later middle after) :
      Stopped element inside (count + 1) held system after

theorem BusStore.performEach_single {σ : Type} (callbacks : MemoryBusIoCallbacks σ)
    (store : BusStore) (bus : BusState σ) :
    BusStore.performEach callbacks [store] bus = store.perform callbacks bus := by
  unfold BusStore.performEach BusState.andThen
  split
  · next haccepted => exact Prod.ext haccepted.symm rfl
  · rfl

/-- An element is stored, and the rest after it. -/
theorem Stopped.stores {α : Type} {element : α → System → Option (List BusStore × α)}
    {inside : U32 → Prop} {count : Nat} {held later : α} {system : System}
    {stores : List BusStore} {rest : System → Bool × System}
    (helement : element held system = some (stores, later))
    (hinside : ∀ store ∈ stores, inside store.address)
    (hrest : ∀ middle, (rest middle).1 = false →
      Stopped element inside count later middle (rest middle).2)
    (h : (BusState.andThen (BusStore.performEach ioCallbacks stores system) rest).1 = false) :
    Stopped element inside (count + 1) held system
      (BusState.andThen (BusStore.performEach ioCallbacks stores system) rest).2 := by
  unfold BusState.andThen at h ⊢
  by_cases hstored : (BusStore.performEach ioCallbacks stores system).1 = true
  · rw [if_pos hstored] at h ⊢
    exact .next helement hinside (Prod.ext hstored rfl) (hrest _ h)
  · rw [if_neg hstored] at h ⊢
    exact .refused helement hinside (BusStore.performEach_refused h)

/-- The elements of a loop over an index. -/
def indexed (stores : U32 → System → Option (List BusStore)) (index : U32) (system : System) :
    Option (List BusStore × U32) :=
  (stores index system).map fun stores => (stores, index + 1)

/-- A loop that gives up at the first failure has stopped at one of its elements. -/
theorem forUnits_stopped {unit : U32 → System → Bool × System}
    {stores : U32 → System → Option (List BusStore)} {inside : U32 → Prop} {total : Nat}
    (hsmall : total < 2 ^ 32)
    (hunit : ∀ index system, unit index system =
      match stores index system with
      | none => (false, system)
      | some stores => BusStore.performEach ioCallbacks stores system)
    (hinside : ∀ index system list, index.toNat < total → stores index system = some list →
      ∀ store ∈ list, inside store.address)
    {count : Nat} {index : U32} (htotal : index.toNat + count ≤ total) {system : System}
    (h : (forUnits unit count index system).1 = false) :
    Stopped (indexed stores) inside count index system (forUnits unit count index system).2 := by
  induction count generalizing index system with
  | zero => exact Bool.noConfusion h
  | succ count ih =>
      unfold forUnits at h ⊢
      rw [hunit] at h ⊢
      cases hstores : stores index system with
      | none => exact .unread (congrArg (Option.map _) hstores)
      | some list =>
          rw [hstores] at h
          have hnext : (index + 1).toNat = index.toNat + 1 := by bv_omega
          have helement : indexed stores index system = some (list, index + 1) :=
            congrArg (Option.map _) hstores
          exact .stores helement (hinside index system list (by omega) hstores)
            (fun middle hrest => ih (by omega) hrest) h

/-! ## Affine sets -/
theorem toNat_mul_le (left right : U32) : (left * right).toNat ≤ left.toNat * right.toNat := by
  rw [BitVec.toNat_mul]
  exact Nat.mod_le _ _

/-- An offset within an element of an array. -/
theorem elementOffset_lt {index element offset : U32} {count size : Nat}
    (helement : element.toNat ≤ index.toNat * size) (hindex : index.toNat < count)
    (hoffset : offset.toNat < size) : (element + offset).toNat < count * size := by
  have hsum : (element + offset).toNat ≤ element.toNat + offset.toNat := by
    rw [BitVec.toNat_add]
    exact Nat.mod_le _ _
  have hbound : (index.toNat + 1) * size ≤ count * size := Nat.mul_le_mul_right _ hindex
  rw [Nat.add_mul] at hbound
  omega

/-- The number of elements, which the services take as signed. -/
theorem toNat_toInt {count : U32} (h : ¬count.toInt ≤ 0) : count.toInt.toNat = count.toNat := by
  rw [BitVec.toInt_eq_toNat_cond] at h ⊢
  split at h <;> omega

/-- The stores of one matrix of `hle_bg_affine_set`. -/
def bgAffineStores (source dest index : U32) (system : System) : Option (List BusStore) :=
  (readBgAffineSource (source + index * 20) system).map fun bg =>
    let dst := dest + index * 16
    let matrix := BiosController.hleAffineMatrixWide bg.scaleX bg.scaleY bg.rotation
    let x : U32 := bg.centerX.signExtend 32
    let y : U32 := bg.centerY.signExtend 32
    [.halfword dst (matrix.pa.setWidth 16), .halfword (dst + 2) (matrix.pb.setWidth 16),
      .halfword (dst + 4) (matrix.pc.setWidth 16), .halfword (dst + 6) (matrix.pd.setWidth 16),
      .word (dst + 8) (bg.originX - (matrix.pa * x + matrix.pb * y)),
      .word (dst + 12) (bg.originY - (matrix.pc * x + matrix.pd * y))]

/-- A set of matrices for the background has stopped at one of them. -/
def BgAffineStopped (cpu : Arm7tdmi) (before after : System) : Prop :=
  (cpu.registers 2).toInt ≤ 0 ∧ after = before ∨
    Stopped (indexed (bgAffineStores (cpu.registers 0) (cpu.registers 1)))
      (Within (cpu.registers 1) ((cpu.registers 2).toNat * 16)) (cpu.registers 2).toNat 0 before
      after

theorem bgAffineUnit_eq (source dest index : U32) (system : System) :
    bgAffineUnit source dest index system =
      match bgAffineStores source dest index system with
      | none => (false, system)
      | some stores => BusStore.performEach ioCallbacks stores system := by
  unfold bgAffineUnit bgAffineStores
  cases readBgAffineSource (source + index * 20) system <;> rfl

theorem hleBgAffineSet_stopped {cpu : Arm7tdmi} {system : System}
    (h : (hleBgAffineSet cpu system).1 = false) :
    BgAffineStopped cpu system (hleBgAffineSet cpu system).2 := by
  revert h
  unfold hleBgAffineSet
  dsimp only
  split
  · next hcount => exact fun _ => Or.inl ⟨hcount, rfl⟩
  next hcount =>
    rw [toNat_toInt hcount]
    refine fun h => Or.inr (forUnits_stopped (BitVec.isLt _) (bgAffineUnit_eq _ _) ?_
      (Nat.zero_add _).le h)
    intro index system list hindex hstores
    obtain ⟨bg, -, rfl⟩ := Option.map_eq_some_iff.mp hstores
    have hinside (offset : U32) (hoffset : offset.toNat < 16) :
        Within (cpu.registers 1) ((cpu.registers 2).toNat * 16)
          (cpu.registers 1 + index * 16 + offset) := by
      rw [BitVec.add_assoc]
      exact within_of_offset (elementOffset_lt (toNat_mul_le index 16) hindex hoffset)
    have hfirst : Within (cpu.registers 1) ((cpu.registers 2).toNat * 16)
        (cpu.registers 1 + index * 16) := by
      have hzero := hinside 0#32 (by decide)
      rwa [BitVec.add_zero] at hzero
    simp only [List.forall_mem_cons]
    exact ⟨hfirst, hinside 2 (by decide), hinside 4 (by decide), hinside 6 (by decide),
      hinside 8 (by decide), hinside 12 (by decide), fun _ h => absurd h List.not_mem_nil⟩

/-- The stores of one matrix of `hle_obj_affine_set`. -/
def objAffineStores (source dest stride index : U32) (system : System) :
    Option (List BusStore) :=
  let src := source + index * 8
  let dst := dest + index * stride * 4
  match system.read16 ioCallbacks src, system.read16 ioCallbacks (src + 2),
    system.read16 ioCallbacks (src + 4) with
  | some scaleX, some scaleY, some rotation =>
      let matrix := BiosController.hleAffineMatrixWide scaleX scaleY rotation
      some [.halfword dst (matrix.pa.setWidth 16),
        .halfword (dst + stride) (matrix.pb.setWidth 16),
        .halfword (dst + stride * 2) (matrix.pc.setWidth 16),
        .halfword (dst + stride * 3) (matrix.pd.setWidth 16)]
  | _, _, _ => none

/-- A set of matrices for sprites has stopped at one of them. -/
def ObjAffineStopped (cpu : Arm7tdmi) (before after : System) : Prop :=
  ((cpu.registers 2).toInt ≤ 0 ∨ (cpu.registers 3).toInt ≤ 0) ∧ after = before ∨
    Stopped (indexed (objAffineStores (cpu.registers 0) (cpu.registers 1) (cpu.registers 3)))
      (Within (cpu.registers 1) ((cpu.registers 2).toNat * ((cpu.registers 3).toNat * 4)))
      (cpu.registers 2).toNat 0 before after

theorem objAffineUnit_eq (source dest stride index : U32) (system : System) :
    objAffineUnit source dest stride index system =
      match objAffineStores source dest stride index system with
      | none => (false, system)
      | some stores => BusStore.performEach ioCallbacks stores system := by
  unfold objAffineUnit objAffineStores
  dsimp only
  cases system.read16 ioCallbacks (source + index * 8) with
  | none => rfl
  | some scaleX =>
      cases system.read16 ioCallbacks (source + index * 8 + 2) with
      | none => rfl
      | some scaleY => cases system.read16 ioCallbacks (source + index * 8 + 4) <;> rfl

theorem hleObjAffineSet_stopped {cpu : Arm7tdmi} {system : System}
    (h : (hleObjAffineSet cpu system).1 = false) :
    ObjAffineStopped cpu system (hleObjAffineSet cpu system).2 := by
  revert h
  unfold hleObjAffineSet
  dsimp only
  split
  · next hcount => exact fun _ => Or.inl ⟨hcount, rfl⟩
  next hcount =>
    obtain ⟨hcount, hpositive⟩ := not_or.mp hcount
    have hstride : 0 < (cpu.registers 3).toNat := by
      rw [BitVec.toInt_eq_toNat_cond] at hpositive
      split at hpositive <;> omega
    rw [toNat_toInt hcount]
    refine fun h => Or.inr (forUnits_stopped (BitVec.isLt _) (objAffineUnit_eq _ _ _) ?_
      (Nat.zero_add _).le h)
    intro index system list hindex hstores
    have helement : (index * cpu.registers 3 * 4).toNat ≤
        index.toNat * ((cpu.registers 3).toNat * 4) := by
      refine (toNat_mul_le _ _).trans ?_
      rw [← Nat.mul_assoc]
      exact Nat.mul_le_mul_right _ (toNat_mul_le _ _)
    have hinside (offset : U32) (hoffset : offset.toNat ≤ (cpu.registers 3).toNat * 3) :
        Within (cpu.registers 1) ((cpu.registers 2).toNat * ((cpu.registers 3).toNat * 4))
          (cpu.registers 1 + index * cpu.registers 3 * 4 + offset) := by
      rw [BitVec.add_assoc]
      exact within_of_offset (elementOffset_lt helement hindex (by omega))
    have hfirst : Within (cpu.registers 1)
        ((cpu.registers 2).toNat * ((cpu.registers 3).toNat * 4))
        (cpu.registers 1 + index * cpu.registers 3 * 4) := by
      have hzero := hinside 0#32 (Nat.zero_le _)
      rwa [BitVec.add_zero] at hzero
    unfold objAffineStores at hstores
    dsimp only at hstores
    split at hstores
    · obtain rfl := Option.some.inj hstores
      simp only [List.forall_mem_cons]
      exact ⟨hfirst, hinside _ (Nat.le_mul_of_pos_right _ (by decide)),
        hinside _ ((toNat_mul_le _ 2).trans (Nat.mul_le_mul_left _ (by decide))),
        hinside _ (toNat_mul_le _ 3), fun _ h => absurd h List.not_mem_nil⟩
    · contradiction

/-! ## Decompression -/

/-- The stores of `hle_write_decompressed_wram`. -/
def byteStores : List U8 → U32 → List BusStore
  | [], _ => []
  | value :: rest, address => .byte address value :: byteStores rest (address + 1)

/-- The stores of `hle_write_decompressed_vram`. -/
def halfwordStores : List U8 → U32 → List BusStore
  | [], _ => []
  | [low], address => [.halfword address (low.setWidth 16)]
  | low :: high :: rest, address =>
      .halfword address (low.setWidth 16 ||| high.setWidth 16 <<< 8) ::
        halfwordStores rest (address + 2)

/-- A decompression of a stream that could not be read, or whose output was refused at one of its
stores. All of them go to as many bytes as the header of the stream says. -/
def DecompressionStopped (stores : List U8 → U32 → List BusStore) (output : Option (List U8))
    (cpu : Arm7tdmi) (before after : System) : Prop :=
  output = none ∧ after = before ∨
    ∃ bytes kind size, output = some bytes ∧
      readHeader before (cpu.registers 0) = some (kind, size) ∧
      (∀ store ∈ stores bytes (cpu.registers 1),
        Within (cpu.registers 1) size.toNat store.address) ∧
      BusStore.Kept ioCallbacks (stores bytes (cpu.registers 1)) before after

theorem hleWriteDecompressedWram_stores (output : List U8) (address : U32) (system : System) :
    hleWriteDecompressedWram output address system =
      BusStore.performEach ioCallbacks (byteStores output address) system := by
  induction output generalizing address system with
  | nil => rfl
  | cons value rest ih =>
      unfold hleWriteDecompressedWram byteStores BusStore.performEach
      simp only [ih]
      rfl

theorem hleWriteDecompressedVram_stores : ∀ (output : List U8) (address : U32) (system : System),
    hleWriteDecompressedVram output address system =
      BusStore.performEach ioCallbacks (halfwordStores output address) system
  | [], _, _ => rfl
  | [low], address, system =>
      (BusStore.performEach_single ioCallbacks (.halfword address (low.setWidth 16)) system).symm
  | low :: high :: rest, address, system => by
      unfold hleWriteDecompressedVram halfwordStores BusStore.performEach
      simp only [hleWriteDecompressedVram_stores rest]
      rfl

theorem within_offset {start address : U32} {offset extent : Nat}
    (haddress : address = start + BitVec.ofNat 32 offset) (h : offset < extent)
    (hsmall : offset < 2 ^ 32) : Within start extent address := by
  rw [haddress]
  refine within_of_offset ?_
  rw [BitVec.toNat_ofNat, Nat.mod_eq_of_lt hsmall]
  exact h

/-- The address of a later byte. -/
theorem address_add {start address : U32} {offset : Nat} (step : Nat)
    (h : address = start + BitVec.ofNat 32 offset) :
    address + BitVec.ofNat 32 step = start + BitVec.ofNat 32 (offset + step) := by
  rw [h, BitVec.add_assoc, BitVec.ofNat_add]

theorem byteStores_within {start address : U32} {offset : Nat} {output : List U8}
    (haddress : address = start + BitVec.ofNat 32 offset)
    (hsmall : offset + output.length < 2 ^ 32) :
    ∀ store ∈ byteStores output address,
      Within start (offset + output.length) store.address := by
  induction output generalizing address offset with
  | nil => exact fun _ h => absurd h List.not_mem_nil
  | cons value rest ih =>
      rw [List.length_cons] at hsmall ⊢
      refine List.forall_mem_cons.mpr ⟨within_offset haddress (by omega) (by omega), ?_⟩
      rw [Nat.add_comm rest.length 1, ← Nat.add_assoc]
      exact ih (address_add 1 haddress) (by omega)

theorem halfwordStores_within {start : U32} :
    ∀ {output : List U8} {address : U32} {offset : Nat},
      address = start + BitVec.ofNat 32 offset → offset + output.length < 2 ^ 32 →
      ∀ store ∈ halfwordStores output address,
        Within start (offset + output.length) store.address
  | [], _, _, _, _ => fun _ h => absurd h List.not_mem_nil
  | [low], address, offset, haddress, hsmall => by
      intro store hstore
      rw [List.mem_singleton.mp hstore]
      exact within_offset haddress (Nat.lt_succ_self offset) (Nat.lt_of_succ_lt hsmall)
  | low :: high :: rest, address, offset, haddress, hsmall => by
      rw [List.length_cons, List.length_cons] at hsmall ⊢
      refine List.forall_mem_cons.mpr ⟨within_offset haddress (by omega) (by omega), ?_⟩
      have hlength : offset + (rest.length + 1 + 1) = offset + 2 + rest.length := by omega
      rw [hlength] at hsmall ⊢
      exact halfwordStores_within (address_add 2 haddress) hsmall

/-! ### The size of the output -/

theorem diff8Bytes_length {system : System} {count : Nat} {source : U32} {previous : U8}
    {output : List U8} (h : diff8Bytes system count source previous = some output) :
    output.length = count := by
  induction count generalizing source previous output with
  | zero =>
      obtain rfl := Option.some.inj h
      rfl
  | succ count ih =>
      unfold diff8Bytes at h
      simp only [Option.bind_eq_bind, Option.bind_eq_some_iff, Option.pure_def,
        Option.some.injEq] at h
      obtain ⟨delta, -, rest, hrest, rfl⟩ := h
      rw [List.length_cons, ih hrest]

theorem diff16Bytes_length {system : System} {count : Nat} {source : U32} {previous : U16}
    {output : List U8} (h : diff16Bytes system count source previous = some output) :
    output.length = count * 2 := by
  induction count generalizing source previous output with
  | zero =>
      obtain rfl := Option.some.inj h
      rfl
  | succ count ih =>
      unfold diff16Bytes at h
      simp only [Option.bind_eq_bind, Option.bind_eq_some_iff, Option.pure_def,
        Option.some.injEq] at h
      obtain ⟨low, -, high, -, rest, hrest, rfl⟩ := h
      rw [List.length_cons, List.length_cons, ih hrest]
      omega

theorem rleBlocks_length {system : System} {size : Nat} {flags : U8} {bits : Nat}
    {state result : U32 × List U8} (hstate : state.2.length ≤ size)
    (h : rleBlocks system size flags bits state = some result) : result.2.length ≤ size := by
  induction bits generalizing state with
  | zero =>
      obtain rfl := Option.some.inj h
      exact hstate
  | succ bits ih =>
      obtain ⟨source, output⟩ := state
      unfold rleBlocks at h
      dsimp only at h hstate
      split at h
      · obtain rfl := Option.some.inj h
        exact hstate
      split at h
      · simp only [Option.bind_eq_bind, Option.bind_eq_some_iff] at h
        obtain ⟨lengthByte, -, value, -, h⟩ := h
        refine ih ?_ h
        rw [List.length_append, List.length_replicate]
        omega
      · simp only [Option.bind_eq_bind, Option.bind_eq_some_iff] at h
        obtain ⟨literal, -, h⟩ := h
        refine ih ?_ h
        rw [List.length_append, List.length_singleton]
        omega

theorem rleFlagBytes_length {system : System} {size passes : Nat} {state result : U32 × List U8}
    (hstate : state.2.length ≤ size) (h : rleFlagBytes system size passes state = some result) :
    result.2.length ≤ size := by
  induction passes generalizing state with
  | zero =>
      obtain rfl := Option.some.inj h
      exact hstate
  | succ passes ih =>
      obtain ⟨source, output⟩ := state
      unfold rleFlagBytes at h
      dsimp only at h hstate
      split at h
      · obtain rfl := Option.some.inj h
        exact hstate
      · simp only [Option.bind_eq_bind, Option.bind_eq_some_iff] at h
        obtain ⟨flags, -, blocks, hblocks, h⟩ := h
        exact ih (rleBlocks_length hstate hblocks) h

namespace Lz77Call

variable {call : Lz77Call}

theorem copyBytes_length {displacement length : Nat} {state : Lz77State}
    (h : state.output.length ≤ call.size) :
    (call.copyBytes displacement length state).output.length ≤ call.size := by
  induction length generalizing state with
  | zero => exact h
  | succ length ih =>
      unfold copyBytes
      split
      · exact h
      · refine ih ?_
        rw [List.length_append, List.length_singleton]
        omega

theorem readByte_output {state next : Lz77State} {byte : U8}
    (h : call.readByte state = some (byte, next)) : next.output = state.output := by
  obtain ⟨value, -, hnext⟩ := Option.map_eq_some_iff.mp h
  rw [← (Prod.mk.inj hnext).2]

theorem reference_length {state next : Lz77State} (hstate : state.output.length ≤ call.size)
    (h : call.reference state = some next) : next.output.length ≤ call.size := by
  unfold reference at h
  simp only [Option.bind_eq_bind, Option.bind_eq_some_iff] at h
  obtain ⟨⟨tokenHi, first⟩, hfirst, ⟨tokenLo, second⟩, hsecond, h⟩ := h
  dsimp only at h hsecond
  split at h
  · contradiction
  · obtain rfl := Option.some.inj h
    refine copyBytes_length ?_
    rw [readByte_output hsecond, readByte_output hfirst]
    exact hstate

theorem literal_length {state next : Lz77State} (hstate : state.output.length < call.size)
    (h : call.literal state = some next) : next.output.length ≤ call.size := by
  obtain ⟨⟨byte, read⟩, hread, rfl⟩ := Option.map_eq_some_iff.mp h
  dsimp only
  rw [List.length_append, List.length_singleton, readByte_output hread]
  exact hstate

theorem blocks_length {flags : U8} {bits : Nat} {state result : Lz77State}
    (hstate : state.output.length ≤ call.size) (h : call.blocks flags bits state = some result) :
    result.output.length ≤ call.size := by
  induction bits generalizing state with
  | zero =>
      obtain rfl := Option.some.inj h
      exact hstate
  | succ bits ih =>
      unfold blocks at h
      split at h
      · obtain rfl := Option.some.inj h
        exact hstate
      next hsize =>
        obtain ⟨next, hnext, h⟩ := Option.bind_eq_some_iff.mp h
        refine ih ?_ h
        split at hnext
        · exact reference_length (by exact hstate) hnext
        · exact literal_length (by exact Nat.lt_of_not_le hsize) hnext

theorem flagBytes_length {passes : Nat} {state result : Lz77State}
    (hstate : state.output.length ≤ call.size) (h : call.flagBytes passes state = some result) :
    result.output.length ≤ call.size := by
  induction passes generalizing state with
  | zero =>
      obtain rfl := Option.some.inj h
      exact hstate
  | succ passes ih =>
      unfold flagBytes at h
      split at h
      · obtain rfl := Option.some.inj h
        exact hstate
      · simp only [Option.bind_eq_bind, Option.bind_eq_some_iff] at h
        obtain ⟨⟨flags, read⟩, hread, blocks, hblocks, h⟩ := h
        refine ih (blocks_length ?_ hblocks) h
        rw [readByte_output hread]
        exact hstate

end Lz77Call

/-- What a decompression service writes fits into the size of its header. -/
def Sized (system : System) (source : U32) (output : Option (List U8)) : Prop :=
  ∀ bytes ∈ output, ∃ kind size, readHeader system source = some (kind, size) ∧
    bytes.length ≤ size.toNat

theorem hleRleDecompressFromSource_sized (expectedType : U8) (source : U32) (system : System) :
    Sized system source (hleRleDecompressFromSource expectedType source system) := by
  intro bytes h
  unfold hleRleDecompressFromSource at h
  simp only [Option.bind_eq_bind, Option.mem_def, Option.bind_eq_some_iff] at h
  obtain ⟨header, hheader, h⟩ := h
  split at h
  · contradiction
  · obtain ⟨state, hstate, rfl⟩ := Option.map_eq_some_iff.mp h
    exact ⟨_, _, hheader, rleFlagBytes_length (Nat.zero_le _) hstate⟩

theorem hleDiff8DecompressFromSource_sized (expectedType : U8) (source : U32) (system : System) :
    Sized system source (hleDiff8DecompressFromSource expectedType source system) := by
  intro bytes h
  unfold hleDiff8DecompressFromSource at h
  simp only [Option.bind_eq_bind, Option.mem_def, Option.bind_eq_some_iff] at h
  obtain ⟨header, hheader, h⟩ := h
  split at h
  · contradiction
  · exact ⟨_, _, hheader, (diff8Bytes_length h).le⟩

theorem hleDiff16DecompressFromSource_sized (expectedType : U8) (source : U32) (system : System) :
    Sized system source (hleDiff16DecompressFromSource expectedType source system) := by
  intro bytes h
  unfold hleDiff16DecompressFromSource at h
  simp only [Option.bind_eq_bind, Option.mem_def, Option.bind_eq_some_iff] at h
  obtain ⟨header, hheader, h⟩ := h
  split at h
  · contradiction
  · refine ⟨_, _, hheader, ?_⟩
    rw [diff16Bytes_length h]
    exact Nat.div_mul_le_self _ _

/-- The output of an LZ77 stream. -/
def lz77Output (system : System) (source destination : U32) (vram : Bool) : Option (List U8) :=
  (hleLz77DecompressFromSource system source destination vram).map Lz77State.output

theorem lz77Output_sized (system : System) (source destination : U32) (vram : Bool) :
    Sized system source (lz77Output system source destination vram) := by
  intro bytes h
  obtain ⟨state, hstate, rfl⟩ := Option.map_eq_some_iff.mp h
  clear h
  unfold hleLz77DecompressFromSource at hstate
  simp only [Option.bind_eq_bind, Option.bind_eq_some_iff] at hstate
  obtain ⟨header, hheader, hstate⟩ := hstate
  refine ⟨_, _, hheader, ?_⟩
  split at hstate
  · obtain rfl := Option.some.inj hstate
    exact Nat.zero_le _
  split at hstate
  · contradiction
  · exact Lz77Call.flagBytes_length (Nat.zero_le _) hstate

theorem Within.mono {start address : U32} {extent extent' : Nat} (h : Within start extent address)
    (hle : extent ≤ extent') : Within start extent' address :=
  lt_of_lt_of_le h hle

/-- A decompression that gives up has stopped at one of its stores. -/
theorem writeDecompressed_stopped {write : List U8 → U32 → System → Bool × System}
    {stores : List U8 → U32 → List BusStore}
    (hwrite : ∀ output address system,
      write output address system = BusStore.performEach ioCallbacks (stores output address) system)
    (hwithin : ∀ output : List U8, output.length < 2 ^ 32 → ∀ address,
      ∀ store ∈ stores output address, Within address output.length store.address)
    {output : Option (List U8)} {cpu : Arm7tdmi} {system : System}
    (hsized : Sized system (cpu.registers 0) output)
    (h : (writeDecompressed write output cpu system).1 = false) :
    DecompressionStopped stores output cpu system
      (writeDecompressed write output cpu system).2 := by
  cases output with
  | none => exact Or.inl ⟨rfl, rfl⟩
  | some bytes =>
      obtain ⟨kind, size, hheader, hlength⟩ := hsized bytes rfl
      have hsmall : bytes.length < 2 ^ 32 := hlength.trans_lt size.isLt
      refine Or.inr ⟨bytes, kind, size, rfl, hheader, fun store hstore => ?_, ?_⟩
      · exact (hwithin bytes hsmall _ store hstore).mono hlength
      · unfold writeDecompressed at h ⊢
        dsimp only at h ⊢
        rw [hwrite] at h ⊢
        exact BusStore.performEach_refused h

theorem writtenWram_stopped {output : Option (List U8)} {cpu : Arm7tdmi} {system : System}
    (hsized : Sized system (cpu.registers 0) output)
    (h : (writeDecompressed hleWriteDecompressedWram output cpu system).1 = false) :
    DecompressionStopped byteStores output cpu system
      (writeDecompressed hleWriteDecompressedWram output cpu system).2 := by
  refine writeDecompressed_stopped hleWriteDecompressedWram_stores (fun bytes hsmall address => ?_)
    hsized h
  have hwithin := @byteStores_within address address 0 bytes (by simp) (by omega)
  rwa [Nat.zero_add] at hwithin

theorem writtenVram_stopped {output : Option (List U8)} {cpu : Arm7tdmi} {system : System}
    (hsized : Sized system (cpu.registers 0) output)
    (h : (writeDecompressed hleWriteDecompressedVram output cpu system).1 = false) :
    DecompressionStopped halfwordStores output cpu system
      (writeDecompressed hleWriteDecompressedVram output cpu system).2 := by
  refine writeDecompressed_stopped hleWriteDecompressedVram_stores (fun bytes hsmall address => ?_)
    hsized h
  have hwithin := @halfwordStores_within address bytes address 0 (by simp) (by omega)
  rwa [Nat.zero_add] at hwithin

theorem lz77WriteWram_stores (output : List U8) (address : U32) (cycles : U64) (system : System) :
    ((lz77WriteWram output address cycles system).1,
        (lz77WriteWram output address cycles system).2.2) =
      hleWriteDecompressedWram output address system := by
  induction output generalizing address cycles system with
  | nil => rfl
  | cons value rest ih =>
      unfold lz77WriteWram hleWriteDecompressedWram BusState.andThen
      dsimp only
      split
      · exact ih _ _ _
      · next hrefused => exact Prod.ext (Bool.not_eq_true _ ▸ hrefused).symm rfl

/-! ## Bit unpacking -/

/-- The locals of the loops of `hle_bit_unpack`, with the number of units to come. -/
structure Unpacking where
  left : Nat
  packed : PackedByte
  reader : BitReader

/-- The stores of one unit of `hle_bit_unpack`: the unit itself, or a byte that it fills. The last
element stores a byte that is not full. -/
def unpackStores (info : BitUnpackInfo) (dest : U32) :
    Unpacking → System → Option (List BusStore × Unpacking)
  | ⟨0, packed, reader⟩, _ =>
      some
        (if packed.outBits = 0 then []
        else
          [.byte (dest + packed.outIndex)
            ((packed.outByte <<< (8 - packed.outBits).toNat).setWidth 8)],
        ⟨0, packed, reader⟩)
  | ⟨left + 1, packed, reader⟩, system =>
      (reader.readBits system info.srcBitNum).map fun (value, reader) =>
        let unit := value + info.dataOffset
        let index := packed.outIndex
        if info.destBitNum = 8 then
          ([.byte (dest + index) (unit.setWidth 8)], ⟨left, ⟨0, 0, index + 1⟩, reader⟩)
        else if info.destBitNum = 16 then
          ([.halfword (dest + index * 2) (unit.setWidth 16)], ⟨left, ⟨0, 0, index + 1⟩, reader⟩)
        else if info.destBitNum = 32 then
          ([.word (dest + index * 4) unit], ⟨left, ⟨0, 0, index + 1⟩, reader⟩)
        else
          let mask : U32 := 1 <<< info.destBitNum.toNat - 1
          let outByte := packed.outByte <<< info.destBitNum.toNat ||| unit &&& mask
          let outBits := packed.outBits + info.destBitNum
          if outBits = 8 then
            ([.byte (dest + index) (outByte.setWidth 8)], ⟨left, ⟨0, 0, index + 1⟩, reader⟩)
          else ([], ⟨left, ⟨outByte, outBits, index⟩, reader⟩)

/-- The bytes of an output of `hle_bit_unpack`. -/
def unpackedExtent (info : BitUnpackInfo) : Nat :=
  (info.length.toNat * info.destBitNum.toNat + 7) / 8

/-- Bit unpacking has stopped before its loops or at one of its units. -/
def BitUnpackStopped (cpu : Arm7tdmi) (before after : System) : Prop :=
  after = before ∨
    ∃ info, readBitUnpackInfo (cpu.registers 2) before = some info ∧
      Stopped (unpackStores info (cpu.registers 1))
        (Within (cpu.registers 1) (unpackedExtent info)) (info.length.toNat + 1)
        ⟨info.length.toNat, ⟨0, 0, 0⟩, ⟨cpu.registers 0, 0, 0⟩⟩ before after

/-- The loops for whole bytes, halfwords and words. -/
theorem unpackUnits_stopped {inside : U32 → Prop} {info : BitUnpackInfo} {dest : U32}
    {store : U32 → U32 → System → Bool × System} (unitStore : U32 → U32 → BusStore) {total : Nat}
    (hsmall : total < 2 ^ 32)
    (hstore : ∀ index value system,
      store index value system = (unitStore index value).perform ioCallbacks system)
    (hstores : ∀ left index reader system,
      unpackStores info dest ⟨left + 1, ⟨0, 0, index⟩, reader⟩ system =
        (reader.readBits system info.srcBitNum).map fun taken =>
          ([unitStore index (taken.1 + info.dataOffset)], ⟨left, ⟨0, 0, index + 1⟩, taken.2⟩))
    (hinside : ∀ index value, index.toNat < total → inside (unitStore index value).address)
    {count : Nat} {index : U32} (htotal : index.toNat + count ≤ total) {reader : BitReader}
    {system : System} (h : (unpackUnits info store count index reader system).1 = false) :
    Stopped (unpackStores info dest) inside (count + 1) ⟨count, ⟨0, 0, index⟩, reader⟩ system
      (unpackUnits info store count index reader system).2 := by
  induction count generalizing index reader system with
  | zero => exact Bool.noConfusion h
  | succ count ih =>
      have helement := hstores count index reader system
      unfold unpackUnits at h ⊢
      cases hread : reader.readBits system info.srcBitNum with
      | none =>
          rw [hread] at helement
          exact .unread helement
      | some taken =>
          rw [hread] at helement h
          have hnext : (index + 1).toNat = index.toNat + 1 := by bv_omega
          dsimp only at h ⊢
          rw [hstore, ← BusStore.performEach_single] at h ⊢
          refine .stores helement ?_ (fun middle hrest => ih (by omega) hrest) h
          intro store hmem
          rw [List.mem_singleton.mp hmem]
          exact hinside index _ (by omega)

/-- How far the packing of units below a byte has come. -/
structure PackedSoFar (width : Nat) (total left : Nat) (packed : PackedByte) : Prop where
  dvd : width ∣ packed.outBits.toNat
  bits : packed.outBits.toNat < 8
  position : packed.outIndex.toNat * 8 + packed.outBits.toNat + left * width = total * width

/-- The byte in work belongs to the output. -/
theorem PackedSoFar.inside {width total left : Nat} {packed : PackedByte}
    (h : PackedSoFar width total left packed) (hwork : 0 < packed.outBits.toNat + left * width) :
    packed.outIndex.toNat < (total * width + 7) / 8 := by
  have hposition := h.position
  omega

section Packed

variable {info : BitUnpackInfo} (hwidth : info.destBitNum = 1 ∨ info.destBitNum = 2 ∨
    info.destBitNum = 4) {count : Nat} {packed : PackedByte}

include hwidth

theorem outBits_add (hbits : packed.outBits.toNat < 8) :
    (packed.outBits + info.destBitNum).toNat = packed.outBits.toNat + info.destBitNum.toNat := by
  rcases hwidth with hwidth | hwidth | hwidth <;> rw [hwidth] <;> bv_omega

/-- A unit that completes the byte in work. -/
theorem PackedSoFar.completed
    (h : PackedSoFar info.destBitNum.toNat info.length.toNat (count + 1) packed)
    (hfull : packed.outBits + info.destBitNum = 8) :
    PackedSoFar info.destBitNum.toNat info.length.toNat count ⟨0, 0, packed.outIndex + 1⟩ := by
  have hposition := h.position
  rw [Nat.succ_mul] at hposition
  have hfits : info.length.toNat * info.destBitNum.toNat < 2 ^ 18 := by
    have hlength := info.length.isLt
    rcases hwidth with hwidth | hwidth | hwidth <;> rw [hwidth] <;> simp <;> omega
  have height : packed.outBits.toNat + info.destBitNum.toNat = 8 := by
    rw [← outBits_add hwidth h.bits, hfull]
    rfl
  have hnext : (packed.outIndex + 1).toNat = packed.outIndex.toNat + 1 := by bv_omega
  refine ⟨Nat.dvd_zero _, Nat.zero_lt_succ 7, ?_⟩
  show (packed.outIndex + 1).toNat * 8 + 0 + count * info.destBitNum.toNat = _
  omega

/-- A unit that leaves room in the byte in work. -/
theorem PackedSoFar.taken
    (h : PackedSoFar info.destBitNum.toNat info.length.toNat (count + 1) packed)
    (hfull : packed.outBits + info.destBitNum ≠ 8) (outByte : U32) :
    PackedSoFar info.destBitNum.toNat info.length.toNat count
      ⟨outByte, packed.outBits + info.destBitNum, packed.outIndex⟩ := by
  have hposition := h.position
  rw [Nat.succ_mul] at hposition
  have hsum := outBits_add hwidth h.bits
  have hdvd : info.destBitNum.toNat ∣ packed.outBits.toNat + info.destBitNum.toNat :=
    Nat.dvd_add h.dvd (Nat.dvd_refl _)
  have hne : packed.outBits.toNat + info.destBitNum.toNat ≠ 8 := by
    intro height
    exact hfull (BitVec.eq_of_toNat_eq (hsum.trans height))
  refine ⟨hsum.symm ▸ hdvd, ?_, ?_⟩
  · show (packed.outBits + info.destBitNum).toNat < 8
    have hbits := h.bits
    rw [hsum]
    rcases hwidth with hwidth | hwidth | hwidth <;>
      rw [hwidth] at hdvd hne ⊢ <;> simp at hdvd hne ⊢ <;> omega
  · show packed.outIndex.toNat * 8 + (packed.outBits + info.destBitNum).toNat +
      count * info.destBitNum.toNat = _
    rw [hsum]
    omega

/-- The stores of a unit below a byte: the byte in work once it is complete. -/
theorem unpackStores_packed (dest : U32) (reader : BitReader) (system : System) :
    unpackStores info dest ⟨count + 1, packed, reader⟩ system =
      (reader.readBits system info.srcBitNum).map fun taken =>
        let outByte := packed.outByte <<< info.destBitNum.toNat |||
          (taken.1 + info.dataOffset) &&& 1 <<< info.destBitNum.toNat - 1
        if packed.outBits + info.destBitNum = 8 then
          ([.byte (dest + packed.outIndex) (outByte.setWidth 8)],
            ⟨count, ⟨0, 0, packed.outIndex + 1⟩, taken.2⟩)
        else ([], ⟨count, ⟨outByte, packed.outBits + info.destBitNum, packed.outIndex⟩,
          taken.2⟩) := by
  have hwhole : info.destBitNum ≠ 8 ∧ info.destBitNum ≠ 16 ∧ info.destBitNum ≠ 32 := by
    rcases hwidth with hwidth | hwidth | hwidth <;> rw [hwidth] <;> decide
  unfold unpackStores
  simp only [if_neg hwhole.1, if_neg hwhole.2.1, if_neg hwhole.2.2]

/-- The loop for units below a byte. -/
theorem unpackPacked_stopped {dest : U32}
    (hpacked : PackedSoFar info.destBitNum.toNat info.length.toNat count packed)
    {reader : BitReader} {system : System}
    (h : (unpackPacked info dest count packed reader system).1 = false) :
    Stopped (unpackStores info dest) (Within dest (unpackedExtent info)) (count + 1)
      ⟨count, packed, reader⟩ system (unpackPacked info dest count packed reader system).2 := by
  have hpositive : 0 < info.destBitNum.toNat := by
    rcases hwidth with hwidth | hwidth | hwidth <;> rw [hwidth] <;> decide
  induction count generalizing packed reader system with
  | zero =>
      revert h
      unfold unpackPacked
      split
      · exact fun h => Bool.noConfusion h
      next hbits =>
        -- the byte that the units have not filled
        have hwork : 0 < packed.outBits.toNat := by
          have hne : packed.outBits.toNat ≠ 0 := fun hzero => hbits (BitVec.eq_of_toNat_eq hzero)
          omega
        intro h
        have helement : unpackStores info dest ⟨0, packed, reader⟩ system =
            some ([.byte (dest + packed.outIndex)
              ((packed.outByte <<< (8 - packed.outBits).toNat).setWidth 8)],
              ⟨0, packed, reader⟩) := by
          simp only [unpackStores, if_neg hbits]
        refine .refused helement ?_ (BusStore.kept_single h)
        intro store hmem
        rw [List.mem_singleton.mp hmem]
        exact within_of_offset (hpacked.inside (by omega))
  | succ count ih =>
      have helement := @unpackStores_packed info hwidth count packed dest reader system
      unfold unpackPacked at h ⊢
      cases hread : reader.readBits system info.srcBitNum with
      | none =>
          rw [hread] at helement
          exact .unread helement
      | some taken =>
          rw [hread] at helement h
          dsimp only [Option.map_some] at helement h ⊢
          by_cases hfull : packed.outBits + info.destBitNum = 8
          · rw [if_pos hfull] at helement h ⊢
            have hbyte : ∀ value : U8, system.write8 ioCallbacks (dest + packed.outIndex) value =
                BusStore.performEach ioCallbacks [.byte (dest + packed.outIndex) value] system :=
              fun value => (BusStore.performEach_single ioCallbacks (.byte _ value) system).symm
            rw [hbyte] at h ⊢
            have hlater := hpacked.completed hwidth hfull
            refine .stores helement ?_ (fun middle hrest => ih hlater hrest) h
            intro store hmem
            rw [List.mem_singleton.mp hmem]
            refine within_of_offset (hpacked.inside ?_)
            rw [Nat.succ_mul]
            omega
          · rw [if_neg hfull] at helement h ⊢
            exact .next helement (fun _ h => absurd h List.not_mem_nil) rfl
              (ih (hpacked.taken hwidth hfull _) h)

end Packed

theorem hleBitUnpack_stopped {cpu : Arm7tdmi} {system : System}
    (h : (hleBitUnpack cpu system).1 = false) :
    BitUnpackStopped cpu system (hleBitUnpack cpu system).2 := by
  revert h
  unfold hleBitUnpack
  dsimp only
  split
  · exact fun _ => Or.inl rfl
  next info hinfo =>
    -- every store of whole bytes lies within the extent that the header promises
    have hwide (size : Nat) (hpositive : 0 < size) (hsize : size ≤ 4)
        (hwidth : info.destBitNum.toNat = size * 8) (index : U32)
        (hindex : index.toNat < info.length.toNat) :
        Within (cpu.registers 1) (unpackedExtent info)
          (cpu.registers 1 + index * BitVec.ofNat 32 size) := by
      have hextent : unpackedExtent info = info.length.toNat * size := by
        unfold unpackedExtent
        rw [hwidth, ← Nat.mul_assoc]
        omega
      refine within_of_offset (lt_of_le_of_lt (toNat_mul_le _ _) ?_)
      rw [BitVec.toNat_ofNat, Nat.mod_eq_of_lt (by omega), hextent]
      exact Nat.mul_lt_mul_of_pos_right hindex hpositive
    have hlength : info.length.toNat < 2 ^ 32 := info.length.isLt.trans (by decide)
    have hstopped {after : System} (h : Stopped (unpackStores info (cpu.registers 1))
        (Within (cpu.registers 1) (unpackedExtent info)) (info.length.toNat + 1)
        ⟨info.length.toNat, ⟨0, 0, 0⟩, ⟨cpu.registers 0, 0, 0⟩⟩ system after) :
        BitUnpackStopped cpu system after := Or.inr ⟨info, hinfo, h⟩
    split
    · exact fun _ => Or.inl rfl
    split
    · exact fun _ => Or.inl rfl
    next hwidths =>
      split
      · next h8 =>
          refine fun h => hstopped (unpackUnits_stopped
            (fun index value => .byte (cpu.registers 1 + index) (value.setWidth 8)) hlength
            (fun _ _ _ => rfl) ?_ ?_ (Nat.zero_add _).le h)
          · intro left index reader system
            simp only [unpackStores, if_pos h8]
          · intro index value hindex
            have hinside := hwide 1 (by decide) (by decide) (by rw [h8]; rfl) index hindex
            rwa [BitVec.mul_one] at hinside
      next h8 =>
      split
      · next h16 =>
          refine fun h => hstopped (unpackUnits_stopped
            (fun index value => .halfword (cpu.registers 1 + index * 2) (value.setWidth 16)) hlength
            (fun _ _ _ => rfl) ?_ ?_ (Nat.zero_add _).le h)
          · intro left index reader system
            simp only [unpackStores, if_neg h8, if_pos h16]
          · exact fun index value => hwide 2 (by decide) (by decide) (by rw [h16]; rfl) index
      next h16 =>
      split
      · next h32 =>
          refine fun h => hstopped (unpackUnits_stopped
            (fun index value => .word (cpu.registers 1 + index * 4) value) hlength
            (fun _ _ _ => rfl) ?_ ?_ (Nat.zero_add _).le h)
          · intro left index reader system
            simp only [unpackStores, if_neg h8, if_neg h16, if_pos h32]
          · exact fun index value => hwide 4 (by decide) (by decide) (by rw [h32]; rfl) index
      · next h32 =>
          have hwidth : info.destBitNum = 1 ∨ info.destBitNum = 2 ∨ info.destBitNum = 4 := by
            simp only [List.mem_cons, List.not_mem_nil, not_not, or_false] at hwidths
            exact hwidths.imp id (Or.imp id fun hwide => by simp_all)
          refine fun h => hstopped (unpackPacked_stopped hwidth ⟨Nat.dvd_zero _, by decide, ?_⟩ h)
          exact Nat.zero_add _

end Gba.Core
