import Gba.Core.ByteBlocks
import Gba.Library.BackReference
import Gba.Library.FlaggedStream

/-!
# LZ77 decompression

`LZ77UnCompWram` and `LZ77UnCompVram` against the format of their streams: literal bytes and
references back into the output, in groups of eight after a flag byte. The services store what the
blocks of an encoding expand to and leave the registers behind the source and behind the
destination. From a stream with a defect nothing is stored and no register changes. A header without
output is accepted whatever its type.
-/

namespace Gba.Core

open LittleEndian Library

/-! ## The format -/

/-- A block of the format: a byte, or a reference with its fields. -/
inductive Lz77Block where
  | literal (value : U8)
  | reference (length : BitVec 4) (displacement : BitVec 12)

namespace Lz77Block

/-- The bytes of a block. -/
def bytes : Lz77Block → List U8
  | literal value => [value]
  | reference length displacement =>
      [(length ++ displacement.extractLsb' 8 4 : BitVec 8), displacement.setWidth 8]

/-- What a block adds: a reference repeats what is `displacement + 1` bytes back. -/
def added (output : List U8) : Lz77Block → Option (List U8)
  | literal value => some [value]
  | reference length displacement =>
      if displacement.toNat + 1 ≤ output.length then
        some (repeated 0 output (displacement.toNat + 1) (length.toNat + 3))
      else none

theorem added_reference (output : List U8) (length : BitVec 4) (displacement : BitVec 12) :
    added output (.reference length displacement) =
      if displacement.toNat + 1 ≤ output.length then
        some (repeated 0 output (displacement.toNat + 1) (length.toNat + 3))
      else none := rfl

theorem added_ne_nil {output more : List U8} {block : Lz77Block}
    (h : added output block = some more) : more ≠ [] := by
  cases block with
  | literal value =>
    rw [← Option.some.inj h]
    exact List.cons_ne_nil _ _
  | reference length displacement =>
    rw [added_reference] at h
    split at h
    · rw [← Option.some.inj h, ← List.length_pos_iff, repeated_length]
      omega
    · contradiction

end Lz77Block

/-- The format of the streams. -/
def lz77Format : BlockFormat Lz77Block where
  flag
    | .literal _ => false
    | .reference _ _ => true
  bytes := Lz77Block.bytes
  added := Lz77Block.added
  added_ne_nil := Lz77Block.added_ne_nil

/-- The bytes that the bus reads. -/
def busBytes (system : System) : ByteSource U32 := ⟨system.read8 ioCallbacks, (· + 1)⟩

theorem placed_iff_reads {system : System} {source : U32} {bytes : List U8} :
    Placed system source bytes ↔ (busBytes system).Reads source bytes := by
  induction bytes generalizing source with
  | nil => exact iff_of_true (placed_nil _ _) trivial
  | cons first rest ih =>
    rw [placed_cons, ih]
    rfl

/-! ## The fields of a reference -/

theorem reference_bytes_toNat (length : BitVec 4) (displacement : BitVec 12) :
    (length ++ displacement.extractLsb' 8 4 : BitVec 8).toNat =
      length.toNat * 16 + displacement.toNat / 256 := by
  have hlt : (displacement.extractLsb' 8 4).toNat < 2 ^ 4 := BitVec.isLt _
  rw [BitVec.toNat_append, ← Nat.shiftLeft_add_eq_or_of_lt hlt, Nat.shiftLeft_eq,
    BitVec.extractLsb'_toNat, Nat.shiftRight_eq_div_pow]
  have hdisplacement := displacement.isLt
  omega

/-- What the source computes from the two bytes. -/
theorem reference_fields (length : BitVec 4) (displacement : BitVec 12) :
    ((length ++ displacement.extractLsb' 8 4 : BitVec 8) >>> 4).toNat + 3 = length.toNat + 3 ∧
      ((length ++ displacement.extractLsb' 8 4 : BitVec 8) &&& 0x0F#8).toNat * 256 +
        (displacement.setWidth 8).toNat + 1 = displacement.toNat + 1 := by
  have hlength := length.isLt
  have hdisplacement := displacement.isLt
  have hmask : ∀ n : Nat, n &&& 15 = n % 16 := fun n => Nat.and_two_pow_sub_one_eq_mod n 4
  rw [BitVec.toNat_ushiftRight, BitVec.toNat_and, reference_bytes_toNat,
    Nat.shiftRight_eq_div_pow, BitVec.toNat_setWidth]
  show _ ∧ ((length.toNat * 16 + displacement.toNat / 256) &&& 15) * 256 + _ + 1 = _
  rw [hmask]
  omega

/-- Any two bytes are a reference. -/
theorem exists_reference (high low : U8) :
    ∃ length displacement, (Lz77Block.reference length displacement).bytes = [high, low] := by
  refine ⟨high.extractLsb' 4 4, (high.setWidth 4 ++ low : BitVec 12), ?_⟩
  have hhigh : (high.extractLsb' 4 4 ++ (high.setWidth 4 ++ low : BitVec 12).extractLsb' 8 4 :
      BitVec 8) = high := by
    refine BitVec.eq_of_toNat_eq ?_
    have hlow := low.isLt
    have hlt : low.toNat < 2 ^ 8 := low.isLt
    rw [reference_bytes_toNat, BitVec.extractLsb'_toNat, BitVec.toNat_append,
      ← Nat.shiftLeft_add_eq_or_of_lt hlt, Nat.shiftLeft_eq, BitVec.toNat_setWidth,
      Nat.shiftRight_eq_div_pow]
    have hhigh := high.isLt
    omega
  have hlow : (high.setWidth 4 ++ low : BitVec 12).setWidth 8 = low := by
    refine BitVec.eq_of_toNat_eq ?_
    have hlt : low.toNat < 2 ^ 8 := low.isLt
    rw [BitVec.toNat_setWidth, BitVec.toNat_append, ← Nat.shiftLeft_add_eq_or_of_lt hlt,
      Nat.shiftLeft_eq]
    omega
  show [_, _] = _
  rw [hhigh, hlow]

/-- A literal byte has a defect when it cannot be read. -/
theorem lz77_defect_literal {source : ByteSource U32} {position : U32} {output : List U8} :
    lz77Format.Defect source false position output ↔ source.read position = none := by
  constructor
  · intro h
    cases hread : source.read position with
    | none => rfl
    | some value => exact absurd (h (.literal value) rfl ⟨hread, trivial⟩) (Option.some_ne_none _)
  · rintro h block hflag hreads
    cases block with
    | literal value =>
      rw [hreads.1] at h
      contradiction
    | reference length displacement => contradiction

/-- A reference has a defect when one of its bytes cannot be read or when it points before the start
of the output. -/
theorem lz77_defect_reference {source : ByteSource U32} {position : U32} {output : List U8} :
    lz77Format.Defect source true position output ↔
      source.read position = none ∨ source.read (source.next position) = none ∨
        ∃ length displacement,
          source.Reads position (Lz77Block.reference length displacement).bytes ∧
          output.length < displacement.toNat + 1 := by
  constructor
  · intro h
    cases hhigh : source.read position with
    | none => exact .inl rfl
    | some high =>
      cases hlow : source.read (source.next position) with
      | none => exact .inr (.inl rfl)
      | some low =>
        obtain ⟨length, displacement, hbytes⟩ := exists_reference high low
        have hreads : source.Reads position (Lz77Block.reference length displacement).bytes := by
          rw [hbytes]
          exact ⟨hhigh, hlow, trivial⟩
        refine .inr (.inr ⟨length, displacement, hreads, ?_⟩)
        have hadded : Lz77Block.added output (.reference length displacement) = none :=
          Option.map_eq_none_iff.mp (h (.reference length displacement) rfl hreads)
        rw [Lz77Block.added_reference] at hadded
        split at hadded
        · contradiction
        · next hlt => exact Nat.not_le.mp hlt
  · intro h block hflag hreads
    cases block with
    | literal value => contradiction
    | reference length displacement =>
      rcases h with h | h | ⟨length', displacement', hreads', hlt⟩
      · rw [hreads.1] at h
        contradiction
      · rw [hreads.2.1] at h
        contradiction
      · -- the two readings are of the same bytes
        have hhigh := Option.some.inj (hreads.1.symm.trans hreads'.1)
        have hlow := Option.some.inj (hreads.2.1.symm.trans hreads'.2.1)
        have hsame : displacement.toNat + 1 = displacement'.toNat + 1 := by
          rw [← (reference_fields length displacement).2, hhigh, hlow,
            (reference_fields length' displacement').2]
        have hadded : lz77Format.added output (.reference length displacement) = none :=
          if_neg (by omega)
        exact Option.map_eq_none_iff.mpr hadded

/-! ## The decoder -/

namespace Lz77Call

variable (call : Lz77Call)

theorem readByte_none {state : Lz77State}
    (h : call.system.read8 ioCallbacks state.source = none) : call.readByte state = none := by
  unfold readByte
  rw [h]
  rfl

theorem readByte_some {state : Lz77State} {byte : U8}
    (h : call.system.read8 ioCallbacks state.source = some byte) :
    ∃ next, call.readByte state = some (byte, next) ∧ next.source = state.source + 1 ∧
      next.output = state.output := by
  unfold readByte
  rw [h]
  exact ⟨_, rfl, rfl, rfl⟩

/-- The copy of a reference up to the size of the output. -/
theorem copyBytes_spec (displacement length : Nat) {state : Lz77State}
    (h : state.output.length ≤ call.size) :
    (call.copyBytes displacement length state).source = state.source ∧
      (call.copyBytes displacement length state).output =
        (copyBack 0 displacement length state.output).take call.size := by
  induction length generalizing state with
  | zero => exact ⟨rfl, (List.take_of_length_le h).symm⟩
  | succ length ih =>
    unfold copyBytes
    by_cases hfull : call.size ≤ state.output.length
    · obtain ⟨tail, htail⟩ := @copyBack_append _ (0 : U8) displacement (length + 1) state.output
      have hsize : call.size = state.output.length := by omega
      rw [if_pos hfull, htail, hsize, List.take_left]
      exact ⟨rfl, rfl⟩
    · rw [if_neg hfull]
      refine ih ?_
      show (state.output ++ [_]).length ≤ call.size
      rw [List.length_append]
      exact Nat.not_le.mp hfull

theorem literal_some {state : Lz77State} {value : U8}
    (h : call.system.read8 ioCallbacks state.source = some value) :
    ∃ next, call.literal state = some next ∧ next.source = state.source + 1 ∧
      next.output = state.output ++ [value] := by
  obtain ⟨next, hread, hsource, houtput⟩ := call.readByte_some h
  unfold literal
  rw [hread]
  exact ⟨_, rfl, hsource, congrArg (· ++ [value]) houtput⟩

theorem reference_unreadable {state : Lz77State}
    (h : call.system.read8 ioCallbacks state.source = none ∨
      call.system.read8 ioCallbacks (state.source + 1) = none) :
    call.reference state = none := by
  unfold reference
  cases hhigh : call.system.read8 ioCallbacks state.source with
  | none =>
    rw [call.readByte_none hhigh]
    rfl
  | some high =>
    obtain ⟨next, hread, hsource, -⟩ := call.readByte_some hhigh
    have hlow : call.system.read8 ioCallbacks next.source = none := by
      rw [hsource]
      exact h.resolve_left (by rw [hhigh]; exact Option.some_ne_none _)
    rw [hread]
    show (call.readByte next).bind _ = none
    rw [call.readByte_none hlow]
    rfl

/-- A reference that can be read. -/
theorem reference_eq {state : Lz77State} {length : BitVec 4} {displacement : BitVec 12}
    (h : (busBytes call.system).Reads state.source
      (Lz77Block.reference length displacement).bytes) :
    ∃ next : Lz77State, next.source = state.source + 1 + 1 ∧ next.output = state.output ∧
      call.reference state =
        if state.output.length < displacement.toNat + 1 then none
        else some (call.copyBytes (displacement.toNat + 1) (length.toNat + 3) next) := by
  obtain ⟨hhigh, hlow, -⟩ := h
  obtain ⟨hlength, hdisplacement⟩ := reference_fields length displacement
  obtain ⟨first, hfirst, hfirstSource, hfirstOutput⟩ := call.readByte_some hhigh
  have hlow' : call.system.read8 ioCallbacks first.source = some (displacement.setWidth 8) := by
    rw [hfirstSource]
    exact hlow
  obtain ⟨second, hsecond, hsecondSource, hsecondOutput⟩ := call.readByte_some hlow'
  refine ⟨second, ?_, hsecondOutput.trans hfirstOutput, ?_⟩
  · rw [hsecondSource, hfirstSource]
  · unfold reference
    rw [hfirst]
    show (call.readByte first).bind _ = _
    rw [hsecond]
    show (if second.output.length < _ then none else some (call.copyBytes _ _ second)) = _
    rw [hdisplacement, hlength, hsecondOutput, hfirstOutput]

/-- The loops of the source as a decoder of the format. -/
def decoder : Decoder (busBytes call.system) lz77Format Lz77State where
  size := call.size
  position state := state.source
  output state := state.output
  flags state := call.readByte { state with cycles := state.cycles + 14 }
  block flag state :=
    let charged := { state with cycles := state.cycles + 32 }
    if flag then call.reference charged else call.literal charged
  flags_none h := call.readByte_none h
  flags_some {state byte} h := by
    obtain ⟨next, hread, hsource, houtput⟩ :=
      @readByte_some call { state with cycles := state.cycles + 14 } byte h
    exact ⟨next, hread, hsource, houtput⟩
  block_none {flag state} _ h := by
    cases flag with
    | false =>
      show call.literal { state with cycles := state.cycles + 32 } = none
      unfold literal
      rw [@readByte_none call { state with cycles := state.cycles + 32 }
        (lz77_defect_literal.mp h)]
      rfl
    | true =>
      show call.reference _ = none
      rcases lz77_defect_reference.mp h with h | h | ⟨length, displacement, hreads, hlt⟩
      · exact call.reference_unreadable (.inl h)
      · exact call.reference_unreadable (.inr h)
      · obtain ⟨next, -, -, heq⟩ :=
          @reference_eq call { state with cycles := state.cycles + 32 } _ _ hreads
        rw [heq]
        exact if_pos hlt
  block_some {state value full} hlt hreads hexpand := by
    cases value with
    | literal value =>
      obtain ⟨next, hnext, hsource, houtput⟩ :=
        @literal_some call { state with cycles := state.cycles + 32 } value hreads.1
      refine ⟨next, hnext, ?_, hsource⟩
      have hfull : state.output ++ [value] = full := Option.some.inj hexpand
      rw [houtput, hfull, List.take_of_length_le]
      rw [← hfull, List.length_append]
      exact hlt
    | reference length displacement =>
      obtain ⟨next, hsource, houtput, heq⟩ :=
        @reference_eq call { state with cycles := state.cycles + 32 } _ _ hreads
      obtain ⟨more, hadded, -, rfl⟩ := BlockFormat.expand_some hexpand
      have hadded' : Lz77Block.added state.output (.reference length displacement) = some more :=
        hadded
      rw [Lz77Block.added_reference] at hadded'
      split at hadded'
      · next hle =>
        have hnextOutput : next.output.length ≤ call.size := by
          rw [houtput]
          exact hlt.le
        obtain ⟨hcopySource, hcopyOutput⟩ :=
          call.copyBytes_spec (displacement.toNat + 1) (length.toNat + 3) hnextOutput
        refine ⟨_, heq.trans (if_neg (Nat.not_lt.mpr hle)), ?_, hcopySource.trans hsource⟩
        rw [hcopyOutput, houtput, copyBack_eq _ (Nat.succ_pos _) hle, Option.some.inj hadded']
      · contradiction

theorem blocks_eq (flags : U8) (bits : Nat) (state : Lz77State) :
    call.blocks flags bits state = call.decoder.blocks flags bits state := by
  induction bits generalizing state with
  | zero => rfl
  | succ bits ih =>
    unfold blocks Decoder.blocks
    rw [funext ih]
    rfl

theorem flagBytes_eq (passes : Nat) (state : Lz77State) :
    call.flagBytes passes state = call.decoder.groups passes state := by
  induction passes generalizing state with
  | zero => rfl
  | succ passes ih =>
    unfold flagBytes Decoder.groups
    simp only [funext ih, blocks_eq]
    rfl

end Lz77Call

/-! ## Streams -/

/-- A stream with what it expands to and where it ends: a header and an encoding, or a header
without output. -/
inductive Lz77Stream (system : System) (source : U32) : List U8 → U32 → Prop
  | empty {headerType : U8} : readHeader system source = some (headerType, 0) →
      Lz77Stream system source [] (source + 4)
  | blocks {size : U32} {data : List U8} {stop : U32} :
      readHeader system source = some (0x10#8, size) → size ≠ 0 →
      lz77Format.Decodes size.toNat (busBytes system) (source + 4) data stop →
      Lz77Stream system source data stop

/-- A header that cannot be read, and for a stream with output the wrong type or a defect. -/
def Lz77Malformed (system : System) (source : U32) : Prop :=
  match readHeader system source with
  | none => True
  | some (headerType, size) =>
      size ≠ 0 ∧ (headerType ≠ 0x10#8 ∨
        lz77Format.Malformed size.toNat (busBytes system) (source + 4) [])

/-- The size in the header is that of the output. -/
theorem Lz77Stream.size_eq {system : System} {source : U32} {data : List U8} {stop : U32}
    (h : Lz77Stream system source data stop) :
    ∃ headerType, readHeader system source = some (headerType, BitVec.ofNat 32 data.length) := by
  cases h with
  | empty hheader => exact ⟨_, hheader⟩
  | @blocks size _ _ hheader _ hdecodes =>
    obtain ⟨hcomplete, blocks, bytes, -, -, hextends, -⟩ := hdecodes
    have hle := BlockFormat.extend_le_size (Nat.zero_le _) hextends
    have hlength : BitVec.ofNat 32 data.length = size := by
      rw [Nat.le_antisymm hle hcomplete, BitVec.ofNat_toNat, BitVec.setWidth_eq]
    exact ⟨_, hheader.trans (by rw [hlength])⟩

section Decompression

variable {system : System} {source : U32} (destination : U32) (vram : Bool)

/-- The state before the first flag byte. -/
def lz77Start (system : System) (source : U32) : Lz77State :=
  ⟨source + 4, [], 20 + hleMemoryCycles system.devices.waitcnt source .word true⟩

theorem hleLz77Decompress_eq {headerType : U8} {size : U32}
    (h : readHeader system source = some (headerType, size)) :
    hleLz77DecompressFromSource system source destination vram =
      if size = 0 then some (lz77Start system source)
      else if headerType ≠ 0x10#8 then none
      else (Lz77Call.decoder ⟨system, destination, vram, size.toNat⟩).groups size.toNat
        (lz77Start system source) := by
  unfold hleLz77DecompressFromSource
  rw [h]
  show (if size = 0 then some (lz77Start system source)
    else if headerType ≠ 0x10#8 then none
    else Lz77Call.flagBytes ⟨system, destination, vram, size.toNat⟩ size.toNat
      (lz77Start system source)) = _
  rw [Lz77Call.flagBytes_eq]

theorem hleLz77Decompress_stream {data : List U8} {stop : U32}
    (h : Lz77Stream system source data stop) :
    ∃ state, hleLz77DecompressFromSource system source destination vram = some state ∧
      state.output = data ∧ state.source = stop := by
  cases h with
  | empty hheader =>
    rw [hleLz77Decompress_eq destination vram hheader, if_pos rfl]
    exact ⟨_, rfl, rfl, rfl⟩
  | @blocks size _ _ hheader hsize hdecodes =>
    obtain ⟨hcomplete, blocks, bytes, hencodes, hreads, hextends, hstop⟩ := hdecodes
    rw [hleLz77Decompress_eq destination vram hheader, if_neg hsize, if_neg (not_not.mpr rfl)]
    obtain ⟨state, hgroups, houtput, hposition⟩ :=
      @Decoder.groups_of_encodes _ _ _ _ _
        (Lz77Call.decoder ⟨system, destination, vram, size.toNat⟩) blocks bytes data size.toNat
        (lz77Start system source) hencodes (Nat.le_add_left _ _) hreads hextends hcomplete
    exact ⟨state, hgroups, houtput, hposition.trans hstop.symm⟩

theorem hleLz77Decompress_malformed (h : Lz77Malformed system source) :
    hleLz77DecompressFromSource system source destination vram = none := by
  unfold Lz77Malformed at h
  cases hheader : readHeader system source with
  | none =>
    unfold hleLz77DecompressFromSource
    rw [hheader]
    rfl
  | some found =>
    obtain ⟨headerType, size⟩ := found
    rw [hheader] at h
    obtain ⟨hsize, h⟩ := h
    rw [hleLz77Decompress_eq destination vram hheader, if_neg hsize]
    split
    · rfl
    · next htype =>
      have hdefect := h.resolve_left htype
      exact (@Decoder.groups_eq_none_iff _ _ _ _ _
        (Lz77Call.decoder ⟨system, destination, vram, size.toNat⟩) size.toNat
        (lz77Start system source) (Nat.le_add_left _ _)).mpr hdefect

/-- A stream is malformed exactly when it is no stream of anything. -/
theorem lz77Malformed_iff :
    Lz77Malformed system source ↔ ∀ data stop, ¬Lz77Stream system source data stop := by
  constructor
  · intro hmalformed data stop hstream
    obtain ⟨state, hstate, -⟩ := hleLz77Decompress_stream 0 false hstream
    rw [hleLz77Decompress_malformed 0 false hmalformed] at hstate
    contradiction
  · intro h
    unfold Lz77Malformed
    cases hheader : readHeader system source with
    | none => trivial
    | some found =>
      obtain ⟨headerType, size⟩ := found
      have hsize : size ≠ 0 := by
        rintro rfl
        exact h [] _ (.empty hheader)
      refine ⟨hsize, ?_⟩
      by_cases htype : headerType = 0x10#8
      · subst htype
        refine .inr ?_
        have hpasses : size.toNat ≤ (lz77Start system source).output.length + size.toNat :=
          Nat.le_add_left _ _
        cases hgroups : (Lz77Call.decoder ⟨system, 0, false, size.toNat⟩).groups size.toNat
            (lz77Start system source) with
        | none => exact (Decoder.groups_eq_none_iff hpasses).mp hgroups
        | some state =>
          obtain ⟨hcomplete, blocks, bytes, hencodes, hreads, hextends, hposition⟩ :=
            Decoder.encodes_of_groups hpasses hgroups
          exact absurd (.blocks hheader hsize
            ⟨hcomplete, blocks, bytes, hencodes, hreads, hextends, hposition⟩) (h _ _)
      · exact .inl htype

end Decompression

/-! ## The services -/

/-- The two services. -/
def hleLz77Uncomp (vram : Bool) (session : CoreSession) : Bool × CoreSession :=
  if vram then session.hleLz77UncompVram else session.hleLz77UncompWram

/-- Where a service stores its output: in work RAM, or at an even address of VRAM. -/
def Lz77Destination (vram : Bool) (address : U32) (count : Nat) : Prop :=
  if vram then address.toNat % 2 = 0 ∧ BlockRange [.vram] address count
  else BlockRange workRam address count

theorem lz77WriteWram_eq {output : List U8} {address : U32} (cycles : U64) (system : System)
    (h : BlockRange workRam address output.length) :
    ∃ total, lz77WriteWram output address cycles system =
      (true, total, system.withMemory (system.memory.storeBlock output address)) := by
  induction output generalizing address cycles system with
  | nil => exact ⟨cycles, rfl⟩
  | cons value rest ih =>
    obtain ⟨total, htotal⟩ := ih
      (cycles + hleMemoryCycles system.devices.waitcnt address .byte false)
      (system.withMemory (system.memory.setCellAt (classify address) value)) h.tail
    refine ⟨total, ?_⟩
    unfold lz77WriteWram
    rw [write8_workRam system (inRam_of_mem h.head)]
    exact htotal

theorem finishLz77_cpu (session : CoreSession) (system : System) (state : Lz77State) (dest : U32)
    (cycles : U64) :
    (session.finishLz77 system state dest cycles).cpu =
      ((session.cpu.setRegister 0 state.source).setRegister 1
        (dest + BitVec.ofNat 32 state.output.length)).setRegister 3 0 ∧
    (session.finishLz77 system state dest cycles).system = system := by
  unfold CoreSession.finishLz77 CoreSession.queueHleWork
  dsimp only
  split
  · exact ⟨rfl, rfl⟩
  · exact ⟨rfl, rfl⟩

theorem cleared_of_even {address : U32} (h : address.toNat % 2 = 0) :
    address &&& ~~~1#32 = address := by
  refine BitVec.eq_of_toNat_eq ?_
  have hclear := @clearLow_toNat address 1 (by decide)
  refine hclear.trans ?_
  omega

theorem hleLz77Uncomp_malformed {session : CoreSession} (vram : Bool)
    (h : Lz77Malformed session.system (session.cpu.registers 0)) :
    hleLz77Uncomp vram session = (false, session) := by
  unfold hleLz77Uncomp CoreSession.hleLz77UncompVram CoreSession.hleLz77UncompWram
  dsimp only
  rw [hleLz77Decompress_malformed _ _ h, hleLz77Decompress_malformed _ _ h]
  split
  · rfl
  · rfl

theorem hleLz77Uncomp_stream {session : CoreSession} {vram : Bool} {data : List U8} {stop : U32}
    (hstream : Lz77Stream session.system (session.cpu.registers 0) data stop)
    (hdestination : Lz77Destination vram (session.cpu.registers 1) (storedBlock vram data).length) :
    ∃ after, hleLz77Uncomp vram session = (true, after) ∧
      after.cpu = ((session.cpu.setRegister 0 stop).setRegister 1
        (session.cpu.registers 1 + BitVec.ofNat 32 data.length)).setRegister 3 0 ∧
      after.system = session.system.withMemory
        (session.system.memory.storeBlock (storedBlock vram data) (session.cpu.registers 1)) := by
  cases vram with
  | false =>
    obtain ⟨state, hstate, rfl, rfl⟩ :=
      hleLz77Decompress_stream (session.cpu.registers 1) false hstream
    have hrange : BlockRange workRam (session.cpu.registers 1) state.output.length := hdestination
    obtain ⟨total, htotal⟩ := lz77WriteWram_eq state.cycles session.system hrange
    refine ⟨_, ?_, finishLz77_cpu session _ state (session.cpu.registers 1) total⟩
    show session.hleLz77UncompWram = _
    unfold CoreSession.hleLz77UncompWram
    dsimp only
    rw [hstate]
    dsimp only
    rw [htotal]
    rfl
  | true =>
    obtain ⟨heven, hrange⟩ := hdestination
    have hdest := cleared_of_even heven
    obtain ⟨state, hstate, rfl, rfl⟩ :=
      hleLz77Decompress_stream (session.cpu.registers 1) true hstream
    have hwrite := hleWriteDecompressedVram_eq state.output session.system (.inl ⟨heven, hrange⟩)
    refine ⟨_, ?_, finishLz77_cpu session _ state (session.cpu.registers 1) (state.cycles +
      lz77VramCycles session.system.devices.waitcnt state.output (session.cpu.registers 1))⟩
    show session.hleLz77UncompVram = _
    unfold CoreSession.hleLz77UncompVram
    dsimp only
    rw [hdest, hstate]
    dsimp only
    rw [hwrite]
    rfl

/-- The services store what a stream expands to, leave `r0` after the stream and `r1` after the
output, and change no other byte; the VRAM service fills the last halfword. A stream is malformed
exactly when there is nothing that it expands to, and then nothing changes. -/
theorem hleLz77Uncomp_correct (session : CoreSession) (vram : Bool) :
    (∀ data stop, Lz77Stream session.system (session.cpu.registers 0) data stop →
      Lz77Destination vram (session.cpu.registers 1) (storedBlock vram data).length →
      (∃ headerType, readHeader session.system (session.cpu.registers 0) =
        some (headerType, BitVec.ofNat 32 data.length)) ∧
      ∃ after memory, hleLz77Uncomp vram session = (true, after) ∧
        after.cpu = ((session.cpu.setRegister 0 stop).setRegister 1
          (session.cpu.registers 1 + BitVec.ofNat 32 data.length)).setRegister 3 0 ∧
        after.system = session.system.withMemory memory ∧
        StoresBlock session.system.memory memory (session.cpu.registers 1)
          (storedBlock vram data)) ∧
    (Lz77Malformed session.system (session.cpu.registers 0) ↔
      ∀ data stop, ¬Lz77Stream session.system (session.cpu.registers 0) data stop) ∧
    (Lz77Malformed session.system (session.cpu.registers 0) →
      hleLz77Uncomp vram session = (false, session)) := by
  refine ⟨?_, lz77Malformed_iff, hleLz77Uncomp_malformed vram⟩
  intro data stop hstream hdestination
  obtain ⟨after, hafter, hcpu, hsystem⟩ := hleLz77Uncomp_stream hstream hdestination
  refine ⟨hstream.size_eq, after, _, hafter, hcpu, hsystem, ?_⟩
  cases vram with
  | false => exact session.system.memory.storesBlock workRam_internal hdestination
  | true => exact session.system.memory.storesBlock (by decide) hdestination.2

/-- A byte and a reference to it that overlaps what it writes and is cut at the end. -/
def repeatedByte : CoreSession :=
  callSession [0x10, 3, 0, 0, 0x40, 0x41, 0x10, 0x00] 0x03000000#32 0x02000000#32

theorem hleLz77Uncomp_repeatedByte :
    ∃ after memory, hleLz77Uncomp false repeatedByte = (true, after) ∧
      after.cpu = ((repeatedByte.cpu.setRegister 0 0x03000008).setRegister 1
        0x02000003).setRegister 3 0 ∧
      after.system = repeatedByte.system.withMemory memory ∧
      StoresBlock repeatedByte.system.memory memory 0x02000000 [0x41, 0x41, 0x41] := by
  have hencodes : lz77Format.Encodes [.literal 0x41, .reference 1 0] [0x40, 0x41, 0x10, 0x00] :=
    @BlockFormat.Encodes.group _ lz77Format 0x40 [.literal 0x41, .reference 1 0] [] []
      (List.cons_ne_nil _ _) (by decide) (fun h => absurd rfl h) .nil
  have hreads : (busBytes repeatedByte.system).Reads 0x03000004#32 [0x40, 0x41, 0x10, 0x00] :=
    placed_iff_reads.mp (by decide +kernel)
  have hstream : Lz77Stream repeatedByte.system 0x03000000#32 [0x41, 0x41, 0x41] 0x03000008#32 :=
    @Lz77Stream.blocks _ _ 3#32 _ _ (by decide +kernel) (by decide)
      ⟨by decide, _, _, hencodes, hreads, by decide +kernel, rfl⟩
  exact ((hleLz77Uncomp_correct repeatedByte false).1 _ _ hstream
    (show BlockRange workRam _ _ by decide +kernel)).2

/-- Without output the type does not matter. -/
def emptyOfOtherType : CoreSession :=
  callSession [0x77, 0, 0, 0] 0x03000000#32 0x02000000#32

/-- One byte for VRAM. -/
def oneByte : CoreSession :=
  let session := callSession [0x10, 1, 0, 0, 0x00, 0x41] 0x03000000#32 0x06000000#32
  { session with
    system :=
      session.system.withMemory { session.system.memory with vram := fun _ => 0xFF } }

/-- A header of another type is accepted, and one byte for VRAM writes two. -/
theorem hleLz77Uncomp_accepts_otherType :
    readHeader emptyOfOtherType.system (emptyOfOtherType.cpu.registers 0) = some (0x77, 0) ∧
      (hleLz77Uncomp false emptyOfOtherType).1 = true ∧
      readHeader oneByte.system (oneByte.cpu.registers 0) = some (0x10, 1) ∧
      (hleLz77Uncomp true oneByte).1 = true ∧
      oneByte.system.memory.cell 0x06000001 = 0xFF ∧
      (hleLz77Uncomp true oneByte).2.system.memory.cell 0x06000001 = 0 := by
  decide +kernel

end Gba.Core
