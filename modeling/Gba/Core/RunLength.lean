import Gba.Core.Lz77

/-!
# Run-length decompression

`RLUnCompWram` and `RLUnCompVram` against the run-length format of the BIOS, whose flag bytes hold
the length of one block each. The source reads the streams as LZ77 streams are read, with a flag
byte before every eight blocks. The two readings agree on few streams, which are found here from the
way in which a block of data is split into runs and groups of literal bytes.
-/

namespace Gba.Core

open LittleEndian Library

/-! ## The format of the BIOS -/

/-- A block of the format of the BIOS: `count + 3` times a byte, or up to 128 bytes as they are. -/
inductive RunBlock where
  | run (count : BitVec 7) (value : U8)
  | literals (first : U8) (rest : List U8) (h : rest.length < 128)

namespace RunBlock

/-- The bytes of a block: a flag byte with the kind above the length, and the data. -/
def bytes : RunBlock → List U8
  | run count value => [(1#1 ++ count : BitVec 8), value]
  | literals first rest _ => BitVec.ofNat 8 rest.length :: first :: rest

/-- The data of a block. -/
def data : RunBlock → List U8
  | run count value => List.replicate (count.toNat + 3) value
  | literals first rest _ => first :: rest

theorem data_ne_nil (block : RunBlock) : block.data ≠ [] := by
  cases block with
  | run count value => exact List.cons_ne_nil _ _
  | literals first rest _ => exact List.cons_ne_nil _ _

end RunBlock

/-- The format of the BIOS. It has no flag bytes for groups. -/
def runFormat : BlockFormat RunBlock where
  flag _ := false
  bytes := RunBlock.bytes
  added _ block := some block.data
  added_ne_nil {_ block _} h := by
    rw [← Option.some.inj h]
    exact block.data_ne_nil

/-- A stream of the BIOS for a block of data: its header and an encoding of the data, whose last
block may go beyond the end. -/
structure RunStream (system : System) (source : U32) (blocks : List RunBlock) (data : List U8) :
    Prop where
  size : data.length < 2 ^ 24
  expands : runFormat.extend data.length [] blocks = some data
  placed : Placed system source (header 0x30#8 data.length ++ blocks.flatMap RunBlock.bytes)

/-! ## The format of the source -/

/-- A block as the source reads it. -/
inductive FlaggedRun where
  | literal (value : U8)
  | run (length value : U8)

namespace FlaggedRun

/-- The kind of a block. -/
def flag : FlaggedRun → Bool
  | literal _ => false
  | run _ _ => true

/-- The bytes of a block. -/
def bytes : FlaggedRun → List U8
  | literal value => [value]
  | run length value => [length, value]

/-- The data of a block. -/
def data : FlaggedRun → List U8
  | literal value => [value]
  | run length value => List.replicate (length.toNat + 3) value

theorem data_ne_nil (block : FlaggedRun) : block.data ≠ [] := by
  cases block with
  | literal value => exact List.cons_ne_nil _ _
  | run length value => exact List.cons_ne_nil _ _

end FlaggedRun

/-- The format that the source reads. -/
def flaggedRunFormat : BlockFormat FlaggedRun where
  flag := FlaggedRun.flag
  bytes := FlaggedRun.bytes
  added _ block := some block.data
  added_ne_nil {_ block _} h := by
    rw [← Option.some.inj h]
    exact block.data_ne_nil

theorem flaggedRun_expand (output : List U8) (block : FlaggedRun) :
    flaggedRunFormat.expand output block = some (output ++ block.data) := rfl

theorem flaggedRun_defect {source : ByteSource U32} {position : U32} {output : List U8}
    {flag : Bool} (h : flaggedRunFormat.Defect source flag position output) :
    source.read position = none ∨
      flag = true ∧ source.read (source.next position) = none := by
  cases hfirst : source.read position with
  | none => exact .inl rfl
  | some first =>
    refine .inr ?_
    cases flag with
    | false =>
      exact absurd (h (.literal first) rfl ⟨hfirst, trivial⟩) (Option.some_ne_none _)
    | true =>
      refine ⟨rfl, ?_⟩
      cases hsecond : source.read (source.next position) with
      | none => rfl
      | some second =>
        exact absurd (h (.run first second) rfl ⟨hfirst, hsecond, trivial⟩)
          (Option.some_ne_none _)

/-- The pass of `rleBlocks` over one bit. -/
def rleBlock (system : System) (size : Nat) (flag : Bool) (state : U32 × List U8) :
    Option (U32 × List U8) :=
  if flag then do
    let lengthByte ← system.read8 ioCallbacks state.1
    let value ← system.read8 ioCallbacks (state.1 + 1)
    let length := min (lengthByte.toNat + 3) (size - state.2.length)
    return (state.1 + 2, state.2 ++ List.replicate length value)
  else do
    let literal ← system.read8 ioCallbacks state.1
    return (state.1 + 1, state.2 ++ [literal])

/-- The loops of the source as a decoder of its format. -/
def rleDecoder (system : System) (size : Nat) :
    Decoder (busBytes system) flaggedRunFormat (U32 × List U8) where
  size := size
  position := Prod.fst
  output := Prod.snd
  flags state := (system.read8 ioCallbacks state.1).map fun flags => (flags, (state.1 + 1, state.2))
  block := rleBlock system size
  flags_none h := Option.map_eq_none_iff.mpr h
  flags_some {state byte} h := by
    have hread : system.read8 ioCallbacks state.1 = some byte := h
    exact ⟨(state.1 + 1, state.2), by rw [hread]; rfl, rfl, rfl⟩
  block_none {flag state} _ h := by
    rcases flaggedRun_defect h with hread | ⟨rfl, hread⟩
    · have hread' : system.read8 ioCallbacks state.1 = none := hread
      unfold rleBlock
      rw [hread']
      cases flag with
      | false => rfl
      | true => rfl
    · have hread' : system.read8 ioCallbacks (state.1 + 1) = none := hread
      unfold rleBlock
      rw [hread']
      cases system.read8 ioCallbacks state.1 with
      | none => rfl
      | some first => rfl
  block_some {state value full} hlt hreads hexpand := by
    rw [flaggedRun_expand] at hexpand
    obtain rfl := Option.some.inj hexpand
    cases value with
    | literal value =>
      have hread : system.read8 ioCallbacks state.1 = some value := hreads.1
      refine ⟨(state.1 + 1, state.2 ++ [value]), ?_, ?_, rfl⟩
      · show rleBlock system size false state = _
        unfold rleBlock
        rw [hread]
        rfl
      · show _ = (state.2 ++ [value]).take size
        rw [List.take_of_length_le]
        rw [List.length_append]
        exact hlt
    | run length value =>
      have hread : system.read8 ioCallbacks state.1 = some length := hreads.1
      have hread' : system.read8 ioCallbacks (state.1 + 1) = some value := hreads.2.1
      refine ⟨(state.1 + 2, state.2 ++
        List.replicate (min (length.toNat + 3) (size - state.2.length)) value), ?_, ?_, ?_⟩
      · show rleBlock system size true state = _
        unfold rleBlock
        rw [hread, hread']
        rfl
      · show _ = (state.2 ++ List.replicate (length.toNat + 3) value).take size
        have hle : state.2.length ≤ size := hlt.le
        rw [List.take_append, List.take_of_length_le hle, List.take_replicate, Nat.min_comm]
      · show state.1 + 2 = state.1 + 1 + 1
        grind

theorem rleBlocks_eq (system : System) (size : Nat) (flags : U8) (bits : Nat)
    (state : U32 × List U8) :
    rleBlocks system size flags bits state = (rleDecoder system size).blocks flags bits state := by
  induction bits generalizing state with
  | zero => rfl
  | succ bits ih =>
    obtain ⟨source, output⟩ := state
    unfold rleBlocks Decoder.blocks
    rw [funext ih]
    show _ = if size ≤ output.length then some (source, output)
      else (rleBlock system size (flags.getLsbD bits) (source, output)).bind _
    split
    · rfl
    · unfold rleBlock
      cases flags.getLsbD bits with
      | false =>
        cases system.read8 ioCallbacks source with
        | none => rfl
        | some literal => rfl
      | true =>
        cases system.read8 ioCallbacks source with
        | none => rfl
        | some lengthByte =>
          cases system.read8 ioCallbacks (source + 1) with
          | none => rfl
          | some value => rfl

theorem rleFlagBytes_eq (system : System) (size passes : Nat) (state : U32 × List U8) :
    rleFlagBytes system size passes state = (rleDecoder system size).groups passes state := by
  induction passes generalizing state with
  | zero => rfl
  | succ passes ih =>
    obtain ⟨source, output⟩ := state
    unfold rleFlagBytes Decoder.groups
    simp only [funext ih, rleBlocks_eq]
    show _ = if size ≤ output.length then some (source, output)
      else ((system.read8 ioCallbacks source).map _).bind _
    split
    · rfl
    · cases system.read8 ioCallbacks source with
      | none => rfl
      | some flags => rfl

section Decompression

variable {system : System} {source : U32} {size : Nat}

theorem hleRle_eq (hsize : size < 2 ^ 24) (h : Placed system source (header 0x30#8 size)) :
    hleRleDecompressFromSource 0x30#8 source system =
      ((rleDecoder system size).groups size (source + 4, [])).map Prod.snd := by
  unfold hleRleDecompressFromSource
  rw [readHeader_eq hsize h]
  show (if 0x30#8 ≠ 0x30#8 then none
    else (rleFlagBytes system (BitVec.ofNat 32 size).toNat (BitVec.ofNat 32 size).toNat
      (source + 4, [])).map Prod.snd) = _
  rw [if_neg (not_not.mpr rfl), rleFlagBytes_eq, BitVec.toNat_ofNat, Nat.mod_eq_of_lt (by omega)]

/-- The source decodes its own format. -/
theorem hleRle_eq_some_iff {data : List U8} (hsize : size < 2 ^ 24)
    (h : Placed system source (header 0x30#8 size)) :
    hleRleDecompressFromSource 0x30#8 source system = some data ↔
      ∃ stop, flaggedRunFormat.Decodes size (busBytes system) (source + 4) data stop := by
  have hpasses : size ≤ ((rleDecoder system size).output (source + 4, [])).length + size :=
    Nat.le_add_left _ _
  rw [hleRle_eq hsize h]
  constructor
  · intro hdata
    obtain ⟨state, hgroups, rfl⟩ := Option.map_eq_some_iff.mp hdata
    obtain ⟨hcomplete, blocks, bytes, hencodes, hreads, hextends, hposition⟩ :=
      Decoder.encodes_of_groups hpasses hgroups
    exact ⟨state.1, hcomplete, blocks, bytes, hencodes, hreads, hextends, hposition⟩
  · rintro ⟨stop, hcomplete, blocks, bytes, hencodes, hreads, hextends, -⟩
    obtain ⟨state, hgroups, houtput, -⟩ :=
      @Decoder.groups_of_encodes _ _ _ _ _ (rleDecoder system size) blocks bytes data size
        (source + 4, []) hencodes hpasses hreads hextends hcomplete
    rw [hgroups]
    exact congrArg some houtput

/-- The output has the size of the header. -/
theorem hleRle_length {data : List U8} (hsize : size < 2 ^ 24)
    (h : Placed system source (header 0x30#8 size))
    (hdata : hleRleDecompressFromSource 0x30#8 source system = some data) : data.length = size := by
  obtain ⟨stop, hcomplete, blocks, bytes, -, -, hextends, -⟩ := (hleRle_eq_some_iff hsize h).mp hdata
  exact Nat.le_antisymm (BlockFormat.extend_le_size (Nat.zero_le _) hextends) hcomplete

end Decompression

/-! ## The services -/

/-- `hle_rl_uncomp_wram` and `hle_rl_uncomp_vram`. -/
def hleRlUncomp (vram : Bool) (cpu : Arm7tdmi) (system : System) : Bool × System :=
  writeDecompressed (if vram then hleWriteDecompressedVram else hleWriteDecompressedWram)
    (hleRleDecompressFromSource 0x30#8 (cpu.registers 0) system) cpu system

/-- Where a service can store a block of data. -/
def RlDestination (vram : Bool) (address : U32) (count : Nat) : Prop :=
  if vram then HalfwordRange address count else BlockRange workRam address count

/-- The service succeeds, its destination holds the data, and no other byte changes. -/
def RlStores (vram : Bool) (cpu : Arm7tdmi) (system : System) (data : List U8) : Prop :=
  ∃ memory, hleRlUncomp vram cpu system = (true, system.withMemory memory) ∧
    StoresBlock system.memory memory (cpu.registers 1) (storedBlock vram data)

section Services

variable {vram : Bool} {cpu : Arm7tdmi} {system : System}

theorem hleRlUncomp_some {output : List U8}
    (hdata : hleRleDecompressFromSource 0x30#8 (cpu.registers 0) system = some output)
    (hdestination : RlDestination vram (cpu.registers 1) (storedBlock vram output).length) :
    hleRlUncomp vram cpu system = (true, system.withMemory
        (system.memory.storeBlock (storedBlock vram output) (cpu.registers 1))) ∧
      StoresBlock system.memory
        (system.memory.storeBlock (storedBlock vram output) (cpu.registers 1)) (cpu.registers 1)
        (storedBlock vram output) := by
  unfold hleRlUncomp
  rw [hdata]
  cases vram with
  | false =>
    exact ⟨hleWriteDecompressedWram_eq output system hdestination,
      system.memory.storesBlock workRam_internal hdestination⟩
  | true =>
    refine ⟨hleWriteDecompressedVram_eq output system hdestination, ?_⟩
    rcases hdestination with ⟨-, hrange⟩ | hrange
    · exact system.memory.storesBlock (by decide) hrange
    · exact system.memory.storesBlock workRam_internal hrange

theorem storedBlock_length (vram : Bool) {first second : List U8}
    (h : first.length = second.length) :
    (storedBlock vram first).length = (storedBlock vram second).length := by
  unfold storedBlock padded
  rw [h]
  split
  · split
    · rw [List.length_append, List.length_append, h]
    · exact h
  · exact h

/-- Blocks of one length are stored alike only when they are the same. -/
theorem storedBlock_inj {first second : List U8} (hlength : first.length = second.length)
    (h : storedBlock vram first = storedBlock vram second) : first = second := by
  unfold storedBlock padded at h
  rw [hlength] at h
  split at h
  · split at h
    · exact List.append_cancel_right h
    · exact h
  · exact h

/-- What a service stores is what it has decoded. -/
theorem rlStores_iff {data : List U8} (hsize : data.length < 2 ^ 24)
    (h : Placed system (cpu.registers 0) (header 0x30#8 data.length))
    (hdestination : RlDestination vram (cpu.registers 1) (storedBlock vram data).length) :
    RlStores vram cpu system data ↔
      hleRleDecompressFromSource 0x30#8 (cpu.registers 0) system = some data := by
  constructor
  · rintro ⟨memory, hservice, hstores⟩
    cases hdecoded : hleRleDecompressFromSource 0x30#8 (cpu.registers 0) system with
    | none =>
      unfold hleRlUncomp at hservice
      rw [hdecoded] at hservice
      exact absurd (congrArg Prod.fst hservice) Bool.false_ne_true
    | some output =>
      have hlength := hleRle_length hsize h hdecoded
      rw [← storedBlock_length vram hlength] at hdestination
      obtain ⟨heq, hstored⟩ := hleRlUncomp_some hdecoded hdestination
      have hmemory : system.memory.storeBlock (storedBlock vram output) (cpu.registers 1) = memory :=
        congrArg (fun result => result.2.memory) (heq.symm.trans hservice)
      rw [hmemory] at hstored
      have hblocks : storedBlock vram output = storedBlock vram data := by
        refine List.ext_getElem (storedBlock_length vram hlength) fun index hfirst hsecond => ?_
        rw [← hstored.stored index hfirst, ← hstores.stored index hsecond]
      exact congrArg some (storedBlock_inj hlength hblocks)
  · intro hdecoded
    obtain ⟨heq, hstored⟩ := hleRlUncomp_some hdecoded hdestination
    exact ⟨_, heq, hstored⟩

end Services

/-! ## Splitting a block of data -/

/-- A block of the format without its data. -/
inductive RunShape where
  | run (count : BitVec 7)
  | literals (count : BitVec 7)
  deriving DecidableEq

namespace RunShape

/-- The number of bytes of data. -/
def size : RunShape → Nat
  | run count => count.toNat + 3
  | literals count => count.toNat + 1

/-- The flag byte of the BIOS. -/
def flag : RunShape → U8
  | run count => 1#1 ++ count
  | literals count => count.setWidth 8

end RunShape

/-- The shape of a block. -/
def RunBlock.shape : RunBlock → RunShape
  | .run count _ => .run count
  | .literals _ rest _ => .literals (BitVec.ofNat 7 rest.length)

/-- A split of a number of bytes: every block begins before the end, and together they reach it. -/
def Splits : List RunShape → Nat → Prop
  | [], size => size = 0
  | shape :: rest, size => 0 < size ∧ Splits rest (size - shape.size)

/-- The clear bits of a flag byte before the first that is set. -/
def leadingClear (flags : U8) : Nat := ((flagBits flags 8).takeWhile (! ·)).length

/-- The splits that the source reads as the BIOS does. Either the output ends among the literal bytes
for which the clear bits of the first flag byte stand. Or it begins with a group of five, as many as
its flag byte has clear bits, and for the set bit after them the source takes the flag byte of the
second and last block for the length of a run: a run is not longer, and one literal byte is one of a
run. -/
def ReadAlike : List RunShape → Nat → Prop
  | [], _ => True
  | .run _ :: _, _ => False
  | .literals count :: rest, size =>
      size ≤ count.toNat + 1 ∧ size ≤ leadingClear (count.setWidth 8) ∨
        count = 4 ∧ ∃ second, rest = [second] ∧
          ((∃ run, second = .run run) ∨ (∃ literals, second = .literals literals) ∧ size = 6)

end Gba.Core
