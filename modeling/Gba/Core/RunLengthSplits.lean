import Gba.Core.RunLength

/-!
# Splits that are read alike

Which splits of a block of data into runs and groups of literal bytes the run-length services decode
as the BIOS does, whatever the data. From the first flag byte on the output of the source is known
up to the first bit that is set and the run that this bit begins (`start_literals`, `start_run`);
on any other split data can be chosen that differ there.
-/

namespace Gba.Core

open LittleEndian Library

/-! ## Leading bits -/

theorem replicate_start {l : List Bool} {count : Nat}
    (h : count ≤ (l.takeWhile (! ·)).length) : List.replicate count false <+: l := by
  induction l generalizing count with
  | nil =>
    obtain rfl := Nat.le_zero.mp h
    exact List.nil_prefix
  | cons bit rest ih =>
    cases count with
    | zero => exact List.nil_prefix
    | succ count =>
      cases bit with
      | true => exact absurd h (Nat.not_succ_le_zero count)
      | false => exact List.cons_prefix_cons.mpr ⟨rfl, ih (Nat.le_of_succ_le_succ h)⟩

/-- The bit after the leading ones is set. -/
theorem replicate_set {l : List Bool} (h : (l.takeWhile (! ·)).length < l.length) :
    List.replicate (l.takeWhile (! ·)).length false ++ [true] <+: l := by
  induction l with
  | nil => exact absurd h (Nat.not_lt_zero _)
  | cons bit rest ih =>
    cases bit with
    | true => exact List.cons_prefix_cons.mpr ⟨rfl, List.nil_prefix⟩
    | false =>
      exact List.cons_prefix_cons.mpr ⟨rfl, ih (Nat.lt_of_succ_lt_succ h)⟩

theorem literal_flags (values : List U8) :
    (values.map FlaggedRun.literal).map flaggedRunFormat.flag =
      List.replicate values.length false := by
  induction values with
  | nil => rfl
  | cons value rest ih => exact congrArg (false :: ·) ih

theorem literal_bytes (values : List U8) :
    (values.map FlaggedRun.literal).flatMap flaggedRunFormat.bytes = values := by
  induction values with
  | nil => rfl
  | cons value rest ih => exact congrArg (value :: ·) ih

theorem literal_extend {size : Nat} {output values : List U8}
    (h : output.length + values.length ≤ size) :
    flaggedRunFormat.extend size output (values.map FlaggedRun.literal) =
      some (output ++ values) := by
  induction values generalizing output with
  | nil => exact congrArg some (List.append_nil output).symm
  | cons value rest ih =>
    rw [List.length_cons] at h
    have hle : (output ++ [value]).length ≤ size := by
      rw [List.length_append]
      exact (by omega : output.length + 1 ≤ size)
    have hrest : (output ++ [value]).length + rest.length ≤ size := by
      rw [List.length_append]
      exact (by omega : output.length + 1 + rest.length ≤ size)
    rw [List.map_cons, BlockFormat.extend_cons (by omega) (flaggedRun_expand output _)]
    show flaggedRunFormat.extend size ((output ++ [value]).take size) _ = _
    rw [List.take_of_length_le hle, ih hrest, List.append_assoc]
    rfl

/-! ## The start of the output -/

section Start

variable {system : System} {source : U32} {flags : U8} {values data : List U8}

theorem decoded_groups (hsize : data.length < 2 ^ 24)
    (hheader : Placed system source (header 0x30#8 data.length))
    (hdecoded : hleRleDecompressFromSource 0x30#8 source system = some data) :
    ∃ state, (rleDecoder system data.length).groups data.length (source + 4, []) = some state ∧
      state.2 = data := by
  rw [hleRle_eq hsize hheader] at hdecoded
  exact Option.map_eq_some_iff.mp hdecoded

/-- For the leading clear bits of the first flag byte literal bytes are copied. -/
theorem start_literals (hsize : data.length < 2 ^ 24)
    (hheader : Placed system source (header 0x30#8 data.length))
    (hdecoded : hleRleDecompressFromSource 0x30#8 source system = some data)
    (hpos : 0 < data.length) (hplaced : Placed system (source + 4) (flags :: values))
    (hclear : values.length ≤ leadingClear flags) (hlength : values.length ≤ data.length) :
    values <+: data := by
  obtain ⟨state, hgroups, rfl⟩ := decoded_groups hsize hheader hdecoded
  obtain ⟨hread, hreads⟩ := placed_iff_reads.mp hplaced
  refine @Decoder.groups_start _ _ _ _ _ (rleDecoder system state.2.length) state.2.length
    (source + 4, []) state flags (values.map FlaggedRun.literal) values (Nat.le_add_left _ _)
    hgroups hpos hread ?_ ?_ ?_
  · rw [literal_flags]
    exact replicate_start hclear
  · rw [literal_bytes]
    exact hreads
  · exact literal_extend ((Nat.zero_add _).trans_le hlength)

/-- For the first bit that is set a byte is repeated. -/
theorem start_run {length value : U8} (hsize : data.length < 2 ^ 24)
    (hheader : Placed system source (header 0x30#8 data.length))
    (hdecoded : hleRleDecompressFromSource 0x30#8 source system = some data)
    (hplaced : Placed system (source + 4) (flags :: (values ++ [length, value])))
    (hclear : values.length = leadingClear flags) (hset : leadingClear flags < 8)
    (hlength : values.length < data.length) :
    (values ++ List.replicate (length.toNat + 3) value).take data.length <+: data := by
  obtain ⟨state, hgroups, rfl⟩ := decoded_groups hsize hheader hdecoded
  obtain ⟨hread, hreads⟩ := placed_iff_reads.mp hplaced
  refine @Decoder.groups_start _ _ _ _ _ (rleDecoder system state.2.length) state.2.length
    (source + 4, []) state flags (values.map FlaggedRun.literal ++ [.run length value]) _
    (Nat.le_add_left _ _) hgroups (Nat.zero_lt_of_lt hlength) hread ?_ ?_ ?_
  · have hbits : ((flagBits flags 8).takeWhile (! ·)).length < (flagBits flags 8).length := by
      rw [flagBits_length]
      exact hset
    rw [List.map_append, literal_flags, hclear]
    exact replicate_set hbits
  · rw [List.flatMap_append, literal_bytes]
    exact hreads
  · rw [BlockFormat.extend_append, literal_extend ((Nat.zero_add _).trans_le hlength.le)]
    show flaggedRunFormat.extend state.2.length values [.run length value] = _
    rw [BlockFormat.extend_cons hlength (flaggedRun_expand _ _)]
    rfl

end Start

/-! ## Encodings of a split -/

theorem RunBlock.data_length (block : RunBlock) : block.data.length = block.shape.size := by
  cases block with
  | run count value => exact List.length_replicate
  | literals first rest h =>
    show rest.length + 1 = (BitVec.ofNat 7 rest.length).toNat + 1
    rw [BitVec.toNat_ofNat, Nat.mod_eq_of_lt h]

/-- Cutting an output before more is added changes nothing at its size. -/
theorem take_cut (size : Nat) (output more : List U8) :
    (output.take size ++ more).take size = (output ++ more).take size := by
  by_cases hcut : size ≤ output.length
  · have htake : (output.take size).length = size := by
      rw [List.length_take, Nat.min_eq_left hcut]
    rw [List.take_append_of_le_length htake.ge, List.take_append_of_le_length hcut,
      List.take_take, Nat.min_self]
  · rw [List.take_of_length_le (Nat.not_le.mp hcut).le]

/-- What blocks expand to. -/
theorem runFormat_extend {size : Nat} {output data : List U8} {blocks : List RunBlock}
    (hsize : output.length ≤ size) (h : runFormat.extend size output blocks = some data) :
    data = (output ++ blocks.flatMap RunBlock.data).take size := by
  induction blocks generalizing output with
  | nil =>
    obtain rfl := Option.some.inj h
    rw [List.flatMap_nil, List.append_nil, List.take_of_length_le hsize]
  | cons block rest ih =>
    obtain ⟨-, full, hexpand, hrest⟩ := BlockFormat.extend_cons_some h
    obtain rfl : output ++ block.data = full := Option.some.inj hexpand
    rw [ih (List.length_take_le _ _) hrest, List.flatMap_cons, ← List.append_assoc, take_cut]

/-- Blocks of a split expand to their data. -/
theorem extend_of_splits {size : Nat} {output : List U8} {blocks : List RunBlock}
    (hsize : output.length ≤ size)
    (h : Splits (blocks.map RunBlock.shape) (size - output.length)) :
    runFormat.extend size output blocks =
      some ((output ++ blocks.flatMap RunBlock.data).take size) := by
  induction blocks generalizing output with
  | nil =>
    rw [List.flatMap_nil, List.append_nil, List.take_of_length_le hsize]
    rfl
  | cons block rest ih =>
    obtain ⟨hpos, hrest⟩ := h
    have hexpand : runFormat.expand output block = some (output ++ block.data) := rfl
    have hleft : size - ((output ++ block.data).take size).length =
        size - output.length - block.shape.size := by
      rw [List.length_take, List.length_append, block.data_length]
      omega
    rw [← hleft] at hrest
    rw [BlockFormat.extend_cons (by omega) hexpand, ih (List.length_take_le _ _) hrest,
      List.flatMap_cons, ← List.append_assoc, take_cut]

/-- Blocks of a split and no other blocks. -/
theorem splits_of_extend {size : Nat} {output data : List U8} {blocks : List RunBlock}
    (hsize : output.length ≤ size) (hcomplete : size ≤ data.length)
    (h : runFormat.extend size output blocks = some data) :
    Splits (blocks.map RunBlock.shape) (size - output.length) := by
  induction blocks generalizing output with
  | nil =>
    obtain rfl := Option.some.inj h
    exact Nat.sub_eq_zero_of_le hcomplete
  | cons block rest ih =>
    obtain ⟨hlt, full, hexpand, hrest⟩ := BlockFormat.extend_cons_some h
    obtain rfl : output ++ block.data = full := Option.some.inj hexpand
    refine ⟨Nat.sub_pos_of_lt hlt, ?_⟩
    have hsplits := ih (List.length_take_le _ _) hrest
    have hleft : size - ((output ++ block.data).take size).length =
        size - output.length - block.shape.size := by
      rw [List.length_take, List.length_append, block.data_length]
      omega
    rw [hleft] at hsplits
    exact hsplits

/-! ## Splits that are read alike -/

/-- The services decode every stream of a split. -/
def DecodedAs (shapes : List RunShape) (size : Nat) : Prop :=
  ∀ vram cpu system blocks data, blocks.map RunBlock.shape = shapes → data.length = size →
    RunStream system (cpu.registers 0) blocks data →
    RlDestination vram (cpu.registers 1) (storedBlock vram data).length →
    RlStores vram cpu system data

section Alike

variable {system : System} {source : U32} {blocks : List RunBlock} {data : List U8}

theorem RunStream.header (h : RunStream system source blocks data) :
    Placed system source (Core.header 0x30#8 data.length) := (placed_append.mp h.placed).1

theorem RunStream.encoded (h : RunStream system source blocks data) :
    Placed system (source + 4) (blocks.flatMap RunBlock.bytes) := (placed_append.mp h.placed).2

theorem RunStream.data_eq (h : RunStream system source blocks data) :
    data = (blocks.flatMap RunBlock.data).take data.length :=
  runFormat_extend (Nat.zero_le _) h.expands

/-- A group of flagged blocks at the start of the stream that makes up all of the data. -/
theorem decoded_of_group (h : RunStream system source blocks data) {flags : U8}
    {group : List FlaggedRun} (hne : group ≠ [])
    (hflagged : group.map flaggedRunFormat.flag <+: flagBits flags 8)
    (hplaced : Placed system (source + 4) (flags :: group.flatMap flaggedRunFormat.bytes))
    (hextends : flaggedRunFormat.extend data.length [] group = some data) :
    hleRleDecompressFromSource 0x30#8 source system = some data := by
  have hencodes : flaggedRunFormat.Encodes (group ++ [])
      (flags :: (group.flatMap flaggedRunFormat.bytes ++ [])) :=
    .group flags hne hflagged (fun h => absurd rfl h) .nil
  rw [List.append_nil, List.append_nil] at hencodes
  exact (hleRle_eq_some_iff h.size h.header).mpr
    ⟨_, le_rfl, group, _, hencodes, placed_iff_reads.mp hplaced, hextends, rfl⟩

theorem shape_literals {block : RunBlock} {count : BitVec 7}
    (h : block.shape = .literals count) :
    ∃ first rest hlt, block = .literals first rest hlt ∧ rest.length = count.toNat ∧
      block.bytes = count.setWidth 8 :: block.data := by
  cases block with
  | run count value => contradiction
  | literals first rest hlt =>
    have hcount : BitVec.ofNat 7 rest.length = count := RunShape.literals.inj h
    have hlength : rest.length = count.toNat := by
      rw [← hcount, BitVec.toNat_ofNat, Nat.mod_eq_of_lt hlt]
    refine ⟨first, rest, hlt, rfl, hlength, ?_⟩
    show BitVec.ofNat 8 rest.length :: _ = _
    rw [hlength, BitVec.ofNat_toNat]
    rfl

/-- A stream whose output ends among the leading literal bytes. -/
theorem decoded_literals (h : RunStream system source blocks data) {count : BitVec 7}
    {rest : List RunShape} (hshapes : blocks.map RunBlock.shape = .literals count :: rest)
    (hdata : data.length ≤ count.toNat + 1)
    (hclear : data.length ≤ leadingClear (count.setWidth 8)) :
    hleRleDecompressFromSource 0x30#8 source system = some data := by
  cases blocks with
  | nil => contradiction
  | cons block blocks =>
    obtain ⟨hblock, -⟩ := List.cons.inj hshapes
    obtain ⟨first, values, hlt, -, hlength, hbytes⟩ := shape_literals hblock
    have hpos : 0 < data.length := (splits_of_extend (Nat.zero_le _) le_rfl h.expands).1
    have hsize : data.length ≤ block.data.length := by
      rw [block.data_length, hblock]
      exact hdata
    have heq : data = block.data.take data.length := by
      have hall := h.data_eq
      rw [List.flatMap_cons, List.take_append_of_le_length hsize] at hall
      exact hall
    have hstream : (block :: blocks).flatMap RunBlock.bytes = count.setWidth 8 :: (data ++
        (block.data.drop data.length ++ blocks.flatMap RunBlock.bytes)) := by
      rw [List.flatMap_cons, hbytes, ← List.append_assoc]
      conv_rhs => rw [heq]
      rw [List.length_take, Nat.min_eq_left hsize, List.take_append_drop]
      rfl
    have hplaced := h.encoded
    rw [hstream, ← List.cons_append] at hplaced
    refine @decoded_of_group _ _ _ _ h (count.setWidth 8) (data.map .literal) ?_ ?_ ?_ ?_
    · intro hnil
      rw [List.map_eq_nil_iff.mp hnil] at hpos
      exact Nat.lt_irrefl 0 hpos
    · rw [literal_flags]
      exact replicate_start hclear
    · rw [literal_bytes]
      exact (placed_append.mp hplaced).1
    · exact literal_extend (Nat.zero_add _).le

theorem run_flag_toNat (count : BitVec 7) : (1#1 ++ count : BitVec 8).toNat = 128 + count.toNat := by
  rw [BitVec.toNat_append, ← Nat.shiftLeft_add_eq_or_of_lt count.isLt, Nat.shiftLeft_eq]
  rfl

/-- The bytes of a block, and its data as far as the run goes that its flag byte is taken for. -/
theorem shape_as_run {block : RunBlock} {count : Nat}
    (h : (∃ run, block.shape = .run run ∧ count ≤ run.toNat + 3) ∨
      (∃ literals, block.shape = .literals literals) ∧ count = 1) :
    ∃ value more, block.bytes = block.shape.flag :: value :: more ∧
      block.data.take count =
        (List.replicate (block.shape.flag.toNat + 3) value).take count := by
  rcases h with ⟨run, hshape, hcount⟩ | ⟨⟨literals, hshape⟩, rfl⟩
  · cases block with
    | run run' value =>
      obtain rfl := RunShape.run.inj hshape
      refine ⟨value, [], rfl, ?_⟩
      show (List.replicate (run'.toNat + 3) value).take count =
        (List.replicate ((1#1 ++ run' : BitVec 8).toNat + 3) value).take count
      rw [List.take_replicate, List.take_replicate, run_flag_toNat, Nat.min_eq_left hcount,
        Nat.min_eq_left (by omega)]
    | literals first rest hlt => contradiction
  · obtain ⟨first, rest, hlt, rfl, hlength, hbytes⟩ := shape_literals hshape
    refine ⟨first, rest, ?_, rfl⟩
    rw [hbytes, hshape]
    rfl

/-- A stream with five literal bytes first, for which the source takes the second flag byte for a
length. -/
theorem decoded_five (h : RunStream system source blocks data) {second : RunShape}
    (hshapes : blocks.map RunBlock.shape = [.literals 4, second])
    (hsecond : (∃ run, second = .run run) ∨ (∃ literals, second = .literals literals) ∧
      data.length = 6) :
    hleRleDecompressFromSource 0x30#8 source system = some data := by
  obtain ⟨block, blocks, rfl, hblock, hrest⟩ := List.map_eq_cons_iff.mp hshapes
  obtain ⟨other, blocks, rfl, hother, hnil⟩ := List.map_eq_cons_iff.mp hrest
  obtain rfl := List.map_eq_nil_iff.mp hnil
  obtain ⟨first, values, hlt, -, -, hbytes⟩ := shape_literals hblock
  have hfive : block.data.length = 5 := by
    rw [block.data_length, hblock]
    rfl
  have hsplits := splits_of_extend (Nat.zero_le _) le_rfl h.expands
  rw [hshapes] at hsplits
  obtain ⟨-, hmore, hend⟩ := hsplits
  have hmore' : 0 < data.length - 5 := hmore
  have hend' : data.length - 5 - second.size = 0 := hend
  obtain ⟨value, more, hotherBytes, htake⟩ := @shape_as_run other (data.length - 5) (by
    rcases hsecond with ⟨run, rfl⟩ | ⟨⟨literals, rfl⟩, hsix⟩
    · have hsize : (RunShape.run run).size = run.toNat + 3 := rfl
      exact .inl ⟨run, hother, by omega⟩
    · exact .inr ⟨⟨literals, hother⟩, by omega⟩)
  have heq : data = (block.data ++
      List.replicate (other.shape.flag.toNat + 3) value).take data.length := by
    have hall := h.data_eq
    rw [List.flatMap_cons, List.flatMap_cons, List.flatMap_nil, List.append_nil,
      List.take_append, hfive, htake] at hall
    rw [List.take_append, hfive]
    exact hall
  -- the group that the source takes: five literals, then a run with the second flag for its length
  have hplaced := h.encoded
  rw [List.flatMap_cons, List.flatMap_cons, List.flatMap_nil, List.append_nil, hbytes,
    hotherBytes] at hplaced
  refine @decoded_of_group _ _ _ _ h 4
    (block.data.map .literal ++ [.run other.shape.flag value]) ?_ ?_ ?_ ?_
  · exact List.append_ne_nil_of_right_ne_nil _ (List.cons_ne_nil _ _)
  · rw [List.map_append, literal_flags, hfive]
    show List.replicate 5 false ++ [true] <+: flagBits 4 8
    decide
  · rw [List.flatMap_append, literal_bytes]
    have hstart : (4#8 :: (block.data ++ [other.shape.flag, value])) ++ more =
        (4#8 :: block.data) ++ (other.shape.flag :: value :: more) := by simp
    have hplaced' : Placed system (source + 4)
        ((4#8 :: (block.data ++ [other.shape.flag, value])) ++ more) := by
      rw [hstart]
      exact hplaced
    exact (placed_append.mp hplaced').1
  · have hlength : block.data.length < data.length := by omega
    rw [BlockFormat.extend_append, literal_extend ((Nat.zero_add _).trans_le hlength.le)]
    show flaggedRunFormat.extend data.length block.data [.run other.shape.flag value] = _
    rw [BlockFormat.extend_cons hlength (flaggedRun_expand _ _)]
    exact congrArg some heq.symm

/-- Splits that are read alike are decoded. -/
theorem decodedAs_of_readAlike {shapes : List RunShape} {size : Nat} (hsplits : Splits shapes size)
    (halike : ReadAlike shapes size) : DecodedAs shapes size := by
  intro vram cpu system blocks data hshapes hsize hstream hdestination
  rw [rlStores_iff hstream.size hstream.header hdestination]
  subst hsize
  cases shapes with
  | nil =>
    have hnil : data = [] := List.length_eq_zero_iff.mp hsplits
    subst hnil
    rw [hleRle_eq hstream.size hstream.header]
    rfl
  | cons shape rest =>
    cases shape with
    | run count => exact absurd halike id
    | literals count =>
      rcases halike with ⟨hdata, hclear⟩ | ⟨rfl, second, rfl, hsecond⟩
      · exact decoded_literals hstream hshapes hdata hclear
      · exact decoded_five hstream hshapes hsecond

end Alike

/-! ## Other splits -/

/-- A block with the given bytes of data, or with the first of them. -/
def RunShape.fill : RunShape → (Nat → U8) → RunBlock
  | .run count, values => .run count (values 0)
  | .literals count, values =>
      .literals (values 0) ((List.range count.toNat).map (values ∘ Nat.succ))
        (List.length_map _ |>.trans List.length_range |>.trans_lt count.isLt)

/-- Blocks of a split with the given bytes of data. -/
def fillAll (values : Nat → Nat → U8) : List RunShape → List RunBlock
  | [] => []
  | shape :: rest => shape.fill (values 0) :: fillAll (fun index => values (index + 1)) rest

theorem fill_shape (shape : RunShape) (values : Nat → U8) : (shape.fill values).shape = shape := by
  cases shape with
  | run count => rfl
  | literals count =>
    show RunShape.literals (BitVec.ofNat 7 ((List.range count.toNat).map _).length) = _
    rw [List.length_map, List.length_range, BitVec.ofNat_toNat, BitVec.setWidth_eq]

theorem fillAll_shape (values : Nat → Nat → U8) (shapes : List RunShape) :
    (fillAll values shapes).map RunBlock.shape = shapes := by
  induction shapes generalizing values with
  | nil => rfl
  | cons shape rest ih =>
    show (shape.fill (values 0)).shape :: _ = _
    rw [fill_shape, ih]

theorem fill_literals_data (count : BitVec 7) (values : Nat → U8) :
    ((RunShape.literals count).fill values).data = (List.range (count.toNat + 1)).map values := by
  rw [List.range_succ_eq_map, List.map_cons, List.map_map]
  rfl

theorem fill_literals_bytes (count : BitVec 7) (values : Nat → U8) :
    ((RunShape.literals count).fill values).bytes =
      count.setWidth 8 :: (List.range (count.toNat + 1)).map values := by
  obtain ⟨-, -, -, -, -, hbytes⟩ := shape_literals (fill_shape (.literals count) values)
  rw [hbytes, fill_literals_data]

/-- The flag byte and the first byte of data. -/
theorem fill_start (shape : RunShape) (values : Nat → U8) :
    ∃ bytes data, (shape.fill values).bytes = shape.flag :: values 0 :: bytes ∧
      (shape.fill values).data = values 0 :: data := by
  cases shape with
  | run count => exact ⟨[], _, rfl, rfl⟩
  | literals count =>
    refine ⟨(List.range count.toNat).map (values ∘ Nat.succ),
      (List.range count.toNat).map (values ∘ Nat.succ), ?_, rfl⟩
    rw [fill_literals_bytes, List.range_succ_eq_map, List.map_cons, List.map_map]
    rfl

/-- The flag byte of the first block of a split, or the zero byte after the stream. -/
def nextFlag : List RunShape → U8
  | [] => 0
  | shape :: _ => shape.flag

theorem nextFlag_start (values : Nat → Nat → U8) (shapes : List RunShape) :
    ∃ more, (fillAll values shapes).flatMap RunBlock.bytes ++ [0] = nextFlag shapes :: more := by
  cases shapes with
  | nil => exact ⟨[], rfl⟩
  | cons shape rest =>
    obtain ⟨bytes, -, hbytes, -⟩ := fill_start shape (values 0)
    refine ⟨values 0 0 :: bytes ++
      ((fillAll (fun index => values (index + 1)) rest).flatMap RunBlock.bytes ++ [0]), ?_⟩
    show (shape.fill (values 0)).bytes ++
      (fillAll (fun index => values (index + 1)) rest).flatMap RunBlock.bytes ++ [0] = _
    rw [hbytes, List.append_assoc]
    rfl

/-- The blocks of a split have enough data. -/
theorem splits_length {size : Nat} {blocks : List RunBlock}
    (h : Splits (blocks.map RunBlock.shape) size) :
    size ≤ (blocks.flatMap RunBlock.data).length := by
  induction blocks generalizing size with
  | nil => exact (show size = 0 from h).le
  | cons block rest ih =>
    have hrest := ih h.2
    rw [List.flatMap_cons, List.length_append, block.data_length]
    omega

/-- The bytes of the blocks of a split. -/
theorem splits_bytes {size : Nat} {blocks : List RunBlock}
    (h : Splits (blocks.map RunBlock.shape) size) :
    (blocks.flatMap RunBlock.bytes).length ≤ 2 * size + 260 := by
  induction blocks generalizing size with
  | nil => exact Nat.zero_le _
  | cons block rest ih =>
    have hrest := ih h.2
    have hbytes : block.bytes.length ≤ 2 * block.shape.size ∧ block.shape.size ≤ 130 := by
      cases block with
      | run count value =>
        have hlt := count.isLt
        exact ⟨by show 2 ≤ 2 * (count.toNat + 3); omega, by show count.toNat + 3 ≤ 130; omega⟩
      | literals first values hlt =>
        show values.length + 1 + 1 ≤ 2 * ((BitVec.ofNat 7 values.length).toNat + 1) ∧
          (BitVec.ofNat 7 values.length).toNat + 1 ≤ 130
        rw [BitVec.toNat_ofNat, Nat.mod_eq_of_lt hlt]
        omega
    rw [List.flatMap_cons, List.length_append]
    cases rest with
    | nil =>
      show _ + 0 ≤ _
      omega
    | cons other rest =>
      have hlt : 0 < size - block.shape.size := h.2.1
      omega

/-! ### Streams in a cartridge -/

/-- The registers of a call for a stream in a cartridge. -/
def cartridgeCall (destination : U32) : Arm7tdmi :=
  (Arm7tdmi.reset.setRegister 0 0x08000000).setRegister 1 destination

/-- A cartridge. -/
def cartridge (bytes : List U8) : System :=
  ⟨{ MemoryBus.initial with gamePakRom := bytes }, .reset⟩

theorem placed_cartridge {bytes : List U8} (h : bytes.length ≤ 2 ^ 25) :
    Placed (cartridge bytes) 0x08000000#32 bytes := placed_rom h

theorem ewram_range {count : Nat} (h : count ≤ 2 ^ 18) :
    BlockRange workRam 0x02000000#32 count := by
  have haddress : ∀ index < count,
      (0x02000000#32 + BitVec.ofNat 32 index).toNat = 0x02000000 + index := by
    intro index hindex
    rw [BitVec.toNat_add, BitVec.toNat_ofNat]
    show (0x02000000 + index % 2 ^ 32) % 2 ^ 32 = _
    omega
  have hpage : ∀ index < count,
      (0x02000000#32 + BitVec.ofNat 32 index).toNat / 2 ^ 24 = 2 := by
    intro index hindex
    rw [haddress index hindex]
    omega
  constructor
  · intro index hindex
    rw [(classify_ewram (hpage index hindex)).1]
    exact List.mem_cons_self
  · rintro first second hlt hsecond ⟨-, hoffset⟩
    have hfirst := hlt.trans hsecond
    have hnat := congrArg BitVec.toNat hoffset
    rw [(classify_ewram (hpage first hfirst)).2.2, (classify_ewram (hpage second hsecond)).2.2,
      haddress first hfirst, haddress second hsecond] at hnat
    omega

/-- Some destination of one of the services holds a block of a size. -/
def RlFits (size : Nat) : Prop :=
  ∃ vram address, RlDestination vram address (storedBlock vram (List.replicate size 0)).length

theorem le_length_storedBlock (vram : Bool) (data : List U8) :
    data.length ≤ (storedBlock vram data).length := by
  unfold storedBlock padded
  split_ifs <;> simp

theorem RlDestination.count_le {vram : Bool} {address : U32} {count : Nat}
    (h : RlDestination vram address count) : count ≤ 2 ^ 19 := by
  unfold RlDestination at h
  split at h
  · rcases h with ⟨-, hrange⟩ | hrange
    · exact hrange.count_le (by decide)
    · exact hrange.count_le workRam_internal
  · exact h.count_le workRam_internal

theorem RlFits.le {size : Nat} (h : RlFits size) : size ≤ 2 ^ 19 := by
  obtain ⟨vram, address, hdestination⟩ := h
  have hstored := le_length_storedBlock vram (List.replicate size 0)
  rw [List.length_replicate] at hstored
  exact hstored.trans hdestination.count_le

theorem RlFits.lt {size : Nat} (h : RlFits size) : size < 2 ^ 24 := by
  have hle := h.le
  omega

/-- No destination, no call that could go wrong. -/
theorem decodedAs_of_not_fits {shapes : List RunShape} {size : Nat} (h : ¬RlFits size) :
    DecodedAs shapes size := by
  intro vram cpu system blocks data _ hsize _ hdestination
  refine absurd ⟨vram, cpu.registers 1, ?_⟩ h
  rw [storedBlock_length vram (List.length_replicate.trans hsize.symm)]
  exact hdestination

/-- Blocks of up to 256 KiB fit into EWRAM. -/
theorem rlFits_of_le {size : Nat} (h : size ≤ 2 ^ 18) : RlFits size := by
  refine ⟨false, 0x02000000#32, ewram_range ?_⟩
  show (List.replicate size (0 : U8)).length ≤ 2 ^ 18
  rw [List.length_replicate]
  exact h

/-- What follows for the stream of a split from a cartridge that is decoded. -/
theorem fill_decoded {shapes : List RunShape} {size : Nat} (hsplits : Splits shapes size)
    (hsize : RlFits size) (h : DecodedAs shapes size) (values : Nat → Nat → U8) :
    ∃ system source data, data.length = size ∧
      data <+: (fillAll values shapes).flatMap RunBlock.data ∧
      Placed system source (header 0x30#8 data.length) ∧
      Placed system (source + 4) ((fillAll values shapes).flatMap RunBlock.bytes ++ [0]) ∧
      hleRleDecompressFromSource 0x30#8 source system = some data := by
  have hshape := fillAll_shape values shapes
  generalize fillAll values shapes = blocks at hshape ⊢
  subst hshape
  obtain ⟨data, hdata⟩ : ∃ data, data = (blocks.flatMap RunBlock.data).take size := ⟨_, rfl⟩
  have hlength : data.length = size := by
    rw [hdata, List.length_take, Nat.min_eq_left (splits_length hsplits)]
  have hexpands : runFormat.extend size [] blocks = some data := by
    rw [hdata]
    exact @extend_of_splits size [] blocks (Nat.zero_le _) hsplits
  subst hlength
  have hlarge := hsize.le
  have hbytes := splits_bytes hsplits
  have hfits : (header 0x30#8 data.length ++ (blocks.flatMap RunBlock.bytes ++ [0])).length ≤
      2 ^ 25 := by
    rw [List.length_append, List.length_append]
    show 4 + (_ + 1) ≤ _
    omega
  have hplaced := placed_cartridge hfits
  obtain ⟨hheader, hstream⟩ := placed_append.mp hplaced
  have hrun : RunStream _ 0x08000000#32 blocks data :=
    ⟨by omega, hexpands, placed_append.mpr ⟨hheader, (placed_append.mp hstream).1⟩⟩
  obtain ⟨vram, address, hfree⟩ := hsize
  have hdestination : RlDestination vram ((cartridgeCall address).registers 1)
      (storedBlock vram data).length := by
    rw [storedBlock_length vram (List.length_replicate (a := (0 : U8))).symm]
    exact hfree
  have hstores := h vram (cartridgeCall address) _ blocks data rfl rfl hrun hdestination
  refine ⟨_, 0x08000000#32, data, rfl, ?_, hheader, hstream, ?_⟩
  · rw [hdata]
    exact List.take_prefix _ _
  · have hcall : Placed _ ((cartridgeCall address).registers 0) (header 0x30#8 data.length) :=
      hheader
    exact (rlStores_iff hrun.size hcall hdestination).mp hstores

/-! ### Data that show a difference -/

theorem ne_succ (value : U8) : value ≠ value + 1 := by
  intro h
  have hnat := congrArg BitVec.toNat h
  rw [BitVec.toNat_add] at hnat
  have hone : BitVec.toNat (1 : U8) = 1 := rfl
  have hlt := value.isLt
  omega

/-- How the clear bits of a flag byte compare with the number of literal bytes that it stands for. -/
theorem leadingClear_cases (count : BitVec 7) :
    count.toNat < 4 ∧ count.toNat + 2 ≤ leadingClear (count.setWidth 8) ∨
      count = 4 ∨
      leadingClear (count.setWidth 8) ≤ count.toNat ∧ leadingClear (count.setWidth 8) < 8 := by
  have hall : ∀ value < 2 ^ 7, value < 4 ∧
        value + 2 ≤ leadingClear ((BitVec.ofNat 7 value).setWidth 8) ∨ value = 4 ∨
      leadingClear ((BitVec.ofNat 7 value).setWidth 8) ≤ value ∧
        leadingClear ((BitVec.ofNat 7 value).setWidth 8) < 8 := by
    decide +kernel
  have hcount := hall count.toNat count.isLt
  rw [BitVec.ofNat_toNat, BitVec.setWidth_eq] at hcount
  exact hcount.imp_right (Or.imp_left fun h => BitVec.eq_of_toNat_eq h)

theorem leadingClear_run (count : BitVec 7) : leadingClear (1#1 ++ count) = 0 := by
  have hset : (1#1 ++ count : BitVec 8).getLsbD 7 = true := by
    rw [BitVec.getLsbD_append]
    simp
  unfold leadingClear flagBits
  rw [hset]
  rfl

section Differences

variable {rest : List RunShape} {size : Nat}

/-- A run first: its byte is taken for a length, and the byte after it is repeated. -/
theorem not_decoded_run {count : BitVec 7} (hsplits : Splits (.run count :: rest) size)
    (hsize : RlFits size) : ¬DecodedAs (.run count :: rest) size := by
  intro h
  obtain ⟨system, source, data, rfl, hdata, hheader, hstream, hdecoded⟩ :=
    fill_decoded hsplits hsize h fun _ _ => nextFlag rest + 1
  obtain ⟨more, hmore⟩ := nextFlag_start (fun _ _ => nextFlag rest + 1) rest
  have hpos : 0 < data.length := hsplits.1
  have hbytes : (fillAll (fun _ _ => nextFlag rest + 1) (.run count :: rest)).flatMap
      RunBlock.bytes ++ [0] =
        ((1#1 ++ count) :: ([] ++ [nextFlag rest + 1, nextFlag rest])) ++ more := by
    show (1#1 ++ count) :: (nextFlag rest + 1) ::
      ((fillAll (fun _ _ => nextFlag rest + 1) rest).flatMap RunBlock.bytes ++ [0]) = _
    rw [hmore]
    rfl
  rw [hbytes] at hstream
  have hstart := start_run hsize.lt hheader hdecoded (placed_append.mp hstream).1
    (leadingClear_run count).symm (by rw [leadingClear_run]; decide) hpos
  have hfirst := List.prefix_iff_getElem?.mp (hstart.trans hdata) 0 (by simp; omega)
  have hleft : ((fillAll (fun _ _ => nextFlag rest + 1) (.run count :: rest)).flatMap
      RunBlock.data)[0]? = some (nextFlag rest + 1) := rfl
  rw [hleft] at hfirst
  simp only [List.nil_append, List.getElem_take, List.getElem_replicate] at hfirst
  exact ne_succ _ (Option.some.inj hfirst).symm

/-- Few literal bytes first: the next flag byte is copied after them. -/
theorem not_decoded_few {count : BitVec 7} (hsplits : Splits (.literals count :: rest) size)
    (hsize : RlFits size) (hmore : count.toNat + 1 < size)
    (hclear : count.toNat + 2 ≤ leadingClear (count.setWidth 8)) :
    ¬DecodedAs (.literals count :: rest) size := by
  intro h
  cases rest with
  | nil =>
    have hend : size - (count.toNat + 1) = 0 := hsplits.2
    omega
  | cons second rest =>
    obtain ⟨system, source, data, rfl, hdata, hheader, hstream, hdecoded⟩ :=
      fill_decoded hsplits hsize h fun _ _ => second.flag + 1
    obtain ⟨bytes, tail, hbytes, htail⟩ := fill_start second fun _ => second.flag + 1
    have hfill : fillAll (fun _ _ => second.flag + 1) (.literals count :: second :: rest) =
        (RunShape.literals count).fill (fun _ => second.flag + 1) ::
          second.fill (fun _ => second.flag + 1) ::
            fillAll (fun _ _ => second.flag + 1) rest := rfl
    rw [hfill, List.flatMap_cons, List.flatMap_cons, fill_literals_bytes, hbytes] at hstream
    rw [hfill, List.flatMap_cons, List.flatMap_cons, fill_literals_data, htail] at hdata
    have hplaced : Placed system (source + 4) ((count.setWidth 8 ::
        ((List.range (count.toNat + 1)).map (fun _ => second.flag + 1) ++ [second.flag])) ++
          ((second.flag + 1) :: bytes ++ ((fillAll (fun _ _ => second.flag + 1) rest).flatMap
            RunBlock.bytes ++ [0]))) := by
      simpa using hstream
    have hlength : ((List.range (count.toNat + 1)).map (fun _ => second.flag + 1) ++
        [second.flag]).length = count.toNat + 2 := by
      simp
    have hstart := start_literals hsize.lt hheader hdecoded (by omega)
      (placed_append.mp hplaced).1 (by rw [hlength]; exact hclear) (by rw [hlength]; omega)
    have hboth := hstart.trans hdata
    rw [List.prefix_append_right_inj] at hboth
    exact ne_succ _ (List.cons_prefix_cons.mp hboth).1

/-- Many literal bytes first: before their end one of them is taken for a length. -/
theorem not_decoded_many {count : BitVec 7} (hsplits : Splits (.literals count :: rest) size)
    (hsize : RlFits size) (hmore : leadingClear (count.setWidth 8) < size)
    (hclear : leadingClear (count.setWidth 8) ≤ count.toNat)
    (hset : leadingClear (count.setWidth 8) < 8) :
    ¬DecodedAs (.literals count :: rest) size := by
  intro h
  obtain ⟨place, hplace⟩ : ∃ place, place = leadingClear (count.setWidth 8) := ⟨_, rfl⟩
  rw [← hplace] at hmore hclear hset
  obtain ⟨value, hvalue⟩ : ∃ value, value = nextFlag rest := ⟨_, rfl⟩
  obtain ⟨values, hvalues⟩ : ∃ values : Nat → U8,
      values = fun index => if index = place then value + 1 else value := ⟨_, rfl⟩
  obtain ⟨system, source, data, rfl, hdata, hheader, hstream, hdecoded⟩ :=
    fill_decoded hsplits hsize h fun _ => values
  obtain ⟨more, htail⟩ := nextFlag_start (fun _ => values) rest
  have hfill : fillAll (fun _ => values) (.literals count :: rest) =
      (RunShape.literals count).fill values :: fillAll (fun _ => values) rest := rfl
  rw [hfill, List.flatMap_cons, fill_literals_bytes, List.append_assoc, htail, ← hvalue] at hstream
  rw [hfill, List.flatMap_cons, fill_literals_data] at hdata
  -- the byte after the last literal byte continues them
  have hrange : (List.range (count.toNat + 1)).map values ++ value :: more =
      (List.range (count.toNat + 1 + 1)).map values ++ more := by
    have hnext : values (count.toNat + 1) = value := by
      rw [hvalues]
      exact if_neg (by omega)
    rw [List.range_succ (n := count.toNat + 1), List.map_append, List.map_singleton, hnext,
      List.append_assoc]
    rfl
  obtain ⟨left, hleft⟩ : ∃ left, count.toNat + 1 + 1 = place + 2 + left :=
    ⟨count.toNat - place, by omega⟩
  have hsplit : (List.range (count.toNat + 1 + 1)).map values =
      (List.range place).map values ++ [value + 1, value] ++
        (List.range left).map (fun index => values (place + 2 + index)) := by
    have hhere : values place = value + 1 := by
      rw [hvalues]
      exact if_pos rfl
    have hafter : values (place + 1) = value := by
      rw [hvalues]
      exact if_neg (by omega)
    rw [hleft, List.range_add, List.map_append, List.range_succ, List.range_succ,
      List.map_append, List.map_append, List.map_singleton, List.map_singleton, hhere, hafter,
      List.map_map, List.append_assoc, List.append_assoc]
    simp [Function.comp_def]
  rw [List.cons_append, hrange, hsplit] at hstream
  have hplaced : Placed system (source + 4) ((count.setWidth 8 ::
      ((List.range place).map values ++ [value + 1, value])) ++
        ((List.range left).map (fun index => values (place + 2 + index)) ++ more)) := by
    simpa using hstream
  have hstart := start_run hsize.lt hheader hdecoded (placed_append.mp hplaced).1
    (by rw [List.length_map, List.length_range, hplace]) (by rw [← hplace]; exact hset)
    (by rw [List.length_map, List.length_range]; exact hmore)
  have hat := List.prefix_iff_getElem?.mp (hstart.trans hdata) place (by simp; omega)
  rw [List.getElem?_append_left (by simp; omega), List.getElem?_map, List.getElem?_range (by omega),
    List.getElem_take, List.getElem_append_right (by simp)] at hat
  simp only [List.getElem_replicate, Option.map_some, Option.some.injEq, hvalues, if_true] at hat
  exact ne_succ _ hat.symm

/-- Five literal bytes first: the run that the second flag byte is taken for is too long. -/
theorem not_decoded_five {second : RunShape} (hsplits : Splits (.literals 4 :: second :: rest) size)
    (hsize : RlFits size)
    (hother : (∃ literals, second = .literals literals) ∧ 6 < size ∨
      (∃ run, second = .run run) ∧ rest ≠ []) :
    ¬DecodedAs (.literals 4 :: second :: rest) size := by
  intro h
  obtain ⟨values, hvalues⟩ : ∃ values : Nat → Nat → U8,
      values = fun block index => if block = 1 ∧ index = 0 then 0 else 1 := ⟨_, rfl⟩
  obtain ⟨system, source, data, rfl, hdata, hheader, hstream, hdecoded⟩ :=
    fill_decoded hsplits hsize h values
  obtain ⟨bytes, -, hbytes, -⟩ := fill_start second (values 1)
  have hfill : fillAll values (.literals 4 :: second :: rest) =
      (RunShape.literals 4).fill (values 0) :: second.fill (values 1) ::
        fillAll (fun index => values (index + 2)) rest := rfl
  have hzero : values 1 0 = 0 := by rw [hvalues]; rfl
  rw [hfill, List.flatMap_cons, List.flatMap_cons, fill_literals_bytes, hbytes, hzero] at hstream
  rw [hfill, List.flatMap_cons, List.flatMap_cons, fill_literals_data] at hdata
  have hplaced : Placed system (source + 4) ((4#8 ::
      ((List.range 5).map (values 0) ++ [second.flag, 0])) ++ (bytes ++
        (fillAll (fun index => values (index + 2)) rest).flatMap RunBlock.bytes ++ [0])) := by
    simpa using hstream
  have hlong : 5 < data.length := by
    have hmore : 0 < data.length - 5 := hsplits.2.1
    omega
  have hclear : ((List.range 5).map (values 0)).length = leadingClear 4#8 := by
    rw [List.length_map, List.length_range]
    rfl
  have hstart := start_run hsize.lt hheader hdecoded (placed_append.mp hplaced).1 hclear
    (by decide) (by rw [List.length_map, List.length_range]; exact hlong)
  -- a byte of the run that the source repeats, and a one in the data
  obtain ⟨place, hplace, hrun, hone⟩ : ∃ place, 5 + place < data.length ∧
      place < second.flag.toNat + 3 ∧
      ((second.fill (values 1)).data ++
        (fillAll (fun index => values (index + 2)) rest).flatMap RunBlock.data)[place]? =
          some 1 := by
    have hthird : rest ≠ [] →
        ((fillAll (fun index => values (index + 2)) rest).flatMap RunBlock.data)[0]? = some 1 := by
      intro hne
      obtain ⟨third, others, rfl⟩ := List.exists_cons_of_ne_nil hne
      obtain ⟨-, tail, -, htail⟩ := fill_start third (values 2)
      have hstartOne : values 2 0 = 1 := by rw [hvalues]; rfl
      show ((third.fill (values 2)).data ++ _)[0]? = some 1
      rw [htail, hstartOne]
      rfl
    rcases hother with ⟨⟨literals, rfl⟩, hsix⟩ | ⟨⟨run, rfl⟩, hne⟩
    · refine ⟨1, hsix, by omega, ?_⟩
      rw [fill_literals_data]
      by_cases hliterals : literals.toNat = 0
      · have hne : rest ≠ [] := by
          rintro rfl
          have hend : data.length - 5 - (literals.toNat + 1) = 0 := hsplits.2.2
          omega
        rw [hliterals]
        exact hthird hne
      · have hvalue : values 1 1 = 1 := by rw [hvalues]; rfl
        rw [List.getElem?_append_left (by simp; omega), List.getElem?_map,
          List.getElem?_range (by omega)]
        exact congrArg some hvalue
    · have hlength : ((RunShape.run run).fill (values 1)).data.length = run.toNat + 3 :=
        List.length_replicate
      have hmore : run.toNat + 3 < data.length - 5 := by
        obtain ⟨third, others, rfl⟩ := List.exists_cons_of_ne_nil hne
        have hend : 0 < data.length - 5 - (run.toNat + 3) := hsplits.2.2.1
        omega
      refine ⟨run.toNat + 3, by omega, ?_, ?_⟩
      · show _ < (1#1 ++ run : BitVec 8).toNat + 3
        rw [run_flag_toNat]
        omega
      · rw [List.getElem?_append_right hlength.le, hlength, Nat.sub_self]
        exact hthird hne
  have hat := List.prefix_iff_getElem?.mp (hstart.trans hdata) (5 + place) (by simp; omega)
  rw [List.getElem?_append_right (by simp)] at hat
  have hindex : 5 + place - ((List.range (BitVec.toNat (4 : BitVec 7) + 1)).map (values 0)).length =
      place := by
    rw [List.length_map, List.length_range]
    exact Nat.add_sub_cancel_left 5 place
  rw [hindex, hone, List.getElem_take, List.getElem_append_right (by simp)] at hat
  rw [List.getElem_replicate] at hat
  exact absurd (Option.some.inj hat) (by decide)

/-- The services decode all streams of a split exactly when it is read alike. -/
theorem decodedAs_iff {shapes : List RunShape} (hsplits : Splits shapes size)
    (hsize : RlFits size) : DecodedAs shapes size ↔ ReadAlike shapes size := by
  refine ⟨fun h => ?_, decodedAs_of_readAlike hsplits⟩
  cases shapes with
  | nil => trivial
  | cons shape rest =>
    cases shape with
    | run count => exact absurd h (not_decoded_run hsplits hsize)
    | literals count =>
      by_cases hclear : size ≤ leadingClear (count.setWidth 8)
      · by_cases hdata : size ≤ count.toNat + 1
        · exact .inl ⟨hdata, hclear⟩
        · rcases leadingClear_cases count with ⟨-, hfew⟩ | rfl | ⟨hmany, -⟩
          · exact absurd h (not_decoded_few hsplits hsize (Nat.not_le.mp hdata) hfew)
          · have hfive : leadingClear ((4 : BitVec 7).setWidth 8) = 5 := rfl
            have hcount : (4 : BitVec 7).toNat = 4 := rfl
            omega
          · omega
      · rcases leadingClear_cases count with ⟨hlt, hfew⟩ | rfl | ⟨hmany, hset⟩
        · exact absurd h (not_decoded_few hsplits hsize (by omega) hfew)
        · refine .inr ⟨rfl, ?_⟩
          have hfive : leadingClear ((4 : BitVec 7).setWidth 8) = 5 := rfl
          cases rest with
          | nil =>
            have hend : size - 5 = 0 := hsplits.2
            omega
          | cons second rest =>
            have hother := mt (not_decoded_five hsplits hsize) (not_not.mpr h)
            push Not at hother
            obtain ⟨hliterals, hrun⟩ := hother
            cases second with
            | run run =>
              have hnil : rest = [] := hrun ⟨run, rfl⟩
              subst hnil
              exact ⟨_, rfl, .inl ⟨run, rfl⟩⟩
            | literals literals =>
              have hsix : size = 6 := by
                have hle := hliterals ⟨literals, rfl⟩
                omega
              have hnil : rest = [] := by
                cases rest with
                | nil => rfl
                | cons third others =>
                  have hmore : 0 < size - 5 - (literals.toNat + 1) := hsplits.2.2.1
                  omega
              subst hnil
              exact ⟨_, rfl, .inr ⟨⟨literals, rfl⟩, hsix⟩⟩
        · exact absurd h (not_decoded_many hsplits hsize (Nat.not_le.mp hclear) hmany hset)

end Differences

/-- The streams of a split are decoded whatever their data are exactly when the split is read alike,
or when no destination holds its data. A single stream is decoded to its data exactly when it is at
the same time a stream of the source's own format for them. -/
theorem hleRlUncomp_decodes_iff (shapes : List RunShape) (size : Nat)
    (hsplits : Splits shapes size) :
    (DecodedAs shapes size ↔ ¬RlFits size ∨ ReadAlike shapes size) ∧
      ∀ vram cpu system blocks data, RunStream system (cpu.registers 0) blocks data →
        RlDestination vram (cpu.registers 1) (storedBlock vram data).length →
        (RlStores vram cpu system data ↔ ∃ stop,
          flaggedRunFormat.Decodes data.length (busBytes system) (cpu.registers 0 + 4) data
            stop) := by
  refine ⟨?_, ?_⟩
  · by_cases hsize : RlFits size
    · rw [decodedAs_iff hsplits hsize, or_iff_right (not_not.mpr hsize)]
    · exact iff_of_true (decodedAs_of_not_fits hsize) (.inl hsize)
  · intro vram cpu system blocks data hstream hdestination
    rw [rlStores_iff hstream.size hstream.header hdestination]
    exact hleRle_eq_some_iff hstream.size hstream.header

/-- Two literal bytes and a run of three are two blocks, of which the source reads the second one as
literal bytes too; two literal bytes alone are read alike. -/
theorem hleRlUncomp_decodes_iff_literals :
    DecodedAs [.literals 1] 2 ∧ ¬DecodedAs [.literals 1, .run 0] 5 := by
  have hone : Splits [.literals 1] 2 := ⟨by decide, rfl⟩
  have htwo : Splits [.literals 1, .run 0] 5 := ⟨by decide, by decide, rfl⟩
  constructor
  · exact (hleRlUncomp_decodes_iff _ _ hone).1.mpr (.inr (.inl ⟨by decide, by decide⟩))
  · intro h
    rcases (hleRlUncomp_decodes_iff _ _ htwo).1.mp h with hsize | ⟨hdata, -⟩ | ⟨hcount, -⟩
    · exact hsize (rlFits_of_le (by decide))
    · exact absurd hdata (by decide)
    · exact absurd hcount (by decide)

/-- Three times the letter `A` as a run of the BIOS. -/
def runOfThree : CoreSession := callSession [0x30, 3, 0, 0, 0x80, 0x41] 0x03000000#32 0x02000000#32

/-- A run of three bytes is decoded to zeros, the byte after the stream. -/
theorem run_not_decoded :
    RunStream runOfThree.system (runOfThree.cpu.registers 0) [.run 0 0x41] [0x41, 0x41, 0x41] ∧
      BlockRange workRam (runOfThree.cpu.registers 1) 3 ∧
      (hleRlUncomp false runOfThree.cpu runOfThree.system).1 = true ∧
      (hleRlUncomp false runOfThree.cpu runOfThree.system).2.memory.cell 0x02000000 = 0 :=
  ⟨⟨by decide, by decide, by decide +kernel⟩, by decide +kernel, by decide +kernel,
    by decide +kernel⟩

end Gba.Core
