import Mathlib.Data.List.Basic
import Mathlib.Data.List.Infix
import Mathlib.Logic.Function.Iterate
import Mathlib.Tactic.Common

/-!
# Streams of flagged blocks

A compressed stream of blocks of two kinds. A flag byte goes before every eight blocks, its bits
from the highest down say of which kind they are, and the stream ends when the output has its size,
which may be inside a block or a group. A decoder for such a stream (`Decoder`) that handles single
blocks as the format says succeeds exactly on the encodings of blocks, with what they expand to
(`groups_of_encodes`, `encodes_of_groups`), and fails exactly on the streams with a defect
(`groups_eq_none_iff`).
-/

namespace Gba.Library

/-! ## Sources -/

/-- A place to read bytes from. -/
structure ByteSource (P : Type) where
  read : P → Option (BitVec 8)
  next : P → P

namespace ByteSource

variable {P : Type} (source : ByteSource P)

/-- The position after some bytes. -/
def advance (position : P) (count : Nat) : P := source.next^[count] position

/-- The bytes from a position on. -/
def Reads : P → List (BitVec 8) → Prop
  | _, [] => True
  | position, first :: rest => source.read position = some first ∧ Reads (source.next position) rest

theorem advance_add (position : P) (first second : Nat) :
    source.advance position (first + second) =
      source.advance (source.advance position first) second := by
  unfold advance
  rw [Nat.add_comm, Function.iterate_add_apply]

theorem advance_succ (position : P) (count : Nat) :
    source.advance position (count + 1) = source.advance (source.next position) count := rfl

theorem reads_append {position : P} {first second : List (BitVec 8)} :
    source.Reads position (first ++ second) ↔
      source.Reads position first ∧
        source.Reads (source.advance position first.length) second := by
  induction first generalizing position with
  | nil => exact ⟨fun h => ⟨trivial, h⟩, fun h => h.2⟩
  | cons value rest ih =>
    show _ ∧ source.Reads (source.next position) (rest ++ second) ↔ (_ ∧ _) ∧ _
    rw [ih, and_assoc]
    rfl

end ByteSource

/-! ## Formats -/

/-- A format of blocks: their kinds, their bytes, and what a block adds to the output before it,
where it can be expanded there. -/
structure BlockFormat (Block : Type) where
  flag : Block → Bool
  bytes : Block → List (BitVec 8)
  added : List (BitVec 8) → Block → Option (List (BitVec 8))
  added_ne_nil : ∀ {output block more}, added output block = some more → more ≠ []

/-- The bits of a flag byte that are left, from the highest down. -/
def flagBits (flags : BitVec 8) : Nat → List Bool
  | 0 => []
  | count + 1 => flags.getLsbD count :: flagBits flags count

theorem flagBits_length (flags : BitVec 8) (count : Nat) : (flagBits flags count).length = count := by
  induction count with
  | zero => rfl
  | succ count ih => exact congrArg Nat.succ ih

namespace BlockFormat

variable {Block : Type} (format : BlockFormat Block)

/-- The output with a block. -/
def expand (output : List (BitVec 8)) (block : Block) : Option (List (BitVec 8)) :=
  (format.added output block).map (output ++ ·)

/-- Blocks in a stream: a flag byte before every group of eight, of which the last may be shorter. -/
inductive Encodes : List Block → List (BitVec 8) → Prop
  | nil : Encodes [] []
  | group (flags : BitVec 8) {group rest : List Block} {bytes : List (BitVec 8)} :
      group ≠ [] → group.map format.flag <+: flagBits flags 8 → (rest ≠ [] → group.length = 8) →
      Encodes rest bytes →
      Encodes (group ++ rest) (flags :: (group.flatMap format.bytes ++ bytes))

variable (size : Nat)

/-- The output after some blocks. It is cut at its size, and no block begins after that. -/
def extend : List (BitVec 8) → List Block → Option (List (BitVec 8))
  | output, [] => some output
  | output, block :: rest =>
      if size ≤ output.length then none
      else (format.expand output block).bind fun full => extend (full.take size) rest

variable {P : Type} (source : ByteSource P)

/-- From a position on there is an encoding of blocks that expand to the data. -/
structure Decodes (position : P) (data : List (BitVec 8)) (stop : P) : Prop where
  complete : size ≤ data.length
  encoded : ∃ blocks bytes, format.Encodes blocks bytes ∧ source.Reads position bytes ∧
    format.extend size [] blocks = some data ∧ stop = source.advance position bytes.length

/-- No block of a kind can be read and expanded. -/
def Defect (flag : Bool) (position : P) (output : List (BitVec 8)) : Prop :=
  ∀ block, format.flag block = flag → source.Reads position (format.bytes block) →
    format.expand output block = none

/-- Part of a group has been read, but not all of the output. -/
structure GroupStart (position : P) (output : List (BitVec 8)) (bits : Nat) (flags : BitVec 8)
    (group : List Block) (full : List (BitVec 8)) : Prop where
  flagged : group.map format.flag <+: flagBits flags bits
  reads : source.Reads position (group.flatMap format.bytes)
  expands : format.extend size output group = some full
  unfinished : full.length < size

/-- The output is not complete and there is a defect: a flag byte that cannot be read, a block that
cannot be read and expanded, or such a defect after a whole group. -/
inductive Malformed : P → List (BitVec 8) → Prop
  | flags {position : P} {output : List (BitVec 8)} : output.length < size → source.read position = none →
      Malformed position output
  | block {position : P} {output full : List (BitVec 8)} {flags : BitVec 8} {group : List Block} :
      output.length < size →
      source.read position = some flags →
      format.GroupStart size source (source.next position) output 8 flags group full →
      group.length < 8 →
      format.Defect source (flags.getLsbD (7 - group.length))
        (source.advance (source.next position) (group.flatMap format.bytes).length) full →
      Malformed position output
  | group {position : P} {output full : List (BitVec 8)} {flags : BitVec 8} {group : List Block} :
      output.length < size →
      source.read position = some flags →
      format.GroupStart size source (source.next position) output 8 flags group full →
      group.length = 8 →
      Malformed (source.advance (source.next position) (group.flatMap format.bytes).length) full →
      Malformed position output

variable {format size}

theorem expand_some {output full : List (BitVec 8)} {block : Block}
    (h : format.expand output block = some full) :
    ∃ more, format.added output block = some more ∧ more ≠ [] ∧ output ++ more = full := by
  obtain ⟨more, hadded, hfull⟩ := Option.map_eq_some_iff.mp h
  exact ⟨more, hadded, format.added_ne_nil hadded, hfull⟩

theorem expand_longer {output full : List (BitVec 8)} {block : Block}
    (h : format.expand output block = some full) : output.length < full.length := by
  obtain ⟨more, -, hne, rfl⟩ := expand_some h
  rw [List.length_append]
  exact Nat.lt_add_of_pos_right (List.length_pos_iff.mpr hne)

theorem extend_cons {output full : List (BitVec 8)} {block : Block} {rest : List Block}
    (hlt : output.length < size) (hexpand : format.expand output block = some full) :
    format.extend size output (block :: rest) = format.extend size (full.take size) rest := by
  show (if size ≤ output.length then none
    else (format.expand output block).bind fun full => format.extend size (full.take size) rest) = _
  rw [if_neg (Nat.not_le.mpr hlt), hexpand]
  rfl

/-- What a first block does before the others. -/
theorem extend_cons_some {output data : List (BitVec 8)} {block : Block} {rest : List Block}
    (h : format.extend size output (block :: rest) = some data) :
    output.length < size ∧ ∃ full, format.expand output block = some full ∧
      format.extend size (full.take size) rest = some data := by
  have h' : (if size ≤ output.length then none
    else (format.expand output block).bind fun full => format.extend size (full.take size) rest) =
      some data := h
  by_cases hlt : size ≤ output.length
  · rw [if_pos hlt] at h'
    contradiction
  · rw [if_neg hlt] at h'
    obtain ⟨full, hexpand, hrest⟩ := Option.bind_eq_some_iff.mp h'
    exact ⟨Nat.not_le.mp hlt, full, hexpand, hrest⟩

theorem extend_append {output : List (BitVec 8)} {first second : List Block} :
    format.extend size output (first ++ second) =
      (format.extend size output first).bind fun full => format.extend size full second := by
  induction first generalizing output with
  | nil => rfl
  | cons block rest ih =>
    show (if size ≤ output.length then none else (format.expand output block).bind fun full =>
      format.extend size (full.take size) (rest ++ second)) = Option.bind (if size ≤ output.length
        then none else (format.expand output block).bind fun full =>
          format.extend size (full.take size) rest) _
    split
    · rfl
    · cases format.expand output block with
      | none => rfl
      | some full => exact ih

theorem take_longer {output full : List (BitVec 8)} {block : Block} (hlt : output.length < size)
    (hexpand : format.expand output block = some full) :
    output.length < (full.take size).length := by
  have hlonger := expand_longer hexpand
  rw [List.length_take]
  omega

theorem extend_le {output data : List (BitVec 8)} {blocks : List Block}
    (h : format.extend size output blocks = some data) : output.length ≤ data.length := by
  induction blocks generalizing output with
  | nil => exact (congrArg List.length (Option.some.inj h)).le
  | cons block rest ih =>
    obtain ⟨hlt, full, hexpand, hrest⟩ := extend_cons_some h
    exact (take_longer hlt hexpand).le.trans (ih hrest)

/-- Blocks leave the output before them as it is. -/
theorem extend_start {output data : List (BitVec 8)} {blocks : List Block}
    (hsize : output.length ≤ size) (h : format.extend size output blocks = some data) :
    output <+: data := by
  induction blocks generalizing output with
  | nil =>
    rw [← Option.some.inj h]
  | cons block rest ih =>
    obtain ⟨-, full, hexpand, hrest⟩ := extend_cons_some h
    obtain ⟨more, -, -, rfl⟩ := expand_some hexpand
    refine List.IsPrefix.trans ?_ (ih (List.length_take_le _ _) hrest)
    rw [List.take_append, List.take_of_length_le hsize]
    exact List.prefix_append _ _

/-- The output does not go beyond its size. -/
theorem extend_le_size {output data : List (BitVec 8)} {blocks : List Block}
    (hsize : output.length ≤ size) (h : format.extend size output blocks = some data) :
    data.length ≤ size := by
  induction blocks generalizing output with
  | nil =>
    rw [← Option.some.inj h]
    exact hsize
  | cons block rest ih =>
    obtain ⟨-, full, -, hrest⟩ := extend_cons_some h
    exact ih (List.length_take_le _ _) hrest

/-- Blocks add to the output. -/
theorem extend_longer {output data : List (BitVec 8)} {blocks : List Block} (hne : blocks ≠ [])
    (h : format.extend size output blocks = some data) : output.length < data.length := by
  cases blocks with
  | nil => contradiction
  | cons block rest =>
    obtain ⟨hlt, full, hexpand, hrest⟩ := extend_cons_some h
    exact (take_longer hlt hexpand).trans_le (extend_le hrest)

/-- After the whole output there are no more blocks. -/
theorem extend_complete {output data : List (BitVec 8)} {blocks : List Block}
    (hcomplete : size ≤ output.length) (h : format.extend size output blocks = some data) :
    blocks = [] := by
  cases blocks with
  | nil => rfl
  | cons block rest => exact absurd (extend_cons_some h).1 (Nat.not_lt.mpr hcomplete)

end BlockFormat

/-! ## Decoders -/

/-- A decoder with states of its own, which reads flag bytes and single blocks as a format says. -/
structure Decoder {P Block : Type} (source : ByteSource P) (format : BlockFormat Block)
    (σ : Type) where
  size : Nat
  position : σ → P
  output : σ → List (BitVec 8)
  flags : σ → Option (BitVec 8 × σ)
  block : Bool → σ → Option σ
  flags_none : ∀ {state}, source.read (position state) = none → flags state = none
  flags_some : ∀ {state byte}, source.read (position state) = some byte →
    ∃ next, flags state = some (byte, next) ∧ position next = source.next (position state) ∧
      output next = output state
  block_none : ∀ {flag state}, (output state).length < size →
    format.Defect source flag (position state) (output state) → block flag state = none
  block_some : ∀ {state value full}, (output state).length < size →
    source.Reads (position state) (format.bytes value) →
    format.expand (output state) value = some full →
    ∃ next, block (format.flag value) state = some next ∧ output next = full.take size ∧
      position next = source.advance (position state) (format.bytes value).length

namespace Decoder

variable {P Block : Type} {source : ByteSource P} {format : BlockFormat Block} {σ : Type}
  (decoder : Decoder source format σ)

/-- The loop over the remaining bits of a flag byte. -/
def blocks (flags : BitVec 8) : Nat → σ → Option σ
  | 0, state => some state
  | bits + 1, state =>
      if decoder.size ≤ (decoder.output state).length then some state
      else (decoder.block (flags.getLsbD bits) state).bind (blocks flags bits)

/-- The loop over the flag bytes. -/
def groups : Nat → σ → Option σ
  | 0, state => some state
  | passes + 1, state =>
      if decoder.size ≤ (decoder.output state).length then some state
      else
        (decoder.flags state).bind fun (flags, state) =>
          (decoder.blocks flags 8 state).bind (groups passes)

variable {decoder}

theorem blocks_complete {flags : BitVec 8} {bits : Nat} {state : σ}
    (h : decoder.size ≤ (decoder.output state).length) :
    decoder.blocks flags bits state = some state := by
  cases bits with
  | zero => rfl
  | succ bits => exact if_pos h

theorem groups_complete {passes : Nat} {state : σ}
    (h : decoder.size ≤ (decoder.output state).length) :
    decoder.groups passes state = some state := by
  cases passes with
  | zero => rfl
  | succ passes => exact if_pos h

/-- The blocks of one group are decoded one after the other. -/
theorem blocks_of_group {flags : BitVec 8} {group : List Block} {bits rest : Nat} {state : σ}
    {full : List (BitVec 8)} (hbits : bits = group.length + rest)
    (hflags : group.map format.flag <+: flagBits flags bits)
    (hreads : source.Reads (decoder.position state) (group.flatMap format.bytes))
    (hextends : format.extend decoder.size (decoder.output state) group = some full) :
    ∃ next, decoder.blocks flags bits state = decoder.blocks flags rest next ∧
      decoder.output next = full ∧
      decoder.position next =
        source.advance (decoder.position state) (group.flatMap format.bytes).length := by
  induction group generalizing bits state with
  | nil =>
    have hsame : bits = rest := by simpa using hbits
    subst hsame
    exact ⟨state, rfl, Option.some.inj hextends, rfl⟩
  | cons value group ih =>
    obtain ⟨bits, rfl⟩ : ∃ count, bits = count + 1 := ⟨group.length + rest, by
      rw [List.length_cons] at hbits
      omega⟩
    obtain ⟨hflag, hflags⟩ := List.cons_prefix_cons.mp hflags
    rw [List.flatMap_cons, ByteSource.reads_append] at hreads
    obtain ⟨hlt, middle, hexpand, hextends⟩ := BlockFormat.extend_cons_some hextends
    obtain ⟨next, hblock, houtput, hposition⟩ := decoder.block_some hlt hreads.1 hexpand
    rw [← houtput] at hextends
    rw [← hposition] at hreads
    rw [List.length_cons] at hbits
    obtain ⟨last, hblocks, hlast, hlastPosition⟩ := ih (by omega) hflags hreads.2 hextends
    refine ⟨last, ?_, hlast, ?_⟩
    · show (if decoder.size ≤ (decoder.output state).length then some state
        else (decoder.block (flags.getLsbD bits) state).bind (decoder.blocks flags bits)) = _
      rw [if_neg (Nat.not_le.mpr hlt), ← hflag, hblock]
      exact hblocks
    · rw [hlastPosition, hposition, List.flatMap_cons, List.length_append, source.advance_add]

/-- What a group is decoded to comes from its blocks: all of the group or all of the output. -/
theorem group_of_blocks {flags : BitVec 8} {bits : Nat} {state next : σ}
    (h : decoder.blocks flags bits state = some next) :
    ∃ group, group.map format.flag <+: flagBits flags bits ∧
      source.Reads (decoder.position state) (group.flatMap format.bytes) ∧
      format.extend decoder.size (decoder.output state) group = some (decoder.output next) ∧
      decoder.position next =
        source.advance (decoder.position state) (group.flatMap format.bytes).length ∧
      (group.length = bits ∨ decoder.size ≤ (decoder.output next).length) := by
  induction bits generalizing state with
  | zero =>
    obtain rfl := Option.some.inj h
    exact ⟨[], List.nil_prefix, trivial, rfl, rfl, .inl rfl⟩
  | succ bits ih =>
    by_cases hcomplete : decoder.size ≤ (decoder.output state).length
    · rw [blocks_complete hcomplete] at h
      obtain rfl := Option.some.inj h
      exact ⟨[], List.nil_prefix, trivial, rfl, rfl, .inr hcomplete⟩
    have hlt := Nat.not_le.mp hcomplete
    have h' : (if decoder.size ≤ (decoder.output state).length then some state
        else (decoder.block (flags.getLsbD bits) state).bind (decoder.blocks flags bits)) =
          some next := h
    rw [if_neg hcomplete] at h'
    obtain ⟨middle, hblock, hrest⟩ := Option.bind_eq_some_iff.mp h'
    -- a block of this kind can be read and expanded
    have hfound : ¬format.Defect source (flags.getLsbD bits) (decoder.position state)
        (decoder.output state) := by
      intro hdefect
      rw [decoder.block_none hlt hdefect] at hblock
      contradiction
    unfold BlockFormat.Defect at hfound
    push Not at hfound
    obtain ⟨value, hflag, hreads, hexpand⟩ := hfound
    obtain ⟨full, hexpand⟩ := Option.ne_none_iff_exists'.mp hexpand
    obtain ⟨middle', hblock', houtput, hposition⟩ := decoder.block_some hlt hreads hexpand
    rw [hflag, hblock] at hblock'
    obtain rfl := Option.some.inj hblock'
    obtain ⟨group, hflags, hgroupReads, hextends, hgroupPosition, hlength⟩ := ih hrest
    refine ⟨value :: group, ?_, ?_, ?_, ?_, ?_⟩
    · exact List.cons_prefix_cons.mpr ⟨hflag, hflags⟩
    · rw [List.flatMap_cons, ByteSource.reads_append, ← hposition]
      exact ⟨hreads, hgroupReads⟩
    · rw [BlockFormat.extend_cons hlt hexpand, ← houtput]
      exact hextends
    · rw [hgroupPosition, hposition, List.flatMap_cons, List.length_append, source.advance_add]
    · exact hlength.imp_left (congrArg Nat.succ)

/-- A group fails at a block that cannot be read and expanded. -/
theorem blocks_eq_none_iff {flags : BitVec 8} {bits : Nat} {state : σ} :
    decoder.blocks flags bits state = none ↔
      ∃ group full, format.GroupStart decoder.size source (decoder.position state)
          (decoder.output state) bits flags group full ∧
        group.length < bits ∧
        format.Defect source (flags.getLsbD (bits - 1 - group.length))
          (source.advance (decoder.position state) (group.flatMap format.bytes).length) full := by
  constructor
  · intro h
    induction bits generalizing state with
    | zero => contradiction
    | succ bits ih =>
      by_cases hcomplete : decoder.size ≤ (decoder.output state).length
      · rw [blocks_complete hcomplete] at h
        contradiction
      have hlt := Nat.not_le.mp hcomplete
      have h' : (if decoder.size ≤ (decoder.output state).length then some state
          else (decoder.block (flags.getLsbD bits) state).bind (decoder.blocks flags bits)) =
            none := h
      rw [if_neg hcomplete] at h'
      -- the first block either is the defect or is expanded, and then the defect lies behind it
      by_cases hdefect : format.Defect source (flags.getLsbD bits) (decoder.position state)
          (decoder.output state)
      · exact ⟨[], decoder.output state, ⟨ List.nil_prefix, trivial, rfl, hlt⟩, Nat.succ_pos _,
          hdefect⟩
      unfold BlockFormat.Defect at hdefect
      push Not at hdefect
      obtain ⟨value, hflag, hreads, hexpand⟩ := hdefect
      obtain ⟨middle, hexpand⟩ := Option.ne_none_iff_exists'.mp hexpand
      obtain ⟨next, hblock, houtput, hposition⟩ := decoder.block_some hlt hreads hexpand
      rw [← hflag, hblock] at h'
      obtain ⟨group, full, hgroup, hlength, hdefect⟩ := ih h'
      refine ⟨value :: group, full, ⟨?_, ?_, ?_, hgroup.unfinished⟩, Nat.succ_lt_succ hlength, ?_⟩
      · exact List.cons_prefix_cons.mpr ⟨hflag, hgroup.flagged⟩
      · rw [List.flatMap_cons, ByteSource.reads_append, ← hposition]
        exact ⟨hreads, hgroup.reads⟩
      · rw [BlockFormat.extend_cons hlt hexpand, ← houtput]
        exact hgroup.expands
      · have hbit : bits + 1 - 1 - (value :: group).length = bits - 1 - group.length := by
          rw [List.length_cons]
          omega
        rw [hbit, List.flatMap_cons, List.length_append, source.advance_add, ← hposition]
        exact hdefect
  · rintro ⟨group, full, ⟨hflags, hreads, hextends, hunfinished⟩, hlength, hdefect⟩
    obtain ⟨rest, hrest⟩ : ∃ rest, bits = group.length + (rest + 1) :=
      ⟨bits - group.length - 1, by omega⟩
    obtain ⟨next, hblocks, houtput, hposition⟩ := blocks_of_group hrest hflags hreads hextends
    have hbit : bits - 1 - group.length = rest := by omega
    rw [hbit, ← hposition] at hdefect
    subst houtput
    rw [hblocks]
    show (if decoder.size ≤ (decoder.output next).length then some next
      else (decoder.block (flags.getLsbD rest) next).bind (decoder.blocks flags rest)) = none
    rw [if_neg (Nat.not_le.mpr hunfinished), decoder.block_none hunfinished hdefect]
    rfl

/-- A pass of the loop over the flag bytes. -/
theorem groups_pass {passes : Nat} {state next : σ} {flags : BitVec 8}
    (hlt : (decoder.output state).length < decoder.size)
    (hflags : decoder.flags state = some (flags, next)) :
    decoder.groups (passes + 1) state =
      (decoder.blocks flags 8 next).bind (decoder.groups passes) := by
  show (if decoder.size ≤ (decoder.output state).length then some state
    else (decoder.flags state).bind fun (flags, state) =>
      (decoder.blocks flags 8 state).bind (decoder.groups passes)) = _
  rw [if_neg (Nat.not_le.mpr hlt), hflags]
  rfl

/-- An encoding is decoded to what its blocks expand to. -/
theorem groups_of_encodes {blocks : List Block} {bytes data : List (BitVec 8)} {passes : Nat}
    {state : σ} (hencodes : format.Encodes blocks bytes)
    (hpasses : decoder.size ≤ (decoder.output state).length + passes)
    (hreads : source.Reads (decoder.position state) bytes)
    (hextends : format.extend decoder.size (decoder.output state) blocks = some data)
    (hcomplete : decoder.size ≤ data.length) :
    ∃ next, decoder.groups passes state = some next ∧ decoder.output next = data ∧
      decoder.position next = source.advance (decoder.position state) bytes.length := by
  induction hencodes generalizing passes state with
  | nil =>
    obtain rfl := Option.some.inj hextends
    exact ⟨state, groups_complete hcomplete, rfl, rfl⟩
  | @group flags group rest bytes hne hflagged hfull _ ih =>
    have hlt : (decoder.output state).length < decoder.size := by
      obtain ⟨value, group, rfl⟩ := List.exists_cons_of_ne_nil hne
      exact (BlockFormat.extend_cons_some hextends).1
    obtain ⟨passes, rfl⟩ : ∃ count, passes = count + 1 := ⟨passes - 1, by omega⟩
    obtain ⟨hread, hreads⟩ := hreads
    rw [ByteSource.reads_append] at hreads
    obtain ⟨first, hfirst, hfirstPosition, hfirstOutput⟩ := decoder.flags_some hread
    rw [BlockFormat.extend_append] at hextends
    obtain ⟨middle, hgroup, hrest⟩ := Option.bind_eq_some_iff.mp hextends
    have hbits : ∃ left, 8 = group.length + left ∧ (rest ≠ [] → left = 0) := by
      have hle := hflagged.length_le
      rw [List.length_map, flagBits_length] at hle
      refine ⟨8 - group.length, by omega, fun hrest => ?_⟩
      rw [hfull hrest]
    obtain ⟨left, hbits, hleft⟩ := hbits
    rw [← hfirstPosition] at hreads
    rw [← hfirstOutput] at hgroup
    obtain ⟨last, hblocks, hlast, hlastPosition⟩ :=
      blocks_of_group hbits hflagged hreads.1 hgroup
    -- the group ends with its last bit or with the output
    have hend : decoder.blocks flags left last = some last := by
      by_cases hempty : rest = []
      · subst hempty
        refine blocks_complete ?_
        rw [hlast, Option.some.inj hrest]
        exact hcomplete
      · rw [hleft hempty]
        rfl
    have hlonger := BlockFormat.extend_longer hne hgroup
    rw [hfirstOutput, ← hlast] at hlonger
    rw [← hlastPosition] at hreads
    rw [← hlast] at hrest
    obtain ⟨next, hgroups, houtput, hposition⟩ := @ih passes last (by omega) hreads.2 hrest
    refine ⟨next, ?_, houtput, ?_⟩
    · rw [groups_pass hlt hfirst, hblocks, hend]
      exact hgroups
    · rw [hposition, hlastPosition, hfirstPosition, List.length_cons, List.length_append,
        source.advance_succ, source.advance_add]

/-- What is decoded is what the blocks of an encoding expand to. -/
theorem encodes_of_groups {passes : Nat} {state next : σ}
    (hpasses : decoder.size ≤ (decoder.output state).length + passes)
    (h : decoder.groups passes state = some next) :
    decoder.size ≤ (decoder.output next).length ∧ ∃ blocks bytes, format.Encodes blocks bytes ∧
      source.Reads (decoder.position state) bytes ∧
      format.extend decoder.size (decoder.output state) blocks = some (decoder.output next) ∧
      decoder.position next = source.advance (decoder.position state) bytes.length := by
  induction passes generalizing state with
  | zero =>
    obtain rfl := Option.some.inj h
    exact ⟨hpasses, [], [], .nil, trivial, rfl, rfl⟩
  | succ passes ih =>
    by_cases hcomplete : decoder.size ≤ (decoder.output state).length
    · rw [groups_complete hcomplete] at h
      obtain rfl := Option.some.inj h
      exact ⟨hcomplete, [], [], .nil, trivial, rfl, rfl⟩
    have hlt := Nat.not_le.mp hcomplete
    cases hread : source.read (decoder.position state) with
    | none =>
      have h' : (if decoder.size ≤ (decoder.output state).length then some state
          else (decoder.flags state).bind fun (flags, state) =>
            (decoder.blocks flags 8 state).bind (decoder.groups passes)) = some next := h
      rw [if_neg hcomplete, decoder.flags_none hread] at h'
      contradiction
    | some flags =>
      obtain ⟨first, hfirst, hfirstPosition, hfirstOutput⟩ := decoder.flags_some hread
      rw [groups_pass hlt hfirst] at h
      obtain ⟨middle, hblocks, hrest⟩ := Option.bind_eq_some_iff.mp h
      obtain ⟨group, hflagged, hreads, hextends, hposition, hlength⟩ := group_of_blocks hblocks
      have hne : group ≠ [] := by
        rintro rfl
        rcases hlength with hlength | hlength
        · contradiction
        · rw [← Option.some.inj hextends, hfirstOutput] at hlength
          exact hcomplete hlength
      have hlonger := BlockFormat.extend_longer hne hextends
      rw [hfirstOutput] at hlonger
      obtain ⟨hdone, rest, bytes, hencodes, hrestReads, hrestExtends, hrestPosition⟩ :=
        ih (by omega) hrest
      refine ⟨hdone, group ++ rest, flags :: (group.flatMap format.bytes ++ bytes),
        .group flags hne hflagged ?_ hencodes, ⟨hread, ?_⟩, ?_, ?_⟩
      · intro hmore
        refine hlength.resolve_right fun hlength => hmore ?_
        exact BlockFormat.extend_complete hlength hrestExtends
      · rw [ByteSource.reads_append, ← hfirstPosition, ← hposition]
        exact ⟨hreads, hrestReads⟩
      · rw [BlockFormat.extend_append, ← hfirstOutput, hextends]
        exact hrestExtends
      · rw [hrestPosition, hposition, hfirstPosition, List.length_cons, List.length_append,
          source.advance_succ, source.advance_add]

/-- The output starts with that of the blocks read first. -/
theorem groups_start {passes : Nat} {state next : σ} {flags : BitVec 8} {group : List Block}
    {full : List (BitVec 8)} (hpasses : decoder.size ≤ (decoder.output state).length + passes)
    (h : decoder.groups passes state = some next)
    (hlt : (decoder.output state).length < decoder.size)
    (hread : source.read (decoder.position state) = some flags)
    (hflagged : group.map format.flag <+: flagBits flags 8)
    (hreads : source.Reads (source.next (decoder.position state)) (group.flatMap format.bytes))
    (hextends : format.extend decoder.size (decoder.output state) group = some full) :
    full <+: decoder.output next := by
  obtain ⟨passes, rfl⟩ : ∃ count, passes = count + 1 := ⟨passes - 1, by omega⟩
  obtain ⟨first, hfirst, hfirstPosition, hfirstOutput⟩ := decoder.flags_some hread
  rw [groups_pass hlt hfirst] at h
  obtain ⟨middle, hblocks, hrest⟩ := Option.bind_eq_some_iff.mp h
  have hle := hflagged.length_le
  rw [List.length_map, flagBits_length] at hle
  obtain ⟨left, hleft⟩ : ∃ left, 8 = group.length + left := ⟨8 - group.length, by omega⟩
  rw [← hfirstPosition] at hreads
  rw [← hfirstOutput] at hextends
  obtain ⟨last, hlastBlocks, hlast, -⟩ := blocks_of_group hleft hflagged hreads hextends
  rw [hlastBlocks] at hblocks
  have hbound : full.length ≤ decoder.size := by
    refine BlockFormat.extend_le_size ?_ hextends
    rw [hfirstOutput]
    exact hlt.le
  obtain ⟨later, -, -, hlater, -, -⟩ := group_of_blocks hblocks
  rw [hlast] at hlater
  have hmiddle := BlockFormat.extend_le_size hbound hlater
  have hsame := BlockFormat.extend_start hbound hlater
  -- each pass adds to the output
  have hmore : (decoder.output state).length < (decoder.output middle).length := by
    obtain ⟨whole, -, -, hwhole, -, hlength⟩ := group_of_blocks (hlastBlocks.trans hblocks)
    have hne : whole ≠ [] := by
      rintro rfl
      rcases hlength with hlength | hlength
      · contradiction
      · rw [← Option.some.inj hwhole, hfirstOutput] at hlength
        omega
    have hlonger := BlockFormat.extend_longer hne hwhole
    rw [hfirstOutput] at hlonger
    exact hlonger
  obtain ⟨-, blocks, bytes, -, -, hblocksExtend, -⟩ := encodes_of_groups (by omega) hrest
  exact hsame.trans (BlockFormat.extend_start hmiddle hblocksExtend)

/-- The decoder fails exactly on a defect. -/
theorem groups_eq_none_iff {passes : Nat} {state : σ}
    (hpasses : decoder.size ≤ (decoder.output state).length + passes) :
    decoder.groups passes state = none ↔
      format.Malformed decoder.size source (decoder.position state) (decoder.output state) := by
  constructor
  · intro h
    induction passes generalizing state with
    | zero => contradiction
    | succ passes ih =>
      by_cases hcomplete : decoder.size ≤ (decoder.output state).length
      · rw [groups_complete hcomplete] at h
        contradiction
      have hlt := Nat.not_le.mp hcomplete
      cases hread : source.read (decoder.position state) with
      | none => exact .flags hlt hread
      | some flags =>
        obtain ⟨first, hfirst, hfirstPosition, hfirstOutput⟩ := decoder.flags_some hread
        rw [groups_pass hlt hfirst] at h
        cases hblocks : decoder.blocks flags 8 first with
        | none =>
          obtain ⟨group, full, hgroup, hlength, hdefect⟩ := blocks_eq_none_iff.mp hblocks
          rw [hfirstPosition, hfirstOutput] at hgroup
          rw [hfirstPosition] at hdefect
          exact .block hlt hread hgroup hlength hdefect
        | some middle =>
          rw [hblocks] at h
          obtain ⟨group, hflagged, hreads, hextends, hposition, hlength⟩ := group_of_blocks hblocks
          -- groups that fail later cannot be complete here
          have hunfinished : (decoder.output middle).length < decoder.size := by
            refine Nat.not_le.mp fun hcomplete => ?_
            have hsome : decoder.groups passes middle = some middle := groups_complete hcomplete
            exact Option.some_ne_none _ (hsome.symm.trans h)
          have hlength := hlength.resolve_right (Nat.not_le.mpr hunfinished)
          have hne : group ≠ [] := by
            rintro rfl
            contradiction
          have hlonger := BlockFormat.extend_longer hne hextends
          rw [hfirstOutput] at hlonger
          rw [hfirstPosition] at hreads hposition
          rw [hfirstOutput] at hextends
          have hrest := ih (by omega) h
          rw [hposition] at hrest
          exact .group hlt hread ⟨hflagged, hreads, hextends, hunfinished⟩ hlength hrest
  · intro h
    generalize hposition : decoder.position state = position at h
    generalize houtput : decoder.output state = output at h
    -- by induction on the derivation that the stream is malformed
    induction h generalizing passes state with
    | flags hlt hread =>
      subst hposition houtput
      obtain ⟨passes, rfl⟩ : ∃ count, passes = count + 1 := ⟨passes - 1, by omega⟩
      show (if decoder.size ≤ (decoder.output state).length then some state
        else (decoder.flags state).bind fun (flags, state) =>
          (decoder.blocks flags 8 state).bind (decoder.groups passes)) = none
      rw [if_neg (Nat.not_le.mpr hlt), decoder.flags_none hread]
      rfl
    | block hlt hread hgroup hlength hdefect =>
      subst hposition houtput
      obtain ⟨passes, rfl⟩ : ∃ count, passes = count + 1 := ⟨passes - 1, by omega⟩
      obtain ⟨first, hfirst, hfirstPosition, hfirstOutput⟩ := decoder.flags_some hread
      rw [← hfirstPosition, ← hfirstOutput] at hgroup
      rw [← hfirstPosition] at hdefect
      rw [groups_pass hlt hfirst, blocks_eq_none_iff.mpr ⟨_, _, hgroup, hlength, hdefect⟩]
      rfl
    | @group _ _ full flags group hlt hread hgroup hlength _ ih =>
      subst hposition houtput
      obtain ⟨passes, rfl⟩ : ∃ count, passes = count + 1 := ⟨passes - 1, by omega⟩
      obtain ⟨first, hfirst, hfirstPosition, hfirstOutput⟩ := decoder.flags_some hread
      rw [← hfirstPosition, ← hfirstOutput] at hgroup
      have hbits : 8 = group.length + 0 := hlength.symm
      obtain ⟨last, hblocks, hlast, hlastPosition⟩ :=
        blocks_of_group hbits hgroup.flagged hgroup.reads hgroup.expands
      have hne : group ≠ [] := by
        rintro rfl
        contradiction
      have hlonger := BlockFormat.extend_longer hne hgroup.expands
      rw [hfirstOutput, ← hlast] at hlonger
      rw [hfirstPosition] at hlastPosition
      rw [groups_pass hlt hfirst, hblocks]
      show decoder.groups passes last = none
      exact @ih passes last (by omega) hlastPosition hlast

end Decoder

end Gba.Library
