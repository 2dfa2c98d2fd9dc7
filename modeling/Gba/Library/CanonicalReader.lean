import Gba.Library.ByteReader

/-!
# Canonical readers

A reader is canonical if every string that it accepts spells the value that it returns: it takes
exactly the bytes that the writer makes of the value, so that no value has a second spelling. The
rules follow the constructs that readers are written with; a reader of a record spells its fields
one after the other.
-/

namespace Gba.Library

variable {α β : Type}

/-- Wherever the reader succeeds, the bytes that it takes and its value satisfy `Q`. -/
def Spells (p : Reader α) (Q : α → List (BitVec 8) → Prop) : Prop :=
  ∀ bytes offset a next, offset ≤ bytes.length → p.run bytes offset = .value a next →
    ∃ block, bytes.drop offset = block ++ bytes.drop next ∧ Q a block

/-- After the fields `spelled` have been taken, the last one first, the reader completes the
spelling of its value. -/
def Completes (spelled : List (List (BitVec 8))) (p : Reader α) (write : α → List (BitVec 8)) :
    Prop :=
  Spells p fun a block => spelled.reverse.flatten ++ block = write a

/-- The reader takes the spelling of its value. -/
def Canonical (p : Reader α) (write : α → List (BitVec 8)) : Prop :=
  Spells p fun a block => block = write a

namespace Spells

open Reader

variable {p : Reader α} {f : α → Reader β} {P Q : α → List (BitVec 8) → Prop}
  {R : β → List (BitVec 8) → Prop}

theorem conseq (h : Spells p P) (hQ : ∀ a block, P a block → Q a block) : Spells p Q := by
  intro bytes offset a next hoffset hrun
  obtain ⟨block, hdrop, hblock⟩ := h bytes offset a next hoffset hrun
  exact ⟨block, hdrop, hQ a block hblock⟩

/-- Every reader takes some bytes. -/
theorem any (p : Reader α) : Spells p fun _ _ => True := by
  intro bytes offset a next hoffset hrun
  have hwithin := p.within bytes offset hoffset
  rw [hrun] at hwithin
  refine ⟨(bytes.drop offset).take (next - offset), ?_, trivial⟩
  have hdrop : bytes.drop next = (bytes.drop offset).drop (next - offset) := by
    rw [List.drop_drop, Nat.add_sub_cancel' hwithin.1]
  rw [hdrop, List.take_append_drop]

theorem pure {a : α} (h : Q a []) : Spells (Pure.pure a : Reader α) Q := by
  intro bytes offset b next _ hrun
  obtain ⟨rfl, rfl⟩ := run_pure_value hrun
  exact ⟨[], rfl, h⟩

/-- One reader after the other takes one block after the other. -/
theorem bind (hp : Spells p P) (hf : ∀ a block, P a block → Spells (f a) fun b rest => R b (block ++ rest)) :
    Spells (p >>= f) R := by
  intro bytes offset b next hoffset hrun
  obtain ⟨a, middle, hfirst, hsecond⟩ := run_bind_value hrun
  obtain ⟨block, hdrop, hblock⟩ := hp bytes offset a middle hoffset hfirst
  have hwithin := p.within bytes offset hoffset
  rw [hfirst] at hwithin
  obtain ⟨rest, hrest, hboth⟩ := hf a block hblock bytes middle b next hwithin.2 hsecond
  refine ⟨block ++ rest, ?_, hboth⟩
  rw [hdrop, hrest, List.append_assoc]

/-- A reader that takes nothing. -/
theorem silent (hp : ∀ bytes offset a next, p.run bytes offset = .value a next → next = offset ∧ P a []) :
    Spells p P := by
  intro bytes offset a next _ hrun
  obtain ⟨rfl, ha⟩ := hp bytes offset a next hrun
  exact ⟨[], rfl, ha⟩

theorem refuse : Spells (Reader.refuse : Reader α) Q := by
  intro bytes offset a next _ hrun
  cases hrun

theorem check (condition : Bool) :
    Spells (Reader.check condition) fun _ block => condition = true ∧ block = [] := by
  unfold Reader.check
  split
  · next hcondition => exact .pure ⟨hcondition, rfl⟩
  · exact .refuse

theorem ofOption (value : Option α) :
    Spells (Reader.ofOption value) fun a block => value = some a ∧ block = [] := by
  cases value with
  | none => exact .refuse
  | some a => exact .pure ⟨rfl, rfl⟩

theorem remaining : Spells Reader.remaining fun _ block => block = [] :=
  .silent fun _ _ _ _ hrun => by
    cases hrun
    exact ⟨rfl, rfl⟩

/-- The end of the input takes nothing. -/
theorem atEnd : Spells Reader.atEnd fun _ block => block = [] := by
  refine .silent fun bytes offset a next hrun => ?_
  change (if offset = bytes.length then _ else _) = _ at hrun
  split at hrun
  · cases hrun
    exact ⟨rfl, rfl⟩
  · cases hrun

theorem readU8 : Spells Reader.readU8 fun value block => block = [value] := by
  intro bytes offset value next _ hrun
  change (if bytes.length ≤ offset then _ else _) = _ at hrun
  split at hrun
  · cases hrun
  · next hlt =>
    rw [List.getElem?_eq_getElem (Nat.lt_of_not_le hlt)] at hrun
    cases hrun
    exact ⟨_, List.drop_eq_getElem_cons (Nat.lt_of_not_le hlt), rfl⟩

theorem readBlock (size : Nat) :
    Spells (Reader.readBlock size) fun block taken => taken = block ∧ block.length = size := by
  intro bytes offset block next _ hrun
  change (if bytes.length - offset < size then _ else _) = _ at hrun
  split at hrun
  · cases hrun
  · split at hrun
    · next hlength =>
      cases hrun
      refine ⟨_, ?_, rfl, hlength⟩
      rw [← List.drop_drop, List.take_append_drop]
    · cases hrun

end Spells

namespace Canonical

open Reader

/-! ## Records -/

section Records

variable {p : Reader α} {f : α → Reader β} {write : α → List (BitVec 8)}
  {writeAll : β → List (BitVec 8)} {spelled : List (List (BitVec 8))}

/-- The fields of a record complete its spelling. -/
theorem of_completes (h : Completes [] p write) : Canonical p write :=
  h.conseq fun _ _ hblock => hblock

/-- The next field. -/
theorem field (hp : Canonical p write) (hf : ∀ a, Completes (write a :: spelled) (f a) writeAll) :
    Completes spelled (p >>= f) writeAll := by
  refine Spells.bind hp fun a block hblock => (hf a).conseq fun b rest hrest => ?_
  rw [List.reverse_cons, List.flatten_append, List.flatten_singleton, List.append_assoc] at hrest
  rw [hblock]
  exact hrest

/-- A condition on the fields so far. -/
theorem check_bind {condition : Bool} {f : Unit → Reader β}
    (hf : condition = true → Completes spelled (f ()) writeAll) :
    Completes spelled (Reader.check condition >>= f) writeAll := by
  refine (Spells.check condition).bind fun _ block hblock => ?_
  obtain ⟨hcondition, rfl⟩ := hblock
  exact hf hcondition

/-- A value that a field stands for. -/
theorem ofOption_bind {value : Option α}
    (hf : ∀ a, value = some a → Completes spelled (f a) writeAll) :
    Completes spelled (Reader.ofOption value >>= f) writeAll := by
  refine (Spells.ofOption value).bind fun a block hblock => ?_
  obtain ⟨hvalue, rfl⟩ := hblock
  exact hf a hvalue

/-- All fields have been read. -/
theorem done {b : β} {fields : List (List (BitVec 8))} (hwrite : writeAll b = fields.flatten)
    (hfields : spelled.reverse = fields) : Completes spelled (Pure.pure b) writeAll := by
  refine Spells.pure ?_
  rw [List.append_nil, hwrite, hfields]

end Records

/-! ## Words -/

theorem readU8 : Canonical Reader.readU8 writeU8 := Spells.readU8

theorem readBool : Canonical Reader.readBool writeBool := by
  refine Spells.readU8.bind fun raw block hblock => ?_
  rw [hblock]
  split
  · exact .refuse
  · next hraw =>
    have hcases : raw = 0#8 ∨ raw = 1#8 := by bv_omega
    rcases hcases with rfl | rfl
    · exact .pure rfl
    · exact .pure rfl

/-- The byte at a position of a word does not depend on what is above it. -/
theorem byte_low {width : Nat} (value : BitVec width) (index : Nat) :
    ((Reads.low value (index + 1)) >>> (index * 8)).setWidth 8 =
      (value >>> (index * 8)).setWidth 8 := by
  ext bit hbit
  have hbelow : index * 8 + bit < (index + 1) * 8 := by omega
  simp only [Reads.low, BitVec.getElem_setWidth, BitVec.getLsbD_ushiftRight,
    BitVec.getLsbD_setWidth, decide_eq_true hbelow, Bool.true_and]
  by_cases hwidth : index * 8 + bit < width
  · rw [decide_eq_true hwidth, Bool.true_and]
  · rw [BitVec.getLsbD_of_ge value _ (Nat.le_of_not_lt hwidth), Bool.and_false]

/-- The next byte of a word stands at its position and keeps what is below it. -/
theorem next_byte {width : Nat} {value : BitVec width} {index : Nat}
    (hlow : Reads.low value index = value) (hwidth : (index + 1) * 8 ≤ width) (byte : BitVec 8) :
    let next := value ||| byte.setWidth width <<< (index * 8)
    Reads.low next (index + 1) = next ∧ Reads.low next index = value ∧
      (next >>> (index * 8)).setWidth 8 = byte := by
  have hzero : ∀ bit, index * 8 ≤ bit → value.getLsbD bit = false := by
    intro bit hbit
    rw [← hlow]
    simp only [Reads.low, BitVec.getLsbD_setWidth]
    have hnot : ¬ bit < index * 8 := by omega
    simp [hnot]
  refine ⟨?_, ?_, ?_⟩
  · ext bit hbit
    simp only [Reads.low, BitVec.getElem_setWidth, BitVec.getLsbD_setWidth, BitVec.getLsbD_or,
      BitVec.getElem_or, BitVec.getLsbD_shiftLeft, BitVec.getElem_shiftLeft]
    by_cases hnext : bit < (index + 1) * 8
    · have hin : bit - index * 8 < width := by omega
      simp [hnext, hbit, hin]
    · have hvalue := hzero bit (by omega)
      rw [BitVec.getLsbD_eq_getElem hbit] at hvalue
      have hbyte := byte.getLsbD_of_ge (bit - index * 8) (by omega)
      simp [hnext, hvalue, hbyte]
  · rw [← hlow]
    ext bit hbit
    simp only [Reads.low, BitVec.getElem_setWidth, BitVec.getLsbD_setWidth, BitVec.getLsbD_or,
      BitVec.getLsbD_shiftLeft]
    by_cases hbelow : bit < index * 8
    · simp [hbelow, hbit]
    · simp [hbelow]
  · ext bit hbit
    have hvalue := hzero (index * 8 + bit) (Nat.le_add_right _ _)
    have hin : index * 8 + bit < width := by omega
    rw [BitVec.getLsbD_eq_getElem hin] at hvalue
    simp [hvalue, hin, hbit]

/-- Induction on the bytes that are left: the low part of the word has been read. -/
theorem readWord {width : Nat} (count index : Nat) {value : BitVec width}
    (hlow : Reads.low value index = value) (hwidth : (index + count) * 8 ≤ width) :
    Spells (Reader.readWord width count index value) fun word block =>
      Reads.low word index = value ∧
        block = (List.range' index count).map fun byte => (word >>> (byte * 8)).setWidth 8 := by
  induction count generalizing index value with
  | zero => exact .pure ⟨hlow, rfl⟩
  | succ count ih =>
      have hsum : index + (count + 1) = index + 1 + count := by omega
      rw [hsum] at hwidth
      refine Spells.readU8.bind fun byte block hblock => ?_
      obtain ⟨hnext, hkept, hbyte⟩ := next_byte hlow (by omega) byte
      refine (ih (index + 1) hnext hwidth).conseq fun word rest hrest => ?_
      obtain ⟨hword, rfl⟩ := hrest
      subst hblock
      have hindex : (word >>> (index * 8)).setWidth 8 = byte := by
        rw [← byte_low, hword, hbyte]
      refine ⟨?_, ?_⟩
      · rw [← hkept, ← hword]
        ext bit hbit
        simp only [Reads.low, BitVec.getElem_setWidth, BitVec.getLsbD_setWidth]
        by_cases hbelow : bit < index * 8
        · have habove : bit < (index + 1) * 8 := by omega
          simp [hbelow, habove, hbit]
        · simp [hbelow]
      · rw [List.range'_succ, List.map_cons, hindex]
        rfl

/-- A word of `count` bytes. -/
theorem word (count : Nat) :
    Canonical (Reader.readWord (count * 8) count 0 0) (writeWord count) := by
  have hlow : Reads.low 0#(count * 8) 0 = 0#(count * 8) := by
    ext bit hbit
    simp [Reads.low]
  refine (readWord count 0 hlow (by omega)).conseq fun value block hblock => ?_
  rw [hblock.2, writeWord, List.range_eq_range']

theorem readU16 : Canonical Reader.readU16 writeU16 := word 2

theorem readU32 : Canonical Reader.readU32 writeU32 := word 4

theorem readU64 : Canonical Reader.readU64 writeU64 := word 8

/-! ## Sequences -/

theorem readFixed (size : Nat) : Canonical (Reader.readFixed size) writeFixed := by
  refine (Spells.readBlock size).bind fun block taken htaken => ?_
  obtain ⟨rfl, hlength⟩ := htaken
  refine .pure ?_
  rw [List.append_nil]
  refine List.ext_getElem (by rw [writeFixed, List.length_ofFn, hlength]) fun index hleft _ => ?_
  simp [writeFixed, hleft]

theorem readBlob (maxSize : BitVec 32) : Canonical (Reader.readBlob maxSize) writeBlob := by
  refine Spells.bind readU32 fun size block hblock => ?_
  split
  · exact .refuse
  · refine (Spells.readBlock size.toNat).conseq fun bytes taken htaken => ?_
    obtain ⟨rfl, hlength⟩ := htaken
    rw [hblock, writeBlob, hlength, BitVec.ofNat_toNat, BitVec.setWidth_eq]

variable {p : Reader α} {write : α → List (BitVec 8)}

theorem readOptional (hp : Canonical p write) :
    Canonical (Reader.readOptional p) (writeOptional write) := by
  refine Spells.bind readBool fun present block hblock => ?_
  subst hblock
  cases present with
  | false => exact .pure rfl
  | true => exact Spells.bind hp fun a rest hrest => .pure (by rw [hrest, List.append_nil]; rfl)

theorem readArray (hp : Canonical p write) (n : Nat) :
    Canonical (Reader.readArray p n) (writeArray write) := by
  induction n with
  | zero => exact Spells.pure rfl
  | succ n ih =>
      refine Spells.bind hp fun first block hblock => Spells.bind ih fun rest taken htaken => ?_
      subst hblock htaken
      refine .pure ?_
      rw [List.append_nil, writeArray, writeArray, List.ofFn_succ, List.flatMap_cons]
      rfl

theorem readList (hp : Canonical p write) (count : Nat) :
    Spells (Reader.readList p count) fun values block =>
      values.length = count ∧ block = values.flatMap write := by
  induction count with
  | zero => exact .pure ⟨rfl, rfl⟩
  | succ count ih =>
      refine Spells.bind hp fun first block hblock => ih.bind fun rest taken htaken => ?_
      obtain ⟨hlength, rfl⟩ := htaken
      subst hblock
      refine .pure ⟨congrArg (· + 1) hlength, ?_⟩
      rw [List.append_nil, List.flatMap_cons]

end Canonical

end Gba.Library
