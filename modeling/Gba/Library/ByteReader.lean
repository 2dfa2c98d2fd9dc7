import Mathlib.Data.BitVec
import Mathlib.Data.Fin.Tuple.Basic
import Mathlib.Tactic.Common

/-!
# Reading and writing byte strings

A reader walks over a byte string with an offset. It returns a value and the next offset, or it
refuses; taking a byte outside the string would be a fault. `Reader` carries the proof that from
an offset inside the string it never faults and never leaves the string, so that whatever is built
from the readers below has that property too. `Reads` relates a reader to the bytes that spell a
value.
-/

namespace Gba.Library

/-- The outcome of reading at an offset. -/
inductive ReadOutcome (α : Type) where
  | value (a : α) (next : Nat)
  | refused
  | fault

/-- The outcome of an access that stayed inside a string of `size` bytes. -/
def ReadOutcome.Within {α : Type} (offset size : Nat) : ReadOutcome α → Prop
  | .value _ next => offset ≤ next ∧ next ≤ size
  | .refused => True
  | .fault => False

/-- A reader that stays inside the byte string. -/
structure Reader (α : Type) where
  run : List (BitVec 8) → Nat → ReadOutcome α
  within : ∀ bytes offset, offset ≤ bytes.length →
    (run bytes offset).Within offset bytes.length

namespace Reader

variable {α β : Type}

/-- Read nothing. -/
def pure (a : α) : Reader α where
  run _ offset := .value a offset
  within _ offset h := ⟨Nat.le_refl offset, h⟩

/-- Go on with the value that was read. -/
def bind (p : Reader α) (f : α → Reader β) : Reader β where
  run bytes offset :=
    match p.run bytes offset with
    | .value a next => (f a).run bytes next
    | .refused => .refused
    | .fault => .fault
  within bytes offset h := by
    have hp := p.within bytes offset h
    cases hrun : p.run bytes offset with
    | value a next =>
        rw [hrun] at hp
        obtain ⟨hle, hend⟩ := hp
        have hf := (f a).within bytes next hend
        dsimp only
        cases hnext : (f a).run bytes next with
        | value b last =>
            rw [hnext] at hf
            exact ⟨Nat.le_trans hle hf.1, hf.2⟩
        | refused => trivial
        | fault =>
            rw [hnext] at hf
            exact hf.elim
    | refused => trivial
    | fault =>
        rw [hrun] at hp
        exact hp.elim

instance : Monad Reader where
  pure := Reader.pure
  bind := Reader.bind

theorem run_bind {p : Reader α} {f : α → Reader β} {bytes : List (BitVec 8)} {offset next : Nat}
    {a : α} (h : p.run bytes offset = .value a next) :
    (p >>= f).run bytes offset = (f a).run bytes next := by
  show (match p.run bytes offset with
    | .value a next => (f a).run bytes next
    | .refused => .refused
    | .fault => .fault) = _
  rw [h]

/-- Refuse the input. -/
def refuse : Reader α where
  run _ _ := .refused
  within _ _ _ := trivial

/-- Refuse the input unless a condition holds. -/
def check (condition : Bool) : Reader Unit := if condition then Pure.pure () else refuse

/-- Refuse the input unless there is a value. -/
def ofOption (value : Option α) : Reader α :=
  match value with
  | some a => Pure.pure a
  | none => refuse

/-- The number of bytes that are left. -/
def remaining : Reader Nat where
  run bytes offset := .value (bytes.length - offset) offset
  within _ offset h := ⟨Nat.le_refl offset, h⟩

/-- Refuse the input unless all of it was read. -/
def atEnd : Reader Unit where
  run bytes offset := if offset = bytes.length then .value () offset else .refused
  within bytes offset h := by
    split
    · exact ⟨Nat.le_refl offset, h⟩
    · trivial

/-- The next byte. -/
def readU8 : Reader (BitVec 8) where
  run bytes offset :=
    if bytes.length ≤ offset then .refused
    else
      match bytes[offset]? with
      | some byte => .value byte (offset + 1)
      | none => .fault
  within bytes offset h := by
    split
    · trivial
    · next hlt =>
        rw [List.getElem?_eq_getElem (Nat.lt_of_not_le hlt)]
        exact ⟨Nat.le_succ offset, Nat.lt_of_not_le hlt⟩

/-- A byte that is zero or one. -/
def readBool : Reader Bool := do
  let raw ← readU8
  if 1#8 < raw then refuse else Pure.pure (raw != 0#8)

/-- `count` more bytes of a little-endian word, from the byte at position `index` on. -/
def readWord (width : Nat) : (count index : Nat) → BitVec width → Reader (BitVec width)
  | 0, _, value => Pure.pure value
  | count + 1, index, value => do
      let next ← readU8
      readWord width count (index + 1) (value ||| next.setWidth width <<< (index * 8))

/-- A little-endian word of two bytes. -/
def readU16 : Reader (BitVec 16) := readWord 16 2 0 0

/-- A little-endian word of four bytes. -/
def readU32 : Reader (BitVec 32) := readWord 32 4 0 0

/-- A little-endian word of eight bytes. -/
def readU64 : Reader (BitVec 64) := readWord 64 8 0 0

/-- The next `size` bytes, if so many are left. -/
def readBlock (size : Nat) : Reader (List (BitVec 8)) where
  run bytes offset :=
    if bytes.length - offset < size then .refused
    else
      let block := (bytes.drop offset).take size
      -- a block cut short would have been read past the end
      if block.length = size then .value block (offset + size) else .fault
  within bytes offset h := by
    dsimp only
    split
    · trivial
    · next henough =>
        have hlength : ((bytes.drop offset).take size).length = size := by
          rw [List.length_take, List.length_drop]
          omega
        rw [if_pos hlength]
        exact ⟨Nat.le_add_right offset size, by omega⟩

/-- An array of `size` bytes. -/
def readFixed (size : Nat) : Reader (Fin size → BitVec 8) := do
  let block ← readBlock size
  Pure.pure fun index => block.getD index.val 0#8

/-- Bytes with their number in front, which is at most `maxSize`. -/
def readBlob (maxSize : BitVec 32) : Reader (List (BitVec 8)) := do
  let size ← readU32
  if maxSize < size then refuse else readBlock size.toNat

/-- A presence byte, and the value if it is present. -/
def readOptional (p : Reader α) : Reader (Option α) := do
  let present ← readBool
  if present then
    let payload ← p
    Pure.pure (some payload)
  else Pure.pure none

/-- An array, element by element. -/
def readArray (p : Reader α) : (n : Nat) → Reader (Fin n → α)
  | 0 => Pure.pure fun index => index.elim0
  | n + 1 => do
      let first ← p
      let rest ← readArray p n
      Pure.pure (Fin.cons first rest)

/-- `count` elements. -/
def readList (p : Reader α) : (count : Nat) → Reader (List α)
  | 0 => Pure.pure []
  | count + 1 => do
      let first ← p
      let rest ← readList p count
      Pure.pure (first :: rest)

end Reader

/-! ## Writing -/

/-- The lowest `count` bytes of a word, the lowest first. -/
def writeWord {width : Nat} (count : Nat) (value : BitVec width) : List (BitVec 8) :=
  (List.range count).map fun byte => (value >>> (byte * 8)).setWidth 8

@[simp] theorem length_writeWord {width : Nat} (count : Nat) (value : BitVec width) :
    (writeWord count value).length = count := by
  rw [writeWord, List.length_map, List.length_range]

/-- One byte. -/
def writeU8 (value : BitVec 8) : List (BitVec 8) := [value]

/-- A boolean is a byte that is zero or one. -/
def writeBool (value : Bool) : List (BitVec 8) := writeU8 (if value then 1 else 0)

/-- The two bytes of a word. -/
def writeU16 (value : BitVec 16) : List (BitVec 8) := writeWord 2 value

/-- The four bytes of a word. -/
def writeU32 (value : BitVec 32) : List (BitVec 8) := writeWord 4 value

/-- The eight bytes of a word. -/
def writeU64 (value : BitVec 64) : List (BitVec 8) := writeWord 8 value

/-- An array of bytes. -/
def writeFixed {size : Nat} (data : Fin size → BitVec 8) : List (BitVec 8) := List.ofFn data

/-- Bytes with their number in front. -/
def writeBlob (bytes : List (BitVec 8)) : List (BitVec 8) :=
  writeU32 (BitVec.ofNat 32 bytes.length) ++ bytes

/-- A presence byte, and the value if it is present. -/
def writeOptional {α : Type} (write : α → List (BitVec 8)) (value : Option α) :
    List (BitVec 8) :=
  writeBool value.isSome ++ (value.map write).getD []

/-- Elements that take at least `size` bytes each. -/
theorem le_length_flatMap {α : Type} {write : α → List (BitVec 8)} {size : Nat}
    (h : ∀ a, size ≤ (write a).length) (values : List α) :
    size * values.length ≤ (values.flatMap write).length := by
  induction values with
  | nil => simp
  | cons a values ih =>
      have ha := h a
      rw [List.flatMap_cons, List.length_append, List.length_cons, Nat.mul_succ]
      omega

/-- An array, element by element. -/
def writeArray {α : Type} {n : Nat} (write : α → List (BitVec 8)) (values : Fin n → α) :
    List (BitVec 8) :=
  (List.ofFn values).flatMap write

/-! ## What was written is read back -/

/-- Wherever a string contains `spelled`, the reader takes exactly that and returns `a`. -/
def Reads {α : Type} (p : Reader α) (spelled : List (BitVec 8)) (a : α) : Prop :=
  ∀ before after : List (BitVec 8),
    p.run (before ++ (spelled ++ after)) before.length =
      .value a (before.length + spelled.length)

namespace Reads

open Reader

variable {α β : Type}

theorem pure (a : α) : Reads (Pure.pure a : Reader α) [] a := fun _ _ => rfl

theorem bind {p : Reader α} {f : α → Reader β} {first second : List (BitVec 8)} {a : α} {b : β}
    (hp : Reads p first a) (hf : Reads (f a) second b) :
    Reads (p >>= f) (first ++ second) b := by
  intro before after
  have hfirst := hp before (second ++ after)
  have hsecond := hf (before ++ first) after
  rw [List.length_append, List.append_assoc] at hsecond
  rw [List.append_assoc, run_bind hfirst, hsecond, List.length_append, Nat.add_assoc]

/-- What follows takes no bytes. -/
theorem bind_nil {p : Reader α} {f : α → Reader β} {spelled : List (BitVec 8)} {a : α} {b : β}
    (hp : Reads p spelled a) (hf : Reads (f a) [] b) : Reads (p >>= f) spelled b := by
  have h := hp.bind hf
  rwa [List.append_nil] at h

/-- The last value of a sequence of readers. -/
theorem map {p : Reader α} (f : α → β) {spelled : List (BitVec 8)} {a : α}
    (hp : Reads p spelled a) : Reads (p >>= fun a => Pure.pure (f a)) spelled (f a) :=
  hp.bind_nil (Reads.pure (f a))

/-- The first part of a string that is spelled in parts. -/
theorem field {p : Reader α} {f : α → Reader β} {first : List (BitVec 8)}
    {rest : List (List (BitVec 8))} {a : α} {b : β} (hp : Reads p first a)
    (hf : Reads (f a) rest.flatten b) : Reads (p >>= f) (first :: rest).flatten b := by
  rw [List.flatten_cons]
  exact hp.bind hf

/-- No parts are left. -/
theorem done {a b : α} (h : a = b) : Reads (Pure.pure a : Reader α) (List.flatten []) b := by
  subst h
  exact pure a

/-- A value that ends the input. -/
theorem bind_atEnd {p : Reader α} {spelled : List (BitVec 8)} {a : α} (hp : Reads p spelled a)
    (before : List (BitVec 8)) :
    (p >>= fun a => atEnd >>= fun _ => Pure.pure a).run (before ++ spelled) before.length =
      .value a (before.length + spelled.length) := by
  have h := hp before []
  rw [List.append_nil] at h
  have hend : before.length + spelled.length = (before ++ spelled).length :=
    List.length_append.symm
  have hatEnd : atEnd.run (before ++ spelled) (before.length + spelled.length) =
      .value () (before.length + spelled.length) := if_pos hend
  rw [run_bind h, run_bind hatEnd]
  rfl

theorem check {condition : Bool} (h : condition = true) : Reads (check condition) [] () := by
  subst h
  exact Reads.pure ()

/-- A check takes no bytes. -/
theorem check_bind {condition : Bool} {f : Unit → Reader β} {spelled : List (BitVec 8)} {b : β}
    (h : condition = true) (hf : Reads (f ()) spelled b) :
    Reads (Reader.check condition >>= f) spelled b :=
  (Reads.check h).bind hf

/-- A value that is there takes no bytes. -/
theorem ofOption_bind {value : Option α} {f : α → Reader β} {spelled : List (BitVec 8)} {a : α}
    {b : β} (h : value = some a) (hf : Reads (f a) spelled b) :
    Reads (Reader.ofOption value >>= f) spelled b := by
  subst h
  exact (Reads.pure a).bind hf

/-- At least what is still to be read is left. -/
theorem remaining_bind {f : Nat → Reader β} {spelled : List (BitVec 8)} {b : β}
    (hf : ∀ n, spelled.length ≤ n → Reads (f n) spelled b) :
    Reads (remaining >>= f) spelled b := by
  intro before after
  have hlength : (before ++ (spelled ++ after)).length - before.length =
      spelled.length + after.length := by
    rw [List.length_append, List.length_append]
    omega
  have h := hf (spelled.length + after.length) (Nat.le_add_right _ _) before after
  show (f _).run _ _ = _
  rw [hlength]
  exact h

theorem readU8 (value : BitVec 8) : Reads readU8 (writeU8 value) value := by
  intro before after
  show (if _ then _ else _) = _
  rw [if_neg (by simp [writeU8])]
  simp [writeU8]

theorem readBool (value : Bool) : Reads readBool (writeBool value) value := by
  have h : Reads (if 1#8 < (if value then 1#8 else 0#8) then refuse
      else Pure.pure ((if value then 1#8 else 0#8) != 0#8)) [] value := by
    cases value with
    | false => exact Reads.pure false
    | true => exact Reads.pure true
  have hread : Reads Reader.readBool (writeBool value ++ []) value :=
    (Reads.readU8 (if value then 1#8 else 0#8)).bind h
  rwa [List.append_nil] at hread

/-- The bytes below position `index` of a word. -/
def low {width : Nat} (value : BitVec width) (index : Nat) : BitVec width :=
  (value.setWidth (index * 8)).setWidth width

/-- One more byte extends the low part of a word. -/
theorem low_succ {width : Nat} (value : BitVec width) (index : Nat) :
    low value index ||| ((value >>> (index * 8)).setWidth 8).setWidth width <<< (index * 8) =
      low value (index + 1) := by
  ext bit hbit
  simp only [low, BitVec.getElem_or, BitVec.getElem_setWidth, BitVec.getElem_shiftLeft,
    BitVec.getLsbD_setWidth, BitVec.getLsbD_ushiftRight]
  by_cases hlow : bit < index * 8
  · have hnext : bit < (index + 1) * 8 := by omega
    simp [hlow, hnext]
  · have hsum : index * 8 + (bit - index * 8) = bit := by omega
    by_cases hnext : bit < (index + 1) * 8
    · have hbyte : bit - index * 8 < 8 := by omega
      simp [hlow, hnext, hbyte, hsum]
    · have hbyte : ¬ bit - index * 8 < 8 := by omega
      simp [hlow, hnext, hbyte]

/-- Induction on the bytes that are left: the low part of the word has been read. -/
theorem readWord {width : Nat} (value : BitVec width) (count index : Nat) :
    Reads (Reader.readWord width count index (low value index))
      ((List.range' index count).map fun byte => (value >>> (byte * 8)).setWidth 8)
      (low value (index + count)) := by
  induction count generalizing index with
  | zero => exact Reads.pure _
  | succ count ih =>
      refine (Reads.readU8 ((value >>> (index * 8)).setWidth 8)).bind ?_
      have hcount : index + (count + 1) = index + 1 + count := by omega
      rw [low_succ, hcount]
      exact ih (index + 1)

/-- A word of `count` bytes. -/
theorem word (count : Nat) (value : BitVec (count * 8)) :
    Reads (Reader.readWord (count * 8) count 0 0) (writeWord count value) value := by
  have h := Reads.readWord value count 0
  have hstart : low value 0 = 0#(count * 8) := by
    ext bit hbit
    simp [low]
  have hend : low value (0 + count) = value := by
    ext bit hbit
    simp [low]
  rwa [hstart, hend, ← List.range_eq_range'] at h

theorem readU16 (value : BitVec 16) : Reads readU16 (writeU16 value) value := word 2 value

theorem readU32 (value : BitVec 32) : Reads readU32 (writeU32 value) value := word 4 value

theorem readU64 (value : BitVec 64) : Reads readU64 (writeU64 value) value := word 8 value

theorem readBlock (block : List (BitVec 8)) : Reads (readBlock block.length) block block := by
  intro before after
  have henough : ¬ (before ++ (block ++ after)).length - before.length < block.length := by
    rw [List.length_append, List.length_append]
    omega
  have hblock : ((before ++ (block ++ after)).drop before.length).take block.length = block := by
    rw [List.drop_left, List.take_left]
  show (if _ then _ else _) = _
  rw [if_neg henough, hblock, if_pos rfl]

theorem readFixed {size : Nat} (data : Fin size → BitVec 8) :
    Reads (readFixed size) (writeFixed data) data := by
  have h := (Reads.readBlock (List.ofFn data)).map
    (fun block => fun index : Fin size => block.getD index.val 0#8)
  rw [List.length_ofFn] at h
  have hdata : (fun index : Fin size => (List.ofFn data).getD index.val 0#8) = data := by
    funext index
    simp
  rw [hdata] at h
  exact h

theorem readBlob {maxSize : BitVec 32} {bytes : List (BitVec 8)}
    (h : bytes.length ≤ maxSize.toNat) : Reads (readBlob maxSize) (writeBlob bytes) bytes := by
  have hsize : (BitVec.ofNat 32 bytes.length).toNat = bytes.length := by
    rw [BitVec.toNat_ofNat]
    exact Nat.mod_eq_of_lt (Nat.lt_of_le_of_lt h maxSize.isLt)
  refine (Reads.readU32 (BitVec.ofNat 32 bytes.length)).bind ?_
  have hfits : ¬ maxSize < BitVec.ofNat 32 bytes.length := by
    rw [BitVec.lt_def, hsize]
    omega
  rw [if_neg hfits, hsize]
  exact Reads.readBlock bytes

theorem readOptional {p : Reader α} {write : α → List (BitVec 8)} (value : Option α)
    (hp : ∀ a, Reads p (write a) a) : Reads (readOptional p) (writeOptional write value) value := by
  refine (Reads.readBool value.isSome).bind ?_
  cases value with
  | none => exact Reads.pure none
  | some a => exact (hp a).map some

theorem readArray {p : Reader α} {write : α → List (BitVec 8)} {n : Nat} (values : Fin n → α)
    (hp : ∀ index, Reads p (write (values index)) (values index)) :
    Reads (readArray p n) (writeArray write values) values := by
  induction n with
  | zero =>
      have hempty : values = fun index => index.elim0 := funext fun index => index.elim0
      rw [hempty]
      exact Reads.pure _
  | succ n ih =>
      have hcons : (Fin.cons (values 0) fun index : Fin n => values index.succ) = values :=
        Fin.cons_self_tail values
      have hrest := (ih (fun index => values index.succ) fun index => hp index.succ).map
        (Fin.cons (values 0) · : _ → Fin (n + 1) → α)
      rw [hcons] at hrest
      rw [writeArray, List.ofFn_succ, List.flatMap_cons]
      exact (hp 0).bind hrest

theorem readList {p : Reader α} {write : α → List (BitVec 8)} (values : List α)
    (hp : ∀ a, Reads p (write a) a) :
    Reads (readList p values.length) (values.flatMap write) values := by
  induction values with
  | nil => exact Reads.pure []
  | cons a values ih =>
      rw [List.flatMap_cons]
      exact (hp a).bind (ih.map (a :: ·))

end Reads

/-! ## What was read stands in the input -/

/-- A byte of the input. -/
def u8At (bytes : List (BitVec 8)) (offset : Nat) : BitVec 8 := bytes.getD offset 0#8

/-- A little-endian word of two bytes of the input. -/
def u16At (bytes : List (BitVec 8)) (offset : Nat) : BitVec 16 :=
  (u8At bytes offset).setWidth 16 ||| (u8At bytes (offset + 1)).setWidth 16 <<< 8

/-- A little-endian word of four bytes of the input. -/
def u32At (bytes : List (BitVec 8)) (offset : Nat) : BitVec 32 :=
  (u8At bytes offset).setWidth 32 ||| (u8At bytes (offset + 1)).setWidth 32 <<< 8 |||
    (u8At bytes (offset + 2)).setWidth 32 <<< 16 ||| (u8At bytes (offset + 3)).setWidth 32 <<< 24

namespace Reader

variable {α β : Type} {bytes : List (BitVec 8)} {offset next : Nat}

/-- A sequence that returns a value read the value of its first part before. -/
theorem run_bind_value {p : Reader α} {f : α → Reader β} {b : β}
    (h : (p >>= f).run bytes offset = .value b next) :
    ∃ a mid, p.run bytes offset = .value a mid ∧ (f a).run bytes mid = .value b next := by
  change (Reader.bind p f).run bytes offset = .value b next at h
  unfold Reader.bind at h
  dsimp only at h
  split at h
  · next a mid hp => exact ⟨a, mid, hp, h⟩
  · cases h
  · cases h

theorem run_pure_value {a b : α} (h : (Pure.pure a : Reader α).run bytes offset = .value b next) :
    b = a ∧ next = offset := by
  cases h
  exact ⟨rfl, rfl⟩

/-- A check that passed took nothing. -/
theorem check_value {condition : Bool} {u : Unit}
    (h : (check condition).run bytes offset = .value u next) : condition = true ∧ next = offset := by
  cases condition with
  | true => exact ⟨rfl, (run_pure_value h).2⟩
  | false => cases h

theorem ofOption_value {value : Option α} {a : α}
    (h : (ofOption value).run bytes offset = .value a next) : value = some a ∧ next = offset := by
  cases value with
  | none => cases h
  | some b =>
      obtain ⟨rfl, rfl⟩ := run_pure_value h
      exact ⟨rfl, rfl⟩

theorem readU8_value {a : BitVec 8} (h : readU8.run bytes offset = .value a next) :
    a = u8At bytes offset ∧ next = offset + 1 := by
  replace h : (if bytes.length ≤ offset then ReadOutcome.refused
    else match bytes[offset]? with
      | some byte => .value byte (offset + 1)
      | none => .fault) = .value a next := h
  split at h
  · cases h
  · cases hbyte : bytes[offset]? with
    | none =>
        rw [hbyte] at h
        cases h
    | some byte =>
        rw [hbyte] at h
        cases h
        exact ⟨by rw [u8At, List.getD_eq_getElem?_getD, hbyte]; rfl, rfl⟩

theorem readBool_value {a : Bool} (h : readBool.run bytes offset = .value a next) :
    (a = true ↔ u8At bytes offset ≠ 0) ∧ next = offset + 1 := by
  obtain ⟨raw, mid, hraw, h⟩ := run_bind_value h
  obtain ⟨rfl, rfl⟩ := readU8_value hraw
  split at h
  · cases h
  · obtain ⟨rfl, rfl⟩ := run_pure_value h
    exact ⟨bne_iff_ne, rfl⟩

theorem readU16_value {a : BitVec 16} (h : readU16.run bytes offset = .value a next) :
    a = u16At bytes offset ∧ next = offset + 2 := by
  obtain ⟨low, afterLow, hlow, h⟩ := run_bind_value h
  obtain ⟨high, afterHigh, hhigh, h⟩ := run_bind_value h
  obtain ⟨rfl, rfl⟩ := readU8_value hlow
  obtain ⟨rfl, rfl⟩ := readU8_value hhigh
  obtain ⟨rfl, rfl⟩ := run_pure_value h
  exact ⟨by simp [u16At], rfl⟩

theorem readU32_value {a : BitVec 32} (h : readU32.run bytes offset = .value a next) :
    a = u32At bytes offset ∧ next = offset + 4 := by
  obtain ⟨byte0, after0, h0, h⟩ := run_bind_value h
  obtain ⟨byte1, after1, h1, h⟩ := run_bind_value h
  obtain ⟨byte2, after2, h2, h⟩ := run_bind_value h
  obtain ⟨byte3, after3, h3, h⟩ := run_bind_value h
  obtain ⟨rfl, rfl⟩ := readU8_value h0
  obtain ⟨rfl, rfl⟩ := readU8_value h1
  obtain ⟨rfl, rfl⟩ := readU8_value h2
  obtain ⟨rfl, rfl⟩ := readU8_value h3
  obtain ⟨rfl, rfl⟩ := run_pure_value h
  exact ⟨by simp [u32At], rfl⟩

end Reader

/-- A reader takes exactly `size` bytes whenever it returns a value. -/
def Takes {α : Type} (p : Reader α) (size : Nat) : Prop :=
  ∀ bytes offset next a, p.run bytes offset = .value a next → next = offset + size

namespace Takes

open Reader

variable {α β : Type} {size rest : Nat}

theorem next_eq {p : Reader α} (hp : Takes p size) {bytes : List (BitVec 8)} {offset next : Nat}
    {a : α} (h : p.run bytes offset = .value a next) : next = offset + size :=
  hp bytes offset next a h

theorem cast {p : Reader α} (hp : Takes p size) (h : size = rest) : Takes p rest := h ▸ hp

theorem pure (a : α) : Takes (Pure.pure a : Reader α) 0 := fun _ _ _ _ h => (run_pure_value h).2

theorem bind {p : Reader α} {f : α → Reader β} (hp : Takes p size) (hf : ∀ a, Takes (f a) rest) :
    Takes (p >>= f) (size + rest) := by
  intro bytes offset next b h
  obtain ⟨a, mid, hfirst, h⟩ := run_bind_value h
  rw [(hf a).next_eq h, hp.next_eq hfirst, Nat.add_assoc]

/-- The first part of a sequence of `size` bytes. -/
theorem first {p : Reader α} {f : α → Reader β} {total : Nat} (hp : Takes p size)
    (hle : size ≤ total) (hf : ∀ a, Takes (f a) (total - size)) : Takes (p >>= f) total :=
  (hp.bind hf).cast (Nat.add_sub_cancel' hle)

/-- The last part of a sequence. -/
theorem last {p : Reader α} {f : α → β} (hp : Takes p size) :
    Takes (p >>= fun a => Pure.pure (f a)) size :=
  hp.bind fun _ => Takes.pure _

theorem check (condition : Bool) : Takes (check condition) 0 :=
  fun _ _ _ _ h => (check_value h).2

theorem readU8 : Takes Reader.readU8 1 := fun _ _ _ _ h => (readU8_value h).2

theorem readBool : Takes Reader.readBool 1 := fun _ _ _ _ h => (readBool_value h).2

theorem readU16 : Takes Reader.readU16 2 := fun _ _ _ _ h => (readU16_value h).2

theorem readU32 : Takes Reader.readU32 4 := fun _ _ _ _ h => (readU32_value h).2

theorem readWord (width count index : Nat) (value : BitVec width) :
    Takes (readWord width count index value) count := by
  induction count generalizing index value with
  | zero => exact Takes.pure value
  | succ count ih => exact (Takes.readU8.bind fun _ => ih _ _).cast (Nat.add_comm 1 count)

theorem readU64 : Takes Reader.readU64 8 := Takes.readWord 64 8 0 0

theorem readBlock (size : Nat) : Takes (readBlock size) size := by
  intro bytes offset next a h
  replace h : (if bytes.length - offset < size then ReadOutcome.refused
    else if ((bytes.drop offset).take size).length = size then
      .value ((bytes.drop offset).take size) (offset + size) else .fault) = .value a next := h
  split at h
  · cases h
  split at h
  · cases h
    rfl
  · cases h

theorem readFixed (size : Nat) : Takes (readFixed size) size :=
  (Takes.readBlock size).bind fun _ => Takes.pure _

theorem readArray {p : Reader α} (hp : Takes p size) (n : Nat) :
    Takes (readArray p n) (n * size) := by
  induction n with
  | zero => exact (Takes.pure _).cast (Nat.zero_mul size).symm
  | succ n ih =>
      refine (hp.bind fun _ => ih.bind fun _ => Takes.pure _).cast ?_
      rw [Nat.succ_mul]
      omega

end Takes

namespace Reader

variable {α : Type} {bytes : List (BitVec 8)} {offset next : Nat}

/-- A blob takes as many bytes as its number says. -/
theorem readBlob_next {maxSize : BitVec 32} {a : List (BitVec 8)}
    (h : (readBlob maxSize).run bytes offset = .value a next) :
    next = offset + 4 + (u32At bytes offset).toNat := by
  obtain ⟨size, mid, hsize, h⟩ := run_bind_value h
  obtain ⟨rfl, rfl⟩ := readU32_value hsize
  split at h
  · cases h
  · exact (Takes.readBlock _).next_eq h

/-- The elements of an array were read one behind the other. -/
theorem readArray_value {p : Reader α} {size n : Nat} {values : Fin n → α} (hp : Takes p size)
    (h : (readArray p n).run bytes offset = .value values next) (index : Fin n) :
    p.run bytes (offset + index.val * size) =
      .value (values index) (offset + index.val * size + size) := by
  induction n generalizing offset next with
  | zero => exact index.elim0
  | succ n ih =>
      obtain ⟨first, mid, hfirst, h⟩ := run_bind_value h
      obtain ⟨rest, last, hrest, h⟩ := run_bind_value h
      obtain ⟨rfl, -⟩ := run_pure_value h
      have hmid := hp.next_eq hfirst
      cases index using Fin.cases with
      | zero => simpa [hmid] using hfirst
      | succ index =>
          have hoffset : mid + index.val * size = offset + index.succ.val * size := by
            rw [hmid, Fin.val_succ, Nat.succ_mul]
            omega
          have helement := ih hrest index
          rw [hoffset] at helement
          exact helement

end Reader

end Gba.Library
