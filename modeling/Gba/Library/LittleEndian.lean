import Mathlib.Data.List.Basic
import Mathlib.Tactic.Common

/-!
# Little-endian words

A word as its bytes, the least significant first: taking the bytes of a word and joining bytes into
one are inverse, two words with the same bytes are equal, and a rotation by whole bytes moves the
bytes round.
-/

namespace Gba

namespace LittleEndian

variable {w : Nat}

/-- The byte of a word at a place, counted from the least significant one. -/
def byte (value : BitVec w) (index : Nat) : BitVec 8 := (value >>> (index * 8)).setWidth 8

/-- The word with the given bytes. -/
def word (w : Nat) : List (BitVec 8) → BitVec w
  | [] => 0
  | first :: rest => first.setWidth w ||| word w rest <<< 8

theorem getLsbD_byte (value : BitVec w) (index : Nat) {bit : Nat} (h : bit < 8) :
    (byte value index).getLsbD bit = value.getLsbD (index * 8 + bit) := by
  unfold byte
  rw [BitVec.getLsbD_setWidth, BitVec.getLsbD_ushiftRight]
  simp [h]

theorem byte_setWidth {w' : Nat} (value : BitVec w) {index : Nat} (h : index * 8 + 8 ≤ w') :
    byte (value.setWidth w') index = byte value index := by
  refine BitVec.eq_of_getLsbD_eq fun bit hbit => ?_
  have hin : index * 8 + bit < w' := by omega
  rw [getLsbD_byte _ _ hbit, getLsbD_byte _ _ hbit, BitVec.getLsbD_setWidth, decide_eq_true hin,
    Bool.true_and]

/-- A bit of a word is a bit of one of its bytes. -/
theorem getLsbD_word (bytes : List (BitVec 8)) {bit : Nat} (h : bit < w) :
    (word w bytes).getLsbD bit = (bytes.getD (bit / 8) 0).getLsbD (bit % 8) := by
  induction bytes generalizing bit with
  | nil => simp [word]
  | cons first rest ih =>
    show (first.setWidth w ||| word w rest <<< 8).getLsbD bit = _
    rw [BitVec.getLsbD_or, BitVec.getLsbD_setWidth, BitVec.getLsbD_shiftLeft]
    by_cases hlow : bit < 8
    · rw [Nat.div_eq_of_lt hlow, Nat.mod_eq_of_lt hlow]
      simp [h, hlow]
    · have hfirst : first.getLsbD bit = false := BitVec.getLsbD_of_ge first bit (by omega)
      have hplace : bit / 8 = (bit - 8) / 8 + 1 := by omega
      have hbit : bit % 8 = (bit - 8) % 8 := by omega
      rw [hfirst, ih (by omega), hplace, hbit]
      simp [h, hlow]

theorem byte_word {bytes : List (BitVec 8)} {index : Nat} (h : index * 8 + 8 ≤ w) :
    byte (word w bytes) index = bytes.getD index 0 := by
  refine BitVec.eq_of_getLsbD_eq fun bit hbit => ?_
  have hplace : (index * 8 + bit) / 8 = index := by omega
  have hrest : (index * 8 + bit) % 8 = bit := by omega
  rw [getLsbD_byte _ _ hbit, getLsbD_word _ (by omega), hplace, hrest]

/-- The bytes of a word that is joined place by place. -/
theorem byte_word_range {count index : Nat} (bytes : Nat → BitVec 8) (h : index < count)
    (hw : count * 8 ≤ w) : byte (word w ((List.range count).map bytes)) index = bytes index := by
  rw [byte_word (by omega)]
  simp [List.getD, h]

theorem word_two (b0 b1 : BitVec 8) :
    word w [b0, b1] = b0.setWidth w ||| b1.setWidth w <<< 8 := by
  simp [word]

theorem word_four (b0 b1 b2 b3 : BitVec 8) :
    word w [b0, b1, b2, b3] =
      b0.setWidth w ||| b1.setWidth w <<< 8 ||| b2.setWidth w <<< 16 ||| b3.setWidth w <<< 24 := by
  simp [word, BitVec.shiftLeft_or_distrib, ← BitVec.shiftLeft_add, BitVec.or_assoc]

/-- Words with the same bytes are equal. -/
theorem eq_of_byte_eq (count : Nat) (hw : w = count * 8) {value other : BitVec w}
    (h : ∀ index < count, byte value index = byte other index) : value = other := by
  refine BitVec.eq_of_getLsbD_eq fun bit hbit => ?_
  have hplace : bit / 8 * 8 + bit % 8 = bit := by omega
  have hbyte : (byte value (bit / 8)).getLsbD (bit % 8) = (byte other (bit / 8)).getLsbD (bit % 8) := by
    rw [h (bit / 8) (by omega)]
  rw [getLsbD_byte _ _ (Nat.mod_lt bit (by omega)), getLsbD_byte _ _ (Nat.mod_lt bit (by omega)),
    hplace] at hbyte
  exact hbyte

/-- A word is joined from its bytes. -/
theorem word_byte (count : Nat) (hw : w = count * 8) (value : BitVec w) :
    word w ((List.range count).map (byte value)) = value := by
  exact eq_of_byte_eq count hw fun index hindex => byte_word_range _ hindex (by omega)

/-- A rotation by whole bytes. -/
theorem byte_rotateRight (count : Nat) (hw : w = count * 8) (value : BitVec w) {amount index : Nat}
    (hamount : amount < count) (hindex : index < count) :
    byte (value.rotateRight (amount * 8)) index = byte value ((index + amount) % count) := by
  refine BitVec.eq_of_getLsbD_eq fun bit hbit => ?_
  rw [getLsbD_byte _ _ hbit, getLsbD_byte _ _ hbit,
    BitVec.getLsbD_rotateRight_of_lt (by omega)]
  by_cases hlow : index + amount < count
  · have hplace : amount * 8 + (index * 8 + bit) = (index + amount) * 8 + bit := by omega
    have hin : index * 8 + bit < w - amount * 8 := by omega
    rw [Nat.mod_eq_of_lt hlow, hplace, decide_eq_true hin, cond_true]
  · have hmod : (index + amount) % count = index + amount - count := by
      rw [Nat.mod_eq_sub_mod (by omega), Nat.mod_eq_of_lt (by omega)]
    have hplace : index * 8 + bit - (w - amount * 8) = (index + amount - count) * 8 + bit := by
      omega
    have hin : index * 8 + bit < w := by omega
    have hout : ¬index * 8 + bit < w - amount * 8 := by omega
    rw [hmod, hplace, decide_eq_false hout, cond_false, decide_eq_true hin, Bool.true_and]

theorem rotateRight_inj (count : Nat) (hw : w = count * 8) {value other : BitVec w} {amount : Nat}
    (hamount : amount < count) :
    value.rotateRight (amount * 8) = other.rotateRight (amount * 8) ↔ value = other := by
  refine ⟨fun h => eq_of_byte_eq count hw fun index hindex => ?_, fun h => h ▸ rfl⟩
  -- the place that the byte is rotated to
  have hplace : (index + count - amount) % count < count := Nat.mod_lt _ (by omega)
  have hback : ((index + count - amount) % count + amount) % count = index := by
    have hsum : index + count - amount + amount = index + count := by omega
    rw [Nat.mod_add_mod, hsum, Nat.add_mod_right, Nat.mod_eq_of_lt hindex]
  have hbyte := congrArg (byte · ((index + count - amount) % count)) h
  rw [byte_rotateRight count hw _ hamount hplace, byte_rotateRight count hw _ hamount hplace,
    hback] at hbyte
  exact hbyte

end LittleEndian

end Gba
