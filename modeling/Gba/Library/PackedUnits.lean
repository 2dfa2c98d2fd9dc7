import Gba.Library.LittleEndian
import Mathlib.Data.List.GetD
import Mathlib.Tactic.Ring

/-!
# Packed units

Units of some number of bits that are packed into bytes from the low bits of each byte upward: the
bytes are determined by the units, and two lists of units are packed alike exactly when they have
the same low bits.
-/

namespace Gba.Library

open LittleEndian

variable {w width : Nat} {units others : List (BitVec w)} {bytes more : List (BitVec 8)}

theorem setWidth_eq_iff (value other : BitVec w) :
    value.setWidth width = other.setWidth width ↔
      ∀ lane < width, value.getLsbD lane = other.getLsbD lane := by
  have hbit : ∀ (value : BitVec w) (lane : Nat), lane < width →
      (value.setWidth width).getLsbD lane = value.getLsbD lane := by
    intro value lane hlane
    rw [BitVec.getLsbD_setWidth, decide_eq_true hlane, Bool.true_and]
  constructor
  · intro h lane hlane
    rw [← hbit value lane hlane, h, hbit other lane hlane]
  · intro h
    refine BitVec.eq_of_getLsbD_eq fun lane hlane => ?_
    rw [hbit value lane hlane, h lane hlane, hbit other lane hlane]

/-- Bytes that hold the low bits of units, the first unit in the lowest bits. -/
structure Packed (width : Nat) (units : List (BitVec w)) (bytes : List (BitVec 8)) : Prop where
  length : bytes.length * 8 = units.length * width
  bits : ∀ unit < units.length, ∀ lane < width,
    (bytes.getD ((unit * width + lane) / 8) 0).getLsbD ((unit * width + lane) % 8) =
      (units.getD unit 0).getLsbD lane

namespace Packed

/-- Every bit of the bytes is a bit of a unit. -/
theorem place (h : Packed width units bytes) {index bit : Nat} (hindex : index < bytes.length)
    (hbit : bit < 8) :
    ∃ unit < units.length, ∃ lane < width, unit * width + lane = index * 8 + bit := by
  have hlength := h.length
  have hlt : index * 8 + bit < units.length * width := by omega
  have hpos : 0 < width := by
    by_contra hzero
    obtain rfl : width = 0 := by omega
    exact Nat.not_lt_zero _ hlt
  refine ⟨(index * 8 + bit) / width, Nat.div_lt_of_lt_mul ?_, (index * 8 + bit) % width,
    Nat.mod_lt _ hpos, Nat.div_add_mod' _ _⟩
  rw [Nat.mul_comm width]
  exact hlt

/-- Units are packed in one way only. -/
theorem unique (h : Packed width units bytes) (hmore : Packed width units more) : bytes = more := by
  have hlength : bytes.length = more.length := by
    have hfirst := h.length
    have hsecond := hmore.length
    omega
  refine List.ext_getElem hlength fun index hindex hindex' => ?_
  refine BitVec.eq_of_getLsbD_eq fun bit hbit => ?_
  obtain ⟨unit, hunit, lane, hlane, hplace⟩ := h.place hindex hbit
  have hdiv : (index * 8 + bit) / 8 = index := by omega
  have hmod : (index * 8 + bit) % 8 = bit := by omega
  have heq := (h.bits unit hunit lane hlane).trans (hmore.bits unit hunit lane hlane).symm
  rw [hplace, hdiv, hmod, List.getD_eq_getElem _ _ hindex,
    List.getD_eq_getElem _ _ hindex'] at heq
  exact heq

/-- Units with the same low bits are packed alike. -/
theorem iff_low (h : Packed width units bytes) (hlength : others.length = units.length) :
    Packed width others bytes ↔ ∀ unit < units.length,
      (others.getD unit 0).setWidth width = (units.getD unit 0).setWidth width := by
  constructor
  · intro hothers unit hunit
    refine (setWidth_eq_iff _ _).mpr fun lane hlane => ?_
    rw [← h.bits unit hunit lane hlane, hothers.bits unit (hlength ▸ hunit) lane hlane]
  · intro hlow
    refine ⟨?_, fun unit hunit lane hlane => ?_⟩
    · rw [hlength]
      exact h.length
    · have hsame := (setWidth_eq_iff _ _).mp (hlow unit (hlength ▸ hunit)) lane hlane
      rw [h.bits unit (hlength ▸ hunit) lane hlane, hsame]

/-- Units that are made of the same values are packed alike where their low bits agree. -/
theorem map_iff {α : Type} {values : List α} {first second : α → BitVec w}
    (h : Packed width (values.map first) bytes) :
    Packed width (values.map second) bytes ↔
      ∀ value ∈ values, (second value).setWidth width = (first value).setWidth width := by
  have hgetD : ∀ (f : α → BitVec w) (index : Nat) (hindex : index < values.length),
      (values.map f).getD index 0 = f values[index] := by
    intro f index hindex
    rw [List.getD_eq_getElem _ _ ((List.length_map f).symm ▸ hindex), List.getElem_map]
  rw [h.iff_low (by rw [List.length_map, List.length_map]), List.length_map,
    List.forall_mem_iff_getElem]
  refine forall_congr' fun index => forall_congr' fun hindex => ?_
  rw [hgetD first index hindex, hgetD second index hindex]

/-- A byte packs the units that it holds one after the other. -/
theorem byte_iff (fields : Nat → BitVec w) (stored : BitVec 8) {count : Nat}
    (hcount : count * width + width = 8) :
    Packed width ((List.range (count + 1)).map fields) [stored] ↔
      ∀ index < count + 1, ∀ lane < width,
        stored.getLsbD (index * width + lane) = (fields index).getLsbD lane := by
  have hfield : ∀ index < count + 1,
      ((List.range (count + 1)).map fields).getD index 0 = fields index := by
    intro index hindex
    simp [List.getD, hindex]
  have hbyte : ∀ index < count + 1, ∀ lane < width,
      ([stored].getD ((index * width + lane) / 8) 0).getLsbD ((index * width + lane) % 8) =
        stored.getLsbD (index * width + lane) := by
    intro index hindex lane hlane
    have hle := Nat.mul_le_mul_right width (Nat.le_of_lt_succ hindex)
    have hlt : index * width + lane < 8 := by omega
    rw [Nat.div_eq_of_lt hlt, Nat.mod_eq_of_lt hlt]
    rfl
  constructor
  · intro h index hindex lane hlane
    have heq := h.bits index (by simpa using hindex) lane hlane
    rw [hfield index hindex, hbyte index hindex lane hlane] at heq
    exact heq
  · intro h
    refine ⟨by simp [Nat.succ_mul, hcount], fun index hindex lane hlane => ?_⟩
    have hindex' : index < count + 1 := by simpa using hindex
    rw [hfield index hindex', hbyte index hindex' lane hlane]
    exact h index hindex' lane hlane

/-- Units are packed into a byte twice where each half of them has the bits of the byte. -/
theorem twice_iff (stored : BitVec 8) {count : Nat} (hcount : count * width = 8)
    (hlength : units.length = 2 * count) :
    Packed width units [stored, stored] ↔
      ∀ unit < 2 * count, ∀ lane < width,
        stored.getLsbD (unit % count * width + lane) = (units.getD unit 0).getLsbD lane := by
  have hbyte : ∀ unit < 2 * count, ∀ lane < width,
      ([stored, stored].getD ((unit * width + lane) / 8) 0).getLsbD ((unit * width + lane) % 8) =
        stored.getLsbD (unit % count * width + lane) := by
    intro unit hunit lane hlane
    have hpos : 0 < count := by omega
    have hmod : unit % count * width + lane < 8 := by
      have hle := Nat.mul_le_mul_right width (Nat.succ_le_of_lt (Nat.mod_lt unit hpos))
      rw [Nat.succ_mul, hcount] at hle
      omega
    have hsplit : unit * width + lane = 8 * (unit / count) + (unit % count * width + lane) := by
      have hdiv := Nat.div_add_mod unit count
      rw [← hcount]
      calc unit * width + lane = (count * (unit / count) + unit % count) * width + lane := by
            rw [hdiv]
        _ = count * width * (unit / count) + (unit % count * width + lane) := by ring
    have hhalf : unit / count < 2 := (Nat.div_lt_iff_lt_mul hpos).mpr hunit
    have hplace : (unit * width + lane) / 8 = unit / count := by omega
    have hbit : (unit * width + lane) % 8 = unit % count * width + lane := by omega
    rw [hplace, hbit]
    rcases (by omega : unit / count = 0 ∨ unit / count = 1) with h | h <;> rw [h] <;> rfl
  constructor
  · intro h unit hunit lane hlane
    rw [← hbyte unit hunit lane hlane]
    exact h.bits unit (hlength ▸ hunit) lane hlane
  · intro h
    refine ⟨?_, fun unit hunit lane hlane => ?_⟩
    · rw [hlength, Nat.mul_assoc, hcount]
      rfl
    · rw [hlength] at hunit
      rw [hbyte unit hunit lane hlane]
      exact h unit hunit lane hlane

end Packed

/-! ## Units of whole bytes -/

/-- The lowest bytes of units. -/
def lowBytes (count : Nat) (units : List (BitVec w)) : List (BitVec 8) :=
  units.flatMap fun unit => (List.range count).map (byte unit)

theorem lowBytes_cons (count : Nat) (unit : BitVec w) (rest : List (BitVec w)) :
    lowBytes count (unit :: rest) = (List.range count).map (byte unit) ++ lowBytes count rest :=
  List.flatMap_cons

theorem length_lowBytes (count : Nat) (units : List (BitVec w)) :
    (lowBytes count units).length = units.length * count := by
  induction units with
  | nil => exact (Nat.zero_mul count).symm
  | cons unit rest ih =>
    rw [lowBytes_cons, List.length_append, ih, List.length_map, List.length_range,
      List.length_cons, Nat.succ_mul, Nat.add_comm]

theorem getD_lowBytes {count unit place : Nat} (hunit : unit < units.length)
    (hplace : place < count) :
    (lowBytes count units).getD (unit * count + place) 0 = byte (units.getD unit 0) place := by
  induction units generalizing unit with
  | nil => exact absurd hunit (Nat.not_lt_zero _)
  | cons first rest ih =>
    have hlength : ((List.range count).map (byte first)).length = count := by simp
    rw [lowBytes_cons]
    cases unit with
    | zero =>
      rw [Nat.zero_mul, Nat.zero_add, List.getD_append _ _ _ _ (by rw [hlength]; exact hplace)]
      simp [List.getD, hplace]
    | succ unit =>
      have hsub : (unit + 1) * count + place - count = unit * count + place := by
        rw [Nat.succ_mul]
        omega
      rw [List.getD_append_right _ _ _ _ (by rw [hlength, Nat.succ_mul]; omega), hlength, hsub,
        ih (Nat.lt_of_succ_lt_succ hunit)]
      rfl

/-- The lowest bytes of units, one unit after the other, are the packed units. -/
theorem packed_lowBytes (count : Nat) (units : List (BitVec w)) :
    Packed (8 * count) units (lowBytes count units) := by
  refine ⟨?_, fun unit hunit lane hlane => ?_⟩
  · rw [length_lowBytes, Nat.mul_assoc, Nat.mul_comm count 8]
  · have hplace : lane / 8 < count := Nat.div_lt_of_lt_mul hlane
    have hscale : unit * (8 * count) = 8 * (unit * count) := Nat.mul_left_comm _ _ _
    have hdiv : (unit * (8 * count) + lane) / 8 = unit * count + lane / 8 := by
      rw [hscale]
      omega
    have hmod : (unit * (8 * count) + lane) % 8 = lane % 8 := by
      rw [hscale]
      omega
    have hlane' : lane / 8 * 8 + lane % 8 = lane := Nat.div_add_mod' lane 8
    rw [hdiv, hmod, getD_lowBytes hunit hplace, getLsbD_byte _ _ (Nat.mod_lt _ (by omega)), hlane']

end Gba.Library
