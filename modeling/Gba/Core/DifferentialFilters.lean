import Gba.Core.ByteBlocks

/-!
# Differential filters

`Diff8bitUnFilterWram`, `Diff8bitUnFilterVram` and `Diff16bitUnFilter` undo the taking of
differences: from the differences of a block, in bytes or in halfwords that wrap, they store the
block. The whole stream is read before the first store, so that it may lie where the block goes,
and a stream that cannot be read to its end leaves everything as it was.
-/

namespace Gba.Core

open LittleEndian

/-! ## Differences -/

/-- The differences of successive bytes. -/
def differences8 : U8 → List U8 → List U8
  | _, [] => []
  | previous, value :: rest => (value - previous) :: differences8 value rest

/-- The differences of successive halfwords, in bytes. -/
def differences16 : U16 → List U8 → List U8
  | previous, low :: high :: rest =>
      let value : U16 := word 16 [low, high]
      byte (value - previous) 0 :: byte (value - previous) 1 :: differences16 value rest
  | _, _ => []

/-- Adding up the differences gives the bytes back. -/
theorem diff8Bytes_differences {system : System} {data : List U8} {source : U32} {previous : U8}
    (h : Placed system source (differences8 previous data)) :
    diff8Bytes system data.length source previous = some data := by
  induction data generalizing source previous with
  | nil => rfl
  | cons value rest ih =>
    obtain ⟨hdelta, hrest⟩ := placed_cons.mp h
    have hvalue : previous + (value - previous) = value := by grind
    show (system.read8 ioCallbacks source).bind _ = _
    rw [hdelta]
    show (diff8Bytes system rest.length (source + 1) (previous + (value - previous))).bind _ = _
    rw [hvalue, ih hrest]
    rfl

theorem diff16Bytes_differences {system : System} {data : List U8} (heven : data.length % 2 = 0)
    {source : U32} {previous : U16} (h : Placed system source (differences16 previous data)) :
    diff16Bytes system (data.length / 2) source previous = some data := by
  induction data using List.twoStepInduction generalizing source previous with
  | nil => rfl
  | singleton _ => contradiction
  | cons_cons low high rest ih _ =>
    have hlength : (low :: high :: rest).length / 2 = rest.length / 2 + 1 := by
      rw [List.length_cons, List.length_cons]
      omega
    have hrestEven : rest.length % 2 = 0 := by
      rw [List.length_cons, List.length_cons] at heven
      omega
    obtain ⟨hlow, hnext⟩ := placed_cons.mp h
    obtain ⟨hhigh, hrest⟩ := placed_cons.mp hnext
    have hdelta : (byte (word 16 [low, high] - previous) 0).setWidth 16 |||
        (byte (word 16 [low, high] - previous) 1).setWidth 16 <<< 8 =
          word 16 [low, high] - previous :=
      (word_two _ _).symm.trans (word_byte 2 rfl _)
    have hvalue : previous + (word 16 [low, high] - previous) = word 16 [low, high] := by grind
    have hbytes : ∀ lane < 2, byte (word 16 [low, high]) lane = [low, high].getD lane 0 :=
      fun lane hlane => byte_word (by omega)
    have htwo : source + 2 = source + 1 + 1 := by grind
    rw [hlength]
    unfold diff16Bytes
    rw [hlow, hhigh]
    show (diff16Bytes system (rest.length / 2) (source + 2) (previous + (_ ||| _))).bind _ = _
    rw [hdelta, hvalue, htwo, ih hrestEven hrest]
    show some ((word 16 [low, high]).setWidth 8 :: (word 16 [low, high] >>> 8).setWidth 8 :: rest) = _
    have hlowByte : (word 16 [low, high]).setWidth 8 = low := hbytes 0 (by decide)
    have hhighByte : (word 16 [low, high] >>> 8).setWidth 8 = high := hbytes 1 (by decide)
    rw [hlowByte, hhighByte]

/-- A byte that cannot be read ends the decoding. -/
theorem diff8Bytes_unreadable {system : System} {count : Nat} {source : U32} {previous : U8}
    (h : ∃ index < count, system.read8 ioCallbacks (source + BitVec.ofNat 32 index) = none) :
    diff8Bytes system count source previous = none := by
  induction count generalizing source previous with
  | zero =>
    obtain ⟨_, hlt, -⟩ := h
    exact absurd hlt (Nat.not_lt_zero _)
  | succ count ih =>
    show (system.read8 ioCallbacks source).bind _ = _
    cases hread : system.read8 ioCallbacks source with
    | none => rfl
    | some delta =>
      obtain ⟨index, hlt, hnone⟩ := h
      cases index with
      | zero =>
        rw [offset_zero, hread] at hnone
        contradiction
      | succ index =>
        rw [offset_succ] at hnone
        show (diff8Bytes system count (source + 1) (previous + delta)).bind _ = _
        rw [ih ⟨index, Nat.lt_of_succ_lt_succ hlt, hnone⟩]
        rfl

theorem diff16Bytes_unreadable {system : System} {count : Nat} {source : U32} {previous : U16}
    (h : ∃ index < count * 2, system.read8 ioCallbacks (source + BitVec.ofNat 32 index) = none) :
    diff16Bytes system count source previous = none := by
  induction count generalizing source previous with
  | zero =>
    obtain ⟨_, hlt, -⟩ := h
    exact absurd hlt (Nat.not_lt_zero _)
  | succ count ih =>
    have htwo : source + 2 = source + 1 + 1 := by grind
    unfold diff16Bytes
    cases hlow : system.read8 ioCallbacks source with
    | none => rfl
    | some deltaLo =>
      cases hhigh : system.read8 ioCallbacks (source + 1) with
      | none => rfl
      | some deltaHi =>
        show (diff16Bytes system count (source + 2) _).bind _ = _
        rw [ih ?_]
        · rfl
        obtain ⟨index, hlt, hnone⟩ := h
        -- the first two bytes have been read
        match index with
        | 0 =>
          rw [offset_zero, hlow] at hnone
          contradiction
        | 1 =>
          rw [offset_succ, offset_zero, hhigh] at hnone
          contradiction
        | index + 2 =>
          rw [offset_succ, offset_succ, ← htwo] at hnone
          exact ⟨index, by omega, hnone⟩

/-! ## The services -/

/-- `hle_diff8_unfilter_wram`. -/
def hleDiff8UnfilterWram (cpu : Arm7tdmi) (system : System) : Bool × System :=
  writeDecompressed hleWriteDecompressedWram
    (hleDiff8DecompressFromSource 0x21#8 (cpu.registers 0) system) cpu system

/-- `hle_diff8_unfilter_vram`. -/
def hleDiff8UnfilterVram (cpu : Arm7tdmi) (system : System) : Bool × System :=
  writeDecompressed hleWriteDecompressedVram
    (hleDiff8DecompressFromSource 0x21#8 (cpu.registers 0) system) cpu system

/-- `hle_diff16_unfilter`. -/
def hleDiff16Unfilter (cpu : Arm7tdmi) (system : System) : Bool × System :=
  writeDecompressed hleWriteDecompressedVram
    (hleDiff16DecompressFromSource 0x22#8 (cpu.registers 0) system) cpu system

/-- The filters. -/
inductive DifferentialFilter where
  | diff8Wram | diff8Vram | diff16
  deriving DecidableEq

namespace DifferentialFilter

/-- The service number of a filter. -/
def service : DifferentialFilter → U8
  | diff8Wram => 0x15
  | diff8Vram => 0x16
  | diff16 => 0x17

/-- The type that a header must have. -/
def headerType : DifferentialFilter → U8
  | diff8Wram | diff8Vram => 0x21
  | diff16 => 0x22

/-- What a filter runs. -/
def run : DifferentialFilter → Arm7tdmi → System → Bool × System
  | diff8Wram => hleDiff8UnfilterWram
  | diff8Vram => hleDiff8UnfilterVram
  | diff16 => hleDiff16Unfilter

/-- The blocks that have a stream: the size takes 24 bits, and halfwords fill whole halfwords. -/
def Encodable (filter : DifferentialFilter) (data : List U8) : Prop :=
  data.length < 2 ^ 24 ∧ (filter = diff16 → data.length % 2 = 0)

/-- The differences that a filter adds up. -/
def differences : DifferentialFilter → List U8 → List U8
  | diff8Wram | diff8Vram => differences8 0
  | diff16 => differences16 0

/-- The stream of a block: the header and the differences. -/
def stream (filter : DifferentialFilter) (data : List U8) : List U8 :=
  header filter.headerType data.length ++ filter.differences data

/-- What is stored for a block. -/
def block (filter : DifferentialFilter) (data : List U8) : List U8 :=
  match filter with
  | diff8Vram => padded data
  | diff8Wram | diff16 => data

/-- Where a filter can store a block. -/
def Destination (filter : DifferentialFilter) (address : U32) (count : Nat) : Prop :=
  match filter with
  | diff8Wram => BlockRange workRam address count
  | diff8Vram | diff16 => HalfwordRange address count

/-- A stream that a filter does not accept: a byte of the header cannot be read, the type is another
one, the halfwords have an odd number of bytes, or a byte after the header cannot be read. -/
def Malformed (filter : DifferentialFilter) (system : System) (source : U32) : Prop :=
  match readHeader system source with
  | none => True
  | some (headerType, size) =>
      headerType ≠ filter.headerType ∨ filter = diff16 ∧ size.toNat % 2 = 1 ∨
        ∃ index < size.toNat,
          system.read8 ioCallbacks (source + 4 + BitVec.ofNat 32 index) = none

theorem hleService_eq (filter : DifferentialFilter) (session : CoreSession) :
    session.hleService filter.service =
      some (session.servedIf 3 .cpuSet (filter.run session.cpu session.system)) := by
  cases filter <;> rfl

variable {filter : DifferentialFilter} {cpu : Arm7tdmi} {system : System}

/-- The header of a stream and what comes after it. -/
theorem placed_stream {data : List U8} {source : U32}
    (h : Placed system source (filter.stream data)) :
    Placed system source (header filter.headerType data.length) ∧
      Placed system (source + 4) (filter.differences data) := placed_append.mp h

theorem ofNat_toNat {size : Nat} (h : size < 2 ^ 24) : (BitVec.ofNat 32 size).toNat = size := by
  rw [BitVec.toNat_ofNat]
  omega

theorem hleDiff8_differences {data : List U8} {source : U32} (hsize : data.length < 2 ^ 24)
    (hheader : Placed system source (header 0x21#8 data.length))
    (hdata : Placed system (source + 4) (differences8 0 data)) :
    hleDiff8DecompressFromSource 0x21#8 source system = some data := by
  unfold hleDiff8DecompressFromSource
  rw [readHeader_eq hsize hheader]
  show diff8Bytes system (BitVec.ofNat 32 data.length).toNat (source + 4) 0 = _
  rw [ofNat_toNat hsize]
  exact diff8Bytes_differences hdata

theorem odd_size (size : U32) : size.getLsbD 0 = true ↔ size.toNat % 2 = 1 := by
  rw [BitVec.getLsbD, Nat.testBit_zero, decide_eq_true_eq]

theorem hleDiff16_differences {data : List U8} {source : U32} (hsize : data.length < 2 ^ 24)
    (heven : data.length % 2 = 0) (hheader : Placed system source (header 0x22#8 data.length))
    (hdata : Placed system (source + 4) (differences16 0 data)) :
    hleDiff16DecompressFromSource 0x22#8 source system = some data := by
  have hodd : ¬(BitVec.ofNat 32 data.length).getLsbD 0 = true := by
    rw [odd_size, ofNat_toNat hsize]
    omega
  unfold hleDiff16DecompressFromSource
  rw [readHeader_eq hsize hheader]
  show (if 0x22#8 ≠ 0x22#8 ∨ (BitVec.ofNat 32 data.length).getLsbD 0 = true then none
    else diff16Bytes system ((BitVec.ofNat 32 data.length).toNat / 2) (source + 4) 0) = _
  rw [if_neg (not_or.mpr ⟨not_not.mpr rfl, hodd⟩), ofNat_toNat hsize]
  exact diff16Bytes_differences heven hdata

/-- The block is stored where the stream says. -/
theorem run_stream {data : List U8} (hencodable : filter.Encodable data)
    (hplaced : Placed system (cpu.registers 0) (filter.stream data))
    (hdestination : filter.Destination (cpu.registers 1) (filter.block data).length) :
    filter.run cpu system =
      (true, system.withMemory
        (system.memory.storeBlock (filter.block data) (cpu.registers 1))) := by
  obtain ⟨hsize, heven⟩ := hencodable
  obtain ⟨hheader, hdata⟩ := placed_stream hplaced
  cases filter with
  | diff8Wram =>
    show hleDiff8UnfilterWram cpu system = _
    unfold hleDiff8UnfilterWram
    rw [hleDiff8_differences hsize hheader hdata]
    exact hleWriteDecompressedWram_eq data system hdestination
  | diff8Vram =>
    show hleDiff8UnfilterVram cpu system = _
    unfold hleDiff8UnfilterVram
    rw [hleDiff8_differences hsize hheader hdata]
    exact hleWriteDecompressedVram_eq data system hdestination
  | diff16 =>
    have heven := heven rfl
    have hpadded : padded data = data := if_neg (by omega)
    show hleDiff16Unfilter cpu system = _
    unfold hleDiff16Unfilter
    rw [hleDiff16_differences hsize heven hheader hdata]
    have hwrite := @hleWriteDecompressedVram_eq data (cpu.registers 1) system
    rw [hpadded] at hwrite
    exact hwrite hdestination

theorem hleDiff8_malformed {source : U32} (hbytes : filter.headerType = 0x21#8)
    (hmalformed : filter.Malformed system source) :
    hleDiff8DecompressFromSource 0x21#8 source system = none := by
  have hfilter : filter ≠ diff16 := by
    rintro rfl
    contradiction
  unfold Malformed at hmalformed
  rw [hbytes] at hmalformed
  unfold hleDiff8DecompressFromSource
  revert hmalformed
  cases readHeader system source with
  | none => intro _; rfl
  | some found =>
    obtain ⟨headerType, size⟩ := found
    show headerType ≠ 0x21#8 ∨ _ → (if headerType ≠ 0x21#8 then none
      else diff8Bytes system size.toNat (source + 4) 0) = none
    rintro (hother | ⟨hhalfwords, -⟩ | hunreadable)
    · exact if_pos hother
    · exact absurd hhalfwords hfilter
    · split
      · rfl
      · exact diff8Bytes_unreadable hunreadable

theorem hleDiff16_malformed {source : U32} (hmalformed : diff16.Malformed system source) :
    hleDiff16DecompressFromSource 0x22#8 source system = none := by
  unfold Malformed at hmalformed
  unfold hleDiff16DecompressFromSource
  revert hmalformed
  cases readHeader system source with
  | none => intro _; rfl
  | some found =>
    obtain ⟨headerType, size⟩ := found
    show headerType ≠ 0x22#8 ∨ _ →
      (if headerType ≠ 0x22#8 ∨ size.getLsbD 0 = true then none
      else diff16Bytes system (size.toNat / 2) (source + 4) 0) = none
    rintro (hother | ⟨-, hodd⟩ | ⟨index, hindex, hunreadable⟩)
    · exact if_pos (.inl hother)
    · exact if_pos (.inr ((odd_size size).mpr hodd))
    · split
      · rfl
      · next haccepted =>
        have heven : ¬size.toNat % 2 = 1 := fun hodd => haccepted (.inr ((odd_size size).mpr hodd))
        exact diff16Bytes_unreadable ⟨index, by omega, hunreadable⟩

/-- Nothing is stored from a malformed stream. -/
theorem run_malformed (hmalformed : filter.Malformed system (cpu.registers 0)) :
    filter.run cpu system = (false, system) := by
  cases filter with
  | diff8Wram =>
    show hleDiff8UnfilterWram cpu system = _
    unfold hleDiff8UnfilterWram
    rw [hleDiff8_malformed rfl hmalformed]
    rfl
  | diff8Vram =>
    show hleDiff8UnfilterVram cpu system = _
    unfold hleDiff8UnfilterVram
    rw [hleDiff8_malformed rfl hmalformed]
    rfl
  | diff16 =>
    show hleDiff16Unfilter cpu system = _
    unfold hleDiff16Unfilter
    rw [hleDiff16_malformed hmalformed]
    rfl

/-- A filter called on the stream of a block stores the block and changes nothing else, wherever the
stream is; called on a malformed stream it changes nothing. -/
theorem hleService_unfilters (filter : DifferentialFilter) (session : CoreSession) :
    (∀ data, filter.Encodable data →
      Placed session.system (session.cpu.registers 0) (filter.stream data) →
      filter.Destination (session.cpu.registers 1) (filter.block data).length →
      ∃ memory,
        session.hleService filter.service =
          some (some (3, .cpuSet), { session with system := session.system.withMemory memory }) ∧
        StoresBlock session.system.memory memory (session.cpu.registers 1) (filter.block data)) ∧
    (filter.Malformed session.system (session.cpu.registers 0) →
      session.hleService filter.service = some (none, session)) := by
  constructor
  · intro data hencodable hplaced hdestination
    refine ⟨session.system.memory.storeBlock (filter.block data) (session.cpu.registers 1), ?_, ?_⟩
    · rw [hleService_eq, run_stream hencodable hplaced hdestination]
      rfl
    · cases filter with
      | diff8Wram => exact session.system.memory.storesBlock workRam_internal hdestination
      | diff8Vram | diff16 =>
        rcases hdestination with ⟨-, hrange⟩ | hrange
        · exact session.system.memory.storesBlock (by decide) hrange
        · exact session.system.memory.storesBlock workRam_internal hrange
  · intro hmalformed
    rw [hleService_eq, run_malformed hmalformed]
    rfl

/-- The bytes 10, 13 and 9, stored over their own differences. -/
def overlapped : CoreSession := callSession [0x21, 3, 0, 0, 10, 3, 0xFC] 0x03000000#32 0x03000005#32

theorem hleService_unfilters_overlapped :
    ∃ memory,
      overlapped.hleService 0x15 =
        some (some (3, .cpuSet), { overlapped with system := overlapped.system.withMemory memory }) ∧
      StoresBlock overlapped.system.memory memory 0x03000005#32 [10, 13, 9] :=
  (hleService_unfilters .diff8Wram overlapped).1 [10, 13, 9] (by unfold Encodable; decide)
    (by decide +kernel) (show BlockRange workRam _ _ by decide +kernel)

end DifferentialFilter

end Gba.Core
