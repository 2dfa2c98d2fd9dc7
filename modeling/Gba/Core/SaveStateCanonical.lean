import Gba.Core.ApuRestore
import Gba.Library.CanonicalReader

/-!
# Save states have one spelling

Every parser of the current version takes exactly the bytes that the writer of its section makes of
its value. A save state that is accepted is therefore spelled as `encode` spells it, and no byte of
it is ignored but the bits that two registers do not have (`decodeInto_canonical`).
-/

namespace Gba.Core

open Gba.Library
open Gba.Library.Reader (run_bind_value run_pure_value)
open Gba.Library.Canonical

/-! ## The sections -/

theorem canonical_cpuState : Canonical parseCpuState writeCpuState := by
  refine .of_completes (field readU64 fun _ => field (readArray readU32 16) fun _ => ?_)
  iterate 7 refine field readBool fun _ => ?_
  refine field readU8 fun _ => ?_
  iterate 2 refine field (readArray readU32 5) fun _ => ?_
  iterate 17 refine field readU32 fun _ => ?_
  exact done rfl rfl

/-- An enumerator is the one at the place of its code. -/
theorem code_of_getElem {α : Type} {values : List α} {code : α → U8}
    (hcode : ∀ index : Fin values.length, code (values.get index) = BitVec.ofNat 8 index)
    {value : U8} {a : α} (h : values[value.toNat]? = some a) : code a = value := by
  obtain ⟨hindex, rfl⟩ := List.getElem?_eq_some_iff.mp h
  refine (hcode ⟨value.toNat, hindex⟩).trans ?_
  rw [BitVec.ofNat_toNat, BitVec.setWidth_eq]

theorem GamePakSaveType.toU8_of_ofU8 {value : U8} {type : GamePakSaveType}
    (h : ofU8 value = some type) : type.toU8 = value := code_of_getElem (by decide) h

theorem FlashCommandState.toU8_of_ofU8 {value : U8} {state : FlashCommandState}
    (h : ofU8 value = some state) : state.toU8 = value := code_of_getElem (by decide) h

theorem BiosExecutionMode.toU8_of_ofU8 {value : U8} {mode : BiosExecutionMode}
    (h : ofU8 value = some mode) : mode.toU8 = value := code_of_getElem (by decide) h

theorem canonical_memoryState : Canonical parseMemoryState writeMemoryState := by
  refine .of_completes ?_
  iterate 5 refine field (readFixed _) fun _ => ?_
  iterate 2 refine field (readBlob _) fun _ => ?_
  iterate 2 refine field readU8 fun _ => ?_
  refine field readBool fun _ => field readU8 fun _ => field readU32 fun _ => field readBool fun _ =>
    field (readFixed 256) fun _ => ofOption_bind fun saveType hsaveType =>
      ofOption_bind fun state hstate => check_bind fun _ => field (readBlob _) fun _ => ?_
  obtain rfl := GamePakSaveType.toU8_of_ofU8 hsaveType
  obtain rfl := FlashCommandState.toU8_of_ofU8 hstate
  exact done rfl rfl

theorem canonical_interruptState : Canonical parseInterruptState writeInterruptState :=
  .of_completes (field readU16 fun _ => field readU16 fun _ => field readBool fun _ =>
    check_bind fun _ => done rfl rfl)

theorem canonical_timer : Canonical parseTimer writeTimer := by
  refine .of_completes ?_
  iterate 3 refine field readU16 fun _ => ?_
  exact field readU64 fun _ => field readU32 fun _ => field readU16 fun _ => field readBool fun _ =>
    done rfl rfl

theorem canonical_timersState : Canonical parseTimersState writeTimersState :=
  .of_completes (field readU64 fun _ => field (readArray canonical_timer 4) fun _ => done rfl rfl)

theorem canonical_dmaChannel : Canonical parseDmaChannel writeDmaChannel := by
  refine .of_completes (field readU32 fun _ => field readU32 fun _ => field readU16 fun _ =>
    field readU16 fun _ => ?_)
  iterate 4 refine field readU32 fun _ => ?_
  exact done rfl rfl

theorem canonical_dmaState : Canonical parseDmaState writeDmaState :=
  .of_completes (field (readArray canonical_dmaChannel 4) fun _ => field readBool fun _ => done rfl rfl)

theorem canonical_ppuState : Canonical parsePpuState writePpuState := by
  refine .of_completes ?_
  iterate 3 refine field readU16 fun _ => ?_
  exact field (readArray readU16 0x2B) fun _ => check_bind fun _ => done rfl rfl

/-- The number in a position of a queue is the word that it is written as. -/
theorem writeU32_toNat (value : U32) : writeU32 (BitVec.ofNat 32 value.toNat) = writeU32 value := by
  rw [BitVec.ofNat_toNat, BitVec.setWidth_eq]

theorem canonical_fifoState : Canonical parseFifoState writeFifoState := by
  refine .of_completes (field (readArray readU8 _) fun _ => field readU32 fun head =>
    field readU32 fun size => done rfl ?_)
  rw [← writeU32_toNat head, ← writeU32_toNat size]
  rfl

theorem canonical_squareChannel : Canonical parseSquareChannel writeSquareChannel := by
  refine .of_completes (field readBool fun _ => field readU8 fun _ => field readU8 fun _ => ?_)
  exact field readU16 fun _ => field readU16 fun _ => check_bind fun _ => done rfl rfl

theorem canonical_waveChannel : Canonical parseWaveChannel writeWaveChannel := by
  refine .of_completes (field readBool fun _ => field readU8 fun _ => ?_)
  exact field readU16 fun _ => field readU16 fun _ => check_bind fun _ => done rfl rfl

theorem canonical_noiseChannel : Canonical parseNoiseChannel writeNoiseChannel := by
  refine .of_completes (field readBool fun _ => field readU8 fun _ => ?_)
  iterate 3 refine field readU16 fun _ => ?_
  exact field readBool fun _ => done rfl rfl

theorem canonical_mixedSample : Canonical parseMixedSample writeMixedSample :=
  .of_completes (field readU16 fun _ => field readU16 fun _ => done rfl rfl)

theorem canonical_apuState : Canonical parseApuState writeApuState := by
  refine .of_completes ?_
  iterate 4 refine field readU16 fun _ => ?_
  refine field (readArray (readArray readU16 8) 2) fun _ => field readBool fun _ => ?_
  iterate 2 refine field canonical_fifoState fun _ => ?_
  iterate 2 refine field readU8 fun _ => ?_
  refine field (readArray canonical_squareChannel 2) fun _ => field canonical_waveChannel fun _ =>
    field canonical_noiseChannel fun _ => field (readArray canonical_mixedSample _) fun _ =>
      field readU32 fun head => field readU32 fun size => ?_
  iterate 2 refine field readU64 fun _ => ?_
  iterate 2 refine field readU32 fun _ => ?_
  refine field readU8 fun _ => field canonical_mixedSample fun _ => check_bind fun _ => done rfl ?_
  rw [← writeU32_toNat head, ← writeU32_toNat size]
  rfl

theorem canonical_ioState : Canonical parseIoState writeIoState :=
  .of_completes (field (readArray readU16 7) fun _ => field readBool fun _ => field readU32 fun _ =>
    done rfl rfl)

theorem canonical_outerFrame : Canonical parseOuterFrame writeOuterFrame := by
  refine .of_completes (field readU32 fun _ => field (readOptional (readArray readU32 13)) fun _ => ?_)
  exact field readBool fun _ => field readBool fun _ => done rfl rfl

/-- A list behind its length. -/
theorem spelled_count {α : Type} {write : α → List U8} {count : U32} {values : List α}
    (h : values.length = count.toNat) :
    writeU32 count ++ values.flatMap write =
      writeU32 (BitVec.ofNat 32 values.length) ++ values.flatMap write := by
  rw [h, writeU32_toNat]

theorem canonical_outerFrames (returnLr : Option U32) :
    Canonical (parseOuterFrames SaveStateCodec.kVersion returnLr) writeOuterFrames := by
  refine Spells.bind readU32 fun count block hblock => Spells.remaining.bind fun left taken htaken =>
    (Spells.check _).bind fun _ checked hchecked =>
      (readList canonical_outerFrame count.toNat).bind fun frames spelled hspelled =>
        (Spells.check _).bind fun _ last hlast => .pure ?_
  obtain ⟨hlength, rfl⟩ := hspelled
  rw [hblock, htaken, hchecked.2, hlast.2]
  rw [List.append_nil, List.append_nil, List.nil_append, List.nil_append]
  exact spelled_count hlength

theorem canonical_workFrameList (irqDepth count : Nat) (previous : Option U32) :
    Spells (parseWorkFrameList irqDepth count previous) fun frames block =>
      frames.length = count ∧ block = frames.flatMap writeWorkFrame := by
  induction count generalizing previous with
  | zero => exact .pure ⟨rfl, rfl⟩
  | succ count ih =>
      refine Spells.bind readU64 fun cycles first hfirst => (Spells.check _).bind fun _ nonzero hnonzero =>
        Spells.bind readU32 fun owner second hsecond => (Spells.check _).bind fun _ ordered hordered =>
          (ih (some owner)).bind fun frames rest hrest => .pure ?_
      obtain ⟨hlength, rfl⟩ := hrest
      refine ⟨congrArg (· + 1) hlength, ?_⟩
      rw [hfirst, hnonzero.2, hsecond, hordered.2]
      simp [writeWorkFrame]

theorem canonical_workFrames (irqDepth : Nat) :
    Canonical (parseWorkFrames SaveStateCodec.kVersion irqDepth) writeWorkFrames := by
  refine Spells.bind readU32 fun count block hblock => Spells.remaining.bind fun left taken htaken =>
    (Spells.check _).bind fun _ checked hchecked =>
      (canonical_workFrameList irqDepth count.toNat none).conseq fun frames spelled hspelled => ?_
  obtain ⟨hlength, rfl⟩ := hspelled
  rw [hblock, htaken, hchecked.2]
  exact spelled_count hlength

theorem canonical_schedulerState :
    Canonical (parseSchedulerState SaveStateCodec.kVersion) writeSchedulerState := by
  refine .of_completes (field readU64 fun _ => field readBool fun _ =>
    field (readOptional readU32) fun _ => field (readOptional readU8) fun _ =>
      field (readOptional readU8) fun _ => field readU8 fun _ => ?_)
  iterate 4 refine field readBool fun _ => ?_
  refine field (readOptional readU16) fun _ => field (readOptional readU32) fun _ =>
    field (readOptional (readArray readU32 13)) fun _ => ?_
  iterate 10 refine field readBool fun _ => ?_
  refine field readU8 fun _ => field readBool fun _ => field readU8 fun _ => field readU32 fun _ =>
    field readU32 fun _ => field (canonical_outerFrames _) fun _ =>
      field (canonical_workFrames _) fun _ => done rfl rfl

/-! ## Snapshots -/

theorem canonical_snapshot :
    Canonical (parseSnapshot SaveStateCodec.kVersion) writeSnapshot := by
  have hsections : Canonical (parseSections SaveStateCodec.kVersion) writeSnapshot := by
    refine .of_completes (field canonical_cpuState fun _ => field canonical_memoryState fun _ =>
      field canonical_interruptState fun _ => field canonical_timersState fun _ =>
        field canonical_dmaState fun _ => field canonical_ppuState fun _ =>
          field canonical_apuState fun _ => field readU16 fun _ => field readU16 fun _ =>
            field readU16 fun _ => field readU8 fun _ => ofOption_bind fun mode hmode =>
              field canonical_ioState fun _ => field canonical_schedulerState fun _ => ?_)
    obtain rfl := BiosExecutionMode.toU8_of_ofU8 hmode
    exact done rfl rfl
  refine Spells.bind hsections fun snapshot block hblock => Spells.atEnd.bind fun _ last hlast => .pure ?_
  rw [hblock, hlast, List.append_nil, List.append_nil]

/-! ## The registers that are restored -/

/-- The request of a source whose flag is given. -/
theorem request_if_anySet (flags : U16) (source : InterruptSource)
    (interrupts : InterruptController) :
    (if anySet flags (interruptBit source) then interrupts.request source else interrupts) =
      { interrupts with
        interruptFlags := interrupts.interruptFlags ||| (flags &&& interruptBit source) } := by
  have hbit : interruptBit source = BitVec.twoPow 16 source.index := rfl
  have himplemented :
      interruptBit source &&& InterruptController.kSupportedMask = interruptBit source := by
    cases source <;> rfl
  have hsingle := BitVec.and_twoPow flags source.index
  rw [← hbit] at hsingle
  unfold anySet InterruptController.request
  rw [himplemented, hsingle]
  have hnonzero : interruptBit source ≠ 0 := by cases source <;> decide
  split
  · rw [if_pos (by simpa using hnonzero)]
  · rw [if_neg (by simp), BitVec.or_zero]

/-- The requests of a list of sources set the flags of these sources that are given. -/
theorem foldl_restoreFlags (flags : U16) (sources : List InterruptSource)
    (interrupts : InterruptController) :
    sources.foldl (fun interrupts source =>
        if anySet flags (interruptBit source) then interrupts.request source else interrupts)
      interrupts =
      { interrupts with
        interruptFlags := interrupts.interruptFlags |||
          (flags &&& (sources.map interruptBit).foldr (· ||| ·) 0) } := by
  induction sources generalizing interrupts with
  | nil =>
      show interrupts = { interrupts with
        interruptFlags := interrupts.interruptFlags ||| (flags &&& 0#16) }
      rw [BitVec.and_zero, BitVec.or_zero]
  | cons source sources ih =>
      rw [List.foldl_cons, request_if_anySet, ih]
      dsimp only
      rw [List.map_cons, List.foldr_cons, BitVec.and_or_distrib_left, BitVec.or_assoc]

/-- The implemented flags are restored as they are. -/
theorem restoreFlags_clear {flags : U16}
    (h : flags &&& ~~~InterruptController.kSupportedMask = 0) {interrupts : InterruptController}
    (hclear : interrupts.interruptFlags = 0) :
    restoreFlags flags interrupts = { interrupts with interruptFlags := flags } := by
  have hmask : flags &&& InterruptController.kSupportedMask = flags := and_mask_of_and_not h
  unfold restoreFlags
  rw [foldl_restoreFlags, hclear]
  show { interrupts with
    interruptFlags := 0#16 ||| (flags &&& InterruptController.kSupportedMask) } = _
  rw [hmask, BitVec.zero_or]

/-- What restoring makes of a snapshot: two registers keep their implemented bits, and the pending
flag of DMA is found again. -/
def SnapshotState.normalized (snapshot : SnapshotState) : SnapshotState :=
  { snapshot with
    dma := snapshot.dma.refreshImmediatePending
    keycnt :=
      snapshot.keycnt &&& (kButtonMask ||| kKeypadIrqEnable ||| kKeypadIrqConditionAnd)
    waitcnt := snapshot.waitcnt &&& kWaitcntWritableMask }

theorem restored_timers {state : TimersState} {timers : Timers}
    (h : Timers.loadState state = some timers) : timers.saveState = state := by
  unfold Timers.loadState at h
  split at h
  · rw [← Option.some.inj h]
    rfl
  · contradiction

theorem restored_dma {state dma : DmaController} (h : DmaController.loadState state = some dma) :
    dma = state.refreshImmediatePending := by
  unfold DmaController.loadState at h
  split at h
  · exact (Option.some.inj h).symm
  · contradiction

theorem restored_memory {state memory : MemoryBus} (h : MemoryBus.loadState state = some memory) :
    memory = state := (MemoryBus.loadState_eq_some h).1

/-- A restored machine stores the snapshot that it was restored from. -/
theorem snapshotOf_restored {snapshot : SnapshotState} {machine : CoreSessionState}
    (hinterrupts : snapshot.interrupts.WellFormed) (h : restoreMachine snapshot = some machine)
    (session : CoreSession) :
    SaveStateCodec.snapshotOf (session.loadState machine) = snapshot.normalized := by
  simp only [restoreMachine, Option.bind_eq_bind, Option.bind_eq_some_iff, Option.pure_def,
    Option.some.injEq] at h
  obtain ⟨cpu, hcpu, memory, hmemory, timers, htimers, dma, hdma, apu, hapu, keypad, hkeypad, rfl⟩ := h
  obtain rfl := restored_memory hmemory
  have hcpu' : cpu = snapshot.cpu := by
    unfold Arm7tdmi.loadState at hcpu
    split at hcpu
    · exact (Option.some.inj hcpu).symm
    · contradiction
  have hapu' : apu = snapshot.apu := by
    unfold Apu.loadState at hapu
    split at hapu
    · exact (Option.some.inj hapu).symm
    · contradiction
  have hkeypad' : keypad = ⟨snapshot.pressedMask, 0⟩ := by
    unfold Keypad.setPressedMask at hkeypad
    split at hkeypad
    · contradiction
    · exact (Option.some.inj hkeypad).symm
  have hflags : restoreFlags snapshot.interrupts.interruptFlags
      (InterruptController.reset.writeInterruptEnable snapshot.interrupts.interruptEnable) =
        { snapshot.interrupts with masterEnabled := false } := by
    rw [restoreFlags_clear hinterrupts.2 rfl]
    unfold InterruptController.writeInterruptEnable
    rw [and_mask_of_and_not hinterrupts.1]
    rfl
  rw [hflags]
  obtain rfl := restored_dma hdma
  subst hcpu' hapu' hkeypad'
  show SnapshotState.mk _ _ _ timers.saveState _ _ _ _ _ _ _ _ _ = _
  rw [restored_timers htimers]
  rfl

/-! ## What is accepted -/

theorem parsed_interrupts (version : U32) :
    Spells (parseSnapshot version) fun snapshot _ => snapshot.interrupts.WellFormed := by
  have hinterrupts : Spells parseInterruptState fun interrupts _ => interrupts.WellFormed := by
    refine (Spells.any _).bind fun enable _ _ => (Spells.any _).bind fun flags _ _ =>
      (Spells.any _).bind fun master _ _ => (Spells.check _).bind fun _ _ hcheck => .pure ?_
    simpa [anySet, InterruptController.WellFormed] using hcheck.1
  have hsections : Spells (parseSections version) fun snapshot _ => snapshot.interrupts.WellFormed := by
    refine (Spells.any _).bind fun cpu _ _ => (Spells.any _).bind fun memory _ _ =>
      hinterrupts.bind fun interrupts _ hwellFormed => ?_
    iterate 9 refine (Spells.any _).bind fun _ _ _ => ?_
    iterate 2 refine (Spells.any _).bind fun _ _ _ => ?_
    exact .pure hwellFormed
  exact hsections.bind fun snapshot _ hwellFormed => (Spells.any _).bind fun _ _ _ => .pure hwellFormed

/-- Nothing follows a snapshot. -/
theorem parseSnapshot_atEnd {version : U32} {bytes : List U8} {offset last : Nat}
    {snapshot : SnapshotState}
    (h : (parseSnapshot version).run bytes offset = .value snapshot last) :
    bytes.drop last = [] := by
  obtain ⟨sections, middle, -, hrest⟩ := run_bind_value h
  obtain ⟨_, finish, hend, hpure⟩ := run_bind_value hrest
  obtain ⟨-, rfl⟩ := run_pure_value hpure
  change (if middle = bytes.length then _ else _) = _ at hend
  split at hend
  · next hlength =>
    cases hend
    rw [hlength, List.drop_length]
  · cases hend

namespace SaveStateCodec

/-- An accepted save state of the current version is spelled as `encode` spells its snapshot. The
restored session has that snapshot, but for the bits that two registers do not have and the pending
flag of DMA, and the stored hash. -/
theorem decodeInto_canonical {session after : CoreSession} {bytes : List U8}
    {result : SaveStateDecodeResult} (h : decodeInto session bytes = some (result, after))
    (hok : result.status = .ok) (hversion : result.version = kVersion) :
    ∃ snapshot : SnapshotState,
      bytes = writeHeader after.stateHash ++ writeSnapshot snapshot ∧
        snapshotOf after = snapshot.normalized := by
  obtain ⟨encodedHash, afterMagic, afterVersion, afterHash, last, snapshot, machine, hmagic,
    hversionRead, hhash, hparse, hmachine, hstored, rfl⟩ := decodeInto_accepted h hok
  rw [hversion] at hversionRead hparse hstored
  have hwithin {α : Type} {p : Reader α} {offset next : Nat} {a : α} (hoffset : offset ≤ bytes.length)
      (hrun : p.run bytes offset = .value a next) : next ≤ bytes.length := by
    have hend := p.within bytes offset hoffset
    rw [hrun] at hend
    exact hend.2
  have hafterMagic := hwithin (Nat.zero_le _) hmagic
  have hafterVersion := hwithin hafterMagic hversionRead
  have hafterHash := hwithin hafterVersion hhash
  obtain ⟨magic, hdropMagic, rfl⟩ := readU32 bytes 0 _ _ (Nat.zero_le _) hmagic
  obtain ⟨version, hdropVersion, rfl⟩ := readU32 bytes _ _ _ hafterMagic hversionRead
  obtain ⟨stored, hdropHash, rfl⟩ := readU64 bytes _ _ _ hafterVersion hhash
  obtain ⟨sections, hdropSections, rfl⟩ := canonical_snapshot bytes _ _ _ hafterHash hparse
  obtain ⟨_, _, hinterrupts⟩ := parsed_interrupts kVersion bytes _ _ _ hafterHash hparse
  have hhashStored : (session.loadState machine).stateHash = encodedHash := hstored
  refine ⟨snapshot, ?_, snapshotOf_restored hinterrupts hmachine session⟩
  rw [hhashStored]
  calc bytes
      = writeU32 kMagic ++ (writeU32 kVersion ++ (writeU64 encodedHash ++
          (writeSnapshot snapshot ++ bytes.drop last))) := by
        rw [← hdropSections, ← hdropHash, ← hdropVersion, ← hdropMagic, List.drop_zero]
    _ = writeHeader encodedHash ++ writeSnapshot snapshot := by
        rw [parseSnapshot_atEnd hparse, List.append_nil]
        simp only [writeHeader, List.flatten_cons, List.flatten_nil, List.append_nil,
          List.append_assoc]

end SaveStateCodec

end Gba.Core
