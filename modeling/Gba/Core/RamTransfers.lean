import Gba.Core.BlockTransfer
import Gba.Core.MemoryCells
import Gba.Core.RegisterFile
import Gba.Core.ThumbExecute

/-!
# Block transfers in work RAM

The block transfers of both instruction sets, described by the registers, the block and the base
that an instruction names: which word goes to which register, what becomes of the base, and that
nothing else changes.
-/

namespace Gba.Core

open LittleEndian

/-- The address of a word of a block. -/
def wordAddress (first : U32) (index : Nat) : U32 := first + BitVec.ofNat 32 index * 4

/-- The bytes of registers are at consecutive words, and no other byte changes. -/
structure StoresWords (registers : List (Fin 16)) (first : U32) (value : Fin 16 → U32)
    (before after : MemoryBus) : Prop where
  stored : ∀ (index : Nat) (h : index < registers.length), ∀ lane < 4,
    after.cell (wordAddress first index + BitVec.ofNat 32 lane) =
      byte (value registers[index]) lane
  others : ∀ other,
    (∀ index < registers.length, ∀ lane < 4,
      ¬SameCell other (wordAddress first index + BitVec.ofNat 32 lane)) →
    after.cell other = before.cell other
  outside : before.SameOutside after

/-- A block transfer: its registers in the order of their words, the address of the first word, and
the value that the base takes. -/
structure BlockTransfer where
  load : Bool
  registers : List (Fin 16)
  first : U32
  base : Fin 16
  writeBack : Option U32

/-- The first word of a block by its addressing mode: from the base on or after it, upwards or
downwards. -/
def blockFirst (base : U32) (count : Nat) : (preIndex up : Bool) → U32
  | false, true => base
  | true, true => base + 4
  | false, false => base - BitVec.ofNat 32 count * 4 + 4
  | true, false => base - BitVec.ofNat 32 count * 4

/-- The base after a block: past it, upwards or downwards. -/
def blockEnd (base : U32) (count : Nat) (up : Bool) : U32 :=
  if up then base + BitVec.ofNat 32 count * 4 else base - BitVec.ofNat 32 count * 4

/-- An instruction that transfers a block. -/
inductive BlockInstruction where
  | arm (instruction : U32)
  | thumbBlock (instruction : U16)
  | thumbStack (instruction : U16)

namespace BlockInstruction

/-- A push is a descending store before the stack pointer, a pop an ascending load from it on. -/
def stackTransfer (decoded : DecodedThumbStackInstruction) (cpu : Arm7tdmi) : BlockTransfer :=
  let low := listedRegisters (decoded.registerList.setWidth 16) 8
  let extra := if decoded.load then Arm7tdmi.kPc else Arm7tdmi.kLinkRegister
  let registers := low ++ if decoded.extraRegister then [extra] else []
  let sp := cpu.registers Arm7tdmi.kStackPointer
  { load := decoded.load
    registers := registers
    first := blockFirst sp registers.length (!decoded.load) decoded.load
    base := Arm7tdmi.kStackPointer
    writeBack := some (blockEnd sp registers.length decoded.load) }

/-- What an instruction prescribes. -/
def transfer : BlockInstruction → Arm7tdmi → BlockTransfer
  | .arm instruction, cpu =>
      let decoded := decodeBlockDataTransfer instruction
      let registers := listedRegisters decoded.registerList 16
      let base := cpu.registers decoded.rn
      { load := decoded.load
        registers := registers
        first := blockFirst base registers.length decoded.preIndex decoded.up
        base := decoded.rn
        writeBack :=
          if decoded.writeBack then some (blockEnd base registers.length decoded.up) else none }
  | .thumbBlock instruction, cpu =>
      let decoded := decodeThumbBlockTransfer instruction
      let registers := listedRegisters (decoded.registerList.setWidth 16) 8
      let base := cpu.registers decoded.rb
      { load := decoded.load
        registers := registers
        first := blockFirst base registers.length false true
        base := decoded.rb
        writeBack := some (blockEnd base registers.length true) }
  | .thumbStack instruction, cpu => stackTransfer (decodeThumbStackTransfer instruction) cpu

/-- The instructions of the class that are executed: without the S bit, with a list that is not
empty, and not a load that writes a base of its list back. -/
def Accepted : BlockInstruction → Arm7tdmi → Prop
  | .arm instruction, cpu =>
      canDecodeBlockDataTransfer instruction = true ∧
        cpu.conditionPassed (decodeCondition instruction) = true ∧
        instruction.getLsbD 22 = false ∧
        ¬((decodeBlockDataTransfer instruction).load = true ∧
          (decodeBlockDataTransfer instruction).writeBack = true ∧
          (decodeBlockDataTransfer instruction).rn ∈
            listedRegisters (decodeBlockDataTransfer instruction).registerList 16)
  | .thumbBlock instruction, _ => canDecodeThumbBlockTransfer instruction = true
  | .thumbStack instruction, cpu =>
      canDecodeThumbStackTransfer instruction = true ∧
        ((BlockInstruction.thumbStack instruction).transfer cpu).registers ≠ []

/-- The instruction set's `execute`. -/
def execute {σ : Type} (callbacks : MemoryBusIoCallbacks σ) :
    BlockInstruction → Arm7tdmi → BusState σ → MemoryExecution σ
  | .arm instruction, cpu, bus => cpu.executeArmMemory callbacks instruction bus
  | .thumbBlock instruction, cpu, bus => cpu.executeThumbMemory callbacks instruction bus
  | .thumbStack instruction, cpu, bus => cpu.executeThumbMemory callbacks instruction bus

end BlockInstruction

namespace BlockTransfer

variable (t : BlockTransfer)

/-- The address of a word of the block. -/
def address (index : Nat) : U32 := wordAddress t.first index

/-- The words that the transfer accesses are in RAM. -/
def WithinRam : Prop :=
  ∀ index < t.registers.length,
    if t.load then InRam (t.address index)
    else ∀ lane < 4, InRam (t.address index + BitVec.ofNat 32 lane)

/-- The aligned word at a place of the block. -/
def alignedWord (memory : MemoryBus) (index : Nat) : U32 :=
  word 32 (memory.cells (alignWord (t.address index)) 4)

/-- The word that the bus reads there: an address between words rotates the aligned one. -/
def readWord (memory : MemoryBus) (index : Nat) : U32 :=
  rotateRight (t.alignedWord memory index) (laneShift (t.address index))

/-- The value that a store takes from a register: the program counter runs ahead. -/
def storedValue (cpu : Arm7tdmi) (index : Fin 16) : U32 :=
  if index = Arm7tdmi.kPc then cpu.registers index + 12 else cpu.registers index

/-- The processor with the base written back. -/
def baseWritten (cpu : Arm7tdmi) : Arm7tdmi := (t.writeBack.map (cpu.setRegister t.base)).getD cpu

/-- A load puts a word into each listed register. The program counter takes its word without the
lowest bit, which selects the instruction set. Nothing but the base changes beside. -/
structure Loads (words : Nat → U32) (before after : Arm7tdmi) : Prop where
  listed : ∀ (index : Nat) (h : index < t.registers.length), t.registers[index] ≠ Arm7tdmi.kPc →
    (t.writeBack.isSome = true → t.registers[index] ≠ t.base) →
      after.registers t.registers[index] = words index
  pc : ∀ (index : Nat) (h : index < t.registers.length), t.registers[index] = Arm7tdmi.kPc →
    after.registers Arm7tdmi.kPc = words index &&& ~~~0x1#32 ∧
      after.thumbState = (words index).getLsbD 0
  base : ∀ value, t.writeBack = some value → t.base ∉ t.registers → after.registers t.base = value
  others : ∀ index ∉ t.registers, (t.writeBack.isSome = true → index ≠ t.base) →
    after.registers index = before.registers index
  thumbState : Arm7tdmi.kPc ∉ t.registers → after.thumbState = before.thumbState
  rest : after = { before with registers := after.registers, thumbState := after.thumbState }

end BlockTransfer

/-! ## Words in order -/

theorem wordAddress_zero (first : U32) : wordAddress first 0 = first := BitVec.add_zero first

theorem wordAddress_succ (first : U32) (index : Nat) :
    wordAddress first (index + 1) = wordAddress (first + 4) index := by
  unfold wordAddress
  rw [BitVec.ofNat_add]
  grind

/-- The bytes of a block, counted from the first. -/
theorem wordAddress_lane (first : U32) (index lane : Nat) :
    wordAddress first index + BitVec.ofNat 32 lane = first + BitVec.ofNat 32 (index * 4 + lane) := by
  unfold wordAddress
  rw [BitVec.ofNat_add, BitVec.ofNat_mul, BitVec.add_assoc]
  rfl

theorem wordAddress_aligned {first : U32} (h : first.toNat % 4 = 0) (index : Nat) :
    (wordAddress first index).toNat % 4 = 0 := by
  unfold wordAddress
  have hfour : BitVec.toNat (4 : U32) = 4 := rfl
  rw [BitVec.toNat_add, BitVec.toNat_mul, hfour]
  omega

/-- At an aligned address the bus does not rotate. -/
theorem rotated_of_aligned (memory : MemoryBus) {address : U32} (h : address.toNat % 4 = 0) :
    rotateRight (word 32 (memory.cells (alignWord address) 4)) (laneShift address) =
      word 32 (memory.cells address 4) := by
  rw [alignWord_of_aligned h, laneShift_eq, h]
  exact rotateRight_zero _

/-- The registers of a list take the words at consecutive addresses. -/
theorem loadWords_words {read : U32 → Option U32} {words : Nat → U32}
    {registers : List (Fin 16)} (hnodup : registers.Nodup) {first : U32}
    (hread : ∀ index < registers.length, read (wordAddress first index) = some (words index)) :
    ∃ loaded, Arm7tdmi.loadWords read registers first = some loaded ∧
      ∀ (index : Nat) (h : index < registers.length), loaded registers[index] = words index := by
  induction registers generalizing first words with
  | nil => exact ⟨_, rfl, fun index h => absurd h (Nat.not_lt_zero index)⟩
  | cons register rest ih =>
    obtain ⟨hfresh, hnodup⟩ := List.nodup_cons.mp hnodup
    have hrest : ∀ index < rest.length,
        read (wordAddress (first + 4) index) = some (words (index + 1)) := by
      intro index hindex
      rw [← wordAddress_succ]
      exact hread (index + 1) (Nat.succ_lt_succ hindex)
    obtain ⟨loaded, hloaded, hwords⟩ := @ih (fun index => words (index + 1)) hnodup _ hrest
    have hfirst := hread 0 (Nat.succ_pos _)
    rw [wordAddress_zero] at hfirst
    refine ⟨Function.update loaded register (words 0), ?_, ?_⟩
    · unfold Arm7tdmi.loadWords
      rw [hfirst]
      show (Arm7tdmi.loadWords read rest (first + 4)).bind _ = _
      rw [hloaded]
      rfl
    · intro index hindex
      cases index with
      | zero => exact Function.update_self ..
      | succ index =>
        have hrest := Nat.lt_of_succ_lt_succ hindex
        have hne : rest[index] ≠ register := by
          rintro rfl
          exact hfresh (List.getElem_mem hrest)
        show Function.update loaded register (words 0) rest[index] = _
        rw [Function.update_of_ne hne]
        exact hwords index hrest

/-- A store in RAM puts each register at its place. -/
theorem storeWords_ram {σ : Type} (callbacks : MemoryBusIoCallbacks σ) (value : Fin 16 → U32)
    {registers : List (Fin 16)} {first : U32} (bus : BusState σ) (hlength : registers.length ≤ 16)
    (hram : ∀ index < registers.length, ∀ lane < 4,
      InRam (wordAddress first index + BitVec.ofNat 32 lane)) :
    ∃ memory, Arm7tdmi.storeWords callbacks value registers first bus =
        (true, bus.withMemory memory) ∧ StoresWords registers first value bus.memory memory := by
  induction registers generalizing first bus with
  | nil =>
    exact ⟨bus.memory, rfl, fun index h => absurd h (Nat.not_lt_zero index), fun _ _ => rfl, rfl⟩
  | cons register rest ih =>
    have hhead : ∀ lane < 4, InRam (first + BitVec.ofNat 32 lane) := by
      have hword := hram 0 (Nat.succ_pos _)
      rw [wordAddress_zero] at hword
      exact hword
    have hrest : ∀ index < rest.length, ∀ lane < 4,
        InRam (wordAddress (first + 4) index + BitVec.ofNat 32 lane) := by
      intro index hindex
      rw [← wordAddress_succ]
      exact hram (index + 1) (Nat.succ_lt_succ hindex)
    obtain ⟨memory, hmemory, hstores⟩ := ih
      (bus.withMemory (bus.memory.writeCells (value register) first 4))
      (Nat.le_of_succ_le hlength) hrest
    refine ⟨memory, ?_, ?_, ?_, ?_⟩
    · unfold Arm7tdmi.storeWords
      rw [bus.write32_ram callbacks (value register) hhead]
      exact hmemory
    · intro index hindex lane hlane
      cases index with
      | zero =>
        rw [wordAddress_zero]
        refine (hstores.others _ ?_).trans
          (bus.memory.cell_writeCells_ram (value register) le_rfl hhead hlane)
        -- the bytes of the first word are not among those of the others
        intro index hindex other hother
        have hword := hrest index hindex other hother
        rw [← wordAddress_succ, wordAddress_lane] at hword ⊢
        simp only [List.length_cons] at hlength
        exact not_sameCell_of_offset (hhead lane hlane) hword (by omega) (by omega) (by omega)
      | succ index =>
        rw [wordAddress_succ]
        exact hstores.stored index (Nat.lt_of_succ_lt_succ hindex) lane hlane
    · intro other hother
      refine (hstores.others other ?_).trans
        (bus.memory.cell_writeCells_of_ne (value register)
          (fun lane hlane => BusState.internal_of_inRam (hhead lane hlane)) ?_)
      · intro index hindex
        rw [← wordAddress_succ]
        exact hother (index + 1) (Nat.succ_lt_succ hindex)
      · have hword := hother 0 (Nat.succ_pos _)
        rw [wordAddress_zero] at hword
        exact hword
    · exact (bus.memory.writeCells_sameOutside (value register) first 4).trans hstores.outside

/-- The word that a store puts at an aligned address. -/
theorem StoresWords.word_cells {registers : List (Fin 16)} {first : U32} {value : Fin 16 → U32}
    {before after : MemoryBus} (h : StoresWords registers first value before after) {index : Nat}
    (hindex : index < registers.length) :
    word 32 (after.cells (wordAddress first index) 4) = value registers[index] := by
  rw [after.cells_eq (h.stored index hindex)]
  exact word_byte 4 rfl _

/-! ## The status -/

/-- The word of a status with the Thumb bit set or cleared. -/
theorem ProgramStatus.toWord_thumb (s : ProgramStatus) (h : s.mode ∈ CpuMode.named)
    (thumb : Bool) :
    (if thumb then s.toWord ||| kThumbStateFlag else s.toWord &&& ~~~kThumbStateFlag) =
      { s with thumbState := thumb }.toWord := by
  obtain ⟨n, z, c, v, t, f, i, mode⟩ := s
  -- the Thumb bit is not among the others
  have key : ∀ mode ∈ CpuMode.named, ∀ n z c v t f i thumb : Bool,
      (if thumb then toWord ⟨n, z, c, v, t, f, i, mode⟩ ||| kThumbStateFlag
        else toWord ⟨n, z, c, v, t, f, i, mode⟩ &&& ~~~kThumbStateFlag) =
        toWord ⟨n, z, c, v, thumb, f, i, mode⟩ := by
    decide +kernel
  exact key mode h n z c v t f i thumb

namespace Arm7tdmi

/-- Setting the status without a change of mode. -/
theorem setCpsr_toWord (cpu : Arm7tdmi) {s : ProgramStatus} (h : s.mode ∈ CpuMode.named)
    (hmode : cpu.mode = s.mode) :
    cpu.setCpsr s.toWord =
      some { cpu with
        negative := s.negative
        zero := s.zero
        carry := s.carry
        overflow := s.overflow
        thumbState := s.thumbState
        fiqDisabled := s.fiqDisabled
        irqDisabled := s.irqDisabled } := by
  obtain ⟨hdecode, hstatus⟩ := s.ofWord_toWord h
  have hflags : ∀ status : ProgramStatus, status = s → { cpu with
      negative := status.negative
      zero := status.zero
      carry := status.carry
      overflow := status.overflow
      thumbState := status.thumbState
      fiqDisabled := status.fiqDisabled
      irqDisabled := status.irqDisabled }.switchMode s.mode = { cpu with
        negative := s.negative
        zero := s.zero
        carry := s.carry
        overflow := s.overflow
        thumbState := s.thumbState
        fiqDisabled := s.fiqDisabled
        irqDisabled := s.irqDisabled } := by
    rintro status rfl
    exact switchMode_self _ hmode
  unfold setCpsr
  rw [hdecode]
  refine congrArg some ?_
  exact hflags (ProgramStatus.ofWord s.toWord s.mode) hstatus

/-- A loaded program counter changes the address and the instruction set only. -/
theorem loadPc_eq (cpu : Arm7tdmi) (h : cpu.mode ∈ CpuMode.named) (word : U32) :
    cpu.loadPc word =
      ⟨.executed, { cpu.setRegister kPc (word &&& ~~~0x1#32) with
        thumbState := word.getLsbD 0 }⟩ := by
  have hword := ProgramStatus.toWord_thumb (cpu.setRegister kPc (word &&& ~~~0x1#32)).status h
    (word.getLsbD 0)
  rw [toWord_status] at hword
  unfold loadPc
  dsimp only
  rw [hword, setCpsr_toWord _ h rfl]
  rfl

end Arm7tdmi

/-! ## Loads -/

namespace BlockTransfer

/-- The processor after a load of the listed registers and the program counter. -/
def beforeBase (registers : List (Fin 16)) (cpu : Arm7tdmi) (words : Fin 16 → U32) : Arm7tdmi :=
  { cpu with
    registers := fun index =>
      if index ∈ registers then
        if index = Arm7tdmi.kPc then words index &&& ~~~0x1#32 else words index
      else cpu.registers index
    thumbState :=
      if Arm7tdmi.kPc ∈ registers then (words Arm7tdmi.kPc).getLsbD 0 else cpu.thumbState }

/-- The processor after a load and the base. -/
def loaded (t : BlockTransfer) (cpu : Arm7tdmi) (words : Fin 16 → U32) : Arm7tdmi :=
  t.baseWritten (beforeBase t.registers cpu words)

theorem baseWritten_registers (t : BlockTransfer) (cpu : Arm7tdmi) (index : Fin 16)
    (h : t.writeBack.isSome = true → index ≠ t.base) :
    (t.baseWritten cpu).registers index = cpu.registers index := by
  unfold baseWritten
  cases hwriteBack : t.writeBack with
  | none => rfl
  | some value =>
    rw [hwriteBack] at h
    exact Function.update_of_ne (h rfl) _ _

theorem baseWritten_rest (t : BlockTransfer) (cpu : Arm7tdmi) :
    t.baseWritten cpu = { cpu with registers := (t.baseWritten cpu).registers } := by
  unfold baseWritten
  cases t.writeBack <;> rfl

theorem loads_loaded (t : BlockTransfer) (cpu : Arm7tdmi) {values : Fin 16 → U32}
    {words : Nat → U32} (hbase : t.base ≠ Arm7tdmi.kPc)
    (hvalues : ∀ (index : Nat) (h : index < t.registers.length),
      values t.registers[index] = words index) :
    t.Loads words cpu (t.loaded cpu values) := by
  refine ⟨?_, ?_, ?_, ?_, ?_, ?_⟩
  · intro index hindex hpc hne
    unfold loaded
    rw [baseWritten_registers _ _ _ hne]
    exact (if_pos (List.getElem_mem hindex)).trans ((if_neg hpc).trans (hvalues index hindex))
  · intro index hindex hpc
    have hmem : Arm7tdmi.kPc ∈ t.registers := hpc ▸ List.getElem_mem hindex
    have hword := hvalues index hindex
    rw [hpc] at hword
    rw [← hword]
    unfold loaded
    constructor
    · rw [baseWritten_registers _ _ _ fun _ => hbase.symm]
      exact (if_pos hmem).trans (if_pos rfl)
    · rw [baseWritten_rest]
      exact if_pos hmem
  · intro value hvalue _
    unfold loaded baseWritten
    rw [hvalue]
    exact Function.update_self ..
  · intro index hunlisted hne
    unfold loaded
    rw [baseWritten_registers _ _ _ hne]
    exact if_neg hunlisted
  · intro hpc
    unfold loaded
    rw [baseWritten_rest]
    exact if_neg hpc
  · unfold loaded
    rw [baseWritten_rest]
    rfl

end BlockTransfer

namespace Arm7tdmi

/-- The registers of a list written with their words. -/
theorem writeRegisters_eq (cpu : Arm7tdmi) (registers : List (Fin 16)) (loaded : Fin 16 → U32) :
    cpu.writeRegisters registers loaded =
      { cpu with registers := fun index =>
          if index ∈ registers then loaded index else cpu.registers index } := by
  unfold writeRegisters
  induction registers using List.reverseRecOn with
  | nil => simp
  | append_singleton registers index ih =>
    rw [List.foldl_append, ih]
    show Arm7tdmi.setRegister _ index _ = _
    unfold setRegister
    congr 1
    funext other
    rw [Function.update_apply]
    by_cases hother : other = index
    · simp [hother]
    · simp [hother]

/-- Listed registers and a program counter, written one after the other. -/
theorem writeRegisters_loadPc (cpu : Arm7tdmi) (h : cpu.mode ∈ CpuMode.named)
    (registers : List (Fin 16)) (loaded : Fin 16 → U32) :
    (cpu.writeRegisters registers loaded).loadPc (loaded kPc) =
      ⟨.executed, BlockTransfer.beforeBase (registers ++ [kPc]) cpu loaded⟩ := by
  rw [writeRegisters_eq, loadPc_eq]
  case h => exact h
  unfold BlockTransfer.beforeBase setRegister
  dsimp only
  congr 2
  · funext index
    rw [Function.update_apply]
    by_cases hindex : index = kPc
    · simp [hindex]
    · simp [hindex]
  · simp

/-- Listed registers without a program counter. -/
theorem writeRegisters_beforeBase (cpu : Arm7tdmi) {registers : List (Fin 16)}
    (hpc : kPc ∉ registers) (loaded : Fin 16 → U32) :
    cpu.writeRegisters registers loaded = BlockTransfer.beforeBase registers cpu loaded := by
  rw [writeRegisters_eq]
  unfold BlockTransfer.beforeBase
  rw [if_neg hpc]
  congr 1
  funext index
  by_cases hindex : index = kPc
  · simp [hindex, hpc]
  · simp [hindex]

/-- The registers of a block load of ARM, which are written below the program counter first. -/
theorem executeBlockLoad_eq (cpu : Arm7tdmi) {registerList : U16}
    (h : kPc ∈ listedRegisters registerList 16 → cpu.mode ∈ CpuMode.named)
    (loaded : Fin 16 → U32) :
    cpu.executeBlockLoad registerList false loaded =
      ⟨.executed, BlockTransfer.beforeBase (listedRegisters registerList 16) cpu loaded⟩ := by
  have hwritten : cpu.writeLoaded registerList false loaded =
      cpu.writeRegisters (listedRegisters registerList 15) loaded := rfl
  have hpc : kPc ∉ listedRegisters registerList 15 := fun hmem =>
    (mem_listedRegisters_fifteen.mp hmem).1 rfl
  unfold executeBlockLoad
  by_cases hmem : kPc ∈ listedRegisters registerList 16
  · have hlisted : registerListContains registerList kPc = true :=
      (mem_listedRegisters.mp hmem).2
    have hsame : ∀ index,
        index ∈ listedRegisters registerList 15 ++ [kPc] ↔ index ∈ listedRegisters registerList 16 := by
      intro index
      rw [List.mem_append, List.mem_singleton, mem_listedRegisters_fifteen]
      by_cases hindex : index = kPc
      · simp [hindex, hmem]
      · simp [hindex]
    simp only [hlisted, Bool.not_true, Bool.false_eq_true, if_false]
    rw [hwritten, writeRegisters_loadPc cpu (h hmem)]
    unfold BlockTransfer.beforeBase
    simp only [hsame]
  · have hlisted : registerListContains registerList kPc = false := by
      rw [mem_listedRegisters] at hmem
      simpa [kPc] using hmem
    simp only [hlisted, Bool.not_false, if_true]
    rw [hwritten, writeRegisters_beforeBase cpu hpc, listedRegisters_without_pc hmem]

end Arm7tdmi

/-! ## The instructions -/

namespace BlockInstruction

/-- What the source computes for the addressing modes. -/
theorem blockTransferAddress_eq (base : U32) (count : Nat) (preIndex up : Bool) :
    blockTransferAddress base count preIndex up =
      ⟨blockFirst base count preIndex up, blockEnd base count up⟩ := by
  cases up <;> cases preIndex <;> rfl

variable {σ : Type} (callbacks : MemoryBusIoCallbacks σ)

/-- An execution performs a transfer, whatever its reads and stores do. -/
structure Performs (t : BlockTransfer) (cpu : Arm7tdmi) (bus : BusState σ)
    (execution : MemoryExecution σ) : Prop where
  nodup : t.registers.Nodup
  base : t.base ≠ Arm7tdmi.kPc
  load : t.load = true → (Arm7tdmi.kPc ∈ t.registers → cpu.mode ∈ CpuMode.named) →
    ∃ read : U32 → Option U32,
      (∀ address value, bus.read32 callbacks address = some value → read address = some value) ∧
        ∀ loaded, Arm7tdmi.loadWords read t.registers t.first = some loaded →
          execution = ⟨.executed, t.loaded cpu loaded, bus⟩
  store : t.load = false →
    execution = cpu.finishStore t.base t.writeBack
      (Arm7tdmi.storeWords callbacks (BlockTransfer.storedValue cpu) t.registers t.first bus)

theorem arm_performs {instruction : U32} {cpu : Arm7tdmi}
    (h : (BlockInstruction.arm instruction).Accepted cpu) (bus : BusState σ) :
    Performs callbacks ((BlockInstruction.arm instruction).transfer cpu) cpu bus
      ((BlockInstruction.arm instruction).execute callbacks cpu bus) := by
  obtain ⟨hdecode, hpasses, huser, haccepted⟩ := h
  have hbase : (decodeBlockDataTransfer instruction).rn ≠ Arm7tdmi.kPc := by
    unfold canDecodeBlockDataTransfer at hdecode
    simp only [Bool.and_eq_true, decide_eq_true_eq] at hdecode
    exact hdecode.1.2
  have hrefused : ((decodeBlockDataTransfer instruction).load &&
      (decodeBlockDataTransfer instruction).writeBack &&
      registerListContains (decodeBlockDataTransfer instruction).registerList
        (decodeBlockDataTransfer instruction).rn) = false := by
    rw [Bool.eq_false_iff]
    intro hall
    simp only [Bool.and_eq_true] at hall
    exact haccepted ⟨hall.1.1, hall.1.2, mem_listedRegisters.mpr ⟨Fin.isLt _, hall.2⟩⟩
  have hexecute : (BlockInstruction.arm instruction).execute callbacks cpu bus = _ :=
    Arm7tdmi.executeArmMemory_blockTransfer callbacks hdecode cpu bus
  rw [if_pos hpasses, huser] at hexecute
  unfold Arm7tdmi.executeBlockTransfer at hexecute
  simp only [blockTransferAddress_eq, hrefused, Bool.false_and, Bool.and_false, Bool.false_eq_true,
    if_false] at hexecute
  refine ⟨listedRegisters_nodup _ _, hbase, ?_, ?_⟩
  · intro hload hmode
    replace hload : (decodeBlockDataTransfer instruction).load = true := hload
    refine ⟨bus.read32 callbacks, fun _ _ hread => hread, fun loaded hloaded => ?_⟩
    replace hloaded : Arm7tdmi.loadWords (bus.read32 callbacks)
        (listedRegisters (decodeBlockDataTransfer instruction).registerList 16)
        (blockFirst (cpu.registers (decodeBlockDataTransfer instruction).rn)
          (countRegisters (decodeBlockDataTransfer instruction).registerList)
          (decodeBlockDataTransfer instruction).preIndex
          (decodeBlockDataTransfer instruction).up) = some loaded := hloaded
    rw [if_pos hload, hloaded] at hexecute
    dsimp only at hexecute
    rw [Arm7tdmi.executeBlockLoad_eq cpu hmode, if_pos rfl] at hexecute
    exact hexecute
  · intro hload
    replace hload : (decodeBlockDataTransfer instruction).load = false := hload
    rw [hload] at hexecute
    exact hexecute

/-- Thumb lists name low registers only. -/
theorem lt_of_mem_lowRegisters {registerList : U8} {index : Fin 16}
    (h : index ∈ listedRegisters (registerList.setWidth 16) 8) : index.val < 8 :=
  (mem_listedRegisters.mp h).1

theorem pc_notMem_lowRegisters (registerList : U8) :
    Arm7tdmi.kPc ∉ listedRegisters (registerList.setWidth 16) 8 := fun h =>
  absurd (lt_of_mem_lowRegisters h) (by decide)

/-- A list with a bit set has a register. -/
theorem lowRegisters_ne_nil {registerList : U8} (h : registerList ≠ 0#8) :
    listedRegisters (registerList.setWidth 16) 8 ≠ [] := by
  intro hnil
  refine h (BitVec.eq_of_getLsbD_eq fun index hindex => ?_)
  have hunlisted : (⟨index, by omega⟩ : Fin 16) ∉ listedRegisters (registerList.setWidth 16) 8 := by
    rw [hnil]
    exact List.not_mem_nil
  rw [mem_listedRegisters] at hunlisted
  have hbit : ¬(registerList.setWidth 16).getLsbD index = true := fun hset =>
    hunlisted ⟨hindex, hset⟩
  rw [BitVec.getLsbD_setWidth] at hbit
  rw [BitVec.getLsbD_zero]
  simpa [show index < 16 by omega] using hbit

/-- Without the program counter the registers are stored as they are. -/
theorem storeWords_storedValue {cpu : Arm7tdmi} {registers : List (Fin 16)}
    (hpc : Arm7tdmi.kPc ∉ registers) (first : U32) (bus : BusState σ) :
    Arm7tdmi.storeWords callbacks (BlockTransfer.storedValue cpu) registers first bus =
      Arm7tdmi.storeWords callbacks cpu.registers registers first bus := by
  refine Arm7tdmi.storeWords_congr callbacks (fun index hindex => if_neg ?_) first bus
  rintro rfl
  exact hpc hindex

theorem thumbBlock_performs {instruction : U16} {cpu : Arm7tdmi}
    (h : (BlockInstruction.thumbBlock instruction).Accepted cpu) (bus : BusState σ) :
    Performs callbacks ((BlockInstruction.thumbBlock instruction).transfer cpu) cpu bus
      ((BlockInstruction.thumbBlock instruction).execute callbacks cpu bus) := by
  replace h : canDecodeThumbBlockTransfer instruction = true := h
  have hlist : (decodeThumbBlockTransfer instruction).registerList ≠ 0#8 := by
    unfold canDecodeThumbBlockTransfer at h
    simp only [Bool.and_eq_true, decide_eq_true_eq] at h
    exact h.2
  have hbase : (decodeThumbBlockTransfer instruction).rb ≠ Arm7tdmi.kPc := by
    have hlt : (decodeThumbBlockTransfer instruction).rb.val < 8 := lowRegisterField_lt instruction 8
    intro hpc
    rw [hpc] at hlt
    exact absurd hlt (by decide)
  have hnonempty : ¬(listedRegisters
      ((decodeThumbBlockTransfer instruction).registerList.setWidth 16) 8).length = 0 := fun hzero =>
    lowRegisters_ne_nil hlist (List.length_eq_zero_iff.mp hzero)
  have hexecute : (BlockInstruction.thumbBlock instruction).execute callbacks cpu bus =
      cpu.executeThumbBlockTransfer callbacks (decodeThumbBlockTransfer instruction) bus := by
    unfold execute Arm7tdmi.executeThumbMemory
    exact if_pos h
  unfold Arm7tdmi.executeThumbBlockTransfer at hexecute
  dsimp only at hexecute
  rw [if_neg hnonempty] at hexecute
  refine ⟨listedRegisters_nodup _ _, hbase, ?_, ?_⟩
  · intro hload _
    replace hload : (decodeThumbBlockTransfer instruction).load = true := hload
    refine ⟨Arm7tdmi.read32OrThumbBlockOpenBus callbacks bus (cpu.registers Arm7tdmi.kPc),
      fun address value hread => ?_, fun loaded hloaded => ?_⟩
    · unfold Arm7tdmi.read32OrThumbBlockOpenBus
      rw [hread]
    · replace hloaded : Arm7tdmi.loadWords
          (Arm7tdmi.read32OrThumbBlockOpenBus callbacks bus (cpu.registers Arm7tdmi.kPc))
          (listedRegisters ((decodeThumbBlockTransfer instruction).registerList.setWidth 16) 8)
          (cpu.registers (decodeThumbBlockTransfer instruction).rb) = some loaded := hloaded
      rw [if_pos hload, hloaded] at hexecute
      dsimp only at hexecute
      rw [Arm7tdmi.writeRegisters_beforeBase cpu (pc_notMem_lowRegisters _)] at hexecute
      exact hexecute
  · intro hload
    replace hload : (decodeThumbBlockTransfer instruction).load = false := hload
    rw [hload, ← storeWords_storedValue callbacks (pc_notMem_lowRegisters _)] at hexecute
    exact hexecute

theorem stack_performs {decoded : DecodedThumbStackInstruction} {cpu : Arm7tdmi}
    (h : (stackTransfer decoded cpu).registers ≠ []) (bus : BusState σ) :
    Performs callbacks (stackTransfer decoded cpu) cpu bus
      (cpu.executeThumbStackTransfer callbacks decoded bus) := by
  have hlow := pc_notMem_lowRegisters decoded.registerList
  have hlink : Arm7tdmi.kLinkRegister ∉ listedRegisters (decoded.registerList.setWidth 16) 8 :=
    fun h => absurd (lt_of_mem_lowRegisters h) (by decide)
  have hdistinct := listedRegisters_nodup (decoded.registerList.setWidth 16) 8
  unfold stackTransfer at h ⊢
  unfold Arm7tdmi.executeThumbStackTransfer
  generalize listedRegisters (decoded.registerList.setWidth 16) 8 = low at *
  obtain ⟨load, extra, registerList⟩ := decoded
  dsimp only at h ⊢
  have hcount : low.length + (if extra = true then 1 else 0) =
      (low ++ if extra = true then
        [if load = true then Arm7tdmi.kPc else Arm7tdmi.kLinkRegister] else []).length := by
    cases extra <;> simp
  have hnonzero : ¬(low.length + if extra = true then 1 else 0) = 0 := by
    rw [hcount]
    exact fun hzero => h (List.length_eq_zero_iff.mp hzero)
  rw [if_neg hnonzero, hcount]
  have hbase : Arm7tdmi.kStackPointer ≠ Arm7tdmi.kPc := by decide
  have hextra (register : Fin 16) (hfresh : register ∉ low) :
      (low ++ if extra = true then [register] else []).Nodup := by
    cases extra with
    | false => simpa using hdistinct
    | true =>
      refine List.Nodup.append hdistinct (List.nodup_singleton register) ?_
      simpa using hfresh
  cases load with
  | true =>
    refine ⟨hextra _ hlow, hbase, fun _ hmode => ?_, nofun⟩
    refine ⟨bus.read32 callbacks, fun _ _ hread => hread, fun loaded hloaded => ?_⟩
    replace hloaded : Arm7tdmi.loadWords (bus.read32 callbacks)
        (low ++ if extra = true then [Arm7tdmi.kPc] else [])
        (cpu.registers Arm7tdmi.kStackPointer) = some loaded := hloaded
    simp only [Bool.not_true, Bool.false_eq_true, if_false]
    rw [hloaded]
    dsimp only
    cases extra with
    | false =>
      simp only [Bool.false_eq_true, if_false, List.append_nil]
      rw [Arm7tdmi.writeRegisters_beforeBase cpu hlow]
      rfl
    | true =>
      have hjump := Arm7tdmi.writeRegisters_loadPc cpu (hmode (by simp)) low loaded
      simp only [if_true]
      unfold Arm7tdmi.finishPop
      dsimp only
      rw [hjump, if_pos rfl]
      rfl
  | false =>
    refine ⟨hextra _ hlink, hbase, nofun, fun _ => ?_⟩
    have hpc : Arm7tdmi.kPc ∉ low ++ if extra = true then [Arm7tdmi.kLinkRegister] else [] := by
      cases extra with
      | false => simpa using hlow
      | true => simpa [Arm7tdmi.kPc, Arm7tdmi.kLinkRegister] using hlow
    have hstored := @storeWords_storedValue σ callbacks cpu _ hpc
      (cpu.registers Arm7tdmi.kStackPointer - BitVec.ofNat 32
        (low ++ if extra = true then [Arm7tdmi.kLinkRegister] else []).length * 4) bus
    exact congrArg (cpu.finishStore Arm7tdmi.kStackPointer _) hstored.symm

theorem thumbStack_performs {instruction : U16} {cpu : Arm7tdmi}
    (h : (BlockInstruction.thumbStack instruction).Accepted cpu) (bus : BusState σ) :
    Performs callbacks ((BlockInstruction.thumbStack instruction).transfer cpu) cpu bus
      ((BlockInstruction.thumbStack instruction).execute callbacks cpu bus) := by
  obtain ⟨hdecode, hnonempty⟩ := h
  have hother : canDecodeThumbBlockTransfer instruction = false := by
    have hnibble := thumbStackTransfer_nibble hdecode
    unfold canDecodeThumbBlockTransfer
    rw [hnibble]
    rfl
  have hexecute : (BlockInstruction.thumbStack instruction).execute callbacks cpu bus =
      cpu.executeThumbStackTransfer callbacks (decodeThumbStackTransfer instruction) bus := by
    unfold execute Arm7tdmi.executeThumbMemory
    simp only [hother, hdecode, Bool.false_eq_true, if_false, if_true]
  rw [hexecute]
  exact stack_performs callbacks hnonempty bus

/-- Every instruction performs the transfer that it prescribes. -/
theorem performs {instruction : BlockInstruction} {cpu : Arm7tdmi} (h : instruction.Accepted cpu)
    (bus : BusState σ) :
    Performs callbacks (instruction.transfer cpu) cpu bus
      (instruction.execute callbacks cpu bus) := by
  cases instruction with
  | arm instruction => exact arm_performs callbacks h bus
  | thumbBlock instruction => exact thumbBlock_performs callbacks h bus
  | thumbStack instruction => exact thumbStack_performs callbacks h bus

/-! ## Exactness -/

/-- The state in which a load may set the program counter. -/
def NamesMode (instruction : BlockInstruction) (cpu : Arm7tdmi) : Prop :=
  (instruction.transfer cpu).load = true → Arm7tdmi.kPc ∈ (instruction.transfer cpu).registers →
    cpu.mode ∈ CpuMode.named

/-- A load takes the words that the bus reads at the block, and a store puts the registers there. -/
def Exact (instruction : BlockInstruction) (cpu : Arm7tdmi) (bus : BusState σ) : Prop :=
  let t := instruction.transfer cpu
  if t.load then
    ∃ after, instruction.execute callbacks cpu bus = ⟨.executed, after, bus⟩ ∧
      t.Loads (t.readWord bus.memory) cpu after
  else
    ∃ memory, instruction.execute callbacks cpu bus =
        ⟨.executed, t.baseWritten cpu, bus.withMemory memory⟩ ∧
      StoresWords t.registers t.first (BlockTransfer.storedValue cpu) bus.memory memory

/-- A load of the block that a store left behind takes the stored values, in their order. -/
def Restored (instruction : BlockInstruction) (cpu : Arm7tdmi) (bus : BusState σ) : Prop :=
  let t := instruction.transfer cpu
  let stored := (instruction.execute callbacks cpu bus).bus
  ∀ (reload : BlockInstruction) (later : Arm7tdmi), reload.Accepted later →
    reload.NamesMode later →
    (reload.transfer later).load = true → (reload.transfer later).first = t.first →
    (reload.transfer later).registers.length = t.registers.length →
      ∃ after, reload.execute callbacks later stored = ⟨.executed, after, stored⟩ ∧
        (reload.transfer later).Loads
          (fun index => BlockTransfer.storedValue cpu (t.registers.getD index 0)) later after

variable {instruction : BlockInstruction} {cpu : Arm7tdmi}

theorem load_exact (h : instruction.Accepted cpu) (bus : BusState σ)
    (hload : (instruction.transfer cpu).load = true) (hmode : instruction.NamesMode cpu)
    {words : Nat → U32}
    (hread : ∀ index < (instruction.transfer cpu).registers.length,
      bus.read32 callbacks ((instruction.transfer cpu).address index) = some (words index)) :
    ∃ after, instruction.execute callbacks cpu bus = ⟨.executed, after, bus⟩ ∧
      (instruction.transfer cpu).Loads words cpu after := by
  have hperforms := performs callbacks h bus
  obtain ⟨read, hreads, hexecute⟩ := hperforms.load hload (hmode hload)
  obtain ⟨values, hvalues, hwords⟩ := loadWords_words hperforms.nodup fun index hindex =>
    hreads _ _ (hread index hindex)
  exact ⟨_, hexecute values hvalues, BlockTransfer.loads_loaded _ cpu hperforms.base hwords⟩

theorem store_exact (h : instruction.Accepted cpu) (bus : BusState σ)
    (hstore : (instruction.transfer cpu).load = false)
    (hram : (instruction.transfer cpu).WithinRam) :
    ∃ memory, instruction.execute callbacks cpu bus =
        ⟨.executed, (instruction.transfer cpu).baseWritten cpu, bus.withMemory memory⟩ ∧
      StoresWords (instruction.transfer cpu).registers (instruction.transfer cpu).first
        (BlockTransfer.storedValue cpu) bus.memory memory := by
  have hperforms := performs callbacks h bus
  have hlength : (instruction.transfer cpu).registers.length ≤ 16 := by
    have hcard := hperforms.nodup.length_le_card
    simpa using hcard
  have hlanes : ∀ index < (instruction.transfer cpu).registers.length, ∀ lane < 4,
      InRam (wordAddress (instruction.transfer cpu).first index + BitVec.ofNat 32 lane) := by
    intro index hindex
    have hword := hram index hindex
    rw [if_neg (by rw [hstore]; decide)] at hword
    exact hword
  obtain ⟨memory, hmemory, hstores⟩ := storeWords_ram callbacks (BlockTransfer.storedValue cpu) bus
    hlength hlanes
  refine ⟨memory, ?_, hstores⟩
  rw [hperforms.store hstore, hmemory]
  rfl

/-- A block transfer in RAM does what its instruction prescribes, and a load of an aligned block
that it stored restores the values. -/
theorem blockTransfer_exact (h : instruction.Accepted cpu) (bus : BusState σ)
    (hmode : instruction.NamesMode cpu) (hram : (instruction.transfer cpu).WithinRam) :
    instruction.Exact callbacks cpu bus ∧
      ((instruction.transfer cpu).load = false → (instruction.transfer cpu).first.toNat % 4 = 0 →
        instruction.Restored callbacks cpu bus) := by
  constructor
  · unfold Exact
    dsimp only
    cases hload : (instruction.transfer cpu).load with
    | true =>
      refine load_exact callbacks h bus hload hmode fun index hindex => ?_
      have hword := hram index hindex
      rw [if_pos hload] at hword
      exact bus.read32_cells callbacks (BusState.internal_of_inRam hword)
    | false => exact store_exact callbacks h bus hload hram
  · intro hstore haligned reload later haccepted hnames hload hfirst hlength
    obtain ⟨memory, hexecute, hstores⟩ := store_exact callbacks h bus hstore hram
    rw [hexecute]
    refine load_exact callbacks haccepted _ hload hnames fun index hindex => ?_
    have hplace : index < (instruction.transfer cpu).registers.length := hlength ▸ hindex
    have haddress : (reload.transfer later).address index =
        wordAddress (instruction.transfer cpu).first index := by
      unfold BlockTransfer.address
      rw [hfirst]
    have hword := hram index hplace
    rw [if_neg (by rw [hstore]; decide)] at hword
    have hfirstByte : InRam (wordAddress (instruction.transfer cpu).first index) := by
      have hbyte := hword 0 (by decide)
      rwa [BitVec.add_zero] at hbyte
    rw [haddress, BusState.read32_cells callbacks _ (BusState.internal_of_inRam hfirstByte),
      rotated_of_aligned _ (wordAddress_aligned haligned index)]
    refine congrArg some ((hstores.word_cells hplace).trans ?_)
    simp [hplace]

/-! ### Two words at the start of IWRAM -/

/-- A base in IWRAM. -/
def iwramBase (base : U32) : Arm7tdmi :=
  { Arm7tdmi.reset with registers := fun index => if index = 0 then base else 7 }

/-- `STMIA r0!, {r1, r2}`. -/
def storeTwo : BlockInstruction := .arm 0xE8A00006#32

/-- `LDMIA r0, {r1}`. -/
def loadOne : BlockInstruction := .arm 0xE8900002#32

/-- A store to an aligned base. -/
theorem blockTransfer_exact_storeTwo :
    storeTwo.Exact (⟨none, none, none, none⟩ : MemoryBusIoCallbacks Unit) (iwramBase 0x03000000#32)
        ⟨MemoryBus.initial, ()⟩ ∧
      ((storeTwo.transfer (iwramBase 0x03000000#32)).load = false →
        (storeTwo.transfer (iwramBase 0x03000000#32)).first.toNat % 4 = 0 →
        storeTwo.Restored (⟨none, none, none, none⟩ : MemoryBusIoCallbacks Unit)
          (iwramBase 0x03000000#32) ⟨MemoryBus.initial, ()⟩) :=
  blockTransfer_exact _ (by unfold Accepted storeTwo; decide) _
    (by unfold NamesMode; decide) (by
      have hlength : (storeTwo.transfer (iwramBase 0x03000000#32)).registers.length = 2 := by decide
      unfold BlockTransfer.WithinRam
      rw [hlength]
      decide)

/-- A load from a base between words does not take the aligned word. -/
theorem not_loads_alignedWord :
    loadOne.Accepted (iwramBase 0x03000001#32) ∧
      (loadOne.transfer (iwramBase 0x03000001#32)).WithinRam ∧
      ¬∃ after, loadOne.execute (⟨none, none, none, none⟩ : MemoryBusIoCallbacks Unit)
          (iwramBase 0x03000001#32)
          ⟨{ MemoryBus.initial with iwram := fun index => if index.val = 0 then 1 else 0 }, ()⟩ =
            ⟨.executed, after,
              ⟨{ MemoryBus.initial with iwram := fun index => if index.val = 0 then 1 else 0 }, ()⟩⟩ ∧
        (loadOne.transfer (iwramBase 0x03000001#32)).Loads
          ((loadOne.transfer (iwramBase 0x03000001#32)).alignedWord
            { MemoryBus.initial with iwram := fun index => if index.val = 0 then 1 else 0 })
          (iwramBase 0x03000001#32) after := by
  have haccepted : loadOne.Accepted (iwramBase 0x03000001#32) := by
    unfold Accepted loadOne
    decide
  have hregisters : (loadOne.transfer (iwramBase 0x03000001#32)).registers = [1] := by decide
  have hram : (loadOne.transfer (iwramBase 0x03000001#32)).WithinRam := by
    unfold BlockTransfer.WithinRam
    rw [hregisters]
    decide
  refine ⟨haccepted, hram, ?_⟩
  generalize hmemory : ({ MemoryBus.initial with
    iwram := fun index => if index.val = 0 then 1 else 0 } : MemoryBus) = memory
  rintro ⟨after, hexecute, hloads⟩
  have hwords : ∀ index < (loadOne.transfer (iwramBase 0x03000001#32)).registers.length,
      (⟨memory, ()⟩ : BusState Unit).read32 ⟨none, none, none, none⟩
          ((loadOne.transfer (iwramBase 0x03000001#32)).address index) =
        some ((loadOne.transfer (iwramBase 0x03000001#32)).readWord memory index) := by
    intro index hindex
    have hword := hram index hindex
    rw [if_pos (by decide)] at hword
    exact BusState.read32_cells _ _ (BusState.internal_of_inRam hword)
  obtain ⟨other, hother, hread⟩ := load_exact (⟨none, none, none, none⟩ : MemoryBusIoCallbacks Unit)
    haccepted ⟨memory, ()⟩ (by decide) (by unfold NamesMode; decide) hwords
  have hsame : after = other := by
    have hboth := hexecute.symm.trans hother
    injection hboth
  subst hsame
  have hwords := (hloads.listed 0 (by decide) (by decide) (by decide)).symm.trans
    (hread.listed 0 (by decide) (by decide) (by decide))
  rw [← hmemory] at hwords
  exact absurd hwords (by decide)

end BlockInstruction

end Gba.Core
