import Gba.Core.RamTransfers
import Gba.Core.TransferParity

/-!
# Refused instructions

What is left behind by an instruction that is answered with `unsupported`. The processor is always
as it was: loads collect their words before they write a register, and write-back comes last.
Stores are not undone, so that an instruction with several of them keeps those that the bus had
accepted.
-/

namespace Gba.Core

/-- The regions with a memory of their own, which takes every store. -/
def Region.hasMemory : Region → Bool
  | .ewram | .iwram | .palette | .vram | .oam => true
  | .bios | .io | .gamePakRom | .gamePakSave | .unknown => false

namespace BusState

variable {σ : Type} (callbacks : MemoryBusIoCallbacks σ)

/-- The bus is as it was, but that a command sequence of a flash chip may have been given up. -/
def Untouched (before after : BusState σ) : Prop :=
  after = before ∨
    after = before.withMemory
      { before.memory with gamePakSave := before.memory.gamePakSave.resetFlashProtocol }

theorem Untouched.refl (bus : BusState σ) : Untouched bus bus := Or.inl rfl

/-! ## One store -/

/-- A refused command leaves the contents of the save alone. -/
theorem writeByte_refused {save : GamePakSave} {offset : Nat} {value : U8}
    (h : (save.writeByte offset value).2 = false) :
    (save.writeByte offset value).1 = save ∨
      (save.writeByte offset value).1 = save.resetFlashProtocol := by
  revert h
  unfold GamePakSave.writeByte
  split_ifs with haperture hflash
  · exact fun _ => Or.inl rfl
  · unfold GamePakSave.writeFlashByte
    cases save.flashCommandState with
    | idle =>
        dsimp only
        split_ifs
        · exact False.elim
        · exact False.elim
        · exact fun _ => Or.inl rfl
    | programData => exact fun h => Bool.noConfusion h
    | unlock1 | unlock2 | eraseUnlock1 | eraseUnlock2 | eraseCommand | bankSelect =>
        dsimp only
        split_ifs <;> first | exact fun _ => Or.inr rfl | exact False.elim
  · exact False.elim

theorem writeGamePakSaveByte_refused {bus : BusState σ} {offset : U32} {value : U8}
    (h : (bus.writeGamePakSaveByte offset value).1 = false) :
    Untouched bus (bus.writeGamePakSaveByte offset value).2 := by
  unfold Untouched writeGamePakSaveByte
  dsimp only
  rcases writeByte_refused h with hsave | hsave
  · exact Or.inl (by rw [hsave]; rfl)
  · exact Or.inr (by rw [hsave])

theorem writable_region {address : U32} (h : (classify address).writable = true) :
    (classify address).region.hasMemory = true := by
  revert h
  unfold classify
  dsimp only
  split
  case h_5 => split <;> exact fun h => Bool.noConfusion h
  all_goals first | exact fun h => Bool.noConfusion h | exact fun _ => rfl

theorem write8Memory_accepted (bus : BusState σ) (info : AddressInfo) (value : U8)
    (h : info.region.hasMemory = true) :
    (bus.write8Memory info value).1 = true := by
  unfold write8Memory
  revert h
  cases info.region with
  | vram =>
      dsimp only
      split
      · exact fun _ => rfl
      · exact fun _ => rfl
  | ewram | iwram | palette | oam => exact fun _ => rfl
  | bios | io | gamePakRom | gamePakSave | unknown => exact fun h => Bool.noConfusion h

theorem write8Memory_refused {bus : BusState σ} {info : AddressInfo} {value : U8}
    (h : (bus.write8Memory info value).1 = false) : (bus.write8Memory info value).2 = bus := by
  by_cases hregion : info.region.hasMemory = true
  · rw [write8Memory_accepted bus info value hregion] at h
    exact Bool.noConfusion h
  · unfold write8Memory
    revert hregion
    cases info.region with
    | ewram | iwram | palette | vram | oam => exact fun h => absurd rfl h
    | bios | io | gamePakRom | gamePakSave | unknown => exact fun _ => rfl

theorem write8_refused {bus : BusState σ} {address : U32} {value : U8}
    (h : (bus.write8 callbacks address value).1 = false) :
    Untouched bus (bus.write8 callbacks address value).2 := by
  revert h
  unfold write8
  dsimp only
  split
  · exact fun h => Bool.noConfusion h
  split
  · exact fun h => Bool.noConfusion h
  split
  · exact writeGamePakSaveByte_refused
  split
  · exact fun _ => .refl bus
  split
  · exact fun h => Bool.noConfusion h
  split
  · exact fun _ => .refl bus
  · exact fun h => Or.inl (write8Memory_refused h)

/-- A writable byte is always taken. -/
theorem write8_accepted (bus : BusState σ) {address : U32} (value : U8)
    (h : (classify address).writable = true) :
    (bus.write8 callbacks address value).1 = true := by
  have hregion := writable_region h
  unfold write8
  dsimp only
  split
  · rfl
  split
  · rfl
  split
  · next hsave =>
      rw [hsave] at hregion
      exact Bool.noConfusion hregion
  split
  · next hrom =>
      rw [hrom] at hregion
      exact Bool.noConfusion hregion
  split
  · rfl
  rw [h]
  exact write8Memory_accepted bus _ value hregion

/-- Byte stores after which another is made have all been accepted. -/
theorem writeBytes_accepted (bus : BusState σ) {address value : U32} {count : Nat}
    (h : ∀ index < count, ∀ bus : BusState σ, ∀ byte,
      (bus.write8 callbacks (address + BitVec.ofNat 32 index) byte).1 = true) :
    (writeBytes callbacks value address count (true, bus)).1 = true := by
  induction count with
  | zero => rfl
  | succ count ih =>
      have hbefore := ih fun index hindex => h index (Nat.lt_succ_of_lt hindex)
      unfold writeBytes andThen
      rw [if_pos hbefore]
      exact h count (Nat.lt_succ_self count) _ _

/-- When the first byte is refused no other is stored. -/
theorem writeBytes_refused {bus : BusState σ} {address value : U32} (count : Nat)
    (h : ∀ byte, bus.write8 callbacks address byte = (false, bus)) :
    writeBytes callbacks value address (count + 1) (true, bus) = (false, bus) := by
  induction count with
  | zero =>
      unfold writeBytes writeBytes andThen
      rw [if_pos rfl, BitVec.add_zero]
      exact h _
  | succ count ih =>
      unfold writeBytes andThen
      rw [ih]
      rfl

/-- An aligned unit is stored as a whole or not at all. -/
theorem writeUnit_refused {bus : BusState σ} {address value : U32} {count : Nat}
    (h : (bus.writeUnit callbacks address value count).1 = false) :
    (bus.writeUnit callbacks address value count).2 = bus := by
  revert h
  unfold writeUnit
  dsimp only
  split
  · exact fun _ => rfl
  next hwritable =>
    split
    · exact fun h => Bool.noConfusion h
    split
    · exact fun h => Bool.noConfusion h
    split
    · exact fun h => Bool.noConfusion h
    intro h
    rw [Bool.not_eq_true, Bool.not_eq_false', List.all_eq_true] at hwritable
    have haccepted := @writeBytes_accepted σ callbacks bus address value count fun index hindex bus byte =>
        write8_accepted callbacks bus byte (hwritable index (List.mem_range.mpr hindex))
    rw [haccepted] at h
    exact Bool.noConfusion h

/-- The page of the I/O registers holds nothing else. -/
theorem classify_ioPage {address : U32} (h : address.toNat / 2 ^ 24 = 4) :
    (classify address).region = .io ∨ (classify address).region = .unknown := by
  have htop : (address >>> 24).toNat = 4 := by
    rw [BitVec.toNat_ushiftRight, Nat.shiftRight_eq_div_pow]
    exact h
  unfold classify
  dsimp only
  rw [htop]
  show AddressInfo.region (if _ then _ else _) = _ ∨ AddressInfo.region (if _ then _ else _) = _
  split
  · exact Or.inl rfl
  · exact Or.inr rfl

/-- With a facade the page of the I/O registers takes every byte. -/
theorem write8_ioPage (bus : BusState σ) {address : U32} (value : U8)
    (h : address.toNat / 2 ^ 24 = 4) (hwrite : callbacks.write16.isSome = true) :
    (bus.write8 callbacks address value).1 = true := by
  obtain ⟨write16, hwrite⟩ := Option.isSome_iff_exists.mp hwrite
  unfold write8
  rw [hwrite]
  cases bus.memory.writeDebug8 address value with
  | some memory => rfl
  | none =>
      rcases classify_ioPage h with hio | hunknown
      · simp [hio]
      · simp [hunknown]

/-- Without a facade the I/O registers take no byte. -/
theorem write8_withoutFacade (bus : BusState σ) {address : U32} (value : U8)
    (h : (classify address).region = .io) (hwrite : callbacks.write16 = none) :
    bus.write8 callbacks address value = (false, bus) := by
  have hrange := (classify_io_iff address).mp h
  have hdebug : bus.memory.writeDebug8 address value = none := by
    unfold MemoryBus.writeDebug8 kMgbaDebugStringStart kNoCashGbaDebugChar
    rw [if_neg (by bv_omega), if_neg (by bv_omega)]
  unfold write8
  rw [hdebug, hwrite]
  simp [h, Arm7tdmi.classify_io_writable h]

/-- A refused word store to an I/O register changes nothing. -/
theorem write32_io_refused {bus : BusState σ} {address value : U32}
    (h : (classify address).region = .io)
    (hrefused : (bus.write32 callbacks address value).1 = false) :
    (bus.write32 callbacks address value).2 = bus := by
  have hrange := (classify_io_iff address).mp h
  revert hrefused
  unfold write32
  dsimp only
  rw [h, if_neg (by decide), if_neg (by decide)]
  split
  · exact fun hrefused => Bool.noConfusion hrefused
  split
  · exact fun hrefused => Bool.noConfusion hrefused
  split
  · cases hwrite : callbacks.write16 with
    | none =>
        rw [writeBytes_refused callbacks 3 fun byte => write8_withoutFacade callbacks bus byte h hwrite]
        exact fun _ => rfl
    | some write16 =>
        have haccepted := @writeBytes_accepted σ callbacks bus address value 4 fun index hindex bus byte =>
          write8_ioPage callbacks bus byte (by
            rw [BitVec.toNat_add, BitVec.toNat_ofNat]
            omega) (by rw [hwrite]; rfl)
        rw [haccepted]
        exact fun hrefused => Bool.noConfusion hrefused
  · rw [if_neg (by decide)]
    exact writeUnit_refused callbacks

/-- A refused halfword store changes nothing, if it is aligned or addresses a register or a save. -/
theorem write16_refused {bus : BusState σ} {address : U32} {value : U16}
    (haddress : address % 2 = 0 ∨ (classify address).region = .io ∨
      (classify address).region = .gamePakSave)
    (h : (bus.write16 callbacks address value).1 = false) :
    Untouched bus (bus.write16 callbacks address value).2 := by
  by_cases hio : (classify address).region = .io
  · rw [Arm7tdmi.write16_io callbacks bus hio] at h ⊢
    cases hwrite : callbacks.write16 with
    | none => exact .refl bus
    | some write16 =>
        rw [hwrite] at h
        exact Bool.noConfusion h
  revert h
  unfold write16
  dsimp only
  split
  · exact fun _ => .refl bus
  split
  · exact writeGamePakSaveByte_refused
  next hsave =>
    have heven : address % 2 = 0 := by
      rcases haddress with heven | hio' | hsave'
      · exact heven
      · exact absurd hio' hio
      · exact absurd hsave' hsave
    split
    · exact fun h => Bool.noConfusion h
    split
    · exact fun h => Bool.noConfusion h
    rw [if_neg (not_not.mpr heven)]
    split
    · exact fun h => Bool.noConfusion h
    · exact fun h => Or.inl (writeUnit_refused callbacks h)

/-- A refused word store changes nothing, if it is aligned or addresses a register or a save. -/
theorem write32_refused {bus : BusState σ} {address value : U32}
    (haddress : address % 4 = 0 ∨ (classify address).region = .io ∨
      (classify address).region = .gamePakSave)
    (h : (bus.write32 callbacks address value).1 = false) :
    Untouched bus (bus.write32 callbacks address value).2 := by
  by_cases hio : (classify address).region = .io
  · exact Or.inl (write32_io_refused callbacks hio h)
  revert h
  unfold write32
  dsimp only
  split
  · exact fun _ => .refl bus
  split
  · exact writeGamePakSaveByte_refused
  next hsave =>
    have haligned : address % 4 = 0 := by
      rcases haddress with haligned | hio' | hsave'
      · exact haligned
      · exact absurd hio' hio
      · exact absurd hsave' hsave
    split
    · exact fun h => Bool.noConfusion h
    split
    · exact fun h => Bool.noConfusion h
    rw [if_neg (not_not.mpr haligned)]
    split
    · exact fun h => Bool.noConfusion h
    · exact fun h => Or.inl (writeUnit_refused callbacks h)

end BusState

/-! ## Several stores -/

/-- A store of an instruction. -/
inductive BusStore where
  | byte (address : U32) (value : U8)
  | halfword (address : U32) (value : U16)
  | word (address value : U32)

namespace BusStore

/-- A store that is made as a whole or not at all. -/
def Whole : BusStore → Prop
  | .byte _ _ => True
  | .halfword address _ =>
      address % 2 = 0 ∨ (classify address).region = .io ∨ (classify address).region = .gamePakSave
  | .word address _ =>
      address % 4 = 0 ∨ (classify address).region = .io ∨ (classify address).region = .gamePakSave

variable {σ : Type} (callbacks : MemoryBusIoCallbacks σ)

/-- Make a store. -/
def perform (bus : BusState σ) : BusStore → Bool × BusState σ
  | .byte address value => bus.write8 callbacks address value
  | .halfword address value => bus.write16 callbacks address value
  | .word address value => bus.write32 callbacks address value

/-- Stores in order, until one is refused. -/
def performEach : List BusStore → BusState σ → Bool × BusState σ
  | [], bus => (true, bus)
  | store :: rest, bus => BusState.andThen (store.perform callbacks bus) (performEach rest)

/-- Of the stores of an instruction those before the first that the bus refuses have been made, and
of the refused one nothing, unless it is a word that the bus takes apart into bytes. -/
def Kept (stores : List BusStore) (before after : BusState σ) : Prop :=
  ∃ made refused rest middle, stores = made ++ refused :: rest ∧
    performEach callbacks made before = (true, middle) ∧
    refused.perform callbacks middle = (false, after) ∧
    (refused.Whole → BusState.Untouched middle after)

/-- The words of registers at consecutive addresses. -/
def words (value : Fin 16 → U32) : List (Fin 16) → U32 → List BusStore
  | [], _ => []
  | index :: rest, address => .word address (value index) :: words value rest (address + 4)

variable {callbacks}

theorem perform_refused {store : BusStore} {bus : BusState σ} (hwhole : store.Whole)
    (h : (store.perform callbacks bus).1 = false) :
    BusState.Untouched bus (store.perform callbacks bus).2 := by
  cases store with
  | byte address value => exact BusState.write8_refused callbacks h
  | halfword address value => exact BusState.write16_refused callbacks hwhole h
  | word address value => exact BusState.write32_refused callbacks hwhole h

theorem performEach_refused {stores : List BusStore} {bus : BusState σ}
    (h : (performEach callbacks stores bus).1 = false) :
    Kept callbacks stores bus (performEach callbacks stores bus).2 := by
  induction stores generalizing bus with
  | nil => exact Bool.noConfusion h
  | cons store rest ih =>
      unfold performEach BusState.andThen at h ⊢
      by_cases haccepted : (store.perform callbacks bus).1 = true
      · rw [if_pos haccepted] at h ⊢
        obtain ⟨made, refused, later, middle, hrest, hmade, hrefused, hwhole⟩ := ih h
        refine ⟨store :: made, refused, later, middle, ?_, ?_, hrefused, hwhole⟩
        · rw [hrest, List.cons_append]
        · unfold performEach BusState.andThen
          rw [if_pos haccepted]
          exact hmade
      · rw [if_neg haccepted] at h ⊢
        exact ⟨[], store, rest, bus, rfl, rfl, Prod.ext h rfl,
          fun hwhole => perform_refused hwhole h⟩

theorem kept_single {store : BusStore} {bus : BusState σ}
    (h : (store.perform callbacks bus).1 = false) :
    Kept callbacks [store] bus (store.perform callbacks bus).2 :=
  ⟨[], store, [], bus, rfl, rfl, Prod.ext h rfl, fun hwhole => perform_refused hwhole h⟩

/-- No store, or one that is made as a whole. -/
def AtMostOne (stores : List BusStore) : Prop :=
  stores.length ≤ 1 ∧ ∀ store ∈ stores, store.Whole

theorem atMostOne_nil : AtMostOne [] := ⟨Nat.zero_le 1, fun _ h => absurd h List.not_mem_nil⟩

theorem atMostOne_single {store : BusStore} (h : store.Whole) : AtMostOne [store] :=
  ⟨Nat.le_refl 1, fun _ hother => List.mem_singleton.mp hother ▸ h⟩

/-- An only store that is made as a whole is not made when it is refused. -/
theorem Kept.untouched {stores : List BusStore} {before after : BusState σ}
    (h : Kept callbacks stores before after) (hone : AtMostOne stores) :
    BusState.Untouched before after := by
  obtain ⟨made, refused, rest, middle, rfl, hmade, -, huntouched⟩ := h
  obtain ⟨hlength, hwhole⟩ := hone
  cases made with
  | nil =>
      obtain ⟨-, rfl⟩ := Prod.mk.inj hmade
      exact huntouched (hwhole refused (List.mem_cons_self ..))
  | cons store made =>
      rw [List.length_append, List.length_cons, List.length_cons] at hlength
      omega

theorem storeWords_eq (value : Fin 16 → U32) (registers : List (Fin 16)) (address : U32)
    (bus : BusState σ) :
    Arm7tdmi.storeWords callbacks value registers address bus =
      performEach callbacks (words value registers address) bus := by
  induction registers generalizing address bus with
  | nil => rfl
  | cons index rest ih =>
      unfold Arm7tdmi.storeWords words performEach
      simp only [ih]
      rfl

end BusStore

namespace Arm7tdmi

/-! ## The stores of an instruction -/

/-- What a block store writes of a register. -/
def blockStoreValue (cpu : Arm7tdmi) (forceUserBank : Bool) (index : Fin 16) : U32 :=
  let raw := if forceUserBank then cpu.userBankValue index else cpu.registers index
  if index = kPc then raw + 12 else raw

/-- The stores of a swap. -/
def swapStores (cpu : Arm7tdmi) (decoded : DecodedSwapInstruction) : List BusStore :=
  let address := cpu.registers decoded.rn
  if decoded.byte then [.byte address ((cpu.registers decoded.rm).setWidth 8)]
  else [.word address (cpu.registers decoded.rm)]

/-- The stores of a block transfer. -/
def blockStores (cpu : Arm7tdmi) (decoded : DecodedBlockDataTransferInstruction)
    (forceUserBank : Bool) : List BusStore :=
  if decoded.load then []
  else
    BusStore.words (cpu.blockStoreValue forceUserBank) (listedRegisters decoded.registerList 16)
      (blockTransferAddress (cpu.registers decoded.rn) (countRegisters decoded.registerList)
        decoded.preIndex decoded.up).first

/-- The address of a transfer before its write-back. -/
def transferAddress (cpu : Arm7tdmi) (rn : Fin 16) (offset : U32) (preIndex up : Bool) : U32 :=
  let base := cpu.armVisibleRegisterValue rn
  if preIndex then offsetTransferAddress base offset up else base

/-- The store of a halfword transfer. -/
def halfwordStores (cpu : Arm7tdmi) (decoded : DecodedHalfwordDataTransferInstruction) :
    List BusStore :=
  let address := cpu.transferAddress decoded.rn decoded.offset decoded.preIndex decoded.up
  if decoded.load then []
  else
    [.halfword (if (classify address).region = .gamePakSave then address
        else address &&& ~~~0x1#32)
      ((cpu.registers decoded.rd).setWidth 16)]

/-- The store of a word or byte transfer. -/
def singleStores (cpu : Arm7tdmi) (decoded : DecodedSingleDataTransferInstruction) :
    List BusStore :=
  let address := cpu.transferAddress decoded.rn decoded.offset decoded.preIndex decoded.up
  if decoded.load then []
  else if decoded.byte then [.byte address ((cpu.registers decoded.rd).setWidth 8)]
  else
    [.word (wordStoreAddress address)
      (if decoded.rd = kPc then cpu.registers kPc + 12 else cpu.registers decoded.rd)]

/-- The stores of an ARM instruction, in the order that it makes them. -/
def armStores (cpu : Arm7tdmi) (instruction : U32) : List BusStore :=
  if canDecodeSwap instruction then cpu.swapStores (decodeSwap instruction)
  else if canDecodeBlockDataTransfer instruction then
    cpu.blockStores (decodeBlockDataTransfer instruction) (instruction.getLsbD 22)
  else if canDecodeHalfwordDataTransfer instruction then
    cpu.halfwordStores (cpu.decodeHalfword instruction)
  else if canDecodeSingleDataTransfer instruction then
    cpu.singleStores (cpu.decodeSingle instruction)
  else []

/-- The stores of a Thumb transfer. -/
def thumbTransferStores (cpu : Arm7tdmi) (decoded : DecodedThumbMemoryTransferInstruction) :
    List BusStore :=
  let address := cpu.thumbTransferAddress decoded
  let value := cpu.registers decoded.rd
  let region := (classify address).region
  if decoded.load then []
  else
    match decoded.kind with
    | .word => [.word (wordStoreAddress address) value]
    | .byte => [.byte address (value.setWidth 8)]
    | .halfword =>
        [.halfword (if region = .gamePakSave ∨ region = .io then address
            else address &&& ~~~0x1#32)
          (value.setWidth 16)]
    | .signedByte | .signedHalfword => []

/-- The stores of a Thumb instruction, in the order that it makes them. -/
def thumbStores (cpu : Arm7tdmi) (instruction : U16) : List BusStore :=
  if canDecodeThumbBlockTransfer instruction then
    let decoded := decodeThumbBlockTransfer instruction
    if decoded.load then []
    else
      BusStore.words cpu.registers (listedRegisters (decoded.registerList.setWidth 16) 8)
        (cpu.registers decoded.rb)
  else if canDecodeThumbStackTransfer instruction then
    let decoded := decodeThumbStackTransfer instruction
    let low := listedRegisters (decoded.registerList.setWidth 16) 8
    let registerCount := low.length + if decoded.extraRegister then 1 else 0
    if decoded.load then []
    else
      BusStore.words cpu.registers (low ++ if decoded.extraRegister then [kLinkRegister] else [])
        (cpu.registers kStackPointer - BitVec.ofNat 32 registerCount * 4)
  else if canDecodeThumbMemoryTransfer instruction then
    cpu.thumbTransferStores (decodeThumbMemoryTransfer instruction)
  else []

/-! ## Refused executions -/

section Refusals

variable {σ : Type} (callbacks : MemoryBusIoCallbacks σ)

/-- If an execution was refused, the processor is as it was, and so is the bus except for the stores
that were made before the refusal. -/
def RefusedAfter (cpu : Arm7tdmi) (bus : BusState σ) (stores : List BusStore)
    (execution : MemoryExecution σ) : Prop :=
  execution.status = .unsupported →
    execution.cpu = cpu ∧
      (execution.bus = bus ∨ BusStore.Kept callbacks stores bus execution.bus)

variable {callbacks} {cpu : Arm7tdmi} {bus : BusState σ} {stores : List BusStore}

namespace RefusedAfter

/-- A refusal before anything is done. -/
theorem unchanged (status : ExecuteStatus) :
    RefusedAfter callbacks cpu bus stores ⟨status, cpu, bus⟩ :=
  fun _ => ⟨rfl, Or.inl rfl⟩

/-- An execution that is not refused. -/
theorem executed (next : Arm7tdmi) (after : BusState σ) :
    RefusedAfter callbacks cpu bus stores ⟨.executed, next, after⟩ :=
  fun h => ExecuteStatus.noConfusion h

theorem ite {c : Prop} [Decidable c] {first second : MemoryExecution σ}
    (hfirst : RefusedAfter callbacks cpu bus stores first)
    (hsecond : ¬c → RefusedAfter callbacks cpu bus stores second) :
    RefusedAfter callbacks cpu bus stores (if c then first else second) := by
  by_cases h : c
  · rw [if_pos h]
    exact hfirst
  · rw [if_neg h]
    exact hsecond h

theorem finishLoad (rd rn : Fin 16) (writeBack value : Option U32) :
    RefusedAfter callbacks cpu bus stores (cpu.finishLoad bus rd rn writeBack value) := by
  cases value with
  | none => exact unchanged _
  | some value => exact executed _ _

theorem finishStore (rn : Fin 16) (writeBack : Option U32) {stored : Bool × BusState σ}
    (h : stored.1 = false → BusStore.Kept callbacks stores bus stored.2) :
    RefusedAfter callbacks cpu bus stores (cpu.finishStore rn writeBack stored) := by
  unfold Arm7tdmi.finishStore
  by_cases haccepted : stored.1 = true
  · rw [if_pos haccepted]
    exact executed _ _
  · rw [if_neg haccepted]
    exact fun _ => ⟨rfl, Or.inr (h (Bool.not_eq_true _ ▸ haccepted))⟩

/-- A block load that has its words is refused before it changes a register. -/
theorem executeBlockLoad (hmode : cpu.mode ∈ CpuMode.named) (registerList : U16)
    (forceUserBank : Bool) (loaded : Fin 16 → U32)
    (h : (cpu.executeBlockLoad registerList forceUserBank loaded).status = .unsupported) :
    (cpu.executeBlockLoad registerList forceUserBank loaded).cpu = cpu := by
  revert h
  unfold Arm7tdmi.executeBlockLoad
  split
  · exact fun h => ExecuteStatus.noConfusion h
  split
  · cases cpu.spsr.bind cpu.setCpsr with
    | none => exact fun _ => rfl
    | some returned => exact fun h => ExecuteStatus.noConfusion h
  · rw [writeLoaded_current, loadPc_eq]
    case h => exact hmode
    exact fun h => ExecuteStatus.noConfusion h

theorem executeSwap (decoded : DecodedSwapInstruction) :
    RefusedAfter callbacks cpu bus (cpu.swapStores decoded)
      (cpu.executeSwap callbacks decoded bus) := by
  have hswap (oldValue : U32) {store : BusStore} (hstore : cpu.swapStores decoded = [store]) :
      RefusedAfter callbacks cpu bus (cpu.swapStores decoded)
        (if (store.perform callbacks bus).1 then
          ⟨.executed, cpu.setRegister decoded.rd oldValue, (store.perform callbacks bus).2⟩
        else ⟨.unsupported, cpu, (store.perform callbacks bus).2⟩) := by
    rw [hstore]
    refine .ite (executed _ _) fun hrefused _ => ⟨rfl, Or.inr ?_⟩
    exact BusStore.kept_single (Bool.not_eq_true _ ▸ hrefused)
  unfold Arm7tdmi.executeSwap
  refine .ite (unchanged _) fun _ => ?_
  by_cases hbyte : decoded.byte = true
  · rw [if_pos hbyte]
    cases bus.read8 callbacks (cpu.registers decoded.rn) with
    | none => exact unchanged _
    | some oldValue => exact hswap _ (if_pos hbyte)
  · rw [if_neg hbyte]
    cases bus.read32 callbacks (cpu.registers decoded.rn) with
    | none => exact unchanged _
    | some oldValue => exact hswap _ (if_neg hbyte)

theorem executeBlockTransfer (hmode : cpu.mode ∈ CpuMode.named)
    (decoded : DecodedBlockDataTransferInstruction) (forceUserBank : Bool) :
    RefusedAfter callbacks cpu bus (cpu.blockStores decoded forceUserBank)
      (cpu.executeBlockTransfer callbacks decoded forceUserBank bus) := by
  unfold Arm7tdmi.executeBlockTransfer
  refine .ite (unchanged _) fun _ => .ite (unchanged _) fun _ => .ite (unchanged _) fun _ => ?_
  unfold blockStores
  by_cases hload : decoded.load = true
  · rw [if_pos hload, if_pos hload]
    dsimp only
    split
    · exact unchanged _
    · next loaded _ =>
        split
        · exact executed _ _
        · exact fun h => ⟨executeBlockLoad hmode _ _ loaded h, Or.inl rfl⟩
  · rw [if_neg hload, if_neg hload]
    refine finishStore _ _ fun h => ?_
    rw [BusStore.storeWords_eq] at h ⊢
    exact BusStore.performEach_refused h

theorem executeHalfwordTransfer (decoded : DecodedHalfwordDataTransferInstruction) :
    RefusedAfter callbacks cpu bus (cpu.halfwordStores decoded)
      (cpu.executeHalfwordTransfer callbacks decoded bus) := by
  unfold Arm7tdmi.executeHalfwordTransfer
  refine .ite (unchanged _) fun _ => .ite (unchanged _) fun _ => ?_
  unfold halfwordStores
  by_cases hload : decoded.load = true
  · rw [if_pos hload, if_pos hload]
    exact finishLoad _ _ _ _
  · rw [if_neg hload, if_neg hload]
    exact .ite (unchanged _) fun _ => finishStore _ _ fun h => BusStore.kept_single h

theorem executeSingleTransfer (decoded : DecodedSingleDataTransferInstruction) :
    RefusedAfter callbacks cpu bus (cpu.singleStores decoded)
      (cpu.executeSingleTransfer callbacks decoded bus) := by
  unfold Arm7tdmi.executeSingleTransfer
  refine .ite (unchanged _) fun _ => .ite (unchanged _) fun _ => ?_
  unfold singleStores
  by_cases hload : decoded.load = true
  · rw [if_pos hload, if_pos hload]
    exact finishLoad _ _ _ _
  · rw [if_neg hload, if_neg hload]
    by_cases hbyte : decoded.byte = true
    · rw [if_pos hbyte, if_pos hbyte]
      exact finishStore _ _ fun h => BusStore.kept_single h
    · rw [if_neg hbyte, if_neg hbyte]
      exact finishStore _ _ fun h => BusStore.kept_single h

theorem onCondition (condition : Option ArmCondition) {execution : Execution}
    (h : RefusedAfter callbacks cpu bus stores (execution.withBus bus)) :
    RefusedAfter callbacks cpu bus stores ((cpu.onCondition condition execution).withBus bus) := by
  unfold Arm7tdmi.onCondition
  split
  · exact h
  · exact unchanged _

theorem orUnsupported (next : Option Arm7tdmi) :
    RefusedAfter callbacks cpu bus stores ((cpu.orUnsupported next).withBus bus) := by
  cases next with
  | none => exact unchanged _
  | some next => exact executed _ _

theorem executePsrTransfer (decoded : DecodedPsrTransferInstruction) :
    RefusedAfter callbacks cpu bus stores ((cpu.executePsrTransfer decoded).withBus bus) := by
  unfold Arm7tdmi.executePsrTransfer
  dsimp only
  split
  · cases decoded.psr with
    | spsr => exact orUnsupported _
    | cpsr => exact executed _ _
  split
  · exact unchanged _
  · cases decoded.psr with
    | spsr => exact orUnsupported _
    | cpsr => exact orUnsupported _

/-- A choice between executions without memory. -/
theorem choose {c : Prop} [Decidable c] {first second : Execution}
    (hfirst : RefusedAfter callbacks cpu bus stores (first.withBus bus))
    (hsecond : RefusedAfter callbacks cpu bus stores (second.withBus bus)) :
    RefusedAfter callbacks cpu bus stores ((if c then first else second).withBus bus) := by
  split
  · exact hfirst
  · exact hsecond

/-- An instruction without memory is refused before it does anything. -/
theorem executeArm (instruction : U32) :
    RefusedAfter callbacks cpu bus stores ((executeArm instruction cpu).withBus bus) := by
  unfold Arm7tdmi.executeArm
  refine choose (unchanged _) ?_
  refine choose (onCondition _ (executed _ _)) ?_
  refine choose (onCondition _ (executed _ _)) ?_
  refine choose (onCondition _ (executePsrTransfer _)) ?_
  refine choose (onCondition _ (executed _ _)) ?_
  refine choose (onCondition _ (executed _ _)) ?_
  refine choose (onCondition _ (executed _ _)) ?_
  refine choose (onCondition _ (executed _ _)) ?_
  refine choose (onCondition _ (executed _ _)) ?_
  refine choose ?_ (unchanged _)
  exact choose (onCondition _ (executed _ _)) (onCondition _ (executed _ _))

theorem executeArmMemory (hmode : cpu.mode ∈ CpuMode.named) (instruction : U32) :
    RefusedAfter callbacks cpu bus (cpu.armStores instruction)
      (executeArmMemory callbacks instruction cpu bus) := by
  unfold Arm7tdmi.executeArmMemory
  refine .ite (unchanged _) fun _ => ?_
  refine .ite (onCondition _ (executed _ _)) fun _ => ?_
  refine .ite (onCondition _ (executed _ _)) fun _ => ?_
  unfold armStores
  by_cases hswap : canDecodeSwap instruction = true
  · rw [if_pos hswap, if_pos hswap]
    exact executeSwap _
  rw [if_neg hswap, if_neg hswap]
  by_cases hblock : canDecodeBlockDataTransfer instruction = true
  · rw [if_pos hblock, if_pos hblock]
    exact .ite (unchanged _) fun _ => executeBlockTransfer hmode _ _
  rw [if_neg hblock, if_neg hblock]
  by_cases hhalfword : canDecodeHalfwordDataTransfer instruction = true
  · rw [if_pos hhalfword, if_pos hhalfword]
    exact .ite (unchanged _) fun _ => executeHalfwordTransfer _
  rw [if_neg hhalfword, if_neg hhalfword]
  by_cases hsingle : canDecodeSingleDataTransfer instruction = true
  · rw [if_pos hsingle, if_pos hsingle]
    exact .ite (unchanged _) fun _ => executeSingleTransfer _
  rw [if_neg hsingle, if_neg hsingle]
  exact executeArm _

theorem executeThumbShift (decoded : DecodedThumbShiftInstruction) :
    RefusedAfter callbacks cpu bus stores ((cpu.executeThumbShift decoded).withBus bus) := by
  unfold Arm7tdmi.executeThumbShift
  cases decoded.type with
  | lsl => exact choose (executed _ _) (executed _ _)
  | lsr => exact executed _ _
  | asr => exact executed _ _
  | ror => exact unchanged _

theorem executeThumbBranch (decoded : DecodedThumbBranchInstruction) :
    RefusedAfter callbacks cpu bus stores ((cpu.executeThumbBranch decoded).withBus bus) :=
  choose (unchanged _) (executed _ _)

theorem executeThumb (instruction : U16) :
    RefusedAfter callbacks cpu bus stores ((executeThumb instruction cpu).withBus bus) := by
  unfold Arm7tdmi.executeThumb
  refine choose (executed _ _) ?_
  refine choose (executed _ _) ?_
  refine choose (executeThumbBranch _) ?_
  refine choose (executeThumbBranch _) ?_
  refine choose (executed _ _) ?_
  refine choose (executeThumbShift _) ?_
  refine choose (executed _ _) ?_
  refine choose (executed _ _) ?_
  refine choose (executed _ _) ?_
  refine choose (executed _ _) ?_
  exact choose (executed _ _) (unchanged _)

theorem executeThumbMemoryTransfer (decoded : DecodedThumbMemoryTransferInstruction) :
    RefusedAfter callbacks cpu bus (cpu.thumbTransferStores decoded)
      (cpu.executeThumbMemoryTransfer callbacks decoded bus) := by
  unfold Arm7tdmi.executeThumbMemoryTransfer thumbTransferStores
  dsimp only
  by_cases hload : decoded.load = true
  · rw [if_pos hload, if_pos hload]
    exact finishLoad _ _ _ _
  rw [if_neg hload, if_neg hload]
  cases decoded.kind with
  | word => exact finishStore _ _ fun h => BusStore.kept_single h
  | byte => exact finishStore _ _ fun h => BusStore.kept_single h
  | halfword => exact finishStore _ _ fun h => BusStore.kept_single h
  | signedByte => exact unchanged _
  | signedHalfword => exact unchanged _

/-- A store of a Thumb block or stack transfer. -/
theorem finishStoreWords (rn : Fin 16) (writeBack : Option U32) (value : Fin 16 → U32)
    (registers : List (Fin 16)) (first : U32) :
    RefusedAfter callbacks cpu bus (BusStore.words value registers first)
      (cpu.finishStore rn writeBack (storeWords callbacks value registers first bus)) := by
  refine finishStore _ _ fun h => ?_
  rw [BusStore.storeWords_eq] at h ⊢
  exact BusStore.performEach_refused h

theorem executeThumbMemory (hmode : cpu.mode ∈ CpuMode.named) (instruction : U16) :
    RefusedAfter callbacks cpu bus (cpu.thumbStores instruction)
      (executeThumbMemory callbacks instruction cpu bus) := by
  unfold Arm7tdmi.executeThumbMemory thumbStores
  by_cases hblock : canDecodeThumbBlockTransfer instruction = true
  · rw [if_pos hblock, if_pos hblock]
    refine .ite (unchanged _) fun _ => ?_
    dsimp only
    by_cases hload : (decodeThumbBlockTransfer instruction).load = true
    · rw [if_pos hload, if_pos hload]
      split
      · exact unchanged _
      · exact executed _ _
    · rw [if_neg hload, if_neg hload]
      exact finishStoreWords _ _ _ _ _
  rw [if_neg hblock, if_neg hblock]
  by_cases hstack : canDecodeThumbStackTransfer instruction = true
  · rw [if_pos hstack, if_pos hstack]
    refine .ite (unchanged _) fun _ => ?_
    dsimp only
    by_cases hload : (decodeThumbStackTransfer instruction).load = true
    · rw [if_pos hload, if_neg (by rw [hload]; decide)]
      split
      · exact unchanged _
      · next loaded _ =>
          cases (decodeThumbStackTransfer instruction).extraRegister with
          | false => exact executed _ _
          | true =>
              -- the words are there, and the mode is a mode
              rw [writeRegisters_eq]
              unfold finishPop
              dsimp only
              rw [if_pos rfl]
              dsimp only
              rw [loadPc_eq]
              case h => exact hmode
              exact executed _ _
    · have hstore : (!(decodeThumbStackTransfer instruction).load) = true := by simpa using hload
      rw [if_neg hload, if_pos hstore]
      exact finishStoreWords _ _ _ _ _
  rw [if_neg hstack, if_neg hstack]
  by_cases htransfer : canDecodeThumbMemoryTransfer instruction = true
  · rw [if_pos htransfer, if_pos htransfer]
    exact executeThumbMemoryTransfer _
  rw [if_neg htransfer, if_neg htransfer]
  exact executeThumb _

end RefusedAfter

end Refusals

/-! ## Single transfers -/

theorem clearLowest_even (address : U32) : (address &&& ~~~0x1#32) % 2 = 0 := by
  have hnat : (address &&& ~~~0x1#32).toNat = address.toNat / 2 * 2 :=
    @clearLow_toNat address 1 (by decide)
  apply BitVec.eq_of_toNat_eq
  rw [BitVec.toNat_umod, hnat]
  exact Nat.mul_mod_left _ 2

theorem wordStoreAddress_whole (address value : U32) :
    BusStore.Whole (.word (wordStoreAddress address) value) := by
  unfold wordStoreAddress
  dsimp only
  split
  · next hregion => exact Or.inr hregion.symm
  · left
    have hnat : (address &&& ~~~0x3#32).toNat = address.toNat / 4 * 4 :=
      @clearLow_toNat address 2 (by decide)
    apply BitVec.eq_of_toNat_eq
    rw [BitVec.toNat_umod, hnat]
    exact Nat.mul_mod_left _ 4

/-- The stores of single transfers are made as a whole. -/
theorem armStores_whole {cpu : Arm7tdmi} {instruction : U32}
    (hswap : canDecodeSwap instruction = false)
    (hblock : canDecodeBlockDataTransfer instruction = false) :
    BusStore.AtMostOne (cpu.armStores instruction) := by
  unfold armStores
  rw [if_neg (by rw [hswap]; decide), if_neg (by rw [hblock]; decide)]
  split
  · unfold halfwordStores
    dsimp only
    split
    · exact BusStore.atMostOne_nil
    · refine BusStore.atMostOne_single ?_
      split
      · next hsave => exact Or.inr (Or.inr hsave)
      · exact Or.inl (clearLowest_even _)
  split
  · unfold singleStores
    dsimp only
    split
    · exact BusStore.atMostOne_nil
    split
    · exact BusStore.atMostOne_single trivial
    · exact BusStore.atMostOne_single (wordStoreAddress_whole _ _)
  · exact BusStore.atMostOne_nil

theorem thumbStores_whole {cpu : Arm7tdmi} {instruction : U16}
    (hblock : canDecodeThumbBlockTransfer instruction = false)
    (hstack : canDecodeThumbStackTransfer instruction = false) :
    BusStore.AtMostOne (cpu.thumbStores instruction) := by
  unfold thumbStores
  rw [if_neg (by rw [hblock]; decide), if_neg (by rw [hstack]; decide)]
  split
  · unfold thumbTransferStores
    dsimp only
    split
    · exact BusStore.atMostOne_nil
    cases (decodeThumbMemoryTransfer instruction).kind with
    | word => exact BusStore.atMostOne_single (wordStoreAddress_whole _ _)
    | byte => exact BusStore.atMostOne_single trivial
    | halfword =>
        refine BusStore.atMostOne_single ?_
        split
        · next hregion => exact Or.inr hregion.symm
        · exact Or.inl (clearLowest_even _)
    | signedByte => exact BusStore.atMostOne_nil
    | signedHalfword => exact BusStore.atMostOne_nil
  · exact BusStore.atMostOne_nil

end Arm7tdmi

end Gba.Core
