import Gba.Core.DmaRuns
import Gba.Core.StoreLoads
import Mathlib.Tactic.IntervalCases

/-!
# What a transfer copies

A general transfer between ranges of the internal memories that do not meet. The loop is followed
unit by unit (`Transferred`): the units moved so far are where they belong, every other byte is as
it was, and of the registers only the data latch has changed. `executeChannel_copies` adds what the
channel is programmed with before the transfer and what is left of it afterwards.
-/

namespace Gba.Core

open LittleEndian

/-! ## Units -/

/-- The bytes of a unit. -/
def unitBytes (wordTransfer : Bool) : Nat := if wordTransfer then 4 else 2

/-- The unit that an address lies in. -/
def alignUnit (wordTransfer : Bool) (address : U32) : U32 :=
  address &&& ~~~(BitVec.ofNat 32 (unitBytes wordTransfer) - 1)

section Units

variable {wordTransfer : Bool}

theorem unitBytes_cases (wordTransfer : Bool) :
    unitBytes wordTransfer = 2 ∨ unitBytes wordTransfer = 4 := by
  cases wordTransfer with
  | false => exact .inl rfl
  | true => exact .inr rfl

theorem alignUnit_toNat (wordTransfer : Bool) (address : U32) :
    (alignUnit wordTransfer address).toNat =
      address.toNat / unitBytes wordTransfer * unitBytes wordTransfer := by
  cases wordTransfer with
  | false => exact @clearLow_toNat address 1 (by decide)
  | true => exact @clearLow_toNat address 2 (by decide)

theorem alignUnit_aligned (wordTransfer : Bool) (address : U32) :
    (alignUnit wordTransfer address).toNat % unitBytes wordTransfer = 0 := by
  rw [alignUnit_toNat]
  exact Nat.mul_mod_left _ _

/-- The bytes of a unit are in one word. -/
theorem unit_lane {address : U32} (halign : address.toNat % unitBytes wordTransfer = 0) {lane : Nat}
    (hlane : lane < unitBytes wordTransfer) : address.toNat % 4 + lane < 4 := by
  rcases unitBytes_cases wordTransfer with hbytes | hbytes
  · rw [hbytes] at halign hlane
    omega
  · rw [hbytes] at halign hlane
    omega

/-- Two units with a byte in common are one, and the byte has the same place in both. -/
theorem sameCell_unit {a b : U32} (ha : Internal a) (hb : Internal b)
    (haligned : a.toNat % unitBytes wordTransfer = 0)
    (hbligned : b.toNat % unitBytes wordTransfer = 0) {lane other : Nat}
    (hlane : lane < unitBytes wordTransfer) (hother : other < unitBytes wordTransfer)
    (h : SameCell (a + BitVec.ofNat 32 lane) (b + BitVec.ofNat 32 other)) :
    SameCell a b ∧ lane = other := by
  have halane := unit_lane haligned hlane
  have hblane := unit_lane hbligned hother
  have hmod := (mirrors_iff.mpr ⟨ha.lane halane, h⟩).mod_four
  rw [toNat_add_lane halane, toNat_add_lane hblane] at hmod
  have hplace : lane = other := by
    rcases unitBytes_cases wordTransfer with hbytes | hbytes
    · rw [hbytes] at haligned hbligned hlane hother
      omega
    · rw [hbytes] at haligned hbligned hlane hother
      omega
  subst hplace
  obtain ⟨hregion, hoffset⟩ := h
  obtain ⟨haRegion, haOffset⟩ := ha.classify_lane halane
  obtain ⟨hbRegion, hbOffset⟩ := hb.classify_lane hblane
  rw [haRegion, hbRegion] at hregion
  rw [haOffset, hbOffset] at hoffset
  exact ⟨⟨hregion, (BitVec.add_left_inj _).mp hoffset⟩, rfl⟩

theorem byte_duplicateHalfword (value : U16) {lane : Nat} (h : lane < 2) :
    byte (duplicateHalfword value) lane = byte value lane := by
  have hlow : (duplicateHalfword value).setWidth 16 = value := by
    unfold duplicateHalfword
    ext bit hbit
    interval_cases bit <;> simp
  rw [← byte_setWidth (duplicateHalfword value) (show lane * 8 + 8 ≤ 16 by omega), hlow]

theorem writeCells_congr {w w' : Nat} (memory : MemoryBus) (value : BitVec w) (other : BitVec w')
    (address : U32) {count : Nat} (h : ∀ lane < count, byte value lane = byte other lane) :
    memory.writeCells value address count = memory.writeCells other address count := by
  induction count with
  | zero => rfl
  | succ count ih =>
    unfold MemoryBus.writeCells
    rw [ih fun lane hlane => h lane (Nat.lt_succ_of_lt hlane), h count (Nat.lt_succ_self count)]

/-- The value that a unit of an internal memory moves. -/
theorem transferRead_cells (system : System) (channel : Fin 4) {source : U32}
    (hsource : Internal source) (halign : source.toNat % unitBytes wordTransfer = 0) :
    ∃ value latch, transferRead system channel wordTransfer source = (value, latch) ∧
      ∀ lane < unitBytes wordTransfer,
        byte value lane = system.memory.cell (source + BitVec.ofNat 32 lane) := by
  have hlatch : dmaSourceUsesLatch source = false := by
    have hinternal : (classify source).region.internal = true := hsource
    unfold dmaSourceUsesLatch
    revert hinternal
    cases (classify source).region <;> intro hinternal <;> first | rfl | contradiction
  unfold transferRead
  rw [hlatch]
  cases wordTransfer with
  | true =>
    have hword : source.toNat % 4 = 0 := halign
    rw [if_pos rfl, if_neg Bool.false_ne_true, BusState.read32_cells ioCallbacks system hsource,
      alignWord_of_aligned hword, laneShift_eq, hword]
    refine ⟨_, _, rfl, fun lane hlane => ?_⟩
    show byte (rotateRight (word 32 (system.memory.cells source 4)) 0) lane = _
    rw [rotateRight_zero]
    exact byte_word_range _ hlane (by omega)
  | false =>
    rw [if_neg Bool.false_ne_true, if_neg Bool.false_ne_true,
      BusState.read16_cells ioCallbacks system hsource halign]
    refine ⟨_, _, rfl, fun lane hlane => ?_⟩
    rw [byte_duplicateHalfword _ hlane]
    exact byte_word_range _ hlane (by omega)

/-- The store of a unit to an internal memory. -/
theorem transferWrite_cells (system : System) {destination : U32}
    (hdestination : Internal destination)
    (halign : destination.toNat % unitBytes wordTransfer = 0) (value : U32) :
    transferWrite system wordTransfer destination value =
      system.withMemory
        (system.memory.writeCells value destination (unitBytes wordTransfer)) := by
  unfold transferWrite
  cases wordTransfer with
  | true =>
    rw [if_pos rfl, BusState.write32_cells system hdestination halign]
    rfl
  | false =>
    rw [if_neg Bool.false_ne_true, BusState.write16_cells system hdestination halign]
    refine congrArg system.withMemory (writeCells_congr _ _ _ _ fun lane hlane => ?_)
    have hhalf : lane < 2 := hlane
    rw [byte_setWidth _ (by omega), byte_setWidth _ (by omega)]

end Units

/-! ## The units of a transfer -/

/-- An address after some units. -/
def addressAfter (address : U32) (control : DmaAddressControl) (bytes units : Nat) : U32 :=
  match control with
  | .increment | .incrementReload => address + BitVec.ofNat 32 (units * bytes)
  | .decrement => address - BitVec.ofNat 32 (units * bytes)
  | .fixed => address

theorem addressAfter_zero (address : U32) (control : DmaAddressControl) (bytes : Nat) :
    addressAfter address control bytes 0 = address := by
  unfold addressAfter
  cases control with
  | fixed => rfl
  | _ => simp

theorem stepAddress_after (address : U32) (control : DmaAddressControl) (bytes units : Nat) :
    stepAddress (addressAfter address control bytes units) control (BitVec.ofNat 32 bytes) =
      addressAfter address control bytes (units + 1) := by
  unfold stepAddress addressAfter
  cases control with
  | increment | incrementReload =>
    dsimp only
    rw [Nat.succ_mul, BitVec.ofNat_add, BitVec.add_assoc]
  | decrement =>
    dsimp only
    rw [Nat.succ_mul, BitVec.ofNat_add, BitVec.sub_sub]
  | fixed => rfl

namespace DmaChannelState

/-- The internal source address after some units. -/
def sourceAfter (state : DmaChannelState) (units : Nat) : U32 :=
  addressAfter state.currentSource state.sourceControl (unitBytes state.transfer32bit) units

/-- The internal destination address after some units. -/
def destinationAfter (state : DmaChannelState) (units : Nat) : U32 :=
  addressAfter state.currentDestination state.destinationControl (unitBytes state.transfer32bit)
    units

/-- The address that a unit is read from. -/
def sourceUnit (state : DmaChannelState) (channel : Fin 4) (unit : Nat) : U32 :=
  alignUnit state.transfer32bit (effectiveSourceAddress channel (state.sourceAfter unit))

/-- The address that a unit is written to. -/
def destinationUnit (state : DmaChannelState) (channel : Fin 4) (unit : Nat) : U32 :=
  alignUnit state.transfer32bit (effectiveDestinationAddress channel (state.destinationAfter unit))

theorem sourceUnit_aligned (state : DmaChannelState) (channel : Fin 4) (unit : Nat) :
    (state.sourceUnit channel unit).toNat % unitBytes state.transfer32bit = 0 :=
  alignUnit_aligned _ _

theorem destinationUnit_aligned (state : DmaChannelState) (channel : Fin 4) (unit : Nat) :
    (state.destinationUnit channel unit).toNat % unitBytes state.transfer32bit = 0 :=
  alignUnit_aligned _ _

end DmaChannelState

/-- The ranges of a transfer: both are in the internal memories, the destination does not come back
to a unit unless it is fixed, and no unit of the source is one of the destination. -/
structure Apart (state : DmaChannelState) (channel : Fin 4) (units : Nat) : Prop where
  source : ∀ unit < units, Internal (state.sourceUnit channel unit)
  destination : ∀ unit < units, Internal (state.destinationUnit channel unit)
  distinct : state.destinationControl ≠ .fixed → ∀ first second, first < second → second < units →
    ¬SameCell (state.destinationUnit channel first) (state.destinationUnit channel second)
  apart : ∀ read < units, ∀ written < units,
    ¬SameCell (state.sourceUnit channel read) (state.destinationUnit channel written)

/-! ### Ranges inside one region -/

/-- An address in the part of a region that its memory fills once. -/
structure InExtent (region : Region) (address : U32) : Prop where
  internal : region.internal = true
  page : address.toNat / 2 ^ 24 = region.page
  inside : address.toNat % 2 ^ 24 < regionSize region

instance inExtent_decidable (region : Region) (address : U32) :
    Decidable (InExtent region address) :=
  decidable_of_iff
    (region.internal = true ∧ address.toNat / 2 ^ 24 = region.page ∧
      address.toNat % 2 ^ 24 < regionSize region)
    ⟨fun h => ⟨h.1, h.2.1, h.2.2⟩, fun h => ⟨h.internal, h.page, h.inside⟩⟩

theorem InExtent.fold_eq {region : Region} {address : U32} (h : InExtent region address) :
    region.fold address.toNat = address.toNat % 2 ^ 24 := by
  obtain ⟨hinternal, -, hinside⟩ := h
  cases region with
  | ewram =>
    have hlt : address.toNat % 2 ^ 24 < 2 ^ 18 := hinside
    show address.toNat % 2 ^ 18 = _
    omega
  | iwram =>
    have hlt : address.toNat % 2 ^ 24 < 2 ^ 15 := hinside
    show address.toNat % 2 ^ 15 = _
    omega
  | palette | oam =>
    have hlt : address.toNat % 2 ^ 24 < 2 ^ 10 := hinside
    show address.toNat % 2 ^ 10 = _
    omega
  | vram =>
    have hlt : address.toNat % 2 ^ 24 < 0x18000 := hinside
    have hbank : address.toNat % 2 ^ 17 = address.toNat % 2 ^ 24 := by omega
    show (if 0x18000 ≤ address.toNat % 2 ^ 17 then _ else address.toNat % 2 ^ 17) = _
    rw [hbank, if_neg (by omega)]
  | _ => contradiction

/-- There are no mirrors among these addresses. -/
theorem InExtent.eq_of_sameCell {region other : Region} {a b : U32} (ha : InExtent region a)
    (hb : InExtent other b) (h : SameCell a b) : a = b := by
  obtain ⟨haRegion, -, haOffset⟩ := classify_internal ha.internal ha.page
  obtain ⟨hbRegion, -, hbOffset⟩ := classify_internal hb.internal hb.page
  obtain ⟨hregion, hoffset⟩ := h
  have hsame : region = other := haRegion.symm.trans (hregion.trans hbRegion)
  subst hsame
  have hplace : a.toNat % 2 ^ 24 = b.toNat % 2 ^ 24 := by
    rw [← ha.fold_eq, ← hb.fold_eq, ← haOffset, ← hbOffset, hoffset]
  have hpage := ha.page.trans hb.page.symm
  refine BitVec.eq_of_toNat_eq ?_
  omega

/-- Units of a range that steps are at different addresses. -/
theorem destinationUnit_ne (state : DmaChannelState) (channel : Fin 4)
    (hsteps : state.destinationControl ≠ .fixed) {first second : Nat} (hlt : first < second)
    (hsecond : second < 2 ^ 16) :
    state.destinationUnit channel first ≠ state.destinationUnit channel second := by
  intro heq
  have hnat := congrArg BitVec.toNat heq
  have hmask : ∀ address : U32, (effectiveDestinationAddress channel address).toNat =
      address.toNat % (if channel = 3 then 2 ^ 28 else 2 ^ 27) := by
    intro address
    unfold effectiveDestinationAddress
    rw [BitVec.toNat_and]
    split
    · exact Nat.and_two_pow_sub_one_eq_mod _ 28
    · exact Nat.and_two_pow_sub_one_eq_mod _ 27
  unfold DmaChannelState.destinationUnit at hnat
  rw [alignUnit_toNat, alignUnit_toNat, hmask, hmask] at hnat
  unfold DmaChannelState.destinationAfter addressAfter at hnat
  revert hsteps hnat
  generalize state.currentDestination = address
  have haddress := address.isLt
  rcases unitBytes_cases state.transfer32bit with hbytes | hbytes
  · rw [hbytes]
    cases state.destinationControl with
    | increment | incrementReload =>
      intro _ hnat
      rw [BitVec.toNat_add, BitVec.toNat_add, BitVec.toNat_ofNat, BitVec.toNat_ofNat] at hnat
      split at hnat <;> omega
    | decrement =>
      intro _ hnat
      rw [BitVec.toNat_sub, BitVec.toNat_sub, BitVec.toNat_ofNat, BitVec.toNat_ofNat] at hnat
      split at hnat <;> omega
    | fixed =>
      intro hsteps
      contradiction
  · rw [hbytes]
    cases state.destinationControl with
    | increment | incrementReload =>
      intro _ hnat
      rw [BitVec.toNat_add, BitVec.toNat_add, BitVec.toNat_ofNat, BitVec.toNat_ofNat] at hnat
      split at hnat <;> omega
    | decrement =>
      intro _ hnat
      rw [BitVec.toNat_sub, BitVec.toNat_sub, BitVec.toNat_ofNat, BitVec.toNat_ofNat] at hnat
      split at hnat <;> omega
    | fixed =>
      intro hsteps
      contradiction

/-- Two ranges that lie in one region each and have no address in common. -/
theorem apart_of_extents {state : DmaChannelState} {channel : Fin 4} {units : Nat}
    (hunits : units ≤ 2 ^ 16) {region other : Region}
    (hsource : ∀ unit < units, InExtent region (state.sourceUnit channel unit))
    (hdestination : ∀ unit < units, InExtent other (state.destinationUnit channel unit))
    (hdisjoint : ∀ read < units, ∀ written < units,
      state.sourceUnit channel read ≠ state.destinationUnit channel written) :
    Apart state channel units := by
  have hinternal : ∀ {region address}, InExtent region address → Internal address := by
    intro region address h
    unfold Internal
    rw [(classify_internal h.internal h.page).1]
    exact h.internal
  refine ⟨fun unit hunit => hinternal (hsource unit hunit),
    fun unit hunit => hinternal (hdestination unit hunit), ?_, ?_⟩
  · intro hsteps first second hlt hsecond hsame
    have heq := (hdestination first (by omega)).eq_of_sameCell (hdestination second hsecond) hsame
    exact destinationUnit_ne state channel hsteps hlt (by omega) heq
  · intro read hread written hwritten hsame
    exact hdisjoint read hread written hwritten
      ((hsource read hread).eq_of_sameCell (hdestination written hwritten) hsame)

/-! ## The memory -/

/-- The memories agree outside the internal ones and the value last seen on the bus. -/
def MemoryBus.SameOffBus (before after : MemoryBus) : Prop :=
  { after with
    ewram := before.ewram
    iwram := before.iwram
    palette := before.palette
    vram := before.vram
    oam := before.oam
    openBusLatch := before.openBusLatch
    openBusLatchValid := before.openBusLatchValid } = before

theorem MemoryBus.SameOffBus.trans {first second third : MemoryBus} (h : first.SameOffBus second)
    (h' : second.SameOffBus third) : first.SameOffBus third := by
  unfold MemoryBus.SameOffBus at h h' ⊢
  conv_rhs => rw [← h, ← h']

theorem MemoryBus.SameOutside.offBus {before after : MemoryBus} (h : before.SameOutside after) :
    before.SameOffBus after := by
  have hlatch := congrArg (fun memory : MemoryBus =>
    { memory with
      openBusLatch := before.openBusLatch
      openBusLatchValid := before.openBusLatchValid }) h
  exact hlatch

/-- The memory after some units of a transfer. -/
structure Copied (state : DmaChannelState) (channel : Fin 4) (before : MemoryBus) (units : Nat)
    (after : MemoryBus) : Prop where
  /-- A unit that no later one covers is where it belongs. -/
  moved : ∀ unit < units,
    (∀ later, unit < later → later < units →
      ¬SameCell (state.destinationUnit channel unit) (state.destinationUnit channel later)) →
    ∀ lane < unitBytes state.transfer32bit,
      after.cell (state.destinationUnit channel unit + BitVec.ofNat 32 lane) =
        before.cell (state.sourceUnit channel unit + BitVec.ofNat 32 lane)
  others : ∀ other,
    (∀ unit < units, ∀ lane < unitBytes state.transfer32bit,
      ¬SameCell other (state.destinationUnit channel unit + BitVec.ofNat 32 lane)) →
    after.cell other = before.cell other
  outside : before.SameOffBus after

/-- One more unit: what is stored is read before the store, from bytes that no unit has reached. -/
theorem Copied.step {state : DmaChannelState} {channel : Fin 4} {before after driven : MemoryBus}
    {units total : Nat} (h : Copied state channel before units after)
    (hapart : Apart state channel total) (hunits : units < total) {value : U32}
    (hvalue : ∀ lane < unitBytes state.transfer32bit,
      byte value lane = after.cell (state.sourceUnit channel units + BitVec.ofNat 32 lane))
    (hdriven : ∀ address, driven.cell address = after.cell address)
    (hoff : after.SameOffBus driven) :
    Copied state channel before (units + 1)
      (driven.writeCells value (state.destinationUnit channel units)
        (unitBytes state.transfer32bit)) := by
  have hdestination := hapart.destination units hunits
  have halign := state.destinationUnit_aligned channel units
  have hlanes : ∀ lane < unitBytes state.transfer32bit,
      Internal (state.destinationUnit channel units + BitVec.ofNat 32 lane) :=
    fun lane hlane => hdestination.lane (unit_lane halign hlane)
  refine ⟨?_, ?_, ?_⟩
  · intro unit hunit hlast lane hlane
    by_cases heq : unit = units
    · subst heq
      have hfits : (state.destinationUnit channel unit).toNat % 4 +
          unitBytes state.transfer32bit ≤ 4 := by
        rcases unitBytes_cases state.transfer32bit with hbytes | hbytes
        · rw [hbytes] at halign ⊢
          omega
        · rw [hbytes] at halign ⊢
          omega
      rw [driven.cell_writeCells value hdestination hfits hlane ⟨rfl, rfl⟩, hvalue lane hlane]
      refine h.others _ fun written hwritten other hother hsame => ?_
      have hmeet := sameCell_unit (hapart.source unit hunits)
        (hapart.destination written (by omega)) (state.sourceUnit_aligned channel unit)
        (state.destinationUnit_aligned channel written) hlane hother hsame
      exact hapart.apart unit hunits written (by omega) hmeet.1
    · have hlt : unit < units := by omega
      have hapartBytes : ∀ other < unitBytes state.transfer32bit,
          ¬SameCell (state.destinationUnit channel unit + BitVec.ofNat 32 lane)
            (state.destinationUnit channel units + BitVec.ofNat 32 other) := by
        intro other hother hsame
        have hmeet := sameCell_unit (hapart.destination unit (by omega)) hdestination
          (state.destinationUnit_aligned channel unit) halign hlane hother hsame
        exact hlast units hlt (Nat.lt_succ_self units) hmeet.1
      rw [driven.cell_writeCells_of_ne value hlanes hapartBytes, hdriven]
      exact h.moved unit hlt (fun later hbelow habove => hlast later hbelow (by omega)) lane hlane
  · intro other hother
    rw [driven.cell_writeCells_of_ne value hlanes (hother units (Nat.lt_succ_self units)), hdriven]
    exact h.others other fun unit hunit => hother unit (by omega)
  · exact h.outside.trans (hoff.trans (driven.writeCells_sameOutside value _ _).offBus)

/-! ## The loop -/

/-- The system with another value in the data latch of a channel. -/
def System.latched (system : System) (channel : Fin 4) (latch : U32) : System :=
  system.modifyChannel channel fun state => { state with dataLatch := latch }

@[simp] theorem System.latched_channel (system : System) (channel : Fin 4) (latch : U32) :
    (system.latched channel latch).channel channel =
      { system.channel channel with dataLatch := latch } := by
  simp [System.latched, System.modifyChannel, System.modifyDma, System.channel,
    DmaController.modify]

/-- Only the last value stays in the latch. -/
theorem System.latched_again {system moved : System} {channel : Fin 4} {former : U32}
    (h : moved.devices = (system.latched channel former).devices) (latch : U32) :
    (moved.latched channel latch).devices = (system.latched channel latch).devices := by
  have hdma := DmaController.modify_modify system.devices.dma channel
    (fun state => { state with dataLatch := former }) fun state => { state with dataLatch := latch }
  unfold System.latched System.modifyChannel System.modifyDma at h ⊢
  rw [h]
  exact congrArg (fun dma => { system.devices with dma := dma }) hdma

/-- The value on the bus is no byte of a memory. -/
theorem driveOpenBus_memory (system : System) (drive : Bool) (value : U32) :
    (∀ address, (system.driveOpenBus drive value).memory.cell address =
      system.memory.cell address) ∧
    system.memory.SameOffBus (system.driveOpenBus drive value).memory ∧
    (system.driveOpenBus drive value).devices = system.devices := by
  cases drive with
  | false => exact ⟨fun _ => rfl, rfl, rfl⟩
  | true => exact ⟨fun _ => rfl, rfl, rfl⟩

/-- A source in an internal memory steps as the channel is set to. -/
theorem not_gamePakStream {wordTransfer : Bool} {channel : Fin 4} {address : U32}
    (h : Internal (alignUnit wordTransfer (effectiveSourceAddress channel address))) :
    dmaSourceStepsAsGamePakStream channel address = false := by
  unfold dmaSourceStepsAsGamePakStream
  by_cases hfirst : channel = 0
  · simp [hfirst]
  · have hmask : effectiveSourceAddress channel address = address &&& 0x0FFFFFFF#32 := by
      unfold effectiveSourceAddress
      rw [if_neg hfirst]
    have hpage := h.page
    rw [alignUnit_toNat, hmask] at hpage
    have hsame : (address &&& 0x0FFFFFFF#32).toNat / 2 ^ 24 =
        (classify (alignUnit wordTransfer (address &&& 0x0FFFFFFF#32))).region.page := by
      rw [← hpage]
      rcases unitBytes_cases wordTransfer with hbytes | hbytes
      · rw [hbytes]
        omega
      · rw [hbytes]
        omega
    rw [hmask] at h
    have hinternal : (classify (alignUnit wordTransfer
      (address &&& 0x0FFFFFFF#32))).region.internal = true := h
    rw [(classify_internal h hsame).1]
    revert hinternal
    cases (classify (alignUnit wordTransfer (address &&& 0x0FFFFFFF#32))).region with
    | ewram | iwram | palette | vram | oam => simp
    | _ =>
      intro hinternal
      contradiction

/-- One unit between internal memories. -/
theorem transferUnit_eq (waitcnt : WaitcntPointer) {channel : Fin 4} (drive : Bool)
    {wordTransfer : Bool} (unit : U32) (t : Transfer) {source destination : U32}
    (hsource : alignUnit wordTransfer (effectiveSourceAddress channel t.sourceAddress) = source)
    (hdestination : alignUnit wordTransfer
      (effectiveDestinationAddress channel t.destinationAddress) = destination)
    (hread : Internal source) (hwritten : Internal destination) :
    ∃ value latch busCycles,
      (∀ lane < unitBytes wordTransfer,
        byte value lane = t.system.memory.cell (source + BitVec.ofNat 32 lane)) ∧
      transferUnit waitcnt channel drive wordTransfer unit t =
        { system := ((t.system.latched channel latch).driveOpenBus drive value).withMemory
            (((t.system.latched channel latch).driveOpenBus drive value).memory.writeCells value
              destination (unitBytes wordTransfer))
          sourceAddress := stepAddress t.sourceAddress (t.system.channel channel).sourceControl
            (BitVec.ofNat 32 (unitBytes wordTransfer))
          destinationAddress := stepAddress t.destinationAddress
            (t.system.channel channel).destinationControl (BitVec.ofNat 32 (unitBytes wordTransfer))
          busCycles := busCycles } := by
  have hsize : (if wordTransfer then 4 else 2 : U32) =
      BitVec.ofNat 32 (unitBytes wordTransfer) := by
    cases wordTransfer with
    | false => rfl
    | true => rfl
  have halign : ∀ address : U32,
      address &&& ~~~(BitVec.ofNat 32 (unitBytes wordTransfer) - 1) =
        alignUnit wordTransfer address :=
    fun _ => rfl
  have hstream := not_gamePakStream (hsource ▸ hread)
  obtain ⟨value, latch, hvalue, hbytes⟩ := transferRead_cells t.system channel hread
    (hsource ▸ alignUnit_aligned wordTransfer _)
  have hwrite := transferWrite_cells ((t.system.latched channel latch).driveOpenBus drive value)
    hwritten (hdestination ▸ alignUnit_aligned wordTransfer _) value
  -- neither the store nor the latches change how the addresses step
  have hcontrol : (System.channel
      (((t.system.latched channel latch).driveOpenBus drive value).withMemory
        (((t.system.latched channel latch).driveOpenBus drive value).memory.writeCells value
          destination (unitBytes wordTransfer))) channel).destinationControl =
      (t.system.channel channel).destinationControl := by
    have hdevices := (driveOpenBus_memory (t.system.latched channel latch) drive value).2.2
    show ((((t.system.latched channel latch).driveOpenBus drive value).devices.dma.channels
      channel)).destinationControl = _
    rw [hdevices]
    have hchannel := t.system.latched_channel channel latch
    exact (congrArg DmaChannelState.destinationControl hchannel).trans rfl
  refine ⟨value, latch, (transferUnit waitcnt channel drive wordTransfer unit t).busCycles, hbytes,
    ?_⟩
  unfold transferUnit
  dsimp only
  rw [hsize, halign, halign, hsource, hdestination, hvalue]
  dsimp only
  rw [show t.system.modifyChannel channel (fun state => { state with dataLatch := latch }) =
    t.system.latched channel latch from rfl, hwrite, hcontrol, hstream]
  rfl

/-- The transfer after some units. -/
structure Transferred (system : System) (channel : Fin 4) (units : Nat) (t : Transfer) : Prop where
  copied : Copied (system.channel channel) channel system.memory units t.system.memory
  devices : ∃ latch, t.system.devices = (system.latched channel latch).devices
  source : t.sourceAddress = (system.channel channel).sourceAfter units
  destination : t.destinationAddress = (system.channel channel).destinationAfter units

namespace Transferred

variable {waitcnt : WaitcntPointer} {channel : Fin 4} {drive : Bool} {system : System}
  {units : Nat} {t : Transfer}

/-- The registers of the channel but its data latch. -/
theorem channel_eq (h : Transferred system channel units t) :
    ∃ latch, t.system.channel channel = { system.channel channel with dataLatch := latch } := by
  obtain ⟨latch, hdevices⟩ := h.devices
  refine ⟨latch, ?_⟩
  rw [← system.latched_channel channel latch]
  exact congrArg (fun devices : Devices => devices.dma.channels channel) hdevices

theorem start (channel : Fin 4) (system : System) (busCycles : U32) :
    Transferred system channel 0
      ⟨system, (system.channel channel).currentSource, (system.channel channel).currentDestination,
        busCycles⟩ := by
  refine ⟨⟨?_, ?_, rfl⟩, ⟨(system.channel channel).dataLatch, ?_⟩, ?_, ?_⟩
  · intro unit hunit
    exact absurd hunit (Nat.not_lt_zero unit)
  · intro other _
    rfl
  · unfold System.latched System.modifyChannel System.modifyDma DmaController.modify
    exact congrArg (fun channels => { system.devices with
      dma := ⟨channels, system.devices.dma.immediatePending⟩ })
      (Function.update_eq_self channel system.devices.dma.channels).symm
  · exact (addressAfter_zero _ _ _).symm
  · exact (addressAfter_zero _ _ _).symm

theorem step (h : Transferred system channel units t) {total : Nat}
    (hapart : Apart (system.channel channel) channel total) (hunits : units < total) (unit : U32) :
    Transferred system channel (units + 1)
      (transferUnit waitcnt channel drive (system.channel channel).transfer32bit unit t) := by
  obtain ⟨value, latch, busCycles, hvalue, hunit⟩ :=
    transferUnit_eq waitcnt drive unit t (congrArg (fun address => alignUnit _
      (effectiveSourceAddress channel address)) h.source)
      (congrArg (fun address => alignUnit _ (effectiveDestinationAddress channel address))
        h.destination) (hapart.source units hunits) (hapart.destination units hunits)
  obtain ⟨hcell, hoff, hdriven⟩ :=
    driveOpenBus_memory (t.system.latched channel latch) drive value
  obtain ⟨before, hchannel⟩ := h.channel_eq
  rw [hunit, hchannel]
  refine ⟨h.copied.step hapart hunits hvalue hcell hoff, ⟨latch, ?_⟩, ?_, ?_⟩
  · obtain ⟨former, hdevices⟩ := h.devices
    exact hdriven.trans (System.latched_again hdevices latch)
  · show stepAddress t.sourceAddress _ _ = _
    rw [h.source]
    exact stepAddress_after _ _ _ _
  · show stepAddress t.destinationAddress _ _ = _
    rw [h.destination]
    exact stepAddress_after _ _ _ _

/-- The loop runs to the count that the channel started with. -/
theorem run (hapart : Apart (system.channel channel) channel
      (system.channel channel).currentCount.toNat) (unit : U32) (t : Transfer)
    (h : Transferred system channel unit.toNat t)
    (hunit : unit.toNat ≤ (system.channel channel).currentCount.toNat) :
    Transferred system channel (system.channel channel).currentCount.toNat
      (transferUnits waitcnt channel drive (system.channel channel).transfer32bit unit t) := by
  induction unit, t using transferUnits.induct waitcnt channel drive
      (system.channel channel).transfer32bit with
  | case1 unit t hlt ih =>
    rw [transferUnits, dif_pos hlt]
    obtain ⟨latch, hchannel⟩ := h.channel_eq
    rw [hchannel] at hlt
    have hnat : unit.toNat < (system.channel channel).currentCount.toNat := hlt
    have hnext : (unit + 1).toNat = unit.toNat + 1 := by bv_omega
    refine ih ?_ (by omega)
    rw [hnext]
    exact h.step hapart hnat unit
  | case2 unit t hge =>
    rw [transferUnits, dif_neg hge]
    obtain ⟨latch, hchannel⟩ := h.channel_eq
    rw [hchannel] at hge
    have hnat : ¬unit.toNat < (system.channel channel).currentCount.toNat := hge
    have hend : unit.toNat = (system.channel channel).currentCount.toNat := by omega
    rw [← hend]
    exact h

end Transferred

/-! ## The whole transfer -/

/-- The units that a programmed count stands for. -/
def programmedUnits (channel : Fin 4) (wordCount : U16) : Nat :=
  let limit := if channel = 3 then 0x10000 else 0x4000
  if wordCount.toNat % limit = 0 then limit else wordCount.toNat % limit

theorem normalizedWordCount_toNat (state : DmaChannelState) (channel : Fin 4) :
    (state.normalizedWordCount channel).toNat = programmedUnits channel state.wordCount := by
  have hlimit : ∃ bits < 32, (dmaWordCountMask channel).toNat = 2 ^ bits - 1 ∧
      (dmaWordCountMask channel + 1).toNat = 2 ^ bits ∧
      (if channel = 3 then 0x10000 else 0x4000) = 2 ^ bits := by
    unfold dmaWordCountMask
    by_cases hlast : channel = 3
    · rw [if_pos hlast, if_pos hlast]
      exact ⟨16, by decide, rfl, rfl, rfl⟩
    · rw [if_neg hlast, if_neg hlast]
      exact ⟨14, by decide, rfl, rfl, rfl⟩
  obtain ⟨bits, hbits, hmask, hfull, hcount⟩ := hlimit
  have hnat : (state.wordCount.setWidth 32 &&& dmaWordCountMask channel).toNat =
      state.wordCount.toNat % 2 ^ bits := by
    have hwide : (state.wordCount.setWidth 32).toNat = state.wordCount.toNat :=
      BitVec.toNat_setWidth_of_le (by decide)
    rw [BitVec.toNat_and, hmask, Nat.and_two_pow_sub_one_eq_mod, hwide]
  unfold DmaChannelState.normalizedWordCount programmedUnits
  dsimp only
  rw [hcount, ← hnat]
  by_cases hzero : state.wordCount.setWidth 32 &&& dmaWordCountMask channel = 0
  · have hnone : (state.wordCount.setWidth 32 &&& dmaWordCountMask channel).toNat = 0 :=
      congrArg BitVec.toNat hzero
    rw [if_pos hzero, if_pos hnone]
    exact hfull
  · have hsome : (state.wordCount.setWidth 32 &&& dmaWordCountMask channel).toNat ≠ 0 :=
      fun h => hzero (BitVec.eq_of_toNat_eq h)
    rw [if_neg hzero, if_neg hsome]

/-- What a transfer leaves in the memories. -/
structure CopiesUnits (channel : Fin 4) (state : DmaChannelState) (before after : System) :
    Prop where
  units : ∀ unit < state.currentCount.toNat,
    (state.destinationControl = .fixed → unit + 1 = state.currentCount.toNat) →
    ∀ lane < unitBytes state.transfer32bit,
      after.read8 ioCallbacks (state.destinationUnit channel unit + BitVec.ofNat 32 lane) =
        before.read8 ioCallbacks (state.sourceUnit channel unit + BitVec.ofNat 32 lane)
  others : ∀ other, Internal other →
    (∀ unit < state.currentCount.toNat, ∀ lane < unitBytes state.transfer32bit,
      ¬Mirrors other (state.destinationUnit channel unit + BitVec.ofNat 32 lane)) →
    after.read8 ioCallbacks other = before.read8 ioCallbacks other
  outside : before.memory.SameOffBus after.memory

/-- What a transfer leaves in the registers of its channel. -/
structure EndsTransfer (channel : Fin 4) (before after : DmaChannelState) : Prop where
  programmed : after.source = before.source ∧ after.destination = before.destination ∧
    after.wordCount = before.wordCount
  source : after.currentSource = before.sourceAfter before.currentCount.toNat
  armed : before.repeats = true → before.startTiming ≠ .immediate →
    after.control = before.control ∧
    after.currentCount.toNat = programmedUnits channel before.wordCount ∧
    after.currentDestination =
      if before.destinationControl = .incrementReload then before.destination
      else before.destinationAfter before.currentCount.toNat
  finished : ¬(before.repeats = true ∧ before.startTiming ≠ .immediate) →
    after.enabled = false ∧ after.control = before.control &&& ~~~kDmaEnableFlag ∧
    after.currentCount = 0 ∧
    after.currentDestination = before.destinationAfter before.currentCount.toNat

theorem endTransfer_ends (channel : Fin 4) (state : DmaChannelState) (latch : U32) :
    EndsTransfer channel state
      (endTransfer channel (state.sourceAfter state.currentCount.toNat)
        (state.destinationAfter state.currentCount.toNat) { state with dataLatch := latch }) := by
  show EndsTransfer channel state
    (if state.repeats = true ∧ state.startTiming ≠ .immediate then _ else _)
  by_cases hrearm : state.repeats = true ∧ state.startTiming ≠ .immediate
  · rw [if_pos hrearm]
    refine ⟨⟨rfl, rfl, rfl⟩, rfl, fun _ _ => ⟨rfl, ?_, rfl⟩, fun hnot => absurd hrearm hnot⟩
    exact normalizedWordCount_toNat _ channel
  · rw [if_neg hrearm]
    refine ⟨⟨rfl, rfl, rfl⟩, rfl, fun hrepeat htiming => ?_, fun _ => ?_⟩
    · exact absurd ⟨hrepeat, htiming⟩ hrearm
    · exact ⟨enabled_clear _, rfl, rfl, rfl⟩

/-- The bytes of the copied units, read through the bus. -/
theorem Copied.copiesUnits {channel : Fin 4} {state : DmaChannelState} {before after : System}
    (h : Copied state channel before.memory state.currentCount.toNat after.memory)
    (hapart : Apart state channel state.currentCount.toNat) :
    CopiesUnits channel state before after := by
  refine ⟨?_, ?_, h.outside⟩
  · intro unit hunit hlast lane hlane
    have hsource := (hapart.source unit hunit).lane
      (unit_lane (state.sourceUnit_aligned channel unit) hlane)
    have hdestination := (hapart.destination unit hunit).lane
      (unit_lane (state.destinationUnit_aligned channel unit) hlane)
    rw [BusState.read8_cell _ _ hsource, BusState.read8_cell _ _ hdestination]
    refine congrArg some (h.moved unit hunit ?_ lane hlane)
    intro later hlater hcount
    by_cases hfixed : state.destinationControl = .fixed
    · have hend := hlast hfixed
      omega
    · exact hapart.distinct hfixed unit later hlater hcount
  · intro other hinternal hother
    rw [BusState.read8_cell _ _ hinternal, BusState.read8_cell _ _ hinternal]
    refine congrArg some (h.others other fun unit hunit lane hlane hsame => ?_)
    exact hother unit hunit lane hlane (mirrors_iff.mpr ⟨hinternal, hsame⟩)

/-- The registers of the system after the end of a transfer. -/
theorem endTransfer_devices (channel : Fin 4) {t : Transfer} {system : System} {latch : U32}
    (h : t.system.devices = (system.latched channel latch).devices) :
    ((requestCompletion channel (t.commit channel)).modifyChannel channel
        (rearmOrDisable channel)).devices =
      { system.devices with
        dma := system.devices.dma.modify channel fun state =>
          endTransfer channel t.sourceAddress t.destinationAddress { state with dataLatch := latch }
        interrupts :=
          if (system.channel channel).irqOnCompletion then
            system.devices.interrupts.request (dmaInterruptSource channel)
          else system.devices.interrupts } := by
  have hirq : ((t.commit channel).channel channel).irqOnCompletion =
      (system.channel channel).irqOnCompletion := by
    unfold Transfer.commit System.modifyChannel System.modifyDma System.channel DmaController.modify
    rw [h]
    unfold System.latched System.modifyChannel System.modifyDma DmaController.modify
    simp [DmaChannelState.irqOnCompletion]
  have hdma : ((t.commit channel).devices.dma.modify channel (rearmOrDisable channel)) =
      system.devices.dma.modify channel fun state =>
        endTransfer channel t.sourceAddress t.destinationAddress
          { state with dataLatch := latch } := by
    unfold Transfer.commit System.modifyChannel System.modifyDma
    rw [h]
    unfold System.latched System.modifyChannel System.modifyDma
    rw [DmaController.modify_modify, DmaController.modify_modify]
    rfl
  have hcommit : (t.commit channel).devices =
      { system.devices with dma := (t.commit channel).devices.dma } := by
    unfold Transfer.commit System.modifyChannel System.modifyDma
    rw [h]
    rfl
  unfold requestCompletion
  rw [hirq]
  split
  · show { (t.commit channel).devices with
      dma := (t.commit channel).devices.dma.modify channel (rearmOrDisable channel)
      interrupts := (t.commit channel).devices.interrupts.request (dmaInterruptSource channel) } = _
    rw [hdma, hcommit]
  · show { (t.commit channel).devices with
      dma := (t.commit channel).devices.dma.modify channel (rearmOrDisable channel) } = _
    rw [hdma, hcommit]

/-- Enabling a channel takes over what it is programmed with. -/
theorem latchControl_enabling {channel : Fin 4} {state : DmaChannelState} {control : U16}
    (hdisabled : state.enabled = false)
    (henabled : (DmaController.latchControl channel control state).enabled = true) :
    DmaController.latchControl channel control state =
      { state with
        control := control &&& dmaControlMask channel
        currentSource := state.source
        currentDestination := state.destination
        currentCount := state.normalizedWordCount channel } := by
  have hwritten : ({ state with control := control &&& dmaControlMask channel } :
      DmaChannelState).enabled = true := by
    unfold DmaChannelState.enabled at henabled ⊢
    rw [DmaController.latchControl_control] at henabled
    exact henabled
  unfold DmaController.latchControl
  dsimp only
  rw [hdisabled, hwritten]
  rfl

theorem requestCompletion_memory (channel : Fin 4) (system : System) :
    (requestCompletion channel system).memory = system.memory := by
  unfold requestCompletion
  split
  · rfl
  · rfl

/-- A general transfer between ranges of the internal memories that do not meet. Setting Enable
takes the programmed addresses and count over; whatever these then are, each destination unit holds
the source unit of its index, the last one if the destination is fixed, no other byte has changed,
and the channel is disabled or armed again. -/
theorem executeChannel_copies (channel : Fin 4) :
    (∀ (dma : DmaController) (control : U16), (dma.channels channel).enabled = false →
      ((dma.writeControl channel control).channels channel).enabled = true →
      ((dma.writeControl channel control).channels channel).currentSource =
          (dma.channels channel).source ∧
        ((dma.writeControl channel control).channels channel).currentDestination =
          (dma.channels channel).destination ∧
        ((dma.writeControl channel control).channels channel).currentCount.toNat =
          programmedUnits channel (dma.channels channel).wordCount) ∧
    ∀ (waitcnt : WaitcntPointer) (drive : Bool) (system : System) (result : DmaRunResult),
      (system.channel channel).sourceControl ≠ .incrementReload →
      Apart (system.channel channel) channel (system.channel channel).currentCount.toNat →
      ∃ final served,
        executeChannel waitcnt channel drive system result = some (final, served) ∧
        CopiesUnits channel (system.channel channel) system final ∧
        EndsTransfer channel (system.channel channel) (final.channel channel) ∧
        (∀ other ≠ channel, final.channel other = system.channel other) ∧
        final.devices =
          { system.devices with
            dma := ⟨final.devices.dma.channels, system.devices.dma.immediatePending⟩
            interrupts :=
              if (system.channel channel).irqOnCompletion then
                system.devices.interrupts.request (dmaInterruptSource channel)
              else system.devices.interrupts } ∧
        served.unitsTransferred =
          result.unitsTransferred + (system.channel channel).currentCount := by
  constructor
  · intro dma control hdisabled henabled
    have hchannel : (dma.writeControl channel control).channels channel =
        DmaController.latchControl channel control (dma.channels channel) := by
      rw [DmaController.writeControl_channels]
      exact Function.update_self _ _ _
    rw [hchannel] at henabled ⊢
    rw [latchControl_enabling hdisabled henabled]
    exact ⟨rfl, rfl, normalizedWordCount_toNat _ channel⟩
  · intro waitcnt drive system result hcontrol hapart
    -- the invariant of the loop after all its units
    have hunits : Transferred system channel (system.channel channel).currentCount.toNat
        (transferChannel waitcnt channel drive system result.busCycles) := by
      refine Transferred.run hapart 0 _ (Transferred.start channel system _) (Nat.zero_le _)
    unfold executeChannel
    dsimp only
    rw [if_neg hcontrol]
    generalize transferChannel waitcnt channel drive system result.busCycles = t at hunits ⊢
    obtain ⟨latch, hdevices⟩ := hunits.devices
    have hend := endTransfer_devices channel hdevices
    rw [hunits.source, hunits.destination] at hend
    refine ⟨_, _, rfl, ?_, ?_, ?_, ?_, ?_⟩
    · have hmemory : ((requestCompletion channel (t.commit channel)).modifyChannel channel
          (rearmOrDisable channel)).memory = t.system.memory :=
        requestCompletion_memory channel (t.commit channel)
      exact Copied.copiesUnits (hmemory ▸ hunits.copied) hapart
    · unfold System.channel
      rw [hend]
      show EndsTransfer channel _ (Function.update system.devices.dma.channels channel _ channel)
      rw [Function.update_self]
      exact endTransfer_ends channel _ latch
    · intro other hother
      unfold System.channel
      rw [hend]
      exact Function.update_of_ne hother _ _
    · rw [hend]
      rfl
    · obtain ⟨last, hlast⟩ := hunits.channel_eq
      rw [hlast]

/-- Channel 3 set to copy two words from the start of EWRAM down from the third word of IWRAM at
every VBlank, with its interrupt. -/
def wordChannel : System where
  memory := { MemoryBus.initial with ewram := setByte MemoryBus.initial.ewram 0 0x12 }
  devices := { Devices.reset with
    dma := (((DmaController.reset.writeSource 3 0x02000000#32).writeDestination 3
      0x03000008#32).writeWordCount 3 2).writeControl 3 0xD620#16 }

/-- The transfer of that channel, and a channel enabled with a count of zero. -/
theorem executeChannel_copies_words :
    (∃ final served,
      executeChannel (fun devices => some devices.waitcnt) 3 true wordChannel ⟨0, 0, false, 0⟩ =
        some (final, served) ∧
      CopiesUnits 3 (wordChannel.channel 3) wordChannel final ∧
      EndsTransfer 3 (wordChannel.channel 3) (final.channel 3)) ∧
    ((DmaController.reset.writeControl 3 0x8000#16).channels 3).currentCount.toNat =
      programmedUnits 3 0 := by
  obtain ⟨henabling, hcopies⟩ := executeChannel_copies 3
  have hapart : Apart (wordChannel.channel 3) 3 (wordChannel.channel 3).currentCount.toNat := by
    have hcount : (wordChannel.channel 3).currentCount.toNat = 2 := by decide +kernel
    rw [hcount]
    exact @apart_of_extents _ _ _ (by decide) .ewram .iwram (by decide +kernel) (by decide +kernel)
      (by decide +kernel)
  obtain ⟨final, served, hexecute, hunits, hends, -⟩ :=
    hcopies (fun devices => some devices.waitcnt) true wordChannel ⟨0, 0, false, 0⟩
      (by decide +kernel) hapart
  have hprogrammed := henabling DmaController.reset 0x8000#16 (by decide) (by decide)
  exact ⟨⟨final, served, hexecute, hunits, hends⟩, hprogrammed.2.2⟩

end Gba.Core
