import Gba.Core.Words
import Mathlib.Data.Fintype.Basic
import Mathlib.Data.List.FinRange

/-!
# The DMA registers

The register interface of `DmaController` in `dma_controller.cpp`: the four channels, the writes to
them, and the flag that says an immediate transfer waits. A channel is `Consistent` when its
control and counter are such as the register writes leave them.
-/

namespace Gba.Core

/-- `DmaAddressControl`. -/
inductive DmaAddressControl where
  | increment
  | decrement
  | fixed
  | incrementReload
  deriving DecidableEq, Repr

/-- `DmaStartTiming`. -/
inductive DmaStartTiming where
  | immediate
  | vblank
  | hblank
  | special
  deriving DecidableEq, Repr

/-- `DmaTrigger`. -/
inductive DmaTrigger where
  | immediate
  | vblank
  | hblank
  | special
  | fifoA
  | fifoB
  deriving DecidableEq, Repr

/-- `kRepeatFlag`. -/
def kDmaRepeatFlag : U16 := 0x0200#16
/-- `kTransfer32Flag`. -/
def kDmaTransfer32Flag : U16 := 0x0400#16
/-- `kGamePakDrqFlag`. -/
def kDmaGamePakDrqFlag : U16 := 0x0800#16
/-- `kIrqFlag`. -/
def kDmaIrqFlag : U16 := 0x4000#16
/-- `kEnableFlag`. -/
def kDmaEnableFlag : U16 := 0x8000#16
/-- `kControlMask`. -/
def kDmaControlMask : U16 :=
  0x0060#16 ||| 0x0180#16 ||| kDmaRepeatFlag ||| kDmaTransfer32Flag ||| 0x3000#16 |||
    kDmaIrqFlag ||| kDmaEnableFlag
/-- `kFifoAAddress`. -/
def kFifoAAddress : U32 := 0x040000A0#32
/-- `kFifoBAddress`. -/
def kFifoBAddress : U32 := 0x040000A4#32

/-- The control bits that a channel implements. -/
def dmaControlMask (channel : Fin 4) : U16 :=
  if channel = 3 then kDmaControlMask ||| kDmaGamePakDrqFlag else kDmaControlMask

/-- `dma_word_count_mask`. -/
def dmaWordCountMask (channel : Fin 4) : U32 := if channel = 3 then 0xFFFF#32 else 0x3FFF#32

/-- The address control that a field of two bits encodes. -/
def DmaAddressControl.ofBits (bits : U16) : DmaAddressControl :=
  if bits = 0 then .increment else if bits = 1 then .decrement else if bits = 2 then .fixed
  else .incrementReload

/-- The start timing that a field of two bits encodes. -/
def DmaStartTiming.ofBits (bits : U16) : DmaStartTiming :=
  if bits = 0 then .immediate else if bits = 1 then .vblank else if bits = 2 then .hblank
  else .special

/-- `DmaChannelState`. -/
@[ext]
structure DmaChannelState where
  source : U32
  destination : U32
  wordCount : U16
  control : U16
  currentSource : U32
  currentDestination : U32
  currentCount : U32
  dataLatch : U32
  deriving DecidableEq, Repr

namespace DmaChannelState

/-- `enabled`. -/
def enabled (s : DmaChannelState) : Bool := anySet s.control kDmaEnableFlag

/-- `repeat`. -/
def repeats (s : DmaChannelState) : Bool := anySet s.control kDmaRepeatFlag

/-- `transfer_32bit`. -/
def transfer32bit (s : DmaChannelState) : Bool := anySet s.control kDmaTransfer32Flag

/-- `irq_on_completion`. -/
def irqOnCompletion (s : DmaChannelState) : Bool := anySet s.control kDmaIrqFlag

/-- `destination_control`. -/
def destinationControl (s : DmaChannelState) : DmaAddressControl :=
  .ofBits (s.control >>> 5 &&& 0x3#16)

/-- `source_control`. -/
def sourceControl (s : DmaChannelState) : DmaAddressControl :=
  .ofBits (s.control >>> 7 &&& 0x3#16)

/-- `start_timing`. -/
def startTiming (s : DmaChannelState) : DmaStartTiming := .ofBits (s.control >>> 12 &&& 0x3#16)

/-- Enabled with immediate start timing. -/
def waitsImmediate (s : DmaChannelState) : Bool := s.enabled && s.startTiming = .immediate

/-- `normalized_word_count`: a count of zero stands for the largest one. -/
def normalizedWordCount (s : DmaChannelState) (channel : Fin 4) : U32 :=
  let mask := dmaWordCountMask channel
  let count := s.wordCount.setWidth 32 &&& mask
  if count = 0 then mask + 1 else count

/-- Control and counter are such as the register writes leave them. -/
structure Consistent (s : DmaChannelState) (channel : Fin 4) : Prop where
  control_mask : s.control &&& ~~~dmaControlMask channel = 0
  idle_count : s.enabled = false → s.currentCount = 0
  count_le : s.currentCount ≤ dmaWordCountMask channel + 1

end DmaChannelState

/-- The state of the controller, which is also its snapshot. -/
@[ext]
structure DmaController where
  channels : Fin 4 → DmaChannelState
  immediatePending : Bool
  deriving DecidableEq

namespace DmaController

/-- The controller after a reset. -/
def reset : DmaController := ⟨fun _ => ⟨0, 0, 0, 0, 0, 0, 0, 0⟩, false⟩

/-- Change one channel. -/
def modify (dma : DmaController) (channel : Fin 4) (f : DmaChannelState → DmaChannelState) :
    DmaController :=
  { dma with channels := Function.update dma.channels channel (f (dma.channels channel)) }

/-- `write_source`. -/
def writeSource (dma : DmaController) (channel : Fin 4) (value : U32) : DmaController :=
  dma.modify channel fun state => { state with source := value }

/-- `write_destination`. -/
def writeDestination (dma : DmaController) (channel : Fin 4) (value : U32) : DmaController :=
  dma.modify channel fun state => { state with destination := value }

/-- `write_word_count`. -/
def writeWordCount (dma : DmaController) (channel : Fin 4) (value : U16) : DmaController :=
  dma.modify channel fun state => { state with wordCount := value }

/-- `refresh_immediate_pending`. -/
def refreshImmediatePending (dma : DmaController) : DmaController :=
  { dma with
    immediatePending := (List.finRange 4).any fun channel => (dma.channels channel).waitsImmediate }

/-- An enabled sound FIFO channel. -/
def isSoundFifo (channel : Fin 4) (state : DmaChannelState) : Bool :=
  state.enabled && (channel = 1 || channel = 2) && state.startTiming = .special &&
    (state.destination = kFifoAAddress || state.destination = kFifoBAddress)

/-- What a control write does to the channel itself: enabling it latches the addresses and the
count, stopping a sound FIFO channel latches the count, and a disabled channel has no count. -/
def latchControl (channel : Fin 4) (value : U16) (state : DmaChannelState) : DmaChannelState :=
  let written := { state with control := value &&& dmaControlMask channel }
  let latched :=
    if !state.enabled && written.enabled then
      { written with
        currentSource := written.source
        currentDestination := written.destination
        currentCount := written.normalizedWordCount channel }
    else if isSoundFifo channel state && written.enabled && written.startTiming = .immediate then
      { written with currentCount := written.normalizedWordCount channel }
    else written
  if !written.enabled then { latched with currentCount := 0 } else latched

/-- `write_control`. -/
def writeControl (dma : DmaController) (channel : Fin 4) (value : U16) : DmaController :=
  let written := dma.modify channel (latchControl channel value)
  if (written.channels channel).waitsImmediate then { written with immediatePending := true }
  else if (dma.channels channel).waitsImmediate then written.refreshImmediatePending
  else written

/-- The checks that `load_state` makes on one channel. -/
def restorable (channel : Fin 4) (state : DmaChannelState) : Bool :=
  state.control &&& ~~~dmaControlMask channel = 0 &&
  !(!state.enabled && state.currentCount ≠ 0) &&
  !(dmaWordCountMask channel + 1 < state.currentCount)

/-- `load_state`; `none` when the snapshot is rejected. The pending flag is recomputed. -/
def loadState (state : DmaController) : Option DmaController :=
  if (List.finRange 4).all fun channel => restorable channel (state.channels channel) then
    some state.refreshImmediatePending
  else none

/-! ## The invariant of the registers -/

/-- Every channel is consistent. -/
def Consistent (dma : DmaController) : Prop :=
  ∀ channel, (dma.channels channel).Consistent channel

/-- The pending flag is set exactly when an enabled channel has immediate start timing. -/
def PendingExact (dma : DmaController) : Prop :=
  dma.immediatePending = true ↔ ∃ channel, (dma.channels channel).waitsImmediate = true

/-- A snapshot is accepted exactly when its channels are consistent. -/
theorem restorable_iff (channel : Fin 4) (state : DmaChannelState) :
    restorable channel state = true ↔ state.Consistent channel := by
  simp only [restorable, Bool.and_eq_true, decide_eq_true_eq, Bool.not_eq_true',
    Bool.and_eq_false_imp, decide_eq_false_iff_not, BitVec.not_lt, ne_eq, not_not, and_assoc]
  exact ⟨fun ⟨hmask, hidle, hle⟩ => ⟨hmask, hidle, hle⟩, fun h => ⟨h.1, h.2, h.3⟩⟩

theorem normalizedWordCount_le (state : DmaChannelState) (channel : Fin 4) :
    state.normalizedWordCount channel ≤ dmaWordCountMask channel + 1 := by
  have hmask : dmaWordCountMask channel + 1 ≠ 0 := by
    unfold dmaWordCountMask
    split <;> decide
  have hand : state.wordCount.setWidth 32 &&& dmaWordCountMask channel ≤
      dmaWordCountMask channel := by
    rw [BitVec.le_def, BitVec.toNat_and]
    exact Nat.and_le_right
  unfold DmaChannelState.normalizedWordCount
  dsimp only
  split
  · exact BitVec.le_refl _
  · generalize dmaWordCountMask channel = mask at hmask hand ⊢
    bv_omega

theorem reset_consistent : reset.Consistent := fun _ =>
  ⟨BitVec.zero_and, fun _ => rfl, Nat.zero_le _⟩

theorem reset_pendingExact : reset.PendingExact := by
  refine ⟨fun h => absurd h (by decide), ?_⟩
  rintro ⟨channel, h⟩
  exact absurd (show (⟨0, 0, 0, 0, 0, 0, 0, 0⟩ : DmaChannelState).waitsImmediate = true from h)
    (by decide)

/-- Replacing one channel by a consistent one. -/
theorem Consistent.modify {dma : DmaController} (h : dma.Consistent) (channel : Fin 4)
    {f : DmaChannelState → DmaChannelState} (hf : (f (dma.channels channel)).Consistent channel) :
    (dma.modify channel f).Consistent := by
  intro other
  by_cases heq : other = channel
  · subst heq
    simpa [DmaController.modify] using hf
  · simpa [DmaController.modify, heq] using h other

/-- A change that keeps the control of a channel keeps the pending flag exact. -/
theorem PendingExact.modify {dma : DmaController} (h : dma.PendingExact) (channel : Fin 4)
    {f : DmaChannelState → DmaChannelState}
    (hf : (f (dma.channels channel)).waitsImmediate = (dma.channels channel).waitsImmediate) :
    (dma.modify channel f).PendingExact := by
  refine h.trans (exists_congr fun other => ?_)
  by_cases heq : other = channel
  · subst heq
    simp [DmaController.modify, hf]
  · simp [DmaController.modify, heq]

theorem refreshImmediatePending_exact (dma : DmaController) :
    dma.refreshImmediatePending.PendingExact := by
  simp [refreshImmediatePending, PendingExact]

theorem latchControl_control (channel : Fin 4) (value : U16) (state : DmaChannelState) :
    (latchControl channel value state).control = value &&& dmaControlMask channel := by
  unfold latchControl
  dsimp only
  split_ifs <;> rfl

/-- A control write leaves the channel consistent, whatever it was latched from. -/
theorem latchControl_consistent {channel : Fin 4} {state : DmaChannelState}
    (h : state.Consistent channel) (value : U16) :
    (latchControl channel value state).Consistent channel := by
  have hcontrol := latchControl_control channel value state
  refine ⟨?_, ?_, ?_⟩
  · rw [hcontrol]
    exact and_mask_and_not _ _
  · intro hidle
    have hwritten : anySet (value &&& dmaControlMask channel) kDmaEnableFlag = false := by
      rw [← hcontrol]
      exact hidle
    unfold latchControl
    simp [DmaChannelState.enabled, hwritten]
  · have hzero : (0 : U32) ≤ dmaWordCountMask channel + 1 := Nat.zero_le _
    unfold latchControl
    dsimp only
    split_ifs
    all_goals
      first
      | exact hzero
      | exact normalizedWordCount_le _ _
      | exact h.count_le

theorem writeControl_channels (dma : DmaController) (channel : Fin 4) (value : U16) :
    (dma.writeControl channel value).channels =
      (dma.modify channel (latchControl channel value)).channels := by
  unfold writeControl
  dsimp only
  split_ifs <;> rfl

theorem Consistent.writeControl {dma : DmaController} (h : dma.Consistent) (channel : Fin 4)
    (value : U16) : (dma.writeControl channel value).Consistent := by
  have hmodify := h.modify channel (latchControl_consistent (h channel) value)
  intro other
  rw [writeControl_channels]
  exact hmodify other

theorem PendingExact.writeControl {dma : DmaController} (h : dma.PendingExact) (channel : Fin 4)
    (value : U16) : (dma.writeControl channel value).PendingExact := by
  unfold DmaController.writeControl
  dsimp only
  split
  · next hwaits => exact ⟨fun _ => ⟨channel, hwaits⟩, fun _ => rfl⟩
  · next hidle =>
    split
    · exact refreshImmediatePending_exact _
    · -- neither before nor after the write does the channel wait
      next hwas =>
        refine h.modify channel ?_
        rw [Bool.not_eq_true] at hidle hwas
        rw [hwas, ← hidle]
        simp [DmaController.modify]

theorem Consistent.loadState {state dma : DmaController} (h : loadState state = some dma) :
    dma.Consistent ∧ dma.PendingExact := by
  unfold DmaController.loadState at h
  split at h
  · next hall =>
      obtain rfl := Option.some.inj h
      refine ⟨fun channel => ?_, refreshImmediatePending_exact _⟩
      exact (restorable_iff _ _).mp (List.all_eq_true.mp hall channel (List.mem_finRange channel))
  · contradiction

end DmaController

end Gba.Core
