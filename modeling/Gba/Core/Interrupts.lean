import Gba.Core.Words

/-!
# The interrupt controller

`InterruptController` of `interrupt_controller.cpp`: the IE and IF registers and the master enable
bit. Requests only ever set bits of IF, and acknowledging only ever clears them.
-/

namespace Gba.Core

/-- The interrupt sources in the bit order of IE and IF. -/
inductive InterruptSource where
  | vblank
  | hblank
  | vcount
  | timer0
  | timer1
  | timer2
  | timer3
  | serial
  | dma0
  | dma1
  | dma2
  | dma3
  | keypad
  | gamePak
  deriving DecidableEq, Repr

/-- The enumerator's value, which is its bit position in IE and IF. -/
def InterruptSource.index : InterruptSource → Nat
  | .vblank => 0
  | .hblank => 1
  | .vcount => 2
  | .timer0 => 3
  | .timer1 => 4
  | .timer2 => 5
  | .timer3 => 6
  | .serial => 7
  | .dma0 => 8
  | .dma1 => 9
  | .dma2 => 10
  | .dma3 => 11
  | .keypad => 12
  | .gamePak => 13

/-- The IF bit of a source. -/
def interruptBit (source : InterruptSource) : U16 :=
  1#16 <<< source.index

/-- The state of the interrupt controller. -/
@[ext]
structure InterruptController where
  interruptEnable : U16
  interruptFlags : U16
  masterEnabled : Bool
  deriving DecidableEq, Repr

namespace InterruptController

/-- The implemented bits of IE and IF. -/
def kSupportedMask : U16 := 0x3FFF#16

/-- The controller after a hardware reset. -/
def reset : InterruptController where
  interruptEnable := 0
  interruptFlags := 0
  masterEnabled := false

/-- Readback of the IME register. -/
def ime (c : InterruptController) : U16 :=
  if c.masterEnabled then 1 else 0

/-- A write to IE. -/
def writeInterruptEnable (c : InterruptController) (value : U16) : InterruptController :=
  { c with interruptEnable := value &&& kSupportedMask }

/-- A write to IF acknowledges the bits that are set in the written value. -/
def writeInterruptFlags (c : InterruptController) (acknowledgeMask : U16) :
    InterruptController :=
  { c with interruptFlags := c.interruptFlags &&& ~~~(acknowledgeMask &&& kSupportedMask) }

/-- A write to IME. -/
def writeIme (c : InterruptController) (value : U16) : InterruptController :=
  { c with masterEnabled := anySet value 0x1#16 }

/-- Set the master enable bit directly. -/
def setMasterEnabled (c : InterruptController) (enabled : Bool) : InterruptController :=
  { c with masterEnabled := enabled }

/-- A device raises an interrupt. -/
def request (c : InterruptController) (source : InterruptSource) : InterruptController :=
  { c with interruptFlags := c.interruptFlags ||| (interruptBit source &&& kSupportedMask) }

/-- The source's IF bit is set. -/
def requested (c : InterruptController) (source : InterruptSource) : Bool :=
  anySet c.interruptFlags (interruptBit source)

/-- The requested interrupts that IE enables. -/
def pendingMask (c : InterruptController) : U16 :=
  c.interruptEnable &&& c.interruptFlags &&& kSupportedMask

/-- The IRQ line to the processor. -/
def irqLineActive (c : InterruptController) : Bool :=
  c.masterEnabled && c.pendingMask != 0#16

/-- IE and IF hold implemented bits only. -/
def WellFormed (c : InterruptController) : Prop :=
  c.interruptEnable &&& ~~~kSupportedMask = 0 ∧ c.interruptFlags &&& ~~~kSupportedMask = 0

@[simp] theorem request_interruptEnable (c : InterruptController) (source : InterruptSource) :
    (c.request source).interruptEnable = c.interruptEnable := rfl

@[simp] theorem request_masterEnabled (c : InterruptController) (source : InterruptSource) :
    (c.request source).masterEnabled = c.masterEnabled := rfl

/-- The order of two requests does not matter. -/
theorem request_comm (c : InterruptController) (s t : InterruptSource) :
    (c.request s).request t = (c.request t).request s := by
  simp only [request, InterruptController.mk.injEq, and_true, true_and]
  rw [BitVec.or_assoc, BitVec.or_assoc, BitVec.or_comm (interruptBit s &&& kSupportedMask)]

/-- A second request of the same source changes nothing. -/
@[simp] theorem request_request_self (c : InterruptController) (s : InterruptSource) :
    (c.request s).request s = c.request s := by
  simp only [request, InterruptController.mk.injEq, and_true, true_and]
  rw [BitVec.or_assoc, BitVec.or_self]

end InterruptController

end Gba.Core
