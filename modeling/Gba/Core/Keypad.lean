import Gba.Core.Interrupts

/-!
# The keypad

`Keypad` of `keypad.cpp`: the pressed buttons, the KEYCNT register and the keypad interrupt.
-/

namespace Gba.Core

/-- `Keypad::kButtonMask`. -/
def kButtonMask : U16 := 0x03FF#16
/-- `Keypad::kIrqEnable`. -/
def kKeypadIrqEnable : U16 := 0x4000#16
/-- `Keypad::kIrqConditionAnd`. -/
def kKeypadIrqConditionAnd : U16 := 0x8000#16

/-- The state of the keypad. -/
@[ext]
structure Keypad where
  pressedMask : U16
  keycnt : U16
  deriving DecidableEq, Repr

namespace Keypad

/-- The keypad after a reset. -/
def reset : Keypad := ⟨0, 0⟩

/-- `set_pressed_mask`; a mask with other bits is rejected. -/
def setPressedMask (k : Keypad) (pressedMask : U16) : Option Keypad :=
  if anySet pressedMask (~~~kButtonMask) then none else some { k with pressedMask := pressedMask }

/-- `write_keycnt`. -/
def writeKeycnt (k : Keypad) (value : U16) : Keypad :=
  { k with keycnt := value &&& (kButtonMask ||| kKeypadIrqEnable ||| kKeypadIrqConditionAnd) }

/-- `keyinput`: a pressed button reads as zero. -/
def keyinput (k : Keypad) : U16 := ~~~k.pressedMask &&& kButtonMask

/-- `irq_condition_met`. A selection of no button never matches. -/
def irqConditionMet (k : Keypad) : Bool :=
  if !anySet k.keycnt kKeypadIrqEnable then false
  else
    let selected := k.keycnt &&& kButtonMask
    if selected = 0 then false
    else
      let pressedSelected := k.pressedMask &&& selected
      if anySet k.keycnt kKeypadIrqConditionAnd then pressedSelected = selected
      else pressedSelected ≠ 0

/-- `poll_interrupt`. -/
def pollInterrupt (k : Keypad) (interrupts : InterruptController) : InterruptController :=
  if k.irqConditionMet then interrupts.request .keypad else interrupts

end Keypad

/-! ## Buttons -/

/-- `KeypadButton`. -/
inductive KeypadButton where
  | a | b | select | start | right | left | up | down | r | l
  deriving DecidableEq, Repr

/-- The bit of a button. -/
def KeypadButton.bit : KeypadButton → U16
  | .a => 0x0001
  | .b => 0x0002
  | .select => 0x0004
  | .start => 0x0008
  | .right => 0x0010
  | .left => 0x0020
  | .up => 0x0040
  | .down => 0x0080
  | .r => 0x0100
  | .l => 0x0200

namespace Keypad

/-- `press`. -/
def press (k : Keypad) (button : KeypadButton) : Keypad :=
  { k with pressedMask := k.pressedMask ||| button.bit }

/-- `release`. -/
def release (k : Keypad) (button : KeypadButton) : Keypad :=
  { k with pressedMask := k.pressedMask &&& ~~~button.bit }

end Keypad

end Gba.Core
