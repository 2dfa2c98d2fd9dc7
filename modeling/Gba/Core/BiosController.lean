import Gba.Core.Words

/-!
# The BIOS controller

The execution mode of `bios.hpp` and the cycle counts that the interrupt dispatch of the emulated
BIOS charges.
-/

namespace Gba.Core

/-- `BiosExecutionMode`. -/
inductive BiosExecutionMode where
  | noBios | callerProvidedBios | hle
  deriving DecidableEq, Repr

/-- `BiosController`. -/
@[ext]
structure BiosController where
  mode : BiosExecutionMode
  deriving DecidableEq, Repr

/-- `BiosIrqDispatchTiming`. -/
structure BiosIrqDispatchTiming where
  reentry : Bool
  postReturn : Bool
  chainedPostReturn : Bool
  chainedPostReturnData : Bool
  chainedPostReturnSpacedData : Bool
  timer0InterruptRequested : Bool
  timer0Reload : U32
  timerIoAccessGapCycles : U32

namespace BiosHleConstants

def kIrqVectorAddress : U32 := 0x00000018#32

def kUserIrqHandlerPointer : U32 := 0x03007FFC#32

def kIrqReturnSentinelPc : U32 := 0x0FFFFF00#32

def kIrqDispatchCycles : U32 := 21#32

def kIrqPostReturnDispatchCycles : U32 := 24#32

def kIrqChainedPostReturnDispatchCycles : U32 := 26#32

def kIrqReentryDispatchCycles : U32 := 29#32

def kIrqReturnCycles : U32 := 3#32

end BiosHleConstants

def kBiosHleLongTimerNonDataIrqDispatchExtraCycles : U32 := 2#32

def kBiosHleVeryLongTimerNonDataIrqDispatchAdvanceCycles : U32 := 3#32

def kBiosHleSpacedTimerDataIrqDispatchAdvanceCycles : U32 := 1#32

def kBiosHleLongTimerChainedPostReturnExtraCycles : U32 := 5#32

def kBiosHleSlowTimer0ActiveReturnExtraCycles : U32 := 1#32

def kLooseTimerIoIrqDispatchGapCycles : U32 := 12#32

namespace BiosController

open BiosHleConstants

/-- The state after a reset. -/
def reset : BiosController := ⟨.noBios⟩

/-- The cycles of a dispatch right after the return from another interrupt of the same chain. -/
def chainedDispatchCycles (timing : BiosIrqDispatchTiming) : U32 :=
  let longTimerChainedPostReturnDispatch :=
    timing.chainedPostReturn && timing.timer0InterruptRequested &&
      timing.timer0Reload ≤ 0xFF80#32
  let spacedLongTimerDataDispatch :=
    longTimerChainedPostReturnDispatch && timing.chainedPostReturnSpacedData &&
      0xF800#32 ≤ timing.timer0Reload && timing.timer0Reload < 0xFF80#32
  if longTimerChainedPostReturnDispatch && !timing.chainedPostReturnData then
    let cycles := kIrqChainedPostReturnDispatchCycles +
      kBiosHleLongTimerNonDataIrqDispatchExtraCycles
    if timing.timer0Reload ≤ 0x8000#32 ∧
        kLooseTimerIoIrqDispatchGapCycles ≤ timing.timerIoAccessGapCycles then
      cycles - kBiosHleVeryLongTimerNonDataIrqDispatchAdvanceCycles
    else cycles
  else if spacedLongTimerDataDispatch then
    kIrqChainedPostReturnDispatchCycles - kBiosHleSpacedTimerDataIrqDispatchAdvanceCycles
  else kIrqChainedPostReturnDispatchCycles

/-- `irq_dispatch_cycles`. -/
def irqDispatchCycles (timing : BiosIrqDispatchTiming) : U32 :=
  if timing.reentry then kIrqReentryDispatchCycles
  else if timing.chainedPostReturn then chainedDispatchCycles timing
  else if timing.postReturn then kIrqPostReturnDispatchCycles
  else kIrqDispatchCycles

/-- `irq_return_cycles`. -/
def irqReturnCycles (longTimerChainedReturn slowTimer0ActiveReturn : Bool) : U32 :=
  kIrqReturnCycles +
    (if longTimerChainedReturn then kBiosHleLongTimerChainedPostReturnExtraCycles else 0) +
    (if slowTimer0ActiveReturn then kBiosHleSlowTimer0ActiveReturnExtraCycles else 0)

end BiosController

end Gba.Core
