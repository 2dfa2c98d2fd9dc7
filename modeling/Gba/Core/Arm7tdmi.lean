import Gba.Core.Words
import Mathlib.Logic.Function.Basic

/-!
# The registers of the ARM7TDMI

The register file of `arm7tdmi.cpp`: the sixteen visible registers, the status flags, the banks
that a mode switch swaps in and out, and the entry to and return from an exception. Instruction
execution is not part of this module.
-/

namespace Gba.Core

/-- `CpuMode`: the underlying byte. A decoded snapshot can hold a byte that names no mode. -/
@[ext]
structure CpuMode where
  value : U8
  deriving DecidableEq, Repr

namespace CpuMode

/-- `CpuMode::user`. -/
def user : CpuMode := ⟨0x10#8⟩
/-- `CpuMode::fiq`. -/
def fiq : CpuMode := ⟨0x11#8⟩
/-- `CpuMode::irq`. -/
def irq : CpuMode := ⟨0x12#8⟩
/-- `CpuMode::supervisor`. -/
def supervisor : CpuMode := ⟨0x13#8⟩
/-- `CpuMode::abort`. -/
def abort : CpuMode := ⟨0x17#8⟩
/-- `CpuMode::undefined`. -/
def undefined : CpuMode := ⟨0x1B#8⟩
/-- `CpuMode::system`. -/
def system : CpuMode := ⟨0x1F#8⟩

/-- The modes that the enumeration names. -/
def named : List CpuMode := [user, fiq, irq, supervisor, abort, undefined, system]

end CpuMode

/-- The banks of the stack pointer and the link register. -/
inductive RegisterBank where
  | user | fiq | irq | supervisor | abort | undefined
  deriving DecidableEq, Repr

/-- The banks of the saved program status register. -/
inductive ExceptionBank where
  | fiq | irq | supervisor | abort | undefined
  deriving DecidableEq, Repr

/-- The stack pointer and link register that a mode uses: the cases of `save_banked_registers` and
`load_banked_registers`. -/
def CpuMode.registerBank (mode : CpuMode) : Option RegisterBank :=
  if mode = .fiq then some .fiq
  else if mode = .irq then some .irq
  else if mode = .supervisor then some .supervisor
  else if mode = .abort then some .abort
  else if mode = .undefined then some .undefined
  else if mode = .user ∨ mode = .system then some .user
  else none

/-- The saved status register that a mode has: the cases of `spsr` and `set_spsr`. -/
def CpuMode.spsrBank (mode : CpuMode) : Option ExceptionBank :=
  if mode = .fiq then some .fiq
  else if mode = .supervisor then some .supervisor
  else if mode = .abort then some .abort
  else if mode = .irq then some .irq
  else if mode = .undefined then some .undefined
  else none

/-- `ExceptionKind`. -/
inductive ExceptionKind where
  | reset | undefinedInstruction | softwareInterrupt | prefetchAbort | dataAbort | irq | fiq
  deriving DecidableEq, Repr

/-- `ExceptionVector`. -/
structure ExceptionVector where
  kind : ExceptionKind
  vectorAddress : U32
  mode : CpuMode
  linkOffset : U32
  saveCpsr : Bool
  disableIrq : Bool
  disableFiq : Bool

/-- `Arm7tdmi::exception_vector`. -/
def exceptionVector : ExceptionKind → ExceptionVector
  | .reset => ⟨.reset, 0x00000000#32, .supervisor, 0, false, true, true⟩
  | .undefinedInstruction =>
      ⟨.undefinedInstruction, 0x00000004#32, .undefined, 4, true, true, false⟩
  | .softwareInterrupt => ⟨.softwareInterrupt, 0x00000008#32, .supervisor, 4, true, true, false⟩
  | .prefetchAbort => ⟨.prefetchAbort, 0x0000000C#32, .abort, 4, true, true, false⟩
  | .dataAbort => ⟨.dataAbort, 0x00000010#32, .abort, 8, true, true, false⟩
  | .irq => ⟨.irq, 0x00000018#32, .irq, 4, true, true, false⟩
  | .fiq => ⟨.fiq, 0x0000001C#32, .fiq, 4, true, true, true⟩

/-- `ExecuteStatus`. -/
inductive ExecuteStatus where
  | executed | skippedCondition | unsupported
  deriving DecidableEq, Repr

/-- The members of `Arm7tdmi`. The bank of the current mode is stale: its values are in
`registers` until the next switch. -/
structure Arm7tdmi where
  registers : Fin 16 → U32
  elapsedCycles : U64
  negative : Bool
  zero : Bool
  carry : Bool
  overflow : Bool
  irqDisabled : Bool
  fiqDisabled : Bool
  thumbState : Bool
  mode : CpuMode
  sharedR8R12 : Fin 5 → U32
  fiqR8R12 : Fin 5 → U32
  sp : RegisterBank → U32
  lr : RegisterBank → U32
  savedPsr : ExceptionBank → U32

def kNegativeFlag : U32 := 0x80000000#32
def kZeroFlag : U32 := 0x40000000#32
def kCarryFlag : U32 := 0x20000000#32
def kOverflowFlag : U32 := 0x10000000#32
def kIrqDisableFlag : U32 := 0x00000080#32
def kFiqDisableFlag : U32 := 0x00000040#32
def kThumbStateFlag : U32 := 0x00000020#32
def kModeMask : U32 := 0x0000001F#32

/-- `decode_cpu_mode`. -/
def decodeCpuMode (value : U32) : Option CpuMode :=
  let mode : CpuMode := ⟨(value &&& kModeMask).setWidth 8⟩
  if mode ∈ CpuMode.named then some mode else none

namespace Arm7tdmi

/-- `kLinkRegister`. -/
def kLinkRegister : Fin 16 := ⟨14, by decide⟩

/-- `kPc`. -/
def kPc : Fin 16 := ⟨15, by decide⟩

/-- The stack pointer. -/
def kStackPointer : Fin 16 := ⟨13, by decide⟩

/-- `reset`. -/
def reset : Arm7tdmi where
  registers := fun _ => 0
  elapsedCycles := 0
  negative := false
  zero := false
  carry := false
  overflow := false
  irqDisabled := false
  fiqDisabled := false
  thumbState := false
  mode := .supervisor
  sharedR8R12 := fun _ => 0
  fiqR8R12 := fun _ => 0
  sp := fun _ => 0
  lr := fun _ => 0
  savedPsr := fun _ => 0

/-- `load_state`: a mode byte that decodes to no mode is refused. -/
def loadState (state : Arm7tdmi) : Option Arm7tdmi :=
  if (decodeCpuMode (state.mode.value.setWidth 32)).isSome then some state else none

/-- `set_register`. -/
def setRegister (cpu : Arm7tdmi) (index : Fin 16) (value : U32) : Arm7tdmi :=
  { cpu with registers := Function.update cpu.registers index value }

/-- `cpsr`. -/
def cpsr (cpu : Arm7tdmi) : U32 :=
  cpu.mode.value.setWidth 32 ||| (if cpu.negative then kNegativeFlag else 0) |||
    (if cpu.zero then kZeroFlag else 0) ||| (if cpu.carry then kCarryFlag else 0) |||
    (if cpu.overflow then kOverflowFlag else 0) ||| (if cpu.thumbState then kThumbStateFlag else 0) |||
    (if cpu.fiqDisabled then kFiqDisableFlag else 0) |||
    (if cpu.irqDisabled then kIrqDisableFlag else 0)

/-- The visible `r8` to `r12`. -/
def r8R12 (cpu : Arm7tdmi) : Fin 5 → U32 := fun index => cpu.registers ⟨8 + index.val, by omega⟩

/-- `save_banked_registers`. -/
def saveBankedRegisters (cpu : Arm7tdmi) (mode : CpuMode) : Arm7tdmi :=
  let cpu := if mode = .fiq then { cpu with fiqR8R12 := cpu.r8R12 }
    else { cpu with sharedR8R12 := cpu.r8R12 }
  match mode.registerBank with
  | some bank =>
      { cpu with
        sp := Function.update cpu.sp bank (cpu.registers kStackPointer)
        lr := Function.update cpu.lr bank (cpu.registers kLinkRegister) }
  | none => cpu

/-- `r8` to `r12` replaced, the other registers kept. -/
def withR8R12 (registers : Fin 16 → U32) (values : Fin 5 → U32) : Fin 16 → U32 := fun index =>
  if h : 8 ≤ index.val ∧ index.val < 13 then values ⟨index.val - 8, by omega⟩ else registers index

/-- The register that is the `index`-th of `r8` to `r12`. -/
def highRegister (index : Fin 5) : Fin 16 := ⟨8 + index.val, by omega⟩

/-- The place of a register among `r8` to `r12`. -/
def highIndex (index : Fin 16) (h : 8 ≤ index.val ∧ index.val < 13) : Fin 5 :=
  ⟨index.val - 8, by omega⟩

/-- `load_banked_registers`. -/
def loadBankedRegisters (cpu : Arm7tdmi) (mode : CpuMode) : Arm7tdmi :=
  let registers := withR8R12 cpu.registers (if mode = .fiq then cpu.fiqR8R12 else cpu.sharedR8R12)
  match mode.registerBank with
  | some bank =>
      { cpu with
        registers := Function.update (Function.update registers kStackPointer (cpu.sp bank))
          kLinkRegister (cpu.lr bank) }
  | none => { cpu with registers := registers }

/-- `switch_mode`. -/
def switchMode (cpu : Arm7tdmi) (mode : CpuMode) : Arm7tdmi :=
  if cpu.mode = mode then cpu
  else { cpu.saveBankedRegisters cpu.mode with mode := mode }.loadBankedRegisters mode

/-- `set_cpsr`; nothing for a word that decodes to no mode, and then no change. -/
def setCpsr (cpu : Arm7tdmi) (value : U32) : Option Arm7tdmi :=
  (decodeCpuMode value).map fun mode =>
    { cpu with
      negative := anySet value kNegativeFlag
      zero := anySet value kZeroFlag
      carry := anySet value kCarryFlag
      overflow := anySet value kOverflowFlag
      thumbState := anySet value kThumbStateFlag
      fiqDisabled := anySet value kFiqDisableFlag
      irqDisabled := anySet value kIrqDisableFlag }.switchMode mode

/-- `spsr`. -/
def spsr (cpu : Arm7tdmi) : Option U32 := cpu.mode.spsrBank.map cpu.savedPsr

/-- `set_spsr`; nothing in a mode without a saved status. -/
def setSpsr (cpu : Arm7tdmi) (value : U32) : Option Arm7tdmi :=
  cpu.mode.spsrBank.map fun bank =>
    { cpu with savedPsr := Function.update cpu.savedPsr bank value }

/-- `set_spsr_for_mode`. -/
def setSpsrForMode (cpu : Arm7tdmi) (mode : CpuMode) (value : U32) : Arm7tdmi :=
  match mode.spsrBank with
  | some bank => { cpu with savedPsr := Function.update cpu.savedPsr bank value }
  | none => cpu

/-- The offset of the link register that `enter_exception` uses: exceptions of Thumb state link a
halfword-sized offset for interrupts and software interrupts. -/
def linkOffset (kind : ExceptionKind) (savedCpsr : U32) : U32 :=
  if anySet savedCpsr kThumbStateFlag ∧ (kind = .irq ∨ kind = .softwareInterrupt) then 2
  else (exceptionVector kind).linkOffset

/-- `enter_exception`. -/
def enterException (cpu : Arm7tdmi) (kind : ExceptionKind) : Arm7tdmi :=
  let vector := exceptionVector kind
  let switched := cpu.switchMode vector.mode
  let linked :=
    if vector.saveCpsr then
      (switched.setSpsrForMode vector.mode cpu.cpsr).setRegister kLinkRegister
        (cpu.registers kPc + linkOffset kind cpu.cpsr)
    else switched
  { linked with
    thumbState := false
    irqDisabled := vector.disableIrq || linked.irqDisabled
    fiqDisabled := vector.disableFiq || linked.fiqDisabled }.setRegister kPc vector.vectorAddress

/-- `return_from_exception`; nothing where the source answers `unsupported`. -/
def returnFromException (cpu : Arm7tdmi) (linkAdjustment : U32) : Option Arm7tdmi := do
  let savedPsr ← cpu.spsr
  let returnPc := cpu.registers kLinkRegister - linkAdjustment
  let returned ← cpu.setCpsr savedPsr
  pure (returned.setRegister kPc returnPc)

end Arm7tdmi

end Gba.Core
