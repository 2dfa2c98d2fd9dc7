import Gba.Core.DeviceInvariant
import Gba.Core.HleWork

/-!
# Transparency of emulated interrupts

An interrupt that the emulated BIOS dispatches to a handler of the program and returns from is
invisible to the interrupted program: registers, address and status come back, whatever interrupts
the handler itself let in. The scheduler keeps the return address and the registers of the current
interrupt, and a stack of those of the interrupts it interrupted.
-/

namespace Gba.Core

open BiosHleConstants

/-- The part of the scheduler that remembers interrupted programs. -/
@[ext]
structure HleContext where
  returnLr : Option U32
  savedRegisters : Option (Fin 13 → U32)
  outerFrames : List HleIrqFrame

/-- The frames that remember the interrupted programs, once the given ones have been interrupted
again: the current program joins the stack if a handler runs for it. -/
def HleContext.Pushed (before : HleContext) (frames : List HleIrqFrame) : Prop :=
  ∀ returnLr saved, before.returnLr = some returnLr → before.savedRegisters = some saved →
    ∃ longTimer slowTimer0,
      frames = before.outerFrames ++ [⟨returnLr, some saved, longTimer, slowTimer0⟩]

/-- The remembered programs of a scheduler. -/
def CoreSchedulerState.hleContext (state : CoreSchedulerState) : HleContext :=
  ⟨state.hleIrqReturnLr, state.hleIrqSavedRegisters, state.hleIrqOuterFrames⟩

/-- The link value of an interrupt: the next instruction with the correction of the instruction
set. -/
def RegisterFile.irqLink (f : RegisterFile) : U32 := f.pc + if f.status.thumbState then 2 else 4

theorem RegisterFile.enterIrq_lr (f : RegisterFile) : f.enterIrq.lr .irq = f.irqLink := by
  simp only [enterIrq, irqLink, Function.update_self]

/-- `r0` to `r12` as IRQ mode sees them. -/
def RegisterFile.irqRegisters (f : RegisterFile) : Fin 13 → U32 := fun index =>
  if h : index.val < 8 then f.low ⟨index.val, h⟩ else f.high false ⟨index.val - 8, by omega⟩

namespace CoreSession

/-! ## Device time leaves the processor alone -/

/-- Nothing has happened to the program or to the programs it interrupted. -/
structure SameProgram (before after : CoreSession) : Prop where
  cpu : after.cpu = before.cpu
  bios : after.bios = before.bios
  context : after.scheduler.hleContext = before.scheduler.hleContext

/-- Passing time leaves the program alone. -/
theorem Passed.same {before after : CoreSession} (h : Passed before after) :
    SameProgram before after where
  cpu := h.cpu
  bios := h.bios
  context := by rw [h.scheduler]; rfl

theorem noteTimerIrq_system (session : CoreSession) (cycles : U32) (firstIrqCycle : U64) :
    (session.noteTimerIrq cycles firstIrqCycle).system = session.system := by
  unfold noteTimerIrq
  exact (apply_ite CoreSession.system _ _ _).trans (ite_self _)

theorem finishAdvance_system (session : CoreSession) (irqReadyBefore : Bool) (cycles : U32)
    (advanced : DeviceAdvance) :
    (session.finishAdvance irqReadyBefore cycles advanced).system = advanced.system := by
  unfold finishAdvance
  cases advanced.firstIrqCycle with
  | none => rfl
  | some firstIrqCycle =>
      dsimp only
      rw [apply_ite CoreSession.system, noteTimerIrq_system]
      exact ite_self _

/-- From live devices `advance_devices` returns, and leaves the program alone. -/
theorem advanceDevices_same (session : CoreSession) (h : session.system.devices.Live)
    (cycles : U32) :
    ∃ result next, session.advanceDevices cycles = some (result, next) ∧
      SameProgram session next ∧ next.system.devices.Live := by
  unfold advanceDevices
  split
  · exact ⟨_, session, rfl, ⟨rfl, rfl, rfl⟩, h⟩
  · have hstart : (DeviceAdvance.start session.system cycles).Live := h
    obtain ⟨advanced, hloop, hlive⟩ := DeviceAdvance.advanceLoop_live hstart
    rw [hloop]
    refine ⟨_, _, rfl, (finishAdvance_passed _ _ _ _).same, ?_⟩
    rw [finishAdvance_system]
    exact hlive

theorem live_ite {c : Prop} [Decidable c] {system other : System} (h : system.devices.Live)
    (h' : other.devices.Live) : (if c then system else other).devices.Live := by
  split
  · exact h
  · exact h'

/-! ## Admission -/

/-- A session in which a program, whose registers are `f`, has just been interrupted: the processor
has entered the interrupt and the scheduler has latched a return address. -/
structure Admitted (f : RegisterFile) (session : CoreSession) : Prop where
  hle : session.biosHleEnabled = true
  live : session.system.devices.Live
  file : session.cpu.registerFile = f.enterIrq
  named : f.status.mode ∈ CpuMode.named
  link : f.irqLink ≠ kIrqReturnSentinelPc
  latched : session.scheduler.hleIrqReturnLr.isSome

/-- A program that an interrupt is about to interrupt: interrupts are enabled and one is pending,
the BIOS is emulated, and the link value is not the sentinel that marks a return. -/
structure Interruptible (session : CoreSession) : Prop where
  hle : session.biosHleEnabled = true
  live : session.system.devices.Live
  named : session.cpu.mode ∈ CpuMode.named
  ready : session.irqReady = true
  link : session.cpu.registerFile.irqLink ≠ kIrqReturnSentinelPc

/-- The link register of IRQ mode is the visible one in IRQ mode. -/
theorem link_irq {cpu : Arm7tdmi} (h : cpu.mode = .irq) :
    cpu.registers Arm7tdmi.kLinkRegister = cpu.registerFile.lr .irq := by
  show _ = if cpu.mode.registerBank = some .irq then _ else _
  rw [h]
  exact (if_pos rfl).symm

/-- What `service_pending_irq` does to an interruptible program: it enters the interrupt, copies the
link value to memory and latches it. -/
theorem servicePendingIrq_eq {session : CoreSession} (h : session.Interruptible)
    (fromDataAccess fromSpacedTimerIoAccess : Bool) :
    ∃ scheduler, session.servicePendingIrq fromDataAccess fromSpacedTimerIoAccess =
        (true,
          { session with
            cpu := session.cpu.enterException .irq
            system := (session.system.write32 ioCallbacks 0x03007FF8#32
              session.cpu.registerFile.irqLink).2
            scheduler := scheduler }) ∧
      scheduler.hleContext =
        { session.scheduler.hleContext with
          returnLr := some (session.scheduler.hleIrqReturnLr.getD
            session.cpu.registerFile.irqLink) } := by
  have hfile := session.cpu.enterException_registerFile h.named
  have hmode : (session.cpu.enterException .irq).mode = .irq :=
    congrArg (fun file => file.status.mode) hfile
  have hlink : (session.cpu.enterException .irq).registers Arm7tdmi.kLinkRegister =
      session.cpu.registerFile.irqLink := by
    rw [link_irq hmode, hfile, RegisterFile.enterIrq_lr]
  have hcontrols : session.irqReady = true := h.ready
  unfold servicePendingIrq
  rw [if_neg (by rw [hcontrols]; decide)]
  dsimp only
  rw [hlink, if_pos ⟨h.hle, h.link⟩]
  refine ⟨_, rfl, ?_⟩
  unfold CoreSchedulerState.hleContext
  dsimp only
  split <;> rfl

/-- An interruptible program is interrupted. -/
theorem servicePendingIrq_admitted {session : CoreSession} (h : session.Interruptible)
    (fromDataAccess fromSpacedTimerIoAccess : Bool) :
    ∃ admitted, session.servicePendingIrq fromDataAccess fromSpacedTimerIoAccess =
        (true, admitted) ∧
      Admitted session.cpu.registerFile admitted ∧
      admitted.cpu = session.cpu.enterException .irq ∧
      admitted.scheduler.hleContext =
        { session.scheduler.hleContext with
          returnLr := some (session.scheduler.hleIrqReturnLr.getD
            session.cpu.registerFile.irqLink) } := by
  obtain ⟨scheduler, hservice, hcontext⟩ :=
    servicePendingIrq_eq h fromDataAccess fromSpacedTimerIoAccess
  have hfile := session.cpu.enterException_registerFile h.named
  refine ⟨_, hservice, ⟨h.hle, ?_, hfile, h.named, h.link, ?_⟩, rfl, hcontext⟩
  · exact live_deviceInvariant.io.write32_bus h.live _ _
  · have hreturnLr := congrArg HleContext.returnLr hcontext
    exact Option.isSome_iff_exists.mpr ⟨_, hreturnLr⟩

/-! ## Dispatch

The handler is entered in IRQ mode with the sentinel as its return address.
-/

/-- The word that sets or clears the Thumb bit keeps the mode. -/
theorem decodeCpuMode_thumb (word : U32) :
    decodeCpuMode (word ||| kThumbStateFlag) = decodeCpuMode word ∧
      decodeCpuMode (word &&& ~~~kThumbStateFlag) = decodeCpuMode word := by
  have hset : (word ||| kThumbStateFlag) &&& kModeMask = word &&& kModeMask := by
    rw [BitVec.and_or_distrib_right]
    exact BitVec.or_zero
  have hclear : word &&& ~~~kThumbStateFlag &&& kModeMask = word &&& kModeMask := by
    rw [BitVec.and_assoc]
    rfl
  unfold decodeCpuMode
  rw [hset, hclear]
  exact ⟨rfl, rfl⟩

/-- Setting the status to itself, but for the Thumb bit. -/
theorem setCpsr_thumb (cpu : Arm7tdmi) (h : cpu.mode ∈ CpuMode.named) (thumb : Bool) :
    ∃ after, cpu.setCpsr
        (if thumb then cpu.cpsr ||| kThumbStateFlag else cpu.cpsr &&& ~~~kThumbStateFlag) =
          some after ∧
      after.mode = cpu.mode ∧
      after.registers = cpu.registers ∧
      ∃ status, after.registerFile = { cpu.registerFile with status := status } := by
  obtain ⟨hset, hclear⟩ := decodeCpuMode_thumb cpu.cpsr
  have hdecode : decodeCpuMode cpu.cpsr = some cpu.mode :=
    (ProgramStatus.ofWord_toWord cpu.status h).1
  have hmode : decodeCpuMode
      (if thumb then cpu.cpsr ||| kThumbStateFlag else cpu.cpsr &&& ~~~kThumbStateFlag) =
        some cpu.mode := by
    cases thumb with
    | false => exact hclear.trans hdecode
    | true => exact hset.trans hdecode
  obtain ⟨after, hafter, hfile⟩ := cpu.setCpsr_registerFile hmode
  refine ⟨after, hafter, congrArg (fun file => file.status.mode) hfile, ?_, _, hfile⟩
  rw [Arm7tdmi.setCpsr, hmode] at hafter
  obtain rfl := Option.some.inj hafter
  dsimp only
  rw [Arm7tdmi.switchMode_self _ rfl]

/-- A session that runs the handler of an interrupt: `f` is the interrupted program, `before` what
the scheduler remembered then. The registers that no other program may touch are those of the
interrupted one. -/
structure Handling (f : RegisterFile) (before : HleContext) (session : CoreSession) : Prop where
  hle : session.biosHleEnabled = true
  live : session.system.devices.Live
  high : session.cpu.registerFile.high true = f.high true
  sp : ∀ bank, bank ≠ .irq → bank ≠ .user → session.cpu.registerFile.sp bank = f.sp bank
  lr : ∀ bank, bank ≠ .irq → bank ≠ .user → session.cpu.registerFile.lr bank = f.lr bank
  savedPsr : ∀ bank, bank ≠ .irq → session.cpu.savedPsr bank = f.savedPsr bank
  returnLr : session.scheduler.hleIrqReturnLr = some f.irqLink
  registers : session.scheduler.hleIrqSavedRegisters = some f.irqRegisters
  pushed : before.Pushed session.scheduler.hleIrqOuterFrames

/-- The registers that the return needs: IRQ mode with the stack pointer and saved status of the
entry, and the stack pointer and link register of user mode as they were. -/
structure Returning (f : RegisterFile) (session : CoreSession) : Prop where
  mode : session.cpu.mode = .irq
  spIrq : session.cpu.registerFile.sp .irq = f.sp .irq
  spUser : session.cpu.registerFile.sp .user = f.sp .user
  lrUser : session.cpu.registerFile.lr .user = f.lr .user
  savedPsr : session.cpu.savedPsr .irq = f.status.toWord

/-- The registers that IRQ mode sees are saved at dispatch. -/
theorem irqRegisters_eq {cpu : Arm7tdmi} (h : cpu.mode = .irq) {index : Fin 16}
    (hindex : index.val < 13) :
    cpu.registers index = cpu.registerFile.irqRegisters ⟨index.val, hindex⟩ := by
  unfold RegisterFile.irqRegisters
  dsimp only
  split
  · rfl
  · have hhigh : cpu.registerFile.high false = cpu.r8R12 := by
      show (if (cpu.mode = CpuMode.fiq) = (false = true) then _ else _) = _
      rw [h]
      exact if_pos (by decide)
    rw [hhigh]
    refine congrArg cpu.registers (Fin.ext ?_)
    show index.val = 8 + (index.val - 8)
    omega

/-- The registers in which a handler starts. -/
theorem handlerFile {f : RegisterFile} {cpu cpu' : Arm7tdmi} {status : ProgramStatus}
    (hfile : cpu.registerFile = f.enterIrq) (hmode : cpu'.mode = .irq)
    (hfile' : cpu'.registerFile = { cpu.registerFile with status := status }) (pc : U32) :
    ((cpu'.setRegister Arm7tdmi.kLinkRegister kIrqReturnSentinelPc).setRegister
        Arm7tdmi.kPc pc).registerFile =
      { f.enterIrq with
        lr := Function.update f.enterIrq.lr .irq kIrqReturnSentinelPc
        pc := pc
        status := status } := by
  have hbank : cpu'.mode.registerBank = some .irq := by
    rw [hmode]
    rfl
  rw [Arm7tdmi.setRegister_pc_registerFile,
    Arm7tdmi.setRegister_lr_registerFile _ _ hbank, hfile', hfile]

/-- Dispatch enters the handler of an admitted interrupt. -/
theorem enterHandler_handling {f : RegisterFile} {session : CoreSession} (h : Admitted f session)
    {handler : U32}
    (hread : session.system.read32 ioCallbacks kUserIrqHandlerPointer = some handler)
    (hhandler : handler ≠ 0) :
    ∃ cycles entered, session.enterHandler kIrqVectorAddress = some (cycles, entered) ∧
      Handling f session.scheduler.hleContext entered ∧ Returning f entered := by
  have hmode : session.cpu.mode = .irq := congrArg (fun file => file.status.mode) h.file
  obtain ⟨cpu, hset, hcpuMode, hregisters, status, hcpuFile⟩ :=
    setCpsr_thumb session.cpu (by rw [hmode]; decide) (anySet handler 0x1#32)
  rw [hmode] at hcpuMode
  -- the entry saves what the interrupted program had, which the entered file still shows
  have hlink : cpu.registers Arm7tdmi.kLinkRegister = f.irqLink := by
    rw [hregisters, link_irq hmode, h.file, RegisterFile.enterIrq_lr]
  have hsaved : (fun index : Fin 13 => cpu.registers ⟨index.val, by omega⟩) = f.irqRegisters := by
    funext index
    rw [hregisters, irqRegisters_eq hmode index.isLt, h.file]
    rfl
  have hfile := handlerFile h.file hcpuMode hcpuFile (handler &&& ~~~0x1#32)
  have hconditions : ¬((!session.biosHleEnabled) = true ∨ kIrqVectorAddress ≠ kIrqVectorAddress ∨
      session.cpu.mode ≠ .irq) := by
    rw [h.hle, hmode]
    simp
  unfold enterHandler
  rw [if_neg hconditions, hread]
  simp only [Option.bind_eq_bind, Option.bind_some, hset, if_neg hhandler, hlink, hsaved,
    decide_eq_true h.link, if_true, true_and]
  refine ⟨_, _, rfl, ⟨h.hle, ?_, ?_, ?_, ?_, ?_, rfl, rfl, ?_⟩, ⟨hcpuMode, ?_, ?_, ?_, ?_⟩⟩
  · exact live_ite (live_deviceInvariant.io.write32_bus h.live _ _) h.live
  · show (Arm7tdmi.setRegister _ _ _).registerFile.high true = _
    rw [hfile]
    rfl
  · intro bank _ _
    show (Arm7tdmi.setRegister _ _ _).registerFile.sp bank = _
    rw [hfile]
    rfl
  · intro bank hirq _
    show (Arm7tdmi.setRegister _ _ _).registerFile.lr bank = _
    rw [hfile]
    simp only [RegisterFile.enterIrq, Function.update_of_ne hirq]
  · intro bank hirq
    refine (congrArg (fun file => file.savedPsr bank) hfile).trans ?_
    simp only [RegisterFile.enterIrq, Function.update_of_ne hirq]
  · intro returnLr saved hreturnLr hregistersSaved
    dsimp only
    replace hreturnLr : session.scheduler.hleIrqReturnLr = some returnLr := hreturnLr
    replace hregistersSaved : session.scheduler.hleIrqSavedRegisters = some saved :=
      hregistersSaved
    rw [hreturnLr, hregistersSaved]
    exact ⟨_, _, rfl⟩
  · show (Arm7tdmi.setRegister _ _ _).registerFile.sp .irq = _
    rw [hfile]
    rfl
  · show (Arm7tdmi.setRegister _ _ _).registerFile.sp .user = _
    rw [hfile]
    rfl
  · show (Arm7tdmi.setRegister _ _ _).registerFile.lr .user = _
    rw [hfile]
    simp only [RegisterFile.enterIrq, reduceCtorEq, ne_eq, not_false_eq_true,
      Function.update_of_ne]
  · refine (congrArg (fun file => file.savedPsr .irq) hfile).trans ?_
    simp only [RegisterFile.enterIrq, Function.update_self]

/-- A handler does not notice that time passes. -/
theorem Handling.same {f : RegisterFile} {before : HleContext} {session after : CoreSession}
    (h : Handling f before session) (hsame : SameProgram session after)
    (hlive : after.system.devices.Live) : Handling f before after where
  hle := by
    unfold biosHleEnabled
    rw [hsame.bios]
    exact h.hle
  live := hlive
  high := by
    rw [hsame.cpu]
    exact h.high
  sp := by
    rw [hsame.cpu]
    exact h.sp
  lr := by
    rw [hsame.cpu]
    exact h.lr
  savedPsr := by
    rw [hsame.cpu]
    exact h.savedPsr
  returnLr := (congrArg HleContext.returnLr hsame.context).trans h.returnLr
  registers := (congrArg HleContext.savedRegisters hsame.context).trans h.registers
  pushed := by
    have hframes := congrArg HleContext.outerFrames hsame.context
    exact fun returnLr saved hreturnLr hsaved =>
      (h.pushed returnLr saved hreturnLr hsaved).imp fun _ ⟨slowTimer0, hpushed⟩ =>
        ⟨slowTimer0, hframes.trans hpushed⟩

theorem Returning.same {f : RegisterFile} {session after : CoreSession}
    (h : Returning f session) (hsame : SameProgram session after) : Returning f after := by
  obtain ⟨hmode, hspIrq, hspUser, hlrUser, hsaved⟩ := h
  constructor
  all_goals rw [hsame.cpu]; assumption

/-- Dispatch enters the handler and charges its cycles. -/
theorem dispatchHleIrqVector_eq {session handling entered : CoreSession} {cycles : U32}
    {devices : CoreDeviceTickResult}
    (henter : session.enterHandler kIrqVectorAddress = some (cycles, handling))
    (hadvance : handling.advanceDevices cycles = some (devices, entered)) :
    ∃ result, session.dispatchHleIrqVector kIrqVectorAddress = some (some result, entered) := by
  unfold dispatchHleIrqVector
  rw [henter]
  dsimp only
  rw [hadvance]
  exact ⟨_, rfl⟩

/-- Dispatch runs the handler of an admitted interrupt. -/
theorem dispatchHleIrqVector_handling {f : RegisterFile} {session : CoreSession}
    (h : Admitted f session) {handler : U32}
    (hread : session.system.read32 ioCallbacks kUserIrqHandlerPointer = some handler)
    (hhandler : handler ≠ 0) :
    ∃ result entered,
      session.dispatchHleIrqVector kIrqVectorAddress = some (some result, entered) ∧
      Handling f session.scheduler.hleContext entered ∧ Returning f entered := by
  obtain ⟨cycles, handling, henter, hhandling, hreturning⟩ :=
    enterHandler_handling h hread hhandler
  obtain ⟨devices, entered, hadvance, hsame, hlive⟩ := advanceDevices_same _ hhandling.live cycles
  obtain ⟨result, hdispatch⟩ := dispatchHleIrqVector_eq henter hadvance
  exact ⟨result, entered, hdispatch, hhandling.same hsame hlive, hreturning.same hsame⟩

/-! ## Return

The saved registers, the link value and the saved status restore the interrupted program.
-/

/-- The processor that `dispatch_hle_irq_return` leaves to the interrupted program. -/
def resumedCpu (session : CoreSession) : Option Arm7tdmi :=
  session.returnLink.bind fun returnLr =>
    let restored := restoreRegisters returnLr session.scheduler.hleIrqSavedRegisters session.cpu
    restored.returnFromException (match restored.spsr with
      | some spsr => if anySet spsr kThumbStateFlag then 2 else 4
      | none => 4)

/-- The recovery heuristic does not fire where the interrupted program resumes. -/
def ResumesPlainly (session : CoreSession) : Prop :=
  ∀ cpu, session.resumedCpu = some cpu → { session with cpu := cpu }.thumbMisfetch = false

/-- The registers after the saved ones have been copied back, in IRQ mode. -/
theorem restoreRegisters_registerFile {f : RegisterFile} {cpu : Arm7tdmi} (h : cpu.mode = .irq)
    (returnLr : U32) :
    let restored := restoreRegisters returnLr (some f.irqRegisters) cpu
    restored.mode = .irq ∧ restored.registers Arm7tdmi.kLinkRegister = returnLr ∧
      restored.registerFile.low = f.low ∧ restored.registerFile.high false = f.high false ∧
      restored.registerFile.high true = cpu.registerFile.high true ∧
      restored.registerFile.sp = cpu.registerFile.sp ∧
      (∀ bank, bank ≠ .irq → restored.registerFile.lr bank = cpu.registerFile.lr bank) ∧
      restored.savedPsr = cpu.savedPsr := by
  intro restored
  have hmode : restored.mode = .irq := h
  have hlow : ∀ index : Fin 16, (hindex : index.val < 13) →
      restored.registers index = f.irqRegisters ⟨index.val, hindex⟩ :=
    fun index hindex => dif_pos hindex
  refine ⟨hmode, ?_, ?_, ?_, ?_, ?_, ?_, rfl⟩
  · exact Function.update_self Arm7tdmi.kLinkRegister returnLr cpu.registers
  · funext index
    refine (hlow ⟨index.val, by omega⟩ (by dsimp only; omega)).trans ?_
    exact dif_pos index.isLt
  · have hvisible : restored.registerFile.high false = restored.r8R12 := by
      show (if (restored.mode = CpuMode.fiq) = (false = true) then _ else _) = _
      rw [hmode]
      exact if_pos (by decide)
    rw [hvisible]
    funext index
    refine (hlow ⟨8 + index.val, by omega⟩ (by dsimp only; omega)).trans ?_
    refine (dif_neg (by dsimp only; omega)).trans ?_
    exact congrArg (f.high false) (Fin.ext (Nat.add_sub_cancel_left _ _))
  · show (if (cpu.mode = CpuMode.fiq) = (true = true) then _ else _) =
      if (cpu.mode = CpuMode.fiq) = (true = true) then _ else _
    rw [h]
    rfl
  · funext bank
    show (if cpu.mode.registerBank = some bank then _ else _) =
      if cpu.mode.registerBank = some bank then _ else _
    refine if_congr Iff.rfl ?_ rfl
    have hne : Arm7tdmi.kStackPointer ≠ Arm7tdmi.kLinkRegister := by decide
    exact Function.update_of_ne hne returnLr cpu.registers
  · intro bank hbank
    have hother : cpu.mode.registerBank ≠ some bank := by
      rw [h]
      exact fun heq => hbank (Option.some.inj heq).symm
    show (if cpu.mode.registerBank = some bank then _ else _) =
      if cpu.mode.registerBank = some bank then _ else _
    rw [if_neg hother, if_neg hother]
    rfl

/-- The saved status of a program in Thumb state has the Thumb bit. -/
theorem anySet_toWord_thumb {status : ProgramStatus} (h : status.mode ∈ CpuMode.named) :
    anySet status.toWord kThumbStateFlag = status.thumbState :=
  congrArg ProgramStatus.thumbState (ProgramStatus.ofWord_toWord status h).2

/-- The status that the return reads is the one saved at the entry. -/
theorem restored_spsr {f : RegisterFile} {session : CoreSession} (h : Returning f session) :
    (restoreRegisters f.irqLink (some f.irqRegisters) session.cpu).spsr =
      some f.status.toWord := by
  obtain ⟨hmode, -, -, -, -, -, -, hsaved⟩ :=
    restoreRegisters_registerFile (f := f) h.mode f.irqLink
  rw [Arm7tdmi.spsr, hmode, ← h.savedPsr, ← hsaved]
  rfl

/-- The return restores the interrupted program. -/
theorem resumedCpu_restores {f : RegisterFile} {before : HleContext} {session : CoreSession}
    (h : Handling f before session) (hreturning : Returning f session)
    (hnamed : f.status.mode ∈ CpuMode.named) :
    ∃ cpu,
      (restoreRegisters f.irqLink (some f.irqRegisters) session.cpu).returnFromException
        (if f.status.thumbState then 2 else 4) = some cpu ∧
      session.resumedCpu = some cpu ∧ f.Restores cpu.registerFile := by
  obtain ⟨hmode, hlr, hlow, hshared, hfiq, hsp, hother, hsaved⟩ :=
    restoreRegisters_registerFile (f := f) hreturning.mode f.irqLink
  have hpsr := (congrFun hsaved .irq).trans hreturning.savedPsr
  obtain ⟨cpu, hreturn, hfile⟩ := Arm7tdmi.returnFromException_registerFile hmode hnamed hpsr
    (if f.status.thumbState then 2 else 4)
  refine ⟨cpu, hreturn, ?_, ?_⟩
  · unfold resumedCpu returnLink
    rw [h.returnLr, h.registers]
    simp only [Option.bind_some, restored_spsr hreturning, anySet_toWord_thumb hnamed]
    exact hreturn
  · rw [hfile]
    refine ⟨hlow, ?_, ?_, ?_, ?_, ?_, rfl⟩
    · funext fiq
      cases fiq with
      | false => exact hshared
      | true => exact hfiq.trans h.high
    · refine hsp.trans (funext fun bank => ?_)
      by_cases hirq : bank = .irq
      · rw [hirq]
        exact hreturning.spIrq
      · by_cases huser : bank = .user
        · rw [huser]
          exact hreturning.spUser
        · exact h.sp bank hirq huser
    · intro bank hirq
      refine (hother bank hirq).trans ?_
      by_cases huser : bank = .user
      · rw [huser]
        exact hreturning.lrUser
      · exact h.lr bank hirq huser
    · intro bank hirq
      exact (congrFun hsaved bank).trans (h.savedPsr bank hirq)
    · show (restoreRegisters f.irqLink (some f.irqRegisters) session.cpu).registers _ - _ = f.pc
      rw [hlr]
      unfold RegisterFile.irqLink
      exact add_sub_cancel_right _ _

/-- A session that has returned from the handler of an interrupt of `f`. What the scheduler
remembered of a program that `f` itself had interrupted is back. -/
structure Resumed (f : RegisterFile) (before : HleContext) (session : CoreSession) : Prop where
  hle : session.biosHleEnabled = true
  live : session.system.devices.Live
  restores : f.Restores session.cpu.registerFile
  context : before.returnLr.isSome → before.savedRegisters.isSome →
    session.scheduler.hleContext = before

/-- The frame of the program that was interrupted again becomes the current one. -/
theorem popFrame_context {before : HleContext} {state : CoreSchedulerState}
    (h : before.Pushed state.hleIrqOuterFrames) (hreturn : before.returnLr.isSome)
    (hsaved : before.savedRegisters.isSome) : (popFrame state).hleContext = before := by
  obtain ⟨returnLr, hreturnLr⟩ := Option.isSome_iff_exists.mp hreturn
  obtain ⟨saved, hregisters⟩ := Option.isSome_iff_exists.mp hsaved
  obtain ⟨longTimer, slowTimer0, hframes⟩ := h returnLr saved hreturnLr hregisters
  have hlast : state.hleIrqOuterFrames.getLast? =
      some ⟨returnLr, some saved, longTimer, slowTimer0⟩ := by
    rw [hframes]
    exact List.getLast?_concat
  have hdrop : state.hleIrqOuterFrames.dropLast = before.outerFrames := by
    rw [hframes]
    exact List.dropLast_concat
  unfold popFrame
  rw [hlast, CoreSchedulerState.hleContext]
  dsimp only
  rw [hdrop]
  exact HleContext.ext hreturnLr.symm hregisters.symm rfl

/-- `dispatch_hle_irq_return` puts the interrupted program back, lets the time of the return pass
and then services what is pending. -/
theorem dispatchHleIrqReturn_eq {f : RegisterFile} {before : HleContext} {session : CoreSession}
    (h : Handling f before session) (hreturning : Returning f session)
    (hnamed : f.status.mode ∈ CpuMode.named) (hplain : session.ResumesPlainly) :
    ∃ cpu longTimer slowTimer0, f.Restores cpu.registerFile ∧
      ∀ {devices advanced},
        ({ session with cpu := cpu }.modifyScheduler popFrame).advanceDevices
          (BiosController.irqReturnCycles longTimer slowTimer0) = some (devices, advanced) →
        ∃ result,
          session.dispatchHleIrqReturn kIrqReturnSentinelPc =
            some (some result, advanced.serviceAfterReturn.2) ∧
          result.cpuStep.status = .executed ∧
          result.irqServiced = advanced.serviceAfterReturn.1 := by
  obtain ⟨cpu, hreturn, hresumed, hrestores⟩ := resumedCpu_restores h hreturning hnamed
  let timer0 := session.system.devices.timers.timers 0
  refine ⟨cpu, session.scheduler.hleIrqLongTimerChainedReturnPending,
    session.scheduler.hleIrqSlowTimer0ReturnPending && timer0.enabled &&
      1#16 < timer0.prescalerDivisor, hrestores, fun hadvance => ?_⟩
  have hlink : session.returnLink = some f.irqLink := by
    unfold returnLink
    rw [h.returnLr]
  have hrecover : { session with cpu := cpu }.recoverThumbStateFromRomMisfetch =
      { session with cpu := cpu } := by
    unfold recoverThumbStateFromRomMisfetch
    rw [hplain cpu hresumed]
    rfl
  have hconditions : ¬((!session.biosHleEnabled) = true ∨
      kIrqReturnSentinelPc ≠ kIrqReturnSentinelPc ∨ session.cpu.mode ≠ .irq) := by
    rw [h.hle, hreturning.mode]
    simp
  unfold dispatchHleIrqReturn
  rw [if_neg hconditions, hlink, h.registers]
  simp only [restored_spsr hreturning, anySet_toWord_thumb hnamed, hreturn, hrecover]
  rw [hadvance]
  exact ⟨_, rfl, rfl, rfl⟩

/-- `dispatch_hle_irq_return` resumes the interrupted program, and then services what is still
pending. -/
theorem dispatchHleIrqReturn_resumed {f : RegisterFile} {before : HleContext}
    {session : CoreSession} (h : Handling f before session) (hreturning : Returning f session)
    (hnamed : f.status.mode ∈ CpuMode.named) (hplain : session.ResumesPlainly) :
    ∃ result advanced,
      session.dispatchHleIrqReturn kIrqReturnSentinelPc =
        some (some result, advanced.serviceAfterReturn.2) ∧
      result.cpuStep.status = .executed ∧
      result.irqServiced = advanced.serviceAfterReturn.1 ∧ Resumed f before advanced := by
  obtain ⟨cpu, longTimer, slowTimer0, hrestores, hdispatch⟩ :=
    dispatchHleIrqReturn_eq h hreturning hnamed hplain
  obtain ⟨devices, advanced, hadvance, hsame, hlive⟩ := advanceDevices_same
    ({ session with cpu := cpu }.modifyScheduler popFrame) h.live
    (BiosController.irqReturnCycles longTimer slowTimer0)
  obtain ⟨result, hreturn, hstatus, hserviced⟩ := hdispatch hadvance
  refine ⟨result, advanced, hreturn, hstatus, hserviced, ?_, hlive, ?_, ?_⟩
  · unfold biosHleEnabled
    rw [hsame.bios]
    exact h.hle
  · rw [hsame.cpu]
    exact hrestores
  · exact fun hreturn hsaved => hsame.context.trans (popFrame_context h.pushed hreturn hsaved)

/-- A resumed program can be interrupted as it could before. -/
theorem Resumed.interruptible {f : RegisterFile} {before : HleContext} {session : CoreSession}
    (h : Resumed f before session) (hnamed : f.status.mode ∈ CpuMode.named)
    (hlink : f.irqLink ≠ kIrqReturnSentinelPc) (hready : session.irqReady = true) :
    session.Interruptible where
  hle := h.hle
  live := h.live
  named := by
    have hmode : session.cpu.mode = f.status.mode := congrArg ProgramStatus.mode h.restores.status
    rw [hmode]
    exact hnamed
  ready := hready
  link := by
    unfold RegisterFile.irqLink
    rw [h.restores.pc, h.restores.status]
    exact hlink

/-- Nothing is pending: the resumed program runs on. -/
theorem serviceAfterReturn_idle {session : CoreSession} (h : session.irqReady = false) :
    session.serviceAfterReturn.1 = false ∧ session.serviceAfterReturn.2.cpu = session.cpu ∧
      session.serviceAfterReturn.2.bios = session.bios ∧
      session.serviceAfterReturn.2.system = session.system ∧
      session.serviceAfterReturn.2.scheduler.hleContext = session.scheduler.hleContext := by
  unfold serviceAfterReturn
  rw [h]
  exact ⟨rfl, rfl, rfl, rfl, rfl⟩

/-- Something is pending: the resumed program is interrupted again. -/
theorem serviceAfterReturn_admitted {session : CoreSession} (h : session.Interruptible) :
    session.serviceAfterReturn.1 = true ∧
      Admitted session.cpu.registerFile session.serviceAfterReturn.2 ∧
      session.serviceAfterReturn.2.cpu = session.cpu.enterException .irq ∧
      session.serviceAfterReturn.2.scheduler.hleContext =
        { session.scheduler.hleContext with
          returnLr := some (session.scheduler.hleIrqReturnLr.getD
            session.cpu.registerFile.irqLink) } := by
  obtain ⟨admitted, hservice, hadmitted, hcpu, hcontext⟩ :=
    servicePendingIrq_admitted h false false
  unfold serviceAfterReturn
  rw [if_pos h.ready, hservice]
  exact ⟨rfl, ⟨hadmitted.hle, hadmitted.live, hadmitted.file, hadmitted.named, hadmitted.link,
    hadmitted.latched⟩, hcpu, hcontext⟩

end CoreSession

end Gba.Core
