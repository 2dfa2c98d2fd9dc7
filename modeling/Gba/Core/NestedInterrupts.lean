import Gba.Core.HleInterrupts

/-!
# Nested interrupts

A handler runs its own code and may, in system mode, let other interrupts in; each of these runs a
handler to its end before the outer one goes on. Read `hleInterrupt_transparent` first: whatever
tree of handlers an interrupt starts, the interrupted program comes back.
-/

namespace Gba.Core

open BiosHleConstants

theorem RegisterFile.Restores.trans {f g k : RegisterFile} (h : f.Restores g)
    (h' : g.Restores k) : f.Restores k where
  low := h'.low.trans h.low
  high := h'.high.trans h.high
  sp := h'.sp.trans h.sp
  lr bank hbank := (h'.lr bank hbank).trans (h.lr bank hbank)
  savedPsr bank hbank := (h'.savedPsr bank hbank).trans (h.savedPsr bank hbank)
  pc := h'.pc.trans h.pc
  status := h'.status.trans h.status

namespace CoreSession

/-- What a handler's own instructions keep. They may change memory, the devices, `r0` to `r12`, the
flags, the mode and every register of IRQ, user and system mode; the other banks belong to the
programs that use those modes. -/
structure HandlerCode (before after : CoreSession) : Prop where
  bios : after.bios = before.bios
  context : after.scheduler.hleContext = before.scheduler.hleContext
  live : before.system.devices.Live → after.system.devices.Live
  high : after.cpu.registerFile.high true = before.cpu.registerFile.high true
  sp : ∀ bank, bank ≠ .irq → bank ≠ .user →
    after.cpu.registerFile.sp bank = before.cpu.registerFile.sp bank
  lr : ∀ bank, bank ≠ .irq → bank ≠ .user →
    after.cpu.registerFile.lr bank = before.cpu.registerFile.lr bank
  savedPsr : ∀ bank, bank ≠ .irq → after.cpu.savedPsr bank = before.cpu.savedPsr bank

/-- A handler ends with a branch to the sentinel in IRQ mode. It has put back what it moved: the
stack pointers and the link register of user mode, and the saved status. -/
structure Leaves (entered exited : CoreSession) : Prop where
  mode : exited.cpu.mode = .irq
  pc : exited.cpu.registers Arm7tdmi.kPc = kIrqReturnSentinelPc
  spIrq : exited.cpu.registerFile.sp .irq = entered.cpu.registerFile.sp .irq
  spUser : exited.cpu.registerFile.sp .user = entered.cpu.registerFile.sp .user
  lrUser : exited.cpu.registerFile.lr .user = entered.cpu.registerFile.lr .user
  savedPsr : exited.cpu.savedPsr .irq = entered.cpu.savedPsr .irq

/-- The word in memory that points to the handler. -/
def HandlerInstalled (session : CoreSession) : Prop :=
  ∃ handler, session.system.read32 ioCallbacks kUserIrqHandlerPointer = some handler ∧ handler ≠ 0

/-- What a run of interrupt handling is about: the code of one handler, or one admitted interrupt
from its dispatch to its return. -/
inductive Phase where
  | handler
  | serve

/-- Well-nested runs. A handler is a sequence of its own code and of served interrupts; serving an
interrupt is its dispatch, its handler and its return, and, where the return services another
interrupt at once, serving that one too. -/
inductive HandlerRun : Phase → CoreSession → CoreSession → Prop
  | start (session : CoreSession) : HandlerRun .handler session session
  | code {entered session after : CoreSession} (hrun : HandlerRun .handler entered session)
      (hcode : HandlerCode session after) : HandlerRun .handler entered after
  | nested {entered session admitted after : CoreSession} {fromDataAccess fromSpaced : Bool}
      (hrun : HandlerRun .handler entered session) (hmode : session.cpu.mode = .system)
      (hready : session.Interruptible)
      (hservice : session.servicePendingIrq fromDataAccess fromSpaced = (true, admitted))
      (hserve : HandlerRun .serve admitted after) : HandlerRun .handler entered after
  | returned {admitted entered exited after : CoreSession}
      {dispatch return_ : CoreSchedulerStepResult} (hhandler : admitted.HandlerInstalled)
      (hdispatch : admitted.dispatchHleIrqVector kIrqVectorAddress = some (some dispatch, entered))
      (hrun : HandlerRun .handler entered exited) (hleaves : entered.Leaves exited)
      (hplain : exited.ResumesPlainly)
      (hreturn : exited.dispatchHleIrqReturn kIrqReturnSentinelPc = some (some return_, after))
      (hdone : return_.irqServiced = false) : HandlerRun .serve admitted after
  | chained {admitted entered exited again after : CoreSession}
      {dispatch return_ : CoreSchedulerStepResult} (hhandler : admitted.HandlerInstalled)
      (hdispatch : admitted.dispatchHleIrqVector kIrqVectorAddress = some (some dispatch, entered))
      (hrun : HandlerRun .handler entered exited) (hleaves : entered.Leaves exited)
      (hplain : exited.ResumesPlainly)
      (hreturn : exited.dispatchHleIrqReturn kIrqReturnSentinelPc = some (some return_, again))
      (hagain : return_.irqServiced = true) (hserve : HandlerRun .serve again after) :
      HandlerRun .serve admitted after

/-! ## One step -/

/-- The handler's own code keeps what the return needs. -/
theorem Handling.code {f : RegisterFile} {before : HleContext} {session after : CoreSession}
    (h : Handling f before session) (hcode : HandlerCode session after) :
    Handling f before after where
  hle := by
    unfold biosHleEnabled
    rw [hcode.bios]
    exact h.hle
  live := hcode.live h.live
  high := hcode.high.trans h.high
  sp bank hirq huser := (hcode.sp bank hirq huser).trans (h.sp bank hirq huser)
  lr bank hirq huser := (hcode.lr bank hirq huser).trans (h.lr bank hirq huser)
  savedPsr bank hirq := (hcode.savedPsr bank hirq).trans (h.savedPsr bank hirq)
  returnLr := (congrArg HleContext.returnLr hcode.context).trans h.returnLr
  registers := (congrArg HleContext.savedRegisters hcode.context).trans h.registers
  pushed := by
    have hframes : after.scheduler.hleIrqOuterFrames = session.scheduler.hleIrqOuterFrames :=
      congrArg HleContext.outerFrames hcode.context
    rw [hframes]
    exact h.pushed

/-- A served interrupt keeps what the return of the handler around it needs. -/
theorem Handling.served {f : RegisterFile} {before : HleContext} {session after : CoreSession}
    (h : Handling f before session)
    (hresumed : Resumed session.cpu.registerFile session.scheduler.hleContext after) :
    Handling f before after := by
  have hcontext : after.scheduler.hleContext = session.scheduler.hleContext :=
    hresumed.context (congrArg Option.isSome h.returnLr) (congrArg Option.isSome h.registers)
  have hframes : after.scheduler.hleIrqOuterFrames = session.scheduler.hleIrqOuterFrames :=
    congrArg HleContext.outerFrames hcontext
  refine ⟨hresumed.hle, hresumed.live, ?_, ?_, ?_, ?_, ?_, ?_, ?_⟩
  · rw [hresumed.restores.high]
    exact h.high
  · intro bank hirq huser
    rw [hresumed.restores.sp]
    exact h.sp bank hirq huser
  · intro bank hirq huser
    exact (hresumed.restores.lr bank hirq).trans (h.lr bank hirq huser)
  · intro bank hirq
    exact (hresumed.restores.savedPsr bank hirq).trans (h.savedPsr bank hirq)
  · exact (congrArg HleContext.returnLr hcontext).trans h.returnLr
  · exact (congrArg HleContext.savedRegisters hcontext).trans h.registers
  · rw [hframes]
    exact h.pushed

/-- A handler that has put everything back can return. -/
theorem Returning.leaves {f : RegisterFile} {entered exited : CoreSession}
    (h : Returning f entered) (hleaves : entered.Leaves exited) : Returning f exited where
  mode := hleaves.mode
  spIrq := hleaves.spIrq.trans h.spIrq
  spUser := hleaves.spUser.trans h.spUser
  lrUser := hleaves.lrUser.trans h.lrUser
  savedPsr := hleaves.savedPsr.trans h.savedPsr

/-- The dispatch of an admitted interrupt is the one that `dispatchHleIrqVector_handling`
describes. -/
theorem handling_of_dispatch {f : RegisterFile} {admitted entered : CoreSession}
    {dispatch : CoreSchedulerStepResult} (h : Admitted f admitted)
    (hhandler : admitted.HandlerInstalled)
    (hdispatch : admitted.dispatchHleIrqVector kIrqVectorAddress =
      some (some dispatch, entered)) :
    Handling f admitted.scheduler.hleContext entered ∧ Returning f entered := by
  obtain ⟨handler, hread, hne⟩ := hhandler
  obtain ⟨_, _, hequation, hhandling⟩ := dispatchHleIrqVector_handling h hread hne
  rw [hdispatch] at hequation
  obtain ⟨-, rfl⟩ := Prod.mk.inj (Option.some.inj hequation)
  exact hhandling

/-- Nothing looks like misfetched Thumb code where the program resumes. -/
theorem Handling.resumesPlainly {f : RegisterFile} {before : HleContext} {session : CoreSession}
    (h : Handling f before session) (hreturning : Returning f session)
    (hnamed : f.status.mode ∈ CpuMode.named)
    (hpc : looksLikeThumbMisfetchAsArm session.system f.pc = false) : session.ResumesPlainly := by
  intro cpu hcpu
  obtain ⟨resumed, -, hresumed, hrestores⟩ := resumedCpu_restores h hreturning hnamed
  obtain rfl := Option.some.inj (hcpu.symm.trans hresumed)
  have hresumes : cpu.registers Arm7tdmi.kPc = f.pc := hrestores.pc
  unfold thumbMisfetch
  rw [hresumes, hpc, Bool.and_false]

/-- A return that services nothing leaves the interrupted program running. -/
theorem resumed_of_return {f : RegisterFile} {before : HleContext} {exited after : CoreSession}
    {return_ : CoreSchedulerStepResult} (h : Handling f before exited)
    (hreturning : Returning f exited) (hnamed : f.status.mode ∈ CpuMode.named)
    (hlink : f.irqLink ≠ kIrqReturnSentinelPc) (hplain : exited.ResumesPlainly)
    (hreturn : exited.dispatchHleIrqReturn kIrqReturnSentinelPc = some (some return_, after))
    (hdone : return_.irqServiced = false) : Resumed f before after := by
  obtain ⟨_, advanced, hequation, -, hserviced, hresumed⟩ :=
    dispatchHleIrqReturn_resumed h hreturning hnamed hplain
  rw [hreturn] at hequation
  obtain ⟨hresult, rfl⟩ := Prod.mk.inj (Option.some.inj hequation)
  obtain rfl := Option.some.inj hresult
  cases hready : advanced.irqReady with
  | true =>
      have hagain := serviceAfterReturn_admitted (hresumed.interruptible hnamed hlink hready)
      rw [hdone, hagain.1] at hserviced
      contradiction
  | false =>
      obtain ⟨-, hcpu, hbios, hsystem, hcontext⟩ := serviceAfterReturn_idle hready
      refine ⟨?_, ?_, ?_, ?_⟩
      · unfold biosHleEnabled
        rw [hbios]
        exact hresumed.hle
      · rw [hsystem]
        exact hresumed.live
      · rw [hcpu]
        exact hresumed.restores
      · rw [hcontext]
        exact hresumed.context

/-- A return that services an interrupt has resumed the program and interrupted it again. -/
theorem admitted_of_return {f : RegisterFile} {before : HleContext} {exited again : CoreSession}
    {return_ : CoreSchedulerStepResult} (h : Handling f before exited)
    (hreturning : Returning f exited) (hnamed : f.status.mode ∈ CpuMode.named)
    (hlink : f.irqLink ≠ kIrqReturnSentinelPc) (hplain : exited.ResumesPlainly)
    (hreturn : exited.dispatchHleIrqReturn kIrqReturnSentinelPc = some (some return_, again))
    (hagain : return_.irqServiced = true) :
    ∃ resumed : CoreSession, Resumed f before resumed ∧
      Admitted resumed.cpu.registerFile again ∧
      (before.returnLr.isSome → before.savedRegisters.isSome →
        again.scheduler.hleContext = before) := by
  obtain ⟨_, advanced, hequation, -, hserviced, hresumed⟩ :=
    dispatchHleIrqReturn_resumed h hreturning hnamed hplain
  rw [hreturn] at hequation
  obtain ⟨hresult, rfl⟩ := Prod.mk.inj (Option.some.inj hequation)
  obtain rfl := Option.some.inj hresult
  cases hready : advanced.irqReady with
  | false =>
      rw [hagain, (serviceAfterReturn_idle hready).1] at hserviced
      contradiction
  | true =>
      obtain ⟨-, hadmitted, -, hcontext⟩ :=
        serviceAfterReturn_admitted (hresumed.interruptible hnamed hlink hready)
      refine ⟨advanced, hresumed, hadmitted, fun hlr hsaved => ?_⟩
      have hbefore := hresumed.context hlr hsaved
      rw [hcontext, hbefore]
      obtain ⟨returnLr, hreturnLr⟩ := Option.isSome_iff_exists.mp hlr
      have hlatched : advanced.scheduler.hleIrqReturnLr = some returnLr :=
        (congrArg HleContext.returnLr hbefore).trans hreturnLr
      rw [hlatched]
      exact HleContext.ext hreturnLr.symm rfl rfl

/-! ## Runs -/

/-- What a run does: a handler keeps what its return needs, and a served interrupt brings its
program back. -/
def RunKeeps : Phase → CoreSession → CoreSession → Prop
  | .handler, entered, session =>
      ∀ f before, Handling f before entered → Handling f before session
  | .serve, admitted, after =>
      ∀ f, Admitted f admitted → Resumed f admitted.scheduler.hleContext after

/-- The induction follows the nesting of the run. -/
theorem HandlerRun.keeps {phase : Phase} {session after : CoreSession}
    (h : HandlerRun phase session after) : RunKeeps phase session after := by
  induction h with
  | start session => exact fun f before hhandling => hhandling
  | code hrun hcode ih => exact fun f before hhandling => (ih f before hhandling).code hcode
  | @nested entered session admitted after fromDataAccess fromSpaced hrun hmode hready hservice
      hserve ihHandler ihServe =>
      intro f before hentered
      have hsession := ihHandler f before hentered
      obtain ⟨_, hequation, hadmitted, -, hcontext⟩ :=
        servicePendingIrq_admitted hready fromDataAccess fromSpaced
      rw [hservice] at hequation
      obtain ⟨-, rfl⟩ := Prod.mk.inj hequation
      -- the current program of the outer handler is already latched
      have hsame : admitted.scheduler.hleContext = session.scheduler.hleContext := by
        rw [hcontext, hsession.returnLr]
        exact HleContext.ext hsession.returnLr.symm rfl rfl
      have hresumed := ihServe _ hadmitted
      rw [hsame] at hresumed
      exact hsession.served hresumed
  | returned hhandler hdispatch hrun hleaves hplain hreturn hdone ih =>
      intro f hadmitted
      obtain ⟨hentered, hreturning⟩ := handling_of_dispatch hadmitted hhandler hdispatch
      exact resumed_of_return (ih f _ hentered) (hreturning.leaves hleaves) hadmitted.named
        hadmitted.link hplain hreturn hdone
  | chained hhandler hdispatch hrun hleaves hplain hreturn hagain hserve ihHandler ihServe =>
      intro f hadmitted
      obtain ⟨hentered, hreturning⟩ := handling_of_dispatch hadmitted hhandler hdispatch
      obtain ⟨resumed, hresumed, hagainAdmitted, hcontext⟩ :=
        admitted_of_return (ihHandler f _ hentered) (hreturning.leaves hleaves) hadmitted.named
          hadmitted.link hplain hreturn hagain
      have hlast := ihServe _ hagainAdmitted
      refine ⟨hlast.hle, hlast.live, hresumed.restores.trans hlast.restores, fun hlr hsaved => ?_⟩
      have hbefore := hcontext hlr hsaved
      refine (hlast.context ?_ ?_).trans hbefore
      · rw [hbefore]
        exact hlr
      · rw [hbefore]
        exact hsaved

/-- Transparency of interrupts. An interruptible program is interrupted; a handler that is
installed is entered; and whatever the handler does, alone or with interrupts nested in it, once it
has left, the return restores the program. Where another interrupt is still pending, the restored
program is interrupted at once. -/
theorem hleInterrupt_transparent {session : CoreSession} (h : session.Interruptible)
    (fromDataAccess fromSpaced : Bool) :
    ∃ admitted, session.servicePendingIrq fromDataAccess fromSpaced = (true, admitted) ∧
      (admitted.HandlerInstalled →
        ∃ dispatch entered,
          admitted.dispatchHleIrqVector kIrqVectorAddress = some (some dispatch, entered) ∧
          ∀ exited, HandlerRun .handler entered exited → entered.Leaves exited →
            exited.ResumesPlainly →
            ∃ return_ after,
              exited.dispatchHleIrqReturn kIrqReturnSentinelPc = some (some return_, after) ∧
              return_.cpuStep.status = .executed ∧
              ∃ resumed : Arm7tdmi,
                session.cpu.registerFile.Restores resumed.registerFile ∧
                after.cpu =
                  if return_.irqServiced then resumed.enterException .irq else resumed) := by
  obtain ⟨admitted, hservice, hadmitted, -, -⟩ :=
    servicePendingIrq_admitted h fromDataAccess fromSpaced
  refine ⟨admitted, hservice, fun ⟨handler, hread, hne⟩ => ?_⟩
  obtain ⟨dispatch, entered, hdispatch, hentered, hreturning⟩ :=
    dispatchHleIrqVector_handling hadmitted hread hne
  refine ⟨dispatch, entered, hdispatch, fun exited hrun hleaves hplain => ?_⟩
  have hexited := hrun.keeps _ _ hentered
  obtain ⟨return_, advanced, hreturn, hstatus, hserviced, hresumed⟩ :=
    dispatchHleIrqReturn_resumed hexited (hreturning.leaves hleaves) hadmitted.named hplain
  refine ⟨return_, _, hreturn, hstatus, advanced.cpu, hresumed.restores, ?_⟩
  rw [hserviced]
  cases hready : advanced.irqReady with
  | false =>
      obtain ⟨hidle, hcpu, -⟩ := serviceAfterReturn_idle hready
      rw [hidle]
      exact hcpu
  | true =>
      obtain ⟨hagain, -, hcpu, -⟩ :=
        serviceAfterReturn_admitted (hresumed.interruptible hadmitted.named hadmitted.link hready)
      rw [hagain]
      exact hcpu

/-- A program in system mode at an address, with a vertical blank interrupt pending and a handler
at the start of internal memory. -/
def waitingSession (pc : U32) : CoreSession where
  cpu := { Arm7tdmi.reset with mode := .system }.setRegister Arm7tdmi.kPc pc
  system :=
    { memory :=
        { MemoryBus.initial with
          iwram := Function.update (fun _ => 0) ⟨0x7FFF, by decide⟩ 0x03#8 }
      devices :=
        { Devices.reset with
          interrupts := ⟨interruptBit .vblank, interruptBit .vblank, true⟩ } }
  bios := ⟨.hle⟩
  scheduler := .reset
  stateGeneration := 0

theorem waitingSession_live (pc : U32) : (waitingSession pc).system.devices.Live :=
  ⟨.reset, show Devices.reset.ppu.lineCycle < kCyclesPerLine by decide⟩

/-- The machine of `waitingSession` once its interrupt is acknowledged. -/
def acknowledgedSystem : System :=
  let waiting := (waitingSession 0x08000000#32).system
  { waiting with
    devices := { waiting.devices with interrupts := ⟨interruptBit .vblank, 0, true⟩ } }

/-- A handler that has acknowledged its interrupt branches to the sentinel. -/
def acknowledged (session : CoreSession) (cpu : Arm7tdmi) : CoreSession :=
  { session with
    cpu := cpu.setRegister Arm7tdmi.kPc kIrqReturnSentinelPc
    system := acknowledgedSystem }

theorem acknowledgedSystem_live : acknowledgedSystem.devices.Live :=
  ⟨.reset, show Devices.reset.ppu.lineCycle < kCyclesPerLine by decide⟩

/-- In the time of a return nothing else becomes pending. -/
theorem acknowledged_interval (longTimer slowTimer0 : Bool) :
    (((DeviceAdvance.start acknowledgedSystem
        (BiosController.irqReturnCycles longTimer slowTimer0)).advanceInterval).map fun a =>
      (a.finished, a.system.devices.interrupts.irqLineActive)) = some (true, false) := by
  cases longTimer <;> cases slowTimer0 <;> decide +kernel

theorem acknowledged_advance {session advanced : CoreSession} {devices : CoreDeviceTickResult}
    {longTimer slowTimer0 : Bool} (hsystem : session.system = acknowledgedSystem)
    (hadvance : session.advanceDevices (BiosController.irqReturnCycles longTimer slowTimer0) =
      some (devices, advanced)) : advanced.irqReady = false := by
  have hcycles : BiosController.irqReturnCycles longTimer slowTimer0 ≠ 0 := by
    cases longTimer <;> cases slowTimer0 <;> decide
  obtain ⟨a, hinterval, hchecked⟩ :=
    Option.map_eq_some_iff.mp (acknowledged_interval longTimer slowTimer0)
  obtain ⟨hfinished, hquiet⟩ := Prod.mk.inj hchecked
  have hgoing : (DeviceAdvance.start acknowledgedSystem
      (BiosController.irqReturnCycles longTimer slowTimer0)).finished = false := by
    cases longTimer <;> cases slowTimer0 <;> decide
  have hloop : (DeviceAdvance.start acknowledgedSystem
      (BiosController.irqReturnCycles longTimer slowTimer0)).advanceLoop = some a := by
    rw [DeviceAdvance.advanceLoop_eq hgoing, hinterval, Option.bind_some,
      DeviceAdvance.advanceLoop, if_pos hfinished]
  unfold advanceDevices at hadvance
  rw [if_neg hcycles, hsystem, hloop, Option.map_some] at hadvance
  obtain ⟨-, rfl⟩ := Prod.mk.inj (Option.some.inj hadvance)
  unfold irqReady
  rw [finishAdvance_system, hquiet]
  rfl

/-- The handler puts the registers back with which it was entered. -/
theorem HandlerCode.acknowledged {entered session : CoreSession}
    (hhigh : entered.cpu.registerFile.high true = session.cpu.registerFile.high true)
    (hsp : ∀ bank, bank ≠ .irq → bank ≠ .user →
      entered.cpu.registerFile.sp bank = session.cpu.registerFile.sp bank)
    (hlr : ∀ bank, bank ≠ .irq → bank ≠ .user →
      entered.cpu.registerFile.lr bank = session.cpu.registerFile.lr bank)
    (hsaved : ∀ bank, bank ≠ .irq → entered.cpu.savedPsr bank = session.cpu.savedPsr bank) :
    HandlerCode session (session.acknowledged entered.cpu) := by
  have hfile : (session.acknowledged entered.cpu).cpu.registerFile =
      { entered.cpu.registerFile with pc := kIrqReturnSentinelPc } :=
    Arm7tdmi.setRegister_pc_registerFile _ _
  constructor
  case bios => rfl
  case context => rfl
  case live => exact fun _ => acknowledgedSystem_live
  case high =>
    rw [hfile]
    exact hhigh
  case sp =>
    rw [hfile]
    exact hsp
  case lr =>
    rw [hfile]
    exact hlr
  case savedPsr => exact hsaved

theorem Leaves.acknowledged (entered session : CoreSession) (hmode : entered.cpu.mode = .irq) :
    entered.Leaves (session.acknowledged entered.cpu) := by
  have hfile : (session.acknowledged entered.cpu).cpu.registerFile =
      { entered.cpu.registerFile with pc := kIrqReturnSentinelPc } :=
    Arm7tdmi.setRegister_pc_registerFile _ _
  exact
    { mode := hmode
      pc := congrArg RegisterFile.pc hfile
      spIrq := congrArg (fun file => file.sp .irq) hfile
      spUser := congrArg (fun file => file.sp .user) hfile
      lrUser := congrArg (fun file => file.lr .user) hfile
      savedPsr := rfl }

/-- The return of a handler that has acknowledged its interrupt services nothing. -/
theorem acknowledged_return {f : RegisterFile} {before : HleContext} {session : CoreSession}
    {cpu : Arm7tdmi} (h : Handling f before (session.acknowledged cpu))
    (hreturning : Returning f (session.acknowledged cpu)) (hnamed : f.status.mode ∈ CpuMode.named)
    (hplain : (session.acknowledged cpu).ResumesPlainly) :
    ∃ result after,
      (session.acknowledged cpu).dispatchHleIrqReturn kIrqReturnSentinelPc =
        some (some result, after) ∧ result.irqServiced = false := by
  obtain ⟨resumed, longTimer, slowTimer0, -, hdispatch⟩ :=
    dispatchHleIrqReturn_eq h hreturning hnamed hplain
  obtain ⟨devices, advanced, hadvance, -, -⟩ := advanceDevices_same
    ({ session.acknowledged cpu with cpu := resumed }.modifyScheduler popFrame) h.live
    (BiosController.irqReturnCycles longTimer slowTimer0)
  obtain ⟨result, hreturn, -, hserviced⟩ := hdispatch hadvance
  have hquiet : advanced.irqReady = false := acknowledged_advance rfl hadvance
  exact ⟨result, _, hreturn, hserviced.trans (serviceAfterReturn_idle hquiet).1⟩

/-- An interrupt whose handler only acknowledges it is served to its end. -/
theorem serve_acknowledged {session : CoreSession} (h : session.Interruptible)
    (hinstalled : (session.servicePendingIrq false false).2.HandlerInstalled)
    (hpc : looksLikeThumbMisfetchAsArm acknowledgedSystem session.cpu.registerFile.pc = false) :
    ∃ admitted after, session.servicePendingIrq false false = (true, admitted) ∧
      HandlerRun .serve admitted after := by
  obtain ⟨admitted, hservice, hadmitted, -, -⟩ := servicePendingIrq_admitted h false false
  rw [hservice] at hinstalled
  obtain ⟨handler, hread, hne⟩ := hinstalled
  obtain ⟨dispatch, entered, hdispatch, hentered, hreturning⟩ :=
    dispatchHleIrqVector_handling hadmitted hread hne
  have hcode : HandlerCode entered (entered.acknowledged entered.cpu) :=
    .acknowledged rfl (fun _ _ _ => rfl) (fun _ _ _ => rfl) fun _ _ => rfl
  have hleaves := Leaves.acknowledged entered entered hreturning.mode
  have hexited := hentered.code hcode
  have hplain := hexited.resumesPlainly (hreturning.leaves hleaves) hadmitted.named hpc
  obtain ⟨return_, after, hreturn, hdone⟩ :=
    acknowledged_return hexited (hreturning.leaves hleaves) hadmitted.named hplain
  exact ⟨admitted, after, hservice, .returned ⟨handler, hread, hne⟩ hdispatch
    (.code (.start entered) hcode) hleaves hplain hreturn hdone⟩

/-- The handler of `waitingSession` as it is entered. -/
def waitingHandler : CoreSession :=
  let admitted := ((waitingSession 0x08000000#32).servicePendingIrq false false).2
  ((admitted.enterHandler kIrqVectorAddress).getD (0, admitted)).2

/-- Device time aside, the handler of `waitingSession` is entered so. -/
theorem waitingHandler_entered {dispatch : CoreSchedulerStepResult} {entered : CoreSession}
    (h : ((waitingSession 0x08000000#32).servicePendingIrq false false).2.dispatchHleIrqVector
      kIrqVectorAddress = some (some dispatch, entered)) :
    entered.cpu = waitingHandler.cpu ∧ entered.bios = ⟨.hle⟩ := by
  have henter : ((waitingSession 0x08000000#32).servicePendingIrq false false).2.enterHandler
      kIrqVectorAddress = some (21, waitingHandler) := rfl
  obtain ⟨devices, advanced, hadvance, hsame, -⟩ :=
    advanceDevices_same waitingHandler (waitingSession_live 0x08000000#32) 21
  obtain ⟨result, hequation⟩ := dispatchHleIrqVector_eq henter hadvance
  rw [h] at hequation
  obtain ⟨-, rfl⟩ := Prod.mk.inj (Option.some.inj hequation)
  exact ⟨hsame.cpu, hsame.bios⟩

/-- The processor of that handler in system mode with interrupts enabled. -/
def lettingInCpu : Arm7tdmi :=
  ((waitingHandler.cpu.setCpsr 0x1F#32).getD waitingHandler.cpu).setRegister Arm7tdmi.kPc
    0x03000000#32

/-- A handler that lets interrupts in while its own is still pending. -/
def lettingIn (entered : CoreSession) : CoreSession :=
  { entered with
    cpu := lettingInCpu
    system := (waitingSession 0x08000000#32).system
    bios := ⟨.hle⟩ }

theorem lettingIn_code {entered : CoreSession} (hcpu : entered.cpu = waitingHandler.cpu)
    (hbios : entered.bios = ⟨.hle⟩) : HandlerCode entered entered.lettingIn := by
  refine ⟨hbios.symm, rfl, fun _ => waitingSession_live 0x08000000#32, ?_, ?_, ?_, ?_⟩
  all_goals rw [hcpu]
  · rfl
  · rintro (_ | _) hirq huser <;> rfl
  · rintro (_ | _) hirq huser <;> rfl
  · rintro (_ | _) hirq <;> rfl

theorem lettingIn_interruptible (entered : CoreSession) : entered.lettingIn.Interruptible where
  hle := rfl
  live := waitingSession_live 0x08000000#32
  named := show lettingInCpu.mode ∈ CpuMode.named by decide
  ready := show waitingHandler.lettingIn.irqReady = true by decide +kernel
  link := show lettingInCpu.registerFile.irqLink ≠ kIrqReturnSentinelPc by decide

/-- The interrupt that is let in finds the same handler. -/
theorem lettingIn_installed (entered : CoreSession) :
    (entered.lettingIn.servicePendingIrq false false).2.HandlerInstalled := by
  obtain ⟨scheduler, hservice, -⟩ :=
    servicePendingIrq_eq (lettingIn_interruptible entered) false false
  rw [hservice]
  refine ⟨0x03000000#32, ?_, by decide⟩
  show ((waitingSession 0x08000000#32).system.write32 ioCallbacks 0x03007FF8#32
    lettingInCpu.registerFile.irqLink).2.read32 ioCallbacks kUserIrqHandlerPointer = _
  decide +kernel

/-- The handler lets the same interrupt in again. The handler inside acknowledges it, then both
return, and the program is back. -/
theorem hleInterrupt_transparent_nested :
    ∃ admitted dispatch entered inner back return_ after,
      (waitingSession 0x08000000#32).servicePendingIrq false false = (true, admitted) ∧
      admitted.dispatchHleIrqVector kIrqVectorAddress = some (some dispatch, entered) ∧
      HandlerRun .handler entered entered.lettingIn ∧
      entered.lettingIn.servicePendingIrq false false = (true, inner) ∧
      HandlerRun .serve inner back ∧
      HandlerRun .handler entered (back.acknowledged entered.cpu) ∧
      (back.acknowledged entered.cpu).dispatchHleIrqReturn kIrqReturnSentinelPc =
        some (some return_, after) ∧
      return_.irqServiced = false ∧
      (waitingSession 0x08000000#32).cpu.registerFile.Restores after.cpu.registerFile := by
  have hwaiting : (waitingSession 0x08000000#32).Interruptible :=
    ⟨rfl, waitingSession_live _, by decide, by decide, by decide⟩
  obtain ⟨admitted, hservice, htransparent⟩ := hleInterrupt_transparent hwaiting false false
  obtain ⟨_, hsame, hadmitted, -, -⟩ := servicePendingIrq_admitted hwaiting false false
  rw [hservice] at hsame
  obtain ⟨-, rfl⟩ := Prod.mk.inj hsame
  have hclosed : admitted = ((waitingSession 0x08000000#32).servicePendingIrq false false).2 :=
    (congrArg Prod.snd hservice).symm
  have hinstalled : admitted.HandlerInstalled := by
    rw [hclosed]
    exact ⟨0x03000000#32, by rfl, by decide⟩
  obtain ⟨dispatch, entered, hdispatch, hreturns⟩ := htransparent hinstalled
  obtain ⟨hentered, hreturning⟩ := handling_of_dispatch hadmitted hinstalled hdispatch
  obtain ⟨hcpu, hbios⟩ := waitingHandler_entered (hclosed ▸ hdispatch)
  have hopened := lettingIn_code hcpu hbios
  have hready := lettingIn_interruptible entered
  obtain ⟨inner, back, hinner, hserve⟩ := serve_acknowledged hready (lettingIn_installed entered)
    (show looksLikeThumbMisfetchAsArm acknowledgedSystem lettingInCpu.registerFile.pc = false by
      decide +kernel)
  have hback : HandlerRun .handler entered back :=
    .nested (.code (.start entered) hopened) rfl hready hinner hserve
  obtain ⟨_, hequation, hinside, -, -⟩ := servicePendingIrq_admitted hready false false
  rw [hinner] at hequation
  obtain ⟨-, rfl⟩ := Prod.mk.inj hequation
  have hrestores : lettingInCpu.registerFile.Restores back.cpu.registerFile :=
    (hserve.keeps _ hinside).restores
  have hcode : HandlerCode back (back.acknowledged entered.cpu) :=
    .acknowledged
      (hopened.high.symm.trans (congrFun hrestores.high true).symm)
      (fun bank hirq huser =>
        (hopened.sp bank hirq huser).symm.trans (congrFun hrestores.sp bank).symm)
      (fun bank hirq huser =>
        (hopened.lr bank hirq huser).symm.trans (hrestores.lr bank hirq).symm)
      fun bank hirq => (hopened.savedPsr bank hirq).symm.trans (hrestores.savedPsr bank hirq).symm
  have hrun := hback.code hcode
  have hleaves := Leaves.acknowledged entered back hreturning.mode
  have hexited := hrun.keeps _ _ hentered
  have hplain := hexited.resumesPlainly (hreturning.leaves hleaves) hadmitted.named
    (show looksLikeThumbMisfetchAsArm acknowledgedSystem 0x08000000#32 = false by decide +kernel)
  obtain ⟨return_, after, hreturn, -, resumed, hrestored, hafter⟩ :=
    hreturns _ hrun hleaves hplain
  obtain ⟨_, _, hequation, hdone⟩ :=
    acknowledged_return hexited (hreturning.leaves hleaves) hadmitted.named hplain
  rw [hreturn] at hequation
  obtain ⟨hresult, rfl⟩ := Prod.mk.inj (Option.some.inj hequation)
  obtain rfl := Option.some.inj hresult
  rw [hdone] at hafter
  obtain rfl : after.cpu = resumed := hafter
  exact ⟨admitted, dispatch, entered, inner, back, return_, after, hservice, hdispatch,
    .code (.start entered) hopened, hinner, hserve, hrun, hreturn, hdone, hrestored⟩

/-- The program at the address whose link value is the sentinel, when its interrupt is admitted. -/
def strandedAdmitted : CoreSession :=
  ((waitingSession 0x0FFFFEFC#32).servicePendingIrq false false).2

/-- The handler that is entered for the program whose link value is the sentinel. -/
def strandedHandler : CoreSession :=
  ((strandedAdmitted.enterHandler kIrqVectorAddress).getD (0, strandedAdmitted)).2

/-- The program whose link value is the sentinel is not brought back: admission latches nothing for
it, and the return finds nothing to return to. -/
theorem hleInterrupt_lost :
    ∃ admitted entered exited dispatch,
      (waitingSession 0x0FFFFEFC#32).servicePendingIrq false false = (true, admitted) ∧
      admitted.HandlerInstalled ∧
      admitted.dispatchHleIrqVector kIrqVectorAddress = some (some dispatch, entered) ∧
      HandlerRun .handler entered exited ∧ entered.Leaves exited ∧ exited.ResumesPlainly ∧
      exited.dispatchHleIrqReturn kIrqReturnSentinelPc = some (none, exited) ∧
      exited.cpu.registers Arm7tdmi.kPc ≠
        (waitingSession 0x0FFFFEFC#32).cpu.registers Arm7tdmi.kPc := by
  have henter : strandedAdmitted.enterHandler kIrqVectorAddress = some (21, strandedHandler) := rfl
  obtain ⟨devices, entered, hadvance, hsame, -⟩ :=
    advanceDevices_same strandedHandler (waitingSession_live 0x0FFFFEFC#32) 21
  let exited : CoreSession := entered.acknowledged entered.cpu
  have hmode : exited.cpu.mode = .irq := congrArg Arm7tdmi.mode hsame.cpu
  have hunlatched : exited.scheduler.hleIrqReturnLr = none :=
    congrArg HleContext.returnLr hsame.context
  have hlink : exited.returnLink = none := by
    have hword : exited.system.read32 ioCallbacks 0x03007FF8#32 = some 0#32 := by
      show acknowledgedSystem.read32 ioCallbacks 0x03007FF8#32 = some 0#32
      rfl
    unfold returnLink
    rw [hunlatched, hword]
    rfl
  have hcode : HandlerCode entered exited :=
    .acknowledged rfl (fun _ _ _ => rfl) (fun _ _ _ => rfl) fun _ _ => rfl
  have hleaves : entered.Leaves exited := .acknowledged entered entered hmode
  obtain ⟨dispatch, hdispatch⟩ := dispatchHleIrqVector_eq henter hadvance
  refine ⟨strandedAdmitted, entered, exited, dispatch, rfl,
    ⟨0x03000000#32, by rfl, by decide⟩, hdispatch, .code (.start entered) hcode, hleaves,
    ?_, ?_, ?_⟩
  · intro cpu hresumed
    unfold resumedCpu at hresumed
    rw [hlink] at hresumed
    contradiction
  · have hhle : exited.biosHleEnabled = true := by
      unfold biosHleEnabled
      rw [show exited.bios = strandedHandler.bios from hsame.bios]
      rfl
    unfold dispatchHleIrqReturn
    rw [hhle, hmode, hlink]
    rfl
  · rw [hleaves.pc]
    decide

end CoreSession

end Gba.Core
