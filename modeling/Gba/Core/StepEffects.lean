import Gba.Core.ServiceEffects

/-!
# What a step of a session does

`CoreSession::step` returns from live devices, whatever the program, its registers and the queued
interrupts and work are: no part of the step is undefined. What it has done then is a sequence of
the primitive effects.
-/

namespace Gba.Core

open Gba.Library

namespace CoreSession

theorem servicePendingIrq_work (session : CoreSession)
    (fromDataAccess fromSpacedTimerIoAccess : Bool) :
    (session.servicePendingIrq fromDataAccess fromSpacedTimerIoAccess).2.scheduler.hleWorkFrames =
      session.scheduler.hleWorkFrames := by
  unfold servicePendingIrq
  split
  · rfl
  unfold modifyScheduler
  dsimp only
  split_ifs <;> rfl

/-- An interrupt before queued work leaves the work queued. -/
theorem serviceBeforeWork_work (session : CoreSession) :
    session.serviceBeforeWork.2.scheduler.hleWorkFrames = session.scheduler.hleWorkFrames := by
  have hupdated : (session.updateAutoIrqLatency 0).scheduler.hleWorkFrames =
      session.scheduler.hleWorkFrames := by
    rw [(session.updateAutoIrqLatency_passed 0).scheduler]
  have hserviced := (session.updateAutoIrqLatency 0).servicePendingIrq_work false false
  unfold serviceBeforeWork serviceAutoIrq
  dsimp only
  split
  · split
    · split
      · next heq =>
          rw [heq] at hserviced
          exact hserviced.trans hupdated
      · next heq =>
          rw [heq] at hserviced
          exact hserviced.trans hupdated
    · exact hupdated
  · rfl

/-- No more is charged than is left to do. -/
theorem workCycles_le (work : HleWorkFrame) (session : CoreSession) :
    (session.workCycles work).toNat ≤ work.remainingCycles.toNat := by
  have hmin : ∀ left right : U32, (minWord left right).toNat ≤ left.toNat := by
    intro left right
    unfold minWord
    split
    · next hlt => exact Nat.le_of_lt hlt
    · exact Nat.le_refl _
  unfold workCycles
  dsimp only
  generalize minWord (minWord _ _) _ = horizon
  have hcycles : (if work.remainingCycles < horizon.setWidth 64 then
      work.remainingCycles.setWidth 32 else horizon).toNat ≤ work.remainingCycles.toNat := by
    split
    · rw [BitVec.toNat_setWidth]
      exact Nat.mod_le _ _
    · next hge =>
        have hwide : (horizon.setWidth 64).toNat = horizon.toNat := by
          rw [BitVec.toNat_setWidth]
          exact Nat.mod_eq_of_lt (by omega)
        rw [← hwide]
        exact Nat.le_of_not_lt hge
  split
  · exact (hmin _ _).trans hcycles
  · exact hcycles

end CoreSession

namespace SessionEffects

variable {charges : Prop} {session : CoreSession}

/-! ## Interrupts -/

theorem servicePendingIrq (session : CoreSession) (fromDataAccess fromSpacedTimerIoAccess : Bool) :
    SessionEffects charges session
      (session.servicePendingIrq fromDataAccess fromSpacedTimerIoAccess).2 := by
  unfold CoreSession.servicePendingIrq
  split
  · exact .refl
  extract_lets cpu irqLink admitted before latched
  have hirq : AnyException .irq := trivial
  have hadmitted : SessionEffects charges session admitted := ofCpu session (.one (.exception hirq))
  have hlatched : SessionEffects charges session latched := by
    refine branch (hadmitted.trans ?_) hadmitted
    refine ofParts admitted .refl (.one (.store32 _ _)) ⟨rfl, rfl, fun h => ?_⟩
    exact ⟨h.buffer, h.latency, h.width, h.window, fun _ => rfl, h.saved, h.pieces⟩
  clear_value latched
  dsimp only
  refine hlatched.trans (note latched ?_)
  generalize latched.scheduler = state
  split
  · refine ⟨rfl, rfl, fun h => ?_⟩
    exact ⟨h.buffer, h.latency, h.width, h.window, h.linked, h.saved, h.pieces⟩
  · refine ⟨rfl, rfl, fun h => ?_⟩
    exact ⟨h.buffer, h.latency, h.width, h.window, h.linked, h.saved, h.pieces⟩

theorem resetAutoIrqLatency (session : CoreSession) :
    SessionEffects charges session session.resetAutoIrqLatency :=
  note session ⟨rfl, rfl, fun h =>
    ⟨h.buffer, Nat.zero_le _, h.width, h.window, h.linked, h.saved, h.pieces⟩⟩

theorem serviceAutoIrq (session : CoreSession) (fromDataAccess fromSpacedTimerIoAccess : Bool) :
    SessionEffects charges session
      (session.serviceAutoIrq fromDataAccess fromSpacedTimerIoAccess).2 := by
  have hservice := @servicePendingIrq charges session fromDataAccess fromSpacedTimerIoAccess
  unfold CoreSession.serviceAutoIrq
  split
  · next heq =>
      rw [heq] at hservice
      exact hservice.trans (resetAutoIrqLatency _)
  · next heq =>
      rw [heq] at hservice
      exact hservice

/-- An interrupt that is serviced if a condition holds. -/
theorem serviceIf (session : CoreSession) (c : Prop) [Decidable c] :
    SessionEffects charges session
      (if c then session.serviceAutoIrq false false else (false, session)).2 := by
  split
  · exact serviceAutoIrq session false false
  · exact .refl

/-- Queued interrupts are latched and the registers saved. -/
theorem enterHandler {fetchAddress cycles : U32} {entered : CoreSession}
    (h : session.enterHandler fetchAddress = some (cycles, entered)) :
    SessionEffects charges session entered := by
  unfold CoreSession.enterHandler at h
  split at h
  · contradiction
  next hguard =>
  have hmode : session.cpu.mode = .irq := by
    by_contra hne
    exact hguard (.inr (.inr hne))
  obtain ⟨handler, -, h⟩ := Option.bind_eq_some_iff.mp h
  dsimp only at h
  split at h
  · contradiction
  obtain ⟨cpu, hset, h⟩ := Option.bind_eq_some_iff.mp h
  obtain ⟨-, rfl⟩ := Prod.mk.inj (Option.some.inj h)
  have hprivileged : session.cpu.mode ≠ .user := by
    rw [hmode]
    exact fun heq => absurd (congrArg CpuMode.value heq) (by decide)
  have hcpu : CpuEffects AnyException session.cpu cpu := .one (.status hprivileged hset)
  refine ofParts session (hcpu.then_program rfl)
    (.ite (.one (.store32 _ _)) .refl) ⟨rfl, rfl, fun hsound => ?_⟩
  have hframes : ∀ {frames : List HleIrqFrame}, (∀ frame ∈ frames, frame.savedRegisters.isSome) →
      ∀ frame ∈ session.scheduler.hleIrqOuterFrames ++ frames, frame.savedRegisters.isSome := by
    intro frames hnew frame hframe
    rcases List.mem_append.mp hframe with hold | hadded
    · exact hsound.saved frame hold
    · exact hnew frame hadded
  refine ⟨hsound.buffer, hsound.latency, hsound.width, hsound.window, ?_, ?_, hsound.pieces⟩
  · intro hnonempty
    dsimp only at hnonempty ⊢
    split
    · rfl
    · next hunlinked =>
      refine hsound.linked fun hempty => hnonempty ?_
      rw [hempty]
      split
      · exact if_neg hunlinked
      · rfl
  · refine hframes fun frame hframe => ?_
    split at hframe
    · split at hframe
      · rw [List.mem_singleton.mp hframe]
        rfl
      · exact absurd hframe List.not_mem_nil
    · exact absurd hframe List.not_mem_nil

variable (charges) in
/-- `dispatch_hle_irq_vector` returns; where it dispatches nothing, it does nothing. -/
theorem dispatchHleIrqVector (session : CoreSession) (h : session.system.devices.Live)
    (fetchAddress : U32) :
    Ensures (session.dispatchHleIrqVector fetchAddress) fun dispatched =>
      SessionEffects charges session dispatched.2 ∧
        (dispatched.1 = none → dispatched.2 = session) := by
  unfold CoreSession.dispatchHleIrqVector
  cases henter : session.enterHandler fetchAddress with
  | none => exact .ret ⟨.refl, fun _ => rfl⟩
  | some entered =>
      have hentered : SessionEffects charges session entered.2 := enterHandler henter
      exact (advance charges entered.2 (hentered.live h) entered.1).map fun _ hadvanced =>
        ⟨hentered.trans hadvanced, fun hnone => absurd hnone (Option.some_ne_none _)⟩

theorem recoverThumbStateFromRomMisfetch (session : CoreSession) :
    SessionEffects charges session session.recoverThumbStateFromRomMisfetch := by
  unfold CoreSession.recoverThumbStateFromRomMisfetch
  refine branch ?_ .refl
  have hcpu : CpuEffects AnyException session.cpu
      ((session.cpu.setCpsr (session.cpu.cpsr ||| kThumbStateFlag)).getD session.cpu) := by
    cases hset : session.cpu.setCpsr (session.cpu.cpsr ||| kThumbStateFlag) with
    | none => exact .refl
    | some cpu => exact .setCpsr hset fun _ => MemoryExecution.Follows.thumb_masked _ true
  refine ofParts session hcpu .refl ⟨rfl, rfl, fun h => ?_⟩
  exact ⟨h.buffer, h.latency, h.width, h.window, h.linked, h.saved, h.pieces⟩

theorem popFrame_notes (state : CoreSchedulerState) : state.Notes (CoreSession.popFrame state) := by
  unfold CoreSession.popFrame
  cases hlast : state.hleIrqOuterFrames.getLast? with
  | none =>
      refine ⟨rfl, rfl, fun h => ?_⟩
      refine ⟨h.buffer, h.latency, h.width, h.window, fun hne => ?_, h.saved, h.pieces⟩
      exact absurd (List.getLast?_eq_none_iff.mp hlast) hne
  | some frame =>
      refine ⟨rfl, rfl, fun h => ?_⟩
      refine ⟨h.buffer, h.latency, h.width, h.window, fun _ => rfl, fun frame hframe => ?_,
        h.pieces⟩
      exact h.saved frame (List.dropLast_subset _ hframe)

theorem serviceAfterReturn (session : CoreSession) :
    SessionEffects charges session session.serviceAfterReturn.2 := by
  have hservice := @servicePendingIrq charges session false false
  unfold CoreSession.serviceAfterReturn
  split
  · split
    · next heq =>
        rw [heq] at hservice
        dsimp only at hservice ⊢
        refine hservice.trans (note _ ⟨rfl, rfl, fun h => ?_⟩)
        exact ⟨h.buffer, Nat.zero_le _, h.width, h.window, h.linked, h.saved, h.pieces⟩
    · next heq =>
        rw [heq] at hservice
        dsimp only at hservice ⊢
        refine hservice.trans (note _ ⟨rfl, rfl, fun h => ?_⟩)
        exact ⟨h.buffer, Nat.zero_le _, h.width, h.window, h.linked, h.saved, h.pieces⟩
  · dsimp only
    refine note _ ⟨rfl, rfl, fun h => ?_⟩
    exact ⟨h.buffer, h.latency, h.width, h.window, h.linked, h.saved, h.pieces⟩

theorem restoreRegisters_control (returnLr : U32) (saved : Option (Fin 13 → U32)) (cpu : Arm7tdmi) :
    (CoreSession.restoreRegisters returnLr saved cpu).control = cpu.control := by
  cases saved <;> rfl

theorem returnFromException {cpu returned : Arm7tdmi} {linkAdjustment : U32}
    (h : cpu.returnFromException linkAdjustment = some returned) :
    CpuEffects AnyException cpu returned := by
  obtain ⟨value, hspsr, hreturn⟩ := Option.bind_eq_some_iff.mp h
  obtain ⟨restored, hset, hpc⟩ := Option.bind_eq_some_iff.mp hreturn
  obtain rfl := Option.some.inj hpc
  have hrestore : cpu.spsr.bind cpu.setCpsr = some restored :=
    Option.bind_eq_some_iff.mpr ⟨value, hspsr, hset⟩
  exact (CpuEffects.restoreStatus hrestore).then_program rfl

variable (charges) in
/-- `dispatch_hle_irq_return` returns; where nothing returns from an interrupt, it does nothing. -/
theorem dispatchHleIrqReturn (session : CoreSession) (h : session.system.devices.Live)
    (fetchAddress : U32) :
    Ensures (session.dispatchHleIrqReturn fetchAddress) fun dispatched =>
      SessionEffects charges session dispatched.2 ∧
        (dispatched.1 = none → dispatched.2 = session) := by
  unfold CoreSession.dispatchHleIrqReturn
  refine .ite (fun _ => .ret ⟨.refl, fun _ => rfl⟩) fun _ => ?_
  cases session.returnLink with
  | none => exact .ret ⟨.refl, fun _ => rfl⟩
  | some returnLr =>
      dsimp only
      have hrestored : CpuEffects AnyException session.cpu (CoreSession.restoreRegisters returnLr
          session.scheduler.hleIrqSavedRegisters session.cpu) :=
        .program (restoreRegisters_control _ _ _)
      generalize CoreSession.restoreRegisters returnLr session.scheduler.hleIrqSavedRegisters
        session.cpu = restored at hrestored ⊢
      split
      · refine .ret ⟨ofParts session hrestored .refl ⟨rfl, rfl, fun hsound => ?_⟩,
          fun hnone => absurd hnone (Option.some_ne_none _)⟩
        exact ⟨hsound.buffer, hsound.latency, hsound.width, hsound.window, fun _ => rfl,
          hsound.saved, hsound.pieces⟩
      · next returned hreturned =>
        have hreturn : SessionEffects charges session { session with cpu := returned } :=
          ofCpu session (hrestored.trans (returnFromException hreturned))
        have hresumed : SessionEffects charges session
            ({ session with cpu := returned }.recoverThumbStateFromRomMisfetch.modifyScheduler
              CoreSession.popFrame) :=
          (hreturn.trans (recoverThumbStateFromRomMisfetch _)).trans (note _ (popFrame_notes _))
        exact (advance charges _ (hresumed.live h) _).map fun advanced hadvanced =>
          ⟨(hresumed.trans hadvanced).trans (serviceAfterReturn advanced.2),
            fun hnone => absurd hnone (Option.some_ne_none _)⟩

/-! ## Queued work -/

theorem runImmediateDma (session : CoreSession) (waitcnt : WaitcntPointer) :
    SessionEffects charges session (session.runImmediateDma waitcnt).1 :=
  ofBus session (.runTrigger .immediate _)

theorem prepareWork (session : CoreSession) : SessionEffects charges session session.prepareWork :=
  note session ⟨rfl, rfl, fun h =>
    ⟨Nat.zero_le _, h.latency, rfl, rfl, h.linked, h.saved, h.pieces⟩⟩

theorem updateAutoIrqLatency_notes (session : CoreSession) (elapsedCycles : U32) :
    session.scheduler.Notes (session.updateAutoIrqLatency elapsedCycles).scheduler := by
  unfold CoreSession.updateAutoIrqLatency CoreSession.modifyScheduler
  refine ⟨?_, ?_, fun h => ?_⟩
  · dsimp only
    split_ifs <;> rfl
  · dsimp only
    split_ifs <;> rfl
  · dsimp only
    split_ifs
    · exact ⟨h.buffer, Nat.zero_le _, h.width, h.window, h.linked, h.saved, h.pieces⟩
    · exact ⟨h.buffer, Nat.le_refl _, h.width, h.window, h.linked, h.saved, h.pieces⟩
    · refine ⟨h.buffer, ?_, h.width, h.window, h.linked, h.saved, h.pieces⟩
      have hlatency := h.latency
      dsimp only
      bv_omega
    · exact ⟨h.buffer, Nat.zero_le _, h.width, h.window, h.linked, h.saved, h.pieces⟩

theorem updateAutoIrqLatency (session : CoreSession) (elapsedCycles : U32) :
    SessionEffects charges session (session.updateAutoIrqLatency elapsedCycles) :=
  .single (.note (updateAutoIrqLatency_notes session elapsedCycles))

theorem serviceBeforeWork (session : CoreSession) :
    SessionEffects charges session session.serviceBeforeWork.2 := by
  unfold CoreSession.serviceBeforeWork
  split
  · have hupdated := @updateAutoIrqLatency charges session 0
    dsimp only
    exact hupdated.trans (serviceIf _ _)
  · exact .refl

theorem chargeNextWork (session : CoreSession) (h : session.system.devices.Live)
    (hcharges : charges) {work : HleWorkFrame}
    (hwork : session.scheduler.hleWorkFrames.getLast? = some work)
    (devices : CoreDeviceTickResult) (dma : DmaRunResult) :
    Ensures (session.chargeNextWork sessionWiring work devices dma) fun charged =>
      SessionEffects charges session charged.2 := by
  obtain ⟨result, passed, hadvance, -, -⟩ := CoreSession.advanceDevices_same session h
    (session.workCycles work)
  have hcharge : SessionEffects charges session (passed.chargeWork (session.workCycles work)) :=
    .single (.charge hcharges hadvance hwork (CoreSession.workCycles_le work session))
  refine Ensures.map (Q := fun advanced => advanced = (result, passed)) ⟨_, hadvance, rfl⟩ ?_
  rintro _ rfl
  exact hcharge.trans (serviceIf _ _)

/-- `advance_hle_work` with the given work returns. -/
theorem runWork (session : CoreSession) (h : session.system.devices.Live) (hcharges : charges)
    {work : HleWorkFrame} (hwork : session.scheduler.hleWorkFrames.getLast? = some work) :
    Ensures (session.runWork sessionWiring work) fun ran =>
      SessionEffects charges session ran.2 := by
  have hrun : SessionEffects charges session
      (session.prepareWork.runImmediateDma sessionWaitcnt).1 :=
    (prepareWork session).trans (runImmediateDma _ _)
  have hpassed : Ensures
      (if (session.prepareWork.runImmediateDma sessionWaitcnt).2.busCycles ≠ 0 then
        sessionWiring.advanceDevices (session.prepareWork.runImmediateDma sessionWaitcnt).2.busCycles
          (session.prepareWork.runImmediateDma sessionWaitcnt).1
      else some (.empty, (session.prepareWork.runImmediateDma sessionWaitcnt).1)) fun passed =>
      SessionEffects charges session passed.2 ∧
        passed.2.scheduler.hleWorkFrames = session.scheduler.hleWorkFrames := by
    refine .ite (fun _ => ?_) fun _ => .ret ⟨hrun, rfl⟩
    obtain ⟨⟨result, next⟩, hadvance, hnext⟩ := advance charges _ (hrun.live h)
      (session.prepareWork.runImmediateDma sessionWaitcnt).2.busCycles
    refine ⟨_, hadvance, hrun.trans hnext, ?_⟩
    rw [(CoreSession.advanceDevices_passed hadvance).scheduler]
    rfl
  refine hpassed.bind fun passed ⟨heffects, hframes⟩ => .ite (fun _ => .ret heffects) fun _ => ?_
  have hservice := @serviceBeforeWork charges passed.2
  have hsame := CoreSession.serviceBeforeWork_work passed.2
  split
  · next heq =>
      rw [heq] at hservice
      exact .ret (heffects.trans hservice)
  · next heq =>
      rw [heq] at hservice hsame
      have hboth : SessionEffects charges session _ := heffects.trans hservice
      refine (chargeNextWork _ (hboth.live h) hcharges ?_ _ _).conseq fun charged hcharged =>
        hboth.trans hcharged
      rw [← hwork, ← hframes]
      exact congrArg List.getLast? hsame

/-- `advance_hle_work` returns; where no work can run, it does nothing. -/
theorem advanceHleWork (session : CoreSession) (h : session.system.devices.Live)
    (hcharges : session.runnableWork.isSome → charges) :
    Ensures (session.advanceHleWork sessionWiring) fun advanced =>
      SessionEffects charges session advanced.2 ∧
        (advanced.1 = none → advanced.2 = session) := by
  unfold CoreSession.advanceHleWork
  cases hwork : session.runnableWork with
  | none => exact .ret ⟨.refl, fun _ => rfl⟩
  | some work =>
      have hlast : session.scheduler.hleWorkFrames.getLast? = some work :=
        (Option.filter_eq_some_iff.mp hwork).1
      exact (runWork session h (hcharges (by rw [hwork]; rfl)) hlast).map fun _ hran =>
        ⟨hran, fun hnone => absurd hnone (Option.some_ne_none _)⟩

/-! ## An instruction -/

section Instruction

variable {ready : CoreSession → Bool}

theorem serviceBeforeAccess (session : CoreSession) (plan : AccessPlan) (preStepPc : U32) :
    SessionEffects charges session (session.serviceBeforeAccess plan preStepPc).2 := by
  unfold CoreSession.serviceBeforeAccess
  extract_lets replay rewound
  have hrewound : SessionEffects charges session rewound := branch (setPc session _) .refl
  have hservice := @servicePendingIrq charges rewound true plan.access.spaced
  split
  · next heq =>
      rw [heq] at hservice
      dsimp only
      refine (hrewound.trans hservice).trans (note _ ⟨rfl, rfl, fun h => ?_⟩)
      exact ⟨h.buffer, Nat.zero_le _, h.width, h.window, h.linked, h.saved, h.pieces⟩
  · next heq =>
      rw [heq] at hservice
      have hboth : SessionEffects charges session _ := hrewound.trans hservice
      exact branch (hboth.trans (setPc _ _)) hboth

variable (charges) in
theorem beforeAccess (session : CoreSession) (h : session.system.devices.Live)
    (plan : AccessPlan) :
    Ensures (session.beforeAccess sessionWiring ready plan) fun before =>
      SessionEffects charges session before.session := by
  unfold CoreSession.beforeAccess
  refine .ite (fun _ => .ret .refl) fun _ => ?_
  refine (advance charges session h plan.preAccessCycles).map fun passed hpassed => ?_
  dsimp only
  split
  · exact hpassed.trans (serviceBeforeAccess _ _ _)
  · exact hpassed

/-- The processor and the bus follow an instruction. -/
structure Executes (form : InstructionForm) : Prop where
  follows : ∀ waitcnt cpu system,
    CpuEffects AnyException cpu (form.execute waitcnt cpu system).cpu ∧
    BusEffects system (form.execute waitcnt cpu system).bus

theorem armForm_executes (instruction : U32) (elapsedOverride : Option ArmElapsedCycleEstimate) :
    Executes (armForm instruction elapsedOverride) :=
  ⟨fun _ _ _ => Arm7tdmi.stepArmMemory_effects _ _ _ _ _ fun _ => trivial⟩

theorem thumbForm_executes (instruction : U16) (prefetchInternalLoadOverlap : Bool)
    (elapsedOverride : Option ArmElapsedCycleEstimate) :
    Executes (thumbForm instruction prefetchInternalLoadOverlap elapsedOverride) :=
  ⟨fun _ _ _ => Arm7tdmi.stepThumbMemory_effects _ _ _ _ _ _ fun _ => trivial⟩

variable (charges) in
theorem execute (session : CoreSession) (h : session.system.devices.Live) {form : InstructionForm}
    (hform : Executes form) :
    Ensures (session.execute sessionWiring form) fun executed =>
      SessionEffects charges session executed.2 := by
  unfold CoreSession.execute
  split
  · exact executeHleSwi _ _ session h
  · obtain ⟨hcpu, hbus⟩ := hform.follows (sessionWiring.waitcnt session.system.devices)
      session.cpu session.system
    exact .ret (ofParts session hcpu hbus (.refl _))

variable (charges) in
theorem advanceSome (progress : CoreSession.StepProgress)
    (h : progress.session.system.devices.Live) (cycles : U32) :
    Ensures (progress.advanceSome sessionWiring cycles) fun advanced =>
      SessionEffects charges progress.session advanced.session := by
  unfold CoreSession.StepProgress.advanceSome CoreSession.StepProgress.advance
  refine .ite (fun _ => ?_) fun _ => .ret .refl
  exact (advance charges progress.session h cycles).map fun _ hadvanced => hadvanced

theorem startTimers (session : CoreSession) (plan : AccessPlan) :
    SessionEffects charges session (session.startTimers plan) := by
  unfold CoreSession.startTimers
  refine branch (ofParts session .refl (.one .deferTimers) ⟨rfl, rfl, fun h => ?_⟩) .refl
  exact ⟨h.buffer, h.latency, h.width, h.window, h.linked, h.saved, h.pieces⟩

theorem serviceSequential (session : CoreSession) (width preStepPc : U32)
    (fromDataAccess fromSpacedTimerIoAccess : Bool) :
    SessionEffects charges session
      (session.serviceSequential width preStepPc fromDataAccess fromSpacedTimerIoAccess).2 := by
  have hservice := (@setPc charges session (preStepPc + width)).trans
    (serviceAutoIrq (session.setPc (preStepPc + width)) fromDataAccess fromSpacedTimerIoAccess)
  unfold CoreSession.serviceSequential
  split
  · next heq =>
      rw [heq] at hservice
      exact hservice
  · next heq =>
      rw [heq] at hservice
      exact branch (hservice.trans (setPc _ _)) hservice

theorem serviceAfterStep (session : CoreSession) (form : InstructionForm) (plan : AccessPlan)
    (preStepPc : U32) (deferred readyBefore : Bool) (elapsedCycles : U32) :
    SessionEffects charges session
      (session.serviceAfterStep ready form plan preStepPc deferred readyBefore elapsedCycles).2 := by
  unfold CoreSession.serviceAfterStep
  split
  · exact serviceSequential _ _ _ _ _
  · exact .refl

/-- Nothing is known of the last fetch any more. -/
theorem sound_resetFetch {state : CoreSchedulerState} (h : state.Sound) :
    state.resetFetchTimingSequence.Sound :=
  ⟨Nat.zero_le _, h.latency, rfl, rfl, h.linked, h.saved, h.pieces⟩

theorem disturbFetches (session : CoreSession) (plan : AccessPlan) (preStepPc : U32) :
    SessionEffects charges session (session.disturbFetches sessionWiring plan preStepPc) := by
  unfold CoreSession.disturbFetches
  split
  · exact .refl
  refine branch .refl (note session ⟨rfl, rfl, fun h => ?_⟩)
  have hreset := sound_resetFetch h
  exact ⟨hreset.buffer, hreset.latency, rfl, rfl, hreset.linked, hreset.saved, hreset.pieces⟩

theorem runDma (progress : CoreSession.StepProgress) (h : progress.session.system.devices.Live) :
    Ensures (progress.runDma sessionWiring) fun ran =>
      SessionEffects charges progress.session ran.session := by
  have hrun := @runImmediateDma charges progress.session sessionWiring.waitcnt
  unfold CoreSession.StepProgress.runDma
  exact (advanceSome charges _ (hrun.live h) _).conseq fun _ hadvanced => hrun.trans hadvanced

theorem settle (progress : CoreSession.StepProgress) (h : progress.session.system.devices.Live)
    (form : InstructionForm) (plan : AccessPlan) (preStepPc : U32) (deferred : Bool)
    (elapsedCycles : U32) :
    Ensures (progress.settle sessionWiring ready form plan preStepPc deferred elapsedCycles)
      fun settled => SessionEffects charges progress.session settled.session := by
  have hstarted := @startTimers charges progress.session plan
  unfold CoreSession.StepProgress.settle CoreSession.StepProgress.settleTime
  dsimp only
  refine Ensures.map
    (Q := fun settled => SessionEffects charges progress.session settled.session) ?_ ?_
  · refine (advanceSome charges _ (hstarted.live h) _).bind fun advanced hadvanced => ?_
    have hboth : SessionEffects charges progress.session advanced.session :=
      hstarted.trans hadvanced
    exact (runDma advanced (hboth.live h)).conseq fun _ hran => hboth.trans hran
  · intro settled hsettled
    exact (hsettled.trans (serviceAfterStep _ _ _ _ _ _ _)).trans (disturbFetches _ _ _)

variable (charges) in
theorem afterExecution (progress : CoreSession.StepProgress)
    (h : progress.session.system.devices.Live) (form : InstructionForm) (plan : AccessPlan)
    (preStepPc : U32) (deferred : Bool) (step : ArmStepResult) :
    Ensures (progress.afterExecution sessionWiring ready form plan preStepPc deferred step)
      fun after => SessionEffects charges progress.session after.session := by
  unfold CoreSession.StepProgress.afterExecution
  split
  · exact advanceSome charges progress h _
  · exact .ite (fun _ => .ret .refl) fun _ => settle progress h _ _ _ _ _
  · exact .ret .refl

theorem finishAccess (session : CoreSession) (plan : AccessPlan) (channelsExecuted : U8) :
    SessionEffects charges session (session.finishAccess plan channelsExecuted) := by
  unfold CoreSession.finishAccess
  extract_lets noted
  have hnoted : SessionEffects charges session noted := by
    refine branch (note session ⟨rfl, rfl, fun h => ?_⟩) .refl
    exact ⟨h.buffer, h.latency, h.width, h.window, h.linked, h.saved, h.pieces⟩
  exact branch (hnoted.trans (ofBus noted (.one .releaseOpenBus))) hnoted

/-- The general path of an instruction returns. -/
theorem generalStep (session : CoreSession) (h : session.system.devices.Live)
    {form : InstructionForm} (hform : Executes form) :
    Ensures (session.generalStep sessionWiring ready form) fun stepped =>
      SessionEffects charges session stepped.2 := by
  unfold CoreSession.generalStep
  refine (beforeAccess charges session h _).bind fun before hbefore => ?_
  refine .ite (fun _ => .ret hbefore) fun _ => ?_
  refine (execute charges before.session (hbefore.live h) hform).bind fun executed hexecuted => ?_
  have hboth : SessionEffects charges session executed.2 := hbefore.trans hexecuted
  refine (afterExecution charges ⟨executed.2, before.devices, .empty, false⟩ (hboth.live h) form
    _ _ _ _).bind fun progress hprogress => ?_
  exact .ret ((hboth.trans hprogress).trans (finishAccess _ _ _))

variable (charges) in
/-- The fast paths return. -/
theorem fastStep (session : CoreSession) (h : session.system.devices.Live)
    {simple : CoreSession.SimpleForm}
    (hsimple : ∀ cpu, CpuEffects AnyException cpu (simple.step cpu).2) :
    Ensures (session.fastStep sessionWiring ready simple) fun stepped =>
      SessionEffects charges session stepped.2 := by
  have hstepped := hsimple session.cpu
  unfold CoreSession.fastStep
  extract_lets preStepPc
  cases hstep : simple.step session.cpu with
  | mk step cpu =>
      rw [hstep] at hstepped
      have hexecuted : SessionEffects charges session { session with cpu := cpu } :=
        ofCpu session hstepped
      dsimp -zeta only
      extract_lets executed finish
      -- what follows the time of the instruction is the same on both branches
      have hfinish (passed : CoreDeviceTickResult × CoreSession)
          (hpassed : SessionEffects charges session passed.2) :
          Ensures (finish passed) fun stepped => SessionEffects charges session stepped.2 := by
        refine .ret ?_
        dsimp only
        split
        · exact hpassed.trans (serviceSequential _ _ _ _ _)
        · exact hpassed
      refine .ite (fun _ => ?_) fun _ => .bind (.ret hexecuted) hfinish
      exact (advance charges executed (hexecuted.live h) _).bind fun passed hpassed =>
        hfinish passed (hexecuted.trans hpassed)

/-- `step_arm` returns. -/
theorem stepArm (session : CoreSession) (h : session.system.devices.Live)
    (hcharges : session.runnableWork.isSome → charges) (instruction : U32)
    (elapsedOverride : Option ArmElapsedCycleEstimate) :
    Ensures (session.stepArm sessionWiring ready instruction elapsedOverride) fun stepped =>
      SessionEffects charges session stepped.2 := by
  unfold CoreSession.stepArm
  refine (advanceHleWork session h hcharges).bind fun ⟨work, worked⟩ ⟨hworked, _⟩ => ?_
  cases work with
  | some result => exact .ret hworked
  | none =>
      have hlive : worked.system.devices.Live := hworked.live h
      refine .ite (fun _ => ?_) fun _ => ?_
      · have hsimple (cpu : Arm7tdmi) : CpuEffects AnyException cpu (cpu.stepArm instruction).2 :=
          .stepArm instruction cpu fun _ => trivial
        exact (fastStep charges worked hlive hsimple).conseq fun _ hstepped =>
          hworked.trans hstepped
      · exact (generalStep worked hlive (armForm_executes _ _)).conseq fun _ hstepped =>
          hworked.trans hstepped

/-- `step_thumb` returns. -/
theorem stepThumb (session : CoreSession) (h : session.system.devices.Live)
    (hcharges : session.runnableWork.isSome → charges) (instruction : U16)
    (prefetchInternalLoadOverlap : Bool) (elapsedOverride : Option ArmElapsedCycleEstimate) :
    Ensures (session.stepThumb sessionWiring ready instruction prefetchInternalLoadOverlap
      elapsedOverride) fun stepped => SessionEffects charges session stepped.2 := by
  unfold CoreSession.stepThumb
  refine (advanceHleWork session h hcharges).bind fun ⟨work, worked⟩ ⟨hworked, _⟩ => ?_
  cases work with
  | some result => exact .ret hworked
  | none =>
      have hlive : worked.system.devices.Live := hworked.live h
      refine .ite (fun _ => ?_) fun _ => ?_
      · have hsimple (cpu : Arm7tdmi) : CpuEffects AnyException cpu (cpu.stepThumb instruction).2 :=
          .stepThumb instruction cpu fun _ => trivial
        exact (fastStep charges worked hlive hsimple).conseq fun _ hstepped =>
          hworked.trans hstepped
      · exact (generalStep worked hlive (thumbForm_executes _ _ _)).conseq fun _ hstepped =>
          hworked.trans hstepped

end Instruction

end SessionEffects

end Gba.Core
