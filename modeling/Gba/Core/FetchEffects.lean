import Gba.Core.StepEffects

/-!
# The effects of a step

A fetch lets time pass and notes what it fetched; the end of a step charges the stalls, may take an
interrupt and moves the program counter. A step of a session with live devices therefore always
returns, and the session after it comes from the one before by effects alone.
-/

namespace Gba.Core

open Gba.Library BiosHleConstants

/-! ## The work that runs next -/

/-- Two sessions run the same work next: they agree in what decides it. -/
structure CoreSession.SameWork (session other : CoreSession) : Prop where
  mode : other.cpu.mode = session.cpu.mode
  pc : other.pc = session.pc
  hleWorkFrames : other.scheduler.hleWorkFrames = session.scheduler.hleWorkFrames
  hleIrqDepth : other.hleIrqDepth = session.hleIrqDepth

namespace CoreSession.SameWork

variable {session middle other : CoreSession}

theorem refl (session : CoreSession) : SameWork session session := ⟨rfl, rfl, rfl, rfl⟩

theorem trans (h : SameWork session middle) (h' : SameWork middle other) :
    SameWork session other where
  mode := h'.mode.trans h.mode
  pc := h'.pc.trans h.pc
  hleWorkFrames := h'.hleWorkFrames.trans h.hleWorkFrames
  hleIrqDepth := h'.hleIrqDepth.trans h.hleIrqDepth

theorem ite {c : Prop} [Decidable c] {another : CoreSession} (h : SameWork session other)
    (h' : SameWork session another) : SameWork session (if c then other else another) := by
  split
  · exact h
  · exact h'

/-- While time passes nothing is queued and no interrupt is dispatched. -/
theorem ofPassed (h : session.Passed other) : SameWork session other where
  mode := congrArg Arm7tdmi.mode h.cpu
  pc := congrArg (fun cpu => cpu.registers Arm7tdmi.kPc) h.cpu
  hleWorkFrames := by rw [h.scheduler]
  hleIrqDepth := by
    unfold CoreSession.hleIrqDepth
    rw [h.scheduler]

theorem runnableWork (h : SameWork session other) :
    other.runnableWork = session.runnableWork := by
  unfold CoreSession.runnableWork
  rw [h.mode, h.pc, h.hleWorkFrames, h.hleIrqDepth]

end CoreSession.SameWork

namespace SessionEffects

variable {charges : Prop}

/-! ## The fetch -/

theorem resetFetch (session : CoreSession) :
    SessionEffects charges session session.resetFetchTimingSequence :=
  note session ⟨rfl, rfl, sound_resetFetch⟩

theorem forgetThumbFetch (session : CoreSession) :
    SessionEffects charges session session.forgetThumbFetch := by
  refine note session ⟨rfl, rfl, fun h => ?_⟩
  have hreset := sound_resetFetch h
  exact ⟨hreset.buffer, hreset.latency, rfl, rfl, hreset.linked, hreset.saved, hreset.pieces⟩

theorem setSuppressBubble (session : CoreSession) (value : Bool) :
    SessionEffects charges session (session.setSuppressBubble value) :=
  note session ⟨rfl, rfl, fun h =>
    ⟨h.buffer, h.latency, h.width, h.window, h.linked, h.saved, h.pieces⟩⟩

theorem setPreviousInternalLoad (session : CoreSession) (value : Bool) :
    SessionEffects charges session (session.setPreviousInternalLoad value) :=
  note session ⟨rfl, rfl, fun h =>
    ⟨h.buffer, h.latency, h.width, h.window, h.linked, h.saved, h.pieces⟩⟩

/-- A number of halfwords within the capacity may replace the one in the buffer. -/
theorem setPrefetchBuffer (session : CoreSession) {halfwords : U8}
    (h : halfwords ≤ kPrefetchBufferCapacityHalfwords) :
    SessionEffects charges session (session.setPrefetchBuffer halfwords) :=
  note session ⟨rfl, rfl, fun hsound =>
    ⟨h, hsound.latency, hsound.width, hsound.window, hsound.linked, hsound.saved, hsound.pieces⟩⟩

/-- What is cut to the capacity stays within it. -/
theorem minWord_capacity (value : U32) :
    (minWord (kPrefetchBufferCapacityHalfwords.setWidth 32) value).setWidth 8 ≤
      kPrefetchBufferCapacityHalfwords := by
  unfold minWord kPrefetchBufferCapacityHalfwords
  rw [BitVec.le_def]
  split <;> simp only [BitVec.toNat_setWidth, BitVec.lt_def] at * <;> omega

theorem noticeWaitcnt (session : CoreSession) (waitcnt : WaitStateControl) :
    SessionEffects charges session (session.noticeWaitcnt waitcnt) := by
  unfold CoreSession.noticeWaitcnt
  refine branch .refl (note session ⟨rfl, rfl, fun h => ?_⟩)
  have hreset := sound_resetFetch h
  exact ⟨hreset.buffer, hreset.latency, rfl, rfl, hreset.linked, hreset.saved, hreset.pieces⟩

/-- A hit leaves the buffer within its capacity. -/
theorem bufferAfterHit_le (set : CoreInstructionSet) {cycles : U32} {halfwords : U8}
    (h : halfwords ≤ kPrefetchBufferCapacityHalfwords) (hhit : set.widthBytes / 2 ≤ halfwords) :
    CoreSession.bufferAfterHit set halfwords cycles ≤ kPrefetchBufferCapacityHalfwords := by
  cases set with
  | arm =>
      have htwo : (2#8) ≤ halfwords := hhit
      unfold CoreSession.bufferAfterHit kPrefetchBufferCapacityHalfwords at *
      bv_omega
  | thumb =>
      have hone : (1#8) ≤ halfwords := hhit
      unfold CoreSession.bufferAfterHit
      dsimp only
      split
      · exact minWord_capacity _
      · unfold kPrefetchBufferCapacityHalfwords at *
        bv_omega

theorem cartridgeFetch (session : CoreSession) (set : CoreInstructionSet) (fetchAddress : U32)
    (waitcnt : WaitStateControl) :
    SessionEffects charges session (session.cartridgeFetch set fetchAddress waitcnt).2 := by
  unfold CoreSession.cartridgeFetch
  extract_lets state access suppressed prefetchEnabled buffer required
  have hbuffer (h : state.Sound) : buffer ≤ kPrefetchBufferCapacityHalfwords := by
    dsimp only [buffer]
    split
    · exact Nat.zero_le _
    · exact h.buffer
  split
  next sequential boundary heq =>
  extract_lets hit cycles
  dsimp only
  refine note session ⟨rfl, rfl, fun h => ?_⟩
  refine ⟨?_, h.latency, h.width, h.window, h.linked, h.saved, h.pieces⟩
  dsimp only
  split
  · next hhit =>
      dsimp only [hit] at hhit
      simp only [Bool.and_eq_true, decide_eq_true_eq] at hhit
      exact bufferAfterHit_le set (hbuffer h) hhit.2
  · exact hbuffer h

theorem noteFetch (session : CoreSession) (set : CoreInstructionSet) (fetchAddress : U32) :
    SessionEffects charges session (session.noteFetch set fetchAddress) :=
  note session ⟨rfl, rfl, fun h =>
    ⟨h.buffer, h.latency, rfl, rfl, h.linked, h.saved, h.pieces⟩⟩

variable (charges) in
theorem passFetch (session : CoreSession) (h : session.system.devices.Live) (cycles : U32) :
    Ensures (session.passFetch sessionWiring cycles) fun passed =>
      SessionEffects charges session passed ∧ session.SameWork passed := by
  unfold CoreSession.passFetch
  refine .ite (fun _ => ?_) fun _ => .ret ⟨.refl, .refl session⟩
  obtain ⟨⟨result, passed⟩, hadvance, hpassed⟩ := advance charges session h cycles
  refine Ensures.map (Q := fun advanced => advanced = (result, passed)) ⟨_, hadvance, rfl⟩ ?_
  rintro _ rfl
  exact ⟨hpassed, .ofPassed (CoreSession.advanceDevices_passed hadvance)⟩

variable (charges) in
/-- The fetch is timed, and the work that runs next stays the same. -/
theorem applyFetchTiming (session : CoreSession) (h : session.system.devices.Live)
    (set : CoreInstructionSet) (fetchAddress : U32) :
    Ensures (session.applyFetchTiming sessionWiring set fetchAddress) fun fetched =>
      SessionEffects charges session fetched.2 ∧ session.SameWork fetched.2 := by
  unfold CoreSession.applyFetchTiming
  split
  · refine .ret ⟨?_, rfl, rfl, rfl, rfl⟩
    dsimp only
    refine note session ⟨rfl, rfl, fun hsound => ?_⟩
    have hreset := sound_resetFetch hsound
    exact ⟨hreset.buffer, hreset.latency, rfl, rfl, hreset.linked, hreset.saved, hreset.pieces⟩
  · next waitcnt _ =>
      extract_lets noticed
      have hnoticed : SessionEffects charges session noticed := noticeWaitcnt session waitcnt
      have hsame : session.SameWork noticed := .ite (.refl session) ⟨rfl, rfl, rfl, rfl⟩
      split
      · have hreset : SessionEffects charges session noticed.resetFetchTimingSequence :=
          hnoticed.trans (resetFetch noticed)
        have hforgotten : noticed.SameWork noticed.resetFetchTimingSequence :=
          ⟨rfl, rfl, rfl, rfl⟩
        exact (passFetch charges _ (hreset.live h) _).map fun _ ⟨hpassed, hkept⟩ =>
          ⟨hreset.trans hpassed, (hsame.trans hforgotten).trans hkept⟩
      · have hfetch : SessionEffects charges session
            (noticed.cartridgeFetch set fetchAddress waitcnt).2 :=
          hnoticed.trans (cartridgeFetch noticed set fetchAddress waitcnt)
        have hfetched : noticed.SameWork (noticed.cartridgeFetch set fetchAddress waitcnt).2 :=
          ⟨rfl, rfl, rfl, rfl⟩
        refine (passFetch charges _ (hfetch.live h) _).map fun passed ⟨hpassed, hkept⟩ => ⟨?_, ?_⟩
        · exact (hfetch.trans hpassed).trans (noteFetch passed set fetchAddress)
        · exact (hsame.trans (hfetched.trans hkept)).trans ⟨rfl, rfl, rfl, rfl⟩
      · exact .ret ⟨hnoticed.trans (resetFetch noticed), hsame.trans ⟨rfl, rfl, rfl, rfl⟩⟩

theorem refillBuffer (session : CoreSession) (waitcnt : WaitStateControl)
    (nextFetchAddress spareCycles : U32) :
    SessionEffects charges session (session.refillBuffer waitcnt nextFetchAddress spareCycles) := by
  unfold CoreSession.refillBuffer
  extract_lets sequential
  refine branch (setPrefetchBuffer session (Nat.zero_le _)) (branch .refl ?_)
  exact setPrefetchBuffer session (minWord_capacity _)

theorem refillPrefetchAfterStep (session : CoreSession) (set : CoreInstructionSet)
    (fetchAddress : U32) (step : CoreSchedulerStepResult) (extraRefillCycles : U32) :
    SessionEffects charges session
      (session.refillPrefetchAfterStep sessionWiring set fetchAddress step
      extraRefillCycles) := by
  unfold CoreSession.refillPrefetchAfterStep
  split
  · exact .refl
  · extract_lets noticed
    have hnoticed : SessionEffects charges session noticed := by
      refine branch .refl (note session ⟨rfl, rfl, fun h => ?_⟩)
      exact ⟨Nat.zero_le _, h.latency, h.width, h.window, h.linked, h.saved, h.pieces⟩
    clear_value noticed
    refine branch hnoticed (branch ?_ (branch ?_ ?_))
    · exact hnoticed.trans (setPrefetchBuffer noticed (Nat.zero_le _))
    · refine hnoticed.trans (note noticed ⟨rfl, rfl, fun h => ?_⟩)
      have hreset := sound_resetFetch h
      exact ⟨hreset.buffer, hreset.latency, rfl, rfl, hreset.linked, hreset.saved, hreset.pieces⟩
    · exact hnoticed.trans (refillBuffer noticed _ _ _)

end SessionEffects

/-- A step has moved a session on by effects, and it has a result unless its fetch has failed. -/
structure CoreSession.Stepped (charges : Prop) (session : CoreSession)
    (stepped : CoreSchedulerFetchStepResult × CoreSession) : Prop where
  effects : SessionEffects charges session stepped.2
  answered : stepped.1.fetchFailed = stepped.1.step.isNone

/-- What a step starts with. -/
theorem CoreSession.Stepped.after {charges : Prop} {session middle : CoreSession}
    {stepped : CoreSchedulerFetchStepResult × CoreSession} (h : middle.Stepped charges stepped)
    (hbefore : SessionEffects charges session middle) : session.Stepped charges stepped :=
  ⟨hbefore.trans h.effects, h.answered⟩

namespace SessionEffects

/-! ## The end of a step -/

section Finish

variable {charges : Prop} {ready : CoreSession → Bool}

variable (charges) in
theorem stall (progress : FetchProgress) (h : progress.session.system.devices.Live)
    (condition : Bool) (cycles : U32) :
    Ensures (progress.stall sessionWiring condition cycles) fun stalled =>
      SessionEffects charges progress.session stalled.session := by
  unfold FetchProgress.stall
  refine .ite (fun _ => ?_) fun _ => .ret .refl
  exact (advance charges progress.session h cycles).map fun _ hadvanced => hadvanced

variable (charges) in
theorem refill (progress : FetchProgress) (h : progress.session.system.devices.Live)
    (cycles : U32) :
    Ensures (progress.refill sessionWiring cycles) fun refilled =>
      SessionEffects charges progress.session refilled.session := by
  unfold FetchProgress.refill
  refine (advance charges progress.session h cycles).map fun advanced hadvanced => ?_
  dsimp only
  split
  · exact hadvanced
  · exact hadvanced

theorem serviceRefilled (progress : FetchProgress) (refilled : Bool) :
    SessionEffects charges progress.session
      (progress.serviceRefilled ready refilled).2.session := by
  have hservice := @serviceAutoIrq charges progress.session false false
  unfold FetchProgress.serviceRefilled
  split
  · split
    · next heq =>
        rw [heq] at hservice
        exact hservice
    · next heq =>
        rw [heq] at hservice
        exact hservice
  · exact .refl

theorem moveOn (progress : FetchProgress) (set : CoreInstructionSet) (fetchAddress : U32)
    (pcAdvanced seed : Bool) (extraRefillCycles : U32) :
    SessionEffects charges progress.session (progress.moveOn sessionWiring set fetchAddress
      pcAdvanced seed extraRefillCycles) := by
  unfold FetchProgress.moveOn
  refine branch ((setPc _ _).trans (refillPrefetchAfterStep _ _ _ _ _)) ?_
  have hreset := @resetFetch charges progress.session
  refine branch (hreset.trans (setPrefetchBuffer _ ?_)) hreset
  exact BitVec.le_def.mpr (Nat.le_of_ble_eq_true rfl)

/-! ## ARM -/

theorem finishFastArm (progress : FetchProgress) (h : progress.session.system.devices.Live)
    (fetchAddress instruction : U32) (fetch : FetchTiming) :
    Ensures (CoreSession.finishFastArm sessionWiring fetchAddress instruction fetch progress)
      (progress.session.Stepped charges) := by
  unfold CoreSession.finishFastArm
  extract_lets pcAdvanced
  refine (stall charges progress h _ _).bind fun charged hcharged => ?_
  exact .ret ⟨hcharged.trans (moveOn charged _ _ _ _ _), rfl⟩

theorem finishArm (progress : FetchProgress) (h : progress.session.system.devices.Live)
    (fetchAddress instruction : U32) (fetch : FetchTiming) :
    Ensures (CoreSession.finishArm sessionWiring ready fetchAddress instruction fetch progress)
      (progress.session.Stepped charges) := by
  unfold CoreSession.finishArm
  extract_lets target executedBranchToSelf pcAdvanced refills exchange seed finish
  have hfinish (refilled : FetchProgress)
      (hrefilled : SessionEffects charges progress.session refilled.session) :
      Ensures (finish refilled) (progress.session.Stepped charges) := by
    refine (stall charges refilled (hrefilled.live h) _ _).bind fun skipped hskipped => ?_
    have hboth : SessionEffects charges progress.session skipped.session := hrefilled.trans hskipped
    refine (stall charges skipped (hboth.live h) _ _).bind fun charged hcharged => ?_
    have hserviced := @serviceRefilled charges ready charged refills
    exact .ret ⟨((hboth.trans hcharged).trans hserviced).trans (moveOn _ _ _ _ _ _), rfl⟩
  refine .ite (fun _ => ?_) fun _ => .bind (.ret .refl) hfinish
  exact (refill charges progress h _).bind hfinish

/-- What follows the fetch of an ARM instruction returns. -/
theorem executeFetchedArm (session : CoreSession) (h : session.system.devices.Live)
    (hcharges : session.runnableWork.isSome → charges) (fetchAddress instruction : U32) :
    Ensures (session.executeFetchedArm sessionWiring ready fetchAddress instruction)
      (session.Stepped charges) := by
  unfold CoreSession.executeFetchedArm
  extract_lets simple
  refine .ite (fun _ => ?_) fun _ => ?_
  · refine (fastStep charges session h fun cpu =>
      CpuEffects.stepArm instruction cpu fun _ => trivial).map fun stepped hstepped => ?_
    exact ⟨branch (hstepped.trans (setPc _ _)) hstepped, rfl⟩
  · refine (applyFetchTiming charges session h .arm fetchAddress).bind
      fun ⟨fetch, fetched⟩ ⟨hfetched, hsame⟩ => ?_
    have hlive : fetched.system.devices.Live := hfetched.live h
    dsimp -zeta only
    extract_lets elapsedOverride
    refine .ite (fun _ => ?_) fun _ => ?_
    · refine (fastStep charges fetched hlive fun cpu =>
        CpuEffects.stepArm instruction cpu fun _ => trivial).bind fun ⟨step, stepped⟩ hstepped => ?_
      have hboth : SessionEffects charges session stepped := hfetched.trans hstepped
      exact (finishFastArm ⟨stepped, step⟩ (hboth.live h) _ _ _).conseq fun _ hfinished =>
        hfinished.after hboth
    · refine (stepArm fetched hlive (hsame.runnableWork ▸ hcharges) instruction
        elapsedOverride).bind
        fun ⟨step, stepped⟩ hstepped => ?_
      have hboth : SessionEffects charges session stepped := hfetched.trans hstepped
      exact (finishArm ⟨stepped, step⟩ (hboth.live h) _ _ _).conseq fun _ hfinished =>
        hfinished.after hboth

theorem fetchArm (session : CoreSession) (h : session.system.devices.Live)
    (hcharges : session.runnableWork.isSome → charges) (fetchAddress : U32) :
    Ensures (session.fetchArm sessionWiring ready fetchAddress) (session.Stepped charges) := by
  unfold CoreSession.fetchArm
  refine .ite (fun _ => .ret ⟨resetFetch session, rfl⟩) fun _ => ?_
  refine (dispatchHleIrqVector charges session h fetchAddress).bind
    fun ⟨dispatched, entered⟩ ⟨hentered, hidle⟩ => ?_
  cases dispatched with
  | some step => exact .ret ⟨hentered.trans (resetFetch entered), rfl⟩
  | none =>
      obtain rfl : entered = session := hidle rfl
      dsimp only
      split
      · exact .ret ⟨resetFetch entered, rfl⟩
      · exact executeFetchedArm entered h hcharges _ _

theorem stepHleWorkFromPc (session : CoreSession) (h : session.system.devices.Live)
    (hcharges : session.runnableWork.isSome → charges) :
    Ensures (session.stepHleWorkFromPc sessionWiring) fun worked =>
      SessionEffects charges session worked.2 ∧ (worked.1 = none → worked.2 = session) ∧
        ∀ result ∈ worked.1, result.fetchFailed = result.step.isNone := by
  unfold CoreSession.stepHleWorkFromPc
  refine (advanceHleWork session h hcharges).map fun worked ⟨hworked, hidle⟩ =>
    ⟨hworked, fun hnone => hidle (Option.map_eq_none_iff.mp hnone), fun result hresult => ?_⟩
  obtain ⟨step, -, rfl⟩ := Option.map_eq_some_iff.mp hresult
  rfl

theorem stepArmFromPc (session : CoreSession) (h : session.system.devices.Live)
    (hcharges : session.runnableWork.isSome → charges) :
    Ensures (session.stepArmFromPc sessionWiring ready) (session.Stepped charges) := by
  unfold CoreSession.stepArmFromPc
  refine (stepHleWorkFromPc session h hcharges).bind
    fun ⟨work, worked⟩ ⟨hworked, hidle, hanswered⟩ => ?_
  cases work with
  | some result => exact .ret ⟨hworked, hanswered result rfl⟩
  | none =>
      obtain rfl : worked = session := hidle rfl
      refine (dispatchHleIrqReturn charges worked h worked.pc).bind
        fun ⟨dispatched, returned⟩ ⟨hreturned, hidle⟩ => ?_
      cases dispatched with
      | some step => exact .ret ⟨hreturned.trans (resetFetch returned), rfl⟩
      | none =>
          obtain rfl : returned = worked := hidle rfl
          exact fetchArm returned h hcharges _

/-! ## Thumb -/

variable (charges) in
theorem refillThumb (progress : FetchProgress) (h : progress.session.system.devices.Live)
    (fetchAddress target : U32) (instruction : U16) :
    Ensures (CoreSession.refillThumb sessionWiring fetchAddress target instruction progress)
      fun refilled => SessionEffects charges progress.session refilled.session := by
  unfold CoreSession.refillThumb
  extract_lets waitcnt refillCycles internal sensitive conditional sensitiveConditional lineCycle
    elapsed rollover
  refine (refill charges progress h _).bind fun refilled hrefilled => ?_
  refine (stall charges refilled (hrefilled.live h) _ _).bind fun stalled hstalled => ?_
  have hboth : SessionEffects charges progress.session stalled.session := hrefilled.trans hstalled
  exact (stall charges stalled (hboth.live h) _ _).conseq fun _ hlast => hboth.trans hlast

theorem finishThumb (progress : FetchProgress) (h : progress.session.system.devices.Live)
    (fetchAddress : U32) (instruction : U16) (fetch : FetchTiming)
    (overlap suppressBubble previousInternalLoad : Bool) :
    Ensures (CoreSession.finishThumb sessionWiring ready fetchAddress instruction fetch overlap
      suppressBubble previousInternalLoad progress) (progress.session.Stepped charges) := by
  unfold CoreSession.finishThumb
  extract_lets target executedBranchToSelf pcAdvanced refills seed finish
  have hfinish (refilled : FetchProgress)
      (hrefilled : SessionEffects charges progress.session refilled.session) :
      Ensures (finish refilled) (progress.session.Stepped charges) := by
    refine (stall charges refilled (hrefilled.live h) _ _).bind fun penalized hpenalized => ?_
    have hboth : SessionEffects charges progress.session penalized.session :=
      hrefilled.trans hpenalized
    refine (stall charges penalized (hboth.live h) _ _).bind fun charged hcharged => ?_
    have hall : SessionEffects charges progress.session charged.session := hboth.trans hcharged
    extract_lets noted
    have hnoted : SessionEffects charges progress.session noted.session :=
      hall.trans (setSuppressBubble charged.session _)
    have hserviced := @serviceRefilled charges ready noted refills
    refine .ret ⟨?_, rfl⟩
    exact ((hnoted.trans hserviced).trans (moveOn _ _ _ _ _ _)).trans (setPreviousInternalLoad _ _)
  refine .ite (fun _ => ?_) fun _ => .bind (.ret .refl) hfinish
  exact (refillThumb charges progress h _ _ _).bind hfinish

/-- What follows the fetch of a Thumb instruction returns. -/
theorem executeFetchedThumb (session : CoreSession) (h : session.system.devices.Live)
    (hcharges : session.runnableWork.isSome → charges) (fetchAddress : U32) (instruction : U16) :
    Ensures (session.executeFetchedThumb sessionWiring ready fetchAddress instruction)
      (session.Stepped charges) := by
  unfold CoreSession.executeFetchedThumb
  refine .ite (fun _ => ?_) fun _ => ?_
  · refine (fastStep charges session h fun cpu =>
      CpuEffects.stepThumb instruction cpu fun _ => trivial).map fun stepped hstepped => ⟨?_, rfl⟩
    exact (branch (hstepped.trans (setPc _ _)) hstepped).trans (setPreviousInternalLoad _ _)
  · extract_lets execute
    have hexecute (fetched : FetchTiming × CoreSession)
        (hfetched : SessionEffects charges session fetched.2 ∧ session.SameWork fetched.2) :
        Ensures (execute fetched) (session.Stepped charges) := by
      obtain ⟨fetch, fetched⟩ := fetched
      obtain ⟨hfetched, hsame⟩ := hfetched
      have hsuppressed : SessionEffects charges session (fetched.setSuppressBubble false) :=
        hfetched.trans (setSuppressBubble fetched false)
      have hwork : (fetched.setSuppressBubble false).runnableWork = session.runnableWork :=
        hsame.runnableWork
      dsimp only [execute]
      refine (stepThumb _ (hsuppressed.live h) (hwork ▸ hcharges) instruction _ _).bind
        fun ⟨step, stepped⟩ hstepped => ?_
      have hboth : SessionEffects charges session stepped := hsuppressed.trans hstepped
      exact (finishThumb ⟨stepped, step⟩ (hboth.live h) _ _ _ _ _ _).conseq fun _ hfinished =>
        hfinished.after hboth
    refine .ite (fun _ => .bind (.ret ⟨.refl, .refl session⟩) hexecute) fun _ => ?_
    exact (applyFetchTiming charges session h .thumb fetchAddress).bind hexecute

theorem fetchThumb (session : CoreSession) (h : session.system.devices.Live)
    (hcharges : session.runnableWork.isSome → charges) (fetchAddress : U32) :
    Ensures (session.fetchThumb sessionWiring ready fetchAddress) (session.Stepped charges) := by
  unfold CoreSession.fetchThumb
  refine .ite (fun _ => .ret ⟨forgetThumbFetch session, rfl⟩) fun _ => ?_
  split
  · exact .ret ⟨forgetThumbFetch session, rfl⟩
  · exact executeFetchedThumb session h hcharges _ _

theorem stepThumbFromPc (session : CoreSession) (h : session.system.devices.Live)
    (hcharges : session.runnableWork.isSome → charges) :
    Ensures (session.stepThumbFromPc sessionWiring ready) (session.Stepped charges) := by
  unfold CoreSession.stepThumbFromPc
  refine (dispatchHleIrqReturn charges session h session.pc).bind
    fun ⟨dispatched, returned⟩ ⟨hreturned, hidle⟩ => ?_
  cases dispatched with
  | some step => exact .ret ⟨hreturned.trans (forgetThumbFetch returned), rfl⟩
  | none =>
      obtain rfl : returned = session := hidle rfl
      exact fetchThumb returned h hcharges _

/-- `step_from_pc` returns, with any predicate on interrupts that are ready. -/
theorem stepFromPc (session : CoreSession) (h : session.system.devices.Live)
    (hcharges : session.runnableWork.isSome → charges)
    (hrecovered : session.recoverThumbStateFromRomMisfetch.runnableWork.isSome → charges) :
    Ensures (session.stepFromPc sessionWiring ready) (session.Stepped charges) := by
  unfold CoreSession.stepFromPc
  refine (stepHleWorkFromPc session h hcharges).bind
    fun ⟨work, worked⟩ ⟨hworked, hidle, hanswered⟩ => ?_
  cases work with
  | some result => exact .ret ⟨hworked, hanswered result rfl⟩
  | none =>
      obtain rfl : worked = session := hidle rfl
      have heffects := @recoverThumbStateFromRomMisfetch charges worked
      dsimp -zeta only
      extract_lets recovered
      refine .ite (fun _ => ?_) fun _ => ?_
      · have hsuppressed : SessionEffects charges worked (recovered.setSuppressBubble false) :=
          heffects.trans (setSuppressBubble recovered false)
        exact (stepArmFromPc _ (hsuppressed.live h) hrecovered).conseq fun _ hstepped =>
          hstepped.after hsuppressed
      · exact (stepThumbFromPc recovered (heffects.live h) hrecovered).conseq fun _ hstepped =>
          hstepped.after heffects

end Finish

end SessionEffects

/-- A step of a session with live devices returns, and the session after it comes from the one
before by effects. -/
theorem CoreSession.step_stepped (session : CoreSession) (h : session.system.devices.Live) :
    Ensures session.step (session.Stepped True) :=
  SessionEffects.stepFromPc session h (fun _ => trivial) fun _ => trivial

end Gba.Core
