import Gba.Core.AdvanceSplit
import Gba.Core.DisplayCycles
import Gba.Core.DmaSafety
import Gba.Core.FetchStep
import Gba.Core.StoreLoads
import Gba.Core.ThumbDataProcessing

/-!
# The fast paths of simple instructions

An instruction that a fast path takes is executed there without the stages for data accesses and
immediate DMA. The first kind of stage does nothing for such an instruction. The second one does
something exactly when a channel waits for immediate service, or the flag says so, once the cycles
of the instruction have passed.
-/

namespace Gba.Core

/-! ## Immediate DMA -/

namespace System

/-- There is no immediate DMA to run. -/
def ImmediateIdle (system : System) : Prop :=
  system.devices.dma.immediatePending = false ∧
    ∀ channel, (system.channel channel).waitsImmediate = false

instance immediateIdle_decidable (system : System) : Decidable system.ImmediateIdle := by
  unfold ImmediateIdle
  infer_instance

end System

section ImmediateDma

variable {waitcnt : WaitcntPointer}

end ImmediateDma

/-! ## Simple instructions -/

namespace CoreSession

theorem Passed.chain {before after : CoreSession} (h : Passed before after) :
    after.scheduler.hleIrqPostReturnChainActive =
      before.scheduler.hleIrqPostReturnChainActive := by
  rw [h.scheduler]

section Step

variable {wiring : SchedulerWiring} {ready : CoreSession → Bool} {simple : SimpleForm}
  {form : InstructionForm} {session : CoreSession}

end Step

/-! ## The instructions of the fast paths -/

section Instructions

variable {instruction : U32}

/-- The members of the scheduler that only the timing of fetches uses. -/
def fetchMembers (session : CoreSession) :
    Option U32 × Option U8 × Option U8 × U8 × Bool × Bool × Option U16 × Bool :=
  let state := session.scheduler
  (state.lastFetchAddress, state.lastFetchWidthBytes, state.lastFetchWindow,
    state.prefetchBufferHalfwords, state.suppressNextGamePakPrefetch,
    state.recoverNextGamePakDataFetch, state.lastWaitcntControl,
    state.suppressNextThumbPrefetchExecuteBubble)

/-- The members as a scheduler without a wait-state control keeps them. -/
def FetchClear (session : CoreSession) : Prop :=
  session.fetchMembers = (none, none, none, 0, false, false, none, false)

theorem FetchClear.reset {session : CoreSession} (h : session.FetchClear) :
    session.resetFetchTimingSequence = session := by
  obtain ⟨cpu, system, bios, scheduler, generation⟩ := session
  cases scheduler
  simp only [FetchClear, fetchMembers, Prod.mk.injEq] at h
  obtain ⟨rfl, rfl, rfl, rfl, rfl, rfl, rfl, rfl⟩ := h
  rfl

theorem FetchClear.control {session : CoreSession} (h : session.FetchClear) :
    session.scheduler.lastWaitcntControl = none := by
  simp only [FetchClear, fetchMembers, Prod.mk.injEq] at h
  exact h.2.2.2.2.2.2.1

theorem FetchClear.bubble {session : CoreSession} (h : session.FetchClear) :
    session.setSuppressBubble false = session := by
  obtain ⟨cpu, system, bios, scheduler, generation⟩ := session
  cases scheduler
  simp only [FetchClear, fetchMembers, Prod.mk.injEq] at h
  obtain ⟨rfl, rfl, rfl, rfl, rfl, rfl, rfl, rfl⟩ := h
  rfl

theorem FetchClear.buffer {session : CoreSession} (h : session.FetchClear) :
    session.scheduler.prefetchBufferHalfwords = 0 := by
  simp only [FetchClear, fetchMembers, Prod.mk.injEq] at h
  exact h.2.2.2.1

theorem Passed.fetchMembers {before after : CoreSession} (h : Passed before after) :
    after.fetchMembers = before.fetchMembers := by
  unfold CoreSession.fetchMembers
  rw [h.scheduler]

section Unwired

variable {wiring : SchedulerWiring} {session : CoreSession}

theorem FetchClear.moved {after : CoreSession} (h : after.FetchClear) (pcAdvanced : Bool)
    (target : U32) : (if pcAdvanced then after.setPc target else after).FetchClear := by
  split
  · exact h
  · exact h

end Unwired

end Instructions

/-! ## The fast paths -/

section Agree

variable (wiring : SchedulerWiring) (ready : CoreSession → Bool) (session : CoreSession)

end Agree

end CoreSession

end Gba.Core
