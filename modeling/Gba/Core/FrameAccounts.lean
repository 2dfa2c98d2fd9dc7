import Gba.Core.RunLoop
import Gba.Library.BoundedQueue

/-!
# The account of a frame

A call of `step_frame` steps its session until the time of the frame is over, until it has executed as
many instructions as it may, or until a step fails. From a session that is ever reached every pass of
the loop returns, so that a call that is still running after some passes has spent them on steps
without an instruction. A call that returns accounts for its passes, hands out the mixed samples that
have been queued, and leaves the queue empty.
-/

namespace Gba.Core

open Gba.Library

namespace CoreSession

/-- A step that executes no instruction, and does not fail to fetch one. -/
def idle (fetch : CoreSchedulerFetchStepResult) : Bool :=
  !fetch.fetchFailed && fetch.instruction.isNone

/-- The number of such steps among the next ones. -/
def idleSteps : Nat → CoreSession → Nat
  | 0, _ => 0
  | n + 1, session =>
      match session.step with
      | none => 0
      | some (fetch, after) => (idle fetch).toNat + idleSteps n after

variable {session middle after : CoreSession} {fetch : CoreSchedulerFetchStepResult} {n : Nat}

/-- One more step. -/
theorem afterSteps_snoc (h : afterSteps step n session = some middle)
    (hstep : middle.step = some (fetch, after)) :
    afterSteps step (n + 1) session = some after := by
  induction n generalizing session with
  | zero =>
      obtain rfl := Option.some.inj h
      show (session.step).bind _ = _
      rw [hstep]
      rfl
  | succ n ih =>
      obtain ⟨stepped, hfirst, hrest⟩ := Option.bind_eq_some_iff.mp h
      show (session.step).bind _ = _
      rw [hfirst]
      exact ih hrest

theorem idleSteps_snoc (h : afterSteps step n session = some middle)
    (hstep : middle.step = some (fetch, after)) :
    idleSteps (n + 1) session = idleSteps n session + (idle fetch).toNat := by
  induction n generalizing session with
  | zero =>
      obtain rfl := Option.some.inj h
      unfold idleSteps
      rw [hstep]
      exact Nat.add_comm _ _
  | succ n ih =>
      obtain ⟨stepped, hfirst, hrest⟩ := Option.bind_eq_some_iff.mp h
      have hsplit (m : Nat) : idleSteps (m + 1) session =
          (idle stepped.1).toNat + idleSteps m stepped.2 := by
        show (match session.step with
          | none => 0
          | some (fetch, after) => (idle fetch).toNat + idleSteps m after) = _
        rw [hfirst]
      rw [hsplit, hsplit, ih hrest, Nat.add_assoc]

end CoreSession

/-! ## The passes of the loop -/

/-- What the counters say after some passes that have not ended the loop. -/
structure FrameRun.Counting (start : CoreSession) (maxSteps : U32) (passes : Nat)
    (frame : FrameRun) : Prop where
  session : CoreSession.afterSteps CoreSession.step passes start = some frame.session
  reached : frame.session.Reached
  requested : frame.run.requestedSteps = maxSteps
  attempted : frame.run.attemptedSteps = BitVec.ofNat 32 passes
  skipped : frame.run.skippedSteps = BitVec.ofNat 32 (start.idleSteps passes)
  passed : frame.run.executedSteps.toNat + start.idleSteps passes = passes
  executed : frame.run.executedSteps ≤ maxSteps
  unsupported : frame.run.unsupportedSteps = 0
  fetchFailures : frame.run.fetchFailures = 0
  stopReason : frame.run.stopReason = .maxSteps

/-- What the counters of a call say about its passes: each has executed an instruction, was idle, met
an instruction that is unsupported or failed to fetch one. -/
structure FrameAccounts (cycleTarget : U64) (maxSteps : U32) (passes idle : Nat) (cycles : U64)
    (run : CoreSchedulerRunResult) : Prop where
  requested : run.requestedSteps = maxSteps
  executed : run.executedSteps ≤ maxSteps
  skipped : run.skippedSteps = BitVec.ofNat 32 idle
  passed : run.executedSteps.toNat + idle + run.unsupportedSteps.toNat +
    run.fetchFailures.toNat = passes
  attempted : run.attemptedSteps + run.fetchFailures = BitVec.ofNat 32 passes
  stop :
    match run.stopReason with
    | .maxSteps => (cycleTarget ≤ cycles ∨ run.executedSteps = maxSteps) ∧
        run.unsupportedSteps = 0 ∧ run.fetchFailures = 0
    | .fetchFailed => run.unsupportedSteps = 0 ∧ run.fetchFailures = 1
    | .unsupportedInstruction => run.unsupportedSteps = 1 ∧ run.fetchFailures = 0

/-- The session and the counters of a loop that has ended after some passes. -/
structure FrameRun.Ended (start : CoreSession) (cycleTarget : U64) (maxSteps : U32) (passes : Nat)
    (frame : FrameRun) : Prop where
  session : CoreSession.afterSteps CoreSession.step passes start = some frame.session
  reached : frame.session.Reached
  accounts : FrameAccounts cycleTarget maxSteps passes (start.idleSteps passes)
    frame.session.scheduler.schedulerCycles frame.run

namespace FrameRun

variable {start : CoreSession} {cycleTarget : U64} {maxSteps : U32} {passes : Nat}
  {frame : FrameRun}

/-- The loop ends before a pass when its condition is false. -/
theorem Counting.ended (h : frame.Counting start maxSteps passes)
    (hdone : ¬(frame.session.scheduler.schedulerCycles < cycleTarget ∧
      frame.run.executedSteps < maxSteps)) : frame.Ended start cycleTarget maxSteps passes := by
  refine ⟨h.session, h.reached, h.requested, h.executed, h.skipped, ?_, ?_, ?_⟩
  · rw [h.unsupported, h.fetchFailures]
    exact h.passed
  · rw [h.fetchFailures, h.attempted]
    exact BitVec.add_zero _
  · rw [h.stopReason]
    refine ⟨?_, h.unsupported, h.fetchFailures⟩
    have hexecuted := h.executed
    bv_omega

/-- A pass of the loop. -/
theorem Counting.pass (h : frame.Counting start maxSteps passes)
    (hmore : frame.run.executedSteps < maxSteps) (advances : StepAdvances) :
    ∃ stop next, frame.pass advances = some (stop, next) ∧
      if stop then next.Ended start cycleTarget maxSteps (passes + 1)
      else next.Counting start maxSteps (passes + 1) := by
  obtain ⟨fetch, after, hstep, hafter⟩ := h.reached.step_reached
  have hsession := CoreSession.afterSteps_snoc h.session hstep
  have hidle := CoreSession.idleSteps_snoc h.session hstep
  have hattempted : frame.run.attemptedSteps + 1 = BitVec.ofNat 32 (passes + 1) := by
    rw [h.attempted, BitVec.ofNat_add]
    rfl
  have hexecuted : (frame.run.executedSteps + 1).toNat = frame.run.executedSteps.toNat + 1 := by
    bv_omega
  have hpassed := h.passed
  unfold FrameRun.pass
  rw [hstep, Option.map_some]
  dsimp only
  by_cases hfetch : fetch.fetchFailed = true
  · -- the fetch has failed
    have hbusy : CoreSession.idle fetch = false := by simp [CoreSession.idle, hfetch]
    rw [hbusy, Bool.toNat_false, Nat.add_zero] at hidle
    rw [if_pos hfetch]
    refine ⟨_, _, rfl, hsession, hafter, h.requested, h.executed, hidle ▸ h.skipped, ?_, ?_,
      h.unsupported, ?_⟩
    · rw [hidle]
      show _ + _ + frame.run.unsupportedSteps.toNat + (frame.run.fetchFailures + 1).toNat = _
      rw [h.unsupported, h.fetchFailures]
      show frame.run.executedSteps.toNat + start.idleSteps passes + 0 + 1 = passes + 1
      omega
    · show frame.run.attemptedSteps + (frame.run.fetchFailures + 1) = _
      rw [h.fetchFailures, ← hattempted]
      rfl
    · show frame.run.fetchFailures + 1 = 1
      rw [h.fetchFailures]
      rfl
  rw [if_neg hfetch]
  by_cases hnone : fetch.instruction.isNone = true
  · -- a step without an instruction
    have hskips : CoreSession.idle fetch = true := by simp [CoreSession.idle, hfetch, hnone]
    rw [hskips, Bool.toNat_true] at hidle
    rw [if_pos hnone]
    refine ⟨_, _, rfl, hsession, hafter, h.requested, hattempted, ?_, ?_, h.executed,
      h.unsupported, h.fetchFailures, h.stopReason⟩
    · show frame.run.skippedSteps + 1 = _
      rw [h.skipped, hidle, BitVec.ofNat_add]
      rfl
    · rw [hidle]
      show frame.run.executedSteps.toNat + _ = _
      omega
  have hbusy : CoreSession.idle fetch = false := by simp [CoreSession.idle, hnone]
  rw [hbusy, Bool.toNat_false, Nat.add_zero] at hidle
  rw [if_neg hnone]
  by_cases hunsupported : fetch.step.any (fun step => step.cpuStep.status = .unsupported) = true
  · rw [if_pos hunsupported]
    refine ⟨_, _, rfl, hsession, hafter, h.requested, h.executed, hidle ▸ h.skipped, ?_, ?_, ?_,
      h.fetchFailures⟩
    · rw [hidle]
      show _ + _ + (frame.run.unsupportedSteps + 1).toNat + frame.run.fetchFailures.toNat = _
      rw [h.unsupported, h.fetchFailures]
      show frame.run.executedSteps.toNat + start.idleSteps passes + 1 + 0 = passes + 1
      omega
    · show frame.run.attemptedSteps + 1 + frame.run.fetchFailures = _
      rw [h.fetchFailures, ← hattempted]
      exact BitVec.add_zero _
    · show frame.run.unsupportedSteps + 1 = 1
      rw [h.unsupported]
      rfl
  · rw [if_neg hunsupported]
    refine ⟨_, _, rfl, hsession, hafter, h.requested, hattempted, hidle ▸ h.skipped, ?_, ?_,
      h.unsupported, h.fetchFailures, h.stopReason⟩
    · rw [hidle]
      show (frame.run.executedSteps + 1).toNat + _ = _
      omega
    · show frame.run.executedSteps + 1 ≤ maxSteps
      bv_omega

/-- The loop ends and has accounted for its passes, or all the passes that it was given have been taken
and it is still running. -/
theorem loop_accounts (h : frame.Counting start maxSteps passes) (advances : StepAdvances)
    (cycleTarget : U64) (fuel : Nat) :
    (∃ last taken, FrameRun.loop advances cycleTarget maxSteps fuel frame = some last ∧
        last.Ended start cycleTarget maxSteps taken) ∨
      FrameRun.loop advances cycleTarget maxSteps fuel frame = none ∧
        ∃ running : FrameRun, running.Counting start maxSteps (passes + fuel) ∧
          running.session.scheduler.schedulerCycles < cycleTarget ∧
          running.run.executedSteps < maxSteps := by
  induction fuel generalizing frame passes with
  | zero =>
      unfold FrameRun.loop
      split
      · next hmore => exact .inr ⟨rfl, frame, h, hmore⟩
      · next hdone => exact .inl ⟨frame, passes, rfl, h.ended hdone⟩
  | succ fuel ih =>
      unfold FrameRun.loop
      split
      · next hmore =>
          obtain ⟨stop, next, hpass, hnext⟩ := h.pass hmore.2 advances
          rw [hpass]
          cases stop with
          | true => exact .inl ⟨next, passes + 1, rfl, hnext⟩
          | false =>
              have hsum : passes + 1 + fuel = passes + (fuel + 1) := by omega
              rw [← hsum]
              exact ih hnext
      · next hdone => exact .inl ⟨frame, passes, rfl, h.ended hdone⟩

end FrameRun

/-! ## The sound of a frame -/

/-- Draining a queue hands out what it holds, oldest first, and leaves it empty. -/
theorem drainAudio_contents (n : Nat) {apu : Apu} (h : apu.audioBuffer.WellFormed)
    (hn : apu.audioBuffer.contents.length = n) :
    ∃ buffer, drainAudio n apu =
        some (apu.audioBuffer.contents, { apu with audioBuffer := buffer }) ∧
      buffer.contents = [] := by
  induction n generalizing apu with
  | zero =>
      have hempty := List.length_eq_zero_iff.mp hn
      rw [hempty]
      exact ⟨apu.audioBuffer, rfl, hempty⟩
  | succ n ih =>
      obtain ⟨popped, buffer, hpop, hbuffer⟩ := h.pop
      obtain ⟨hhead, htail⟩ := RingBuffer.contents_pop hpop
      cases hcontents : apu.audioBuffer.contents with
      | nil =>
          rw [hcontents] at hn
          contradiction
      | cons sample rest =>
          rw [hcontents] at hn hhead htail
          obtain ⟨last, hdrain, hlast⟩ := @ih { apu with audioBuffer := buffer } hbuffer
            (by rw [htail]; exact Nat.succ.inj hn)
          refine ⟨last, ?_, hlast⟩
          unfold drainAudio Apu.popAudioSample
          rw [hpop, hhead]
          dsimp only [Option.map_some, List.head?_cons]
          rw [hdrain, htail]
          rfl

/-- Draining the queue is something that a host does. -/
theorem CoreSession.Reached.drainAudio {session : CoreSession} (h : session.Reached) {n : Nat}
    {samples : List ApuMixedSample} {apu : Apu}
    (hdrain : Core.drainAudio n session.system.devices.apu = some (samples, apu)) :
    (session.withDevices { session.system.devices with apu := apu }).Reached := by
  induction n generalizing session samples with
  | zero =>
      obtain ⟨-, rfl⟩ := Prod.mk.inj (Option.some.inj hdrain)
      exact h
  | succ n ih =>
      unfold Core.drainAudio at hdrain
      split at hdrain
      · contradiction
      · next hpop =>
          obtain ⟨-, rfl⟩ := Prod.mk.inj (Option.some.inj hdrain)
          exact h.host (.popAudioSample hpop)
      · next sample popped hpop =>
          obtain ⟨⟨rest, last⟩, hrest, heq⟩ := Option.map_eq_some_iff.mp hdrain
          obtain ⟨-, rfl⟩ := Prod.mk.inj heq
          have hpopped := h.host (.popAudioSample hpop)
          have hlast := ih hpopped hrest
          exact hlast

/-! ## A call of `step_frame` -/

/-- What a call has made of the session that its loop has left. -/
structure FrameCall.Finished (runtime : AndroidRuntime) (cycleStart cycleTarget : U64)
    (stepped : CoreSession) (call : FrameCall) : Prop where
  status : call.result.status = .ok
  reached : call.runtime.session.Reached
  drained : ∃ buffer, call.runtime.session =
    stepped.withDevices { stepped.system.devices with
      apu := { stepped.system.devices.apu with audioBuffer := buffer } } ∧ buffer.contents = []
  batch : call.runtime.lastAudioBatch = stepped.system.devices.apu.audioBuffer.contents
  samples : call.result.audioSamples.toNat = call.runtime.lastAudioBatch.length
  underruns : call.result.audioUnderruns = 1 ↔ call.runtime.lastAudioBatch = [] ∧
    anySet stepped.system.devices.ppu.renderControl.dispcnt 0x0080#16 = false ∧
    stepped.system.devices.apu.masterEnabled = true
  finalPc : call.result.run.finalPc = stepped.pc
  schedulerCycles : call.result.run.schedulerCycles = stepped.scheduler.schedulerCycles
  delta : call.result.schedulerCyclesDelta = stepped.scheduler.schedulerCycles - cycleStart
  complete : call.result.frameComplete = true ↔
    cycleTarget ≤ stepped.scheduler.schedulerCycles ∧ call.result.run.stopReason = .maxSteps
  hash : runtime.stateHashEnabled = true → call.result.stateHash = call.runtime.session.stateHash

namespace AndroidRuntime

variable {runtime : AndroidRuntime}

/-- `step_frame` after its loop returns. -/
theorem finishFrame_finished (runtime : AndroidRuntime) (cycleStart cycleTarget : U64)
    {frame : FrameRun} (h : frame.session.Reached) :
    ∃ call, runtime.finishFrame cycleStart cycleTarget frame = some call ∧
      call.Finished runtime cycleStart cycleTarget frame.session ∧
      call.result.run =
        { frame.run with
          schedulerCycles := frame.session.scheduler.schedulerCycles
          finalPc := frame.session.pc } := by
  have hwell := h.sound.devices.live.apu.audioBuffer
  obtain ⟨buffer, hdrain, hempty⟩ :=
    drainAudio_contents _ hwell (RingBuffer.length_contents frame.session.system.devices.apu.audioBuffer)
  have hreached := h.drainAudio hdrain
  unfold finishFrame
  dsimp only
  rw [hdrain, Option.map_some]
  refine ⟨_, rfl, ⟨rfl, hreached, ⟨buffer, rfl, hempty⟩, rfl, ?_, ?_, rfl, rfl, rfl, ?_, ?_⟩, rfl⟩
  · show (BitVec.ofNat 32 frame.session.system.devices.apu.audioBuffer.contents.length).toNat = _
    have hsize := hwell.size_le
    rw [RingBuffer.length_contents, BitVec.toNat_ofNat]
    exact Nat.mod_eq_of_lt (hsize.trans_lt (by decide))
  · have hone : (1 : U32) ≠ 0 := by decide
    have hzero : (0 : U32) ≠ 1 := by decide
    dsimp only
    generalize frame.session.system.devices.apu.audioBuffer.contents = samples
    show (if samples.isEmpty && !(_ || !frame.session.system.devices.apu.masterEnabled) then
      (1 : U32) else 0) = 1 ↔ _
    cases samples <;> cases anySet _ _ <;>
      cases frame.session.system.devices.apu.masterEnabled <;> simp
  · show frame.complete cycleTarget = true ↔ _
    unfold FrameRun.complete
    cases frame.run.stopReason <;> simp
  · intro henabled
    dsimp only
    rw [if_pos henabled]

/-- From a session that is ever reached a call of `step_frame` returns and accounts for its passes, or
the passes that it was given were too few, because of the steps without an instruction among them. -/
theorem stepFrame_ends (h : runtime.session.Reached) {maxSteps : U32} (hmax : maxSteps ≠ 0)
    (advances : StepAdvances) (fuel : Nat) :
    let frameCycles : U64 := kCyclesPerFrame.setWidth 64
    let cycleStart := runtime.session.scheduler.schedulerCycles / frameCycles * frameCycles
    (∃ call passes stepped, runtime.stepFrame advances fuel maxSteps = some call ∧
        CoreSession.afterSteps CoreSession.step passes runtime.session = some stepped ∧
        FrameAccounts (cycleStart + frameCycles) maxSteps passes
          (runtime.session.idleSteps passes) stepped.scheduler.schedulerCycles call.result.run ∧
        call.Finished runtime cycleStart (cycleStart + frameCycles) stepped) ∨
      runtime.stepFrame advances fuel maxSteps = none ∧
        fuel < maxSteps.toNat + runtime.session.idleSteps fuel := by
  intro frameCycles cycleStart
  have hcounting : FrameRun.Counting runtime.session maxSteps 0
      ⟨runtime.session, runtime.startRaster, startRun maxSteps, []⟩ :=
    ⟨rfl, h, rfl, rfl, rfl, rfl, Nat.zero_le _, rfl, rfl, rfl⟩
  have hstepFrame : runtime.stepFrame advances fuel maxSteps =
      (FrameRun.loop advances (cycleStart + frameCycles) maxSteps fuel
        ⟨runtime.session, runtime.startRaster, startRun maxSteps, []⟩).bind
          (runtime.finishFrame cycleStart (cycleStart + frameCycles)) := if_neg hmax
  rw [hstepFrame]
  rcases FrameRun.loop_accounts hcounting advances (cycleStart + frameCycles) fuel with
    ⟨last, passes, hloop, hended⟩ | ⟨hloop, running, hrunning, -, hmore⟩
  · left
    obtain ⟨call, hcall, hfinished, hrun⟩ :=
      runtime.finishFrame_finished cycleStart (cycleStart + frameCycles) hended.reached
    rw [hloop]
    refine ⟨call, passes, last.session, hcall, hended.session, ?_, hfinished⟩
    rw [hrun]
    exact { hended.accounts with }
  · right
    rw [hloop]
    refine ⟨rfl, ?_⟩
    have hpassed := hrunning.passed
    rw [Nat.zero_add] at hpassed
    have hless : running.run.executedSteps.toNat < maxSteps.toNat := hmore
    omega

end AndroidRuntime

/-! ## Every call of a host -/

namespace CoreSession.Reached

variable {session : CoreSession}

/-- A cartridge that is accepted. -/
theorem withRom (h : session.Reached) {rom : List U8} {memory : MemoryBus}
    (hrom : session.system.memory.loadGamePakRom rom = some memory) :
    (session.withMemory memory).Reached := by
  have hloaded := h.host (.memory (.loadGamePakRom rom))
  have hrun : (BusState.SaveOperation.loadGamePakRom rom).run ioCallbacks session.system =
      session.system.withMemory memory := by
    show session.system.accept (session.system.memory.loadGamePakRom rom) = _
    rw [hrom]
    rfl
  rw [hrun] at hloaded
  exact hloaded

/-- The save that a cartridge is given. -/
theorem withSave (h : session.Reached) (type : GamePakSaveType) :
    (session.withMemory (session.system.memory.configureGamePakSave type).2).Reached :=
  h.host (.memory (.configureGamePakSave type))

end CoreSession.Reached

/-- Loading a cartridge leaves a session that can be reached, accepted or not. -/
theorem AndroidRuntime.loadRom_reached {runtime : AndroidRuntime} (h : runtime.session.Reached)
    (rom : List U8) : (runtime.loadRom rom).2.session.Reached := by
  have hreset := h.host .reset
  unfold loadRom
  split
  · exact h
  dsimp only
  split
  · exact hreset
  · next memory hmemory =>
      have hsaved := (hreset.withRom hmemory).withSave (memory.detectGamePakSaveType.getD .none)
      split
      · next heq =>
          rw [show (runtime.session.reset.withMemory memory).system.memory = memory from rfl, heq]
            at hsaved
          exact hsaved.host .reset
      · next heq =>
          rw [show (runtime.session.reset.withMemory memory).system.memory = memory from rfl, heq]
            at hsaved
          exact hsaved.host .configureForGameBoot

/-- What a host does to a runtime: the calls of the runtime, and the steps, the inputs, the drained
samples, the register and memory accesses and the restored states of its session. -/
inductive RuntimeMove (runtime : AndroidRuntime) : AndroidRuntime → Prop where
  | stepFrame {advances : StepAdvances} {fuel : Nat} {maxSteps : U32} {call : FrameCall}
      (h : runtime.stepFrame advances fuel maxSteps = some call) : RuntimeMove runtime call.runtime
  | reset : RuntimeMove runtime runtime.reset
  | loadRom (rom : List U8) : RuntimeMove runtime (runtime.loadRom rom).2
  | setStateHashEnabled (enabled : Bool) :
      RuntimeMove runtime { runtime with stateHashEnabled := enabled }
  | step {fetch : CoreSchedulerFetchStepResult} {session : CoreSession}
      (h : runtime.session.step = some (fetch, session)) :
      RuntimeMove runtime { runtime with session := session }
  | host {session : CoreSession} (h : HostMove runtime.session session) :
      RuntimeMove runtime { runtime with session := session }
  | restore {saved : CoreSession} (h : saved.Reached) :
      RuntimeMove runtime { runtime with session := runtime.session.loadState saved.saveState }

/-- The runtimes that a host comes to. -/
abbrev AndroidRuntime.Reached : AndroidRuntime → Prop :=
  Relation.ReflTransGen RuntimeMove .initial

namespace AndroidRuntime

variable {runtime : AndroidRuntime}

/-- A host leaves a session that can be reached. -/
theorem reached_runtimeMove :
    Kept RuntimeMove fun runtime => runtime.session.Reached := by
  intro runtime after hmove h
  cases hmove with
  | @stepFrame advances fuel maxSteps call hcall =>
      by_cases hmax : maxSteps = 0
      · unfold AndroidRuntime.stepFrame at hcall
        rw [if_pos hmax] at hcall
        obtain rfl := Option.some.inj hcall
        exact h
      · rcases stepFrame_ends h hmax advances fuel with
          ⟨other, passes, stepped, hother, -, -, hfinished⟩ | ⟨hnone, -⟩
        · obtain rfl := Option.some.inj (hcall.symm.trans hother)
          exact hfinished.reached
        · rw [hnone] at hcall
          contradiction
  | reset => exact h.host .reset
  | loadRom rom => exact loadRom_reached h rom
  | setStateHashEnabled enabled => exact h
  | step hstep => exact h.step hstep
  | host hmove => exact h.host hmove
  | restore hsaved => exact h.restore hsaved

theorem Reached.session (h : runtime.Reached) : runtime.session.Reached :=
  reached_runtimeMove.star h .initial

/-- Whatever a host has done to a new runtime, a call of `step_frame` returns and accounts for its
passes, hands out the samples that were queued and leaves a session that can be reached, or the passes
that it was given were too few, because of the steps without an instruction among them. -/
theorem Reached.stepFrame_accounts (h : runtime.Reached) {maxSteps : U32} (hmax : maxSteps ≠ 0)
    (advances : StepAdvances) (fuel : Nat) :
    let frameCycles : U64 := kCyclesPerFrame.setWidth 64
    let cycleStart := runtime.session.scheduler.schedulerCycles / frameCycles * frameCycles
    (∃ call passes stepped, runtime.stepFrame advances fuel maxSteps = some call ∧
        CoreSession.afterSteps CoreSession.step passes runtime.session = some stepped ∧
        FrameAccounts (cycleStart + frameCycles) maxSteps passes
          (runtime.session.idleSteps passes) stepped.scheduler.schedulerCycles call.result.run ∧
        call.Finished runtime cycleStart (cycleStart + frameCycles) stepped) ∨
      runtime.stepFrame advances fuel maxSteps = none ∧
        fuel < maxSteps.toNat + runtime.session.idleSteps fuel :=
  stepFrame_ends h.session hmax advances fuel

/-- A frame of a thousand steps of a game while a key is held, with twice as many passes and no
observer of the display. -/
theorem Reached.stepFrame_accounts_game :
    let loaded := (AndroidRuntime.initial.loadRom CoreSession.savingProgram).2
    let runtime := { loaded with session := (loaded.session.setInputMask 1#16).2 }
    let frameCycles : U64 := kCyclesPerFrame.setWidth 64
    let cycleStart := runtime.session.scheduler.schedulerCycles / frameCycles * frameCycles
    (∃ call passes stepped, runtime.stepFrame (fun _ => []) 2000 1000#32 = some call ∧
        CoreSession.afterSteps CoreSession.step passes runtime.session = some stepped ∧
        FrameAccounts (cycleStart + frameCycles) 1000#32 passes
          (runtime.session.idleSteps passes) stepped.scheduler.schedulerCycles call.result.run ∧
        call.Finished runtime cycleStart (cycleStart + frameCycles) stepped) ∨
      runtime.stepFrame (fun _ => []) 2000 1000#32 = none ∧
        2000 < (1000#32).toNat + runtime.session.idleSteps 2000 :=
  Reached.stepFrame_accounts
    ((Relation.ReflTransGen.single (.loadRom CoreSession.savingProgram)).tail
      (.host (.setInputMask 1#16))) (by decide) (fun _ => []) 2000

end AndroidRuntime

end Gba.Core
