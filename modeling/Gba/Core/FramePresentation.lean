import Gba.Core.AndroidRuntime

/-!
# The presentation of frames

The runtime presents whole frames only: all the scanlines of a frame, in order, each rendered when
the display completed it, and none of them from before the session was changed behind the back of
the runtime.
-/

namespace Gba.Core

/-! ## Traces -/

/-- What the host can do to a runtime and its session. Every call of `step_frame` comes with a bound
on the passes of its loop. -/
inductive RuntimeOperation where
  | stepFrame (maxSteps : U32) (fuel : Nat)
  | reset
  | loadRom (rom : List U8)
  | loadState (state : CoreSessionState)
  | step

/-- What happens to the frames of a runtime. A discontinuity is noted when a call of `step_frame`
begins. -/
inductive FrameEvent where
  | discontinuity
  | scanline (scanline : Scanline)
  | frame (framebuffer : Framebuffer) (rendered : U16)
  | cleared

/-- A runtime, what has happened so far, and the counters that a call of `step_frame` finds in the
session if nobody has changed the session since the last one: the generation with which the last
call began, and the cycles with which it ended. -/
structure FrameTrace where
  runtime : AndroidRuntime
  last : U64 × U64
  events : List FrameEvent

namespace FrameTrace

/-- Nothing has happened. -/
def initial : FrameTrace := ⟨.initial, CoreSession.initial.counters, []⟩

/-- The events of a call of `step_frame`. -/
def callEvents (trace : FrameTrace) (call : FrameCall) : List FrameEvent :=
  (if trace.runtime.session.counters = trace.last then [] else [.discontinuity]) ++
    call.observed.map .scanline ++
      (call.presented.map fun frame => FrameEvent.frame frame.1 frame.2).toList

/-- One operation; nothing where it does not return. -/
def apply (advances : StepAdvances) (trace : FrameTrace) : RuntimeOperation → Option FrameTrace
  | .stepFrame maxSteps fuel =>
      (trace.runtime.stepFrame advances fuel maxSteps).map fun call =>
        -- a call that is rejected does nothing
        if maxSteps = 0 then { trace with runtime := call.runtime }
        else
          { runtime := call.runtime
            last := (trace.runtime.session.stateGeneration,
              call.runtime.session.scheduler.schedulerCycles)
            events := trace.events ++ trace.callEvents call }
  | .reset =>
      some { trace with runtime := trace.runtime.reset, events := trace.events ++ [.cleared] }
  | .loadRom rom =>
      let loaded := trace.runtime.loadRom rom
      some { trace with
        runtime := loaded.2
        events := trace.events ++ if loaded.1 = .ok then [.cleared] else [] }
  | .loadState state =>
      some { trace with
        runtime := { trace.runtime with session := trace.runtime.session.loadState state } }
  | .step =>
      trace.runtime.session.step.map fun (_, session) =>
        { trace with runtime := { trace.runtime with session := session } }

/-- A run of operations, up to the first that does not return. -/
def run (advances : StepAdvances) : List RuntimeOperation → FrameTrace → FrameTrace
  | [], trace => trace
  | operation :: rest, trace =>
      match trace.apply advances operation with
      | none => trace
      | some next => run advances rest next

end FrameTrace

/-! ## Whole frames -/

/-- The scanlines observed since the last discontinuity. -/
def observedScanlines (events : List FrameEvent) : List Scanline :=
  events.foldl (fun lines event =>
    match event with
    | .discontinuity => []
    | .scanline scanline => lines ++ [scanline]
    | .frame _ _ | .cleared => lines) []

/-- The frame that is shown after some events. -/
def shownFrame (events : List FrameEvent) : Framebuffer :=
  events.foldl (fun shown event =>
    match event with
    | .discontinuity | .scanline _ => shown
    | .frame framebuffer _ => framebuffer
    | .cleared => clearFramebuffer) clearFramebuffer

/-- A row of a framebuffer holds what the renderer makes of a scanline. -/
def Shows (framebuffer : Framebuffer) (scanline : Scanline) : Prop :=
  ∀ row : Fin kScreenHeight, row.val = scanline.line.toNat →
    framebuffer row = (Raster.render scanline clearFramebuffer).2 row

/-- The scanline was rendered in a video mode that the renderer supports. -/
def Supported (scanline : Scanline) : Bool :=
  (Raster.render scanline clearFramebuffer).1.supportedMode

/-- The first scanlines of a frame, in order, as a framebuffer holds them. -/
structure Rows (lines : List Scanline) (framebuffer : Framebuffer) (count supported : U16) :
    Prop where
  inOrder : lines.map (fun scanline => scanline.line.toNat) = List.range count.toNat
  rendered : ∀ scanline ∈ lines, Shows framebuffer scanline
  supported : supported.toNat = lines.countP Supported

/-- A frame of successive scanlines among those observed: every scanline once and in order. -/
def WholeFrame (observed : List Scanline) (framebuffer : Framebuffer) (rendered : U16) : Prop :=
  ∃ lines, lines <:+: observed ∧ Rows lines framebuffer (BitVec.ofNat 16 kScreenHeight) rendered

/-- Every frame that is presented is whole, of scanlines since the last discontinuity. -/
def WholeFrames (events : List FrameEvent) : Prop :=
  ∀ before framebuffer rendered after, events = before ++ .frame framebuffer rendered :: after →
    WholeFrame (observedScanlines before) framebuffer rendered

namespace WholeFrames

theorem concat {events : List FrameEvent} {event : FrameEvent} (h : WholeFrames events)
    (hevent : ∀ framebuffer rendered, event = .frame framebuffer rendered →
      WholeFrame (observedScanlines events) framebuffer rendered) :
    WholeFrames (events ++ [event]) := by
  intro before framebuffer rendered after heq
  rcases List.eq_nil_or_concat after with rfl | ⟨rest, last, rfl⟩
  · obtain ⟨hbefore, hlast⟩ := List.append_inj' heq rfl
    rw [← hbefore]
    exact hevent _ _ (List.cons.inj hlast).1
  · rw [List.concat_eq_append, ← List.cons_append, ← List.append_assoc] at heq
    exact h before framebuffer rendered rest (List.append_inj' heq rfl).1

theorem append_scanlines {events : List FrameEvent} (h : WholeFrames events)
    (lines : List Scanline) : WholeFrames (events ++ lines.map .scanline) := by
  induction lines generalizing events with
  | nil => rwa [List.map_nil, List.append_nil]
  | cons scanline rest ih =>
      rw [List.map_cons, List.append_cons]
      exact ih (h.concat fun _ _ heq => FrameEvent.noConfusion heq)

end WholeFrames

theorem observedScanlines_scanlines (events : List FrameEvent) (lines : List Scanline) :
    observedScanlines (events ++ lines.map .scanline) = observedScanlines events ++ lines := by
  induction lines generalizing events with
  | nil => rw [List.map_nil, List.append_nil, List.append_nil]
  | cons scanline rest ih =>
      rw [List.map_cons, List.append_cons, ih]
      unfold observedScanlines
      rw [List.foldl_append]
      exact (List.append_cons ..).symm

theorem shownFrame_scanlines (events : List FrameEvent) (lines : List Scanline) :
    shownFrame (events ++ lines.map .scanline) = shownFrame events := by
  induction lines generalizing events with
  | nil => rw [List.map_nil, List.append_nil]
  | cons scanline rest ih =>
      rw [List.map_cons, List.append_cons, ih]
      unfold shownFrame
      rw [List.foldl_append]
      rfl

/-! ## Rendering -/

/-- What is written into the row of a scanline does not depend on the framebuffer. -/
theorem render_writeRow {scanline : Scanline} (hline : scanline.line.toNat < kScreenHeight) :
    ∃ color, ∀ framebuffer, (Raster.render scanline framebuffer).2 =
      PpuRenderer.writeRow framebuffer ⟨scanline.line.toNat, hline⟩ color := by
  unfold Raster.render PpuRenderer.renderScanline
  simp only [dif_pos hline]
  by_cases hmode : 5 < PpuRenderer.mode scanline.system.devices.ppu.renderControl
  · simp only [if_pos hmode]
    exact ⟨_, fun _ => rfl⟩
  · simp only [if_neg hmode]
    by_cases hblank : scanline.system.devices.ppu.renderControl.dispcnt.getLsbD 7 = true
    · simp only [if_pos hblank]
      exact ⟨_, fun _ => rfl⟩
    · simp only [if_neg hblank]
      exact ⟨_, fun _ => rfl⟩

/-- Rendering a scanline changes its row only, to what the scanline shows. -/
theorem render_row (scanline : Scanline) (framebuffer : Framebuffer) (row : Fin kScreenHeight) :
    (Raster.render scanline framebuffer).2 row =
      if row.val = scanline.line.toNat then (Raster.render scanline clearFramebuffer).2 row
      else framebuffer row := by
  by_cases hline : scanline.line.toNat < kScreenHeight
  · obtain ⟨color, hcolor⟩ := render_writeRow hline
    rw [hcolor, hcolor]
    unfold PpuRenderer.writeRow
    split
    · next hrow =>
        obtain rfl : row = ⟨scanline.line.toNat, hline⟩ := Fin.ext hrow
        rw [Function.update_self, Function.update_self]
    · next hrow => exact Function.update_of_ne (fun h => hrow (congrArg Fin.val h)) _ _
  · have hrow : row.val ≠ scanline.line.toNat := by
      have := row.isLt
      omega
    unfold Raster.render PpuRenderer.renderScanline
    rw [dif_neg hline, if_neg hrow]

/-- Whether the mode is supported does not depend on the framebuffer. -/
theorem render_supported (scanline : Scanline) (framebuffer : Framebuffer) :
    (Raster.render scanline framebuffer).1.supportedMode = Supported scanline := by
  unfold Supported Raster.render PpuRenderer.renderScanline
  split
  · split
    · rfl
    split
    · rfl
    · rfl
  · rfl

/-! ## Collecting scanlines -/

/-- The raster has collected the last of the observed scanlines, or a whole frame of them. -/
def Raster.Collects (raster : Raster) (observed : List Scanline) : Prop :=
  raster.nextScanline.toNat ≤ kScreenHeight ∧
    raster.ready = decide (raster.nextScanline.toNat = kScreenHeight) ∧
    ∃ lines, (if raster.ready then lines <:+: observed else lines <:+ observed) ∧
      Rows lines raster.accumulating raster.nextScanline raster.supportedScanlines

namespace Raster.Collects

variable {raster : Raster} {observed : List Scanline}

/-- Before the first scanline of a frame. -/
theorem ofEmpty (hnext : raster.nextScanline = 0) (hsupported : raster.supportedScanlines = 0)
    (hready : raster.ready = false) (observed : List Scanline) : raster.Collects observed := by
  refine ⟨?_, ?_, [], ?_, ⟨?_, ?_, ?_⟩⟩
  · rw [hnext]
    exact Nat.zero_le _
  · rw [hnext, hready]
    rfl
  · rw [hready]
    exact List.nil_suffix
  · rw [hnext]
    rfl
  · exact fun scanline h => absurd h List.not_mem_nil
  · rw [hsupported]
    rfl

theorem restart (observed : List Scanline) : raster.restart.Collects observed :=
  ofEmpty rfl rfl rfl observed

/-- The next scanline. -/
theorem accept (h : raster.Collects observed) (hready : raster.ready = false) {scanline : Scanline}
    (hline : scanline.line = raster.nextScanline) :
    (raster.accept scanline).Collects (observed ++ [scanline]) := by
  obtain ⟨hle, hcomplete, lines, hsuffix, hrows⟩ := h
  rw [hready] at hcomplete hsuffix
  have hlt : raster.nextScanline.toNat < kScreenHeight :=
    Nat.lt_of_le_of_ne hle (of_decide_eq_false hcomplete.symm)
  have hnext : (raster.nextScanline + 1).toNat = raster.nextScanline.toNat + 1 := by
    unfold kScreenHeight at hlt
    bv_omega
  have hlength : lines.length = raster.nextScanline.toNat := by
    have := congrArg List.length hrows.inOrder
    rwa [List.length_map, List.length_range] at this
  have hcollected : lines ++ [scanline] <:+ observed ++ [scanline] :=
    List.suffix_append_self_iff.mpr (by simpa using hsuffix)
  have hrow (other : Scanline) (hother : other ∈ lines) :
      other.line.toNat < raster.nextScanline.toNat := by
    have hmem : other.line.toNat ∈ lines.map fun scanline => scanline.line.toNat :=
      List.mem_map_of_mem hother
    rw [hrows.inOrder] at hmem
    exact List.mem_range.mp hmem
  have hrows' : Rows (lines ++ [scanline]) (raster.accept scanline).accumulating
      (raster.accept scanline).nextScanline (raster.accept scanline).supportedScanlines := by
    refine ⟨?_, fun other hother row hval => ?_, ?_⟩
    · rw [List.map_append, hrows.inOrder]
      show _ = List.range (raster.nextScanline + 1).toNat
      rw [hnext, List.range_succ, ← hline]
      rfl
    · -- a new scanline leaves the rows before it as they are
      show (Raster.render scanline raster.accumulating).2 row = _
      rw [render_row]
      rcases List.mem_append.mp hother with hold | hnew
      · have hbefore := hrow other hold
        rw [if_neg (by rw [hval, hline]; omega)]
        exact hrows.rendered other hold row hval
      · obtain rfl := List.mem_singleton.mp hnew
        rw [if_pos hval]
    · have hcount : lines.countP Supported ≤ raster.nextScanline.toNat := by
        rw [← hlength]
        exact List.countP_le_length
      show (raster.supportedScanlines +
        if (Raster.render scanline raster.accumulating).1.supportedMode then 1 else 0).toNat = _
      rw [render_supported, List.countP_append, List.countP_singleton, ← hrows.supported]
      rw [← hrows.supported] at hcount
      unfold kScreenHeight at hlt
      cases Supported scanline with
      | true => simp; omega
      | false => simp
  refine ⟨?_, ?_, lines ++ [scanline], ?_, hrows'⟩
  · show (raster.nextScanline + 1).toNat ≤ kScreenHeight
    omega
  · show decide (raster.nextScanline + 1 = BitVec.ofNat 16 kScreenHeight) =
      decide ((raster.nextScanline + 1).toNat = kScreenHeight)
    rw [decide_eq_decide]
    unfold kScreenHeight
    constructor
    · intro h
      rw [h]
      rfl
    · exact fun h => BitVec.eq_of_toNat_eq h
  · split
    · exact hcollected.isInfix
    · exact hcollected

/-- `capture_scanline` collects the scanlines that it is told of. -/
theorem captureScanline (h : raster.Collects observed) (scanline : Scanline) :
    (raster.captureScanline scanline).Collects (observed ++ [scanline]) := by
  unfold Raster.captureScanline
  by_cases hready : raster.ready = true
  · -- a frame that is complete waits to be presented
    rw [if_pos hready]
    obtain ⟨hle, hcomplete, lines, hinfix, hrows⟩ := h
    refine ⟨hle, hcomplete, lines, ?_, hrows⟩
    rw [if_pos hready] at hinfix ⊢
    obtain ⟨before, after, rfl⟩ := hinfix
    exact ⟨before, after ++ [scanline], by simp⟩
  · have hwaiting : raster.ready = false := Bool.eq_false_of_not_eq_true hready
    rw [if_neg hready]
    dsimp only
    by_cases hline : scanline.line = raster.nextScanline
    · rw [if_neg (not_not_intro hline), if_neg (not_not_intro hline)]
      exact h.accept hwaiting hline
    · rw [if_pos hline]
      by_cases hzero : scanline.line = 0
      · rw [if_neg (not_not_intro hzero)]
        have hstart : Raster.Collects ⟨raster.accumulating, 0, 0, raster.ready⟩ observed :=
          ofEmpty rfl rfl (by exact hwaiting) observed
        exact hstart.accept hwaiting hzero
      · rw [if_pos hzero]
        exact ofEmpty rfl rfl (by exact hwaiting) _

theorem captureScanlines (h : raster.Collects observed) (scanlines : List Scanline) :
    (scanlines.foldl Raster.captureScanline raster).Collects (observed ++ scanlines) := by
  induction scanlines generalizing raster observed with
  | nil => rwa [List.append_nil]
  | cons scanline rest ih =>
      rw [List.foldl_cons, List.append_cons]
      exact ih (h.captureScanline scanline)

/-- A raster that is ready holds a whole frame. -/
theorem wholeFrame (h : raster.Collects observed) (hready : raster.ready = true) :
    WholeFrame observed raster.accumulating raster.supportedScanlines := by
  obtain ⟨-, hcomplete, lines, hinfix, hrows⟩ := h
  rw [hready] at hcomplete hinfix
  have hnext : raster.nextScanline = BitVec.ofNat 16 kScreenHeight :=
    BitVec.eq_of_toNat_eq (of_decide_eq_true hcomplete.symm)
  rw [hnext] at hrows
  exact ⟨lines, hinfix, hrows⟩

end Raster.Collects

/-! ## Calls -/

variable {advances : StepAdvances}

/-- A pass captures the scanlines that it observes. -/
theorem FrameRun.pass_collects {frame next : FrameRun} {stop : Bool} {earlier : List Scanline}
    (h : frame.raster.Collects (earlier ++ frame.observed))
    (hpass : frame.pass advances = some (stop, next)) :
    next.raster.Collects (earlier ++ next.observed) := by
  obtain ⟨⟨fetch, session⟩, -, hnext⟩ := Option.map_eq_some_iff.mp hpass
  have hcaptured := h.captureScanlines (advances.scanlines frame.session)
  rw [List.append_assoc] at hcaptured
  dsimp only at hnext
  split_ifs at hnext
  all_goals
    obtain ⟨-, rfl⟩ := Prod.mk.inj hnext
    exact hcaptured

theorem FrameRun.loop_collects {cycleTarget : U64} {maxSteps : U32} {fuel : Nat}
    {frame last : FrameRun} {earlier : List Scanline}
    (h : frame.raster.Collects (earlier ++ frame.observed))
    (hloop : FrameRun.loop advances cycleTarget maxSteps fuel frame = some last) :
    last.raster.Collects (earlier ++ last.observed) := by
  induction fuel generalizing frame with
  | zero =>
      unfold FrameRun.loop at hloop
      split at hloop
      · contradiction
      · obtain rfl := Option.some.inj hloop
        exact h
  | succ fuel ih =>
      unfold FrameRun.loop at hloop
      split at hloop
      · dsimp only at hloop
        split at hloop
        · contradiction
        · next hpass =>
            obtain rfl := Option.some.inj hloop
            exact FrameRun.pass_collects h hpass
        · next hpass => exact ih (FrameRun.pass_collects h hpass) hloop
      · obtain rfl := Option.some.inj hloop
        exact h

/-- What a call of `step_frame` does to the frames of the runtime. -/
structure CallOutcome (runtime : AndroidRuntime) (earlier : List Scanline) (call : FrameCall) :
    Prop where
  collects : call.runtime.raster.Collects (earlier ++ call.observed)
  presented : ∀ frame ∈ call.presented,
    WholeFrame (earlier ++ call.observed) frame.1 frame.2 ∧ call.runtime.renderer = frame.1
  kept : call.presented = none → call.runtime.renderer = runtime.renderer
  generation : call.runtime.presentationGeneration = runtime.session.stateGeneration
  cycles : call.runtime.presentationCycles = call.runtime.session.scheduler.schedulerCycles

theorem AndroidRuntime.finishFrame_outcome {runtime : AndroidRuntime} {cycleStart cycleTarget : U64}
    {frame : FrameRun} {call : FrameCall} {earlier : List Scanline}
    (h : frame.raster.Collects (earlier ++ frame.observed))
    (hcall : runtime.finishFrame cycleStart cycleTarget frame = some call) :
    CallOutcome runtime earlier call := by
  unfold finishFrame at hcall
  obtain ⟨⟨samples, apu⟩, -, rfl⟩ := Option.map_eq_some_iff.mp hcall
  refine ⟨?_, ?_, ?_, rfl, rfl⟩
  · show (if (frame.presented cycleTarget).isSome then frame.raster.restart
      else frame.raster).Collects _
    split
    · exact .restart _
    · exact h
  · intro presented hpresented
    refine ⟨?_, ?_⟩
    · replace hpresented : frame.presented cycleTarget = some presented := hpresented
      unfold FrameRun.presented at hpresented
      split at hpresented
      · next hpublish =>
          obtain rfl := Option.some.inj hpresented
          exact h.wholeFrame (Bool.and_eq_true_iff.mp hpublish).2
      · contradiction
    · show ((frame.presented cycleTarget).map Prod.fst).getD runtime.renderer = presented.1
      rw [show frame.presented cycleTarget = some presented from hpresented]
      rfl
  · intro hnone
    show ((frame.presented cycleTarget).map Prod.fst).getD runtime.renderer = runtime.renderer
    rw [show frame.presented cycleTarget = none from hnone]
    rfl

/-- A cartridge that is loaded clears what is presented, and one that is refused does not. -/
theorem AndroidRuntime.loadRom_spec (runtime : AndroidRuntime) (rom : List U8) :
    let loaded := runtime.loadRom rom
    (loaded.2.raster = runtime.raster ∧
        loaded.2.presentationGeneration = runtime.presentationGeneration ∧
        loaded.2.presentationCycles = runtime.presentationCycles) ∧
      (loaded.1 = .ok → loaded.2.renderer = clearFramebuffer) ∧
      (loaded.1 ≠ .ok → loaded.2.renderer = runtime.renderer) := by
  intro loaded
  have hloaded : loaded = runtime.loadRom rom := rfl
  unfold loadRom at hloaded
  split at hloaded
  · rw [hloaded]
    exact ⟨⟨rfl, rfl, rfl⟩, fun h => AndroidRuntimeStatus.noConfusion h, fun _ => rfl⟩
  dsimp only at hloaded
  split at hloaded
  · rw [hloaded]
    exact ⟨⟨rfl, rfl, rfl⟩, fun h => AndroidRuntimeStatus.noConfusion h, fun _ => rfl⟩
  split at hloaded
  · rw [hloaded]
    exact ⟨⟨rfl, rfl, rfl⟩, fun h => AndroidRuntimeStatus.noConfusion h, fun _ => rfl⟩
  · rw [hloaded]
    exact ⟨⟨rfl, rfl, rfl⟩, fun _ => rfl, fun h => absurd rfl h⟩

/-- What the runtime has collected, and what it presents, after some events. -/
structure FrameTrace.Coherent (trace : FrameTrace) : Prop where
  noted : (trace.runtime.presentationGeneration, trace.runtime.presentationCycles) = trace.last
  collects : trace.runtime.raster.Collects (observedScanlines trace.events)
  shown : trace.runtime.renderer = shownFrame trace.events
  whole : WholeFrames trace.events

namespace FrameTrace

theorem initial_coherent : Coherent initial where
  noted := rfl
  collects := .ofEmpty rfl rfl rfl _
  shown := rfl
  whole := by
    intro before framebuffer rendered after heq
    exact absurd heq (by simp [initial])

theorem Coherent.stepFrame {trace : FrameTrace} (h : trace.Coherent) {maxSteps : U32} {fuel : Nat}
    {call : FrameCall} (hmax : maxSteps ≠ 0)
    (hcall : trace.runtime.stepFrame advances fuel maxSteps = some call) :
    Coherent
      { runtime := call.runtime
        last := (trace.runtime.session.stateGeneration,
          call.runtime.session.scheduler.schedulerCycles)
        events := trace.events ++ trace.callEvents call } := by
  unfold AndroidRuntime.stepFrame at hcall
  rw [if_neg hmax] at hcall
  obtain ⟨frame, hloop, hfinish⟩ := Option.bind_eq_some_iff.mp hcall
  obtain ⟨started, hstarted⟩ : ∃ started, started = trace.events ++
      (if trace.runtime.session.counters = trace.last then [] else [FrameEvent.discontinuity]) :=
    ⟨_, rfl⟩
  -- the runtime drops what it has collected exactly at a discontinuity
  have hstart : trace.runtime.startRaster.Collects (observedScanlines started ++ []) := by
    rw [List.append_nil, hstarted]
    unfold AndroidRuntime.startRaster
    rw [h.noted]
    by_cases hsame : trace.runtime.session.counters = trace.last
    · rw [if_pos hsame, if_pos hsame.symm, List.append_nil]
      exact h.collects
    · rw [if_neg hsame, if_neg (Ne.symm hsame)]
      exact .restart _
  have hquiet : WholeFrames started ∧ shownFrame started = shownFrame trace.events := by
    rw [hstarted]
    split
    · rw [List.append_nil]
      exact ⟨h.whole, rfl⟩
    · refine ⟨h.whole.concat fun _ _ heq => FrameEvent.noConfusion heq, ?_⟩
      unfold shownFrame
      rw [List.foldl_append]
      rfl
  have houtcome := AndroidRuntime.finishFrame_outcome (FrameRun.loop_collects hstart hloop) hfinish
  have hobserved := observedScanlines_scanlines started call.observed
  have hshown := shownFrame_scanlines started call.observed
  have hwhole := hquiet.1.append_scanlines call.observed
  have hevents : trace.events ++ trace.callEvents call =
      started ++ call.observed.map .scanline ++
        (call.presented.map fun frame => FrameEvent.frame frame.1 frame.2).toList := by
    rw [hstarted]
    unfold callEvents
    simp only [List.append_assoc]
  refine ⟨?_, ?_, ?_, ?_⟩
  · exact Prod.ext houtcome.generation houtcome.cycles
  · show call.runtime.raster.Collects (observedScanlines (trace.events ++ trace.callEvents call))
    rw [hevents]
    cases hpresented : call.presented with
    | none =>
        rw [Option.map_none, Option.toList_none, List.append_nil, hobserved]
        exact houtcome.collects
    | some frame =>
        unfold observedScanlines at hobserved ⊢
        rw [List.foldl_append, hobserved]
        exact houtcome.collects
  · show call.runtime.renderer = shownFrame (trace.events ++ trace.callEvents call)
    rw [hevents]
    cases hpresented : call.presented with
    | none =>
        rw [Option.map_none, Option.toList_none, List.append_nil, hshown, hquiet.2]
        exact (houtcome.kept hpresented).trans h.shown
    | some frame =>
        unfold shownFrame
        rw [List.foldl_append]
        exact (houtcome.presented frame hpresented).2
  · show WholeFrames (trace.events ++ trace.callEvents call)
    rw [hevents]
    cases hpresented : call.presented with
    | none =>
        rw [Option.map_none, Option.toList_none, List.append_nil]
        exact hwhole
    | some frame =>
        refine hwhole.concat fun framebuffer rendered heq => ?_
        obtain ⟨rfl, rfl⟩ := FrameEvent.frame.inj heq
        rw [hobserved]
        exact (houtcome.presented frame hpresented).1

theorem Coherent.cleared {trace : FrameTrace} (h : trace.Coherent) {runtime : AndroidRuntime}
    (hkept : runtime.raster = trace.runtime.raster ∧
      runtime.presentationGeneration = trace.runtime.presentationGeneration ∧
      runtime.presentationCycles = trace.runtime.presentationCycles)
    (hrenderer : runtime.renderer = clearFramebuffer) :
    Coherent { trace with runtime := runtime, events := trace.events ++ [.cleared] } where
  noted := by
    rw [← h.noted]
    exact Prod.ext hkept.2.1 hkept.2.2
  collects := by
    rw [hkept.1]
    unfold observedScanlines
    rw [List.foldl_append]
    exact h.collects
  shown := by
    unfold shownFrame
    rw [List.foldl_append]
    exact hrenderer
  whole := h.whole.concat fun _ _ heq => FrameEvent.noConfusion heq

theorem Coherent.apply {trace next : FrameTrace} (h : trace.Coherent)
    {operation : RuntimeOperation} (hnext : trace.apply advances operation = some next) :
    next.Coherent := by
  cases operation with
  | stepFrame maxSteps fuel =>
      obtain ⟨call, hcall, rfl⟩ := Option.map_eq_some_iff.mp hnext
      by_cases hmax : maxSteps = 0
      · rw [if_pos hmax]
        unfold AndroidRuntime.stepFrame at hcall
        rw [if_pos hmax] at hcall
        obtain rfl := Option.some.inj hcall
        exact h
      · rw [if_neg hmax]
        exact h.stepFrame hmax hcall
  | reset =>
      obtain rfl := Option.some.inj hnext
      exact h.cleared ⟨rfl, rfl, rfl⟩ rfl
  | loadRom rom =>
      obtain rfl := Option.some.inj hnext
      obtain ⟨hkept, hcleared, hrefused⟩ := trace.runtime.loadRom_spec rom
      by_cases hok : (trace.runtime.loadRom rom).1 = .ok
      · rw [if_pos hok]
        exact h.cleared hkept (hcleared hok)
      · rw [if_neg hok, List.append_nil]
        obtain ⟨hraster, hgeneration, hcycles⟩ := hkept
        refine ⟨?_, ?_, (hrefused hok).trans h.shown, h.whole⟩
        · exact (Prod.ext hgeneration hcycles).trans h.noted
        · rw [hraster]
          exact h.collects
  | loadState state =>
      obtain rfl := Option.some.inj hnext
      exact ⟨h.noted, h.collects, h.shown, h.whole⟩
  | step =>
      obtain ⟨⟨fetch, session⟩, -, rfl⟩ := Option.map_eq_some_iff.mp hnext
      exact ⟨h.noted, h.collects, h.shown, h.whole⟩

theorem Coherent.run {trace : FrameTrace} (h : trace.Coherent)
    (operations : List RuntimeOperation) : (FrameTrace.run advances operations trace).Coherent := by
  induction operations generalizing trace with
  | nil => exact h
  | cons operation rest ih =>
      unfold FrameTrace.run
      cases hnext : trace.apply advances operation with
      | none => exact h
      | some next => exact ih (h.apply hnext)

end FrameTrace

/-- Whatever is done to a runtime and its session, the runtime shows the frame that it has presented
last, or none after a reset and a new cartridge, and every frame that it has presented is made of the
160 scanlines of a frame, each rendered once and in order as the display completed it since the last
discontinuity; the number of rendered scanlines counts those in a supported mode. -/
theorem presented_whole (advances : StepAdvances) (operations : List RuntimeOperation) :
    let trace := FrameTrace.run advances operations .initial
    trace.runtime.renderer = shownFrame trace.events ∧ WholeFrames trace.events := by
  intro trace
  have hcoherent : trace.Coherent := FrameTrace.initial_coherent.run operations
  exact ⟨hcoherent.shown, hcoherent.whole⟩

end Gba.Core
