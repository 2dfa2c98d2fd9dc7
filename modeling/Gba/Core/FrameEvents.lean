import Gba.Core.DisplayCycles

/-!
# The events of a frame

Every event of the display has its cycle in the frame, whatever ticks and register writes the time
is made of. The last theorem is the whole schedule: a tick splits anywhere, nothing moves the display
out of its frame, and every frame has the same events.
-/

namespace Gba.Core

open PeriodicCount

namespace PpuTiming

/-! ## The cycles with an event -/

/-- The cycles that enter the horizontal blank of a visible line. -/
def hblankAt (time : Nat) : Prop := time % 1232 = 1003 ∧ time / 1232 % 228 < 160

/-- The cycles that enter the vertical blank. -/
def vblankAt (time : Nat) : Prop := time % 1232 = 1231 ∧ time / 1232 % 228 = 159

/-- The cycles that enter the line of a VCount setting. -/
def vcountAt (setting : U8) (time : Nat) : Prop :=
  time % 1232 = 1231 ∧ (time / 1232 + 1) % 228 = setting.toNat

instance hblankAt_decidable : DecidablePred hblankAt := fun _ =>
  inferInstanceAs (Decidable (_ ∧ _))

instance vblankAt_decidable : DecidablePred vblankAt := fun _ =>
  inferInstanceAs (Decidable (_ ∧ _))

instance vcountAt_decidable (setting : U8) : DecidablePred (vcountAt setting) := fun _ =>
  inferInstanceAs (Decidable (_ ∧ _))

/-- The events of a window of time. -/
def eventsFrom (setting : U8) (start length : Nat) : PpuTickEvents where
  hblankEntries := BitVec.ofNat 16 (occurrences hblankAt start length)
  vblankEntries := BitVec.ofNat 16 (occurrences vblankAt start length)
  vcountMatches := BitVec.ofNat 16 (occurrences (vcountAt setting) start length)

theorem hblankAt_mod (time : Nat) : hblankAt (time % frameCycles) ↔ hblankAt time := by
  unfold hblankAt frameCycles
  omega

theorem vblankAt_mod (time : Nat) : vblankAt (time % frameCycles) ↔ vblankAt time := by
  unfold vblankAt frameCycles
  omega

theorem vcountAt_mod (setting : U8) (time : Nat) :
    vcountAt setting (time % frameCycles) ↔ vcountAt setting time := by
  unfold vcountAt frameCycles
  omega

theorem ofNat_occurrences_succ (event : Nat → Prop) [DecidablePred event] (start length : Nat) :
    BitVec.ofNat 16 (occurrences event start (length + 1)) =
      BitVec.ofNat 16 (occurrences event start length) +
        if event (start + length) then 1 else 0 := by
  rw [occurrences_succ, BitVec.ofNat_add]
  split <;> rfl

/-- The event of a cycle is that of its position in the frame. -/
theorem cycleEvents_position {p : PpuTiming} (h : p.InFrame) :
    p.cycleEvents = ⟨if hblankAt p.position then 1 else 0, if vblankAt p.position then 1 else 0,
      if vcountAt p.vcountSetting p.position then 1 else 0⟩ := by
  have hline : p.line.toNat < 228 := h.line
  have hcycle : p.lineCycle.toNat < 1232 := h.lineCycle
  have hrow : p.position / 1232 = p.line.toNat := by
    rw [position_eq]
    omega
  have hplace : p.position % 1232 = p.lineCycle.toNat := by
    rw [position_eq]
    omega
  have hnext : p.nextLine.toNat = (p.line.toNat + 1) % 228 := by
    unfold nextLine kTotalLines
    split <;> bv_omega
  have hat : ∀ place : U16, p.lineCycle + 1 = place ↔ p.lineCycle.toNat + 1 = place.toNat := by
    intro place
    constructor <;> intro heq <;> bv_omega
  have hto : ∀ line : U16, p.nextLine = line ↔ (p.line.toNat + 1) % 228 = line.toNat := by
    intro line
    rw [← BitVec.toNat_inj, hnext]
  have hflag : kHblankFlagCycles.toNat = 1004 := rfl
  have hend : kCyclesPerLine.toNat = 1232 := rfl
  have hvisible : kVisibleLines.toNat = 160 := rfl
  have hsetting : (p.vcountSetting.setWidth 16).toNat = p.vcountSetting.toNat := by
    rw [BitVec.toNat_setWidth]
    omega
  unfold cycleEvents hblankAt vblankAt vcountAt
  simp only [hat, hto, hrow, hplace, hflag, hend, hvisible, hsetting, BitVec.lt_def]
  have hwrap : p.line.toNat % 228 = p.line.toNat := Nat.mod_eq_of_lt hline
  rw [hwrap]
  congr 1
  · refine if_congr ?_ rfl rfl
    omega
  · refine if_congr ?_ rfl rfl
    omega
  · refine if_congr ?_ rfl rfl
    omega

/-! ## The events of a run of cycles -/

theorem cycle_position {s : TickState} (h : s.ppu.InFrame) :
    (cycle s).ppu.InFrame ∧ (cycle s).ppu.position = (s.ppu.position + 1) % frameCycles := by
  have hone : (1 : U32) ≠ 0 := by decide
  have hcycle : s.ppu.lineCycle.toNat < 1232 := h.lineCycle
  have hle := tickStep_le s.ppu 1
  have hpos := (tickStep_fits hcycle hone).1
  have hstep : tickStep s.ppu 1 = 1 := by bv_omega
  have hpass := tickPass_position 1 h
  rw [hstep] at hpass
  exact hpass

theorem cycle_vcountSetting (s : TickState) :
    (cycle s).ppu.vcountSetting = s.ppu.vcountSetting := by
  unfold cycle
  rw [tickPass_ppu]
  split <;> rfl

/-- Where a run of cycles leaves the display, and its events. -/
theorem cycles_events {s : TickState} (h : s.ppu.InFrame) (count : Nat) :
    (cycle^[count] s).ppu.InFrame ∧
      (cycle^[count] s).ppu.position = (s.ppu.position + count) % frameCycles ∧
      (cycle^[count] s).ppu.vcountSetting = s.ppu.vcountSetting ∧
      (cycle^[count] s).events =
        s.events + eventsFrom s.ppu.vcountSetting s.ppu.position count := by
  induction count with
  | zero =>
    have hnone : eventsFrom s.ppu.vcountSetting s.ppu.position 0 = ⟨0, 0, 0⟩ := rfl
    rw [hnone, PpuTickEvents.add_zero, Nat.add_zero, Nat.mod_eq_of_lt h.position_lt]
    exact ⟨h, rfl, rfl, rfl⟩
  | succ count ih =>
    obtain ⟨hframe, hposition, hsetting, hevents⟩ := ih
    have hnext := cycle_position hframe
    rw [Function.iterate_succ_apply']
    refine ⟨hnext.1, ?_, (cycle_vcountSetting _).trans hsetting, ?_⟩
    · rw [hnext.2, hposition, Nat.mod_add_mod, Nat.add_assoc]
    · rw [cycle_events, hevents, PpuTickEvents.add_assoc, cycleEvents_position hframe, hposition,
        hsetting]
      refine congrArg (s.events + ·) ?_
      unfold eventsFrom
      simp only [ofNat_occurrences_succ, hblankAt_mod, vblankAt_mod, vcountAt_mod]
      rfl

theorem tick_events {p : PpuTiming} (h : p.InFrame) (cycles : U32)
    (interrupts : InterruptController) :
    (p.tick cycles interrupts).1.vcountSetting = p.vcountSetting ∧
      (p.tick cycles interrupts).2.2 =
        eventsFrom p.vcountSetting p.position cycles.toNat := by
  unfold tick
  rw [tickLoop_cycles _ _ h]
  obtain ⟨-, -, hsetting, hevents⟩ := @cycles_events ⟨p, interrupts, ⟨0, 0, 0⟩⟩ h cycles.toNat
  refine ⟨hsetting, hevents.trans ?_⟩
  rw [PpuTickEvents.zero_add]

/-! ## A frame -/

theorem eventsFrom_add (setting : U8) (start first second : Nat) :
    eventsFrom setting start (first + second) =
      eventsFrom setting start first + eventsFrom setting (start + first) second := by
  unfold eventsFrom
  simp only [occurrences_add, BitVec.ofNat_add]
  rfl

theorem eventsFrom_mod (setting : U8) (start length : Nat) :
    eventsFrom setting (start % frameCycles) length = eventsFrom setting start length := by
  have hsame : ∀ {event : Nat → Prop} [DecidablePred event],
      (∀ time, event (time % frameCycles) ↔ event time) →
      occurrences event (start % frameCycles) length = occurrences event start length := by
    intro event _ hmod
    unfold occurrences
    simp only [← hmod (start % frameCycles + _), Nat.mod_add_mod, hmod]
  unfold eventsFrom
  rw [hsame hblankAt_mod, hsame vblankAt_mod, hsame (vcountAt_mod setting)]

theorem count_visible {rows : Nat} (h : rows ≤ 228) :
    Nat.count (fun row => row % 228 < 160) rows = min rows 160 := by
  induction rows with
  | zero => rfl
  | succ rows ih =>
    rw [Nat.count_succ, ih (by omega)]
    split <;> omega

theorem count_lastVisible {rows : Nat} (h : rows ≤ 228) :
    Nat.count (fun row => row % 228 = 159) rows = if 159 < rows then 1 else 0 := by
  induction rows with
  | zero => rfl
  | succ rows ih =>
    rw [Nat.count_succ, ih (by omega)]
    split_ifs <;> omega

theorem count_nextLine (setting : Nat) {rows : Nat} (h : rows ≤ 228) :
    Nat.count (fun row => (row + 1) % 228 = setting) rows =
      if 0 < setting ∧ setting < 228 ∧ setting ≤ rows ∨ setting = 0 ∧ rows = 228 then 1 else 0 := by
  induction rows with
  | zero =>
    rw [Nat.count_zero, if_neg (by omega)]
  | succ rows ih =>
    rw [Nat.count_succ, ih (by omega)]
    split_ifs <;> omega

/-- An event of some lines happens once in a frame for each of them. -/
theorem occurrences_frame {event : Nat → Prop} [DecidablePred event] (row : Nat → Prop)
    [DecidablePred row] {place : Nat} (hplace : place < 1232)
    (hmod : ∀ time, event (time % frameCycles) ↔ event time)
    (hevent : ∀ time, event time ↔ time % 1232 = place ∧ row (time / 1232)) (start : Nat) :
    occurrences event start frameCycles = Nat.count row 228 := by
  have hperiod : occurrences event start frameCycles = Nat.count event frameCycles := by
    refine occurrences_period event (fun time => ?_) start
    rw [← hmod, Nat.add_mod_left, hmod]
  have hlines : frameCycles = 228 * 1232 := by
    unfold frameCycles
    omega
  rw [hperiod, hlines]
  exact count_rows event hplace hevent 228

/-- The events of any window of one frame. -/
theorem eventsFrom_frame (setting : U8) (start : Nat) :
    eventsFrom setting start frameCycles =
      ⟨160, 1, if setting.toNat < 228 then 1 else 0⟩ := by
  have hend : 1231 < 1232 := by omega
  have hhblank : occurrences hblankAt start frameCycles = 160 := by
    have hplace : 1003 < 1232 := by omega
    rw [occurrences_frame (· % 228 < 160) hplace hblankAt_mod (fun _ => Iff.rfl),
      count_visible le_rfl]
    omega
  have hvblank : occurrences vblankAt start frameCycles = 1 := by
    rw [occurrences_frame (· % 228 = 159) hend vblankAt_mod (fun _ => Iff.rfl),
      count_lastVisible le_rfl]
    exact if_pos (by omega)
  have hvcount : occurrences (vcountAt setting) start frameCycles =
      if setting.toNat < 228 then 1 else 0 := by
    rw [occurrences_frame (fun line => (line + 1) % 228 = setting.toNat) hend
      (vcountAt_mod setting) (fun _ => Iff.rfl), count_nextLine _ le_rfl]
    refine if_congr ?_ rfl rfl
    omega
  unfold eventsFrom
  rw [hhblank, hvblank, hvcount]
  refine PpuTickEvents.ext rfl rfl ?_
  show BitVec.ofNat 16 (if setting.toNat < 228 then 1 else 0) = _
  split <;> rfl

end PpuTiming

/-! ## Ticks and register writes -/

/-- What moves the display and what writes its registers. -/
inductive DisplayOperation where
  | tick (cycles : U32)
  | writeDispstat (value : U16)
  | recheckVcountMatch (newDispstat : U16)
  | writeLcdControl (address : U32) (value : U16)
  | write16 (address : U32) (value : U16)
  | write32 (address value : U32)

namespace DisplayOperation

/-- One operation, with the events counted so far. -/
def run (s : Devices × PpuTickEvents) : DisplayOperation → Devices × PpuTickEvents
  | tick cycles =>
      let (ppu, interrupts, events) := s.1.ppu.tick cycles s.1.interrupts
      ({ s.1 with ppu := ppu, interrupts := interrupts }, s.2 + events)
  | writeDispstat value => ({ s.1 with ppu := s.1.ppu.writeDispstat value }, s.2)
  | recheckVcountMatch newDispstat =>
      ({ s.1 with ppu := (s.1.ppu.recheckVcountMatch newDispstat).2 }, s.2)
  | writeLcdControl address value =>
      ({ s.1 with ppu := (s.1.ppu.writeLcdControl address value).getD s.1.ppu }, s.2)
  | write16 address value => ((s.1.write16 address value).2, s.2)
  | write32 address value => ((s.1.write32 address value).2, s.2)

/-- The cycles of an operation. -/
def cycles : DisplayOperation → Nat
  | tick cycles => cycles.toNat
  | _ => 0

end DisplayOperation

/-- A sequence of operations from devices that have counted no event. -/
def Devices.runDisplay (d : Devices) (operations : List DisplayOperation) :
    Devices × PpuTickEvents :=
  operations.foldl DisplayOperation.run (d, ⟨0, 0, 0⟩)

/-- The cycles of a sequence of operations. -/
def displayCycles (operations : List DisplayOperation) : Nat :=
  (operations.map DisplayOperation.cycles).sum

theorem RegisterWrite.ppu {d d' : Devices} (h : RegisterWrite d d') :
    (d.ppu.InFrame → d'.ppu.InFrame) ∧ d'.ppu.position = d.ppu.position := by
  have hclocks := clocks_registerWrite h
  have hline : d'.ppu.line = d.ppu.line := congrArg (fun clocks => clocks.2.1) hclocks
  have hcycle : d'.ppu.lineCycle = d.ppu.lineCycle := congrArg (fun clocks => clocks.2.2) hclocks
  refine ⟨fun hframe => ⟨hline ▸ hframe.line, hcycle ▸ hframe.lineCycle⟩, ?_⟩
  rw [PpuTiming.position_eq, PpuTiming.position_eq, hline, hcycle]

/-- One operation moves the display by its cycles and counts their events. -/
theorem DisplayOperation.run_events {s : Devices × PpuTickEvents} (h : s.1.ppu.InFrame)
    (operation : DisplayOperation) :
    (operation.run s).1.ppu.InFrame ∧
      (operation.run s).1.ppu.position =
        (s.1.ppu.position + operation.cycles) % PpuTiming.frameCycles ∧
      (operation.run s).2 = s.2 +
        PpuTiming.eventsFrom s.1.ppu.vcountSetting s.1.ppu.position operation.cycles := by
  have hstill : s.1.ppu.position = (s.1.ppu.position + 0) % PpuTiming.frameCycles := by
    rw [Nat.add_zero, Nat.mod_eq_of_lt h.position_lt]
  have hnone : s.2 = s.2 + PpuTiming.eventsFrom s.1.ppu.vcountSetting s.1.ppu.position 0 :=
    (PpuTickEvents.add_zero s.2).symm
  cases operation with
  | tick cycles =>
    obtain ⟨hframe, hposition⟩ := PpuTiming.tick_position cycles s.1.interrupts h
    exact ⟨hframe, hposition, congrArg (s.2 + ·) (PpuTiming.tick_events h cycles _).2⟩
  | writeDispstat value => exact ⟨⟨h.line, h.lineCycle⟩, hstill, hnone⟩
  | recheckVcountMatch newDispstat => exact ⟨⟨h.line, h.lineCycle⟩, hstill, hnone⟩
  | writeLcdControl address value =>
    cases hwrite : s.1.ppu.writeLcdControl address value with
    | none =>
      simp only [run, hwrite, Option.getD_none]
      exact ⟨h, hstill, hnone⟩
    | some ppu =>
      have hregister := (RegisterWrite.lcdControl hwrite).ppu
      simp only [run, hwrite, Option.getD_some]
      exact ⟨hregister.1 h, hregister.2.trans hstill, hnone⟩
  | write16 address value =>
    have hwrite := (s.1.write16_write address value).ppu
    exact ⟨hwrite.1 h, hwrite.2.trans hstill, hnone⟩
  | write32 address value =>
    obtain ⟨middle, hfirst, hsecond⟩ := s.1.write32_write address value
    exact ⟨hsecond.ppu.1 (hfirst.ppu.1 h), (hsecond.ppu.2.trans hfirst.ppu.2).trans hstill,
      hnone⟩
/-- A run moves the display by its cycles and counts their blanks. -/
theorem run_blanks {s : Devices × PpuTickEvents} (h : s.1.ppu.InFrame)
    (operations : List DisplayOperation) (setting : U8) :
    (operations.foldl DisplayOperation.run s).1.ppu.InFrame ∧
      (operations.foldl DisplayOperation.run s).2.hblankEntries = s.2.hblankEntries +
        (PpuTiming.eventsFrom setting s.1.ppu.position (displayCycles operations)).hblankEntries ∧
      (operations.foldl DisplayOperation.run s).2.vblankEntries = s.2.vblankEntries +
        (PpuTiming.eventsFrom setting s.1.ppu.position
          (displayCycles operations)).vblankEntries := by
  induction operations generalizing s with
  | nil => exact ⟨h, (BitVec.add_zero _).symm, (BitVec.add_zero _).symm⟩
  | cons operation operations ih =>
    obtain ⟨hframe, hposition, hevents⟩ := operation.run_events h
    obtain ⟨hlast, hhblank, hvblank⟩ := ih hframe
    have htotal : displayCycles (operation :: operations) =
        operation.cycles + displayCycles operations := rfl
    rw [hposition, PpuTiming.eventsFrom_mod, hevents] at hhblank hvblank
    rw [List.foldl_cons, htotal, PpuTiming.eventsFrom_add]
    refine ⟨hlast, hhblank.trans ?_, hvblank.trans ?_⟩
    · exact BitVec.add_assoc _ _ _
    · exact BitVec.add_assoc _ _ _

/-- A run that keeps the VCount setting counts the matches of its cycles. -/
theorem run_vcountMatches {s : Devices × PpuTickEvents} (h : s.1.ppu.InFrame)
    (operations : List DisplayOperation) {setting : U8}
    (hsetting : ∀ before, before <+: operations →
      (before.foldl DisplayOperation.run s).1.ppu.vcountSetting = setting) :
    (operations.foldl DisplayOperation.run s).2.vcountMatches = s.2.vcountMatches +
      (PpuTiming.eventsFrom setting s.1.ppu.position
        (displayCycles operations)).vcountMatches := by
  induction operations generalizing s with
  | nil => exact (BitVec.add_zero _).symm
  | cons operation operations ih =>
    obtain ⟨hframe, hposition, hevents⟩ := operation.run_events h
    have hrest := ih hframe fun before hbefore =>
      hsetting (operation :: before) (List.cons_prefix_cons.mpr ⟨rfl, hbefore⟩)
    have hfirst : s.1.ppu.vcountSetting = setting := hsetting [] (List.nil_prefix)
    have htotal : displayCycles (operation :: operations) =
        operation.cycles + displayCycles operations := rfl
    rw [hposition, PpuTiming.eventsFrom_mod, hevents, hfirst] at hrest
    rw [List.foldl_cons, htotal, PpuTiming.eventsFrom_add]
    exact hrest.trans (BitVec.add_assoc _ _ _)

/-- The schedule of the display. A tick is its parts, ticks and register writes leave the display in
its frame, and what makes up one frame enters 160 visible horizontal blanks, one vertical blank and,
if the VCount setting stays at a line of the frame, that line once. -/
theorem display_schedule {d : Devices} (h : d.ppu.InFrame) :
    (∀ first second : U32, first.toNat + second.toNat < 2 ^ 32 → ∀ interrupts,
      let one := d.ppu.tick first interrupts
      let two := one.1.tick second one.2.1
      d.ppu.tick (first + second) interrupts = (two.1, two.2.1, one.2.2 + two.2.2)) ∧
    (∀ operations, (d.runDisplay operations).1.ppu.InFrame) ∧
    ∀ operations, displayCycles operations = 280896 →
      (d.runDisplay operations).2.hblankEntries = 160 ∧
      (d.runDisplay operations).2.vblankEntries = 1 ∧
      (d.ppu.vcountSetting.toNat < 228 →
        (∀ before, before <+: operations →
          (d.runDisplay before).1.ppu.vcountSetting = d.ppu.vcountSetting) →
        (d.runDisplay operations).2.vcountMatches = 1) := by
  refine ⟨fun first second hsum interrupts => PpuTiming.tick_add h hsum interrupts,
    fun operations => (@run_blanks (d, ⟨0, 0, 0⟩) h operations 0).1, ?_⟩
  intro operations hcycles
  have hframe : ∀ setting, PpuTiming.eventsFrom setting d.ppu.position (displayCycles operations) =
      ⟨160, 1, if setting.toNat < 228 then 1 else 0⟩ := by
    intro setting
    rw [hcycles]
    exact PpuTiming.eventsFrom_frame setting _
  obtain ⟨-, hhblank, hvblank⟩ := @run_blanks (d, ⟨0, 0, 0⟩) h operations 0
  refine ⟨?_, ?_, ?_⟩
  · refine hhblank.trans ?_
    rw [hframe]
    rfl
  · refine hvblank.trans ?_
    rw [hframe]
    rfl
  · intro hsetting hkept
    refine (@run_vcountMatches (d, ⟨0, 0, 0⟩) h operations _ hkept).trans ?_
    rw [hframe, if_pos hsetting]
    rfl

/-- Two ticks of a fresh display with a register write between them. -/
theorem display_schedule_reset :
    (Devices.reset.runDisplay
      [.tick 280000, .write16 0x04000200#32 1, .tick 896]).2.hblankEntries = 160 ∧
    (Devices.reset.runDisplay
      [.tick 280000, .write16 0x04000200#32 1, .tick 896]).2.vblankEntries = 1 :=
  have hframe := (@display_schedule .reset ⟨by decide, by decide⟩).2.2
    [.tick 280000, .write16 0x04000200#32 1, .tick 896] rfl
  ⟨hframe.1, hframe.2.1⟩

end Gba.Core
