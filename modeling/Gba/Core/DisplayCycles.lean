import Gba.Core.TimeConservation
import Gba.Library.PeriodicCount

/-!
# The display cycle by cycle

`tick` jumps from event to event. It does what as many single cycles do (`tickLoop_cycles`), so that
a tick in two parts is one tick, and each of its events has its cycle in the frame.
-/

namespace Gba.Core

open PeriodicCount

/-- Events of two parts of a tick. -/
instance addTickEvents : Add PpuTickEvents where
  add a b := ⟨a.hblankEntries + b.hblankEntries, a.vblankEntries + b.vblankEntries,
    a.vcountMatches + b.vcountMatches⟩

namespace PpuTickEvents

@[simp] theorem hblankEntries_add (a b : PpuTickEvents) :
    (a + b).hblankEntries = a.hblankEntries + b.hblankEntries := rfl

@[simp] theorem vblankEntries_add (a b : PpuTickEvents) :
    (a + b).vblankEntries = a.vblankEntries + b.vblankEntries := rfl

@[simp] theorem vcountMatches_add (a b : PpuTickEvents) :
    (a + b).vcountMatches = a.vcountMatches + b.vcountMatches := rfl

theorem add_assoc (a b c : PpuTickEvents) : a + b + c = a + (b + c) := by
  ext1 <;> simp [BitVec.add_assoc]

theorem zero_add (a : PpuTickEvents) : ⟨0, 0, 0⟩ + a = a := by
  ext1 <;> simp

theorem add_zero (a : PpuTickEvents) : a + ⟨0, 0, 0⟩ = a := by
  ext1 <;> simp

end PpuTickEvents

namespace PpuTiming

/-- One cycle of the display. -/
def cycle (s : TickState) : TickState := tickPass s 1

/-! ## A tick as cycles -/

/-- The distance to the next event on a line. -/
def eventDistance (p : PpuTiming) : Nat :=
  (if p.lineCycle.toNat < 1004 then 1004 else 1232) - p.lineCycle.toNat

theorem cycles_quiet {s : TickState} (hcycle : s.ppu.lineCycle.toNat < 1232) {count : Nat}
    (h : count < s.ppu.eventDistance) :
    cycle^[count] s = { s with
      ppu := { s.ppu with lineCycle := s.ppu.lineCycle + BitVec.ofNat 16 count } } := by
  induction count with
  | zero => simp
  | succ count ih =>
    unfold eventDistance at h ih
    have hsum : (s.ppu.lineCycle + BitVec.ofNat 16 count + 1 : U16).toNat =
        s.ppu.lineCycle.toNat + (count + 1) := by
      rw [BitVec.toNat_add, BitVec.toNat_add, BitVec.toNat_ofNat]
      have hone : BitVec.toNat (1 : U16) = 1 := rfl
      split at h <;> omega
    have hnext : s.ppu.lineCycle + BitVec.ofNat 16 count + 1 =
        s.ppu.lineCycle + BitVec.ofNat 16 (count + 1) := by
      rw [BitVec.add_assoc, BitVec.ofNat_add]
      rfl
    have hnoHblank : s.ppu.lineCycle + BitVec.ofNat 16 count + 1 ≠ kHblankFlagCycles := by
      intro heq
      have := congrArg BitVec.toNat heq
      rw [hsum] at this
      have hflag : kHblankFlagCycles.toNat = 1004 := rfl
      split at h <;> omega
    have hnoLine : s.ppu.lineCycle + BitVec.ofNat 16 count + 1 ≠ kCyclesPerLine := by
      intro heq
      have := congrArg BitVec.toNat heq
      rw [hsum] at this
      have hline : kCyclesPerLine.toNat = 1232 := rfl
      split at h <;> omega
    rw [Function.iterate_succ_apply', ih (by omega)]
    unfold cycle tickPass
    have hone : (1 : U32).setWidth 16 = (1 : U16) := rfl
    dsimp only
    rw [hone, if_neg hnoHblank]
    dsimp only
    rw [if_neg hnoLine, hnext]

/-- A pass up to the next event is its cycles. -/
theorem tickPass_cycles {s : TickState} (hcycle : s.ppu.lineCycle.toNat < 1232) {step : U32}
    (hpos : step ≠ 0) (h : step.toNat ≤ s.ppu.eventDistance) :
    tickPass s step = cycle^[step.toNat] s := by
  obtain ⟨count, hcount⟩ : ∃ count, step.toNat = count + 1 :=
    Nat.exists_eq_succ_of_ne_zero fun hzero => hpos (BitVec.eq_of_toNat_eq hzero)
  rw [hcount, Function.iterate_succ_apply', cycles_quiet hcycle (by omega)]
  have hwidth : s.ppu.lineCycle + step.setWidth 16 =
      s.ppu.lineCycle + BitVec.ofNat 16 count + (1 : U32).setWidth 16 := by
    refine BitVec.eq_of_toNat_eq ?_
    have hone : BitVec.toNat ((1 : U32).setWidth 16) = 1 := rfl
    rw [BitVec.toNat_add, BitVec.toNat_setWidth, hcount, BitVec.toNat_add, BitVec.toNat_add,
      BitVec.toNat_ofNat, hone]
    omega
  unfold cycle tickPass
  dsimp only
  rw [hwidth]

theorem tickStep_fits {p : PpuTiming} (hcycle : p.lineCycle.toNat < 1232) {cycles : U32}
    (hcycles : cycles ≠ 0) :
    tickStep p cycles ≠ 0 ∧ (tickStep p cycles).toNat ≤ p.eventDistance := by
  unfold tickStep eventDistance kHblankFlagCycles kCyclesPerLine
  dsimp only
  split_ifs <;> constructor <;> bv_omega

/-- The loop of `tick` is its cycles. -/
theorem tickLoop_cycles (cycles : U32) (s : TickState) (h : s.ppu.InFrame) :
    tickLoop cycles s = cycle^[cycles.toNat] s := by
  induction cycles, s using tickLoop.induct with
  | case1 s =>
    rw [tickLoop, dif_pos rfl]
    rfl
  | case2 cycles s hne ih =>
    have hcycle : s.ppu.lineCycle.toNat < 1232 := h.lineCycle
    obtain ⟨hpos, hfits⟩ := tickStep_fits hcycle hne
    have hle := tickStep_le s.ppu cycles
    have hrest : (cycles - tickStep s.ppu cycles).toNat + (tickStep s.ppu cycles).toNat =
        cycles.toNat := by
      rw [BitVec.toNat_sub_of_le hle]
      omega
    rw [tickLoop, dif_neg hne, ih (tickPass_position cycles h).1, tickPass_cycles hcycle hpos hfits,
      ← Function.iterate_add_apply, hrest]

/-! ## A tick in two parts -/

/-- The state with events of an earlier part. -/
def addEvents (events : PpuTickEvents) (s : TickState) : TickState :=
  { s with events := events + s.events }

/-- The line after a line. -/
def nextLine (p : PpuTiming) : U16 := if p.line + 1 = kTotalLines then 0 else p.line + 1

/-- The events of one cycle. -/
def cycleEvents (p : PpuTiming) : PpuTickEvents where
  hblankEntries :=
    if p.lineCycle + 1 = kHblankFlagCycles ∧ p.line < kVisibleLines then 1 else 0
  vblankEntries :=
    if p.lineCycle + 1 = kCyclesPerLine ∧ p.nextLine = kVisibleLines then 1 else 0
  vcountMatches :=
    if p.lineCycle + 1 = kCyclesPerLine ∧ p.nextLine = p.vcountSetting.setWidth 16 then 1 else 0

theorem enterHblank_events (s : TickState) :
    (enterHblank s).events =
      s.events + ⟨if s.ppu.line < kVisibleLines then 1 else 0, 0, 0⟩ := by
  unfold enterHblank
  ext1 <;> by_cases hvisible : s.ppu.line < kVisibleLines <;> simp [hvisible]

theorem enterNextLine_events (s : TickState) :
    (enterNextLine s).events =
      s.events + ⟨0, if s.ppu.nextLine = kVisibleLines then 1 else 0,
        if s.ppu.nextLine = s.ppu.vcountSetting.setWidth 16 then 1 else 0⟩ := by
  have hmatch : PpuTiming.vcountMatch { s.ppu with lineCycle := 0, line := s.ppu.nextLine } =
      decide (s.ppu.nextLine = s.ppu.vcountSetting.setWidth 16) := rfl
  unfold enterNextLine
  dsimp only
  rw [← nextLine, hmatch]
  simp only [decide_eq_true_eq]
  split_ifs <;> ext1 <;> simp

/-- The state of a pass before its event. -/
def advanced (s : TickState) (step : U32) : TickState :=
  { s with ppu := { s.ppu with lineCycle := s.ppu.lineCycle + step.setWidth 16 } }

/-- A pass has one event at most. -/
theorem tickPass_eq (s : TickState) (step : U32) :
    tickPass s step =
      if s.ppu.lineCycle + step.setWidth 16 = kHblankFlagCycles then enterHblank (advanced s step)
      else if s.ppu.lineCycle + step.setWidth 16 = kCyclesPerLine then
        enterNextLine (advanced s step)
      else advanced s step := by
  unfold tickPass
  dsimp only
  by_cases hhblank : s.ppu.lineCycle + step.setWidth 16 = kHblankFlagCycles
  · have hne : s.ppu.lineCycle + step.setWidth 16 ≠ kCyclesPerLine := by
      rw [hhblank]
      decide
    rw [if_pos hhblank, if_pos hhblank]
    exact if_neg hne
  · rw [if_neg hhblank, if_neg hhblank]
    rfl

/-- A cycle adds its events to those of before. -/
theorem cycle_events (s : TickState) : (cycle s).events = s.events + cycleEvents s.ppu := by
  have hone : (1 : U32).setWidth 16 = (1 : U16) := rfl
  unfold cycle cycleEvents
  rw [tickPass_eq, hone]
  by_cases hhblank : s.ppu.lineCycle + 1 = kHblankFlagCycles
  · have hne : ¬kHblankFlagCycles = kCyclesPerLine := by decide
    rw [if_pos hhblank, enterHblank_events]
    simp only [hhblank, hne, true_and, false_and, if_false]
    rfl
  · rw [if_neg hhblank]
    by_cases hend : s.ppu.lineCycle + 1 = kCyclesPerLine
    · have hne : ¬kCyclesPerLine = kHblankFlagCycles := by decide
      rw [if_pos hend, enterNextLine_events]
      simp only [hend, hne, true_and, false_and, if_false]
      rfl
    · rw [if_neg hend]
      simp only [hhblank, hend, false_and, if_false]
      exact (PpuTickEvents.add_zero _).symm

/-- The interrupts of a pass do not depend on the events counted. -/
theorem tickPass_interrupts (s : TickState) (events : PpuTickEvents) (step : U32) :
    (tickPass { s with events := events } step).interrupts = (tickPass s step).interrupts := by
  rw [tickPass_eq, tickPass_eq]
  split
  · rfl
  · split <;> rfl

theorem cycle_addEvents (events : PpuTickEvents) (s : TickState) :
    cycle (addEvents events s) = addEvents events (cycle s) := by
  have hppu : (cycle (addEvents events s)).ppu = (cycle s).ppu := by
    unfold cycle
    rw [tickPass_ppu, tickPass_ppu]
    rfl
  have hevents : (cycle (addEvents events s)).events = events + (cycle s).events := by
    rw [cycle_events, cycle_events]
    exact PpuTickEvents.add_assoc _ _ _
  exact TickState.ext hppu (tickPass_interrupts s _ 1) hevents

theorem cycles_addEvents (events : PpuTickEvents) (s : TickState) (count : Nat) :
    cycle^[count] (addEvents events s) = addEvents events (cycle^[count] s) := by
  have hcommute : Function.Semiconj (addEvents events) cycle cycle :=
    fun s => (cycle_addEvents events s).symm
  exact ((hcommute.iterate_right count) s).symm

/-- A tick is the tick of its second part after its first, with the events of both. -/
theorem tick_add {p : PpuTiming} (h : p.InFrame) {first second : U32}
    (hsum : first.toNat + second.toNat < 2 ^ 32) (interrupts : InterruptController) :
    p.tick (first + second) interrupts =
      (((p.tick first interrupts).1.tick second (p.tick first interrupts).2.1).1,
        ((p.tick first interrupts).1.tick second (p.tick first interrupts).2.1).2.1,
        (p.tick first interrupts).2.2 +
          ((p.tick first interrupts).1.tick second (p.tick first interrupts).2.1).2.2) := by
  have hframe := (tickLoop_position first ⟨p, interrupts, ⟨0, 0, 0⟩⟩ h).1
  have htotal : (first + second).toNat = second.toNat + first.toNat := by
    rw [BitVec.toNat_add, Nat.mod_eq_of_lt hsum, Nat.add_comm]
  -- the second part starts from the state of the first without its events
  have hpart : ∀ s : TickState,
      s = addEvents s.events ⟨s.ppu, s.interrupts, ⟨0, 0, 0⟩⟩ := by
    intro s
    unfold addEvents
    rw [PpuTickEvents.add_zero]
  unfold tick
  rw [tickLoop_cycles _ _ h, htotal, Function.iterate_add_apply, ← tickLoop_cycles first _ h]
  generalize tickLoop first ⟨p, interrupts, ⟨0, 0, 0⟩⟩ = middle at hframe
  rw [tickLoop_cycles second ⟨middle.ppu, middle.interrupts, ⟨0, 0, 0⟩⟩ hframe]
  conv_lhs => rw [hpart middle, cycles_addEvents]
  rfl

end PpuTiming

end Gba.Core
