import Gba.Core.Interrupts
import Mathlib.Tactic.Common

/-!
# The display timing

`PpuTiming` of `ppu_timing.cpp`: the scanline and the cycle within it, the DISPSTAT control bits
with their interrupts, and the bank of LCD control registers.
-/

namespace Gba.Core

/-- `PpuTiming::kVisibleLines`. -/
def kVisibleLines : U16 := 160#16
/-- `PpuTiming::kTotalLines`. -/
def kTotalLines : U16 := 228#16
/-- `PpuTiming::kHblankFlagCycles`. -/
def kHblankFlagCycles : U16 := 1004#16
/-- `PpuTiming::kCyclesPerLine`. -/
def kCyclesPerLine : U16 := 1232#16
/-- `kVblankIrqEnable`. -/
def kVblankIrqEnable : U16 := 0x0008#16
/-- `kHblankIrqEnable`. -/
def kHblankIrqEnable : U16 := 0x0010#16
/-- `kVcountIrqEnable`. -/
def kVcountIrqEnable : U16 := 0x0020#16
/-- `kWritableDispstatMask`. -/
def kWritableDispstatMask : U16 :=
  kVblankIrqEnable ||| kHblankIrqEnable ||| kVcountIrqEnable ||| 0xFF00#16

/-- `PpuTickEvents`. -/
@[ext]
structure PpuTickEvents where
  hblankEntries : U16
  vblankEntries : U16
  vcountMatches : U16
  deriving DecidableEq, Repr

/-- The state of the display timing. -/
@[ext]
structure PpuTiming where
  line : U16
  lineCycle : U16
  dispstatControl : U16
  lcdControl : Fin 0x2B → U16
  deriving DecidableEq

/-- `is_lcd_control_address`. -/
def isLcdControlAddress (address : U32) : Bool :=
  if address &&& 0x1#32 ≠ 0 ∨ address < 0x04000000#32 ∨ 0x04000054#32 < address then false
  else if address = 0x04000004#32 ∨ address = 0x04000006#32 then false
  else if address ≤ 0x0400001E#32 then true
  else if 0x04000020#32 ≤ address ∧ address ≤ 0x0400003E#32 then true
  else 0x04000040#32 ≤ address ∧ address ≤ 0x04000054#32

/-- `lcd_control_index`. -/
def lcdControlIndex (address : U32) : Nat := ((address - 0x04000000#32) / 2#32).toNat

/-- `lcd_control_read_mask`. -/
def lcdControlReadMask (address : U32) : U16 :=
  if address = 0x04000000#32 then 0xFFFF#16
  else if address = 0x04000002#32 then 0x0001#16
  else if address = 0x04000008#32 ∨ address = 0x0400000A#32 then 0xDFFF#16
  else if address = 0x04000048#32 ∨ address = 0x0400004A#32 then 0x3F3F#16
  else if address = 0x04000050#32 then 0x3FFF#16
  else if address = 0x04000052#32 then 0x1F1F#16
  else 0xFFFF#16

/-- `is_lcd_control_readable`. -/
def isLcdControlReadable (address : U32) : Bool :=
  address = 0x04000000#32 || address = 0x04000002#32 || address = 0x04000008#32 ||
  address = 0x0400000A#32 || address = 0x0400000C#32 || address = 0x0400000E#32 ||
  address = 0x04000048#32 || address = 0x0400004A#32 || address = 0x04000050#32 ||
  address = 0x04000052#32

/-- The index of an LCD control register is inside the register bank. -/
theorem lcdControlIndex_lt {address : U32} (h : isLcdControlAddress address = true) :
    lcdControlIndex address < 0x2B := by
  unfold isLcdControlAddress at h
  split at h
  · contradiction
  next hrange =>
    rw [not_or, not_or] at hrange
    obtain ⟨-, hlow, hhigh⟩ := hrange
    have hindex : (address - 0x04000000#32).toNat ≤ 0x54 := by bv_omega
    unfold lcdControlIndex
    rw [BitVec.toNat_udiv]
    exact Nat.div_lt_of_lt_mul (by simpa using Nat.lt_of_le_of_lt hindex (by decide))

namespace PpuTiming

/-- The display timing after a reset. -/
def reset : PpuTiming := ⟨0, 0, 0, fun _ => 0⟩

/-- `vcount_setting`. -/
def vcountSetting (p : PpuTiming) : U8 := (p.dispstatControl >>> 8).setWidth 8

/-- `vblank`. -/
def vblank (p : PpuTiming) : Bool := kVisibleLines ≤ p.line && p.line < kTotalLines - 1

/-- `hblank`. -/
def hblank (p : PpuTiming) : Bool := kHblankFlagCycles ≤ p.lineCycle

/-- `vcount_match`. -/
def vcountMatch (p : PpuTiming) : Bool := p.line = p.vcountSetting.setWidth 16

/-- `vblank_irq_enabled`. -/
def vblankIrqEnabled (p : PpuTiming) : Bool := anySet p.dispstatControl kVblankIrqEnable

/-- `hblank_irq_enabled`. -/
def hblankIrqEnabled (p : PpuTiming) : Bool := anySet p.dispstatControl kHblankIrqEnable

/-- `vcount_irq_enabled`. -/
def vcountIrqEnabled (p : PpuTiming) : Bool := anySet p.dispstatControl kVcountIrqEnable

/-- `dispstat`. -/
def dispstat (p : PpuTiming) : U16 :=
  p.dispstatControl ||| (if p.vblank then 0x0001#16 else 0) |||
    (if p.hblank then 0x0002#16 else 0) ||| (if p.vcountMatch then 0x0004#16 else 0)

/-- `write_dispstat`. -/
def writeDispstat (p : PpuTiming) (value : U16) : PpuTiming :=
  { p with dispstatControl := value &&& kWritableDispstatMask }

/-- `recheck_vcount_match`: whether the write newly asserts the match. -/
def recheckVcountMatch (p : PpuTiming) (newDispstat : U16) : Bool × PpuTiming :=
  let written := p.writeDispstat newDispstat
  (!p.vcountMatch && written.vcountMatch, written)

/-- `read_lcd_control`. -/
def readLcdControl (p : PpuTiming) (address : U32) : Option U16 :=
  if h : isLcdControlAddress address = true then
    if isLcdControlReadable address then
      some (p.lcdControl ⟨lcdControlIndex address, lcdControlIndex_lt h⟩ &&&
        lcdControlReadMask address)
    else none
  else none

/-- `write_lcd_control`; `none` when the address is no LCD control register. -/
def writeLcdControl (p : PpuTiming) (address : U32) (value : U16) : Option PpuTiming :=
  if h : isLcdControlAddress address = true then
    some { p with
      lcdControl := Function.update p.lcdControl
        ⟨lcdControlIndex address, lcdControlIndex_lt h⟩ (value &&& lcdControlReadMask address) }
  else none

/-- What `tick` threads through its loop. -/
@[ext]
structure TickState where
  ppu : PpuTiming
  interrupts : InterruptController
  events : PpuTickEvents

/-- `enter_hblank`: the event counter covers the visible lines only. -/
def enterHblank (s : TickState) : TickState where
  ppu := s.ppu
  interrupts :=
    if s.ppu.hblankIrqEnabled then s.interrupts.request .hblank else s.interrupts
  events :=
    if s.ppu.line < kVisibleLines then
      { s.events with hblankEntries := s.events.hblankEntries + 1 }
    else s.events

/-- `enter_next_line`. -/
def enterNextLine (s : TickState) : TickState :=
  let next := s.ppu.line + 1
  let ppu : PpuTiming :=
    { s.ppu with lineCycle := 0, line := if next = kTotalLines then 0 else next }
  let interrupts :=
    if ppu.line = kVisibleLines ∧ ppu.vblankIrqEnabled then s.interrupts.request .vblank
    else s.interrupts
  let events :=
    if ppu.line = kVisibleLines then
      { s.events with vblankEntries := s.events.vblankEntries + 1 }
    else s.events
  ⟨ppu,
    if ppu.vcountMatch && ppu.vcountIrqEnabled then interrupts.request .vcount else interrupts,
    if ppu.vcountMatch then { events with vcountMatches := events.vcountMatches + 1 }
    else events⟩

/-- The cycles that one pass of the loop of `tick` consumes. -/
def tickStep (p : PpuTiming) (cycles : U32) : U32 :=
  let nextEventCycle := if p.lineCycle < kHblankFlagCycles then kHblankFlagCycles else kCyclesPerLine
  let cyclesToEvent := nextEventCycle.setWidth 32 - p.lineCycle.setWidth 32
  if cycles < cyclesToEvent then cycles else cyclesToEvent

/-- One pass of the loop of `tick`. -/
def tickPass (s : TickState) (step : U32) : TickState :=
  let s := { s with ppu := { s.ppu with lineCycle := s.ppu.lineCycle + step.setWidth 16 } }
  let s := if s.ppu.lineCycle = kHblankFlagCycles then enterHblank s else s
  if s.ppu.lineCycle = kCyclesPerLine then enterNextLine s else s

/-- A pass that consumes no cycle starts at the end of a line, and leaves it. -/
theorem tickPass_lineCycle {s : TickState} {cycles : U32} (hcycles : cycles ≠ 0)
    (hstep : tickStep s.ppu cycles = 0) :
    s.ppu.lineCycle = kCyclesPerLine ∧
      (tickPass s (tickStep s.ppu cycles)).ppu.lineCycle = 0 := by
  have hline : s.ppu.lineCycle = kCyclesPerLine := by
    unfold tickStep kHblankFlagCycles kCyclesPerLine at hstep
    unfold kCyclesPerLine
    dsimp only at hstep
    split_ifs at hstep <;> bv_omega
  refine ⟨hline, ?_⟩
  rw [hstep]
  unfold tickPass
  simp [hline, kCyclesPerLine, kHblankFlagCycles, enterNextLine]

/-- The loop of `tick`. -/
def tickLoop (cycles : U32) (s : TickState) : TickState :=
  if _ : cycles = 0 then s
  else tickLoop (cycles - tickStep s.ppu cycles) (tickPass s (tickStep s.ppu cycles))
  termination_by 2 * cycles.toNat + if s.ppu.lineCycle = kCyclesPerLine then 1 else 0
  decreasing_by
    by_cases hstep : tickStep s.ppu cycles = 0
    · obtain ⟨hline, hnext⟩ := tickPass_lineCycle ‹_› hstep
      have hsame : cycles - 0 = cycles := BitVec.sub_zero _
      rw [hnext, hline, hstep, if_pos rfl, if_neg (by decide), hsame]
      exact Nat.lt_succ_self _
    · have hle : tickStep s.ppu cycles ≤ cycles := by
        unfold tickStep
        dsimp only
        split_ifs <;> bv_omega
      split_ifs <;> bv_omega

/-- `tick`. -/
def tick (p : PpuTiming) (cycles : U32) (interrupts : InterruptController) :
    PpuTiming × InterruptController × PpuTickEvents :=
  let s := tickLoop cycles ⟨p, interrupts, ⟨0, 0, 0⟩⟩
  (s.ppu, s.interrupts, s.events)

end PpuTiming

end Gba.Core
