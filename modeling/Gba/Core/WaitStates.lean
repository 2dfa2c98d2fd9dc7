import Gba.Core.AddressMap

/-!
# Wait states

`WaitStateControl`, the WAITCNT register, and the access timings of `MemoryBus::timing`: the fixed
ones of the internal memories, and the Game Pak ones that WAITCNT selects.
-/

namespace Gba.Core

/-- `kWritableMask` of the wait-state control. -/
def kWaitcntWritableMask : U16 := 0x7FFF#16
/-- `kPrefetchBit`. -/
def kPrefetchBit : U16 := 0x4000#16

/-- `kFirstAccessWaitStates`. -/
def kFirstAccessWaitStates : Fin 4 → U8
  | 0 => 4
  | 1 => 3
  | 2 => 2
  | 3 => 8

/-- `GamePakWaitStates`. -/
@[ext]
structure GamePakWaitStates where
  nonsequential : U8
  sequential : U8
  prefetchEnabled : Bool
  deriving DecidableEq, Repr

/-- The wait-state control register. -/
@[ext]
structure WaitStateControl where
  control : U16
  deriving DecidableEq, Repr

namespace WaitStateControl

/-- The register after a reset. -/
def reset : WaitStateControl := ⟨0⟩

/-- `write_control`. -/
def writeControl (value : U16) : WaitStateControl := ⟨value &&& kWaitcntWritableMask⟩

/-- `first_wait_states`: the field of two bits at `shift` selects the first access. -/
def firstWaitStates (value : U16) (shift : Nat) : U8 :=
  kFirstAccessWaitStates (Fin.ofNat 4 (value >>> shift &&& 0x3#16).toNat)

/-- `second_wait_state`. -/
def secondWaitState (fast : Bool) (slowValue : U8) : U8 := if fast then 1 else slowValue

/-- `prefetch_enabled`. -/
def prefetchEnabled (w : WaitStateControl) : Bool := anySet w.control kPrefetchBit

/-- `save_wait_states`. -/
def saveWaitStates (w : WaitStateControl) : U8 := firstWaitStates w.control 0

/-- `rom_wait_states`. -/
def romWaitStates (w : WaitStateControl) : CartridgeWindow → GamePakWaitStates
  | .romWait0 =>
      ⟨firstWaitStates w.control 2, secondWaitState (anySet w.control 0x0010#16) 2,
        w.prefetchEnabled⟩
  | .romWait1 =>
      ⟨firstWaitStates w.control 5, secondWaitState (anySet w.control 0x0080#16) 4,
        w.prefetchEnabled⟩
  | .romWait2 =>
      ⟨firstWaitStates w.control 8, secondWaitState (anySet w.control 0x0400#16) 8,
        w.prefetchEnabled⟩
  | .none | .save => ⟨0, 0, w.prefetchEnabled⟩

end WaitStateControl

/-- `MemoryBus::timing` without a wait-state control. -/
def internalTiming (address : U32) (width : AccessWidth) : MemoryAccessTiming :=
  let info := classify address
  match info.region with
  | .bios => ⟨1, 1, info.offset ≤ kBiosEnd, false⟩
  | .ewram => if width = .word then ⟨6, 6, true, true⟩ else ⟨3, 3, true, true⟩
  | .iwram => ⟨1, 1, true, true⟩
  | .palette | .vram | .oam => if width = .word then ⟨2, 2, true, true⟩ else ⟨1, 1, true, true⟩
  | .io | .gamePakRom | .gamePakSave | .unknown => ⟨1, 1, false, false⟩

/-- `MemoryBus::timing` with a wait-state control. -/
def timing (address : U32) (width : AccessWidth) (waitcnt : WaitStateControl) :
    MemoryAccessTiming :=
  match (classify address).region with
  | .gamePakRom =>
      let waitStates := waitcnt.romWaitStates (cartridgeWindow address)
      ⟨waitStates.nonsequential, waitStates.sequential, false, false⟩
  | .gamePakSave => ⟨waitcnt.saveWaitStates, waitcnt.saveWaitStates, false, false⟩
  | _ => internalTiming address width

end Gba.Core
