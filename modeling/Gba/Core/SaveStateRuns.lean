import Gba.Core.SaveStateCanonical
import Gba.Core.SessionMachine
import Gba.Core.TimerRestore

/-!
# Save states of sessions that run

The invariant of a session is what the decoder asks of a save state, but for the queued work and for
DMA: a session that is ever reached is restored from its save state into every other session, with
the same hash, or the restore is rejected as a whole.
-/

namespace Gba.Core

open Gba.Library

/-! ## The hash -/

/-- What has been hashed and the byte that comes next can be told from the hash. -/
theorem StateHasher.addU8_injective (hasher : StateHasher) {value other : U8}
    (h : hasher.addU8 value = hasher.addU8 other) : value = other := by
  have hcancel (word : U64) : word * kPrime * 0xCE965057AFF6957B#64 = word := by
    rw [BitVec.mul_assoc, show kPrime * 0xCE965057AFF6957B#64 = 1#64 from rfl, BitVec.mul_one]
  have hmixed := congrArg (fun hasher => hasher.hash * 0xCE965057AFF6957B#64) h
  dsimp only [addU8] at hmixed
  rw [hcancel, hcancel] at hmixed
  have hword := (BitVec.xor_right_inj _).mp hmixed
  have hlow := congrArg (BitVec.setWidth 8) hword
  rwa [BitVec.setWidth_setWidth_of_le _ (by omega), BitVec.setWidth_setWidth_of_le _ (by omega),
    BitVec.setWidth_eq, BitVec.setWidth_eq] at hlow

/-- The pending flag, the last byte that is hashed of DMA, changes the hash. -/
theorem DmaController.stateHash_pending {dma other : DmaController}
    (hchannels : other.channels = dma.channels)
    (hpending : other.immediatePending ≠ dma.immediatePending) :
    other.stateHash ≠ dma.stateHash := by
  intro h
  unfold DmaController.stateHash at h
  rw [hchannels] at h
  have hbyte := StateHasher.addU8_injective _ (congrArg StateHasher.mk h)
  cases hother : other.immediatePending <;> cases hdma : dma.immediatePending <;>
    simp [hother, hdma] at hbyte hpending

theorem Timers.stateHash_of_saveState {t u : Timers} (h : t.saveState = u.saveState) :
    t.stateHash = u.stateHash := by
  -- the enable cycle, which is not stored, is not hashed either
  have hfold (v : Timers) : v.stateHash =
      (((StateHasher.start.addU64 v.saveState.cycleCounter).addEach
        (fun hasher (timer : TimerState) =>
          hasher
            |>.addU16 timer.counter
            |>.addU16 timer.reload
            |>.addU16 timer.control
            |>.addU64 timer.overflowCount
            |>.addU32 timer.enableDelayCycles
            |>.addU16 timer.lastEnablePhase
            |>.addBool timer.justEnabled)
        (List.ofFn v.saveState.timers)).value) := by
    show _ = (StateHasher.addEach _ _
      (List.ofFn ((fun timer : Timer => ({
        counter := timer.counter
        reload := timer.reload
        control := timer.control
        overflowCount := timer.overflowCount
        enableDelayCycles := timer.enableDelayCycles
        lastEnablePhase := timer.lastEnablePhase
        justEnabled := timer.justEnabled } : TimerState)) ∘ v.timers))).value
    unfold StateHasher.addEach
    rw [← List.map_ofFn, List.foldl_map]
    rfl
  rw [hfold, hfold, h]

/-- The hash of a session is the hash of what its save state holds. -/
theorem CoreSession.stateHash_of_snapshot {session other : CoreSession}
    (h : SaveStateCodec.snapshotOf session = SaveStateCodec.snapshotOf other) :
    session.stateHash = other.stateHash := by
  have hcpu : session.cpu = other.cpu := congrArg SnapshotState.cpu h
  have hmemory : session.system.memory = other.system.memory := congrArg SnapshotState.memory h
  have hinterrupts : session.system.devices.interrupts = other.system.devices.interrupts :=
    congrArg SnapshotState.interrupts h
  have htimers := Timers.stateHash_of_saveState (congrArg SnapshotState.timers h)
  have hdma : session.system.devices.dma = other.system.devices.dma :=
    congrArg SnapshotState.dma h
  have hppu : session.system.devices.ppu = other.system.devices.ppu :=
    congrArg SnapshotState.ppu h
  have hapu : session.system.devices.apu = other.system.devices.apu :=
    congrArg SnapshotState.apu h
  have hkeypad : session.system.devices.keypad = other.system.devices.keypad :=
    Keypad.ext (congrArg SnapshotState.pressedMask h) (congrArg SnapshotState.keycnt h)
  have hwaitcnt : session.system.devices.waitcnt = other.system.devices.waitcnt :=
    WaitStateControl.ext (congrArg SnapshotState.waitcnt h)
  have hmode : session.bios.mode = other.bios.mode := congrArg SnapshotState.biosMode h
  have hio : session.system.devices.io = other.system.devices.io := congrArg SnapshotState.io h
  have hscheduler : session.scheduler = other.scheduler := congrArg SnapshotState.scheduler h
  unfold stateHash saveState CoreSessionState.snapshotStateHash
  dsimp only
  change session.system.devices.timers.stateHash = other.system.devices.timers.stateHash at htimers
  rw [hcpu, hmemory, hinterrupts, htimers, hdma, hppu, hapu, hkeypad, hwaitcnt, hmode, hio,
    hscheduler]

/-! ## What the decoder asks for -/

namespace CoreSession

variable {session : CoreSession}

/-- The session with the pending flag of DMA as the DMA controller recomputes it. -/
def refreshDma (session : CoreSession) : CoreSession :=
  session.withDevices
    { session.system.devices with
      dma := session.system.devices.dma.refreshImmediatePending }

theorem refreshDma_of_loadState
    (h : DmaController.loadState session.system.devices.dma = some session.system.devices.dma) :
    session.refreshDma = session := by
  unfold refreshDma
  rw [← restored_dma h]
  rfl

end CoreSession

namespace CoreSession.Sound

variable {session : CoreSession}

theorem refreshDma (h : session.Sound) : session.refreshDma.Sound :=
  h.withDevices { h.devices with }

/-- The parsers take the save state of a session that has the invariant. -/
theorem parsable (h : session.Sound) (hframes : session.scheduler.FramesRestorable)
    (hdebug : session.system.memory.debugOutput.length < 2 ^ 32) :
    (SaveStateCodec.snapshotOf session).Parsable where
  rom := h.memory.rom
  save := by
    show session.system.memory.gamePakSave.data.length ≤ _
    rw [h.memory.save.length_eq]
    cases session.system.memory.gamePakSave.saveType <;> decide
  bank := h.memory.save.bank_le
  debug := hdebug
  interrupts := h.devices.interrupts
  line := h.devices.ppu.line
  lineCycle := h.devices.ppu.lineCycle
  duty channel := BitVec.le_def.mpr (Nat.le_of_lt_succ (h.devices.apu.square channel).duty)
  volumeShift := h.devices.apu.wave.volumeShift
  frameStep := h.devices.sequenced
  fifo := h.devices.apu.fifo
  audioBuffer := h.devices.apu.audioBuffer
  frames := hframes

/-- The processor takes back a mode that exists. -/
theorem loadState_cpu (h : session.Sound) : Arm7tdmi.loadState session.cpu = some session.cpu := by
  refine if_pos ?_
  have hmodes : ∀ mode ∈ CpuMode.named,
      (decodeCpuMode (mode.value.setWidth 32)).isSome = true := by decide
  exact hmodes _ h.mode

/-- The memory takes back a cartridge that fits and a save of the size of its type. -/
theorem loadState_memory (h : session.Sound) :
    MemoryBus.loadState session.system.memory = some session.system.memory := by
  have hsave := h.memory.save
  have hexpected (type : GamePakSaveType) :
      MemoryBus.expectedSaveSize type = saveSizeForType type := by
    cases type <;> rfl
  unfold MemoryBus.loadState
  dsimp only
  rw [hexpected, if_neg fun hsize => hsize.2 hsave.length_eq, if_neg, if_neg, if_neg]
  · rintro ⟨-, hrom⟩
    exact absurd hrom (Nat.not_lt.mpr h.memory.rom)
  · rintro (hbank | ⟨hbank, htype⟩)
    · exact absurd hbank (BitVec.not_lt.mpr hsave.bank_le)
    · exact hbank (hsave.bank_eq htype)
  · rintro ⟨htype, hdata⟩
    have hlength := hsave.length_eq
    rw [htype] at hlength
    rw [List.length_eq_zero_iff.mp hlength] at hdata
    cases hdata

/-- A snapshot whose channels are refused is refused. -/
theorem restoreMachine_rejected (h : session.Sound)
    (hdma : DmaController.loadState session.system.devices.dma = none) :
    restoreMachine (SaveStateCodec.snapshotOf session) = none := by
  simp only [restoreMachine, SaveStateCodec.snapshotOf, CoreSession.saveState, MemoryBus.saveState,
    h.loadState_cpu, h.loadState_memory, h.devices.timers.loadState_saveState, hdma,
    Option.bind_eq_bind, Option.bind_some, Option.bind_none]

/-- The components take back what they stored, and the machine that is rebuilt is the stored one but
for the cycles at which the timers were enabled. -/
theorem restoreMachine_snapshotOf (h : session.Sound) {dma : DmaController}
    (hdma : DmaController.loadState session.system.devices.dma = some dma) :
    ∃ machine, restoreMachine (SaveStateCodec.snapshotOf session) = some machine ∧
      machine.system.devices.timers.Reachable := by
  have hcpu := h.loadState_cpu
  have hmemory := h.loadState_memory
  have htimers := h.devices.timers.loadState_saveState
  have hapu : Apu.loadState session.system.devices.apu = some session.system.devices.apu :=
    if_pos ⟨h.devices.apu.fifo .a, h.devices.apu.fifo .b, h.devices.apu.audioBuffer⟩
  have hkeypad : Keypad.reset.setPressedMask session.system.devices.keypad.pressedMask =
      some ⟨session.system.devices.keypad.pressedMask, 0⟩ := by
    refine if_neg ?_
    rw [← h.devices.keypad.pressedMask]
    simp [anySet, and_mask_and_not]
  have hmachine : restoreMachine (SaveStateCodec.snapshotOf session) = some
      { cpu := session.cpu
        system :=
          { memory := session.system.memory
            devices :=
              { interrupts :=
                  (restoreFlags session.system.devices.interrupts.interruptFlags
                    (InterruptController.reset.writeInterruptEnable
                      session.system.devices.interrupts.interruptEnable)).setMasterEnabled
                    session.system.devices.interrupts.masterEnabled
                timers := ⟨fun index => Timers.restoreTimer
                  session.system.devices.timers.cycleCounter
                  (session.system.devices.timers.saveState.timers index),
                  session.system.devices.timers.cycleCounter⟩
                dma := dma
                ppu := session.system.devices.ppu
                apu := session.system.devices.apu
                waitcnt := .writeControl session.system.devices.waitcnt.control
                keypad := Keypad.writeKeycnt ⟨session.system.devices.keypad.pressedMask, 0⟩
                  session.system.devices.keypad.keycnt
                io := session.system.devices.io } }
        bios := session.bios
        scheduler := session.scheduler } := by
    simp only [restoreMachine, SaveStateCodec.snapshotOf, CoreSession.saveState,
      MemoryBus.saveState, hcpu, hmemory, htimers, hdma, hapu, hkeypad, Option.bind_eq_bind,
      Option.bind_some]
    rfl
  exact ⟨_, hmachine, .loadState _ htimers⟩

/-- A snapshot of a session that has the invariant is restored as it is, but for the pending flag. -/
theorem normalized_snapshotOf (h : session.Sound) :
    (SaveStateCodec.snapshotOf session).normalized =
      SaveStateCodec.snapshotOf session.refreshDma := by
  unfold SnapshotState.normalized SaveStateCodec.snapshotOf CoreSession.saveState
  dsimp only
  rw [h.devices.keypad.keycnt, h.devices.waitcnt]
  rfl

/-- The invariant is one of what a save state holds, but for the timers. -/
theorem of_snapshotOf (h : session.Sound) {after : CoreSession}
    (hafter : SaveStateCodec.snapshotOf after = SaveStateCodec.snapshotOf session)
    (htimers : after.system.devices.timers.Reachable) : after.Sound := by
  have hcpu : after.cpu = session.cpu := congrArg SnapshotState.cpu hafter
  have hmemory : after.system.memory = session.system.memory :=
    congrArg SnapshotState.memory hafter
  have hinterrupts : after.system.devices.interrupts = session.system.devices.interrupts :=
    congrArg SnapshotState.interrupts hafter
  have hppu : after.system.devices.ppu = session.system.devices.ppu :=
    congrArg SnapshotState.ppu hafter
  have hapu : after.system.devices.apu = session.system.devices.apu :=
    congrArg SnapshotState.apu hafter
  have hkeypad : after.system.devices.keypad = session.system.devices.keypad :=
    Keypad.ext (congrArg SnapshotState.pressedMask hafter) (congrArg SnapshotState.keycnt hafter)
  have hwaitcnt : after.system.devices.waitcnt = session.system.devices.waitcnt :=
    WaitStateControl.ext (congrArg SnapshotState.waitcnt hafter)
  have hscheduler : after.scheduler = session.scheduler :=
    congrArg SnapshotState.scheduler hafter
  constructor
  · rw [hcpu]
    exact h.mode
  · rw [hmemory]
    exact h.memory
  · constructor
    · rw [hapu]
      exact h.devices.apu
    · rw [hapu]
      exact h.devices.sequenced
    · rw [hppu]
      exact h.devices.ppu
    · rw [hinterrupts]
      exact h.devices.interrupts
    · exact htimers
    · rw [hkeypad]
      exact h.devices.keypad
    · rw [hwaitcnt]
      exact h.devices.waitcnt
  · rw [hscheduler]
    exact h.scheduler

end CoreSession.Sound

namespace SaveStateCodec

/-- What the decoder makes of a save state whose channels are taken back: it is restored, with the
pending flag recomputed, if that leaves the hash. -/
theorem decodeInto_refreshed {saved : CoreSession} (h : saved.Sound)
    (hframes : saved.scheduler.FramesRestorable)
    (hdebug : saved.system.memory.debugOutput.length < 2 ^ 32) {dma : DmaController}
    (hdma : DmaController.loadState saved.system.devices.dma = some dma) (target : CoreSession) :
    ∃ after, snapshotOf after = snapshotOf saved.refreshDma ∧ after.Sound ∧
      decodeInto target (encode saved) =
        if saved.refreshDma.stateHash = saved.stateHash then
          some (⟨.ok, kVersion, saved.stateHash⟩, after)
        else some (⟨.stateHashMismatch, kVersion, saved.stateHash⟩, target) := by
  have hdecode := decodeInto_written target (h.parsable hframes hdebug) saved.stateHash
  change decodeInto target (encode saved) = _ at hdecode
  obtain ⟨machine, hmachine, htimers⟩ := h.restoreMachine_snapshotOf hdma
  have hafter : snapshotOf (target.loadState machine) = snapshotOf saved.refreshDma :=
    (snapshotOf_restored h.devices.interrupts hmachine target).trans h.normalized_snapshotOf
  -- the hash of the machine is the hash of the session that it becomes
  have hbecomes : (target.loadState machine).stateHash = saved.refreshDma.stateHash :=
    CoreSession.stateHash_of_snapshot hafter
  have hhash : machine.snapshotStateHash false = saved.refreshDma.stateHash := hbecomes
  have hversion : decide (kVersion < 5#32) = false := rfl
  refine ⟨target.loadState machine, hafter, h.refreshDma.of_snapshotOf hafter htimers, ?_⟩
  rw [hdecode]
  unfold commit
  rw [hmachine]
  dsimp only
  rw [hversion, hhash]
  by_cases hsame : saved.refreshDma.stateHash = saved.stateHash
  · rw [if_neg (not_not.mpr hsame), if_pos hsame]
  · rw [if_pos hsame, if_neg hsame]

/-- A save state whose channels and pending flag are taken back is restored. -/
theorem decodeInto_encode {saved : CoreSession} (h : saved.Sound)
    (hframes : saved.scheduler.FramesRestorable)
    (hdebug : saved.system.memory.debugOutput.length < 2 ^ 32)
    (hdma : DmaController.loadState saved.system.devices.dma = some saved.system.devices.dma)
    (target : CoreSession) :
    ∃ after, decodeInto target (encode saved) = some (⟨.ok, kVersion, saved.stateHash⟩, after) ∧
      snapshotOf after = snapshotOf saved ∧ after.stateHash = saved.stateHash ∧
        encode after = encode saved ∧ after.Sound := by
  obtain ⟨after, hafter, hsound, hdecode⟩ := decodeInto_refreshed h hframes hdebug hdma target
  rw [CoreSession.refreshDma_of_loadState hdma] at hafter hdecode
  rw [if_pos rfl] at hdecode
  have hhash := CoreSession.stateHash_of_snapshot hafter
  refine ⟨after, hdecode, hafter, hhash, ?_, hsound⟩
  unfold encode
  rw [hhash, hafter]

theorem restorable_reset : CoreSchedulerState.reset.FramesRestorable :=
  ⟨fun h => absurd rfl h, trivial, Nat.two_pow_pos 32, Nat.two_pow_pos 32⟩

/-- The save state of a game with a save is accepted, and it is spelled as `encode` spells it. -/
theorem decodeInto_canonical_game :
    ∃ (after : CoreSession) (snapshot : SnapshotState),
      encode (CoreSession.gameSession CoreSession.savingProgram) =
          writeHeader after.stateHash ++ writeSnapshot snapshot ∧
        snapshotOf after = snapshot.normalized ∧
        after.system.memory.gamePakRom = CoreSession.savingProgram ∧
        after.system.memory.gamePakSave.saveType = .sram32k := by
  obtain ⟨after, hdecode, hafter, -⟩ := decodeInto_encode
    (CoreSession.gameSession_reached CoreSession.savingProgram).sound restorable_reset
    (Nat.two_pow_pos 32) rfl .initial
  obtain ⟨snapshot, hspelled, hsnapshot⟩ := decodeInto_canonical hdecode rfl rfl
  have hmemory := congrArg SnapshotState.memory hafter
  exact ⟨after, snapshot, hspelled, hsnapshot, congrArg MemoryBus.gamePakRom hmemory,
    congrArg (fun memory => memory.gamePakSave.saveType) hmemory⟩

/-- The save state of a session that is ever reached is restored into every other session, which
then stores the same snapshot, has the same hash and the invariant, if the DMA controller takes back
what it stored. If it refuses a channel the other session is left as it is. If it takes back another
pending flag than it stored, its hash is another one, and the other session is left as it is unless
the hash of the whole machine is the same all the same. -/
theorem decodeInto_reached {saved : CoreSession} (h : saved.Reached)
    (hframes : saved.scheduler.FramesRestorable)
    (hdebug : saved.system.memory.debugOutput.length < 2 ^ 32) (target : CoreSession) :
    (DmaController.loadState saved.system.devices.dma = some saved.system.devices.dma →
      ∃ after, decodeInto target (encode saved) = some (⟨.ok, kVersion, saved.stateHash⟩, after) ∧
        snapshotOf after = snapshotOf saved ∧ after.stateHash = saved.stateHash ∧
          encode after = encode saved ∧ after.Sound) ∧
      (DmaController.loadState saved.system.devices.dma = none →
        decodeInto target (encode saved) =
          some (⟨.restoreRejected, kVersion, saved.stateHash⟩, target)) ∧
      ∀ dma, DmaController.loadState saved.system.devices.dma = some dma →
        dma ≠ saved.system.devices.dma →
        dma.stateHash ≠ saved.system.devices.dma.stateHash ∧
          (saved.refreshDma.stateHash ≠ saved.stateHash →
            decodeInto target (encode saved) =
              some (⟨.stateHashMismatch, kVersion, saved.stateHash⟩, target)) ∧
          (saved.refreshDma.stateHash = saved.stateHash →
            ∃ after, decodeInto target (encode saved) =
                some (⟨.ok, kVersion, saved.stateHash⟩, after) ∧
              snapshotOf after = snapshotOf saved.refreshDma ∧ after.stateHash = saved.stateHash ∧
                after.Sound) := by
  refine ⟨fun hdma => decodeInto_encode h.sound hframes hdebug hdma target, fun hdma => ?_,
    fun dma hdma hne => ?_⟩
  · have hdecode := decodeInto_written target (h.sound.parsable hframes hdebug) saved.stateHash
    have hrejected := h.sound.restoreMachine_rejected hdma
    show decodeInto target (writeHeader saved.stateHash ++ writeSnapshot (snapshotOf saved)) = _
    rw [hdecode]
    unfold commit
    rw [hrejected]
  · obtain ⟨after, hafter, hsound, hdecode⟩ :=
      decodeInto_refreshed h.sound hframes hdebug hdma target
    refine ⟨?_, fun hhash => ?_, fun hhash => ⟨after, ?_, hafter, ?_, hsound⟩⟩
    · obtain rfl := restored_dma hdma
      exact DmaController.stateHash_pending rfl fun hpending =>
        hne (DmaController.ext rfl hpending)
    · rw [hdecode, if_neg hhash]
    · rw [hdecode, if_pos hhash]
    · rw [CoreSession.stateHash_of_snapshot hafter, hhash]

/-- The save state of a game is restored into a new session. -/
theorem decodeInto_reached_game :
    ∃ after, decodeInto .initial (encode (CoreSession.gameSession CoreSession.savingProgram)) =
        some (⟨.ok, kVersion, (CoreSession.gameSession CoreSession.savingProgram).stateHash⟩,
          after) ∧
      snapshotOf after = snapshotOf (CoreSession.gameSession CoreSession.savingProgram) ∧
      after.stateHash = (CoreSession.gameSession CoreSession.savingProgram).stateHash ∧
      encode after = encode (CoreSession.gameSession CoreSession.savingProgram) ∧ after.Sound :=
  (decodeInto_reached (CoreSession.gameSession_reached CoreSession.savingProgram) restorable_reset
    (Nat.two_pow_pos 32) .initial).1 rfl

end SaveStateCodec

end Gba.Core
