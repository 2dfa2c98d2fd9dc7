import Gba.Core.AndroidRuntime
import Gba.Core.SessionInvariant

/-!
# The runs of a session

A session is a machine that the host drives: it steps, and between steps the host resets it, changes
the cartridge, the keys and the registers, takes sound off its queue and restores saved states. The
invariant of the session holds in every state that this reaches, and from every such state the next
step returns.
-/

namespace Gba.Core

open Gba.Library

namespace CoreSession

/-! ## The host -/

/-- Replace the devices. -/
def withDevices (session : CoreSession) (devices : Devices) : CoreSession :=
  { session with system := { session.system with devices := devices } }

/-- The keypad has changed: the interrupt is polled at once. -/
def withKeypad (session : CoreSession) (keypad : Keypad) : CoreSession :=
  let devices := session.system.devices
  session.withDevices
    { devices with keypad := keypad, interrupts := keypad.pollInterrupt devices.interrupts }

/-- `press_button`. -/
def pressButton (session : CoreSession) (button : KeypadButton) : CoreSession :=
  session.withKeypad (session.system.devices.keypad.press button)

/-- `release_button`. -/
def releaseButton (session : CoreSession) (button : KeypadButton) : CoreSession :=
  session.withKeypad (session.system.devices.keypad.release button)

/-- `set_input_mask`. -/
def setInputMask (session : CoreSession) (pressedMask : U16) : Bool × CoreSession :=
  match session.system.devices.keypad.setPressedMask pressedMask with
  | none => (false, session)
  | some keypad => (true, session.withKeypad keypad)

/-- `set_mode` of the BIOS. -/
def setBiosMode (session : CoreSession) (mode : BiosExecutionMode) : CoreSession :=
  { session with bios := ⟨mode⟩ }

/-- `set_register` of the processor. -/
def setRegister (session : CoreSession) (index : Fin 16) (value : U32) : CoreSession :=
  { session with cpu := session.cpu.setRegister index value }

end CoreSession

/-- What the host does to a session between two steps. -/
inductive HostMove (session : CoreSession) : CoreSession → Prop where
  | reset : HostMove session session.reset
  | configureForGameBoot : HostMove session session.configureForGameBoot
  | setBiosMode (mode : BiosExecutionMode) : HostMove session (session.setBiosMode mode)
  | setRegister (index : Fin 16) (value : U32) : HostMove session (session.setRegister index value)
  | memory (operation : BusState.SaveOperation) :
      HostMove session { session with system := operation.run ioCallbacks session.system }
  | register {devices : Devices} (h : RegisterWrite session.system.devices devices) :
      HostMove session (session.withDevices devices)
  | pressButton (button : KeypadButton) : HostMove session (session.pressButton button)
  | releaseButton (button : KeypadButton) : HostMove session (session.releaseButton button)
  | setInputMask (pressedMask : U16) : HostMove session (session.setInputMask pressedMask).2
  | popAudioSample {sample : Option ApuMixedSample} {apu : Apu}
      (h : session.system.devices.apu.popAudioSample = some (sample, apu)) :
      HostMove session (session.withDevices { session.system.devices with apu := apu })

/-- The sessions that steps, the host and restored states reach from a new one. -/
inductive CoreSession.Reached : CoreSession → Prop where
  | initial : Reached .initial
  | step {session after : CoreSession} {result : CoreSchedulerFetchStepResult}
      (hsession : Reached session) (hstep : session.step = some (result, after)) : Reached after
  | host {session after : CoreSession} (hsession : Reached session)
      (hmove : HostMove session after) : Reached after
  | restore {session saved : CoreSession} (hsession : Reached session) (hsaved : Reached saved) :
      Reached (session.loadState saved.saveState)

/-! ## The invariant -/

namespace CoreSession.Sound

variable {session after : CoreSession}

theorem scheduler_reset : CoreSchedulerState.reset.Sound :=
  ⟨Nat.zero_le _, Nat.zero_le _, rfl, rfl, fun h => absurd rfl h, fun _ h => absurd h List.not_mem_nil,
    fun _ h => absurd h List.not_mem_nil⟩

theorem named_supervisor : CpuMode.supervisor ∈ CpuMode.named := by decide

theorem initial : CoreSession.initial.Sound where
  mode := named_supervisor
  memory := ⟨Nat.zero_le _, GamePakSave.sized_clear ⟨.none, [], .idle, false, 0⟩⟩
  devices := .reset
  scheduler := scheduler_reset

theorem reset (session : CoreSession) : session.reset.Sound where
  mode := named_supervisor
  memory := ⟨Nat.zero_le _, GamePakSave.sized_clear _⟩
  devices := .reset
  scheduler := scheduler_reset

/-- Effects keep the invariant. -/
theorem effects {charges : Prop} (h : session.Sound) (heffects : SessionEffects charges session after) :
    after.Sound :=
  sound_sessionEffect.star heffects h

theorem withDevices (h : session.Sound) {devices : Devices} (hdevices : devices.Sound) :
    (session.withDevices devices).Sound := { h with devices := hdevices }

/-- A keypad that holds implemented bits only may replace the one of the session. -/
theorem withKeypad (h : session.Sound) {keypad : Keypad} (hkeypad : keypad.Masked) :
    (session.withKeypad keypad).Sound :=
  h.withDevices
    { h.devices with
      keypad := hkeypad
      interrupts := request_if (fun hc source => hc.request source) h.devices.interrupts _ _ }

end CoreSession.Sound

/-! ## The operations on the memory -/

section Memory

open BusState

variable {system : System}

/-- An accepted cartridge fits its window. -/
theorem rom_loadState {state memory : MemoryBus} (h : MemoryBus.loadState state = some memory) :
    memory.gamePakRom.length ≤ kGamePakRomWindowSize := by
  unfold MemoryBus.loadState at h
  dsimp only at h
  split_ifs at h with hsize hempty hbank hrom
  obtain rfl := Option.some.inj h
  rw [not_and, Nat.not_lt] at hrom
  by_cases hnone : state.gamePakRom = []
  · rw [hnone]
    exact Nat.zero_le _
  · refine hrom ?_
    rw [Bool.not_eq_true', List.isEmpty_eq_false_iff]
    exact hnone

theorem rom_accept (h : system.memory.gamePakRom.length ≤ kGamePakRomWindowSize)
    {outcome : Option MemoryBus}
    (houtcome : ∀ memory ∈ outcome, memory.gamePakRom.length ≤ kGamePakRomWindowSize) :
    (system.accept outcome).memory.gamePakRom.length ≤ kGamePakRomWindowSize := by
  cases outcome with
  | none => exact h
  | some memory => exact houtcome memory rfl

theorem SaveOperation.run_memory (operation : SaveOperation) (h : system.memory.Sound) :
    (operation.run ioCallbacks system).memory.Sound := by
  refine ⟨?_, operation.run_sized ioCallbacks h.save⟩
  cases operation with
  | write8 address value =>
      exact ((MemoryEffects.write8 ioCallbacks system address value).sound h).rom
  | write16 address value =>
      exact ((MemoryEffects.write16 ioCallbacks system address value).sound h).rom
  | write32 address value =>
      exact ((MemoryEffects.write32 ioCallbacks system address value).sound h).rom
  | importGamePakSave type data =>
      refine rom_accept h.rom fun memory hmemory => ?_
      obtain ⟨save, -, rfl⟩ := Option.map_eq_some_iff.mp hmemory
      exact h.rom
  | loadGamePakRom data =>
      refine rom_accept h.rom fun memory hmemory => ?_
      unfold MemoryBus.loadGamePakRom at hmemory
      split at hmemory
      · contradiction
      · next hfits =>
          rw [← Option.some.inj hmemory]
          exact Nat.not_lt.mp (not_or.mp hfits).2
  | loadState state => exact rom_accept h.rom fun memory hmemory => rom_loadState hmemory
  | sessionReset => exact Nat.zero_le _
  | configureGamePakSave type => exact h.rom
  | clearGamePakSave => exact h.rom
  | eepromWriteBlock blockIndex block => exact h.rom
  | read address => exact h.rom
  | reset => exact h.rom

theorem devices_accept (outcome : Option MemoryBus) :
    (system.accept outcome).devices = system.devices := by
  cases outcome <;> rfl

theorem SaveOperation.run_devices (operation : SaveOperation) (h : system.devices.Sound) :
    (operation.run ioCallbacks system).devices.Sound := by
  have hio := Devices.Sound.deviceInvariant.io
  cases operation with
  | write8 address value => exact hio.write8 h _ _
  | write16 address value => exact hio.write16_bus h _ _
  | write32 address value => exact hio.write32_bus h _ _
  | importGamePakSave type data => exact (@devices_accept system _).symm ▸ h
  | loadGamePakRom data => exact (@devices_accept system _).symm ▸ h
  | loadState state => exact (@devices_accept system _).symm ▸ h
  | _ => exact h

end Memory

/-! ## The machine -/

theorem Keypad.Masked.press {k : Keypad} (h : k.Masked) (button : KeypadButton) :
    (k.press button).Masked := by
  refine ⟨?_, h.keycnt⟩
  have hbit : button.bit &&& kButtonMask = button.bit := by cases button <;> rfl
  show (k.pressedMask ||| button.bit) &&& kButtonMask = k.pressedMask ||| button.bit
  rw [BitVec.and_comm, BitVec.and_or_distrib_left, BitVec.and_comm, h.pressedMask, BitVec.and_comm,
    hbit]

theorem Keypad.Masked.release {k : Keypad} (h : k.Masked) (button : KeypadButton) :
    (k.release button).Masked := by
  refine ⟨?_, h.keycnt⟩
  show k.pressedMask &&& ~~~button.bit &&& kButtonMask = k.pressedMask &&& ~~~button.bit
  rw [BitVec.and_assoc, BitVec.and_comm (~~~button.bit), ← BitVec.and_assoc, h.pressedMask]

theorem Keypad.Masked.setPressedMask {k keypad : Keypad} (h : k.Masked) {pressedMask : U16}
    (hset : k.setPressedMask pressedMask = some keypad) : keypad.Masked := by
  unfold Keypad.setPressedMask at hset
  split at hset
  · contradiction
  · next hother =>
      obtain rfl := Option.some.inj hset
      refine ⟨?_, h.keycnt⟩
      have hnone : pressedMask &&& ~~~kButtonMask = 0 := by simpa [anySet] using hother
      exact and_mask_of_and_not hnone

/-- What the host does keeps the invariant. -/
theorem sound_hostMove : Kept HostMove CoreSession.Sound := by
  intro session after hmove h
  cases hmove with
  | reset => exact .reset session
  | configureForGameBoot =>
      refine { h with mode := ?_ }
      show ((session.cpu.setCpsr 0x0000001F#32).getD session.cpu).mode ∈ CpuMode.named
      cases hset : session.cpu.setCpsr 0x0000001F#32 with
      | none => exact h.mode
      | some cpu => exact Arm7tdmi.setCpsr_named hset
  | setBiosMode mode => exact { h with }
  | setRegister index value => exact { h with mode := h.mode }
  | memory operation =>
      exact { h with
        memory := SaveOperation.run_memory operation h.memory
        devices := SaveOperation.run_devices operation h.devices }
  | register hwrite => exact h.withDevices (h.devices.registerWrite hwrite)
  | pressButton button => exact h.withKeypad (h.devices.keypad.press button)
  | releaseButton button => exact h.withKeypad (h.devices.keypad.release button)
  | setInputMask pressedMask =>
      unfold CoreSession.setInputMask
      split
      · exact h
      · next hset => exact h.withKeypad (h.devices.keypad.setPressedMask hset)
  | popAudioSample hpop =>
      obtain ⟨sample, apu, hpopped, hplay⟩ := h.devices.apu.popAudioSample
      obtain ⟨-, rfl⟩ := Prod.mk.inj (Option.some.inj (hpop.symm.trans hpopped))
      obtain ⟨⟨value, buffer⟩, -, hapu⟩ := Option.map_eq_some_iff.mp hpop
      obtain ⟨-, rfl⟩ := Prod.mk.inj hapu
      exact h.withDevices { h.devices with apu := hplay, sequenced := h.devices.sequenced }

namespace CoreSession

variable {session : CoreSession}

/-- A step keeps the invariant. -/
theorem Sound.step {after : CoreSession} {result : CoreSchedulerFetchStepResult}
    (h : session.Sound) (hstep : session.step = some (result, after)) : after.Sound :=
  h.effects ((session.step_stepped h.devices.live).of_eq hstep).effects

/-- The invariant holds in every session that is ever reached. -/
theorem Reached.sound (h : Reached session) : session.Sound := by
  induction h with
  | initial => exact .initial
  | step _ hstep ih => exact ih.step hstep
  | host _ hmove ih => exact sound_hostMove hmove ih
  | restore _ _ ih ihsaved => exact ⟨ihsaved.mode, ihsaved.memory, ihsaved.devices, ihsaved.scheduler⟩

/-- A step of a session that is ever reached returns, in a session that is reached. -/
theorem Reached.step_reached (h : Reached session) :
    ∃ result after, session.step = some (result, after) ∧ Reached after := by
  obtain ⟨⟨result, after⟩, hstep, -⟩ := session.step_stepped h.sound.devices.live
  exact ⟨result, after, hstep, h.step hstep⟩

/-- The session of a cartridge with a ROM and a save in SRAM, booted without the BIOS. -/
def gameSession (rom : List U8) : CoreSession :=
  let inserted := (BusState.SaveOperation.loadGamePakRom rom).run ioCallbacks initial.system
  let configured := (BusState.SaveOperation.configureGamePakSave .sram32k).run ioCallbacks inserted
  { initial with system := configured }.configureForGameBoot

theorem gameSession_reached (rom : List U8) : (gameSession rom).Reached :=
  ((Reached.initial.host (.memory (.loadGamePakRom rom))).host
    (.memory (.configureGamePakSave .sram32k))).host .configureForGameBoot

/-- A program that stores a byte in the save: `mov r0, #0x0E000000`, `strb r1, [r0]`. -/
def savingProgram : List U8 := [0x0E, 0x04, 0xA0, 0xE3, 0x00, 0x10, 0xC0, 0xE5]

/-- A session that is ever reached has the invariant, and a step of it returns, in a session that is
reached and has the invariant. -/
theorem Reached.step_sound (h : Reached session) :
    session.Sound ∧
      ∃ result after, session.step = some (result, after) ∧ Reached after ∧ after.Sound := by
  obtain ⟨result, after, hstep, hafter⟩ := h.step_reached
  exact ⟨h.sound, result, after, hstep, hafter, hafter.sound⟩

/-- The first step of a game that stores in its save. -/
theorem Reached.step_sound_game :
    (gameSession savingProgram).Sound ∧
      ∃ result after, (gameSession savingProgram).step = some (result, after) ∧ Reached after ∧
        after.Sound :=
  (gameSession_reached savingProgram).step_sound

/-! ## What only the host changes -/

/-- A sequence of steps. -/
abbrev StepsTo : CoreSession → CoreSession → Prop :=
  Relation.ReflTransGen fun session after => ∃ result, session.step = some (result, after)

/-- Steps are a sequence of effects. -/
theorem StepsTo.effects (h : session.Sound) {after : CoreSession} (hsteps : session.StepsTo after) :
    SessionEffects True session after := by
  induction hsteps with
  | refl => exact .refl
  | @tail middle last _ hstep ih =>
      obtain ⟨result, hstep⟩ := hstep
      have hlive : middle.system.devices.Live := ih.live h.devices.live
      exact ih.trans ((middle.step_stepped hlive).of_eq hstep).effects

end CoreSession

/-- An effect leaves alone how the BIOS is executed and the count of the states that the session has
been given. -/
theorem SessionEffect.outside {charges : Prop} {session after : CoreSession}
    (h : SessionEffect charges session after) :
    after.bios = session.bios ∧ after.stateGeneration = session.stateGeneration := by
  cases h with
  | time h =>
      have hpassed := CoreSession.advanceDevices_passed h
      exact ⟨hpassed.bios, hpassed.stateGeneration⟩
  | queue cycles =>
      unfold CoreSession.queueHleWork
      split <;> exact ⟨rfl, rfl⟩
  | charge hcharges h hwork hcycles =>
      have hpassed := CoreSession.advanceDevices_passed h
      exact ⟨hpassed.bios, hpassed.stateGeneration⟩
  | _ => exact ⟨rfl, rfl⟩

theorem SessionEffects.outside {charges : Prop} {session after : CoreSession}
    (h : SessionEffects charges session after) :
    after.bios = session.bios ∧ after.stateGeneration = session.stateGeneration := by
  induction h with
  | refl => exact ⟨rfl, rfl⟩
  | tail _ heffect ih => exact ⟨heffect.outside.1.trans ih.1, heffect.outside.2.trans ih.2⟩

namespace CoreSession

/-- Whatever a program does, it leaves the ROM, the type and the size of the save and the execution
of the BIOS as they are: the save is what byte writes through its aperture make of it, and the debug
output is only added to. -/
theorem Reached.steps_keep {session after : CoreSession} (h : Reached session)
    (hsteps : session.StepsTo after) :
    after.bios = session.bios ∧ after.stateGeneration = session.stateGeneration ∧
      after.system.memory.gamePakRom = session.system.memory.gamePakRom ∧
      (∃ writes, after.system.memory.gamePakSave =
        session.system.memory.gamePakSave.writeAll writes) ∧
      after.system.memory.gamePakSave.saveType = session.system.memory.gamePakSave.saveType ∧
      after.system.memory.gamePakSave.data.length =
        session.system.memory.gamePakSave.data.length ∧
      session.system.memory.debugOutput <+: after.system.memory.debugOutput := by
  have heffects := StepsTo.effects h.sound hsteps
  have hmemory := heffects.device_effects.memory_effects
  obtain ⟨writes, hsave⟩ := hmemory.save
  obtain ⟨htype, hsized⟩ := GamePakSave.writeAll_sized h.sound.memory.save writes
  rw [← hsave] at htype hsized
  refine ⟨heffects.outside.1, heffects.outside.2, hmemory.rom, ⟨writes, hsave⟩, htype, ?_,
    hmemory.output⟩
  rw [hsized.length_eq, h.sound.memory.save.length_eq, htype]

/-- Two steps of a game that stores in its save leave its ROM and the kind and size of the save. -/
theorem Reached.steps_keep_game :
    ∃ middle after, (gameSession savingProgram).StepsTo middle ∧ middle.StepsTo after ∧
      after.bios = ⟨.hle⟩ ∧ after.system.memory.gamePakRom = savingProgram ∧
      after.system.memory.gamePakSave.saveType = .sram32k ∧
      after.system.memory.gamePakSave.data.length = 0x8000 ∧
      ∃ writes, after.system.memory.gamePakSave =
        (gameSession savingProgram).system.memory.gamePakSave.writeAll writes := by
  have hgame := gameSession_reached savingProgram
  obtain ⟨first, middle, hfirst, hmiddle⟩ := hgame.step_reached
  obtain ⟨second, after, hsecond, -⟩ := hmiddle.step_reached
  have hsteps : (gameSession savingProgram).StepsTo middle := .single ⟨first, hfirst⟩
  obtain ⟨hbios, -, hrom, hwrites, htype, hlength, -⟩ :=
    hgame.steps_keep (hsteps.tail ⟨second, hsecond⟩)
  exact ⟨middle, after, hsteps, .single ⟨second, hsecond⟩, hbios, hrom, htype,
    hlength.trans (List.length_replicate ..), hwrites⟩

end CoreSession

end Gba.Core
