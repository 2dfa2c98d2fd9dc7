import Gba.Core.FrameAccounts
import Gba.Library.Interleaving

/-!
# The bridge to Android

`AndroidCoreBridge` and the C functions of `android_core_bridge.cpp`. A bridge is a session behind a
mutex, so that the calls of all threads reach it one after the other, in some order. Handles are
pointers: the null pointer is answered by a status of its own, and a call through the handle of a
destroyed bridge is undefined. A bridge sees the calls through its own handle only.
-/

namespace Gba.Core

open Gba.Library

/-! ## The calls -/

/-- `AndroidBridgeStatus`. -/
inductive AndroidBridgeStatus where
  | ok | nullHandle | invalidArgument | romRejected | invalidHandle | internalError
  deriving DecidableEq, Repr

/-- `AndroidBridgeRunResult`. -/
structure AndroidBridgeRunResult where
  status : AndroidBridgeStatus
  executedSteps : U32
  finalPc : U32
  stateHash : U64
  deriving DecidableEq

/-- The allocation of `load_rom` that fails: of its copy of the bytes, of the copy that the memory
keeps, or of the save. -/
inductive RomFault where
  | copy | rom | save
  deriving DecidableEq

namespace AndroidCoreBridge

/-- The body of `load_rom` once the bytes are copied. -/
def loadCopiedRom (rom : List U8) (fault : Option RomFault) (session : CoreSession) :
    AndroidBridgeStatus × CoreSession :=
  let session := session.reset
  match session.system.memory.loadGamePakRom rom with
  | none => (.romRejected, session)
  | some memory =>
      if fault = some .rom then (.internalError, session)
      else
        let saveType := memory.detectGamePakSaveType.getD .none
        if fault = some .save ∧ saveSizeForType saveType ≠ 0 then
          -- the type is stored before the bytes are allocated
          (.internalError,
            session.withMemory
              { memory with gamePakSave := { memory.gamePakSave with saveType := saveType } })
        else
          match memory.configureGamePakSave saveType with
          | (false, memory) => (.romRejected, (session.withMemory memory).reset)
          | (true, memory) => (.ok, (session.withMemory memory).configureForGameBoot)

/-- `load_rom`, with the exceptions that the C function contains. The bytes are a null pointer or
are there. -/
def loadRom (bytes : Option (List U8)) (fault : Option RomFault) (session : CoreSession) :
    AndroidBridgeStatus × CoreSession :=
  match bytes with
  | none => (.invalidArgument, session)
  | some rom =>
      if rom.isEmpty then (.invalidArgument, session)
      else if fault = some .copy then (.internalError, session)
      else loadCopiedRom rom fault session

/-- `run`; it may not return. -/
def run (maxSteps : U32) (session : CoreSession) : Option (AndroidBridgeRunResult × CoreSession) :=
  if maxSteps = 0 then some (⟨.invalidArgument, 0, 0, 0⟩, session)
  else
    (session.run maxSteps).map fun (result, session) =>
      (⟨.ok, result.executedSteps, result.finalPc, session.stateHash⟩, session)

end AndroidCoreBridge

/-- A call of one of the C functions. Whether a pointer to a result is null is told by a flag. -/
inductive BridgeCall where
  | create
  | destroy
  | reset
  | loadRom (bytes : Option (List U8)) (fault : Option RomFault)
  | run (maxSteps : U32) (result : Bool)
  | stateHash (outHash : Bool)

/-- The status that a call returns, if it returns one, and what it writes through its pointer. -/
structure BridgeAnswer where
  status : Option AndroidBridgeStatus
  result : Option AndroidBridgeRunResult
  hash : Option U64
  deriving DecidableEq

/-- A call that writes nothing. -/
def BridgeAnswer.returns (status : AndroidBridgeStatus) : BridgeAnswer := ⟨some status, none, none⟩

/-- What a handle stands for. A bridge that has been destroyed is no different from one that has not
been made. -/
inductive BridgeHandle where
  | null
  | dead
  | live (session : CoreSession)

namespace BridgeHandle

/-- `gba_android_core_create` that returns the handle. It returns the null pointer when the allocation
fails, and never that of a bridge that is live. -/
def create : BridgeHandle → Option (BridgeAnswer × BridgeHandle)
  | .null => some (⟨none, none, none⟩, .null)
  | .dead => some (⟨none, none, none⟩, .live .initial)
  | .live _ => none

/-- `gba_android_core_destroy`. -/
def destroy : BridgeHandle → Option (BridgeAnswer × BridgeHandle)
  | .null => some (⟨none, none, none⟩, .null)
  | .dead => none
  | .live _ => some (⟨none, none, none⟩, .dead)

/-- `gba_android_core_reset`. -/
def reset : BridgeHandle → Option (BridgeAnswer × BridgeHandle)
  | .null => some (.returns .nullHandle, .null)
  | .dead => none
  | .live session => some (.returns .ok, .live session.reset)

/-- `gba_android_core_load_rom`. -/
def loadRom (bytes : Option (List U8)) (fault : Option RomFault) :
    BridgeHandle → Option (BridgeAnswer × BridgeHandle)
  | .null => some (.returns .nullHandle, .null)
  | .dead => none
  | .live session =>
      let loaded := AndroidCoreBridge.loadRom bytes fault session
      some (.returns loaded.1, .live loaded.2)

/-- `gba_android_core_run`. -/
def run (maxSteps : U32) (result : Bool) (handle : BridgeHandle) :
    Option (BridgeAnswer × BridgeHandle) :=
  if !result then some (.returns .invalidArgument, handle)
  else
    match handle with
    | .null => some (⟨some .nullHandle, some ⟨.nullHandle, 0, 0, 0⟩, none⟩, .null)
    | .dead => none
    | .live session =>
        (AndroidCoreBridge.run maxSteps session).map fun (ran, session) =>
          (⟨some ran.status, some ran, none⟩, .live session)

/-- `gba_android_core_state_hash`. -/
def stateHash (outHash : Bool) (handle : BridgeHandle) : Option (BridgeAnswer × BridgeHandle) :=
  if !outHash then some (.returns .invalidArgument, handle)
  else
    match handle with
    | .null => some (.returns .invalidHandle, .null)
    | .dead => none
    | .live session => some (⟨some .ok, none, some session.stateHash⟩, handle)

/-- A call through a handle. -/
def call : Machine BridgeCall BridgeAnswer BridgeHandle
  | .create, handle => handle.create
  | .destroy, handle => handle.destroy
  | .reset, handle => handle.reset
  | .loadRom bytes fault, handle => handle.loadRom bytes fault
  | .run maxSteps result, handle => handle.run maxSteps result
  | .stateHash outHash, handle => handle.stateHash outHash

/-- The handles of a process that has made no bridge: the null pointer and the addresses. -/
def start : Option Nat → BridgeHandle
  | none => .null
  | some _ => .dead

end BridgeHandle

/-! ## Proper use -/

/-- The calls through a handle use it as they may: it is made before and destroyed after everything
else, and may be made again. A null pointer for the result is noticed before the handle is used. -/
def properCalls : Bool → List BridgeCall → Bool
  | _, [] => true
  | live, .create :: calls => !live && properCalls true calls
  | live, .destroy :: calls => live && properCalls false calls
  | live, .run _ false :: calls => properCalls live calls
  | live, .stateHash false :: calls => properCalls live calls
  | live, _ :: calls => live && properCalls live calls

/-- The allocation of the save fails. -/
def BridgeCall.losesSave : BridgeCall → Bool
  | .loadRom _ (some .save) => true
  | _ => false

/-- What holds of the session of a bridge: a step returns, and, if no allocation of a save has failed,
the session can be reached. -/
structure BridgedSession (saves : Bool) (session : CoreSession) : Prop where
  devices : session.system.devices.Live
  reached : saves = true → session.Reached

namespace BridgedSession

variable {saves : Bool} {session : CoreSession}

theorem of_reached (h : session.Reached) : BridgedSession saves session :=
  ⟨h.sound.devices.live, fun _ => h⟩

theorem reset (h : BridgedSession saves session) : BridgedSession saves session.reset :=
  ⟨(CoreSession.Sound.reset session).devices.live, fun hsaves => (h.reached hsaves).host .reset⟩

/-- Whether a session can be reached is one matter, and what its devices are is another. -/
theorem of_devices {after : CoreSession} (h : BridgedSession saves session)
    (hdevices : after.system.devices = session.system.devices)
    (hreached : session.Reached → after.Reached) : BridgedSession saves after :=
  ⟨hdevices ▸ h.devices, fun hsaves => hreached (h.reached hsaves)⟩

theorem loadCopiedRom (h : BridgedSession saves session) (rom : List U8) {fault : Option RomFault}
    (hfault : fault = some .save → saves = false) :
    BridgedSession saves (AndroidCoreBridge.loadCopiedRom rom fault session).2 := by
  have hreset := h.reset
  unfold AndroidCoreBridge.loadCopiedRom
  dsimp only
  split
  · exact hreset
  next memory hmemory =>
  split
  · exact hreset
  have hrom : BridgedSession saves (session.reset.withMemory memory) :=
    hreset.of_devices rfl fun hreached => hreached.withRom hmemory
  split
  · next hsave =>
      refine ⟨hreset.devices, fun hsaves => ?_⟩
      rw [hfault hsave.1] at hsaves
      contradiction
  have hsaved := @of_devices saves _
    ((session.reset.withMemory memory).withMemory
      (memory.configureGamePakSave (memory.detectGamePakSaveType.getD .none)).2)
    hrom rfl fun hreached => hreached.withSave _
  split
  · next heq =>
      rw [heq] at hsaved
      exact hsaved.reset
  · next heq =>
      rw [heq] at hsaved
      exact hsaved.of_devices rfl fun hreached => hreached.host .configureForGameBoot

theorem loadRom (h : BridgedSession saves session) (bytes : Option (List U8))
    {fault : Option RomFault} (hfault : fault = some .save → saves = false) :
    BridgedSession saves (AndroidCoreBridge.loadRom bytes fault session).2 := by
  unfold AndroidCoreBridge.loadRom
  split
  · exact h
  split
  · exact h
  split
  · exact h
  · exact h.loadCopiedRom _ hfault

/-- Steps keep what holds of the session of a bridge. -/
theorem answers_step : CoreSession.Answers (BridgedSession saves) CoreSession.step := by
  intro session h
  obtain ⟨⟨result, after⟩, hstep, hstepped⟩ := session.step_stepped h.devices
  exact ⟨_, hstep, ⟨hstepped.effects.live h.devices, fun hsaves => (h.reached hsaves).step hstep⟩,
    hstepped.answered⟩

/-- A run returns, reports what it has done and the hash of the session that it leaves. -/
theorem run (h : BridgedSession saves session) (maxSteps : U32) :
    ∃ ran after, AndroidCoreBridge.run maxSteps session = some (ran, after) ∧
      BridgedSession saves after ∧ ran.executedSteps.toNat ≤ maxSteps.toNat ∧
      (ran.status = .ok → ran.finalPc = after.pc ∧ ran.stateHash = after.stateHash) := by
  unfold AndroidCoreBridge.run
  split
  · exact ⟨_, session, rfl, h, Nat.zero_le _, fun hok => AndroidBridgeStatus.noConfusion hok⟩
  · obtain ⟨⟨result, after⟩, hrun, hafter, hpc, -, taken, -, haccounts⟩ :=
      CoreSession.runStepsFromPc_accounts answers_step maxSteps h
    have hexecuted : result.executedSteps.toNat ≤ maxSteps.toNat := by
      have hwithin := haccounts.within
      have hsteps := haccounts.steps
      have hattempted := haccounts.attempted
      omega
    refine ⟨⟨.ok, result.executedSteps, result.finalPc, after.stateHash⟩, after, ?_, hafter,
      hexecuted, fun _ => ⟨hpc, rfl⟩⟩
    unfold CoreSession.run
    rw [hrun]
    rfl

end BridgedSession

/-! ## The calls through one handle -/

/-- What the answer to a call tells: a result is written where there is a pointer for it, with the
status that is returned, and a hash only with the status ok. -/
def BridgeAnswer.Tells : BridgeCall → BridgeAnswer → Prop
  | .create, answer | .destroy, answer => answer = ⟨none, none, none⟩
  | .reset, answer | .loadRom _ _, answer => ∃ status, answer = .returns status
  | .run maxSteps result, answer =>
      if result then
        ∃ ran, answer = ⟨some ran.status, some ran, none⟩ ∧
          ran.executedSteps.toNat ≤ maxSteps.toNat
      else answer = .returns .invalidArgument
  | .stateHash outHash, answer =>
      outHash = true ∧ (∃ hash, answer = ⟨some .ok, none, some hash⟩) ∨
        ∃ status, status ≠ .ok ∧ answer = .returns status

namespace BridgeHandle

/-- What holds of a handle. -/
def Bridged (saves : Bool) : BridgeHandle → Prop
  | .live session => BridgedSession saves session
  | _ => True

/-- The calls to come use the handle as they may. -/
def Proper : BridgeHandle → List BridgeCall → Prop
  | .null, _ => True
  | .dead, calls => properCalls false calls = true
  | .live _, calls => properCalls true calls = true

variable {saves : Bool} {handle : BridgeHandle} {calls : List BridgeCall}

/-- A call that is proper is answered, and leaves the handle to the calls after it. -/
theorem call_answered {call : BridgeCall} (h : handle.Bridged saves)
    (hsaves : call.losesSave = true → saves = false) (hproper : handle.Proper (call :: calls)) :
    ∃ answer after, BridgeHandle.call call handle = some (answer, after) ∧ answer.Tells call ∧
      after.Bridged saves ∧ after.Proper calls := by
  -- a null handle answers by itself, and a dead one takes nothing but a creation
  cases call with
  | create =>
      cases handle with
      | null => exact ⟨_, _, rfl, rfl, trivial, trivial⟩
      | dead => exact ⟨_, _, rfl, rfl, .of_reached .initial, hproper⟩
      | live session => exact Bool.noConfusion hproper
  | destroy =>
      cases handle with
      | null => exact ⟨_, _, rfl, rfl, trivial, trivial⟩
      | dead => exact Bool.noConfusion hproper
      | live session => exact ⟨_, _, rfl, rfl, trivial, hproper⟩
  | reset =>
      cases handle with
      | null => exact ⟨_, _, rfl, ⟨_, rfl⟩, trivial, trivial⟩
      | dead => exact Bool.noConfusion hproper
      | live session => exact ⟨_, _, rfl, ⟨_, rfl⟩, BridgedSession.reset h, hproper⟩
  | loadRom bytes fault =>
      cases handle with
      | null => exact ⟨_, _, rfl, ⟨_, rfl⟩, trivial, trivial⟩
      | dead => exact Bool.noConfusion hproper
      | live session =>
          refine ⟨_, _, rfl, ⟨_, rfl⟩, BridgedSession.loadRom h bytes fun hfault => ?_, hproper⟩
          subst hfault
          exact hsaves rfl
  | run maxSteps result =>
      cases result with
      | false => exact ⟨_, handle, rfl, rfl, h, by cases handle <;> exact hproper⟩
      | true =>
          cases handle with
          | null => exact ⟨_, _, rfl, ⟨⟨.nullHandle, 0, 0, 0⟩, rfl, Nat.zero_le _⟩, trivial, trivial⟩
          | dead => exact Bool.noConfusion hproper
          | live session =>
              obtain ⟨ran, after, hrun, hafter, hexecuted, -⟩ := BridgedSession.run h maxSteps
              refine ⟨_, .live after, ?_, ⟨ran, rfl, hexecuted⟩, hafter, hproper⟩
              show (AndroidCoreBridge.run maxSteps session).map _ = _
              rw [hrun]
              rfl
  | stateHash outHash =>
      have hother (status : AndroidBridgeStatus) (hstatus : status ≠ .ok) :
          (BridgeAnswer.returns status).Tells (.stateHash outHash) := .inr ⟨status, hstatus, rfl⟩
      cases outHash with
      | false =>
          exact ⟨_, handle, rfl, hother _ AndroidBridgeStatus.noConfusion, h,
            by cases handle <;> exact hproper⟩
      | true =>
          cases handle with
          | null => exact ⟨_, _, rfl, hother _ AndroidBridgeStatus.noConfusion, trivial, trivial⟩
          | dead => exact Bool.noConfusion hproper
          | live session => exact ⟨_, _, rfl, .inl ⟨rfl, _, rfl⟩, h, hproper⟩

/-- Calls that are proper are answered. -/
theorem run_answered (h : handle.Bridged saves)
    (hsaves : ∀ call ∈ calls, call.losesSave = true → saves = false)
    (hproper : handle.Proper calls) :
    ∃ answers last, BridgeHandle.call.run calls handle = some (answers, last) ∧
      List.Forall₂ (fun call answer => BridgeAnswer.Tells call answer) calls answers ∧
      last.Bridged saves := by
  induction calls generalizing handle with
  | nil => exact ⟨[], handle, rfl, .nil, h⟩
  | cons call calls ih =>
      obtain ⟨answer, after, hcall, htells, hafter, hrest⟩ :=
        call_answered h (hsaves call List.mem_cons_self) hproper
      obtain ⟨answers, last, hrun, hall, hlast⟩ :=
        ih hafter (fun other hother => hsaves other (List.mem_cons_of_mem _ hother)) hrest
      refine ⟨answer :: answers, last, ?_, .cons htells hall, hlast⟩
      rw [Machine.run_cons, hcall, Option.bind_some]
      dsimp only
      rw [hrun]
      rfl

theorem start_bridged (saves : Bool) (index : Option Nat) : (start index).Bridged saves := by
  cases index <;> exact trivial

end BridgeHandle

/-! ## All calls -/

/-- Whatever the order in which threads call bridges, if the calls through each handle use it as they
may: every call is answered, a handle gives the answers that its own calls alone would be given, and
comes to the state that they alone would leave, and a session that no failed allocation of a save has
spoilt can be reached. That handles do not meet holds of any machine (`Machine.run_eventsOf`); the
answers, their form and the sessions are the bridge's own. -/
theorem bridges_isolated (calls : List (Option Nat × BridgeCall))
    (hproper : ∀ address, properCalls false (eventsOf (some address) calls) = true) :
    ∃ answers handles, BridgeHandle.call.many.run calls BridgeHandle.start =
        some (answers, handles) ∧
      ∀ index : Option Nat,
        BridgeHandle.call.run (eventsOf index calls) (BridgeHandle.start index) =
          some (eventsOf index answers, handles index) ∧
        List.Forall₂ (fun call answer => BridgeAnswer.Tells call answer) (eventsOf index calls)
          (eventsOf index answers) ∧
        (handles index).Bridged (!(eventsOf index calls).any BridgeCall.losesSave) := by
  have hown (index : Option Nat) := @BridgeHandle.run_answered
    (!(eventsOf index calls).any BridgeCall.losesSave) (BridgeHandle.start index)
    (eventsOf index calls) (BridgeHandle.start_bridged _ index)
    (fun call hcall hloses => by
      rw [Bool.not_eq_false', List.any_eq_true]
      exact ⟨call, hcall, hloses⟩)
    (match index with
      | none => trivial
      | some address => hproper address)
  obtain ⟨answers, handles, hrun⟩ := Machine.run_isSome fun index => by
    obtain ⟨own, last, hlast, -⟩ := hown index
    exact Option.isSome_iff_exists.mpr ⟨_, hlast⟩
  refine ⟨answers, handles, hrun, fun index => ?_⟩
  obtain ⟨own, last, hlast, htells, hbridged⟩ := hown index
  have hindex := Machine.run_eventsOf hrun index
  obtain ⟨rfl, rfl⟩ := Prod.mk.inj (Option.some.inj (hlast.symm.trans hindex))
  exact ⟨hindex, htells, hbridged⟩

/-- Two bridges that are run in turn, and a null pointer. -/
theorem bridges_isolated_two :
    let calls : List (Option Nat × BridgeCall) :=
      [(some 1, .create), (some 2, .create), (some 1, .run 3 true), (none, .reset),
        (some 2, .destroy), (some 1, .stateHash true)]
    ∃ answers handles, BridgeHandle.call.many.run calls BridgeHandle.start =
        some (answers, handles) ∧
      ∀ index : Option Nat,
        BridgeHandle.call.run (eventsOf index calls) (BridgeHandle.start index) =
          some (eventsOf index answers, handles index) ∧
        List.Forall₂ (fun call answer => BridgeAnswer.Tells call answer) (eventsOf index calls)
          (eventsOf index answers) ∧
        (handles index).Bridged (!(eventsOf index calls).any BridgeCall.losesSave) := by
  intro calls
  refine bridges_isolated calls fun address => ?_
  by_cases hfirst : address = 1
  · subst hfirst
    rfl
  by_cases hsecond : address = 2
  · subst hsecond
    rfl
  · have hnone : eventsOf (some address) calls = [] := by
      simp [calls, eventsOf, Ne.symm hfirst, Ne.symm hsecond]
    rw [hnone]
    rfl

end Gba.Core
