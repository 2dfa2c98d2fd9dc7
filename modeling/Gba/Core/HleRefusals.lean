import Gba.Core.HleStores

/-!
# Refused services of the emulated BIOS

What a software interrupt leaves behind that the emulated BIOS answers with `unsupported`. Services
write registers only when they succeed. Stores are not undone: a service that gives up at a later
element keeps the elements before it, and a copy and a wait keep the time that has passed.
-/

namespace Gba.Core

/-! ## Copying -/

namespace CpuSetCall

variable {α : Type} (call : CpuSetCall) (unit : CpuSetUnit α)

/-- Where a unit is stored. -/
def unitAddress (index : U32) : U32 := unit.storeAddress (call.dest + index * unit.size)

/-- The value of a unit; `fill` is what a fill has read at its first unit. -/
def unitValue (index : U32) (fill : Option α) (system : System) : Option α :=
  if call.control.getLsbD 24 then fill.or (unit.read system call.source)
  else unit.read system (call.source + index * unit.size)

/-- The session after the store of a unit, and whether the bus took it. -/
def storeUnit (index : U32) (value : α) (session : CoreSession) : Bool × CoreSession :=
  let stored := unit.store (call.unitAddress unit index) value session.system
  (stored.1, { session with system := stored.2 })

/-- A copy goes on after stores to the BIOS and to the cartridge, which nothing takes. -/
def Discards (index : U32) : Prop :=
  (classify (call.unitAddress unit index)).region = .bios ∨
    (classify (call.unitAddress unit index)).region = .gamePakRom

/-- The session after as many units, of which the bus has taken all that go to memory. After each
sixty-four units the devices have caught up with them. -/
inductive Copied (before : CoreSession) : Nat → Option α → CoreSession → Prop where
  | start : Copied before 0 none before
  | unit {index : Nat} {fill : Option α} {session next : CoreSession} {value : α}
      (hcopied : Copied before index fill session)
      (hvalue : call.unitValue unit (BitVec.ofNat 32 index) fill session.system = some value)
      (hstored : (call.storeUnit unit (BitVec.ofNat 32 index) value session).1 = true ∨
        call.Discards unit (BitVec.ofNat 32 index))
      (hnext :
        if (index + 1) % 64 = 0 then
          ((call.storeUnit unit (BitVec.ofNat 32 index) value session).2.advanceDevices
            (64 * call.perUnitCycles)).map Prod.snd = some next
        else next = (call.storeUnit unit (BitVec.ofNat 32 index) value session).2) :
      Copied before (index + 1) (if call.control.getLsbD 24 then some value else none) next

/-- A copy has stopped at one of its units, which could not be read or which the bus refused. -/
def UnitsStopped (before after : CoreSession) : Prop :=
  ∃ index < call.count.toNat, ∃ fill session, Copied call unit before index fill session ∧
    (call.unitValue unit (BitVec.ofNat 32 index) fill session.system = none ∧ after = session ∨
      ∃ value, call.unitValue unit (BitVec.ofNat 32 index) fill session.system = some value ∧
        ¬call.Discards unit (BitVec.ofNat 32 index) ∧
        call.storeUnit unit (BitVec.ofNat 32 index) value session = (false, after))

/-- The destination of a copy. -/
def destination : U32 → Prop :=
  if call.word then Within (call.dest &&& ~~~0x3#32) (call.count.toNat * 4)
  else Within call.dest (call.count.toNat * 2)

/-- A copy has stopped, at its destination. -/
def Stopped (before after : CoreSession) : Prop :=
  if call.word then
    call.UnitsStopped cpuSetWord before after ∧
      ∀ index : U32, index.toNat < call.count.toNat →
        call.destination (call.unitAddress cpuSetWord index)
  else
    call.UnitsStopped cpuSetHalfword before after ∧
      ∀ index : U32, index.toNat < call.count.toNat →
        call.destination (call.unitAddress cpuSetHalfword index)

variable {call unit}

/-- Copying leaves the processor alone. -/
theorem Copied.cpu {before session : CoreSession} {index : Nat} {fill : Option α}
    (h : Copied call unit before index fill session) : session.cpu = before.cpu := by
  induction h with
  | start => rfl
  | unit _ _ _ hnext ih =>
      split at hnext
      · obtain ⟨⟨result, passed⟩, hadvance, rfl⟩ := Option.map_eq_some_iff.mp hnext
        exact (CoreSession.advanceDevices_passed hadvance).cpu.trans ih
      · rw [hnext]
        exact ih

theorem UnitsStopped.cpu {before after : CoreSession} (h : call.UnitsStopped unit before after) :
    after.cpu = before.cpu := by
  obtain ⟨index, -, fill, session, hcopied, ⟨-, rfl⟩ | ⟨value, -, -, hstored⟩⟩ := h
  · exact hcopied.cpu
  · rw [← (Prod.mk.inj hstored).2]
    exact hcopied.cpu

theorem Stopped.cpu {before after : CoreSession} (h : call.Stopped before after) :
    after.cpu = before.cpu := by
  unfold Stopped at h
  split at h
  · exact h.1.cpu
  · exact h.1.cpu

/-- One unit more. -/
theorem advanceUnit_chunk {perUnitCycles : U32} {run : CpuSetRun} {index : Nat}
    (hpending : run.pendingUnits = BitVec.ofNat 32 (index % 64)) {next : CpuSetRun}
    (h : run.advanceUnit perUnitCycles = some next) :
    next.pendingUnits = BitVec.ofNat 32 ((index + 1) % 64) ∧
      if (index + 1) % 64 = 0 then
        (run.session.advanceDevices (64 * perUnitCycles)).map Prod.snd = some next.session
      else next.session = run.session := by
  have hcount : run.pendingUnits + 1 = BitVec.ofNat 32 (index % 64 + 1) := by
    rw [hpending]
    exact (BitVec.ofNat_add _ 1).symm
  unfold CpuSetRun.advanceUnit at h
  dsimp only at h
  rw [hcount] at h
  by_cases hfull : (index + 1) % 64 = 0
  · have hchunk : BitVec.ofNat 32 (index % 64 + 1) = kCpuSetChunkUnits := by
      rw [show index % 64 + 1 = 64 by omega]
      rfl
    rw [if_pos hchunk, hchunk] at h
    unfold CpuSetRun.settleChunk at h
    rw [if_neg (show kCpuSetChunkUnits ≠ 0 by decide)] at h
    obtain ⟨passed, hadvance, rfl⟩ := Option.map_eq_some_iff.mp h
    rw [if_pos hfull, hfull]
    refine ⟨rfl, ?_⟩
    exact congrArg (Option.map Prod.snd) hadvance
  · have hchunk : BitVec.ofNat 32 (index % 64 + 1) ≠ kCpuSetChunkUnits := by
      intro hchunk
      have hnat := congrArg BitVec.toNat hchunk
      rw [BitVec.toNat_ofNat, Nat.mod_eq_of_lt (by omega)] at hnat
      change index % 64 + 1 = 64 at hnat
      omega
    rw [if_neg hchunk] at h
    obtain rfl := Option.some.inj h
    rw [if_neg hfull, show (index + 1) % 64 = index % 64 + 1 by omega]
    exact ⟨rfl, rfl⟩

theorem copyUnits_stopped {before : CoreSession} {count index : Nat} {fill : Option α}
    {run : CpuSetRun} (htotal : index + count = call.count.toNat)
    (hcopied : Copied call unit before index fill run.session)
    (hpending : run.pendingUnits = BitVec.ofNat 32 (index % 64)) {next : CpuSetRun}
    (h : copyUnits call unit count (BitVec.ofNat 32 index) fill run = some (false, next)) :
    call.UnitsStopped unit before next.session := by
  induction count generalizing index fill run with
  | zero =>
      obtain ⟨settled, -, hsettled⟩ := Option.map_eq_some_iff.mp h
      exact Bool.noConfusion (Prod.mk.inj hsettled).1
  | succ count ih =>
      unfold copyUnits at h
      dsimp only at h
      split at h
      · next hvalue =>
          obtain ⟨-, rfl⟩ := Prod.mk.inj (Option.some.inj h)
          exact ⟨index, by omega, fill, run.session, hcopied, Or.inl ⟨hvalue, rfl⟩⟩
      next value hvalue =>
        have hindex : BitVec.ofNat 32 index + 1 = BitVec.ofNat 32 (index + 1) :=
          (BitVec.ofNat_add index 1).symm
        split at h
        · next hrefused =>
            obtain ⟨-, rfl⟩ := Prod.mk.inj (Option.some.inj h)
            simp only [Bool.and_eq_true, Bool.not_eq_true', decide_eq_true_eq] at hrefused
            exact ⟨index, by omega, fill, run.session, hcopied,
              Or.inr ⟨value, hvalue, not_or.mpr ⟨hrefused.1.2, hrefused.2⟩,
                Prod.ext hrefused.1.1 rfl⟩⟩
        · next haccepted =>
            obtain ⟨advanced, hadvanced, h⟩ := Option.bind_eq_some_iff.mp h
            obtain ⟨hpending', hpassed⟩ := @advanceUnit_chunk call.perUnitCycles
              { run with
                session := (call.storeUnit unit (BitVec.ofNat 32 index) value run.session).2 }
              index hpending advanced hadvanced
            rw [hindex] at h
            refine ih (by omega) (.unit hcopied hvalue ?_ hpassed) hpending' h
            by_contra hlost
            obtain ⟨hstored, hregion⟩ := not_or.mp hlost
            obtain ⟨hbios, hrom⟩ := not_or.mp hregion
            refine haccepted ?_
            simp only [Bool.and_eq_true, Bool.not_eq_true', decide_eq_true_eq]
            exact ⟨⟨Bool.not_eq_true _ ▸ hstored, hbios⟩, hrom⟩

theorem word_inside {call : CpuSetCall} {index : U32}
    (h : index.toNat < call.count.toNat) :
    Within (call.dest &&& ~~~0x3#32) (call.count.toNat * 4)
      (cpuSetWord.storeAddress (call.dest + index * cpuSetWord.size)) := by
  have hclear (address : U32) : (address &&& ~~~0x3#32).toNat = address.toNat / 4 * 4 :=
    @clearLow_toNat address 2 (by decide)
  have hdest := hclear call.dest
  have hlast := hclear (call.dest + index * 4)
  show Within _ _ (if (classify (call.dest + index * 4)).region = .gamePakSave then
    call.dest + index * 4 else (call.dest + index * 4) &&& ~~~0x3#32)
  unfold Within
  split
  · generalize call.dest &&& ~~~0x3#32 = start at *
    bv_omega
  · generalize call.dest &&& ~~~0x3#32 = start at *
    generalize (call.dest + index * 4) &&& ~~~0x3#32 = address at *
    bv_omega

theorem halfword_inside {call : CpuSetCall} {index : U32}
    (h : index.toNat < call.count.toNat) :
    Within call.dest (call.count.toNat * 2)
      (cpuSetHalfword.storeAddress (call.dest + index * cpuSetHalfword.size)) := by
  refine within_of_offset (lt_of_le_of_lt (toNat_mul_le index 2) ?_)
  exact Nat.mul_lt_mul_of_pos_right h (by decide)

/-- A copy that gives up has stopped at one of its units. -/
theorem hleCpuSet_stopped {session : CoreSession} {result : Option U32 × CoreSession}
    (h : hleCpuSet call session = some result) (hrefused : result.1 = none) :
    call.Stopped session result.2 := by
  unfold hleCpuSet at h
  split at h
  · obtain rfl := Option.some.inj h
    contradiction
  obtain ⟨⟨copied, run⟩, hcopy, rfl⟩ := Option.map_eq_some_iff.mp h
  cases copied with
  | true => contradiction
  | false =>
      unfold Stopped destination
      split at hcopy
      · next hword =>
          simp only [if_pos hword]
          exact ⟨copyUnits_stopped (Nat.zero_add _) (by exact .start) rfl hcopy,
            fun _ => word_inside⟩
      · next hword =>
          simp only [if_neg hword]
          exact ⟨copyUnits_stopped (Nat.zero_add _) (by exact .start) rfl hcopy,
            fun _ => halfword_inside⟩

end CpuSetCall

/-! ## Waiting -/

/-- The session after so many cycles of a wait, in which no watched interrupt was requested. -/
inductive Waited (mask : U16) (before : CoreSession) : Nat → CoreSession → Prop where
  | start : Waited mask before 0 before
  | batch {total : Nat} {cycles : U32} {session next : CoreSession} {result : CoreDeviceTickResult}
      (hwaited : Waited mask before total session) (hover : session.waitOver mask = false)
      (hadvance : session.advanceDevices cycles = some (result, next)) :
      Waited mask before (total + cycles.toNat) next

/-- A wait that watches nothing, or that has lasted as long as a wait may without a watched
interrupt, which is acknowledged before it where the call asks for that. -/
def WaitExpired (mask : U16) (discardOldFlags : Bool) (before after : CoreSession) : Prop :=
  mask = 0 ∧ after = before ∨
    Waited mask (if discardOldFlags then before.discardFlags mask else before)
      kMaxBiosWaitCycles.toNat after ∧ after.waitOver mask = false

theorem Waited.cpu {mask : U16} {before after : CoreSession} {total : Nat}
    (h : Waited mask before total after) : after.cpu = before.cpu := by
  induction h with
  | start => rfl
  | batch _ _ hadvance ih => exact (CoreSession.advanceDevices_passed hadvance).cpu.trans ih

theorem WaitExpired.cpu {mask : U16} {discardOldFlags : Bool} {before after : CoreSession}
    (h : WaitExpired mask discardOldFlags before after) : after.cpu = before.cpu := by
  rcases h with ⟨-, rfl⟩ | ⟨hwaited, -⟩
  · rfl
  · refine hwaited.cpu.trans ?_
    split <;> rfl

theorem minWord_toNat (left right : U32) :
    (minWord left right).toNat = min left.toNat right.toNat := by
  unfold minWord
  split
  · next h => exact (Nat.min_eq_right (BitVec.lt_def.mp h).le).symm
  · next h => exact (Nat.min_eq_left (BitVec.le_def.mp (BitVec.not_lt.mp h))).symm

theorem intrWaitBatchCycles_pos (devices : Devices) (mask : U16) :
    0 < (intrWaitBatchCycles devices mask).toNat := by
  unfold intrWaitBatchCycles
  dsimp only
  split
  · decide
  · next h =>
      rw [minWord_toNat]
      have hone := BitVec.le_def.mp (BitVec.not_lt.mp h)
      exact lt_min hone (by decide)

theorem waitLoop_expired {mask : U16} {passes : Nat} {cycles : U32} {before session : CoreSession}
    (hcycles : cycles.toNat ≤ kMaxBiosWaitCycles.toNat)
    (hpasses : kMaxBiosWaitCycles.toNat ≤ passes + cycles.toNat)
    (hwaited : Waited mask before cycles.toNat session) {next : CoreSession}
    (h : CoreSession.waitLoop intrWaitBatchCycles mask passes cycles session =
      some (false, next)) :
    Waited mask before kMaxBiosWaitCycles.toNat next ∧ next.waitOver mask = false := by
  induction passes generalizing cycles session with
  | zero =>
      obtain ⟨hover, rfl⟩ := Prod.mk.inj (Option.some.inj h)
      rw [if_neg (by rw [hover]; decide)]
      have htotal : cycles.toNat = kMaxBiosWaitCycles.toNat := by omega
      exact ⟨htotal ▸ hwaited, hover⟩
  | succ passes ih =>
      unfold CoreSession.waitLoop at h
      dsimp only at h
      split at h
      · exact absurd (Prod.mk.inj (Option.some.inj h)).1 (by decide)
      next hover =>
      split at h
      · next hlong =>
          obtain ⟨-, rfl⟩ := Prod.mk.inj (Option.some.inj h)
          have htotal := hcycles.antisymm (BitVec.le_def.mp hlong)
          exact ⟨htotal ▸ hwaited, Bool.not_eq_true _ ▸ hover⟩
      next hshort =>
        obtain ⟨⟨result, passed⟩, hadvance, h⟩ := Option.bind_eq_some_iff.mp h
        have hlt := BitVec.lt_def.mp (BitVec.not_le.mp hshort)
        have hleft : (kMaxBiosWaitCycles - cycles).toNat =
            kMaxBiosWaitCycles.toNat - cycles.toNat := BitVec.toNat_sub_of_le hlt.le
        have hpositive := intrWaitBatchCycles_pos session.system.devices mask
        have hbatch := minWord_toNat (intrWaitBatchCycles session.system.devices mask)
          (kMaxBiosWaitCycles - cycles)
        generalize minWord _ _ = batch at hbatch hadvance h
        have hmax : kMaxBiosWaitCycles.toNat = 561792 := rfl
        have hsum : (cycles + batch).toNat = cycles.toNat + batch.toNat :=
          BitVec.toNat_add_of_lt (by omega)
        refine ih (by omega) (by omega) ?_ h
        rw [hsum]
        exact .batch hwaited (Bool.not_eq_true _ ▸ hover) hadvance

/-! ## Refused calls -/

/-- Only memory has changed, with the devices behind it. -/
def SystemOnly (changed : System → System → Prop) (before after : CoreSession) : Prop :=
  after = { before with system := after.system } ∧ changed before.system after.system

/-- What a refused service has done. -/
def RefusedService (service : U8) (before after : CoreSession) : Prop :=
  let cpu := before.cpu
  let system := before.system
  let source := cpu.registers 0
  match service.toNat with
  | 0x02 => WaitExpired system.devices.interrupts.interruptEnable false before after
  | 0x04 =>
      WaitExpired ((cpu.registers 1).setWidth 16) (cpu.registers 0 ≠ 0) before after
  | 0x05 => WaitExpired 0x0001#16 true before after
  | 0x0B => (CpuSetCall.ofRegisters false cpu).Stopped before after
  | 0x0C => (CpuSetCall.ofRegisters true cpu).Stopped before after
  | 0x0E => SystemOnly (BgAffineStopped cpu) before after
  | 0x0F => SystemOnly (ObjAffineStopped cpu) before after
  | 0x10 => SystemOnly (BitUnpackStopped cpu) before after
  | 0x11 =>
      SystemOnly (DecompressionStopped byteStores
        (lz77Output system source (cpu.registers 1) false) cpu) before after
  | 0x12 =>
      SystemOnly (DecompressionStopped halfwordStores
        (lz77Output system source (cpu.registers 1 &&& ~~~1#32) true) cpu) before after
  | 0x13 =>
      SystemOnly (DecompressionStopped byteStores
        (hleRleDecompressFromSource 0x30#8 source system) cpu) before after
  | 0x14 =>
      SystemOnly (DecompressionStopped halfwordStores
        (hleRleDecompressFromSource 0x30#8 source system) cpu) before after
  | 0x15 =>
      SystemOnly (DecompressionStopped byteStores
        (hleDiff8DecompressFromSource 0x21#8 source system) cpu) before after
  | 0x16 =>
      SystemOnly (DecompressionStopped halfwordStores
        (hleDiff8DecompressFromSource 0x21#8 source system) cpu) before after
  | 0x17 =>
      SystemOnly (DecompressionStopped halfwordStores
        (hleDiff16DecompressFromSource 0x22#8 source system) cpu) before after
  | _ => after = before

theorem SystemOnly.cpu {changed : System → System → Prop} {before after : CoreSession}
    (h : SystemOnly changed before after) : after.cpu = before.cpu := by
  rw [h.1]

theorem RefusedService.cpu {service : U8} {before after : CoreSession}
    (h : RefusedService service before after) : after.cpu = before.cpu := by
  unfold RefusedService at h
  dsimp only at h
  split at h
  case h_1 | h_2 | h_3 => exact WaitExpired.cpu h
  case h_4 | h_5 => exact CpuSetCall.Stopped.cpu h
  case h_16 => exact congrArg CoreSession.cpu h
  all_goals exact SystemOnly.cpu h

namespace CoreSession

theorem servedIf_refused {changed : System → System → Prop} {session : CoreSession} {cycles : U32}
    {profile : HleSwiProfileKind} {stored : Bool × System}
    (hchanged : stored.1 = false → changed session.system stored.2)
    (h : (session.servedIf cycles profile stored).1 = none) :
    SystemOnly changed session (session.servedIf cycles profile stored).2 := by
  obtain ⟨status, system⟩ := stored
  cases status with
  | true => exact absurd h (by unfold servedIf; simp)
  | false => exact ⟨rfl, hchanged rfl⟩

theorem servedAfterWait_refused {session : CoreSession} {mask : U16} {discardOldFlags : Bool}
    {cycles : CoreSession → U32} {outcome : HleOutcome}
    (h : session.servedAfterWait mask discardOldFlags cycles = some outcome)
    (hrefused : outcome.1 = none) : WaitExpired mask discardOldFlags session outcome.2 := by
  obtain ⟨⟨matched, waited⟩, hwait, rfl⟩ := Option.map_eq_some_iff.mp h
  cases matched with
  | true => exact absurd hrefused (by simp)
  | false =>
      unfold waitForInterruptMask at hwait
      split at hwait
      · next hmask =>
          obtain ⟨-, rfl⟩ := Prod.mk.inj (Option.some.inj hwait)
          exact Or.inl ⟨hmask, rfl⟩
      · exact Or.inr (waitLoop_expired (Nat.zero_le _) (Nat.le_add_right _ _) .start hwait)

theorem servedCopy_refused {session : CoreSession} {fast : Bool} {outcome : HleOutcome}
    (h : session.servedCopy fast = some outcome) (hrefused : outcome.1 = none) :
    (CpuSetCall.ofRegisters fast session.cpu).Stopped session outcome.2 := by
  obtain ⟨result, hcopy, rfl⟩ := Option.map_eq_some_iff.mp h
  exact CpuSetCall.hleCpuSet_stopped hcopy (Option.map_eq_none_iff.mp hrefused)

/-- A refused LZ77 service has done what its writes have done. -/
theorem servedLz77_refused {session : CoreSession} {written : Bool × System}
    {result : Bool × CoreSession} {changed : System → System → Prop}
    (hresult : result.1 = false →
      written.1 = false ∧ result.2 = { session with system := written.2 })
    (hchanged : written.1 = false → changed session.system written.2)
    (h : (servedLz77 result).1 = none) : SystemOnly changed session (servedLz77 result).2 := by
  obtain ⟨status, after⟩ := result
  cases status with
  | true => exact absurd h (Option.some_ne_none _)
  | false =>
      obtain ⟨hwritten, hafter⟩ := hresult rfl
      unfold servedLz77
      dsimp only at hafter ⊢
      rw [hafter]
      exact ⟨rfl, hchanged hwritten⟩

/-- An LZ77 service that refuses has decompressed nothing, or a write has refused. -/
theorem lz77_refused {session : CoreSession} {decompressed : Option Lz77State}
    {write : List U8 → U32 → System → Bool × System} {result : Bool × CoreSession}
    (hnone : decompressed = none → result = (false, session))
    (hsome : ∀ state, decompressed = some state →
      let stored := write state.output (session.cpu.registers 1) session.system
      result.1 = stored.1 ∧ (stored.1 = false → result.2 = { session with system := stored.2 }))
    (h : result.1 = false) :
    let written := writeDecompressed write (decompressed.map Lz77State.output) session.cpu
      session.system
    written.1 = false ∧ result.2 = { session with system := written.2 } := by
  cases decompressed with
  | none =>
      rw [hnone rfl]
      exact ⟨rfl, rfl⟩
  | some state =>
      obtain ⟨hstatus, hafter⟩ := hsome state rfl
      have hstored := hstatus.symm.trans h
      exact ⟨hstored, hafter hstored⟩

theorem hleLz77UncompWram_refused {session : CoreSession}
    (h : session.hleLz77UncompWram.1 = false) :
    let written := writeDecompressed hleWriteDecompressedWram
      (lz77Output session.system (session.cpu.registers 0) (session.cpu.registers 1) false)
      session.cpu session.system
    written.1 = false ∧ session.hleLz77UncompWram.2 = { session with system := written.2 } := by
  refine lz77_refused (fun hnone => ?_) (fun state hstate => ?_) h
  · unfold hleLz77UncompWram
    dsimp only
    rw [hnone]
  · unfold hleLz77UncompWram
    dsimp only
    rw [hstate, ← lz77WriteWram_stores state.output (session.cpu.registers 1) state.cycles]
    dsimp only
    split
    · next hstored => exact ⟨by rw [hstored], fun _ => by rw [hstored]⟩
    · next hstored => exact ⟨by rw [hstored], fun h => by rw [hstored] at h; contradiction⟩

theorem hleLz77UncompVram_refused {session : CoreSession}
    (h : session.hleLz77UncompVram.1 = false) :
    let written := writeDecompressed hleWriteDecompressedVram
      (lz77Output session.system (session.cpu.registers 0)
        (session.cpu.registers 1 &&& ~~~1#32) true) session.cpu session.system
    written.1 = false ∧ session.hleLz77UncompVram.2 = { session with system := written.2 } := by
  refine lz77_refused (fun hnone => ?_) (fun state hstate => ?_) h
  · unfold hleLz77UncompVram
    dsimp only
    rw [hnone]
  · unfold hleLz77UncompVram
    dsimp only
    rw [hstate]
    dsimp only
    split
    · next hstored => exact ⟨by rw [hstored], fun _ => by rw [hstored]⟩
    · next hstored => exact ⟨by rw [hstored], fun h => by rw [hstored] at h; contradiction⟩

theorem hleService_refused {service : U8} {session : CoreSession} {outcome : HleOutcome}
    (h : session.hleService service = some outcome) (hrefused : outcome.1 = none) :
    RefusedService service session outcome.2 := by
  unfold hleService at h
  dsimp only at h
  unfold RefusedService
  split at h
  case h_1 | h_5 | h_6 | h_7 | h_8 | h_9 =>
    obtain rfl := Option.some.inj h
    exact absurd hrefused (Option.some_ne_none _)
  case h_2 | h_3 | h_4 =>
    next heq =>
      rw [heq]
      exact servedAfterWait_refused h hrefused
  case h_10 | h_11 =>
    next heq =>
      rw [heq]
      exact servedCopy_refused h hrefused
  case h_22 =>
    obtain rfl := Option.some.inj h
    dsimp only
    split
    all_goals first | rfl | contradiction
  all_goals
    next heq =>
      rw [heq]
      obtain rfl := Option.some.inj h
      first
      | exact servedIf_refused hleBgAffineSet_stopped hrefused
      | exact servedIf_refused hleObjAffineSet_stopped hrefused
      | exact servedIf_refused hleBitUnpack_stopped hrefused
      | exact servedLz77_refused hleLz77UncompWram_refused
          (writtenWram_stopped (lz77Output_sized _ _ _ _)) hrefused
      | exact servedLz77_refused hleLz77UncompVram_refused
          (writtenVram_stopped (lz77Output_sized _ _ _ _)) hrefused
      | exact servedIf_refused (writtenWram_stopped (hleRleDecompressFromSource_sized _ _ _))
          hrefused
      | exact servedIf_refused (writtenVram_stopped (hleRleDecompressFromSource_sized _ _ _))
          hrefused
      | exact servedIf_refused (writtenWram_stopped (hleDiff8DecompressFromSource_sized _ _ _))
          hrefused
      | exact servedIf_refused (writtenVram_stopped (hleDiff8DecompressFromSource_sized _ _ _))
          hrefused
      | exact servedIf_refused (writtenVram_stopped (hleDiff16DecompressFromSource_sized _ _ _))
          hrefused

theorem executeHleSwi_refused {call : BiosSwiCall} {fetchAddress : U32}
    {session next : CoreSession} {result : ArmStepResult}
    (h : executeHleSwi call fetchAddress session = some (result, next))
    (hstatus : result.status = .unsupported) :
    next = session ∨ RefusedService call.service session next := by
  unfold executeHleSwi at h
  split at h
  · obtain ⟨outcome, houtcome, hresult⟩ := Option.map_eq_some_iff.mp h
    obtain ⟨rfl, rfl⟩ := Prod.mk.inj hresult
    refine Or.inr (hleService_refused houtcome ?_)
    unfold hleResult at hstatus
    cases hserved : outcome.1 with
    | none => rfl
    | some served =>
        simp only [hserved] at hstatus
        exact ExecuteStatus.noConfusion hstatus
  · obtain ⟨-, rfl⟩ := Prod.mk.inj (Option.some.inj h)
    exact Or.inl rfl

end CoreSession

/-! ## Refusals keep the processor -/

/-- An instruction or a service that is refused leaves the processor as it was. Memory is as it was
for every instruction that stores at most once, but that a store may end a command sequence of a
flash chip; block stores, word swaps and services keep what they had stored before the refusal. -/
theorem refused_keeps {σ : Type} (callbacks : MemoryBusIoCallbacks σ) (cpu : Arm7tdmi)
    (bus : BusState σ) (hmode : cpu.mode ∈ CpuMode.named) :
    (∀ instruction,
      let execution := Arm7tdmi.executeArmMemory callbacks instruction cpu bus
      execution.status = .unsupported →
        execution.cpu = cpu ∧
          (execution.bus = bus ∨
            BusStore.Kept callbacks (cpu.armStores instruction) bus execution.bus) ∧
          (canDecodeSwap instruction = false → canDecodeBlockDataTransfer instruction = false →
            BusState.Untouched bus execution.bus)) ∧
    (∀ instruction,
      let execution := Arm7tdmi.executeThumbMemory callbacks instruction cpu bus
      execution.status = .unsupported →
        execution.cpu = cpu ∧
          (execution.bus = bus ∨
            BusStore.Kept callbacks (cpu.thumbStores instruction) bus execution.bus) ∧
          (canDecodeThumbBlockTransfer instruction = false →
            canDecodeThumbStackTransfer instruction = false →
            BusState.Untouched bus execution.bus)) ∧
    ∀ call fetchAddress (session next : CoreSession) result,
      session.executeHleSwi call fetchAddress = some (result, next) →
        result.status = .unsupported →
        next.cpu = session.cpu ∧ (next = session ∨ RefusedService call.service session next) := by
  refine ⟨fun instruction hstatus => ?_, fun instruction hstatus => ?_, ?_⟩
  · obtain ⟨hcpu, hbus⟩ := Arm7tdmi.RefusedAfter.executeArmMemory hmode instruction hstatus
    refine ⟨hcpu, hbus, fun hswap hblock => ?_⟩
    rcases hbus with hsame | hkept
    · exact Or.inl hsame
    · exact hkept.untouched (Arm7tdmi.armStores_whole hswap hblock)
  · obtain ⟨hcpu, hbus⟩ := Arm7tdmi.RefusedAfter.executeThumbMemory hmode instruction hstatus
    refine ⟨hcpu, hbus, fun hblock hstack => ?_⟩
    rcases hbus with hsame | hkept
    · exact Or.inl hsame
    · exact hkept.untouched (Arm7tdmi.thumbStores_whole hblock hstack)
  · intro call fetchAddress session next result hcall hstatus
    have hservice := CoreSession.executeHleSwi_refused hcall hstatus
    refine ⟨?_, hservice⟩
    rcases hservice with rfl | hrefused
    · rfl
    · exact hrefused.cpu

/-- `stmia r0, {r1, r2}`. -/
def storePair : U32 := 0xE8800006#32

/-- A processor that stores from the last word of the object memory on. -/
def pairAtEnd : Arm7tdmi :=
  (Arm7tdmi.reset.setRegister 0 0x07FFFFFC#32).setRegister 1 0xFF#32

/-- A bus without a cartridge. -/
def emptyBus : BusState Unit := ⟨MemoryBus.initial, ()⟩

/-- No device answers. -/
def noCallbacks : MemoryBusIoCallbacks Unit := ⟨none, none, none, none⟩

/-- Two matrices for the background, of which the second one has nowhere to go. -/
def affineAtEnd : CoreSession where
  cpu :=
    ((Arm7tdmi.reset.setRegister 0 0x02000000#32).setRegister 1 0x07FFFFF0#32).setRegister 2 2
  system := ⟨{ MemoryBus.initial with ewram := fun _ => 0x11 }, .reset⟩
  bios := ⟨.hle⟩
  scheduler := .reset
  stateGeneration := 0

/-- The store of the first word is kept, and so is the first matrix. -/
theorem refused_keeps_pair :
    let execution := Arm7tdmi.executeArmMemory noCallbacks storePair pairAtEnd emptyBus
    (execution.status = .unsupported ∧ execution.cpu = pairAtEnd ∧
      BusStore.Kept noCallbacks (pairAtEnd.armStores storePair) emptyBus execution.bus) ∧
    ∃ result next,
      affineAtEnd.executeHleSwi ⟨.thumb, 0x0E⟩ 0x08000000#32 = some (result, next) ∧
        result.status = .unsupported ∧ next.cpu = affineAtEnd.cpu ∧
        next.system.memory.oam ⟨0x3F0, by decide⟩ = 0x9A ∧
        Stopped (indexed (bgAffineStores 0x02000000#32 0x07FFFFF0#32))
          (Within 0x07FFFFF0#32 32) 2 0 affineAtEnd.system next.system := by
  have hmode : pairAtEnd.mode ∈ CpuMode.named := by decide
  obtain ⟨harm, -, hservice⟩ := refused_keeps noCallbacks pairAtEnd emptyBus hmode
  have hstatus : (Arm7tdmi.executeArmMemory noCallbacks storePair pairAtEnd emptyBus).status =
      .unsupported := by decide
  have hword : (Arm7tdmi.executeArmMemory noCallbacks storePair pairAtEnd emptyBus).bus.memory.oam
      ⟨0x3FC, by decide⟩ = 0xFF := by decide
  refine ⟨⟨hstatus, (harm storePair hstatus).1, ?_⟩, ?_⟩
  · refine (harm storePair hstatus).2.1.resolve_left fun hsame => ?_
    rw [hsame] at hword
    exact absurd hword (by decide)
  · have hanswer : (affineAtEnd.executeHleSwi ⟨.thumb, 0x0E⟩ 0x08000000#32).map (fun answer =>
        (answer.1.status, answer.2.system.memory.oam ⟨0x3F0, by decide⟩)) =
          some (.unsupported, 0x9A) := by decide +kernel
    obtain ⟨⟨result, next⟩, hcall, hvalues⟩ := Option.map_eq_some_iff.mp hanswer
    obtain ⟨hrefused, hoam⟩ := Prod.mk.inj hvalues
    obtain ⟨hcpu, hsame | hstopped⟩ := hservice _ _ _ _ _ hcall hrefused
    · have hempty : affineAtEnd.system.memory.oam ⟨0x3F0, by decide⟩ ≠ 0x9A := by decide
      rw [hsame] at hoam
      exact absurd hoam hempty
    · have haffine : BgAffineStopped affineAtEnd.cpu affineAtEnd.system next.system := hstopped.2
      exact ⟨result, next, hcall, hrefused, hcpu, hoam, haffine.resolve_left fun h =>
        absurd h.1 (by decide)⟩

/-- The second word has nowhere to go, and the first one stays. -/
theorem not_atomic_pair :
    (Arm7tdmi.executeArmMemory noCallbacks storePair pairAtEnd emptyBus).status = .unsupported ∧
      (Arm7tdmi.executeArmMemory noCallbacks storePair pairAtEnd emptyBus).bus.memory.oam
          ⟨0x3FC, by decide⟩ ≠ emptyBus.memory.oam ⟨0x3FC, by decide⟩ := by
  decide

end Gba.Core
