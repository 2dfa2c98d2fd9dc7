import Gba.Core.SessionEffects

/-!
# What a service of the emulated BIOS does

Every service returns from live devices, whatever its arguments: its loops end, no table is left and
nothing is divided by zero. What it does to the session is a sequence of the effects that
instructions and device time have.
-/

namespace Gba.Core

open Gba.Library

/-! ## Services that store -/

namespace BusEffects

theorem hleBgAffineSet (cpu : Arm7tdmi) (system : System) :
    BusEffects system (hleBgAffineSet cpu system).2 := by
  unfold Core.hleBgAffineSet
  dsimp only
  split
  · exact .refl
  refine forUnits (fun index system => ?_) _ _ _
  unfold bgAffineUnit
  dsimp only
  split
  · exact .refl
  · refine storeAll (fun store hstore system => ?_) _
    simp only [List.mem_cons, List.not_mem_nil, or_false] at hstore
    rcases hstore with rfl | rfl | rfl | rfl | rfl | rfl
    iterate 4 exact storeHalfword _ _ _
    · exact storeWord _ _ _
    · exact storeWord _ _ _

theorem hleObjAffineSet (cpu : Arm7tdmi) (system : System) :
    BusEffects system (hleObjAffineSet cpu system).2 := by
  unfold Core.hleObjAffineSet
  dsimp only
  split
  · exact .refl
  refine forUnits (fun index system => ?_) _ _ _
  unfold objAffineUnit
  dsimp only
  split
  · refine storeAll (fun store hstore system => ?_) _
    simp only [List.mem_cons, List.not_mem_nil, or_false] at hstore
    rcases hstore with rfl | rfl | rfl | rfl
    all_goals exact storeHalfword _ _ _
  · exact .refl

theorem hleWriteDecompressedWram (output : List U8) (address : U32) (system : System) :
    BusEffects system (hleWriteDecompressedWram output address system).2 := by
  induction output generalizing address system with
  | nil => exact .refl
  | cons value rest ih => exact andThen (.one (.store8 address value)) fun middle => ih _ middle

theorem hleWriteDecompressedVram (output : List U8) (address : U32) (system : System) :
    BusEffects system (hleWriteDecompressedVram output address system).2 := by
  induction output using List.twoStepInduction generalizing address system with
  | nil => exact .refl
  | singleton low => exact .one (.store16 address _)
  | cons_cons low high rest ih =>
      exact andThen (.one (.store16 address _)) fun middle => ih _ middle

theorem writeDecompressed {write : List U8 → U32 → System → Bool × System}
    (h : ∀ output address system, BusEffects system (write output address system).2)
    (output : Option (List U8)) (cpu : Arm7tdmi) (system : System) :
    BusEffects system (writeDecompressed write output cpu system).2 := by
  cases output with
  | none => exact .refl
  | some output => exact h output _ system

theorem lz77WriteWram (output : List U8) (address : U32) (cycles : U64) (system : System) :
    BusEffects system (lz77WriteWram output address cycles system).2.2 := by
  induction output generalizing address cycles system with
  | nil => exact .refl
  | cons value rest ih =>
      have hstore : BusEffects system (system.write8 ioCallbacks address value).2 :=
        .one (.store8 address value)
      unfold Core.lz77WriteWram
      dsimp only
      split
      · exact hstore.trans (ih _ _ _)
      · exact hstore

theorem unpackUnits (info : BitUnpackInfo) {store : U32 → U32 → System → Bool × System}
    (h : ∀ index value system, BusEffects system (store index value system).2) (count : Nat)
    (index : U32) (reader : BitReader) (system : System) :
    BusEffects system (unpackUnits info store count index reader system).2 := by
  induction count generalizing index reader system with
  | zero => exact .refl
  | succ count ih =>
      unfold Core.unpackUnits
      split
      · exact .refl
      · exact andThen (h _ _ _) fun middle => ih _ _ middle

theorem unpackPacked (info : BitUnpackInfo) (dest : U32) (count : Nat) (packed : PackedByte)
    (reader : BitReader) (system : System) :
    BusEffects system (unpackPacked info dest count packed reader system).2 := by
  induction count generalizing packed reader system with
  | zero =>
      unfold Core.unpackPacked
      split
      · exact .refl
      · exact .one (.store8 _ _)
  | succ count ih =>
      unfold Core.unpackPacked
      split
      · exact .refl
      dsimp only
      split
      · exact andThen (.one (.store8 _ _)) fun middle => ih _ _ middle
      · exact ih _ _ _

theorem hleBitUnpack (cpu : Arm7tdmi) (system : System) :
    BusEffects system (hleBitUnpack cpu system).2 := by
  unfold Core.hleBitUnpack
  dsimp only
  split
  · exact .refl
  split
  · exact .refl
  split
  · exact .refl
  split
  · exact unpackUnits _ (fun _ _ _ => .one (.store8 _ _)) _ _ _ _
  split
  · exact unpackUnits _ (fun _ _ _ => storeHalfword _ _ _) _ _ _ _
  split
  · exact unpackUnits _ (fun _ _ _ => storeWord _ _ _) _ _ _ _
  · exact unpackPacked _ _ _ _ _ _

end BusEffects

namespace SessionEffects

variable {charges : Prop}

/-! ## Copying -/

theorem settleChunk (perUnitCycles : U32) (run : CpuSetRun)
    (h : run.session.system.devices.Live) :
    Ensures (run.settleChunk perUnitCycles) fun settled =>
      SessionEffects charges run.session settled.session := by
  unfold CpuSetRun.settleChunk
  refine .ite (fun _ => .ret .refl) fun _ => ?_
  exact (advance charges run.session h _).map fun _ hadvanced => hadvanced

variable (charges) in
theorem advanceUnit (perUnitCycles : U32) (run : CpuSetRun)
    (h : run.session.system.devices.Live) :
    Ensures (run.advanceUnit perUnitCycles) fun advanced =>
      SessionEffects charges run.session advanced.session := by
  unfold CpuSetRun.advanceUnit
  exact .ite (fun _ => settleChunk perUnitCycles _ h) fun _ => .ret .refl

theorem copyUnits {α : Type} (call : CpuSetCall) (unit : CpuSetUnit α)
    (hstore : ∀ address value system, BusEffects system (unit.store address value system).2)
    (count : Nat) (index : U32) (fillValue : Option α) (run : CpuSetRun)
    (h : run.session.system.devices.Live) :
    Ensures (copyUnits call unit count index fillValue run) fun copied =>
      SessionEffects charges run.session copied.2.session := by
  induction count generalizing index fillValue run with
  | zero => exact (settleChunk _ run h).map fun _ hsettled => hsettled
  | succ count ih =>
      unfold Core.copyUnits
      dsimp only
      split
      · exact .ret .refl
      next value _ =>
      generalize hnext : ({ run with
        session := { run.session with
          system := (unit.store (unit.storeAddress (call.dest + index * unit.size)) value
            run.session.system).2 } } : CpuSetRun) = next
      have hstored : SessionEffects charges run.session next.session := by
        rw [← hnext]
        exact ofBus run.session (hstore _ _ _)
      refine .ite (fun _ => .ret hstored) fun _ => ?_
      refine (advanceUnit charges _ next (hstored.live h)).bind fun advanced hadvanced => ?_
      have hboth : SessionEffects charges run.session advanced.session := hstored.trans hadvanced
      exact (ih _ _ advanced (hboth.live h)).conseq fun copied hcopied => hboth.trans hcopied

/-- `hle_cpu_set` returns. -/
theorem hleCpuSet (call : CpuSetCall) (session : CoreSession) (h : session.system.devices.Live) :
    Ensures (hleCpuSet call session) fun copied => SessionEffects charges session copied.2 := by
  unfold Core.hleCpuSet
  refine .ite (fun _ => .ret .refl) fun _ => ?_
  refine Ensures.map (Q := fun copied => SessionEffects charges session copied.2.session) ?_
    fun _ hcopied => hcopied
  refine .ite (fun _ => ?_) fun _ => ?_
  · exact copyUnits call cpuSetWord (fun _ _ _ => .storeWord _ _ _) _ _ _ ⟨session, 0, 0⟩ h
  · exact copyUnits call cpuSetHalfword (fun _ _ _ => .storeHalfword _ _ _) _ _ _ ⟨session, 0, 0⟩ h

/-! ## Waiting -/

theorem latchWait (session : CoreSession) : SessionEffects charges session session.latchWait := by
  unfold CoreSession.latchWait
  refine branch (note session ⟨rfl, rfl, fun h => ?_⟩) .refl
  exact ⟨h.buffer, Nat.zero_le _, h.width, h.window, h.linked, h.saved, h.pieces⟩

theorem waitLoop (batchCycles : Devices → U16 → U32) (mask : U16) (passes : Nat) (cycles : U32)
    (session : CoreSession) (h : session.system.devices.Live) :
    Ensures (session.waitLoop batchCycles mask passes cycles) fun waited =>
      SessionEffects charges session waited.2 := by
  induction passes generalizing cycles session with
  | zero => exact .ret (branch (latchWait session) .refl)
  | succ passes ih =>
      unfold CoreSession.waitLoop
      refine .ite (fun _ => .ret (latchWait session)) fun _ => ?_
      refine .ite (fun _ => .ret .refl) fun _ => ?_
      refine (advance charges session h _).bind fun advanced hadvanced => ?_
      exact (ih _ advanced.2 (hadvanced.live h)).conseq fun waited hwaited =>
        hadvanced.trans hwaited

/-- `wait_for_interrupt_mask` returns. -/
theorem waitForInterruptMask (mask : U16) (discardOldFlags : Bool) (session : CoreSession)
    (h : session.system.devices.Live) :
    Ensures (session.waitForInterruptMask mask discardOldFlags) fun waited =>
      SessionEffects charges session waited.2 := by
  unfold CoreSession.waitForInterruptMask
  refine .ite (fun _ => .ret .refl) fun _ => ?_
  have hdiscard : SessionEffects charges session
      (if discardOldFlags then session.discardFlags mask else session) :=
    branch (ofBus session (.one (.register (.interruptFlags mask)))) .refl
  exact (waitLoop _ _ _ _ _ (hdiscard.live h)).conseq fun waited hwaited =>
    hdiscard.trans hwaited

/-! ## The calls -/

theorem servedAfterWait (session : CoreSession) (mask : U16) (discardOldFlags : Bool)
    (cycles : CoreSession → U32) (h : session.system.devices.Live) :
    Ensures (session.servedAfterWait mask discardOldFlags cycles) fun outcome =>
      SessionEffects charges session outcome.2 :=
  (waitForInterruptMask mask discardOldFlags session h).map fun _ hwaited => hwaited

theorem servedCopy (session : CoreSession) (fast : Bool) (h : session.system.devices.Live) :
    Ensures (session.servedCopy fast) fun outcome => SessionEffects charges session outcome.2 :=
  (hleCpuSet _ session h).map fun _ hcopied => hcopied

theorem servedBy (session : CoreSession) (cycles : U32) (profile : HleSwiProfileKind)
    {cpu : Arm7tdmi} (h : cpu.control = session.cpu.control) :
    SessionEffects charges session (session.servedBy cycles profile cpu).2 := ofProgram session h

theorem servedIf (session : CoreSession) (cycles : U32) (profile : HleSwiProfileKind)
    {stored : Bool × System} (h : BusEffects session.system stored.2) :
    SessionEffects charges session (session.servedIf cycles profile stored).2 := ofBus session h

theorem finishLz77 (session : CoreSession) {system : System} (h : BusEffects session.system system)
    (state : Lz77State) (dest : U32) (cycles : U64) :
    SessionEffects charges session (session.finishLz77 system state dest cycles) := by
  unfold CoreSession.finishLz77
  refine Relation.ReflTransGen.tail ?_ (.queue _)
  exact ofParts session (.program rfl) h (.refl _)

theorem hleLz77UncompWram (session : CoreSession) :
    SessionEffects charges session session.hleLz77UncompWram.2 := by
  unfold CoreSession.hleLz77UncompWram
  dsimp only
  cases hleLz77DecompressFromSource session.system (session.cpu.registers 0)
      (session.cpu.registers 1) false with
  | none => exact .refl
  | some state =>
      have hwritten := BusEffects.lz77WriteWram state.output (session.cpu.registers 1) state.cycles
        session.system
      dsimp only
      split
      · next heq =>
          rw [heq] at hwritten
          exact ofBus session hwritten
      · next heq =>
          rw [heq] at hwritten
          exact finishLz77 session hwritten _ _ _

theorem hleLz77UncompVram (session : CoreSession) :
    SessionEffects charges session session.hleLz77UncompVram.2 := by
  unfold CoreSession.hleLz77UncompVram
  dsimp only
  cases hleLz77DecompressFromSource session.system (session.cpu.registers 0)
      (session.cpu.registers 1 &&& ~~~1#32) true with
  | none => exact .refl
  | some state =>
      have hwritten := BusEffects.hleWriteDecompressedVram state.output (session.cpu.registers 1)
        session.system
      dsimp only
      split
      · next heq =>
          rw [heq] at hwritten
          exact ofBus session hwritten
      · next heq =>
          rw [heq] at hwritten
          exact finishLz77 session hwritten _ _ _

theorem registerRamReset (session : CoreSession) (flags : U32) :
    SessionEffects charges session
      { session with
        system :=
          { memory := session.system.memory.registerRamReset flags
            devices :=
              { session.system.devices with
                ppu := (session.system.devices.ppu.writeLcdControl 0x04000000#32 0x0080#16).getD
                  session.system.devices.ppu } } } := by
  have hclear : BusEffects session.system
      (session.system.withMemory (session.system.memory.registerRamReset flags)) :=
    .one (.clearRam flags)
  refine ofBus session (hclear.tail (.register ?_))
  cases hblank : session.system.devices.ppu.writeLcdControl 0x04000000#32 0x0080#16 with
  | none => exact .ignored
  | some ppu => exact .lcdControl hblank

/-- A service returns. -/
theorem hleService (service : U8) (session : CoreSession) (h : session.system.devices.Live) :
    Ensures (session.hleService service) fun outcome =>
      SessionEffects charges session outcome.2 := by
  unfold CoreSession.hleService
  dsimp only
  split
  · exact .ret (registerRamReset session _)
  iterate 3 exact servedAfterWait session _ _ _ h
  iterate 5 exact .ret (servedBy session _ _ rfl)
  iterate 2 exact servedCopy session _ h
  · exact .ret (servedIf session _ _ (.hleBgAffineSet _ _))
  · exact .ret (servedIf session _ _ (.hleObjAffineSet _ _))
  · exact .ret (servedIf session _ _ (.hleBitUnpack _ _))
  · exact .ret (hleLz77UncompWram session)
  · exact .ret (hleLz77UncompVram session)
  iterate 2
    · exact .ret (servedIf session _ _ (.writeDecompressed .hleWriteDecompressedWram _ _ _))
    · exact .ret (servedIf session _ _ (.writeDecompressed .hleWriteDecompressedVram _ _ _))
  · exact .ret (servedIf session _ _ (.writeDecompressed .hleWriteDecompressedVram _ _ _))
  · exact .ret .refl

/-- `execute_hle_swi` returns. -/
theorem executeHleSwi (call : BiosSwiCall) (fetchAddress : U32) (session : CoreSession)
    (h : session.system.devices.Live) :
    Ensures (session.executeHleSwi call fetchAddress) fun executed =>
      SessionEffects charges session executed.2 := by
  unfold CoreSession.executeHleSwi
  refine .ite (fun _ => ?_) fun _ => .ret .refl
  exact (hleService call.service session h).map fun _ houtcome => houtcome

end SessionEffects

end Gba.Core
