import Gba.Core.DmaRuns
import Mathlib.Data.List.TakeWhile

/-!
# Which channels a trigger serves

`run_trigger` visits the channels in increasing order and returns at the first one it cannot execute.
The channels behind that one are not served, on this trigger or on any later one.
-/

namespace Gba.Core

/-! ## Channels in order -/

/-- A list up to its first element that fails is the list of all that do not fail, if no element
behind a failing one is among them. -/
theorem takeWhile_eq_filter_iff {α : Type} (p : α → Bool) (l : List α) :
    l.takeWhile p = l.filter p ↔ l.Pairwise fun a b => p b = true → p a = true := by
  induction l with
  | nil => simp
  | cons a l ih =>
    rw [List.pairwise_cons]
    cases ha : p a with
    | true => simp [ha, ih]
    | false =>
      rw [List.takeWhile_cons, List.filter_cons, ha, if_neg (by decide), if_neg (by decide),
        eq_comm, List.filter_eq_nil_iff]
      constructor
      · intro hnone
        exact ⟨fun b hb hpb => absurd hpb (hnone b hb),
          List.pairwise_of_forall_mem_list fun a _ b hb hpb => absurd hpb (hnone b hb)⟩
      · rintro ⟨hbehind, -⟩ b hb hpb
        exact absurd (hbehind b hb hpb) (by decide)

theorem takeWhile_sublist_filter {α : Type} (p : α → Bool) (l : List α) :
    (l.takeWhile p).Sublist (l.filter p) := by
  have hall : (l.takeWhile p).filter p = l.takeWhile p :=
    List.filter_eq_self.mpr fun a ha => List.mem_takeWhile_imp ha
  exact hall ▸ (List.takeWhile_sublist p).filter p

/-- The channel can be executed: its source control is not the prohibited one. -/
def executable (channel : Fin 4) (system : System) : Bool :=
  (system.channel channel).sourceControl ≠ .incrementReload

theorem executeChannel_eq_none_iff {waitcnt : WaitcntPointer} {channel : Fin 4} {drive : Bool}
    {system : System} {result : DmaRunResult} :
    executeChannel waitcnt channel drive system result = none ↔
      executable channel system = false := by
  unfold executeChannel executable
  dsimp only
  split
  · next hrefused => simp [hrefused]
  · next hallowed => simp [hallowed]

/-- The channels that are enabled for a trigger. -/
def matching (trigger : DmaTrigger) (channels : List (Fin 4)) (system : System) : List (Fin 4) :=
  channels.filter fun channel => serviced trigger channel system

/-- Channels executed one after the other. -/
def serve (waitcnt : WaitcntPointer) (trigger : DmaTrigger) (channels : List (Fin 4))
    (system : System) (result : DmaRunResult) : Option (System × DmaRunResult) :=
  channels.foldlM (fun served channel =>
    (executeChannel waitcnt channel (trigger ≠ .immediate) served.1 served.2).map fun next =>
      (next.1, { next.2 with channelsExecuted := next.2.channelsExecuted + 1 })) (system, result)

/-- The transfers of the loop of `run_trigger` do not write the registers of other channels. -/
def QuietChannels (waitcnt : WaitcntPointer) (trigger : DmaTrigger) :
    List (Fin 4) → TriggerRun → Prop
  | [], _ => True
  | channel :: channels, run =>
      if !serviced trigger channel run.system then QuietChannels waitcnt trigger channels run
      else
        match executeChannel waitcnt channel (trigger ≠ .immediate) run.system run.result with
        | none => True
        | some (system, result) =>
            (∀ other, other ≠ channel → (afterUnits waitcnt trigger channel run).channels other =
              run.system.devices.dma.channels other) ∧
            QuietChannels waitcnt trigger channels (run.executed trigger channel system result)

/-- The transfers of a trigger do not write the registers of other channels. -/
def QuietTrigger (waitcnt : WaitcntPointer) (trigger : DmaTrigger) (system : System) : Prop :=
  QuietChannels waitcnt trigger (List.finRange 4) ⟨system, ⟨0, 0, false, 0⟩, false⟩

instance decidableQuietChannels (waitcnt : WaitcntPointer) (trigger : DmaTrigger) :
    ∀ channels run, Decidable (QuietChannels waitcnt trigger channels run)
  | [], _ => isTrue trivial
  | channel :: channels, run =>
      have := decidableQuietChannels waitcnt trigger channels
      if hskip : !serviced trigger channel run.system then
        decidable_of_iff (QuietChannels waitcnt trigger channels run)
          (by rw [QuietChannels, if_pos hskip])
      else
        match hexecute : executeChannel waitcnt channel (trigger ≠ .immediate) run.system
            run.result with
        | none => isTrue (by rw [QuietChannels, if_neg hskip, hexecute]; trivial)
        | some (system, result) =>
            decidable_of_iff
              ((∀ other, other ≠ channel →
                  (afterUnits waitcnt trigger channel run).channels other =
                    run.system.devices.dma.channels other) ∧
                QuietChannels waitcnt trigger channels (run.executed trigger channel system result))
              (by rw [QuietChannels, if_neg hskip, hexecute])

instance (waitcnt : WaitcntPointer) (trigger : DmaTrigger) (system : System) :
    Decidable (QuietTrigger waitcnt trigger system) :=
  decidableQuietChannels waitcnt trigger _ _

section Service

variable {waitcnt : WaitcntPointer} {trigger : DmaTrigger} {channel : Fin 4} {run : TriggerRun}
  {system next : System} {result : DmaRunResult}

theorem executeChannel_others
    (hexecute : executeChannel waitcnt channel (trigger ≠ .immediate) run.system run.result =
      some (next, result))
    (hquiet : ∀ other, other ≠ channel → (afterUnits waitcnt trigger channel run).channels other =
      run.system.devices.dma.channels other)
    {other : Fin 4} (hother : other ≠ channel) :
    next.channel other = run.system.channel other := by
  obtain ⟨sourceAddress, destinationAddress, hdma⟩ := executeChannel_dma hexecute
  have hunits := hquiet other hother
  unfold afterUnits at hunits
  unfold System.channel
  rw [hdma]
  simpa only [DmaController.modify, Function.update_of_ne hother] using hunits

/-- The loop serves the channels that are enabled for the trigger up to the first one that cannot
be executed. -/
theorem runChannels_serves (channels : List (Fin 4)) (hnodup : channels.Nodup)
    (hsame : ∀ channel ∈ channels, run.system.channel channel = system.channel channel)
    (hquiet : QuietChannels waitcnt trigger channels run) :
    ∃ unsupported final served,
      serve waitcnt trigger
        ((matching trigger channels system).takeWhile fun channel => executable channel system)
        run.system run.result = some (final, served) ∧
      (runChannels waitcnt trigger channels run).2.system = final ∧
      (runChannels waitcnt trigger channels run).2.result =
        { served with unsupportedRequest := unsupported } := by
  induction channels generalizing run with
  | nil => exact ⟨run.result.unsupportedRequest, run.system, run.result, rfl, rfl, rfl⟩
  | cons channel channels ih =>
    obtain ⟨hout, hnodup⟩ := List.nodup_cons.mp hnodup
    have hchannel := hsame channel List.mem_cons_self
    have hservice : serviced trigger channel run.system = serviced trigger channel system := by
      unfold serviced
      rw [hchannel]
    have hexecutable : executable channel run.system = executable channel system := by
      unfold executable
      rw [hchannel]
    unfold QuietChannels at hquiet
    unfold runChannels matching
    rw [List.filter_cons]
    cases hserviced : serviced trigger channel system with
    | false =>
      rw [hservice, hserviced] at hquiet ⊢
      exact ih hnodup (fun other hother => hsame other (List.mem_cons_of_mem _ hother)) hquiet
    | true =>
      rw [hservice, hserviced] at hquiet ⊢
      simp only [Bool.not_true, Bool.false_eq_true, if_false, if_true] at hquiet ⊢
      cases hexecute : executeChannel waitcnt channel (trigger ≠ .immediate) run.system
          run.result with
      | none =>
        have hrefused := hexecutable ▸ executeChannel_eq_none_iff.mp hexecute
        rw [List.takeWhile_cons, hrefused]
        exact ⟨true, run.system, run.result, rfl, rfl, rfl⟩
      | some outcome =>
        obtain ⟨moved, result⟩ := outcome
        have hallowed : executable channel system = true := by
          rw [← hexecutable, ← Bool.not_eq_false]
          intro hrefused
          rw [executeChannel_eq_none_iff.mpr hrefused] at hexecute
          contradiction
        rw [hexecute] at hquiet
        -- the channels behind it are as they were: a served channel changes no other
        have hrest := @ih (run.executed trigger channel moved result) hnodup
          (fun other hother => by
            have hne : other ≠ channel := fun heq => hout (heq ▸ hother)
            exact (executeChannel_others hexecute hquiet.1 hne).trans
              (hsame other (List.mem_cons_of_mem _ hother))) hquiet.2
        obtain ⟨unsupported, final, served, hserve, hsystem, hresult⟩ := hrest
        refine ⟨unsupported, final, served, ?_, hsystem, hresult⟩
        rw [List.takeWhile_cons, hallowed, if_pos rfl]
        unfold serve
        rw [List.foldlM_cons, hexecute]
        exact hserve

theorem serve_count (channels : List (Fin 4)) {served : DmaRunResult}
    (h : serve waitcnt trigger channels system result = some (next, served)) :
    served.channelsExecuted = result.channelsExecuted + BitVec.ofNat 8 channels.length := by
  induction channels generalizing system result with
  | nil =>
    obtain ⟨-, rfl⟩ := Prod.mk.inj (Option.some.inj h)
    exact (BitVec.add_zero _).symm
  | cons channel channels ih =>
    unfold serve at h
    rw [List.foldlM_cons] at h
    obtain ⟨⟨moved, after⟩, hexecute, hrest⟩ := Option.bind_eq_some_iff.mp h
    obtain ⟨⟨executed, counted⟩, hchannel, hafter⟩ := Option.map_eq_some_iff.mp hexecute
    obtain ⟨rfl, rfl⟩ := Prod.mk.inj hafter
    rw [ih hrest, (executeChannel_count hchannel).1, List.length_cons, Nat.add_comm, BitVec.ofNat_add, BitVec.add_assoc]
    rfl

/-! ## All channels of a trigger -/

/-- A trigger executes every channel that is enabled for it and can be executed, once and in
increasing order, and does nothing else. -/
def ServesAll (waitcnt : WaitcntPointer) (trigger : DmaTrigger) (system : System) : Prop :=
  ∃ final served pending unsupported,
    serve waitcnt trigger ((matching trigger (List.finRange 4) system).filter fun channel =>
      executable channel system) system ⟨0, 0, false, 0⟩ = some (final, served) ∧
    (runTrigger waitcnt trigger system).1 =
      final.modifyDma (fun dma => { dma with immediatePending := pending }) ∧
    (runTrigger waitcnt trigger system).2 = { served with unsupportedRequest := unsupported }

/-- What a trigger executes: the channels up to the first one that cannot be executed. -/
theorem runTrigger_serves (htrigger : trigger ≠ .fifoA ∧ trigger ≠ .fifoB)
    (hquiet : QuietTrigger waitcnt trigger system) :
    ∃ final served pending unsupported,
      serve waitcnt trigger ((matching trigger (List.finRange 4) system).takeWhile fun channel =>
        executable channel system) system ⟨0, 0, false, 0⟩ = some (final, served) ∧
      (runTrigger waitcnt trigger system).1 =
        final.modifyDma (fun dma => { dma with immediatePending := pending }) ∧
      (runTrigger waitcnt trigger system).2 = { served with unsupportedRequest := unsupported } := by
  obtain ⟨unsupported, final, served, hserve, hsystem, hresult⟩ :=
    runChannels_serves (List.finRange 4) (List.nodup_finRange 4) (fun _ _ => rfl) hquiet
  have hfifo : ¬(trigger = .fifoA ∨ trigger = .fifoB) := not_or.mpr htrigger
  unfold runTrigger
  rw [if_neg hfifo]
  dsimp only
  by_cases himmediate : trigger = .immediate
  · rw [if_pos himmediate, hsystem]
    exact ⟨final, served, _, unsupported, hserve, rfl, hresult⟩
  · rw [if_neg himmediate, hsystem]
    exact ⟨final, served, final.devices.dma.immediatePending, unsupported, hserve, rfl, hresult⟩

/-- A trigger serves all its channels exactly if no channel that cannot be executed is enabled for
it in front of one that can. -/
theorem runTrigger_servesAll_iff (htrigger : trigger ≠ .fifoA ∧ trigger ≠ .fifoB)
    (hquiet : QuietTrigger waitcnt trigger system) :
    ServesAll waitcnt trigger system ↔
      ∀ refused later : Fin 4, refused < later → serviced trigger refused system = true →
        serviced trigger later system = true → executable later system = true →
        executable refused system = true := by
  have hpairs : (matching trigger (List.finRange 4) system).Pairwise (fun refused later =>
      executable later system = true → executable refused system = true) ↔
      ∀ refused later : Fin 4, refused < later → serviced trigger refused system = true →
        serviced trigger later system = true → executable later system = true →
        executable refused system = true := by
    unfold matching
    rw [List.pairwise_filter]
    show List.Pairwise _ (List.ofFn fun channel : Fin 4 => channel) ↔ _
    rw [List.pairwise_ofFn]
  rw [← hpairs, ← takeWhile_eq_filter_iff]
  obtain ⟨final, served, pending, unsupported, hserve, hsystem, hresult⟩ :=
    runTrigger_serves htrigger hquiet
  constructor
  · rintro ⟨final', served', pending', unsupported', hserve', hsystem', hresult'⟩
    have hfew : (matching trigger (List.finRange 4) system).length ≤ 4 :=
      List.length_filter_le _ _
    have hcount := congrArg DmaRunResult.channelsExecuted (hresult.symm.trans hresult')
    rw [serve_count _ hserve, serve_count _ hserve'] at hcount
    refine (takeWhile_sublist_filter _ _).eq_of_length ?_
    have hshort := (List.takeWhile_sublist (p := fun channel => executable channel system)
      (l := matching trigger (List.finRange 4) system)).length_le
    have hfilter := List.length_filter_le (fun channel => executable channel system)
      (matching trigger (List.finRange 4) system)
    bv_omega
  · intro hall
    rw [hall] at hserve
    exact ⟨final, served, pending, unsupported, hserve, hsystem, hresult⟩

end Service

/-- Channels 0 and 1 after their registers were written for a copy of one halfword each at VBlank,
with the given control of channel 0. -/
def vblankChannels (control : U16) : System where
  memory := .initial
  devices := { Devices.reset with
    dma := (((((((DmaController.reset.writeSource 0 0x02000000#32).writeDestination 0
      0x03000000#32).writeWordCount 0 1).writeControl 0 control).writeSource 1
      0x02000000#32).writeDestination 1 0x03000002#32).writeWordCount 1 1).writeControl 1 0x9000#16 }

/-- Both channels are served. -/
theorem runTrigger_servesAll_copies :
    ServesAll (fun devices => some devices.waitcnt) .vblank (vblankChannels 0x9000#16) :=
  (runTrigger_servesAll_iff ⟨by decide, by decide⟩ (by decide +kernel)).mpr (by decide +kernel)

/-- Channel 0 has the prohibited source control, and channel 1 is not served. -/
theorem not_servesAll :
    QuietTrigger (fun devices => some devices.waitcnt) .vblank (vblankChannels 0x9180#16) ∧
    ¬ServesAll (fun devices => some devices.waitcnt) .vblank (vblankChannels 0x9180#16) := by
  refine ⟨by decide +kernel, ?_⟩
  rintro ⟨final, served, pending, unsupported, hserve, -, hresult⟩
  have hnone : (runTrigger (fun devices => some devices.waitcnt) .vblank
      (vblankChannels 0x9180#16)).2.channelsExecuted = 0 := by decide +kernel
  have hone : ((matching .vblank (List.finRange 4) (vblankChannels 0x9180#16)).filter
      fun channel => executable channel (vblankChannels 0x9180#16)).length = 1 := by decide +kernel
  have hcount := serve_count _ hserve
  rw [hone] at hcount
  rw [hresult] at hnone
  exact absurd (hcount.symm.trans hnone) (by decide)

end Gba.Core
