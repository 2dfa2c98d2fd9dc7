import Gba.Core.DmaReentry

/-!
# The DMA invariant over a trigger

The invariant of the DMA registers, and what a trigger does to it. A transfer whose destination is
a DMA register can break it in three ways, which `CleanTransfer` excludes.
-/

namespace Gba.Core

/-- The invariant of the DMA controller. -/
structure DmaInvariant (dma : DmaController) : Prop where
  /-- The pending flag says whether an enabled channel has immediate start timing. -/
  pending : dma.immediatePending = true ↔
    ∃ channel, (dma.channels channel).enabled = true ∧
      (dma.channels channel).startTiming = .immediate
  /-- A disabled channel has no count. -/
  idle : ∀ channel, (dma.channels channel).enabled = false →
    (dma.channels channel).currentCount = 0
  /-- No count exceeds the hardware maximum. -/
  count : ∀ channel, (dma.channels channel).currentCount.toNat ≤
    if channel = 3 then 0x10000 else 0x4000
  /-- Control holds writable bits only. -/
  control : ∀ channel, (dma.channels channel).control &&& ~~~dmaControlMask channel = 0

theorem DmaChannelState.waitsImmediate_iff (state : DmaChannelState) :
    state.waitsImmediate = true ↔ state.enabled = true ∧ state.startTiming = .immediate := by
  simp [DmaChannelState.waitsImmediate]

theorem dmaInvariant_iff (dma : DmaController) :
    DmaInvariant dma ↔ dma.Consistent ∧ dma.PendingExact := by
  have hmax : ∀ channel, (dmaWordCountMask channel + 1).toNat =
      if channel = 3 then 0x10000 else 0x4000 := by
    intro channel
    unfold dmaWordCountMask
    split <;> rfl
  constructor
  · intro h
    refine ⟨fun channel => ⟨h.control channel, h.idle channel, ?_⟩, ?_⟩
    · rw [BitVec.le_def, hmax]
      exact h.count channel
    · simpa only [DmaController.PendingExact, DmaChannelState.waitsImmediate_iff] using h.pending
  · rintro ⟨hconsistent, hpending⟩
    refine ⟨?_, fun channel => (hconsistent channel).idle_count, fun channel => ?_,
      fun channel => (hconsistent channel).control_mask⟩
    · simpa only [DmaController.PendingExact, DmaChannelState.waitsImmediate_iff] using hpending
    · rw [← hmax, ← BitVec.le_def]
      exact (hconsistent channel).count_le

/-! ## The end of a transfer -/

/-- The registers of a channel after its transfer: what `execute_channel` does to them once its
loop is done. -/
def endTransfer (channel : Fin 4) (sourceAddress destinationAddress : U32)
    (state : DmaChannelState) : DmaChannelState :=
  rearmOrDisable channel
    { state with
      currentSource := sourceAddress
      currentDestination := destinationAddress
      currentCount := 0 }

theorem DmaController.modify_modify (dma : DmaController) (channel : Fin 4)
    (f g : DmaChannelState → DmaChannelState) :
    (dma.modify channel f).modify channel g = dma.modify channel fun state => g (f state) := by
  simp [DmaController.modify]

@[simp] theorem requestCompletion_dma (channel : Fin 4) (system : System) :
    (requestCompletion channel system).devices.dma = system.devices.dma := by
  unfold requestCompletion
  split <;> rfl

theorem executeChannel_dma {waitcnt : WaitcntPointer} {channel : Fin 4} {drive : Bool}
    {system system' : System} {result result' : DmaRunResult}
    (h : executeChannel waitcnt channel drive system result = some (system', result')) :
    ∃ sourceAddress destinationAddress, system'.devices.dma =
      (transferChannel waitcnt channel drive system result.busCycles).system.devices.dma.modify
        channel (endTransfer channel sourceAddress destinationAddress) := by
  unfold executeChannel at h
  dsimp only at h
  split at h
  · contradiction
  generalize transferChannel waitcnt channel drive system result.busCycles = t at h ⊢
  have hsystem := congrArg Prod.fst (Option.some.inj h)
  dsimp only at hsystem
  refine ⟨t.sourceAddress, t.destinationAddress, ?_⟩
  calc system'.devices.dma
      = (requestCompletion channel (t.commit channel)).devices.dma.modify channel
          (rearmOrDisable channel) := by rw [← hsystem]; rfl
    _ = (t.commit channel).devices.dma.modify channel (rearmOrDisable channel) := by
          rw [requestCompletion_dma]
    _ = t.system.devices.dma.modify channel
          (endTransfer channel t.sourceAddress t.destinationAddress) :=
          DmaController.modify_modify _ _ _ _

/-- The three ways in which a transfer that writes DMA registers goes wrong, excluded in the state
that its units leave: the channel has cleared its own Enable bit but is set to repeat with a
recurring start timing; in a run for a recurring trigger, it has made itself wait for immediate
service; in an immediate run, it has made an earlier channel wait, which the loop has passed. -/
structure CleanTransfer (trigger : DmaTrigger) (channel : Fin 4) (dma : DmaController) : Prop where
  stays_enabled : (dma.channels channel).enabled = false → (dma.channels channel).repeats = true →
    (dma.channels channel).startTiming = .immediate
  not_itself : trigger ≠ .immediate → (dma.channels channel).waitsImmediate = false
  not_earlier : trigger = .immediate → ∀ earlier < channel,
    (dma.channels earlier).waitsImmediate = false

section EndTransfer

variable {trigger : DmaTrigger} {channel : Fin 4} {dma : DmaController}

/-- A repeating channel is armed again with its control unchanged; any other one is disabled. -/
theorem endTransfer_cases (channel : Fin 4) (sourceAddress destinationAddress : U32)
    (state : DmaChannelState) :
    (state.repeats = true ∧ state.startTiming ≠ .immediate ∧
      (endTransfer channel sourceAddress destinationAddress state).control = state.control ∧
      (endTransfer channel sourceAddress destinationAddress state).currentCount =
        state.normalizedWordCount channel) ∨
    ((endTransfer channel sourceAddress destinationAddress state).control =
        state.control &&& ~~~kDmaEnableFlag ∧
      (endTransfer channel sourceAddress destinationAddress state).currentCount = 0) := by
  by_cases hrearm : state.repeats = true ∧ state.startTiming ≠ .immediate
  · left
    have hend : endTransfer channel sourceAddress destinationAddress state =
        { state with
          currentSource := sourceAddress
          currentCount := state.normalizedWordCount channel
          currentDestination :=
            if state.destinationControl = .incrementReload then state.destination
            else destinationAddress } := if_pos hrearm
    rw [hend]
    exact ⟨hrearm.1, hrearm.2, rfl, rfl⟩
  · right
    have hend : endTransfer channel sourceAddress destinationAddress state =
        { state with
          currentSource := sourceAddress
          currentDestination := destinationAddress
          currentCount := 0
          control := state.control &&& ~~~kDmaEnableFlag } := if_neg hrearm
    rw [hend]
    exact ⟨rfl, rfl⟩

theorem enabled_clear (control : U16) :
    anySet (control &&& ~~~kDmaEnableFlag) kDmaEnableFlag = false := by
  simp [anySet, BitVec.and_assoc]

theorem endTransfer_consistent (h : dma.Consistent) (hclean : CleanTransfer trigger channel dma)
    (sourceAddress destinationAddress : U32) :
    (endTransfer channel sourceAddress destinationAddress (dma.channels channel)).Consistent
      channel := by
  obtain ⟨hrepeat, htiming, hcontrol, hcount⟩ | ⟨hcontrol, hcount⟩ :=
    endTransfer_cases channel sourceAddress destinationAddress (dma.channels channel)
  · refine ⟨hcontrol ▸ (h channel).control_mask, fun hidle => ?_, ?_⟩
    · -- only an enabled channel is armed again
      have hoff : (dma.channels channel).enabled = false := by
        rw [DmaChannelState.enabled, hcontrol] at hidle
        exact hidle
      exact absurd (hclean.stays_enabled hoff hrepeat) htiming
    · rw [hcount]
      exact DmaController.normalizedWordCount_le _ _
  · refine ⟨?_, fun _ => hcount, hcount ▸ Nat.zero_le _⟩
    rw [hcontrol, BitVec.and_assoc, BitVec.and_comm (~~~kDmaEnableFlag), ← BitVec.and_assoc,
      (h channel).control_mask]
    exact BitVec.zero_and

/-- A finished channel waits only if it waited before and was armed again, which an immediate
channel never is. -/
theorem endTransfer_waitsImmediate (channel : Fin 4) (sourceAddress destinationAddress : U32)
    (state : DmaChannelState) :
    (endTransfer channel sourceAddress destinationAddress state).waitsImmediate = false := by
  obtain ⟨-, htiming, hcontrol, -⟩ | ⟨hcontrol, -⟩ :=
    endTransfer_cases channel sourceAddress destinationAddress state
  · have hsame : (endTransfer channel sourceAddress destinationAddress state).startTiming =
        state.startTiming := by
      rw [DmaChannelState.startTiming, hcontrol]
      rfl
    simp [DmaChannelState.waitsImmediate, hsame, htiming]
  · have hoff : (endTransfer channel sourceAddress destinationAddress state).enabled = false := by
      rw [DmaChannelState.enabled, hcontrol]
      exact enabled_clear _
    simp [DmaChannelState.waitsImmediate, hoff]

end EndTransfer

/-! ## One trigger -/

/-- The DMA registers at the end of the units of a channel that a trigger services. -/
def afterUnits (waitcnt : WaitcntPointer) (trigger : DmaTrigger) (channel : Fin 4)
    (run : TriggerRun) : DmaController :=
  (transferChannel waitcnt channel (trigger ≠ .immediate) run.system
    run.result.busCycles).system.devices.dma

/-- Every transfer of the loop of `run_trigger` is clean. -/
def CleanChannels (waitcnt : WaitcntPointer) (trigger : DmaTrigger) :
    List (Fin 4) → TriggerRun → Prop
  | [], _ => True
  | channel :: channels, run =>
      if !serviced trigger channel run.system then CleanChannels waitcnt trigger channels run
      else
        match executeChannel waitcnt channel (trigger ≠ .immediate) run.system run.result with
        | none => True
        | some (system, result) =>
            CleanTransfer trigger channel (afterUnits waitcnt trigger channel run) ∧
              CleanChannels waitcnt trigger channels (run.executed trigger channel system result)

/-- Every transfer of a trigger is clean. -/
def CleanTrigger (waitcnt : WaitcntPointer) (trigger : DmaTrigger) (system : System) : Prop :=
  CleanChannels waitcnt trigger (List.finRange 4) ⟨system, ⟨0, 0, false, 0⟩, false⟩

instance decidableCleanTransfer (trigger : DmaTrigger) (channel : Fin 4) (dma : DmaController) :
    Decidable (CleanTransfer trigger channel dma) :=
  decidable_of_iff
    (((dma.channels channel).enabled = false → (dma.channels channel).repeats = true →
        (dma.channels channel).startTiming = .immediate) ∧
      (trigger ≠ .immediate → (dma.channels channel).waitsImmediate = false) ∧
      (trigger = .immediate → ∀ earlier < channel,
        (dma.channels earlier).waitsImmediate = false))
    ⟨fun h => ⟨h.1, h.2.1, h.2.2⟩, fun h => ⟨h.1, h.2, h.3⟩⟩

instance decidableCleanChannels (waitcnt : WaitcntPointer) (trigger : DmaTrigger) :
    ∀ channels run, Decidable (CleanChannels waitcnt trigger channels run)
  | [], _ => isTrue trivial
  | channel :: channels, run =>
      have := decidableCleanChannels waitcnt trigger channels
      if hskip : !serviced trigger channel run.system then
        decidable_of_iff (CleanChannels waitcnt trigger channels run)
          (by rw [CleanChannels, if_pos hskip])
      else
        match hexecute : executeChannel waitcnt channel (trigger ≠ .immediate) run.system
            run.result with
        | none => isTrue (by rw [CleanChannels, if_neg hskip, hexecute]; trivial)
        | some (system, result) =>
            decidable_of_iff
              (CleanTransfer trigger channel (afterUnits waitcnt trigger channel run) ∧
                CleanChannels waitcnt trigger channels (run.executed trigger channel system result))
              (by rw [CleanChannels, if_neg hskip, hexecute])

instance (waitcnt : WaitcntPointer) (trigger : DmaTrigger) (system : System) :
    Decidable (CleanTrigger waitcnt trigger system) :=
  decidableCleanChannels waitcnt trigger _ _

section Trigger

variable {waitcnt : WaitcntPointer} {trigger : DmaTrigger} {channel : Fin 4} {run : TriggerRun}
  {system : System} {result : DmaRunResult}

theorem executed_consistent (h : run.system.devices.dma.Consistent)
    (hexecute : executeChannel waitcnt channel (trigger ≠ .immediate) run.system run.result =
      some (system, result))
    (hclean : CleanTransfer trigger channel (afterUnits waitcnt trigger channel run)) :
    system.devices.dma.Consistent := by
  obtain ⟨sourceAddress, destinationAddress, hdma⟩ := executeChannel_dma hexecute
  have hunits : (afterUnits waitcnt trigger channel run).Consistent :=
    consistent_registerInvariant.transferChannel h waitcnt channel _ _
  rw [hdma]
  exact hunits.modify channel
    (endTransfer_consistent hunits hclean sourceAddress destinationAddress)

/-- In a run for a recurring trigger the flag stays exact. -/
theorem executed_pendingExact (h : run.system.devices.dma.PendingExact)
    (htrigger : trigger ≠ .immediate)
    (hexecute : executeChannel waitcnt channel (trigger ≠ .immediate) run.system run.result =
      some (system, result))
    (hclean : CleanTransfer trigger channel (afterUnits waitcnt trigger channel run)) :
    system.devices.dma.PendingExact := by
  obtain ⟨sourceAddress, destinationAddress, hdma⟩ := executeChannel_dma hexecute
  have hunits : (afterUnits waitcnt trigger channel run).PendingExact :=
    pendingExact_registerInvariant.transferChannel h waitcnt channel _ _
  rw [hdma]
  refine hunits.modify channel ?_
  rw [endTransfer_waitsImmediate]
  exact (hclean.not_itself htrigger).symm

/-- In an immediate run, no channel up to the executed one waits. -/
theorem executed_not_waiting (htrigger : trigger = .immediate)
    (hexecute : executeChannel waitcnt channel (trigger ≠ .immediate) run.system run.result =
      some (system, result))
    (hclean : CleanTransfer trigger channel (afterUnits waitcnt trigger channel run))
    (other : Fin 4) (hother : other ≤ channel) :
    (system.channel other).waitsImmediate = false := by
  obtain ⟨sourceAddress, destinationAddress, hdma⟩ := executeChannel_dma hexecute
  rw [System.channel, hdma]
  by_cases heq : other = channel
  · subst heq
    simpa [DmaController.modify] using endTransfer_waitsImmediate _ _ _ _
  · have hlt : other < channel := lt_of_le_of_ne hother heq
    have hidle := hclean.not_earlier htrigger other hlt
    unfold afterUnits at hidle
    simpa only [DmaController.modify, Function.update_of_ne heq] using hidle

/-- The loop over the channels keeps the channels consistent. -/
theorem runChannels_consistent (channels : List (Fin 4)) (run : TriggerRun)
    (h : run.system.devices.dma.Consistent) (hclean : CleanChannels waitcnt trigger channels run) :
    (runChannels waitcnt trigger channels run).2.system.devices.dma.Consistent := by
  induction channels generalizing run with
  | nil => exact h
  | cons channel channels ih =>
      unfold CleanChannels at hclean
      unfold runChannels
      split
      · next hskip =>
          rw [if_pos hskip] at hclean
          exact ih run h hclean
      · next hserviced =>
          rw [if_neg hserviced] at hclean
          cases hexecute : executeChannel waitcnt channel (trigger ≠ .immediate) run.system
              run.result with
          | none => exact h
          | some next =>
              obtain ⟨system, result⟩ := next
              rw [hexecute] at hclean
              exact ih _ (executed_consistent h hexecute hclean.1) hclean.2

/-- The loop for a recurring trigger keeps the flag exact. -/
theorem runChannels_pendingExact (htrigger : trigger ≠ .immediate) (channels : List (Fin 4))
    (run : TriggerRun) (h : run.system.devices.dma.PendingExact)
    (hclean : CleanChannels waitcnt trigger channels run) :
    (runChannels waitcnt trigger channels run).2.system.devices.dma.PendingExact := by
  induction channels generalizing run with
  | nil => exact h
  | cons channel channels ih =>
      unfold CleanChannels at hclean
      unfold runChannels
      split
      · next hskip =>
          rw [if_pos hskip] at hclean
          exact ih run h hclean
      · next hserviced =>
          rw [if_neg hserviced] at hclean
          cases hexecute : executeChannel waitcnt channel (trigger ≠ .immediate) run.system
              run.result with
          | none => exact h
          | some next =>
              obtain ⟨system, result⟩ := next
              rw [hexecute] at hclean
              exact ih _ (executed_pendingExact h htrigger hexecute hclean.1) hclean.2

theorem serviced_immediate (channel : Fin 4) (system : System) :
    serviced .immediate channel system = (system.channel channel).waitsImmediate := rfl

/-- The outcome of the immediate loop: either no channel waits any more and none was seen to, or
a channel that waits was refused. -/
def ImmediateOutcome (outcome : Bool × TriggerRun) : Prop :=
  (outcome.1 = true ∧ outcome.2.immediateStillPending = false ∧
    ∀ channel, (outcome.2.system.channel channel).waitsImmediate = false) ∨
  (outcome.1 = false ∧ ∃ channel, (outcome.2.system.channel channel).waitsImmediate = true)

/-- The immediate loop, started at an ascending list of the remaining channels above all others:
no channel that it has passed waits. -/
theorem runChannels_immediate (channels : List (Fin 4)) (run : TriggerRun)
    (hsorted : channels.Pairwise (· < ·))
    (hpassed : ∀ other ∉ channels, (∀ channel ∈ channels, other < channel) ∧
      (run.system.channel other).waitsImmediate = false)
    (hstill : run.immediateStillPending = false)
    (hclean : CleanChannels waitcnt .immediate channels run) :
    ImmediateOutcome (runChannels waitcnt .immediate channels run) := by
  induction channels generalizing run with
  | nil => exact .inl ⟨rfl, hstill, fun channel => (hpassed channel List.not_mem_nil).2⟩
  | cons channel channels ih =>
      rw [List.pairwise_cons] at hsorted
      -- a channel outside the rest of the list is this one or was passed before
      have hbelow : ∀ other ∉ channels, other ≤ channel ∧ ∀ later ∈ channels, other < later := by
        intro other hother
        by_cases heq : other = channel
        · exact ⟨heq.le, fun later hlater => heq ▸ hsorted.1 later hlater⟩
        · obtain ⟨hlt, -⟩ := hpassed other (by simp [heq, hother])
          exact ⟨(hlt channel List.mem_cons_self).le,
            fun later hlater => hlt later (List.mem_cons_of_mem _ hlater)⟩
      unfold CleanChannels at hclean
      unfold runChannels
      split
      · next hskip =>
          rw [if_pos hskip] at hclean
          refine ih run hsorted.2 (fun other hother => ⟨(hbelow other hother).2, ?_⟩) hstill hclean
          by_cases heq : other = channel
          · subst heq
            rw [serviced_immediate, Bool.not_eq_true'] at hskip
            exact hskip
          · exact (hpassed other (by simp [heq, hother])).2
      · next hserviced =>
          rw [if_neg hserviced] at hclean
          cases hexecute : executeChannel waitcnt channel (DmaTrigger.immediate ≠ .immediate)
              run.system run.result with
          | none =>
              refine .inr ⟨rfl, channel, ?_⟩
              rw [serviced_immediate, Bool.not_eq_true', Bool.not_eq_false] at hserviced
              exact hserviced
          | some next =>
              obtain ⟨system, result⟩ := next
              rw [hexecute] at hclean
              have hnone := executed_not_waiting rfl hexecute hclean.1
              refine ih _ hsorted.2 (fun other hother => ?_) ?_ hclean.2
              · exact ⟨(hbelow other hother).2, hnone other (hbelow other hother).1⟩
              · have hself := hnone channel le_rfl
                simp [TriggerRun.executed, hstill, hself]

/-- A clean trigger keeps the invariant. -/
theorem runTrigger_invariant (h : DmaInvariant system.devices.dma)
    (hclean : CleanTrigger waitcnt trigger system) :
    DmaInvariant (runTrigger waitcnt trigger system).1.devices.dma := by
  obtain ⟨hconsistent, hpending⟩ := (dmaInvariant_iff _).mp h
  unfold runTrigger
  split
  · exact h
  have hruns := runChannels_consistent _ _ hconsistent hclean
  dsimp only
  split
  · next himmediate =>
      subst himmediate
      have houtcome : ImmediateOutcome (runChannels waitcnt .immediate (List.finRange 4)
          ⟨system, ⟨0, 0, false, 0⟩, false⟩) :=
        runChannels_immediate _ _ (List.pairwise_lt_finRange 4)
          (fun other hother => absurd (List.mem_finRange other) hother) rfl hclean
      refine (dmaInvariant_iff _).mpr ⟨hruns, ?_⟩
      obtain ⟨hfinished, hstill, hnone⟩ | ⟨hrefused, channel, hwaits⟩ := houtcome
      · -- nothing waits, and the flag is cleared
        simp only [hfinished, if_true, hstill]
        refine ⟨fun hset => absurd hset Bool.false_ne_true, ?_⟩
        rintro ⟨channel, hwaits⟩
        exact absurd hwaits (by rw [Bool.not_eq_true]; exact hnone channel)
      · -- the refused channel still waits, and the flag is set
        simp only [hrefused, Bool.false_eq_true, if_false]
        exact ⟨fun _ => ⟨channel, hwaits⟩, fun _ => rfl⟩
  · next htrigger =>
      exact (dmaInvariant_iff _).mpr
        ⟨hruns, runChannels_pendingExact htrigger _ _ hpending hclean⟩

end Trigger

end Gba.Core
