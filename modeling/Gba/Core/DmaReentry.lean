import Gba.Core.RegisterWrites

/-!
# Re-entry of the DMA registers

A store through the bus changes the DMA controller only through its register writes. So what every
register write keeps, every store keeps, and with it the whole loop over the units of a transfer,
wherever the transfer writes.
-/

namespace Gba.Core

/-- A property of the controller that every register write keeps. -/
structure RegisterInvariant (P : DmaController → Prop) : Prop where
  writeSource : ∀ {dma}, P dma → ∀ channel value, P (dma.writeSource channel value)
  writeDestination : ∀ {dma}, P dma → ∀ channel value, P (dma.writeDestination channel value)
  writeWordCount : ∀ {dma}, P dma → ∀ channel value, P (dma.writeWordCount channel value)
  writeControl : ∀ {dma}, P dma → ∀ channel value, P (dma.writeControl channel value)
  latch : ∀ {dma}, P dma → ∀ channel value,
    P (dma.modify channel fun state => { state with dataLatch := value })

namespace RegisterInvariant

variable {P : DmaController → Prop}

theorem writeRegister (h : RegisterInvariant P) {dma dma' : DmaController} (hdma : P dma)
    {address : U32} {value : U16} (hwrite : dma.writeRegister address value = some dma') :
    P dma' := by
  unfold DmaController.writeRegister at hwrite
  split at hwrite
  · contradiction
  · dsimp only at hwrite
    split_ifs at hwrite
    · exact Option.some.inj hwrite ▸ h.writeSource hdma _ _
    · exact Option.some.inj hwrite ▸ h.writeSource hdma _ _
    · exact Option.some.inj hwrite ▸ h.writeDestination hdma _ _
    · exact Option.some.inj hwrite ▸ h.writeDestination hdma _ _
    · exact Option.some.inj hwrite ▸ h.writeWordCount hdma _ _
    · exact Option.some.inj hwrite ▸ h.writeControl hdma _ _

/-- Only the DMA registers of the I/O page reach the controller. -/
theorem keptByIo (h : RegisterInvariant P) :
    BusState.KeptByIo ioCallbacks fun d : Devices => P d.dma :=
  keptByIo_of_writes fun hwrite hd => by
    cases hwrite with
    | dma hregister => exact h.writeRegister hd hregister
    | _ => exact hd

theorem transferWrite (h : RegisterInvariant P) {system : System} (hsystem : P system.devices.dma)
    (wordTransfer : Bool) (alignedDestination value : U32) :
    P (transferWrite system wordTransfer alignedDestination value).devices.dma := by
  unfold Core.transferWrite
  split
  · exact h.keptByIo.write32_bus hsystem _ _
  · exact h.keptByIo.write16_bus hsystem _ _

/-- One unit of a transfer. -/
theorem transferUnit (h : RegisterInvariant P) {t : Transfer} (ht : P t.system.devices.dma)
    (waitcnt : WaitcntPointer) (channel : Fin 4) (drive wordTransfer : Bool) (unit : U32) :
    P (transferUnit waitcnt channel drive wordTransfer unit t).system.devices.dma := by
  unfold Core.transferUnit
  refine h.transferWrite ?_ _ _ _
  unfold System.driveOpenBus
  split
  · exact h.latch ht _ _
  · exact h.latch ht _ _

/-- All units of a transfer. -/
theorem transferUnits (h : RegisterInvariant P) (waitcnt : WaitcntPointer) (channel : Fin 4)
    (drive wordTransfer : Bool) (unit : U32) (t : Transfer) (ht : P t.system.devices.dma) :
    P (transferUnits waitcnt channel drive wordTransfer unit t).system.devices.dma := by
  induction unit, t using transferUnits.induct waitcnt channel drive wordTransfer with
  | case1 unit t hlt ih =>
      rw [Core.transferUnits, dif_pos hlt]
      exact ih (h.transferUnit ht waitcnt channel drive wordTransfer unit)
  | case2 unit t hge =>
      rw [Core.transferUnits, dif_neg hge]
      exact ht

theorem transferChannel (h : RegisterInvariant P) {system : System}
    (hsystem : P system.devices.dma) (waitcnt : WaitcntPointer) (channel : Fin 4) (drive : Bool)
    (busCycles : U32) :
    P (transferChannel waitcnt channel drive system busCycles).system.devices.dma :=
  h.transferUnits waitcnt channel drive _ _ _ hsystem

end RegisterInvariant

/-- The consistency of the channels is an invariant of the registers. -/
theorem consistent_registerInvariant : RegisterInvariant DmaController.Consistent where
  writeSource h channel _ := h.modify channel ⟨(h channel).1, (h channel).2, (h channel).3⟩
  writeDestination h channel _ := h.modify channel ⟨(h channel).1, (h channel).2, (h channel).3⟩
  writeWordCount h channel _ := h.modify channel ⟨(h channel).1, (h channel).2, (h channel).3⟩
  writeControl h channel value := h.writeControl channel value
  latch h channel _ := h.modify channel ⟨(h channel).1, (h channel).2, (h channel).3⟩

/-- So is the exactness of the pending flag. -/
theorem pendingExact_registerInvariant : RegisterInvariant DmaController.PendingExact where
  writeSource h channel _ := h.modify channel rfl
  writeDestination h channel _ := h.modify channel rfl
  writeWordCount h channel _ := h.modify channel rfl
  writeControl h channel value := h.writeControl channel value
  latch h channel _ := h.modify channel rfl

end Gba.Core
