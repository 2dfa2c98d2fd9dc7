import Gba.Core.DmaTransfer

/-!
# What a register write does

Every write to the I/O page is one of a few register writes, or is ignored. A property of the
devices that each of them keeps is kept by every store through the bus.
-/

namespace Gba.Core

/-- The register writes of the I/O page. -/
inductive RegisterWrite (d : Devices) : Devices → Prop where
  | ignored : RegisterWrite d d
  | dispstat (value : U16) : RegisterWrite d (d.writeDispstat value)
  | soundcntL (value : U16) : RegisterWrite d { d with apu := d.apu.writeSoundcntL value }
  | soundcntH (value : U16) : RegisterWrite d { d with apu := d.apu.writeSoundcntH value }
  | soundcntX (value : U16) : RegisterWrite d { d with apu := d.apu.writeSoundcntX value }
  | soundbias (value : U16) : RegisterWrite d { d with apu := d.apu.writeSoundbias value }
  | waveRam (index : Fin 8) (value : U16) :
      RegisterWrite d { d with apu := d.apu.writeWaveRam index value }
  | fifo (channel : DirectSoundChannel) (value : U32) :
      RegisterWrite d { d with apu := d.apu.writeFifo channel value }
  | keycnt (value : U16) : RegisterWrite d (d.writeKeycnt value)
  | interruptEnable (value : U16) :
      RegisterWrite d { d with interrupts := d.interrupts.writeInterruptEnable value }
  | interruptFlags (value : U16) :
      RegisterWrite d { d with interrupts := d.interrupts.writeInterruptFlags value }
  | ime (value : U16) : RegisterWrite d { d with interrupts := d.interrupts.writeIme value }
  | waitcnt (value : U16) : RegisterWrite d { d with waitcnt := .writeControl value }
  | lcdControl {address : U32} {value : U16} {ppu : PpuTiming}
      (h : d.ppu.writeLcdControl address value = some ppu) : RegisterWrite d { d with ppu := ppu }
  | timerReload (timer : Fin 4) (value : U16) :
      RegisterWrite d { d with timers := d.timers.writeReload timer value }
  | timerControl (timer : Fin 4) (value : U16) :
      RegisterWrite d { d with timers := d.timers.writeControl timer value }
  | serial (index : Fin 7) (value : U16) :
      RegisterWrite d { d with io := d.io.writeSerial index value }
  | dma {address : U32} {value : U16} {dma : DmaController}
      (h : d.dma.writeRegister address value = some dma) : RegisterWrite d { d with dma := dma }

namespace Devices

theorem writeIndexed_write (d : Devices) (address : U32) (value : U16) :
    RegisterWrite d (d.writeIndexed address value).2 := by
  unfold writeIndexed
  cases serialIndex address with
  | some index => exact .serial index value
  | none =>
    dsimp only
    split
    · exact .ignored
    cases waveRamIndex address with
    | some index => exact .waveRam index value
    | none =>
      cases hwrite : d.dma.writeRegister address value with
      | some dma => exact .dma hwrite
      | none => exact .ignored

theorem writeBanked_write (d : Devices) (address : U32) (value : U16) :
    RegisterWrite d (d.writeBanked address value).2 := by
  unfold writeBanked
  cases hlcd : d.ppu.writeLcdControl address value with
  | some ppu => exact .lcdControl hlcd
  | none =>
    cases timerIndex address with
    | some timer =>
        dsimp only
        split_ifs
        · exact .timerReload timer.1 value
        · exact .timerControl timer.1 value
        · exact .ignored
    | none => exact d.writeIndexed_write address value

theorem ite_write {d : Devices} {c : Prop} [Decidable c] {a b : Bool × Devices}
    (ha : RegisterWrite d a.2) (hb : RegisterWrite d b.2) :
    RegisterWrite d (if c then a else b).2 := by
  split
  · exact ha
  · exact hb

/-- A halfword write is one register write. -/
theorem write16_write (d : Devices) (address : U32) (value : U16) :
    RegisterWrite d (d.write16 address value).2 := by
  unfold write16
  -- the registers that have an address of their own, in the order of the source
  refine ite_write .ignored (ite_write (.dispstat value) (ite_write .ignored ?_))
  refine ite_write (.soundcntL value) (ite_write (.soundcntH value) ?_)
  refine ite_write (.soundcntX value) (ite_write (.soundbias value) (ite_write .ignored ?_))
  refine ite_write (.keycnt value) (ite_write (.interruptEnable value) ?_)
  refine ite_write (.interruptFlags value) (ite_write (.waitcnt value) (ite_write (.ime value) ?_))
  exact d.writeBanked_write address value

/-- A word write is two register writes. -/
theorem write32_write (d : Devices) (address value : U32) :
    ∃ middle, RegisterWrite d middle ∧ RegisterWrite middle (d.write32 address value).2 := by
  have htwice : ∀ {d'}, RegisterWrite d d' → ∃ middle, RegisterWrite d middle ∧
      RegisterWrite middle d' := fun h => ⟨d, .ignored, h⟩
  unfold write32
  split
  · exact htwice .ignored
  split
  · exact htwice (d.write16_write address _)
  split
  · exact htwice (.fifo .a value)
  split
  · exact htwice (.fifo .b value)
  · refine ⟨(if canWrite16Address address then d.write16 address (value.setWidth 16)
      else (false, d)).2, ite_write (d.write16_write address _) .ignored, ?_⟩
    unfold writeHalves
    exact ite_write (write16_write _ _ _) .ignored

end Devices

/-- A property that every register write keeps is kept by the I/O facade. -/
theorem keptByIo_of_writes {P : Devices → Prop}
    (h : ∀ {d d'}, RegisterWrite d d' → P d → P d') : BusState.KeptByIo ioCallbacks P where
  write16 := by
    rintro _ ⟨⟩ d address value hd
    exact h (d.write16_write address value) hd
  write32 := by
    rintro _ ⟨⟩ d address value hd
    obtain ⟨middle, hfirst, hsecond⟩ := d.write32_write address value
    exact h hsecond (h hfirst hd)

end Gba.Core
