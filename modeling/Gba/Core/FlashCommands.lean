import Gba.Core.GamePakSave

/-!
# Safety of flash commands

A flash chip changes its contents only when a complete command sequence asks for it. Read
`writeAll_follows` first: the command state remembers how the writes so far end, so a state in
which the next write changes something is reached only by the sequence that allows the change.
-/

namespace Gba.Core

/-- A write to the save aperture: its offset and value. -/
structure ApertureWrite where
  offset : Nat
  value : U8

/-- The chip address and value of a write. The aperture shows one bank. -/
def ApertureWrite.command (write : ApertureWrite) : Nat × U8 :=
  (write.offset % kFlashBankSize, write.value)

/-- The two writes that start every command. -/
def unlockSequence : List (Nat × U8) :=
  [(kFlashUnlockAddress1, 0xAA), (kFlashUnlockAddress2, 0x55)]

/-- The writes before the byte of a program command. -/
def programSequence : List (Nat × U8) := unlockSequence ++ [(kFlashUnlockAddress1, 0xA0)]

/-- The writes before the last one of an erase command. -/
def eraseSequence : List (Nat × U8) :=
  unlockSequence ++ [(kFlashUnlockAddress1, 0x80)] ++ unlockSequence

/-- The writes before the bank number of a bank-switch command. -/
def bankSequence : List (Nat × U8) := unlockSequence ++ [(kFlashUnlockAddress1, 0xB0)]

/-- The writes of the command in progress. -/
def FlashCommandState.written : FlashCommandState → List (Nat × U8)
  | .idle => []
  | .unlock1 => [(kFlashUnlockAddress1, 0xAA)]
  | .unlock2 => unlockSequence
  | .programData => programSequence
  | .eraseUnlock1 => unlockSequence ++ [(kFlashUnlockAddress1, 0x80)]
  | .eraseUnlock2 =>
      unlockSequence ++ [(kFlashUnlockAddress1, 0x80)] ++ [(kFlashUnlockAddress1, 0xAA)]
  | .eraseCommand => eraseSequence
  | .bankSelect => bankSequence

namespace GamePakSave

/-- A write through the aperture, without its acceptance. -/
def write (s : GamePakSave) (w : ApertureWrite) : GamePakSave := (s.writeByte w.offset w.value).1

/-- A sequence of writes through the aperture. -/
def writeAll (s : GamePakSave) (writes : List ApertureWrite) : GamePakSave :=
  writes.foldl write s

/-- Flash hardware that has just been selected: no command is in progress. -/
structure FlashSelected (s : GamePakSave) : Prop where
  flash : s.isFlash = true
  sized : s.Sized
  idle : s.flashCommandState = .idle

theorem configure_flashSelected (s : GamePakSave) {type : GamePakSaveType}
    (h : type = .flash64k ∨ type = .flash128k) : (s.configure type).FlashSelected := by
  obtain rfl | rfl := h
  · exact ⟨rfl, s.sized_configure _, rfl⟩
  · exact ⟨rfl, s.sized_configure _, rfl⟩

/-- A byte of the save belongs to the bank that the chip shows. -/
def InSelectedBank (s : GamePakSave) (index : Nat) : Prop :=
  index / kFlashBankSize = if s.saveType = .flash128k then s.flashBank.toNat else 0

/-- What a write may do after the given writes: nothing, or what a complete command sequence
asks for. -/
inductive FlashEffect (history : List (Nat × U8)) (s : GamePakSave) (w : ApertureWrite)
    (t : GamePakSave) : Prop
  | unchanged (hdata : t.data = s.data) (hbank : t.flashBank = s.flashBank)
  | program (index : Nat) (hsequence : programSequence <:+ history)
      (hindex : index < s.data.length) (hselected : s.InSelectedBank index)
      (haddress : index % kFlashBankSize = w.offset % kFlashBankSize)
      (hdata : t.data = s.data.modify index (· &&& w.value)) (hbank : t.flashBank = s.flashBank)
  | eraseSector (sector : Nat) (hsequence : eraseSequence <:+ history) (hvalue : w.value = 0x30)
      (hselected : ∀ index, index / kFlashSectorSize = sector → s.InSelectedBank index)
      (haddress : sector % (kFlashBankSize / kFlashSectorSize) =
        w.offset % kFlashBankSize / kFlashSectorSize)
      (hlength : t.data.length = s.data.length)
      (hdata : ∀ index < s.data.length, t.dataAt index =
        if index / kFlashSectorSize = sector then 0xFF else s.dataAt index)
      (hbank : t.flashBank = s.flashBank)
  | eraseChip (hsequence : eraseSequence <:+ history)
      (hcommand : w.command = (kFlashUnlockAddress1, 0x10))
      (hdata : t.data = List.replicate s.data.length 0xFF) (hbank : t.flashBank = s.flashBank)
  | switchBank (hsequence : bankSequence <:+ history)
      (haddress : w.command.1 = kFlashBankSelectAddress) (hdata : t.data = s.data)
      (hbank : t.flashBank = if s.saveType = .flash128k then w.value &&& 0x01 else 0)

/-! ## Banks and sectors -/

theorem flashEffectiveOffset_mod (s : GamePakSave) (offset : Nat) :
    s.flashEffectiveOffset offset % kFlashBankSize = offset % kFlashBankSize := by
  unfold flashEffectiveOffset kFlashBankSize
  split <;> omega

theorem flashEffectiveOffset_inSelectedBank (s : GamePakSave) (offset : Nat) :
    s.InSelectedBank (s.flashEffectiveOffset offset) := by
  unfold InSelectedBank flashEffectiveOffset kFlashBankSize
  split <;> omega

/-- A sector lies in one bank. -/
theorem InSelectedBank.of_sector {s : GamePakSave} {index other : Nat}
    (h : s.InSelectedBank index)
    (hsector : other / kFlashSectorSize = index / kFlashSectorSize) : s.InSelectedBank other := by
  have hbank : other / kFlashBankSize = index / kFlashBankSize := by
    unfold kFlashBankSize
    unfold kFlashSectorSize at hsector
    omega
  exact hbank.trans h

/-- Every offset that a flash command computes is inside the chip. -/
theorem Sized.flashEffectiveOffset_lt {s : GamePakSave} (h : s.Sized) (hflash : s.isFlash = true)
    (offset : Nat) : s.flashEffectiveOffset offset < s.data.length := by
  have hle : s.flashBank.toNat ≤ 1 := h.bank_le
  rw [h.length_eq]
  unfold isFlash at hflash
  unfold flashEffectiveOffset kFlashBankSize
  cases htype : s.saveType with
  | flash64k => simp only [saveSizeForType, reduceCtorEq, if_false]; omega
  | flash128k => simp only [saveSizeForType, if_true]; omega
  | _ => simp [htype] at hflash

/-- A flash chip consists of whole sectors. -/
theorem Sized.sector_lt {s : GamePakSave} (h : s.Sized) (hflash : s.isFlash = true)
    (offset : Nat) :
    s.flashEffectiveOffset offset / kFlashSectorSize * kFlashSectorSize + kFlashSectorSize ≤
      s.data.length := by
  have hlt := h.flashEffectiveOffset_lt hflash offset
  have hwhole : s.data.length % kFlashSectorSize = 0 := by
    rw [h.length_eq]
    unfold isFlash at hflash
    cases htype : s.saveType with
    | flash64k => rfl
    | flash128k => rfl
    | _ => simp [htype] at hflash
  unfold kFlashSectorSize at hwhole ⊢
  omega

theorem present_of_flash {s : GamePakSave} (h : s.Sized) (hflash : s.isFlash = true) :
    s.present = true := by
  have hlt := h.flashEffectiveOffset_lt hflash 0
  have hne : s.saveType ≠ .none := by
    intro hnone
    simp [isFlash, hnone] at hflash
  have hdata : s.data ≠ [] := List.ne_nil_of_length_pos (by omega)
  simp [present, hne, hdata]

theorem write_eq_of_flash {s : GamePakSave} (h : s.Sized) (hflash : s.isFlash = true)
    (w : ApertureWrite) : s.write w = (s.writeFlashByte w.offset w.value).1 := by
  have hpresent := present_of_flash h hflash
  have haperture : s.supportsMemoryAperture = true := by
    unfold isFlash at hflash
    unfold supportsMemoryAperture
    rw [hpresent, Bool.or_assoc, hflash]
    simp
  unfold write writeByte
  rw [haperture, hflash]
  rfl

/-- An erased range reads `0xFF`, every other byte as before. -/
theorem getD_eraseRange (data : List U8) {start count : Nat} (index : Nat)
    (hrange : start + count ≤ data.length) :
    (eraseRange data start count).getD index 0 =
      if start ≤ index ∧ index < start + count then 0xFF else data.getD index 0 := by
  have hcount : min count (data.length - start) = count := by omega
  have htake : (data.take start).length = start := by
    rw [List.length_take]
    omega
  unfold eraseRange
  rw [hcount, List.append_assoc]
  simp only [List.getD_eq_getElem?_getD, List.getElem?_append, htake, List.getElem?_take,
    List.length_replicate, List.getElem?_replicate, List.getElem?_drop]
  split_ifs
  any_goals omega
  · rfl
  · rfl
  · rw [show start + count + (index - start - count) = index by omega]

/-- An erased sector reads `0xFF`, every other byte as before. -/
theorem getD_eraseSector (data : List U8) {sector : Nat} (index : Nat)
    (hsector : sector * kFlashSectorSize + kFlashSectorSize ≤ data.length) :
    (eraseRange data (sector * kFlashSectorSize) kFlashSectorSize).getD index 0 =
      if index / kFlashSectorSize = sector then 0xFF else data.getD index 0 := by
  rw [getD_eraseRange data index hsector]
  refine if_congr ?_ rfl rfl
  unfold kFlashSectorSize
  omega

/-! ## The command state and the writes before it -/

/-- A write either leaves no command in progress or is the next write of the command. -/
theorem writeFlashByte_written (s : GamePakSave) (w : ApertureWrite) :
    (s.writeFlashByte w.offset w.value).1.flashCommandState = .idle ∨
      (s.writeFlashByte w.offset w.value).1.flashCommandState.written =
        s.flashCommandState.written ++ [w.command] := by
  unfold writeFlashByte ApertureWrite.command
  cases hstate : s.flashCommandState with
  | idle =>
      dsimp only
      split_ifs with _ hunlock
      · exact .inl rfl
      · exact .inr (by rw [hunlock.1, hunlock.2]; rfl)
      · exact .inl hstate
  | unlock1 =>
      dsimp only
      split_ifs with hunlock
      · exact .inr (by rw [hunlock.1, hunlock.2]; rfl)
      · exact .inl rfl
  | unlock2 =>
      dsimp only
      split_ifs with haddress hid hprogram herase hbank
      · exact .inl rfl
      · exact .inl rfl
      · exact .inr (by rw [not_not.mp haddress, hprogram]; rfl)
      · exact .inr (by rw [not_not.mp haddress, herase]; rfl)
      · exact .inr (by rw [not_not.mp haddress, hbank]; rfl)
      · exact .inl rfl
      · exact .inl rfl
  | programData => exact .inl rfl
  | eraseUnlock1 =>
      dsimp only
      split_ifs with hunlock
      · exact .inr (by rw [hunlock.1, hunlock.2]; rfl)
      · exact .inl rfl
  | eraseUnlock2 =>
      dsimp only
      split_ifs with hunlock
      · exact .inr (by rw [hunlock.1, hunlock.2]; rfl)
      · exact .inl rfl
  | eraseCommand =>
      dsimp only
      split_ifs <;> exact .inl rfl
  | bankSelect =>
      dsimp only
      split_ifs <;> exact .inl rfl

/-- What one write does, given that the writes so far end with those of the command in
progress. -/
theorem writeFlashByte_effect {s : GamePakSave} (h : s.Sized) (hflash : s.isFlash = true)
    {history : List (Nat × U8)} (hwritten : s.flashCommandState.written <:+ history)
    (w : ApertureWrite) :
    s.FlashEffect history w (s.writeFlashByte w.offset w.value).1 := by
  unfold writeFlashByte
  cases hstate : s.flashCommandState with
  | programData =>
      rw [hstate] at hwritten
      exact .program (s.flashEffectiveOffset w.offset) hwritten
        (h.flashEffectiveOffset_lt hflash w.offset) (s.flashEffectiveOffset_inSelectedBank w.offset)
        (s.flashEffectiveOffset_mod w.offset) rfl rfl
  | eraseCommand =>
      rw [hstate] at hwritten
      dsimp only
      split_ifs with hchip hsector
      · exact .eraseChip hwritten (Prod.ext hchip.1 hchip.2) rfl rfl
      · refine .eraseSector (s.flashEffectiveOffset w.offset / kFlashSectorSize) hwritten hsector
          (fun index hindex => ?_) ?_ (length_eraseRange _) (fun index hindex => ?_) rfl
        · exact (s.flashEffectiveOffset_inSelectedBank w.offset).of_sector hindex
        · have hmod := s.flashEffectiveOffset_mod w.offset
          unfold kFlashBankSize at hmod ⊢
          unfold kFlashSectorSize
          omega
        · exact getD_eraseSector s.data index (h.sector_lt hflash w.offset)
      · exact .unchanged rfl rfl
  | bankSelect =>
      rw [hstate] at hwritten
      dsimp only
      split_ifs with haddress htype
      · exact .switchBank hwritten haddress rfl (if_pos htype).symm
      · exact .switchBank hwritten haddress rfl (if_neg htype).symm
      · exact .unchanged rfl rfl
  | idle => dsimp only; split_ifs <;> exact .unchanged rfl rfl
  | unlock1 => dsimp only; split_ifs <;> exact .unchanged rfl rfl
  | unlock2 => dsimp only; split_ifs <;> exact .unchanged rfl rfl
  | eraseUnlock1 => dsimp only; split_ifs <;> exact .unchanged rfl rfl
  | eraseUnlock2 => dsimp only; split_ifs <;> exact .unchanged rfl rfl

/-! ## Runs -/

/-- A flash chip whose command in progress is the end of the writes so far. -/
structure Follows (history : List (Nat × U8)) (s : GamePakSave) : Prop where
  flash : s.isFlash = true
  sized : s.Sized
  written : s.flashCommandState.written <:+ history

/-- One write keeps the command state in step with the writes. -/
theorem Follows.write {history : List (Nat × U8)} {s : GamePakSave} (h : s.Follows history)
    (w : ApertureWrite) : (s.write w).Follows (history ++ [w.command]) := by
  rw [write_eq_of_flash h.sized h.flash]
  obtain ⟨htype, hsized⟩ := h.sized.writeFlashByte w.offset w.value
  refine ⟨?_, hsized, ?_⟩
  · unfold isFlash
    rw [htype]
    exact h.flash
  · obtain hidle | hnext := s.writeFlashByte_written w
    · rw [hidle]
      exact List.nil_suffix
    · rw [hnext]
      obtain ⟨before, hhistory⟩ := h.written
      exact ⟨before, by rw [← hhistory, List.append_assoc]⟩

/-- The command state remembers how the writes since the selection of the chip end. -/
theorem writeAll_follows {s : GamePakSave} (h : s.FlashSelected) (writes : List ApertureWrite) :
    (s.writeAll writes).Follows (writes.map ApertureWrite.command) := by
  induction writes using List.reverseRecOn with
  | nil => exact ⟨h.flash, h.sized, by rw [writeAll, List.foldl_nil, h.idle]; exact List.nil_suffix⟩
  | append_singleton writes w ih =>
      rw [writeAll, List.foldl_append, List.map_append]
      exact ih.write w

/-- The contents of a flash chip and its bank change only on the last write of a complete
command sequence. -/
theorem write_flashEffect {s : GamePakSave} (h : s.FlashSelected) (writes : List ApertureWrite)
    (w : ApertureWrite) :
    (s.writeAll writes).FlashEffect (writes.map ApertureWrite.command) w
      ((s.writeAll writes).write w) := by
  have hfollows := writeAll_follows h writes
  rw [write_eq_of_flash hfollows.sized hfollows.flash]
  exact writeFlashByte_effect hfollows.sized hfollows.flash hfollows.written w

/-- A 64 KiB chip in a cartridge that had no save before. -/
def blankFlash64 : GamePakSave :=
  configure
    { saveType := .none, data := [], flashCommandState := .idle, flashIdMode := false,
      flashBank := 0 }
    .flash64k

/-- The writes of `programSequence`. -/
def programWrites : List ApertureWrite := [⟨0x5555, 0xAA⟩, ⟨0x2AAA, 0x55⟩, ⟨0x5555, 0xA0⟩]

theorem write_flashEffect_program :
    (blankFlash64.writeAll programWrites).FlashEffect programSequence ⟨0x1234, 0x5A⟩
      ((blankFlash64.writeAll programWrites).write ⟨0x1234, 0x5A⟩) :=
  write_flashEffect (configure_flashSelected _ (.inl rfl)) programWrites ⟨0x1234, 0x5A⟩

end GamePakSave

end Gba.Core
