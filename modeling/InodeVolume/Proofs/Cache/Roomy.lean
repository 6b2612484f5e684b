import Mathlib.Data.Fintype.Card
import InodeVolume.Proofs.Blind
import InodeVolume.Proofs.Cache.Lawful

/-!
# Caches with room for every sector

A cache with more slots than its device has sectors never gives one up. Then nothing is written to the
device before a sync or a shutdown, however much is read and written.
-/

namespace InodeVolume

namespace CachedDisk

variable {D : Type} {n : Nat} [BlockDevice D] [LawfulDevice D] {disk : CachedDisk D n}
  {array kept : SectorArray} {sector : SectorId}

open LawfulDevice (sectors)

/-- One of more slots than there are sectors is empty. -/
theorem Shows.exists_vacant (shown : disk.Shows array) (room : array.count < n) :
    ∃ i, disk.cache.vacant? = some i := by
  cases vacancy : disk.cache.vacant? with
  | some i => exact ⟨i, rfl⟩
  | none =>
      have filled : ∀ i : Fin n, ∃ entry, disk.cache.copy i = some entry := by
        intro i
        have full := Vector.findFinIdx?_eq_none_iff.mp vacancy disk.cache.slots[i] (by simp)
        cases held : disk.cache.slots[i] with
        | none => exact absurd (by rw [held]; rfl) full
        | some entry => exact ⟨entry.unmarked, Cache.copy_of_slot held⟩
      choose entry held using filled
      let place (i : Fin n) : Fin array.count := ⟨(entry i).sector.index, (shown.held i _ (held i)).1⟩
      have apart : Function.Injective place := fun i j same =>
        shown.apart i j _ _ (held i) (held j) (SectorId.index_injective (Fin.mk.inj same))
      have most := Fintype.card_le_of_injective place apart
      rw [Fintype.card_fin, Fintype.card_fin] at most
      exact absurd room (Nat.not_lt.mpr most)

/-- A sector is brought in without writing to the device. -/
theorem resident_still (shown : disk.Shows array) (room : array.count < n) (inside : sector ∈ array) :
    (resident sector).Ensures disk (fun _ after => sectors after.device = sectors disk.device)
      fun _ _ => False := by
  unfold resident
  refine .bind (Action.ensures_get.mpr ?_)
  cases disk.cache.find? sector with
  | some place => exact .bind (Action.ensures_emit.mpr (Action.ensures_pure.mpr rfl))
  | none =>
      obtain ⟨i, vacant⟩ := shown.exists_vacant room
      have onDevice : sector ∈ sectors disk.device := shown.mem_device_iff.mpr inside
      refine .bind (Action.ensures_emit.mpr (.bind ?_))
      unfold makeRoom
      refine .bind (Action.ensures_get.mpr ?_)
      rw [vacant]
      refine Action.ensures_pure.mpr (.bind (Action.ensures_within.mpr ?_))
      refine (LawfulDevice.read shown.sound onDevice).mono ?_ fun _ _ failed => failed
      rintro data after ⟨-, -, same⟩
      exact .bind (Action.ensures_within.mpr (Action.ensures_modify.mpr (Action.ensures_pure.mpr same)))

section Ranges

variable {buffer : Bytes} {start length offset : Nat}

theorem readInto_still (shown : disk.Shows array) (room : array.count < n) (inside : sector ∈ array)
    (fits : offset + length ≤ sectorSize) (within : start + length ≤ buffer.size) (small : buffer.size < wordLimit) :
    (readInto sector buffer start length offset).Ensures disk
      (fun _ after => sectors after.device = sectors disk.device) fun _ _ => False := by
  refine .bind (requireWithin_ensures fits (.bind ?_))
  refine (resident_still shown room inside).mono ?_ fun _ _ failed => failed
  rintro ⟨i, entry⟩ after same
  refine .bind (requireInside_ensures within small ?_)
  exact .bind (Action.ensures_within.mpr (Action.ensures_modify.mpr (Action.ensures_pure.mpr same)))

theorem writeFrom_still (shown : disk.Shows array) (room : array.count < n) (inside : sector ∈ array)
    (fits : offset + length ≤ sectorSize) (within : start + length ≤ buffer.size) (small : buffer.size < wordLimit) :
    (writeFrom sector buffer start length offset).Ensures disk
      (fun _ after => sectors after.device = sectors disk.device) fun _ _ => False := by
  refine .bind (requireWithin_ensures fits (.bind ?_))
  refine (resident_still shown room inside).mono ?_ fun _ _ failed => failed
  rintro ⟨i, entry⟩ after same
  refine .bind (requireInside_ensures within small ?_)
  have fits' : offset + (Bytes.slice buffer start length).size ≤ sectorSize := by
    rw [Bytes.size_slice _ within]
    exact fits
  simp only [dif_pos fits']
  exact Action.ensures_within.mpr (Action.ensures_modify.mpr same)

end Ranges

theorem shows_keeps {closing : Prop} : Keeps (Shows : CachedDisk D n → SectorArray → Prop) closing :=
  LawfulStore.keeps

/-- The disk shows the array and has room for all of it, and its device is as it was. -/
structure Roomy (kept : SectorArray) (disk : CachedDisk D n) (array : SectorArray) : Prop where
  shown : disk.Shows array
  room : array.count < n
  still : sectors disk.device = kept

/-- **Room for every sector.** Reading and writing leave the device as it was. -/
theorem roomy_keeps : Keeps (Roomy kept : CachedDisk D n → SectorArray → Prop) False where
  read := by
    intro disk array sector offset length roomy fits inside
    have small : length < wordLimit := Nat.lt_of_le_of_lt (by omega : length ≤ sectorSize) (by decide)
    have still : (SectorStore.read sector offset length).Ensures disk
        (fun _ after => sectors after.device = sectors disk.device) fun _ _ => True := by
      refine .bind ((readInto_still roomy.shown roomy.room inside fits (by simp) (by simpa using small)).mono ?_
        fun _ _ _ => trivial)
      intro bytes after same
      split
      · exact Action.ensures_pure.mpr same
      · exact Action.ensures_fault.mpr trivial
    refine ((LawfulStore.read roomy.shown fits inside).and still).mono ?_ fun _ _ failed => failed.1
    rintro block after ⟨⟨rfl, shown⟩, same⟩
    exact ⟨rfl, shown, roomy.room, same.trans roomy.still⟩
  write := by
    intro disk array sector offset bytes roomy fits inside
    have small : bytes.size < wordLimit :=
      Nat.lt_of_le_of_lt (by omega : bytes.size ≤ sectorSize) (by decide)
    have still : (SectorStore.write sector offset bytes).Ensures disk
        (fun _ after => sectors after.device = sectors disk.device) fun _ _ => False :=
      writeFrom_still roomy.shown roomy.room inside fits (by omega) small
    refine ((LawfulStore.write roomy.shown fits inside).and still).mono ?_ fun _ _ failed => failed.1
    rintro _ after ⟨shown, same⟩
    exact ⟨shown, by rw [SectorArray.count_set]; exact roomy.room, same.trans roomy.still⟩
  sync closes := closes.elim
  shutdown closes := closes.elim

end CachedDisk

end InodeVolume
