import InodeVolume.Proofs.Cache.Lawful
import InodeVolume.Proofs.MayEnd

/-!
# Requests past the end of a device

A cached disk answers a request past the end of its device with a fault, and shows the same array
afterwards. What a cache writes to its device is what it shows, so while nothing is changed the device
stays the array, whichever slots are given up meanwhile.
-/

namespace InodeVolume

/-- Devices that refuse to read past their last sector, and stay as they are then. -/
class RefusingDevice (D : Type) [BlockDevice D] [LawfulDevice D] : Prop where
  refuses {device : D} {sector : SectorId} : LawfulDevice.Sound device → sector ∉ LawfulDevice.sectors device →
    (BlockDevice.readSector sector.index sectorSize).Ensures device (fun _ _ => False)
      fun failure after => (∃ why, failure = .fault why) ∧ LawfulDevice.Sound after ∧
        LawfulDevice.sectors after = LawfulDevice.sectors device

instance : RefusingDevice RamDisk where
  refuses := by
    intro disk sector _ outside
    have past : disk.sectors[sector.index]? = none := Array.getElem?_eq_none (Nat.not_lt.mp outside)
    show Action.Ensures (RamDisk.readSector _ _) _ _ _
    unfold RamDisk.readSector
    rw [dif_pos rfl]
    refine .bind (Action.ensures_modify.mpr (.bind (Action.ensures_get.mpr ?_)))
    rw [past]
    exact Action.ensures_fault.mpr ⟨⟨_, rfl⟩, trivial, rfl⟩

namespace CachedDisk

variable {D : Type} {n : Nat} [BlockDevice D] [LawfulDevice D] {still : Prop} {disk : CachedDisk D n}
  {array : SectorArray} {sector : SectorId} {i : Fin n}

open LawfulDevice (Sound sectors)

/-- The disk shows the array, and where nothing is changed so does the device. -/
structure Stands (still : Prop) (disk : CachedDisk D n) (array : SectorArray) : Prop where
  shown : disk.Shows array
  device : still → sectors disk.device = array

/-- A copy that is written back is the array's. -/
theorem flush_stands (stood : disk.Stands still array) (i : Fin n) :
    (flush i).Ensures disk
      (fun _ after => after.Stands still array ∧ ∀ j, after.cache.copy j = if j = i then none else disk.cache.copy j)
      fun _ _ => False := by
  have device : (flush i).Ensures disk (fun _ after => still → sectors after.device = array) fun _ _ => False := by
    have cleared : (onCache (modify (·.clear i)) : Action (CachedDisk D n) PUnit).Ensures disk
        (fun _ after => still → sectors after.device = array) fun _ _ => False :=
      Action.ensures_within.mpr (Action.ensures_modify.mpr stood.device)
    unfold flush slot
    refine .bind (.bind (Action.ensures_get.mpr (Action.ensures_pure.mpr ?_)))
    cases here : disk.cache.slots[i] with
    | none => exact cleared
    | some entry =>
        cases dirty : entry.dirty with
        | false =>
            simp only [dirty]
            exact cleared
        | true =>
            obtain ⟨inside, copied⟩ := stood.shown.held i entry.unmarked (Cache.copy_of_slot here)
            have onDevice : entry.sector ∈ sectors disk.device := stood.shown.mem_device_iff.mpr inside
            simp only [dirty]
            refine .bind (Action.ensures_within.mpr ?_)
            refine (LawfulDevice.write stood.shown.sound onDevice entry.data).mono ?_ fun _ _ failed => failed
            rintro _ device ⟨-, written⟩
            refine Action.ensures_within.mpr (Action.ensures_modify.mpr fun held => ?_)
            have data : entry.data = array.get entry.sector := copied
            show sectors device = array
            rw [written, stood.device held, data, SectorArray.set_get_self]
  refine ((flush_ensures stood.shown i).and device).mono ?_ fun _ _ failed => failed.1
  rintro _ after ⟨⟨shown, copies⟩, same⟩
  exact ⟨⟨shown, same⟩, copies⟩

theorem makeRoom_stands (stood : disk.Stands still array) (newcomer : SectorId) :
    (makeRoom newcomer).Ensures disk
      (fun i after => after.Stands still array ∧ after.cache.copy i = none ∧
        ∀ j entry, after.cache.copy j = some entry → disk.cache.copy j = some entry)
      fun _ _ => False := by
  have device : (makeRoom newcomer).Ensures disk (fun _ after => still → sectors after.device = array)
      fun _ _ => False := by
    unfold makeRoom
    refine .bind (Action.ensures_get.mpr ?_)
    cases vacancy : disk.cache.vacant? with
    | some i => exact Action.ensures_pure.mpr stood.device
    | none =>
        have kept : (⟨disk.device, disk.cache.victim.2⟩ : CachedDisk D n).Stands still array :=
          ⟨stood.shown.congr rfl (Cache.copy_victim disk.cache), stood.device⟩
        unfold slot
        refine .bind (Action.ensures_within.mpr (Action.ensures_modifyGet.mpr ?_))
        refine .bind (.bind (Action.ensures_get.mpr (Action.ensures_pure.mpr ?_)))
        refine .bind (Action.ensures_emit.mpr (.bind ?_))
        exact (flush_stands kept disk.cache.victim.1).mono
          (fun _ _ done => Action.ensures_pure.mpr done.1.device) fun _ _ failed => failed
  refine ((makeRoom_ensures stood.shown newcomer).and device).mono ?_ fun _ _ failed => failed.1
  rintro i after ⟨⟨shown, vacant, remaining⟩, same⟩
  exact ⟨⟨shown, same⟩, vacant, remaining⟩

variable [RefusingDevice D]

/-- A sector is brought in, or it is past the end. -/
theorem resident_stands (stood : disk.Stands still array) (sector : SectorId) :
    (resident sector).Ensures disk
      (fun found after => sector ∈ array ∧ after.Stands still array ∧
        after.cache.copy found.1 = some found.2.unmarked ∧ found.2.sector = sector)
      fun failure after => (∃ why, failure = .fault why) ∧ after.Stands still array := by
  have device : (resident sector).Ensures disk (fun _ after => sector ∈ array ∧ (still → sectors after.device = array))
      fun failure after => (∃ why, failure = .fault why) ∧ after.Stands still array := by
    unfold resident
    refine .bind (Action.ensures_get.mpr ?_)
    cases found : disk.cache.find? sector with
    | some place =>
        obtain ⟨held, rfl⟩ := Cache.copy_of_find? found
        have inside := (stood.shown.held _ _ held).1
        exact .bind (Action.ensures_emit.mpr (Action.ensures_pure.mpr ⟨inside, stood.device⟩))
    | none =>
        refine .bind (Action.ensures_emit.mpr (.bind ?_))
        refine (makeRoom_stands stood sector).mono ?_ fun _ _ failed => failed.elim
        rintro i ⟨device, cache⟩ ⟨room, -, -⟩
        refine .bind (Action.ensures_within.mpr ?_)
        by_cases inside : sector ∈ array
        · refine (LawfulDevice.read room.shown.sound (room.shown.mem_device_iff.mpr inside)).mono ?_ fun _ _ failed => failed.elim
          rintro data after ⟨-, -, same⟩
          refine .bind (Action.ensures_within.mpr (Action.ensures_modify.mpr (Action.ensures_pure.mpr ⟨inside, ?_⟩)))
          intro held
          show sectors after = array
          rw [same]
          exact room.device held
        · have offDevice : sector ∉ sectors device := fun there => inside (room.shown.mem_device_iff.mp there)
          refine (RefusingDevice.refuses room.shown.sound offDevice).mono (fun _ _ never => never.elim) ?_
          rintro failure after ⟨refused, sound, same⟩
          refine ⟨refused, ⟨sound, ?_, room.shown.held, room.shown.apart, ?_⟩, fun held => ?_⟩
          · rw [same]
            exact room.shown.count
          · rw [same]
            exact room.shown.behind
          · show sectors after = array
            rw [same]
            exact room.device held
  by_cases inside : sector ∈ array
  · refine ((resident_ensures stood.shown inside).and device).mono ?_ fun _ _ failed => failed.2
    rintro found after ⟨⟨shown, held, same⟩, -, kept⟩
    exact ⟨inside, ⟨shown, kept⟩, held, same⟩
  · exact device.mono (fun _ _ done => absurd done.1 inside) fun _ _ failed => failed

omit [BlockDevice D] [LawfulDevice D] [RefusingDevice D] in
/-- A range that does not lie in a sector is refused before anything is done. -/
theorem requireWithin_cases (offset length : Nat) :
    (requireWithin offset length).Ensures disk (fun _ after => offset + length ≤ sectorSize ∧ after = disk)
      fun failure after => (∃ why, failure = .fault why) ∧ after = disk := by
  refine .bind (Action.ensures_checkedAdd.mpr ?_)
  split
  · refine Action.ensures_require.mpr ?_
    split
    · rename_i fits
      exact ⟨of_decide_eq_true fits, rfl⟩
    · exact ⟨⟨_, rfl⟩, rfl⟩
  · exact ⟨⟨_, rfl⟩, rfl⟩

/-- A read that is met changes marks alone. -/
theorem readInto_stands (stood : disk.Stands still array) (sector : SectorId) {buffer : Bytes} {start length offset : Nat}
    (room : start + length ≤ buffer.size) (small : buffer.size < wordLimit) :
    (readInto sector buffer start length offset).Ensures disk
      (fun _ after => (offset + length ≤ sectorSize ∧ sector ∈ array) ∧ after.Stands still array)
      fun failure after => (∃ why, failure = .fault why) ∧ after.Stands still array := by
  refine .bind ((requireWithin_cases offset length).mono ?_ ?_)
  · rintro _ _ ⟨fits, rfl⟩
    refine .bind ((resident_stands stood sector).mono ?_ fun _ _ failed => failed)
    rintro ⟨i, entry⟩ ⟨device, cache⟩ ⟨inside, there, held, rfl⟩
    refine .bind (requireInside_ensures room small ?_)
    refine .bind (Action.ensures_within.mpr (Action.ensures_modify.mpr (Action.ensures_pure.mpr ?_)))
    exact ⟨⟨fits, inside⟩, there.shown.congr rfl (Cache.copy_put_self held), there.device⟩
  · rintro failure _ ⟨refused, rfl⟩
    exact ⟨refused, stood⟩

theorem read_stands (stood : disk.Stands still array) (sector : SectorId) (offset length : Nat) :
    (read sector offset length).Ensures disk
      (fun _ after => (offset + length ≤ sectorSize ∧ sector ∈ array) ∧ after.Stands still array)
      fun failure after => (∃ why, failure = .fault why) ∧ after.Stands still array := by
  by_cases short : length < wordLimit
  · refine .bind ((readInto_stands stood sector ?_ ?_).mono ?_ fun _ _ failed => failed)
    · rw [Bytes.size_fill]
      omega
    · rw [Bytes.size_fill]
      exact short
    · intro bytes after done
      cases Block.ofBytes? (n := length) bytes with
      | some block => exact Action.ensures_pure.mpr done
      | none => exact Action.ensures_fault.mpr ⟨⟨_, rfl⟩, done.2⟩
  · refine .bind (.bind (.bind (Action.ensures_checkedAdd.mpr ?_)))
    rw [if_neg (by omega)]
    exact ⟨⟨_, rfl⟩, stood⟩

/-- A write that is met is a write to the slot of a sector alone. -/
theorem write_stands (stood : disk.Stands still array) (sector : SectorId) (offset : Nat) (bytes : Bytes) :
    (write sector offset bytes).Ensures disk
      (fun _ after => (offset + bytes.size ≤ sectorSize ∧ sector ∈ array) ∧ (still → sectors after.device = array))
      fun failure after => (∃ why, failure = .fault why) ∧ after.Stands still array := by
  refine .bind ((requireWithin_cases offset bytes.size).mono ?_ ?_)
  · rintro _ _ ⟨fits, rfl⟩
    have small : bytes.size < wordLimit := Nat.lt_of_le_of_lt (by omega : bytes.size ≤ sectorSize) (by decide)
    refine .bind ((resident_stands stood sector).mono ?_ fun _ _ failed => failed)
    rintro ⟨i, entry⟩ ⟨device, cache⟩ ⟨inside, there, -⟩
    refine .bind (requireInside_ensures (by omega) small ?_)
    dsimp only
    split
    · exact Action.ensures_within.mpr (Action.ensures_modify.mpr ⟨⟨fits, inside⟩, there.device⟩)
    · exact Action.ensures_fault.mpr ⟨⟨_, rfl⟩, there⟩
  · rintro failure _ ⟨refused, rfl⟩
    exact ⟨refused, stood⟩

/-- **Requests** to a cached disk are met as an array meets them, or refused. -/
theorem bears : Bears still (Stands still : CachedDisk D n → SectorArray → Prop) where
  read := by
    intro disk array sector offset length stood
    have device := read_stands stood sector offset length
    by_cases there : offset + length ≤ sectorSize ∧ sector ∈ array
    · refine ((LawfulStore.read stood.shown there.1 there.2).and device).mono ?_ fun _ _ failed => failed.1.elim
      rintro block after ⟨⟨same, -⟩, -, kept⟩
      exact ⟨there.1, there.2, same, kept⟩
    · exact device.mono (fun _ _ done => absurd done.1 there) fun _ _ failed => failed
  write := by
    intro disk array sector offset bytes stood unchanged
    have device := write_stands stood sector offset bytes
    by_cases there : offset + bytes.size ≤ sectorSize ∧ sector ∈ array
    · refine ((LawfulStore.write stood.shown there.1 there.2).and device).mono ?_ fun _ _ failed => failed.1.elim
      rintro _ after ⟨shown, -, kept⟩
      refine ⟨there.1, there.2, shown, fun held => ?_⟩
      rw [unchanged there.1 there.2 held, SectorArray.set_get_self]
      exact kept held
    · exact device.mono (fun _ _ done => absurd done.1 there) fun _ _ failed => failed
  sync := by
    intro disk array stood
    exact (sync_ensures stood.shown).mono (fun _ _ done => ⟨done.1, fun _ => done.2.1⟩) fun _ _ failed => failed
  shutdown := by
    intro disk array stood
    exact (shutdown_ensures stood.shown).mono (fun _ _ done => ⟨done.1, fun _ => done.2.1⟩) fun _ _ failed => failed

end CachedDisk

end InodeVolume
