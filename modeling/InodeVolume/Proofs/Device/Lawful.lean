import InodeVolume.Device.RamDisk
import InodeVolume.Proofs.Ensures

/-!
# Devices that keep what is written to them

`LawfulDevice` says what the layers above expect of a device: within its sectors every request is
met, a read gives the sector as it was last written, and a write changes that sector alone. What
else a device keeps, such as the counts of a `RamDisk`, is its own.
-/

namespace InodeVolume

/-- Devices whose sectors are those of a plain array. `Sound` is what a device keeps of itself. -/
class LawfulDevice (D : Type) [BlockDevice D] where
  Sound : D → Prop
  sectors : D → SectorArray
  count_sectors {device : D} : Sound device →
    (sectors device).count = BlockDevice.sectorCount device
  read {device : D} {sector : SectorId} : Sound device → sector ∈ sectors device →
    (BlockDevice.readSector sector.index sectorSize).Ensures device
      (fun data after => data = (sectors device).get sector ∧ Sound after ∧
        sectors after = sectors device)
      fun _ _ => False
  write {device : D} {sector : SectorId} : Sound device → sector ∈ sectors device →
    ∀ data : Sector, (BlockDevice.writeSector sector.index data.bytes).Ensures device
      (fun _ after => Sound after ∧ sectors after = (sectors device).set sector data)
      fun _ _ => False

namespace RamDisk

variable {disk : RamDisk} {index : Nat}

theorem readSector_ensures (inside : index < disk.sectors.size) :
    (readSector index sectorSize).Ensures disk
      (fun data after => data = disk.sectors[index] ∧ after.sectors = disk.sectors)
      fun _ _ => False := by
  unfold readSector
  rw [dif_pos rfl]
  refine .bind (Action.ensures_modify.mpr (.bind (Action.ensures_get.mpr ?_)))
  simp [inside]

theorem writeSector_ensures (inside : index < disk.sectors.size) (data : Sector) :
    (writeSector index data.bytes).Ensures disk
      (fun _ after => after.sectors = disk.sectors.setIfInBounds index data)
      fun _ _ => False := by
  unfold writeSector
  rw [Block.ofBytes?_bytes]
  refine .bind (Action.ensures_modify.mpr (.bind (Action.ensures_get.mpr ?_)))
  simp [inside]

instance : LawfulDevice RamDisk where
  Sound _ := True
  sectors disk := ⟨disk.sectors⟩
  count_sectors _ := rfl
  read := by
    intro disk sector _ inside
    have bound : sector.index < disk.sectors.size := inside
    refine (readSector_ensures bound).mono ?_ fun _ _ impossible => impossible
    rintro data after ⟨rfl, same⟩
    refine ⟨?_, trivial, by rw [same]⟩
    simp [SectorArray.get, bound]
  write := by
    intro disk sector _ inside data
    refine (writeSector_ensures inside data).mono ?_ fun _ _ impossible => impossible
    intro _ after same
    exact ⟨trivial, by rw [same]; rfl⟩

end RamDisk

end InodeVolume
