import Mathlib.Algebra.Group.Nat.Even
import InodeVolume.Device.ImageFile
import InodeVolume.Proofs.Cache.Refusal
import InodeVolume.Proofs.Contents

/-!
# Devices over host files

The sectors of an `ImageFile` are a plain array, and nothing else of its file ever changes: it stays as long
as it was, and what lies past its last whole sector stays as it was (`Over`).

* **places** — `read_ensures`, `write_ensures` and `refuses_ensures`: how reading and writing end at any place;
* **lawfulness** — `lawful` and `refusing`: for every host file the devices over it are lawful, and refuse to
  read past their end;
* **bytes** — `Over.byte_eq`: a device that shows the sectors of a file is over the same bytes.
-/

namespace InodeVolume

theorem Bytes.slice_of_le {b : Bytes} {length : Nat} (enough : b.size ≤ length) : slice b 0 length = b := by
  apply Bytes.ext_byte
  · rw [size_slice_eq]
    omega
  · intro i inside
    rw [size_slice_eq] at inside
    rw [byte_slice, if_pos (by omega), Nat.zero_add]

namespace ImageFile

variable {file : HostFile} {image : ImageFile} {sector : SectorId}

/-- The device is over a file of which only whole sectors have changed. -/
structure Over (file : HostFile) (image : ImageFile) : Prop where
  sectors : image.sectors = file.length / sectorSize
  length : image.file.length = file.length
  tail : ∀ i, file.length / sectorSize * sectorSize ≤ i → image.file.byte i = file.byte i

theorem over_ofFile (file : HostFile) : Over file (ofFile file) := ⟨rfl, rfl, fun _ _ => rfl⟩

/-- The whole sectors of the file. -/
def contents (image : ImageFile) : SectorArray :=
  ⟨Array.ofFn fun k : Fin image.sectors => image.file.range (k * sectorSize) sectorSize⟩

@[simp] theorem count_contents : image.contents.count = image.sectors := Array.size_ofFn

theorem get_contents (inside : sector ∈ image.contents) :
    image.contents.get sector = image.file.range (sector.index * sectorSize) sectorSize := by
  have bound : sector.index < image.contents.sectors.size := inside
  rw [SectorArray.get, Array.getD_eq_getD_getElem?, Array.getElem?_eq_getElem bound]
  simp [contents]

/-! ## Sectors by place -/

section Places

variable {k : Nat}

/-- Every sector can be moved to. -/
theorem seek_ensures (word : k * sectorSize < wordLimit) (reached : k * sectorSize ≤ image.reach) :
    (seek k).Ensures image (fun start after => start = k * sectorSize ∧ after = image) fun _ _ => False := by
  refine .bind (Action.ensures_checkedMul.mpr ?_)
  rw [if_pos word]
  refine .bind (Action.ensures_get.mpr ?_)
  rw [if_pos reached]
  exact Action.ensures_pure.mpr ⟨rfl, rfl⟩

/-- A sector of a device lies within its file. -/
theorem Over.inside (lies : Over file image) (low : k < image.sectors) :
    k * sectorSize + sectorSize ≤ image.file.length := by
  rw [lies.sectors] at low
  rw [lies.length]
  simp only [sectorSize] at *
  omega

theorem Over.reached (lies : Over file image) (low : k < image.sectors) :
    k * sectorSize + sectorSize ≤ image.reach :=
  Nat.le_trans (lies.inside low) (Nat.le_max_left _ _)

/-- A sector that is read is what the file holds there. -/
theorem read_ensures (lies : Over file image) (low : k < image.sectors) (word : k * sectorSize < wordLimit) :
    (readSector k sectorSize).Ensures image
      (fun data after => data = image.file.range (k * sectorSize) sectorSize ∧ after = image) fun _ _ => False := by
  refine .bind ((seek_ensures word (Nat.le_trans (Nat.le_add_right _ _) (lies.reached low))).mono ?_
    fun _ _ failed => failed)
  rintro _ _ ⟨rfl, rfl⟩
  refine .bind (Action.ensures_get.mpr ?_)
  rw [if_pos (by simp [lies.inside low])]
  exact Action.ensures_pure.mpr ⟨rfl, rfl⟩

/-- None is read past the last. -/
theorem refuses_ensures (lies : Over file image) (past : image.sectors ≤ k) :
    (readSector k sectorSize).Ensures image (fun _ _ => False)
      fun failure after => (∃ why, failure = .fault why) ∧ after = image := by
  have outside : ¬(sectorSize = 0 ∨ k * sectorSize + sectorSize ≤ image.file.length) := by
    rw [lies.sectors] at past
    rw [lies.length]
    simp only [sectorSize] at *
    omega
  refine .bind (.bind (Action.ensures_checkedMul.mpr ?_))
  split
  · refine .bind (Action.ensures_get.mpr ?_)
    split
    · refine Action.ensures_pure.mpr (.bind (Action.ensures_get.mpr ?_))
      rw [if_neg (by simpa using outside)]
      exact Action.ensures_fault.mpr ⟨⟨_, rfl⟩, rfl⟩
    · exact Action.ensures_fault.mpr ⟨⟨_, rfl⟩, rfl⟩
  · exact ⟨⟨_, rfl⟩, rfl⟩

/-- What a whole sector is laid over with shows in that sector alone. -/
theorem contents_overwrite (data : Sector) :
    (contents ⟨image.file.overwrite (k * sectorSize) data.bytes, image.sectors⟩).sectors =
      image.contents.sectors.setIfInBounds k data := by
  have whole : data.bytes.size = 512 := data.size_bytes
  refine Array.ext (by simp [contents]) fun j _ low => ?_
  simp only [contents]
  rw [Array.getElem_setIfInBounds (by simpa [contents] using low), Array.getElem_ofFn]
  refine Block.ext_get fun i => ?_
  have small : i.val < 512 := i.isLt
  rw [HostFile.get_range, HostFile.byte_overwrite]
  split
  · rename_i covered
    have here : k = j := by
      simp only [sectorSize] at *
      omega
    subst here
    rw [if_pos rfl]
    simp only [Block.get]
    congr 1
    omega
  · rename_i other
    have apart : k ≠ j := by
      simp only [sectorSize] at *
      omega
    rw [if_neg apart]
    simp [HostFile.get_range]

/-- A sector that is written shows, and the device is over the same file. -/
theorem write_ensures (lies : Over file image) (low : k < image.sectors) (word : k * sectorSize < wordLimit)
    (data : Sector) :
    (writeSector k data.bytes).Ensures image
      (fun _ after => Over file after ∧ after.contents.sectors = image.contents.sectors.setIfInBounds k data)
      fun _ _ => False := by
  have size : sectorSize = 512 := rfl
  have whole : data.bytes.size = 512 := data.size_bytes
  have reached := lies.reached low
  have within := lies.inside low
  refine .bind ((seek_ensures word (by omega)).mono ?_ fun _ _ failed => failed)
  rintro _ after ⟨rfl, same⟩
  subst same
  refine .bind (Action.ensures_get.mpr (.bind (Action.ensures_modify.mpr ?_)))
  rw [if_neg (by omega), Bytes.slice_of_le (by omega)]
  refine Action.ensures_pure.mpr ⟨⟨lies.sectors, ?_, fun i past => ?_⟩, contents_overwrite data⟩
  · show (after.file.overwrite _ _).length = _
    rw [HostFile.overwrite, if_neg (by omega), ← lies.length]
    exact Nat.max_eq_left (by omega)
  · rw [lies.sectors] at low
    show (after.file.overwrite _ _).byte i = _
    rw [HostFile.byte_overwrite, dif_neg (by simp only [sectorSize] at *; omega)]
    exact lies.tail i past

end Places

/-! ## Lawfulness -/

/-- Sectors that have numbers start at places that are words. -/
theorem start_lt (sector : SectorId) : sector.index * sectorSize < wordLimit := by
  have small := sector.index_lt
  simp only [sectorSize, wordLimit]
  omega

theorem mem_contents : sector ∈ image.contents ↔ sector.index < image.sectors := by
  rw [SectorArray.mem_iff, count_contents]

/-- The devices over a host file are lawful. -/
abbrev lawful (file : HostFile) : LawfulDevice ImageFile where
  Sound := Over file
  sectors := contents
  count_sectors _ := count_contents
  read := by
    intro image sector lies inside
    refine (read_ensures lies (mem_contents.mp inside) (start_lt sector)).mono ?_ fun _ _ failed => failed
    intro data after ⟨read, same⟩
    rw [same]
    exact ⟨read.trans (get_contents inside).symm, lies, rfl⟩
  write := by
    intro image sector lies inside data
    refine (write_ensures lies (mem_contents.mp inside) (start_lt sector) data).mono ?_ fun _ _ failed => failed
    intro _ after ⟨lies', written⟩
    exact ⟨lies', SectorArray.ext written⟩

theorem refusing (file : HostFile) : @RefusingDevice ImageFile _ (lawful file) := by
  refine @RefusingDevice.mk ImageFile _ (lawful file) fun {image} {sector} lies outside => ?_
  have past : image.sectors ≤ sector.index := Nat.le_of_not_lt fun low => outside (mem_contents.mpr low)
  refine (refuses_ensures lies past).mono (fun _ _ never => never) ?_
  intro failure after ⟨fault, same⟩
  rw [same]
  exact ⟨fault, lies, rfl⟩

/-! ## Bytes -/

/-- A device that shows the sectors of a file is over the same bytes. -/
theorem Over.byte_eq (lies : Over file image) (same : image.contents = (ofFile file).contents) (i : Nat) :
    image.file.byte i = file.byte i := by
  by_cases past : file.length / sectorSize * sectorSize ≤ i
  · exact lies.tail i past
  have low : i / sectorSize < file.length / sectorSize := by
    simp only [sectorSize] at *
    omega
  have page : image.file.range (i / sectorSize * sectorSize) sectorSize =
      file.range (i / sectorSize * sectorSize) sectorSize := by
    have here := congrArg (fun array : SectorArray => array.sectors[i / sectorSize]?) same
    simpa [contents, ofFile, lies.sectors, low] using here
  have found := congrArg (Block.get · ⟨i % sectorSize, Nat.mod_lt _ (by decide)⟩) page
  simp only [HostFile.get_range] at found
  rwa [Nat.div_add_mod'] at found

/-- Its file has the same bytes then. -/
theorem Over.toBytes_eq (lies : Over file image) (same : image.contents = (ofFile file).contents) :
    image.file.toBytes = file.toBytes := by
  unfold HostFile.toBytes
  rw [lies.length]
  refine congrArg Block.bytes (Block.ext_get fun i => ?_)
  rw [HostFile.get_range, HostFile.get_range, lies.byte_eq same]

/-- Files with the same bytes have the same sectors. -/
theorem contents_ofFile {file' : HostFile} (same : file'.toBytes = file.toBytes) :
    (ofFile file').contents = (ofFile file).contents := by
  obtain ⟨pages, length⟩ := file
  obtain ⟨pages', length'⟩ := file'
  obtain rfl : length' = length := by
    have sizes := congrArg ByteArray.size same
    rwa [HostFile.toBytes, HostFile.toBytes, Block.size_bytes, Block.size_bytes] at sizes
  have blocks : HostFile.range ⟨pages', length'⟩ 0 length' = HostFile.range ⟨pages, length'⟩ 0 length' := Block.ext same
  refine SectorArray.ext (congrArg Array.ofFn (funext fun k => Block.ext_get fun i => ?_))
  have within : k * sectorSize + i < length' := by
    have page : k.val < length' / sectorSize := k.isLt
    have low : i.val < sectorSize := i.isLt
    simp only [sectorSize] at *
    omega
  have here := congrArg (Block.get · ⟨k * sectorSize + i, within⟩) blocks
  simpa only [ofFile, HostFile.get_range, Nat.zero_add] using here

/-- A device is the one over its own file. -/
theorem Over.ofFile_eq (lies : Over file image) : ofFile image.file = image := by
  obtain ⟨held, sectors⟩ := image
  have count : sectors = file.length / sectorSize := lies.sectors
  have length : held.length = file.length := lies.length
  rw [ofFile, length, count]

end ImageFile

end InodeVolume
