import InodeVolume.Proofs.Cache.Refusal
import InodeVolume.Proofs.Files.AnyContents
import InodeVolume.Proofs.Volume.Devices

/-!
# Volumes on devices that may hold anything

A device may hold whatever it likes where a volume is looked for on it. Taking a volume up changes nothing
on the device, and the free map that is taken up is what the file of the free map holds.

* **mounts** — `Mount.run_mayEnd` and `Mount.start_mayEnd` carry what may happen over an array to mounts;
* **removing** — `remove_absent`: a file that nobody has open is reclaimed at once;
* **taking up** — `restore_mayEnd` and `mount_mayEnd`.
-/

namespace InodeVolume

namespace Mount

variable {D A α : Type} [BlockDevice D] [LawfulDevice D] [RefusingDevice D] {device : D} {mount : Mount A}
  {array : SectorArray} {still : Prop}

open LawfulDevice (Sound)

/-- What may happen over an array may happen on a mount that stands for it. -/
theorem run_mayEnd {computation : SectorM (Files A) α} {good : α → PartialArray → Files A → Prop}
    {bad : Failure → PartialArray → Files A → Prop}
    (ends : computation.MayEnd still (.ofWhole array) mount.files good bad) (stood : (mount.disk device).Stands still array) :
    (run computation).Ensures (device, mount)
      (fun a after => ∃ array', (after.2.disk after.1).Stands still array' ∧ good a (.ofWhole array') after.2.files)
      fun failure after => ∃ array', (after.2.disk after.1).Stands still array' ∧
        bad failure (.ofWhole array') after.2.files :=
  ensures_run (ends.run CachedDisk.bears stood)

omit [RefusingDevice D] in
/-- What a mount holds is written back when it is given up. -/
theorem flush_ensures (shown : (mount.disk device).Shows array) :
    flush.Ensures (device, mount) (fun _ after => Sound after.1 ∧ LawfulDevice.sectors after.1 = array)
      fun _ _ => False := by
  refine ensures_run ?_
  rw [SectorM.shutdownStore, SectorM.run_shutdown]
  refine .bind (Action.ensures_onFst.mpr ((CachedDisk.shutdown_ensures shown).mono ?_ fun _ _ failed => failed.elim))
  rintro _ ⟨device', cache⟩ ⟨shown', same, -⟩
  exact Action.ensures_pure.mpr ⟨shown'.sound, same⟩

/-- A mount begins with what its device holds, whatever that is, and one that does not come about leaves
the device as it was if nothing was changed. -/
theorem start_mayEnd (sound : Sound device) {memory capacity : Nat} {files : Files A}
    {computation : SectorM (Files A) Unit}
    {good : Unit → PartialArray → Files A → Prop} {bad : Failure → PartialArray → Files A → Prop}
    (ends : computation.MayEnd still (.ofWhole (LawfulDevice.sectors device)) files good bad) :
    (start capacity files computation memory).Ensures device
      (fun mount device' => ∃ array', (mount.disk device').Stands still array' ∧ good () (.ofWhole array') mount.files)
      fun failure device' => (Cramped memory capacity failure ∧ device' = device) ∨
        ∃ array' files', Sound device' ∧ (still → LawfulDevice.sectors device' = array') ∧
          bad failure (.ofWhole array') files' := by
  intro log
  by_cases room : HasRoom memory capacity
  swap
  · rw [start_cramped room]
    exact .inl ⟨⟨room, rfl⟩, rfl⟩
  rw [run_start room]
  let fresh : Mount A := ⟨Cache.empty capacity room.1, files⟩
  have stood : (fresh.disk device).Stands still (LawfulDevice.sectors device) := ⟨.fresh sound room.1, fun _ => rfl⟩
  have ran := run_mayEnd ends stood log
  revert ran
  cases (run computation).run ⟨(device, ⟨Cache.empty capacity room.1, files⟩), log⟩ with
  | ok u after => exact id
  | error failure after =>
      obtain ⟨⟨device', mount'⟩, later⟩ := after
      rintro ⟨array', stood', failed⟩
      obtain ⟨_, ⟨left, gone⟩, last, ended, sound', same⟩ := (flush_ensures stood'.shown).ends later
      -- what is told is the first failure, and all that was changed is on the device then
      have told : (Cramped memory capacity failure ∧ left = device) ∨
          ∃ array' files', Sound left ∧ (still → LawfulDevice.sectors left = array') ∧ bad failure (.ofWhole array') files' :=
        .inr ⟨array', _, sound', fun _ => same, failed⟩
      cases failure with
      | reported error =>
          dsimp only
          rw [ended]
          exact told
      | fault why =>
          cases why with
          | host refusal => exact .inr ⟨array', _, stood'.shown.sound, stood'.device, failed⟩
          | broken _ | overflow | memory | outOfBounds =>
              dsimp only
              rw [ended]
              exact told

end Mount

/-! ## Removing -/

namespace InodeTable

variable {table : InodeTable} {sector other : SectorId}

/-- The table after an inode was opened, marked for removal and closed that nobody else has open. -/
def struck (sector : SectorId) (table : InodeTable) : InodeTable :=
  (((table.insert sector).2.update (table.insert sector).1 fun inode => { inode with removed := true }).update
    (table.insert sector).1 fun inode => { inode with opens := inode.opens - 1 }).erase sector

theorem find?_struck : (table.struck sector).find? other = if other = sector then none else table.find? other := by
  rw [struck, find?_erase, find?_update, find?_update, find?_insert]
  split <;> rfl

theorem inode_removing : ((table.insert sector).2.update (table.insert sector).1
    fun inode => { inode with removed := true }).inode (table.insert sector).1 = ⟨sector, 1, 0, true⟩ := by
  have known : (table.insert sector).1.index < (table.insert sector).2.inodes.size := by simp [insert]
  rw [inode_update known, if_pos rfl, inode_insert_self]

end InodeTable

namespace Volume

variable {still : Prop} {array : PartialArray} {volume : Volume} {sector : SectorId}
  {good : Unit → PartialArray → Volume → Prop} {bad : Failure → PartialArray → Volume → Prop}

/-- Removing a file that nobody has open reclaims it at once. -/
theorem remove_absent (absent : volume.table.find? sector = none)
    (reclaimed : (array.inode sector).isValid = true →
      (DiskInode.reclaim sector : SectorM FreeMap Unit).MayEnd still array volume.space
        (fun _ array' space' => good () array' ⟨volume.table.struck sector, space'⟩)
        fun failure array' space' => bad failure array' ⟨volume.table.struck sector, space'⟩)
    (refused : ∀ failure volume', (∃ why, failure = .fault why) ∨
      (array.inode sector).isValid = false ∧ failure = .reported (.badMagic sector) → bad failure array volume') :
    (remove sector).MayEnd still array volume good bad := by
  unfold remove
  rw [SectorM.mayEnd_bind]
  refine (Files.openAt_mayEnd absent).mono ?_ ?_
  · rintro _ array _ ⟨rfl, rfl, rfl, -, valid⟩
    rw [SectorM.mayEnd_bind, Files.mayEnd_onTable]
    refine Action.ensures_modify.mpr ?_
    unfold Files.close
    rw [SectorM.mayEnd_bind, Files.mayEnd_onTable]
    refine (InodeTable.leave_last (by rw [InodeTable.inode_removing]; rfl)).mono ?_ fun _ _ failed => failed.elim
    rintro _ table' ⟨rfl, rfl⟩
    rw [InodeTable.inode_removing]
    dsimp only
    rw [SectorM.mayEnd_bind, Files.mayEnd_onTable]
    refine InodeTable.withdraw_ensures.mono ?_ fun _ _ failed => failed.elim
    rintro _ _ rfl
    rw [SectorM.mayEnd_ite, if_pos rfl, Files.mayEnd_inSpace]
    exact reclaimed valid
  · rintro failure _ volume' ⟨rfl, told⟩
    exact refused failure volume' told

end Volume

/-! ## Taking up -/

namespace Volume

/-- A volume was taken up from what the sectors hold. -/
structure TakenUp (array : PartialArray) (count : Nat) (volume : Volume) : Prop where
  has : array.Has freeMapSector
  valid : (array.inode freeMapSector).isValid = true
  table : volume.table = InodeTable.empty.visited freeMapSector
  map : ∃ block : Block (groupCount count * Group.bytes),
    Follows array (array.inode freeMapSector) block.bytes 0 ∧ volume.space = .ofBlock count block

variable {still : Prop} {array : PartialArray} {count : Nat}

/-- **The free map that is taken up** is what its file holds, and nothing is changed. -/
theorem restore_mayEnd :
    restore.MayEnd still array (blank count)
      (fun _ array' volume' => array' = array ∧ TakenUp array count volume') fun _ array' _ => array' = array := by
  unfold restore
  rw [SectorM.mayEnd_bind]
  refine (Files.openAt_mayEnd rfl).mono ?_ fun _ _ _ failed => failed.1
  rintro _ array _ ⟨rfl, rfl, rfl, has, valid⟩
  rw [SectorM.mayEnd_bind, SectorM.mayEnd_get, SectorM.mayEnd_bind]
  unfold Files.read
  rw [SectorM.mayEnd_bind, Files.mayEnd_inode, InodeTable.inode_insert_self, SectorM.mayEnd_bind]
  refine DiskInode.MayEnd.ofOpen (fun _ _ => ?_) fun _ => rfl
  refine (DiskInode.read_mayEnd 0 _).mono ?_ fun _ _ _ failed => failed.2
  rintro bytes array _ ⟨rfl, rfl, follows⟩
  rw [SectorM.mayEnd_bind]
  refine Files.close_mayEnd.mono ?_ fun _ _ _ failed => failed.elim
  rintro _ _ _ ⟨rfl, rfl⟩
  rw [SectorM.mayEnd_ite]
  split
  · rw [SectorM.mayEnd_bind, SectorM.mayEnd_emit, SectorM.mayEnd_bind, SectorM.mayEnd_report]
  · rename_i whole
    have size : bytes.size = groupCount count * Group.bytes := not_not.mp whole
    rw [SectorM.mayEnd_bind, Files.mayEnd_onSpace]
    refine (FreeMap.load_block (FreeMap.clear count) ⟨bytes, size⟩).mono ?_ fun _ _ failed => failed.elim
    rintro _ _ rfl
    rw [SectorM.mayEnd_bind, SectorM.mayEnd_get, SectorM.mayEnd_emit]
    exact ⟨rfl, has, valid, rfl, ⟨bytes, size⟩, follows, rfl⟩

section Devices

variable {D : Type} [BlockDevice D] [LawfulDevice D] [RefusingDevice D] {device : D}

open LawfulDevice (Sound sectors)

/-- **Mounting** changes nothing on the device, whether or not it succeeds. -/
theorem mount_mayEnd (sound : Sound device) (capacity memory : Nat) :
    (mount capacity memory).Ensures device
      (fun mount device' => (mount.disk device').Stands True (sectors device) ∧
        TakenUp (.ofWhole (sectors device)) (sectors device).count mount.files)
      fun _ device' => Sound device' ∧ sectors device' = sectors device := by
  unfold mount
  refine .bind (Action.ensures_get.mpr ?_)
  rw [← LawfulDevice.count_sectors sound]
  have restored : restore.MayEnd True (.ofWhole (sectors device)) (blank (sectors device).count) _ _ := restore_mayEnd
  refine (Mount.start_mayEnd sound restored).mono ?_ ?_
  · rintro mount device' ⟨array', stood, same, taken⟩
    rw [PartialArray.ofWhole_injective same] at stood
    exact ⟨stood, taken⟩
  · rintro failure device' (⟨-, rfl⟩ | ⟨array', -, sound', same, unchanged⟩)
    · exact ⟨sound, rfl⟩
    · exact ⟨sound', (same trivial).trans (PartialArray.ofWhole_injective unchanged)⟩

end Devices

end Volume

end InodeVolume
