import InodeVolume.Proofs.Volume.Noninterference

/-!
# Formatting devices of every size

Where the host has room for the cache, what formatting comes to is settled by the number of sectors alone: too
few for a volume, more than the file of a free map can describe, or a volume of which every sector is accounted
for. Where it has no room, a device that is not too small is left as it was.

* **laying out** — `layOut_settles`: a volume that was laid out is on its device as it is shown;
* **sizes** — `format_outcomes`: which outcome there is for which size, and how much is free then.
-/

namespace InodeVolume

open LawfulDevice (Sound sectors)

/-! ## Laying out -/

/-- A mount that comes about is what its computation makes of an empty cache. -/
theorem Mount.start_runs {D A : Type} [BlockDevice D] {device : D} {memory capacity : Nat}
    (room : HasRoom memory capacity) {files : Files A} {computation : SectorM (Files A) Unit}
    {good : Mount A → D → Prop} (ran : (Mount.run computation).Ensures (device, ⟨Cache.empty capacity room.1, files⟩)
      (fun _ after => good after.2 after.1) fun _ _ => False) :
    (Mount.start capacity files computation memory).Ensures device good fun _ _ => False := by
  intro log
  rw [Mount.run_start room]
  have here := ran log
  revert here
  cases (Mount.run computation).run ⟨(device, ⟨Cache.empty capacity room.1, files⟩), log⟩ with
  | ok u after => exact id
  | error failure after => exact False.elim

namespace Volume

variable {D : Type} [BlockDevice D] [LawfulDevice D] {n : Nat} {disk : CachedDisk D n} {device : D} {array : SectorArray}
  {memory capacity : Nat}

/-- A new volume that is on its device. -/
structure OnDevice (array : SectorArray) (volume : Volume) : Prop where
  laid : LaidOut (.ofWhole array) volume
  stored : Bytes.slice ((PartialArray.ofWhole array).contents ((PartialArray.ofWhole array).inode freeMapSector)) 0
    volume.space.byteLength = volume.space.toBlock.bytes

/-- Laying out ends with a sync, so that the device is as it is shown. -/
theorem layOut_settles (shown : disk.Shows array) (room : 2 < array.count) (addressed : array.count ≤ maxVolumeSectors) :
    (layOut.run : Action (CachedDisk D n × Volume) Unit).Ensures (disk, blank array.count)
      (fun _ after => after.1.Shows (sectors after.1.device) ∧ (sectors after.1.device).count = array.count ∧
        OnDevice (sectors after.1.device) after.2)
      fun _ _ => False := by
  have count : (PartialArray.ofWhole array).count = array.count := PartialArray.count_ofWhole
  rw [← count] at room addressed
  have laying := laying_ensures room addressed
  rw [count] at laying
  rw [layOut_eq, SectorM.run_bind]
  refine .bind ((laying.run shown).mono ?_ fun _ _ ⟨_, _, failed⟩ => failed)
  rintro _ ⟨disk₁, volume₁⟩ ⟨array₁, shown₁, spreads, laid⟩
  have stored : (storeFreeMap.run : Action (CachedDisk D n × Volume) Unit).Ensures (disk₁, volume₁)
      (fun _ after => ∃ array₂, after.1.Shows array₂ ∧ array₂.count = array.count ∧ OnDevice array₂ after.2)
      fun _ _ => False := by
    refine (laid.store_ensures.spreads.run shown₁).mono ?_ fun _ _ ⟨_, _, failed⟩ => failed.2
    rintro _ after ⟨array₂, shown₂, spreads₂, laid₂, held⟩
    refine ⟨array₂, shown₂, ?_, laid₂, held⟩
    rw [← PartialArray.count_ofWhole, (spreads.trans spreads₂).count, count]
  rw [SectorM.run_bind]
  refine .bind ((sync_settles (fun array₂ volume => array₂.count = array.count ∧ OnDevice array₂ volume) stored).mono ?_
    fun _ _ failed => failed)
  rintro _ ⟨disk₂, volume₂⟩ done
  rw [SectorM.run_bind]
  refine .bind ?_
  show Action.Ensures (SectorM.run (SectorM.perform get)) _ _ _
  rw [SectorM.run_perform]
  refine Action.ensures_onSnd.mpr (Action.ensures_get.mpr ?_)
  rw [SectorM.emit, SectorM.run_perform]
  exact Action.ensures_onSnd.mpr (Action.ensures_emit.mpr done)

/-! ## Sizes -/

/-- A volume that was made on a device of `n` sectors: what it shows is on the device, its two files are there,
every other sector is free, and it can be taken up at once with any cache that the host has room for. -/
structure Formatted (n : Nat) (device : D) (mount : Mount FreeMap) : Prop where
  shown : mount.sectors device = .ofWhole (sectors device)
  valid : ((mount.sectors device).inode freeMapSector).isValid = true
  size : ((mount.sectors device).inode freeMapSector).size = groupCount n * Group.bytes
  isDir : ((mount.sectors device).inode freeMapSector).isDir = false
  root : (mount.sectors device).inode rootSector = .empty true
  free : freeSectors mount.files + totalSectors (groupCount n * Group.bytes) + 2 = n
  mounts : ∀ capacity memory, HasRoom memory capacity → ∀ log, ∃ again device',
    (Volume.mount capacity memory).result device log = (.ok again, device') ∧ again.files.space = mount.files.space

theorem OnDevice.formatted {mount : Mount FreeMap} (onDevice : OnDevice (sectors device) mount.files)
    (shown : (mount.disk device).Shows (sectors device)) : Formatted (sectors device).count device mount := by
  obtain ⟨laid, stored⟩ := onDevice
  have healthy := laid.healthy
  have intact := healthy.sane.intact
  have shows : mount.sectors device = .ofWhole (sectors device) := Mount.sectors_eq shown
  have count : (PartialArray.ofWhole (sectors device)).count = (sectors device).count := PartialArray.count_ofWhole
  have free := healthy.freeSectors_eq
  refine ⟨shows, ?_, ?_, ?_, ?_, ?_, fun capacity memory room log => ?_⟩
  · rw [shows]
    exact (intact.whole freeMapSector healthy.live.1).valid
  · rw [shows, ← count]
    exact laid.size
  · rw [shows]
    exact laid.isDir
  · rw [shows]
    exact laid.root
  · rw [free, ← count]
    exact laid.left
  · have never : (Volume.mount capacity memory).Ensures device (fun again _ => again.files.space = mount.files.space)
        fun _ _ => False :=
      (Volume.mount_ensures initialLedger rfl shown.sound capacity memory intact healthy.live.1 stored
        healthy.live.2).mono (fun _ _ done => done.2.1) fun _ _ failed => failed.1.not_hasRoom room
    obtain ⟨again, device', ran, space⟩ := never.result_ends log
    exact ⟨again, device', ran, space⟩

/-- A volume that is made is on its device, and one is made unless the device is too small or too large or the
host has no room for the cache. -/
theorem format_lays (sound : Sound device) (capacity memory : Nat) :
    (format capacity memory).Ensures device
      (fun mount device' => (mount.disk device').Shows (sectors device') ∧
        (sectors device').count = (sectors device).count ∧ OnDevice (sectors device') mount.files)
      fun _ _ => (sectors device).count ≤ 2 ∨ maxVolumeSectors < (sectors device).count ∨
        ¬HasRoom memory capacity := by
  by_cases fit : 2 < (sectors device).count ∧ (sectors device).count ≤ maxVolumeSectors
  swap
  · refine (format_ensures sound capacity memory).mono ?_ fun _ _ _ => by omega
    exact fun mount device' done => absurd ⟨done.1, done.2.1⟩ fit
  obtain ⟨wide, addressed⟩ := fit
  unfold format
  refine .bind (Action.ensures_get.mpr (.bind (Action.ensures_emit.mpr ?_)))
  rw [← LawfulDevice.count_sectors sound, if_pos (show fitsOn (sectors device).count = true from decide_eq_true wide)]
  by_cases room : HasRoom memory capacity
  · have made : (Mount.start capacity (blank (sectors device).count) layOut memory).Ensures device
        (fun mount device' => (mount.disk device').Shows (sectors device') ∧
          (sectors device').count = (sectors device).count ∧ OnDevice (sectors device') mount.files)
        fun _ _ => False :=
      Mount.start_runs room (Mount.ensures_run (layOut_settles (.fresh sound room.1) wide addressed))
    exact made.mono (fun _ _ done => done) fun _ _ failed => failed.elim
  · intro log
    rw [Mount.start_cramped room]
    exact .inr (.inr room)

/-- Between too small and too large there is always space. -/
theorem exists_formatted (sound : Sound device) (room : HasRoom memory capacity) (wide : 2 < (sectors device).count)
    (addressed : (sectors device).count ≤ maxVolumeSectors) (log : Array Event) :
    ∃ mount device', (format capacity memory).result device log = (.ok mount, device') ∧
      Formatted (sectors device).count device' mount := by
  have made : (format capacity memory).Ensures device
      (fun mount device' => Formatted (sectors device).count device' mount) fun _ _ => False := by
    refine (format_lays sound capacity memory).mono ?_ ?_
    · rintro mount device' ⟨shown, same, onDevice⟩
      rw [← same]
      exact onDevice.formatted shown
    · rintro _ _ (small | large | cramped)
      · exact Nat.not_le.mpr wide small
      · exact Nat.not_le.mpr large addressed
      · exact cramped room
  exact made.result_ends log

/-- A cache that the host has no room for is refused before anything is laid out. -/
theorem format_cramped (sound : Sound device) (cramped : ¬HasRoom memory capacity) (wide : 2 < (sectors device).count)
    (log : Array Event) :
    (format capacity memory).result device log = (.error (Mount.refusal capacity), device) := by
  have fits : fitsOn (sectors device).count = true := decide_eq_true wide
  rw [result_format, ← LawfulDevice.count_sectors sound, if_pos fits, Mount.result_start_cramped cramped]

end Volume

end InodeVolume
