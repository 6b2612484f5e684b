import InodeVolume.Proofs.Cache.Lawful
import InodeVolume.Proofs.Volume.Beginning

/-!
# Volumes on devices

What is ensured over a plain array holds of a volume that is mounted on a device, since the cache
between them shows such an array.

* **mounts** — `Mount.run_ensures` carries what is ensured over an array to a mount, and
  `Mount.start_ensures` to a mount that begins;
* **beginning** — `format_ensures` and `mount_ensures`;
* **ending** — `sync_ensures` and `shutdown_ensures`: the device is then the array, and the free map
  is on it (`Saved`).
-/

namespace InodeVolume

/-! ## Mounts -/

namespace Mount

variable {D A α : Type} [BlockDevice D] [LawfulDevice D] {device : D} {mount : Mount A}
  {array : SectorArray}

open LawfulDevice (Sound)

/-- The device behind the cache of a mount. -/
def disk (mount : Mount A) (device : D) : CachedDisk D mount.capacity := ⟨device, mount.cache⟩

/-- The sectors that a mount shows, its cache laid over the device. -/
def sectors (mount : Mount A) (device : D) : PartialArray := .ofWhole (mount.disk device).overlay

/-- A mount shows one array. -/
theorem sectors_eq (shown : (mount.disk device).Shows array) : mount.sectors device = .ofWhole array := by
  rw [sectors, ← shown.eq_overlay]

omit [LawfulDevice D] in
/-- A run on a mount is a run over its disk. -/
theorem ensures_run {computation : SectorM (Files A) α} {good : α → D × Mount A → Prop}
    {bad : Failure → D × Mount A → Prop}
    (ensured : (computation.run : Action (CachedDisk D mount.capacity × Files A) α).Ensures
      (mount.disk device, mount.files)
      (fun a after => good a (after.1.device, ⟨after.1.cache, after.2⟩))
      fun failure after => bad failure (after.1.device, ⟨after.1.cache, after.2⟩)) :
    (run computation).Ensures (device, mount) good bad := by
  intro log
  obtain ⟨cache, files⟩ := mount
  have here := ensured log
  dsimp only [Action.run, disk] at here
  dsimp only [Action.run, run]
  revert here
  cases computation.run ⟨((⟨device, cache⟩ : CachedDisk D _), files), log⟩ with
  | ok a after => exact id
  | error failure after => exact id

/-- What is ensured over a plain array is ensured of a mount that shows it. -/
theorem run_ensures {computation : SectorM (Files A) α} {good : α → PartialArray → Files A → Prop}
    {bad : Failure → PartialArray → Files A → Prop}
    (ensured : computation.Ensures (.ofWhole array) mount.files good bad) (shown : (mount.disk device).Shows array) :
    (run computation).Ensures (device, mount)
      (fun a after => ∃ array', (after.2.disk after.1).Shows array' ∧ good a (.ofWhole array') after.2.files)
      fun failure after => ∃ array', (after.2.disk after.1).Shows array' ∧
        bad failure (.ofWhole array') after.2.files := by
  refine ensures_run ?_
  exact ensured.run shown

/-- What cannot fail over a plain array ends with a value on every mount that shows it. -/
theorem run_ends {computation : SectorM (Files A) α} {good : α → PartialArray → Files A → Prop}
    (ensured : computation.Ensures (.ofWhole array) mount.files good fun _ _ _ => False)
    (shown : (mount.disk device).Shows array) (log : Array Event) :
    ∃ a device' mount' log' array', (run computation).run ⟨(device, mount), log⟩ = .ok a ⟨(device', mount'), log'⟩ ∧
      (mount'.disk device').Shows array' ∧ good a (.ofWhole array') mount'.files := by
  have never := (run_ensures ensured shown).mono (fun _ _ done => done) fun _ _ ⟨_, _, failed⟩ => failed
  obtain ⟨a, ⟨device', mount'⟩, log', ended, array', shown', done⟩ := never.ends log
  exact ⟨a, device', mount', log', array', ended, shown', done⟩

/-- No host has room for 2⁶⁴ - 1 slots, whatever its memory: nobody can ask for so much. -/
theorem not_hasRoom_largest (memory : Nat) : ¬HasRoom memory 0xffffffffffffffff := fun room =>
  absurd room.2.1 (by decide)

/-- How a cache of so many slots is refused: it needs a slot, nobody can ask a host for so much, or this host
does not have it. -/
def refusal (slots : Nat) : Failure :=
  if 0 < slots then
    if requestLimit ≤ slots * slotBytes then .fault .overflow else .fault .memory
  else .fault (.broken .someSlot)

/-- The host has no room for a cache, and it is refused. -/
structure Cramped (memory slots : Nat) (failure : Failure) : Prop where
  not_hasRoom : ¬HasRoom memory slots
  refused : failure = refusal slots

omit [LawfulDevice D] in
/-- Where the host has no room for the cache, a mount does not begin, and its device is not touched. -/
theorem start_cramped {memory capacity : Nat} (cramped : ¬HasRoom memory capacity) (files : Files A)
    (computation : SectorM (Files A) Unit) (world : Traced D) :
    (start capacity files computation memory).run world = .error (refusal capacity) world := by
  unfold start requireRoom refusal
  by_cases nonempty : 0 < capacity
  swap
  · rw [dif_neg nonempty, if_neg nonempty]
    rfl
  rw [dif_pos nonempty, if_pos nonempty]
  by_cases long : requestLimit ≤ capacity * slotBytes
  · rw [if_pos long, if_pos long]
    rfl
  rw [if_neg long, if_neg long]
  by_cases within : capacity * slotBytes < memory
  · exact absurd ⟨nonempty, Nat.lt_of_not_le long, within⟩ cramped
  · rw [if_pos (Nat.le_of_not_lt within)]
    rfl

omit [LawfulDevice D] in
/-- How a mount begins that there is room for; one that could not be completed is written back. -/
theorem run_start {memory capacity : Nat} (room : HasRoom memory capacity) (files : Files A)
    (computation : SectorM (Files A) Unit) (device : D) (log : Array Event) :
    (start capacity files computation memory).run ⟨device, log⟩ =
      match (run computation).run ⟨(device, ⟨Cache.empty capacity room.1, files⟩), log⟩ with
      | .ok () ⟨(device, mount), log⟩ => .ok mount ⟨device, log⟩
      | .error (.fault (.host refusal)) ⟨(device, _), log⟩ =>
        .error (.fault (.host refusal)) ⟨device, log⟩
      | .error failure world =>
        match flush.run world with
        | .ok () ⟨(device, _), log⟩ | .error _ ⟨(device, _), log⟩ => .error failure ⟨device, log⟩ := by
  unfold start requireRoom
  rw [dif_pos room.1, if_neg (Nat.not_le.mpr room.2.1), if_neg (Nat.not_le.mpr room.2.2), pure_bind]
  rfl

/-- A mount that there is room for begins with what its device holds. -/
theorem start_ensures (sound : Sound device) {memory capacity : Nat} {files : Files A}
    {computation : SectorM (Files A) Unit} {good : Unit → PartialArray → Files A → Prop}
    {bad : Failure → PartialArray → Files A → Prop}
    (ensured : computation.Ensures (.ofWhole (LawfulDevice.sectors device)) files good bad) :
    (start capacity files computation memory).Ensures device
      (fun mount device' => ∃ array', (mount.disk device').Shows array' ∧ good () (.ofWhole array') mount.files)
      fun failure device' => (Cramped memory capacity failure ∧ device' = device) ∨
        ∃ array' files', bad failure (.ofWhole array') files' := by
  intro log
  by_cases room : HasRoom memory capacity
  swap
  · rw [start_cramped room]
    exact .inl ⟨⟨room, rfl⟩, rfl⟩
  rw [run_start room]
  let fresh : Mount A := ⟨Cache.empty capacity room.1, files⟩
  have shown : (fresh.disk device).Shows (LawfulDevice.sectors device) := .fresh sound room.1
  have ran := run_ensures ensured shown log
  revert ran
  cases (run computation).run ⟨(device, ⟨Cache.empty capacity room.1, files⟩), log⟩ with
  | ok u after => exact id
  | error failure after =>
      rintro ⟨array', -, failed⟩
      have told : ∀ device', (Cramped memory capacity failure ∧ device' = device) ∨
          ∃ array' files', bad failure (.ofWhole array') files' := fun _ => .inr ⟨array', _, failed⟩
      -- whether or not the slots can be written back, the first failure is the one that is told
      cases failure with
      | reported error =>
          dsimp only
          cases flush.run after <;> exact told _
      | fault why =>
          cases why with
          | host refusal => exact told _
          | broken _ | overflow | memory | outOfBounds =>
              dsimp only
              cases flush.run after <;> exact told _

end Mount

/-! ## Beginning -/

namespace Volume

variable {D : Type} [BlockDevice D] [LawfulDevice D] {device : D} {mount : Mount FreeMap}
  {array : SectorArray} {ledger : Ledger}

open LawfulDevice (Sound sectors)
open PartialArray (Same)

/-- **Formatting** succeeds on every device that is neither too small nor too large, whatever it held, with any
cache that the host has room for. -/
theorem format_ensures (sound : Sound device) (capacity memory : Nat) :
    (format capacity memory).Ensures device
      (fun mount device' => 2 < (sectors device).count ∧ (sectors device).count ≤ maxVolumeSectors ∧
        ∃ array, (mount.disk device').Shows array ∧ Healthy (.ofWhole array) mount.files initialLedger ∧
          (PartialArray.ofWhole array).inode rootSector = .empty true ∧
          ((PartialArray.ofWhole array).inode freeMapSector).isDir = false ∧
          Accounted (.ofWhole array) mount.files.space initialLedger.files)
      fun failure device' => ((sectors device).count ≤ 2 ∧ failure = .reported .noSpace) ∨
        (maxVolumeSectors < (sectors device).count ∧ failure = .reported .outOfRange) ∨
        (Mount.Cramped memory capacity failure ∧ device' = device) := by
  unfold format
  refine .bind (Action.ensures_get.mpr (.bind (Action.ensures_emit.mpr ?_)))
  rw [← LawfulDevice.count_sectors sound]
  by_cases fits : fitsOn (sectors device).count = true
  · rw [if_pos fits]
    have laid : layOut.Ensures (.ofWhole (sectors device)) (blank (PartialArray.ofWhole (sectors device)).count) _ _ :=
      layOut_ensures (by rw [PartialArray.count_ofWhole, fits])
    rw [PartialArray.count_ofWhole] at laid
    refine (Mount.start_ensures sound laid).mono ?_ ?_
    · rintro mount device' ⟨array, shown, addressed, rest⟩
      exact ⟨of_decide_eq_true fits, addressed, array, shown, rest⟩
    · rintro failure device' (cramped | ⟨-, -, why⟩)
      · exact .inr (.inr cramped)
      · exact .inr (.inl why)
  · rw [if_neg fits]
    refine .bind (Action.ensures_emit.mpr (Action.ensures_report.mpr (.inl ⟨?_, rfl⟩)))
    exact Nat.le_of_not_lt fun room => fits (decide_eq_true room)

/-- So formatting ends well there. -/
theorem exists_format (sound : Sound device) (wide : 2 < (sectors device).count)
    (addressed : (sectors device).count ≤ maxVolumeSectors) {memory capacity : Nat} (room : HasRoom memory capacity)
    (log : Array Event) :
    ∃ mount device' log', (format capacity memory).run ⟨device, log⟩ = .ok mount ⟨device', log'⟩ := by
  have never : (format capacity memory).Ensures device (fun _ _ => True) fun _ _ => False := by
    refine (format_ensures sound capacity memory).mono (fun _ _ _ => trivial) ?_
    rintro failure device' (⟨small, -⟩ | ⟨large, -⟩ | ⟨cramped, -⟩)
    · exact Nat.not_le.mpr wide small
    · exact Nat.not_le.mpr large addressed
    · exact cramped.not_hasRoom room
  obtain ⟨mount, device', log', ended, -⟩ := never.ends log
  exact ⟨mount, device', log', ended⟩

/-- **Mounting** takes up the volume that was stored on the device, with any cache that the host has room for. -/
theorem mount_ensures (ledger : Ledger) (nobody : ledger.holders = []) (sound : Sound device) (capacity memory : Nat)
    {map : FreeMap} {files : List SectorId} (intact : Intact (.ofWhole (sectors device)) map files)
    (listed : freeMapSector ∈ files)
    (stored : Bytes.slice ((PartialArray.ofWhole (sectors device)).contents
      ((PartialArray.ofWhole (sectors device)).inode freeMapSector)) 0 map.byteLength = map.toBlock.bytes)
    (spared : freeMapSector ∉ ledger.doomed) :
    (Volume.mount capacity memory).Ensures device
      (fun mount device' => (mount.disk device').Shows (sectors device) ∧ mount.files.space = map ∧
        Kept mount.files.table ledger)
      fun failure device' => Mount.Cramped memory capacity failure ∧ device' = device := by
  unfold Volume.mount
  refine .bind (Action.ensures_get.mpr ?_)
  rw [← LawfulDevice.count_sectors sound]
  have limit := intact.limit.symm
  rw [PartialArray.count_ofWhole] at limit
  have restored : restore.Ensures (.ofWhole (sectors device)) (blank (sectors device).count) _ _ :=
    restore_ensures intact listed stored limit (kept_empty nobody) (Ledger.not_crowded_of_nobody nobody) spared
  refine (Mount.start_ensures sound restored).mono ?_ ?_
  · rintro mount device' ⟨array, shown, same, rest⟩
    rw [PartialArray.ofWhole_injective same] at shown
    exact ⟨shown, rest⟩
  · rintro failure device' (cramped | ⟨-, -, impossible⟩)
    · exact cramped
    · exact impossible.elim

omit [LawfulDevice D] in
/-- A cache that the host has no room for is refused before anything is taken up. -/
theorem mount_cramped {memory capacity : Nat} (cramped : ¬HasRoom memory capacity) (world : Traced D) :
    (Volume.mount capacity memory).run world = .error (Mount.refusal capacity) world :=
  Mount.start_cramped cramped (blank (BlockDevice.sectorCount world.state)) restore world

/-! ## Ending -/

/-- What a device holds once a volume was stored on it: the free map in its file, and every other file
as the volume showed it. -/
structure Saved (array : PartialArray) (volume : Volume) (ledger : Ledger) (device : D) : Prop where
  sound : Sound device
  intact : Intact (.ofWhole (sectors device)) volume.space ledger.files
  inode : (PartialArray.ofWhole (sectors device)).inode freeMapSector = array.inode freeMapSector
  held : (PartialArray.ofWhole (sectors device)).held (array.inode freeMapSector) =
    array.held (array.inode freeMapSector)
  map : Bytes.slice ((PartialArray.ofWhole (sectors device)).contents (array.inode freeMapSector)) 0
    volume.space.byteLength = volume.space.toBlock.bytes
  others : ∀ other ∈ ledger.files, other ≠ freeMapSector → Same array (.ofWhole (sectors device)) other
  spared : ∀ sector, ¬LawfulAllocator.Taken volume.space sector →
    (PartialArray.ofWhole (sectors device)).get sector = array.get sector

/-- What storing the free map of a volume leaves to be written to the device. -/
structure Stored (D : Type) [BlockDevice D] [LawfulDevice D] (array : SectorArray) (volume : Volume)
    (ledger : Ledger) (array' : SectorArray) (volume' : Volume) : Prop where
  healthy : Healthy (.ofWhole array') volume' ledger
  space : volume'.space = volume.space
  saved : ∀ device' : D, Sound device' → sectors device' = array' → Saved (.ofWhole array) volume ledger device'

/-- The free map is stored before a volume is synced or shut down. -/
theorem stored_ensures (shown : (mount.disk device).Shows array) (healthy : Healthy (.ofWhole array) mount.files ledger) :
    (storeFreeMap.run : Action (CachedDisk D mount.capacity × Volume) Unit).Ensures
      (mount.disk device, mount.files)
      (fun _ after => ∃ array', after.1.Shows array' ∧ Stored D array mount.files ledger array' after.2)
      fun failure after => MapRefused ledger failure ∧ after.1.Shows array ∧
        Healthy (.ofWhole array) after.2 ledger := by
  refine ((storeFreeMap_ensures healthy).run shown).mono ?_ ?_
  · rintro _ ⟨disk, volume⟩ ⟨array', shown', healthy', space, -, inode, held, contents, others, spared⟩
    refine ⟨array', shown', healthy', space, fun device' sound same => ?_⟩
    refine ⟨sound, ?_, by rw [same, inode], by rw [same, held], by rw [same, contents], ?_, ?_⟩
    · rw [same, ← space]
      exact healthy'.sane.intact
    · rw [same]
      exact others
    · rw [same]
      exact spared
  · rintro failure ⟨disk, volume⟩ ⟨array', shown', refused, same, healthy'⟩
    rw [PartialArray.ofWhole_injective same] at shown'
    exact ⟨refused, shown', healthy'⟩

section Settling

variable {n : Nat} {disk : CachedDisk D n} {volume : Volume} (kept : SectorArray → Volume → Prop)
  {bad : Failure → CachedDisk D n × Volume → Prop}

/-- A sync that stores the free map leaves the device as the array that is shown. -/
theorem sync_settles (stored : (storeFreeMap.run : Action (CachedDisk D n × Volume) Unit).Ensures (disk, volume)
      (fun _ after => ∃ array, after.1.Shows array ∧ kept array after.2) bad) :
    (sync.run : Action (CachedDisk D n × Volume) Unit).Ensures (disk, volume)
      (fun _ after => after.1.Shows (sectors after.1.device) ∧ kept (sectors after.1.device) after.2) bad := by
  show Action.Ensures (SectorM.run (storeFreeMap >>= fun _ => SectorM.syncStore)) _ _ _
  rw [SectorM.run_bind]
  refine .bind (stored.mono ?_ fun _ _ failed => failed)
  rintro _ ⟨disk, volume⟩ ⟨array', shown, held⟩
  rw [SectorM.syncStore, SectorM.run_sync]
  refine .bind (Action.ensures_onFst.mpr ((CachedDisk.sync_ensures shown).mono ?_ fun _ _ failed => failed.elim))
  rintro _ ⟨device', cache⟩ ⟨shown', rfl, -⟩
  exact Action.ensures_pure.mpr ⟨shown', held⟩

/-- So does a shutdown. -/
theorem shutdown_settles (stored : (storeFreeMap.run : Action (CachedDisk D n × Volume) Unit).Ensures (disk, volume)
      (fun _ after => ∃ array, after.1.Shows array ∧ kept array after.2) bad) :
    (shutdown.run : Action (CachedDisk D n × Volume) Unit).Ensures (disk, volume)
      (fun _ after => after.1.Shows (sectors after.1.device) ∧ kept (sectors after.1.device) after.2) bad := by
  unfold shutdown
  rw [SectorM.run_bind]
  refine .bind (stored.mono ?_ fun _ _ failed => failed)
  rintro _ ⟨disk, volume⟩ ⟨array', shown, held⟩
  have ended : (SectorM.run (do
      SectorM.shutdownStore
      SectorM.emit .shutDown) : Action (CachedDisk D n × Volume) Unit).Ensures (disk, volume)
      (fun _ after => after.1.Shows (sectors after.1.device) ∧ kept (sectors after.1.device) after.2) bad := by
    rw [SectorM.run_bind, SectorM.shutdownStore, SectorM.run_shutdown]
    refine .bind (.bind (Action.ensures_onFst.mpr ?_))
    refine (CachedDisk.shutdown_ensures shown).mono ?_ fun _ _ failed => failed.elim
    rintro _ ⟨device', cache⟩ ⟨shown', rfl, -⟩
    refine Action.ensures_pure.mpr ?_
    rw [SectorM.emit, SectorM.run_perform]
    exact Action.ensures_onSnd.mpr (Action.ensures_emit.mpr ⟨shown', held⟩)
  rw [SectorM.run_bind]
  refine .bind ?_
  show Action.Ensures (SectorM.run (SectorM.perform get)) _ _ _
  rw [SectorM.run_perform]
  refine Action.ensures_onSnd.mpr (Action.ensures_get.mpr ?_)
  dsimp only
  split
  · rw [SectorM.run_bind, SectorM.emit, SectorM.run_perform]
    exact .bind (Action.ensures_onSnd.mpr (Action.ensures_emit.mpr ended))
  · exact ended

end Settling

/-- **Syncing** saves the volume on its device, and leaves its free map as it was. -/
theorem sync_ensures (shown : (mount.disk device).Shows array) (healthy : Healthy (.ofWhole array) mount.files ledger) :
    (Mount.run sync).Ensures (device, mount)
      (fun _ after => (after.2.disk after.1).Shows (sectors after.1) ∧
        Healthy (.ofWhole (sectors after.1)) after.2.files ledger ∧ after.2.files.space = mount.files.space ∧
        Saved (.ofWhole array) mount.files ledger after.1)
      fun failure _ => MapRefused ledger failure := by
  refine Mount.ensures_run ?_
  refine (sync_settles (Stored D array mount.files ledger) (stored_ensures shown healthy)).mono ?_
    fun _ _ failed => failed.1
  rintro _ ⟨⟨device', cache⟩, volume⟩ ⟨shown', stored⟩
  exact ⟨shown', stored.healthy, stored.space, stored.saved device' shown'.sound rfl⟩

/-- **Shutting down** saves the volume on its device. -/
theorem shutdown_ensures (shown : (mount.disk device).Shows array) (healthy : Healthy (.ofWhole array) mount.files ledger) :
    (Mount.run shutdown).Ensures (device, mount)
      (fun _ after => Saved (.ofWhole array) mount.files ledger after.1)
      fun failure _ => MapRefused ledger failure := by
  refine Mount.ensures_run ?_
  refine (shutdown_settles (Stored D array mount.files ledger) (stored_ensures shown healthy)).mono ?_
    fun _ _ failed => failed.1
  rintro _ ⟨⟨device', cache⟩, volume⟩ ⟨shown', stored⟩
  exact stored.saved device' shown'.sound rfl

end Volume

end InodeVolume
