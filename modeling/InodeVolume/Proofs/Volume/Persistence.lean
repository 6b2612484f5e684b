import InodeVolume.Proofs.Volume.Reachable

/-!
# What is saved is taken up again

A volume that callers keep to the strict discipline of can be synced and shut down at any time, unless its
free map's file has as many holders as can be counted, and a mount of its device, with any cache that the host
has room for, then takes up what there was.

* **taking up** — `Resumed`: a mount has the free map of a volume bit for bit, and its files;
* **saving** — `Reachable.persistence`: storing the free map, a sync and a shutdown each succeed, and a
  mount after them resumes the volume, also while callers have files open.
-/

namespace InodeVolume

namespace World

variable {D : Type} [BlockDevice D] [LawfulDevice D] {world : World D}

open Volume (Saved initialLedger)

/-! ## Taking up -/

/-- A volume on a device has the free map of another, bit for bit, and all its files: the same inodes,
with their lengths and flags, the same block maps and the same bytes. The file of the free map holds the
map. -/
structure Resumed (world : World D) (device : D) (mount : Mount FreeMap) : Prop where
  map : mount.files.space = world.mount.files.space
  inode : ∀ file ∈ world.ledger.files,
    (mount.sectors device).inode file = world.sectors.inode file
  blockMap : ∀ file ∈ world.ledger.files,
    (mount.sectors device).held (world.sectors.inode file) = world.sectors.held (world.sectors.inode file)
  contents : ∀ file ∈ world.ledger.files, file ≠ freeMapSector →
    (mount.sectors device).contents (world.sectors.inode file) =
      world.sectors.contents (world.sectors.inode file)
  stored : Bytes.slice ((mount.sectors device).contents (world.sectors.inode freeMapSector)) 0
    world.mount.files.space.byteLength = world.mount.files.space.toBlock.bytes

/-- A device on which a volume was saved can be mounted, and the volume is resumed. -/
theorem Sane.resumes (sane : world.Sane) {device : D}
    (saved : Saved world.sectors world.mount.files world.ledger device) {capacity memory : Nat}
    (room : HasRoom memory capacity) (log : Array Event) :
    ∃ mount device' log', (Volume.mount capacity memory).run ⟨device, log⟩ = .ok mount ⟨device', log'⟩ ∧
      mount.sectors device' = .ofWhole (LawfulDevice.sectors device) ∧ world.Resumed device' mount := by
  have healthy := sane.healthy
  have map := saved.map
  rw [← saved.inode] at map
  have never : (Volume.mount capacity memory).Ensures device (fun _ _ => True) fun _ _ => False :=
    (Volume.mount_ensures { world.ledger with holders := [] } rfl saved.sound capacity memory saved.intact
      healthy.live.1 map healthy.live.2).mono (fun _ _ _ => trivial) fun _ _ failed => failed.1.not_hasRoom room
  obtain ⟨mount, device', log', mounted, -⟩ := never.ends log
  obtain ⟨-, same, space⟩ := sane.mounted saved mounted
  have same : mount.sectors device' = .ofWhole (LawfulDevice.sectors device) := same
  refine ⟨mount, device', log', mounted, same, space, ?_, ?_, ?_, ?_⟩
  · intro file listed
    rw [same]
    by_cases first : file = freeMapSector
    · rw [first, saved.inode]
    · exact (saved.others file listed first).inode
  · intro file listed
    rw [same]
    by_cases first : file = freeMapSector
    · rw [first, saved.held]
    · exact (saved.others file listed first).held
  · intro file listed different
    have other := saved.others file listed different
    rw [same, ← other.inode, other.contents, other.inode]
  · rw [same, saved.map]

/-! ## Saving -/

/-- A volume is saved by a sync and by a shutdown, and neither takes or frees a sector. Both open the free map's
file once more, and so fail where it has as many holders as can be counted. -/
structure Persistent (world : World D) : Prop where
  /-- All bytes of the free map are written to its file. -/
  stores : ¬world.ledger.Crowded freeMapSector → ∀ log, ∃ device mount log',
    world.run Volume.storeFreeMap log = .ok () ⟨(device, mount), log'⟩ ∧
    mount.files.space = world.mount.files.space ∧
    Bytes.slice ((mount.sectors device).contents (world.sectors.inode freeMapSector)) 0
      world.mount.files.space.byteLength = world.mount.files.space.toBlock.bytes
  /-- After a sync a mount of the device shows what the volume shows, which goes on as it was. -/
  syncs : ¬world.ledger.Crowded freeMapSector → ∀ log, ∃ device mount log',
    world.run Volume.sync log = .ok () ⟨(device, mount), log'⟩ ∧
    mount.files.space = world.mount.files.space ∧
    ∀ capacity memory, HasRoom memory capacity → ∀ later, ∃ mount' device' later',
      (Volume.mount capacity memory).run ⟨device, later⟩ = .ok mount' ⟨device', later'⟩ ∧
      mount'.sectors device' = mount.sectors device ∧ world.Resumed device' mount'
  /-- After a shutdown a mount of the device shows what the volume showed. -/
  closes : ¬world.ledger.Crowded freeMapSector → ∀ log, ∃ device gone log',
    world.run Volume.shutdown log = .ok () ⟨(device, gone), log'⟩ ∧
    ∀ capacity memory, HasRoom memory capacity → ∀ later, ∃ mount' device' later',
      (Volume.mount capacity memory).run ⟨device, later⟩ = .ok mount' ⟨device', later'⟩ ∧
      world.Resumed device' mount'
  /-- Where the free map's file is crowded, nothing is saved and nothing changes. -/
  full : world.ledger.Crowded freeMapSector →
    ∀ saving ∈ [Volume.storeFreeMap, Volume.sync, Volume.shutdown], ∀ log, ∃ device mount log',
    world.run saving log = .error (.fault .overflow) ⟨(device, mount), log'⟩ ∧
    mount.files = world.mount.files ∧ mount.sectors device = world.sectors

/-- All ways to save a volume begin with storing its free map. -/
theorem Sane.saves_crowded (sane : world.Sane) (crowded : world.ledger.Crowded freeMapSector)
    {saving : SectorM Volume Unit} (how : saving ∈ [Volume.storeFreeMap, Volume.sync, Volume.shutdown]) :
    saving.Ensures world.sectors world.mount.files (fun _ _ _ => False)
      fun failure array volume => failure = .fault .overflow ∧ array = world.sectors ∧ volume = world.mount.files := by
  have stores := Volume.storeFreeMap_crowded sane.healthy crowded
  rcases List.mem_cons.mp how with rfl | later
  · exact stores
  rcases List.mem_pair.mp later with rfl | rfl <;>
    exact SectorM.ensures_bind.mpr (stores.mono (fun _ _ _ stored => stored.elim) fun _ _ _ failed => failed)

/-- A sync saves the volume. -/
theorem Reachable.synced (reached : world.Reachable .strict) (quiet : ¬world.ledger.Crowded freeMapSector)
    (log : Array Event) :
    ∃ device mount log', world.run Volume.sync log = .ok () ⟨(device, mount), log'⟩ ∧
      (mount.disk device).Shows (LawfulDevice.sectors device) ∧ mount.files.space = world.mount.files.space ∧
      Saved world.sectors world.mount.files world.ledger device := by
  have sane := reached.sane strict_keeps
  have never := (Volume.sync_ensures sane.shown sane.healthy).mono (fun _ _ done => done)
    fun _ _ refused => Volume.not_mapRefused quiet reached.guarded.2 refused
  obtain ⟨_, ⟨device, mount⟩, log', ended, shown, -, space, saved⟩ := never.ends log
  exact ⟨device, mount, log', ended, shown, space, saved⟩

/-- **Persistence.** Whatever callers have done under the strict discipline, and whoever has files open,
the volume can be saved, and is taken up again as it was. -/
theorem Reachable.persistence (reached : world.Reachable .strict) : world.Persistent := by
  have sane := reached.sane strict_keeps
  have free := reached.guarded.2
  refine ⟨fun quiet log => ?_, fun quiet log => ?_, fun quiet log => ?_, fun crowded saving how log => ?_⟩
  · have never := (Mount.run_ensures (Volume.storeFreeMap_ensures sane.healthy) sane.shown).mono
      (fun _ _ done => done) fun _ _ ⟨_, _, refused, _⟩ => Volume.not_mapRefused quiet free refused
    obtain ⟨_, ⟨device, mount⟩, log', ended, array, shown, -, space, -, inode, -, contents, -⟩ := never.ends log
    refine ⟨device, mount, log', ended, space, ?_⟩
    rw [Mount.sectors_eq shown]
    exact contents
  · obtain ⟨device, mount, log', ended, shown, space, saved⟩ := reached.synced quiet log
    refine ⟨device, mount, log', ended, space, fun capacity memory room later => ?_⟩
    obtain ⟨mount', device', later', mounted, same, resumed⟩ := sane.resumes saved room later
    exact ⟨mount', device', later', mounted, same.trans (Mount.sectors_eq shown).symm, resumed⟩
  · have never := (Volume.shutdown_ensures sane.shown sane.healthy).mono (fun _ _ done => done)
      fun _ _ refused => Volume.not_mapRefused quiet free refused
    obtain ⟨_, ⟨device, gone⟩, log', ended, saved⟩ := never.ends log
    refine ⟨device, gone, log', ended, fun capacity memory room later => ?_⟩
    obtain ⟨mount', device', later', mounted, -, resumed⟩ := sane.resumes saved room later
    exact ⟨mount', device', later', mounted, resumed⟩
  · obtain ⟨failure, ⟨device, mount⟩, log', ended, array, shown, rfl, same, files⟩ :=
      ((Mount.run_ensures (sane.saves_crowded crowded how) sane.shown).mono
        (fun _ _ ⟨_, _, impossible⟩ => impossible) fun _ _ failed => failed).ends_failing log
    exact ⟨device, mount, log', ended, files, (Mount.sectors_eq shown).trans same⟩

/-- A volume of eight sectors whose root directory is open. -/
theorem persistence_opened : ∃ mount device log,
    (Volume.format 2).run ⟨RamDisk.zeroed 8, #[]⟩ = .ok mount ⟨device, log⟩ ∧
      ((⟨device, mount, initialLedger⟩ : World RamDisk).after .openRoot #[]).Reachable .strict ∧
      ((⟨device, mount, initialLedger⟩ : World RamDisk).after .openRoot #[]).Persistent := by
  obtain ⟨mount, device, log, formatted, start⟩ := exists_reachable .strict
  have reached : ((⟨device, mount, initialLedger⟩ : World RamDisk).after .openRoot #[]).Reachable .strict :=
    .call start .openRoot start.guarded.1 #[]
  exact ⟨mount, device, log, formatted, reached, reached.persistence⟩

/-- The free map's file can be opened until it has as many holders as can be counted. -/
theorem Reachable.crowds (reached : world.Reachable .strict) :
    ∃ crowded : World D, crowded.Reachable .strict ∧ crowded.ledger.Crowded freeMapSector := by
  have opened : ∀ n, ∃ world' : World D, world'.Reachable .strict ∧
      (world'.ledger.Crowded freeMapSector ∨ n ≤ world'.ledger.holding freeMapSector) := by
    intro n
    induction n with
    | zero => exact ⟨world, reached, .inr (Nat.zero_le _)⟩
    | succ n ih =>
        obtain ⟨world', reached', crowded | many⟩ := ih
        · exact ⟨world', reached', .inl crowded⟩
        by_cases crowded : world'.ledger.Crowded freeMapSector
        · exact ⟨world', reached', .inl crowded⟩
        have sane := reached'.sane strict_keeps
        have live : world'.ledger.Live freeMapSector := sane.healthy.live
        have opens := (Files.openAt_ensures sane.healthy.sane live).mono (fun _ _ _ _ => trivial)
          fun _ _ _ failed => crowded failed.2.1
        obtain ⟨ref, device, mount, log, _, ended, -⟩ := Mount.run_ends opens sane.shown #[]
        have ended : world'.run (Volume.Call.openAt freeMapSector).perform #[] = .ok ref ⟨(device, mount), log⟩ := ended
        have more : (world'.ledger.opened ⟨freeMapSector, ref⟩).holding freeMapSector =
          world'.ledger.holding freeMapSector + 1 := Ledger.holding_opened
        refine ⟨_, reached'.call (.openAt freeMapSector) live #[], .inr ?_⟩
        rw [World.after_eq ended]
        exact Nat.le_trans (Nat.succ_le_succ many) (Nat.le_of_eq more.symm)
  obtain ⟨crowded, reached', full | many⟩ := opened UInt32.size
  · exact ⟨crowded, reached', full⟩
  · exact ⟨crowded, reached', Nat.le_succ_of_le many⟩

/-- No host has room for 2⁶⁴ - 1 slots, and so a volume that was synced is not taken up with them. Nor is a volume
synced whose free map's file is crowded. -/
theorem not_persistence : (0 < 0xffffffffffffffff ∧ ∃ mount device log,
    (Volume.format 2).run ⟨RamDisk.zeroed 8, #[]⟩ = .ok mount ⟨device, log⟩ ∧
      (⟨device, mount, initialLedger⟩ : World RamDisk).Reachable .strict ∧ ∃ device' mount' log',
      (⟨device, mount, initialLedger⟩ : World RamDisk).run Volume.sync #[] = .ok () ⟨(device', mount'), log'⟩ ∧
      ∀ memory later, (Volume.mount 0xffffffffffffffff memory).run ⟨device', later⟩ =
        .error (.fault .overflow) ⟨device', later⟩) ∧
    ∃ world : World RamDisk, world.Reachable .strict ∧
      ∀ log, ∃ ended, world.run Volume.sync log = .error (.fault .overflow) ended := by
  obtain ⟨mount, device, log, formatted, reached⟩ := exists_reachable .strict
  obtain ⟨device', mount', log', ended, -⟩ := reached.synced (Ledger.not_crowded_of_nobody rfl) #[]
  refine ⟨⟨by decide, mount, device, log, formatted, reached, device', mount', log', ended, fun memory later => ?_⟩, ?_⟩
  · exact Volume.mount_cramped (Mount.not_hasRoom_largest memory) _
  · obtain ⟨world, reached', crowded⟩ := reached.crowds
    have sane := reached'.sane strict_keeps
    refine ⟨world, reached', fun log => ?_⟩
    obtain ⟨_, ended, log', failed, _, -, rfl, -⟩ :=
      ((Mount.run_ensures (sane.saves_crowded crowded (show Volume.sync ∈ _ by simp)) sane.shown).mono
        (fun _ _ ⟨_, _, impossible⟩ => impossible) fun _ _ failed => failed).ends_failing log
    exact ⟨_, failed⟩

end World

end InodeVolume
