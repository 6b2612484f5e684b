import InodeVolume.Proofs.Volume.Reachable

/-!
# Who owns which sector

In every world that callers can reach under the strict discipline, each file has its sectors to
itself: its inode's, those of its data and those of its index blocks.

* **the invariant** — `Apportioned`, read off from `Intact`;
* **ownership** — `Reachable.ownership`: the sectors of all files are apportioned, so that no call
  releases a free sector, finds an inode without its magic number or leaves its tables.
-/

namespace InodeVolume

/-! ## The invariant -/

/-- The sectors of a device are shared out among files. -/
structure Apportioned (array : PartialArray) (map : FreeMap) (files : List SectorId) : Prop where
  /-- No two spots of one block map hold the same sector. -/
  once : ∀ file ∈ files, ∀ spot other, array.Holds (array.inode file) spot →
    array.Holds (array.inode file) other →
    array.held (array.inode file) spot = array.held (array.inode file) other → spot = other
  /-- No spot of a block map holds the sector of its own inode. -/
  own : ∀ file ∈ files, ∀ spot, array.Holds (array.inode file) spot →
    array.held (array.inode file) spot ≠ file
  /-- No two files have a sector in common. -/
  apart : ∀ file ∈ files, ∀ other ∈ files, file ≠ other → ∀ sector,
    array.Owns file (array.inode file) sector → ¬array.Owns other (array.inode other) sector
  inside : ∀ file ∈ files, ∀ sector, array.Owns file (array.inode file) sector →
    sector.index < array.count
  marked : ∀ file ∈ files, ∀ sector, array.Owns file (array.inode file) sector →
    map.marked sector.index = true
  /-- No data and no index block is on the sector of a fixed inode. -/
  clear : ∀ file ∈ files, ∀ spot, array.Holds (array.inode file) spot →
    array.held (array.inode file) spot ≠ freeMapSector ∧ array.held (array.inode file) spot ≠ rootSector
  /-- Each block map is a prefix of the logical sectors, and covers the length of its file. -/
  mapped : ∀ file ∈ files, ∃ m, array.Prefix (array.inode file) m ∧
    dataSectors (array.inode file).size ≤ m

namespace Apportioned

variable {array : PartialArray} {map : FreeMap} {files : List SectorId}

/-- Whole files with nothing in common leave each other's inodes alone. -/
theorem of_intact (intact : Intact array map files) (first : freeMapSector ∈ files)
    (second : rootSector ∈ files) : Apportioned array map files := by
  -- a fixed inode's sector belongs to that inode, and so to no spot of any file
  have fixed : ∀ fixed ∈ files, ∀ file ∈ files, ∀ spot, array.Holds (array.inode file) spot →
      array.held (array.inode file) spot ≠ fixed := by
    intro fixed there file listed spot holds same
    by_cases equal : file = fixed
    · exact (intact.whole file listed).own spot holds (same.trans equal.symm)
    · exact intact.apart file listed fixed there equal _ (.inr ⟨spot, holds, rfl⟩) (.inl same)
  refine ⟨?_, ?_, intact.apart, ?_, ?_, ?_, ?_⟩
  · exact fun file listed spot other holds _ same => (intact.whole file listed).tidy.apart spot other holds same
  · exact fun file listed => (intact.whole file listed).own
  · rintro file listed sector (rfl | ⟨spot, holds, rfl⟩)
    · exact (intact.whole _ listed).has
    · exact PartialArray.has_of_mem ((intact.whole file listed).tidy.inside spot holds)
  · exact fun file listed sector owns => intact.taken_of_owns listed owns
  · exact fun file listed spot holds =>
      ⟨fixed freeMapSector first file listed spot holds, fixed rootSector second file listed spot holds⟩
  · exact fun file listed => (intact.whole file listed).mapped

end Apportioned

/-! ## Ownership -/

namespace World

variable {D : Type} [BlockDevice D] [LawfulDevice D] {world : World D}

open Volume (Call Discipline initialLedger)

/-- What apportioned sectors mean for callers: a call that fails was told that there is no space or that
a length is out of range, or it denied or allowed writing out of turn, or the file it opens had as many holders
as can be counted; and shutting down fails at most where that is so for the free map's file. -/
structure Ordered (world : World D) : Prop where
  apportioned : Apportioned world.sectors world.mount.files.space world.ledger.files
  freeMap : world.ledger.Live freeMapSector
  root : world.ledger.Live rootSector
  size : world.sectors.count = BlockDevice.sectorCount world.device
  excused : ∀ {α : Type} (call : Call α), call.Permitted .strict world.ledger → ∀ log failure ended,
    world.run call.perform log = .error failure ended → call.Excused failure ∨
      (failure = .fault .overflow ∧ ∃ file, call.Opens file ∧ world.ledger.Crowded file)
  closes : ∀ log, (∃ ended, world.run Volume.shutdown log = .ok () ended) ∨
    (world.ledger.Crowded freeMapSector ∧ ∃ ended, world.run Volume.shutdown log = .error (.fault .overflow) ended)

/-- **Ownership.** Whatever callers have done under the strict discipline, whether or not it failed, the
sectors of the device are shared out among the files. -/
theorem Reachable.ownership (reached : world.Reachable .strict) : world.Ordered := by
  have sane := reached.sane strict_keeps
  have guarded := reached.guarded
  have live := sane.healthy.live
  refine ⟨.of_intact sane.healthy.sane.intact live.1 guarded.1.1, live, guarded.1, ?_, ?_, ?_⟩
  · have shown := sane.shown
    rw [World.sectors, Mount.sectors, PartialArray.count_ofWhole, ← shown.count]
    exact LawfulDevice.count_sectors shown.sound
  · intro α call permitted log failure ended failed
    rcases sane.mayFail strict_keeps call permitted failed with excused | crowded | ⟨-, denied⟩
    · exact .inl excused
    · exact .inr crowded
    · exact absurd denied guarded.2
  · intro log
    have ran := Volume.shutdown_ensures sane.shown sane.healthy log
    unfold World.run
    revert ran
    cases (Mount.run Volume.shutdown).run ⟨(world.device, world.mount), log⟩ with
    | ok _ ended => exact fun _ => .inl ⟨ended, rfl⟩
    | error failure ended =>
        rintro (⟨rfl, crowded⟩ | ⟨-, denied⟩)
        · exact .inr ⟨crowded, ended, rfl⟩
        · exact absurd denied guarded.2

/-- A volume of eight sectors on which a directory was made. -/
theorem ownership_created : ∃ mount device log,
    (Volume.format 2).run ⟨RamDisk.zeroed 8, #[]⟩ = .ok mount ⟨device, log⟩ ∧
      ((⟨device, mount, initialLedger⟩ : World RamDisk).after (.create 600 true) #[]).Reachable .strict ∧
      ((⟨device, mount, initialLedger⟩ : World RamDisk).after (.create 600 true) #[]).Ordered := by
  obtain ⟨mount, device, log, formatted, start⟩ := exists_reachable .strict
  have reached : ((⟨device, mount, initialLedger⟩ : World RamDisk).after (.create 600 true) #[]).Reachable
      .strict := .call start (.create 600 true) trivial #[]
  exact ⟨mount, device, log, formatted, reached, reached.ownership⟩

end World

end InodeVolume
