import InodeVolume.Proofs.BlockMap.Raised
import InodeVolume.Proofs.Checked

/-!
# What growth costs

An inode that has only been grown, and each time with success, has just the sectors that its length needs.
So what the next growth costs is known beforehand, and it succeeds when that much is free.

* **invariant** — `Frugal`: the block map has `totalSectors` sectors, and so many fewer are left;
* **steps** — `Frugal.grow_ensures`: how a growth ends is decided by the length and by what is left;
* **runs** — `Prospered.accounts`.
-/

namespace InodeVolume

namespace Draft

/-! ## The invariant -/

section Frugal

variable {A : Type} [Allocator A] [LawfulAllocator A] {array array' : PartialArray} {draft draft' : Draft A}
  {origin : A}

open LawfulAllocator (Sound limit Taken left)

/-- A draft that has just the sectors that its length needs. -/
structure Frugal (origin : A) (array : PartialArray) (draft : Draft A) : Prop where
  raised : Raised origin array draft (dataSectors draft.inode.size)
  blocks : array.blocks draft.inode (dataSectors draft.inode.size) = totalSectors draft.inode.size
  spent : left origin = left draft.space + totalSectors draft.inode.size

theorem Frugal.empty (sound : Sound origin) (bounds : limit origin = array.count) (isDir : Bool) :
    Frugal origin array ⟨.empty isDir, origin⟩ := by
  have nothing := PartialArray.not_holds_empty array isDir
  have none : dataSectors (DiskInode.empty isDir).size = 0 := show dataSectors 0 = 0 by decide
  have free : totalSectors (DiskInode.empty isDir).size = 0 := show totalSectors 0 = 0 by decide
  refine ⟨?_, PartialArray.blocks_eq (iff_of_false (nothing _) ?_), ?_⟩
  · show Raised origin array ⟨.empty isDir, origin⟩ (dataSectors (DiskInode.empty isDir).size)
    rw [none]
    exact .empty sound bounds isDir
  · show ¬singleLimit < dataSectors (DiskInode.empty isDir).size
    rw [none]
    decide
  · show left origin = left origin + totalSectors (DiskInode.empty isDir).size
    rw [free, Nat.add_zero]

/-! ## Steps -/

/-- **How a growth ends** is decided by the length and by what is left. -/
theorem Frugal.grow_ensures (frugal : Frugal origin array draft) {new : Nat} (longer : draft.inode.size < new) :
    (grow new : SectorM (Draft A) Unit).Ensures array draft
      (fun _ array' draft' => dataSectors new ≤ maxFileSectors ∧
        totalSectors new ≤ left draft.space + totalSectors draft.inode.size ∧ draft'.inode.size = new ∧
        Frugal origin array' draft')
      fun failure _ draft' =>
        (failure = .reported .outOfRange ∧ maxFileSectors < dataSectors new ∧ draft' = draft) ∨
        (failure = .reported .noSpace ∧ dataSectors new ≤ maxFileSectors ∧
          left draft.space + totalSectors draft.inode.size < totalSectors new) := by
  have raised := frugal.raised
  have blocks := frugal.blocks
  have more : dataSectors draft.inode.size ≤ dataSectors new := dataSectors_mono (Nat.le_of_lt longer)
  have costs : totalSectors draft.inode.size ≤ totalSectors new := sectorsFor_mono more
  refine (Draft.grow_ensures raised.ready raised.covered longer).mono ?_ ?_
  · rintro _ array' draft' ⟨addressed, room, draft₁, grown, ready, rfl, still, spent⟩
    have size : ({ draft₁.inode with length := UInt32.ofNat new } : DiskInode).size = new :=
      size_of_addressed addressed
    have length := size
    rw [Nat.max_eq_right more, ← length] at ready
    have raised' := (raised.grown grown ready { draft₁.inode with length := UInt32.ofNat new } rfl rfl rfl
      (Nat.le_refl _) (by rw [size]; exact Nat.le_of_lt longer)).1
    suffices counted : array'.blocks draft₁.inode (dataSectors new) = totalSectors new ∧
        left draft.space + totalSectors draft.inode.size = left draft₁.space + totalSectors new by
      obtain ⟨blocks', count⟩ := counted
      have before := frugal.spent
      refine ⟨addressed, by omega, size, raised', ?_, ?_⟩
      · show array'.blocks _ (dataSectors ({ draft₁.inode with length := UInt32.ofNat new } : DiskInode).size) =
          totalSectors ({ draft₁.inode with length := UInt32.ofNat new } : DiskInode).size
        rw [size]
        exact blocks'
      · show left origin =
          left draft₁.space + totalSectors ({ draft₁.inode with length := UInt32.ofNat new } : DiskInode).size
        rw [size]
        omega
    by_cases shorter : dataSectors draft.inode.size < dataSectors new
    · obtain ⟨blocks', count⟩ := spent shorter
      rw [blocks] at count
      exact ⟨blocks', count⟩
    · -- the last sector of the file has room for the new bytes
      have same : dataSectors new = dataSectors draft.inode.size := by omega
      obtain ⟨rfl, rfl⟩ := still (Nat.le_of_eq same)
      rw [totalSectors_eq, totalSectors_eq] at *
      rw [same]
      exact ⟨blocks, rfl⟩
  · rintro failure array' draft' ⟨-, -, ⟨rfl, beyond, -, same⟩ | ⟨rfl, addressed, full⟩⟩
    · exact .inl ⟨rfl, beyond, same⟩
    · refine .inr ⟨rfl, addressed, ?_⟩
      by_cases shorter : dataSectors draft.inode.size < dataSectors new
      · rw [room_iff raised.ready.mapped shorter, blocks] at full
        exact Nat.not_le.mp full
      · -- with no sector of data missing no index block is either, so there was room
        refine absurd (fun m mapped less => ?_) full
        have here := raised.ready.mapped.unique mapped
        omega

end Frugal

/-! ## Runs -/

section Runs

open LawfulStore (Shows)

variable {S : Type} [SectorStore S] {store : S} {whole : SectorArray} {isDir : Bool} {map : FreeMap}
  {world : S × Draft FreeMap}

/-- What becomes of an inode over a store when it is grown and no growth fails. -/
inductive Prospered (start : S × Draft FreeMap) : S × Draft FreeMap → Prop where
  | start : Prospered start start
  | grow {world ended : S × Draft FreeMap} (reached : Prospered start world) {new : Nat} {log log' : Array Event}
      (grown : (Draft.grow new : SectorM (Draft FreeMap) Unit).run.run ⟨world, log⟩ = .ok () ⟨ended, log'⟩) :
      Prospered start ended

variable [LawfulStore S]

theorem Prospered.frugal (shown : Shows store whole) (sound : map.Sound) (sectors : map.sectors = whole.count)
    (reached : Prospered (store, ⟨.empty isDir, map⟩) world) :
    ∃ whole', Shows world.1 whole' ∧ Frugal map (.ofWhole whole') world.2 := by
  induction reached with
  | start => exact ⟨whole, shown, .empty sound (sectors.trans PartialArray.count_ofWhole.symm) isDir⟩
  | grow reached grown ih =>
      rename_i world ended new log log'
      obtain ⟨whole', shown', frugal⟩ := ih
      by_cases longer : world.2.inode.size < new
      · have ran := ((frugal.grow_ensures longer).run shown') log
        rw [grown] at ran
        obtain ⟨whole'', shown'', -, -, -, frugal'⟩ := ran
        exact ⟨whole'', shown'', frugal'⟩
      · -- a file that is long enough stays as it is
        have ensured : (Draft.grow new : SectorM (Draft FreeMap) Unit).Ensures (.ofWhole whole') world.2
            (fun _ array draft => array = .ofWhole whole' ∧ draft = world.2) fun _ _ _ => False :=
          grow_of_le (Nat.le_of_not_lt longer) ⟨rfl, rfl⟩
        have ran := (ensured.run shown') log
        rw [grown] at ran
        obtain ⟨whole'', shown'', same, draft⟩ := ran
        rw [← same] at frugal
        exact ⟨whole'', shown'', draft ▸ frugal⟩

/-- The sectors at the spots of a block map, by number. -/
def IsHeld (array : PartialArray) (inode : DiskInode) (k : Nat) : Prop :=
  ∃ spot, array.Holds inode spot ∧ (array.held inode spot).index = k

/-- What a frugal draft has taken from a free map is as many sectors as its length needs. -/
theorem Frugal.held {array : PartialArray} {draft : Draft FreeMap} (frugal : Frugal map array draft) :
    ∃ held : Finset Nat, (∀ k, k ∈ held ↔ IsHeld array draft.inode k) ∧
      held.card = totalSectors draft.inode.size := by
  have raised := frugal.raised
  obtain ⟨origins, bounds⟩ := raised.bounds
  have sectors : draft.space.sectors = map.sectors := origins
  have sound : draft.space.Sound := raised.ready.sound
  have taken : ∀ sector : SectorId, draft.space.marked sector.index = true ↔ map.marked sector.index = true ∨
      ∃ spot, array.Holds draft.inode spot ∧ array.held draft.inode spot = sector := raised.taken
  have fresh : ∀ spot, array.Holds draft.inode spot → ¬map.marked (array.held draft.inode spot).index = true :=
    raised.fresh
  have listed : ∀ {k : Nat}, k < map.sectors → (SectorId.ofNat k).index = k := fun inside =>
    SectorId.index_ofNat (Nat.lt_of_lt_of_le (sectors ▸ inside) sound.small)
  have more : map.allocated ⊆ draft.space.allocated := by
    intro k there
    obtain ⟨inside, marked⟩ := FreeMap.mem_allocated.mp there
    have here := (taken (.ofNat k)).mpr (.inl (by rw [listed inside]; exact marked))
    rw [listed inside] at here
    exact FreeMap.mem_allocated.mpr ⟨sectors ▸ inside, here⟩
  -- what is held is what is allocated now and was not at first
  refine ⟨draft.space.allocated \ map.allocated, fun k => ?_, ?_⟩
  · rw [Finset.mem_sdiff, FreeMap.mem_allocated, FreeMap.mem_allocated, sectors]
    constructor
    · rintro ⟨⟨inside, marked⟩, free⟩
      rw [← listed inside] at marked
      rcases (taken _).mp marked with before | ⟨spot, holds, same⟩
      · rw [listed inside] at before
        exact absurd ⟨inside, before⟩ free
      · exact ⟨spot, holds, by rw [same, listed inside]⟩
    · rintro ⟨spot, holds, rfl⟩
      have inside : (array.held draft.inode spot).index < map.sectors := by
        show _ < LawfulAllocator.limit map
        rw [← origins, bounds]
        exact PartialArray.has_of_mem (raised.ready.tidy.inside spot holds)
      exact ⟨⟨inside, raised.ready.tidy.taken spot holds⟩, fun before => fresh spot holds before.2⟩
  · have spent : map.clearCount = draft.space.clearCount + totalSectors draft.inode.size := frugal.spent
    have fewer := Finset.card_le_card more
    have within : draft.space.allocated.card ≤ draft.space.sectors := by
      have all := Finset.card_filter_le (Finset.range draft.space.sectors) (draft.space.marked · = true)
      rwa [Finset.card_range] at all
    rw [FreeMap.clearCount_eq_sub_card, FreeMap.clearCount_eq_sub_card, sectors] at spent
    rw [Finset.card_sdiff_of_subset more]
    omega

/-- What the sectors of an inode cost, and what more of them will. -/
structure Accounts (world : S × Draft FreeMap) : Prop where
  held : ∃ whole, Shows world.1 whole ∧ ∃ held : Finset Nat,
    (∀ k, k ∈ held ↔ IsHeld (.ofWhole whole) world.2.inode k) ∧ held.card = totalSectors world.2.inode.size
  /-- A growth ends in one of three ways, and each of them excludes the others. -/
  grows : ∀ new, world.2.inode.size < new →
    (Draft.grow new : SectorM (Draft FreeMap) Unit).run.Ensures world
      (fun _ after => dataSectors new ≤ maxFileSectors ∧
        totalSectors new ≤ world.2.space.freeCount + totalSectors world.2.inode.size ∧
        after.2.inode.size = new ∧
        after.2.space.freeCount + totalSectors new =
          world.2.space.freeCount + totalSectors world.2.inode.size)
      fun failure after =>
        (failure = .reported .outOfRange ∧ maxFileSectors < dataSectors new ∧ after.2 = world.2) ∨
        (failure = .reported .noSpace ∧ dataSectors new ≤ maxFileSectors ∧
          world.2.space.freeCount + totalSectors world.2.inode.size < totalSectors new)
  /-- Neither in counting nor in growing is there a result that does not fit into its word. -/
  words : ∀ new < wordLimit, Checked.dataSectors? new = some (dataSectors new) ∧
    Checked.totalSectors? new = some (totalSectors new) ∧
    (dataSectors new ≤ maxFileSectors → Checked.narrow? new = some (.ofNat new) ∧
      ∀ index < dataSectors new, Checked.place? index = some (locate (index * sectorSize)))

/-- **What growth costs** is known to the sector. -/
theorem Prospered.accounts (shown : Shows store whole) (sound : map.Sound) (sectors : map.sectors = whole.count)
    (reached : Prospered (store, ⟨.empty isDir, map⟩) world) : Accounts world := by
  obtain ⟨whole', shown', frugal⟩ := reached.frugal shown sound sectors
  have count := FreeMap.Sound.freeCount_eq (show world.2.space.Sound from frugal.raised.ready.sound)
  refine ⟨⟨whole', shown', frugal.held⟩, fun new longer => ?_, fun new small => ?_⟩
  · refine ((frugal.grow_ensures longer).run shown').mono ?_ ?_
    · rintro _ after ⟨_, -, addressed, enough, size, frugal'⟩
      have count' := FreeMap.Sound.freeCount_eq (show after.2.space.Sound from frugal'.raised.ready.sound)
      have before : map.clearCount = world.2.space.clearCount + totalSectors world.2.inode.size := frugal.spent
      have spent : map.clearCount = after.2.space.clearCount + totalSectors after.2.inode.size := frugal'.spent
      rw [size] at spent
      rw [count, count']
      exact ⟨addressed, enough, size, spent.symm.trans before⟩
    · rintro failure after ⟨-, -, why⟩
      rw [count]
      exact why
  · refine ⟨Checked.dataSectors?_eq small, Checked.totalSectors?_eq small, fun addressed => ?_⟩
    refine ⟨(Checked.narrow?_eq addressed).1, fun index low => Checked.place?_eq ?_⟩
    have limit : wordLimit = 18446744073709551616 := by decide
    have size : sectorSize = 512 := rfl
    have most : maxFileSectors = 16635 := rfl
    rw [size]
    omega

/-- After 124 sectors of data there is an index block, too. -/
theorem accounts_newborn : ∃ ended log,
    (Draft.grow 63488 : SectorM (Draft FreeMap) Unit).run.run
      ⟨((⟨.zeroed 140, .empty 2 (by decide)⟩ : CachedDisk RamDisk 2), newborn 140), #[]⟩ = .ok () ⟨ended, log⟩ ∧
    Accounts ended := by
  have sound := sound_newborn (show 0 < 140 by decide) (by decide)
  have sectors := sectors_newborn (show 0 < 140 by decide) (by decide)
  have shown : Shows (⟨.zeroed 140, .empty 2 (by decide)⟩ : CachedDisk RamDisk 2) ⟨(RamDisk.zeroed 140).sectors⟩ :=
    CachedDisk.Shows.fresh trivial (by decide)
  have raised := raised_newborn (show 0 < 140 by decide) (by decide)
  have room := room_newborn (show 0 < 140 by decide) (by decide) (show 0 < dataSectors 63488 by decide) (by decide)
  obtain ⟨ended, log, grown⟩ := raised.exists_grown shown (show 0 < 63488 by decide) (by decide) room #[]
  exact ⟨ended, log, grown, Prospered.accounts shown sound sectors (.grow .start grown)⟩

end Runs

end Draft

end InodeVolume
