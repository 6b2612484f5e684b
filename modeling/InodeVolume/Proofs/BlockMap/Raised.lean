import InodeVolume.Proofs.BlockMap.Free
import InodeVolume.Proofs.Cache.Lawful
import InodeVolume.Proofs.Device.Lawful
import InodeVolume.Proofs.FreeMap.FirstFit
import InodeVolume.Proofs.Files.Whole
import InodeVolume.Proofs.Space.Refusing

/-!
# Inodes that are raised from nothing

A new inode is grown again and again, and written to in between. Growths may stop anywhere: at a length
that cannot be addressed, or at a request for a sector that is not met, be it for data or for an index
block.

* **invariant** — `Raised`: what was taken is what the block map leads to, each sector once, and there are
  zeros past the length;
* **steps** — `Raised.grow_ensures`, `Raised.write_ensures`;
* **runs** — `Reached`: what may become of a new inode; `Reached.raised` carries the invariant over all of
  it;
* **no leak** — `Reached.balanced`: whichever requests were refused, no sector is lost and none is given
  back twice.
-/

namespace InodeVolume

namespace Draft

variable {A : Type} [Allocator A] [LawfulAllocator A] {array array' : PartialArray}
  {draft draft' : Draft A} {origin : A} {m m' : Nat}

open LawfulAllocator (Sound limit Taken left)

/-! ## The invariant -/

/-- A draft whose `m` mapped sectors, and the index blocks above them, are all that was taken from an
allocator that was `origin` before. -/
structure Raised (origin : A) (array : PartialArray) (draft : Draft A) (m : Nat) : Prop where
  ready : Ready array draft m
  covered : dataSectors draft.inode.size ≤ m
  bounds : limit draft.space = limit origin ∧ limit draft.space = array.count
  fresh : ∀ spot, array.Holds draft.inode spot → ¬Taken origin (array.held draft.inode spot)
  taken : ∀ sector, Taken draft.space sector ↔ Taken origin sector ∨
    ∃ spot, array.Holds draft.inode spot ∧ array.held draft.inode spot = sector
  zeros : ∀ i, draft.inode.size ≤ i → array.byteAt draft.inode i = 0

/-- A new inode has taken nothing. -/
theorem Raised.empty (sound : Sound origin) (bounds : limit origin = array.count) (isDir : Bool) :
    Raised origin array ⟨.empty isDir, origin⟩ 0 := by
  have nothing := PartialArray.not_holds_empty array isDir
  refine ⟨⟨sound, Nat.le_of_eq bounds, ⟨?_, ?_, ?_⟩, PartialArray.prefix_empty array isDir⟩, show dataSectors 0 ≤ 0 by decide,
    ⟨rfl, bounds⟩, fun spot holds => absurd holds (nothing spot), ?_,
    fun i _ => PartialArray.byteAt_empty array isDir i⟩
  · exact fun spot holds => absurd holds (nothing spot)
  · exact fun spot holds => absurd holds (nothing spot)
  · exact fun spot _ holds => absurd holds (nothing spot)
  · intro sector
    refine ⟨.inl, ?_⟩
    rintro (taken | ⟨spot, holds, -⟩)
    · exact taken
    · exact absurd holds (nothing spot)

/-- A growth takes what it adds to the block map, wherever it stops. The length may be raised then, as far
as it is covered. -/
theorem Raised.grown (raised : Raised origin array draft m) (grown : Grown array draft array' draft')
    (ready : Ready array' draft' m') (inode : DiskInode)
    (direct : inode.direct = draft'.inode.direct) (indirect : inode.indirect = draft'.inode.indirect)
    (doubleIndirect : inode.doubleIndirect = draft'.inode.doubleIndirect)
    (covered : dataSectors inode.size ≤ m') (longer : draft.inode.size ≤ inode.size) :
    Raised origin array' ⟨inode, draft'.space⟩ m' ∧
      array'.held inode = array'.held draft'.inode ∧ array'.byteAt inode = array.byteAt draft.inode := by
  have held : array'.held inode = array'.held draft'.inode :=
    PartialArray.held_of_entries direct indirect doubleIndirect
  have holds : ∀ spot, array'.Holds inode spot ↔ array'.Holds draft'.inode spot :=
    fun spot => PartialArray.holds_congr (congrFun held spot)
  have bytes : array'.byteAt inode = array.byteAt draft.inode :=
    (PartialArray.byteAt_of_entries direct indirect doubleIndirect).trans (grown.byteAt raised.ready)
  obtain ⟨origins, bounds⟩ := raised.bounds
  refine ⟨⟨⟨ready.sound, ready.limit, ready.tidy.congr held (.refl _), ready.mapped.congr held⟩, covered,
    ⟨grown.limit.trans origins, ?_⟩, ?_, ?_, ?_⟩, held, bytes⟩
  · show limit draft'.space = array'.count
    rw [grown.limit, bounds, grown.spreads.count]
  · intro spot here
    show ¬Taken origin (array'.held inode spot)
    rw [held]
    rcases grown.fresh spot ((holds spot).mp here) with before | free
    · rw [grown.kept spot before]
      exact raised.fresh spot before
    · exact fun taken => free ((raised.taken _).mpr (.inl taken))
  · intro sector
    show Taken draft'.space sector ↔ _
    simp only [holds, held]
    rw [grown.taken, raised.taken]
    constructor
    · rintro ((before | ⟨spot, here, rfl⟩) | after)
      · exact .inl before
      · exact .inr ⟨spot, grown.holds here, grown.kept spot here⟩
      · exact .inr after
    · rintro (before | after)
      · exact .inl (.inl before)
      · exact .inr after
  · intro i past
    show array'.byteAt inode i = 0
    rw [bytes]
    exact raised.zeros i (Nat.le_trans longer past)

/-! ## Steps -/

/-- The file is longer: what was mapped stays where it is, and all bytes read as before. -/
structure Lengthened (array : PartialArray) (draft : Draft A) (array' : PartialArray) (draft' : Draft A)
    (new : Nat) : Prop where
  size : draft'.inode.size = new
  kept : ∀ spot, array.Holds draft.inode spot → array'.held draft'.inode spot = array.held draft.inode spot
  bytes : array'.byteAt draft'.inode = array.byteAt draft.inode

/-- A growth that ends lengthens the file, and one that fails leaves it as long as it was. -/
theorem Raised.lengthen_ensures (raised : Raised origin array draft m) {new : Nat}
    (longer : draft.inode.size < new) :
    (grow new : SectorM (Draft A) Unit).Ensures array draft
      (fun _ array' draft' => (∃ m', Raised origin array' draft' m') ∧ Lengthened array draft array' draft' new)
      fun failure array' draft' => (failure = .reported .outOfRange ∨ failure = .reported .noSpace) ∧
        draft'.inode.length = draft.inode.length ∧ ∃ m', Raised origin array' draft' m' := by
  refine (grow_ensures raised.ready raised.covered longer).mono ?_ ?_
  -- the length is raised at the end, when all sectors below it are mapped
  · rintro _ array' draft' ⟨addressed, -, draft₁, grown, ready, rfl, -⟩
    have size : ({ draft₁.inode with length := UInt32.ofNat new } : DiskInode).size = new :=
      size_of_addressed addressed
    have covered : dataSectors ({ draft₁.inode with length := UInt32.ofNat new } : DiskInode).size ≤
        max m (dataSectors new) := by
      rw [size]
      exact Nat.le_max_right _ _
    have atLeast : draft.inode.size ≤ ({ draft₁.inode with length := UInt32.ofNat new } : DiskInode).size := by
      rw [size]
      exact Nat.le_of_lt longer
    obtain ⟨raised', held, bytes⟩ := raised.grown grown ready { draft₁.inode with length := UInt32.ofNat new }
      rfl rfl rfl covered atLeast
    refine ⟨⟨_, raised'⟩, size, fun spot holds => ?_, bytes⟩
    exact (congrFun held spot).trans (grown.kept spot holds)
  -- what a growth that fails has taken is mapped past the length, where it is not read
  · rintro failure array' draft' ⟨grown, ⟨m', more, ready⟩, why⟩
    have length := grown.header.1
    have size : draft'.inode.size = draft.inode.size := congrArg UInt32.toNat length
    refine ⟨?_, length, m', ?_⟩
    · rcases why with ⟨rfl, -⟩ | ⟨rfl, -⟩
      · exact .inl rfl
      · exact .inr rfl
    · refine (raised.grown grown ready draft'.inode rfl rfl rfl ?_ (Nat.le_of_eq size.symm)).1
      rw [size]
      exact Nat.le_trans raised.covered more

theorem Raised.grow_ensures (raised : Raised origin array draft m) (new : Nat) :
    (grow new : SectorM (Draft A) Unit).Ensures array draft
      (fun _ array' draft' => ∃ m', Raised origin array' draft' m')
      fun failure array' draft' => (failure = .reported .outOfRange ∨ failure = .reported .noSpace) ∧
        draft'.inode.length = draft.inode.length ∧ ∃ m', Raised origin array' draft' m' := by
  by_cases enough : new ≤ draft.inode.size
  · exact grow_of_le enough ⟨m, raised⟩
  · exact (raised.lengthen_ensures (Nat.not_le.mp enough)).mono (fun _ _ _ done => done.1) fun _ _ _ failed => failed

/-- Writing within the length changes neither what is taken nor what is past the length. -/
theorem Raised.write_ensures (raised : Raised origin array draft m) {source : Bytes} {offset : Nat}
    (within : offset + source.size ≤ draft.inode.size) :
    (draft.inode.write source offset : SectorM (Draft A) Nat).Ensures array draft
      (fun _ array' draft' => Raised origin array' draft' m) fun _ _ _ => False := by
  have ready := raised.ready
  unfold DiskInode.write
  refine (DiskInode.writeFrom_ensures ready.tidy ready.mapped raised.covered source 0 offset).mono ?_
    fun _ _ _ failed => failed
  rintro _ array' draft' ⟨same, -, patched⟩
  obtain rfl : draft = draft' := same.symm
  have held := patched.held ready.tidy
  have holds : ∀ spot, array'.Holds draft.inode spot ↔ array.Holds draft.inode spot :=
    fun spot => PartialArray.holds_congr (congrFun held spot)
  obtain ⟨origins, bounds⟩ := raised.bounds
  refine ⟨⟨ready.sound, ?_, ready.tidy.congr held patched.spreads, ready.mapped.congr held⟩, raised.covered,
    ⟨origins, bounds.trans patched.spreads.count.symm⟩, ?_, ?_, ?_⟩
  · rw [patched.spreads.count]
    exact ready.limit
  · intro spot here
    rw [held]
    exact raised.fresh spot ((holds spot).mp here)
  · intro sector
    simp only [holds, held]
    exact raised.taken sector
  · intro i past
    have short := Bytes.size_slice_eq source 0 (draft.inode.size - offset)
    rw [patched.bytes, if_neg (by omega)]
    exact raised.zeros i past

/-- Freeing gives back all that was taken. -/
theorem Raised.free_ensures (raised : Raised origin array draft m) :
    (draft.inode.freeSectors : SectorM A Unit).Ensures array draft.space
      (fun _ array' after => array' = array ∧ Sound after ∧ limit after = limit origin ∧
        ∀ sector, Taken after sector ↔ Taken origin sector) fun _ _ _ => False := by
  obtain ⟨origins, bounds⟩ := raised.bounds
  refine (DiskInode.freeSectors_ensures ⟨raised.ready.tidy, bounds⟩ raised.ready.mapped).mono ?_
    fun _ _ _ failed => failed
  rintro _ array' after ⟨rfl, keeps, limit, taken⟩
  refine ⟨rfl, keeps raised.ready.sound, limit.trans origins, fun sector => ?_⟩
  rw [taken, raised.taken]
  constructor
  · rintro ⟨before | ⟨spot, holds, same⟩, apart⟩
    · exact before
    · exact absurd same (apart spot holds)
  · exact fun before => ⟨.inl before, fun spot holds same => raised.fresh spot holds (same ▸ before)⟩

/-! ## Runs -/

section Runs

variable {S : Type} [SectorStore S] {store : S} {whole : SectorArray} {isDir : Bool} {world : S × Draft A}

/-- What becomes of an inode over a store when it is grown, whether or not each growth succeeds, and written
to within its length. -/
inductive Reached {S A : Type} [SectorStore S] [Allocator A] (start : S × Draft A) : S × Draft A → Prop where
  | start : Reached start start
  | grow {world : S × Draft A} (reached : Reached start world) (new : Nat) (log : Array Event) :
      Reached start ((Draft.grow new : SectorM (Draft A) Unit).run.after world log)
  | write {world : S × Draft A} (reached : Reached start world) {source : Bytes} {offset : Nat}
      (within : offset + source.size ≤ world.2.inode.size) (log : Array Event) :
      Reached start ((world.2.inode.write source offset : SectorM (Draft A) Nat).run.after world log)

variable [LawfulStore S]

open LawfulStore (Shows)

/-- An inode that was raised over a store, whatever the store shows. -/
def RaisedOn (origin : A) (world : S × Draft A) : Prop :=
  ∃ whole m, Shows world.1 whole ∧ Raised origin (.ofWhole whole) world.2 m

/-- What a new inode becomes was raised from the allocator as it was at first. -/
theorem Reached.raised (shown : Shows store whole) (sound : Sound origin) (bounds : limit origin = whole.count)
    (reached : Reached (store, ⟨.empty isDir, origin⟩) world) : RaisedOn origin world := by
  -- the sectors that the store shows change on the way, so the invariant is about any of them
  induction reached with
  | start =>
      refine ⟨whole, 0, shown, .empty sound (bounds.trans ?_) isDir⟩
      exact PartialArray.count_ofWhole.symm
  | grow reached new log ih =>
      rename_i world
      obtain ⟨store', draft⟩ := world
      obtain ⟨whole', m, shown, raised⟩ := ih
      refine ((raised.grow_ensures new).run shown).after (RaisedOn origin) ?_ ?_ log
      · rintro _ after ⟨whole'', shown, m', raised⟩
        exact ⟨whole'', m', shown, raised⟩
      · rintro _ after ⟨whole'', shown, -, -, m', raised⟩
        exact ⟨whole'', m', shown, raised⟩
  | write reached within log ih =>
      rename_i world source offset
      obtain ⟨store', draft⟩ := world
      obtain ⟨whole', m, shown, raised⟩ := ih
      refine ((raised.write_ensures within).run shown).after (RaisedOn origin) ?_ ?_ log
      · rintro _ after ⟨whole'', shown, raised⟩
        exact ⟨whole'', m, shown, raised⟩
      · rintro _ after ⟨-, -, failed⟩
        exact failed.elim

/-- A growth that there is room for ends. -/
theorem Raised.exists_grown {draft : Draft A} (raised : Raised origin (.ofWhole whole) draft m)
    (shown : Shows store whole) {new : Nat} (longer : draft.inode.size < new)
    (addressed : dataSectors new ≤ maxFileSectors) (room : Room (.ofWhole whole) draft (dataSectors new))
    (log : Array Event) :
    ∃ after log', (Draft.grow new : SectorM (Draft A) Unit).run.run ⟨(store, draft), log⟩ =
      .ok () ⟨after, log'⟩ := by
  have ends : (Draft.grow new : SectorM (Draft A) Unit).run.Ensures (store, draft) (fun _ _ => True)
      fun _ _ => False := by
    refine ((Draft.grow_ensures raised.ready raised.covered longer).run shown).mono (fun _ _ _ => trivial) ?_
    rintro failure after ⟨-, -, -, -, ⟨-, beyond, -⟩ | ⟨-, -, short⟩⟩
    · exact absurd addressed (Nat.not_le.mpr beyond)
    · exact short room
  obtain ⟨_, after, log', ended, -⟩ := ends.ends log
  exact ⟨after, log', ended⟩

end Runs

/-! ### A new inode -/

section Newborn

variable {n : Nat}

/-- A new inode over a free map in which sector 0 is reserved. -/
def newborn (n : Nat) : Draft FreeMap := ⟨.empty false, (FreeMap.reserve (.ofNat 0)).after (.clear n) #[]⟩

theorem reachable_newborn (some : 0 < n) : FreeMap.Reachable n (newborn n).space :=
  .reserve .clear (show (SectorId.ofNat 0).index < n from some) #[]

theorem allocated_newborn (some : 0 < n) : (newborn n).space.allocated = {0} := by
  have bounded : FreeMap.Bounded n (.clear n) := ⟨rfl, FreeMap.fenced_clear n⟩
  have none : (SectorId.ofNat 0).index ∉ (FreeMap.clear n).allocated := by
    rw [FreeMap.allocated_clear]
    exact Finset.notMem_empty _
  refine (bounded.reserve_set (show (SectorId.ofNat 0).index < n from some)).after (·.allocated = {0}) ?_ ?_ #[]
  · rintro _ map ⟨-, -, allocated⟩
    rw [allocated, FreeMap.allocated_clear]
    rfl
  · rintro _ map ⟨-, there, -⟩
    exact absurd there none

theorem sound_newborn (some : 0 < n) (small : n ≤ 2 ^ 32) : (newborn n).space.Sound := by
  refine (reachable_newborn some).sound small ?_
  rw [allocated_newborn some]
  exact Finset.mem_singleton_self 0

theorem sectors_newborn (some : 0 < n) (small : n ≤ 2 ^ 32) :
    (newborn n).space.sectors = SectorArray.count ⟨(RamDisk.zeroed n).sectors⟩ :=
  ((reachable_newborn some).bounded small).1.trans Array.size_replicate.symm

/-- All sectors but one are free. -/
theorem left_newborn (some : 0 < n) (small : n ≤ 2 ^ 32) : left (newborn n).space = n - 1 := by
  show (newborn n).space.clearCount = n - 1
  rw [FreeMap.clearCount_eq_sub_card, allocated_newborn some, ((reachable_newborn some).bounded small).1,
    Finset.card_singleton]

theorem raised_newborn (some : 0 < n) (small : n ≤ 2 ^ 32) :
    Raised (newborn n).space (.ofWhole ⟨(RamDisk.zeroed n).sectors⟩) (newborn n) 0 :=
  .empty (sound_newborn some small) ((sectors_newborn some small).trans PartialArray.count_ofWhole.symm) false

/-- It can be grown as long as there is a sector for all that it needs. -/
theorem room_newborn (some : 0 < n) (small : n ≤ 2 ^ 32) {data : Nat} (longer : 0 < data)
    (enough : sectorsFor data < n) :
    Room (.ofWhole ⟨(RamDisk.zeroed n).sectors⟩) (newborn n) data := by
  refine (room_iff (raised_newborn some small).ready.mapped longer).mpr (Nat.le_add_right_of_le ?_)
  rw [left_newborn some small]
  omega

end Newborn

/-! ## No leak -/

section Balance

open LawfulStore (Shows)

variable {S : Type} [SectorStore S] [LawfulStore S] {store : S} {whole : SectorArray} {isDir : Bool}
  {map : FreeMap} {world : S × Draft (Refusing FreeMap)}

/-- The books of an inode are in order: `map` is how the free map was before the first growth. -/
structure Balanced (map : FreeMap) (world : S × Draft (Refusing FreeMap)) (whole : SectorArray) : Prop where
  shown : Shows world.1 whole
  /-- What is allocated now, and was not before, is what the block map leads to. -/
  taken : ∀ sector : SectorId, world.2.space.source.marked sector.index = true ↔
    map.marked sector.index = true ∨
      ∃ spot, (PartialArray.ofWhole whole).Holds world.2.inode spot ∧
        (PartialArray.ofWhole whole).held world.2.inode spot = sector
  fresh : ∀ spot, (PartialArray.ofWhole whole).Holds world.2.inode spot →
    map.marked ((PartialArray.ofWhole whole).held world.2.inode spot).index = false
  /-- No sector is at two spots. -/
  once : ∀ spot other, (PartialArray.ofWhole whole).Holds world.2.inode spot →
    (PartialArray.ofWhole whole).held world.2.inode spot = (PartialArray.ofWhole whole).held world.2.inode other →
      spot = other
  /-- On each level the entries in use come first. -/
  contiguous : ∃ m, (PartialArray.ofWhole whole).Prefix world.2.inode m
  /-- A growth that fails reports it, and does not change the length. -/
  failing : ∀ new, (Draft.grow new : SectorM (Draft (Refusing FreeMap)) Unit).run.Ensures world (fun _ _ => True)
    fun failure after => (failure = .reported .outOfRange ∨ failure = .reported .noSpace) ∧
      after.2.inode.length = world.2.inode.length
  /-- Each sector is given back once, since giving a free sector back is a fault, and none is kept. -/
  freeing : (world.2.inode.freeSectors : SectorM (Refusing FreeMap) Unit).run.Ensures (world.1, world.2.space)
    (fun _ after => after.2.source = map ∧ Shows after.1 whole) fun _ _ => False

/-- **Whichever requests are refused, no sector is lost and none is given back twice.** -/
theorem Reached.balanced (shown : Shows store whole) (sound : map.Sound) (sectors : map.sectors = whole.count)
    (grants : Nat → Bool) (reached : Reached (store, ⟨.empty isDir, ⟨map, grants, 0⟩⟩) world) :
    ∃ whole', Balanced map world whole' := by
  have sound' : Sound (⟨map, grants, 0⟩ : Refusing FreeMap) := sound
  obtain ⟨whole', m, shown, raised⟩ := reached.raised shown sound' sectors
  refine ⟨whole', shown, raised.taken, fun spot holds => ?_, raised.ready.tidy.apart, ⟨m, raised.ready.mapped⟩,
    fun new => ?_, ?_⟩
  · exact Bool.eq_false_iff.mpr (raised.fresh spot holds)
  · refine ((raised.grow_ensures new).run shown).mono (fun _ _ _ => trivial) ?_
    rintro failure after ⟨-, -, why, length, -⟩
    exact ⟨why, length⟩
  · refine (raised.free_ensures.run shown).mono ?_ ?_
    · rintro _ after ⟨whole'', shown, same, sound'', limit, taken⟩
      obtain rfl := (PartialArray.ofWhole_injective same).symm
      exact ⟨FreeMap.Sound.ext sound'' sound limit taken, shown⟩
    · rintro _ after ⟨-, -, failed⟩
      exact failed

/-- The growth that needs an index block is refused one and fails, and the next one goes on from there. -/
theorem balanced_newborn :
    ∃ whole, Balanced (newborn 140).space
      ((Draft.grow 63488 : SectorM (Draft (Refusing FreeMap)) Unit).run.after
        ((Draft.grow 64000 : SectorM (Draft (Refusing FreeMap)) Unit).run.after
          ((⟨.zeroed 140, .empty 2 (by decide)⟩ : CachedDisk RamDisk 2),
            ⟨.empty false, ⟨(newborn 140).space, (· != 124), 0⟩⟩) #[]) #[]) whole :=
  have shown : Shows (⟨.zeroed 140, .empty 2 (by decide)⟩ : CachedDisk RamDisk 2) ⟨(RamDisk.zeroed 140).sectors⟩ :=
    CachedDisk.Shows.fresh trivial (by decide)
  Reached.balanced shown (sound_newborn (by decide) (by decide)) (sectors_newborn (by decide) (by decide)) _
    (.grow (.grow .start 64000 #[]) 63488 #[])

end Balance

end Draft

end InodeVolume
