import InodeVolume.Proofs.BlockMap.Grow
import Mathlib.Data.List.Nodup

/-!
# Freeing a block map

Every sector of a block map is given back once, and nothing else is.

* **progress** — `Freed` says which spots were given back so far; each release adds one;
* **levels** — what is given back of a table of entries is its mapped prefix;
* **the whole** — `freeSectors_ensures`: no sector of the block map is taken any more, and every
  other sector is as taken as it was.
-/

namespace InodeVolume

namespace DiskInode

variable {A : Type} [Allocator A] [LawfulAllocator A] {array : PartialArray} {inode : DiskInode}
  {space space' : A} {gone : List Spot} {m : Nat}

open LawfulAllocator (Sound limit Taken)

/-! ## Progress -/

/-- The sectors at some spots of a block map were given back, and no others. -/
structure Freed (array : PartialArray) (inode : DiskInode) (space : A) (gone : List Spot) (space' : A) :
    Prop where
  sound : Sound space → Sound space'
  limit : LawfulAllocator.limit space' = LawfulAllocator.limit space
  taken : ∀ sector, Taken space' sector ↔ Taken space sector ∧
    ∀ spot ∈ gone, array.held inode spot ≠ sector
  only : ∀ spot ∈ gone, array.Holds inode spot

/-- A block map all of whose sectors can be given back. -/
structure Freeable (array : PartialArray) (inode : DiskInode) (space : A) : Prop where
  tidy : array.Tidy inode (Taken space)
  limit : LawfulAllocator.limit space = array.count

theorem releaseOne_ensures (freeable : Freeable array inode space)
    (freed : Freed array inode space gone space') {spot : Spot} (holds : array.Holds inode spot)
    (new : spot ∉ gone) :
    (releaseOne (array.held inode spot) : SectorM A Unit).Ensures array space'
      (fun _ array' after => array' = array ∧ Freed array inode space (gone ++ [spot]) after)
      fun _ _ _ => False := by
  have taken : Taken space' (array.held inode spot) := by
    refine (freed.taken _).mpr ⟨freeable.tidy.taken spot holds, ?_⟩
    intro other listed same
    exact new (freeable.tidy.apart spot other holds same.symm ▸ listed)
  have inside : (array.held inode spot).index < limit space' := by
    rw [freed.limit, freeable.limit]
    exact PartialArray.has_of_mem (freeable.tidy.inside spot holds)
  unfold releaseOne
  rw [SectorM.ensures_perform]
  refine (LawfulAllocator.release taken inside).mono ?_ fun _ _ failed => failed
  rintro _ after ⟨sound, limit, rest⟩
  refine ⟨rfl, fun before => sound (freed.sound before) holds, limit.trans freed.limit, ?_, ?_⟩
  · intro sector
    rw [rest, freed.taken]
    simp only [List.mem_append, List.mem_singleton]
    constructor
    · rintro ⟨apart, before, others⟩
      refine ⟨before, ?_⟩
      rintro other (listed | rfl)
      · exact others other listed
      · exact Ne.symm apart
    · rintro ⟨before, others⟩
      exact ⟨Ne.symm (others spot (.inr rfl)), before, fun other listed => others other (.inl listed)⟩
  · intro other listed
    rcases List.mem_append.mp listed with before | last
    · exact freed.only other before
    · rw [List.mem_singleton.mp last]
      exact holds

/-- A list of spots is given back one by one. -/
theorem releaseAll_ensures (freeable : Freeable array inode space)
    (freed : Freed array inode space gone space') {spots : List Spot}
    (holds : ∀ spot ∈ spots, array.Holds inode spot) (apart : (gone ++ spots).Nodup) :
    ((spots.map (array.held inode)).forM releaseOne : SectorM A PUnit).Ensures array space'
      (fun _ array' after => array' = array ∧ Freed array inode space (gone ++ spots) after)
      fun _ _ _ => False := by
  induction spots generalizing gone space' with
  | nil =>
      refine SectorM.ensures_pure.mpr ⟨rfl, ?_⟩
      rw [List.append_nil]
      exact freed
  | cons spot rest ih =>
      have split : gone ++ spot :: rest = gone ++ [spot] ++ rest := by simp
      have new : spot ∉ gone := fun listed =>
        (List.nodup_append.mp apart).2.2 spot listed spot List.mem_cons_self rfl
      rw [split] at apart ⊢
      rw [List.map_cons, SectorM.ensures_forM_cons]
      refine (releaseOne_ensures freeable freed (holds spot List.mem_cons_self) new).mono ?_
        fun _ _ _ failed => failed
      rintro _ array' after ⟨rfl, freed⟩
      exact ih freed (fun other listed => holds other (List.mem_cons_of_mem _ listed)) apart

/-! ## Levels -/

/-- The mapped prefix of a table of entries. -/
theorem takeWhile_entries {n k : Nat} (entries : Vector SectorId n)
    (mapped : ∀ i (inside : i < n), entries[i].isAllocated = true ↔ i < k) (fits : k ≤ n) :
    entries.toList.takeWhile (·.isAllocated) =
      (List.range k).map fun i => entries[i]?.getD .unmapped := by
  rw [takeWhile_eq_take (k := k)]
  · apply List.ext_getElem
    · simp [fits]
    · intro i inside inside'
      have low : i < k := by simpa using inside'
      simp [Nat.lt_of_lt_of_le low fits]
  · intro i inside
    have low : i < n := by simpa using inside
    rw [← mapped i low]
    simp

/-- An index block is given back after the sectors it names. -/
theorem freeBlock_ensures (freeable : Freeable array inode space)
    (freed : Freed array inode space gone space') {block : Spot} (holds : array.Holds inode block)
    (place : Nat → Location) {k : Nat} (fits : k ≤ indexCount)
    (entries : ∀ i : Nat, (array.block (array.held inode block))[i]?.getD .unmapped =
      array.held inode (.data (place i)))
    (mapped : ∀ i, i < indexCount → (array.Holds inode (.data (place i)) ↔ i < k))
    (apart : (gone ++ ((List.range k).map (fun i => Spot.data (place i)) ++ [block])).Nodup) :
    (freeBlock (array.held inode block) : SectorM A Unit).Ensures array space'
      (fun _ array' after => array' = array ∧
        Freed array inode space
          (gone ++ ((List.range k).map (fun i => Spot.data (place i)) ++ [block])) after)
      fun _ _ _ => False := by
  have named : (array.block (array.held inode block)).allocated =
      ((List.range k).map fun i => Spot.data (place i)).map (array.held inode) := by
    rw [IndexBlock.allocated, takeWhile_entries _ _ fits, List.map_map]
    · exact List.map_congr_left fun i _ => entries i
    · intro i low
      rw [← mapped i low, PartialArray.Holds, ← entries i, Vector.getElem?_eq_getElem low,
        Option.getD_some]
  rw [← List.append_assoc] at apart ⊢
  have new : block ∉ gone ++ (List.range k).map fun i => Spot.data (place i) := fun listed =>
    (List.nodup_append.mp apart).2.2 block listed block List.mem_cons_self rfl
  unfold freeBlock
  rw [SectorM.ensures_bind, IndexBlock.ensures_load, named]
  refine ⟨freeable.tidy.inside block holds, ?_⟩
  rw [SectorM.ensures_bind]
  refine (releaseAll_ensures freeable freed ?_ (List.nodup_append.mp apart).1).mono ?_
    fun _ _ _ failed => failed
  · intro spot listed
    obtain ⟨i, low, rfl⟩ := List.mem_map.mp listed
    have low : i < k := List.mem_range.mp low
    exact (mapped i (Nat.lt_of_lt_of_le low fits)).mpr low
  · rintro _ array' after ⟨rfl, freed⟩
    exact releaseOne_ensures freeable freed holds new

/-- The spots of an inner index block and of the data it names. -/
def innerSpots (m q : Nat) : List Spot :=
  (List.range (min (m - (singleLimit + q * indexCount)) indexCount)).map
    (fun i => .data (.doubleIndirect q i)) ++ [.inner q]

/-- Inner index blocks are given back one after the other. -/
theorem freeBlocks_ensures (freeable : Freeable array inode space) (mapped : array.Prefix inode m)
    (freed : Freed array inode space gone space') {blocks : List Nat}
    (holds : ∀ q ∈ blocks, singleLimit + q * indexCount < m)
    (apart : (gone ++ blocks.flatMap (innerSpots m)).Nodup) :
    ((blocks.map fun q => array.held inode (.inner q)).forM freeBlock : SectorM A PUnit).Ensures
      array space'
      (fun _ array' after => array' = array ∧
        Freed array inode space (gone ++ blocks.flatMap (innerSpots m)) after)
      fun _ _ _ => False := by
  induction blocks generalizing gone space' with
  | nil =>
      refine SectorM.ensures_pure.mpr ⟨rfl, ?_⟩
      rw [List.flatMap_nil, List.append_nil]
      exact freed
  | cons q rest ih =>
      have index : indexCount = 128 := rfl
      have here : array.Holds inode (.inner q) := (mapped.inner q).mpr (holds q List.mem_cons_self)
      have most := mapped.bound
      have lowOuter : q < indexCount := (PartialArray.lt_of_entry here).2
      rw [List.flatMap_cons, ← List.append_assoc] at apart ⊢
      rw [List.map_cons, SectorM.ensures_forM_cons]
      refine (freeBlock_ensures freeable freed here (.doubleIndirect q) (Nat.min_le_right _ _)
        (fun i => (PartialArray.entry_of_allocated here i).symm) ?_
        (List.nodup_append.mp apart).1).mono ?_ fun _ _ _ failed => failed
      · intro i low
        have inTables : (Location.doubleIndirect q i).InTables := ⟨lowOuter, low⟩
        have number : (Location.doubleIndirect q i).sectorIndex? =
          some (singleLimit + q * indexCount + i) := rfl
        rw [mapped.holds_iff inTables number]
        omega
      · rintro _ array' after ⟨rfl, freed⟩
        exact ih freed (fun q listed => holds q (List.mem_cons_of_mem _ listed)) apart

/-! ## The whole -/

/-- The spots of the data that an inode names itself. -/
def directSpots (m : Nat) : List Spot :=
  (List.range (min m directCount)).map fun i => .data (.direct i)

/-- The spots of the index block and of the data it names. -/
def singleSpots (m : Nat) : List Spot :=
  (List.range (min (m - directCount) indexCount)).map (fun i => Spot.data (.indirect i)) ++ [.single]

/-- The spots of the outer index block and of all that is behind it. -/
def outerSpots (m : Nat) : List Spot :=
  (List.range ((m - singleLimit + (indexCount - 1)) / indexCount)).flatMap (innerSpots m) ++ [.outer]

theorem mem_innerSpots {q : Nat} {spot : Spot} (listed : spot ∈ innerSpots m q) :
    spot = .inner q ∨ ∃ i, spot = .data (.doubleIndirect q i) := by
  rcases List.mem_append.mp listed with there | there
  · obtain ⟨i, -, rfl⟩ := List.mem_map.mp there
    exact .inr ⟨i, rfl⟩
  · exact .inl (List.mem_singleton.mp there)

theorem nodup_table (k : Nat) {place : Nat → Location} (injective : ∀ i j, place i = place j → i = j)
    {block : Spot} (index : block.IsIndex) :
    ((List.range k).map (fun i => Spot.data (place i)) ++ [block]).Nodup := by
  refine List.nodup_append.mpr ⟨?_, List.nodup_singleton block, ?_⟩
  · refine List.Nodup.map ?_ List.nodup_range
    intro i j same
    exact injective i j (Spot.data.inj same)
  · rintro spot listed other there rfl
    obtain ⟨i, -, rfl⟩ := List.mem_map.mp listed
    rw [← List.mem_singleton.mp there] at index
    exact index

/-- Each spot of a block map is listed once. -/
theorem nodup_spots (m : Nat) : (directSpots m ++ singleSpots m ++ outerSpots m).Nodup := by
  have direct : (directSpots m).Nodup :=
    List.Nodup.map (fun i j same => Location.direct.inj (Spot.data.inj same)) List.nodup_range
  have single : (singleSpots m).Nodup :=
    nodup_table _ (fun _ _ same => Location.indirect.inj same) (show Spot.IsIndex .single from trivial)
  have inner : ∀ q, (innerSpots m q).Nodup := fun q =>
    nodup_table _ (fun _ _ same => (Location.doubleIndirect.inj same).2)
      (show Spot.IsIndex (.inner q) from trivial)
  have outer : (outerSpots m).Nodup := by
    refine List.nodup_append.mpr ⟨List.nodup_flatMap.mpr ⟨fun q _ => inner q, ?_⟩, List.nodup_singleton _, ?_⟩
    · refine List.Nodup.pairwise_of_forall_ne List.nodup_range ?_
      intro q _ r _ apart spot there there'
      rcases mem_innerSpots there with rfl | ⟨i, rfl⟩ <;>
        rcases mem_innerSpots there' with same | ⟨j, same⟩ <;> cases same
      · exact apart rfl
      · exact apart rfl
    · rintro spot listed _ there rfl
      obtain rfl := List.mem_singleton.mp there
      obtain ⟨q, -, there⟩ := List.mem_flatMap.mp listed
      rcases mem_innerSpots there with same | ⟨i, same⟩ <;> cases same
  refine List.nodup_append.mpr ⟨List.nodup_append.mpr ⟨direct, single, ?_⟩, outer, ?_⟩
  · rintro spot listed other there rfl
    obtain ⟨i, -, rfl⟩ := List.mem_map.mp listed
    rcases List.mem_append.mp there with inside | last
    · obtain ⟨j, -, same⟩ := List.mem_map.mp inside
      cases same
    · cases List.mem_singleton.mp last
  · rintro spot listed other there rfl
    have behind : spot = .outer ∨ ∃ q, spot = .inner q ∨ ∃ i, spot = .data (.doubleIndirect q i) := by
      rcases List.mem_append.mp there with inside | last
      · obtain ⟨q, -, inside⟩ := List.mem_flatMap.mp inside
        exact .inr ⟨q, mem_innerSpots inside⟩
      · exact .inl (List.mem_singleton.mp last)
    rcases List.mem_append.mp listed with listed | listed
    · obtain ⟨i, -, rfl⟩ := List.mem_map.mp listed
      rcases behind with same | ⟨q, same | ⟨j, same⟩⟩ <;> cases same
    · rcases List.mem_append.mp listed with listed | listed
      · obtain ⟨i, -, rfl⟩ := List.mem_map.mp listed
        rcases behind with same | ⟨q, same | ⟨j, same⟩⟩ <;> cases same
      · obtain rfl := List.mem_singleton.mp listed
        rcases behind with same | ⟨q, same | ⟨j, same⟩⟩ <;> cases same

/-- All sectors of a block map are listed. -/
theorem mem_spots (mapped : array.Prefix inode m) {spot : Spot} (holds : array.Holds inode spot) :
    spot ∈ directSpots m ∨ (array.Holds inode .single ∧ spot ∈ singleSpots m) ∨
      (array.Holds inode .outer ∧ spot ∈ outerSpots m) := by
  have direct : directCount = 123 := rfl
  have single : singleLimit = 251 := rfl
  have index : indexCount = 128 := rfl
  have blocks : ∀ q, singleLimit + q * indexCount < m →
      q < (m - singleLimit + (indexCount - 1)) / indexCount := by
    intro q here
    rw [index] at *
    omega
  cases spot with
  | data place =>
      obtain ⟨inTables, known⟩ := PartialArray.inTables_of_holds holds
      cases place with
      | direct i =>
          have low : i < directCount := inTables
          have reached := (mapped.holds_iff inTables rfl).mp holds
          exact .inl (List.mem_map.mpr ⟨i, List.mem_range.mpr (by omega), rfl⟩)
      | indirect i =>
          have low : i < indexCount := inTables
          have reached := (mapped.holds_iff inTables rfl).mp holds
          refine .inr (.inl ⟨PartialArray.holds_of_onPath holds ⟨i, rfl⟩, ?_⟩)
          exact List.mem_append_left _ (List.mem_map.mpr ⟨i, List.mem_range.mpr (by omega), rfl⟩)
      | doubleIndirect q i =>
          have low : i < indexCount := inTables.2
          have reached : singleLimit + q * indexCount + i < m := (mapped.holds_iff inTables rfl).mp holds
          refine .inr (.inr ⟨PartialArray.holds_of_onPath holds ⟨q, i, rfl⟩, List.mem_append_left _ ?_⟩)
          refine List.mem_flatMap.mpr ⟨q, List.mem_range.mpr (blocks q (by omega)), ?_⟩
          exact List.mem_append_left _ (List.mem_map.mpr ⟨i, List.mem_range.mpr (by omega), rfl⟩)
      | outOfRange => exact absurd rfl known
  | single => exact .inr (.inl ⟨holds, List.mem_append_right _ (List.mem_singleton.mpr rfl)⟩)
  | outer => exact .inr (.inr ⟨holds, List.mem_append_right _ (List.mem_singleton.mpr rfl)⟩)
  | inner q =>
      have here := (mapped.inner q).mp holds
      refine .inr (.inr ⟨(PartialArray.lt_of_entry holds).1, List.mem_append_left _ ?_⟩)
      refine List.mem_flatMap.mpr ⟨q, List.mem_range.mpr (blocks q here), ?_⟩
      exact List.mem_append_right _ (List.mem_singleton.mpr rfl)

/-- All that is behind the outer index block is given back, and then the block. -/
theorem freeOuter_ensures (freeable : Freeable array inode space) (mapped : array.Prefix inode m)
    (freed : Freed array inode space gone space') (holds : array.Holds inode .outer)
    (apart : (gone ++ outerSpots m).Nodup) :
    SectorM.Ensures (do
      let outer ← IndexBlock.load inode.doubleIndirect
      outer.allocated.forM freeBlock
      releaseOne inode.doubleIndirect : SectorM A Unit) array space'
      (fun _ array' after => array' = array ∧ Freed array inode space (gone ++ outerSpots m) after)
      fun _ _ _ => False := by
  have single : singleLimit = 251 := rfl
  have index : indexCount = 128 := rfl
  have most : maxFileSectors = 16635 := rfl
  have bound := mapped.bound
  have fits : (m - singleLimit + (indexCount - 1)) / indexCount ≤ indexCount := by
    rw [index]
    omega
  have named : (array.block inode.doubleIndirect).allocated =
      (List.range ((m - singleLimit + (indexCount - 1)) / indexCount)).map
        fun q => array.held inode (.inner q) := by
    have entries : ∀ q : Nat, (array.block inode.doubleIndirect)[q]?.getD .unmapped =
        array.held inode (.inner q) :=
      fun q => (PartialArray.entry_of_allocated holds q).symm
    rw [IndexBlock.allocated, takeWhile_entries _ _ fits]
    · exact List.map_congr_left fun q _ => entries q
    · intro q low
      have here := entries q
      rw [Vector.getElem?_eq_getElem low, Option.getD_some] at here
      rw [here]
      refine (mapped.inner q).trans ?_
      rw [index]
      omega
  rw [outerSpots, ← List.append_assoc] at apart ⊢
  have new := fun listed => (List.nodup_append.mp apart).2.2 .outer listed .outer List.mem_cons_self rfl
  rw [SectorM.ensures_bind, IndexBlock.ensures_load, named]
  refine ⟨freeable.tidy.inside .outer holds, ?_⟩
  rw [SectorM.ensures_bind]
  refine (freeBlocks_ensures freeable mapped freed ?_ (List.nodup_append.mp apart).1).mono ?_
    fun _ _ _ failed => failed
  · intro q listed
    have low := List.mem_range.mp listed
    rw [index] at *
    omega
  · rintro _ array' after ⟨rfl, freed⟩
    exact releaseOne_ensures freeable freed holds new

/-- Once every sector of the block map is given back, none of them is taken. -/
theorem Freed.all (freed : Freed array inode space gone space')
    (complete : ∀ spot, array.Holds inode spot → spot ∈ gone) :
    (Sound space → Sound space') ∧ LawfulAllocator.limit space' = LawfulAllocator.limit space ∧
      ∀ sector, Taken space' sector ↔ Taken space sector ∧
        ∀ spot, array.Holds inode spot → array.held inode spot ≠ sector := by
  refine ⟨freed.sound, freed.limit, ?_⟩
  intro sector
  rw [freed.taken]
  refine and_congr_right fun _ => ⟨?_, ?_⟩
  · intro apart spot holds
    exact apart spot (complete spot holds)
  · intro apart spot listed
    exact apart spot (freed.only spot listed)

/-- The second half of freeing: what is behind the outer index block, if there is one. -/
theorem freeDeep_ensures (freeable : Freeable array inode space) (mapped : array.Prefix inode m)
    (freed : Freed array inode space gone space') (apart : (gone ++ outerSpots m).Nodup)
    (complete : ∀ spot, array.Holds inode spot →
      spot ∈ gone ∨ (array.Holds inode .outer ∧ spot ∈ outerSpots m)) :
    SectorM.Ensures (if inode.doubleIndirect.isAllocated then do
        let outer ← IndexBlock.load inode.doubleIndirect
        outer.allocated.forM freeBlock
        releaseOne inode.doubleIndirect
      else pure () : SectorM A Unit) array space'
      (fun _ array' after => array' = array ∧ (Sound space → Sound after) ∧
        LawfulAllocator.limit after = LawfulAllocator.limit space ∧
        ∀ sector, Taken after sector ↔ Taken space sector ∧
          ∀ spot, array.Holds inode spot → array.held inode spot ≠ sector)
      fun _ _ _ => False := by
  rw [SectorM.ensures_ite]
  split
  · rename_i holds
    refine (freeOuter_ensures freeable mapped freed holds apart).mono ?_ fun _ _ _ failed => failed
    rintro _ array' after ⟨rfl, freed⟩
    refine ⟨rfl, freed.all fun spot there => ?_⟩
    rcases complete spot there with listed | ⟨-, listed⟩
    · exact List.mem_append_left _ listed
    · exact List.mem_append_right _ listed
  · rename_i missing
    refine SectorM.ensures_pure.mpr ⟨rfl, freed.all fun spot there => ?_⟩
    rcases complete spot there with listed | ⟨holds, -⟩
    · exact listed
    · exact absurd holds missing

/-- **Freeing.** No sector of the block map is taken afterwards, and every other sector is as taken
as it was. -/
theorem freeSectors_ensures (freeable : Freeable array inode space) (mapped : array.Prefix inode m) :
    (inode.freeSectors : SectorM A Unit).Ensures array space
      (fun _ array' after => array' = array ∧ (Sound space → Sound after) ∧
        LawfulAllocator.limit after = LawfulAllocator.limit space ∧
        ∀ sector, Taken after sector ↔ Taken space sector ∧
          ∀ spot, array.Holds inode spot → array.held inode spot ≠ sector)
      fun _ _ _ => False := by
  have nothing : Freed array inode space [] space :=
    ⟨id, rfl, fun sector => ⟨fun taken => ⟨taken, by simp⟩, fun h => h.1⟩, by simp⟩
  have most : maxFileSectors = 16635 := rfl
  have direct : directCount = 123 := rfl
  have mappedDirect : ∀ i, i < directCount → (array.Holds inode (.data (.direct i)) ↔ i < m) :=
    fun i low => mapped.holds_iff (show (Location.direct i).InTables from low) rfl
  have named : inode.direct.toList.takeWhile (·.isAllocated) =
      (directSpots m).map (array.held inode) := by
    rw [takeWhile_entries _ _ (Nat.min_le_right m _), directSpots, List.map_map]
    · rfl
    · intro i low
      have here := mappedDirect i low
      rw [PartialArray.Holds, PartialArray.held, PartialArray.find, Vector.getElem?_eq_getElem low] at here
      refine here.trans ?_
      omega
  have apart := nodup_spots m
  unfold freeSectors
  rw [SectorM.ensures_bind, named]
  refine (releaseAll_ensures freeable nothing ?_ ?_).mono ?_ fun _ _ _ failed => failed
  · intro spot listed
    obtain ⟨i, low, rfl⟩ := List.mem_map.mp listed
    have low : i < min m directCount := List.mem_range.mp low
    exact (mappedDirect i (by omega)).mpr (by omega)
  · rw [List.append_assoc] at apart
    exact (List.nodup_append.mp apart).1
  rintro _ array' after ⟨rfl, freed⟩
  rw [List.nil_append] at freed
  dsimp only
  rw [SectorM.ensures_ite]
  split
  · rename_i holds
    rw [SectorM.ensures_bind]
    refine (freeBlock_ensures freeable freed (show PartialArray.Holds _ inode .single from holds) .indirect
      (Nat.min_le_right _ _) (fun i => (PartialArray.entry_of_allocated holds i).symm) ?_
      (List.nodup_append.mp apart).1).mono ?_ fun _ _ _ failed => failed
    · intro i low
      rw [mapped.holds_iff (show (Location.indirect i).InTables from low) rfl]
      omega
    · rintro _ array' after ⟨rfl, freed⟩
      refine freeDeep_ensures freeable mapped freed apart fun spot there => ?_
      rcases mem_spots mapped there with listed | ⟨-, listed⟩ | behind
      · exact .inl (List.mem_append_left _ listed)
      · exact .inl (List.mem_append_right _ listed)
      · exact .inr behind
  · rename_i missing
    refine freeDeep_ensures freeable mapped freed ?_ fun spot there => ?_
    · refine List.Nodup.sublist ?_ apart
      exact (List.sublist_append_left _ _).append (List.Sublist.refl _)
    · rcases mem_spots mapped there with listed | ⟨holds, -⟩ | behind
      · exact .inl listed
      · exact absurd holds missing
      · exact .inr behind

end DiskInode

end InodeVolume
