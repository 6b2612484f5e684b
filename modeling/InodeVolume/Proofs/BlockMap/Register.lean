import InodeVolume.BlockMap
import InodeVolume.Proofs.BlockMap.Spots
import InodeVolume.Proofs.Space.Lawful

/-!
# Entering a sector is a point update

`register` gives one place of a block map a sector, and makes the index blocks that lead there.

* **relinking** — what a block map leads to once an index block is rewritten, one lemma for each
  kind of index block;
* **maps** — `Shaped`: the index blocks are sectors of the array, and are used for nothing else.
  `Redirected` is what writing an entry does to such a map, whoever gave the sectors;
* **steps** — `Step` is what may happen on the way: index blocks on the path to a place are made
  from sectors that nobody had, and no other sector changes. Steps compose;
* **registering** — `register_ensures`: on success the place holds the new sector and every other
  place what it held; on failure no place changes, and all that may stay behind is an empty outer
  index block.
-/

namespace InodeVolume

/-! ## Relinking -/

namespace PartialArray

variable {array : PartialArray} {inode : DiskInode} {sector x y z : SectorId}

theorem entry_set {block : IndexBlock} (has : array.Has x) (held : x.isAllocated = true) (i : Nat) :
    (array.set x block.encode).entry sector i =
      if sector = x then block[i]?.getD .unmapped else array.entry sector i := by
  split
  · rename_i same
    rw [same, entry_of_allocated held, block_set_self has]
  · rename_i apart
    exact entry_congr (fun _ => get_set_ne has apart) i

theorem getD_set {n i : Nat} (entries : Vector SectorId n) (low : i < n) (sector : SectorId)
    (j : Nat) : (entries.set i sector)[j]?.getD .unmapped =
      if j = i then sector else entries[j]?.getD .unmapped := by
  rw [Vector.getElem?_set]
  by_cases same : i = j
  · subst same
    simp
  · simp [same, Ne.symm same]

theorem getD_empty (i : Nat) : IndexBlock.empty[i]?.getD .unmapped = .unmapped := by
  simp only [IndexBlock.empty, Vector.getElem?_replicate]
  split <;> rfl

theorem getElem_block (held : x.isAllocated = true) {i : Nat} (low : i < indexCount) :
    (array.block x)[i] = array.entry x i := by
  rw [entry_of_allocated held, Vector.getElem?_eq_getElem low]
  rfl

/-- A block that is written back as it was names what it named. -/
theorem getD_block (held : x.isAllocated = true) (o q : Nat) :
    (array.block x)[q]?.getD .unmapped = if q = o then array.entry x o else array.entry x q := by
  rw [← entry_of_allocated held]
  split
  · rename_i same
    rw [same]
  · rfl

theorem getD_block_set (held : x.isAllocated = true) {o : Nat} (low : o < indexCount) (q : Nat) :
    ((array.block x).set o sector)[q]?.getD .unmapped = if q = o then sector else array.entry x q := by
  rw [getD_set _ low, entry_of_allocated held]

theorem held_relinkSingle (inode : DiskInode) {block : IndexBlock} (has : array.Has x) (held : x.isAllocated = true)
    (outer : inode.doubleIndirect ≠ x) (inner : ∀ q, array.entry inode.doubleIndirect q ≠ x)
    (spot : Spot) :
    (array.set x block.encode).held { inode with indirect := x } spot =
      match spot with
      | .single => x
      | .data (.indirect i) => block[i]?.getD .unmapped
      | other => array.held inode other := by
  cases spot with
  | data place =>
      cases place with
      | direct i => rfl
      | indirect i => simp only [PartialArray.held, find, entry_set has held, if_pos]
      | doubleIndirect q i =>
          simp only [PartialArray.held, find, entry_set has held, if_neg outer, if_neg (inner q)]
      | outOfRange => rfl
  | single => rfl
  | outer => rfl
  | inner q => simp only [PartialArray.held, entry_set has held, if_neg outer]

/-- Rewriting the index block with one entry changed is a point update. -/
theorem find_enterSingle (inode : DiskInode) {block : IndexBlock} {i : Nat} (low : i < indexCount)
    (has : array.Has x) (held : x.isAllocated = true)
    (outer : inode.doubleIndirect ≠ x) (inner : ∀ q, array.entry inode.doubleIndirect q ≠ x)
    (entries : ∀ j : Nat, block[j]?.getD .unmapped = array.entry inode.indirect j) (place : Location) :
    (array.set x (IndexBlock.encode (block.set i sector))).find { inode with indirect := x } place =
      if place = .indirect i then sector else array.find inode place := by
  refine (held_relinkSingle inode has held outer inner (.data place)).trans ?_
  cases place with
  | indirect j =>
      simp only [getD_set block low, entries, Location.indirect.injEq]
      rfl
  | direct _ | doubleIndirect _ _ | outOfRange => rfl

theorem held_relinkOuter (inode : DiskInode) (has : array.Has x) (held : x.isAllocated = true)
    (single : inode.indirect ≠ x) (spot : Spot) :
    (array.set x IndexBlock.empty.encode).held { inode with doubleIndirect := x } spot =
      match spot with
      | .outer => x
      | .inner _ | .data (.doubleIndirect ..) => .unmapped
      | other => array.held inode other := by
  cases spot with
  | data place =>
      cases place with
      | direct i => rfl
      | indirect i => simp only [PartialArray.held, find, entry_set has held, if_neg single]
      | doubleIndirect q i =>
          simp only [PartialArray.held, find, entry_set has held, if_pos, getD_empty]
          split
          · rfl
          · exact entry_unmapped i
      | outOfRange => rfl
  | single => rfl
  | outer => rfl
  | inner q => simp only [PartialArray.held, entry_set has held, if_pos, getD_empty]

/-- An empty outer index block that is linked where there was none changes no other spot. -/
theorem held_linkOuter (inode : DiskInode) (has : array.Has x) (held : x.isAllocated = true)
    (single : inode.indirect ≠ x) (absent : inode.doubleIndirect.isAllocated = false) {spot : Spot}
    (other : spot ≠ .outer) :
    (array.set x IndexBlock.empty.encode).held { inode with doubleIndirect := x } spot = array.held inode spot := by
  -- behind the block nothing was mapped before, and it is empty, so nothing is now
  have nothing : ∀ q, array.entry inode.doubleIndirect q = .unmapped := entry_of_not_allocated absent
  rw [held_relinkOuter inode has held single spot]
  cases spot with
  | data place =>
      cases place with
      | direct i | indirect i | outOfRange => rfl
      | doubleIndirect q i => simp only [PartialArray.held, PartialArray.find, nothing, PartialArray.entry_unmapped]
  | single => rfl
  | outer => exact absurd rfl other
  | inner q => exact (nothing q).symm

theorem held_relinkInner (inode : DiskInode) (inner : IndexBlock) {outer : IndexBlock} {o : Nat}
    (hasOuter : array.Has inode.doubleIndirect) (heldOuter : inode.doubleIndirect.isAllocated = true)
    (has : array.Has z) (held : z.isAllocated = true) (apart : inode.doubleIndirect ≠ z)
    (single : inode.indirect ≠ inode.doubleIndirect ∧ inode.indirect ≠ z)
    (others : ∀ q, q ≠ o → array.entry inode.doubleIndirect q ≠ inode.doubleIndirect ∧
      array.entry inode.doubleIndirect q ≠ z)
    (entries : ∀ q, outer[q]?.getD .unmapped = if q = o then z else array.entry inode.doubleIndirect q)
    (spot : Spot) :
    ((array.set inode.doubleIndirect outer.encode).set z inner.encode).held inode spot =
      match spot with
      | .inner q => if q = o then z else array.held inode (.inner q)
      | .data (.doubleIndirect q i) =>
        if q = o then inner[i]?.getD .unmapped else array.held inode (.data (.doubleIndirect q i))
      | other => array.held inode other := by
  have has' : (array.set inode.doubleIndirect outer.encode).Has z := has_set.mpr has
  have named : ∀ q, ((array.set inode.doubleIndirect outer.encode).set z inner.encode).entry
      inode.doubleIndirect q = if q = o then z else array.entry inode.doubleIndirect q := by
    intro q
    rw [entry_set has' held, if_neg apart, entry_set hasOuter heldOuter, if_pos rfl, entries]
  cases spot with
  | data place =>
      cases place with
      | direct i => rfl
      | indirect i =>
          simp only [PartialArray.held, find]
          rw [entry_set has' held, if_neg single.2, entry_set hasOuter heldOuter, if_neg single.1]
      | doubleIndirect q i =>
          simp only [PartialArray.held, find, named]
          split
          · rw [entry_set has' held, if_pos rfl]
          · rename_i other
            obtain ⟨notOuter, notInner⟩ := others q other
            rw [entry_set has' held, if_neg notInner, entry_set hasOuter heldOuter,
              if_neg notOuter]
      | outOfRange => rfl
  | single => rfl
  | outer => rfl
  | inner q => exact named q

/-- Rewriting an inner index block with one entry changed is a point update. -/
theorem find_enterDouble (inode : DiskInode) {outer inner : IndexBlock} {o i : Nat}
    (low : i < indexCount)
    (relinked : ∀ spot : Spot,
      ((array.set inode.doubleIndirect outer.encode).set z (IndexBlock.encode (inner.set i sector))).held
        inode spot =
      match spot with
      | .inner q => if q = o then z else array.held inode (.inner q)
      | .data (.doubleIndirect q j) =>
        if q = o then (inner.set i sector)[j]?.getD .unmapped
        else array.held inode (.data (.doubleIndirect q j))
      | other => array.held inode other)
    (entries : ∀ j : Nat, inner[j]?.getD .unmapped = array.find inode (.doubleIndirect o j))
    (place : Location) :
    ((array.set inode.doubleIndirect outer.encode).set z (IndexBlock.encode (inner.set i sector))).find
        inode place =
      if place = .doubleIndirect o i then sector else array.find inode place := by
  refine (relinked (.data place)).trans ?_
  cases place with
  | doubleIndirect q j =>
      simp only [getD_set inner low, entries, Location.doubleIndirect.injEq]
      by_cases here : q = o
      · subst here
        simp only [if_true, true_and]
      · simp only [here, if_false, false_and]
        rfl
  | direct _ | indirect _ | outOfRange => rfl

end PartialArray

/-! ## Maps -/

namespace Draft

variable {A : Type} {array array' : PartialArray} {inode : DiskInode} {draft draft' : Draft A} {place : Location}

/-- The index blocks of a map are sectors of the array, and are used for nothing else in the map. -/
structure Shaped (array : PartialArray) (inode : DiskInode) : Prop where
  inside : ∀ spot : Spot, spot.IsIndex → array.Holds inode spot → array.held inode spot ∈ array
  apart : ∀ spot other : Spot, spot.IsIndex → array.Holds inode spot →
    array.held inode spot = array.held inode other → spot = other

theorem Shaped.has (shaped : Shaped array inode) (spot : Spot) (index : spot.IsIndex) (holds : array.Holds inode spot) :
    array.Has (array.held inode spot) :=
  PartialArray.has_of_mem (shaped.inside spot index holds)

theorem Shaped.ne (shaped : Shaped array inode) (spot other : Spot) (index : spot.IsIndex)
    (holds : array.Holds inode spot) (different : other ≠ spot) : array.held inode other ≠ array.held inode spot :=
  fun same => different (shaped.apart spot other index holds same.symm).symm

/-- Where the outer index block and one that it names are written, the map leads on through these two. -/
theorem Shaped.relinked (shaped : Shaped array inode) (holds : array.Holds inode .outer) {z : SectorId} (has : array.Has z)
    (held : z.isAllocated = true) {o : Nat}
    (away : ∀ spot : Spot, spot.IsIndex → spot ≠ .inner o → array.held inode spot ≠ z) {outer : IndexBlock}
    (named : ∀ q, outer[q]?.getD .unmapped = if q = o then z else array.entry inode.doubleIndirect q)
    (inner : IndexBlock) (spot : Spot) :
    ((array.set inode.doubleIndirect outer.encode).set z inner.encode).held inode spot =
      match spot with
      | .inner q => if q = o then z else array.held inode (.inner q)
      | .data (.doubleIndirect q i) =>
        if q = o then inner[i]?.getD .unmapped else array.held inode (.data (.doubleIndirect q i))
      | other => array.held inode other := by
  have apart : ∀ spot : Spot, spot ≠ .outer → array.held inode spot ≠ inode.doubleIndirect :=
    fun spot other => shaped.ne .outer spot trivial holds other
  exact PartialArray.held_relinkInner inode inner (shaped.has .outer trivial holds) holds has held
    (away .outer trivial (by simp)) ⟨apart .single (by simp), away .single trivial (by simp)⟩
    (fun q other => ⟨apart (.inner q) (by simp), away (.inner q) trivial (by simpa using other)⟩) named spot

/-- What an attempt to enter a sector leaves: a map that leads where `leads` says, through index blocks
that can be read. Only index blocks on the path to the place were written. -/
structure Redirected (place : Location) (array : PartialArray) (leads : Location → SectorId) (array' : PartialArray)
    (inode : DiskInode) : Prop where
  leads : ∀ other, array'.find inode other = leads other
  inside : ∀ spot : Spot, spot.IsIndex → array'.Holds inode spot → array'.held inode spot ∈ array'
  frame : ∀ sector, (∀ spot : Spot, spot.OnPath place → array'.Holds inode spot →
    array'.held inode spot ≠ sector) → array'.get sector = array.get sector

/-- Nothing was done. -/
theorem Redirected.nothing (shaped : Shaped array inode) :
    Redirected place array (array.find inode) array inode :=
  ⟨fun _ => rfl, shaped.inside, fun _ _ => rfl⟩

/-- An entry of the inode itself is changed. -/
theorem enterDirect_redirected {i : Nat} (low : i < directCount) (shaped : Shaped array inode) (sector : SectorId) :
    Redirected (.direct i) array
      (fun other => if other = .direct i then sector else array.find inode other) array
      { inode with direct := inode.direct.set i sector } := by
  refine ⟨?_, ?_, fun _ _ => rfl⟩
  · intro other
    cases other with
    | direct j =>
        show (inode.direct.set i sector)[j]?.getD .unmapped = _
        rw [PartialArray.getD_set _ low]
        simp only [Location.direct.injEq]
        rfl
    | indirect _ | doubleIndirect _ _ | outOfRange => rfl
  · intro spot index holds
    cases spot with
    | data _ => exact index.elim
    | single => exact shaped.inside .single index holds
    | outer => exact shaped.inside .outer index holds
    | inner q => exact shaped.inside (.inner q) index holds

/-- The index block is written where it is, or where the allocator says. -/
theorem enterSingle_redirected {block : IndexBlock} {i : Nat} {x : SectorId} (low : i < indexCount)
    (shaped : Shaped array inode) (sector : SectorId) (has : array.Has x) (held : x.isAllocated = true)
    (outer : inode.doubleIndirect ≠ x) (inner : ∀ q, array.entry inode.doubleIndirect q ≠ x)
    (entries : ∀ j : Nat, block[j]?.getD .unmapped = array.entry inode.indirect j) :
    Redirected (.indirect i) array
      (fun other => if other = .indirect i then sector else array.find inode other)
      (array.set x (IndexBlock.encode (block.set i sector))) { inode with indirect := x } := by
  have relinked : ∀ spot, (array.set x (IndexBlock.encode (block.set i sector))).held { inode with indirect := x } spot
      = _ := PartialArray.held_relinkSingle inode has held outer inner
  -- all spots but the block's own entries and its link are as before
  refine ⟨PartialArray.find_enterSingle inode low has held outer inner entries, ?_, ?_⟩
  · intro spot index holds
    rw [PartialArray.Holds, relinked spot] at holds
    rw [relinked spot]
    cases spot with
    | data _ => exact index.elim
    | single => exact PartialArray.mem_set_self has
    | outer => exact PartialArray.mem_set_of_mem has (shaped.inside .outer index holds)
    | inner q => exact PartialArray.mem_set_of_mem has (shaped.inside (.inner q) index holds)
  · intro other off
    exact PartialArray.get_set_ne has (Ne.symm (off .single ⟨i, rfl⟩ held))

/-- The outer index block and one that it names are written. -/
theorem enterDouble_redirected {outer inner : IndexBlock} {o i : Nat} {z : SectorId} (low : i < indexCount)
    (shaped : Shaped array inode) (sector : SectorId) (holds : array.Holds inode .outer) (has : array.Has z) (held : z.isAllocated = true)
    (away : ∀ spot : Spot, spot.IsIndex → spot ≠ .inner o → array.held inode spot ≠ z)
    (named : ∀ q, outer[q]?.getD .unmapped = if q = o then z else array.entry inode.doubleIndirect q)
    (entries : ∀ j : Nat, inner[j]?.getD .unmapped = array.find inode (.doubleIndirect o j)) :
    Redirected (.doubleIndirect o i) array
      (fun other => if other = .doubleIndirect o i then sector else array.find inode other)
      ((array.set inode.doubleIndirect outer.encode).set z (IndexBlock.encode (inner.set i sector))) inode := by
  have hasOuter : array.Has inode.doubleIndirect := shaped.has .outer trivial holds
  have has' : (array.set inode.doubleIndirect outer.encode).Has z := PartialArray.has_set.mpr has
  have relinked := shaped.relinked holds has held away named (inner.set i sector)
  have here := (relinked (.inner o)).trans (if_pos rfl)
  refine ⟨PartialArray.find_enterDouble inode low relinked entries, ?_, ?_⟩
  · intro spot index there
    rw [PartialArray.Holds, relinked spot] at there
    rw [relinked spot]
    have kept : ∀ other, other ∈ array →
        other ∈ (array.set inode.doubleIndirect outer.encode).set z (IndexBlock.encode (inner.set i sector)) :=
      fun _ inside => PartialArray.mem_set_of_mem has' (PartialArray.mem_set_of_mem hasOuter inside)
    cases spot with
    | data _ => exact index.elim
    | single => exact kept _ (shaped.inside .single index there)
    | outer => exact kept _ (shaped.inside .outer index there)
    | inner q =>
        dsimp only at there ⊢
        by_cases same : q = o
        · rw [if_pos same]
          exact PartialArray.mem_set_self has'
        · rw [if_neg same] at there ⊢
          exact kept _ (shaped.inside (.inner q) index there)
  · intro other off
    have notOuter := off .outer ⟨o, i, rfl⟩ holds
    have notInner := off (.inner o) ⟨i, rfl⟩ (by rw [PartialArray.Holds, here]; exact held)
    rw [here] at notInner
    rw [PartialArray.get_set_ne has' (Ne.symm notInner), PartialArray.get_set_ne hasOuter (Ne.symm notOuter)]

/-! ## Steps -/

/-- What is left to do once the index block is there. -/
theorem enterSingle_ensures {block : IndexBlock} {i : Nat} (low : i < indexCount)
    (has : array.Has draft.inode.indirect) (sector : SectorId)
    {good : Unit → PartialArray → Draft A → Prop} {bad : Failure → PartialArray → Draft A → Prop}
    (entered : good () (array.set draft.inode.indirect (IndexBlock.encode (block.set i sector))) draft) :
    SectorM.Ensures (do
      let block ← SectorM.perform (Action.ofExcept (block.replace i sector))
      block.store (← get).inode.indirect) array draft good bad := by
  rw [SectorM.ensures_bind, SectorM.ensures_perform, Action.ensures_ofExcept, IndexBlock.replace,
    dif_pos low]
  show SectorM.Ensures _ array draft good bad
  rw [SectorM.ensures_bind, SectorM.ensures_get, IndexBlock.ensures_store]
  exact ⟨has, entered⟩

/-- What is left to do once the index blocks are there. -/
theorem enterDouble_ensures {outer inner : IndexBlock} {i : Nat} (low : i < indexCount)
    (has : array.Has draft.inode.doubleIndirect) {z : SectorId} (has' : array.Has z)
    (sector : SectorId) {good : Unit → PartialArray → Draft A → Prop}
    {bad : Failure → PartialArray → Draft A → Prop}
    (entered : good () ((array.set draft.inode.doubleIndirect outer.encode).set z
      (IndexBlock.encode (inner.set i sector))) draft) :
    SectorM.Ensures (do
      let inner ← SectorM.perform (Action.ofExcept (inner.replace i sector))
      outer.store (← get).inode.doubleIndirect
      inner.store z) array draft good bad := by
  rw [SectorM.ensures_bind, SectorM.ensures_perform, Action.ensures_ofExcept, IndexBlock.replace,
    dif_pos low]
  show SectorM.Ensures _ array draft good bad
  rw [SectorM.ensures_bind, SectorM.ensures_get, SectorM.ensures_bind, IndexBlock.ensures_store]
  exact ⟨has, IndexBlock.ensures_store.mpr ⟨PartialArray.has_set.mpr has', entered⟩⟩

variable [Allocator A] [LawfulAllocator A]

open LawfulAllocator (Sound limit Taken left)

/-- The index blocks of a draft are sectors of the array, and are used for nothing else. -/
structure Fit (array : PartialArray) (draft : Draft A) : Prop where
  sound : Sound draft.space
  limit : limit draft.space ≤ array.count
  inside : ∀ spot : Spot, spot.IsIndex → array.Holds draft.inode spot →
    array.held draft.inode spot ∈ array
  taken : ∀ spot, array.Holds draft.inode spot → Taken draft.space (array.held draft.inode spot)
  apart : ∀ spot other : Spot, spot.IsIndex → array.Holds draft.inode spot →
    array.held draft.inode spot = array.held draft.inode other → spot = other

theorem Fit.shaped (fit : Fit array draft) : Shaped array draft.inode := ⟨fit.inside, fit.apart⟩

/-- A sector that the allocator gave is none of those that the map leads to. -/
theorem Fit.held_ne (fit : Fit array draft) {x : SectorId} {space : A} (gave : LawfulAllocator.Gave draft.space x space)
    (spot : Spot) : array.held draft.inode spot ≠ x := by
  intro same
  have holds : array.Holds draft.inode spot := by
    rw [PartialArray.Holds, same]
    exact gave.allocated
  exact gave.free (same ▸ fit.taken spot holds)

/-- Index blocks on the path to a place were made, and nothing else was done. -/
structure Step (place : Location) (array : PartialArray) (draft : Draft A) (array' : PartialArray)
    (draft' : Draft A) : Prop where
  spreads : array.Spreads array'
  sound : Sound draft'.space
  limit : LawfulAllocator.limit draft'.space = LawfulAllocator.limit draft.space
  header : draft'.inode.length = draft.inode.length ∧ draft'.inode.magic = draft.inode.magic ∧
    draft'.inode.dirFlag = draft.inode.dirFlag
  kept : ∀ spot : Spot, spot.IsIndex → array.Holds draft.inode spot →
    array'.held draft'.inode spot = array.held draft.inode spot
  fresh : ∀ spot : Spot, spot.IsIndex → array'.Holds draft'.inode spot →
    array.Holds draft.inode spot ∨ (spot.OnPath place ∧ array'.held draft'.inode spot ∈ array' ∧
      ¬Taken draft.space (array'.held draft'.inode spot))
  apart : ∀ spot other : Spot, spot.IsIndex → other.IsIndex → array'.Holds draft'.inode spot →
    ¬array.Holds draft.inode spot → ¬array.Holds draft.inode other →
    array'.held draft'.inode spot = array'.held draft'.inode other → spot = other
  taken : ∀ sector, Taken draft'.space sector ↔ Taken draft.space sector ∨
    ∃ spot : Spot, spot.IsIndex ∧ array'.Holds draft'.inode spot ∧
      array'.held draft'.inode spot = sector
  frame : ∀ sector, (∀ spot : Spot, spot.OnPath place → array'.Holds draft'.inode spot →
    array'.held draft'.inode spot ≠ sector) → array'.get sector = array.get sector

namespace Step

variable {array' array'' : PartialArray} {draft' draft'' : Draft A}

/-- What is there stays there. -/
theorem holds (step : Step place array draft array' draft') {spot : Spot} (index : spot.IsIndex)
    (holds : array.Holds draft.inode spot) : array'.Holds draft'.inode spot :=
  (PartialArray.holds_congr (step.kept spot index holds)).mpr holds

/-- Steps compose. -/
theorem trans (first : Step place array draft array' draft')
    (second : Step place array' draft' array'' draft'') : Step place array draft array'' draft'' := by
  have settled : ∀ spot : Spot, spot.IsIndex → array'.Holds draft'.inode spot →
      Taken draft'.space (array'.held draft'.inode spot) :=
    fun spot index here => (first.taken _).mpr (.inr ⟨spot, index, here, rfl⟩)
  have arrived : ∀ spot : Spot, spot.IsIndex → array''.Holds draft''.inode spot →
      ¬array'.Holds draft'.inode spot → ¬Taken draft'.space (array''.held draft''.inode spot) :=
    fun spot index here absent => ((second.fresh spot index here).resolve_left absent).2.2
  refine ⟨first.spreads.trans second.spreads, second.sound, second.limit.trans first.limit, ?_, ?_, ?_,
    ?_, ?_, ?_⟩
  · obtain ⟨length, magic, flag⟩ := first.header
    obtain ⟨length', magic', flag'⟩ := second.header
    exact ⟨length'.trans length, magic'.trans magic, flag'.trans flag⟩
  · intro spot index here
    exact (second.kept spot index (first.holds index here)).trans (first.kept spot index here)
  · intro spot index here
    rcases second.fresh spot index here with before | ⟨onPath, inside, free⟩
    · rw [second.kept spot index before]
      exact (first.fresh spot index before).imp_right fun ⟨onPath, inside, free⟩ =>
        ⟨onPath, second.spreads.mem inside, free⟩
    · exact .inr ⟨onPath, inside, fun taken => free ((first.taken _).mpr (.inl taken))⟩
  · intro spot other index index' here absent absent' same
    have there : array''.Holds draft''.inode other := by
      rw [PartialArray.Holds, ← same]
      exact here
    by_cases early : array'.Holds draft'.inode spot
    · by_cases early' : array'.Holds draft'.inode other
      · rw [second.kept spot index early, second.kept other index' early'] at same
        exact first.apart spot other index index' early absent absent' same
      · refine absurd ?_ (arrived other index' there early')
        rw [← same, second.kept spot index early]
        exact settled spot index early
    · by_cases early' : array'.Holds draft'.inode other
      · refine absurd ?_ (arrived spot index here early)
        rw [same, second.kept other index' early']
        exact settled other index' early'
      · exact second.apart spot other index index' here early early' same
  · intro sector
    rw [second.taken, first.taken]
    constructor
    · rintro ((before | ⟨spot, index, here, rfl⟩) | late)
      · exact .inl before
      · exact .inr ⟨spot, index, second.holds index here, second.kept spot index here⟩
      · exact .inr late
    · rintro (before | late)
      · exact .inl (.inl before)
      · exact .inr late
  · intro sector off
    rw [second.frame sector off]
    refine first.frame sector ?_
    intro spot onPath here same
    have index := Spot.IsIndex.of_onPath onPath
    exact off spot onPath (second.holds index here) ((second.kept spot index here).trans same)

/-- A step keeps the index blocks in order, as long as the data stays apart from them. -/
theorem fit (step : Step place array draft array' draft') (fit : Fit array draft)
    (data : ∀ place, array'.Holds draft'.inode (.data place) →
      Taken draft.space (array'.held draft'.inode (.data place)) ∧
        ∀ spot : Spot, spot.IsIndex → array.Holds draft.inode spot →
          array.held draft.inode spot ≠ array'.held draft'.inode (.data place)) :
    Fit array' draft' := by
  refine ⟨step.sound, by rw [step.limit, step.spreads.count]; exact fit.limit, ?_, ?_, ?_⟩
  · intro spot index here
    rcases step.fresh spot index here with before | ⟨-, inside, -⟩
    · rw [step.kept spot index before]
      exact step.spreads.mem (fit.inside spot index before)
    · exact inside
  · intro spot here
    rw [step.taken]
    rcases spot.index_or_data with index | ⟨place, rfl⟩
    · exact .inr ⟨spot, index, here, rfl⟩
    · exact .inl (data place here).1
  · intro spot other index here same
    have there : array'.Holds draft'.inode other := by
      rw [PartialArray.Holds, ← same]
      exact here
    rcases other.index_or_data with index' | ⟨place, rfl⟩
    · by_cases before : array.Holds draft.inode spot
      · by_cases before' : array.Holds draft.inode other
        · rw [step.kept spot index before, step.kept other index' before'] at same
          exact fit.apart spot other index before same
        · refine absurd ?_ ((step.fresh other index' there).resolve_left before').2.2
          rw [← same, step.kept spot index before]
          exact fit.taken spot before
      · by_cases before' : array.Holds draft.inode other
        · refine absurd ?_ ((step.fresh spot index here).resolve_left before).2.2
          rw [same, step.kept other index' before']
          exact fit.taken other before'
        · exact step.apart spot other index index' here before before' same
    · exfalso
      obtain ⟨taken, away⟩ := data place there
      rcases step.fresh spot index here with before | ⟨-, -, free⟩
      · exact away spot index before ((step.kept spot index before).symm.trans same)
      · exact free (same ▸ taken)

/-- They stay so where the data is where it was. -/
theorem fit_of_same (step : Step place array draft array' draft') (fit : Fit array draft)
    (same : ∀ place, array'.held draft'.inode (.data place) = array.held draft.inode (.data place)) :
    Fit array' draft' := by
  refine step.fit fit ?_
  intro place here
  rw [PartialArray.Holds, same place] at here
  rw [same place]
  refine ⟨fit.taken _ here, ?_⟩
  intro spot index there equal
  obtain rfl := fit.apart spot (.data place) index there equal
  exact index

/-- Index blocks on the path may have been rewritten, but none was made. -/
theorem still (fit : Fit array draft) (spreads : array.Spreads array')
    (sound : Sound draft'.space)
    (limit : LawfulAllocator.limit draft'.space = LawfulAllocator.limit draft.space)
    (header : draft'.inode.length = draft.inode.length ∧ draft'.inode.magic = draft.inode.magic ∧
      draft'.inode.dirFlag = draft.inode.dirFlag)
    (taken : ∀ sector, Taken draft'.space sector ↔ Taken draft.space sector)
    (same : ∀ spot : Spot, spot.IsIndex →
      array'.held draft'.inode spot = array.held draft.inode spot)
    (frame : ∀ sector, (∀ spot : Spot, spot.OnPath place → array'.Holds draft'.inode spot →
      array'.held draft'.inode spot ≠ sector) → array'.get sector = array.get sector) :
    Step place array draft array' draft' := by
  have before : ∀ spot : Spot, spot.IsIndex → array'.Holds draft'.inode spot →
      array.Holds draft.inode spot :=
    fun spot index here => (PartialArray.holds_congr (same spot index)).mp here
  refine ⟨spreads, sound, limit, header, fun spot index _ => same spot index,
    fun spot index here => .inl (before spot index here), ?_, ?_, frame⟩
  · intro spot other index _ here absent
    exact absurd (before spot index here) absent
  · intro sector
    rw [taken]
    refine ⟨.inl, ?_⟩
    rintro (there | ⟨spot, index, here, rfl⟩)
    · exact there
    · rw [same spot index]
      exact fit.taken spot (before spot index here)

/-- One index block on the path was made from a sector that the allocator gave. -/
theorem made (fit : Fit array draft) (block : Spot) (index : block.IsIndex)
    (onPath : block.OnPath place) (absent : ¬array.Holds draft.inode block)
    (spreads : array.Spreads array') (stored : array'.held draft'.inode block ∈ array')
    (header : draft'.inode.length = draft.inode.length ∧ draft'.inode.magic = draft.inode.magic ∧
      draft'.inode.dirFlag = draft.inode.dirFlag)
    (gave : LawfulAllocator.Gave draft.space (array'.held draft'.inode block) draft'.space)
    (same : ∀ spot : Spot, spot.IsIndex → spot ≠ block →
      array'.held draft'.inode spot = array.held draft.inode spot)
    (frame : ∀ sector, (∀ spot : Spot, spot.OnPath place → array'.Holds draft'.inode spot →
      array'.held draft'.inode spot ≠ sector) → array'.get sector = array.get sector) :
    Step place array draft array' draft' := by
  have before : ∀ spot : Spot, spot.IsIndex → spot ≠ block → array'.Holds draft'.inode spot →
      array.Holds draft.inode spot :=
    fun spot index other here => (PartialArray.holds_congr (same spot index other)).mp here
  refine ⟨spreads, gave.sound, gave.limit, header, ?_, ?_, ?_, ?_, frame⟩
  · intro spot index here
    exact same spot index fun equal => absent (equal ▸ here)
  · intro spot index here
    by_cases equal : spot = block
    · subst equal
      exact .inr ⟨onPath, stored, gave.free⟩
    · exact .inl (before spot index equal here)
  · intro spot other index index' here new new' equal
    have there : array'.Holds draft'.inode other := by
      rw [PartialArray.Holds, ← equal]
      exact here
    by_cases first : spot = block
    · by_cases second : other = block
      · exact first.trans second.symm
      · exact absurd (before other index' second there) new'
    · exact absurd (before spot index first here) new
  · intro sector
    rw [gave.taken]
    constructor
    · rintro (rfl | there)
      · exact .inr ⟨block, index, gave.allocated, rfl⟩
      · exact .inl there
    · rintro (there | ⟨spot, index, here, rfl⟩)
      · exact .inr there
      · by_cases equal : spot = block
        · exact .inl (by rw [equal])
        · rw [same spot index equal]
          exact .inr (fit.taken spot (before spot index equal here))

end Step

/-! ## Asking for sectors -/

section Take

open LawfulAllocator (Gave Refused allocate_ensures)

theorem request_ensures (sound : Sound draft.space) :
    (request : SectorM (Draft A) (Option SectorId)).Ensures array draft
      (fun given array' draft' => array' = array ∧ draft'.inode = draft.inode ∧
        match given with
        | none => Refused draft.space draft'.space
        | some sector => Gave draft.space sector draft'.space)
      fun _ _ _ => False := by
  unfold request
  rw [SectorM.ensures_perform, onSpace, Action.ensures_within]
  exact (allocate_ensures sound).mono (fun given after answer => ⟨rfl, rfl, answer⟩)
    fun _ _ failed => failed

theorem take_ensures (sound : Sound draft.space) :
    (take : SectorM (Draft A) SectorId).Ensures array draft
      (fun sector array' draft' => array' = array ∧ draft'.inode = draft.inode ∧
        Gave draft.space sector draft'.space)
      fun failure array' draft' => failure = .reported .noSpace ∧ array' = array ∧
        draft'.inode = draft.inode ∧ Refused draft.space draft'.space := by
  unfold take
  rw [SectorM.ensures_bind]
  refine (request_ensures sound).mono ?_ fun _ _ _ failed => failed.elim
  rintro given array' draft' ⟨rfl, same, answer⟩
  cases given with
  | none => exact SectorM.ensures_report.mpr ⟨rfl, rfl, same, answer⟩
  | some sector => exact SectorM.ensures_pure.mpr ⟨rfl, same, answer⟩

end Take

/-! ## Registering -/

open LawfulAllocator (Gave Refused)

/-- The outer index block is made if there is none, and no place changes. -/
theorem outerBlock_ensures (fit : Fit array draft) (onPath : Spot.OnPath place .outer) :
    (outerBlock : SectorM (Draft A) IndexBlock).Ensures array draft
      (fun block array' draft' => Step place array draft array' draft' ∧
        block = array'.block draft'.inode.doubleIndirect ∧ array'.Holds draft'.inode .outer ∧
        (∀ spot, spot ≠ .outer → array'.held draft'.inode spot = array.held draft.inode spot) ∧
        left draft.space = left draft'.space + if array.Holds draft.inode .outer then 0 else 1)
      fun failure array' draft' => failure = .reported .noSpace ∧ array' = array ∧
        draft'.inode = draft.inode ∧ ¬array.Holds draft.inode .outer ∧
        Refused draft.space draft'.space := by
  unfold outerBlock
  rw [SectorM.ensures_bind, SectorM.ensures_get, SectorM.ensures_ite]
  split
  · rename_i holds
    have there : array.Holds draft.inode .outer := holds
    refine IndexBlock.ensures_load.mpr ⟨fit.inside .outer trivial holds, ?_⟩
    refine ⟨.still fit (.refl _) fit.sound rfl ⟨rfl, rfl, rfl⟩ (fun _ => Iff.rfl) (fun _ _ => rfl)
      (fun _ _ => rfl), rfl, holds, fun _ _ => rfl, ?_⟩
    rw [if_pos there]
    rfl
  · rename_i missing
    have absent : ¬array.Holds draft.inode .outer := missing
    rw [SectorM.ensures_bind]
    refine (take_ensures fit.sound).mono ?_ ?_
    · rintro x array' ⟨inode, space⟩ ⟨rfl, rfl, gave⟩
      have has : array'.Has x := Nat.lt_of_lt_of_le gave.inside fit.limit
      have unchanged : ∀ spot, spot ≠ .outer →
          (array'.set x IndexBlock.empty.encode).held { draft.inode with doubleIndirect := x } spot =
            array'.held draft.inode spot :=
        fun _ => PartialArray.held_linkOuter draft.inode has gave.allocated (fit.held_ne gave .single)
          (by simpa using missing)
      rw [SectorM.ensures_bind, change, SectorM.ensures_modify, SectorM.ensures_bind,
        IndexBlock.ensures_store]
      refine ⟨has, SectorM.ensures_pure.mpr ⟨?_, ?_, gave.allocated, unchanged, ?_⟩⟩
      · refine .made fit .outer trivial onPath absent (.set has) (PartialArray.mem_set_self has) ⟨rfl, rfl, rfl⟩
          gave (fun spot _ other => unchanged spot other) ?_
        intro sector off
        exact PartialArray.get_set_ne has (Ne.symm (off .outer onPath gave.allocated))
      · exact (PartialArray.block_set_self has IndexBlock.empty).symm
      · rw [if_neg absent]
        exact gave.left
    · rintro failure array' draft' ⟨rfl, rfl, same, refused⟩
      exact ⟨rfl, rfl, same, absent, refused⟩

/-- How many index blocks must be made to enter a sector at a place. -/
def missing (array : PartialArray) (inode : DiskInode) : Location → Nat
  | .indirect _ => if array.Holds inode .single then 0 else 1
  | .doubleIndirect q _ =>
    (if array.Holds inode .outer then 0 else 1) + if array.Holds inode (.inner q) then 0 else 1
  | .direct _ | .outOfRange => 0

/-- A sector was entered at a place. -/
structure Entered (place : Location) (sector : SectorId) (array : PartialArray) (draft : Draft A)
    (array' : PartialArray) (draft' : Draft A) : Prop where
  step : Step place array draft array' draft'
  point : ∀ other, array'.find draft'.inode other =
    if other = place then sector else array.find draft.inode other
  path : ∀ spot : Spot, spot.OnPath place → array'.Holds draft'.inode spot
  left : left draft.space = LawfulAllocator.left draft'.space + missing array draft.inode place

/-- A sector could not be entered at a place, for there were too few others for index blocks. -/
structure Stuck (place : Location) (array : PartialArray) (draft : Draft A) (failure : Failure)
    (array' : PartialArray) (draft' : Draft A) : Prop where
  failure : failure = .reported .noSpace
  step : Step place array draft array' draft'
  same : ∀ other, array'.find draft'.inode other = array.find draft.inode other
  outer : ∀ spot : Spot, spot.IsIndex → array'.Holds draft'.inode spot →
    array.Holds draft.inode spot ∨ spot = .outer
  short : left draft.space < missing array draft.inode place

/-- An allocator that refuses changes nothing. -/
theorem Step.refused (fit : Fit array draft) {draft' : Draft A} (same : draft'.inode = draft.inode)
    (refused : Refused draft.space draft'.space) : Step place array draft array draft' :=
  .still fit (.refl _) refused.sound refused.limit (by rw [same]; exact ⟨rfl, rfl, rfl⟩) refused.taken
    (fun _ _ => by rw [same]) fun _ _ => rfl

/-- An allocator that refuses stands in the way where an index block must be made. -/
theorem Stuck.refused (fit : Fit array draft) {draft' : Draft A} (same : draft'.inode = draft.inode)
    (refused : Refused draft.space draft'.space) (needed : 0 < missing array draft.inode place) :
    Stuck place array draft (.reported .noSpace) array draft' := by
  refine ⟨rfl, .refused fit same refused, fun _ => by rw [same], ?_, ?_⟩
  · intro spot _ here
    rw [same] at here
    exact .inl here
  · rw [refused.spent]
    exact needed

namespace Entered

variable {o i : Nat}

/-- Entered in the inode itself. -/
theorem direct (fit : Fit array draft) (low : i < directCount) (sector : SectorId) :
    Entered (.direct i) sector array draft array
      ⟨{ draft.inode with direct := draft.inode.direct.set i sector }, draft.space⟩ := by
  refine ⟨.still fit (.refl _) fit.sound rfl ⟨rfl, rfl, rfl⟩ (fun _ => Iff.rfl) ?_ fun _ _ => rfl,
    (enterDirect_redirected low fit.shaped sector).leads, ?_, rfl⟩
  · intro spot index
    cases spot with
    | data _ => exact index.elim
    | single | outer | inner _ => rfl
  · intro spot onPath
    exact absurd onPath Spot.not_onPath_direct

/-- Entered in an index block that is there. -/
theorem single (fit : Fit array draft) (low : i < indexCount) (holds : array.Holds draft.inode .single)
    (sector : SectorId) :
    Entered (.indirect i) sector array draft (array.set draft.inode.indirect
      (IndexBlock.encode ((array.block draft.inode.indirect).set i sector))) draft := by
  have has : array.Has draft.inode.indirect := fit.shaped.has .single trivial holds
  have outer : draft.inode.doubleIndirect ≠ draft.inode.indirect := fit.shaped.ne .single .outer trivial holds (by simp)
  have inner : ∀ q, array.entry draft.inode.doubleIndirect q ≠ draft.inode.indirect :=
    fun q => fit.shaped.ne .single (.inner q) trivial holds (by simp)
  have redirected := enterSingle_redirected low fit.shaped sector has holds outer inner
    fun j => (PartialArray.entry_of_allocated holds j).symm
  refine ⟨.still fit (.set has) fit.sound rfl ⟨rfl, rfl, rfl⟩ (fun _ => Iff.rfl) ?_ redirected.frame,
    redirected.leads, ?_, ?_⟩
  · intro spot index
    refine (PartialArray.held_relinkSingle draft.inode has holds outer inner spot).trans ?_
    cases spot with
    | data _ => exact index.elim
    | single | outer | inner _ => rfl
  · intro spot onPath
    obtain rfl := Spot.onPath_indirect_iff.mp onPath
    exact holds
  · rw [missing, if_pos holds]
    rfl

/-- Entered in an index block that is made for it. -/
theorem single_made (fit : Fit array draft) (low : i < indexCount) (absent : ¬array.Holds draft.inode .single)
    {x : SectorId} {space : A} (gave : Gave draft.space x space) (sector : SectorId) :
    Entered (.indirect i) sector array draft
      (array.set x (IndexBlock.encode (IndexBlock.empty.set i sector))) ⟨{ draft.inode with indirect := x }, space⟩ := by
  have has : array.Has x := Nat.lt_of_lt_of_le gave.inside fit.limit
  have away := fit.held_ne gave
  have entries : ∀ j : Nat, IndexBlock.empty[j]?.getD .unmapped = array.entry draft.inode.indirect j := by
    intro j
    rw [PartialArray.entry_of_not_allocated (Bool.not_eq_true _ ▸ absent), PartialArray.getD_empty]
  have redirected := enterSingle_redirected low fit.shaped sector has gave.allocated (away .outer)
    (fun q => away (.inner q)) entries
  refine ⟨.made fit .single trivial ⟨i, rfl⟩ absent (.set has) (PartialArray.mem_set_self has) ⟨rfl, rfl, rfl⟩ gave ?_
    redirected.frame, redirected.leads, ?_, ?_⟩
  · intro spot index other
    refine (PartialArray.held_relinkSingle draft.inode has gave.allocated (away .outer)
      (fun q => away (.inner q)) spot).trans ?_
    cases spot with
    | data _ => exact index.elim
    | single => exact absurd rfl other
    | outer | inner _ => rfl
  · intro spot onPath
    obtain rfl := Spot.onPath_indirect_iff.mp onPath
    exact gave.allocated
  · rw [missing, if_neg absent]
    exact gave.left

/-- Entered in an inner index block that is there. -/
theorem double (fit : Fit array draft) (low : i < indexCount) (holds : array.Holds draft.inode .outer)
    (there : array.Holds draft.inode (.inner o)) (sector : SectorId) :
    Entered (.doubleIndirect o i) sector array draft
      ((array.set draft.inode.doubleIndirect (array.block draft.inode.doubleIndirect).encode).set
        (array.entry draft.inode.doubleIndirect o)
        (IndexBlock.encode ((array.block (array.entry draft.inode.doubleIndirect o)).set i sector))) draft := by
  have hasOuter : array.Has draft.inode.doubleIndirect := fit.shaped.has .outer trivial holds
  have has := fit.shaped.has (.inner o) trivial there
  have away : ∀ spot : Spot, spot.IsIndex → spot ≠ .inner o → array.held draft.inode spot ≠
      array.entry draft.inode.doubleIndirect o := fun spot _ other => fit.shaped.ne (.inner o) spot trivial there other
  have named : ∀ q : Nat, (array.block draft.inode.doubleIndirect)[q]?.getD .unmapped = _ :=
    PartialArray.getD_block holds o
  have relinked := fit.shaped.relinked holds has there away named
  have redirected := enterDouble_redirected low fit.shaped sector holds has there away named
    fun j => (PartialArray.entry_of_allocated there j).symm
  refine ⟨.still fit ((PartialArray.Spreads.set hasOuter).trans (.set (PartialArray.has_set.mpr has))) fit.sound rfl
    ⟨rfl, rfl, rfl⟩ (fun _ => Iff.rfl) ?_ redirected.frame, redirected.leads, ?_, ?_⟩
  · intro spot index
    refine (relinked _ spot).trans ?_
    cases spot with
    | data _ => exact index.elim
    | single | outer => rfl
    | inner q => exact ite_eq_right_iff.mpr fun equal => by rw [equal]
  · intro spot onPath
    rcases Spot.onPath_doubleIndirect_iff.mp onPath with rfl | rfl
    · exact holds
    · exact (PartialArray.holds_congr ((relinked _ (.inner o)).trans (if_pos rfl))).mpr there
  · rw [missing, if_pos holds, if_pos there]
    rfl

/-- Entered in an inner index block that is made for it. -/
theorem double_made (fit : Fit array draft) (lowOuter : o < indexCount) (low : i < indexCount)
    (holds : array.Holds draft.inode .outer) (absent : ¬array.Holds draft.inode (.inner o)) {z : SectorId} {space : A}
    (gave : Gave draft.space z space) (sector : SectorId) :
    Entered (.doubleIndirect o i) sector array draft
      ((array.set draft.inode.doubleIndirect
        (IndexBlock.encode ((array.block draft.inode.doubleIndirect).set o z))).set z
        (IndexBlock.encode (IndexBlock.empty.set i sector))) ⟨draft.inode, space⟩ := by
  have hasOuter : array.Has draft.inode.doubleIndirect := fit.shaped.has .outer trivial holds
  have has : array.Has z := Nat.lt_of_lt_of_le gave.inside fit.limit
  have away : ∀ spot : Spot, spot.IsIndex → spot ≠ .inner o → array.held draft.inode spot ≠ z :=
    fun spot _ _ => fit.held_ne gave spot
  have named : ∀ q : Nat, ((array.block draft.inode.doubleIndirect).set o z)[q]?.getD .unmapped = _ :=
    PartialArray.getD_block_set holds lowOuter
  have entries : ∀ j : Nat, IndexBlock.empty[j]?.getD .unmapped = array.find draft.inode (.doubleIndirect o j) := by
    intro j
    rw [PartialArray.getD_empty]
    exact (PartialArray.entry_of_not_allocated (Bool.not_eq_true _ ▸ absent) j).symm
  have relinked := fit.shaped.relinked holds has gave.allocated away named
  have redirected := enterDouble_redirected low fit.shaped sector holds has gave.allocated away named entries
  have here := (relinked (IndexBlock.empty.set i sector) (.inner o)).trans (if_pos rfl)
  refine ⟨.made fit (.inner o) trivial ⟨i, rfl⟩ absent
    ((PartialArray.Spreads.set hasOuter).trans (.set (PartialArray.has_set.mpr has))) ?_ ⟨rfl, rfl, rfl⟩ ?_ ?_
    redirected.frame, redirected.leads, ?_, ?_⟩
  · dsimp only
    rw [here]
    exact PartialArray.mem_set_self (PartialArray.has_set.mpr has)
  · dsimp only
    rw [here]
    exact gave
  · intro spot index other
    refine (relinked _ spot).trans ?_
    cases spot with
    | data _ => exact index.elim
    | single | outer => rfl
    | inner q => exact if_neg fun equal => other (by rw [equal])
  · intro spot onPath
    rcases Spot.onPath_doubleIndirect_iff.mp onPath with rfl | rfl
    · exact holds
    · rw [PartialArray.Holds, here]
      exact gave.allocated
  · rw [missing, if_pos holds, if_neg absent, Nat.zero_add]
    exact gave.left

end Entered

theorem registerDirect_ensures (fit : Fit array draft) {i : Nat} (low : i < directCount)
    (sector : SectorId) :
    (registerDirect sector i : SectorM (Draft A) Unit).Ensures array draft
      (fun _ array' draft' => Entered (.direct i) sector array draft array' draft')
      fun _ _ _ => False := by
  unfold registerDirect
  rw [dif_pos low, change, SectorM.ensures_modify]
  exact .direct fit low sector

theorem registerIndirect_ensures (fit : Fit array draft) {i : Nat} (low : i < indexCount)
    (sector : SectorId) :
    (registerIndirect sector i : SectorM (Draft A) Unit).Ensures array draft
      (fun _ array' draft' => Entered (.indirect i) sector array draft array' draft')
      (Stuck (.indirect i) array draft) := by
  unfold registerIndirect
  rw [SectorM.ensures_bind, SectorM.ensures_get]
  dsimp only
  rw [SectorM.ensures_ite]
  split
  · rename_i holds
    rw [SectorM.ensures_bind]
    refine IndexBlock.ensures_load.mpr ⟨fit.inside .single trivial holds, ?_⟩
    exact enterSingle_ensures low (fit.shaped.has .single trivial holds) sector (.single fit low holds sector)
  · rename_i absent
    have absent : ¬array.Holds draft.inode .single := absent
    rw [SectorM.ensures_bind]
    refine (take_ensures fit.sound).mono ?_ ?_
    · rintro x array' ⟨inode, space⟩ ⟨rfl, same, gave⟩
      obtain rfl : inode = draft.inode := same
      have has : array'.Has x := Nat.lt_of_lt_of_le gave.inside fit.limit
      rw [SectorM.ensures_bind, change, SectorM.ensures_modify, SectorM.ensures_bind,
        SectorM.ensures_pure]
      exact enterSingle_ensures low has sector (.single_made fit low absent gave sector)
    · rintro failure array' draft' ⟨rfl, rfl, same, refused⟩
      refine .refused fit same refused ?_
      rw [missing, if_neg absent]
      exact Nat.one_pos

section Behind

variable {array' array'' : PartialArray} {draft' draft'' : Draft A} {sector : SectorId} {o i : Nat}
  (step : Step (.doubleIndirect o i) array draft array' draft')
  (holds : array'.Holds draft'.inode .outer)
  (same : ∀ spot, spot ≠ .outer → array'.held draft'.inode spot = array.held draft.inode spot)
  (spent : LawfulAllocator.left draft.space =
    LawfulAllocator.left draft'.space + if array.Holds draft.inode .outer then 0 else 1)

include holds same spent

theorem missing_behind : left draft.space + missing array' draft'.inode (.doubleIndirect o i) =
    left draft'.space + missing array draft.inode (.doubleIndirect o i) := by
  have inner : array'.Holds draft'.inode (.inner o) ↔ array.Holds draft.inode (.inner o) :=
    PartialArray.holds_congr (same (.inner o) (by simp))
  simp only [missing, inner, holds, if_true]
  omega

include step

/-- Entering behind an outer index block that was made first. -/
theorem Entered.behind (entered : Entered (.doubleIndirect o i) sector array' draft' array'' draft'') :
    Entered (.doubleIndirect o i) sector array draft array'' draft'' := by
  have count := missing_behind (o := o) (i := i) holds same spent
  refine ⟨step.trans entered.step, ?_, entered.path, ?_⟩
  · intro other
    rw [entered.point]
    split
    · rfl
    · exact same (.data other) (by simp)
  · have := entered.left
    omega

theorem Stuck.behind {failure : Failure}
    (stuck : Stuck (.doubleIndirect o i) array' draft' failure array'' draft'') :
    Stuck (.doubleIndirect o i) array draft failure array'' draft'' := by
  have count := missing_behind (o := o) (i := i) holds same spent
  refine ⟨stuck.failure, step.trans stuck.step, ?_, ?_, ?_⟩
  · intro other
    exact (stuck.same other).trans (same (.data other) (by simp))
  · intro spot index here
    rcases stuck.outer spot index here with there | rfl
    · by_cases other : spot = .outer
      · exact .inr other
      · exact .inl ((PartialArray.holds_congr (same spot other)).mp there)
    · exact .inr rfl
  · have := stuck.short
    omega

end Behind

theorem registerDouble_ensures (fit : Fit array draft) {o i : Nat} (lowOuter : o < indexCount)
    (lowInner : i < indexCount) (sector : SectorId) :
    (registerDouble sector o i : SectorM (Draft A) Unit).Ensures array draft
      (fun _ array' draft' => Entered (.doubleIndirect o i) sector array draft array' draft')
      (Stuck (.doubleIndirect o i) array draft) := by
  unfold registerDouble
  rw [SectorM.ensures_bind]
  refine (outerBlock_ensures fit ⟨o, i, rfl⟩).mono ?_ ?_
  · rintro outer array' draft' ⟨step, rfl, holds, same, spent⟩
    have fit' : Fit array' draft' := step.fit_of_same fit fun place => same (.data place) (by simp)
    refine SectorM.Ensures.mono (?_ : SectorM.Ensures _ array' draft'
      (fun _ => Entered (.doubleIndirect o i) sector array' draft')
      (Stuck (.doubleIndirect o i) array' draft'))
      (fun _ _ _ entered => entered.behind step holds same spent)
      fun _ _ _ stuck => stuck.behind step holds same spent
    -- the outer index block is there: what is behind it is looked at next
    clear spent same step
    have hasOuter : array'.Has draft'.inode.doubleIndirect := fit'.shaped.has .outer trivial holds
    rw [SectorM.ensures_bind, SectorM.ensures_perform, Action.ensures_ofExcept, IndexBlock.fetch,
      dif_pos lowOuter]
    dsimp only
    have named : (array'.block draft'.inode.doubleIndirect)[o] = array'.entry draft'.inode.doubleIndirect o :=
      PartialArray.getElem_block holds lowOuter
    rw [named, SectorM.ensures_ite]
    split
    · rename_i there
      rw [SectorM.ensures_bind, IndexBlock.ensures_load]
      refine ⟨fit'.inside (.inner o) trivial there, ?_⟩
      exact enterDouble_ensures lowInner hasOuter (fit'.shaped.has (.inner o) trivial there) sector
        (.double fit' lowInner holds there sector)
    · rename_i absent
      have absent : ¬array'.Holds draft'.inode (.inner o) := absent
      rw [SectorM.ensures_bind]
      refine (take_ensures fit'.sound).mono ?_ ?_
      · rintro z array'' ⟨inode, space⟩ ⟨rfl, same, gave⟩
        obtain rfl : inode = draft'.inode := same
        have has : array''.Has z := Nat.lt_of_lt_of_le gave.inside fit'.limit
        rw [SectorM.ensures_bind, SectorM.ensures_perform, Action.ensures_ofExcept,
          IndexBlock.replace, dif_pos lowOuter]
        refine enterDouble_ensures lowInner ?_ has sector ?_
        · exact hasOuter
        · exact .double_made fit' lowOuter lowInner holds absent gave sector
      · rintro failure array'' draft'' ⟨rfl, rfl, same, refused⟩
        refine .refused fit' same refused ?_
        rw [missing, if_pos holds, if_neg absent]
        exact Nat.one_pos
  · rintro failure array' draft' ⟨rfl, rfl, same, absent, refused⟩
    refine .refused fit same refused ?_
    rw [missing, if_neg absent]
    omega

/-- **Registering is a point update.** The place holds the sector afterwards and all others what they
held; or no place changes, because there were too few sectors for the index blocks on the way. -/
theorem register_ensures (fit : Fit array draft) (inTables : place.InTables)
    (known : place ≠ .outOfRange) (sector : SectorId) :
    (register sector place : SectorM (Draft A) Unit).Ensures array draft
      (fun _ array' draft' => Entered place sector array draft array' draft')
      (Stuck place array draft) := by
  cases place with
  | direct i =>
      exact (registerDirect_ensures fit inTables sector).mono (fun _ _ _ entered => entered)
        fun _ _ _ failed => failed.elim
  | indirect i => exact registerIndirect_ensures fit inTables sector
  | doubleIndirect o i => exact registerDouble_ensures fit inTables.1 inTables.2 sector
  | outOfRange => exact absurd rfl known

end Draft

end InodeVolume
