import InodeVolume.Proofs.BlockMap.Register

/-!
# Growing a block map

A growth gives a file logical sectors one by one, and may stop at any of them.

* **growths** — `Grown` says what a growth does, wherever it stops: what is mapped stays where it
  is, what is new was free before and reads as zeros, and nothing else is taken or changed.
  Growths compose;
* **one sector** — `extend_ensures`: the next logical sector is mapped, or there is no room for it
  and the index blocks it needs;
* **the whole** — `grow_ensures`: a growth succeeds exactly when the length can be addressed and
  there is `Room` for all that is missing.
-/

namespace InodeVolume

namespace Draft

/-! ## Working on a draft -/

/-- Work on a draft of an inode is work on the draft. -/
@[simp] theorem ensures_edit {A α : Type} {array : PartialArray} {inode : DiskInode} {space : A}
    {computation : SectorM (Draft A) α} {good : α × DiskInode → PartialArray → A → Prop}
    {bad : Failure → PartialArray → A → Prop} :
    (edit inode computation).Ensures array space good bad ↔
      computation.Ensures array ⟨inode, space⟩
        (fun a array draft => good (a, draft.inode) array draft.space)
        fun failure array draft => bad failure array draft.space := by
  induction computation generalizing array inode space with
  | done a => exact Iff.rfl
  | act step next ih =>
      apply forall_congr'
      intro log
      simp only [Action.run]
      cases step ⟨⟨inode, space⟩, log⟩ with
      | ok b after => exact ih b
      | error failure after => exact Iff.rfl
  | read sector offset length next ih =>
      exact exists_congr fun fits => and_congr_right fun _ => ih _
  | write sector offset bytes next ih =>
      exact exists_congr fun fits => and_congr_right fun _ => ih _
  | sync next ih => exact ih ()
  | shutdown next ih => exact ih ()

variable {A : Type} [Allocator A] [LawfulAllocator A] {array array' array'' : PartialArray}
  {draft draft' draft'' : Draft A} {place : Location} {sector : SectorId} {m : Nat}

open LawfulAllocator (Sound limit Taken left Gave Refused)

/-! ## Growths -/

/-- A draft whose block map is in order, with `m` logical sectors. -/
structure Ready (array : PartialArray) (draft : Draft A) (m : Nat) : Prop where
  sound : Sound draft.space
  limit : limit draft.space ≤ array.count
  tidy : array.Tidy draft.inode (Taken draft.space)
  mapped : array.Prefix draft.inode m

/-- What a growth does, wherever it stops. -/
structure Grown (array : PartialArray) (draft : Draft A) (array' : PartialArray) (draft' : Draft A) :
    Prop where
  spreads : array.Spreads array'
  limit : LawfulAllocator.limit draft'.space = LawfulAllocator.limit draft.space
  header : draft'.inode.length = draft.inode.length ∧ draft'.inode.magic = draft.inode.magic ∧
    draft'.inode.dirFlag = draft.inode.dirFlag
  kept : ∀ spot, array.Holds draft.inode spot →
    array'.held draft'.inode spot = array.held draft.inode spot
  fresh : ∀ spot, array'.Holds draft'.inode spot →
    array.Holds draft.inode spot ∨ ¬Taken draft.space (array'.held draft'.inode spot)
  taken : ∀ sector, Taken draft'.space sector ↔ Taken draft.space sector ∨
    ∃ spot, array'.Holds draft'.inode spot ∧ array'.held draft'.inode spot = sector
  frame : ∀ sector, Taken draft.space sector →
    (∀ spot : Spot, spot.IsIndex → array.Holds draft.inode spot →
      array.held draft.inode spot ≠ sector) → array'.get sector = array.get sector
  zeros : ∀ place, array'.Holds draft'.inode (.data place) → array.Holds draft.inode (.data place) ∨
    array'.get (array'.held draft'.inode (.data place)) = zeroSector
  spared : ∀ sector, ¬Taken draft'.space sector → array'.get sector = array.get sector

theorem Ready.fit (ready : Ready array draft m) : Fit array draft :=
  ⟨ready.sound, ready.limit, fun spot _ => ready.tidy.inside spot, ready.tidy.taken,
    fun spot other _ => ready.tidy.apart spot other⟩

/-- A sector that was given to a draft changes nothing about its block map. -/
theorem Ready.fit_gave (ready : Ready array draft m) {space : A}
    (gave : Gave draft.space sector space) : Fit array ⟨draft.inode, space⟩ :=
  ⟨gave.sound, by rw [gave.limit]; exact ready.limit, ready.fit.inside,
    fun spot holds => (gave.taken _).mpr (.inr (ready.tidy.taken spot holds)), ready.fit.apart⟩

namespace Grown

theorem holds (grown : Grown array draft array' draft') {spot : Spot}
    (holds : array.Holds draft.inode spot) : array'.Holds draft'.inode spot :=
  (PartialArray.holds_congr (grown.kept spot holds)).mpr holds

/-- Nothing grew. -/
theorem refl (ready : Ready array draft m) (same : draft'.inode = draft.inode)
    (limit : LawfulAllocator.limit draft'.space = LawfulAllocator.limit draft.space)
    (taken : ∀ sector, Taken draft'.space sector ↔ Taken draft.space sector) :
    Grown array draft array draft' := by
  refine ⟨.refl _, limit, by rw [same]; exact ⟨rfl, rfl, rfl⟩, fun _ _ => by rw [same], ?_, ?_,
    fun _ _ _ => rfl, ?_, fun _ _ => rfl⟩
  · intro spot here
    rw [same] at here
    exact .inl here
  · intro sector
    rw [taken, same]
    refine ⟨.inl, ?_⟩
    rintro (there | ⟨spot, here, rfl⟩)
    · exact there
    · exact ready.tidy.taken spot here
  · intro place here
    rw [same] at here
    exact .inl here

/-- Growths compose. -/
theorem trans (first : Grown array draft array' draft') (ready : Ready array' draft' m)
    (second : Grown array' draft' array'' draft'') : Grown array draft array'' draft'' := by
  refine ⟨first.spreads.trans second.spreads, second.limit.trans first.limit, ?_, ?_, ?_, ?_, ?_, ?_, ?_⟩
  · obtain ⟨length, magic, flag⟩ := first.header
    obtain ⟨length', magic', flag'⟩ := second.header
    exact ⟨length'.trans length, magic'.trans magic, flag'.trans flag⟩
  · intro spot here
    exact (second.kept spot (first.holds here)).trans (first.kept spot here)
  · intro spot here
    rcases second.fresh spot here with before | free
    · rw [second.kept spot before]
      exact first.fresh spot before
    · exact .inr fun taken => free ((first.taken _).mpr (.inl taken))
  · intro sector
    rw [second.taken, first.taken]
    constructor
    · rintro ((before | ⟨spot, here, rfl⟩) | late)
      · exact .inl before
      · exact .inr ⟨spot, second.holds here, second.kept spot here⟩
      · exact .inr late
    · rintro (before | late)
      · exact .inl (.inl before)
      · exact .inr late
  · intro sector taken off
    have kept := first.frame sector taken off
    refine (second.frame sector ((first.taken _).mpr (.inl taken)) ?_).trans kept
    intro spot index here same
    rcases first.fresh spot here with before | free
    · exact off spot index before ((first.kept spot before).symm.trans same)
    · exact free (same ▸ taken)
  · intro place here
    rcases second.zeros place here with before | zero
    · rcases first.zeros place before with early | zero
      · exact .inl early
      · refine .inr ?_
        rw [second.kept _ before, ← zero]
        refine second.frame _ (ready.tidy.taken _ before) ?_
        intro spot index there same
        have equal := ready.tidy.apart spot (.data place) there same
        exact absurd index (by rw [equal]; exact not_false)
    · exact .inr zero
  · intro sector free
    exact (second.spared sector free).trans (first.spared sector fun taken => free ((second.taken _).mpr (.inl taken)))

end Grown

/-! ## One sector -/

/-- What is left of a step for one new sector, whether it was entered or given back: the block map
leads where it led, or to the new sector at the one place. -/
structure Landed (place : Location) (sector : SectorId) (array : PartialArray) (draft : Draft A)
    (array₁ : PartialArray) (draft₁ : Draft A) (array' : PartialArray) (draft' : Draft A) : Prop where
  spreads : array₁.Spreads array'
  inode : draft'.inode = draft₁.inode
  sound : Sound draft'.space
  limit : LawfulAllocator.limit draft'.space = LawfulAllocator.limit draft.space
  others : ∀ other, other ≠ sector → array'.get other = array₁.get other
  taken : ∀ other, Taken draft'.space other ↔ Taken draft.space other ∨
    ∃ spot, array₁.Holds draft₁.inode spot ∧ array₁.held draft₁.inode spot = other
  point : ∀ other, array₁.find draft₁.inode other = array.find draft.inode other ∨
    (other = place ∧ ¬array.Holds draft.inode (.data place) ∧
      array₁.find draft₁.inode other = sector ∧ sector ∈ array' ∧ array'.get sector = zeroSector)
  spared : ¬Taken draft'.space sector → array'.get sector = array₁.get sector

namespace Landed

variable {array₁ : PartialArray} {draft₁ : Draft A} {space₁ : A} (ready : Ready array draft m)
  (gave : Gave draft.space sector space₁) (step : Step place array ⟨draft.inode, space₁⟩ array₁ draft₁)
  (landed : Landed place sector array draft array₁ draft₁ array' draft')

include ready gave step landed

/-- The index blocks are in order behind the step. -/
theorem fit : Fit array₁ draft₁ := by
  refine step.fit (ready.fit_gave gave) ?_
  intro other holds
  rcases landed.point other with same | ⟨-, -, same, -⟩
  · have before : array.Holds draft.inode (.data other) := (PartialArray.holds_data_congr same).mp holds
    refine ⟨(gave.taken _).mpr (.inr (by rw [PartialArray.held, same]; exact ready.tidy.taken _ before)), ?_⟩
    intro spot index there equal
    have clash := ready.tidy.apart spot (.data other) there (equal.trans same)
    rw [clash] at index
    exact index
  · refine ⟨(gave.taken _).mpr (.inl same), ?_⟩
    intro spot _ _ equal
    exact ready.fit.held_ne gave spot (equal.trans same)

/-- Where the map leads does not depend on what the new sector holds. -/
theorem held_eq : array'.held draft'.inode = array₁.held draft₁.inode := by
  rw [landed.inode]
  refine PartialArray.held_congr fun spot index holds => landed.others _ ?_
  intro same
  rcases step.fresh spot index holds with before | ⟨-, -, free⟩
  · exact ready.fit.held_ne gave spot ((step.kept spot index before).symm.trans same)
  · exact free (same ▸ (gave.taken sector).mpr (.inl rfl))

/-- The block map has grown. -/
theorem grown : Grown array draft array' draft' := by
  have same := landed.held_eq ready gave step
  refine ⟨step.spreads.trans landed.spreads, landed.limit, ?_, ?_, ?_, ?_, ?_, ?_, ?_⟩
  · rw [landed.inode]
    exact step.header
  · intro spot holds
    rw [same]
    rcases spot.index_or_data with index | ⟨other, rfl⟩
    · exact step.kept spot index holds
    · rcases landed.point other with kept | ⟨rfl, absent, -⟩
      · exact kept
      · exact absurd holds absent
  · intro spot holds
    rw [PartialArray.Holds, same] at holds
    rw [same]
    rcases spot.index_or_data with index | ⟨other, rfl⟩
    · rcases step.fresh spot index holds with before | ⟨-, -, free⟩
      · exact .inl before
      · exact .inr fun taken => free ((gave.taken _).mpr (.inr taken))
    · rcases landed.point other with kept | ⟨rfl, -, new, -⟩
      · exact .inl ((PartialArray.holds_data_congr kept).mp holds)
      · refine .inr ?_
        rw [PartialArray.held, new]
        exact gave.free
  · simp only [PartialArray.Holds, same]
    exact landed.taken
  · intro other taken off
    have notNew : other ≠ sector := fun equal => gave.free (equal ▸ taken)
    refine (landed.others other notNew).trans (step.frame other ?_)
    intro spot onPath holds equal
    have index := Spot.IsIndex.of_onPath onPath
    rcases step.fresh spot index holds with before | ⟨-, -, free⟩
    · exact off spot index before ((step.kept spot index before).symm.trans equal)
    · exact free ((gave.taken _).mpr (.inr (equal ▸ taken)))
  · intro other holds
    rw [PartialArray.Holds, same] at holds
    rw [same]
    rcases landed.point other with kept | ⟨rfl, -, new, -, zero⟩
    · exact .inl ((PartialArray.holds_data_congr kept).mp holds)
    · refine .inr ?_
      rw [PartialArray.held, new]
      exact zero
  · intro other free
    have left : array'.get other = array₁.get other := by
      by_cases equal : other = sector
      · subst equal
        exact landed.spared free
      · exact landed.others other equal
    refine left.trans (step.frame other fun spot _ holds equal => free ?_)
    exact (landed.taken other).mpr (.inr ⟨spot, holds, equal⟩)

/-- A block map that was in order is in order. -/
theorem tidy : array'.Tidy draft'.inode (Taken draft'.space) := by
  have same := landed.held_eq ready gave step
  have fit₁ := landed.fit ready gave step
  have settled : ∀ spot, array'.Holds draft'.inode spot → array₁.Holds draft₁.inode spot :=
    fun spot => (PartialArray.holds_congr (congrFun same spot)).mp
  refine ⟨?_, ?_, ?_⟩
  · intro spot here
    have holds := settled spot here
    rw [same]
    rcases spot.index_or_data with index | ⟨other, rfl⟩
    · exact landed.spreads.mem (fit₁.inside spot index holds)
    · rcases landed.point other with kept | ⟨-, -, new, inside, -⟩
      · rw [PartialArray.held, kept]
        exact (step.spreads.trans landed.spreads).mem
          (ready.tidy.inside (.data other) ((PartialArray.holds_data_congr kept).mp holds))
      · rw [PartialArray.held, new]
        exact inside
  · intro spot here
    rw [same]
    exact (landed.taken _).mpr (.inr ⟨spot, settled spot here, rfl⟩)
  · intro spot other here equal
    have holds := settled spot here
    rw [same] at equal
    rcases spot.index_or_data with index | ⟨one, rfl⟩
    · exact fit₁.apart spot other index holds equal
    rcases other.index_or_data with index | ⟨two, rfl⟩
    · have there : array₁.Holds draft₁.inode other := by
        rw [PartialArray.Holds, ← equal]
        exact holds
      exact (fit₁.apart other (.data one) index there equal.symm).symm
    -- of two places of data one may be the new one, where the map led nowhere before
    have away := ready.fit.held_ne gave
    rcases landed.point one with kept | ⟨rfl, -, new, -⟩ <;>
      rcases landed.point two with kept' | ⟨rfl, -, new', -⟩
    · have before : array.Holds draft.inode (.data one) := (PartialArray.holds_data_congr kept).mp holds
      exact ready.tidy.apart _ _ before (kept.symm.trans (equal.trans kept'))
    · exact absurd (kept.symm.trans (equal.trans new')) (away (.data one))
    · exact absurd (kept'.symm.trans (equal.symm.trans new)) (away (.data two))
    · rfl

/-- A block map that is ready is ready behind it, with as many logical sectors as the step left. -/
theorem stays_ready {m' : Nat} (mapped : array₁.Prefix draft₁.inode m') : Ready array' draft' m' := by
  refine ⟨landed.sound, ?_, landed.tidy ready gave step, mapped.congr (landed.held_eq ready gave step)⟩
  rw [landed.limit, landed.spreads.count, step.spreads.count]
  exact ready.limit

end Landed

/-! ### The next place -/

/-- A sector entered at the next place makes the block map one sector longer. -/
theorem Entered.mapped (mapped : array.Prefix draft.inode m) (room : m < maxFileSectors)
    (allocated : sector.isAllocated = true)
    (entered : Entered (.ofSectorIndex m) sector array draft array' draft') :
    array'.Prefix draft'.inode (m + 1) := by
  have direct : directCount = 123 := rfl
  have single : singleLimit = 251 := rfl
  have index : indexCount = 128 := rfl
  refine ⟨room, ?_, ?_, ?_, ?_, ?_⟩
  · intro k
    have point := entered.point (.ofSectorIndex k)
    by_cases same : k = m
    · subst same
      rw [if_pos rfl] at point
      have holds : array'.Holds draft'.inode (.data (.ofSectorIndex k)) := by
        rw [PartialArray.Holds, PartialArray.held, point]
        exact allocated
      exact iff_of_true holds (Nat.lt_succ_self k)
    · have apart : Location.ofSectorIndex k ≠ Location.ofSectorIndex m := fun equal =>
        same ((Location.ofSectorIndex_inj room).mp equal.symm).symm
      rw [if_neg apart] at point
      rw [PartialArray.holds_data_congr point, mapped.data]
      omega
  · constructor
    · intro holds
      rcases entered.step.fresh .single trivial holds with before | ⟨onPath, -⟩
      · have := mapped.single.mp before
        omega
      · have := Spot.onPath_single.mp onPath
        omega
    · intro reached
      by_cases before : directCount < m
      · exact entered.step.holds trivial (mapped.single.mpr before)
      · exact entered.path .single (Spot.onPath_single.mpr (by omega))
  · intro holds
    rcases entered.step.fresh .outer trivial holds with before | ⟨onPath, -⟩
    · have := mapped.outer before
      omega
    · have := Spot.onPath_outer.mp onPath
      omega
  · intro reached
    exact entered.path .outer (Spot.onPath_outer.mpr (by omega))
  · intro q
    constructor
    · intro holds
      rcases entered.step.fresh (.inner q) trivial holds with before | ⟨onPath, -⟩
      · have := (mapped.inner q).mp before
        omega
      · have := Spot.onPath_inner.mp onPath
        rw [index] at *
        omega
    · intro reached
      by_cases before : singleLimit + q * indexCount < m
      · exact entered.step.holds trivial ((mapped.inner q).mpr before)
      · refine entered.path (.inner q) (Spot.onPath_inner.mpr ?_)
        rw [index] at *
        omega

/-- A sector that could not be entered leaves the block map as long as it was. -/
theorem Stuck.mapped {failure : Failure} (mapped : array.Prefix draft.inode m)
    (stuck : Stuck (.ofSectorIndex m) array draft failure array' draft') :
    array'.Prefix draft'.inode m := by
  have index : ∀ spot : Spot, spot.IsIndex → spot ≠ .outer →
      (array'.Holds draft'.inode spot ↔ array.Holds draft.inode spot) := by
    intro spot index other
    refine ⟨fun holds => ?_, stuck.step.holds index⟩
    exact (stuck.outer spot index holds).resolve_right other
  refine ⟨mapped.bound, ?_, ?_, ?_, ?_, ?_⟩
  · intro k
    rw [PartialArray.holds_data_congr (stuck.same _), mapped.data]
  · rw [index .single trivial (by simp), mapped.single]
  · intro holds
    rcases stuck.step.fresh .outer trivial holds with before | ⟨onPath, -⟩
    · exact mapped.outer before
    · exact (Spot.onPath_outer.mp onPath).1
  · intro past
    exact stuck.step.holds trivial (mapped.outer' past)
  · intro q
    rw [index (.inner q) trivial (by simp), mapped.inner]

/-! ### Counting -/

end Draft

/-- Data sectors and index blocks of a file with `data` data sectors. -/
def sectorsFor (data : Nat) : Nat :=
  data + (if data > directCount then 1 else 0) +
    if data > singleLimit then 1 + (data - singleLimit + (indexCount - 1)) / indexCount else 0

theorem totalSectors_eq (length : Nat) : totalSectors length = sectorsFor (dataSectors length) := rfl

theorem sectorsFor_mono {a b : Nat} (le : a ≤ b) : sectorsFor a ≤ sectorsFor b := by
  have index : indexCount = 128 := rfl
  simp only [sectorsFor, index]
  split_ifs <;> omega

namespace PartialArray

variable {array : PartialArray} {inode : DiskInode} {m : Nat}

/-- Data sectors and index blocks of a block map with `m` data sectors. -/
def blocks (array : PartialArray) (inode : DiskInode) (m : Nat) : Nat :=
  m + (if directCount < m then 1 else 0) + (if array.Holds inode .outer then 1 else 0) +
    (m - singleLimit + (indexCount - 1)) / indexCount

theorem blocks_eq (outer : array.Holds inode .outer ↔ singleLimit < m) :
    array.blocks inode m = sectorsFor m := by
  have single : singleLimit = 251 := rfl
  have index : indexCount = 128 := rfl
  simp only [blocks, sectorsFor, outer, gt_iff_lt]
  by_cases past : singleLimit < m
  · simp only [past, if_true]
    omega
  · simp only [past, if_false]
    rw [index]
    omega

/-- The next sector costs itself and the index blocks that are missing. -/
theorem blocks_succ (mapped : array.Prefix inode m) (room : m < maxFileSectors) :
    array.blocks inode m + 1 + Draft.missing array inode (.ofSectorIndex m) = sectorsFor (m + 1) := by
  have direct : directCount = 123 := rfl
  have single : singleLimit = 251 := rfl
  have index : indexCount = 128 := rfl
  have noOuter : m < singleLimit → ¬array.Holds inode .outer := fun low holds => by
    have := mapped.outer holds
    omega
  rcases Location.tier m with ⟨low, there⟩ | ⟨past, low, there⟩ | ⟨past, low, there⟩ | ⟨past, there⟩
  · simp only [there, Draft.missing, blocks, sectorsFor, noOuter (by omega), if_false, index]
    split_ifs <;> omega
  · simp only [there, Draft.missing, blocks, sectorsFor, noOuter low, mapped.single, if_false, index]
    split_ifs <;> omega
  · have outer : singleLimit < m → array.Holds inode .outer := mapped.outer'
    simp only [there, Draft.missing, blocks, sectorsFor, mapped.inner, index]
    split_ifs <;> omega
  · omega

end PartialArray

namespace Draft

variable {A : Type} [Allocator A] [LawfulAllocator A] {array array' : PartialArray}
  {draft draft' : Draft A} {place : Location} {sector : SectorId} {m : Nat}

open LawfulAllocator (Sound limit Taken left Gave Refused)

theorem locate_start (k : Nat) : locate (k * sectorSize) = .ofSectorIndex k := by
  rw [locate, Nat.mul_div_cancel _ (by decide)]

theorem Entered.holds_outer_iff (mapped : array.Prefix draft.inode m) (room : m < maxFileSectors)
    (entered : Entered (.ofSectorIndex m) sector array draft array' draft') :
    array'.Holds draft'.inode .outer ↔ singleLimit < m + 1 := by
  constructor
  · intro holds
    rcases entered.step.fresh .outer trivial holds with before | ⟨onPath, -⟩
    · exact Nat.lt_succ_of_le (mapped.outer before)
    · exact Nat.lt_succ_of_le (Spot.onPath_outer.mp onPath).1
  · intro past
    exact entered.path .outer (Spot.onPath_outer.mpr ⟨Nat.le_of_lt_succ past, room⟩)

/-- A sector that was entered has landed once it is filled with zeros. -/
theorem Landed.of_entered (ready : Ready array draft m) {space₁ : A} {array₁ : PartialArray}
    {draft₁ : Draft A} (gave : Gave draft.space sector space₁)
    (absent : ¬array.Holds draft.inode (.data (.ofSectorIndex m))) (has : array₁.Has sector)
    (entered : Entered (.ofSectorIndex m) sector array ⟨draft.inode, space₁⟩ array₁ draft₁) :
    Landed (.ofSectorIndex m) sector array draft array₁ draft₁ (array₁.set sector zeroSector) draft₁ := by
  refine ⟨.set has, rfl, entered.step.sound, entered.step.limit.trans gave.limit,
    fun other apart => PartialArray.get_set_ne has apart, ?_, ?_, ?_⟩
  · intro other
    rw [entered.step.taken, gave.taken]
    constructor
    · rintro ((rfl | taken) | ⟨spot, -, holds, rfl⟩)
      · have there := entered.point (.ofSectorIndex m)
        rw [if_pos rfl] at there
        refine .inr ⟨.data (.ofSectorIndex m), ?_, there⟩
        rw [PartialArray.Holds, PartialArray.held, there]
        exact gave.allocated
      · exact .inl taken
      · exact .inr ⟨spot, holds, rfl⟩
    · rintro (taken | ⟨spot, holds, rfl⟩)
      · exact .inl (.inr taken)
      rcases spot.index_or_data with index | ⟨place, rfl⟩
      · exact .inr ⟨spot, index, holds, rfl⟩
      · have point := entered.point place
        split at point
        · exact .inl (.inl point)
        · have before := (PartialArray.holds_data_congr point).mp holds
          refine .inl (.inr ?_)
          rw [PartialArray.held, point]
          exact ready.tidy.taken _ before
  · intro other
    have point := entered.point other
    split at point
    · rename_i same
      exact .inr ⟨same, absent, point, PartialArray.mem_set_self has, PartialArray.get_set_self has⟩
    · exact .inl point
  · exact fun free => absurd ((entered.step.taken _).mpr (.inl ((gave.taken _).mpr (.inl rfl)))) free

/-- A sector that could not be entered has landed once it is given back. -/
theorem Landed.of_stuck (ready : Ready array draft m) {space₁ : A} {array₁ : PartialArray}
    {draft₁ : Draft A} {failure : Failure} (gave : Gave draft.space sector space₁)
    (stuck : Stuck (.ofSectorIndex m) array ⟨draft.inode, space₁⟩ failure array₁ draft₁)
    (same : draft'.inode = draft₁.inode) (sound : Sound draft'.space)
    (limit : LawfulAllocator.limit draft'.space = LawfulAllocator.limit draft₁.space)
    (taken : ∀ other, Taken draft'.space other ↔ other ≠ sector ∧ Taken draft₁.space other) :
    Landed (.ofSectorIndex m) sector array draft array₁ draft₁ array₁ draft' := by
  have step := stuck.step
  refine ⟨.refl _, same, sound, limit.trans (step.limit.trans gave.limit), fun _ _ => rfl, ?_,
    fun other => .inl (stuck.same other), fun _ => rfl⟩
  intro other
  rw [taken, step.taken, gave.taken]
  constructor
  · rintro ⟨apart, (rfl | before) | ⟨spot, -, holds, rfl⟩⟩
    · exact absurd rfl apart
    · exact .inl before
    · exact .inr ⟨spot, holds, rfl⟩
  · rintro (before | ⟨spot, holds, rfl⟩)
    · exact ⟨fun same => gave.free (same ▸ before), .inl (.inr before)⟩
    rcases spot.index_or_data with index | ⟨place, rfl⟩
    · refine ⟨?_, .inr ⟨spot, index, holds, rfl⟩⟩
      intro same
      rcases step.fresh spot index holds with early | ⟨-, -, free⟩
      · have there := ready.tidy.taken spot early
        rw [← step.kept spot index early, same] at there
        exact gave.free there
      · exact free ((gave.taken _).mpr (.inl same))
    · have early := (PartialArray.holds_data_congr (stuck.same place)).mp holds
      have there := ready.tidy.taken _ early
      rw [PartialArray.held, stuck.same place]
      exact ⟨fun same => gave.free (same ▸ there), .inl (.inr there)⟩

/-- A sector that could not be entered is given back, and the failure is told. -/
theorem giveBack_ensures {space₁ : A} {array₁ : PartialArray} {draft₁ : Draft A} {failure : Failure}
    (gave : Gave draft.space sector space₁)
    (stuck : Stuck place array ⟨draft.inode, space₁⟩ failure array₁ draft₁) (event : Event) :
    (do giveBack sector
        SectorM.emit event
        SectorM.report .noSpace : SectorM (Draft A) Unit).Ensures array₁ draft₁ (fun _ _ _ => False)
      fun failure array' draft' => failure = .reported .noSpace ∧ array' = array₁ ∧ draft'.inode = draft₁.inode ∧
        Sound draft'.space ∧ LawfulAllocator.limit draft'.space = LawfulAllocator.limit draft₁.space ∧
        ∀ other, Taken draft'.space other ↔ other ≠ sector ∧ Taken draft₁.space other := by
  have taken : Taken draft₁.space sector :=
    (stuck.step.taken _).mpr (.inl ((gave.taken _).mpr (.inl rfl)))
  have below : sector.index < limit draft₁.space := by
    rw [stuck.step.limit]
    show sector.index < limit space₁
    rw [gave.limit]
    exact gave.inside
  rw [SectorM.ensures_bind, giveBack, SectorM.ensures_perform, onSpace, Action.ensures_within]
  refine (LawfulAllocator.release taken below).mono ?_ fun _ _ failed => failed.elim
  rintro _ space₂ ⟨sound, limit, freed⟩
  rw [SectorM.ensures_bind, SectorM.ensures_emit, SectorM.ensures_report]
  exact ⟨rfl, rfl, rfl, sound stuck.step.sound gave.allocated, limit, freed⟩

/-- A sector that is mapped already is passed over. -/
theorem extend_mapped (ready : Ready array draft m) {k : Nat} (mapped : k < m) (old new : Nat)
    {good : Unit → PartialArray → Draft A → Prop} {bad : Failure → PartialArray → Draft A → Prop}
    (next : good () array draft) :
    (extend old new k : SectorM (Draft A) Unit).Ensures array draft good bad := by
  have holds : (array.find draft.inode (.ofSectorIndex k)).isAllocated = true :=
    (ready.mapped.data k).mpr mapped
  unfold extend
  rw [SectorM.ensures_bind, SectorM.ensures_get, SectorM.ensures_bind, locate_start,
    DiskInode.lookup_ensures (Location.inTables_ofSectorIndex k) ready.fit.inside, SectorM.ensures_ite,
    if_pos holds]
  exact SectorM.ensures_pure.mpr next

/-- The next sector is mapped, or there is no room for it. -/
theorem extend_next (ready : Ready array draft m) (room : m < maxFileSectors) (old new : Nat) :
    (extend old new m : SectorM (Draft A) Unit).Ensures array draft
      (fun _ array' draft' => Grown array draft array' draft' ∧ Ready array' draft' (m + 1) ∧
        array'.blocks draft'.inode (m + 1) = sectorsFor (m + 1) ∧
        left draft.space + array.blocks draft.inode m = left draft'.space + sectorsFor (m + 1))
      fun failure array' draft' => failure = .reported .noSpace ∧ Grown array draft array' draft' ∧
        Ready array' draft' m ∧ left draft.space + array.blocks draft.inode m < sectorsFor (m + 1) := by
  have absent : ¬(array.find draft.inode (.ofSectorIndex m)).isAllocated = true := fun holds =>
    Nat.lt_irrefl m ((ready.mapped.data m).mp holds)
  have cost := PartialArray.blocks_succ ready.mapped room
  unfold extend
  rw [SectorM.ensures_bind, SectorM.ensures_get, SectorM.ensures_bind, locate_start,
    DiskInode.lookup_ensures (Location.inTables_ofSectorIndex m) ready.fit.inside, SectorM.ensures_ite,
    if_neg absent, SectorM.ensures_bind]
  refine (request_ensures ready.sound).mono ?_ fun _ _ _ failed => failed.elim
  rintro given array₀ ⟨inode, space₁⟩ ⟨rfl, rfl, answer⟩
  cases given with
  | none =>
      have refused : Refused draft.space space₁ := answer
      have grown : Grown array₀ draft array₀ ⟨draft.inode, space₁⟩ :=
        .refl ready rfl refused.limit refused.taken
      rw [SectorM.ensures_bind, SectorM.ensures_emit, SectorM.ensures_report]
      refine ⟨rfl, grown, ?_, ?_⟩
      · exact ⟨refused.sound, by rw [refused.limit]; exact ready.limit,
          ready.tidy.mono fun t taken => (refused.taken t).mpr taken, ready.mapped⟩
      · rw [refused.spent]
        omega
  | some sector =>
      have gave : Gave draft.space sector space₁ := answer
      have has : array₀.Has sector := Nat.lt_of_lt_of_le gave.inside ready.limit
      have known : Location.ofSectorIndex m ≠ .outOfRange := fun equal =>
        Nat.not_le.mpr room (Location.ofSectorIndex_eq_outOfRange_iff.mp equal)
      have mapped : array₀.Prefix (⟨draft.inode, space₁⟩ : Draft A).inode m := ready.mapped
      rw [SectorM.ensures_bind, SectorM.ensures_attempt]
      refine (register_ensures (ready.fit_gave gave) (Location.inTables_ofSectorIndex m) known
        sector).mono ?_ ?_
      · rintro _ array₁ draft₁ entered
        have has₁ : array₁.Has sector := entered.step.spreads.has.mpr has
        have landed := Landed.of_entered ready gave absent has₁ entered
        have longer := landed.stays_ready ready gave entered.step (entered.mapped mapped room gave.allocated)
        have outer : (array₁.set sector zeroSector).Holds draft₁.inode .outer ↔ singleLimit < m + 1 :=
          (PartialArray.holds_congr (congrFun (landed.held_eq ready gave entered.step) .outer)).trans
            (entered.holds_outer_iff mapped room)
        refine SectorM.ensures_writeAt.mpr ⟨zeroSector.fits_whole, PartialArray.takes_block.mpr has₁, ?_⟩
        rw [Block.splice_whole]
        refine ⟨landed.grown ready gave entered.step, longer, PartialArray.blocks_eq outer, ?_⟩
        have one := gave.left
        have others : left space₁ = left draft₁.space + missing array₀ draft.inode (.ofSectorIndex m) := entered.left
        omega
      · rintro failure array₁ draft₁ stuck
        obtain rfl := stuck.failure
        refine (giveBack_ensures gave stuck _).mono (fun _ _ _ never => never.elim) ?_
        rintro failure array' draft' ⟨rfl, rfl, same, sound, limit, freed⟩
        have landed := Landed.of_stuck ready gave stuck same sound limit freed
        refine ⟨rfl, landed.grown ready gave stuck.step, landed.stays_ready ready gave stuck.step (stuck.mapped mapped), ?_⟩
        have one := gave.left
        have few : left space₁ < missing array₀ draft.inode (.ofSectorIndex m) := stuck.short
        omega

/-! ## The whole -/

/-- There is room for all that a file of `n` data sectors lacks. -/
def Room (array : PartialArray) (draft : Draft A) (n : Nat) : Prop :=
  ∀ m, array.Prefix draft.inode m → m < n →
    sectorsFor n ≤ left draft.space + array.blocks draft.inode m

theorem room_iff (mapped : array.Prefix draft.inode m) {n : Nat} (shorter : m < n) :
    Room array draft n ↔ sectorsFor n ≤ left draft.space + array.blocks draft.inode m := by
  refine ⟨fun room => room m mapped shorter, ?_⟩
  intro enough m' mapped' _
  rw [← mapped.unique mapped']
  exact enough

/-- The sectors from one that is mapped or next are given their places, as far as there is room. -/
theorem extendAll_ensures (ready : Ready array draft m) {k count : Nat} (reached : k ≤ m)
    (addressed : k + count ≤ maxFileSectors) (old new : Nat) :
    ((List.range' k count).forM (extend old new) : SectorM (Draft A) PUnit).Ensures array draft
      (fun _ array' draft' => Grown array draft array' draft' ∧
        Ready array' draft' (max m (k + count)) ∧
        (k + count ≤ m → array' = array ∧ draft' = draft) ∧
        (m < k + count →
          array'.blocks draft'.inode (k + count) = sectorsFor (k + count) ∧
          left draft.space + array.blocks draft.inode m =
            left draft'.space + sectorsFor (k + count)))
      fun failure array' draft' => failure = .reported .noSpace ∧ Grown array draft array' draft' ∧
        (∃ m', m ≤ m' ∧ Ready array' draft' m') ∧ m < k + count ∧
        left draft.space + array.blocks draft.inode m < sectorsFor (k + count) := by
  induction count generalizing array draft m k with
  | zero =>
      refine SectorM.ensures_pure.mpr ⟨.refl ready rfl rfl fun _ => Iff.rfl, ?_, ?_, ?_⟩
      · rw [Nat.add_zero, Nat.max_eq_left reached]
        exact ready
      · exact fun _ => ⟨rfl, rfl⟩
      · intro shorter
        omega
  | succ count ih =>
      have next : k + (count + 1) = k + 1 + count := by omega
      rw [List.range'_succ, SectorM.ensures_forM_cons, next]
      by_cases mapped : k < m
      · exact extend_mapped ready mapped old new (ih ready mapped (by omega))
      obtain rfl : k = m := by omega
      refine (extend_next ready (by omega) old new).mono ?_ ?_
      · rintro _ array₁ draft₁ ⟨grown, ready₁, blocks, count₁⟩
        refine (ih ready₁ (Nat.le_refl _) (by omega)).mono ?_ ?_
        · rintro _ array' draft' ⟨more, ready', still, spent⟩
          refine ⟨grown.trans ready₁ more, ?_, ?_, ?_⟩
          · have longest : max k (k + 1 + count) = max (k + 1) (k + 1 + count) := by omega
            rw [longest]
            exact ready'
          · intro longer
            omega
          · intro _
            by_cases last : k + 1 < k + 1 + count
            · obtain ⟨blocks', count'⟩ := spent last
              exact ⟨blocks', by omega⟩
            · obtain rfl : count = 0 := by omega
              obtain ⟨rfl, rfl⟩ := still (Nat.le_refl _)
              exact ⟨blocks, count₁⟩
        · rintro failure array' draft' ⟨rfl, more, ⟨m', longer, ready'⟩, shorter, few⟩
          exact ⟨rfl, grown.trans ready₁ more, ⟨m', by omega, ready'⟩, by omega, by omega⟩
      · rintro failure array' draft' ⟨rfl, grown, ready', few⟩
        have more : sectorsFor (k + 1) ≤ sectorsFor (k + 1 + count) := sectorsFor_mono (by omega)
        exact ⟨rfl, grown, ⟨k, Nat.le_refl _, ready'⟩, by omega, by omega⟩

omit [LawfulAllocator A] in
theorem grow_of_le {new : Nat} (enough : new ≤ draft.inode.size)
    {good : Unit → PartialArray → Draft A → Prop} {bad : Failure → PartialArray → Draft A → Prop}
    (next : good () array draft) : (grow new : SectorM (Draft A) Unit).Ensures array draft good bad := by
  unfold grow
  rw [SectorM.ensures_bind, SectorM.ensures_get]
  dsimp only
  rw [SectorM.ensures_ite, if_pos enough]
  exact SectorM.ensures_pure.mpr next

theorem dataSectors_mono {a b : Nat} (le : a ≤ b) : dataSectors a ≤ dataSectors b :=
  Nat.div_le_div_right (by omega)

/-- A length that can be addressed is kept whole. -/
theorem size_of_addressed {inode : DiskInode} {new : Nat} (addressed : dataSectors new ≤ maxFileSectors) :
    ({ inode with length := UInt32.ofNat new } : DiskInode).size = new := by
  have most : maxFileSectors = 16635 := rfl
  have size : sectorSize = 512 := rfl
  rw [dataSectors, most, size] at addressed
  show (UInt32.ofNat new).toNat = new
  rw [UInt32.toNat_ofNat']
  exact Nat.mod_eq_of_lt (by omega)

/-- **Growing.** It succeeds exactly when the length can be addressed and there is room for it. Where
it fails, what was mapped until then stays mapped, and the length is what it was. -/
theorem grow_ensures (ready : Ready array draft m) (covered : dataSectors draft.inode.size ≤ m)
    {new : Nat} (longer : draft.inode.size < new) :
    (grow new : SectorM (Draft A) Unit).Ensures array draft
      (fun _ array' draft' => dataSectors new ≤ maxFileSectors ∧ Room array draft (dataSectors new) ∧
        ∃ draft₁, Grown array draft array' draft₁ ∧ Ready array' draft₁ (max m (dataSectors new)) ∧
          draft' = ⟨{ draft₁.inode with length := UInt32.ofNat new }, draft₁.space⟩ ∧
          (dataSectors new ≤ m → array' = array ∧ draft₁ = draft) ∧
          (m < dataSectors new → array'.blocks draft₁.inode (dataSectors new) = sectorsFor (dataSectors new) ∧
            left draft.space + array.blocks draft.inode m =
              left draft'.space + sectorsFor (dataSectors new)))
      fun failure array' draft' => Grown array draft array' draft' ∧
        (∃ m', m ≤ m' ∧ Ready array' draft' m') ∧
        ((failure = .reported .outOfRange ∧ maxFileSectors < dataSectors new ∧ array' = array ∧
            draft' = draft) ∨
          (failure = .reported .noSpace ∧ dataSectors new ≤ maxFileSectors ∧
            ¬Room array draft (dataSectors new))) := by
  have more : dataSectors draft.inode.size ≤ dataSectors new := dataSectors_mono (Nat.le_of_lt longer)
  have whole : dataSectors draft.inode.size + (dataSectors new - dataSectors draft.inode.size) =
      dataSectors new := by omega
  unfold grow
  rw [SectorM.ensures_bind, SectorM.ensures_get]
  dsimp only
  rw [SectorM.ensures_ite, if_neg (by omega), SectorM.ensures_ite]
  split
  · rename_i beyond
    rw [SectorM.ensures_bind, SectorM.ensures_emit, SectorM.ensures_bind, SectorM.ensures_report]
    exact ⟨.refl ready rfl rfl fun _ => Iff.rfl, ⟨m, Nat.le_refl m, ready⟩,
      .inl ⟨rfl, beyond, rfl, rfl⟩⟩
  · rename_i addressed
    rw [SectorM.ensures_bind]
    refine (extendAll_ensures ready covered (by omega) draft.inode.size new).mono ?_ ?_
    · rintro _ array' draft' ⟨grown, ready', still, spent⟩
      rw [whole] at ready' still spent
      rw [SectorM.ensures_bind, SectorM.ensures_emit, change, SectorM.ensures_modify]
      refine ⟨by omega, ?_, draft', grown, ready', rfl, still, spent⟩
      intro m' mapped' shorter
      rw [← ready.mapped.unique mapped'] at *
      have := (spent shorter).2
      omega
    · rintro failure array' draft' ⟨rfl, grown, longest, shorter, few⟩
      rw [whole] at shorter few
      refine ⟨grown, longest, .inr ⟨rfl, by omega, ?_⟩⟩
      rw [room_iff ready.mapped shorter]
      omega

end Draft

end InodeVolume
