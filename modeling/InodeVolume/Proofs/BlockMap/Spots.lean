import InodeVolume.Proofs.Layout.Stored

/-!
# The sectors of a block map

A block map leads to sectors of data and to index blocks; a `Spot` names one of them, and
`array.held inode` tells which sector is there.

* **spots** — `held_congr`: what a block map leads to depends on its index blocks alone;
* **order** — `Tidy` says that no sector is at two spots, and `Prefix` that the first `m` logical
  sectors are mapped, with the index blocks that takes and no more;
* **looking up** — `lookup_ensures`: a look-up gives the sector at the place and touches nothing.
-/

namespace InodeVolume

/-! ## Places by number -/

namespace Location

/-- The indices of a place are within their tables. -/
def InTables : Location → Prop
  | direct i => i < directCount
  | indirect i => i < indexCount
  | doubleIndirect q i => q < indexCount ∧ i < indexCount
  | outOfRange => True

theorem inTables_ofSectorIndex (k : Nat) : (ofSectorIndex k).InTables := by
  unfold ofSectorIndex
  split
  · assumption
  split
  · rename_i past low
    show k - directCount < indexCount
    simp only [singleLimit] at low
    omega
  split
  · rename_i past outside low
    refine ⟨?_, Nat.mod_lt _ (by decide)⟩
    refine Nat.div_lt_of_lt_mul ?_
    simp only [maxFileSectors] at low
    omega
  · trivial

/-- The number of a place is the place's own. -/
theorem ofSectorIndex_eq {place : Location} (inTables : place.InTables) {k : Nat}
    (number : place.sectorIndex? = some k) : ofSectorIndex k = place ∧ k < maxFileSectors := by
  have direct : directCount = 123 := rfl
  have single : singleLimit = 251 := rfl
  have index : indexCount = 128 := rfl
  have most : maxFileSectors = 16635 := rfl
  cases place with
  | direct i =>
      obtain rfl := Option.some.inj number
      have low : i < directCount := inTables
      exact ⟨if_pos low, by omega⟩
  | indirect i =>
      obtain rfl := Option.some.inj number
      have low : i < indexCount := inTables
      refine ⟨?_, by omega⟩
      rw [ofSectorIndex, if_neg (by omega), if_pos (by omega), Nat.add_sub_cancel_left]
  | doubleIndirect q i =>
      obtain rfl := Option.some.inj number
      obtain ⟨lowOuter, lowInner⟩ := inTables
      rw [index] at lowOuter lowInner
      have whole : singleLimit + q * indexCount + i - singleLimit = q * 128 + i := by
        rw [index]
        omega
      have outer : (q * 128 + i) / indexCount = q := by
        rw [index]
        omega
      have inner : (q * 128 + i) % indexCount = i := by
        rw [index]
        omega
      refine ⟨?_, by omega⟩
      rw [ofSectorIndex, if_neg (by omega), if_neg (by omega), if_pos (by omega), whole, outer, inner]
  | outOfRange => cases number

theorem sectorIndex?_ofSectorIndex {k : Nat} (small : k < maxFileSectors) :
    (ofSectorIndex k).sectorIndex? = some k := by
  have direct : directCount = 123 := rfl
  have single : singleLimit = 251 := rfl
  have index : indexCount = 128 := rfl
  unfold ofSectorIndex
  split
  · rfl
  split
  · have whole : directCount + (k - directCount) = k := by omega
    exact congrArg some whole
  · have whole : singleLimit + (k - singleLimit) / indexCount * indexCount + (k - singleLimit) % indexCount
        = k := by
      rw [index]
      omega
    exact congrArg some whole

theorem ofSectorIndex_injective {j k : Nat} (small : j < maxFileSectors) (small' : k < maxFileSectors)
    (same : ofSectorIndex j = ofSectorIndex k) : j = k := by
  have number := sectorIndex?_ofSectorIndex small
  rw [same, sectorIndex?_ofSectorIndex small'] at number
  exact (Option.some.inj number).symm

theorem ofSectorIndex_of_ge {k : Nat} (past : maxFileSectors ≤ k) : ofSectorIndex k = outOfRange := by
  have direct : directCount = 123 := rfl
  have single : singleLimit = 251 := rfl
  have most : maxFileSectors = 16635 := rfl
  rw [ofSectorIndex, if_neg (by omega), if_neg (by omega), if_neg (by omega)]

theorem ofSectorIndex_eq_outOfRange_iff {k : Nat} : ofSectorIndex k = outOfRange ↔ maxFileSectors ≤ k := by
  refine ⟨fun equal => ?_, ofSectorIndex_of_ge⟩
  by_contra small
  have number := sectorIndex?_ofSectorIndex (Nat.lt_of_not_le small)
  rw [equal] at number
  cases number

theorem ofSectorIndex_inj {j k : Nat} (small : j < maxFileSectors) : ofSectorIndex j = ofSectorIndex k ↔ j = k := by
  refine ⟨fun equal => ofSectorIndex_injective small ?_ equal, congrArg _⟩
  rw [← Nat.not_le, ← ofSectorIndex_eq_outOfRange_iff, ← equal, ofSectorIndex_eq_outOfRange_iff]
  exact Nat.not_le.mpr small

theorem exists_sectorIndex? {place : Location} (known : place ≠ .outOfRange) : ∃ k, place.sectorIndex? = some k := by
  cases place with
  | direct _ | indirect _ | doubleIndirect _ _ => exact ⟨_, rfl⟩
  | outOfRange => exact absurd rfl known

/-- The tiers of a block map, by number. -/
theorem tier (k : Nat) :
    (k < directCount ∧ ofSectorIndex k = .direct k) ∨
    (directCount ≤ k ∧ k < singleLimit ∧ ofSectorIndex k = .indirect (k - directCount)) ∨
    (singleLimit ≤ k ∧ k < maxFileSectors ∧ ofSectorIndex k =
      .doubleIndirect ((k - singleLimit) / indexCount) ((k - singleLimit) % indexCount)) ∨
    (maxFileSectors ≤ k ∧ ofSectorIndex k = .outOfRange) := by
  unfold ofSectorIndex
  split
  · rename_i low
    exact .inl ⟨low, rfl⟩
  split
  · rename_i past low
    exact .inr (.inl ⟨by omega, low, rfl⟩)
  split
  · rename_i past low
    exact .inr (.inr (.inl ⟨by omega, low, rfl⟩))
  · rename_i past
    exact .inr (.inr (.inr ⟨by omega, rfl⟩))

end Location

/-- All bytes of a logical sector have its place. -/
theorem locate_add {k r : Nat} (low : r < sectorSize) : locate (k * sectorSize + r) = .ofSectorIndex k := by
  rw [locate, Nat.add_comm, Nat.add_mul_div_right _ _ (by decide), Nat.div_eq_of_lt low, Nat.zero_add]

/-! ## Spots -/

/-- What a block map leads to: data at a place, the index block, the outer index block, and the
index blocks that the outer one names. -/
inductive Spot where
  | data (place : Location)
  | single
  | outer
  | inner (q : Nat)
deriving DecidableEq

namespace Spot

/-- Whether an index block is there. -/
def IsIndex : Spot → Prop
  | data _ => False
  | single | outer | inner _ => True

/-- A spot is an index block's, or that of data. -/
theorem index_or_data (spot : Spot) : spot.IsIndex ∨ ∃ place, spot = .data place := by
  cases spot with
  | data place => exact .inr ⟨place, rfl⟩
  | single | outer | inner _ => exact .inl trivial

/-- The index blocks that lead to a place. -/
def OnPath (place : Location) : Spot → Prop
  | single => ∃ i, place = .indirect i
  | outer => ∃ q i, place = .doubleIndirect q i
  | inner q => ∃ i, place = .doubleIndirect q i
  | data _ => False

theorem IsIndex.of_onPath {spot : Spot} {place : Location} (onPath : spot.OnPath place) :
    spot.IsIndex := by
  cases spot with
  | data _ => exact onPath
  | single | outer | inner _ => trivial

/-- No index block leads to a place in the inode itself. -/
theorem not_onPath_direct {spot : Spot} {i : Nat} : ¬spot.OnPath (.direct i) := by
  cases spot <;> simp [OnPath]

/-- The index block is all that leads to a place in it. -/
theorem onPath_indirect_iff {spot : Spot} {i : Nat} : spot.OnPath (.indirect i) ↔ spot = .single := by
  cases spot <;> simp [OnPath]

/-- Two index blocks lead to a place behind the outer one. -/
theorem onPath_doubleIndirect_iff {spot : Spot} {q i : Nat} :
    spot.OnPath (.doubleIndirect q i) ↔ spot = .outer ∨ spot = .inner q := by
  cases spot with
  | inner other => simp [OnPath, eq_comm]
  | data _ | single | outer => simp [OnPath]

theorem onPath_single {k : Nat} :
    OnPath (.ofSectorIndex k) .single ↔ directCount ≤ k ∧ k < singleLimit := by
  have direct : directCount = 123 := rfl
  have single : singleLimit = 251 := rfl
  have most : maxFileSectors = 16635 := rfl
  rcases Location.tier k with ⟨low, there⟩ | ⟨past, low, there⟩ | ⟨past, low, there⟩ | ⟨past, there⟩ <;>
    rw [there] <;> simp only [OnPath, Location.indirect.injEq, exists_eq', reduceCtorEq, exists_false,
      false_iff, true_iff] <;> omega

theorem onPath_outer {k : Nat} :
    OnPath (.ofSectorIndex k) .outer ↔ singleLimit ≤ k ∧ k < maxFileSectors := by
  have direct : directCount = 123 := rfl
  have single : singleLimit = 251 := rfl
  have most : maxFileSectors = 16635 := rfl
  rcases Location.tier k with ⟨low, there⟩ | ⟨past, low, there⟩ | ⟨past, low, there⟩ | ⟨past, there⟩ <;>
    rw [there] <;> simp only [OnPath, Location.doubleIndirect.injEq, exists_and_left, exists_eq',
      and_true, reduceCtorEq, exists_false, false_iff, true_iff] <;> omega

theorem onPath_inner {k q : Nat} : OnPath (.ofSectorIndex k) (.inner q) ↔
    singleLimit ≤ k ∧ k < maxFileSectors ∧ (k - singleLimit) / indexCount = q := by
  have direct : directCount = 123 := rfl
  have single : singleLimit = 251 := rfl
  have most : maxFileSectors = 16635 := rfl
  rcases Location.tier k with ⟨low, there⟩ | ⟨past, low, there⟩ | ⟨past, low, there⟩ | ⟨past, there⟩ <;>
    rw [there] <;> simp only [OnPath, Location.doubleIndirect.injEq, exists_and_left, exists_eq',
      and_true, reduceCtorEq, exists_false, false_iff] <;> omega

end Spot

namespace PartialArray

variable {array after : PartialArray} {inode : DiskInode} {spot : Spot}

/-- The sector at a spot. -/
def held (array : PartialArray) (inode : DiskInode) : Spot → SectorId
  | .data place => array.find inode place
  | .single => inode.indirect
  | .outer => inode.doubleIndirect
  | .inner q => array.entry inode.doubleIndirect q

/-- There is a sector at the spot. -/
def Holds (array : PartialArray) (inode : DiskInode) (spot : Spot) : Prop :=
  (array.held inode spot).isAllocated = true

instance : Decidable (array.Holds inode spot) := inferInstanceAs (Decidable (_ = true))

/-- What is held in the place of a missing sector is missing, too. -/
theorem holds_congr {other : DiskInode} (same : after.held other spot = array.held inode spot) :
    after.Holds other spot ↔ array.Holds inode spot := by
  rw [Holds, Holds, same]

theorem holds_data_congr {other : DiskInode} {place : Location}
    (same : after.find other place = array.find inode place) :
    after.Holds other (.data place) ↔ array.Holds inode (.data place) :=
  holds_congr same

/-- A block map leads to places within its tables. -/
theorem inTables_of_holds {place : Location} (holds : array.Holds inode (.data place)) :
    place.InTables ∧ place ≠ .outOfRange := by
  cases place with
  | direct i =>
      refine ⟨?_, by simp⟩
      by_contra past
      have missing : inode.direct[i]? = none := Vector.getElem?_eq_none (Nat.le_of_not_lt past)
      rw [Holds, held, find, missing] at holds
      cases holds
  | indirect i => exact ⟨(lt_of_entry holds).2, by simp⟩
  | doubleIndirect q i =>
      obtain ⟨inner, low⟩ := lt_of_entry holds
      exact ⟨⟨(lt_of_entry inner).2, low⟩, by simp⟩
  | outOfRange => cases holds

/-- The index blocks that lead to a sector are there. -/
theorem holds_of_onPath {place : Location} (holds : array.Holds inode (.data place))
    (onPath : spot.OnPath place) : array.Holds inode spot := by
  cases spot with
  | data _ => exact onPath.elim
  | single =>
      obtain ⟨i, rfl⟩ := onPath
      exact (lt_of_entry holds).1
  | outer =>
      obtain ⟨q, i, rfl⟩ := onPath
      exact (lt_of_entry (lt_of_entry holds).1).1
  | inner q =>
      obtain ⟨i, rfl⟩ := onPath
      exact (lt_of_entry holds).1

/-- What a block map leads to depends on the sectors of its index blocks alone. -/
theorem held_congr (same : ∀ spot : Spot, spot.IsIndex → array.Holds inode spot →
    after.get (array.held inode spot) = array.get (array.held inode spot)) :
    after.held inode = array.held inode := by
  have inner : ∀ q, after.entry inode.doubleIndirect q = array.entry inode.doubleIndirect q :=
    fun q => entry_congr (fun holds => same .outer trivial holds) q
  funext spot
  cases spot with
  | data place =>
      cases place with
      | direct i => rfl
      | indirect i => exact entry_congr (fun holds => same .single trivial holds) i
      | doubleIndirect q i =>
          show after.entry (after.entry inode.doubleIndirect q) i = _
          rw [inner q]
          exact entry_congr (fun holds => same (.inner q) trivial holds) i
      | outOfRange => rfl
  | single => rfl
  | outer => rfl
  | inner q => exact inner q

/-- The length and the flags of an inode do not lead anywhere. -/
theorem held_of_entries {other : DiskInode} (direct : other.direct = inode.direct)
    (indirect : other.indirect = inode.indirect)
    (doubleIndirect : other.doubleIndirect = inode.doubleIndirect) :
    array.held other = array.held inode := by
  funext spot
  cases spot with
  | data place =>
      cases place with
      | direct i => simp only [held, find, direct]
      | indirect i => simp only [held, find, indirect]
      | doubleIndirect q i => simp only [held, find, doubleIndirect]
      | outOfRange => rfl
  | single => exact indirect
  | outer => exact doubleIndirect
  | inner q => simp only [held, doubleIndirect]

/-! ## Order -/

/-- The sectors of a block map are those of the array and are taken, and each is at one spot. -/
structure Tidy (array : PartialArray) (inode : DiskInode) (Taken : SectorId → Prop) : Prop where
  inside : ∀ spot, array.Holds inode spot → array.held inode spot ∈ array
  taken : ∀ spot, array.Holds inode spot → Taken (array.held inode spot)
  apart : ∀ spot other, array.Holds inode spot → array.held inode spot = array.held inode other →
    spot = other

/-- The first `m` logical sectors are mapped and no others, through the index blocks that takes.
The outer index block may have been made before the first sector behind it. -/
structure Prefix (array : PartialArray) (inode : DiskInode) (m : Nat) : Prop where
  bound : m ≤ maxFileSectors
  data : ∀ k, array.Holds inode (.data (.ofSectorIndex k)) ↔ k < m
  single : array.Holds inode .single ↔ directCount < m
  outer : array.Holds inode .outer → singleLimit ≤ m
  outer' : singleLimit < m → array.Holds inode .outer
  inner : ∀ q, array.Holds inode (.inner q) ↔ singleLimit + q * indexCount < m

/-- Only one number of sectors fits. -/
theorem Prefix.unique {m m' : Nat} (here : array.Prefix inode m) (there : array.Prefix inode m') :
    m = m' := by
  have forth : ∀ k, k < m ↔ k < m' := fun k => (here.data k).symm.trans (there.data k)
  have le := (forth m).not.mp (Nat.lt_irrefl m)
  have ge := (forth m').not.mpr (Nat.lt_irrefl m')
  omega

theorem Prefix.congr {m : Nat} {other : DiskInode} (here : array.Prefix inode m)
    (same : after.held other = array.held inode) : after.Prefix other m := by
  have holds : ∀ spot, after.Holds other spot ↔ array.Holds inode spot :=
    fun spot => holds_congr (congrFun same spot)
  exact ⟨here.bound, fun k => (holds _).trans (here.data k), (holds _).trans here.single,
    fun h => here.outer ((holds _).mp h), fun h => (holds _).mpr (here.outer' h),
    fun q => (holds _).trans (here.inner q)⟩

/-- The sectors at the spots must be known still. -/
theorem Tidy.of_held {Taken : SectorId → Prop} {other : DiskInode} (tidy : array.Tidy inode Taken)
    (same : after.held other = array.held inode)
    (inside : ∀ spot, array.Holds inode spot → array.held inode spot ∈ after) : after.Tidy other Taken := by
  have holds : ∀ spot, after.Holds other spot ↔ array.Holds inode spot :=
    fun spot => holds_congr (congrFun same spot)
  refine ⟨?_, ?_, ?_⟩
  · intro spot here
    rw [same]
    exact inside spot ((holds spot).mp here)
  · intro spot here
    rw [same]
    exact tidy.taken spot ((holds spot).mp here)
  · intro spot other here equal
    rw [same] at equal
    exact tidy.apart spot other ((holds spot).mp here) equal

theorem Tidy.congr {Taken : SectorId → Prop} {other : DiskInode} (tidy : array.Tidy inode Taken)
    (same : after.held other = array.held inode) (spreads : array.Spreads after) : after.Tidy other Taken :=
  tidy.of_held same fun spot holds => spreads.mem (tidy.inside spot holds)

theorem Tidy.mono {Taken Taken' : SectorId → Prop} (tidy : array.Tidy inode Taken)
    (more : ∀ sector, Taken sector → Taken' sector) : array.Tidy inode Taken' :=
  ⟨tidy.inside, fun spot holds => more _ (tidy.taken spot holds), tidy.apart⟩

theorem Prefix.holds_iff {m k : Nat} (here : array.Prefix inode m) {place : Location}
    (inTables : place.InTables) (number : place.sectorIndex? = some k) :
    array.Holds inode (.data place) ↔ k < m := by
  rw [← (Location.ofSectorIndex_eq inTables number).1]
  exact here.data k

end PartialArray

/-! ## Looking up -/

namespace DiskInode

variable {σ : Type} {array : PartialArray} {s : σ} {inode : DiskInode}

/-- A look-up gives the sector at the place and changes nothing, if the index blocks on its path can be read. -/
theorem lookup_ensures_of_onPath {place : Location} (inTables : place.InTables)
    (inside : ∀ spot : Spot, spot.OnPath place → array.Holds inode spot → array.held inode spot ∈ array)
    {good : SectorId → PartialArray → σ → Prop} {bad : Failure → PartialArray → σ → Prop} :
    (inode.lookup place : SectorM σ SectorId).Ensures array s good bad ↔
      good (array.find inode place) array s := by
  cases place with
  | direct i =>
      have low : i < directCount := inTables
      simp only [lookup, dif_pos low, SectorM.ensures_pure, PartialArray.find,
        Vector.getElem?_eq_getElem low, Option.getD_some]
  | indirect i =>
      have low : i < indexCount := inTables
      simp only [lookup, SectorM.ensures_ite, SectorM.ensures_pure, PartialArray.find]
      split
      · rename_i holds
        exact IndexBlock.ensures_entry low (inside .single ⟨i, rfl⟩ holds) holds
      · rename_i missing
        rw [PartialArray.entry_of_not_allocated (by simpa using missing)]
  | doubleIndirect q i =>
      obtain ⟨lowOuter, lowInner⟩ := inTables
      simp only [lookup, SectorM.ensures_ite, SectorM.ensures_pure, PartialArray.find]
      split
      · rename_i holds
        have outer : inode.doubleIndirect ∈ array := inside .outer ⟨q, i, rfl⟩ holds
        rw [SectorM.ensures_bind, IndexBlock.ensures_entry lowOuter outer holds, SectorM.ensures_ite]
        split
        · rename_i holdsInner
          exact IndexBlock.ensures_entry lowInner (inside (.inner q) ⟨i, rfl⟩ holdsInner) holdsInner
        · rename_i missing
          rw [PartialArray.entry_of_not_allocated (by simpa using missing), SectorM.ensures_pure]
      · rename_i missing
        have none : array.entry inode.doubleIndirect q = .unmapped :=
          PartialArray.entry_of_not_allocated (by simpa using missing) q
        rw [none, PartialArray.entry_unmapped]
  | outOfRange => simp only [lookup, SectorM.ensures_pure, PartialArray.find]

/-- It does so wherever it goes, if all index blocks of the map can be read. -/
theorem lookup_ensures {place : Location} (inTables : place.InTables)
    (inside : ∀ spot : Spot, spot.IsIndex → array.Holds inode spot → array.held inode spot ∈ array)
    {good : SectorId → PartialArray → σ → Prop} {bad : Failure → PartialArray → σ → Prop} :
    (inode.lookup place : SectorM σ SectorId).Ensures array s good bad ↔
      good (array.find inode place) array s :=
  lookup_ensures_of_onPath inTables fun spot onPath => inside spot (.of_onPath onPath)

end DiskInode

end InodeVolume
