import Mathlib.Tactic.Common
import InodeVolume.Store

/-!
# Arrays of sectors

A `SectorArray` holds all its sectors. A `PartialArray` is what is known of one: it has the same number
of sectors, and tells of some of them what they hold. What a program ensures that reads only what is
known does not depend on the rest.

* **one sector changed** — `get_set` and `mem_set`: a sector that was written is known;
* **knowing more** — `array.Spreads after`: as many sectors, and no less known of them;
* **descriptions** — `array.Describes whole`: what the partial array tells is true of the whole one.
-/

namespace InodeVolume

/-- A patch as long as the block leaves nothing of it. -/
theorem Block.splice_full {n offset : Nat} {patch : Bytes} (block other : Block n)
    (fits : offset + patch.size ≤ n) (full : patch.size = n) :
    block.splice offset patch fits = other.splice offset patch fits := by
  have start : offset = 0 := by omega
  subst start
  apply Block.ext
  show Bytes.splice block.bytes 0 patch = Bytes.splice other.bytes 0 patch
  rw [Bytes.splice_eq_append, Bytes.splice_eq_append, block.size_bytes, other.size_bytes, full, Nat.zero_add,
    ByteArray.extract_same, ByteArray.extract_same, ByteArray.extract_same, ByteArray.extract_same]

@[simp] theorem Block.ofBytes?_bytes {n : Nat} (block : Block n) : ofBytes? block.bytes = some block := by
  simp [ofBytes?, block.size_bytes]

/-! ## Whole arrays -/

attribute [ext] SectorArray

namespace SectorArray

/-- How many sectors there are. -/
def count (array : SectorArray) : Nat := array.sectors.size

instance : Membership SectorId SectorArray := ⟨fun array sector => sector.index < array.count⟩

instance (sector : SectorId) (array : SectorArray) : Decidable (sector ∈ array) :=
  inferInstanceAs (Decidable (sector.index < array.count))

/-- What a sector holds. -/
def get (array : SectorArray) (sector : SectorId) : Sector := array.sectors.getD sector.index default

/-- The array with other contents in one sector. -/
def set (array : SectorArray) (sector : SectorId) (data : Sector) : SectorArray :=
  ⟨array.sectors.setIfInBounds sector.index data⟩

variable {array : SectorArray} {sector other : SectorId} {data : Sector}

theorem mem_iff : sector ∈ array ↔ sector.index < array.count := Iff.rfl

@[simp] theorem count_set : (array.set sector data).count = array.count := by
  simp [count, set]

@[simp] theorem mem_set : other ∈ array.set sector data ↔ other ∈ array := by
  simp [mem_iff]

theorem getElem?_of_mem (inside : sector ∈ array) :
    array.sectors[sector.index]? = some (array.get sector) := by
  have bound : sector.index < array.sectors.size := inside
  simp [get, bound]

/-- Other contents in one sector leave all others as they are. -/
theorem get_set (inside : sector ∈ array) :
    (array.set sector data).get other = if other = sector then data else array.get other := by
  have bound : sector.index < array.sectors.size := inside
  by_cases same : other = sector
  · subst same
    simp [get, set, bound]
  · have apart : sector.index ≠ other.index := fun h => same (SectorId.index_injective h.symm)
    simp [get, set, same, Array.getElem?_setIfInBounds_ne apart]

theorem get_set_self (inside : sector ∈ array) : (array.set sector data).get sector = data := by
  rw [get_set inside, if_pos rfl]

theorem get_set_ne (inside : sector ∈ array) (apart : other ≠ sector) :
    (array.set sector data).get other = array.get other := by
  rw [get_set inside, if_neg apart]

/-- A sector that is laid over itself changes nothing. -/
theorem set_get_self : array.set sector (array.get sector) = array := by
  ext1
  refine Array.ext_getElem? fun k => ?_
  simp only [set, Array.getElem?_setIfInBounds]
  split
  · rename_i same
    split
    · rename_i inside
      subst same
      exact (getElem?_of_mem inside).symm
    · rename_i outside
      subst same
      rw [Array.getElem?_eq_none (Nat.not_lt.mp outside)]
  · rfl

end SectorArray

/-! ## Partial arrays -/

/-- An array of sectors of which some may be unknown. -/
structure PartialArray where
  sectors : Array (Option Sector)

namespace PartialArray

/-- How many sectors there are. -/
def count (array : PartialArray) : Nat := array.sectors.size

/-- There is such a sector, whether or not it is known. -/
def Has (array : PartialArray) (sector : SectorId) : Prop := sector.index < array.count

/-- What the sector at a place holds, where that is known. -/
def known (array : PartialArray) (i : Nat) : Option Sector := array.sectors[i]?.join

/-- The members of a partial array are the sectors that are known. -/
instance : Membership SectorId PartialArray :=
  ⟨fun array sector => (array.known sector.index).isSome = true⟩

instance (sector : SectorId) (array : PartialArray) : Decidable (sector ∈ array) :=
  inferInstanceAs (Decidable (_ = true))

/-- What a sector that is known holds. -/
def get (array : PartialArray) (sector : SectorId) : Sector := (array.known sector.index).getD default

/-- The array with other contents in one sector, which are known then. -/
def set (array : PartialArray) (sector : SectorId) (data : Sector) : PartialArray :=
  ⟨array.sectors.setIfInBounds sector.index (some data)⟩

/-- A write must go to a sector that is known, or fill the sector. -/
def Takes (array : PartialArray) (sector : SectorId) (length : Nat) : Prop :=
  sector ∈ array ∨ length = sectorSize ∧ array.Has sector

variable {array after later : PartialArray} {sector other : SectorId} {data : Sector} {i : Nat}

theorem mem_iff : sector ∈ array ↔ (array.known sector.index).isSome = true := Iff.rfl

theorem lt_of_known (known : (array.known i).isSome = true) : i < array.count := by
  by_contra past
  have missing : array.sectors[i]? = none := Array.getElem?_eq_none (Nat.not_lt.mp past)
  rw [PartialArray.known, missing] at known
  cases known

theorem has_of_mem (inside : sector ∈ array) : array.Has sector := lt_of_known inside

theorem Takes.has {length : Nat} (takes : array.Takes sector length) : array.Has sector :=
  takes.elim has_of_mem And.right

/-- A write that fills a sector needs nothing but the sector. -/
theorem takes_block {block : Sector} : array.Takes sector block.bytes.size ↔ array.Has sector :=
  ⟨Takes.has, fun has => .inr ⟨block.size_bytes, has⟩⟩

theorem known_of_mem (inside : sector ∈ array) : array.known sector.index = some (array.get sector) := by
  obtain ⟨data, held⟩ := Option.isSome_iff_exists.mp (mem_iff.mp inside)
  rw [get, held, Option.getD_some]

@[simp] theorem count_set : (array.set sector data).count = array.count := by
  simp [count, set]

@[simp] theorem has_set : (array.set sector data).Has other ↔ array.Has other := by
  rw [Has, Has, count_set]

theorem known_set (has : array.Has sector) :
    (array.set sector data).known i = if i = sector.index then some data else array.known i := by
  have bound : sector.index < array.sectors.size := has
  by_cases same : i = sector.index
  · subst same
    simp [known, set, bound]
  · simp [known, set, same, Array.getElem?_setIfInBounds_ne (Ne.symm same)]

/-- A sector that was written is known from then on. -/
theorem mem_set (has : array.Has sector) : other ∈ array.set sector data ↔ other = sector ∨ other ∈ array := by
  rw [mem_iff, known_set has, mem_iff]
  by_cases same : other = sector
  · simp [same]
  · simp [same, mt SectorId.index_injective same]

theorem mem_set_self (has : array.Has sector) : sector ∈ array.set sector data :=
  (mem_set has).mpr (.inl rfl)

theorem mem_set_of_mem (has : array.Has sector) (inside : other ∈ array) : other ∈ array.set sector data :=
  (mem_set has).mpr (.inr inside)

theorem get_set_self (has : array.Has sector) : (array.set sector data).get sector = data := by
  rw [get, known_set has, if_pos rfl, Option.getD_some]

/-- Other contents in one sector leave all others as they are. -/
theorem get_set_ne (has : array.Has sector) (apart : other ≠ sector) :
    (array.set sector data).get other = array.get other := by
  rw [get, known_set has, if_neg (mt SectorId.index_injective apart), get]

/-- A sector that is known and laid over itself changes nothing. -/
theorem set_get_self (inside : sector ∈ array) :
    array.set sector (array.get sector) = array := by
  obtain ⟨sectors⟩ := array
  have bound : sector.index < sectors.size := has_of_mem inside
  have held : sectors[sector.index]?.join = some (get ⟨sectors⟩ sector) := known_of_mem inside
  rw [Array.getElem?_eq_getElem bound] at held
  unfold set
  congr 1
  refine Array.ext (Array.size_setIfInBounds) fun i _ low => ?_
  rw [Array.getElem_setIfInBounds]
  split
  · rename_i here
    subst here
    exact held.symm
  · rfl

/-! ### Knowing more -/

/-- There are as many sectors as before, and all that were known are known still. -/
structure Spreads (array after : PartialArray) : Prop where
  count : after.count = array.count
  known : ∀ i, (array.known i).isSome = true → (after.known i).isSome = true

namespace Spreads

theorem refl (array : PartialArray) : array.Spreads array := ⟨rfl, fun _ => id⟩

theorem trans (first : array.Spreads after) (second : after.Spreads later) : array.Spreads later :=
  ⟨second.count.trans first.count, fun i known => second.known i (first.known i known)⟩

theorem set (has : array.Has sector) : array.Spreads (array.set sector data) := by
  refine ⟨count_set, fun i known => ?_⟩
  rw [known_set has]
  split
  · rfl
  · exact known

theorem mem (spreads : array.Spreads after) (inside : sector ∈ array) : sector ∈ after :=
  spreads.known sector.index inside

theorem has (spreads : array.Spreads after) : after.Has sector ↔ array.Has sector := by
  rw [Has, Has, spreads.count]

end Spreads

/-! ### Descriptions -/

variable {whole whole' : SectorArray}

/-- What is known of the sectors is what they hold. -/
structure Describes (array : PartialArray) (whole : SectorArray) : Prop where
  count : array.count = whole.count
  known : ∀ i data, array.known i = some data → whole.sectors[i]? = some data

namespace Describes

theorem has_iff (describes : array.Describes whole) : array.Has sector ↔ sector ∈ whole := by
  rw [Has, describes.count, SectorArray.mem_iff]

theorem mem (describes : array.Describes whole) (inside : sector ∈ array) : sector ∈ whole :=
  describes.has_iff.mp (has_of_mem inside)

theorem get (describes : array.Describes whole) (inside : sector ∈ array) :
    array.get sector = whole.get sector := by
  have held := describes.known sector.index _ (known_of_mem inside)
  rw [SectorArray.getElem?_of_mem (describes.mem inside)] at held
  exact (Option.some.inj held).symm

/-- What is written to a sector is known of it. -/
theorem set (describes : array.Describes whole) (has : array.Has sector) :
    (array.set sector data).Describes (whole.set sector data) := by
  have inside : sector.index < whole.sectors.size := describes.has_iff.mp has
  refine ⟨by rw [count_set, SectorArray.count_set, describes.count], fun i held known => ?_⟩
  rw [known_set has] at known
  by_cases same : i = sector.index
  · rw [if_pos same] at known
    rw [same, SectorArray.set, Array.getElem?_setIfInBounds_self_of_lt inside]
    exact known
  · rw [if_neg same] at known
    rw [SectorArray.set, Array.getElem?_setIfInBounds_ne (Ne.symm same)]
    exact describes.known i held known

end Describes

/-- What is laid over by a write is known, or is covered whole. -/
theorem Takes.splice_eq {offset : Nat} {bytes : Bytes} (takes : array.Takes sector bytes.size)
    (describes : array.Describes whole) (fits : offset + bytes.size ≤ sectorSize) :
    (whole.get sector).splice offset bytes fits = (array.get sector).splice offset bytes fits := by
  rcases takes with inside | ⟨full, -⟩
  · rw [describes.get inside]
  · exact Block.splice_full _ _ fits full

/-- Nothing is known but the number of sectors. -/
def unknown (count : Nat) : PartialArray := ⟨Array.replicate count none⟩

@[simp] theorem count_unknown (count : Nat) : (unknown count).count = count := Array.size_replicate

theorem known_unknown (count i : Nat) : (unknown count).known i = none := by
  rw [known, unknown, Array.getElem?_replicate]
  split <;> rfl

theorem describes_unknown (whole : SectorArray) : (unknown whole.count).Describes whole := by
  refine ⟨count_unknown _, fun i data known => ?_⟩
  rw [known_unknown] at known
  cases known

/-- All sectors are known. -/
def ofWhole (whole : SectorArray) : PartialArray := ⟨whole.sectors.map some⟩

@[simp] theorem count_ofWhole : (ofWhole whole).count = whole.count := Array.size_map

theorem known_ofWhole (i : Nat) : (ofWhole whole).known i = whole.sectors[i]? := by
  rw [known, ofWhole, Array.getElem?_map]
  cases whole.sectors[i]? <;> rfl

@[simp] theorem mem_ofWhole : sector ∈ ofWhole whole ↔ sector ∈ whole := by
  rw [mem_iff, known_ofWhole, SectorArray.mem_iff, isSome_getElem?]
  exact Iff.rfl

@[simp] theorem get_ofWhole : (ofWhole whole).get sector = whole.get sector := by
  rw [get, known_ofWhole, SectorArray.get, Array.getD_eq_getD_getElem?]

/-- Arrays that are known as a whole differ in nothing but what they hold. -/
theorem spreads_ofWhole (count : whole'.count = whole.count) : (ofWhole whole).Spreads (ofWhole whole') := by
  refine ⟨by rw [count_ofWhole, count_ofWhole, count], fun i known => ?_⟩
  rw [known_ofWhole, isSome_getElem?] at known ⊢
  exact Nat.lt_of_lt_of_eq known count.symm

theorem ofWhole_injective (same : ofWhole whole = ofWhole whole') : whole = whole' := by
  have sectors : whole.sectors.map some = whole'.sectors.map some := congrArg PartialArray.sectors same
  exact SectorArray.ext ((Array.map_inj_right fun _ _ => Option.some.inj).mp sectors)

theorem describes_ofWhole (whole : SectorArray) : (ofWhole whole).Describes whole := by
  refine ⟨count_ofWhole, fun i data known => ?_⟩
  rw [← known_ofWhole]
  exact known

/-- What describes an array and knows all of its sectors is the array. -/
theorem Describes.eq_ofWhole (describes : array.Describes whole')
    (spreads : (ofWhole whole).Spreads array) : array = ofWhole whole' := by
  have size : array.sectors.size = whole'.sectors.size := describes.count
  have total : array.count = whole.count := spreads.count.trans count_ofWhole
  obtain ⟨sectors⟩ := array
  have same : sectors = whole'.sectors.map some := by
    refine Array.ext (size.trans Array.size_map.symm) fun i inside inside' => ?_
    have there : ((ofWhole whole).known i).isSome = true := by
      rw [known_ofWhole, isSome_getElem?]
      exact Nat.lt_of_lt_of_eq inside total
    obtain ⟨data, known⟩ := Option.isSome_iff_exists.mp (spreads.known i there)
    have held := describes.known i data known
    have entry : (sectors[i]?).join = some data := known
    rw [Array.getElem?_eq_getElem (show i < whole'.sectors.size from size ▸ inside)] at held
    rw [Array.getElem?_eq_getElem inside] at entry
    rw [Array.getElem_map, Option.some.inj held]
    exact entry
  rw [same, ofWhole]

/-! ### Knowing less -/

/-- What is known of those sectors of which `p` is true. -/
def only (array : PartialArray) (p : Nat → Bool) : PartialArray :=
  ⟨array.sectors.mapIdx fun i held => if p i then held else none⟩

variable {p : Nat → Bool}

@[simp] theorem count_only : (array.only p).count = array.count := Array.size_mapIdx

theorem known_only (i : Nat) : (array.only p).known i = if p i then array.known i else none := by
  rw [known, only, Array.getElem?_mapIdx, known]
  cases array.sectors[i]? with
  | none => split <;> rfl
  | some held => rfl

theorem mem_only (here : p sector.index = true) (inside : sector ∈ array) : sector ∈ array.only p := by
  rw [mem_iff, known_only, if_pos here]
  exact inside

theorem get_only (here : p sector.index = true) : (array.only p).get sector = array.get sector := by
  rw [get, known_only, if_pos here, get]

/-- What is known of some sectors is true of an array in which the others hold anything. -/
theorem Describes.only (describes : array.Describes whole) (count : whole'.count = whole.count)
    (same : ∀ i, p i = true → whole'.sectors[i]? = whole.sectors[i]?) : (array.only p).Describes whole' := by
  refine ⟨by rw [count_only, describes.count, count], fun i data held => ?_⟩
  rw [known_only] at held
  split at held
  · rename_i here
    rw [same i here]
    exact describes.known i data held
  · cases held

end PartialArray

end InodeVolume
