import InodeVolume.Proofs.Device.Lawful
import InodeVolume.Proofs.Lists

/-!
# A cached disk shows a plain array

`disk.Shows array`: the slots laid over the device are the sectors of `array`. Every copy in a
slot is that of its sector, no sector has two copies, and the device itself is behind only where
a dirty copy stands in for it.

* **slots** — `copy` is what a slot holds apart from its accessed mark, the one thing that second
  chance moves and nobody can see;
* **steps** — what may be done to a slot: its copy is written back (`writeBack`), called clean or
  dropped (`settle`), laid in (`bringIn`) or overwritten (`overwrite`);
* **one array** — `overlay` computes the array that is shown.
-/

namespace InodeVolume

/-! ## Slots -/

/-- A copy without its accessed mark. -/
def Entry.unmarked (entry : Entry) : Entry := { entry with accessed := false }

@[simp] theorem Entry.sector_unmarked (entry : Entry) : entry.unmarked.sector = entry.sector := rfl

@[simp] theorem Entry.data_unmarked (entry : Entry) : entry.unmarked.data = entry.data := rfl

@[simp] theorem Entry.dirty_unmarked (entry : Entry) : entry.unmarked.dirty = entry.dirty := rfl

namespace Cache

variable {n : Nat} {cache : Cache n}

/-- What a slot holds, apart from its accessed mark. -/
def copy (cache : Cache n) (i : Fin n) : Option Entry :=
  (getElem cache.slots i i.isLt).map Entry.unmarked

theorem copy_put (cache : Cache n) (i j : Fin n) (entry : Entry) :
    (cache.put i entry).copy j = if j = i then some entry.unmarked else cache.copy j := by
  by_cases same : j = i
  · subst same
    simp [copy, put]
  · have apart : i.val ≠ j.val := fun h => same (Fin.ext h.symm)
    simp [copy, put, same, Vector.getElem_set_ne _ _ apart]

theorem copy_clear (cache : Cache n) (i j : Fin n) :
    (cache.clear i).copy j = if j = i then none else cache.copy j := by
  by_cases same : j = i
  · subst same
    simp [copy, clear]
  · have apart : i.val ≠ j.val := fun h => same (Fin.ext h.symm)
    simp [copy, clear, same, Vector.getElem_set_ne _ _ apart]

/-- Filling a slot with what it holds already changes at most its mark. -/
theorem copy_put_self {i : Fin n} {entry : Entry} (held : cache.copy i = some entry.unmarked) :
    (cache.put i entry).copy = cache.copy := by
  funext j
  rw [copy_put]
  split
  · rename_i same
    rw [same, held]
  · rfl

theorem copy_of_slot {i : Fin n} {entry : Entry} (held : getElem cache.slots i i.isLt = some entry) :
    cache.copy i = some entry.unmarked := by
  rw [copy, held]
  rfl

theorem slot_of_copy {i : Fin n} {entry : Entry} (held : cache.copy i = some entry) :
    ∃ kept, getElem cache.slots i i.isLt = some kept ∧ kept.unmarked = entry :=
  Option.map_eq_some_iff.mp held

@[simp] theorem copy_empty (nonempty : 0 < n) (i : Fin n) : (empty n nonempty).copy i = none := by
  simp [copy, empty]

theorem copy_of_find? {sector : SectorId} {i : Fin n} {entry : Entry}
    (found : cache.find? sector = some (i, entry)) :
    cache.copy i = some entry.unmarked ∧ entry.sector = sector := by
  simp only [find?, Option.bind_eq_bind, Option.bind_eq_some_iff, Option.pure_def,
    Option.some.injEq, Prod.mk.injEq] at found
  obtain ⟨j, located, kept, held, rfl, rfl⟩ := found
  have passes := getElem_of_findFinIdx? located
  refine ⟨copy_of_slot held, ?_⟩
  rw [held] at passes
  simpa using passes

theorem ne_of_find?_eq_none {sector : SectorId} (absent : cache.find? sector = none) {i : Fin n}
    {entry : Entry} (held : cache.copy i = some entry) : entry.sector ≠ sector := by
  obtain ⟨kept, here, rfl⟩ := slot_of_copy held
  intro same
  cases located : cache.slots.findFinIdx? (·.any (·.sector == sector)) with
  | none =>
      have fails := Vector.findFinIdx?_eq_none_iff.mp located cache.slots[i] (by simp)
      rw [here] at fails
      exact fails (by simpa using same)
  | some j =>
      have passes := getElem_of_findFinIdx? located
      cases other : cache.slots[j] with
      | none => simp [other] at passes
      | some found =>
          have found? : cache.find? sector = some (j, found) := by
            simp only [find?, Option.bind_eq_bind, located, Option.bind_some, other, Option.pure_def]
          exact Option.some_ne_none _ (found?.symm.trans absent)

/-- A sector is resident when some slot holds a copy of it. -/
theorem isResident_iff {sector : SectorId} :
    cache.isResident sector = true ↔ ∃ i entry, cache.copy i = some entry ∧ entry.sector = sector := by
  constructor
  · intro resident
    obtain ⟨⟨i, entry⟩, found⟩ := Option.isSome_iff_exists.mp resident
    obtain ⟨held, same⟩ := copy_of_find? found
    exact ⟨i, entry.unmarked, held, same⟩
  · rintro ⟨i, entry, held, same⟩
    by_contra absent
    have missing : cache.find? sector = none := by simpa [isResident] using absent
    exact ne_of_find?_eq_none missing held same

theorem copy_of_vacant? {i : Fin n} (found : cache.vacant? = some i) : cache.copy i = none := by
  have empty := getElem_of_findFinIdx? found
  rw [copy, Option.isNone_iff_eq_none.mp empty]
  rfl

/-- The hand moves over marks and nothing else. -/
theorem copy_sweep (cache : Cache n) (looks : Nat) : (cache.sweep looks).2.copy = cache.copy := by
  induction looks generalizing cache with
  | zero => rfl
  | succ looks ih =>
      simp only [sweep]
      split
      · rename_i entry held
        split
        · have same : cache.copy cache.hand = some entry.unmarked := copy_of_slot held
          rw [ih]
          exact copy_put_self same
        · rfl
      · rfl

theorem copy_victim (cache : Cache n) : cache.victim.2.copy = cache.copy :=
  copy_sweep cache (n + 1)

end Cache

/-! ## What a cached disk shows -/

namespace CachedDisk

variable {D : Type} {n : Nat} [BlockDevice D] [LawfulDevice D]
  {disk : CachedDisk D n} {array : SectorArray} {sector : SectorId}

open LawfulDevice (Sound sectors)

/-- The slots laid over the device are the sectors of a plain array. -/
structure Shows (disk : CachedDisk D n) (array : SectorArray) : Prop where
  sound : Sound disk.device
  count : (sectors disk.device).count = array.count
  /-- Every copy is that of its sector. -/
  held : ∀ i entry, disk.cache.copy i = some entry →
    entry.sector ∈ array ∧ entry.data = array.get entry.sector
  /-- No sector has two copies. -/
  apart : ∀ i j first second, disk.cache.copy i = some first → disk.cache.copy j = some second →
    first.sector = second.sector → i = j
  /-- The device is behind only where a dirty copy stands in for it. -/
  behind : ∀ k, (sectors disk.device).sectors[k]? = array.sectors[k]? ∨
    ∃ i entry, disk.cache.copy i = some entry ∧ entry.dirty = true ∧ entry.sector.index = k

/-- The device has what slot `i` holds. -/
def Backed (disk : CachedDisk D n) (array : SectorArray) (i : Fin n) : Prop :=
  ∀ entry, disk.cache.copy i = some entry →
    (sectors disk.device).sectors[entry.sector.index]? = array.sectors[entry.sector.index]?

namespace Shows

/-- Without dirty copies the device is the array. -/
theorem device_eq (shown : disk.Shows array)
    (clean : ∀ i entry, disk.cache.copy i = some entry → entry.dirty = false) :
    sectors disk.device = array := by
  ext1
  apply Array.ext_getElem?
  intro k
  rcases shown.behind k with same | ⟨i, entry, held, dirty, -⟩
  · exact same
  · rw [clean i entry held] at dirty
    cases dirty

/-- A clean copy is the device's. -/
theorem backed_of_clean (shown : disk.Shows array) {i : Fin n} {entry : Entry}
    (held : disk.cache.copy i = some entry) (clean : entry.dirty = false) : disk.Backed array i := by
  intro other here
  obtain rfl : entry = other := Option.some.inj (held.symm.trans here)
  rcases shown.behind entry.sector.index with same | ⟨j, dirtied, there, dirty, same⟩
  · exact same
  · obtain rfl := shown.apart i j entry dirtied held there (SectorId.index_injective same.symm)
    obtain rfl : entry = dirtied := Option.some.inj (held.symm.trans there)
    rw [clean] at dirty
    cases dirty

/-- Slots that hold the same copies show the same array. -/
theorem congr (shown : disk.Shows array) {after : CachedDisk D n} (device : after.device = disk.device)
    (copies : after.cache.copy = disk.cache.copy) : after.Shows array := by
  obtain ⟨sound, count, held, apart, behind⟩ := shown
  rw [← device] at sound count behind
  rw [← copies] at held apart behind
  exact ⟨sound, count, held, apart, behind⟩

/-- The sectors of the array are those of the device. -/
theorem mem_device_iff (shown : disk.Shows array) {sector : SectorId} :
    sector ∈ sectors disk.device ↔ sector ∈ array := by
  rw [SectorArray.mem_iff, SectorArray.mem_iff, shown.count]

/-- Writing a copy back leaves the array, and backs its slot. -/
theorem writeBack (shown : disk.Shows array) {i : Fin n} {entry : Entry}
    (held : disk.cache.copy i = some entry) {device : D} (sound : Sound device)
    (written : sectors device = (sectors disk.device).set entry.sector entry.data) :
    (⟨device, disk.cache⟩ : CachedDisk D n).Shows array ∧
      (⟨device, disk.cache⟩ : CachedDisk D n).Backed array i := by
  obtain ⟨inside, copied⟩ := shown.held i entry held
  have bound : entry.sector.index < (sectors disk.device).sectors.size := shown.mem_device_iff.mpr inside
  have here : (sectors device).sectors[entry.sector.index]? = array.sectors[entry.sector.index]? := by
    rw [SectorArray.getElem?_of_mem inside, written, ← copied]
    simp [SectorArray.set, bound]
  refine ⟨⟨sound, ?_, shown.held, shown.apart, ?_⟩, ?_⟩
  · show (sectors device).count = array.count
    rw [written, SectorArray.count_set, shown.count]
  · intro k
    by_cases same : k = entry.sector.index
    · exact .inl (same ▸ here)
    · rcases shown.behind k with kept | stale
      · refine .inl ?_
        show (sectors device).sectors[k]? = _
        rw [written, ← kept]
        exact Array.getElem?_setIfInBounds_ne (Ne.symm same)
      · exact .inr stale
  · intro other there
    obtain rfl : entry = other := Option.some.inj (held.symm.trans there)
    exact here

/-- A slot that the device backs may be emptied, or its copy called clean. -/
theorem settle (shown : disk.Shows array) {i : Fin n} (backed : disk.Backed array i)
    {cache : Cache n} (others : ∀ j, j ≠ i → cache.copy j = disk.cache.copy j)
    (settled : ∀ entry, cache.copy i = some entry →
      entry.dirty = false ∧ ∃ kept, disk.cache.copy i = some kept ∧
        entry.sector = kept.sector ∧ entry.data = kept.data) :
    (⟨disk.device, cache⟩ : CachedDisk D n).Shows array := by
  have origin : ∀ j entry, cache.copy j = some entry → ∃ kept, disk.cache.copy j = some kept ∧
      entry.sector = kept.sector ∧ entry.data = kept.data := by
    intro j entry held
    by_cases here : j = i
    · subst here
      exact (settled entry held).2
    · exact ⟨entry, (others j here).symm.trans held, rfl, rfl⟩
  refine ⟨shown.sound, shown.count, ?_, ?_, ?_⟩
  · intro j entry held
    obtain ⟨kept, before, sameSector, sameData⟩ := origin j entry held
    rw [sameSector, sameData]
    exact shown.held j kept before
  · intro j k first second heldFirst heldSecond same
    obtain ⟨one, beforeOne, oneSector, -⟩ := origin j first heldFirst
    obtain ⟨two, beforeTwo, twoSector, -⟩ := origin k second heldSecond
    exact shown.apart j k one two beforeOne beforeTwo (by rw [← oneSector, ← twoSector, same])
  · intro k
    rcases shown.behind k with same | ⟨j, entry, held, dirty, place⟩
    · exact .inl same
    · by_cases here : j = i
      · subst here
        exact .inl (place ▸ backed entry held)
      · exact .inr ⟨j, entry, (others j here).trans held, dirty, place⟩

/-- A copy of a sector that the device backs may be laid in an empty slot. -/
theorem bringIn (shown : disk.Shows array) {i : Fin n} (vacant : disk.cache.copy i = none)
    (inside : sector ∈ array) (absent : ∀ j entry, disk.cache.copy j = some entry → entry.sector ≠ sector)
    {entry : Entry} (copied : entry.sector = sector ∧ entry.data = array.get sector) :
    (⟨disk.device, disk.cache.put i entry⟩ : CachedDisk D n).Shows array := by
  have origin : ∀ j held, (disk.cache.put i entry).copy j = some held →
      (j = i ∧ held = entry.unmarked) ∨ (j ≠ i ∧ disk.cache.copy j = some held) := by
    intro j held here
    rw [Cache.copy_put] at here
    by_cases same : j = i
    · rw [if_pos same] at here
      exact .inl ⟨same, (Option.some.inj here).symm⟩
    · rw [if_neg same] at here
      exact .inr ⟨same, here⟩
  refine ⟨shown.sound, shown.count, ?_, ?_, ?_⟩
  · intro j held here
    rcases origin j held here with ⟨-, rfl⟩ | ⟨-, before⟩
    · rw [Entry.sector_unmarked, Entry.data_unmarked, copied.1, copied.2]
      exact ⟨inside, rfl⟩
    · exact shown.held j held before
  · intro j k first second heldFirst heldSecond same
    rcases origin j first heldFirst with ⟨rfl, rfl⟩ | ⟨-, one⟩ <;>
      rcases origin k second heldSecond with ⟨rfl, rfl⟩ | ⟨-, two⟩
    · rfl
    · exact absurd (same.symm.trans copied.1) (absent k second two)
    · exact absurd (same.trans copied.1) (absent j first one)
    · exact shown.apart j k first second one two same
  · intro k
    rcases shown.behind k with same | ⟨j, stale, held, dirty, place⟩
    · exact .inl same
    · refine .inr ⟨j, stale, ?_, dirty, place⟩
      show (disk.cache.put i entry).copy j = some stale
      rw [Cache.copy_put, if_neg]
      · exact held
      · intro same
        rw [same, vacant] at held
        cases held

/-- What is written to a copy is shown by its slot alone. -/
theorem overwrite (shown : disk.Shows array) {i : Fin n} {entry : Entry}
    (held : disk.cache.copy i = some entry.unmarked) {data : Sector} :
    (⟨disk.device, disk.cache.put i { entry with data, dirty := true, accessed := true }⟩ :
      CachedDisk D n).Shows (array.set entry.sector data) := by
  obtain ⟨inside, -⟩ := shown.held i entry.unmarked held
  have inside : entry.sector ∈ array := inside
  let written : Entry := { entry with data, dirty := true, accessed := true }
  have others : ∀ j, j ≠ i → (disk.cache.put i written).copy j = disk.cache.copy j := by
    intro j apart
    rw [Cache.copy_put, if_neg apart]
  have here : (disk.cache.put i written).copy i = some written.unmarked := by
    rw [Cache.copy_put, if_pos rfl]
  -- a slot keeps its sector, so two slots are as far apart as they were
  have origin : ∀ j held, (disk.cache.put i written).copy j = some held →
      ∃ kept, disk.cache.copy j = some kept ∧ held.sector = kept.sector := by
    intro j copied there
    by_cases same : j = i
    · subst same
      obtain rfl := Option.some.inj (here.symm.trans there)
      exact ⟨entry.unmarked, held, rfl⟩
    · exact ⟨copied, (others j same).symm.trans there, rfl⟩
  refine ⟨shown.sound, ?_, ?_, ?_, ?_⟩
  · show (sectors disk.device).count = (array.set entry.sector data).count
    rw [SectorArray.count_set, shown.count]
  · intro j copied there
    by_cases same : j = i
    · subst same
      obtain rfl := Option.some.inj (here.symm.trans there)
      exact ⟨SectorArray.mem_set.mpr inside, (SectorArray.get_set_self inside).symm⟩
    · have before := (others j same).symm.trans there
      obtain ⟨within, read⟩ := shown.held j copied before
      refine ⟨SectorArray.mem_set.mpr within, ?_⟩
      rw [SectorArray.get_set_ne inside, read]
      exact fun equal => same (shown.apart j i copied entry.unmarked before held equal)
  · intro j k first second heldFirst heldSecond same
    obtain ⟨one, beforeOne, oneSector⟩ := origin j first heldFirst
    obtain ⟨two, beforeTwo, twoSector⟩ := origin k second heldSecond
    exact shown.apart j k one two beforeOne beforeTwo (by rw [← oneSector, ← twoSector, same])
  · intro k
    by_cases same : k = entry.sector.index
    · exact .inr ⟨i, written.unmarked, here, rfl, same.symm⟩
    · have unchanged : (array.set entry.sector data).sectors[k]? = array.sectors[k]? :=
        Array.getElem?_setIfInBounds_ne (Ne.symm same)
      rw [unchanged]
      rcases shown.behind k with kept | ⟨j, stale, before, dirty, place⟩
      · exact .inl kept
      · refine .inr ⟨j, stale, (others j ?_).trans before, dirty, place⟩
        rintro rfl
        obtain rfl := Option.some.inj (held.symm.trans before)
        exact same place.symm

/-- An empty cache shows the device. -/
theorem fresh {device : D} (sound : Sound device) (nonempty : 0 < n) :
    (⟨device, Cache.empty n nonempty⟩ : CachedDisk D n).Shows (sectors device) := by
  refine ⟨sound, rfl, ?_, ?_, fun k => .inl rfl⟩
  · intro i entry held
    rw [Cache.copy_empty] at held
    cases held
  · intro i j first second held
    rw [Cache.copy_empty] at held
    cases held

end Shows

/-! ## One array -/

/-- The copy of the sector at a place of the device. -/
def copyAt? (disk : CachedDisk D n) (k : Nat) : Option Entry :=
  (List.finRange n).findSome? fun i => (disk.cache.copy i).filter (·.sector.index = k)

/-- The sectors of the device where no slot has a copy, and the copies elsewhere. -/
def overlay (disk : CachedDisk D n) : SectorArray :=
  ⟨(sectors disk.device).sectors.mapIdx fun k data => ((disk.copyAt? k).map (·.data)).getD data⟩

/-- A cached disk shows one array, the slots laid over the device. -/
theorem Shows.eq_overlay (shown : disk.Shows array) : array = disk.overlay := by
  ext1
  apply Array.ext_getElem?
  intro k
  rw [overlay, Array.getElem?_mapIdx]
  cases found : disk.copyAt? k with
  | some entry =>
      obtain ⟨i, -, here⟩ := List.exists_of_findSome?_eq_some found
      obtain ⟨held, place⟩ := Option.filter_eq_some_iff.mp here
      obtain rfl : entry.sector.index = k := of_decide_eq_true place
      obtain ⟨inside, copied⟩ := shown.held i entry held
      have bound : entry.sector.index < (sectors disk.device).count := by
        rw [shown.count]
        exact inside
      rw [SectorArray.getElem?_of_mem inside, ← copied, Array.getElem?_eq_getElem bound]
      rfl
  | none =>
      rcases shown.behind k with same | ⟨i, entry, held, -, place⟩
      · rw [← same]
        simp
      · have missed := List.findSome?_eq_none_iff.mp found i (List.mem_finRange i)
        rw [held] at missed
        simp [place] at missed

end CachedDisk

end InodeVolume
