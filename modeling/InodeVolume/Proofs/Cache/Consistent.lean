import InodeVolume.Proofs.Cache.Eviction

/-!
# A cache after a request that failed

A request may fail when its victim has been written back, when its sector has been loaded, or before
anything was done. The next request goes on from there.

* **slots** — `Consistent` is what can be relied on in every slot, and `Shows.consistent` has it of every
  disk that shows an array;
* **failures** — `serve_faults`: nothing but a fault ends a request half-way. A sector past the end is
  noticed behind the eviction, so its slot is left empty (`resident_vacates`);
* **histories** — `failure_harmless`: whatever was asked of a cache, and wherever it failed, the slots are
  consistent, and a request that fails changes no sector.
-/

namespace InodeVolume

open LawfulDevice (Sound sectors)

namespace CachedDisk

variable {D : Type} {n : Nat} [BlockDevice D] [LawfulDevice D] {disk : CachedDisk D n} {array : SectorArray}
  {sector : SectorId}

/-! ## Slots -/

/-- A ring of `n` slots that agrees with itself and with the device. -/
structure Consistent (disk : CachedDisk D n) : Prop where
  slots : disk.cache.slots.toArray.size = n
  hand : disk.cache.hand.val < n
  /-- No sector is in two slots. -/
  apart : ∀ (i j : Fin n) first second, getElem disk.cache.slots i i.isLt = some first →
    getElem disk.cache.slots j j.isLt = some second → first.sector = second.sector → i = j
  /-- What is to be written back has a place on the device. -/
  dirty : ∀ (i : Fin n) entry, getElem disk.cache.slots i i.isLt = some entry → entry.dirty = true →
    entry.sector.index < (sectors disk.device).sectors.size
  /-- What is not to be written back is on the device. -/
  clean : ∀ (i : Fin n) entry, getElem disk.cache.slots i i.isLt = some entry → entry.dirty = false →
    (sectors disk.device).sectors[entry.sector.index]? = some entry.data

theorem Shows.consistent (shown : disk.Shows array) : disk.Consistent where
  slots := disk.cache.slots.size_toArray
  hand := disk.cache.hand.isLt
  apart := by
    intro i j first second heldFirst heldSecond same
    exact shown.apart i j _ _ (Cache.copy_of_slot heldFirst) (Cache.copy_of_slot heldSecond) same
  dirty := by
    intro i entry held _
    exact shown.mem_device_iff.mpr (shown.held i _ (Cache.copy_of_slot held)).1
  clean := by
    intro i entry held clean
    have copied := Cache.copy_of_slot held
    have backed := shown.backed_of_clean copied clean entry.unmarked copied
    obtain ⟨inside, data⟩ := shown.held i _ copied
    rw [SectorArray.getElem?_of_mem inside, ← data] at backed
    exact backed

/-! ## Failures -/

omit [BlockDevice D] [LawfulDevice D] in
theorem requireInside_faults (start length size : Nat) :
    (requireInside start length size).Ensures disk (fun _ _ => True) fun failure _ => ∃ why, failure = .fault why := by
  refine .bind (Action.ensures_checkedAdd.mpr ?_)
  split
  · split
    · exact Action.ensures_pure.mpr trivial
    · exact Action.ensures_fault.mpr ⟨_, rfl⟩
  · exact ⟨_, rfl⟩

variable [RefusingDevice D]

/-- A sector past the end is refused when room was made for it, and the room is left empty. -/
theorem resident_vacates (shown : disk.Shows array) (outside : sector ∉ array) :
    (resident sector).Ensures disk (fun _ _ => False) fun _ after => ¬after.cache.IsFull := by
  unfold resident
  refine .bind (Action.ensures_get.mpr ?_)
  cases found : disk.cache.find? sector with
  | some place =>
      obtain ⟨held, rfl⟩ := Cache.copy_of_find? found
      exact absurd (shown.held _ _ held).1 outside
  | none =>
      refine .bind (Action.ensures_emit.mpr (.bind ?_))
      refine (makeRoom_ensures shown sector).mono ?_ fun _ _ failed => failed.elim
      rintro i ⟨device, cache⟩ ⟨room, vacant, -⟩
      have offDevice : sector ∉ sectors device := fun there => outside (room.mem_device_iff.mp there)
      refine .bind (Action.ensures_within.mpr ?_)
      refine (RefusingDevice.refuses room.sound offDevice).mono (fun _ _ never => never.elim) ?_
      intro _ after _ full
      obtain ⟨entry, held⟩ := full i
      rw [vacant] at held
      cases held

end CachedDisk

namespace CacheRequest

variable {D : Type} {n : Nat} [BlockDevice D] [LawfulDevice D] [RefusingDevice D] {disk : CachedDisk D n}
  {array : SectorArray}

/-- Whatever is asked for, a failure is a fault. -/
theorem serve_faults (shown : disk.Shows array) (request : CacheRequest) :
    request.serve.Ensures disk (fun _ _ => True) fun failure _ => ∃ why, failure = .fault why := by
  have stood : disk.Stands False array := ⟨shown, False.elim⟩
  cases request with
  | read sector buffer start length offset =>
      refine .bind (.bind ((CachedDisk.requireWithin_cases offset length).mono ?_ fun _ _ failed => failed.1))
      rintro _ _ ⟨-, rfl⟩
      refine .bind ((CachedDisk.resident_stands stood sector).mono ?_ fun _ _ failed => failed.1)
      intro found after _
      refine .bind ((CachedDisk.requireInside_faults start length buffer.size).mono ?_ fun _ _ failed => failed)
      intro _ _ _
      exact .bind ((Action.ensures_within.mpr (Action.ensures_modify.mpr
        (Action.ensures_pure.mpr (Action.ensures_pure.mpr trivial)))))
  | write sector buffer start length offset =>
      refine .bind (.bind ((CachedDisk.requireWithin_cases offset length).mono ?_ fun _ _ failed => failed.1))
      rintro _ _ ⟨-, rfl⟩
      refine .bind ((CachedDisk.resident_stands stood sector).mono ?_ fun _ _ failed => failed.1)
      intro found after _
      refine .bind ((CachedDisk.requireInside_faults start length buffer.size).mono ?_ fun _ _ failed => failed)
      intro _ _ _
      dsimp only
      split
      · exact Action.ensures_within.mpr (Action.ensures_modify.mpr (Action.ensures_pure.mpr trivial))
      · exact Action.ensures_fault.mpr ⟨_, rfl⟩
  | isResident sector => exact .bind (Action.ensures_get.mpr (Action.ensures_pure.mpr trivial))
  | sync =>
      have inBounds : CacheRequest.sync.InBounds array := trivial
      exact (serve_done shown inBounds).mono (fun _ _ _ => trivial) fun _ _ failed => failed.elim
  | shutdown =>
      have inBounds : CacheRequest.shutdown.InBounds array := trivial
      exact (serve_done shown inBounds).mono (fun _ _ _ => trivial) fun _ _ failed => failed.elim

end CacheRequest

/-! ## Histories -/

namespace CachedDisk

variable {n : Nat} {device : RamDisk} {array : SectorArray} {disk : CachedDisk RamDisk n}

/-- **Failures are harmless.** Whatever was asked of a cache over a disk in memory, and whether or not it
was done, the slots are consistent and laid over the device they are what was written. The next request
leaves them so again: what it writes is there where it is done, and no sector has changed where it faults. -/
theorem failure_harmless (reached : Reached device array disk) :
    disk.Consistent ∧ disk.overlay = array ∧
    ∀ request : CacheRequest, request.serve.Ensures disk
      (fun _ after => after.Consistent ∧ after.overlay = request.apply disk.overlay)
      fun failure after => (∃ why, failure = .fault why) ∧ after.Consistent ∧ after.overlay = disk.overlay := by
  have shown : disk.Shows array := reached.shows trivial
  have same : disk.overlay = array := shown.eq_overlay.symm
  refine ⟨shown.consistent, same, ?_⟩
  intro request
  rw [same]
  refine ((CacheRequest.serve_ensures shown request).and (CacheRequest.serve_faults shown request)).mono ?_ ?_
  · intro _ after ⟨shown', _⟩
    exact ⟨shown'.consistent, shown'.eq_overlay.symm⟩
  · intro failure after ⟨shown', fault⟩
    exact ⟨fault, shown'.consistent, shown'.eq_overlay.symm⟩

/-- In a full cache of one slot, where sector 1 was written, a read past the end empties the slot before
it fails. -/
theorem failure_harmless_single : ∃ (array : SectorArray) (disk : CachedDisk RamDisk 1),
    Reached (RamDisk.zeroed 3) array disk ∧ disk.cache.IsFull ∧ disk.cache.isResident (.ofNat 1) = true ∧
    (peek 3).serve.Ensures disk (fun _ _ => False) fun failure after => ¬after.cache.IsFull ∧
      (∃ why, failure = .fault why) ∧ after.Consistent ∧ after.overlay = disk.overlay := by
  have inside : SectorId.ofNat 1 ∈ sectors (RamDisk.zeroed 3) := by
    rw [SectorArray.mem_iff, show (sectors (RamDisk.zeroed 3)).count = 3 from Array.size_replicate,
      SectorId.index_ofNat (by decide)]
    decide
  have start : Reached (RamDisk.zeroed 3) (sectors (RamDisk.zeroed 3)) ⟨.zeroed 3, .empty 1 (by decide)⟩ :=
    .fresh (by decide)
  obtain ⟨disk, reached, replaces⟩ := start.access trivial (inBounds_poke inside) inside ⟨rfl, by decide⟩
  have resident := replaces.arrived
  have full : disk.cache.IsFull := by
    obtain ⟨i, entry, held, -⟩ := Cache.isResident_iff.mp resident
    intro j
    rw [Subsingleton.elim j i]
    exact ⟨entry, held⟩
  have shown := reached.shows (show Sound (RamDisk.zeroed 3) from trivial)
  have outside : SectorId.ofNat 3 ∉ (poke 1).apply (sectors (RamDisk.zeroed 3)) := by
    have count : SectorArray.count _ = 3 := reached.count.trans Array.size_replicate
    rw [SectorArray.mem_iff, count, SectorId.index_ofNat (by decide)]
    exact Nat.lt_irrefl 3
  have refused : (peek 3).serve.Ensures disk (fun _ _ => False) fun _ after => ¬after.cache.IsFull := by
    refine .bind (.bind (requireWithin_ensures (by decide) (.bind ?_)))
    exact (resident_vacates shown outside).mono (fun _ _ never => never.elim) fun _ _ failed => failed
  have harmless := (failure_harmless reached).2.2 (peek 3)
  refine ⟨_, disk, reached, full, resident, (refused.and harmless).mono ?_ fun _ _ failed => failed⟩
  exact fun _ _ never => never.1

end CachedDisk

end InodeVolume
