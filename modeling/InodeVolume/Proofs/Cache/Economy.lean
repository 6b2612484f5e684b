import Mathlib.Algebra.BigOperators.Fin
import Mathlib.Algebra.Order.Group.Multiset
import InodeVolume.Proofs.Cache.Watched

/-!
# What a cache asks of its device

A cache reads from its device once for each miss, and a write to it is written back once at most.

* **slots** — `dirty` is what is to be written back. Taking a copy out of a slot, or calling it clean,
  takes its place from `dirty` and nothing else;
* **requests** — `serve_spends`: what one request reads and writes back. What it takes from `dirty` it has
  written, and it adds the sector that it writes to;
* **runs** — `tally_spends` adds this up, and `io_economy` has the counts of the disk from it.
-/

namespace InodeVolume

/-! ## Slots -/

namespace Cache

variable {n : Nat} {cache before after : Cache n} {sector : SectorId} {i : Fin n} {entry : Entry}

/-- The place that a copy is to be written back to, if it is. -/
def stain : Option Entry → Multiset Nat
  | some entry => if entry.dirty = true then {entry.sector.index} else 0
  | none => 0

/-- The places that are to be written back. -/
def dirty (cache : Cache n) : Multiset Nat := ∑ i, stain (cache.copy i)

/-- How many slots are dirty. -/
def dirtyCount (cache : Cache n) : Nat :=
  (Finset.univ.filter fun i : Fin n => (getElem cache.slots i i.isLt).any (·.dirty) = true).card

@[simp] theorem stain_none : stain none = 0 := rfl

@[simp] theorem stain_unmarked : stain (some entry.unmarked) = stain (some entry) := rfl

theorem stain_of_clean (clean : entry.dirty = false) : stain (some entry) = 0 := by
  simp [stain, clean]

theorem stain_of_dirty (dirty : entry.dirty = true) : stain (some entry) = {entry.sector.index} := by
  simp [stain, dirty]

theorem mem_stain {place : Nat} {held : Option Entry} :
    place ∈ stain held ↔ ∃ entry, held = some entry ∧ entry.dirty = true ∧ entry.sector.index = place := by
  cases held with
  | none => simp
  | some entry =>
      cases dirty : entry.dirty with
      | false => simp [stain_of_clean dirty, dirty]
      | true =>
          rw [stain_of_dirty dirty, Multiset.mem_singleton]
          constructor
          · intro same
            exact ⟨entry, rfl, dirty, same.symm⟩
          · rintro ⟨other, same, -, place⟩
            rw [Option.some.inj same, place]

theorem mem_dirty {place : Nat} :
    place ∈ cache.dirty ↔
      ∃ i entry, cache.copy i = some entry ∧ entry.dirty = true ∧ entry.sector.index = place := by
  simp [dirty, Multiset.mem_sum, mem_stain]

theorem card_dirty (cache : Cache n) : cache.dirty.card = cache.dirtyCount := by
  rw [dirty, dirtyCount, Multiset.card_sum, Finset.card_filter]
  refine Finset.sum_congr rfl fun i _ => ?_
  unfold copy
  cases getElem cache.slots i i.isLt with
  | none => rfl
  | some entry => cases dirty : entry.dirty <;> simp [stain, dirty]

@[simp] theorem dirty_empty (nonempty : 0 < n) : (empty n nonempty).dirty = 0 := by
  simp [dirty]

/-- Where one slot changes, what it was to write back goes and what it is to write back comes. -/
theorem dirty_change (before after : Cache n) (i : Fin n) (others : ∀ j, j ≠ i → after.copy j = before.copy j) :
    after.dirty + stain (before.copy i) = before.dirty + stain (after.copy i) := by
  have rest : ∑ j ∈ Finset.univ.erase i, stain (after.copy j) = ∑ j ∈ Finset.univ.erase i, stain (before.copy j) :=
    Finset.sum_congr rfl fun j away => by rw [others j (Finset.ne_of_mem_erase away)]
  rw [dirty, dirty, ← Finset.add_sum_erase _ _ (Finset.mem_univ i), ← Finset.add_sum_erase _ _ (Finset.mem_univ i), rest]
  ac_rfl

theorem dirty_congr (same : after.copy = before.copy) : after.dirty = before.dirty := by
  rw [dirty, dirty, same]

theorem dirty_put (cache : Cache n) (i : Fin n) (entry : Entry) :
    (cache.put i entry).dirty + stain (cache.copy i) = cache.dirty + stain (some entry) := by
  rw [dirty_change cache _ i fun j away => by rw [copy_put, if_neg away], copy_put, if_pos rfl, stain_unmarked]

/-- Filling a slot adds at most the place of its new copy. -/
theorem dirty_put_le (cache : Cache n) (i : Fin n) (entry : Entry) :
    (cache.put i entry).dirty ≤ cache.dirty + stain (some entry) := by
  rw [← dirty_put]
  exact Multiset.le_add_right _ _

theorem dirty_clear (cache : Cache n) (i : Fin n) :
    (cache.clear i).dirty + stain (cache.copy i) = cache.dirty := by
  rw [dirty_change cache _ i fun j away => by rw [copy_clear, if_neg away], copy_clear, if_pos rfl, stain_none, add_zero]

/-- What is written back to make room for a sector. -/
def givenUp (cache : Cache n) (sector : SectorId) : Multiset Nat :=
  if cache.isResident sector = true then 0 else stain (cache.copy cache.room.1)

theorem givenUp_of_find? (found : cache.find? sector = some (i, entry)) : cache.givenUp sector = 0 := by
  rw [givenUp, isResident, found]
  rfl

theorem givenUp_of_absent (absent : cache.find? sector = none) :
    cache.givenUp sector = stain (cache.copy cache.room.1) := by
  rw [givenUp, isResident, absent]
  rfl

/-- A sector is not given up for itself. -/
theorem not_mem_givenUp (cache : Cache n) (sector : SectorId) : sector.index ∉ cache.givenUp sector := by
  intro given
  unfold givenUp at given
  split at given
  · exact Multiset.notMem_zero _ given
  · rename_i absent
    obtain ⟨entry, held, -, same⟩ := mem_stain.mp given
    exact absent (isResident_iff.mpr ⟨_, entry, held, SectorId.index_injective same⟩)

end Cache

/-! ## Bringing a sector in -/

namespace CachedDisk

variable {n : Nat} {disk : CachedDisk Watched n} {array : SectorArray} {sector : SectorId}

open Cache (stain)
open Watched (Costs)

/-- What was to be written back at first and is not any more has been written, and nothing was read. -/
def Paid (first last : CachedDisk Watched n) : Prop :=
  ∃ stores, Costs 0 stores first.device last.device ∧ last.cache.dirty + stores = first.cache.dirty

theorem Paid.refl (disk : CachedDisk Watched n) : Paid disk disk := ⟨0, Costs.refl _, add_zero _⟩

theorem Paid.trans {first second third : CachedDisk Watched n} (paid : Paid first second) (more : Paid second third) :
    Paid first third := by
  obtain ⟨stores, costs, balance⟩ := paid
  obtain ⟨stores', costs', balance'⟩ := more
  refine ⟨stores + stores', costs.trans costs', ?_⟩
  rw [← balance, ← balance', add_assoc, add_comm stores]

/-- Where nothing is left to write back, everything has been. -/
theorem Paid.all {first last : CachedDisk Watched n} (paid : Paid first last)
    (clean : ∀ i entry, last.cache.copy i = some entry → entry.dirty = false) :
    Costs 0 first.cache.dirty first.device last.device ∧ last.cache.dirty = 0 := by
  have settled : last.cache.dirty = 0 := by
    apply Multiset.eq_zero_of_forall_notMem
    intro place listed
    obtain ⟨i, entry, held, dirty, -⟩ := Cache.mem_dirty.mp listed
    rw [clean i entry held] at dirty
    cases dirty
  obtain ⟨stores, costs, balance⟩ := paid
  rw [settled, zero_add] at balance
  exact ⟨balance ▸ costs, settled⟩

/-- A slot that is flushed has cost what it was to write back. -/
theorem flush_costs (i : Fin n) :
    (flush i).Ensures disk
      (fun _ after => Costs 0 (stain (disk.cache.copy i)) disk.device after.device ∧
        after.cache.dirty + stain (disk.cache.copy i) = disk.cache.dirty)
      fun _ _ => True := by
  have device : (flush i).Ensures disk
      (fun _ after => Costs 0 (stain (disk.cache.copy i)) disk.device after.device) fun _ _ => True := by
    unfold flush slot
    refine .bind (.bind (Action.ensures_get.mpr (Action.ensures_pure.mpr ?_)))
    cases here : getElem disk.cache.slots i i.isLt with
    | none =>
        rw [Cache.copy, here]
        refine Action.ensures_within.mpr (Action.ensures_modify.mpr ?_)
        exact Costs.refl _
    | some entry =>
        rw [Cache.copy_of_slot here, Cache.stain_unmarked]
        cases dirty : entry.dirty with
        | false =>
            rw [Cache.stain_of_clean dirty]
            simp only [dirty, Bool.false_eq_true, if_false]
            refine Action.ensures_within.mpr (Action.ensures_modify.mpr ?_)
            exact Costs.refl _
        | true =>
            simp only [dirty]
            rw [Cache.stain_of_dirty dirty]
            refine .bind (Action.ensures_within.mpr ((Watched.writeSector_costs _ _).mono ?_ fun _ _ _ => trivial))
            intro _ device costs
            exact Action.ensures_within.mpr (Action.ensures_modify.mpr costs)
  refine (device.and (flush_clears i)).mono ?_ fun _ _ _ => trivial
  intro _ after done
  obtain ⟨costs, cleared⟩ := done
  rw [cleared]
  exact ⟨costs, Cache.dirty_clear _ i⟩

/-- A slot that is cleaned has cost what it was to write back. -/
theorem clean_costs (i : Fin n) :
    (clean i).Ensures disk
      (fun _ after => Costs 0 (stain (disk.cache.copy i)) disk.device after.device ∧
        after.cache.dirty + stain (disk.cache.copy i) = disk.cache.dirty)
      fun _ _ => True := by
  unfold clean slot
  refine .bind (.bind (Action.ensures_get.mpr (Action.ensures_pure.mpr ?_)))
  cases here : getElem disk.cache.slots i i.isLt with
  | none =>
      rw [Cache.copy, here]
      exact Action.ensures_pure.mpr ⟨Costs.refl _, add_zero _⟩
  | some entry =>
      have held := Cache.copy_of_slot here
      cases dirty : entry.dirty with
      | false =>
          simp only [dirty]
          rw [held, Cache.stain_unmarked, Cache.stain_of_clean dirty]
          exact Action.ensures_pure.mpr ⟨Costs.refl _, add_zero _⟩
      | true =>
          simp only [dirty]
          refine .bind (Action.ensures_within.mpr ((Watched.writeSector_costs _ _).mono ?_ fun _ _ _ => trivial))
          intro _ device costs
          refine Action.ensures_within.mpr (Action.ensures_modify.mpr ⟨?_, ?_⟩)
          · rw [held, Cache.stain_unmarked, Cache.stain_of_dirty dirty]
            exact costs
          · rw [Cache.dirty_put, Cache.stain_of_clean rfl, add_zero]

/-- Room costs what its slot was to write back. -/
theorem makeRoom_costs (newcomer : SectorId) :
    (makeRoom newcomer).Ensures disk
      (fun _ after => Costs 0 (stain (disk.cache.copy disk.cache.room.1)) disk.device after.device)
      fun _ _ => True := by
  unfold makeRoom Cache.room
  refine .bind (Action.ensures_get.mpr ?_)
  cases vacancy : disk.cache.vacant? with
  | some i =>
      rw [Cache.copy_of_vacant? vacancy]
      exact Action.ensures_pure.mpr (Costs.refl _)
  | none =>
      unfold slot
      refine .bind (Action.ensures_within.mpr (Action.ensures_modifyGet.mpr ?_))
      refine .bind (.bind (Action.ensures_get.mpr (Action.ensures_pure.mpr ?_)))
      refine .bind (Action.ensures_emit.mpr (.bind ?_))
      refine (flush_costs disk.cache.victim.1).mono ?_ fun _ _ _ => trivial
      intro _ after ⟨costs, _⟩
      rw [Cache.copy_victim] at costs
      exact Action.ensures_pure.mpr costs

/-- A sector that is not resident costs one read, and what is given up for it. It comes in clean. -/
theorem resident_costs (sector : SectorId) :
    (resident sector).Ensures disk
      (fun found after =>
        Costs (if disk.cache.isResident sector = true then 0 else {sector.index}) (disk.cache.givenUp sector)
          disk.device after.device ∧
        after.cache.dirty + disk.cache.givenUp sector = disk.cache.dirty ∧
        after.cache.copy found.1 = some found.2.unmarked ∧ found.2.sector = sector)
      fun _ _ => True := by
  unfold resident
  refine .bind (Action.ensures_get.mpr ?_)
  cases found : disk.cache.find? sector with
  | some place =>
      obtain ⟨held, named⟩ := Cache.copy_of_find? found
      have resident : disk.cache.isResident sector = true := by rw [Cache.isResident, found]; rfl
      rw [Cache.givenUp_of_find? found, if_pos resident]
      exact .bind (Action.ensures_emit.mpr (Action.ensures_pure.mpr ⟨Costs.refl _, add_zero _, held, named⟩))
  | none =>
      have absent : disk.cache.isResident sector ≠ true := by rw [Cache.isResident, found]; exact Bool.false_ne_true
      rw [Cache.givenUp_of_absent found, if_neg absent]
      refine .bind (Action.ensures_emit.mpr (.bind ?_))
      refine ((makeRoom_costs sector).and (makeRoom_room sector)).mono ?_ fun _ _ _ => trivial
      intro i between room
      obtain ⟨made, rfl, filled⟩ := room
      refine .bind (Action.ensures_within.mpr ((Watched.readSector_costs _ _).mono ?_ fun _ _ _ => trivial))
      intro data device read
      refine .bind (Action.ensures_within.mpr (Action.ensures_modify.mpr (Action.ensures_pure.mpr ⟨?_, ?_, ?_, rfl⟩)))
      · have costs := made.trans read
        rw [zero_add, add_zero] at costs
        exact costs
      · have balance := Cache.dirty_put disk.cache.room.2 disk.cache.room.1 ⟨sector, data, false, false⟩
        rw [Cache.copy_room, Cache.stain_of_clean rfl, add_zero, ← filled] at balance
        rw [balance]
        exact Cache.dirty_congr (Cache.copy_room disk.cache)
      · show (between.cache.put _ _).copy _ = _
        rw [Cache.copy_put, if_pos rfl]

variable {buffer : Bytes} {start length offset : Nat}

/-- A read keeps everything that is to be written back, apart from what is given up. -/
theorem readInto_costs :
    (readInto sector buffer start length offset).Ensures disk
      (fun _ after =>
        Costs (if disk.cache.isResident sector = true then 0 else {sector.index}) (disk.cache.givenUp sector)
          disk.device after.device ∧
        after.cache.dirty + disk.cache.givenUp sector = disk.cache.dirty)
      fun _ _ => True := by
  refine .bind ((requireWithin_cases offset length).mono ?_ fun _ _ _ => trivial)
  rintro _ _ ⟨-, rfl⟩
  refine .bind ((resident_costs sector).mono ?_ fun _ _ _ => trivial)
  rintro found ⟨device, cache⟩ ⟨costs, balance, held, -⟩
  refine .bind ((requireInside_cases start length buffer.size).mono ?_ fun _ _ _ => trivial)
  rintro _ _ ⟨-, rfl⟩
  refine .bind (Action.ensures_within.mpr (Action.ensures_modify.mpr (Action.ensures_pure.mpr ⟨costs, ?_⟩)))
  rw [← balance]
  exact congrArg (· + _) (Cache.dirty_congr (Cache.copy_put_self held))

/-- A write adds the sector at most to what is to be written back. -/
theorem writeFrom_costs :
    (writeFrom sector buffer start length offset).Ensures disk
      (fun _ after =>
        Costs (if disk.cache.isResident sector = true then 0 else {sector.index}) (disk.cache.givenUp sector)
          disk.device after.device ∧
        after.cache.dirty + disk.cache.givenUp sector ≤ disk.cache.dirty + {sector.index})
      fun _ _ => True := by
  refine .bind ((requireWithin_cases offset length).mono ?_ fun _ _ _ => trivial)
  rintro _ before ⟨-, rfl⟩
  refine .bind ((resident_costs sector).mono ?_ fun _ _ _ => trivial)
  rintro found ⟨device, cache⟩ ⟨costs, balance, -, named⟩
  refine .bind ((requireInside_cases start length buffer.size).mono ?_ fun _ _ _ => trivial)
  rintro _ _ ⟨-, rfl⟩
  dsimp only
  split
  · refine Action.ensures_within.mpr (Action.ensures_modify.mpr ⟨costs, ?_⟩)
    have written := Cache.dirty_put_le cache found.1
      { found.2 with data := found.2.data.splice offset (Bytes.slice buffer start length) ‹_›, dirty := true, accessed := true }
    rw [Cache.stain_of_dirty rfl, named] at written
    calc _ ≤ cache.dirty + {sector.index} + before.cache.givenUp sector := by gcongr
      _ = before.cache.dirty + {sector.index} := by rw [← balance, add_right_comm]
  · exact Action.ensures_fault.mpr trivial

/-- Writing all slots back has cost what was to be written back. -/
theorem sync_costs (shown : disk.Shows array) :
    (sync : Action (CachedDisk Watched n) Unit).Ensures disk
      (fun _ after => Costs 0 disk.cache.dirty disk.device after.device ∧ after.cache.dirty = 0) fun _ _ => False := by
  have paid : (sync : Action (CachedDisk Watched n) Unit).Ensures disk (fun _ after => Paid disk after) fun _ _ => True := by
    refine Action.Ensures.forM (fun _ after => Paid disk after) ?_ (Paid.refl disk)
    intro i _ before paid
    exact (clean_costs i).mono (fun _ _ turn => paid.trans ⟨_, turn⟩) fun _ _ _ => trivial
  refine ((sync_ensures shown).and paid).mono ?_ fun _ _ failed => failed.1
  intro _ after ⟨⟨_, _, copies⟩, paid⟩
  refine paid.all ?_
  intro i entry held
  rw [copies] at held
  obtain ⟨kept, -, rfl⟩ := Option.map_eq_some_iff.mp held
  rfl

theorem shutdown_costs (shown : disk.Shows array) :
    (shutdown : Action (CachedDisk Watched n) Unit).Ensures disk
      (fun _ after => Costs 0 disk.cache.dirty disk.device after.device ∧ after.cache.dirty = 0) fun _ _ => False := by
  have paid : (shutdown : Action (CachedDisk Watched n) Unit).Ensures disk (fun _ after => Paid disk after)
      fun _ _ => True := by
    refine .bind ((Action.Ensures.forM (fun _ after => Paid disk after) ?_ (Paid.refl disk)).mono ?_
      fun _ _ failed => failed)
    · intro i _ before paid
      exact (flush_costs i).mono (fun _ _ turn => paid.trans ⟨_, turn⟩) fun _ _ _ => trivial
    · intro _ after paid
      exact Action.ensures_within.mpr (Action.ensures_modify.mpr paid)
  refine ((shutdown_ensures shown).and paid).mono ?_ fun _ _ failed => failed.1
  intro _ after ⟨⟨_, _, emptied⟩, paid⟩
  refine paid.all ?_
  intro i entry held
  rw [emptied] at held
  cases held

end CachedDisk

/-! ## Requests -/

namespace CacheRequest

variable {n : Nat} {disk : CachedDisk Watched n} {array : SectorArray} {sector : SectorId}
  {request : CacheRequest} {requests : List CacheRequest}

open Watched (Costs)

/-- What a request reads from the device. -/
def loads (cache : Cache n) : CacheRequest → Multiset Nat
  | read sector _ _ _ _ | write sector _ _ _ _ => if cache.isResident sector = true then 0 else {sector.index}
  | isResident _ | sync | shutdown => 0

/-- What a request writes back. -/
def writesBack (cache : Cache n) : CacheRequest → Multiset Nat
  | read sector _ _ _ _ | write sector _ _ _ _ => cache.givenUp sector
  | isResident _ => 0
  | sync | shutdown => cache.dirty

/-- What is to be written back for a request, sooner or later. -/
def stains : CacheRequest → Multiset Nat
  | write sector _ _ _ _ => {sector.index}
  | read .. | isResident _ | sync | shutdown => 0

/-- Whether a request writes to the cache. -/
def isWrite : CacheRequest → Bool
  | write .. => true
  | read .. | isResident _ | sync | shutdown => false

/-- Whether a request writes to a sector. -/
def writesTo (sector : SectorId) : CacheRequest → Bool
  | write target _ _ _ _ => target == sector
  | read .. | isResident _ | sync | shutdown => false

theorem card_loads (cache : Cache n) (request : CacheRequest) :
    (request.loads cache).card = request.misses cache := by
  cases request with
  | read sector buffer start length offset | write sector buffer start length offset =>
      simp only [loads, misses]
      split <;> rfl
  | isResident _ | sync | shutdown => rfl

/-- Only what is dirty is written back. -/
theorem mem_dirty_of_writesBack {cache : Cache n} {place : Nat} (written : place ∈ request.writesBack cache) :
    place ∈ cache.dirty := by
  cases request with
  | read sector buffer start length offset | write sector buffer start length offset =>
      simp only [writesBack, Cache.givenUp] at written
      split at written
      · exact absurd written (Multiset.notMem_zero _)
      · obtain ⟨entry, held, dirty, same⟩ := Cache.mem_stain.mp written
        exact Cache.mem_dirty.mpr ⟨_, entry, held, dirty, same⟩
  | isResident _ => exact absurd written (Multiset.notMem_zero _)
  | sync | shutdown => exact written

/-- No request writes back the sector that it is for. -/
theorem Accesses.not_mem_writesBack {cache : Cache n} (accesses : request.Accesses sector) :
    sector.index ∉ request.writesBack cache := by
  cases request with
  | read target buffer start length offset | write target buffer start length offset =>
      obtain ⟨rfl, -⟩ := accesses
      exact cache.not_mem_givenUp target
  | isResident _ | sync | shutdown => exact accesses.elim

/-- **One request** reads what it misses and writes back what it gives up or settles. What is to be written
back afterwards was so before, and was not written, or it is written now. -/
theorem serve_spends (shown : disk.Shows array) (inBounds : request.InBounds array) :
    request.serve.Ensures disk
      (fun _ after => Costs (request.loads disk.cache) (request.writesBack disk.cache) disk.device after.device ∧
        after.cache.dirty + request.writesBack disk.cache ≤ disk.cache.dirty + request.stains)
      fun _ _ => False := by
  have spends : request.serve.Ensures disk
      (fun _ after => Costs (request.loads disk.cache) (request.writesBack disk.cache) disk.device after.device ∧
        after.cache.dirty + request.writesBack disk.cache ≤ disk.cache.dirty + request.stains) fun _ _ => True := by
    cases request with
    | read sector buffer start length offset =>
        refine .bind (CachedDisk.readInto_costs.mono ?_ fun _ _ _ => trivial)
        intro _ after ⟨costs, balance⟩
        exact Action.ensures_pure.mpr ⟨costs, balance.le.trans (Multiset.le_add_right _ _)⟩
    | write sector buffer start length offset =>
        refine .bind (CachedDisk.writeFrom_costs.mono ?_ fun _ _ _ => trivial)
        intro _ after spent
        exact Action.ensures_pure.mpr spent
    | isResident sector =>
        exact .bind (Action.ensures_get.mpr (Action.ensures_pure.mpr ⟨Costs.refl _, le_rfl⟩))
    | sync =>
        refine .bind ((CachedDisk.sync_costs shown).mono ?_ fun _ _ _ => trivial)
        intro _ after ⟨costs, settled⟩
        refine Action.ensures_pure.mpr ⟨costs, ?_⟩
        rw [settled, add_comm]
        exact le_rfl
    | shutdown =>
        refine .bind ((CachedDisk.shutdown_costs shown).mono ?_ fun _ _ _ => trivial)
        intro _ after ⟨costs, settled⟩
        refine Action.ensures_pure.mpr ⟨costs, ?_⟩
        rw [settled, add_comm]
        exact le_rfl
  exact ((serve_done shown inBounds).and spends).mono (fun _ _ both => both.2) fun _ _ failed => failed.1

/-! ## Runs -/

/-- **A run** reads once for each miss. What it writes back, and what is to be written back at its end, was
to be written back at its beginning or was written to in its course. -/
theorem tally_spends (shown : disk.Shows array) (inBounds : ∀ request ∈ requests, request.InBounds array) :
    (tally requests).Ensures disk
      (fun missed after => ∃ loads stores array', loads.card = missed ∧ Costs loads stores disk.device after.device ∧
        after.cache.dirty + stores ≤ disk.cache.dirty + (requests.map stains).sum ∧
        after.Shows array' ∧ array'.count = array.count)
      fun _ _ => False := by
  -- by induction on the requests: what the first one has spent is added to what the rest spends
  induction requests generalizing disk array with
  | nil =>
      refine Action.ensures_pure.mpr ⟨0, 0, array, rfl, Costs.refl _, ?_, shown, rfl⟩
      simp
  | cons request rest ih =>
      have first := inBounds request List.mem_cons_self
      have later : ∀ request' ∈ rest, request'.InBounds (request.apply array) := by
        intro request' listed
        exact (inBounds request' (List.mem_cons_of_mem _ listed)).of_count (count_apply array request)
      refine .bind (Action.ensures_get.mpr (.bind ?_))
      refine ((serve_done shown first).and (serve_spends shown first)).mono ?_ fun _ _ failed => failed.1
      intro _ between ⟨shown', costs, balance⟩
      refine .bind ((ih shown' later).mono ?_ fun _ _ failed => failed)
      intro missed after ⟨loads, stores, array', misses, costs', balance', shown'', same⟩
      refine Action.ensures_pure.mpr ⟨_, _, array', ?_, costs.trans costs', ?_, shown'', ?_⟩
      · rw [Multiset.card_add, card_loads, misses]
      · calc after.cache.dirty + (request.writesBack disk.cache + stores)
            = after.cache.dirty + stores + request.writesBack disk.cache := by ac_rfl
          _ ≤ between.cache.dirty + (rest.map stains).sum + request.writesBack disk.cache := by gcongr
          _ = between.cache.dirty + request.writesBack disk.cache + (rest.map stains).sum := by ac_rfl
          _ ≤ disk.cache.dirty + request.stains + (rest.map stains).sum := by gcongr
          _ = disk.cache.dirty + ((request :: rest).map stains).sum := by
            rw [List.map_cons, List.sum_cons, add_assoc]
      · rw [same, count_apply]

theorem card_stains (requests : List CacheRequest) : (requests.map stains).sum.card = requests.countP isWrite := by
  induction requests with
  | nil => rfl
  | cons request rest ih =>
      rw [List.map_cons, List.sum_cons, Multiset.card_add, ih, List.countP_cons, Nat.add_comm]
      cases request <;> rfl

theorem count_stains (sector : SectorId) (requests : List CacheRequest) :
    (requests.map stains).sum.count sector.index = requests.countP (writesTo sector) := by
  induction requests with
  | nil => rfl
  | cons request rest ih =>
      rw [List.map_cons, List.sum_cons, Multiset.count_add, ih, List.countP_cons, Nat.add_comm]
      congr 1
      cases request with
      | write target buffer start length offset =>
          simp only [stains, writesTo, Multiset.count_singleton, beq_iff_eq]
          by_cases same : target = sector
          · simp [same]
          · have apart : sector.index ≠ target.index := fun equal => same (SectorId.index_injective equal.symm)
            simp [same, apart]
      | read _ _ _ _ _ | isResident _ | sync | shutdown => rfl

end CacheRequest

/-! ## Economy -/

namespace CachedDisk

variable {n : Nat} {disk : CachedDisk Watched n} {array : SectorArray} {sector : SectorId}

/-- No sector is to be written back twice. -/
theorem Shows.count_dirty_le (shown : disk.Shows array) (place : Nat) : disk.cache.dirty.count place ≤ 1 := by
  by_cases listed : place ∈ disk.cache.dirty
  · obtain ⟨i, entry, held, dirty, rfl⟩ := Cache.mem_dirty.mp listed
    have alone : ∀ j, j ≠ i → (Cache.stain (disk.cache.copy j)).count entry.sector.index = 0 := by
      intro j away
      apply Multiset.count_eq_zero.mpr
      intro stained
      obtain ⟨other, held', -, same⟩ := Cache.mem_stain.mp stained
      exact away (shown.apart j i other entry held' held (SectorId.index_injective same))
    rw [Cache.dirty, Multiset.count_sum', Finset.sum_eq_single i (fun j _ => alone j) (by simp), held,
      Cache.stain_of_dirty dirty, Multiset.count_singleton_self]
  · rw [Multiset.count_eq_zero.mpr listed]
    exact Nat.zero_le 1

/-- What a run has cost by one point of it, and what it may go on to. -/
structure Economical (device : RamDisk) (calls : List CacheRequest) (missed : Nat) (disk : CachedDisk Watched n) :
    Prop where
  /-- The disk was read once for each miss. -/
  reads : disk.device.disk.reads = device.reads + missed
  /-- Each write to the cache was written back once, or is yet to be, or was followed by another one before. -/
  writes : disk.device.disk.writes + disk.cache.dirtyCount ≤ device.writes + calls.countP CacheRequest.isWrite
  /-- The places that are remembered are those that the disk has counted. -/
  remembered : disk.device.disk.reads = device.reads + disk.device.loaded.card ∧
    disk.device.disk.writes = device.writes + disk.device.stored.card
  /-- From here to any later point, a sector is written back once more at most than it is written to. -/
  once : ∀ later : List CacheRequest, (∀ request ∈ later, request.InBounds ⟨device.sectors⟩) → ∀ sector : SectorId,
    (CacheRequest.tally later).Ensures disk
      (fun _ after => after.device.stored.count sector.index ≤
        disk.device.stored.count sector.index + 1 + later.countP (CacheRequest.writesTo sector))
      fun _ _ => False
  /-- The next request writes back nothing that is clean, and not the sector that it is for. -/
  clean : ∀ request : CacheRequest, request.InBounds ⟨device.sectors⟩ → request.serve.Ensures disk
    (fun _ after => ∃ stores, after.device.stored = disk.device.stored + stores ∧
      ∀ sector : SectorId, sector.index ∈ stores → ¬request.Accesses sector ∧
        ∃ i entry, disk.cache.copy i = some entry ∧ entry.dirty = true ∧ entry.sector = sector)
    fun _ _ => False
  /-- Behind a sync or a shutdown, a sync writes nothing. -/
  settled : ∀ request : CacheRequest, request = .sync ∨ request = .shutdown → request.serve.Ensures disk
    (fun _ between => CacheRequest.sync.serve.Ensures between
      (fun _ after => after.device.disk.writes = between.device.disk.writes) fun _ _ => False)
    fun _ _ => False

/-- Behind a sync or a shutdown nothing is left to write back. -/
theorem Shows.settled (shown : disk.Shows array) {request : CacheRequest} (settles : request = .sync ∨ request = .shutdown) :
    request.serve.Ensures disk
      (fun _ between => CacheRequest.sync.serve.Ensures between
        (fun _ after => after.device.disk.writes = between.device.disk.writes) fun _ _ => False)
      fun _ _ => False := by
  have clean : request.serve.Ensures disk (fun _ between => between.cache.dirty = 0 ∧ between.Shows array)
      fun _ _ => False := by
    rcases settles with rfl | rfl
    · refine .bind (((sync_costs shown).and (sync_ensures shown)).mono ?_ fun _ _ failed => failed.1)
      intro _ between ⟨costs, shown', _⟩
      exact Action.ensures_pure.mpr ⟨costs.2, shown'⟩
    · refine .bind (((shutdown_costs shown).and (shutdown_ensures shown)).mono ?_ fun _ _ failed => failed.1)
      intro _ between ⟨costs, shown', _⟩
      exact Action.ensures_pure.mpr ⟨costs.2, shown'⟩
  refine clean.mono ?_ fun _ _ failed => failed
  intro _ between ⟨unstained, shown'⟩
  refine .bind ((sync_costs shown').mono ?_ fun _ _ failed => failed)
  intro _ after ⟨costs, _⟩
  have writes := costs.writes
  rw [unstained] at writes
  exact Action.ensures_pure.mpr writes

end CachedDisk

namespace CacheRequest

variable {n : Nat}

open CachedDisk (Economical)

/-- **Economy.** From a fresh cache over any disk in memory, every run of requests within bounds comes to
its end and is economical there, and so at every point of it, which is the end of a shorter run. The disk
may be watched meanwhile: that leads to the same end. -/
theorem io_economy (device : RamDisk) (nonempty : 0 < n) (requests : List CacheRequest)
    (inBounds : ∀ request ∈ requests, request.InBounds ⟨device.sectors⟩) (log : Array Event) :
    ∃ (missed : Nat) (disk : CachedDisk Watched n) (written : Array Event),
      (tally requests).run ⟨⟨device, .empty n nonempty⟩, log⟩ = .ok missed ⟨disk.above Watched.disk, written⟩ ∧
      (tally requests).run ⟨⟨Watched.start device, .empty n nonempty⟩, log⟩ = .ok missed ⟨disk, written⟩ ∧
      Economical device requests missed disk := by
  have shown : (⟨Watched.start device, .empty n nonempty⟩ : CachedDisk Watched n).Shows ⟨device.sectors⟩ :=
    CachedDisk.Shows.fresh trivial nonempty
  obtain ⟨missed, disk, written, ran, loads, stores, array, misses, costs, balance, shown', same⟩ :=
    (tally_spends shown inBounds).ends log
  have plain := tally_mirrors Watched.reflects requests ⟨Watched.start device, Cache.empty n nonempty⟩ log
  rw [ran] at plain
  have within : ∀ {request : CacheRequest}, request.InBounds ⟨device.sectors⟩ → request.InBounds array :=
    fun bounds => bounds.of_count same
  have loaded : disk.device.loaded = loads := costs.loaded.trans (zero_add loads)
  have stored : disk.device.stored = stores := costs.stored.trans (zero_add stores)
  have spent : disk.device.stored + disk.cache.dirty ≤ (requests.map stains).sum := by
    rw [Cache.dirty_empty, zero_add] at balance
    rw [stored, add_comm]
    exact balance
  refine ⟨missed, disk, written, plain, ran, ?_, ?_, ?_, ?_, ?_, fun _ settles => shown'.settled settles⟩
  · rw [costs.reads, misses]
    rfl
  · have counted := Multiset.card_le_card spent
    rw [Multiset.card_add, card_stains, Cache.card_dirty, stored] at counted
    rw [costs.writes, Nat.add_assoc]
    exact Nat.add_le_add_left counted _
  · rw [loaded, stored]
    exact ⟨costs.reads, costs.writes⟩
  · intro later bounds sector
    refine (tally_spends shown' fun request listed => within (bounds request listed)).mono ?_ fun _ _ failed => failed
    intro _ after ⟨_, more, _, _, costs', balance', _⟩
    have counted := Multiset.count_le_of_le sector.index balance'
    rw [Multiset.count_add, Multiset.count_add, count_stains] at counted
    have once := shown'.count_dirty_le sector.index
    rw [costs'.stored, Multiset.count_add]
    omega
  · intro request bounds
    refine (serve_spends shown' (within bounds)).mono ?_ fun _ _ failed => failed
    intro _ after ⟨costs', _⟩
    refine ⟨_, costs'.stored, ?_⟩
    intro sector written
    refine ⟨fun accesses => accesses.not_mem_writesBack written, ?_⟩
    obtain ⟨i, entry, held, dirty, place⟩ := Cache.mem_dirty.mp (mem_dirty_of_writesBack written)
    exact ⟨i, entry, held, dirty, SectorId.index_injective place⟩

/-- In a cache of one slot a sector is written twice, pushed out between and synced twice behind. -/
theorem io_economy_single :
    ∃ requests : List CacheRequest, requests.length = 5 ∧ 0 < 1 ∧
      (∀ request ∈ requests, request.InBounds ⟨(RamDisk.zeroed 3).sectors⟩) ∧
      ∃ (missed : Nat) (disk : CachedDisk Watched 1) (written : Array Event),
        (tally requests).run ⟨⟨.zeroed 3, .empty 1 (by decide)⟩, #[]⟩ = .ok missed ⟨disk.above Watched.disk, written⟩ ∧
        (tally requests).run ⟨⟨Watched.start (.zeroed 3), .empty 1 (by decide)⟩, #[]⟩ = .ok missed ⟨disk, written⟩ ∧
        Economical (.zeroed 3) requests missed disk := by
  have inside : ∀ k < 3, SectorId.ofNat k ∈ (⟨(RamDisk.zeroed 3).sectors⟩ : SectorArray) := by
    intro k low
    have count : SectorArray.count ⟨(RamDisk.zeroed 3).sectors⟩ = 3 := Array.size_replicate
    rw [SectorArray.mem_iff, count, SectorId.index_ofNat (by omega)]
    exact low
  have inBounds : ∀ request ∈ [CachedDisk.poke 1, CachedDisk.peek 2, CachedDisk.poke 1, .sync, .sync],
      request.InBounds ⟨(RamDisk.zeroed 3).sectors⟩ := by
    intro request listed
    simp only [List.mem_cons, List.not_mem_nil, or_false] at listed
    rcases listed with rfl | rfl | rfl | rfl | rfl
    · exact CachedDisk.inBounds_poke (inside 1 (by decide))
    · exact CachedDisk.inBounds_peek (inside 2 (by decide))
    · exact CachedDisk.inBounds_poke (inside 1 (by decide))
    · trivial
    · trivial
  exact ⟨_, rfl, by decide, inBounds, io_economy (.zeroed 3) (by decide) _ inBounds #[]⟩

end CacheRequest

end InodeVolume
