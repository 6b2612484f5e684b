import InodeVolume.Proofs.Cache.Refusal
import InodeVolume.Proofs.Cache.Transparency

/-!
# What a cache may come to

A cache over any device that keeps what is written to it, and refuses what lies past its end, is asked
for anything: also for ranges and sectors that do not exist.

* **requests** — a request that is done changes the array as it says, and one that fails half-way does
  not change it (`serve_ensures`);
* **histories** — `Reached` is every disk that a fresh cache may become, with the array that has been
  written to it by then, and `Reached.shows` its invariant.
-/

namespace InodeVolume

open LawfulDevice (Sound sectors)

variable {D : Type} {n : Nat} [BlockDevice D]

namespace CachedDisk

variable {disk : CachedDisk D n} {array : SectorArray}

omit [BlockDevice D] in
/-- A range that does not lie in the buffer is refused, and the disk is left as it is. -/
theorem requireInside_cases (start length size : Nat) :
    (requireInside start length size).Ensures disk (fun _ after => start + length ≤ size ∧ after = disk)
      fun _ after => after = disk := by
  refine .bind (Action.ensures_checkedAdd.mpr ?_)
  split
  · split
    · rename_i inside
      exact Action.ensures_pure.mpr ⟨inside, rfl⟩
    · exact Action.ensures_fault.mpr rfl
  · rfl

variable [LawfulDevice D]

/-- A sector that is not resident is on the device as it is shown. -/
theorem Shows.get_of_absent (shown : disk.Shows array) {sector : SectorId}
    (absent : disk.cache.isResident sector = false) : (sectors disk.device).get sector = array.get sector := by
  rcases shown.behind sector.index with same | ⟨i, entry, held, -, place⟩
  · simp only [SectorArray.get, Array.getD_eq_getD_getElem?, same]
  · have resident : disk.cache.isResident sector = true :=
      Cache.isResident_iff.mpr ⟨i, entry, held, SectorId.index_injective place⟩
    rw [absent] at resident
    cases resident

end CachedDisk

namespace CacheRequest

variable {disk : CachedDisk D n} {array : SectorArray}

/-! ## Requests -/

variable [LawfulDevice D]

/-- Within bounds every request is done. -/
theorem serve_done (shown : disk.Shows array) {request : CacheRequest} (inBounds : request.InBounds array) :
    request.serve.Ensures disk (fun _ after => after.Shows (request.apply array)) fun _ _ => False := by
  cases request with
  | read sector buffer start length offset =>
      obtain ⟨inside, fits, room, small⟩ := inBounds
      refine .bind ((CachedDisk.readInto_ensures shown inside fits room small).mono ?_
        fun _ _ failed => failed)
      intro bytes after done
      exact Action.ensures_pure.mpr done.2
  | write sector buffer start length offset =>
      obtain ⟨inside, fits, room, small⟩ := inBounds
      have fits' : offset + (Bytes.slice buffer start length).size ≤ sectorSize := by
        rw [Bytes.size_slice _ room]
        exact fits
      refine .bind ((CachedDisk.writeFrom_ensures shown inside room small fits').mono ?_
        fun _ _ failed => failed)
      intro _ after shown
      rw [apply, dif_pos fits']
      exact Action.ensures_pure.mpr shown
  | isResident sector => exact .bind (Action.ensures_get.mpr (Action.ensures_pure.mpr shown))
  | sync =>
      refine .bind ((CachedDisk.sync_ensures shown).mono ?_ fun _ _ failed => failed)
      intro _ after done
      exact Action.ensures_pure.mpr done.1
  | shutdown =>
      refine .bind ((CachedDisk.shutdown_ensures shown).mono ?_ fun _ _ failed => failed)
      intro _ after done
      exact Action.ensures_pure.mpr done.1

variable [RefusingDevice D]

/-- **A request that fails changes nothing that is shown**, whatever was asked for and however far it
had come. -/
theorem serve_ensures (shown : disk.Shows array) (request : CacheRequest) :
    request.serve.Ensures disk (fun _ after => after.Shows (request.apply array))
      fun _ after => after.Shows array := by
  have stood : disk.Stands False array := ⟨shown, False.elim⟩
  -- a sector is brought in before the range in the buffer is looked at, and stays if that fails
  cases request with
  | read sector buffer start length offset =>
      refine .bind (.bind ((CachedDisk.requireWithin_cases offset length).mono ?_ ?_))
      · rintro _ _ ⟨fits, rfl⟩
        refine .bind ((CachedDisk.resident_stands stood sector).mono ?_ fun _ _ failed => failed.2.shown)
        rintro ⟨i, entry⟩ ⟨device, cache⟩ ⟨inside, there, held, -⟩
        refine .bind ((CachedDisk.requireInside_cases start length buffer.size).mono ?_ ?_)
        · rintro _ _ ⟨-, rfl⟩
          refine .bind (Action.ensures_within.mpr (Action.ensures_modify.mpr ?_))
          refine Action.ensures_pure.mpr (Action.ensures_pure.mpr ?_)
          exact there.shown.congr rfl (Cache.copy_put_self held)
        · rintro _ _ rfl
          exact there.shown
      · rintro _ _ ⟨-, rfl⟩
        exact shown
  | write sector buffer start length offset =>
      refine .bind (.bind ((CachedDisk.requireWithin_cases offset length).mono ?_ ?_))
      · rintro _ _ ⟨fits, rfl⟩
        refine .bind ((CachedDisk.resident_stands stood sector).mono ?_ fun _ _ failed => failed.2.shown)
        rintro ⟨i, entry⟩ ⟨device, cache⟩ ⟨inside, there, held, rfl⟩
        refine .bind ((CachedDisk.requireInside_cases start length buffer.size).mono ?_ ?_)
        · rintro _ _ ⟨room, rfl⟩
          have fits' : offset + (Bytes.slice buffer start length).size ≤ sectorSize := by
            rw [Bytes.size_slice _ room]
            exact fits
          have copied : entry.data = array.get entry.sector := (there.shown.held i entry.unmarked held).2
          simp only [dif_pos fits']
          refine Action.ensures_within.mpr (Action.ensures_modify.mpr (Action.ensures_pure.mpr ?_))
          rw [apply, dif_pos fits', ← copied]
          exact there.shown.overwrite held
        · rintro _ _ rfl
          exact there.shown
      · rintro _ _ ⟨-, rfl⟩
        exact shown
  | isResident sector => exact .bind (Action.ensures_get.mpr (Action.ensures_pure.mpr shown))
  | sync =>
      have inBounds : CacheRequest.sync.InBounds array := trivial
      exact (serve_done shown inBounds).mono (fun _ _ done => done) fun _ _ failed => failed.elim
  | shutdown =>
      have inBounds : CacheRequest.shutdown.InBounds array := trivial
      exact (serve_done shown inBounds).mono (fun _ _ done => done) fun _ _ failed => failed.elim

end CacheRequest

/-! ## Histories -/

namespace CachedDisk

variable [LawfulDevice D] {device : D} {disk : CachedDisk D n} {array : SectorArray}

/-- What a fresh cache over a device may become, whatever is asked of it and whether or not it is done,
with what has been written by then. -/
inductive Reached (device : D) : SectorArray → CachedDisk D n → Prop where
  | fresh (nonempty : 0 < n) : Reached device (sectors device) ⟨device, .empty n nonempty⟩
  | done {array : SectorArray} {disk after : CachedDisk D n} {request : CacheRequest} {reply : CacheReply}
      {log log' : Array Event} (reached : Reached device array disk)
      (run : request.serve.run ⟨disk, log⟩ = .ok reply ⟨after, log'⟩) : Reached device (request.apply array) after
  | failed {array : SectorArray} {disk after : CachedDisk D n} {request : CacheRequest} {failure : Failure}
      {log log' : Array Event} (reached : Reached device array disk)
      (run : request.serve.run ⟨disk, log⟩ = .error failure ⟨after, log'⟩) : Reached device array after

theorem Reached.count (reached : Reached device array disk) : array.count = (sectors device).count := by
  induction reached with
  | fresh _ => rfl
  | done _ _ ih => rw [CacheRequest.count_apply, ih]
  | failed _ _ ih => exact ih

/-- **Nothing that is asked of a cache leads away from the array.** -/
theorem Reached.shows [RefusingDevice D] (sound : Sound device) (reached : Reached device array disk) :
    disk.Shows array := by
  induction reached with
  | fresh nonempty => exact .fresh sound nonempty
  | @done _ _ _ request _ log _ _ run shown =>
      have here := CacheRequest.serve_ensures shown request log
      rw [run] at here
      exact here
  | @failed _ _ _ request _ log _ _ run shown =>
      have here := CacheRequest.serve_ensures shown request log
      rw [run] at here
      exact here

end CachedDisk

end InodeVolume
