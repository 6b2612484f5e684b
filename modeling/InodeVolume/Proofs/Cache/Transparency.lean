import InodeVolume.Proofs.Cache.Lawful

/-!
# Nobody can tell a cached disk from a plain array

Requests to a cache over a `RamDisk` are answered as a plain array of sectors would answer them,
whatever was asked before and whichever slots were given up on the way.

* **requests** — `CacheRequest` with what each does to the cache (`serve`) and to a plain array
  (`apply`);
* **histories** — `history` records the reply to each request and the disk it leaves, and
  `Faithful` compares a history with the plain array step by step;
* **transparency** — `history_faithful`: every run of requests within bounds has a faithful
  history, and the device it leaves behind when the cache is dropped is the plain array.
-/

namespace InodeVolume

/-! ## Requests -/

/-- What callers ask of a cache. -/
inductive CacheRequest where
  | read (sector : SectorId) (buffer : Bytes) (start length offset : Nat)
  | write (sector : SectorId) (buffer : Bytes) (start length offset : Nat)
  | isResident (sector : SectorId)
  | sync
  | shutdown

/-- What they are told. -/
inductive CacheReply where
  | buffer (bytes : Bytes)
  | flag (resident : Bool)
  | done

namespace CacheRequest

variable {n : Nat}

/-- The sector is one of the array, and the ranges lie within it and within the buffer. No buffer
has as many bytes as there are 64-bit words. -/
def InBounds (array : SectorArray) : CacheRequest → Prop
  | read sector buffer start length offset | write sector buffer start length offset =>
    sector ∈ array ∧ offset + length ≤ sectorSize ∧ start + length ≤ buffer.size ∧
      buffer.size < wordLimit
  | isResident sector => sector ∈ array
  | sync | shutdown => True

/-- Carries a request out on a cached disk over any device. -/
def serve {D : Type} [BlockDevice D] : CacheRequest → Action (CachedDisk D n) CacheReply
  | read sector buffer start length offset =>
    return .buffer (← CachedDisk.readInto sector buffer start length offset)
  | write sector buffer start length offset => do
    CachedDisk.writeFrom sector buffer start length offset
    return .done
  | isResident sector => return .flag ((← get).cache.isResident sector)
  | sync => do
    CachedDisk.sync
    return .done
  | shutdown => do
    CachedDisk.shutdown
    return .done

/-- The plain array after a request. -/
def apply (array : SectorArray) : CacheRequest → SectorArray
  | write sector buffer start length offset =>
    let patch := Bytes.slice buffer start length
    if fits : offset + patch.size ≤ sectorSize then
      array.set sector ((array.get sector).splice offset patch fits)
    else array
  | read .. | isResident .. | sync | shutdown => array

/-- Whether a request was answered as the plain array has it: a read gives the array's bytes in
their place of the buffer and the rest of the buffer as it was; a sync leaves the device equal to
the array and the residents as they were; a shutdown leaves the device equal to the array. -/
def Answered (array : SectorArray) (before : CachedDisk RamDisk n) (reply : CacheReply)
    (after : CachedDisk RamDisk n) : CacheRequest → Prop
  | read sector buffer start length offset =>
    reply = .buffer (Bytes.splice buffer start (Bytes.slice (array.get sector).bytes offset length))
  | write .. => True
  | isResident sector => reply = .flag (before.cache.isResident sector) ∧ after = before
  | sync => after.device.sectors = array.sectors ∧
    ∀ sector, after.cache.isResident sector = before.cache.isResident sector
  | shutdown => after.device.sectors = array.sectors

@[simp] theorem count_apply (array : SectorArray) (request : CacheRequest) :
    (request.apply array).count = array.count := by
  cases request with
  | write sector buffer start length offset =>
      simp only [apply]
      split
      · exact SectorArray.count_set
      · rfl
  | read sector buffer start length offset => rfl
  | isResident sector => rfl
  | sync => rfl
  | shutdown => rfl

/-- Bounds depend on the number of sectors alone. -/
theorem InBounds.of_count {array other : SectorArray} {request : CacheRequest}
    (inBounds : request.InBounds array) (same : other.count = array.count) :
    request.InBounds other := by
  cases request with
  | read sector buffer start length offset | write sector buffer start length offset =>
      refine ⟨?_, inBounds.2⟩
      rw [SectorArray.mem_iff, same]
      exact inBounds.1
  | isResident sector =>
      show sector ∈ other
      rw [SectorArray.mem_iff, same]
      exact inBounds
  | sync => trivial
  | shutdown => trivial

/-- One request: the reply is right, and the disk shows what the array has become. -/
theorem serve_answers {disk : CachedDisk RamDisk n} {array : SectorArray}
    (shown : disk.Shows array) {request : CacheRequest} (inBounds : request.InBounds array) :
    request.serve.Ensures disk
      (fun reply after => request.Answered array disk reply after ∧ after.Shows (request.apply array))
      fun _ _ => False := by
  cases request with
  | read sector buffer start length offset =>
      obtain ⟨inside, fits, room, small⟩ := inBounds
      refine .bind ((CachedDisk.readInto_ensures shown inside fits room small).mono ?_
        fun _ _ failed => failed)
      rintro bytes after ⟨rfl, shown⟩
      exact Action.ensures_pure.mpr ⟨rfl, shown⟩
  | write sector buffer start length offset =>
      obtain ⟨inside, fits, room, small⟩ := inBounds
      have fits' : offset + (Bytes.slice buffer start length).size ≤ sectorSize := by
        rw [Bytes.size_slice _ room]
        exact fits
      refine .bind ((CachedDisk.writeFrom_ensures shown inside room small fits').mono ?_
        fun _ _ failed => failed)
      intro _ after shown
      refine Action.ensures_pure.mpr ⟨trivial, ?_⟩
      rw [apply, dif_pos fits']
      exact shown
  | isResident sector =>
      exact .bind (Action.ensures_get.mpr (Action.ensures_pure.mpr ⟨⟨rfl, rfl⟩, shown⟩))
  | sync =>
      refine .bind ((CachedDisk.sync_ensures shown).mono ?_ fun _ _ failed => failed)
      rintro _ after ⟨shown, written, copies⟩
      refine Action.ensures_pure.mpr ⟨⟨congrArg SectorArray.sectors written, ?_⟩, shown⟩
      intro sector
      rw [Bool.eq_iff_iff, Cache.isResident_iff, Cache.isResident_iff]
      constructor
      · rintro ⟨i, entry, held, same⟩
        obtain ⟨kept, before, rfl⟩ := Option.map_eq_some_iff.mp ((copies i).symm.trans held)
        exact ⟨i, kept, before, same⟩
      · rintro ⟨i, entry, held, same⟩
        exact ⟨i, { entry with dirty := false }, by rw [copies, held]; rfl, same⟩
  | shutdown =>
      refine .bind ((CachedDisk.shutdown_ensures shown).mono ?_ fun _ _ failed => failed)
      rintro _ after ⟨shown, written, -⟩
      exact Action.ensures_pure.mpr ⟨congrArg SectorArray.sectors written, shown⟩

/-! ## Histories -/

/-- Carries requests out one after the other, and records each reply with the disk it leaves. -/
def history : List CacheRequest →
    Action (CachedDisk RamDisk n) (List (CacheReply × CachedDisk RamDisk n))
  | [] => return []
  | request :: rest => do
    let reply ← request.serve
    let after ← get
    return (reply, after) :: (← history rest)

/-- Whether each request of a history that begins with `disk` was answered as the plain array has
it by then. -/
def Faithful (array : SectorArray) (disk : CachedDisk RamDisk n) :
    List CacheRequest → List (CacheReply × CachedDisk RamDisk n) → Prop
  | [], recorded => recorded = []
  | request :: rest, recorded =>
    ∃ reply after later, recorded = (reply, after) :: later ∧
      request.Answered array disk reply after ∧ Faithful (request.apply array) after rest later

/-- The plain array after all requests of a list. -/
def applyAll (array : SectorArray) (requests : List CacheRequest) : SectorArray :=
  requests.foldl apply array

theorem history_ensures {disk : CachedDisk RamDisk n} {array : SectorArray}
    (shown : disk.Shows array) {requests : List CacheRequest}
    (inBounds : ∀ request ∈ requests, request.InBounds array) :
    (history requests).Ensures disk
      (fun recorded after => Faithful array disk requests recorded ∧
        after.Shows (applyAll array requests))
      fun _ _ => False := by
  induction requests generalizing disk array with
  | nil => exact Action.ensures_pure.mpr ⟨rfl, shown⟩
  | cons request rest ih =>
      have first := inBounds request List.mem_cons_self
      have others : ∀ later ∈ rest, later.InBounds (request.apply array) := fun later listed =>
        (inBounds later (List.mem_cons_of_mem _ listed)).of_count (count_apply array request)
      refine .bind ((serve_answers shown first).mono ?_ fun _ _ failed => failed)
      rintro reply after ⟨answered, shown⟩
      refine .bind (Action.ensures_get.mpr (.bind ?_))
      refine (ih shown others).mono ?_ fun _ _ failed => failed
      rintro later last ⟨faithful, shown⟩
      exact Action.ensures_pure.mpr ⟨⟨reply, after, later, rfl, answered, faithful⟩, shown⟩

/-- **Transparency.** From a fresh cache of any size over any disk in memory, every run of requests
within bounds comes to its end, is answered as a plain array answers it, and leaves behind that
array on the device when the cache is dropped. -/
theorem history_faithful {n : Nat} (device : RamDisk) (nonempty : 0 < n)
    (requests : List CacheRequest)
    (inBounds : ∀ request ∈ requests, request.InBounds ⟨device.sectors⟩) (log : Array Event) :
    ∃ recorded disk written dropped last,
      (history requests).run ⟨⟨device, Cache.empty n nonempty⟩, log⟩ = .ok recorded ⟨disk, written⟩ ∧
      Faithful ⟨device.sectors⟩ ⟨device, Cache.empty n nonempty⟩ requests recorded ∧
      CachedDisk.shutdown.run ⟨disk, written⟩ = .ok () ⟨dropped, last⟩ ∧
      dropped.device.sectors = (applyAll ⟨device.sectors⟩ requests).sectors := by
  have shown : (⟨device, Cache.empty n nonempty⟩ : CachedDisk RamDisk n).Shows ⟨device.sectors⟩ :=
    CachedDisk.Shows.fresh trivial nonempty
  obtain ⟨recorded, disk, written, ran, faithful, shown⟩ := (history_ensures shown inBounds).ends log
  obtain ⟨_, dropped, last, closed, -, same, -⟩ :=
    (CachedDisk.shutdown_ensures shown).ends written
  exact ⟨recorded, disk, written, dropped, last, ran, faithful, closed,
    congrArg SectorArray.sectors same⟩

/-- In a cache of one slot a byte is written, pushed out by another sector and read back. -/
def evicting : List CacheRequest :=
  [.write (.ofNat 1) (Bytes.fill 7 1) 0 1 511, .read (.ofNat 2) (Bytes.fill 0 4) 1 2 0, .sync,
    .read (.ofNat 1) (Bytes.fill 0 4) 3 1 511]

theorem evicting_faithful :
    (0 < 1 ∧ ∀ request ∈ evicting, request.InBounds ⟨(RamDisk.zeroed 3).sectors⟩) ∧
    ∃ recorded disk written dropped last,
      (history (n := 1) evicting).run ⟨⟨.zeroed 3, Cache.empty 1 (by decide)⟩, #[]⟩ =
        .ok recorded ⟨disk, written⟩ ∧
      Faithful ⟨(RamDisk.zeroed 3).sectors⟩ ⟨.zeroed 3, Cache.empty 1 (by decide)⟩ evicting recorded ∧
      CachedDisk.shutdown.run ⟨disk, written⟩ = .ok () ⟨dropped, last⟩ ∧
      dropped.device.sectors = (applyAll ⟨(RamDisk.zeroed 3).sectors⟩ evicting).sectors := by
  have inBounds : ∀ request ∈ evicting, request.InBounds ⟨(RamDisk.zeroed 3).sectors⟩ := by
    have count : SectorArray.count ⟨(RamDisk.zeroed 3).sectors⟩ = 3 := Array.size_replicate
    simp [evicting, InBounds, SectorArray.mem_iff, count, SectorId.index_ofNat, sectorSize, wordLimit]
  exact ⟨⟨by decide, inBounds⟩, history_faithful (.zeroed 3) (by decide) evicting inBounds #[]⟩

end CacheRequest

end InodeVolume
