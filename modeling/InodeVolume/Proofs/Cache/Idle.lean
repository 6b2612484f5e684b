import InodeVolume.Proofs.Cache.Eviction

/-!
# Idle sectors are given up

A sector that nobody asks for does not stay in a full cache for ever, however the others are used.

* **patience** — a slot's `patience` is how many steps the hand is away from it, and a round more while
  it is marked. Each eviction elsewhere takes at least one from it (`SecondChance.patience_lt`), and
  nothing that is done to other sectors adds to it (`Seated.patience_le`);
* **requests** — `serve_waits`: what one request does to the patience of a sector it leaves alone;
* **runs** — `tally` carries requests out and counts the misses. After `2 * n` of them an idle sector
  is gone, and the device has what was last written to it (`Reached.idle_evicted`).
-/

namespace InodeVolume

open LawfulDevice (Sound sectors)

/-! ## Patience -/

namespace Cache

variable {n bound : Nat} {cache before after : Cache n} {sector other : SectorId} {i victim : Fin n}

/-- How many steps the hand is away from a slot, and a round more while the slot is marked. -/
def patience (cache : Cache n) (i : Fin n) : Nat :=
  distance cache.hand i + if cache.marked i = true then n else 0

theorem patience_lt (cache : Cache n) (i : Fin n) : cache.patience i < 2 * n := by
  have near := distance_lt cache.hand i
  unfold patience
  split <;> omega

theorem marked_put_of_ne {j : Fin n} (entry : Entry) (apart : i ≠ j) :
    (cache.put j entry).marked i = cache.marked i := by
  have apart' : j.val ≠ i.val := fun same => apart (Fin.ext same.symm)
  simp [marked, put, Vector.getElem_set_ne _ _ apart']

/-- Filling another slot takes no patience. -/
theorem patience_put_of_ne {j : Fin n} (entry : Entry) (apart : i ≠ j) :
    (cache.put j entry).patience i = cache.patience i := by
  unfold patience
  rw [marked_put_of_ne entry apart]
  rfl

theorem SecondChance.marked (second : SecondChance cache victim after) (i : Fin n) :
    after.marked i = if cache.Passes victim i then false else cache.marked i := by
  unfold Cache.marked
  rw [second.slots]
  split
  · cases getElem cache.slots i i.isLt <;> rfl
  · rfl

/-- A slot that is not the victim is nearer to its turn: the hand has come up to it, or it has lost its mark. -/
theorem SecondChance.patience_lt (second : SecondChance cache victim after) (apart : i ≠ victim) :
    after.patience i < cache.patience i := by
  have behind := distance_behind cache.hand apart
  have ahead : distance cache.hand i ≠ distance cache.hand victim := fun same => apart (distance_injective same)
  unfold patience
  rw [second.hand, second.marked]
  rcases second.chosen with ⟨unused, used⟩ | ⟨rfl, used⟩
  · by_cases between : distance cache.hand i < distance cache.hand victim
    · -- the slot was passed over, so it was marked
      have passed : cache.Passes victim i := .inr between
      rw [if_neg (by omega)] at behind
      rw [if_pos passed, used i between, if_pos rfl, if_neg Bool.false_ne_true]
      omega
    · have unpassed : ¬cache.Passes victim i := by
        simp only [Passes, unused, Bool.false_eq_true, false_or]
        exact between
      rw [if_pos (by omega)] at behind
      rw [if_neg unpassed]
      omega
  · -- all slots were passed over, and the hand has gone once round
    rw [distance_self] at ahead behind
    rw [if_pos (by omega)] at behind
    have passed : cache.Passes cache.hand i := .inl (used cache.hand)
    rw [if_pos passed, used i, if_pos rfl, if_neg Bool.false_ne_true]
    omega

/-- Seating another sector adds nothing to the patience of a slot, and takes from it where it is a miss. -/
theorem Seated.patience_le (seated : before.Seated other after) (full : before.IsFull)
    (apart : i ≠ (before.seat other).1) :
    after.patience i + (if before.isResident other = true then 0 else 1) ≤ before.patience i := by
  obtain ⟨entry, -, rfl⟩ := seated
  rw [patience_put_of_ne entry apart]
  rcases seat_cases before other with ⟨copy, same, held, named⟩ | ⟨-, -, vacant⟩ | ⟨absent, -, same⟩
  · have resident : before.isResident other = true := isResident_iff.mpr ⟨_, copy, held, named⟩
    rw [same, if_pos resident]
    exact Nat.le_refl _
  · obtain ⟨copy, held⟩ := full (before.seat other).1
    rw [vacant] at held
    cases held
  · rw [same] at apart ⊢
    rw [absent, if_neg Bool.false_ne_true]
    exact before.victim_secondChance.patience_lt apart

theorem Seated.full (seated : before.Seated other after) (full : before.IsFull) : after.IsFull := by
  intro i
  by_cases here : i = (before.seat other).1
  · obtain ⟨entry, held, -⟩ := seated.here
    rw [here]
    exact ⟨entry, held⟩
  · rw [seated.others here]
    exact full i

/-- Wherever a sector has its copy, the patience of that slot is below a bound. -/
def Waits (cache : Cache n) (sector : SectorId) (bound : Nat) : Prop :=
  ∀ i entry, cache.copy i = some entry → entry.sector = sector → cache.patience i < bound

theorem waits (cache : Cache n) (sector : SectorId) : cache.Waits sector (2 * n) :=
  fun i _ _ _ => cache.patience_lt i

/-- A sector whose patience is spent is gone. -/
theorem Waits.absent (waits : cache.Waits sector 0) : cache.isResident sector = false := by
  apply Bool.eq_false_iff.mpr
  intro resident
  obtain ⟨i, entry, held, named⟩ := isResident_iff.mp resident
  exact Nat.not_lt_zero _ (waits i entry held named)

theorem Waits.seated (waits : before.Waits sector bound) (full : before.IsFull) (seated : before.Seated other after)
    (apart : other ≠ sector) :
    after.Waits sector (bound - if before.isResident other = true then 0 else 1) := by
  intro i entry held named
  have elsewhere : i ≠ (before.seat other).1 := by
    intro here
    obtain ⟨own, seat, same⟩ := seated.here
    rw [here] at held
    obtain rfl := Option.some.inj (seat.symm.trans held)
    exact apart (same.symm.trans named)
  have spent := seated.patience_le full elsewhere
  rw [seated.others elsewhere] at held
  have left := waits i entry held named
  omega

end Cache

variable {D : Type} {n : Nat} [BlockDevice D] [LawfulDevice D]

/-! ## Requests -/

namespace CachedDisk

variable {disk : CachedDisk D n} {array : SectorArray}

omit [LawfulDevice D] in
/-- Writing back takes no marks and does not move the hand. -/
theorem clean_marks (i : Fin n) :
    (clean i).Ensures disk
      (fun _ after => after.cache.hand = disk.cache.hand ∧ after.cache.marked = disk.cache.marked)
      fun _ _ => True := by
  unfold clean slot
  refine .bind (.bind (Action.ensures_get.mpr (Action.ensures_pure.mpr ?_)))
  cases held : getElem disk.cache.slots i i.isLt with
  | none => exact Action.ensures_pure.mpr ⟨rfl, rfl⟩
  | some entry =>
      cases dirty : entry.dirty with
      | false =>
          simp only [dirty]
          exact Action.ensures_pure.mpr ⟨rfl, rfl⟩
      | true =>
          simp only [dirty]
          refine .bind (Action.ensures_within.mpr ?_)
          refine (Action.ensures_any _).mono ?_ fun _ _ _ => trivial
          intro _ device _
          refine Action.ensures_within.mpr (Action.ensures_modify.mpr ⟨rfl, ?_⟩)
          funext j
          by_cases here : j = i
          · subst here
            simp [Cache.marked, Cache.put, held]
          · exact Cache.marked_put_of_ne _ here

omit [LawfulDevice D] in
theorem sync_marks :
    (sync : Action (CachedDisk D n) Unit).Ensures disk
      (fun _ after => after.cache.hand = disk.cache.hand ∧ after.cache.marked = disk.cache.marked)
      fun _ _ => True := by
  refine Action.Ensures.forM
    (fun _ (after : CachedDisk D n) => after.cache.hand = disk.cache.hand ∧ after.cache.marked = disk.cache.marked)
    ?_ ⟨rfl, rfl⟩
  intro i _ before same
  refine (clean_marks i).mono ?_ fun _ _ failed => failed
  intro _ after moved
  exact ⟨moved.1.trans same.1, moved.2.trans same.2⟩

end CachedDisk

namespace CacheRequest

variable {disk : CachedDisk D n} {array : SectorArray} {sector : SectorId} {bound : Nat} {request : CacheRequest}
  {requests : List CacheRequest}

/-- A request that leaves a sector alone, and the cache as full as it is. -/
def Leaves (sector : SectorId) : CacheRequest → Prop
  | read target _ _ _ _ | write target _ _ _ _ => target ≠ sector
  | isResident _ | sync => True
  | shutdown => False

/-- A request for a sector that is not resident is a miss. -/
def misses (cache : Cache n) : CacheRequest → Nat
  | read sector _ _ _ _ | write sector _ _ _ _ => if cache.isResident sector = true then 0 else 1
  | isResident _ | sync | shutdown => 0

/-- A sector that is left alone waits a miss less. -/
theorem serve_waits (shown : disk.Shows array) (full : disk.cache.IsFull) (waits : disk.cache.Waits sector bound)
    (inBounds : request.InBounds array) (leaves : request.Leaves sector) :
    request.serve.Ensures disk
      (fun _ after => after.cache.IsFull ∧ after.cache.Waits sector (bound - request.misses disk.cache))
      fun _ _ => True := by
  have seats : ∀ target, target ∈ array → request.Accesses target → target ≠ sector →
      request.misses disk.cache = (if disk.cache.isResident target = true then 0 else 1) →
      request.serve.Ensures disk
        (fun _ after => after.cache.IsFull ∧ after.cache.Waits sector (bound - request.misses disk.cache))
        fun _ _ => True := by
    intro target inside accesses apart missed
    refine (serve_seats shown inside accesses).mono ?_ fun _ _ _ => trivial
    intro _ after seated
    rw [missed]
    exact ⟨seated.full full, waits.seated full seated apart⟩
  cases request with
  | read target buffer start length offset | write target buffer start length offset =>
      exact seats target inBounds.1 ⟨rfl, inBounds.2.1⟩ leaves rfl
  | isResident target => exact .bind (Action.ensures_get.mpr (Action.ensures_pure.mpr ⟨full, waits⟩))
  | sync =>
      refine .bind (((CachedDisk.sync_ensures shown).and CachedDisk.sync_marks).mono ?_ fun _ _ _ => trivial)
      intro _ after ⟨⟨_, _, copies⟩, hand, marked⟩
      refine Action.ensures_pure.mpr ⟨?_, ?_⟩
      · intro i
        obtain ⟨entry, held⟩ := full i
        rw [copies, held]
        exact ⟨_, rfl⟩
      · intro i entry held named
        obtain ⟨kept, before, rfl⟩ := Option.map_eq_some_iff.mp ((copies i).symm.trans held)
        rw [Cache.patience, hand, marked]
        exact waits i kept before named
  | shutdown => exact leaves.elim

/-- What is left alone holds what it held. -/
theorem Leaves.get_apply (leaves : request.Leaves sector) (inBounds : request.InBounds array) :
    (request.apply array).get sector = array.get sector := by
  cases request with
  | write target buffer start length offset =>
      have accesses : (write target buffer start length offset).Accesses target := ⟨rfl, inBounds.2.1⟩
      exact accesses.get_apply inBounds.1 leaves.symm
  | read _ _ _ _ _ | isResident _ | sync | shutdown => rfl

/-! ## Runs -/

/-- Carries requests out one after the other, and counts the misses. -/
def tally : List CacheRequest → Action (CachedDisk D n) Nat
  | [] => return 0
  | request :: rest => do
    let missed := request.misses (← get).cache
    let _ ← request.serve
    return missed + (← tally rest)

/-- A run of requests within bounds comes to its end. A sector that it leaves alone holds what it held,
and waits as many misses less as there were. -/
theorem tally_ensures (shown : disk.Shows array) (full : disk.cache.IsFull) (waits : disk.cache.Waits sector bound)
    (inBounds : ∀ request ∈ requests, request.InBounds array) (leaves : ∀ request ∈ requests, request.Leaves sector) :
    (tally requests).Ensures disk
      (fun missed after => (∃ array', after.Shows array' ∧ array'.get sector = array.get sector) ∧
        after.cache.Waits sector (bound - missed))
      fun _ _ => False := by
  -- by induction on the requests, for any bound: what the first one takes is missing for the rest
  induction requests generalizing disk array bound with
  | nil => exact Action.ensures_pure.mpr ⟨⟨array, shown, rfl⟩, waits⟩
  | cons request rest ih =>
      have first := inBounds request List.mem_cons_self
      have alone := leaves request List.mem_cons_self
      have later : ∀ request' ∈ rest, request'.InBounds (request.apply array) := fun request' listed =>
        (inBounds request' (List.mem_cons_of_mem _ listed)).of_count (count_apply array request)
      refine .bind (Action.ensures_get.mpr (.bind ?_))
      refine ((serve_done shown first).and (serve_waits shown full waits first alone)).mono ?_
        fun _ _ failed => failed.1
      intro _ after ⟨shown', full', waits'⟩
      refine .bind ((ih shown' full' waits' later fun request' listed =>
        leaves request' (List.mem_cons_of_mem _ listed)).mono ?_ fun _ _ failed => failed)
      intro missed last ⟨⟨array', there, same⟩, left⟩
      refine Action.ensures_pure.mpr ⟨⟨array', there, same.trans (alone.get_apply first)⟩, ?_⟩
      rw [Nat.sub_sub] at left
      exact left

end CacheRequest

/-- **An idle sector is given up.** From whatever a full cache has come to, `2 * n` misses among requests
that leave a sector alone push the sector out, and what was last written to it is on the device. -/
theorem CachedDisk.Reached.idle_evicted [RefusingDevice D] {device : D} {array : SectorArray}
    {disk : CachedDisk D n} (sound : Sound device) (reached : Reached device array disk)
    (full : disk.cache.IsFull) {sector : SectorId} {requests : List CacheRequest}
    (inBounds : ∀ request ∈ requests, request.InBounds array)
    (leaves : ∀ request ∈ requests, request.Leaves sector) :
    (CacheRequest.tally requests).Ensures disk
      (fun missed after => 2 * n ≤ missed →
        after.cache.isResident sector = false ∧ (sectors after.device).get sector = array.get sector)
      fun _ _ => False := by
  have shown := reached.shows sound
  refine (CacheRequest.tally_ensures shown full (disk.cache.waits sector) inBounds leaves).mono ?_
    fun _ _ failed => failed
  intro missed after ⟨⟨array', shown', same⟩, waits⟩ enough
  have spent : 2 * n - missed = 0 := Nat.sub_eq_zero_of_le enough
  rw [spent] at waits
  refine ⟨waits.absent, ?_⟩
  rw [shown'.get_of_absent waits.absent, same]

open CachedDisk (peek firstByte)

/-- Sectors that were not there are misses when each is read once. -/
theorem tally_peeks [RefusingDevice D] {disk : CachedDisk D n} {array : SectorArray} {ks : List Nat}
    (shown : disk.Shows array) (inside : ∀ k ∈ ks, SectorId.ofNat k ∈ array)
    (distinct : (ks.map SectorId.ofNat).Nodup) (absent : ∀ k ∈ ks, disk.cache.isResident (.ofNat k) = false) :
    (CacheRequest.tally (ks.map peek)).Ensures disk (fun missed _ => missed = ks.length) fun _ _ => False := by
  induction ks generalizing disk with
  | nil => exact Action.ensures_pure.mpr rfl
  | cons k rest ih =>
      have here := inside k List.mem_cons_self
      have inBounds : (peek k).InBounds array := CachedDisk.inBounds_peek here
      have miss : (peek k).misses disk.cache = 1 := by
        rw [peek, CacheRequest.misses, absent k List.mem_cons_self]
        rfl
      have accesses : (peek k).Accesses (.ofNat k) := ⟨rfl, by decide⟩
      obtain ⟨new, distinct⟩ := List.nodup_cons.mp distinct
      have served := (CacheRequest.serve_done shown inBounds).and (CacheRequest.serve_seats shown here accesses)
      refine .bind (Action.ensures_get.mpr (.bind (served.mono ?_ fun _ _ failed => failed.1)))
      rintro _ after ⟨shown', seated⟩
      have others : ∀ k' ∈ rest, after.cache.isResident (.ofNat k') = false := fun k' listed =>
        seated.absent (absent k' (List.mem_cons_of_mem _ listed)) fun same =>
          new (same ▸ List.mem_map_of_mem listed)
      refine .bind ((ih shown' (fun k' listed => inside k' (List.mem_cons_of_mem _ listed)) distinct others).mono ?_
        fun _ _ failed => failed)
      rintro _ last rfl
      exact Action.ensures_pure.mpr (by rw [miss, List.length_cons, Nat.add_comm])

/-- In a cache of two slots a sector that was written is gone after four reads of others, all misses. -/
theorem CachedDisk.idle_evicted_pair : ∃ (array : SectorArray) (disk : CachedDisk RamDisk 2),
    Reached (RamDisk.zeroed 6) array disk ∧ disk.cache.IsFull ∧ disk.cache.isResident (.ofNat 1) = true ∧
    firstByte array (.ofNat 1) = 7 ∧
    (CacheRequest.tally ([3, 4, 5, 0].map peek)).Ensures disk
      (fun missed after => missed = 4 ∧ (2 * 2 ≤ missed →
        after.cache.isResident (.ofNat 1) = false ∧ (sectors after.device).get (.ofNat 1) = array.get (.ofNat 1)))
      fun _ _ => False := by
  obtain ⟨array, disk, reached, full, residents, written⟩ := exists_pair
  have count : array.count = 6 := reached.count.trans Array.size_replicate
  have low : ∀ k ∈ [3, 4, 5, 0], k < 6 ∧ SectorId.ofNat k ≠ .ofNat 1 ∧ SectorId.ofNat k ≠ .ofNat 2 := by decide
  have absent : ∀ k ∈ [3, 4, 5, 0], disk.cache.isResident (.ofNat k) = false := fun k listed =>
    Bool.eq_false_iff.mpr fun resident => ((residents _).mp resident).elim (low k listed).2.1 (low k listed).2.2
  have missed := tally_peeks (reached.shows trivial) (fun k listed => mem_of_count count (low k listed).1)
    (by decide) absent
  have inBounds : ∀ request ∈ [3, 4, 5, 0].map peek, request.InBounds array := by
    intro request listed
    obtain ⟨k, here, rfl⟩ := List.mem_map.mp listed
    exact inBounds_peek (mem_of_count count (low k here).1)
  have leaves : ∀ request ∈ [3, 4, 5, 0].map peek, request.Leaves (.ofNat 1) := by
    intro request listed
    obtain ⟨k, here, rfl⟩ := List.mem_map.mp listed
    exact (low k here).2.1
  have gone := Reached.idle_evicted trivial reached full inBounds leaves
  exact ⟨array, disk, reached, full, (residents _).mpr (.inl rfl), written,
    (missed.and gone).mono (fun _ _ both => both) fun _ _ failed => failed.1⟩

end InodeVolume
