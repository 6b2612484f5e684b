import InodeVolume.Proofs.Cache.Reached
import InodeVolume.Proofs.Cache.Sweep

/-!
# Which sector is given up

An access to a sector that is resident gives nobody up, and neither does one while a slot is empty.
Otherwise the victim of second chance is given up, and nobody else.

* **seats** — `seat` is the slot that a sector is used in: its own, an empty one, or the victim's. An
  access fills that slot and touches no other (`resident_seats`, `serve_seats`);
* **residents** — `Replaces` says what an access does to the other sectors in the cache;
* **eviction** — `eviction_exact`: the search for a victim is exact second chance, and in whatever state
  a cache is found, each access replaces so.
-/

namespace InodeVolume

open LawfulDevice (Sound sectors)

/-! ## Seats -/

/-- Nothing is known of how an action ends that is not known of all. -/
theorem Action.ensures_any {σ α : Type} (act : Action σ α) {s : σ} :
    act.Ensures s (fun _ _ => True) fun _ _ => True := by
  intro log
  split <;> trivial

namespace Cache

variable {n : Nat} {cache before after : Cache n} {sector : SectorId} {i j : Fin n} {entry other : Entry}

theorem put_put : (cache.put i other).put i entry = cache.put i entry := by
  simp [put]

theorem put_clear : (cache.clear i).put i entry = cache.put i entry := by
  simp [put, clear]

/-- Filling a slot with its own copy changes nothing. -/
theorem put_self (held : getElem cache.slots i i.isLt = some entry) : cache.put i entry = cache := by
  simp [put, ← held]

theorem slot_of_find? (found : cache.find? sector = some (i, entry)) :
    getElem cache.slots i i.isLt = some entry := by
  simp only [find?, Option.bind_eq_bind, Option.bind_eq_some_iff, Option.pure_def, Option.some.injEq,
    Prod.mk.injEq] at found
  obtain ⟨j, -, kept, held, rfl, rfl⟩ := found
  exact held

/-- No slot is empty. -/
def IsFull (cache : Cache n) : Prop := ∀ i, ∃ entry, cache.copy i = some entry

theorem vacant?_eq_none_iff : cache.vacant? = none ↔ cache.IsFull := by
  constructor
  · intro none i
    have filled := Vector.findFinIdx?_eq_none_iff.mp none cache.slots[i] (by simp)
    cases held : cache.slots[i] with
    | none => exact absurd (by rw [held]; rfl) filled
    | some entry => exact ⟨entry.unmarked, copy_of_slot held⟩
  · intro full
    cases found : cache.vacant? with
    | none => rfl
    | some i =>
        obtain ⟨entry, held⟩ := full i
        rw [copy_of_vacant? found] at held
        cases held

/-- The slot for a newcomer, and the cache once the hand has moved for it. -/
def room (cache : Cache n) : Fin n × Cache n :=
  match cache.vacant? with
  | some i => (i, cache)
  | none => cache.victim

/-- The slot that a sector is used in, and the cache once the hand has moved for it. -/
def seat (cache : Cache n) (sector : SectorId) : Fin n × Cache n :=
  match cache.find? sector with
  | some (i, _) => (i, cache)
  | none => cache.room

theorem copy_room (cache : Cache n) : cache.room.2.copy = cache.copy := by
  unfold room
  split
  · rfl
  · exact copy_victim cache

theorem copy_seat (cache : Cache n) (sector : SectorId) : (cache.seat sector).2.copy = cache.copy := by
  unfold seat
  split
  · rfl
  · exact copy_room cache

/-- The slots after a sector was used: its seat holds it, and all others hold what they held. -/
def Seated (before : Cache n) (sector : SectorId) (after : Cache n) : Prop :=
  ∃ entry : Entry, entry.sector = sector ∧ after = (before.seat sector).2.put (before.seat sector).1 entry

theorem Seated.here (seated : before.Seated sector after) :
    ∃ entry, after.copy (before.seat sector).1 = some entry ∧ entry.sector = sector := by
  obtain ⟨entry, same, rfl⟩ := seated
  refine ⟨entry.unmarked, ?_, same⟩
  rw [copy_put, if_pos rfl]

theorem Seated.others (seated : before.Seated sector after) (apart : j ≠ (before.seat sector).1) :
    after.copy j = before.copy j := by
  obtain ⟨entry, -, rfl⟩ := seated
  rw [copy_put, if_neg apart, copy_seat]

/-- A seat was the sector's own, or empty, or that of the victim in a full cache. -/
theorem seat_cases (cache : Cache n) (sector : SectorId) :
    (∃ entry, cache.seat sector = ((cache.seat sector).1, cache) ∧
      cache.copy (cache.seat sector).1 = some entry ∧ entry.sector = sector) ∨
    (cache.isResident sector = false ∧ cache.seat sector = ((cache.seat sector).1, cache) ∧
      cache.copy (cache.seat sector).1 = none) ∨
    (cache.isResident sector = false ∧ cache.IsFull ∧ cache.seat sector = cache.victim) := by
  unfold seat room isResident
  cases found : cache.find? sector with
  | some place =>
      obtain ⟨held, same⟩ := copy_of_find? found
      exact .inl ⟨_, rfl, held, same⟩
  | none =>
      cases vacancy : cache.vacant? with
      | some i => exact .inr (.inl ⟨rfl, rfl, copy_of_vacant? vacancy⟩)
      | none => exact .inr (.inr ⟨rfl, vacant?_eq_none_iff.mp vacancy, rfl⟩)

/-- Where nobody is to be given up, a seat that is taken is the sector's own. -/
theorem seat_spared (spared : cache.isResident sector = true ∨ ¬cache.IsFull)
    (held : cache.copy (cache.seat sector).1 = some entry) : entry.sector = sector := by
  rcases seat_cases cache sector with ⟨own, -, mine, named⟩ | ⟨-, -, vacant⟩ | ⟨absent, full, -⟩
  · obtain rfl := Option.some.inj (mine.symm.trans held)
    exact named
  · rw [vacant] at held
    cases held
  · rcases spared with resident | gap
    · rw [absent] at resident
      cases resident
    · exact absurd full gap

/-- In a full cache a newcomer has the seat of the victim. -/
theorem seat_of_full (absent : cache.isResident sector = false) (full : cache.IsFull) :
    cache.seat sector = cache.victim := by
  rcases seat_cases cache sector with ⟨own, -, mine, named⟩ | ⟨-, -, vacant⟩ | ⟨-, -, victim⟩
  · have resident : cache.isResident sector = true := isResident_iff.mpr ⟨_, own, mine, named⟩
    rw [absent] at resident
    cases resident
  · obtain ⟨own, mine⟩ := full (cache.seat sector).1
    rw [vacant] at mine
    cases mine
  · exact victim

/-- The residents are the sector that was seated and those that have their copies elsewhere. -/
theorem Seated.resident_iff (seated : before.Seated sector after) (other : SectorId) :
    after.isResident other = true ↔ other = sector ∨
      ∃ i entry, i ≠ (before.seat sector).1 ∧ before.copy i = some entry ∧ entry.sector = other := by
  obtain ⟨own, mine, named⟩ := seated.here
  constructor
  · intro resident
    obtain ⟨i, entry, held, rfl⟩ := isResident_iff.mp resident
    by_cases here : i = (before.seat sector).1
    · rw [here] at held
      obtain rfl := Option.some.inj (mine.symm.trans held)
      exact .inl named
    · rw [seated.others here] at held
      exact .inr ⟨i, entry, here, held, rfl⟩
  · rintro (rfl | ⟨i, entry, away, held, same⟩)
    · exact isResident_iff.mpr ⟨_, own, mine, named⟩
    · rw [← seated.others away] at held
      exact isResident_iff.mpr ⟨i, entry, held, same⟩

/-- A sector that was not there is there only if it was seated. -/
theorem Seated.absent {other : SectorId} (seated : before.Seated sector after)
    (absent : before.isResident other = false) (apart : other ≠ sector) : after.isResident other = false := by
  apply Bool.eq_false_iff.mpr
  intro resident
  rcases (seated.resident_iff other).mp resident with same | ⟨i, entry, -, held, named⟩
  · exact apart same
  · have resident : before.isResident other = true := isResident_iff.mpr ⟨i, entry, held, named⟩
    rw [absent] at resident
    cases resident

/-- Two sectors fill two slots. -/
theorem isFull_pair {cache : Cache 2} {other : SectorId} (apart : sector ≠ other)
    (here : cache.isResident sector = true) (there : cache.isResident other = true) : cache.IsFull := by
  obtain ⟨i, entry, held, rfl⟩ := isResident_iff.mp here
  obtain ⟨j, entry', held', rfl⟩ := isResident_iff.mp there
  have different : i ≠ j := by
    rintro rfl
    rw [held] at held'
    exact apart (congrArg Entry.sector (Option.some.inj held'))
  intro k
  obtain rfl | rfl : k = i ∨ k = j := by omega
  · exact ⟨entry, held⟩
  · exact ⟨entry', held'⟩

end Cache

variable {D : Type} {n : Nat} [BlockDevice D]

namespace CachedDisk

variable {disk : CachedDisk D n} {array : SectorArray} {sector : SectorId}

/-- Whatever becomes of the device, a slot that was flushed is empty. -/
theorem flush_clears (i : Fin n) :
    (flush i).Ensures disk (fun _ after => after.cache = disk.cache.clear i) fun _ _ => True := by
  have cleared : ∀ device : D, (onCache (modify (·.clear i)) : Action (CachedDisk D n) PUnit).Ensures
      ⟨device, disk.cache⟩ (fun _ after => after.cache = disk.cache.clear i) fun _ _ => True :=
    fun _ => Action.ensures_within.mpr (Action.ensures_modify.mpr rfl)
  unfold flush slot
  refine .bind (.bind (Action.ensures_get.mpr (Action.ensures_pure.mpr ?_)))
  cases getElem disk.cache.slots i i.isLt with
  | none => exact cleared _
  | some entry =>
      cases dirty : entry.dirty with
      | false =>
          simp only [dirty]
          exact cleared _
      | true =>
          simp only [dirty]
          refine .bind (Action.ensures_within.mpr ?_)
          exact (Action.ensures_any _).mono (fun _ device _ => cleared device) fun _ _ _ => trivial

theorem makeRoom_room (newcomer : SectorId) :
    (makeRoom newcomer).Ensures disk
      (fun i after => i = disk.cache.room.1 ∧ ∀ entry, after.cache.put i entry = disk.cache.room.2.put i entry)
      fun _ _ => True := by
  unfold makeRoom Cache.room
  refine .bind (Action.ensures_get.mpr ?_)
  cases disk.cache.vacant? with
  | some i => exact Action.ensures_pure.mpr ⟨rfl, fun _ => rfl⟩
  | none =>
      unfold slot
      refine .bind (Action.ensures_within.mpr (Action.ensures_modifyGet.mpr ?_))
      refine .bind (.bind (Action.ensures_get.mpr (Action.ensures_pure.mpr ?_)))
      refine .bind (Action.ensures_emit.mpr (.bind ?_))
      refine (flush_clears disk.cache.victim.1).mono ?_ fun _ _ _ => trivial
      intro _ after cleared
      refine Action.ensures_pure.mpr ⟨rfl, ?_⟩
      intro entry
      rw [cleared]
      exact Cache.put_clear

/-- A sector that was brought in has its seat, and nothing else was touched. -/
theorem resident_seats (sector : SectorId) :
    (resident sector).Ensures disk
      (fun found after => found.1 = (disk.cache.seat sector).1 ∧ found.2.sector = sector ∧
        after.cache = (disk.cache.seat sector).2.put found.1 found.2)
      fun _ _ => True := by
  unfold resident Cache.seat
  refine .bind (Action.ensures_get.mpr ?_)
  cases found : disk.cache.find? sector with
  | some place =>
      obtain ⟨i, entry⟩ := place
      refine .bind (Action.ensures_emit.mpr (Action.ensures_pure.mpr ⟨rfl, (Cache.copy_of_find? found).2, ?_⟩))
      exact (Cache.put_self (Cache.slot_of_find? found)).symm
  | none =>
      refine .bind (Action.ensures_emit.mpr (.bind ?_))
      refine (makeRoom_room sector).mono ?_ fun _ _ _ => trivial
      rintro i ⟨device, cache⟩ ⟨rfl, filled⟩
      refine .bind (Action.ensures_within.mpr ?_)
      refine (Action.ensures_any _).mono ?_ fun _ _ _ => trivial
      intro data after _
      refine .bind (Action.ensures_within.mpr (Action.ensures_modify.mpr (Action.ensures_pure.mpr ?_)))
      exact ⟨rfl, rfl, filled _⟩

variable [LawfulDevice D] {buffer : Bytes} {start length offset : Nat}

/-- A sector of the device is brought in and seated, and stays seated whatever its copy becomes. -/
theorem resident_seated (shown : disk.Shows array) (inside : sector ∈ array) :
    (resident sector).Ensures disk
      (fun found after => found.2.sector = sector ∧ disk.cache.Seated sector after.cache ∧
        ∀ entry : Entry, entry.sector = sector → disk.cache.Seated sector (after.cache.put found.1 entry))
      fun _ _ => False := by
  refine ((resident_ensures shown inside).and (resident_seats sector)).mono ?_ fun _ _ failed => failed.1
  rintro ⟨i, entry⟩ ⟨device, cache⟩ ⟨-, here, named, seated⟩
  have here : i = (disk.cache.seat sector).1 := here
  have seated : cache = (disk.cache.seat sector).2.put i entry := seated
  subst here seated
  refine ⟨named, ⟨entry, named, rfl⟩, ?_⟩
  intro changed same
  exact ⟨changed, same, Cache.put_put⟩

/-- A read of a sector of the device seats it, even where the buffer has no room for what is read. -/
theorem readInto_seats (shown : disk.Shows array) (inside : sector ∈ array) (fits : offset + length ≤ sectorSize) :
    (readInto sector buffer start length offset).Ensures disk
      (fun _ after => disk.cache.Seated sector after.cache) fun _ after => disk.cache.Seated sector after.cache := by
  refine .bind (requireWithin_ensures fits (.bind ?_))
  refine (resident_seated shown inside).mono ?_ fun _ _ failed => failed.elim
  intro found after ⟨named, seated, filled⟩
  refine .bind ((requireInside_cases start length buffer.size).mono ?_ ?_)
  · rintro _ _ ⟨-, rfl⟩
    refine .bind (Action.ensures_within.mpr (Action.ensures_modify.mpr (Action.ensures_pure.mpr ?_)))
    exact filled _ named
  · rintro _ _ rfl
    exact seated

/-- A write to a sector of the device seats it, even where the buffer has not that many bytes. -/
theorem writeFrom_seats (shown : disk.Shows array) (inside : sector ∈ array) (fits : offset + length ≤ sectorSize) :
    (writeFrom sector buffer start length offset).Ensures disk
      (fun _ after => disk.cache.Seated sector after.cache) fun _ after => disk.cache.Seated sector after.cache := by
  refine .bind (requireWithin_ensures fits (.bind ?_))
  refine (resident_seated shown inside).mono ?_ fun _ _ failed => failed.elim
  intro found after ⟨named, seated, filled⟩
  refine .bind ((requireInside_cases start length buffer.size).mono ?_ ?_)
  · rintro _ _ ⟨-, rfl⟩
    dsimp only
    split
    · exact Action.ensures_within.mpr (Action.ensures_modify.mpr (filled _ named))
    · exact Action.ensures_fault.mpr seated
  · rintro _ _ rfl
    exact seated

end CachedDisk

namespace CacheRequest

variable [LawfulDevice D] {disk : CachedDisk D n} {array : SectorArray} {sector other : SectorId}
  {request : CacheRequest}

/-- A request to read or write bytes of a sector. -/
def Accesses (sector : SectorId) : CacheRequest → Prop
  | read target _ _ length offset | write target _ _ length offset =>
    target = sector ∧ offset + length ≤ sectorSize
  | isResident _ | sync | shutdown => False

/-- An access leaves what all other sectors hold. -/
theorem Accesses.get_apply (accesses : request.Accesses sector) (inside : sector ∈ array) (apart : other ≠ sector) :
    (request.apply array).get other = array.get other := by
  cases request with
  | write target buffer start length offset =>
      obtain ⟨rfl, -⟩ := accesses
      simp only [apply]
      split
      · exact SectorArray.get_set_ne inside apart
      · rfl
  | read _ _ _ _ _ | isResident _ | sync | shutdown => rfl

/-- Whether or not it is done, an access seats its sector. -/
theorem serve_seats (shown : disk.Shows array) (inside : sector ∈ array) (accesses : request.Accesses sector) :
    request.serve.Ensures disk (fun _ after => disk.cache.Seated sector after.cache)
      fun _ after => disk.cache.Seated sector after.cache := by
  cases request with
  | read target buffer start length offset =>
      obtain ⟨rfl, fits⟩ := accesses
      refine .bind ((CachedDisk.readInto_seats shown inside fits).mono ?_ fun _ _ seated => seated)
      exact fun _ _ seated => Action.ensures_pure.mpr seated
  | write target buffer start length offset =>
      obtain ⟨rfl, fits⟩ := accesses
      refine .bind ((CachedDisk.writeFrom_seats shown inside fits).mono ?_ fun _ _ seated => seated)
      exact fun _ _ seated => Action.ensures_pure.mpr seated
  | isResident _ | sync | shutdown => exact accesses.elim

end CacheRequest

/-! ## Residents -/

namespace CachedDisk

variable [LawfulDevice D] {before after : CachedDisk D n} {array array' : SectorArray} {sector : SectorId}

/-- What an access to a sector does to the others in the cache: `array` is what was written by then. -/
structure Replaces (array : SectorArray) (before : CachedDisk D n) (sector : SectorId) (after : CachedDisk D n) :
    Prop where
  arrived : after.cache.isResident sector = true
  newcomer : ∀ other, after.cache.isResident other = true →
    other = sector ∨ before.cache.isResident other = true
  /-- The others that are still there have the same copies in the same slots. -/
  stays : ∀ i kept, before.cache.copy i = some kept → kept.sector ≠ sector →
    after.cache.isResident kept.sector = true → after.cache.copy i = some kept
  /-- For a resident sector nobody is given up, and neither while a slot is empty. -/
  spares : before.cache.isResident sector = true ∨ ¬before.cache.IsFull →
    ∀ other, before.cache.isResident other = true → after.cache.isResident other = true
  /-- Otherwise the victim is, once the device has what was last written to it, and nobody else. -/
  evicts : before.cache.isResident sector = false → before.cache.IsFull →
    ∃ given, before.cache.copy before.cache.victim.1 = some given ∧
      after.cache.isResident given.sector = false ∧
      (sectors after.device).get given.sector = array.get given.sector ∧
      ∀ other, other ≠ given.sector → before.cache.isResident other = true → after.cache.isResident other = true

/-- An access that seats its sector, and changes no other sector, replaces at most the victim. -/
theorem Replaces.of_seated (shown : before.Shows array) (shown' : after.Shows array')
    (same : ∀ other, other ≠ sector → array'.get other = array.get other)
    (seated : before.cache.Seated sector after.cache) : before.Replaces array sector after := by
  refine ⟨(seated.resident_iff sector).mpr (.inl rfl), ?_, ?_, ?_, ?_⟩
  -- who is there is the sector itself, or was there before
  · intro other resident
    rcases (seated.resident_iff other).mp resident with here | ⟨i, entry, -, held, named⟩
    · exact .inl here
    · exact .inr (Cache.isResident_iff.mpr ⟨i, entry, held, named⟩)
  · intro i kept held other resident
    rcases (seated.resident_iff kept.sector).mp resident with here | ⟨j, entry, away, held', named⟩
    · exact absurd here other
    · -- a sector has one copy, so that is the copy in the slot
      obtain rfl := shown.apart j i entry kept held' held named
      rw [seated.others away]
      exact held
  -- the seat was the sector's own or empty
  · intro spared other resident
    obtain ⟨i, entry, held, rfl⟩ := Cache.isResident_iff.mp resident
    apply (seated.resident_iff entry.sector).mpr
    by_cases here : i = (before.cache.seat sector).1
    · rw [here] at held
      exact .inl (Cache.seat_spared spared held)
    · exact .inr ⟨i, entry, here, held, rfl⟩
  -- the seat was the victim's
  · intro absent full
    have seat : (before.cache.seat sector).1 = before.cache.victim.1 :=
      congrArg Prod.fst (Cache.seat_of_full absent full)
    obtain ⟨given, held⟩ := full before.cache.victim.1
    have apart : given.sector ≠ sector := by
      intro named
      have resident : before.cache.isResident sector = true := Cache.isResident_iff.mpr ⟨_, given, held, named⟩
      rw [absent] at resident
      cases resident
    have gone : after.cache.isResident given.sector = false := by
      apply Bool.eq_false_iff.mpr
      intro resident
      rcases (seated.resident_iff given.sector).mp resident with here | ⟨j, entry, away, held', named⟩
      · exact apart here
      · exact away ((shown.apart j _ entry given held' held named).trans seat.symm)
    refine ⟨given, held, gone, ?_, ?_⟩
    · rw [shown'.get_of_absent gone, same _ apart]
    · intro other left resident
      obtain ⟨i, entry, held', rfl⟩ := Cache.isResident_iff.mp resident
      refine (seated.resident_iff entry.sector).mpr (.inr ⟨i, entry, ?_, held', rfl⟩)
      intro here
      rw [here, seat, held] at held'
      exact left (congrArg Entry.sector (Option.some.inj held')).symm

/-! ## Eviction -/

/-- **Eviction is exact second chance.** The search for a victim ends within `n + 1` looks as second
chance has it. Whatever was asked of a cache before, an access to a sector of the device gives up the
victim or nobody, and it fails only where a range is out of bounds. -/
theorem eviction_exact [RefusingDevice D] :
    (∀ cache : Cache n, (∃ looks ≤ n + 1, cache.Scans looks cache.victim.1 cache.victim.2) ∧
      cache.SecondChance cache.victim.1 cache.victim.2) ∧
    ∀ (device : D) (array : SectorArray) (disk : CachedDisk D n) (request : CacheRequest) (sector : SectorId),
      Sound device → Reached device array disk → request.Accesses sector → sector ∈ sectors device →
        request.serve.Ensures disk (fun _ after => disk.Replaces array sector after)
          fun _ after => ¬request.InBounds array ∧ disk.Replaces array sector after := by
  refine ⟨fun cache => ⟨cache.victim_scans, cache.victim_secondChance⟩, ?_⟩
  intro device array disk request sector sound reached accesses onDevice
  have shown := reached.shows sound
  have inside : sector ∈ array := by
    rw [SectorArray.mem_iff, reached.count]
    exact onDevice
  have bounded : request.serve.Ensures disk (fun _ _ => True) fun _ _ => ¬request.InBounds array := by
    by_cases inBounds : request.InBounds array
    · exact (CacheRequest.serve_done shown inBounds).mono (fun _ _ _ => trivial) fun _ _ failed => failed.elim
    · exact (Action.ensures_any _).mono (fun _ _ _ => trivial) fun _ _ _ => inBounds
  have ends := (CacheRequest.serve_ensures shown request).and (CacheRequest.serve_seats shown inside accesses)
  refine (ends.and bounded).mono ?_ ?_
  · intro _ after ⟨⟨shown', seated⟩, _⟩
    exact .of_seated shown shown' (fun _ apart => accesses.get_apply inside apart) seated
  · intro _ after ⟨⟨shown', seated⟩, outside⟩
    exact ⟨outside, .of_seated shown shown' (fun _ _ => rfl) seated⟩

/-! ## A cache of two slots -/

/-- A request within bounds leads to another disk, where its sector is in the cache. -/
theorem Reached.access [RefusingDevice D] {device : D} {disk : CachedDisk D n} {request : CacheRequest}
    (sound : Sound device) (reached : Reached device array disk) (inBounds : request.InBounds array)
    (inside : sector ∈ array) (accesses : request.Accesses sector) :
    ∃ after, Reached device (request.apply array) after ∧ disk.Replaces array sector after := by
  have shown := reached.shows sound
  have served := (CacheRequest.serve_done shown inBounds).and (CacheRequest.serve_seats shown inside accesses)
  obtain ⟨_, after, log, ran, shown', seated⟩ :=
    (served.mono (fun _ _ done => done) fun _ _ failed => failed.1).ends #[]
  exact ⟨after, reached.done ran, .of_seated shown shown' (fun _ apart => accesses.get_apply inside apart) seated⟩

/-- A read of the first bytes of a sector. -/
def peek (k : Nat) : CacheRequest := .read (.ofNat k) (Bytes.fill 0 4) 0 4 0

/-- A write of sevens to them. -/
def poke (k : Nat) : CacheRequest := .write (.ofNat k) (Bytes.fill 7 4) 0 4 0

theorem inBounds_peek {k : Nat} (inside : SectorId.ofNat k ∈ array) : (peek k).InBounds array :=
  ⟨inside, by decide, by simp, by simp [wordLimit]⟩

theorem inBounds_poke {k : Nat} (inside : SectorId.ofNat k ∈ array) : (poke k).InBounds array :=
  ⟨inside, by decide, by simp, by simp [wordLimit]⟩

theorem mem_of_count {k : Nat} (count : array.count = 6) (low : k < 6) : SectorId.ofNat k ∈ array := by
  rw [SectorArray.mem_iff, count, SectorId.index_ofNat (by omega)]
  exact low

/-- The first byte of a sector. -/
def firstByte (array : SectorArray) (sector : SectorId) : UInt8 := (array.get sector).get ⟨0, by decide⟩

theorem firstByte_poke {k : Nat} (inside : SectorId.ofNat k ∈ array) :
    firstByte ((poke k).apply array) (.ofNat k) = 7 := by
  have patch : Bytes.slice (Bytes.fill 7 4) 0 4 = Bytes.fill 7 4 := by decide
  have fits : 0 + (Bytes.fill 7 4).size ≤ sectorSize := by decide
  have apply : (poke k).apply array =
      array.set (.ofNat k) ((array.get (.ofNat k)).splice 0 (Bytes.fill 7 4) fits) := by
    unfold poke CacheRequest.apply
    simp only [patch]
    exact dif_pos fits
  rw [firstByte, apply, SectorArray.get_set_self inside, Block.get_splice]
  rfl

/-- A cache of two slots in which sectors 1 and 2 were written. -/
theorem exists_pair : ∃ (array : SectorArray) (disk : CachedDisk RamDisk 2),
    Reached (RamDisk.zeroed 6) array disk ∧ disk.cache.IsFull ∧
    (∀ sector, disk.cache.isResident sector = true ↔ sector = .ofNat 1 ∨ sector = .ofNat 2) ∧
    firstByte array (.ofNat 1) = 7 := by
  have sound : Sound (RamDisk.zeroed 6) := trivial
  have start : Reached (RamDisk.zeroed 6) (sectors (RamDisk.zeroed 6)) ⟨.zeroed 6, .empty 2 (by decide)⟩ :=
    .fresh (by decide)
  have inside₁ : SectorId.ofNat 1 ∈ sectors (RamDisk.zeroed 6) := mem_of_count Array.size_replicate (by decide)
  obtain ⟨first, reached₁, replaces₁⟩ := start.access sound (inBounds_poke inside₁) inside₁ ⟨rfl, by decide⟩
  have count : SectorArray.count _ = 6 := reached₁.count.trans Array.size_replicate
  have inside₂ : SectorId.ofNat 2 ∈ (poke 1).apply (sectors (RamDisk.zeroed 6)) := mem_of_count count (by decide)
  have accesses₂ : (poke 2).Accesses (.ofNat 2) := ⟨rfl, by decide⟩
  obtain ⟨disk, reached₂, replaces₂⟩ := reached₁.access sound (inBounds_poke inside₂) inside₂ accesses₂
  have only : ∀ other, first.cache.isResident other = true → other = .ofNat 1 := by
    intro other resident
    refine (replaces₁.newcomer other resident).resolve_right fun before => ?_
    obtain ⟨i, entry, held, -⟩ := Cache.isResident_iff.mp before
    rw [Cache.copy_empty] at held
    cases held
  -- sector 1 alone does not fill both slots, so it stays
  have gap : ¬first.cache.IsFull := by
    intro full
    obtain ⟨left, held⟩ := full 0
    obtain ⟨right, held'⟩ := full 1
    have named := only _ (Cache.isResident_iff.mpr ⟨_, left, held, rfl⟩)
    have named' := only _ (Cache.isResident_iff.mpr ⟨_, right, held', rfl⟩)
    exact absurd ((reached₁.shows sound).apart 0 1 left right held held' (named.trans named'.symm)) (by decide)
  have stays := replaces₂.spares (.inr gap) _ replaces₁.arrived
  refine ⟨_, disk, reached₂, Cache.isFull_pair (by decide) stays replaces₂.arrived, fun sector => ⟨?_, ?_⟩, ?_⟩
  · exact fun resident => (replaces₂.newcomer sector resident).symm.imp_left (only sector)
  · rintro (rfl | rfl)
    · exact stays
    · exact replaces₂.arrived
  · rw [firstByte, accesses₂.get_apply inside₂ (by decide)]
    exact firstByte_poke inside₁

/-- Where sectors 1 and 2 were written, one of the two is given up for the next one that is read. -/
theorem eviction_exact_pair : ∃ (array : SectorArray) (disk : CachedDisk RamDisk 2),
    Sound (RamDisk.zeroed 6) ∧ Reached (RamDisk.zeroed 6) array disk ∧ (peek 3).Accesses (.ofNat 3) ∧
    SectorId.ofNat 3 ∈ sectors (RamDisk.zeroed 6) ∧ disk.cache.IsFull ∧
    (∀ sector, disk.cache.isResident sector = true ↔ sector = .ofNat 1 ∨ sector = .ofNat 2) ∧
    firstByte array (.ofNat 1) = 7 ∧
    (peek 3).serve.Ensures disk (fun _ after => disk.Replaces array (.ofNat 3) after)
      fun _ after => ¬(peek 3).InBounds array ∧ disk.Replaces array (.ofNat 3) after := by
  obtain ⟨array, disk, reached, full, residents, written⟩ := exists_pair
  have inside : SectorId.ofNat 3 ∈ sectors (RamDisk.zeroed 6) := mem_of_count Array.size_replicate (by decide)
  have accesses : (peek 3).Accesses (.ofNat 3) := ⟨rfl, by decide⟩
  exact ⟨array, disk, trivial, reached, accesses, inside, full, residents, written,
    eviction_exact.2 _ _ disk _ _ trivial reached accesses inside⟩

end CachedDisk

end InodeVolume
