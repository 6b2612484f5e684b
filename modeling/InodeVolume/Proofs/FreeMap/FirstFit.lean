import Mathlib.Algebra.Group.Nat.Even
import Mathlib.Order.Bounds.Basic
import Mathlib.Order.Interval.Finset.Nat
import InodeVolume.Proofs.Space.Lawful

/-!
# A free map is a set with first fit

The sectors of a free map that are `allocated` are a set, and what callers see of the map is told by
that set alone.

* **searching** — `firstRunFrom?_eq_some_iff` carries what a search for a run knows (`Searched`) over the
  bits; `firstFit?_eq_some_iff`: both ways to search give the least start of a vacant run;
* **steps** — one `…_set` lemma for each action: what it answers, and the set that it leaves;
* **runs** — `Reachable`: what an empty map becomes by requests, met or not; `refines_set`: all of these
  maps behave as their sets do.
-/

namespace InodeVolume

namespace FreeMap

variable {map : FreeMap} {count start k : Nat}

/-- The sectors that are allocated. -/
def allocated (map : FreeMap) : Finset Nat := (Finset.range map.sectors).filter (map.marked · = true)

/-- Where a run of `count` sectors can start that stays below `stop` and touches none that is taken. -/
def vacancies (taken : Finset Nat) (stop count : Nat) : Set Nat :=
  {start | start + count ≤ stop ∧ Disjoint (Finset.Ico start (start + count)) taken}

/-! ## Sets of sectors -/

theorem mem_allocated : k ∈ map.allocated ↔ k < map.sectors ∧ map.marked k = true := by
  rw [allocated, Finset.mem_filter, Finset.mem_range]

theorem mem_allocated_of_lt (inside : k < map.sectors) : k ∈ map.allocated ↔ map.marked k = true := by
  rw [mem_allocated, and_iff_right inside]

theorem not_mem_allocated (inside : k < map.sectors) : k ∉ map.allocated ↔ map.marked k = false := by
  rw [mem_allocated_of_lt inside, Bool.not_eq_true]

theorem allocated_clear (sectors : Nat) : (clear sectors).allocated = ∅ := by
  refine Finset.eq_empty_of_forall_notMem fun k listed => ?_
  obtain ⟨inside, marked⟩ := mem_allocated.mp listed
  rw [marked_clear, decide_eq_true_iff] at marked
  exact absurd inside (Nat.not_lt.mpr marked)

theorem allocated_mark (inside : k < map.sectors) : (map.mark k).allocated = insert k map.allocated := by
  ext j
  rw [Finset.mem_insert, mem_allocated, mem_allocated, sectors_mark, marked_mark map (hasBit_of_lt inside),
    Bool.or_eq_true, decide_eq_true_iff]
  constructor
  · rintro ⟨below, marked | rfl⟩
    · exact .inr ⟨below, marked⟩
    · exact .inl rfl
  · rintro (rfl | ⟨below, marked⟩)
    · exact ⟨inside, .inr rfl⟩
    · exact ⟨below, .inl marked⟩

theorem allocated_unmark (inside : k < map.sectors) : (map.unmark k).allocated = map.allocated.erase k := by
  ext j
  rw [Finset.mem_erase, mem_allocated, mem_allocated, sectors_unmark, marked_unmark map (hasBit_of_lt inside),
    Bool.and_eq_true, Bool.not_eq_true', decide_eq_false_iff_not]
  exact ⟨fun ⟨below, marked, apart⟩ => ⟨apart, below, marked⟩, fun ⟨apart, below, marked⟩ => ⟨below, marked, apart⟩⟩

@[simp] theorem sectors_markRun : (map.markRun start count).sectors = map.sectors := by
  induction count generalizing map start with
  | zero => rfl
  | succ count ih => rw [markRun, ih, sectors_mark]

theorem allocated_markRun (inside : start + count ≤ map.sectors) :
    (map.markRun start count).allocated = map.allocated ∪ Finset.Ico start (start + count) := by
  induction count generalizing map start with
  | zero => rw [markRun, Nat.add_zero, Finset.Ico_self, Finset.union_empty]
  | succ count ih =>
      have rest : start + 1 + count = start + (count + 1) := by omega
      rw [markRun, ih (by rw [sectors_mark]; omega), allocated_mark (by omega), rest]
      ext k
      simp only [Finset.mem_union, Finset.mem_insert, Finset.mem_Ico]
      by_cases listed : k ∈ map.allocated <;> simp only [listed, or_true, true_or, or_false, false_or]
      omega

theorem clearCount_eq_sub_card (map : FreeMap) : map.clearCount = map.sectors - map.allocated.card := by
  have parts := List.length_eq_countP_add_countP map.marked (l := List.range map.sectors)
  have size : map.allocated.card = (List.range map.sectors).countP map.marked := by
    simp [allocated, Finset.card, Finset.filter, Multiset.range, List.countP_eq_length_filter]
  rw [List.length_range] at parts
  rw [clearCount, size]
  simp only [Bool.not_eq_true, Bool.decide_eq_false] at parts
  omega

/-- A run is vacant when all its bits are clear. -/
theorem mem_vacancies {stop : Nat} (inside : stop ≤ map.sectors) : start ∈ vacancies map.allocated stop count ↔
    start + count ≤ stop ∧ ∀ k, start ≤ k → k < start + count → map.marked k = false := by
  refine and_congr_right fun within => ?_
  rw [Finset.disjoint_left]
  constructor
  · intro apart k reached before
    exact (not_mem_allocated (by omega)).mp (apart (Finset.mem_Ico.mpr ⟨reached, before⟩))
  · intro clear k listed
    obtain ⟨reached, before⟩ := Finset.mem_Ico.mp listed
    exact (not_mem_allocated (by omega)).mpr (clear k reached before)

/-! ## Searching -/

/-- What a search for `count` clear bits in a row knows at `bit`: it has passed no such run, and `run` is
how many bits are clear just before. -/
structure Searched (map : FreeMap) (count run bit : Nat) : Prop where
  short : run < count
  back : run ≤ bit
  clear : ∀ k, bit ≤ k + run → k < bit → map.marked k = false
  edge : ∀ k, k + run + 1 = bit → map.marked k = true
  passed : vacancies map.allocated bit count = ∅

/-- A run that ends with the next bit is the only one that the next bit can bring. -/
theorem Searched.ending {run bit : Nat} (searched : Searched map count run bit)
    (vacant : start ∈ vacancies map.allocated (bit + 1) count) : start + count = bit + 1 := by
  by_contra other
  have earlier : start ∈ vacancies map.allocated bit count := ⟨by have := vacant.1; omega, vacant.2⟩
  rw [searched.passed] at earlier
  exact earlier

theorem Searched.marked {run bit : Nat} (searched : Searched map count run bit) (inside : bit < map.sectors)
    (marked : map.marked bit = true) : Searched map count 0 (bit + 1) := by
  refine ⟨Nat.zero_lt_of_lt searched.short, Nat.zero_le _, fun k far near => by omega, ?_, ?_⟩
  · intro k last
    rwa [show k = bit by omega]
  · refine Set.eq_empty_of_forall_notMem fun start vacant => ?_
    have ends := searched.ending vacant
    have short := searched.short
    have clear := ((mem_vacancies inside).mp vacant).2 bit (by omega) (by omega)
    rw [marked] at clear
    cases clear

theorem Searched.longer {run bit : Nat} (searched : Searched map count run bit) (inside : bit < map.sectors)
    (clear : map.marked bit = false) (short : run + 1 < count) : Searched map count (run + 1) (bit + 1) := by
  refine ⟨short, Nat.succ_le_succ searched.back, ?_, fun k last => searched.edge k (by omega), ?_⟩
  · intro k far near
    rcases Nat.lt_succ_iff_lt_or_eq.mp near with before | rfl
    · exact searched.clear k (by omega) before
    · exact clear
  · refine Set.eq_empty_of_forall_notMem fun start vacant => ?_
    have ends := searched.ending vacant
    -- the run would have to reach back over the marked bit before those that are clear
    have marked := searched.edge (bit - run - 1) (by omega)
    have absent := ((mem_vacancies inside).mp vacant).2 (bit - run - 1) (by omega) (by omega)
    rw [marked] at absent
    cases absent

theorem Searched.found {run bit stop : Nat} (searched : Searched map count run bit) (inside : bit < map.sectors)
    (clear : map.marked bit = false) (whole : run + 1 = count) (before : bit < stop) :
    IsLeast (vacancies map.allocated stop count) (bit + 1 - count) := by
  have back := searched.back
  constructor
  · have vacant : bit + 1 - count ∈ vacancies map.allocated (bit + 1) count := by
      refine (mem_vacancies inside).mpr ⟨by omega, fun k far near => ?_⟩
      rcases Nat.lt_succ_iff_lt_or_eq.mp (show k < bit + 1 by omega) with earlier | rfl
      · exact searched.clear k (by omega) earlier
      · exact clear
    exact ⟨by omega, vacant.2⟩
  · intro start vacant
    by_contra lower
    have earlier : start ∈ vacancies map.allocated bit count := ⟨by omega, vacant.2⟩
    rw [searched.passed] at earlier
    exact earlier

/-- The search goes on to the least start of a vacant run. -/
theorem firstRunFrom?_eq_some_iff {remaining run bit : Nat} (inside : bit + remaining ≤ map.sectors)
    (searched : Searched map count run bit) :
    map.firstRunFrom? count remaining run bit = some start ↔
      IsLeast (vacancies map.allocated (bit + remaining) count) start := by
  induction remaining generalizing run bit with
  | zero =>
      rw [firstRunFrom?, Nat.add_zero, searched.passed]
      exact iff_of_false (by simp) fun least => least.1
  | succ remaining ih =>
      have next : bit + (remaining + 1) = bit + 1 + remaining := by omega
      have here : bit < map.sectors := by omega
      rw [firstRunFrom?]
      cases marked : map.marked bit with
      | true =>
          have short := searched.short
          simp only [if_true]
          rw [if_neg (by omega), next]
          exact ih (by omega) (searched.marked here marked)
      | false =>
          simp only [Bool.false_eq_true, if_false]
          split
          · rename_i whole
            have least := searched.found here marked whole (show bit < bit + (remaining + 1) by omega)
            rw [Option.some_inj]
            exact ⟨fun same => same ▸ least, least.unique⟩
          · rename_i part
            have short := searched.short
            rw [next]
            exact ih (by omega) (searched.longer here marked (by omega))

theorem firstRun?_eq_some_iff (some : 0 < count) :
    map.firstRun? count = .some start ↔ IsLeast (vacancies map.allocated map.sectors count) start := by
  have searched : Searched map count 0 0 := by
    refine ⟨some, Nat.le_refl 0, fun k _ near => by omega, fun k last => by omega, ?_⟩
    exact Set.eq_empty_of_forall_notMem fun start vacant => by have := vacant.1; omega
  rw [firstRun?, firstRunFrom?_eq_some_iff (by omega) searched, Nat.zero_add]

/-- Passing over full groups finds the start of the least vacant run of one sector. -/
theorem firstClear?_eq_some_iff (fenced : map.Fenced) :
    map.firstClear? = some start ↔ IsLeast (vacancies map.allocated map.sectors 1) start := by
  have single : ∀ {k}, k ∈ vacancies map.allocated map.sectors 1 ↔ map.marked k = false := by
    intro k
    rw [mem_vacancies (Nat.le_refl _)]
    constructor
    · rintro ⟨-, clear⟩
      exact clear k (Nat.le_refl k) (Nat.lt_succ_self k)
    · intro clear
      refine ⟨?_, fun j reached before => by rwa [show j = k by omega]⟩
      by_contra past
      rw [fenced k (by omega)] at clear
      cases clear
  constructor
  · intro found
    exact ⟨single.mpr (marked_of_firstClear? found), fun k clear => le_of_firstClear? found (single.mp clear)⟩
  · rintro ⟨vacant, least⟩
    refine firstClear?_eq (single.mp vacant) fun j before => ?_
    by_contra unmarked
    exact absurd (least (single.mpr (by simpa using unmarked))) (Nat.not_le.mpr before)

/-- **First fit gives the least start of a vacant run, whichever way it searches.** -/
theorem firstFit?_eq_some_iff (fenced : map.Fenced) (some : 0 < count) :
    map.firstFit? count = .some start ↔ IsLeast (vacancies map.allocated map.sectors count) start := by
  unfold firstFit?
  split
  · rename_i one
    subst one
    exact firstClear?_eq_some_iff fenced
  · exact firstRun?_eq_some_iff some

theorem firstFit?_eq_none_iff (fenced : map.Fenced) (some : 0 < count) :
    map.firstFit? count = none ↔ vacancies map.allocated map.sectors count = ∅ := by
  constructor
  · intro missing
    by_contra vacant
    classical
    have nonempty := Set.nonempty_iff_ne_empty.mpr vacant
    have least : IsLeast (vacancies map.allocated map.sectors count) (Nat.find nonempty) :=
      ⟨Nat.find_spec nonempty, fun _ listed => Nat.find_min' nonempty listed⟩
    rw [(firstFit?_eq_some_iff fenced some).mpr least] at missing
    cases missing
  · intro none
    refine Option.eq_none_iff_forall_ne_some.mpr fun start found => ?_
    have vacant := ((firstFit?_eq_some_iff fenced some).mp found).1
    rw [none] at vacant
    exact vacant

theorem firstRun?_one (fenced : map.Fenced) : map.firstRun? 1 = map.firstClear? :=
  Option.ext fun _ => (firstRun?_eq_some_iff Nat.one_pos).trans (firstClear?_eq_some_iff fenced).symm

/-! ## Steps -/

section Steps

variable {n : Nat} {sector : SectorId}

theorem Bounded.isAllocated_set (bounded : Bounded n map) (inside : sector.index < n) :
    (isAllocated sector).Ensures map (fun answer after => answer = decide (sector.index ∈ map.allocated) ∧ after = map)
      fun _ _ => False := by
  obtain ⟨rfl, -⟩ := bounded
  unfold isAllocated requireBit
  refine .bind (.bind (Action.ensures_get.mpr ?_))
  rw [if_pos (hasBit_of_lt inside)]
  refine Action.ensures_pure.mpr (.bind (Action.ensures_get.mpr (Action.ensures_pure.mpr ⟨?_, rfl⟩)))
  simp only [mem_allocated_of_lt inside, Bool.decide_eq_true]

theorem Bounded.freeCount_set (bounded : Bounded n map) : map.freeCount = n - map.allocated.card := by
  obtain ⟨rfl, fenced⟩ := bounded
  rw [fenced.freeCount_eq, clearCount_eq_sub_card]

theorem Bounded.reserve_set (bounded : Bounded n map) (inside : sector.index < n) :
    (reserve sector).Ensures map
      (fun _ after => Bounded n after ∧ sector.index ∉ map.allocated ∧
        after.allocated = insert sector.index map.allocated)
      fun failure after => failure = .fault (.broken (.reservedOnce sector)) ∧ sector.index ∈ map.allocated ∧
        after = map := by
  obtain ⟨rfl, fenced⟩ := bounded
  have bit := hasBit_of_lt inside
  unfold reserve requireBit
  refine .bind (.bind (Action.ensures_get.mpr ?_))
  rw [if_pos bit]
  refine Action.ensures_pure.mpr (.bind (Action.ensures_get.mpr (.bind (Action.ensures_require.mpr ?_))))
  cases marked : map.marked sector.index with
  | true => exact ⟨rfl, (mem_allocated_of_lt inside).mpr marked, rfl⟩
  | false =>
      rw [Bool.not_false, if_pos rfl]
      refine Action.ensures_modify.mpr ?_
      exact ⟨⟨sectors_mark _, fenced.mark bit⟩, (not_mem_allocated inside).mpr marked, allocated_mark inside⟩

theorem Fenced.markRun (fenced : map.Fenced) (inside : start + count ≤ map.sectors) :
    (map.markRun start count).Fenced := by
  induction count generalizing map start with
  | zero => exact fenced
  | succ count ih => exact ih (fenced.mark (hasBit_of_lt (by omega))) (by rw [sectors_mark]; omega)

theorem Bounded.allocate_set (bounded : Bounded n map) (small : n ≤ 2 ^ 32) (some : 0 < count) :
    (allocate count).Ensures map
      (fun given after => Bounded n after ∧
        ((given = none ∧ vacancies map.allocated n count = ∅ ∧ after = map) ∨
          ∃ sector, given = .some sector ∧ IsLeast (vacancies map.allocated n count) sector.index ∧
            after.allocated = map.allocated ∪ Finset.Ico sector.index (sector.index + count)))
      fun _ _ => False := by
  obtain ⟨rfl, fenced⟩ := bounded
  unfold allocate
  refine .bind (Action.ensures_require.mpr ?_)
  rw [if_pos (by simpa using some)]
  refine .bind (Action.ensures_get.mpr ?_)
  cases found : map.firstFit? count with
  | none =>
      refine Action.ensures_pure.mpr ?_
      exact ⟨⟨rfl, fenced⟩, .inl ⟨rfl, (firstFit?_eq_none_iff fenced some).mp found, rfl⟩⟩
  | some start =>
      have least := (firstFit?_eq_some_iff fenced some).mp found
      have inside : start + count ≤ map.sectors := least.1.1
      have index : (SectorId.ofNat start).index = start := SectorId.index_ofNat (by omega)
      refine .bind (Action.ensures_modify.mpr (.bind (Action.ensures_emit.mpr (Action.ensures_pure.mpr ?_))))
      refine ⟨⟨sectors_markRun, fenced.markRun inside⟩, .inr ⟨_, rfl, ?_⟩⟩
      rw [index]
      exact ⟨least, allocated_markRun inside⟩

/-- Taking out the first number of a range leaves the rest of the range to be taken out. -/
theorem erase_sdiff_Ico {taken : Finset Nat} {bit finish : Nat} (some : bit < finish) :
    taken.erase bit \ Finset.Ico (bit + 1) finish = taken \ Finset.Ico bit finish := by
  ext k
  simp only [Finset.mem_sdiff, Finset.mem_erase, Finset.mem_Ico]
  constructor
  · rintro ⟨⟨apart, kept⟩, outside⟩
    exact ⟨kept, by omega⟩
  · rintro ⟨kept, outside⟩
    exact ⟨⟨by omega, kept⟩, by omega⟩

/-- Where the first number of a range is taken, those that are not are in the rest. -/
theorem untaken_Ico_succ {taken : Finset Nat} {bit finish : Nat} (here : bit ∈ taken) :
    {k | k ∈ Finset.Ico bit finish ∧ k ∉ taken} = {k | k ∈ Finset.Ico (bit + 1) finish ∧ k ∉ taken.erase bit} := by
  ext k
  simp only [Set.mem_ofPred_eq, Finset.mem_Ico, Finset.mem_erase, not_and]
  constructor
  · rintro ⟨⟨low, high⟩, absent⟩
    have later : bit ≠ k := fun same => absent (same ▸ here)
    exact ⟨by omega, fun _ => absent⟩
  · rintro ⟨⟨low, high⟩, absent⟩
    exact ⟨by omega, absent (by omega)⟩

theorem Bounded.releaseFrom_set {bit : Nat} (bounded : Bounded n map) (inside : bit + count ≤ n) :
    (releaseFrom count bit).Ensures map
      (fun _ after => Bounded n after ∧ Finset.Ico bit (bit + count) ⊆ map.allocated ∧
        after.allocated = map.allocated \ Finset.Ico bit (bit + count))
      fun failure after => Bounded n after ∧
        ∃ k, IsLeast {k | k ∈ Finset.Ico bit (bit + count) ∧ k ∉ map.allocated} k ∧
          failure = .fault (.broken (.releasedAllocated k)) ∧
          after.allocated = map.allocated \ Finset.Ico bit k := by
  -- over the number of sectors, for every map: the rest is released from the map without the first
  induction count generalizing map bit with
  | zero => exact Action.ensures_pure.mpr ⟨bounded, by simp, by simp⟩
  | succ count ih =>
      obtain ⟨rfl, fenced⟩ := bounded
      have here : bit < map.sectors := by omega
      have finish : bit + (count + 1) = bit + 1 + count := by omega
      unfold releaseFrom requireBit
      refine .bind (.bind (Action.ensures_get.mpr ?_))
      rw [if_pos (hasBit_of_lt here), finish]
      refine Action.ensures_pure.mpr (.bind (Action.ensures_get.mpr (.bind (Action.ensures_require.mpr ?_))))
      cases marked : map.marked bit with
      | false =>
          rw [if_neg Bool.false_ne_true]
          refine ⟨⟨rfl, fenced⟩, bit, ⟨⟨Finset.mem_Ico.mpr ⟨Nat.le_refl _, by omega⟩, ?_⟩, ?_⟩, rfl, by simp⟩
          · exact (not_mem_allocated here).mpr marked
          · rintro k ⟨listed, -⟩
            exact (Finset.mem_Ico.mp listed).1
      | true =>
          rw [if_pos rfl]
          have taken := (mem_allocated_of_lt here).mpr marked
          have next : Bounded map.sectors (map.unmark bit) := ⟨sectors_unmark _, fenced.unmark here⟩
          refine .bind (Action.ensures_modify.mpr ((ih next (by omega)).mono ?_ ?_))
          · rintro _ after ⟨bounded, rest, left⟩
            rw [allocated_unmark here] at rest left
            refine ⟨bounded, fun k listed => ?_, left.trans (erase_sdiff_Ico (by omega))⟩
            obtain ⟨low, high⟩ := Finset.mem_Ico.mp listed
            rcases Nat.eq_or_lt_of_le low with rfl | later
            · exact taken
            · exact Finset.mem_of_mem_erase (rest (Finset.mem_Ico.mpr ⟨later, high⟩))
          · rintro failure after ⟨bounded, k, least, why, left⟩
            rw [allocated_unmark here] at least left
            have reached : bit < k := (Finset.mem_Ico.mp least.1.1).1
            refine ⟨bounded, k, ?_, why, left.trans (erase_sdiff_Ico reached)⟩
            rw [untaken_Ico_succ taken]
            exact least

theorem Bounded.release_set (bounded : Bounded n map) (small : n ≤ 2 ^ 32) (inside : sector.index + count ≤ n) :
    (release sector count).Ensures map
      (fun _ after => Bounded n after ∧ Finset.Ico sector.index (sector.index + count) ⊆ map.allocated ∧
        after.allocated = map.allocated \ Finset.Ico sector.index (sector.index + count))
      fun failure after => Bounded n after ∧
        ∃ k, IsLeast {k | k ∈ Finset.Ico sector.index (sector.index + count) ∧ k ∉ map.allocated} k ∧
          failure = .fault (.broken (.releasedAllocated k)) ∧
          after.allocated = map.allocated \ Finset.Ico sector.index k := by
  have fits : sector.index + count < wordLimit := by
    simp only [wordLimit]
    omega
  unfold release
  refine .bind (Action.ensures_checkedAdd.mpr ?_)
  rw [if_pos fits]
  refine .bind ((bounded.releaseFrom_set inside).mono ?_ fun _ _ failed => failed)
  exact fun _ _ done => Action.ensures_emit.mpr done

end Steps

/-! ## Runs -/

/-- What an empty map over `n` sectors becomes by requests that are within its sectors, whether or not they
are met, and by taking over what other such maps have stored. -/
inductive Reachable (n : Nat) : FreeMap → Prop where
  | clear : Reachable n (.clear n)
  | reserve {map : FreeMap} (reached : Reachable n map) {sector : SectorId} (inside : sector.index < n)
      (log : Array Event) : Reachable n ((FreeMap.reserve sector).after map log)
  | allocate {map : FreeMap} (reached : Reachable n map) {count : Nat} (some : 0 < count) (log : Array Event) :
      Reachable n ((FreeMap.allocate count).after map log)
  | release {map : FreeMap} (reached : Reachable n map) {sector : SectorId} {count : Nat} (some : 0 < count)
      (inside : sector.index + count ≤ n) (log : Array Event) : Reachable n ((FreeMap.release sector count).after map log)
  | load {map other : FreeMap} (reached : Reachable n map) (stored : Reachable n other) (log : Array Event) :
      Reachable n ((FreeMap.load other.toBlock.bytes).after map log)

theorem Reachable.bounded {n : Nat} (small : n ≤ 2 ^ 32) (reached : Reachable n map) : Bounded n map := by
  induction reached with
  | clear => exact ⟨rfl, fenced_clear n⟩
  | reserve reached inside log bounded =>
      refine (bounded.reserve_set inside).after (Bounded n) (fun _ _ done => done.1) ?_ log
      rintro _ _ ⟨-, -, rfl⟩
      exact bounded
  | allocate reached some log bounded =>
      exact (bounded.allocate_set small some).after (Bounded n) (fun _ _ done => done.1) (fun _ _ failed => failed.elim) log
  | release reached some inside log bounded =>
      exact (bounded.release_set small inside).after (Bounded n) (fun _ _ done => done.1) (fun _ _ failed => failed.1) log
  | load reached stored log bounded bounded' =>
      -- nothing is left of the map that was there
      refine (load_ensures (bounded.1.trans bounded'.1.symm)).after (Bounded n) ?_ (fun _ _ failed => failed.elim) log
      rintro _ _ rfl
      exact bounded'

/-- Once sector 0 is reserved, files can be kept on the sectors of such a map. -/
theorem Reachable.sound {n : Nat} (small : n ≤ 2 ^ 32) (reached : Reachable n map) (reserved : 0 ∈ map.allocated) :
    map.Sound :=
  have bounded := reached.bounded small
  ⟨bounded.1 ▸ small, (mem_allocated.mp reserved).2, bounded.2⟩

/-- What a map over `n` sectors answers and becomes when the sectors in `taken` are allocated. -/
structure Refines (n : Nat) (map : FreeMap) (taken : Finset Nat) : Prop where
  below : ∀ k ∈ taken, k < n
  isAllocated : ∀ sector : SectorId, sector.index < n →
    (isAllocated sector).Ensures map (fun answer after => answer = decide (sector.index ∈ taken) ∧ after = map)
      fun _ _ => False
  freeCount : map.freeCount = n - taken.card
  reserve : ∀ sector : SectorId, sector.index < n →
    (reserve sector).Ensures map
      (fun _ after => sector.index ∉ taken ∧ after.allocated = insert sector.index taken)
      fun failure after => failure = .fault (.broken (.reservedOnce sector)) ∧ sector.index ∈ taken ∧ after = map
  searches : map.firstRun? 1 = map.firstClear?
  allocate : ∀ count, 0 < count →
    (allocate count).Ensures map
      (fun given after =>
        (given = none ∧ vacancies taken n count = ∅ ∧ after = map) ∨
          ∃ sector, given = some sector ∧ IsLeast (vacancies taken n count) sector.index ∧
            after.allocated = taken ∪ Finset.Ico sector.index (sector.index + count))
      fun _ _ => False
  release : ∀ (sector : SectorId) (count : Nat), 0 < count → sector.index + count ≤ n →
    (release sector count).Ensures map
      (fun _ after => Finset.Ico sector.index (sector.index + count) ⊆ taken ∧
        after.allocated = taken \ Finset.Ico sector.index (sector.index + count))
      fun failure after => ∃ k, IsLeast {k | k ∈ Finset.Ico sector.index (sector.index + count) ∧ k ∉ taken} k ∧
        failure = .fault (.broken (.releasedAllocated k)) ∧ after.allocated = taken \ Finset.Ico sector.index k
  load : ∀ other, Reachable n other →
    (load other.toBlock.bytes).Ensures map (fun _ after => after = other) fun _ _ => False

/-- **A free map is the set of its allocated sectors, with first fit.** -/
theorem refines_set {n : Nat} (small : n ≤ 2 ^ 32) :
    (clear n).allocated = ∅ ∧ ∀ map, Reachable n map → Refines n map map.allocated := by
  refine ⟨allocated_clear n, fun map reached => ?_⟩
  have bounded := reached.bounded small
  exact {
    below := fun k listed => bounded.1 ▸ (mem_allocated.mp listed).1
    isAllocated := fun sector inside => bounded.isAllocated_set inside
    freeCount := bounded.freeCount_set
    reserve := fun sector inside => (bounded.reserve_set inside).mono (fun _ _ done => done.2) fun _ _ failed => failed
    searches := firstRun?_one bounded.2
    allocate := fun count some => (bounded.allocate_set small some).mono (fun _ _ done => done.2) fun _ _ failed => failed
    release := fun sector count _ inside =>
      (bounded.release_set small inside).mono (fun _ _ done => done.2) fun _ _ failed => failed.2
    load := fun other stored => load_ensures (bounded.1.trans (stored.bounded small).1.symm) }

/-- A run over the border of two groups with a hole in its first group. -/
theorem refines_set_hole :
    Refines 70 ((release (.ofNat 60) 3).after ((allocate 66).after (clear 70) #[]) #[])
      (Finset.range 60 ∪ Finset.Ico 63 66) := by
  have reached : Reachable 70 ((release (.ofNat 60) 3).after ((allocate 66).after (clear 70) #[]) #[]) :=
    .release (.allocate .clear (by decide) #[]) (by decide) (by decide) #[]
  have left : ((release (.ofNat 60) 3).after ((allocate 66).after (clear 70) #[]) #[]).allocated =
      Finset.range 60 ∪ Finset.Ico 63 66 := by decide +kernel
  have refines := (refines_set (show 70 ≤ 2 ^ 32 by decide)).2 _ reached
  rwa [left] at refines

end FreeMap

end InodeVolume
