import Mathlib.Data.Finset.Max
import Mathlib.Data.Fintype.Basic
import InodeVolume.Proofs.Cache.Shows

/-!
# Second chance

The victim is looked for round the ring, from the hand on. A slot whose copy was used since the hand
last passed loses its mark and is passed over; the first other slot is given up.

* **ring** — `distance hand i` is the number of steps from the hand to a slot, and `marked` tells which
  slots have been used;
* **scan** — `Scans` is the search look by look, with nothing to bound it; `sweep` is the same search
  given a number of looks (`Scans.sweep_eq`);
* **second chance** — `SecondChance` says which slot is given up, which marks are taken off and where
  the hand stops. `victim_scans` and `victim_secondChance`: no search takes more than `n + 1` looks, and
  each ends so.
-/

namespace InodeVolume

namespace Cache

variable {n looks : Nat} {cache after : Cache n} {hand i j victim : Fin n}

/-! ## The ring -/

theorem val_next (i : Fin n) : (next i).val = if i.val + 1 = n then 0 else i.val + 1 := by
  unfold next
  split
  · rename_i last
    simp only [last, Nat.mod_self]
  · rename_i inner
    exact Nat.mod_eq_of_lt (by omega)

/-- How many steps a slot lies ahead of the hand. -/
def distance (hand i : Fin n) : Nat :=
  if hand.val ≤ i.val then i.val - hand.val else i.val + n - hand.val

theorem distance_lt (hand i : Fin n) : distance hand i < n := by
  unfold distance
  split <;> omega

@[simp] theorem distance_self (hand : Fin n) : distance hand hand = 0 := by
  simp [distance]

theorem distance_injective (same : distance hand i = distance hand j) : i = j := by
  apply Fin.ext
  unfold distance at same
  split at same <;> split at same <;> omega

/-- From behind another slot a slot is as much nearer as that slot was far, or a round farther. -/
theorem distance_behind (hand : Fin n) (apart : i ≠ victim) :
    distance (next victim) i + distance hand victim + 1 =
      distance hand i + if distance hand victim < distance hand i then 0 else n := by
  have apart' : i.val ≠ victim.val := fun same => apart (Fin.ext same)
  have moved := val_next victim
  unfold distance
  split at moved <;> split <;> split <;> split <;> split <;> omega

/-- Once passed over, a slot is the last on the ring. -/
theorem distance_next_self (hand : Fin n) : distance (next hand) hand + 1 = n := by
  have moved := val_next hand
  unfold distance
  split at moved <;> split <;> omega

theorem distance_next (apart : i ≠ hand) : distance (next hand) i + 1 = distance hand i := by
  have whole := distance_behind hand apart
  have ahead : 0 < distance hand i := by
    apply Nat.pos_of_ne_zero
    intro here
    exact apart (distance_injective (here.trans (distance_self hand).symm))
  rw [distance_self, if_pos ahead] at whole
  exact whole

/-- Whether a slot holds a copy that was used since the hand last passed. -/
def marked (cache : Cache n) (i : Fin n) : Bool := (getElem cache.slots i i.isLt).any (·.accessed)

/-- The hand moves to the next slot. -/
def advance (cache : Cache n) : Cache n := { cache with hand := next cache.hand }

/-- The hand takes the mark off its slot and moves to the next one. -/
def pass (cache : Cache n) : Cache n :=
  { slots := cache.slots.set cache.hand
      ((getElem cache.slots cache.hand cache.hand.isLt).map Entry.unmarked) cache.hand.isLt
    hand := next cache.hand }

theorem slots_pass (cache : Cache n) (j : Fin n) :
    getElem cache.pass.slots j j.isLt =
      if j = cache.hand then (getElem cache.slots j j.isLt).map Entry.unmarked
      else getElem cache.slots j j.isLt := by
  by_cases here : j = cache.hand
  · subst here
    simp [pass]
  · have apart : cache.hand.val ≠ j.val := fun same => here (Fin.ext same.symm)
    simp [pass, here, Vector.getElem_set_ne _ _ apart]

theorem marked_pass_self (cache : Cache n) : cache.pass.marked cache.hand = false := by
  rw [marked, slots_pass, if_pos rfl]
  cases getElem cache.slots cache.hand cache.hand.isLt <;> rfl

theorem marked_pass_of_ne (apart : j ≠ cache.hand) : cache.pass.marked j = cache.marked j := by
  rw [marked, slots_pass, if_neg apart]
  rfl

/-! ## The scan -/

/-- The search for a victim, look by look: it takes `looks` looks, stops at `victim` and leaves `after`. -/
inductive Scans : Cache n → Nat → Fin n → Cache n → Prop where
  | stop {cache : Cache n} (unused : cache.marked cache.hand = false) :
      Scans cache 1 cache.hand cache.advance
  | pass {cache after : Cache n} {looks : Nat} {victim : Fin n} (used : cache.marked cache.hand = true)
      (rest : Scans cache.pass looks victim after) : Scans cache (looks + 1) victim after

theorem sweep_succ (cache : Cache n) (looks : Nat) :
    cache.sweep (looks + 1) =
      if cache.marked cache.hand = true then cache.pass.sweep looks else (cache.hand, cache.advance) := by
  simp only [sweep]
  split
  · rename_i entry here
    have passed : ({ cache with hand := next cache.hand } : Cache n).put cache.hand
        { entry with accessed := false } = cache.pass := by
      simp only [put, pass, here]
      rfl
    simp only [marked, here, passed]
    rfl
  · rename_i here
    simp only [marked, here]
    rfl

/-- With looks to spare, the bounded search is the search. -/
theorem Scans.sweep_eq (scans : Scans cache looks victim after) (spare : Nat) :
    cache.sweep (looks + spare) = (victim, after) := by
  induction scans with
  | stop unused =>
      rw [Nat.add_comm, sweep_succ, if_neg (by simp [unused])]
  | pass used _ ih =>
      rw [Nat.add_right_comm, sweep_succ, if_pos used]
      exact ih

/-! ## Second chance -/

/-- The slots that are passed over before the scan stops: those on the way to the victim, and all of
them where the victim itself was used. -/
def Passes (cache : Cache n) (victim j : Fin n) : Prop :=
  cache.marked victim = true ∨ distance cache.hand j < distance cache.hand victim

instance : Decidable (cache.Passes victim j) := inferInstanceAs (Decidable (_ ∨ _))

/-- How a search for a victim ends. -/
structure SecondChance (cache : Cache n) (victim : Fin n) (after : Cache n) : Prop where
  /-- The victim is the first slot from the hand on that was not used, or the one at the hand. -/
  chosen : (cache.marked victim = false ∧
      ∀ j, distance cache.hand j < distance cache.hand victim → cache.marked j = true) ∨
    (victim = cache.hand ∧ ∀ j, cache.marked j = true)
  /-- The slots passed over lose their marks, and nothing else is changed. -/
  slots : ∀ j : Fin n, getElem after.slots j j.isLt =
    if cache.Passes victim j then (getElem cache.slots j j.isLt).map Entry.unmarked
    else getElem cache.slots j j.isLt
  hand : after.hand = next victim

/-- A scan goes on to the first slot that was not used. -/
theorem exists_scans_first (unused : cache.marked victim = false)
    (used : ∀ j, distance cache.hand j < distance cache.hand victim → cache.marked j = true) :
    ∃ after, Scans cache (distance cache.hand victim + 1) victim after ∧
      (∀ j : Fin n, getElem after.slots j j.isLt =
        if distance cache.hand j < distance cache.hand victim
        then (getElem cache.slots j j.isLt).map Entry.unmarked else getElem cache.slots j j.isLt) ∧
      after.hand = next victim := by
  -- by induction on the steps that are left to the victim, of which a pass takes one
  generalize steps : distance cache.hand victim = left at used ⊢
  induction left generalizing cache with
  | zero =>
      obtain rfl : victim = cache.hand := distance_injective (steps.trans (distance_self _).symm)
      exact ⟨cache.advance, .stop unused, fun _ => rfl, rfl⟩
  | succ left ih =>
      have apart : victim ≠ cache.hand := by
        intro same
        rw [same, distance_self] at steps
        cases steps
      have nearer : distance cache.pass.hand victim = left := by
        have step := distance_next apart
        rw [steps] at step
        exact Nat.succ.inj step
      have short : left + 1 < n := steps ▸ distance_lt cache.hand victim
      -- the slot that was passed over is now the last on the ring, so it is not on the way
      have last : ∀ j, distance cache.pass.hand j < left → j ≠ cache.hand := by
        intro j onWay same
        have round := distance_next_self cache.hand
        rw [same] at onWay
        have onWay : distance (next cache.hand) cache.hand < left := onWay
        omega
      have step : ∀ j, j ≠ cache.hand → distance cache.pass.hand j + 1 = distance cache.hand j :=
        fun j other => distance_next other
      obtain ⟨after, scans, slots, hand⟩ := ih
        ((marked_pass_of_ne apart).trans unused) nearer (by
          intro j onWay
          have other := last j onWay
          rw [marked_pass_of_ne other]
          apply used
          have := step j other
          omega)
      have first : cache.marked cache.hand = true := used cache.hand (by simp)
      refine ⟨after, .pass first scans, ?_, hand⟩
      intro j
      rw [slots j, slots_pass]
      by_cases here : j = cache.hand
      · have late : ¬distance cache.pass.hand j < left := fun onWay => last j onWay here
        rw [if_neg late, if_pos here, if_pos]
        rw [here, distance_self]
        exact Nat.zero_lt_succ left
      · have := step j here
        rw [if_neg here]
        by_cases onWay : distance cache.pass.hand j < left
        · rw [if_pos onWay, if_pos (by omega)]
        · rw [if_neg onWay, if_neg (by omega)]

/-- Once every slot has lost its mark, the scan is back at the slot where it began. -/
theorem exists_scans_round (used : ∀ j, cache.marked j = true) :
    ∃ after, Scans cache (n + 1) cache.hand after ∧
      (∀ j : Fin n, getElem after.slots j j.isLt = (getElem cache.slots j j.isLt).map Entry.unmarked) ∧
      after.hand = next cache.hand := by
  have round : distance cache.pass.hand cache.hand + 1 = n := distance_next_self cache.hand
  obtain ⟨after, scans, slots, hand⟩ := exists_scans_first (marked_pass_self cache) (by
      intro j onWay
      have other : j ≠ cache.hand := by
        intro same
        rw [same] at onWay
        exact Nat.lt_irrefl _ onWay
      rw [marked_pass_of_ne other]
      exact used j)
  rw [round] at scans
  refine ⟨after, .pass (used cache.hand) scans, ?_, hand⟩
  intro j
  rw [slots j, slots_pass]
  by_cases here : j = cache.hand
  · rw [if_pos here, here, if_neg (Nat.lt_irrefl _)]
  · have onWay : distance cache.pass.hand j < distance cache.pass.hand cache.hand := by
      have bound := distance_lt cache.pass.hand j
      have apart : distance cache.pass.hand j ≠ distance cache.pass.hand cache.hand :=
        fun same => here (distance_injective same)
      omega
    rw [if_pos onWay, if_neg here]

/-- Some slot was not used, and then there is a first such slot, or all were. -/
theorem exists_first_unused (cache : Cache n) :
    (∃ victim, cache.marked victim = false ∧
      ∀ j, distance cache.hand j < distance cache.hand victim → cache.marked j = true) ∨
    ∀ j, cache.marked j = true := by
  by_cases found : ∃ i, cache.marked i = false
  · left
    obtain ⟨i, unused⟩ := found
    obtain ⟨victim, listed, least⟩ :=
      Finset.exists_min_image (Finset.univ.filter fun i => cache.marked i = false)
        (distance cache.hand) ⟨i, by simpa using unused⟩
    refine ⟨victim, by simpa using listed, ?_⟩
    intro j nearer
    by_contra unused
    have := least j (by simpa using unused)
    omega
  · right
    intro j
    by_contra unused
    exact found ⟨j, by simpa using unused⟩

/-- Every search comes to its end, within one look more than there are slots. -/
theorem exists_scans (cache : Cache n) :
    ∃ looks victim after, looks ≤ n + 1 ∧ Scans cache looks victim after ∧
      SecondChance cache victim after := by
  rcases exists_first_unused cache with ⟨victim, unused, used⟩ | used
  · obtain ⟨after, scans, slots, hand⟩ := exists_scans_first unused used
    have bound := distance_lt cache.hand victim
    refine ⟨_, victim, after, by omega, scans, .inl ⟨unused, used⟩, ?_, hand⟩
    intro j
    rw [slots j]
    simp only [Passes, unused, Bool.false_eq_true, false_or]
  · obtain ⟨after, scans, slots, hand⟩ := exists_scans_round used
    refine ⟨_, cache.hand, after, Nat.le_refl _, scans, .inr ⟨rfl, used⟩, ?_, hand⟩
    intro j
    rw [slots j, if_pos (.inl (used cache.hand))]

/-- A search within `n + 1` looks finds the victim. -/
theorem Scans.victim_eq (scans : Scans cache looks victim after) (bound : looks ≤ n + 1) :
    cache.victim = (victim, after) := by
  have found := scans.sweep_eq (n + 1 - looks)
  rw [Nat.add_sub_cancel' bound] at found
  exact found

/-- The victim is found by the search, and `n + 1` looks are enough for it. -/
theorem victim_scans (cache : Cache n) :
    ∃ looks ≤ n + 1, Scans cache looks cache.victim.1 cache.victim.2 := by
  obtain ⟨looks, victim, after, bound, scans, -⟩ := exists_scans cache
  rw [scans.victim_eq bound]
  exact ⟨looks, bound, scans⟩

/-- **The victim is given up by exact second chance.** -/
theorem victim_secondChance (cache : Cache n) : SecondChance cache cache.victim.1 cache.victim.2 := by
  obtain ⟨looks, victim, after, bound, scans, second⟩ := exists_scans cache
  rw [scans.victim_eq bound]
  exact second

end Cache

end InodeVolume
