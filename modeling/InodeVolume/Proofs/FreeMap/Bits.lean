import Mathlib.Data.List.Induction
import Mathlib.Tactic.Common
import InodeVolume.FreeMap
import InodeVolume.Proofs.Lists

/-!
# A free map is the set of its marked bits

Everything that is asked of a free map is told in terms of `marked`.

* **views** — `ext_marked`: maps over equally many sectors with the same marked bits are equal;
* **searching** — `firstClear?` gives a clear bit, and nothing only where all bits are marked;
* **counting** — `clearCount` goes down by one with each bit that is marked, and is the number of free
  sectors where no bit past the last sector is clear (`Fenced`);
* **the stored form** — `ofBlock_toBlock` and `toBlock_ofBlock`: what is stored is read back bit for bit.
-/

namespace InodeVolume

namespace Group

theorem mem_full {k : Nat} (small : k < bits) : full.mem k = true := by
  have all : ∀ k < bits, full.mem k = true := by decide
  exact all k small

theorem mem_zero {k : Nat} (small : k < bits) : mem 0 k = false := by
  rw [mem_eq_testBit _ small]
  exact Nat.zero_testBit k

theorem mem_above {k j : Nat} (small : k < bits) (inside : j < bits) :
    (above k).mem j = decide (k ≤ j) := by
  have amount : (UInt64.ofNat k).toNat % 64 = k := by
    simp only [UInt64.toNat_ofNat', bits] at *
    omega
  have within : j < 64 := inside
  have high : full.toNat = 2 ^ 64 - 1 := by decide
  rw [mem_eq_testBit _ inside, above, UInt64.toNat_shiftLeft, amount, Nat.testBit_mod_two_pow,
    Nat.testBit_shiftLeft, high, Nat.testBit_two_pow_sub_one]
  simp only [within, decide_true, Bool.true_and]
  by_cases reached : k ≤ j
  · have rest : j - k < 64 := by omega
    simp [reached, rest]
  · simp [reached]

/-- The lowest absent bit is absent, unless the group is full. -/
theorem mem_leastAbsent {group : Group} (room : group ≠ full) :
    group.leastAbsent < bits ∧ group.mem group.leastAbsent = false := by
  unfold leastAbsent
  cases found : (List.range bits).find? (!group.mem ·) with
  | some k =>
      have inside : k < bits := List.mem_range.mp (List.mem_of_find?_eq_some found)
      have absent := List.find?_some found
      exact ⟨inside, by simpa using absent⟩
  | none =>
      refine absurd (ext_mem ?_) room
      intro k small
      have present := List.find?_eq_none.mp found k (List.mem_range.mpr small)
      rw [mem_full small]
      simpa using present

/-- Bits below the lowest absent one are there. -/
theorem mem_of_lt_leastAbsent {group : Group} {k : Nat} (low : k < group.leastAbsent) (small : k < bits) :
    group.mem k = true := by
  unfold leastAbsent at low
  cases found : (List.range bits).find? (!group.mem ·) with
  | some j =>
      rw [found, Option.getD_some] at low
      have present := (List.find?_range_eq_some.mp found).2.2 k low
      simpa using present
  | none =>
      have present := List.find?_eq_none.mp found k (List.mem_range.mpr small)
      simpa using present

/-! ### Bytes of a group -/

theorem testBit_byte (group : Group) {j i : Nat} (small : 8 * j + i < bits) (low : i < 8) :
    (group.byte j).toNat.testBit i = group.mem (8 * j + i) := by
  have amount : (UInt64.ofNat (8 * j)).toNat % 64 = 8 * j := by
    simp only [UInt64.toNat_ofNat', bits] at *
    omega
  rw [mem_eq_testBit _ small, byte, UInt64.toNat_toUInt8, UInt64.toNat_shiftRight, amount,
    Nat.testBit_mod_two_pow, Nat.testBit_shiftRight]
  simp [low]

/-- Bytes that are laid into a group one after the other set their own bits alone. -/
theorem testBit_foldl (byte : Fin bytes → UInt8) (list : List (Fin bytes)) (group : Group) {k : Nat}
    (small : k < bits) :
    (list.foldl (fun group j => group ||| ((byte j).toUInt64 <<< UInt64.ofNat (8 * j))) group).toNat.testBit k
      = (group.toNat.testBit k ||
          list.any fun j => decide (8 * j.val ≤ k) && (byte j).toNat.testBit (k - 8 * j)) := by
  induction list generalizing group with
  | nil => simp
  | cons j rest ih =>
      have low := j.isLt
      have amount : (UInt64.ofNat (8 * j)).toNat % 64 = 8 * j.val := by
        simp only [UInt64.toNat_ofNat', bytes] at *
        omega
      have within : k < 64 := small
      rw [List.foldl_cons, ih, List.any_cons, UInt64.toNat_or, Nat.testBit_or,
        UInt64.toNat_shiftLeft, amount, Nat.testBit_mod_two_pow, Nat.testBit_shiftLeft,
        UInt8.toNat_toUInt64, Bool.or_assoc]
      simp [within]

/-- The byte that holds bit `k`. -/
def byteOf (k : Nat) (small : k < bits) : Fin bytes :=
  ⟨k / 8, by simp only [bits, bytes] at *; omega⟩

theorem mem_ofBytes (byte : Fin bytes → UInt8) {k : Nat} (small : k < bits) :
    (ofBytes byte).mem k = (byte (byteOf k small)).toNat.testBit (k % 8) := by
  have none : (0 : Group).toNat.testBit k = false := Nat.zero_testBit k
  rw [mem_eq_testBit _ small, ofBytes, testBit_foldl _ _ _ small, none, Bool.false_or,
    Bool.eq_iff_iff, List.any_eq_true]
  constructor
  · rintro ⟨j, -, set⟩
    obtain ⟨reached, set⟩ := Bool.and_eq_true_iff.mp set
    have reached : 8 * j.val ≤ k := of_decide_eq_true reached
    have near : k - 8 * j.val < 8 := by
      by_contra far
      have wide : (byte j).toNat < 2 ^ (k - 8 * j.val) :=
        Nat.lt_of_lt_of_le (byte j).toNat_lt (Nat.pow_le_pow_right (by decide) (by omega))
      rw [Nat.testBit_lt_two_pow wide] at set
      cases set
    have place : byteOf k small = j :=
      Fin.ext (by show k / 8 = j.val; omega)
    have rest : k % 8 = k - 8 * j.val := by omega
    rw [place, rest]
    exact set
  · intro set
    refine ⟨byteOf k small, List.mem_finRange _, ?_⟩
    have reached : 8 * (k / 8) ≤ k := by omega
    have rest : k - 8 * (k / 8) = k % 8 := by omega
    simp only [byteOf, reached, decide_true, Bool.true_and, rest]
    exact set

/-- A group is made of its bytes. -/
theorem ofBytes_byte (group : Group) : ofBytes (fun j => group.byte j) = group := by
  apply ext_mem
  intro k small
  have whole : 8 * (byteOf k small).val + k % 8 = k := Nat.div_add_mod k 8
  rw [mem_ofBytes _ small, testBit_byte _ (by rw [whole]; exact small) (Nat.mod_lt k (by decide)), whole]

/-- And its bytes are those it was made of. -/
theorem byte_ofBytes (byte : Fin bytes → UInt8) (j : Fin bytes) : (ofBytes byte).byte j = byte j := by
  apply UInt8.toNat_inj.mp
  apply Nat.eq_of_testBit_eq
  intro i
  have low := j.isLt
  by_cases small : i < 8
  · have within : 8 * j.val + i < bits := by
      simp only [bytes, bits] at *
      omega
    have place : byteOf (8 * j.val + i) within = j := Fin.ext (by show (8 * j.val + i) / 8 = j.val; omega)
    have rest : (8 * j.val + i) % 8 = i := by omega
    rw [testBit_byte _ within small, mem_ofBytes _ within, place, rest]
  · have wide : 2 ^ 8 ≤ 2 ^ i := Nat.pow_le_pow_right (by decide) (by omega)
    rw [Nat.testBit_lt_two_pow (Nat.lt_of_lt_of_le (UInt8.toNat_lt _) wide),
      Nat.testBit_lt_two_pow (Nat.lt_of_lt_of_le (UInt8.toNat_lt _) wide)]

end Group

namespace FreeMap

variable {map other : FreeMap}

/-! ## Views -/

theorem mod_lt (k : Nat) : k % Group.bits < Group.bits := Nat.mod_lt _ (by decide)

/-- The number of bit `k` of group `i`, taken apart again. -/
theorem split_place {i k : Nat} (small : k < Group.bits) :
    (i * Group.bits + k) / Group.bits = i ∧ (i * Group.bits + k) % Group.bits = k := by
  simp only [Group.bits] at *
  omega

theorem ext_marked (sectors : map.sectors = other.sectors)
    (same : ∀ k, map.HasBit k → map.marked k = other.marked k) : map = other := by
  obtain ⟨n, groups⟩ := map
  obtain ⟨m, others⟩ := other
  obtain rfl : n = m := sectors
  congr 1
  apply Vector.ext
  intro i inside
  apply Group.ext_mem
  intro k small
  obtain ⟨place, rest⟩ := split_place (i := i) small
  have equal := same (i * Group.bits + k) (by show _ / _ < _; rw [place]; exact inside)
  simpa only [marked, HasBit, place, rest, dif_pos inside] using equal

@[simp] theorem sectors_modifyGroup (f : Group → Group) (bit : Nat) :
    (map.modifyGroup f bit).sectors = map.sectors := by
  obtain ⟨n, groups⟩ := map
  simp only [modifyGroup]
  split <;> rfl

@[simp] theorem sectors_mark (bit : Nat) : (map.mark bit).sectors = map.sectors :=
  sectors_modifyGroup _ bit

@[simp] theorem sectors_unmark (bit : Nat) : (map.unmark bit).sectors = map.sectors :=
  sectors_modifyGroup _ bit

theorem hasBit_of_clear {k : Nat} (clear : map.marked k = false) : map.HasBit k := by
  by_contra outside
  rw [marked, dif_neg outside] at clear
  cases clear

theorem hasBit_of_lt {k : Nat} (inside : k < map.sectors) : map.HasBit k := by
  show k / Group.bits < (map.sectors + (Group.bits - 1)) / Group.bits
  have bits : Group.bits = 64 := rfl
  rw [bits]
  omega

/-- Of an empty map the bits past the last sector are marked, and no others. -/
theorem marked_clear (sectors k : Nat) : (clear sectors).marked k = decide (sectors ≤ k) := by
  by_cases inside : (clear sectors).HasBit k
  · rw [marked, dif_pos inside]
    have within : k / Group.bits < groupCount sectors := inside
    simp only [clear, Vector.getElem_setIfInBounds, Vector.getElem_replicate]
    split
    · rename_i same
      rw [Group.mem_above (mod_lt sectors) (mod_lt k)]
      refine decide_eq_decide.mpr ?_
      simp only [Group.bits] at *
      omega
    · rename_i apart
      rw [Group.mem_zero (mod_lt k)]
      refine (decide_eq_false ?_).symm
      simp only [groupCount, Group.bits] at *
      omega
  · rw [marked, dif_neg inside]
    refine (decide_eq_true ?_).symm
    simp only [HasBit, clear, groupCount, Group.bits] at *
    omega

/-! ## Searching -/

/-- First fit gives a clear bit. -/
theorem marked_of_firstClear? {k : Nat} (found : map.firstClear? = some k) :
    map.marked k = false := by
  simp only [firstClear?, Option.bind_eq_bind, Option.bind_eq_some_iff, Option.pure_def,
    Option.some.injEq] at found
  obtain ⟨i, located, rfl⟩ := found
  have room : map.groups[i] ≠ Group.full := by
    simpa using getElem_of_findFinIdx? located
  obtain ⟨small, absent⟩ := Group.mem_leastAbsent room
  obtain ⟨place, rest⟩ := split_place (i := i.val) small
  simp only [marked, HasBit, place, rest, i.isLt, dite_true]
  exact absent

/-- First fit gives the lowest clear bit. -/
theorem le_of_firstClear? {j k : Nat} (found : map.firstClear? = some j) (clear : map.marked k = false) :
    j ≤ k := by
  have inside := hasBit_of_clear clear
  simp only [firstClear?, Option.bind_eq_bind, Option.bind_eq_some_iff, Option.pure_def,
    Option.some.injEq] at found
  obtain ⟨i, located, rfl⟩ := found
  rw [marked, dif_pos inside] at clear
  by_contra before
  have group : i.val ≤ k / Group.bits := by
    by_contra earlier
    have passed := not_getElem_of_findFinIdx? located
      (show (⟨k / Group.bits, inside⟩ : Fin _) < i from Nat.lt_of_not_le earlier)
    have full : map.groups[k / Group.bits] = Group.full := by simpa using passed
    rw [full, Group.mem_full (mod_lt k)] at clear
    cases clear
  -- the bit is in the group that was found, below the lowest absent one there
  have same : k / Group.bits = i.val := by
    have room : map.groups[i] ≠ Group.full := by simpa using getElem_of_findFinIdx? located
    have least := (Group.mem_leastAbsent room).1
    rw [Group.bits] at before least group ⊢
    omega
  have low : k % Group.bits < (map.groups[i]).leastAbsent := by
    rw [Group.bits] at before same ⊢
    omega
  have equal : map.groups[k / Group.bits] = map.groups[i] := by
    simp only [same]
    rfl
  rw [equal, Group.mem_of_lt_leastAbsent low (mod_lt k)] at clear
  cases clear

/-- Where first fit finds nothing every bit is marked. -/
theorem marked_of_firstClear?_eq_none (missing : map.firstClear? = none) (k : Nat) :
    map.marked k = true := by
  by_contra unmarked
  have clear : map.marked k = false := by simpa using unmarked
  have inside := hasBit_of_clear clear
  cases located : map.groups.findFinIdx? (· != Group.full) with
  | some i => simp [firstClear?, located] at missing
  | none =>
      have full := Vector.findFinIdx?_eq_none_iff.mp located map.groups[k / Group.bits] (by simp)
      have equal : map.groups[k / Group.bits] = Group.full := by simpa using full
      rw [marked, dif_pos inside, equal, Group.mem_full (mod_lt k)] at clear
      cases clear

/-- The lowest clear bit is found. -/
theorem firstClear?_eq {k : Nat} (clear : map.marked k = false) (lower : ∀ j < k, map.marked j = true) :
    map.firstClear? = some k := by
  cases found : map.firstClear? with
  | none =>
      rw [marked_of_firstClear?_eq_none found] at clear
      cases clear
  | some j =>
      have atMost := le_of_firstClear? found clear
      rcases Nat.lt_or_eq_of_le atMost with below | rfl
      · have absent := marked_of_firstClear? found
        rw [lower j below] at absent
        cases absent
      · rfl

/-! ## Counting -/

/-- How many of a map's sectors are clear. -/
def clearCount (map : FreeMap) : Nat := (List.range map.sectors).countP (!map.marked ·)

/-- At first all sectors are clear. -/
theorem clearCount_clear (sectors : Nat) : (clear sectors).clearCount = sectors := by
  have all : (List.range sectors).countP (!(clear sectors).marked ·) = (List.range sectors).length := by
    refine List.countP_eq_length.mpr ?_
    intro k inside
    rw [marked_clear, decide_eq_false (Nat.not_le.mpr (List.mem_range.mp inside))]
    rfl
  rw [List.length_range] at all
  exact all

theorem clearCount_mark {k : Nat} (inside : k < map.sectors) (clear : map.marked k = false) :
    map.clearCount = (map.mark k).clearCount + 1 := by
  have marks := map.marked_mark (hasBit_of_clear clear)
  unfold clearCount
  rw [sectors_mark]
  refine countP_range_update inside (by rw [clear]; rfl) (by simp [marks]) ?_
  intro j apart
  simp [marks, apart]

theorem clearCount_eq_zero (full : ∀ k, map.marked k = true) : map.clearCount = 0 := by
  refine List.countP_eq_zero.mpr ?_
  intro k _
  simp [full k]

theorem foldl_absentCount (groups : List Group) :
    groups.foldl (fun count group => count + group.absentCount) 0 =
      (List.range (groups.length * Group.bits)).countP fun k => !(groups[k / Group.bits]?.getD Group.full).mem (k % Group.bits) := by
  induction groups using List.reverseRecOn with
  | nil => rfl
  | append_singleton groups last ih =>
      have front : (List.range (groups.length * Group.bits)).countP
            (fun k => !((groups ++ [last])[k / Group.bits]?.getD Group.full).mem (k % Group.bits)) =
          (List.range (groups.length * Group.bits)).countP
            fun k => !(groups[k / Group.bits]?.getD Group.full).mem (k % Group.bits) := by
        refine List.countP_congr fun k inside => ?_
        have low : k / Group.bits < groups.length := Nat.div_lt_of_lt_mul (Nat.mul_comm _ _ ▸ List.mem_range.mp inside)
        rw [List.getElem?_append_left low]
      have back : (List.range Group.bits).countP
            ((fun k => !((groups ++ [last])[k / Group.bits]?.getD Group.full).mem (k % Group.bits)) ∘ (groups.length * Group.bits + ·)) =
          (List.range Group.bits).countP (!last.mem ·) := by
        refine List.countP_congr fun k inside => ?_
        obtain ⟨place, rest⟩ := split_place (i := groups.length) (List.mem_range.mp inside)
        simp only [Function.comp_apply, place, rest, List.getElem?_concat_length, Option.getD_some]
      rw [List.foldl_append, List.foldl_cons, List.foldl_nil, ih, Group.absentCount_eq_countP, List.length_append,
        List.length_singleton, Nat.succ_mul, List.range_add, List.countP_append, List.countP_map, front, back]

/-- No bit past the last sector is clear. -/
def Fenced (map : FreeMap) : Prop := ∀ k, map.sectors ≤ k → map.marked k = true

theorem fenced_clear (sectors : Nat) : (clear sectors).Fenced := by
  intro k past
  rw [marked_clear]
  exact decide_eq_true past

theorem Fenced.lt_of_clear (fenced : map.Fenced) {k : Nat} (clear : map.marked k = false) : k < map.sectors := by
  by_contra past
  rw [fenced k (Nat.not_lt.mp past)] at clear
  cases clear

theorem Fenced.mark (fenced : map.Fenced) {k : Nat} (inside : map.HasBit k) : (map.mark k).Fenced := by
  intro j past
  rw [sectors_mark] at past
  rw [marked_mark map inside, fenced j past, Bool.true_or]

theorem Fenced.unmark (fenced : map.Fenced) {k : Nat} (inside : k < map.sectors) : (map.unmark k).Fenced := by
  intro j past
  rw [sectors_unmark] at past
  rw [marked_unmark map (hasBit_of_lt inside), fenced j past, decide_eq_false (by omega)]
  rfl

/-- The map is over `n` sectors, and its bits past them are marked. -/
def Bounded (n : Nat) (map : FreeMap) : Prop := map.sectors = n ∧ map.Fenced

/-- All bits that are clear are counted, also such as stand for no sector. -/
theorem freeCount_eq (map : FreeMap) :
    map.freeCount = (List.range (groupCount map.sectors * Group.bits)).countP (!map.marked ·) := by
  have listed : map.freeCount = map.groups.toList.foldl (fun count group => count + group.absentCount) 0 := by
    rw [freeCount, ← Vector.foldl_toList]
  rw [listed, foldl_absentCount, Vector.length_toList]
  refine List.countP_congr fun k inside => ?_
  have low : k / Group.bits < groupCount map.sectors := Nat.div_lt_of_lt_mul (Nat.mul_comm _ _ ▸ List.mem_range.mp inside)
  rw [marked, dif_pos low, List.getElem?_eq_getElem (by rw [Vector.length_toList]; exact low), Option.getD_some, Vector.getElem_toList]

/-- The free sectors of a map that is fenced are those that are clear. -/
theorem Fenced.freeCount_eq (fenced : map.Fenced) : map.freeCount = map.clearCount := by
  have whole : groupCount map.sectors * Group.bits = map.sectors + (groupCount map.sectors * Group.bits - map.sectors) := by
    simp only [groupCount, Group.bits]
    omega
  rw [FreeMap.freeCount_eq, clearCount, whole, List.range_add, List.countP_append, List.countP_map, Nat.add_eq_left]
  refine List.countP_eq_zero.mpr fun k _ => ?_
  simp [fenced (map.sectors + k) (Nat.le_add_right _ _)]

/-! ## The stored form -/

/-- What is stored is read back bit for bit. -/
theorem ofBlock_toBlock (map : FreeMap) : ofBlock map.sectors map.toBlock = map := by
  obtain ⟨sectors, groups⟩ := map
  unfold ofBlock
  congr 1
  apply Vector.ext
  intro i inside
  rw [Vector.getElem_ofFn]
  refine Eq.trans ?_ (Group.ofBytes_byte groups[i])
  congr 1
  funext j
  have low := j.isLt
  have place : (i * Group.bytes + j.val) / Group.bytes = i := by
    simp only [Group.bytes] at *
    omega
  have rest : (i * Group.bytes + j.val) % Group.bytes = j := by
    simp only [Group.bytes] at *
    omega
  refine (Block.get_ofFn _ _).trans ?_
  simp only [place, rest]

/-- Whatever is read is stored again byte for byte. -/
theorem toBlock_ofBlock {sectors : Nat} (block : Block (groupCount sectors * Group.bytes)) :
    (ofBlock sectors block).toBlock = block := by
  apply Block.ext_get
  intro i
  have step : i.val / Group.bytes * Group.bytes + i.val % Group.bytes = i.val := Nat.div_add_mod' _ _
  have low : i.val % Group.bytes < Group.bytes := Nat.mod_lt _ (by decide)
  refine (Block.get_ofFn _ _).trans ?_
  simp only [ofBlock, Vector.getElem_ofFn]
  rw [Group.byte_ofBytes _ ⟨i.val % Group.bytes, low⟩]
  congr 1
  exact Fin.ext step

end FreeMap

end InodeVolume
