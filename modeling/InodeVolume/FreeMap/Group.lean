/-!
# Groups of bits

A free map is stored in groups of 64 bits. `mem` tells whether a bit of a group is set, and is
the view through which the other functions are described: a group is the set of its bits
(`ext_mem`), `insert` and `erase` change one of them, and the bytes of a group hold eight each,
the lowest bits first.
-/

namespace InodeVolume

/-- 64 bits, numbered from the lowest. -/
abbrev Group := UInt64

namespace Group

/-- Bits in a group. -/
def bits : Nat := 64

/-- Bytes in a group. -/
def bytes : Nat := 8

/-- All bits set. -/
def full : Group := 0xffffffffffffffff

/-- Whether bit `k` is set. -/
def mem (group : Group) (k : Nat) : Bool := (group >>> UInt64.ofNat k) &&& 1 != 0

/-- The group with bit `k` alone. -/
def single (k : Nat) : Group := (1 : UInt64) <<< UInt64.ofNat k

/-- A group with bit `k` set. -/
def insert (group : Group) (k : Nat) : Group := group ||| single k

/-- A group with bit `k` cleared. -/
def erase (group : Group) (k : Nat) : Group := group &&& ~~~ single k

/-- The group whose bits from `k` on are set. -/
def above (k : Nat) : Group := full <<< UInt64.ofNat k

/-- The lowest bit that is not set; 64 for a full group. -/
def leastAbsent (group : Group) : Nat := ((List.range bits).find? (!group.mem ·)).getD bits

/-- How many bits are not set. Most groups are full or empty, and are not looked through. -/
def absentCount (group : Group) : Nat :=
  if group = full then 0
  else if group = 0 then bits
  else (List.range bits).countP (!group.mem ·)

/-- Byte `j` of a group, the lowest first. -/
def byte (group : Group) (j : Nat) : UInt8 := (group >>> UInt64.ofNat (8 * j)).toUInt8

/-- The group of eight bytes, the lowest first. -/
def ofBytes (byte : Fin bytes → UInt8) : Group :=
  (List.finRange bytes).foldl (fun group j => group ||| ((byte j).toUInt64 <<< UInt64.ofNat (8 * j)))
    0

/-! ## Bits as a set -/

theorem mem_eq_testBit (group : Group) {k : Nat} (small : k < bits) :
    group.mem k = group.toNat.testBit k := by
  have amount : (UInt64.ofNat k).toNat % 64 = k := by
    simp only [UInt64.toNat_ofNat', bits] at *
    omega
  have low : ((group >>> UInt64.ofNat k) &&& 1).toNat = if group.toNat.testBit k then 1 else 0 := by
    rw [UInt64.toNat_and, UInt64.toNat_shiftRight, amount]
    show (group.toNat >>> k) &&& 1 = _
    rw [Nat.and_one_is_mod, Nat.testBit_eq_decide_div_mod_eq, Nat.shiftRight_eq_div_pow]
    have := Nat.mod_two_eq_zero_or_one (group.toNat / 2 ^ k)
    split <;> simp_all
  have zero_iff : (group >>> UInt64.ofNat k) &&& 1 = 0 ↔
      ((group >>> UInt64.ofNat k) &&& 1).toNat = 0 :=
    ⟨fun h => by rw [h]; rfl, fun h => UInt64.toNat_inj.mp h⟩
  rw [mem]
  cases set : group.toNat.testBit k <;> simp [zero_iff, low, set, bne]

theorem testBit_single {k : Nat} (small : k < bits) (j : Nat) :
    (single k).toNat.testBit j = decide (j = k) := by
  have amount : (UInt64.ofNat k).toNat % 64 = k := by
    simp only [UInt64.toNat_ofNat', bits] at *
    omega
  have value : (single k).toNat = 2 ^ k := by
    rw [single, UInt64.toNat_shiftLeft, amount]
    show (1 <<< k) % 2 ^ 64 = _
    rw [Nat.shiftLeft_eq, Nat.one_mul]
    exact Nat.mod_eq_of_lt (Nat.pow_lt_pow_right (by decide) small)
  rw [value, Nat.testBit_two_pow]
  simp [eq_comm]

theorem mem_insert (group : Group) {k j : Nat} (small : k < bits) (inside : j < bits) :
    (group.insert k).mem j = (group.mem j || decide (j = k)) := by
  rw [mem_eq_testBit _ inside, mem_eq_testBit _ inside, insert, UInt64.toNat_or, Nat.testBit_or,
    testBit_single small]

theorem mem_erase (group : Group) {k j : Nat} (small : k < bits) (inside : j < bits) :
    (group.erase k).mem j = (group.mem j && !decide (j = k)) := by
  have flipped : UInt64.size - 1 - (single k).toNat = 2 ^ 64 - ((single k).toNat + 1) := by
    have size : UInt64.size = 2 ^ 64 := rfl
    omega
  rw [mem_eq_testBit _ inside, mem_eq_testBit _ inside, erase, UInt64.toNat_and, Nat.testBit_and,
    UInt64.toNat_not, flipped, Nat.testBit_two_pow_sub_succ (single k).toNat_lt,
    testBit_single small]
  have within : decide (j < 64) = true := decide_eq_true inside
  rw [within, Bool.true_and]

theorem absentCount_eq_countP (group : Group) :
    group.absentCount = (List.range bits).countP (!group.mem ·) := by
  unfold absentCount
  split
  · subst group; decide
  · split
    · subst group; decide
    · rfl

/-- A group is the set of its bits. -/
theorem ext_mem {g h : Group} (same : ∀ k < bits, g.mem k = h.mem k) : g = h := by
  apply UInt64.toNat_inj.mp
  apply Nat.eq_of_testBit_eq
  intro k
  by_cases small : k < bits
  · rw [← mem_eq_testBit _ small, ← mem_eq_testBit _ small, same k small]
  · have wide : 2 ^ 64 ≤ 2 ^ k := Nat.pow_le_pow_right (by decide) (by simpa [bits] using small)
    rw [Nat.testBit_lt_two_pow (Nat.lt_of_lt_of_le g.toNat_lt wide),
      Nat.testBit_lt_two_pow (Nat.lt_of_lt_of_le h.toNat_lt wide)]

end Group

end InodeVolume
