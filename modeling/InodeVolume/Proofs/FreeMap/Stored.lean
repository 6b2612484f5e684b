import InodeVolume.Proofs.Arrays
import InodeVolume.Proofs.FreeMap.Bits

/-!
# The stored form of a free map

A free map is stored as many bytes as its groups have, and any bytes of that length are the stored form of one map
over its sectors.

* **bits** — `testBit_toBlock`: where the bit of a sector is;
* **loading** — `run_load_bytes` and `run_load_of_size_ne`: what is taken over, and what is refused;
* **both ways** — `stored_exact`: a map and its stored form are known from one another.
-/

namespace InodeVolume.FreeMap

variable {map : FreeMap}

/-! ## Bits -/

/-- A bit of the map lies in a byte of the stored form. -/
theorem HasBit.byte_lt {k : Nat} (inside : map.HasBit k) : k / 8 < map.byteLength := by
  have group : k / Group.bits < groupCount map.sectors := inside
  simp only [byteLength, Group.bytes, Group.bits] at *
  omega

/-- Bit `k` of the map is bit `k % 8` of byte `k / 8`. -/
theorem testBit_toBlock {k : Nat} (inside : map.HasBit k) :
    (map.toBlock.get ⟨k / 8, HasBit.byte_lt inside⟩).toNat.testBit (k % 8) = map.marked k := by
  have group : k / 8 / Group.bytes = k / Group.bits := Nat.div_div_eq_div_mul k 8 8
  have place : 8 * (k / 8 % Group.bytes) + k % 8 = k % Group.bits := by
    simp only [Group.bytes, Group.bits]
    omega
  have byte : map.toBlock.get ⟨k / 8, HasBit.byte_lt inside⟩ =
      (map.groups[k / Group.bits]).byte (k / 8 % Group.bytes) := by
    refine (Block.get_ofFn _ _).trans ?_
    simp only [group]
  rw [byte, Group.testBit_byte _ (by rw [place]; exact mod_lt k) (Nat.mod_lt k (by decide)), place, marked, dif_pos inside]

/-! ## Loading -/

/-- Bytes that are as long as the stored form are taken over. -/
theorem run_load_bytes (map : FreeMap) (block : Block (groupCount map.sectors * Group.bytes)) (log : Array Event) :
    (load block.bytes).run ⟨map, log⟩ = .ok () ⟨ofBlock map.sectors block, log⟩ := by
  unfold load
  rw [Action.run_bind, Action.run_get]
  dsimp only
  rw [Block.ofBytes?_bytes]
  rfl

/-- Others are refused. -/
theorem run_load_of_size_ne {bytes : Bytes} (size : bytes.size ≠ map.byteLength) (log : Array Event) :
    (load bytes).run ⟨map, log⟩ = .error (.fault (.broken .sameLength)) ⟨map, log⟩ := by
  have none : (Block.ofBytes? bytes : Option (Block (groupCount map.sectors * Group.bytes))) = none := dif_neg size
  unfold load
  rw [Action.run_bind, Action.run_get]
  dsimp only
  rw [none]
  rfl

/-! ## Both ways -/

/-- The stored form has one bit for each sector and no other length is loaded, what is stored is loaded as the map
that it was, and what is loaded is stored as the bytes that they were. -/
structure StoredExactly (map : FreeMap) : Prop where
  size : map.toBlock.bytes.size = map.byteLength
  bit : ∀ sector : SectorId, ∀ inside : map.HasBit sector.index, ∀ log,
    (isAllocated sector).run ⟨map, log⟩ =
      .ok ((map.toBlock.get ⟨sector.index / 8, HasBit.byte_lt inside⟩).toNat.testBit (sector.index % 8)) ⟨map, log⟩
  loaded : ∀ other : FreeMap, other.sectors = map.sectors → ∀ log,
    (load map.toBlock.bytes).run ⟨other, log⟩ = .ok () ⟨map, log⟩
  stored : ∀ bytes : Bytes, bytes.size = map.byteLength → ∀ log, ∃ after,
    (load bytes).run ⟨map, log⟩ = .ok () ⟨after, log⟩ ∧ after.sectors = map.sectors ∧ after.toBlock.bytes = bytes
  refused : ∀ bytes : Bytes, bytes.size ≠ map.byteLength → ∀ log,
    (load bytes).run ⟨map, log⟩ = .error (.fault (.broken .sameLength)) ⟨map, log⟩

/-- **The stored form** of any map. -/
theorem stored_exactly (map : FreeMap) : map.StoredExactly where
  size := map.toBlock.size_bytes
  bit := by
    intro sector inside log
    have checked : (requireBit sector.index).run ⟨map, log⟩ = .ok () ⟨map, log⟩ := by
      unfold requireBit
      rw [Action.run_bind, Action.run_get]
      dsimp only
      rw [if_pos inside]
      rfl
    rw [testBit_toBlock inside, isAllocated, Action.run_bind, checked]
    rfl
  loaded := by
    intro other same log
    obtain ⟨sectors, groups⟩ := other
    have same : sectors = map.sectors := same
    subst same
    have taken := run_load_bytes ⟨map.sectors, groups⟩ map.toBlock log
    rwa [map.ofBlock_toBlock] at taken
  stored := by
    intro bytes size log
    exact ⟨ofBlock map.sectors ⟨bytes, size⟩, run_load_bytes map ⟨bytes, size⟩ log, rfl,
      congrArg Block.bytes (toBlock_ofBlock ⟨bytes, size⟩)⟩
  refused := fun _ size log => run_load_of_size_ne size log

/-- A map of two groups, the second of which is not used up. -/
theorem stored_exactly_clear : (clear 70).HasBit 69 ∧ (clear 70).byteLength = 16 ∧ (clear 70).StoredExactly :=
  ⟨by decide, rfl, stored_exactly (clear 70)⟩

end InodeVolume.FreeMap
