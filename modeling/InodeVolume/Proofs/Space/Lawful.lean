import Mathlib.Algebra.Group.Nat.Even
import InodeVolume.Proofs.FreeMap.Stored
import InodeVolume.Proofs.Layout.Stored
import InodeVolume.Space

/-!
# Allocators that never hand a sector out twice

`LawfulAllocator` says what growing and freeing files rely on: a sector that is given was not
taken, is taken afterwards, and is one that a block map can hold; a sector that is taken can be
given back; and how many requests can still be met is known.

A free map is lawful when it is `Sound`: sector 0 and all bits past its last sector are marked.
-/

namespace InodeVolume

/-- Allocators of sectors below `limit`. `Taken` tells which are in use, and `left` how many single
sectors are to be had before one is given back. -/
class LawfulAllocator (A : Type) [Allocator A] where
  Sound : A → Prop
  limit : A → Nat
  Taken : A → SectorId → Prop
  left : A → Nat
  allocate {space : A} : Sound space →
    (Allocator.allocate 1).Ensures space
      (fun given after => Sound after ∧ limit after = limit space ∧
        match given with
        | none => left space = 0 ∧ ∀ other, Taken after other ↔ Taken space other
        | some sector => left space = left after + 1 ∧ sector.isAllocated = true ∧
            sector.index < limit space ∧ ¬Taken space sector ∧
            ∀ other, Taken after other ↔ other = sector ∨ Taken space other)
      fun _ _ => False
  release {space : A} {sector : SectorId} : Taken space sector → sector.index < limit space →
    (Allocator.release sector 1).Ensures space
      (fun _ after => (Sound space → sector.isAllocated = true → Sound after) ∧ limit after = limit space ∧
        ∀ other, Taken after other ↔ other ≠ sector ∧ Taken space other)
      fun _ _ => False

namespace LawfulAllocator

variable {A : Type} [Allocator A] [LawfulAllocator A]

/-- The allocator gave a sector. -/
structure Gave (space : A) (sector : SectorId) (after : A) : Prop where
  sound : Sound after
  limit : limit after = LawfulAllocator.limit space
  left : left space = LawfulAllocator.left after + 1
  allocated : sector.isAllocated = true
  inside : sector.index < LawfulAllocator.limit space
  free : ¬Taken space sector
  taken : ∀ other, Taken after other ↔ other = sector ∨ Taken space other

/-- The allocator had nothing to give. -/
structure Refused (space after : A) : Prop where
  sound : Sound after
  limit : limit after = LawfulAllocator.limit space
  spent : left space = 0
  taken : ∀ other, Taken after other ↔ Taken space other

theorem allocate_ensures {space : A} (sound : Sound space) :
    (Allocator.allocate 1).Ensures space
      (fun given after => match given with
        | none => Refused space after
        | some sector => Gave space sector after)
      fun _ _ => False := by
  refine (allocate sound).mono ?_ fun _ _ failed => failed
  rintro given after ⟨sound, limit, answer⟩
  cases given with
  | none =>
      obtain ⟨spent, taken⟩ := answer
      exact ⟨sound, limit, spent, taken⟩
  | some sector =>
      obtain ⟨left, allocated, inside, free, taken⟩ := answer
      exact ⟨sound, limit, left, allocated, inside, free, taken⟩

end LawfulAllocator

/-! ## The free map -/

namespace FreeMap

variable {map : FreeMap}

/-- Sector 0 is set aside, sector numbers are 32-bit words, and there is nothing to hand out past
the last sector. -/
structure Sound (map : FreeMap) : Prop where
  small : map.sectors ≤ 2 ^ 32
  zero : map.marked 0 = true
  tail : ∀ k, map.sectors ≤ k → map.marked k = true

theorem Sound.lt_of_clear (sound : map.Sound) {k : Nat} (clear : map.marked k = false) :
    k < map.sectors := by
  by_contra past
  rw [sound.tail k (by omega)] at clear
  cases clear

theorem Sound.freeCount_eq (sound : map.Sound) : map.freeCount = map.clearCount :=
  Fenced.freeCount_eq fun k past => sound.tail k past

/-- What is taken of a sound map is all that there is to it. -/
theorem Sound.ext {other : FreeMap} (sound : map.Sound) (sound' : other.Sound) (sectors : map.sectors = other.sectors)
    (same : ∀ sector : SectorId, map.marked sector.index = true ↔ other.marked sector.index = true) : map = other := by
  refine ext_marked sectors fun k _ => Bool.eq_iff_iff.mpr ?_
  by_cases inside : k < map.sectors
  · have small : k < 2 ^ 32 := Nat.lt_of_lt_of_le inside sound.small
    have here := same (.ofNat k)
    rwa [SectorId.index_ofNat small] at here
  · rw [sound.tail k (Nat.not_lt.mp inside), sound'.tail k (sectors ▸ Nat.not_lt.mp inside)]

theorem Sound.mark (sound : map.Sound) {k : Nat} (inside : map.HasBit k) : (map.mark k).Sound := by
  refine ⟨by rw [sectors_mark]; exact sound.small, ?_, ?_⟩
  · rw [marked_mark map inside, sound.zero]
    rfl
  · intro j past
    rw [sectors_mark] at past
    rw [marked_mark map inside, sound.tail j past]
    rfl

theorem Sound.unmark (sound : map.Sound) {k : Nat} (inside : k < map.sectors) (nonzero : k ≠ 0) :
    (map.unmark k).Sound := by
  have unmarks := map.marked_unmark (hasBit_of_lt inside)
  refine ⟨by rw [sectors_unmark]; exact sound.small, ?_, ?_⟩
  · rw [unmarks, sound.zero, decide_eq_false (Ne.symm nonzero)]
    rfl
  · intro j past
    rw [sectors_unmark] at past
    rw [unmarks, sound.tail j past, decide_eq_false (by omega)]
    rfl

/-- A request for one sector marks the lowest clear bit, whatever it stands for. -/
theorem allocate_cases (map : FreeMap) :
    (allocate 1).Ensures map
      (fun given after => match given with
        | none => after = map ∧ ∀ k, map.marked k = true
        | some sector => ∃ start, sector = .ofNat start ∧ map.marked start = false ∧ after = map.mark start)
      fun _ _ => False := by
  unfold allocate
  refine .bind (Action.ensures_require.mpr ?_)
  rw [if_pos (by decide)]
  refine .bind (Action.ensures_get.mpr ?_)
  have single : map.firstFit? 1 = map.firstClear? := rfl
  rw [single]
  cases found : map.firstClear? with
  | none => exact Action.ensures_pure.mpr ⟨rfl, marked_of_firstClear?_eq_none found⟩
  | some start =>
      refine .bind (Action.ensures_modify.mpr (.bind (Action.ensures_emit.mpr ?_)))
      exact Action.ensures_pure.mpr ⟨start, rfl, marked_of_firstClear? found, rfl⟩

/-- A request for one sector is met as long as one is clear. -/
theorem allocate_ensures (sound : map.Sound) :
    (allocate 1).Ensures map
      (fun given after => match given with
        | none => after = map ∧ ∀ k, map.marked k = true
        | some sector => map.marked sector.index = false ∧ after = map.mark sector.index)
      fun _ _ => False := by
  refine (allocate_cases map).mono ?_ fun _ _ failed => failed
  intro given after answer
  cases given with
  | none => exact answer
  | some sector =>
      obtain ⟨start, rfl, clear, rfl⟩ := answer
      have small : start < 2 ^ 32 := Nat.lt_of_lt_of_le (sound.lt_of_clear clear) sound.small
      dsimp only
      rw [SectorId.index_ofNat small]
      exact ⟨clear, rfl⟩

theorem release_ensures {sector : SectorId} (inside : map.HasBit sector.index)
    (marked : map.marked sector.index = true) :
    (release sector 1).Ensures map (fun _ after => after = map.unmark sector.index)
      fun _ _ => False := by
  have low := sector.index_lt
  have fits : sector.index + 1 < wordLimit := by
    simp only [wordLimit]
    omega
  unfold release
  refine .bind (Action.ensures_checkedAdd.mpr ?_)
  rw [if_pos fits]
  refine .bind (.bind ?_)
  unfold requireBit
  refine .bind (Action.ensures_get.mpr ?_)
  rw [if_pos inside]
  refine Action.ensures_pure.mpr (.bind (Action.ensures_get.mpr (.bind ?_)))
  refine Action.ensures_require.mpr ?_
  rw [if_pos marked]
  refine .bind (Action.ensures_modify.mpr (Action.ensures_pure.mpr ?_))
  exact Action.ensures_emit.mpr rfl

/-- A sector that is not allocated is not released. -/
theorem release_cases (map : FreeMap) (sector : SectorId) :
    (release sector 1).Ensures map
      (fun _ after => map.HasBit sector.index ∧ map.marked sector.index = true ∧ after = map.unmark sector.index)
      fun failure _ => ∃ why, failure = .fault why := by
  by_cases held : map.HasBit sector.index ∧ map.marked sector.index = true
  · exact (release_ensures held.1 held.2).mono (fun _ _ done => ⟨held.1, held.2, done⟩) fun _ _ failed => failed.elim
  · have low := sector.index_lt
    have fits : sector.index + 1 < wordLimit := by
      simp only [wordLimit]
      omega
    unfold release
    refine .bind (Action.ensures_checkedAdd.mpr ?_)
    rw [if_pos fits]
    refine .bind (.bind ?_)
    unfold requireBit
    refine .bind (Action.ensures_get.mpr ?_)
    split
    · rename_i inside
      refine Action.ensures_pure.mpr (.bind (Action.ensures_get.mpr (.bind (Action.ensures_require.mpr ?_))))
      rw [if_neg fun marked => held ⟨inside, marked⟩]
      exact ⟨_, rfl⟩
    · exact Action.ensures_fault.mpr ⟨_, rfl⟩

/-- Any bytes that are as long as the stored form are taken over. -/
theorem load_block (map : FreeMap) (block : Block (groupCount map.sectors * Group.bytes)) :
    (load block.bytes).Ensures map (fun _ after => after = ofBlock map.sectors block) fun _ _ => False := by
  intro log
  rw [run_load_bytes]

/-- The stored form of a map over as many sectors is taken over as that map. -/
theorem load_ensures {other : FreeMap} (sectors : map.sectors = other.sectors) :
    (load other.toBlock.bytes).Ensures map (fun _ after => after = other) fun _ _ => False := by
  obtain ⟨n, groups⟩ := map
  obtain rfl : n = other.sectors := sectors
  refine (load_block ⟨other.sectors, groups⟩ other.toBlock).mono ?_ fun _ _ failed => failed
  rintro _ after rfl
  exact other.ofBlock_toBlock

/-- Of all sectors, setting the bit of one marks that one. -/
theorem marked_mark_iff {map : FreeMap} {sector other : SectorId} (bit : map.HasBit sector.index) :
    (map.mark sector.index).marked other.index = true ↔ map.marked other.index = true ∨ other = sector := by
  rw [marked_mark map bit, Bool.or_eq_true, decide_eq_true_iff]
  exact or_congr_right ⟨SectorId.index_injective, congrArg SectorId.index⟩

theorem marked_unmark_iff {map : FreeMap} {sector other : SectorId} (bit : map.HasBit sector.index) :
    (map.unmark sector.index).marked other.index = true ↔ map.marked other.index = true ∧ other ≠ sector := by
  rw [marked_unmark map bit, Bool.and_eq_true, Bool.not_eq_true', decide_eq_false_iff_not]
  exact and_congr_right' (not_congr ⟨SectorId.index_injective, congrArg SectorId.index⟩)

instance : LawfulAllocator FreeMap where
  Sound := Sound
  limit := sectors
  Taken map sector := map.marked sector.index = true
  left := clearCount
  allocate := by
    intro map sound
    refine (allocate_ensures sound).mono ?_ fun _ _ failed => failed
    intro given after answer
    cases given with
    | none =>
        obtain ⟨rfl, full⟩ := answer
        exact ⟨sound, rfl, clearCount_eq_zero full, fun _ => Iff.rfl⟩
    | some sector =>
        obtain ⟨clear, rfl⟩ := answer
        have inside := sound.lt_of_clear clear
        have bit := hasBit_of_clear clear
        refine ⟨sound.mark bit, sectors_mark _, clearCount_mark inside clear, ?_, inside, ?_, ?_⟩
        · rw [SectorId.isAllocated_iff]
          intro zero
          rw [zero, sound.zero] at clear
          cases clear
        · rw [clear]
          exact Bool.false_ne_true
        · exact fun other => (marked_mark_iff bit).trans or_comm
  release := by
    intro map sector marked inside
    have bit := hasBit_of_lt inside
    refine (release_ensures bit marked).mono ?_ fun _ _ failed => failed
    rintro _ after rfl
    refine ⟨fun sound held => sound.unmark inside (SectorId.isAllocated_iff.mp held), sectors_unmark _, ?_⟩
    exact fun other => (marked_unmark_iff bit).trans and_comm

end FreeMap

end InodeVolume
