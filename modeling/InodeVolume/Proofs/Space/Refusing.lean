import InodeVolume.Proofs.Space.Lawful

/-!
# Allocators that may refuse

A `Refusing` allocator stands before another and passes on the requests it chooses to; what is given
back it always passes on. Which requests it chooses may be any sequence at all, so what holds of all
refusing allocators holds whenever, and however often, a request goes unmet.
-/

namespace InodeVolume

/-- An allocator that refuses the request made after `i` others unless it `grants i`. -/
structure Refusing (A : Type) where
  source : A
  grants : Nat → Bool
  asked : Nat

namespace Refusing

variable {A α : Type}

/-- An action on the allocator behind. -/
def onSource (act : Action A α) : Action (Refusing A) α :=
  act.within fun ⟨source, grants, asked⟩ => (source, fun source => ⟨source, grants, asked⟩)

/-- How many of the next `n` requests are granted before one is refused. -/
def granted (grants : Nat → Bool) (asked : Nat) : (n : Nat) → Nat
  | 0 => 0
  | n + 1 => if grants asked then granted grants (asked + 1) n + 1 else 0

variable [Allocator A]

/-- Passes a request on, or refuses it. -/
def allocate (count : Nat) : Action (Refusing A) (Option SectorId) := do
  let ⟨_, grants, asked⟩ ← get
  modify fun refusing => { refusing with asked := asked + 1 }
  if grants asked then onSource (Allocator.allocate count) else return none

instance : Allocator (Refusing A) where
  allocate := allocate
  release sector count := onSource (Allocator.release sector count)

variable [LawfulAllocator A]

open LawfulAllocator (Sound limit Taken left)

instance : LawfulAllocator (Refusing A) where
  Sound space := Sound space.source
  limit space := limit space.source
  Taken space := Taken space.source
  left space := granted space.grants space.asked (left space.source)
  allocate := by
    rintro ⟨source, grants, asked⟩ sound
    show (allocate 1).Ensures _ _ _
    unfold allocate
    refine .bind (Action.ensures_get.mpr (.bind (Action.ensures_modify.mpr ?_)))
    dsimp only
    split
    · rename_i grant
      unfold onSource
      rw [Action.ensures_within]
      refine (LawfulAllocator.allocate sound).mono ?_ fun _ _ failed => failed
      rintro given after ⟨sound, limit, answer⟩
      refine ⟨sound, limit, ?_⟩
      cases given with
      | none =>
          obtain ⟨spent, taken⟩ := answer
          refine ⟨?_, taken⟩
          rw [spent, granted]
      | some sector =>
          obtain ⟨left, rest⟩ := answer
          refine ⟨?_, rest⟩
          rw [left, granted, if_pos grant]
    · rename_i refusal
      refine Action.ensures_pure.mpr ⟨sound, rfl, ?_, fun _ => Iff.rfl⟩
      cases left source with
      | zero => rfl
      | succ n => exact if_neg refusal
  release := by
    rintro ⟨source, grants, asked⟩ sector taken inside
    show (onSource (Allocator.release sector 1)).Ensures _ _ _
    unfold onSource
    rw [Action.ensures_within]
    exact LawfulAllocator.release taken inside

end Refusing

end InodeVolume
