import InodeVolume.FreeMap

/-!
# Where sectors come from

Files ask an `Allocator` for sectors and do not depend on how it finds them. The free map is
one; `Rationed` puts a bound on how many times another may be asked.
-/

namespace InodeVolume

/-- Givers of free sectors. -/
class Allocator (A : Type) where
  /-- Gives the first of `count` free sectors in a row; nothing when there are none. -/
  allocate (count : Nat) : Action A (Option SectorId)
  /-- Takes `count` sectors in a row back. -/
  release (sector : SectorId) (count : Nat) : Action A Unit

instance : Allocator FreeMap where
  allocate := FreeMap.allocate
  release := FreeMap.release

/-- An allocator that answers a limited number of requests; without a quota, all of them. -/
structure Rationed (A : Type) where
  source : A
  quota : Option Nat

namespace Rationed

variable {A α : Type}

/-- An action on the allocator that is rationed. -/
def onSource (act : Action A α) : Action (Rationed A) α :=
  act.within fun ⟨source, quota⟩ => (source, fun source => ⟨source, quota⟩)

variable [Allocator A]

/-- A request takes one off the quota, whether or not it is met; none is passed on at zero. -/
def allocate (count : Nat) : Action (Rationed A) (Option SectorId) := do
  match (← get).quota with
  | some 0 => return none
  | some (left + 1) =>
    modify fun ration => { ration with quota := some left }
    onSource (Allocator.allocate count)
  | none => onSource (Allocator.allocate count)

instance : Allocator (Rationed A) where
  allocate := allocate
  release sector count := onSource (Allocator.release sector count)

end Rationed

end InodeVolume
