import InodeVolume.Action
import InodeVolume.FreeMap.Group

/-!
# The free map

A `FreeMap` has one bit per sector, set while the sector is allocated. The bits that fill the
last group up stand for no sector and start out set, so they are not handed out.

* `marked` is the view: `marked_mark` and `marked_unmark` say what changes one bit.
* Space is found by first fit: the lowest run of clear bits that is long enough.
* Bits are stored as bytes, sector `s` in bit `s % 8` of byte `s / 8`.
-/

namespace InodeVolume

/-- Groups that a map over `sectors` sectors needs. -/
def groupCount (sectors : Nat) : Nat := (sectors + (Group.bits - 1)) / Group.bits

/-- One bit per sector, set while the sector is allocated. -/
structure FreeMap where
  sectors : Nat
  groups : Vector Group (groupCount sectors)

namespace FreeMap

/-- The map over `sectors` sectors of which none is allocated. A last group that is not used up
has the rest of its bits set. -/
def clear (sectors : Nat) : FreeMap :=
  ⟨sectors, (Vector.replicate (groupCount sectors) 0).setIfInBounds (sectors / Group.bits)
    (Group.above (sectors % Group.bits))⟩

/-- The map has a bit of this number. -/
abbrev HasBit (map : FreeMap) (bit : Nat) : Prop := bit / Group.bits < groupCount map.sectors

/-- Whether a bit is set; bits that the map does not have count as set. -/
def marked (map : FreeMap) (bit : Nat) : Bool :=
  if inside : map.HasBit bit then
    (map.groups[bit / Group.bits]).mem (bit % Group.bits)
  else true

/-- The map with the group of a bit changed; the same map if it has no such bit. -/
def modifyGroup (f : Group → Group) (bit : Nat) : FreeMap → FreeMap
  | ⟨sectors, groups⟩ =>
    if inside : bit / Group.bits < groupCount sectors then
      ⟨sectors, groups.set (bit / Group.bits) (f groups[bit / Group.bits])⟩
    else ⟨sectors, groups⟩

/-- The map with a bit set. -/
def mark (map : FreeMap) (bit : Nat) : FreeMap :=
  map.modifyGroup (·.insert (bit % Group.bits)) bit

/-- The map with a bit cleared. -/
def unmark (map : FreeMap) (bit : Nat) : FreeMap :=
  map.modifyGroup (·.erase (bit % Group.bits)) bit

/-- The map with `count` bits set, from `start` on. -/
def markRun (map : FreeMap) (start : Nat) : (count : Nat) → FreeMap
  | 0 => map
  | count + 1 => (map.mark start).markRun (start + 1) count

/-- How many bits are clear. -/
def freeCount (map : FreeMap) : Nat :=
  map.groups.foldl (fun count group => count + group.absentCount) 0

/-! ## First fit -/

/-- The lowest clear bit, found by passing over full groups. -/
def firstClear? (map : FreeMap) : Option Nat := do
  let i ← map.groups.findFinIdx? (· != Group.full)
  return i * Group.bits + (map.groups[i]).leastAbsent

/-- The start of the lowest run of `count` clear bits that ends in the next `remaining` bits,
when the `run` bits just before `bit` are clear. -/
def firstRunFrom? (map : FreeMap) (count : Nat) : (remaining run bit : Nat) → Option Nat
  | 0, _, _ => none
  | remaining + 1, run, bit =>
    let run := if map.marked bit then 0 else run + 1
    if run = count then some (bit + 1 - count)
    else map.firstRunFrom? count remaining run (bit + 1)

/-- The start of the lowest run of `count` clear bits among those of sectors. -/
def firstRun? (map : FreeMap) (count : Nat) : Option Nat :=
  map.firstRunFrom? count map.sectors 0 0

/-- The start of the lowest run of `count` clear bits. -/
def firstFit? (map : FreeMap) (count : Nat) : Option Nat :=
  if count = 1 then map.firstClear? else map.firstRun? count

/-! ## Actions -/

/-- Faults where the map has no such bit. -/
def requireBit (bit : Nat) : Action FreeMap Unit := do
  if (← get).HasBit bit then pure () else Action.fault .outOfBounds

/-- Sets aside a sector for a fixed use. -/
def reserve (sector : SectorId) : Action FreeMap Unit := do
  requireBit sector.index
  Action.require (!(← get).marked sector.index) (.reservedOnce sector)
  modify (·.mark sector.index)

/-- Whether a sector is allocated. -/
def isAllocated (sector : SectorId) : Action FreeMap Bool := do
  requireBit sector.index
  return (← get).marked sector.index

/-- Allocates `count` sectors in a row and gives the first; nothing when no run is long enough. -/
def allocate (count : Nat) : Action FreeMap (Option SectorId) := do
  Action.require (count > 0) .nonemptyRun
  match (← get).firstFit? count with
  | none => return none
  | some start =>
    modify (·.markRun start count)
    Action.emit (.spaceAllocated count start)
    return some (.ofNat start)

/-- Clears `count` bits from `bit` on, one after the other, up to the first that is clear. -/
def releaseFrom : (count bit : Nat) → Action FreeMap Unit
  | 0, _ => pure ()
  | count + 1, bit => do
    requireBit bit
    Action.require ((← get).marked bit) (.releasedAllocated bit)
    modify (·.unmark bit)
    releaseFrom count (bit + 1)

/-- Releases `count` sectors in a row. -/
def release (sector : SectorId) (count : Nat) : Action FreeMap Unit := do
  let _ ← Action.checkedAdd sector.index count
  releaseFrom count sector.index
  Action.emit (.spaceReleased count sector)

/-! ## The stored form -/

/-- Bytes of the stored form. -/
def byteLength (map : FreeMap) : Nat := groupCount map.sectors * Group.bytes

/-- The stored form: the bytes of each group in turn. -/
def toBlock (map : FreeMap) : Block map.byteLength :=
  Block.ofFn fun i =>
    have bound : i.val / Group.bytes < groupCount map.sectors :=
      Nat.div_lt_of_lt_mul (by rw [Nat.mul_comm]; exact i.isLt)
    (map.groups[i.val / Group.bytes]).byte (i % Group.bytes)

/-- The map whose stored form is `block`. -/
def ofBlock (sectors : Nat) (block : Block (groupCount sectors * Group.bytes)) : FreeMap :=
  ⟨sectors, Vector.ofFn fun i => Group.ofBytes fun j =>
    block.get ⟨i * Group.bytes + j, by
      have step : (i + 1) * Group.bytes ≤ groupCount sectors * Group.bytes :=
        Nat.mul_le_mul_right _ i.isLt
      rw [Nat.succ_mul] at step
      exact Nat.lt_of_lt_of_le (Nat.add_lt_add_left j.isLt _) step⟩⟩

/-- Takes over a stored form, which must be as long as the map's own. -/
def load (bytes : Bytes) : Action FreeMap Unit := do
  let sectors := (← get).sectors
  match Block.ofBytes? bytes with
  | some block => set (ofBlock sectors block)
  | none => Action.fault (.broken .sameLength)

/-! ## Bits one by one -/

private theorem split_eq_iff {a b : Nat} :
    a / Group.bits = b / Group.bits ∧ a % Group.bits = b % Group.bits ↔ a = b := by
  simp only [Group.bits]
  omega

/-- Changing a group changes the bits of that group alone. -/
theorem marked_modifyGroup (map : FreeMap) {f : Group → Group} {bit : Nat}
    (inside : map.HasBit bit) (other : Nat) :
    (map.modifyGroup f bit).marked other =
      if other / Group.bits = bit / Group.bits then
        (f map.groups[bit / Group.bits]).mem (other % Group.bits)
      else map.marked other := by
  obtain ⟨sectors, groups⟩ := map
  have changed : modifyGroup f bit ⟨sectors, groups⟩ =
      ⟨sectors, groups.set (bit / Group.bits) (f groups[bit / Group.bits])⟩ := dif_pos inside
  rw [changed]
  simp only [marked, HasBit]
  split
  · rename_i here
    by_cases same : other / Group.bits = bit / Group.bits
    · simp [same]
    · simp [same, Vector.getElem_set_ne _ _ (Ne.symm same)]
  · rename_i outside
    rw [if_neg (by intro same; rw [same] at outside; exact outside inside)]

theorem marked_mark (map : FreeMap) {bit : Nat} (inside : map.HasBit bit) (other : Nat) :
    (map.mark bit).marked other = (map.marked other || decide (other = bit)) := by
  have low : ∀ k, k % Group.bits < Group.bits := fun k => Nat.mod_lt _ (by decide)
  rw [mark, marked_modifyGroup map inside]
  split
  · rename_i same
    rw [Group.mem_insert _ (low bit) (low other)]
    simp only [marked, HasBit, same, dif_pos inside]
    congr 1
    exact decide_eq_decide.mpr ⟨fun low => split_eq_iff.mp ⟨same, low⟩, fun h => by rw [h]⟩
  · rename_i apart
    rw [decide_eq_false (fun h => apart (by rw [h])), Bool.or_false]

theorem marked_unmark (map : FreeMap) {bit : Nat} (inside : map.HasBit bit) (other : Nat) :
    (map.unmark bit).marked other = (map.marked other && !decide (other = bit)) := by
  have low : ∀ k, k % Group.bits < Group.bits := fun k => Nat.mod_lt _ (by decide)
  rw [unmark, marked_modifyGroup map inside]
  split
  · rename_i same
    rw [Group.mem_erase _ (low bit) (low other)]
    simp only [marked, HasBit, same, dif_pos inside]
    congr 2
    exact decide_eq_decide.mpr ⟨fun low => split_eq_iff.mp ⟨same, low⟩, fun h => by rw [h]⟩
  · rename_i apart
    rw [decide_eq_false (fun h => apart (by rw [h])), Bool.not_false, Bool.and_true]

end FreeMap

end InodeVolume
