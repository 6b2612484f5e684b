import InodeVolume.Sector

/-!
# The slots of a buffer cache

A `Cache n` is a ring of `n` slots, each empty or holding a copy of one sector, and a clock hand.
Room for a new sector is found by second chance: the hand moves round, takes the accessed mark
off each slot that has one, and stops at the first slot without. This file is the bookkeeping
alone; `InodeVolume.Cache.Disk` joins it to a device.
-/

namespace InodeVolume

/-- A copy of a sector: `dirty` when it is newer than the device's, `accessed` when it was used
since the hand last passed. -/
structure Entry where
  sector : SectorId
  data : Sector
  dirty : Bool
  accessed : Bool

/-- A slot holds a copy or nothing. -/
abbrev Slot := Option Entry

/-- A ring of slots with a clock hand. -/
structure Cache (n : Nat) where
  slots : Vector Slot n
  hand : Fin n

namespace Cache

variable {n : Nat}

/-- A cache with empty slots. -/
def empty (n : Nat) (nonempty : 0 < n) : Cache n :=
  ⟨Vector.replicate n none, ⟨0, nonempty⟩⟩

/-- The slot that holds a sector, with what it holds. -/
def find? (cache : Cache n) (sector : SectorId) : Option (Fin n × Entry) := do
  let slot ← cache.slots.findFinIdx? (·.any (·.sector == sector))
  let entry ← getElem cache.slots slot slot.isLt
  return (slot, entry)

/-- Whether some slot holds a sector. -/
def isResident (cache : Cache n) (sector : SectorId) : Bool := (cache.find? sector).isSome

/-- The first empty slot. -/
def vacant? (cache : Cache n) : Option (Fin n) := cache.slots.findFinIdx? (·.isNone)

/-- Fills a slot. -/
def put (cache : Cache n) (slot : Fin n) (entry : Entry) : Cache n :=
  { cache with slots := cache.slots.set slot (some entry) slot.isLt }

/-- Empties a slot. -/
def clear (cache : Cache n) (slot : Fin n) : Cache n :=
  { cache with slots := cache.slots.set slot none slot.isLt }

/-- The slot after another on the ring. -/
def next (slot : Fin n) : Fin n :=
  ⟨(slot + 1) % n, Nat.mod_lt _ (Nat.lt_of_le_of_lt (Nat.zero_le _) slot.isLt)⟩

/-- Looks at no more than `looks` slots from the hand on. Slots marked as accessed lose the mark
and are passed over; the first other one is the victim, and the hand stops behind it. -/
def sweep (cache : Cache n) : (looks : Nat) → Fin n × Cache n
  | 0 => (cache.hand, cache)
  | looks + 1 =>
    let here := cache.hand
    let moved := { cache with hand := next here }
    match getElem cache.slots here here.isLt with
    | some entry =>
      if entry.accessed then
        sweep (moved.put here { entry with accessed := false }) looks
      else (here, moved)
    | none => (here, moved)

/-- The slot to give up. Once round takes every mark off, so one look more than there are slots
always finds it. -/
def victim (cache : Cache n) : Fin n × Cache n := cache.sweep (n + 1)

end Cache

end InodeVolume
