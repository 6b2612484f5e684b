import InodeVolume.Volume

/-!
# Volumes on devices

A `Mount` is a cache and the files that are read and written through it. The device stands
beside it, since others may use the same device.

A mount that is given up writes its dirty slots back, also one that could not be completed. The
exception is a device whose host has refused a request: nothing more is written to it.

The memory of the host bounds the number of slots. A cache that it has no room for is a fault, and
nothing is read or written.
-/

namespace InodeVolume

/-! ## Memory -/

/-- Bytes that a slot takes in memory: a sector, its number and its marks. -/
def slotBytes : Nat := 524

/-- Nobody can ask a host for so many bytes at once. -/
def requestLimit : Nat := 0x8000000000000000

/-- The memory of a host where nothing else is said. -/
def hostMemory : Nat := 0x2000000000

/-- Whether a host with so much memory affords so many bytes at once. -/
def Affords (memory bytes : Nat) : Prop := bytes < requestLimit ∧ bytes < memory

instance (memory bytes : Nat) : Decidable (Affords memory bytes) :=
  inferInstanceAs (Decidable (_ ∧ _))

/-- Faults unless a host with so much memory affords so many bytes. -/
def requireRoom {σ : Type} (bytes : Nat) (memory : Nat := hostMemory) : Action σ Unit :=
  if requestLimit ≤ bytes then Action.fault .overflow
  else if memory ≤ bytes then Action.fault .memory
  else pure ()

/-- Whether a host with so much memory has room for a cache of so many slots, of which there must be
one. -/
def HasRoom (memory slots : Nat) : Prop := 0 < slots ∧ Affords memory (slots * slotBytes)

instance (memory slots : Nat) : Decidable (HasRoom memory slots) :=
  inferInstanceAs (Decidable (_ ∧ _))

/-! ## Mounts -/

/-- A cache over some device, and the files behind it. -/
structure Mount (A : Type) where
  {capacity : Nat}
  cache : Cache capacity
  files : Files A

namespace Mount

variable {D A α : Type} [BlockDevice D]

/-- Carries out a computation on the files of a mount. -/
def run (computation : SectorM (Files A) α) : Action (D × Mount A) α :=
  fun ⟨(device, ⟨cache, files⟩), log⟩ =>
    match computation.run ⟨((⟨device, cache⟩ : CachedDisk D _), files), log⟩ with
    | .ok a ⟨(disk, files), log⟩ => .ok a ⟨(disk.device, ⟨disk.cache, files⟩), log⟩
    | .error failure ⟨(disk, files), log⟩ =>
      .error failure ⟨(disk.device, ⟨disk.cache, files⟩), log⟩

/-- Writes back what the cache alone holds, and empties it. -/
def flush : Action (D × Mount A) Unit := run SectorM.shutdownStore

/-- Begins a mount with an empty cache by a computation on its files. -/
def begin {capacity : Nat} (cache : Cache capacity) (files : Files A)
    (computation : SectorM (Files A) Unit) : Action D (Mount A) :=
  fun ⟨device, log⟩ =>
    match run computation ⟨(device, ⟨cache, files⟩), log⟩ with
    | .ok () ⟨(device, mount), log⟩ => .ok mount ⟨device, log⟩
    | .error (.fault (.host refusal)) ⟨(device, _), log⟩ =>
      .error (.fault (.host refusal)) ⟨device, log⟩
    | .error failure world =>
      match flush world with
      | .ok () ⟨(device, _), log⟩ | .error _ ⟨(device, _), log⟩ => .error failure ⟨device, log⟩

/-- Begins a mount with a cache of so many slots, where the host has memory for it. -/
def start (capacity : Nat) (files : Files A) (computation : SectorM (Files A) Unit)
    (memory : Nat := hostMemory) : Action D (Mount A) :=
  if nonempty : 0 < capacity then do
    requireRoom (capacity * slotBytes) memory
    begin (Cache.empty capacity nonempty) files computation
  else Action.fault (.broken .someSlot)

end Mount

namespace Volume

variable {D : Type} [BlockDevice D]

/-- Whether a device of so many sectors can hold a volume: the two fixed inodes and one sector of
the stored free map are the least there is. -/
def fitsOn (sectors : Nat) : Bool := rootSector.index + 1 < sectors

/-- Makes an empty volume on a device. -/
def format (capacity : Nat) (memory : Nat := hostMemory) : Action D (Mount FreeMap) := do
  let sectors := BlockDevice.sectorCount (← get)
  Action.emit (.formatting sectors)
  if fitsOn sectors then Mount.start capacity (blank sectors) layOut memory
  else
    Action.emit .deviceTooSmall
    Action.report .noSpace

/-- Takes up the volume on a device. -/
def mount (capacity : Nat) (memory : Nat := hostMemory) : Action D (Mount FreeMap) := do
  let sectors := BlockDevice.sectorCount (← get)
  Mount.start capacity (blank sectors) restore memory

/-- Makes an empty volume on the host at hand. -/
def formatOnHost (capacity : Nat) : Action D (Mount FreeMap) := format capacity hostMemory

/-- Takes up a volume on the host at hand. -/
def mountOnHost (capacity : Nat) : Action D (Mount FreeMap) := mount capacity hostMemory

end Volume

end InodeVolume
