import InodeVolume.Proofs.Cache.Roomy
import InodeVolume.Proofs.Volume.Blind
import InodeVolume.Proofs.Volume.Devices

/-!
# Requests to a volume

A `Request` is a call, a question for the free sectors, or a shutdown: all that may be asked of a volume
that is mounted.

* **harm** — `perform_ensures`: no permitted request harms a volume;
* **settling** — `settles_ensures`: a sync or a shutdown that succeeds leaves the device as the array that
  is shown;
* **twins** — `Mount.run_twins` and `Mount.run_alike`: a mount answers as the plain array that it shows, and
  two mounts of which the same is known answer alike.
-/

namespace InodeVolume

/-! ## Requests -/

namespace Volume

open LawfulDevice (Sound sectors)

/-- What is asked for in a session. -/
inductive Request : Type 1 where
  | call {α : Type} (call : Call α)
  | freeSectors
  | shutdown

namespace Request

/-- What is answered. -/
abbrev Answer : Request → Type
  | @call α _ => α
  | freeSectors => Nat
  | shutdown => Unit

/-- Meets a request. -/
def perform : (request : Request) → SectorM Volume request.Answer
  | call asked => asked.perform
  | freeSectors => return (← get).freeSectors
  | shutdown => Volume.shutdown

/-- Whether a request is for all that was written to be on the device. -/
def settles : Request → Bool
  | call .sync | shutdown => true
  | call _ | freeSectors => false

/-- What callers must keep to. -/
def Permitted (rules : Discipline) (ledger : Ledger) : Request → Prop
  | call asked => asked.Permitted rules ledger
  | freeSectors | shutdown => True

/-- What callers know after a request. -/
def record (ledger : Ledger) : (request : Request) → Except Failure request.Answer → Ledger
  | call asked, told => asked.record ledger told
  | freeSectors, _ | shutdown, _ => ledger

end Request

section Plain

variable {array : PartialArray} {volume : Volume} {ledger : Ledger} {rules : Discipline}

/-- The free map is in its file. -/
def HasMap (array : PartialArray) (map : FreeMap) : Prop :=
  Bytes.slice (array.contents (array.inode freeMapSector)) 0 map.byteLength = map.toBlock.bytes

/-- A shutdown leaves the free map in its file. -/
theorem shutdown_stores (healthy : Healthy array volume ledger) :
    shutdown.Ensures array volume
      (fun _ array' volume' => Healthy array' volume' ledger ∧ HasMap array' volume'.space)
      fun _ array' volume' => Healthy array' volume' ledger := by
  unfold shutdown
  rw [SectorM.ensures_bind]
  refine (storeFreeMap_ensures healthy).mono ?_ fun _ _ _ failed => failed.2.1 ▸ failed.2.2
  rintro _ array' volume' ⟨healthy', space, -, inode, -, stored, -⟩
  have map : HasMap array' volume'.space := by
    rw [HasMap, space, inode]
    exact stored
  rw [SectorM.ensures_bind, SectorM.ensures_get]
  dsimp only
  split <;> simp only [SectorM.ensures_bind, SectorM.ensures_emit, SectorM.ensures_shutdownStore] <;>
    exact ⟨healthy', map⟩

/-- No permitted request harms a volume. -/
theorem Request.perform_ensures (healthy : Healthy array volume ledger)
    (keeps : ∀ sector, rules.removable sector → sector ≠ freeMapSector) (request : Request)
    (permitted : request.Permitted rules ledger) :
    request.perform.Ensures array volume
      (fun a array' volume' => Healthy array' volume' (request.record ledger (.ok a)))
      fun failure array' volume' => Healthy array' volume' (request.record ledger (.error failure)) := by
  cases request with
  | call asked =>
      exact (asked.perform_ensures healthy keeps permitted).mono (fun _ _ _ done => done.1)
        fun _ _ _ failed => failed.1
  | freeSectors => exact fun _ => healthy
  | shutdown => exact (shutdown_stores healthy).mono (fun _ _ _ done => done.1) fun _ _ _ failed => failed

theorem Request.blind_perform (request : Request) : request.perform.Blind True := by
  cases request with
  | call asked => exact asked.blind_perform trivial
  | freeSectors => exact .bind .get fun _ => .pure
  | shutdown => exact blind_shutdown trivial

end Plain

variable {D : Type} [BlockDevice D] [LawfulDevice D] {device : D} {mount : Mount FreeMap} {array : PartialArray}
  {whole : SectorArray}

/-- A request that settles leaves the device as the array that is shown. -/
theorem Request.settles_ensures {request : Request} (settles : request.settles = true)
    {good : request.Answer → PartialArray → Volume → Prop} {bad : Failure → PartialArray → Volume → Prop}
    (ensured : request.perform.Ensures array mount.files good bad)
    (shown : (mount.disk device).Shows whole) (describes : array.Describes whole) :
    (Mount.run request.perform).Ensures (device, mount)
      (fun _ after => (after.2.disk after.1).Shows (sectors after.1)) fun _ _ => True := by
  have stored : ∀ {α : Type} {last : SectorM Volume α} {good : α → PartialArray → Volume → Prop},
      (storeFreeMap >>= fun _ => last).Ensures array mount.files good bad →
      (storeFreeMap.run : Action (CachedDisk D mount.capacity × Volume) Unit).Ensures (mount.disk device, mount.files)
        (fun _ after => ∃ whole', after.1.Shows whole' ∧ True) fun _ _ => True := by
    intro α last good ensured
    refine ((SectorM.ensures_bind.mp ensured).run_described shown describes).mono ?_ fun _ _ _ => trivial
    rintro _ after ⟨whole', -, shown', -⟩
    exact ⟨whole', shown', trivial⟩
  refine Mount.ensures_run ?_
  cases request with
  | call asked =>
      cases asked with
      | sync => exact (sync_settles (fun _ _ => True) (stored ensured)).mono (fun _ _ done => done.1) fun _ _ failed => failed
      | _ => cases settles
  | freeSectors => cases settles
  | shutdown =>
      exact (shutdown_settles (fun _ _ => True) (stored ensured)).mono (fun _ _ done => done.1) fun _ _ failed => failed

end Volume

/-! ## Twins -/

namespace Mount

variable {A α : Type}

section Plain

variable {D : Type} [BlockDevice D] {device : D} {mount : Mount A} {array : SectorArray} {closing : Prop}

/-- What a run on a mount ends with is what the run over its disk ends with. -/
theorem result_run (computation : SectorM (Files A) α) (device : D) (mount : Mount A) (log : Array Event) :
    (run computation).result (device, mount) log =
      match computation.run.result (mount.disk device, mount.files) log with
      | (told, (disk, files)) => (told, (disk.device, ⟨disk.cache, files⟩)) := by
  obtain ⟨cache, files⟩ := mount
  simp only [Action.result, Action.run, run, disk]
  cases computation.run ⟨((⟨device, cache⟩ : CachedDisk D _), files), log⟩ <;> rfl

/-- A computation on a mount is answered as over the plain array that the mount stands for. -/
theorem run_twins {stands : {n : Nat} → CachedDisk D n → SectorArray → Prop} {computation : SectorM (Files A) α}
    {good : α → PartialArray → Files A → Prop} {bad : Failure → PartialArray → Files A → Prop}
    (keeps : ∀ n, Keeps (@stands n) closing) (blind : computation.Blind closing)
    (ensured : computation.Ensures (.ofWhole array) mount.files good bad) (stood : stands (mount.disk device) array)
    (log log' : Array Event) :
    ∃ told device' mount' array', (run computation).result (device, mount) log = (told, (device', mount')) ∧
      computation.run.result (array, mount.files) log' = (told, (array', mount'.files)) ∧
      mount'.capacity = mount.capacity ∧ stands (mount'.disk device') array' ∧ Action.Own told ∧
      match told with
      | .ok a => good a (.ofWhole array') mount'.files
      | .error failure => bad failure (.ofWhole array') mount'.files := by
  obtain ⟨told, files, disk', array', ran, plain, rest⟩ :=
    blind.twins_plain (keeps mount.capacity) ensured stood log log'
  exact ⟨told, disk'.device, ⟨disk'.cache, files⟩, array', by rw [result_run, ran], plain, rfl, rest⟩

end Plain

section Alike

variable {D₁ D₂ : Type} [BlockDevice D₁] [LawfulDevice D₁] [BlockDevice D₂] [LawfulDevice D₂] {device₁ : D₁}
  {device₂ : D₂} {mount₁ mount₂ : Mount A} {array : PartialArray}

open LawfulDevice (Sound sectors)
open CachedDisk (Shows)

/-- Two mounts have the same files, and of their sectors the same is known. -/
structure Alike (array : PartialArray) (device₁ : D₁) (mount₁ : Mount A) (device₂ : D₂) (mount₂ : Mount A) :
    Prop where
  files : mount₁.files = mount₂.files
  shared : SectorM.Shared Shows Shows array (mount₁.disk device₁) (mount₂.disk device₂)

/-- A computation is answered alike on two mounts if it reads only what is known of both. -/
theorem run_alike {computation : SectorM (Files A) α} {good : α → PartialArray → Files A → Prop}
    {bad : Failure → PartialArray → Files A → Prop} (blind : computation.Blind True)
    (ensured : computation.Ensures array mount₁.files good bad) (alike : Alike array device₁ mount₁ device₂ mount₂)
    (log₁ log₂ : Array Event) :
    ∃ told device₁' mount₁' device₂' mount₂' array',
      (run computation).result (device₁, mount₁) log₁ = (told, (device₁', mount₁')) ∧
      (run computation).result (device₂, mount₂) log₂ = (told, (device₂', mount₂')) ∧
      Alike array' device₁' mount₁' device₂' mount₂' ∧ Action.Own told ∧
      match told with
      | .ok a => good a array' mount₁'.files
      | .error failure => bad failure array' mount₁'.files := by
  obtain ⟨told, files, disk₁, disk₂, array', ran₁, ran₂, shared, own, done⟩ :=
    blind.twins CachedDisk.shows_keeps CachedDisk.shows_keeps ensured alike.shared log₁ log₂
  rw [alike.files] at ran₂
  exact ⟨told, disk₁.device, ⟨disk₁.cache, files⟩, disk₂.device, ⟨disk₂.cache, files⟩, array', by rw [result_run, ran₁],
    by rw [result_run, ran₂], ⟨rfl, shared⟩, own, done⟩

end Alike

end Mount

end InodeVolume
