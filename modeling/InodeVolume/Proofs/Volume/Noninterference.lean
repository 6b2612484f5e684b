import InodeVolume.Proofs.Volume.Forgotten
import InodeVolume.Proofs.Volume.Requests

/-!
# Nothing stale shows through

What a device held before it was formatted cannot be told from the answers of its volume, and neither can
what is left in sectors that are free.

* **pairs** — `Together` are pairs of worlds that come from two devices by the same requests. At any time the
  free sectors of one of them may be filled with anything (`Refilled`), such as what files held that were
  removed;
* **the invariant** — `Twin`: the files are the same, and of the sectors of both worlds enough is known;
* **noninterference** — all that can be asked of such worlds is answered alike (`Indistinct`).
-/

namespace InodeVolume

/-! ## Beginning on two devices -/

namespace Mount

variable {A : Type} {D : Type} [BlockDevice D]

/-- What is told of a beginning. -/
def begun (told : Except Failure (Mount A)) : Except Failure Unit := told.map fun _ => ()

variable {memory capacity : Nat} {files : Files A} {computation : SectorM (Files A) Unit} {device device' : D}
  {mount' : Mount A} {log : Array Event}

theorem result_start_cramped (cramped : ¬HasRoom memory capacity) :
    (start capacity files computation memory : Action D (Mount A)).result device log =
      (.error (refusal capacity), device) := by
  unfold Action.result
  rw [start_cramped cramped]

theorem hasRoom_of_start
    (started : (start capacity files computation memory).result device log = (.ok mount', device')) :
    HasRoom memory capacity := by
  by_contra cramped
  rw [result_start_cramped cramped] at started
  cases started

theorem result_start_ok (room : HasRoom memory capacity)
    (ran : (run computation).result (device, ⟨Cache.empty capacity room.1, files⟩) log = (.ok (), (device', mount'))) :
    (start capacity files computation memory).result device log = (.ok mount', device') := by
  obtain ⟨log', ended⟩ := Action.run_of_result ran
  unfold Action.result
  rw [run_start room, ended]

/-- A mount that could not be completed is written back, and the first failure is the one that is told. -/
theorem result_start_error (room : HasRoom memory capacity) {failure : Failure}
    (ran : (run computation).result (device, ⟨Cache.empty capacity room.1, files⟩) log =
      (.error failure, (device', mount'))) :
    ∃ device'', (start capacity files computation memory).result device log = (.error failure, device'') := by
  obtain ⟨log', ended⟩ := Action.run_of_result ran
  unfold Action.result
  rw [run_start room, ended]
  cases failure with
  | reported error =>
      dsimp only
      cases flush.run (⟨(device', mount'), log'⟩ : Traced (D × Mount A)) <;> exact ⟨_, rfl⟩
  | fault why =>
      cases why with
      | host refusal => exact ⟨_, rfl⟩
      | broken _ | overflow | memory | outOfBounds =>
          dsimp only
          cases flush.run (⟨(device', mount'), log'⟩ : Traced (D × Mount A)) <;> exact ⟨_, rfl⟩

section Alike

variable {D₁ D₂ : Type} [BlockDevice D₁] [LawfulDevice D₁] [BlockDevice D₂] [LawfulDevice D₂] {device₁ : D₁}
  {device₂ : D₂} {memory₁ memory₂ capacity₁ capacity₂ : Nat} {array : PartialArray}

open LawfulDevice (Sound)

/-- Two caches are had alike: their hosts have room for both, or the same cache is asked of hosts with as much
memory. -/
def HadAlike (memory₁ capacity₁ memory₂ capacity₂ : Nat) : Prop :=
  (HasRoom memory₁ capacity₁ ∧ HasRoom memory₂ capacity₂) ∨ (memory₁ = memory₂ ∧ capacity₁ = capacity₂)

/-- How mounts begin on two devices of which the same is known. -/
theorem start_alike (sound₁ : Sound device₁) (sound₂ : Sound device₂) (describes₁ : array.Describes (LawfulDevice.sectors device₁))
    (describes₂ : array.Describes (LawfulDevice.sectors device₂)) (had : HadAlike memory₁ capacity₁ memory₂ capacity₂)
    {good : Unit → PartialArray → Files A → Prop} {bad : Failure → PartialArray → Files A → Prop}
    (blind : computation.Blind True) (ensured : computation.Ensures array files good bad) (log₁ log₂ : Array Event) :
    (∃ mount₁ device₁' mount₂ device₂' array',
      (start capacity₁ files computation memory₁).result device₁ log₁ = (.ok mount₁, device₁') ∧
      (start capacity₂ files computation memory₂).result device₂ log₂ = (.ok mount₂, device₂') ∧
      Alike array' device₁' mount₁ device₂' mount₂ ∧ good () array' mount₁.files) ∨
    ∃ failure device₁' device₂',
      (start capacity₁ files computation memory₁).result device₁ log₁ = (.error failure, device₁') ∧
      (start capacity₂ files computation memory₂).result device₂ log₂ = (.error failure, device₂') := by
  by_cases room₁ : HasRoom memory₁ capacity₁
  swap
  · rcases had with ⟨room, -⟩ | ⟨rfl, rfl⟩
    · exact absurd room room₁
    · exact .inr ⟨_, _, _, result_start_cramped room₁, result_start_cramped room₁⟩
  have room₂ : HasRoom memory₂ capacity₂ := by
    rcases had with ⟨-, room⟩ | ⟨rfl, rfl⟩
    · exact room
    · exact room₁
  have fresh : Alike array device₁ ⟨Cache.empty capacity₁ room₁.1, files⟩ device₂
      ⟨Cache.empty capacity₂ room₂.1, files⟩ :=
    ⟨rfl, ⟨_, .fresh sound₁ room₁.1, describes₁⟩, ⟨_, .fresh sound₂ room₂.1, describes₂⟩⟩
  obtain ⟨told, device₁', mount₁, device₂', mount₂, array', ran₁, ran₂, alike, -, done⟩ :=
    run_alike blind ensured fresh log₁ log₂
  cases told with
  | ok u =>
      exact .inl ⟨mount₁, device₁', mount₂, device₂', array', result_start_ok room₁ ran₁,
        result_start_ok room₂ ran₂, alike, done⟩
  | error failure =>
      obtain ⟨left₁, started₁⟩ := result_start_error room₁ ran₁
      obtain ⟨left₂, started₂⟩ := result_start_error room₂ ran₂
      exact .inr ⟨failure, left₁, left₂, started₁, started₂⟩

end Alike

end Mount

namespace Volume

variable {D : Type} [BlockDevice D] {device device' : D} {mount : Mount FreeMap} {memory capacity : Nat}
  {log : Array Event}

theorem result_mount : (Volume.mount capacity memory).result device log =
    (Mount.start capacity (blank (BlockDevice.sectorCount device)) restore memory).result device log := rfl

theorem result_format : (format capacity memory).result device log =
    (if fitsOn (BlockDevice.sectorCount device) then
      Mount.start capacity (blank (BlockDevice.sectorCount device)) layOut memory else do
        Action.emit .deviceTooSmall
        Action.report .noSpace : Action D (Mount FreeMap)).result device
      (log.push (.formatting (BlockDevice.sectorCount device))) := rfl

/-- The host has room for the cache of a volume that was made. -/
theorem hasRoom_of_format (formatted : (format capacity memory).result device log = (.ok mount, device')) :
    HasRoom memory capacity := by
  rw [result_format] at formatted
  split at formatted
  · exact Mount.hasRoom_of_start formatted
  · cases formatted

end Volume

/-! ## Pairs of worlds -/

namespace World

variable {D α : Type} [BlockDevice D]

open Volume (Request Discipline Healthy initialLedger)

/-- What is told of a computation on the volume. -/
def told (world : World D) (computation : SectorM Volume α) (log : Array Event) : Except Failure α :=
  ((Mount.run computation).result (world.device, world.mount) log).1

/-- The world that a request leaves, whether or not it is met. -/
def meet (world : World D) (request : Request) (log : Array Event) : World D :=
  match (Mount.run request.perform).result (world.device, world.mount) log with
  | (told, (device, mount)) => ⟨device, mount, request.record world.ledger told⟩

variable [LawfulDevice D]

/-- The same volume, with anything in the sectors that are free. -/
structure Refilled (world world' : World D) : Prop where
  files : world'.mount.files = world.mount.files
  ledger : world'.ledger = world.ledger
  shown : (world'.mount.disk world'.device).Shows (world'.mount.disk world'.device).overlay
  count : (world'.mount.disk world'.device).overlay.count = (world.mount.disk world.device).overlay.count
  kept : ∀ i, world.mount.files.space.marked i = true →
    (world'.mount.disk world'.device).overlay.sectors[i]? = (world.mount.disk world.device).overlay.sectors[i]?

variable {D₁ D₂ : Type} [BlockDevice D₁] [LawfulDevice D₁] [BlockDevice D₂] [LawfulDevice D₂]

open LawfulDevice (Sound)

/-- Pairs of worlds that come from two devices by formatting both and making the same requests of both.
Nobody may have a file open when the volumes are shut down and mounted again. Where `refills` holds, free
sectors may change by themselves. -/
inductive Together (rules : Discipline) (refills : Prop) (device₁ : D₁) (device₂ : D₂) : World D₁ → World D₂ → Prop where
  | format {memory₁ memory₂ capacity₁ capacity₂ : Nat} {log₁ log₂ : Array Event} {mount₁ mount₂ : Mount FreeMap}
      {device₁' : D₁} {device₂' : D₂}
      (formatted₁ : (Volume.format capacity₁ memory₁).result device₁ log₁ = (.ok mount₁, device₁'))
      (formatted₂ : (Volume.format capacity₂ memory₂).result device₂ log₂ = (.ok mount₂, device₂')) :
      Together rules refills device₁ device₂ ⟨device₁', mount₁, initialLedger⟩ ⟨device₂', mount₂, initialLedger⟩
  | meet {world₁ : World D₁} {world₂ : World D₂} (together : Together rules refills device₁ device₂ world₁ world₂)
      (request : Request) (permitted : request.Permitted rules world₁.ledger) (log₁ log₂ : Array Event) :
      Together rules refills device₁ device₂ (world₁.meet request log₁) (world₂.meet request log₂)
  | remount {world₁ : World D₁} {world₂ : World D₂} (together : Together rules refills device₁ device₂ world₁ world₂)
      (nobody : world₁.ledger.holders = []) {log₁ log₂ later₁ later₂ : Array Event}
      (closed₁ : world₁.told Volume.shutdown log₁ = .ok ()) (closed₂ : world₂.told Volume.shutdown log₂ = .ok ())
      {memory₁ memory₂ capacity₁ capacity₂ : Nat} {mount₁ mount₂ : Mount FreeMap} {device₁' : D₁} {device₂' : D₂}
      (mounted₁ : (Volume.mount capacity₁ memory₁).result (world₁.meet .shutdown log₁).device later₁ =
        (.ok mount₁, device₁'))
      (mounted₂ : (Volume.mount capacity₂ memory₂).result (world₂.meet .shutdown log₂).device later₂ =
        (.ok mount₂, device₂')) :
      Together rules refills device₁ device₂ ⟨device₁', mount₁, world₁.ledger⟩ ⟨device₂', mount₂, world₂.ledger⟩
  | refillFirst {world₁ world₁' : World D₁} {world₂ : World D₂}
      (together : Together rules refills device₁ device₂ world₁ world₂) (may : refills) (refilled : Refilled world₁ world₁') :
      Together rules refills device₁ device₂ world₁' world₂
  | refillSecond {world₁ : World D₁} {world₂ world₂' : World D₂}
      (together : Together rules refills device₁ device₂ world₁ world₂) (may : refills) (refilled : Refilled world₂ world₂') :
      Together rules refills device₁ device₂ world₁ world₂'

/-- Whatever is asked of two worlds, they answer alike, and so they do when they are mounted again. -/
structure Indistinct (rules : Discipline) (world₁ : World D₁) (world₂ : World D₂) : Prop where
  ledger : world₁.ledger = world₂.ledger
  answers : ∀ request : Request, request.Permitted rules world₁.ledger → ∀ log₁ log₂,
    world₁.told request.perform log₁ = world₂.told request.perform log₂
  remounts : world₁.ledger.holders = [] → ∀ log₁ log₂, world₁.told Volume.shutdown log₁ = .ok () →
    ∀ memory₁ capacity₁ memory₂ capacity₂, Mount.HadAlike memory₁ capacity₁ memory₂ capacity₂ → ∀ later₁ later₂,
    Mount.begun ((Volume.mount capacity₁ memory₁).result (world₁.meet .shutdown log₁).device later₁).1 =
      Mount.begun ((Volume.mount capacity₂ memory₂).result (world₂.meet .shutdown log₂).device later₂).1

/-! ## The invariant -/

/-- Two worlds in which the same is known have the same healthy volume. -/
structure Twin (world₁ : World D₁) (world₂ : World D₂) : Prop where
  ledger : world₁.ledger = world₂.ledger
  known : ∃ array, Mount.Alike array world₁.device world₁.mount world₂.device world₂.mount ∧
    Healthy array world₁.mount.files world₁.ledger

variable {world₁ : World D₁} {world₂ : World D₂} {rules : Discipline} {refills : Prop} {device₁ : D₁}
  {device₂ : D₂}

/-- Enough is known of twins to answer alike, and of what is left. -/
theorem Twin.meets (twin : world₁.Twin world₂) (keeps : ∀ sector, rules.removable sector → sector ≠ freeMapSector)
    (request : Request) (permitted : request.Permitted rules world₁.ledger) (log₁ log₂ : Array Event) :
    world₁.told request.perform log₁ = world₂.told request.perform log₂ ∧
      (world₁.meet request log₁).Twin (world₂.meet request log₂) := by
  obtain ⟨array, alike, healthy⟩ := twin.known
  obtain ⟨told, device₁', mount₁', device₂', mount₂', array', ran₁, ran₂, alike', -, done⟩ :=
    Mount.run_alike request.blind_perform (request.perform_ensures healthy keeps permitted) alike log₁ log₂
  unfold World.told meet
  rw [ran₁, ran₂]
  refine ⟨rfl, by rw [twin.ledger], array', alike', ?_⟩
  cases told with
  | ok a => exact done
  | error failure => exact done

/-- With other contents in free sectors a world is the twin of the same. -/
theorem Twin.refill {world₁' : World D₁} (twin : world₁.Twin world₂) (refilled : Refilled world₁ world₁') :
    world₁'.Twin world₂ := by
  obtain ⟨array, ⟨files, ⟨whole₁, shown₁, describes₁⟩, ⟨whole₂, shown₂, describes₂⟩⟩, healthy⟩ := twin.known
  refine ⟨refilled.ledger.trans twin.ledger, array.only world₁.mount.files.space.marked,
    ⟨refilled.files.trans files, ⟨_, refilled.shown, ?_⟩, ⟨whole₂, shown₂, ?_⟩⟩, ?_⟩
  · obtain rfl := shown₁.eq_overlay
    exact describes₁.only refilled.count refilled.kept
  · exact describes₂.only rfl fun _ _ => rfl
  · rw [refilled.files, refilled.ledger]
    exact healthy.only

theorem Twin.symm (twin : world₁.Twin world₂) : world₂.Twin world₁ := by
  obtain ⟨array, ⟨files, first, second⟩, healthy⟩ := twin.known
  refine ⟨twin.ledger.symm, array, ⟨files.symm, second, first⟩, ?_⟩
  rw [← files, ← twin.ledger]
  exact healthy

/-- What is left of twins on their devices when they are shut down. -/
structure LeftAlike (array : PartialArray) (ledger : Ledger) (map : FreeMap) (left₁ : D₁) (left₂ : D₂) : Prop where
  sound₁ : Sound left₁
  sound₂ : Sound left₂
  describes₁ : array.Describes (LawfulDevice.sectors left₁)
  describes₂ : array.Describes (LawfulDevice.sectors left₂)
  intact : Intact array map ledger.files
  live : ledger.Live freeMapSector
  length : map.byteLength ≤ (array.inode freeMapSector).size
  map : Volume.HasMap array map

/-- A shutdown that succeeds leaves all on the devices that was known of the twins. -/
theorem Twin.closes (twin : world₁.Twin world₂) {log₁ : Array Event} (closed : world₁.told Volume.shutdown log₁ = .ok ())
    (log₂ : Array Event) :
    ∃ array map, LeftAlike array world₁.ledger map (world₁.meet .shutdown log₁).device
      (world₂.meet .shutdown log₂).device := by
  obtain ⟨array, alike, healthy⟩ := twin.known
  have stores := Volume.shutdown_stores healthy
  obtain ⟨told, left₁, mount₁, left₂, mount₂, array', ran₁, ran₂, ⟨files', first, second⟩, -, done⟩ :=
    Mount.run_alike (Request.blind_perform .shutdown) stores alike log₁ log₂
  obtain rfl : told = .ok () := by
    unfold World.told at closed
    rw [← closed]
    exact (congrArg Prod.fst ran₁).symm
  obtain ⟨healthy', map⟩ := done
  obtain ⟨⟨whole₁, shown₁, describes₁⟩, ⟨whole₂, shown₂, describes₂⟩⟩ := alike.shared
  obtain ⟨⟨whole₁', shown₁', describes₁'⟩, ⟨whole₂', shown₂', describes₂'⟩⟩ := And.intro first second
  have settled₁ := (Request.settles_ensures (show Request.shutdown.settles = true from rfl) stores shown₁ describes₁).result log₁
  rw [alike.files] at stores
  have settled₂ := (Request.settles_ensures (show Request.shutdown.settles = true from rfl) stores shown₂ describes₂).result log₂
  rw [ran₁] at settled₁
  rw [ran₂] at settled₂
  unfold meet
  rw [ran₁, ran₂]
  have same₁ : LawfulDevice.sectors left₁ = whole₁' := settled₁.eq_overlay.trans shown₁'.eq_overlay.symm
  have same₂ : LawfulDevice.sectors left₂ = whole₂' := settled₂.eq_overlay.trans shown₂'.eq_overlay.symm
  exact ⟨array', mount₁.files.space, shown₁'.sound, shown₂'.sound, same₁ ▸ describes₁', same₂ ▸ describes₂',
    healthy'.sane.intact, healthy'.live, healthy'.length, map⟩

/-- Twins that were shut down are mounted again as twins. -/
theorem LeftAlike.mounts {array : PartialArray} {ledger : Ledger} {map : FreeMap} {left₁ : D₁} {left₂ : D₂}
    (left : LeftAlike array ledger map left₁ left₂) (nobody : ledger.holders = [])
    {memory₁ capacity₁ memory₂ capacity₂ : Nat} (had : Mount.HadAlike memory₁ capacity₁ memory₂ capacity₂)
    (log₁ log₂ : Array Event) :
    (∃ mount₁ device₁' mount₂ device₂', (Volume.mount capacity₁ memory₁).result left₁ log₁ = (.ok mount₁, device₁') ∧
      (Volume.mount capacity₂ memory₂).result left₂ log₂ = (.ok mount₂, device₂') ∧
      (⟨device₁', mount₁, ledger⟩ : World D₁).Twin (⟨device₂', mount₂, ledger⟩ : World D₂)) ∨
    ∃ failure device₁' device₂', (Volume.mount capacity₁ memory₁).result left₁ log₁ = (.error failure, device₁') ∧
      (Volume.mount capacity₂ memory₂).result left₂ log₂ = (.error failure, device₂') := by
  have count₁ : array.count = BlockDevice.sectorCount left₁ :=
    left.describes₁.count.trans (LawfulDevice.count_sectors left.sound₁)
  have count₂ : array.count = BlockDevice.sectorCount left₂ :=
    left.describes₂.count.trans (LawfulDevice.count_sectors left.sound₂)
  have restores : Volume.restore.Ensures array (Volume.blank array.count) _ _ :=
    Volume.restore_ensures left.intact left.live.1 left.map left.intact.limit.symm (Volume.kept_empty nobody)
      (Ledger.not_crowded_of_nobody nobody) left.live.2
  rw [Volume.result_mount, Volume.result_mount, ← count₁, ← count₂]
  rcases Mount.start_alike left.sound₁ left.sound₂ left.describes₁ left.describes₂ had Volume.blind_restore restores
    log₁ log₂ with ⟨mount₁, device₁', mount₂, device₂', array', started₁, started₂, alike, rfl, space, kept⟩ | refused
  · refine .inl ⟨mount₁, device₁', mount₂, device₂', started₁, started₂, rfl, array', alike, ⟨⟨?_, kept, ?_⟩, left.live, ?_⟩⟩
    · show Intact array' mount₁.files.space ledger.files
      rw [space]
      exact left.intact
    · show ∀ holder ∈ ledger.holders, _
      rw [nobody]
      exact fun holder there => absurd there List.not_mem_nil
    · show mount₁.files.space.byteLength ≤ _
      rw [space]
      exact left.length
  · exact .inr refused

/-- Volumes are made as twins on any two devices with as many sectors. -/
theorem formats_alike (sound₁ : Sound device₁) (sound₂ : Sound device₂)
    (same : BlockDevice.sectorCount device₁ = BlockDevice.sectorCount device₂)
    {memory₁ capacity₁ memory₂ capacity₂ : Nat} (had : Mount.HadAlike memory₁ capacity₁ memory₂ capacity₂)
    (log₁ log₂ : Array Event) :
    (∃ mount₁ device₁' mount₂ device₂', (Volume.format capacity₁ memory₁).result device₁ log₁ = (.ok mount₁, device₁') ∧
      (Volume.format capacity₂ memory₂).result device₂ log₂ = (.ok mount₂, device₂') ∧
      (⟨device₁', mount₁, initialLedger⟩ : World D₁).Twin (⟨device₂', mount₂, initialLedger⟩ : World D₂)) ∨
    ∃ failure device₁' device₂', (Volume.format capacity₁ memory₁).result device₁ log₁ = (.error failure, device₁') ∧
      (Volume.format capacity₂ memory₂).result device₂ log₂ = (.error failure, device₂') := by
  let array := PartialArray.unknown (BlockDevice.sectorCount device₁)
  have describes₁ : array.Describes (LawfulDevice.sectors device₁) := by
    rw [show array = .unknown (LawfulDevice.sectors device₁).count by rw [LawfulDevice.count_sectors sound₁]]
    exact PartialArray.describes_unknown _
  have describes₂ : array.Describes (LawfulDevice.sectors device₂) := by
    rw [show array = .unknown (LawfulDevice.sectors device₂).count by rw [LawfulDevice.count_sectors sound₂, ← same]]
    exact PartialArray.describes_unknown _
  have count : array.count = BlockDevice.sectorCount device₁ := PartialArray.count_unknown _
  rw [Volume.result_format, Volume.result_format, ← same, ← count]
  by_cases fits : Volume.fitsOn array.count = true
  · rw [if_pos fits, if_pos fits]
    rcases Mount.start_alike sound₁ sound₂ describes₁ describes₂ had (Volume.blind_layOut trivial)
      (Volume.layOut_ensures fits) _ _ with ⟨mount₁, device₁', mount₂, device₂', array', started₁, started₂, alike, laid⟩ | refused
    · exact .inl ⟨mount₁, device₁', mount₂, device₂', started₁, started₂, rfl, array', alike, laid.2.1⟩
    · exact .inr refused
  · rw [if_neg fits, if_neg fits]
    exact .inr ⟨_, _, _, rfl, rfl⟩

/-! ## Noninterference -/

/-- Worlds that come from two devices by the same requests are twins. -/
theorem Together.twin (together : Together rules refills device₁ device₂ world₁ world₂)
    (keeps : ∀ sector, rules.removable sector → sector ≠ freeMapSector) (sound₁ : Sound device₁)
    (sound₂ : Sound device₂) (same : BlockDevice.sectorCount device₁ = BlockDevice.sectorCount device₂) :
    world₁.Twin world₂ := by
  induction together with
  | format formatted₁ formatted₂ =>
      have rooms := And.intro (Volume.hasRoom_of_format formatted₁) (Volume.hasRoom_of_format formatted₂)
      rcases formats_alike sound₁ sound₂ same (.inl rooms) _ _ with ⟨mount₁, left₁, mount₂, left₂, ran₁, ran₂, twin⟩ |
        ⟨failure, left₁, left₂, ran₁, -⟩
      · cases formatted₁.symm.trans ran₁
        cases formatted₂.symm.trans ran₂
        exact twin
      · cases formatted₁.symm.trans ran₁
  | meet together request permitted log₁ log₂ twin => exact (twin.meets keeps request permitted log₁ log₂).2
  | remount together nobody closed₁ closed₂ mounted₁ mounted₂ twin =>
      obtain ⟨array, map, left⟩ := twin.closes closed₁ _
      have rooms := And.intro (Mount.hasRoom_of_start mounted₁) (Mount.hasRoom_of_start mounted₂)
      rcases left.mounts nobody (.inl rooms) _ _ with ⟨mount₁, left₁, mount₂, left₂, ran₁, ran₂, twin'⟩ |
        ⟨failure, left₁, left₂, ran₁, -⟩
      · cases mounted₁.symm.trans ran₁
        cases mounted₂.symm.trans ran₂
        rw [← twin.ledger]
        exact twin'
      · cases mounted₁.symm.trans ran₁
  | refillFirst together may refilled twin => exact twin.refill refilled
  | refillSecond together may refilled twin => exact (twin.symm.refill refilled).symm

/-- Twins cannot be told apart. -/
theorem Twin.indistinct (twin : world₁.Twin world₂) (keeps : ∀ sector, rules.removable sector → sector ≠ freeMapSector) :
    Indistinct rules world₁ world₂ := by
  refine ⟨twin.ledger, fun request permitted log₁ log₂ => (twin.meets keeps request permitted log₁ log₂).1, ?_⟩
  intro nobody log₁ log₂ closed memory₁ capacity₁ memory₂ capacity₂ had later₁ later₂
  obtain ⟨array, map, left⟩ := twin.closes closed log₂
  rcases left.mounts nobody had later₁ later₂ with ⟨mount₁, left₁, mount₂, left₂, ran₁, ran₂, -⟩ |
    ⟨failure, left₁, left₂, ran₁, ran₂⟩
  · rw [ran₁, ran₂]
    rfl
  · rw [ran₁, ran₂]

/-- **Noninterference.** Formatting goes alike on two devices with as many sectors, and so does all that can be
asked of their volumes from then on, whatever the devices held, and whatever is in free sectors at any time. Their
caches may differ where the hosts have room for both. -/
theorem noninterference (sound₁ : Sound device₁) (sound₂ : Sound device₂)
    (same : BlockDevice.sectorCount device₁ = BlockDevice.sectorCount device₂) :
    (∀ memory₁ capacity₁ memory₂ capacity₂, Mount.HadAlike memory₁ capacity₁ memory₂ capacity₂ → ∀ log₁ log₂,
      Mount.begun ((Volume.format capacity₁ memory₁).result device₁ log₁).1 =
        Mount.begun ((Volume.format capacity₂ memory₂).result device₂ log₂).1) ∧
    ∀ world₁ world₂, Together .lenient True device₁ device₂ world₁ world₂ → Indistinct .lenient world₁ world₂ := by
  refine ⟨fun memory₁ capacity₁ memory₂ capacity₂ had log₁ log₂ => ?_, fun world₁ world₂ together =>
    (together.twin lenient_keeps sound₁ sound₂ same).indistinct lenient_keeps⟩
  rcases formats_alike sound₁ sound₂ same had log₁ log₂ with ⟨mount₁, left₁, mount₂, left₂, ran₁, ran₂, -⟩ |
    ⟨failure, left₁, left₂, ran₁, ran₂⟩
  · rw [ran₁, ran₂]
    rfl
  · rw [ran₁, ran₂]

/-- A device of eight sectors that holds zeros and one that holds ones cannot be told apart once both are
formatted. -/
theorem noninterference_filled : ∃ mount₁ left₁ mount₂ left₂,
    (Volume.format 1).result (RamDisk.zeroed 8) #[] = (.ok mount₁, left₁) ∧
      (Volume.format 2).result (⟨Array.replicate 8 (Block.ofFn fun _ => 0xff), 0, 0⟩ : RamDisk) #[] = (.ok mount₂, left₂) ∧
      Indistinct .lenient (⟨left₁, mount₁, initialLedger⟩ : World RamDisk) (⟨left₂, mount₂, initialLedger⟩ : World RamDisk) := by
  let zeros := RamDisk.zeroed 8
  let ones : RamDisk := ⟨Array.replicate 8 (Block.ofFn fun _ => 0xff), 0, 0⟩
  have sound : ∀ disk : RamDisk, Sound disk := fun _ => trivial
  have count₁ : (LawfulDevice.sectors zeros).count = 8 := Array.size_replicate
  have count₂ : (LawfulDevice.sectors ones).count = 8 := Array.size_replicate
  obtain ⟨mount₁, left₁, log₁, formatted₁⟩ := Volume.exists_format (sound zeros) (by rw [count₁]; decide)
    (by rw [count₁]; decide) (show HasRoom hostMemory 1 by decide) #[]
  obtain ⟨mount₂, left₂, log₂, formatted₂⟩ := Volume.exists_format (sound ones) (by rw [count₂]; decide)
    (by rw [count₂]; decide) (show HasRoom hostMemory 2 by decide) #[]
  have ended₁ : (Volume.format 1).result zeros #[] = (.ok mount₁, left₁) := by rw [Action.result, formatted₁]
  have ended₂ : (Volume.format 2).result ones #[] = (.ok mount₂, left₂) := by rw [Action.result, formatted₂]
  have same : BlockDevice.sectorCount zeros = BlockDevice.sectorCount ones := count₁.trans count₂.symm
  exact ⟨mount₁, left₁, mount₂, left₂, ended₁, ended₂,
    (noninterference (sound zeros) (sound ones) same).2 _ _ (.format ended₁ ended₂)⟩

/-! ## Without the free map's file -/

/-- What is known of the sectors and the files of a world, and of what its callers know. -/
structure Stands (world : World D₁) (ledger : Ledger) (holds : PartialArray → Volume → Prop) : Prop where
  ledger : world.ledger = ledger
  shown : ∃ array, (world.mount.disk world.device).Shows array ∧ holds (.ofWhole array) world.mount.files

section Stands

variable {world : World D₁} {ledger : Ledger} {holds holds' : PartialArray → Volume → Prop}

/-- A request that cannot fail is met. -/
theorem Stands.meet (stands : world.Stands ledger holds) (request : Request) {answer : request.Answer}
    (ensured : ∀ {array volume}, holds array volume → request.perform.Ensures array volume
      (fun a array' volume' => a = answer ∧ holds' array' volume') fun _ _ _ => False) (log : Array Event) :
    world.told request.perform log = .ok answer ∧
      (world.meet request log).Stands (request.record ledger (.ok answer)) holds' := by
  obtain ⟨rfl, array, shown, here⟩ := stands
  obtain ⟨_, ⟨device', mount'⟩, ended, array', shown', rfl, there⟩ := ((Mount.run_ensures (ensured here) shown).mono
    (fun _ _ done => done) fun _ _ failed => failed.choose_spec.2).result_ends log
  unfold told World.meet
  rw [ended]
  exact ⟨rfl, rfl, array', shown', there⟩

/-- A world is shut down and mounted again. -/
theorem Stands.remount (stands : world.Stands ledger holds) {stored : PartialArray → Prop}
    (stores : ∀ {array volume}, holds array volume → Volume.storeFreeMap.Ensures array volume
      (fun _ array' _ => stored array') fun _ _ _ => False)
    (restores : ∀ {array}, stored array → Volume.restore.Ensures array (Volume.blank array.count)
      (fun _ => holds') fun _ _ _ => False) {memory capacity : Nat} (room : HasRoom memory capacity)
    (log later : Array Event) :
    world.told Volume.shutdown log = .ok () ∧ ∃ mount device',
      (Volume.mount capacity memory).result (world.meet .shutdown log).device later = (.ok mount, device') ∧
      (⟨device', mount, ledger⟩ : World D₁).Stands ledger holds' := by
  obtain ⟨rfl, array, shown, here⟩ := stands
  have saves : (Mount.run Volume.shutdown).Ensures (world.device, world.mount)
      (fun _ after => Sound after.1 ∧ stored (.ofWhole (LawfulDevice.sectors after.1))) fun _ _ => False := by
    refine Mount.ensures_run ((Volume.shutdown_settles (fun array _ => stored (.ofWhole array))
      (((stores here).run shown).mono (fun _ _ done => done) fun _ _ failed => failed.choose_spec.2)).mono ?_
      fun _ _ failed => failed)
    rintro _ after ⟨shown', done⟩
    exact ⟨shown'.sound, done⟩
  obtain ⟨_, ⟨left, gone⟩, ended, sound, done⟩ := saves.result_ends log
  have mounts : (Volume.mount capacity memory).Ensures left
      (fun mount device' => ∃ array', (mount.disk device').Shows array' ∧ holds' (.ofWhole array') mount.files)
      fun _ _ => False := by
    unfold Volume.mount
    refine .bind (Action.ensures_get.mpr ?_)
    rw [← LawfulDevice.count_sectors sound, ← PartialArray.count_ofWhole]
    refine (Mount.start_ensures sound (restores done)).mono (fun _ _ done => done) ?_
    rintro failure device' (⟨cramped, -⟩ | ⟨_, _, failed⟩)
    · exact cramped.not_hasRoom room
    · exact failed
  obtain ⟨mount, device', mounted, array', shown', there⟩ := mounts.result_ends later
  have closed : (world.meet .shutdown log).device = left := by
    unfold World.meet
    rw [show (Mount.run Request.shutdown.perform).result (world.device, world.mount) log = _ from ended]
  refine ⟨by rw [told, ended], mount, device', ?_, rfl, array', shown', there⟩
  rw [closed, mounted]

end Stands

/-- Two worlds to which the same was done so far that both are at the same stage, with the contents of
sector 3 that their devices had. -/
def Poised (device₁ : D₁) (device₂ : D₂) (ledger : Ledger) (stage : PartialArray → Volume → Prop) : Prop :=
  ∃ world₁ world₂, Together .reckless False device₁ device₂ world₁ world₂ ∧
    world₁.Stands ledger (fun array volume => stage array volume ∧ SectorId.ofNat 3 ∈ array ∧
      array.get (.ofNat 3) = (LawfulDevice.sectors device₁).get (.ofNat 3)) ∧
    world₂.Stands ledger fun array volume => stage array volume ∧ SectorId.ofNat 3 ∈ array ∧
      array.get (.ofNat 3) = (LawfulDevice.sectors device₂).get (.ofNat 3)

namespace Poised

variable {ledger : Ledger} {stage : PartialArray → Volume → Prop}

/-- What is known of a new volume. -/
def New (array : PartialArray) (volume : Volume) : Prop :=
  array.count = 128 ∧ Healthy array volume initialLedger ∧ array.inode rootSector = .empty true ∧
    Accounted array volume.space initialLedger.files

/-- Formatting leaves sector 3 of the device alone. -/
theorem new_of_format (sound : Sound device₁) (count : (LawfulDevice.sectors device₁).count = 128) :
    ∃ mount device', (Volume.format 1).result device₁ #[] = (.ok mount, device') ∧
      (⟨device', mount, initialLedger⟩ : World D₁).Stands initialLedger fun array volume => New array volume ∧
        SectorId.ofNat 3 ∈ array ∧ array.get (.ofNat 3) = (LawfulDevice.sectors device₁).get (.ofNat 3) := by
  let whole := PartialArray.ofWhole (LawfulDevice.sectors device₁)
  have size : whole.count = 128 := PartialArray.count_ofWhole.trans count
  have sectors : BlockDevice.sectorCount device₁ = whole.count := (LawfulDevice.count_sectors sound).symm.trans
    PartialArray.count_ofWhole.symm
  have fits : Volume.fitsOn whole.count = true := by
    rw [size]
    rfl
  have known : SectorId.ofNat 3 ∈ whole := by
    rw [PartialArray.mem_ofWhole, SectorArray.mem_iff, count]
    decide
  have laid : Volume.layOut.Ensures whole (Volume.blank whole.count) (fun _ array volume => New array volume ∧
      SectorId.ofNat 3 ∈ array ∧ array.get (.ofNat 3) = (LawfulDevice.sectors device₁).get (.ofNat 3))
      fun _ _ _ => False := by
    have small : (Volume.fixedMap whole.count).byteLength ≤ sectorSize := by
      rw [FreeMap.byteLength, Volume.sectors_fixedMap, size]
      decide
    refine ((Volume.layOut_ensures fits).and (Volume.layOut_spares (by rw [size]; decide) small)).spreads.mono ?_
      fun _ _ _ failed => failed.2.2
    rintro _ array volume ⟨spreads, ⟨-, healthy, root, -, accounted⟩, spares⟩
    refine ⟨⟨spreads.count.trans size, healthy, root, accounted⟩, spreads.mem known, ?_⟩
    rw [spares _ (by decide), PartialArray.get_ofWhole]
  have formats : (Mount.start 1 (Volume.blank whole.count) Volume.layOut).Ensures device₁ _ fun _ _ => False :=
    (Mount.start_ensures sound laid).mono (fun _ _ done => done) fun _ _ failed => by
      rcases failed with ⟨cramped, -⟩ | ⟨_, _, failed⟩
      · exact cramped.not_hasRoom (by decide)
      · exact failed
  obtain ⟨mount, device', ended, array, shown, new⟩ := formats.result_ends
    (#[].push (.formatting (BlockDevice.sectorCount device₁)))
  refine ⟨mount, device', ?_, rfl, array, shown, new⟩
  rw [Volume.result_format, sectors, if_pos fits, ← sectors, ← ended, sectors]

theorem format (sound₁ : Sound device₁) (sound₂ : Sound device₂) (count₁ : (LawfulDevice.sectors device₁).count = 128)
    (count₂ : (LawfulDevice.sectors device₂).count = 128) : Poised device₁ device₂ initialLedger New := by
  obtain ⟨mount₁, left₁, formatted₁, stands₁⟩ := new_of_format sound₁ count₁
  obtain ⟨mount₂, left₂, formatted₂, stands₂⟩ := new_of_format sound₂ count₂
  exact ⟨_, _, .format formatted₁ formatted₂, stands₁, stands₂⟩

theorem meet (poised : Poised device₁ device₂ ledger stage) (request : Request) (answer : request.Answer)
    (stage' : PartialArray → Volume → Prop) (permitted : request.Permitted .reckless ledger)
    (ensured : ∀ {array volume}, stage array volume → SectorId.ofNat 3 ∈ array → request.perform.Ensures array volume
      (fun a array' volume' => a = answer ∧ stage' array' volume' ∧ array'.get (.ofNat 3) = array.get (.ofNat 3))
      fun _ _ _ => False) : Poised device₁ device₂ (request.record ledger (.ok answer)) stage' := by
  obtain ⟨world₁, world₂, together, stands₁, stands₂⟩ := poised
  have keeps : ∀ {data : Sector} {array volume}, stage array volume ∧ SectorId.ofNat 3 ∈ array ∧ array.get (.ofNat 3) = data →
      request.perform.Ensures array volume (fun a array' volume' => a = answer ∧ stage' array' volume' ∧
        SectorId.ofNat 3 ∈ array' ∧ array'.get (.ofNat 3) = data) fun _ _ _ => False := by
    rintro data array volume ⟨here, known, rfl⟩
    refine (ensured here known).spreads.mono ?_ fun _ _ _ failed => failed.2
    rintro a array' volume' ⟨spreads, same, there, kept⟩
    exact ⟨same, there, spreads.mem known, kept⟩
  exact ⟨_, _, together.meet request (stands₁.ledger ▸ permitted) #[] #[], (stands₁.meet request keeps #[]).2,
    (stands₂.meet request keeps #[]).2⟩

theorem remount (poised : Poised device₁ device₂ ledger stage) (nobody : ledger.holders = []) (stored : PartialArray → Prop)
    (stage' : PartialArray → Volume → Prop)
    (stores : ∀ {array volume}, stage array volume → Volume.storeFreeMap.Ensures array volume
      (fun _ array' _ => stored array' ∧ array'.get (.ofNat 3) = array.get (.ofNat 3)) fun _ _ _ => False)
    (restores : ∀ {array}, stored array → Volume.restore.Ensures array (Volume.blank array.count)
      (fun _ array' volume' => array' = array ∧ stage' array volume') fun _ _ _ => False) :
    Poised device₁ device₂ ledger stage' := by
  obtain ⟨world₁, world₂, together, stands₁, stands₂⟩ := poised
  have keeps : ∀ {data : Sector} {array volume}, stage array volume ∧ SectorId.ofNat 3 ∈ array ∧ array.get (.ofNat 3) = data →
      Volume.storeFreeMap.Ensures array volume (fun _ array' _ => stored array' ∧ SectorId.ofNat 3 ∈ array' ∧
        array'.get (.ofNat 3) = data) fun _ _ _ => False := by
    rintro data array volume ⟨here, known, rfl⟩
    refine (stores here).spreads.mono ?_ fun _ _ _ failed => failed.2
    rintro _ array' volume' ⟨spreads, there, kept⟩
    exact ⟨there, spreads.mem known, kept⟩
  have takes : ∀ {data : Sector} {array}, stored array ∧ SectorId.ofNat 3 ∈ array ∧ array.get (.ofNat 3) = data →
      Volume.restore.Ensures array (Volume.blank array.count) (fun _ array' volume' => stage' array' volume' ∧
        SectorId.ofNat 3 ∈ array' ∧ array'.get (.ofNat 3) = data) fun _ _ _ => False := by
    rintro data array ⟨here, known⟩
    refine (restores here).mono ?_ fun _ _ _ failed => failed
    rintro _ _ volume' ⟨rfl, there⟩
    exact ⟨there, known⟩
  have room : HasRoom hostMemory 1 := by decide
  obtain ⟨closed₁, mount₁, left₁, mounted₁, again₁⟩ := stands₁.remount keeps takes room #[] #[]
  obtain ⟨closed₂, mount₂, left₂, mounted₂, again₂⟩ := stands₂.remount keeps takes room #[] #[]
  exact ⟨_, _, together.remount (stands₁.ledger.symm ▸ nobody) closed₁ closed₂ mounted₁ mounted₂,
    ⟨stands₁.ledger, again₁.shown⟩, ⟨stands₂.ledger, again₂.shown⟩⟩

/-- The table of a volume that was mounted and in which then the file on sector 0 was opened, and the one on
sector 2. -/
def openedFirst : InodeRef × InodeTable := (InodeTable.empty.visited freeMapSector).insert freeMapSector

def openedBoth : InodeRef × InodeTable := openedFirst.2.insert (.ofNat 2)

/-- What callers know then. -/
def forgedLedger : Ledger :=
  ⟨[.ofNat 2, freeMapSector, rootSector], [], [], [⟨.ofNat 2, openedBoth.1⟩, ⟨freeMapSector, openedFirst.1⟩]⟩

/-- The free map's file is removed, and another file made on its sector gets to hold what is read as a third
file's inode. -/
theorem forge (poised : Poised device₁ device₂ initialLedger New) :
    Poised device₁ device₂ forgedLedger fun array volume =>
      Files.Single array (.ofNat 2) (.ofNat 3) sectorSize ∧ (volume.table.inode openedBoth.1).sector = .ofNat 2 := by
  have removed : Poised device₁ device₂ Volume.unmappedLedger fun array volume => Volume.Cleared array volume 128 := by
    refine poised.meet (.call (.remove freeMapSector)) () _ ⟨by decide, trivial⟩ ?_
    rintro array volume ⟨count, healthy, root, accounted⟩ -
    refine (Volume.cleared_ensures (by rw [count]; decide) healthy root accounted).mono ?_ fun _ _ _ failed => failed
    rintro _ _ volume' ⟨rfl, cleared⟩
    exact ⟨rfl, count ▸ cleared, rfl⟩
  have remade := removed.meet (.call (.create 0 false)) freeMapSector
    (fun array volume => Volume.Remade array volume 128) trivial fun cleared _ =>
      (Volume.remade_ensures cleared).mono (fun _ _ _ done => ⟨done.1, done.2.1, done.2.2 _ (by decide)⟩)
        fun _ _ _ failed => failed
  have forgetful := remade.remount rfl (fun array => Volume.Forgetful array 128)
    (fun array volume => Volume.Forgetful array 128 ∧
      volume = ⟨InodeTable.empty.visited freeMapSector, Volume.fixedMap 128⟩)
    (fun remade => (Volume.forgets_ensures remade (by decide)).mono (fun _ _ _ done => ⟨done.1, done.2 _ (by decide)⟩)
      fun _ _ _ failed => failed)
    fun {array} forgetful => by
      rw [forgetful.count]
      exact (Volume.retakes_ensures forgetful).mono (fun _ _ _ done => ⟨done.1, forgetful, done.2⟩) fun _ _ _ failed => failed
  have reused := forgetful.meet (.call (.create 0 false)) (.ofNat 2)
    (fun array volume => Volume.Reused array 128 ∧ volume.table = InodeTable.empty.visited freeMapSector) trivial
    (by
      rintro array _ ⟨forgetful, rfl⟩ -
      refine (Volume.reuses_ensures forgetful).mono ?_ fun _ _ _ failed => failed
      rintro sector array' _ ⟨rfl, reused, rfl, others⟩
      exact ⟨rfl, ⟨reused, rfl⟩, others _ (by decide)⟩)
  have first := reused.meet (.call (.openAt freeMapSector)) openedFirst.1
    (fun array volume => Volume.Reused array 128 ∧ volume.table = openedFirst.2)
    (show (⟨[.ofNat 2, freeMapSector, rootSector], [], [], []⟩ : Ledger).Live freeMapSector by decide)
    (by
      rintro array ⟨table, space⟩ ⟨reused, rfl⟩ -
      refine (Files.openAt_new rfl reused.single.known reused.single.valid).mono ?_ fun _ _ _ failed => failed
      rintro _ _ _ ⟨rfl, rfl, rfl⟩
      exact ⟨rfl, ⟨reused, rfl⟩, rfl⟩)
  obtain ⟨source, forges⟩ : ∃ source, source = Bytes.slice (Volume.forged 3).encode.bytes 0 (Words.wordSize * 4) := ⟨_, rfl⟩
  have written := first.meet (.call (.write ⟨freeMapSector, openedFirst.1⟩ source 0)) (Words.wordSize * 4)
    (fun array volume => Files.Single array (.ofNat 2) (.ofNat 3) sectorSize ∧ volume.table = openedFirst.2)
    ⟨List.mem_cons_self, trivial⟩
    (by
      rintro array ⟨table, space⟩ ⟨reused, rfl⟩ known
      have has := PartialArray.has_of_mem reused.single.there
      have words : groupCount 128 * Group.bytes = Words.wordSize * 4 := by decide
      refine (Volume.forges_ensures (k := 3) reused words (Nat.le_refl 4) rfl rfl forges).mono ?_ fun _ _ _ failed => failed
      rintro _ _ _ ⟨rfl, rfl, rfl⟩
      exact ⟨rfl, ⟨reused.single_forged (by decide) known, rfl⟩, PartialArray.get_set_ne has (by decide)⟩)
  exact written.meet (.call (.openAt (.ofNat 2))) openedBoth.1 _
    (show (⟨[.ofNat 2, freeMapSector, rootSector], [], [], [⟨freeMapSector, openedFirst.1⟩]⟩ : Ledger).Live (.ofNat 2) by
      decide)
    (by
      rintro array ⟨table, space⟩ ⟨single, rfl⟩ -
      refine (Files.openAt_new rfl single.known single.valid).mono ?_ fun _ _ _ failed => failed
      rintro _ _ _ ⟨rfl, rfl, rfl⟩
      exact ⟨rfl, ⟨single, rfl⟩, rfl⟩)

end Poised

/-- The device in memory that holds an array. -/
def filled (array : SectorArray) : RamDisk := ⟨array.sectors, 0, 0⟩

theorem sectors_filled (array : SectorArray) : LawfulDevice.sectors (filled array) = array := rfl

theorem get_zeroed (count : Nat) (sector : SectorId) :
    (LawfulDevice.sectors (RamDisk.zeroed count)).get sector = Block.zero := by
  show (Array.replicate count Block.zero).getD sector.index default = _
  rw [Array.getD_eq_getD_getElem?, Array.getElem?_replicate]
  split <;> rfl

/-- A sector that is filled with ones. -/
def ones : Sector := ⟨Bytes.fill 0xff sectorSize, Bytes.size_fill 0xff sectorSize⟩

/-- A device of zeros but for sector 3. -/
def written : RamDisk := filled ((LawfulDevice.sectors (RamDisk.zeroed 128)).set (.ofNat 3) ones)

/-- One byte that is read from a sector filled with `value`. -/
theorem read_filled (value : UInt8) :
    Bytes.splice (Bytes.fill 0 1) 0 (Bytes.slice (Bytes.fill value sectorSize) 0 1) = Bytes.fill value 1 := by
  have one : (Bytes.slice (Bytes.fill value sectorSize) 0 1).size = 1 := by
    rw [Bytes.size_slice_eq, Bytes.size_fill]
    rfl
  have fits : 0 + (Bytes.slice (Bytes.fill value sectorSize) 0 1).size ≤ (Bytes.fill 0 1).size := by
    rw [one, Bytes.size_fill]
  apply Bytes.ext_byte
  · rw [Bytes.size_splice _ fits, Bytes.size_fill, Bytes.size_fill]
  · intro i inside
    rw [Bytes.size_splice _ fits, Bytes.size_fill] at inside
    obtain rfl : i = 0 := by omega
    rw [Bytes.byte_splice fits, one, if_pos (by decide), Bytes.byte_slice, if_pos (by decide), Bytes.byte_fill,
      if_pos (by decide), Bytes.byte_fill, if_pos (by decide)]

/-- Where the free map's file is removed, what a device held before it was formatted can be read. -/
theorem not_noninterference_unmapped : ∃ (world₁ world₂ : World RamDisk) (holder : Holder),
    Together .reckless False (RamDisk.zeroed 128) written world₁ world₂ ∧ holder ∈ world₁.ledger.holders ∧
      world₁.told (Files.readInto holder.ref (Bytes.fill 0 1) 0) #[] = .ok (1, Bytes.fill 0 1) ∧
      world₂.told (Files.readInto holder.ref (Bytes.fill 0 1) 0) #[] = .ok (1, Bytes.fill 0xff 1) := by
  have sound : ∀ disk : RamDisk, Sound disk := fun _ => trivial
  have count : (LawfulDevice.sectors (RamDisk.zeroed 128)).count = 128 := Array.size_replicate
  have inside : SectorId.ofNat 3 ∈ LawfulDevice.sectors (RamDisk.zeroed 128) := by
    rw [SectorArray.mem_iff, count]
    decide
  have set : LawfulDevice.sectors written = (LawfulDevice.sectors (RamDisk.zeroed 128)).set (.ofNat 3) ones :=
    sectors_filled _
  obtain ⟨world₁, world₂, together, stands₁, stands₂⟩ :=
    (Poised.format (sound (RamDisk.zeroed 128)) (sound written) count (by rw [set, SectorArray.count_set, count])).forge
  have reads : ∀ {data : Sector} {array : PartialArray} {volume : Volume} (buffer : Bytes), buffer.size = 1 →
      (Files.Single array (.ofNat 2) (.ofNat 3) sectorSize ∧
          (volume.table.inode Poised.openedBoth.1).sector = .ofNat 2) ∧
        SectorId.ofNat 3 ∈ array ∧ array.get (.ofNat 3) = data →
      (Files.readInto Poised.openedBoth.1 buffer 0 : SectorM Volume (Nat × Bytes)).Ensures array volume
        (fun told _ _ => told = (1, Bytes.splice buffer 0 (Bytes.slice data.bytes 0 1)) ∧ True)
        fun _ _ _ => False := by
    rintro data array volume buffer one ⟨⟨single, there⟩, -, rfl⟩
    refine (single.readInto there (by omega) (Nat.le_trans (Nat.le_of_eq one) (by decide))).mono ?_
      fun _ _ _ failed => failed
    rintro _ _ _ ⟨-, -, rfl⟩
    rw [one]
    exact ⟨rfl, trivial⟩
  have second : (LawfulDevice.sectors written).get (.ofNat 3) = ones := by rw [set, SectorArray.get_set_self inside]
  let request : Request := .call (.read ⟨.ofNat 2, Poised.openedBoth.1⟩ (Bytes.fill 0 1) 0)
  refine ⟨world₁, world₂, ⟨.ofNat 2, Poised.openedBoth.1⟩, together, ?_, ?_, ?_⟩
  · rw [stands₁.ledger]
    exact List.mem_cons_self
  · refine (stands₁.meet request (reads _ (Bytes.size_fill 0 1)) #[]).1.trans ?_
    rw [get_zeroed, Block.zero, read_filled]
  · refine (stands₂.meet request (reads _ (Bytes.size_fill 0 1)) #[]).1.trans ?_
    rw [second, ones, read_filled]

end World

end InodeVolume
