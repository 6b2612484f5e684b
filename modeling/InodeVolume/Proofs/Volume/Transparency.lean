import InodeVolume.Proofs.Volume.Formatting
import InodeVolume.Proofs.Volume.Unmapped

/-!
# Nobody above the cache can tell its size

A volume answers its callers alike whatever the number of slots in its cache, as long as the host has room for
it, and as it would without a cache on a plain array of sectors.

* **machines** — a `Machine` is a way to begin volumes and to work on them. There is one for each capacity
  of a cache over a device (`Machine.cached`), and one over a plain array (`Machine.plain`);
* **sessions** — `Machine.session` begins a volume, makes requests one after the other, drops the volume,
  and lists what is seen from outside: every answer, and now and then the sectors of the device;
* **transparency** — `session_transparent`: all machines show the same, as far as the requests stay on the
  device.

The device is looked at after every sync and shutdown that succeeds, and when the volume is dropped and nobody
holds a handle. A handle keeps the cache, and what the cache alone holds is not written back while someone has
one. So a volume that is dropped then may leave the device behind, and so may a sync that fails:
`not_session_transparent`.
-/

namespace InodeVolume

namespace Volume

open LawfulDevice (Sound sectors)

/-! ## Sessions -/

/-- How a session begins. -/
inductive Beginning where
  | format
  | mount

/-- What is seen of a session from outside. -/
inductive Sighting : Type 1 where
  | answer {α : Type} (told : Except Failure α)
  | device (sectors : SectorArray)

/-- Who looks at the device: after which requests, by whether they succeed, and whether also at the drop of a
volume that someone still holds a handle of. -/
structure Watcher where
  looks : Request → Bool → Bool
  insists : Bool

/-- The device is looked at after each sync and each shutdown that succeeds, and when nothing leads to the cache
any more. -/
def whenSettled : Watcher := ⟨fun request succeeded => request.settles && succeeded, false⟩

/-- The device is looked at after each sync and each shutdown, and whenever a volume is dropped. -/
def always : Watcher := ⟨fun request _ => request.settles, true⟩

/-- The handles that are held after a call. Whoever closes one gives it up, whatever comes of it. -/
def Call.held {α : Type} (held : List InodeRef) : Call α → Except Failure α → List InodeRef
  | .openAt _, .ok ref | .openRoot, .ok ref => ref :: held
  | .reopen holder, .ok _ => holder.ref :: held
  | .close holder, _ => held.erase holder.ref
  | _, _ => held

/-- The handles that are held after a request. -/
def Request.held (held : List InodeRef) : (request : Request) → Except Failure request.Answer → List InodeRef
  | call asked, told => asked.held held told
  | freeSectors, _ | shutdown, _ => held

/-- The volume of a device of so many sectors is begun by a computation. -/
def Beginning.computation (sectors : Nat) : Beginning → SectorM Volume Unit
  | format => if fitsOn sectors then layOut else SectorM.report .noSpace
  | mount => restore

/-- Ways to begin volumes on a `D` and to work on them; `V` is what stands beside the `D` meanwhile. -/
structure Machine (D V : Type) where
  start : Beginning → Action D V
  carry : {α : Type} → SectorM Volume α → Action (D × V) α
  view : D → SectorArray

namespace Machine

/-- Volumes on a device behind a cache of so many slots, on a host with so much memory. -/
def cached {D : Type} [BlockDevice D] [LawfulDevice D] (capacity memory : Nat) : Machine D (Mount FreeMap) where
  start
    | .format => Volume.format capacity memory
    | .mount => Volume.mount capacity memory
  carry := Mount.run
  view := LawfulDevice.sectors

/-- Begins a volume on a plain array. -/
def startPlain (computation : SectorM Volume Unit) : Action SectorArray Volume := fun ⟨array, log⟩ =>
  match computation.run ⟨(array, blank array.count), log⟩ with
  | .ok () ⟨(array, volume), log⟩ => .ok volume ⟨array, log⟩
  | .error failure ⟨(array, _), log⟩ => .error failure ⟨array, log⟩

/-- Volumes on a plain array, without a cache. -/
def plain : Machine SectorArray Volume where
  start beginning := do startPlain (beginning.computation (← get).count)
  carry := SectorM.run
  view := id

variable {D V : Type}

/-- What is seen of requests and of the drop of the volume after them, by a watcher, while some handles are held.
The slots are written back at the drop unless a handle leads to them. -/
def watch (machine : Machine D V) (watcher : Watcher) :
    List InodeRef → List Request → Traced (D × V) → List Sighting
  | [], [], world =>
    match (machine.carry SectorM.shutdownStore).run world with
    | .ok _ after | .error _ after => [.device (machine.view after.state.1)]
  | _ :: _, [], world => if watcher.insists then [.device (machine.view world.state.1)] else []
  | held, request :: rest, world =>
    match (machine.carry request.perform).run world with
    | .ok a after =>
      .answer (.ok a : Except Failure request.Answer) ::
        ((if watcher.looks request true then [.device (machine.view after.state.1)] else []) ++
          watch machine watcher (request.held held (.ok a)) rest after)
    | .error failure after =>
      .answer (.error failure : Except Failure request.Answer) ::
        ((if watcher.looks request false then [.device (machine.view after.state.1)] else []) ++
          watch machine watcher (request.held held (.error failure)) rest after)

section Watch

variable {machine : Machine D V} {watcher : Watcher} {held : List InodeRef} {request : Request} {rest : List Request}
  {world after : Traced (D × V)}

theorem watch_nil (ended : (machine.carry SectorM.shutdownStore).run world = .ok () after) :
    machine.watch watcher [] [] world = [.device (machine.view after.state.1)] := by
  rw [watch, ended]

theorem watch_ok {a : request.Answer} (ended : (machine.carry request.perform).run world = .ok a after) :
    machine.watch watcher held (request :: rest) world = .answer (.ok a : Except Failure request.Answer) ::
      ((if watcher.looks request true then [.device (machine.view after.state.1)] else []) ++
        machine.watch watcher (request.held held (.ok a)) rest after) := by
  rw [watch, ended]

theorem watch_error {failure : Failure} (ended : (machine.carry request.perform).run world = .error failure after) :
    machine.watch watcher held (request :: rest) world = .answer (.error failure : Except Failure request.Answer) ::
      ((if watcher.looks request false then [.device (machine.view after.state.1)] else []) ++
        machine.watch watcher (request.held held (.error failure)) rest after) := by
  rw [watch, ended]

/-- Where the same is seen of all requests, the same is seen of those behind one that was answered. -/
theorem watch_tail {D' V' : Type} {other : Machine D' V'} {world' after' : Traced (D' × V')} {a : request.Answer}
    (same : machine.watch watcher held (request :: rest) world = other.watch watcher held (request :: rest) world')
    (ended : (machine.carry request.perform).run world = .ok a after)
    (ended' : (other.carry request.perform).run world' = .ok a after') :
    machine.watch watcher (request.held held (.ok a)) rest after =
      other.watch watcher (request.held held (.ok a)) rest after' := by
  rw [watch_ok ended, watch_ok ended'] at same
  have behind := (List.cons.inj same).2
  by_cases seen : watcher.looks request true = true
  · rw [if_pos seen, if_pos seen] at behind
    exact (List.cons.inj behind).2
  · rw [if_neg seen, if_neg seen] at behind
    exact behind

end Watch

/-- What is seen of a session. A volume that cannot be begun is dropped at once. -/
def session (machine : Machine D V) (watcher : Watcher) (beginning : Beginning)
    (requests : List Request) (world : Traced D) : List Sighting :=
  match (machine.start beginning).run world with
  | .ok v ⟨device, log⟩ =>
    .answer (.ok () : Except Failure Unit) :: watch machine watcher [] requests ⟨(device, v), log⟩
  | .error failure ⟨device, _⟩ =>
    [.answer (.error failure : Except Failure Unit), .device (machine.view device)]

end Machine

/-! ## Sessions on the device -/

/-- Every sector that a computation reads or writes is one of the array. -/
def Within {α : Type} (computation : SectorM Volume α) (world : SectorArray × Volume) : Prop :=
  computation.Ensures (.ofWhole world.1) world.2 (fun _ _ _ => True) fun _ _ _ => True

/-- Requests that are made one after the other over a plain array stay within it. -/
def Stays : List Request → SectorArray × Volume → Prop
  | [], _ => True
  | request :: rest, world =>
    Within request.perform world ∧ Stays rest (request.perform.run.result world #[]).2

/-- Every sector that a session reads or writes is on the device. -/
def StaysOn (array : SectorArray) (beginning : Beginning) (requests : List Request) : Prop :=
  let computation := beginning.computation array.count
  let world := (array, blank array.count)
  Within computation world ∧ ((computation.run.result world #[]).1 = .ok () →
    Stays requests (computation.run.result world #[]).2)

/-! ## Transparency -/

variable {D : Type} [BlockDevice D] [LawfulDevice D] {device : D} {mount : Mount FreeMap} {array : SectorArray}

theorem Beginning.blind_computation (beginning : Beginning) (sectors : Nat) :
    (beginning.computation sectors).Blind True := by
  cases beginning with
  | format => exact .ite (blind_layOut trivial) .report
  | mount => exact blind_restore

/-- A volume that is dropped leaves the device as the array that is shown. -/
theorem flush_ensures (shown : (mount.disk device).Shows array) :
    (Mount.run SectorM.shutdownStore).Ensures (device, mount) (fun _ after => sectors after.1 = array)
      fun _ _ => False := by
  refine Mount.ensures_run ?_
  rw [SectorM.shutdownStore, SectorM.run_shutdown]
  refine .bind (Action.ensures_onFst.mpr ((CachedDisk.shutdown_ensures shown).mono ?_ fun _ _ failed => failed))
  exact fun _ after done => Action.ensures_pure.mpr done.2.1

namespace Machine

/-- Requests on a mount are answered as on the plain array that it shows. -/
theorem watch_transparent (capacity memory : Nat) {requests : List Request} (shown : (mount.disk device).Shows array)
    (stays : Stays requests (array, mount.files)) (held : List InodeRef) (log log' : Array Event) :
    (cached capacity memory).watch whenSettled held requests ⟨(device, mount), log⟩ =
      plain.watch whenSettled held requests ⟨(array, mount.files), log'⟩ := by
  induction requests generalizing device mount array held log log' with
  | nil =>
      cases held with
      | cons ref others => rfl
      | nil =>
          obtain ⟨_, ⟨device', mount'⟩, later, ended, same⟩ := (flush_ensures shown).ends log
          have dropped : ((cached capacity memory).carry SectorM.shutdownStore).run ⟨(device, mount), log⟩ = _ := ended
          have plain_dropped : (plain.carry SectorM.shutdownStore).run ⟨(array, mount.files), log'⟩ =
            .ok () ⟨(array, mount.files), log'⟩ := rfl
          rw [watch_nil dropped, watch_nil plain_dropped]
          exact congrArg (fun sectors => [Sighting.device sectors]) same
  | cons request rest ih =>
      obtain ⟨within, stays⟩ := stays
      obtain ⟨told, device', mount', array', ran, plain_ran, -, shown', -⟩ :=
        Mount.run_twins (fun _ => CachedDisk.shows_keeps) request.blind_perform within shown log log'
      rw [request.blind_perform.result_plain within #[] log', plain_ran] at stays
      obtain ⟨later, ended⟩ := Action.run_of_result ran
      obtain ⟨later', plain_ended⟩ := Action.run_of_result plain_ran
      have ended : ((cached capacity memory).carry request.perform).run ⟨(device, mount), log⟩ = _ := ended
      have plain_ended : (plain.carry request.perform).run ⟨(array, mount.files), log'⟩ = _ := plain_ended
      cases told with
      | ok a =>
          have same : whenSettled.looks request true = true → sectors device' = array' := by
            intro looks
            have settles : request.settles = true := by simpa [whenSettled] using looks
            have settled := (Request.settles_ensures settles within shown (PartialArray.describes_ofWhole array)).result log
            rw [ran] at settled
            exact settled.eq_overlay.trans shown'.eq_overlay.symm
          have views : whenSettled.looks request true = true →
              (cached capacity memory : Machine D (Mount FreeMap)).view device' = plain.view array' := same
          rw [watch_ok ended, watch_ok plain_ended, ih shown' stays _ later later']
          split
          · rw [views ‹_›]
          · rfl
      | error failure =>
          have unseen : ¬whenSettled.looks request false = true := by simp [whenSettled]
          rw [watch_error ended, watch_error plain_ended, ih shown' stays _ later later', if_neg unseen, if_neg unseen]

/-- A beginning on a device and one on a plain array have come to the same. -/
def BegunAlike (capacity : Nat) (good : Unit → PartialArray → Volume → Prop)
    (bad : Failure → PartialArray → Volume → Prop) :
    EStateM.Result Failure (Traced D) (Mount FreeMap) → EStateM.Result Failure (Traced SectorArray) Volume → Prop
  | .ok mount ⟨device, _⟩, .ok volume ⟨array, _⟩ =>
    mount.files = volume ∧ mount.capacity = capacity ∧ (mount.disk device).Shows array ∧
      good () (.ofWhole array) volume
  | .error failure ⟨device, _⟩, .error failure' ⟨array, _⟩ =>
    failure = failure' ∧ sectors device = array ∧ ∃ volume, bad failure (.ofWhole array) volume
  | _, _ => False

variable {good : Unit → PartialArray → Volume → Prop} {bad : Failure → PartialArray → Volume → Prop}
  {capacity memory : Nat}

/-- A mount begins as the volume of the plain array that the device is. -/
theorem start_twins (sound : Sound device) (room : HasRoom memory capacity) {computation : SectorM Volume Unit}
    (blind : computation.Blind True) (ensured : computation.Ensures (.ofWhole (sectors device))
      (blank (sectors device).count) good bad) (log log' : Array Event) :
    BegunAlike capacity good bad
      ((Mount.start capacity (blank (sectors device).count) computation memory).run ⟨device, log⟩)
      ((startPlain computation).run ⟨sectors device, log'⟩) := by
  let fresh : Mount FreeMap := ⟨Cache.empty capacity room.1, blank (sectors device).count⟩
  have shown : (fresh.disk device).Shows (sectors device) := .fresh sound room.1
  obtain ⟨told, device', mount', array', ran, plain_ran, slots, shown', own, done⟩ :=
    Mount.run_twins (fun _ => CachedDisk.shows_keeps) blind ensured shown log log'
  obtain ⟨later, ended⟩ := Action.run_of_result ran
  obtain ⟨later', plain_ended⟩ := Action.run_of_result plain_ran
  have plain_started : (startPlain computation).run ⟨sectors device, log'⟩ =
      match computation.run.run ⟨(sectors device, blank (sectors device).count), log'⟩ with
      | .ok () ⟨(array, volume), log⟩ => .ok volume ⟨array, log⟩
      | .error failure ⟨(array, _), log⟩ => .error failure ⟨array, log⟩ := rfl
  rw [Mount.run_start room, plain_started, ended, plain_ended]
  cases told with
  | ok a => exact ⟨rfl, slots, shown', done⟩
  | error failure =>
      -- no failure here comes from the host, so the slots are written back
      obtain ⟨_, ⟨device₂, mount₂⟩, later₂, flushed, same⟩ := (flush_ensures shown').ends later
      have flushed : Mount.flush.run ⟨(device', mount'), later⟩ = .ok () ⟨(device₂, mount₂), later₂⟩ := flushed
      cases failure with
      | reported error =>
          dsimp only
          rw [flushed]
          exact ⟨rfl, same, mount'.files, done⟩
      | fault why =>
          cases why with
          | host refusal => exact absurd rfl (own refusal)
          | broken _ | overflow | memory | outOfBounds =>
              dsimp only
              rw [flushed]
              exact ⟨rfl, same, mount'.files, done⟩

/-- A volume on a mount begins as one on the plain array that the device is. -/
theorem begin_twins (sound : Sound device) (room : HasRoom memory capacity) {beginning : Beginning}
    (ensured : (beginning.computation (sectors device).count).Ensures (.ofWhole (sectors device))
      (blank (sectors device).count) good bad) (log log' : Array Event) :
    BegunAlike capacity good bad (((cached capacity memory).start beginning).run ⟨device, log⟩)
      ((plain.start beginning).run ⟨sectors device, log'⟩) := by
  have count := LawfulDevice.count_sectors sound
  show BegunAlike capacity good bad _ ((startPlain (beginning.computation (sectors device).count)).run ⟨sectors device, log'⟩)
  cases beginning with
  | mount =>
      have ran : ((cached capacity memory).start .mount).run ⟨device, log⟩ =
          (Mount.start capacity (blank (sectors device).count) restore memory).run ⟨device, log⟩ := by
        rw [count]
        rfl
      rw [ran]
      exact start_twins sound room blind_restore ensured log log'
  | format =>
      have ran : ((cached capacity memory).start .format).run ⟨device, log⟩ =
          (if fitsOn (sectors device).count then Mount.start capacity (blank (sectors device).count) layOut memory
            else do
              Action.emit .deviceTooSmall
              Action.report .noSpace : Action D (Mount FreeMap)).run
            ⟨device, log.push (.formatting (sectors device).count)⟩ := by
        rw [count]
        rfl
      rw [ran]
      dsimp only [Beginning.computation] at ensured ⊢
      by_cases fits : fitsOn (sectors device).count = true
      · rw [if_pos fits] at ensured
        rw [if_pos fits, if_pos fits]
        exact start_twins sound room (blind_layOut trivial) ensured _ log'
      · rw [if_neg fits] at ensured
        rw [if_neg fits, if_neg fits]
        exact ⟨rfl, rfl, _, SectorM.ensures_report.mp ensured⟩

theorem result_of_startPlain {computation : SectorM Volume Unit} {volume : Volume} {world : Traced SectorArray}
    {log : Array Event} (started : (startPlain computation).run ⟨array, log⟩ = .ok volume world) :
    computation.run.result (array, blank array.count) log = (.ok (), (world.state, volume)) := by
  unfold startPlain at started
  dsimp only [Action.run] at started
  unfold Action.result Action.run
  revert started
  cases computation.run ⟨(array, blank array.count), log⟩ with
  | ok u after =>
      intro started
      injection started with files state
      rw [← files, ← state]
  | error failure after => exact fun started => nomatch started

/-- A session shows the same over every cache as over the plain array that the device is at first. -/
theorem session_cached (sound : Sound device) (room : HasRoom memory capacity) {beginning : Beginning}
    {requests : List Request} (stays : StaysOn (sectors device) beginning requests) (log log' : Array Event) :
    (cached capacity memory).session whenSettled beginning requests ⟨device, log⟩ =
      plain.session whenSettled beginning requests ⟨sectors device, log'⟩ := by
  have within := stays.1
  have begun := begin_twins sound room within log log'
  unfold session
  revert begun
  cases ((cached capacity memory).start beginning).run ⟨device, log⟩ with
  | ok mount world =>
      cases plain_ended : (plain.start beginning).run ⟨sectors device, log'⟩ with
      | ok volume world' =>
          rintro ⟨rfl, -, shown, -⟩
          have ran := result_of_startPlain plain_ended
          have stays := stays.2
          rw [(beginning.blind_computation _).result_plain within #[] log', ran] at stays
          have stays := stays rfl
          exact congrArg _ (watch_transparent capacity memory shown stays [] world.log world'.log)
      | error failure world' => exact fun never => never.elim
  | error failure world =>
      cases (plain.start beginning).run ⟨sectors device, log'⟩ with
      | ok volume world' => exact fun never => never.elim
      | error failure' world' =>
          rintro ⟨rfl, same, -⟩
          exact congrArg (fun sectors => [Sighting.answer (.error failure : Except Failure Unit), .device sectors]) same

/-- **Transparency.** From formatting or mounting on, a session shows the same over caches of any two sizes
that hosts have room for, and the same as over a plain array, as long as it stays on the device. -/
theorem session_transparent (sound : Sound device) {first second memory memory' : Nat}
    (room : HasRoom memory first) (room' : HasRoom memory' second) {beginning : Beginning} {requests : List Request}
    (stays : StaysOn (sectors device) beginning requests) (log log' plain_log : Array Event) :
    (cached first memory).session whenSettled beginning requests ⟨device, log⟩ =
        (cached second memory').session whenSettled beginning requests ⟨device, log'⟩ ∧
      (cached first memory).session whenSettled beginning requests ⟨device, log⟩ =
        plain.session whenSettled beginning requests ⟨sectors device, plain_log⟩ := by
  have one := session_cached sound room stays log plain_log
  exact ⟨one.trans (session_cached sound room' stays log' plain_log).symm, one⟩

/-! ### Staying on the device -/

theorem stays_cons {request : Request} {rest : List Request} {volume : Volume}
    {good : request.Answer → PartialArray → Volume → Prop} {bad : Failure → PartialArray → Volume → Prop}
    (ensured : request.perform.Ensures (.ofWhole array) volume good bad)
    (ended : ∀ a array' volume', request.perform.run.result (array, volume) #[] = (.ok a, (array', volume')) →
      good a (.ofWhole array') volume' → Stays rest (array', volume'))
    (failed : ∀ failure array' volume', bad failure (.ofWhole array') volume' → Stays rest (array', volume')) :
    Stays (request :: rest) (array, volume) := by
  refine ⟨ensured.mono (fun _ _ _ _ => trivial) fun _ _ _ _ => trivial, ?_⟩
  obtain ⟨told, volume', _, array', one, two, -, -, done⟩ :=
    request.blind_perform.twins_plain SectorArray.keeps ensured rfl #[] #[]
  rw [two]
  cases told with
  | ok a => exact ended a array' volume' two done
  | error failure => exact failed failure array' volume' done

theorem staysOn_format {requests : List Request} (fits : fitsOn array.count = true)
    (ended : ∀ array' volume', layOut.run.result (array, blank array.count) #[] = (.ok (), (array', volume')) →
      Healthy (.ofWhole array') volume' initialLedger → Stays requests (array', volume')) :
    StaysOn array .format requests := by
  have laid := layOut_ensures (show fitsOn (PartialArray.ofWhole array).count = true by
    rw [PartialArray.count_ofWhole, fits])
  rw [PartialArray.count_ofWhole] at laid
  have begins : Beginning.format.computation array.count = layOut := if_pos fits
  unfold StaysOn
  rw [begins]
  obtain ⟨told, volume', _, array', one, two, -, -, done⟩ :=
    (blind_layOut trivial).twins_plain SectorArray.keeps laid rfl #[] #[]
  refine ⟨laid.mono (fun _ _ _ _ => trivial) fun _ _ _ _ => trivial, fun ok => ?_⟩
  rw [two] at ok ⊢
  obtain rfl : told = .ok () := ok
  exact ended array' volume' two done.2.1

/-- A file is made on a new volume of four sectors, and the volume is synced. -/
def creating : List Request := [.call (.create 700 false), .freeSectors, .call .sync]

theorem session_transparent_creating :
    (LawfulDevice.Sound (RamDisk.zeroed 4) ∧ HasRoom hostMemory 1 ∧ HasRoom hostMemory 64 ∧
      StaysOn (sectors (RamDisk.zeroed 4)) .format creating) ∧
    (cached 1 hostMemory).session whenSettled .format creating ⟨RamDisk.zeroed 4, #[]⟩ =
        (cached 64 hostMemory).session whenSettled .format creating ⟨RamDisk.zeroed 4, #[]⟩ ∧
      (cached 1 hostMemory).session whenSettled .format creating ⟨RamDisk.zeroed 4, #[]⟩ =
        plain.session whenSettled .format creating ⟨sectors (RamDisk.zeroed 4), #[]⟩ := by
  have sound : LawfulDevice.Sound (RamDisk.zeroed 4) := trivial
  have count : (sectors (RamDisk.zeroed 4)).count = 4 := Array.size_replicate
  have spared : ∀ sector, Discipline.lenient.removable sector → sector ≠ freeMapSector := fun _ removable => removable
  have stays : StaysOn (sectors (RamDisk.zeroed 4)) .format creating := by
    refine staysOn_format (by rw [count]; rfl) fun array volume _ healthy => ?_
    -- whether or not the file could be made, the volume is healthy
    have rest : ∀ {array volume ledger}, Healthy (.ofWhole array) volume ledger →
        Stays [.freeSectors, .call .sync] (array, volume) := by
      intro array volume ledger healthy
      have asked : Request.freeSectors.perform.Ensures (.ofWhole array) volume
          (fun _ array' volume' => array' = .ofWhole array ∧ volume' = volume) fun _ _ _ => False := fun _ => ⟨rfl, rfl⟩
      refine stays_cons asked ?_ fun _ _ _ failed => failed.elim
      rintro _ array' volume' - ⟨same, rfl⟩
      obtain rfl := PartialArray.ofWhole_injective same
      exact stays_cons (Call.perform_ensures healthy spared .sync trivial) (fun _ _ _ _ _ => trivial)
        fun _ _ _ _ => trivial
    exact stays_cons (Call.perform_ensures healthy spared (.create 700 false) trivial)
      (fun _ _ _ _ done => rest done.1) fun _ _ _ failed => rest failed.1
  exact ⟨⟨sound, by decide, by decide, stays⟩,
    session_transparent sound (by decide) (by decide) stays #[] #[] #[]⟩

theorem stays_of_result {request : Request} {rest : List Request} {volume : Volume} {log : Array Event}
    {told : Except Failure request.Answer} {world : SectorArray × Volume}
    {good : request.Answer → PartialArray → Volume → Prop} {bad : Failure → PartialArray → Volume → Prop}
    (ensured : request.perform.Ensures (.ofWhole array) volume good bad)
    (ran : request.perform.run.result (array, volume) log = (told, world)) (stays : Stays rest world) :
    Stays (request :: rest) (array, volume) := by
  refine ⟨ensured.mono (fun _ _ _ _ => trivial) fun _ _ _ _ => trivial, ?_⟩
  rw [request.blind_perform.result_plain ensured #[] log, ran]
  exact stays

/-! ### Where the device is left behind -/

/-- The free map's file is removed and its sector given to another. The root directory is open then, and a sync
would fail. -/
def displacing (ref : InodeRef) (source : Bytes) (last : List Request) : List Request :=
  .call (.remove freeMapSector) :: .call .openRoot :: .call (.write ⟨rootSector, ref⟩ source 0) :: last

/-- A sync fails where the free map cannot be stored. -/
theorem result_sync_error {S : Type} [SectorStore S] {store : S} {volume : Volume} {log : Array Event} {failure : Failure}
    {after : S × Volume} (ran : storeFreeMap.run.result (store, volume) log = (.error failure, after)) :
    sync.run.result (store, volume) log = (.error failure, after) := by
  show (SectorM.run (storeFreeMap >>= fun _ => SectorM.syncStore)).result (store, volume) log = _
  rw [SectorM.run_bind]
  obtain ⟨log', bound⟩ := Action.result_bind storeFreeMap.run (fun _ => SectorM.syncStore.run) (store, volume) log
  rw [bound, ran]

/-- Requests stay on the device, and what is seen of them on a mount is not what is seen on the plain array. -/
def Parts (capacity memory : Nat) (held : List InodeRef) (requests : List Request) (device : D) (mount : Mount FreeMap)
    (array : SectorArray) (log log' : Array Event) : Prop :=
  Stays requests (array, mount.files) ∧ (cached capacity memory).watch always held requests ⟨(device, mount), log⟩ ≠
    plain.watch always held requests ⟨(array, mount.files), log'⟩

variable {held : List InodeRef}

/-- A request that cannot fail is done alike on both. They part there if they do behind it. -/
theorem parts_cons (capacity memory : Nat) (held : List InodeRef) (request : Request)
    {stands : {n : Nat} → CachedDisk D n → SectorArray → Prop} {closing : Prop} {good : request.Answer → PartialArray → Volume → Prop} (keeps : ∀ n, Keeps (@stands n) closing)
    (blind : request.perform.Blind closing)
    (ensured : request.perform.Ensures (.ofWhole array) mount.files good fun _ _ _ => False)
    (stood : stands (mount.disk device) array) (log log' : Array Event) :
    ∃ a device' mount' array' later later', (Mount.run request.perform).result (device, mount) log = (.ok a, (device', mount')) ∧
      mount'.capacity = mount.capacity ∧ stands (mount'.disk device') array' ∧ good a (.ofWhole array') mount'.files ∧
      ∀ rest, Parts capacity memory (request.held held (.ok a)) rest device' mount' array' later later' →
        Parts capacity memory held (request :: rest) device mount array log log' := by
  obtain ⟨told, device', mount', array', ran, plain_ran, slots, stood', -, done⟩ :=
    Mount.run_twins keeps blind ensured stood log log'
  cases told with
  | error failure => exact done.elim
  | ok a =>
  obtain ⟨later, ended⟩ := Action.run_of_result ran
  obtain ⟨later', plain_ended⟩ := Action.run_of_result plain_ran
  refine ⟨a, device', mount', array', later, later', ran, slots, stood', done, fun rest parted => ?_⟩
  exact ⟨stays_of_result ensured plain_ran parted.1, fun same => parted.2 (watch_tail same ended plain_ended)⟩

/-- They part at the drop of a volume that someone holds a handle of, where the cache has room for all sectors and
the array has changed. -/
theorem parts_drop (capacity memory : Nat) {kept : SectorArray}
    (roomy : CachedDisk.Roomy kept (mount.disk device) array) (changed : kept ≠ array) (some_handle : held ≠ []) (log log' : Array Event) :
    Parts capacity memory held [] device mount array log log' := by
  cases held with
  | nil => exact absurd rfl some_handle
  | cons ref others =>
      refine ⟨trivial, fun same => changed ?_⟩
      have seen : [Sighting.device (sectors device)] = [.device array] := same
      injection seen with seen
      injection seen with seen
      exact roomy.still.symm.trans seen

/-- They part at a sync that fails, in the same way. -/
theorem parts_sync (capacity memory : Nat) {kept : SectorArray}
    (roomy : CachedDisk.Roomy kept (mount.disk device) array) {why : Failure} (refused : storeFreeMap.Ensures (.ofWhole array) mount.files (fun _ _ _ => False)
      fun failure array' _ => failure = why ∧ array' = .ofWhole array)
    (changed : kept ≠ array) (log log' : Array Event) :
    Parts capacity memory held [.call .sync] device mount array log log' := by
  obtain ⟨told, files, disk, array', ran, plain_ran, roomy', -, done⟩ :=
    blind_storeFreeMap.twins_plain CachedDisk.roomy_keeps refused roomy log log'
  cases told with
  | ok u => exact done.elim
  | error failure =>
  obtain ⟨-, same⟩ := done
  obtain rfl := PartialArray.ofWhole_injective same.symm
  have synced : (Mount.run sync).result (device, mount) log = (.error failure, (disk.device, ⟨disk.cache, files⟩)) := by
    rw [Mount.result_run, result_sync_error ran]
  have plain_synced := result_sync_error plain_ran
  have syncs : (Request.call .sync).perform.Ensures (.ofWhole array) mount.files (fun _ _ _ => False) fun _ _ _ => True :=
    SectorM.ensures_bind.mpr (refused.mono (fun _ _ _ done => done.elim) fun _ _ _ _ => trivial)
  refine ⟨stays_of_result syncs plain_synced trivial, fun same => changed ?_⟩
  obtain ⟨later, ended⟩ := Action.run_of_result synced
  obtain ⟨later', plain_ended⟩ := Action.run_of_result plain_synced
  have asked : ((cached capacity memory).carry (Request.call .sync).perform).run ⟨(device, mount), log⟩ = _ := ended
  have answered : (plain.carry (Request.call .sync).perform).run ⟨(array, mount.files), log'⟩ = _ := plain_ended
  -- the failure is told alike, and what is seen of the device is not the same
  rw [watch_error asked, watch_error answered] at same
  have seen : sectors disk.device = array := by
    simp only [always, Request.settles, if_true, List.cons_append, List.cons.injEq, Sighting.device.injEq, true_and] at same
    exact same.1
  exact roomy'.still.symm.trans seen

/-- With room for all sectors in the cache, the device keeps what it had, and the array does not. Neither a sync
makes up for it, nor a drop. -/
theorem parts_displacing (capacity memory : Nat) (roomy : CachedDisk.Roomy array (mount.disk device) array)
    (healthy : Healthy (.ofWhole array) mount.files initialLedger)
    (root : (PartialArray.ofWhole array).inode rootSector = .empty true) {source : Bytes}
    (some_byte : 0 < source.size) (small : source.size ≤ sectorSize) (log log' : Array Event) :
    ∃ ref, ∀ last ∈ [[], [.call .sync]],
      Parts capacity memory [] (displacing ref source last) device mount array log log' := by
  have keeps : ∀ n, Keeps (CachedDisk.Roomy array : CachedDisk D n → SectorArray → Prop) False :=
    fun _ => CachedDisk.roomy_keeps
  -- the file is removed, and the root directory is opened
  obtain ⟨_, device₁, mount₁, array₁, log₁, log₁', -, -, roomy₁, ⟨same, unmapped⟩, removed⟩ :=
    parts_cons capacity memory [] (.call (.remove freeMapSector)) keeps blind_remove (removeMap_ensures healthy root)
      roomy log log'
  obtain rfl := PartialArray.ofWhole_injective same.symm
  obtain ⟨ref, device₂, mount₂, array₂, log₂, log₂', -, -, roomy₂, ⟨same, tended, bare⟩, opened⟩ :=
    parts_cons capacity memory [] (.call .openRoot) keeps Files.blind_openAt (openRoot_bare unmapped) roomy₁ log₁ log₁'
  obtain rfl := PartialArray.ofWhole_injective same.symm
  -- sector 0 is given to it, so the free map cannot be stored
  obtain ⟨_, device₃, mount₃, array₃, log₃, log₃', -, -, roomy₃, ⟨-, written, files⟩, wrote⟩ :=
    parts_cons capacity memory [ref] (.call (.write ⟨rootSector, ref⟩ source 0)) keeps Files.blind_write
      (bare.write_lost some_byte small) roomy₂ log₂ log₂'
  have refused := storeFreeMap_lost tended bare source.size (mount₂.files.space.mark 0)
  rw [← written, ← files] at refused
  have changed : array ≠ array₃ := by
    intro unchanged
    have whole := healthy.sane.intact.whole freeMapSector healthy.live.1
    have broken : ((Files.withFirst (.ofWhole array) rootSector 0 source.size).inode freeMapSector).isValid = false :=
      isValid_withFirst bare.known bare.has
    rw [← written, ← unchanged, whole.valid] at broken
    cases broken
  refine ⟨ref, fun last either => removed _ (opened _ (wrote _ ?_))⟩
  rcases List.mem_pair.mp either with rfl | rfl
  · exact parts_drop capacity memory roomy₃ changed (List.cons_ne_nil _ _) log₃ log₃'
  · exact parts_sync capacity memory roomy₃ refused changed log₃ log₃'

/-- So it goes in a session that begins with formatting, on every device that can be formatted. -/
theorem session_displacing (sound : Sound device) (fits : fitsOn (sectors device).count = true)
    (addressed : (sectors device).count ≤ maxVolumeSectors) (room : HasRoom memory capacity)
    (more : (sectors device).count < capacity) {source : Bytes}
    (some_byte : 0 < source.size) (small : source.size ≤ sectorSize) :
    ∃ ref, ∀ last ∈ [[], [.call .sync]], StaysOn (sectors device) .format (.call .sync :: displacing ref source last) ∧
      (cached capacity memory).session always .format (.call .sync :: displacing ref source last) ⟨device, #[]⟩ ≠
        plain.session always .format (.call .sync :: displacing ref source last) ⟨sectors device, #[]⟩ := by
  have laid := layOut_ensures (show fitsOn (PartialArray.ofWhole (sectors device)).count = true by
    rw [PartialArray.count_ofWhole, fits])
  rw [PartialArray.count_ofWhole] at laid
  have begins : Beginning.format.computation (sectors device).count = layOut := if_pos fits
  have formats := laid.spreads
  rw [← begins] at formats
  have begun := begin_twins sound room formats #[] #[]
  revert begun
  cases started : ((cached capacity memory).start .format).run ⟨device, #[]⟩ with
  | error failure world =>
      cases (plain.start .format).run ⟨sectors device, #[]⟩ with
      | ok volume world' => exact fun never => never.elim
      | error failure' world' => exact fun ⟨_, _, _, _, large, _⟩ => absurd large (Nat.not_lt.mpr addressed)
  | ok mount world =>
  obtain ⟨device₀, log⟩ := world
  cases plain_started : (plain.start .format).run ⟨sectors device, #[]⟩ with
  | error failure world' => exact fun never => never.elim
  | ok volume world' =>
  obtain ⟨array, log'⟩ := world'
  rintro ⟨rfl, slots, shown, spreads, -, healthy, root, -⟩
  -- a sync brings the device up to date
  have spared : ∀ sector, Discipline.lenient.removable sector → sector ≠ freeMapSector := fun _ removable => removable
  have syncs : (Request.call .sync).perform.Ensures (.ofWhole array) mount.files
      (fun _ array' volume' => (PartialArray.ofWhole array).Spreads array' ∧ Healthy array' volume' initialLedger ∧
        ∀ other ∈ initialLedger.files, other ≠ freeMapSector → PartialArray.Same (.ofWhole array) array' other)
      fun _ _ _ => False := by
    refine (Call.perform_ensures healthy spared .sync trivial).spreads.mono ?_ ?_
    · exact fun _ _ _ done => ⟨done.1, done.2.1, done.2.2.1⟩
    · rintro failure _ _ ⟨-, -, -, excused | ⟨-, file, -, crowded⟩ | ⟨-, denied⟩, -⟩
      · exact excused.elim
      · exact Ledger.not_crowded_of_nobody rfl crowded
      · cases denied
  obtain ⟨u, device₁, mount₁, array₁, later, later', ran, slots₁, shown₁, ⟨spreads₁, healthy₁, same⟩, synced⟩ :=
    parts_cons capacity memory [] (.call .sync) (fun _ => CachedDisk.shows_keeps) ((Request.call .sync).blind_perform) syncs
      shown log log'
  have root₁ : (PartialArray.ofWhole array₁).inode rootSector = .empty true :=
    (same rootSector (by decide) (show rootSector ≠ freeMapSector by decide)).inode.trans root
  have settled := (Request.settles_ensures (show (Request.call .sync).settles = true from rfl) syncs shown
    (PartialArray.describes_ofWhole array)).result log
  rw [ran] at settled
  have device_eq : sectors device₁ = array₁ := settled.eq_overlay.trans shown₁.eq_overlay.symm
  have more₁ : array₁.count < mount₁.capacity := by
    have kept := (spreads.trans spreads₁).count
    rw [PartialArray.count_ofWhole, PartialArray.count_ofWhole] at kept
    rw [kept, slots₁, slots]
    exact more
  obtain ⟨ref, parted⟩ :=
    parts_displacing capacity memory ⟨shown₁, more₁, device_eq⟩ healthy₁ root₁ some_byte small later later'
  refine ⟨ref, fun last either => ?_⟩
  obtain ⟨stays, differs⟩ := synced _ (parted last either)
  refine ⟨staysOn_format fits fun array' volume' laid _ => ?_, fun same => differs ?_⟩
  · have known := result_of_startPlain plain_started
    rw [begins, laid] at known
    obtain ⟨-, same⟩ := Prod.mk.inj known
    rw [same]
    exact stays
  · unfold session at same
    rw [started, plain_started] at same
    exact (List.cons.inj same).2

/-- A cache that the host has no room for is told of at the beginning, and the plain array needs none. -/
theorem session_cramped (sound : Sound device) (fits : fitsOn (sectors device).count = true)
    (addressed : (sectors device).count ≤ maxVolumeSectors) (cramped : ¬HasRoom memory capacity) (watcher : Watcher)
    (requests : List Request) :
    (cached capacity memory).session watcher .format requests ⟨device, #[]⟩ ≠
      plain.session watcher .format requests ⟨sectors device, #[]⟩ := by
  have wide : 2 < (sectors device).count := of_decide_eq_true fits
  obtain ⟨mount, device', log, formatted⟩ :=
    exists_format sound wide addressed (show HasRoom hostMemory 1 by decide) #[]
  have laid := layOut_ensures (show fitsOn (PartialArray.ofWhole (sectors device)).count = true by
    rw [PartialArray.count_ofWhole, fits])
  rw [PartialArray.count_ofWhole] at laid
  rw [← show Beginning.format.computation (sectors device).count = layOut from if_pos fits] at laid
  have begun := begin_twins sound (show HasRoom hostMemory 1 by decide) laid #[] #[]
  rw [show ((cached 1 hostMemory).start .format).run ⟨device, #[]⟩ = _ from formatted] at begun
  obtain ⟨log', refused⟩ := Action.run_of_result (format_cramped sound cramped wide #[])
  unfold session
  rw [show ((cached capacity memory).start .format).run ⟨device, #[]⟩ = _ from refused]
  revert begun
  cases (plain.start .format).run ⟨sectors device, #[]⟩ with
  | error failure world => exact fun never => never.elim
  | ok volume world =>
      intro _ same
      have told : Sighting.answer (.error (Mount.refusal capacity) : Except Failure Unit) =
          .answer (.ok () : Except Failure Unit) := (List.cons.inj same).1
      cases told

/-- Sessions on four sectors that do not show the same over every cache: where there are five slots, a sync that
fails leaves the device behind, and so does the drop of a volume of which the root directory is open; and no host
has room for 2⁶⁴ - 1 slots. -/
theorem not_session_transparent :
    (∃ ref source, ∀ last ∈ [[], [.call .sync]],
      StaysOn (sectors (RamDisk.zeroed 4)) .format (.call .sync :: displacing ref source last) ∧
      (cached 5 hostMemory).session always .format (.call .sync :: displacing ref source last) ⟨RamDisk.zeroed 4, #[]⟩ ≠
        plain.session always .format (.call .sync :: displacing ref source last) ⟨sectors (RamDisk.zeroed 4), #[]⟩) ∧
    ∀ memory, (cached 0xffffffffffffffff memory).session whenSettled .format creating ⟨RamDisk.zeroed 4, #[]⟩ ≠
      plain.session whenSettled .format creating ⟨sectors (RamDisk.zeroed 4), #[]⟩ := by
  have count : (sectors (RamDisk.zeroed 4)).count = 4 := Array.size_replicate
  have sound : LawfulDevice.Sound (RamDisk.zeroed 4) := trivial
  have fits : fitsOn (sectors (RamDisk.zeroed 4)).count = true := by rw [count]; rfl
  have addressed : (sectors (RamDisk.zeroed 4)).count ≤ maxVolumeSectors := by rw [count]; decide
  have more : (sectors (RamDisk.zeroed 4)).count < 5 := by rw [count]; decide
  obtain ⟨source, one⟩ : ∃ source : Bytes, source.size = 1 := ⟨Bytes.fill 0x41 1, Bytes.size_fill _ _⟩
  have small : source.size ≤ sectorSize := Nat.le_trans (Nat.le_of_eq one) (by decide)
  obtain ⟨ref, differs⟩ := session_displacing sound fits addressed (show HasRoom hostMemory 5 by decide) more
    (Nat.lt_of_lt_of_eq Nat.one_pos one.symm) small
  exact ⟨⟨ref, source, differs⟩, fun memory =>
    session_cramped sound fits addressed (Mount.not_hasRoom_largest memory) whenSettled creating⟩

end Machine

end Volume

end InodeVolume
