import InodeVolume.Proofs.Volume.Lifecycle
import InodeVolume.Proofs.Volume.Noninterference
import InodeVolume.Proofs.Volume.ReadWrite
import InodeVolume.Proofs.Volume.Redenied

/-!
# Denying writes

All who have a file open share one inode and its two counters: how many there are, and how many of them
deny writing. Who denies is not written down anywhere. Here it is: an `Opening` is one opening of a file, and
says whether it denies writing at the moment. Nobody is let in whom the counter cannot count, and a denial that
its opener was counted for can be counted too.

Callers who share a volume are `Sharing` it when each opening denies at most once at a time, and allows
again before it is closed. Beside their world stands another, in which the same is asked for but nobody ever
denies writing, and nobody asks for what a denial would refuse.

* **openings** — `denials` and `openers` of a file, as openings come and go;
* **steps** — `Matched`: the counters agree with the openings, and the two worlds show the same sectors and
  the same free map. Every step keeps it;
* **runs** — `Sharing.governed`: what a denial does, and that nothing is left of it when it is taken back.
-/

namespace InodeVolume

/-! ## Openings -/

/-- One opening of a file, and whether it denies writing. -/
structure Opening where
  holder : Holder
  denies : Bool
deriving DecidableEq

section Openings

variable {openings : List Opening} {opening : Opening} {holder : Holder} {sector : SectorId}

/-- How many openings deny writing to a file. -/
def denials (openings : List Opening) (sector : SectorId) : Nat :=
  openings.countP fun opening => opening.holder.sector = sector && opening.denies

/-- How many openings there are on a file. -/
def openers (openings : List Opening) (sector : SectorId) : Nat :=
  openings.countP fun opening => opening.holder.sector = sector

@[simp] theorem denials_nil : denials [] sector = 0 := rfl

theorem denials_cons : denials (opening :: openings) sector =
    denials openings sector + if opening.holder.sector = sector ∧ opening.denies then 1 else 0 := by
  simp [denials, List.countP_cons]

theorem denials_eq_erase (here : opening ∈ openings) :
    denials openings sector = denials (opening :: openings.erase opening) sector :=
  (List.perm_cons_erase here).countP_eq _

theorem denials_opened : denials (⟨holder, false⟩ :: openings) sector = denials openings sector := by
  simp [denials_cons]

theorem denials_closed (here : opening ∈ openings) (allows : opening.denies = false) :
    denials (openings.erase opening) sector = denials openings sector := by
  rw [denials_eq_erase here, denials_cons]
  simp [allows]

theorem denials_denied (here : opening ∈ openings) (allows : opening.denies = false) :
    denials (⟨opening.holder, true⟩ :: openings.erase opening) sector =
      denials openings sector + if opening.holder.sector = sector then 1 else 0 := by
  rw [denials_cons, denials_closed here allows]
  simp

theorem denials_allowed (here : opening ∈ openings) (denies : opening.denies = true) :
    denials openings sector = denials (⟨opening.holder, false⟩ :: openings.erase opening) sector +
      if opening.holder.sector = sector then 1 else 0 := by
  rw [denials_opened, denials_eq_erase here, denials_cons]
  simp [denies]

/-- There are no denials of a file that nobody has open. -/
theorem denials_eq_zero (nobody : ∀ opening ∈ openings, opening.holder.sector ≠ sector) :
    denials openings sector = 0 := by
  refine List.countP_eq_zero.mpr fun opening here => ?_
  simp [nobody opening here]

theorem denials_le_openers : denials openings sector ≤ openers openings sector := by
  refine List.countP_mono_left fun opening _ denies => ?_
  simp_all

/-- Who does not deny is one more opener. -/
theorem denials_lt_openers (here : opening ∈ openings) (allows : opening.denies = false) :
    denials openings opening.holder.sector < openers openings opening.holder.sector := by
  have more : openers openings opening.holder.sector = openers (openings.erase opening) opening.holder.sector + 1 := by
    rw [openers, (List.perm_cons_erase here).countP_eq]
    simp [openers]
  calc denials openings opening.holder.sector
      = denials (openings.erase opening) opening.holder.sector := (denials_closed here allows).symm
    _ ≤ openers (openings.erase opening) opening.holder.sector := denials_le_openers
    _ < openers openings opening.holder.sector := by omega

end Openings

/-! ## Counting -/

namespace InodeTable

variable {table : InodeTable} {ref : InodeRef}

/-- A denial that is covered by an opener is counted. -/
theorem result_denyWrite (known : ref.index < table.inodes.size)
    (covered : (table.inode ref).denyCount < (table.inode ref).openCount) (log : Array Event) :
    ∃ denials : UInt32, denials.toNat = (table.inode ref).denyCount + 1 ∧
      (denyWrite ref).result table log = (.ok (), table.update ref fun inode => { inode with denials }) := by
  have room : (table.inode ref).denyCount + 1 < UInt32.size :=
    Nat.lt_of_le_of_lt covered (UInt32.toNat_lt_size _)
  have next : ((table.inode ref).denials + 1).toNat = (table.inode ref).denyCount + 1 := toNat_next room
  refine ⟨_, next, ?_⟩
  have raised : (table.update ref fun inode => { inode with denials := (table.inode ref).denials + 1 }).inode ref =
      { table.inode ref with denials := (table.inode ref).denials + 1 } := by
    rw [inode_update known, if_pos rfl]
  show Action.result (Action.checkedNext (table.inode ref).denials >>= _) _ _ = _
  unfold Action.checkedNext
  rw [if_pos (show (table.inode ref).denials.toNat + 1 < UInt32.size from room)]
  show Action.result (Action.require (decide (OpenInode.denyCount
    ((table.update ref fun inode => { inode with denials := (table.inode ref).denials + 1 }).inode ref) ≤ _)) _) _ _ = _
  rw [raised]
  show Action.result (Action.require (decide (((table.inode ref).denials + 1).toNat ≤ (table.inode ref).openCount)) _) _ _ = _
  rw [next, decide_eq_true (show (table.inode ref).denyCount + 1 ≤ (table.inode ref).openCount from covered)]
  rfl

/-- A denial that was counted is taken back. -/
theorem result_allowWrite (denied : 0 < (table.inode ref).denyCount)
    (covered : (table.inode ref).denyCount ≤ (table.inode ref).openCount) (log : Array Event) :
    (allowWrite ref).result table log =
      (.ok (), table.update ref fun inode => { inode with denials := inode.denials - 1 }) := by
  show Action.result (Action.require (decide (0 < (table.inode ref).denyCount)) _ >>= fun _ =>
    Action.require (decide ((table.inode ref).denyCount ≤ (table.inode ref).openCount)) _ >>= fun _ => modify _) _ _ = _
  rw [decide_eq_true denied, decide_eq_true covered]
  rfl

end InodeTable

namespace Mount

variable {D α : Type} [BlockDevice D] {device : D} {mount : Mount FreeMap} {log : Array Event}

/-- An action on the table of a mount. -/
theorem result_onTable (act : Action InodeTable α) :
    (run (SectorM.perform (Files.onTable act))).result (device, mount) log =
      ((act.result mount.files.table log).1,
        (device, ⟨mount.cache, ⟨(act.result mount.files.table log).2, mount.files.space⟩⟩)) := by
  rw [result_run, SectorM.run_perform, Action.onSnd, Action.result_within, Files.onTable, Action.result_within]
  rfl

/-- **A write that is denied** gives 0, and nothing is changed by it. -/
theorem run_write_denied {ref : InodeRef} (denied : 0 < (mount.files.table.inode ref).denyCount) (source : Bytes)
    (offset : Nat) :
    (run (Files.write ref source offset)).run ⟨(device, mount), log⟩ = .ok 0 ⟨(device, mount), log⟩ := by
  obtain ⟨cache, files⟩ := mount
  have ends : (Files.write ref source offset : SectorM Volume Nat).run
      ⟨((⟨device, cache⟩ : CachedDisk D _), files), log⟩ = .ok 0 ⟨((⟨device, cache⟩ : CachedDisk D _), files), log⟩ := by
    show SectorM.run (if (decide (0 < (files.table.inode ref).denyCount) || decide (source.size = 0)) = true
      then _ else _) _ = _
    rw [decide_eq_true denied, Bool.true_or, if_pos rfl]
    rfl
  rw [Action.run, run, ends]

end Mount

namespace Volume.Call

variable {α : Type} {ledger : Ledger} {rules : Discipline}

/-- Whether a call is about how a file is open: those that open and close it, and that deny and allow. -/
def Reopens : Call α → Prop
  | openAt _ | openRoot | reopen _ | close _ | denyWrite _ | allowWrite _ => True
  | _ => False

/-- Whoever opens or closes a file changes none. -/
theorem not_touches_of_reopens {call : Call α} (reopens : call.Reopens) (file : SectorId) : ¬call.Touches file := by
  cases call with
  | write _ _ _ | sync => exact reopens.elim
  | _ => exact id

theorem not_redenies_of_opens {call : Call α} {file : SectorId} (opens : call.Opens file) : ¬call.Redenies := by
  cases call with
  | denyWrite _ | allowWrite _ => exact opens.elim
  | _ => exact id

theorem reopens_of_redenies (call : Call α) (redenies : call.Redenies) : call.Reopens := by
  cases call with
  | denyWrite _ | allowWrite _ => trivial
  | _ => exact redenies.elim

/-- Other calls leave all holders alone. -/
theorem holders_record (call : Call α) (other : ¬call.Reopens) (told : Except Failure α) :
    (call.record ledger told).holders = ledger.holders := by
  cases call with
  | openAt _ | openRoot | reopen _ | close _ | denyWrite _ | allowWrite _ => exact absurd trivial other
  | remove sector =>
      cases told with
      | ok _ =>
          show (ledger.removed sector).holders = ledger.holders
          unfold Ledger.removed
          split <;> rfl
      | error failure => rfl
  | create _ _ | read _ _ _ | write _ _ _ | stat _ | discard _ | sync => cases told <;> rfl

/-- What was denied is not asked about before a call, and makes no difference to what else callers know after it. -/
theorem record_denied (call : Call α) (denied : List SectorId) (told : Except Failure α) :
    ∃ denied', call.record { ledger with denied } told = { call.record ledger told with denied := denied' } := by
  cases call with
  | close holder =>
      cases told with
      | ok _ =>
          refine ⟨denied, ?_⟩
          show Ledger.closed holder { ledger with denied } = { ledger.closed holder with denied }
          unfold Ledger.closed
          dsimp only
          split <;> rfl
      | error failure => exact ⟨denied, rfl⟩
  | remove sector =>
      cases told with
      | ok _ =>
          refine ⟨denied, ?_⟩
          show Ledger.removed sector { ledger with denied } = { ledger.removed sector with denied }
          unfold Ledger.removed
          dsimp only
          split <;> rfl
      | error failure => exact ⟨denied, rfl⟩
  | create _ _ | openAt _ | openRoot | reopen _ | read _ _ _ | write _ _ _ | stat _ | denyWrite _ | allowWrite _
  | discard _ | sync =>
      cases told <;> exact ⟨_, rfl⟩

theorem permitted_denied (call : Call α) (denied : List SectorId) :
    call.Permitted rules { ledger with denied } ↔ call.Permitted rules ledger := by
  cases call <;> exact Iff.rfl

end Volume.Call

/-! ## Callers who share a volume -/

namespace World

variable {D α : Type} [BlockDevice D]

open Volume (Call Discipline Redenied initialLedger)

/-- What a run ends with is what it tells, and the world it leaves. -/
theorem after_of_result {world : World D} {call : Call α} {log : Array Event} {told : Except Failure α} {device : D}
    {mount : Mount FreeMap}
    (ended : (Mount.run call.perform).result (world.device, world.mount) log = (told, (device, mount))) :
    world.after call log = ⟨device, mount, call.record world.ledger told⟩ := by
  obtain ⟨log', ran⟩ := Action.run_of_result ended
  unfold World.after World.run
  rw [ran]
  cases told <;> rfl

variable [LawfulDevice D]

/-- Worlds in which callers share a volume, each opening denying writing at most once at a time and allowing it
again before it is closed. Whoever would open a file that is crowded is turned away. The free map is not stored
while writing to its file is denied. Beside each stands
the world of the same callers without the denials and without the writes that these refused. -/
inductive Sharing : World D → World D → List Opening → Prop where
  | start {world : World D} (reached : world.Reachable .lenient) (nobody : world.ledger.holders = []) :
      Sharing world world []
  | openAt {world plain : World D} {openings : List Opening} (sharing : Sharing world plain openings)
      {sector : SectorId} (live : world.ledger.Live sector) {log : Array Event} {ref : InodeRef}
      (told : world.told (Files.openAt sector) log = .ok ref) (log' : Array Event) :
      Sharing (world.after (.openAt sector) log) (plain.after (.openAt sector) log')
        (⟨⟨sector, ref⟩, false⟩ :: openings)
  | reopen {world plain : World D} {openings : List Opening} (sharing : Sharing world plain openings)
      {opening : Opening} (here : opening ∈ openings) {log : Array Event}
      (told : world.told (Files.reopen opening.holder.ref) log = .ok ()) (log' : Array Event) :
      Sharing (world.after (.reopen opening.holder) log) (plain.after (.reopen opening.holder) log')
        (⟨opening.holder, false⟩ :: openings)
  | full {world plain : World D} {openings : List Opening} {α : Type} (sharing : Sharing world plain openings)
      {call : Call α} (permitted : call.Permitted .lenient world.ledger) (reopens : call.Reopens) {file : SectorId}
      (opens : call.Opens file) (crowded : world.ledger.Crowded file) (log log' : Array Event) :
      Sharing (world.after call log) (plain.after call log') openings
  | close {world plain : World D} {openings : List Opening} (sharing : Sharing world plain openings)
      {opening : Opening} (here : opening ∈ openings) (allows : opening.denies = false) (log log' : Array Event) :
      Sharing (world.after (.close opening.holder) log) (plain.after (.close opening.holder) log')
        (openings.erase opening)
  | denyWrite {world plain : World D} {openings : List Opening} (sharing : Sharing world plain openings)
      {opening : Opening} (here : opening ∈ openings) (allows : opening.denies = false) (log : Array Event) :
      Sharing (world.after (.denyWrite opening.holder) log) plain (⟨opening.holder, true⟩ :: openings.erase opening)
  | allowWrite {world plain : World D} {openings : List Opening} (sharing : Sharing world plain openings)
      {opening : Opening} (here : opening ∈ openings) (denies : opening.denies = true) (log : Array Event) :
      Sharing (world.after (.allowWrite opening.holder) log) plain (⟨opening.holder, false⟩ :: openings.erase opening)
  | refused {world plain : World D} {openings : List Opening} (sharing : Sharing world plain openings)
      {opening : Opening} (here : opening ∈ openings) (denied : 0 < denials openings opening.holder.sector)
      (source : Bytes) (offset : Nat) (log : Array Event) :
      Sharing (world.after (.write opening.holder source offset) log) plain openings
  | call {world plain : World D} {openings : List Opening} {α : Type} (sharing : Sharing world plain openings)
      (call : Call α) (permitted : call.Permitted .lenient world.ledger) (other : ¬call.Reopens)
      (allowed : ∀ file, call.Touches file → denials openings file = 0) (log log' : Array Event) :
      Sharing (world.after call log) (plain.after call log') openings

variable {first second : InodeRef → UInt32} {world plain : World D} {openings : List Opening}
  {opening : Opening}

/-- What cannot fail over a plain array tells a value. -/
theorem Sane.tells {computation : SectorM Volume α} {good : α → PartialArray → Volume → Prop} (sane : world.Sane)
    (ensured : computation.Ensures world.sectors world.mount.files good fun _ _ _ => False) (log : Array Event) :
    ∃ a, world.told computation log = .ok a := by
  obtain ⟨a, device, mount, log', array, ended, -⟩ := Mount.run_ends ensured sane.shown log
  exact ⟨a, by rw [World.told, Action.result, ended]⟩

/-- What is told is as it is ensured over a plain array. -/
theorem Sane.told {computation : SectorM Volume α} {good : α → PartialArray → Volume → Prop}
    {bad : Failure → PartialArray → Volume → Prop} (sane : world.Sane)
    (ensured : computation.Ensures world.sectors world.mount.files good bad) (log : Array Event) :
    match world.told computation log with
    | .ok a => ∃ array volume, good a array volume
    | .error failure => ∃ array volume, bad failure array volume := by
  have ran := Mount.run_ensures ensured sane.shown log
  unfold World.told Action.result
  revert ran
  cases (Mount.run computation).run ⟨(world.device, world.mount), log⟩ with
  | ok a after => exact fun ⟨array, _, done⟩ => ⟨_, _, done⟩
  | error failure after => exact fun ⟨array, _, failed⟩ => ⟨_, _, failed⟩

/-- Two worlds show the same sectors and the same free map, and the same files are open in both. Only in the
first is writing denied, by those openings that say so. -/
structure Matched (first second : InodeRef → UInt32) (world plain : World D) (openings : List Opening) : Prop where
  sane : world.Sane
  sane' : plain.Sane
  sectors : plain.sectors = world.sectors
  ledger : ∃ denied, plain.ledger = { world.ledger with denied }
  volumes : Redenied first second world.mount.files plain.mount.files
  held : world.ledger.holders.Perm (openings.map Opening.holder)
  counts : ∀ holder ∈ world.ledger.holders,
    (first holder.ref).toNat = denials openings holder.sector ∧ second holder.ref = 0

namespace Matched

theorem mem_holders (matched : Matched first second world plain openings) (here : opening ∈ openings) :
    opening.holder ∈ world.ledger.holders :=
  matched.held.mem_iff.mpr (List.mem_map_of_mem here)

theorem denyCount (matched : Matched first second world plain openings) (here : opening ∈ openings) :
    (world.mount.files.table.inode opening.holder.ref).denyCount = denials openings opening.holder.sector := by
  rw [OpenInode.denyCount, matched.volumes.table.count, (matched.counts _ (matched.mem_holders here)).1]

theorem openCount (matched : Matched first second world plain openings) (here : opening ∈ openings) :
    (world.mount.files.table.inode opening.holder.ref).openCount = openers openings opening.holder.sector := by
  have kept := matched.sane.healthy.sane.kept
  have there := matched.mem_holders here
  rw [(kept.minds _ there).count, ← kept.holding_eq there, Ledger.holding, matched.held.countP_eq, List.countP_map]
  rfl

/-- One more opening is let in unless the counter is at its end. -/
theorem told_reopen (matched : Matched first second world plain openings) (here : opening ∈ openings)
    (log : Array Event) :
    world.told (Files.reopen opening.holder.ref) log =
      if openers openings opening.holder.sector + 1 < UInt32.size then .ok () else .error (.fault .overflow) := by
  unfold World.told Files.reopen
  rw [Mount.result_onTable, InodeTable.result_reopen, matched.openCount here]
  split <;> rfl

/-- What a call does to both worlds: it tells the same, and leaves the same sectors and the same free map. -/
structure Met (first second : InodeRef → UInt32) (world plain world' plain' : World D) (call : Call α)
    (told : Except Failure α) : Prop where
  sane : world'.Sane
  sane' : plain'.Sane
  sectors : plain'.sectors = world'.sectors
  record : world'.ledger = call.record world.ledger told
  ledger : ∃ denied, plain'.ledger = { world'.ledger with denied }
  volumes : Redenied first second world'.mount.files plain'.mount.files

/-- **A call that no denial refuses** is answered in both worlds alike. -/
theorem meets (matched : Matched first second world plain openings) (call : Call α)
    (permitted : call.Permitted .lenient world.ledger) (other : ¬call.Redenies)
    (allowed : ∀ file, call.Touches file → denials openings file = 0) (log log' : Array Event) :
    ∃ told, world.told call.perform log = told ∧ plain.told call.perform log' = told ∧
      Met first second world plain (world.after call log) (plain.after call log') call told := by
  obtain ⟨denied, known⟩ := matched.ledger
  have permitted' : call.Permitted .lenient plain.ledger := by
    rw [known]
    exact (call.permitted_denied denied).mpr permitted
  have even : ∀ file ref, call.Touches file → world.mount.files.table.find? file = some ref →
      ((first ref).toNat = 0 ↔ (second ref).toNat = 0) := by
    intro file ref touches listed
    have there : ⟨file, ref⟩ ∈ world.ledger.holders := (matched.sane.healthy.sane.kept.listed ⟨file, ref⟩).mp listed
    obtain ⟨count, none⟩ := matched.counts _ there
    rw [count, none, allowed file touches]
    exact iff_of_true rfl rfl
  -- each world answers as the plain array that it shows, and both show the same one
  have ensured := call.perform_ensures matched.sane.healthy lenient_keeps permitted
  have ensured' := call.perform_ensures matched.sane'.healthy lenient_keeps permitted'
  obtain ⟨told, device, mount, array, ran, plainly, -, shown, -⟩ :=
    Mount.run_twins (fun _ => CachedDisk.shows_keeps) (call.blind_perform trivial) ensured matched.sane.shown log #[]
  obtain ⟨told', device', mount', array', ran', plainly', -, shown', -⟩ :=
    Mount.run_twins (fun _ => CachedDisk.shows_keeps) (call.blind_perform trivial) ensured' matched.sane'.shown log' #[]
  have joined := call.joined matched.sane.healthy matched.volumes permitted other even #[] #[]
  have same : (plain.mount.disk plain.device).overlay = (world.mount.disk world.device).overlay :=
    PartialArray.ofWhole_injective matched.sectors
  rw [same] at plainly'
  rw [plainly, plainly'] at joined
  obtain ⟨rfl, rfl, volumes⟩ := joined
  have after := after_of_result ran
  have after' := after_of_result ran'
  have sane := (matched.sane.after lenient_keeps call permitted log).1
  have sane' := (matched.sane'.after lenient_keeps call permitted' log').1
  obtain ⟨denied', recorded⟩ : ∃ denied', call.record { world.ledger with denied } told = _ :=
    call.record_denied denied told
  rw [after] at sane ⊢
  rw [after'] at sane' ⊢
  refine ⟨told, by rw [World.told, ran], by rw [World.told, ran'], sane, sane', ?_, rfl, ⟨denied', ?_⟩, volumes⟩
  · show mount'.sectors device' = mount.sectors device
    rw [Mount.sectors_eq shown, Mount.sectors_eq shown']
  · show call.record plain.ledger told = _
    rw [known, recorded]

/-! ### Steps -/

/-- There is one more opening of a file, and those who deny writing to it are as many as before. -/
theorem opened (matched : Matched first second world plain openings) {call : Call α} {told : Except Failure α}
    {world' plain' : World D} {holder : Holder} (met : Met first second world plain world' plain' call told)
    (one : (call.record world.ledger told).holders = holder :: world.ledger.holders)
    (counted : (first holder.ref).toNat = denials openings holder.sector ∧ second holder.ref = 0) :
    Matched first second world' plain' (⟨holder, false⟩ :: openings) := by
  rw [← met.record] at one
  refine ⟨met.sane, met.sane', met.sectors, met.ledger, met.volumes, ?_, ?_⟩
  · rw [one]
    exact matched.held.cons holder
  · intro other there
    rw [one] at there
    rw [denials_opened]
    rcases List.mem_cons.mp there with rfl | before
    · exact counted
    · exact matched.counts other before

/-- A live file is opened: its inode is there already, or it is new and nobody denies writing to it. -/
theorem openAt (matched : Matched first second world plain openings) {sector : SectorId}
    (live : world.ledger.Live sector) {log : Array Event} {ref : InodeRef}
    (told : world.told (Files.openAt sector) log = .ok ref) (log' : Array Event) :
    Matched first second (world.after (.openAt sector) log) (plain.after (.openAt sector) log')
      (⟨⟨sector, ref⟩, false⟩ :: openings) := by
  have kept := matched.sane.healthy.sane.kept
  obtain ⟨_, same, -, met⟩ := matched.meets (.openAt sector) live id (fun _ touches => touches.elim) log log'
  obtain rfl := same.symm.trans told
  have tells := matched.sane.told (Volume.openAt_tells matched.sane.healthy live) log
  rw [told] at tells
  obtain ⟨_, _, tells⟩ := tells
  refine matched.opened met rfl ?_
  -- a listed inode is open already, and then its denials are counted; a new one has none
  rcases tells with listed | ⟨absent, unknown⟩
  · exact matched.counts _ ((kept.listed ⟨sector, ref⟩).mp listed)
  · obtain ⟨none, none'⟩ := matched.volumes.table.none_of_unknown unknown
    have nobody : ∀ opening ∈ openings, opening.holder.sector ≠ sector := by
      intro opening here same
      have listed := (kept.listed _).mpr (matched.mem_holders here)
      rw [same, absent] at listed
      cases listed
    rw [denials_eq_zero nobody]
    exact ⟨congrArg UInt32.toNat none, none'⟩

theorem reopen (matched : Matched first second world plain openings) (here : opening ∈ openings) {log : Array Event}
    (told : world.told (Files.reopen opening.holder.ref) log = .ok ()) (log' : Array Event) :
    Matched first second (world.after (.reopen opening.holder) log) (plain.after (.reopen opening.holder) log')
      (⟨opening.holder, false⟩ :: openings) := by
  have there := matched.mem_holders here
  obtain ⟨_, same, -, met⟩ := matched.meets (.reopen opening.holder) there id (fun _ touches => touches.elim) log log'
  obtain rfl := same.symm.trans told
  exact matched.opened met rfl (matched.counts _ there)

/-- A call that leaves all holders as they were, and denies and allows nothing. -/
theorem unopened (matched : Matched first second world plain openings) {call : Call α} {told : Except Failure α}
    {world' plain' : World D} (met : Met first second world plain world' plain' call told)
    (alone : (call.record world.ledger told).holders = world.ledger.holders) :
    Matched first second world' plain' openings := by
  rw [← met.record] at alone
  refine ⟨met.sane, met.sane', met.sectors, met.ledger, met.volumes, ?_, ?_⟩
  · rw [alone]
    exact matched.held
  · rw [alone]
    exact matched.counts

/-- Whoever would open a file that is crowded is turned away in both worlds. -/
theorem full (matched : Matched first second world plain openings) {call : Call α}
    (permitted : call.Permitted .lenient world.ledger) (reopens : call.Reopens) {file : SectorId}
    (opens : call.Opens file) (crowded : world.ledger.Crowded file) (log log' : Array Event) :
    Matched first second (world.after call log) (plain.after call log') openings := by
  obtain ⟨told, same, -, met⟩ := matched.meets call permitted (Call.not_redenies_of_opens opens)
    (fun file touches => absurd touches (Call.not_touches_of_reopens reopens file)) log log'
  have refused := matched.sane.told (call.perform_crowded matched.sane.healthy permitted opens crowded) log
  rw [same] at refused
  refine matched.unopened met ?_
  cases told with
  | ok a => exact refused.choose_spec.choose_spec.elim
  | error failure => rw [Call.record_of_opens opens]

theorem close (matched : Matched first second world plain openings) (here : opening ∈ openings)
    (allows : opening.denies = false) (log log' : Array Event) :
    Matched first second (world.after (.close opening.holder) log) (plain.after (.close opening.holder) log')
      (openings.erase opening) := by
  have there := matched.mem_holders here
  obtain ⟨told, same, -, met⟩ := matched.meets (.close opening.holder) there id (fun _ touches => touches.elim) log log'
  obtain ⟨_, ends⟩ := matched.sane.tells (Volume.close_ensures matched.sane.healthy there) log
  obtain rfl := same.symm.trans ends
  have closed : (world.after (.close opening.holder) log).ledger.holders = world.ledger.holders.erase opening.holder :=
    (congrArg Ledger.holders met.record).trans Ledger.holders_closed
  refine ⟨met.sane, met.sane', met.sectors, met.ledger, met.volumes, ?_, ?_⟩
  -- which of several openings of the file is closed makes no difference to its holders
  · have rest := ((List.perm_cons_erase here).map Opening.holder).erase opening.holder
    rw [List.map_cons, List.erase_cons_head] at rest
    rw [closed]
    exact (matched.held.erase _).trans rest
  · intro holder held
    rw [closed] at held
    rw [denials_closed here allows]
    exact matched.counts holder (List.mem_of_mem_erase held)

/-- A call that is not about how files are open. -/
theorem call (matched : Matched first second world plain openings) (call : Call α)
    (permitted : call.Permitted .lenient world.ledger) (other : ¬call.Reopens)
    (allowed : ∀ file, call.Touches file → denials openings file = 0) (log log' : Array Event) :
    Matched first second (world.after call log) (plain.after call log') openings := by
  have leaves : ¬call.Redenies := fun redenies => other (call.reopens_of_redenies redenies)
  obtain ⟨told, -, -, met⟩ := matched.meets call permitted leaves allowed log log'
  exact matched.unopened met (call.holders_record other told)

/-- The count of denials of one file changes as what its openings say does. -/
theorem recount (matched : Matched first second world plain openings) (here : opening ∈ openings)
    (change : UInt32 → UInt32) {denies : Bool} {mount : Mount FreeMap} {denied : List SectorId}
    (changed : mount = ⟨world.mount.cache, ⟨world.mount.files.table.update opening.holder.ref fun inode =>
      { inode with denials := change inode.denials }, world.mount.files.space⟩⟩)
    (counts : ∀ sector, denials (⟨opening.holder, denies⟩ :: openings.erase opening) sector =
      if opening.holder.sector = sector then (change (first opening.holder.ref)).toNat else denials openings sector)
    (sane : Sane (⟨world.device, mount, { world.ledger with denied }⟩ : World D)) :
    Matched (Function.update first opening.holder.ref (change (first opening.holder.ref))) second
      ⟨world.device, mount, { world.ledger with denied }⟩ plain
      (⟨opening.holder, denies⟩ :: openings.erase opening) := by
  subst changed
  have kept := matched.sane.healthy.sane.kept
  have there := matched.mem_holders here
  obtain ⟨denied', known⟩ := matched.ledger
  refine ⟨sane, matched.sane', matched.sectors, ⟨denied', known⟩,
    ⟨matched.volumes.table.recount (kept.known _ there) change, matched.volumes.space⟩, ?_, ?_⟩
  · exact matched.held.trans ((List.perm_cons_erase here).map Opening.holder)
  · intro holder held
    obtain ⟨count, none⟩ := matched.counts holder held
    refine ⟨?_, none⟩
    rw [counts]
    by_cases same : opening.holder.sector = holder.sector
    · obtain rfl := kept.eq_of_sector there held same
      rw [if_pos rfl, Function.update_self]
    · have apart : holder.ref ≠ opening.holder.ref :=
        fun equal => same (congrArg Holder.sector (kept.eq_of_ref held there equal)).symm
      rw [if_neg same, Function.update_of_ne apart, count]

/-- **Denying** is covered, since who denies had not denied before. -/
theorem denyWrite (matched : Matched first second world plain openings) (here : opening ∈ openings)
    (allows : opening.denies = false) (log : Array Event) :
    world.told (Call.denyWrite opening.holder).perform log = .ok () ∧ ∃ first',
      Matched first' second
        (world.after (.denyWrite opening.holder) log) plain (⟨opening.holder, true⟩ :: openings.erase opening) := by
  have there := matched.mem_holders here
  have known := matched.sane.healthy.sane.kept.known _ there
  have covered : (world.mount.files.table.inode opening.holder.ref).denyCount <
      (world.mount.files.table.inode opening.holder.ref).openCount := by
    rw [matched.denyCount here, matched.openCount here]
    exact denials_lt_openers here allows
  have ended : (Mount.run (Call.denyWrite opening.holder).perform).result (world.device, world.mount) log = _ :=
    Mount.result_onTable _
  obtain ⟨count, next, counted⟩ := InodeTable.result_denyWrite known covered log
  rw [counted] at ended
  have sane := (matched.sane.after lenient_keeps (.denyWrite opening.holder) ⟨there, trivial⟩ log).1
  have after := after_of_result ended
  constructor
  · rw [told, ended]
  rw [after] at sane ⊢
  refine ⟨_, matched.recount here (fun _ => count) rfl (fun sector => ?_) sane⟩
  rw [denials_denied here allows, next, matched.denyCount here]
  split
  · rename_i same
    rw [same]
  · rfl

/-- **Allowing** takes a denial back, since who allows had denied. -/
theorem allowWrite (matched : Matched first second world plain openings) (here : opening ∈ openings)
    (denies : opening.denies = true) (log : Array Event) :
    world.told (Call.allowWrite opening.holder).perform log = .ok () ∧ ∃ first',
      Matched first' second
        (world.after (.allowWrite opening.holder) log) plain (⟨opening.holder, false⟩ :: openings.erase opening) := by
  have there := matched.mem_holders here
  have fewer : ∀ sector, denials openings sector = denials (⟨opening.holder, false⟩ :: openings.erase opening) sector +
      if opening.holder.sector = sector then 1 else 0 := fun _ => denials_allowed here denies
  have denied : 0 < (world.mount.files.table.inode opening.holder.ref).denyCount := by
    rw [matched.denyCount here, fewer, if_pos rfl]
    exact Nat.succ_pos _
  have covered : (world.mount.files.table.inode opening.holder.ref).denyCount ≤
      (world.mount.files.table.inode opening.holder.ref).openCount := by
    rw [matched.denyCount here, matched.openCount here]
    exact denials_le_openers
  have ended : (Mount.run (Call.allowWrite opening.holder).perform).result (world.device, world.mount) log = _ :=
    Mount.result_onTable _
  rw [InodeTable.result_allowWrite denied covered] at ended
  have sane := (matched.sane.after lenient_keeps (.allowWrite opening.holder) there log).1
  have after := after_of_result ended
  constructor
  · rw [told, ended]
  rw [after] at sane ⊢
  refine ⟨_, matched.recount here (· - 1) rfl (fun sector => ?_) sane⟩
  have less : (first opening.holder.ref - 1).toNat = denials openings opening.holder.sector - 1 := by
    rw [← matched.denyCount here, ← matched.volumes.table.count]
    exact toNat_previous denied
  rw [less, fewer sector, fewer opening.holder.sector, if_pos rfl]
  split
  · rename_i same
    rw [same]
    rfl
  · rfl

/-- **A write that is denied** gives 0 and leaves the world as it was. -/
theorem refused (matched : Matched first second world plain openings) (here : opening ∈ openings)
    (denied : 0 < denials openings opening.holder.sector) (source : Bytes) (offset : Nat) (log : Array Event) :
    world.run (Files.write opening.holder.ref source offset) log = .ok 0 ⟨(world.device, world.mount), log⟩ ∧
      world.after (.write opening.holder source offset) log = world := by
  rw [← matched.denyCount here] at denied
  have ended : world.run (Files.write opening.holder.ref source offset) log =
      .ok 0 ⟨(world.device, world.mount), log⟩ := Mount.run_write_denied denied source offset
  have called : world.run (Call.write opening.holder source offset).perform log = _ := ended
  refine ⟨ended, ?_⟩
  rw [after_eq called]
  rfl

end Matched

/-! ### Runs -/

/-- The two worlds of callers who share a volume stay matched. -/
theorem Sharing.matched (sharing : Sharing world plain openings) :
    ∃ first second, Matched first second world plain openings := by
  induction sharing with
  | start reached nobody =>
      have sane := reached.sane lenient_keeps
      refine ⟨_, _, sane, sane, rfl, ⟨_, rfl⟩, ⟨.refl _, rfl⟩, ?_, ?_⟩
      · rw [nobody]
        exact .refl _
      · rw [nobody]
        exact fun _ there => absurd there List.not_mem_nil
  | openAt _ live told log' ih =>
      obtain ⟨first, second, matched⟩ := ih
      exact ⟨first, second, matched.openAt live told log'⟩
  | reopen _ here told log' ih =>
      obtain ⟨first, second, matched⟩ := ih
      exact ⟨first, second, matched.reopen here told log'⟩
  | full _ permitted reopens opens crowded log log' ih =>
      obtain ⟨first, second, matched⟩ := ih
      exact ⟨first, second, matched.full permitted reopens opens crowded log log'⟩
  | close _ here allows log log' ih =>
      obtain ⟨first, second, matched⟩ := ih
      exact ⟨first, second, matched.close here allows log log'⟩
  | denyWrite _ here allows log ih =>
      obtain ⟨first, second, matched⟩ := ih
      obtain ⟨first', denied⟩ := (matched.denyWrite here allows log).2
      exact ⟨first', second, denied⟩
  | allowWrite _ here denies log ih =>
      obtain ⟨first, second, matched⟩ := ih
      obtain ⟨first', allowed⟩ := (matched.allowWrite here denies log).2
      exact ⟨first', second, allowed⟩
  | refused _ here denied source offset log ih =>
      obtain ⟨first, second, matched⟩ := ih
      rw [(matched.refused here denied source offset log).2]
      exact ⟨first, second, matched⟩
  | call _ call permitted other allowed log log' ih =>
      obtain ⟨first, second, matched⟩ := ih
      exact ⟨first, second, matched.call call permitted other allowed log log'⟩

/-- What denying and allowing come to for those who have a file open. -/
structure Governed (world plain : World D) (openings : List Opening) (opening : Opening) : Prop where
  /-- No assertion fires when an opening denies that did not, or when one allows that denied. -/
  denies : opening.denies = false → ∀ log, world.told (Call.denyWrite opening.holder).perform log = .ok ()
  allows : opening.denies = true → ∀ log, world.told (Call.allowWrite opening.holder).perform log = .ok ()
  /-- One more is let in unless the counter is at its end. -/
  reopens : ∀ log, world.told (Call.reopen opening.holder).perform log =
    if openers openings opening.holder.sector + 1 < UInt32.size then .ok () else .error (.fault .overflow)
  /-- The counters say how many deny, and how many there are. -/
  denyCount : (world.mount.files.table.inode opening.holder.ref).denyCount = denials openings opening.holder.sector
  openCount : (world.mount.files.table.inode opening.holder.ref).openCount = openers openings opening.holder.sector
  covered : (world.mount.files.table.inode opening.holder.ref).denyCount ≤
    (world.mount.files.table.inode opening.holder.ref).openCount
  /-- While anyone denies, a write gives 0 and changes neither the device nor what is in memory. -/
  refuses : 0 < denials openings opening.holder.sector → ∀ source offset log,
    world.run (Files.write opening.holder.ref source offset) log = .ok 0 ⟨(world.device, world.mount), log⟩
  /-- At any time the sectors and the free map are as if nobody had ever denied writing. -/
  sectors : plain.sectors = world.sectors
  space : plain.mount.files.space = world.mount.files.space
  never : (plain.mount.files.table.inode opening.holder.ref).denyCount = 0
  /-- While nobody denies, a write is carried out, -/
  writes : denials openings opening.holder.sector = 0 → ∀ source offset log, ∃ n device mount log',
    world.run (Files.write opening.holder.ref source offset) log = .ok n ⟨(device, mount), log'⟩ ∧
      world.HasWritten opening.holder source offset log n ⟨device, mount, world.ledger⟩
  /-- and it is answered, and leaves the sectors and the free map, as if nobody ever had. -/
  alike : denials openings opening.holder.sector = 0 → ∀ source offset log log',
    world.told (Files.write opening.holder.ref source offset) log =
        plain.told (Files.write opening.holder.ref source offset) log' ∧
      (world.after (.write opening.holder source offset) log).sectors =
        (plain.after (.write opening.holder source offset) log').sectors ∧
      (world.after (.write opening.holder source offset) log).mount.files.space =
        (plain.after (.write opening.holder source offset) log').mount.files.space

/-- **Denying writes.** However files are opened, closed, denied, allowed, written to and grown, the counters
of a file agree with its openings, a denial stops every write, and nothing is left of it when it is taken back. -/
theorem Sharing.governed (sharing : Sharing world plain openings) (here : opening ∈ openings) :
    Governed world plain openings opening := by
  obtain ⟨first, second, matched⟩ := sharing.matched
  have there := matched.mem_holders here
  refine ⟨fun allows log => (matched.denyWrite here allows log).1,
    fun denies log => (matched.allowWrite here denies log).1, fun log => matched.told_reopen here log,
    matched.denyCount here, matched.openCount here,
    ?_, ?_, matched.sectors, matched.volumes.space, ?_, ?_, ?_⟩
  · rw [matched.denyCount here, matched.openCount here]
    exact denials_le_openers
  · exact fun denied source offset log => (matched.refused here denied source offset log).1
  · rw [OpenInode.denyCount, matched.volumes.table.count', (matched.counts _ there).2]
    rfl
  · intro _ source offset log
    obtain ⟨n, device, mount, log', ended, wrote, -⟩ := matched.sane.writes there source offset log
    exact ⟨n, device, mount, log', ended, wrote⟩
  · intro allowed source offset log log'
    have touched : ∀ file, (Call.write opening.holder source offset).Touches file → denials openings file = 0 := by
      intro file touches
      rw [show file = opening.holder.sector from touches, allowed]
    obtain ⟨told, same, same', met⟩ :=
      matched.meets (.write opening.holder source offset) ⟨there, trivial⟩ id touched log log'
    exact ⟨same.trans same'.symm, met.sectors.symm, met.volumes.space.symm⟩

/-- The root directory of a new volume is opened twice, and one of its openings denies writing. -/
theorem governed_root : ∃ (mount : Mount FreeMap) (device : RamDisk) (log : Array Event) (ref : InodeRef),
    (Volume.format 2).run ⟨RamDisk.zeroed 8, #[]⟩ = .ok mount ⟨device, log⟩ ∧
      let opened := (⟨device, mount, initialLedger⟩ : World RamDisk).after (.openAt rootSector) #[]
      let twice := opened.after (.reopen ⟨rootSector, ref⟩) #[]
      let openings : List Opening := [⟨⟨rootSector, ref⟩, true⟩, ⟨⟨rootSector, ref⟩, false⟩]
      Sharing (twice.after (.denyWrite ⟨rootSector, ref⟩) #[]) twice openings ∧ denials openings rootSector = 1 ∧
        Governed (twice.after (.denyWrite ⟨rootSector, ref⟩) #[]) twice openings ⟨⟨rootSector, ref⟩, false⟩ := by
  obtain ⟨mount, device, log, format, reached⟩ := exists_reachable .lenient
  have live : (⟨device, mount, initialLedger⟩ : World RamDisk).ledger.Live rootSector := by
    simp [Ledger.Live, initialLedger]
  obtain ⟨ref, told⟩ := (reached.sane lenient_keeps).tells
    ((Files.openAt_ensures (reached.sane lenient_keeps).healthy.sane live).mono (fun _ _ _ done => done)
      fun _ _ _ failed => Ledger.not_crowded_of_nobody rfl failed.2.1) #[]
  have once := Sharing.openAt (.start reached rfl) live told #[]
  obtain ⟨first, second, matched⟩ := once.matched
  have again := matched.told_reopen List.mem_cons_self #[]
  rw [if_pos (show openers [⟨⟨rootSector, ref⟩, false⟩] rootSector + 1 < UInt32.size by simp [openers]; decide)] at again
  have twice := once.reopen List.mem_cons_self again #[]
  have denied := twice.denyWrite List.mem_cons_self rfl #[]
  rw [List.erase_cons_head] at denied
  refine ⟨mount, device, log, ref, format, denied, ?_, denied.governed (.tail _ (.head _))⟩
  simp [denials_cons]

end World

end InodeVolume
