import InodeVolume.Proofs.Volume.Beginning

/-!
# Calls on a volume

Callers work on a volume by `Call`s, and must keep to a discipline: they open and remove only files
that are live, use a file only while they have it open, and leave the fixed files alone as far as the
`Discipline` says. `perform_ensures` says that no permitted call harms a volume.

* **calls** — what each does (`perform`) and how it changes the ledger of its callers (`record`);
* **disciplines** — what each asks for (`Permitted`), and the two disciplines in use;
* **outcomes** — how a permitted call can fail (`Excused`, `MayFail`), and which file it may change (`Touches`).
-/

namespace InodeVolume

namespace Volume

/-! ## Calls -/

/-- What callers ask of a volume. An open file is named by one who has it open. -/
inductive Call : Type → Type where
  | create (length : Nat) (isDir : Bool) : Call SectorId
  | openAt (sector : SectorId) : Call InodeRef
  | openRoot : Call InodeRef
  | reopen (holder : Holder) : Call Unit
  | close (holder : Holder) : Call Unit
  | read (holder : Holder) (buffer : Bytes) (offset : Nat) : Call (Nat × Bytes)
  | write (holder : Holder) (source : Bytes) (offset : Nat) : Call Nat
  | stat (holder : Holder) : Call Stat
  | denyWrite (holder : Holder) : Call Unit
  | allowWrite (holder : Holder) : Call Unit
  | discard (holder : Holder) : Call Unit
  | remove (sector : SectorId) : Call Unit
  | sync : Call Unit

/-- Which files may be removed, which may be written to, and of which writing may be denied. -/
structure Discipline where
  removable : SectorId → Prop
  writable : SectorId → Prop
  deniable : SectorId → Prop

namespace Discipline

/-- The free map's file is not removed. -/
def lenient : Discipline := ⟨(· ≠ freeMapSector), fun _ => True, fun _ => True⟩

/-- Any file is removed, and that of the free map is not written to. -/
def heedless : Discipline := ⟨fun _ => True, (· ≠ freeMapSector), fun _ => True⟩

/-- Anything may be done to any file. -/
def reckless : Discipline := ⟨fun _ => True, fun _ => True, fun _ => True⟩

/-- Neither fixed file is removed, and that of the free map is left alone. -/
def strict : Discipline :=
  ⟨fun sector => sector ≠ freeMapSector ∧ sector ≠ rootSector, (· ≠ freeMapSector), (· ≠ freeMapSector)⟩

end Discipline

namespace Call

variable {α : Type} {array : PartialArray} {volume : Volume} {ledger : Ledger} {rules : Discipline}

open PartialArray (Same)

/-- Carries a call out. -/
def perform : Call α → SectorM Volume α
  | create length isDir => Volume.create length isDir
  | openAt sector => Files.openAt sector
  | openRoot => Volume.openRoot
  | reopen holder => Files.reopen holder.ref
  | close holder => Files.close holder.ref
  | read holder buffer offset => Files.readInto holder.ref buffer offset
  | write holder source offset => Files.write holder.ref source offset
  | stat holder => Files.stat holder.ref
  | denyWrite holder => SectorM.perform (Files.onTable (InodeTable.denyWrite holder.ref))
  | allowWrite holder => SectorM.perform (Files.onTable (InodeTable.allowWrite holder.ref))
  | discard holder => SectorM.perform (Files.onTable (InodeTable.remove holder.ref))
  | remove sector => Volume.remove sector
  | sync => Volume.sync

/-- What callers know after a call. A denial counts also where it faults. -/
def record (ledger : Ledger) : Call α → Except Failure α → Ledger
  | create _ _, .ok sector => ledger.created sector
  | openAt sector, .ok ref => ledger.opened ⟨sector, ref⟩
  | openRoot, .ok ref => ledger.opened ⟨rootSector, ref⟩
  | reopen holder, .ok _ => ledger.opened holder
  | close holder, .ok _ => ledger.closed holder
  | denyWrite holder, _ => ledger.deny holder.sector
  | discard holder, .ok _ => ledger.doom holder.sector
  | remove sector, .ok _ => ledger.removed sector
  | _, _ => ledger

/-- What callers must keep to. -/
def Permitted (rules : Discipline) (ledger : Ledger) : Call α → Prop
  | create _ _ | sync => True
  | openAt sector => ledger.Live sector
  | openRoot => ledger.Live rootSector
  | reopen holder | close holder | read holder _ _ | stat holder | allowWrite holder =>
    holder ∈ ledger.holders
  | write holder _ _ => holder ∈ ledger.holders ∧ rules.writable holder.sector
  | denyWrite holder => holder ∈ ledger.holders ∧ rules.deniable holder.sector
  | discard holder => holder ∈ ledger.holders ∧ rules.removable holder.sector
  | remove sector => ledger.Live sector ∧ rules.removable sector

/-- Failures that are told to callers, or that come from denying and allowing out of turn. -/
def Excused : Call α → Failure → Prop
  | create _ _, failure => failure = .reported .noSpace ∨ failure = .reported .outOfRange
  | denyWrite _, failure => failure = .fault (.broken .denialsCovered) ∨ failure = .fault .overflow
  | allowWrite _, failure =>
    failure = .fault (.broken .someDenial) ∨ failure = .fault (.broken .denialsCovered)
  | _, _ => False

/-- Which file a call opens, for its caller or for itself. -/
def Opens : Call α → SectorId → Prop
  | openAt sector, file | remove sector, file => file = sector
  | openRoot, file => file = rootSector
  | reopen holder, file => file = holder.sector
  | sync, file => file = freeMapSector
  | _, _ => False

/-- How a permitted call can fail. A file that is crowded is not opened, and storing the free map fails where
writing to its file is denied. -/
def MayFail (ledger : Ledger) (call : Call α) (failure : Failure) : Prop :=
  call.Excused failure ∨ (failure = .fault .overflow ∧ ∃ file, call.Opens file ∧ ledger.Crowded file) ∨
    (failure = .fault (.broken .sameLength) ∧ freeMapSector ∈ ledger.denied)

/-- Which file a call may change, of those that are there. -/
def Touches : Call α → SectorId → Prop
  | write holder _ _, file => file = holder.sector
  | sync, file => file = freeMapSector
  | _, _ => False

/-! ## Permitted calls -/

theorem record_of_opens {call : Call α} {file : SectorId} (opens : call.Opens file) (failure : Failure) :
    call.record ledger (.error failure) = ledger := by
  cases call with
  | denyWrite _ => exact opens.elim
  | _ => rfl

/-- A call that cannot open its file changes nothing. -/
theorem crowded_ensures {file : SectorId} {call : Call α} {failure : Failure} {array' : PartialArray} {volume' : Volume}
    (healthy : Healthy array volume ledger) (opens : call.Opens file)
    (failed : failure = .fault .overflow ∧ ledger.Crowded file ∧ array' = array ∧ volume' = volume) :
    Healthy array' volume' (call.record ledger (.error failure)) ∧
      (∀ other ∈ ledger.files, ¬call.Touches other → Same array array' other) ∧
      call.MayFail ledger failure ∧ Spared array array' volume'.space := by
  obtain ⟨rfl, crowded, rfl, rfl⟩ := failed
  rw [record_of_opens opens]
  exact ⟨healthy, fun _ _ _ => .refl _ _, .inr (.inl ⟨rfl, file, opens, crowded⟩), .refl⟩

/-- No permitted call harms a volume. It stays healthy for what callers then know, whether or not the
call fails; the failures are those that are told; and files that it does not touch are as they were. -/
theorem perform_ensures (healthy : Healthy array volume ledger)
    (keeps : ∀ sector, rules.removable sector → sector ≠ freeMapSector) (call : Call α)
    (permitted : call.Permitted rules ledger) :
    call.perform.Ensures array volume
      (fun a array' volume' => Healthy array' volume' (call.record ledger (.ok a)) ∧
        (∀ other ∈ ledger.files, ¬call.Touches other → Same array array' other) ∧ Spared array array' volume'.space)
      fun failure array' volume' => Healthy array' volume' (call.record ledger (.error failure)) ∧
        (∀ other ∈ ledger.files, ¬call.Touches other → Same array array' other) ∧
        call.MayFail ledger failure ∧ Spared array array' volume'.space := by
  have sane := healthy.sane
  cases call with
  | create length isDir =>
      refine (create_ensures healthy length isDir).mono ?_ ?_
      · rintro sector array' volume' ⟨-, healthy', -, -, -, -, same, -, -, spared⟩
        exact ⟨healthy', fun other listed _ => same other listed, spared⟩
      · rintro failure array' volume' ⟨why, healthy', same, spared, -⟩
        exact ⟨healthy', fun other listed _ => same other listed, .inl why, spared⟩
  | openAt sector =>
      refine (Files.openAt_ensures sane permitted).mono ?_ fun _ _ _ => crowded_ensures healthy rfl
      rintro ref array volume' ⟨rfl, -, sane'⟩
      exact ⟨healthy.of_table sane' healthy.live, fun _ _ _ => .refl _ _, .refl⟩
  | openRoot =>
      refine (Files.openAt_ensures sane permitted).mono ?_ fun _ _ _ => crowded_ensures healthy rfl
      rintro ref array volume' ⟨rfl, -, sane'⟩
      exact ⟨healthy.of_table sane' healthy.live, fun _ _ _ => .refl _ _, .refl⟩
  | reopen holder =>
      refine (Files.reopen_ensures sane permitted).mono ?_ fun _ _ _ => crowded_ensures healthy rfl
      rintro _ array volume' ⟨rfl, -, sane'⟩
      exact ⟨healthy.of_table sane' healthy.live, fun _ _ _ => .refl _ _, .refl⟩
  | close holder =>
      refine (close_ensures healthy permitted).mono ?_ fun _ _ _ failed => failed.elim
      rintro _ array volume' ⟨rfl, healthy', -⟩
      exact ⟨healthy', fun _ _ _ => .refl _ _, .refl⟩
  | read holder buffer offset =>
      refine (Files.readInto_ensures sane permitted buffer offset).mono ?_ fun _ _ _ failed => failed.elim
      rintro _ array volume ⟨rfl, rfl, -⟩
      exact ⟨healthy, fun _ _ _ => .refl _ _, .refl⟩
  | write holder source offset =>
      have here := permitted.1
      refine (Files.write_ensures sane here source offset).mono ?_ fun _ _ _ failed => failed.elim
      intro n array' volume' outcome
      split at outcome
      · obtain ⟨-, rfl, rfl⟩ := outcome
        exact ⟨healthy, fun _ _ _ => .refl _ _, .refl⟩
      · obtain ⟨table, wrote⟩ := outcome
        exact ⟨healthy.of_sane (wrote.sane sane table) healthy.live wrote.spreads (wrote.length_le healthy.live.1),
          fun other listed apart => wrote.others other listed apart, .of_frame wrote.spared⟩
  | stat holder =>
      refine (Files.stat_ensures sane permitted).mono ?_ fun _ _ _ failed => failed.elim
      rintro _ array volume ⟨rfl, rfl, -⟩
      exact ⟨healthy, fun _ _ _ => .refl _ _, .refl⟩
  | denyWrite holder =>
      refine (Files.denyWrite_ensures sane permitted.1).mono ?_ ?_
      · rintro _ array volume' ⟨rfl, -, sane'⟩
        exact ⟨healthy.of_table sane' healthy.live, fun _ _ _ => .refl _ _, .refl⟩
      · rintro failure array volume' ⟨why, rfl, -, sane'⟩
        exact ⟨healthy.of_table sane' healthy.live, fun _ _ _ => .refl _ _, .inl why, .refl⟩
  | allowWrite holder =>
      refine (Files.allowWrite_ensures sane permitted).mono ?_ ?_
      · rintro _ array volume' ⟨rfl, -, sane'⟩
        exact ⟨healthy.of_table sane' healthy.live, fun _ _ _ => .refl _ _, .refl⟩
      · rintro failure array volume ⟨why, rfl, rfl⟩
        exact ⟨healthy, fun _ _ _ => .refl _ _, .inl why, .refl⟩
  | discard holder =>
      refine (Files.remove_ensures sane permitted.1).mono ?_ fun _ _ _ failed => failed.elim
      rintro _ array volume' ⟨rfl, -, sane'⟩
      refine ⟨healthy.of_table sane' ⟨healthy.live.1, ?_⟩, fun _ _ _ => .refl _ _, .refl⟩
      intro doomed
      rcases List.mem_cons.mp doomed with same | before
      · exact keeps _ permitted.2 same.symm
      · exact healthy.live.2 before
  | remove sector =>
      refine (remove_ensures healthy permitted.1 (keeps sector permitted.2)).mono ?_
        fun _ _ _ => crowded_ensures healthy rfl
      rintro _ array volume' ⟨rfl, healthy', -⟩
      exact ⟨healthy', fun _ _ _ => .refl _ _, .refl⟩
  | sync =>
      show SectorM.Ensures (storeFreeMap >>= fun _ => SectorM.syncStore) array volume _ _
      rw [SectorM.ensures_bind]
      refine (storeFreeMap_ensures healthy).mono ?_ ?_
      · rintro _ array' volume' ⟨healthy', space, -, -, -, -, same, spared⟩
        exact SectorM.ensures_syncStore.mpr ⟨healthy', fun other listed apart => same other listed apart,
          .of_frame (space ▸ spared)⟩
      · rintro failure array volume' ⟨refused, rfl, healthy'⟩
        refine ⟨healthy', fun _ _ _ => .refl _ _, .inr ?_, .refl⟩
        exact refused.imp_left fun full => ⟨full.1, freeMapSector, rfl, full.2⟩

/-- A permitted call that would open a crowded file faults, and changes nothing. -/
theorem perform_crowded (healthy : Healthy array volume ledger) (call : Call α)
    (permitted : call.Permitted rules ledger) {file : SectorId} (opens : call.Opens file) (crowded : ledger.Crowded file) :
    call.perform.Ensures array volume (fun _ _ _ => False)
      fun failure array' volume' => failure = .fault .overflow ∧ array' = array ∧ volume' = volume := by
  have tended := healthy.sane.tended
  have openAt_crowded : ledger.Live file → (Files.openAt file : SectorM Volume InodeRef).Ensures array volume
      (fun _ _ _ => False)
      fun failure array' volume' => failure = .fault .overflow ∧ array' = array ∧ volume' = volume :=
    fun live => tended.openAt_crowded live.1 (fun doomed => absurd doomed live.2) crowded
  cases call with
  | openAt sector =>
      cases opens
      exact openAt_crowded permitted
  | openRoot =>
      cases opens
      exact openAt_crowded permitted
  | reopen holder =>
      cases opens
      exact tended.reopen_crowded permitted crowded
  | remove sector =>
      cases opens
      exact SectorM.ensures_bind.mpr ((openAt_crowded permitted.1).mono (fun _ _ _ opened => opened.elim)
        fun _ _ _ failed => failed)
  | sync =>
      cases opens
      exact SectorM.ensures_bind.mpr ((storeFreeMap_crowded healthy crowded).mono (fun _ _ _ stored => stored.elim)
        fun _ _ _ failed => failed)
  | create _ _ | close _ | read _ _ _ | write _ _ _ | stat _ | denyWrite _ | allowWrite _ | discard _ =>
      exact opens.elim

/-! ## The strict discipline -/

/-- The root directory is live, and nobody had writing to the free map's file denied. -/
def Guarded (ledger : Ledger) : Prop := ledger.Live rootSector ∧ freeMapSector ∉ ledger.denied

/-- The strict discipline guards the fixed files. -/
theorem guarded_record (guarded : Guarded ledger) (call : Call α) (permitted : call.Permitted .strict ledger)
    (result : Except Failure α) : Guarded (call.record ledger result) := by
  obtain ⟨⟨listed, spared⟩, free⟩ := guarded
  have denied : ∀ holder : Holder, holder.sector ≠ freeMapSector → Guarded (ledger.deny holder.sector) := by
    intro holder different
    refine ⟨⟨listed, spared⟩, fun there => ?_⟩
    rcases List.mem_cons.mp there with same | before
    · exact different same.symm
    · exact free before
  cases call with
  | create length isDir =>
      cases result with
      | ok sector => exact ⟨⟨List.mem_cons_of_mem _ listed, spared⟩, free⟩
      | error failure => exact ⟨⟨listed, spared⟩, free⟩
  | close holder =>
      cases result with
      | ok _ =>
          show Guarded (ledger.closed holder)
          by_cases same : rootSector = holder.sector
          · rw [Ledger.closed_of_not_doomed (same ▸ spared)]
            exact ⟨⟨listed, spared⟩, free⟩
          · refine ⟨⟨(Ledger.mem_files_closed same).mpr listed, fun doomed =>
              spared ((Ledger.mem_doomed_closed same).mp doomed)⟩, ?_⟩
            rw [Ledger.denied_closed]
            exact free
      | error failure => exact ⟨⟨listed, spared⟩, free⟩
  | denyWrite holder =>
      cases result with
      | ok _ => exact denied holder permitted.2
      | error failure => exact denied holder permitted.2
  | discard holder =>
      cases result with
      | ok _ =>
          refine ⟨⟨listed, fun doomed => ?_⟩, free⟩
          rcases List.mem_cons.mp doomed with same | before
          · exact permitted.2.2 same.symm
          · exact spared before
      | error failure => exact ⟨⟨listed, spared⟩, free⟩
  | remove sector =>
      cases result with
      | ok _ =>
          have different : rootSector ≠ sector := Ne.symm permitted.2.2
          refine ⟨⟨(Ledger.mem_files_removed different).mpr listed, fun doomed =>
            spared ((Ledger.mem_doomed_removed different).mp doomed)⟩, ?_⟩
          show freeMapSector ∉ (ledger.removed sector).denied
          unfold Ledger.removed
          split <;> exact free
      | error failure => exact ⟨⟨listed, spared⟩, free⟩
  | openAt _ | openRoot | reopen _ | read _ _ _ | write _ _ _ | stat _ | allowWrite _ | sync =>
      cases result <;> exact ⟨⟨listed, spared⟩, free⟩

end Call

end Volume

end InodeVolume
