import InodeVolume.Proofs.Ensures

/-!
# Computations that do not look at the log

A `Blind` computation ends alike and changes its state alike whatever the log holds. So do all that a
volume does, and what two runs do in common does not depend on what their caches write to the log.

* **rules** — one per way of building an action or a computation;
* **twins** — `Blind.twins`: one computation runs over two stores of which the same is known, and ends
  alike over both. `Keeps` says what must hold of a store and the array it stands for;
* **volumes** — one lemma per function, up to those that begin and end a volume.

Computations that neither sync nor shut down their store are told apart: `closing` is `False` for them.
-/

namespace InodeVolume

/-! ## Actions -/

namespace Action

variable {σ τ α β : Type}

/-- What an action ends with, apart from the log. -/
def result (act : Action σ α) (s : σ) (log : Array Event) : Except Failure α × σ :=
  match act.run ⟨s, log⟩ with
  | .ok a after => (.ok a, after.state)
  | .error failure after => (.error failure, after.state)

/-- Anything but a refusal of a host, of which only devices tell. -/
def Own (told : Except Failure α) : Prop := ∀ refusal, told ≠ .error (.fault (.host refusal))

theorem Own.error {failure : Failure} (own : Own (.error failure : Except Failure α)) :
    Own (.error failure : Except Failure β) := by
  intro refusal same
  exact own refusal (by rw [Except.error.inj same])

/-- Whatever the log holds, the action ends alike, and the result is its own. -/
def Blind (act : Action σ α) : Prop :=
  ∀ s, ∃ told after, (∀ log, act.result s log = (told, after)) ∧ Own told

namespace Blind

theorem pure {a : α} : (pure a : Action σ α).Blind := fun s => ⟨.ok a, s, fun _ => rfl, nofun⟩

theorem report {error : Error} : (report error : Action σ α).Blind := fun s => ⟨_, s, fun _ => rfl, nofun⟩

theorem fault {why : Fault} (own : ∀ refusal, why ≠ .host refusal) : (fault why : Action σ α).Blind :=
  fun s => ⟨.error (.fault why), s, fun _ => rfl, fun refusal same =>
    own refusal (Failure.fault.inj (Except.error.inj same))⟩

theorem get : (get : Action σ σ).Blind := fun s => ⟨.ok s, s, fun _ => rfl, nofun⟩

theorem set {s : σ} : (set s : Action σ PUnit).Blind := fun _ => ⟨.ok ⟨⟩, s, fun _ => rfl, nofun⟩

theorem modifyGet {f : σ → α × σ} : (modifyGet f : Action σ α).Blind :=
  fun s => ⟨.ok (f s).1, (f s).2, fun _ => rfl, nofun⟩

theorem modify {f : σ → σ} : (modify f : Action σ PUnit).Blind := fun s => ⟨.ok ⟨⟩, f s, fun _ => rfl, nofun⟩

theorem emit {event : Event} : (emit event : Action σ Unit).Blind := fun s => ⟨.ok (), s, fun _ => rfl, nofun⟩

theorem ite {p : Prop} [Decidable p] {yes no : Action σ α} (first : yes.Blind) (second : no.Blind) :
    (if p then yes else no).Blind := by
  split
  · exact first
  · exact second

theorem require {kept : Bool} {rule : Rule} : (require kept rule : Action σ Unit).Blind := .ite .pure (.fault nofun)

theorem checkedAdd {a b : Nat} : (checkedAdd a b : Action σ Nat).Blind := .ite .pure (.fault nofun)

theorem checkedMul {a b : Nat} : (checkedMul a b : Action σ Nat).Blind := .ite .pure (.fault nofun)

theorem checkedNext {counter : UInt32} : (checkedNext counter : Action σ UInt32).Blind := .ite .pure (.fault nofun)

end Blind

theorem result_bind (act : Action σ β) (next : β → Action σ α) (s : σ) (log : Array Event) :
    ∃ log', (act >>= next).result s log =
      match act.result s log with
      | (.ok b, after) => (next b).result after log'
      | (.error failure, after) => (.error failure, after) := by
  unfold result
  rw [run_bind]
  cases act.run ⟨s, log⟩ with
  | ok b after => exact ⟨after.log, rfl⟩
  | error failure after => exact ⟨log, rfl⟩

theorem Blind.bind {act : Action σ β} {next : β → Action σ α} (first : act.Blind)
    (rest : ∀ b, (next b).Blind) : (act >>= next).Blind := by
  intro s
  obtain ⟨told, after, same, own⟩ := first s
  cases told with
  | ok b =>
      obtain ⟨told', after', same', own'⟩ := rest b after
      refine ⟨told', after', fun log => ?_, own'⟩
      obtain ⟨log', ran⟩ := result_bind act next s log
      rw [ran, same]
      exact same' log'
  | error failure =>
      refine ⟨.error failure, after, fun log => ?_, own.error⟩
      obtain ⟨log', ran⟩ := result_bind act next s log
      rw [ran, same]

theorem result_attempt (act : Action σ α) (s : σ) (log : Array Event) :
    act.attempt.result s log =
      match act.result s log with
      | (.ok a, after) => (.ok (.ok a), after)
      | (.error (.reported error), after) => (.ok (.error error), after)
      | (.error (.fault why), after) => (.error (.fault why), after) := by
  simp only [result, attempt, run]
  cases act ⟨s, log⟩ with
  | ok a after => rfl
  | error failure after => cases failure <;> rfl

theorem Blind.attempt {act : Action σ α} (blind : act.Blind) : act.attempt.Blind := by
  intro s
  obtain ⟨told, after, same, own⟩ := blind s
  match told, own with
  | .ok a, own => exact ⟨.ok (.ok a), after, fun log => by rw [result_attempt, same], nofun⟩
  | .error (.reported error), own =>
      exact ⟨.ok (.error error), after, fun log => by rw [result_attempt, same], nofun⟩
  | .error (.fault why), own =>
      exact ⟨.error (.fault why), after, fun log => by rw [result_attempt, same], own.error⟩

theorem result_within (split : σ → τ × (τ → σ)) (act : Action τ α) (s : σ) (log : Array Event) :
    (act.within split).result s log =
      ((act.result (split s).1 log).1, (split s).2 (act.result (split s).1 log).2) := by
  simp only [result, within, run]
  cases act ⟨(split s).1, log⟩ <;> rfl

theorem Blind.within {split : σ → τ × (τ → σ)} {act : Action τ α} (blind : act.Blind) :
    (act.within split).Blind := by
  intro s
  obtain ⟨told, after, same, own⟩ := blind (split s).1
  exact ⟨told, (split s).2 after, fun log => by rw [result_within, same], own⟩

/-- What is ensured of an action is true of its result. -/
theorem Ensures.result {act : Action σ α} {s : σ} {good : α → σ → Prop} {bad : Failure → σ → Prop}
    (ensured : act.Ensures s good bad) (log : Array Event) :
    match act.result s log with
    | (.ok a, after) => good a after
    | (.error failure, after) => bad failure after := by
  have here := ensured log
  revert here
  unfold Action.result
  cases act.run ⟨s, log⟩ with
  | ok a after => exact id
  | error failure after => exact id

/-- The run behind a result. -/
theorem run_of_result {act : Action σ α} {s after : σ} {log : Array Event} {told : Except Failure α}
    (ended : act.result s log = (told, after)) :
    ∃ log', act.run ⟨s, log⟩ = match told with
      | .ok a => .ok a ⟨after, log'⟩
      | .error failure => .error failure ⟨after, log'⟩ := by
  unfold result at ended
  cases ran : act.run ⟨s, log⟩ with
  | ok a world =>
      rw [ran] at ended
      obtain ⟨rfl, rfl⟩ := Prod.mk.inj ended
      exact ⟨world.log, rfl⟩
  | error failure world =>
      rw [ran] at ended
      obtain ⟨rfl, rfl⟩ := Prod.mk.inj ended
      exact ⟨world.log, rfl⟩

theorem Ensures.result_ends {act : Action σ α} {s : σ} {good : α → σ → Prop}
    (ensured : act.Ensures s good fun _ _ => False) (log : Array Event) :
    ∃ a after, act.result s log = (.ok a, after) ∧ good a after := by
  obtain ⟨a, after, log', ended, done⟩ := ensured.ends log
  refine ⟨a, after, ?_, done⟩
  unfold Action.result
  rw [ended]

/-- A request to the first of two states that cannot fail is followed by the rest. -/
theorem Ensures.result_onFst_bind {act : Action σ β} {s : σ} {good : β → σ → Prop}
    (ensured : act.Ensures s good fun _ _ => False) (next : β → Action (σ × τ) α) (t : τ) (log : Array Event) :
    ∃ b after log', (act.onFst >>= next).result (s, t) log = (next b).result (after, t) log' ∧ good b after := by
  obtain ⟨b, after, ended, done⟩ := ensured.result_ends log
  obtain ⟨log', ran⟩ := result_bind act.onFst next (s, t) log
  rw [onFst, result_within] at ran
  dsimp only at ran
  rw [ended] at ran
  exact ⟨b, after, log', ran, done⟩

end Action

/-! ## Computations -/

namespace SectorM

variable {σ τ α β : Type} {closing : Prop}

/-- No action of the computation looks at the log, and the store is synced or shut down only where
`closing` holds. -/
inductive Blind (closing : Prop) : SectorM σ α → Prop where
  | done (a : α) : Blind closing (done a)
  | act {β : Type} {step : Action σ β} {next : β → SectorM σ α} (blind : step.Blind)
      (rest : ∀ b, Blind closing (next b)) : Blind closing (act step next)
  | read {sector : SectorId} {offset length : Nat} {next : Block length → SectorM σ α}
      (rest : ∀ block, Blind closing (next block)) : Blind closing (read sector offset length next)
  | write {sector : SectorId} {offset : Nat} {bytes : Bytes} {next : Unit → SectorM σ α}
      (rest : Blind closing (next ())) : Blind closing (write sector offset bytes next)
  | sync {next : Unit → SectorM σ α} (closes : closing) (rest : Blind closing (next ())) :
      Blind closing (sync next)
  | shutdown {next : Unit → SectorM σ α} (closes : closing) (rest : Blind closing (next ())) :
      Blind closing (shutdown next)

theorem Blind.pure {a : α} : (pure a : SectorM σ α).Blind closing := .done a

theorem Blind.bind {first : SectorM σ β} {next : β → SectorM σ α} (blind : first.Blind closing)
    (rest : ∀ b, (next b).Blind closing) : (first >>= next).Blind closing := by
  show (first.bind next).Blind closing
  induction blind with
  | done b => exact rest b
  | act here _ ih => exact .act here ih
  | read _ ih => exact .read ih
  | write _ ih => exact .write ih
  | sync closes _ ih => exact .sync closes ih
  | shutdown closes _ ih => exact .shutdown closes ih

theorem Blind.perform {step : Action σ α} (blind : step.Blind) : (perform step).Blind closing :=
  .act blind .done

theorem Blind.get : (get : SectorM σ σ).Blind closing := Blind.perform Action.Blind.get

theorem Blind.modifyGet {f : σ → α × σ} : (modifyGet f : SectorM σ α).Blind closing :=
  Blind.perform Action.Blind.modifyGet

theorem Blind.modify {f : σ → σ} : (modify f : SectorM σ PUnit).Blind closing :=
  Blind.perform Action.Blind.modify

theorem Blind.emit {event : Event} : (emit event : SectorM σ Unit).Blind closing :=
  Blind.perform Action.Blind.emit

theorem Blind.report {error : Error} : (report error : SectorM σ α).Blind closing :=
  Blind.perform Action.Blind.report

theorem Blind.fault {why : Fault} (own : ∀ refusal, why ≠ .host refusal) :
    (fault why : SectorM σ α).Blind closing := .perform (.fault own)

theorem Blind.require {kept : Bool} {rule : Rule} : (require kept rule : SectorM σ Unit).Blind closing :=
  Blind.perform Action.Blind.require

theorem Blind.readAt {sector : SectorId} {offset length : Nat} :
    (readAt sector offset length : SectorM σ (Block length)).Blind closing := .read .done

theorem Blind.writeAt {sector : SectorId} {offset : Nat} {bytes : Bytes} :
    (writeAt sector offset bytes : SectorM σ Unit).Blind closing := .write (.done ())

theorem Blind.syncStore (closes : closing) : (syncStore : SectorM σ Unit).Blind closing :=
  .sync closes (.done ())

theorem Blind.shutdownStore (closes : closing) : (shutdownStore : SectorM σ Unit).Blind closing :=
  .shutdown closes (.done ())

theorem Blind.ite {p : Prop} [Decidable p] {yes no : SectorM σ α} (first : yes.Blind closing)
    (second : no.Blind closing) : (if p then yes else no).Blind closing := by
  split
  · exact first
  · exact second

theorem Blind.dite {p : Prop} [Decidable p] {yes : p → SectorM σ α} {no : ¬p → SectorM σ α}
    (first : ∀ h, (yes h).Blind closing) (second : ∀ h, (no h).Blind closing) :
    (if h : p then yes h else no h).Blind closing := by
  split
  · exact first _
  · exact second _

theorem Blind.forM {list : List β} {step : β → SectorM σ PUnit} (each : ∀ b, (step b).Blind closing) :
    (list.forM step).Blind closing := by
  induction list with
  | nil => exact .done _
  | cons b rest ih => exact Blind.bind (each b) fun _ => ih

theorem Blind.attempt {computation : SectorM σ α} (blind : computation.Blind closing) :
    computation.attempt.Blind closing := by
  induction blind with
  | done a => exact .done _
  | act here _ ih =>
      rw [SectorM.attempt]
      refine .act (Action.Blind.attempt here) fun given => ?_
      cases given with
      | ok b => exact ih b
      | error error => exact .done _
  | read _ ih => exact .read ih
  | write _ ih => exact .write ih
  | sync closes _ ih => exact .sync closes ih
  | shutdown closes _ ih => exact .shutdown closes ih

theorem hoist_bind (carry : {γ : Type} → Action σ γ → Action τ γ) (x : SectorM σ α) (f : α → SectorM σ β) :
    (x >>= f).hoist carry = x.hoist carry >>= fun a => (f a).hoist carry := by
  show (x.bind f).hoist carry = (x.hoist carry).bind fun a => (f a).hoist carry
  induction x with
  | done a => rfl
  | act step next ih => exact congrArg (act (carry step)) (funext ih)
  | read sector offset length next ih => exact congrArg (read sector offset length) (funext ih)
  | write sector offset bytes next ih => exact congrArg (write sector offset bytes) (funext ih)
  | sync next ih => exact congrArg sync (funext ih)
  | shutdown next ih => exact congrArg shutdown (funext ih)

theorem Blind.hoist {carry : {γ : Type} → Action σ γ → Action τ γ}
    (carries : ∀ {γ : Type} (act : Action σ γ), act.Blind → (carry act).Blind) {computation : SectorM σ α}
    (blind : computation.Blind closing) : (computation.hoist carry).Blind closing := by
  induction blind with
  | done a => exact .done a
  | act here _ ih => exact .act (carries _ here) ih
  | read _ ih => exact .read ih
  | write _ ih => exact .write ih
  | sync closes _ ih => exact .sync closes ih
  | shutdown closes _ ih => exact .shutdown closes ih

end SectorM

/-! ## Twins -/

/-- A relation between stores and the arrays they stand for that reading and writing keep, and, where
`closing` holds, syncing and shutting down as well. -/
structure Keeps {S : Type} [SectorStore S] (Stands : S → SectorArray → Prop) (closing : Prop) : Prop where
  read {store : S} {array : SectorArray} {sector : SectorId} {offset length : Nat} :
    Stands store array → ∀ fits : offset + length ≤ sectorSize, sector ∈ array →
      (SectorStore.read sector offset length).Ensures store
        (fun block after => block = (array.get sector).slice offset length fits ∧ Stands after array)
        fun _ _ => False
  write {store : S} {array : SectorArray} {sector : SectorId} {offset : Nat} {bytes : Bytes} :
    Stands store array → ∀ fits : offset + bytes.size ≤ sectorSize, sector ∈ array →
      (SectorStore.write sector offset bytes).Ensures store
        (fun _ after => Stands after (array.set sector ((array.get sector).splice offset bytes fits)))
        fun _ _ => False
  sync {store : S} {array : SectorArray} : closing → Stands store array →
    SectorStore.sync.Ensures store (fun _ after => Stands after array) fun _ _ => False
  shutdown {store : S} {array : SectorArray} : closing → Stands store array →
    SectorStore.shutdown.Ensures store (fun _ after => Stands after array) fun _ _ => False

theorem LawfulStore.keeps {S : Type} [SectorStore S] [LawfulStore S] {closing : Prop} :
    Keeps (LawfulStore.Shows : S → SectorArray → Prop) closing where
  read := LawfulStore.read
  write := LawfulStore.write
  sync _ := LawfulStore.sync
  shutdown _ := LawfulStore.shutdown

/-- A plain array stands for itself. -/
theorem SectorArray.keeps {closing : Prop} : Keeps (Eq : SectorArray → SectorArray → Prop) closing where
  read := by
    intro store array sector offset length same fits inside
    subst same
    show Action.Ensures (SectorArray.read sector offset length) _ _ _
    unfold SectorArray.read
    rw [dif_pos fits]
    refine .bind (Action.ensures_get.mpr ?_)
    rw [getElem?_of_mem inside]
    exact Action.ensures_pure.mpr ⟨rfl, rfl⟩
  write := by
    intro store array sector offset bytes same fits inside
    subst same
    show Action.Ensures (SectorArray.write sector offset bytes) _ _ _
    unfold SectorArray.write
    rw [dif_pos fits]
    refine .bind (Action.ensures_get.mpr ?_)
    rw [getElem?_of_mem inside]
    exact Action.ensures_modify.mpr rfl
  sync _ same := Action.ensures_pure.mpr same
  shutdown _ same := Action.ensures_pure.mpr same

namespace SectorM

variable {σ α S₁ S₂ : Type} [SectorStore S₁] [SectorStore S₂] {stands₁ : S₁ → SectorArray → Prop}
  {stands₂ : S₂ → SectorArray → Prop} {store₁ : S₁} {store₂ : S₂} {array : PartialArray} {closing : Prop}

/-- What the array tells is true of two stores. -/
structure Shared (stands₁ : S₁ → SectorArray → Prop) (stands₂ : S₂ → SectorArray → Prop) (array : PartialArray)
    (store₁ : S₁) (store₂ : S₂) : Prop where
  first : ∃ whole, stands₁ store₁ whole ∧ array.Describes whole
  second : ∃ whole, stands₂ store₂ whole ∧ array.Describes whole

/-- **Twins.** A computation that does not look at the log and reads only what is known of two stores
gives the same result over both, leaves the same state, and leaves stores of which the same is known. -/
theorem Blind.twins {computation : SectorM σ α} {s : σ} {good : α → PartialArray → σ → Prop}
    {bad : Failure → PartialArray → σ → Prop} (keeps₁ : Keeps stands₁ closing) (keeps₂ : Keeps stands₂ closing)
    (blind : computation.Blind closing) (ensured : computation.Ensures array s good bad)
    (shared : Shared stands₁ stands₂ array store₁ store₂) (log₁ log₂ : Array Event) :
    ∃ told s' store₁' store₂' array', computation.run.result (store₁, s) log₁ = (told, (store₁', s')) ∧
      computation.run.result (store₂, s) log₂ = (told, (store₂', s')) ∧
      Shared stands₁ stands₂ array' store₁' store₂' ∧ Action.Own told ∧
      match told with
      | .ok a => good a array' s'
      | .error failure => bad failure array' s' := by
  induction blind generalizing array store₁ store₂ s log₁ log₂ with
  | done a => exact ⟨.ok a, s, store₁, store₂, array, rfl, rfl, shared, nofun, ensured⟩
  | @act β step next blind _ ih =>
      rw [run_act, run_act]
      obtain ⟨later₁, ran₁⟩ := Action.result_bind step.onSnd (fun b => (next b).run) (store₁, s) log₁
      obtain ⟨later₂, ran₂⟩ := Action.result_bind step.onSnd (fun b => (next b).run) (store₂, s) log₂
      have here := Action.Ensures.result ensured log₁
      obtain ⟨told, after, same, own⟩ := blind s
      rw [ran₁, ran₂, Action.onSnd, Action.onSnd, Action.result_within, Action.result_within]
      dsimp only
      rw [same] at here
      rw [same, same]
      cases told with
      | ok b => exact ih b here shared later₁ later₂
      | error failure =>
          exact ⟨.error failure, after, store₁, store₂, array, rfl, rfl, shared,
            own.error, here⟩
  | @read sector offset length next _ ih =>
      obtain ⟨fits, inside, rest⟩ := ensured
      obtain ⟨⟨whole₁, stood₁, describes₁⟩, ⟨whole₂, stood₂, describes₂⟩⟩ := shared
      rw [run_read, run_read]
      obtain ⟨_, after₁, later₁, ran₁, rfl, stands₁'⟩ := Action.Ensures.result_onFst_bind
        (keeps₁.read stood₁ fits (describes₁.mem inside)) (fun block => (next block).run) s log₁
      obtain ⟨_, after₂, later₂, ran₂, rfl, stands₂'⟩ := Action.Ensures.result_onFst_bind
        (keeps₂.read stood₂ fits (describes₂.mem inside)) (fun block => (next block).run) s log₂
      rw [ran₁, ran₂, ← describes₁.get inside, ← describes₂.get inside]
      exact ih _ rest ⟨⟨whole₁, stands₁', describes₁⟩, ⟨whole₂, stands₂', describes₂⟩⟩ later₁ later₂
  | @write sector offset bytes next _ ih =>
      obtain ⟨fits, takes, rest⟩ := ensured
      obtain ⟨⟨whole₁, stood₁, describes₁⟩, ⟨whole₂, stood₂, describes₂⟩⟩ := shared
      have has := takes.has
      rw [run_write, run_write]
      obtain ⟨_, after₁, later₁, ran₁, stands₁'⟩ := Action.Ensures.result_onFst_bind
        (keeps₁.write stood₁ fits (describes₁.has_iff.mp has)) (fun u => (next u).run) s log₁
      obtain ⟨_, after₂, later₂, ran₂, stands₂'⟩ := Action.Ensures.result_onFst_bind
        (keeps₂.write stood₂ fits (describes₂.has_iff.mp has)) (fun u => (next u).run) s log₂
      rw [takes.splice_eq describes₁] at stands₁'
      rw [takes.splice_eq describes₂] at stands₂'
      rw [ran₁, ran₂]
      exact ih rest ⟨⟨_, stands₁', describes₁.set has⟩, ⟨_, stands₂', describes₂.set has⟩⟩ later₁ later₂
  | @sync next closes _ ih =>
      obtain ⟨⟨whole₁, stood₁, describes₁⟩, ⟨whole₂, stood₂, describes₂⟩⟩ := shared
      rw [run_sync, run_sync]
      obtain ⟨_, after₁, later₁, ran₁, stands₁'⟩ := Action.Ensures.result_onFst_bind
        (keeps₁.sync closes stood₁) (fun u => (next u).run) s log₁
      obtain ⟨_, after₂, later₂, ran₂, stands₂'⟩ := Action.Ensures.result_onFst_bind
        (keeps₂.sync closes stood₂) (fun u => (next u).run) s log₂
      rw [ran₁, ran₂]
      exact ih ensured ⟨⟨_, stands₁', describes₁⟩, ⟨_, stands₂', describes₂⟩⟩ later₁ later₂
  | @shutdown next closes _ ih =>
      obtain ⟨⟨whole₁, stood₁, describes₁⟩, ⟨whole₂, stood₂, describes₂⟩⟩ := shared
      rw [run_shutdown, run_shutdown]
      obtain ⟨_, after₁, later₁, ran₁, stands₁'⟩ := Action.Ensures.result_onFst_bind
        (keeps₁.shutdown closes stood₁) (fun u => (next u).run) s log₁
      obtain ⟨_, after₂, later₂, ran₂, stands₂'⟩ := Action.Ensures.result_onFst_bind
        (keeps₂.shutdown closes stood₂) (fun u => (next u).run) s log₂
      rw [ran₁, ran₂]
      exact ih ensured ⟨⟨_, stands₁', describes₁⟩, ⟨_, stands₂', describes₂⟩⟩ later₁ later₂

section Plain

variable {computation : SectorM σ α} {s : σ} {whole : SectorArray} {good : α → PartialArray → σ → Prop}
  {bad : Failure → PartialArray → σ → Prop}

/-- A store that stands for a whole array and the array itself are twins. -/
theorem Blind.twins_plain (keeps : Keeps stands₁ closing) (blind : computation.Blind closing)
    (ensured : computation.Ensures (.ofWhole whole) s good bad) (stood : stands₁ store₁ whole) (log₁ log₂ : Array Event) :
    ∃ told s' store' whole', computation.run.result (store₁, s) log₁ = (told, (store', s')) ∧
      computation.run.result (whole, s) log₂ = (told, (whole', s')) ∧ stands₁ store' whole' ∧ Action.Own told ∧
      match told with
      | .ok a => good a (.ofWhole whole') s'
      | .error failure => bad failure (.ofWhole whole') s' := by
  obtain ⟨told, s', store', _, array', one, two, ⟨⟨whole', stood', first⟩, ⟨_, rfl, second⟩⟩, own, done⟩ :=
    blind.twins keeps SectorArray.keeps ensured.spreads
      ⟨⟨whole, stood, PartialArray.describes_ofWhole whole⟩, ⟨whole, rfl, PartialArray.describes_ofWhole whole⟩⟩ log₁ log₂
  have spreads : (PartialArray.ofWhole whole).Spreads array' := by
    cases told with
    | ok a => exact done.1
    | error failure => exact done.1
  -- all sectors were known, so both arrays are the one that is known
  obtain rfl := first.eq_ofWhole spreads
  obtain rfl := PartialArray.ofWhole_injective (second.eq_ofWhole spreads)
  refine ⟨told, s', store', whole', one, two, stood', own, ?_⟩
  cases told with
  | ok a => exact done.2
  | error failure => exact done.2

/-- Over a plain array it is all the same what the log holds. -/
theorem Blind.result_plain (blind : computation.Blind closing)
    (ensured : computation.Ensures (.ofWhole whole) s good bad) (log log' : Array Event) :
    computation.run.result (whole, s) log = computation.run.result (whole, s) log' := by
  obtain ⟨told, s', whole', _, one, two, rfl, -⟩ := blind.twins_plain SectorArray.keeps ensured rfl log log'
  rw [one, two]

end Plain

end SectorM

end InodeVolume
