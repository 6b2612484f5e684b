import InodeVolume.Proofs.Arrays
import InodeVolume.SectorM

/-!
# What computations ensure

Weakest preconditions for `Action` and `SectorM`. `act.Ensures s good bad` says how `act` ends
from the state `s`, whatever the log holds: with a value and a state that are `good`, or with a
failure and a state that are `bad`. For a computation over a store the sectors are part of the
state, as far as they are known.

* **rules** — one equation per way of building an action or a computation, tagged `simp`, so a
  program's precondition is computed by `simp` and read off;
* **stores** — `LawfulStore` is what a store must keep to be as good as a plain array, and
  `SectorM.Ensures.run` carries everything that is ensured over an array to it.
-/

namespace InodeVolume

/-! ## Actions -/

namespace Action

variable {σ τ α β : Type}

/-- How an action ends from a state, whatever the log holds. -/
def Ensures (act : Action σ α) (s : σ) (good : α → σ → Prop) (bad : Failure → σ → Prop) : Prop :=
  ∀ log, match act.run ⟨s, log⟩ with
    | .ok a after => good a after.state
    | .error failure after => bad failure after.state

section Rules

variable {s : σ} {good good' : α → σ → Prop} {bad bad' : Failure → σ → Prop}

theorem Ensures.mono {act : Action σ α} (ensured : act.Ensures s good bad)
    (fine : ∀ a s, good a s → good' a s) (failed : ∀ f s, bad f s → bad' f s) :
    act.Ensures s good' bad' := by
  intro log
  have here := ensured log
  revert here
  cases act.run ⟨s, log⟩ with
  | ok a after => exact fine a after.state
  | error failure after => exact failed failure after.state

theorem Ensures.and {act : Action σ α} (first : act.Ensures s good bad) (second : act.Ensures s good' bad') :
    act.Ensures s (fun a s => good a s ∧ good' a s) fun f s => bad f s ∧ bad' f s := by
  intro log
  have here := And.intro (first log) (second log)
  revert here
  cases act.run ⟨s, log⟩ with
  | ok a after => exact id
  | error failure after => exact id

/-- The state that an action leaves, whether or not it fails. -/
def after (act : Action σ α) (s : σ) (log : Array Event) : σ :=
  match act.run ⟨s, log⟩ with
  | .ok _ ended => ended.state
  | .error _ ended => ended.state

theorem Ensures.after {act : Action σ α} (ensured : act.Ensures s good bad) (left : σ → Prop)
    (fine : ∀ a s, good a s → left s) (failed : ∀ f s, bad f s → left s) (log : Array Event) :
    left (act.after s log) := by
  have here := ensured log
  unfold Action.after
  revert here
  cases act.run ⟨s, log⟩ with
  | ok a ended => exact fine a ended.state
  | error failure ended => exact failed failure ended.state

/-- An action that cannot fail ends with a value. -/
theorem Ensures.ends {act : Action σ α} (ensured : act.Ensures s good fun _ _ => False)
    (log : Array Event) : ∃ a after log', act.run ⟨s, log⟩ = .ok a ⟨after, log'⟩ ∧ good a after := by
  have here := ensured log
  cases ended : act.run ⟨s, log⟩ with
  | ok a after =>
      rw [ended] at here
      exact ⟨a, after.state, after.log, rfl, here⟩
  | error failure after =>
      rw [ended] at here
      exact here.elim

/-- An action that cannot succeed ends with a failure. -/
theorem Ensures.ends_failing {act : Action σ α} (ensured : act.Ensures s (fun _ _ => False) bad)
    (log : Array Event) : ∃ failure after log', act.run ⟨s, log⟩ = .error failure ⟨after, log'⟩ ∧ bad failure after := by
  have here := ensured log
  cases ended : act.run ⟨s, log⟩ with
  | ok a after =>
      rw [ended] at here
      exact here.elim
  | error failure after =>
      rw [ended] at here
      exact ⟨failure, after.state, after.log, rfl, here⟩

@[simp] theorem ensures_pure {a : α} : (pure a : Action σ α).Ensures s good bad ↔ good a s :=
  ⟨fun h => h #[], fun h _ => h⟩

/-- What comes second is ensured from every state the first can end in. The converse fails: the
second action runs on the log that the first has left, and on no other. -/
theorem Ensures.bind {act : Action σ β} {next : β → Action σ α}
    (ensured : act.Ensures s (fun b s => (next b).Ensures s good bad) bad) :
    (act >>= next).Ensures s good bad := by
  intro log
  have here := ensured log
  rw [run_bind]
  revert here
  cases act.run ⟨s, log⟩ with
  | ok b after => exact fun h => h after.log
  | error failure after => exact fun h => h

@[simp] theorem ensures_throw {failure : Failure} :
    (throw failure : Action σ α).Ensures s good bad ↔ bad failure s :=
  ⟨fun h => h #[], fun h _ => h⟩

@[simp] theorem ensures_report {error : Error} :
    (report error : Action σ α).Ensures s good bad ↔ bad (.reported error) s := ensures_throw

@[simp] theorem ensures_fault {why : Fault} :
    (fault why : Action σ α).Ensures s good bad ↔ bad (.fault why) s := ensures_throw

@[simp] theorem ensures_get {good : σ → σ → Prop} :
    (get : Action σ σ).Ensures s good bad ↔ good s s :=
  ⟨fun h => h #[], fun h _ => h⟩

@[simp] theorem ensures_set {after : σ} {good : PUnit → σ → Prop} :
    (set after : Action σ PUnit).Ensures s good bad ↔ good ⟨⟩ after :=
  ⟨fun h => h #[], fun h _ => h⟩

@[simp] theorem ensures_modifyGet {f : σ → α × σ} :
    (modifyGet f : Action σ α).Ensures s good bad ↔ good (f s).1 (f s).2 :=
  ⟨fun h => h #[], fun h _ => h⟩

@[simp] theorem ensures_modify {f : σ → σ} {good : PUnit → σ → Prop} :
    (modify f : Action σ PUnit).Ensures s good bad ↔ good ⟨⟩ (f s) := ensures_modifyGet

@[simp] theorem ensures_emit {event : Event} {good : Unit → σ → Prop} :
    (emit event : Action σ Unit).Ensures s good bad ↔ good () s :=
  ⟨fun h => h #[], fun h _ => h⟩

@[simp] theorem ensures_require {kept : Bool} {rule : Rule} {good : Unit → σ → Prop} :
    (require kept rule : Action σ Unit).Ensures s good bad ↔
      if kept then good () s else bad (.fault (.broken rule)) s := by
  unfold require
  split
  · exact ensures_pure
  · exact ensures_fault

@[simp] theorem ensures_checkedAdd {a b : Nat} {good : Nat → σ → Prop} :
    (checkedAdd a b : Action σ Nat).Ensures s good bad ↔
      if a + b < wordLimit then good (a + b) s else bad (.fault .overflow) s := by
  unfold checkedAdd
  split
  · exact ensures_pure
  · exact ensures_fault

@[simp] theorem ensures_checkedMul {a b : Nat} {good : Nat → σ → Prop} :
    (checkedMul a b : Action σ Nat).Ensures s good bad ↔
      if a * b < wordLimit then good (a * b) s else bad (.fault .overflow) s := by
  unfold checkedMul
  split
  · exact ensures_pure
  · exact ensures_fault

@[simp] theorem ensures_checkedNext {counter : UInt32} {good : UInt32 → σ → Prop} :
    (checkedNext counter : Action σ UInt32).Ensures s good bad ↔
      if counter.toNat + 1 < UInt32.size then good (counter + 1) s else bad (.fault .overflow) s := by
  unfold checkedNext
  split
  · exact ensures_pure
  · exact ensures_fault

@[simp] theorem ensures_ofExcept {result : Except Failure α} :
    (ofExcept result : Action σ α).Ensures s good bad ↔
      match result with
      | .ok a => good a s
      | .error failure => bad failure s := by
  cases result with
  | ok a => exact ensures_pure
  | error failure => exact ensures_throw

@[simp] theorem ensures_attempt {act : Action σ α} {good : Except Error α → σ → Prop} :
    act.attempt.Ensures s good bad ↔
      act.Ensures s (fun a s => good (.ok a) s) fun failure s =>
        match failure with
        | .reported error => good (.error error) s
        | .fault why => bad (.fault why) s := by
  apply forall_congr'
  intro log
  simp only [run, attempt]
  cases act ⟨s, log⟩ with
  | ok a after => rfl
  | error failure after => cases failure <;> rfl

@[simp] theorem ensures_within {split : σ → τ × (τ → σ)} {act : Action τ α} :
    (act.within split).Ensures s good bad ↔
      act.Ensures (split s).1 (fun a t => good a ((split s).2 t))
        fun failure t => bad failure ((split s).2 t) := by
  apply forall_congr'
  intro log
  simp only [run, within]
  cases act ⟨(split s).1, log⟩ <;> rfl

@[simp] theorem ensures_onFst {act : Action σ α} {t : τ} {good : α → σ × τ → Prop}
    {bad : Failure → σ × τ → Prop} :
    act.onFst.Ensures (s, t) good bad ↔
      act.Ensures s (fun a s => good a (s, t)) fun failure s => bad failure (s, t) :=
  ensures_within

@[simp] theorem ensures_onSnd {act : Action τ α} {t : τ} {good : α → σ × τ → Prop}
    {bad : Failure → σ × τ → Prop} :
    act.onSnd.Ensures (s, t) good bad ↔
      act.Ensures t (fun a t => good a (s, t)) fun failure t => bad failure (s, t) :=
  ensures_within

/-- A loop over a list keeps what each of its turns hands on to the rest. -/
theorem Ensures.forM {step : β → Action σ PUnit} (holds : List β → σ → Prop)
    (turn : ∀ b rest s, holds (b :: rest) s → (step b).Ensures s (fun _ => holds rest) bad)
    {list : List β} (start : holds list s) :
    (list.forM step).Ensures s (fun _ => holds []) bad := by
  induction list generalizing s with
  | nil => exact ensures_pure.mpr start
  | cons b rest ih =>
      show (step b >>= fun _ => rest.forM step).Ensures s _ bad
      exact .bind ((turn b rest s start).mono (fun _ s next => ih next) fun _ _ failed => failed)

end Rules

end Action

/-! ## Computations over a store -/

namespace SectorM

variable {σ τ α β : Type}

/-- How a computation ends from an array of sectors and a state, whatever the log holds. It must
ask only for ranges that lie within a sector of the array, and read only what is known. -/
def Ensures (computation : SectorM σ α) (array : PartialArray) (s : σ)
    (good : α → PartialArray → σ → Prop) (bad : Failure → PartialArray → σ → Prop) : Prop :=
  match computation with
  | done a => good a array s
  | act step next =>
    step.Ensures s (fun b s => (next b).Ensures array s good bad) fun failure s => bad failure array s
  | read sector offset length next =>
    ∃ fits : offset + length ≤ sectorSize, sector ∈ array ∧
      (next ((array.get sector).slice offset length fits)).Ensures array s good bad
  | write sector offset bytes next =>
    ∃ fits : offset + bytes.size ≤ sectorSize, array.Takes sector bytes.size ∧
      (next ()).Ensures (array.set sector ((array.get sector).splice offset bytes fits)) s good bad
  | sync next => (next ()).Ensures array s good bad
  | shutdown next => (next ()).Ensures array s good bad

section Rules

variable {array : PartialArray} {s : σ} {good good' : α → PartialArray → σ → Prop}
  {bad bad' : Failure → PartialArray → σ → Prop}

theorem Ensures.mono {computation : SectorM σ α} (ensured : computation.Ensures array s good bad)
    (fine : ∀ a array s, good a array s → good' a array s)
    (failed : ∀ f array s, bad f array s → bad' f array s) :
    computation.Ensures array s good' bad' := by
  induction computation generalizing array s with
  | done a => exact fine a array s ensured
  | act step next ih =>
      exact Action.Ensures.mono ensured (fun b s h => ih b h) (fun f s => failed f array s)
  | read sector offset length next ih =>
      obtain ⟨fits, inside, rest⟩ := ensured
      exact ⟨fits, inside, ih _ rest⟩
  | write sector offset bytes next ih =>
      obtain ⟨fits, inside, rest⟩ := ensured
      exact ⟨fits, inside, ih _ rest⟩
  | sync next ih => exact ih () ensured
  | shutdown next ih => exact ih () ensured

theorem Ensures.and {computation : SectorM σ α} (first : computation.Ensures array s good bad)
    (second : computation.Ensures array s good' bad') :
    computation.Ensures array s (fun a array s => good a array s ∧ good' a array s)
      fun f array s => bad f array s ∧ bad' f array s := by
  induction computation generalizing array s with
  | done a => exact ⟨first, second⟩
  | act step next ih =>
      exact (Action.Ensures.and first second).mono (fun b s both => ih b both.1 both.2) fun _ _ failed => failed
  | read sector offset length next ih =>
      obtain ⟨fits, inside, rest⟩ := first
      obtain ⟨_, _, rest'⟩ := second
      exact ⟨fits, inside, ih _ rest rest'⟩
  | write sector offset bytes next ih =>
      obtain ⟨fits, takes, rest⟩ := first
      obtain ⟨_, _, rest'⟩ := second
      exact ⟨fits, takes, ih _ rest rest'⟩
  | sync next ih => exact ih () first second
  | shutdown next ih => exact ih () first second

/-- No computation loses a sector. -/
theorem Ensures.spreads {computation : SectorM σ α} (ensured : computation.Ensures array s good bad) :
    computation.Ensures array s (fun a array' s' => array.Spreads array' ∧ good a array' s')
      fun failure array' s' => array.Spreads array' ∧ bad failure array' s' := by
  induction computation generalizing array s with
  | done a => exact ⟨.refl array, ensured⟩
  | act step next ih =>
      exact Action.Ensures.mono ensured (fun b s rest => ih b rest) fun _ _ failed => ⟨.refl array, failed⟩
  | read sector offset length next ih =>
      obtain ⟨fits, inside, rest⟩ := ensured
      exact ⟨fits, inside, ih _ rest⟩
  | write sector offset bytes next ih =>
      obtain ⟨fits, takes, rest⟩ := ensured
      have first : array.Spreads (array.set sector ((array.get sector).splice offset bytes fits)) := .set takes.has
      exact ⟨fits, takes, (ih () rest).mono (fun _ _ _ done => ⟨first.trans done.1, done.2⟩)
        fun _ _ _ failed => ⟨first.trans failed.1, failed.2⟩⟩
  | sync next ih => exact ih () ensured
  | shutdown next ih => exact ih () ensured

@[simp] theorem ensures_pure {a : α} :
    (pure a : SectorM σ α).Ensures array s good bad ↔ good a array s := Iff.rfl

@[simp] theorem ensures_bind {first : SectorM σ β} {next : β → SectorM σ α} :
    (first >>= next).Ensures array s good bad ↔
      first.Ensures array s (fun b array s => (next b).Ensures array s good bad) bad := by
  show (first.bind next).Ensures array s good bad ↔ _
  induction first generalizing array s with
  | done b => exact Iff.rfl
  | act step rest ih =>
      apply forall_congr'
      intro log
      cases step.run ⟨s, log⟩ with
      | ok b after => exact ih b
      | error failure after => exact Iff.rfl
  | read sector offset length rest ih =>
      exact exists_congr fun fits => and_congr_right fun _ => ih _
  | write sector offset bytes rest ih =>
      exact exists_congr fun fits => and_congr_right fun _ => ih _
  | sync rest ih => exact ih ()
  | shutdown rest ih => exact ih ()

@[simp] theorem ensures_perform {step : Action σ α} :
    (perform step).Ensures array s good bad ↔
      step.Ensures s (fun a s => good a array s) fun failure s => bad failure array s := Iff.rfl

@[simp] theorem ensures_get {good : σ → PartialArray → σ → Prop} :
    (get : SectorM σ σ).Ensures array s good bad ↔ good s array s :=
  Action.ensures_get

@[simp] theorem ensures_set {after : σ} {good : PUnit → PartialArray → σ → Prop} :
    (set after : SectorM σ PUnit).Ensures array s good bad ↔ good ⟨⟩ array after :=
  Action.ensures_set

@[simp] theorem ensures_modifyGet {f : σ → α × σ} :
    (modifyGet f : SectorM σ α).Ensures array s good bad ↔ good (f s).1 array (f s).2 :=
  Action.ensures_modifyGet

@[simp] theorem ensures_modify {f : σ → σ} {good : PUnit → PartialArray → σ → Prop} :
    (modify f : SectorM σ PUnit).Ensures array s good bad ↔ good ⟨⟩ array (f s) :=
  Action.ensures_modifyGet

@[simp] theorem ensures_emit {event : Event} {good : Unit → PartialArray → σ → Prop} :
    (emit event : SectorM σ Unit).Ensures array s good bad ↔ good () array s :=
  Action.ensures_emit

@[simp] theorem ensures_report {error : Error} :
    (report error : SectorM σ α).Ensures array s good bad ↔ bad (.reported error) array s :=
  Action.ensures_report

@[simp] theorem ensures_fault {why : Fault} :
    (fault why : SectorM σ α).Ensures array s good bad ↔ bad (.fault why) array s :=
  Action.ensures_fault

@[simp] theorem ensures_require {kept : Bool} {rule : Rule}
    {good : Unit → PartialArray → σ → Prop} :
    (require kept rule : SectorM σ Unit).Ensures array s good bad ↔
      if kept then good () array s else bad (.fault (.broken rule)) array s :=
  Action.ensures_require

@[simp] theorem ensures_readAt {sector : SectorId} {offset length : Nat}
    {good : Block length → PartialArray → σ → Prop} :
    (readAt sector offset length : SectorM σ (Block length)).Ensures array s good bad ↔
      ∃ fits : offset + length ≤ sectorSize, sector ∈ array ∧
        good ((array.get sector).slice offset length fits) array s := Iff.rfl

@[simp] theorem ensures_writeAt {sector : SectorId} {offset : Nat} {bytes : Bytes}
    {good : Unit → PartialArray → σ → Prop} :
    (writeAt sector offset bytes : SectorM σ Unit).Ensures array s good bad ↔
      ∃ fits : offset + bytes.size ≤ sectorSize, array.Takes sector bytes.size ∧
        good () (array.set sector ((array.get sector).splice offset bytes fits)) s := Iff.rfl

@[simp] theorem ensures_syncStore {good : Unit → PartialArray → σ → Prop} :
    (syncStore : SectorM σ Unit).Ensures array s good bad ↔ good () array s := Iff.rfl

@[simp] theorem ensures_shutdownStore {good : Unit → PartialArray → σ → Prop} :
    (shutdownStore : SectorM σ Unit).Ensures array s good bad ↔ good () array s := Iff.rfl

@[simp] theorem ensures_ite {p : Prop} [Decidable p] {yes no : SectorM σ α} :
    (if p then yes else no).Ensures array s good bad ↔
      if p then yes.Ensures array s good bad else no.Ensures array s good bad := by
  split <;> exact Iff.rfl

@[simp] theorem ensures_forM_nil {step : β → SectorM σ PUnit}
    {good : PUnit → PartialArray → σ → Prop} :
    (List.forM [] step).Ensures array s good bad ↔ good ⟨⟩ array s := Iff.rfl

theorem ensures_forM_cons {step : β → SectorM σ PUnit} {b : β} {rest : List β}
    {good : PUnit → PartialArray → σ → Prop} :
    (List.forM (b :: rest) step).Ensures array s good bad ↔
      (step b).Ensures array s (fun _ array s => (rest.forM step).Ensures array s good bad) bad :=
  ensures_bind

@[simp] theorem ensures_attempt {computation : SectorM σ α}
    {good : Except Error α → PartialArray → σ → Prop} :
    computation.attempt.Ensures array s good bad ↔
      computation.Ensures array s (fun a array s => good (.ok a) array s) fun failure array s =>
        match failure with
        | .reported error => good (.error error) array s
        | .fault why => bad (.fault why) array s := by
  induction computation generalizing array s with
  | done a => exact Iff.rfl
  | act step next ih =>
      simp only [attempt, Ensures, Action.ensures_attempt]
      apply forall_congr'
      intro log
      cases step.run ⟨s, log⟩ with
      | ok b after => exact ih b
      | error failure after => cases failure <;> exact Iff.rfl
  | read sector offset length next ih =>
      exact exists_congr fun fits => and_congr_right fun _ => ih _
  | write sector offset bytes next ih =>
      exact exists_congr fun fits => and_congr_right fun _ => ih _
  | sync next ih => exact ih ()
  | shutdown next ih => exact ih ()

/-- A computation on a part of a larger state: `whole` puts the part back, and `split` takes it out
again. -/
theorem ensures_hoist (split : τ → σ × (σ → τ)) (whole : σ → τ)
    {carry : {γ : Type} → Action σ γ → Action τ γ}
    (carries : ∀ {γ : Type} (act : Action σ γ), carry act = act.within split)
    (splits : ∀ s, split (whole s) = (s, whole))
    {computation : SectorM σ α} {good : α → PartialArray → τ → Prop}
    {bad : Failure → PartialArray → τ → Prop} :
    (computation.hoist carry).Ensures array (whole s) good bad ↔
      computation.Ensures array s (fun a array s => good a array (whole s))
        fun failure array s => bad failure array (whole s) := by
  induction computation generalizing array s with
  | done a => exact Iff.rfl
  | act step next ih =>
      show (carry step).Ensures _ _ _ ↔ _
      rw [carries, Action.ensures_within, splits]
      apply forall_congr'
      intro log
      cases step.run ⟨s, log⟩ with
      | ok b after => exact ih b
      | error failure after => exact Iff.rfl
  | read sector offset length next ih =>
      exact exists_congr fun fits => and_congr_right fun _ => ih _
  | write sector offset bytes next ih =>
      exact exists_congr fun fits => and_congr_right fun _ => ih _
  | sync next ih => exact ih ()
  | shutdown next ih => exact ih ()

end Rules

end SectorM

/-! ## Stores as good as a plain array -/

/-- Stores that keep what is written to them. `Shows store array` says that the sectors of `store`
are those of `array`, wherever the store may keep them. -/
class LawfulStore (S : Type) [SectorStore S] where
  Shows : S → SectorArray → Prop
  read {store : S} {array : SectorArray} {sector : SectorId} {offset length : Nat} :
    Shows store array → ∀ fits : offset + length ≤ sectorSize, sector ∈ array →
      (SectorStore.read sector offset length).Ensures store
        (fun block after => block = (array.get sector).slice offset length fits ∧ Shows after array)
        fun _ _ => False
  write {store : S} {array : SectorArray} {sector : SectorId} {offset : Nat} {bytes : Bytes} :
    Shows store array → ∀ fits : offset + bytes.size ≤ sectorSize, sector ∈ array →
      (SectorStore.write sector offset bytes).Ensures store
        (fun _ after => Shows after
          (array.set sector ((array.get sector).splice offset bytes fits)))
        fun _ _ => False
  sync {store : S} {array : SectorArray} : Shows store array →
    SectorStore.sync.Ensures store (fun _ after => Shows after array) fun _ _ => False
  shutdown {store : S} {array : SectorArray} : Shows store array →
    SectorStore.shutdown.Ensures store (fun _ after => Shows after array) fun _ _ => False

namespace SectorM

variable {σ α β S : Type} [SectorStore S]

/-! Each node of a computation is run first and the rest after it. -/

theorem run_act (step : Action σ β) (next : β → SectorM σ α) :
    (act step next).run (S := S) = step.onSnd >>= fun b => (next b).run := by
  funext world
  show _ = Action.run (step.onSnd >>= fun b => (next b).run) world
  rw [Action.run_bind]
  simp only [run, Action.run]
  cases step.onSnd world <;> rfl

theorem run_perform (step : Action σ α) : (perform step).run (S := S) = step.onSnd := by
  rw [perform, run_act]
  exact bind_pure _

theorem run_read (sector : SectorId) (offset length : Nat) (next : Block length → SectorM σ α) :
    (read sector offset length next).run (S := S) =
      (SectorStore.read sector offset length).onFst >>= fun b => (next b).run := by
  funext world
  show _ = Action.run ((SectorStore.read sector offset length).onFst >>= fun b => (next b).run) world
  rw [Action.run_bind]
  simp only [run, Action.run]
  cases (SectorStore.read (S := S) sector offset length).onFst world <;> rfl

theorem run_write (sector : SectorId) (offset : Nat) (bytes : Bytes) (next : Unit → SectorM σ α) :
    (write sector offset bytes next).run (S := S) =
      (SectorStore.write sector offset bytes).onFst >>= fun u => (next u).run := by
  funext world
  show _ = Action.run ((SectorStore.write sector offset bytes).onFst >>= fun u => (next u).run) world
  rw [Action.run_bind]
  simp only [run, Action.run]
  cases (SectorStore.write (S := S) sector offset bytes).onFst world <;> rfl

theorem run_sync (next : Unit → SectorM σ α) :
    (sync next).run (S := S) = SectorStore.sync.onFst >>= fun u => (next u).run := by
  funext world
  show _ = Action.run (SectorStore.sync.onFst >>= fun u => (next u).run) world
  rw [Action.run_bind]
  simp only [run, Action.run]
  cases (SectorStore.sync (S := S)).onFst world <;> rfl

theorem run_shutdown (next : Unit → SectorM σ α) :
    (shutdown next).run (S := S) = SectorStore.shutdown.onFst >>= fun u => (next u).run := by
  funext world
  show _ = Action.run (SectorStore.shutdown.onFst >>= fun u => (next u).run) world
  rw [Action.run_bind]
  simp only [run, Action.run]
  cases (SectorStore.shutdown (S := S)).onFst world <;> rfl

section Shown

open LawfulStore (Shows)

variable [LawfulStore S] {computation : SectorM σ α} {array : PartialArray} {whole : SectorArray} {store : S}
  {s : σ} {good : α → PartialArray → σ → Prop} {bad : Failure → PartialArray → σ → Prop}

/-- What is ensured from what is known holds of the run over every store of which that is true. -/
theorem Ensures.run_described (ensured : computation.Ensures array s good bad) (shown : Shows store whole)
    (describes : array.Describes whole) :
    computation.run.Ensures (store, s)
      (fun a after => ∃ whole' array', Shows after.1 whole' ∧ array'.Describes whole' ∧ good a array' after.2)
      fun failure after => ∃ whole' array', Shows after.1 whole' ∧ array'.Describes whole' ∧
        bad failure array' after.2 := by
  induction computation generalizing array whole store s with
  | done a => exact fun _ => ⟨whole, array, shown, describes, ensured⟩
  | act step next ih =>
      rw [run_act]
      apply Action.Ensures.bind
      rw [Action.ensures_onSnd]
      exact Action.Ensures.mono ensured (fun b s rest => ih b rest shown describes)
        fun failure s failed => ⟨whole, array, shown, describes, failed⟩
  | read sector offset length next ih =>
      obtain ⟨fits, inside, rest⟩ := ensured
      rw [run_read]
      apply Action.Ensures.bind
      rw [Action.ensures_onFst]
      refine Action.Ensures.mono (LawfulStore.read shown fits (describes.mem inside)) ?_
        fun _ _ impossible => impossible.elim
      rintro block after ⟨rfl, shown⟩
      rw [← describes.get inside]
      exact ih _ rest shown describes
  | write sector offset bytes next ih =>
      obtain ⟨fits, takes, rest⟩ := ensured
      have has := takes.has
      rw [run_write]
      apply Action.Ensures.bind
      rw [Action.ensures_onFst]
      refine Action.Ensures.mono (LawfulStore.write shown fits (describes.has_iff.mp has)) ?_
        fun _ _ impossible => impossible.elim
      intro _ after shown
      rw [takes.splice_eq describes fits] at shown
      exact ih _ rest shown (describes.set has)
  | sync next ih =>
      rw [run_sync]
      apply Action.Ensures.bind
      rw [Action.ensures_onFst]
      exact Action.Ensures.mono (LawfulStore.sync shown) (fun _ _ shown => ih () ensured shown describes)
        fun _ _ impossible => impossible.elim
  | shutdown next ih =>
      rw [run_shutdown]
      apply Action.Ensures.bind
      rw [Action.ensures_onFst]
      exact Action.Ensures.mono (LawfulStore.shutdown shown) (fun _ _ shown => ih () ensured shown describes)
        fun _ _ impossible => impossible.elim

/-- What is ensured over a whole array holds of the run over every store that shows it. -/
theorem Ensures.run (ensured : computation.Ensures (.ofWhole whole) s good bad) (shown : Shows store whole) :
    computation.run.Ensures (store, s)
      (fun a after => ∃ whole', Shows after.1 whole' ∧ good a (.ofWhole whole') after.2)
      fun failure after => ∃ whole', Shows after.1 whole' ∧ bad failure (.ofWhole whole') after.2 := by
  refine (ensured.spreads.run_described shown (PartialArray.describes_ofWhole whole)).mono ?_ ?_
  · rintro a after ⟨whole', array', shown', describes', spreads, done⟩
    obtain rfl := describes'.eq_ofWhole spreads
    exact ⟨whole', shown', done⟩
  · rintro failure after ⟨whole', array', shown', describes', spreads, failed⟩
    obtain rfl := describes'.eq_ofWhole spreads
    exact ⟨whole', shown', failed⟩

/-- A store shows the array that a computation leaves, where this is known from what it gives. -/
theorem Ensures.run_to {left : α → SectorArray} {good : α → σ → Prop}
    (ensured : computation.Ensures (.ofWhole whole) s (fun a array s => array = .ofWhole (left a) ∧ good a s)
      fun _ _ _ => False) (shown : Shows store whole) :
    computation.run.Ensures (store, s) (fun a after => Shows after.1 (left a) ∧ good a after.2) fun _ _ => False := by
  refine (ensured.run shown).mono ?_ fun _ _ ⟨_, _, never⟩ => never
  intro a after ⟨whole', shown', same, fine⟩
  rw [PartialArray.ofWhole_injective same] at shown'
  exact ⟨shown', fine⟩

end Shown

end SectorM

end InodeVolume
