import InodeVolume.Proofs.Blind

/-!
# Computations that end alike

Two computations are `Alike` when over one plain array they are told the same and leave the same sectors.
Their states may differ in what neither looks at: they are related before, and related after. Their logs
may differ at will.

One rule is given for each way of building a computation. Where a computation looks at its state, the rule
is `Alike.get_bind`: what follows must be alike for any two states that are related.
-/

namespace InodeVolume

namespace SectorArray

variable {array : SectorArray} {sector : SectorId} {offset length : Nat} {bytes : Bytes}

theorem blind_read : (SectorArray.read sector offset length).Blind := by
  unfold SectorArray.read
  split
  · refine .bind .get fun array => ?_
    split
    · exact .pure
    · exact .fault nofun
  · exact .ite (.fault nofun) (.fault nofun)

theorem blind_write : (SectorArray.write sector offset bytes).Blind := by
  unfold SectorArray.write
  split
  · refine .bind .get fun array => ?_
    split
    · exact .modify
    · exact .fault nofun
  · exact .ite (.fault nofun) (.fault nofun)

/-- A plain array reports nothing: what it cannot do is a fault. -/
theorem read_faults : (SectorArray.read sector offset length).Ensures array (fun _ _ => True)
    fun failure _ => ∃ why, failure = .fault why := by
  unfold SectorArray.read
  split
  · refine .bind (Action.ensures_get.mpr ?_)
    split
    · exact Action.ensures_pure.mpr trivial
    · exact Action.ensures_fault.mpr ⟨_, rfl⟩
  · split
    · exact Action.ensures_fault.mpr ⟨_, rfl⟩
    · exact Action.ensures_fault.mpr ⟨_, rfl⟩

theorem write_faults : (SectorArray.write sector offset bytes).Ensures array (fun _ _ => True)
    fun failure _ => ∃ why, failure = .fault why := by
  unfold SectorArray.write
  split
  · refine .bind (Action.ensures_get.mpr ?_)
    split
    · exact Action.ensures_modify.mpr trivial
    · exact Action.ensures_fault.mpr ⟨_, rfl⟩
  · split
    · exact Action.ensures_fault.mpr ⟨_, rfl⟩
    · exact Action.ensures_fault.mpr ⟨_, rfl⟩

end SectorArray

/-- How an action fails is as it was ensured. -/
theorem Action.Ensures.fails {σ α : Type} {act : Action σ α} {s : σ} {good : α → σ → Prop} {bad : Failure → σ → Prop}
    (ensured : act.Ensures s good bad) {log : Array Event} {failure : Failure} {after : Traced σ}
    (ended : act ⟨s, log⟩ = .error failure after) : bad failure after.state := by
  have here := ensured log
  rw [Action.run, ended] at here
  exact here

namespace SectorM

variable {σ α β : Type}

section Store

variable {S : Type} [SectorStore S]

theorem run_readAt (sector : SectorId) (offset length : Nat) :
    (readAt sector offset length : SectorM σ (Block length)).run (S := S) =
      (SectorStore.read sector offset length).onFst := by
  rw [readAt, run_read]
  exact bind_pure _

theorem run_writeAt (sector : SectorId) (offset : Nat) (bytes : Bytes) :
    (writeAt sector offset bytes : SectorM σ Unit).run (S := S) = (SectorStore.write sector offset bytes).onFst := by
  rw [writeAt, run_write]
  exact bind_pure _

end Store

/-- Over a plain array it is all the same whether errors become values on the way or at the end. -/
theorem run_attempt (x : SectorM σ α) : x.attempt.run (S := SectorArray) = x.run.attempt := by
  funext world
  -- the array itself can only fault, and a fault is no error that becomes a value
  induction x generalizing world with
  | done a => rfl
  | act step next ih =>
      simp only [attempt, run, Action.attempt, Action.onSnd, Action.within]
      cases step ⟨world.state.2, world.log⟩ with
      | ok b after => exact ih b _
      | error failure after => cases failure <;> rfl
  | read sector offset length next ih =>
      simp only [attempt, run, Action.attempt]
      cases ended : (SectorStore.read (S := SectorArray) sector offset length).onFst world with
      | ok b after => exact ih b after
      | error failure after =>
          have faults : (SectorStore.read (S := SectorArray) sector offset length).onFst.Ensures world.state
              (fun _ _ => True) fun failure _ => ∃ why, failure = .fault why :=
            Action.ensures_onFst.mpr SectorArray.read_faults
          obtain ⟨why, rfl⟩ := faults.fails ended
          rfl
  | write sector offset bytes next ih =>
      simp only [attempt, run, Action.attempt]
      cases ended : (SectorStore.write (S := SectorArray) sector offset bytes).onFst world with
      | ok b after => exact ih b after
      | error failure after =>
          have faults : (SectorStore.write (S := SectorArray) sector offset bytes).onFst.Ensures world.state
              (fun _ _ => True) fun failure _ => ∃ why, failure = .fault why :=
            Action.ensures_onFst.mpr SectorArray.write_faults
          obtain ⟨why, rfl⟩ := faults.fails ended
          rfl
  | sync next ih => exact ih () world
  | shutdown next ih => exact ih () world

/-! ## The relation -/

variable {related : σ → σ → Prop} {x y : SectorM σ α}

/-- Two runs were told the same, and left the same sectors and states that are related. -/
structure Joined (related : σ → σ → Prop) (first second : Except Failure α × SectorArray × σ) : Prop where
  told : first.1 = second.1
  sectors : first.2.1 = second.2.1
  states : related first.2.2 second.2.2

/-- From one plain array and states that are related, two computations come to the same. -/
def Alike (related : σ → σ → Prop) (x y : SectorM σ α) : Prop :=
  ∀ (array : SectorArray) (s s' : σ) (log log' : Array Event), related s s' →
    Joined related (x.run.result (array, s) log) (y.run.result (array, s') log')

theorem Alike.pure {a : α} : Alike related (pure a) (pure a) := fun _ _ _ _ _ same => ⟨rfl, rfl, same⟩

/-- As `Alike.bind`, from one pair of states: what follows must be alike for what was told there. -/
theorem Joined.bind {x y : SectorM σ β} {f g : β → SectorM σ α} {array : SectorArray} {s s' : σ}
    {log log' : Array Event}
    (joined : Joined related (x.run.result (array, s) log) (y.run.result (array, s') log'))
    (rest : ∀ b, (x.run.result (array, s) log).1 = .ok b → Alike related (f b) (g b)) :
    Joined related ((x >>= f).run.result (array, s) log) ((y >>= g).run.result (array, s') log') := by
  obtain ⟨later, ran⟩ := Action.result_bind x.run (fun b => (f b).run) (array, s) log
  obtain ⟨later', ran'⟩ := Action.result_bind y.run (fun b => (g b).run) (array, s') log'
  rw [run_bind, run_bind, ran, ran']
  revert joined rest
  rcases x.run.result (array, s) log with ⟨told, sectors, t⟩
  rcases y.run.result (array, s') log' with ⟨told', sectors', t'⟩
  rintro ⟨rfl, rfl, same⟩ rest
  cases told with
  | ok b => exact rest b rfl _ t t' later later' same
  | error failure => exact ⟨rfl, rfl, same⟩

theorem Alike.bind {x y : SectorM σ β} {f g : β → SectorM σ α} (first : Alike related x y)
    (rest : ∀ b, Alike related (f b) (g b)) : Alike related (x >>= f) (y >>= g) :=
  fun array s s' log log' same => (first array s s' log log' same).bind fun b _ => rest b

/-- What is done with a state must be alike for all states that are related to it. -/
theorem Alike.get_bind {f g : σ → SectorM σ α} (rest : ∀ s s', related s s' → Alike related (f s) (g s')) :
    Alike related (get >>= f) (get >>= g) :=
  fun array s s' log log' same => rest s s' same array s s' log log' same

theorem Alike.perform {step step' : Action σ α}
    (same : ∀ s s' log log', related s s' → (step.result s log).1 = (step'.result s' log').1 ∧
      related (step.result s log).2 (step'.result s' log').2) :
    Alike related (perform step) (perform step') := by
  intro array s s' log log' here
  obtain ⟨told, states⟩ := same s s' log log' here
  rw [run_perform, run_perform, Action.onSnd, Action.onSnd, Action.result_within, Action.result_within]
  exact ⟨told, rfl, states⟩

/-- A step on a part of the state that is the same in both, and that does not look at the log. -/
theorem Alike.within {τ : Type} {split : σ → τ × (τ → σ)} {act : Action τ α} (blind : act.Blind)
    (part : ∀ s s', related s s' → (split s').1 = (split s).1)
    (back : ∀ s s' t, related s s' → related ((split s).2 t) ((split s').2 t)) :
    Alike related (SectorM.perform (act.within split)) (SectorM.perform (act.within split)) := by
  refine .perform fun s s' log log' here => ?_
  obtain ⟨told, after, ends, -⟩ := blind (split s).1
  rw [Action.result_within, Action.result_within, part s s' here, ends log, ends log']
  exact ⟨rfl, back s s' after here⟩

/-- Two steps may be told different things where what follows is alike nevertheless. -/
theorem Alike.perform_bind {step step' : Action σ β} {f g : β → SectorM σ α}
    (same : ∀ s s' log log', related s s' → match step.result s log, step'.result s' log' with
      | (.ok b, t), (.ok b', t') => related t t' ∧ Alike related (f b) (g b')
      | (.error failure, t), (.error failure', t') => failure = failure' ∧ related t t'
      | _, _ => False) :
    Alike related (SectorM.perform step >>= f) (SectorM.perform step' >>= g) := by
  intro array s s' log log' here
  obtain ⟨later, ran⟩ := Action.result_bind (SectorM.perform step).run (fun b => (f b).run) (array, s) log
  obtain ⟨later', ran'⟩ := Action.result_bind (SectorM.perform step').run (fun b => (g b).run) (array, s') log'
  have ends := same s s' log log' here
  rw [run_bind, run_bind, ran, ran', run_perform, run_perform, Action.onSnd, Action.onSnd, Action.result_within,
    Action.result_within]
  dsimp only
  revert ends
  rcases step.result s log with ⟨told, t⟩
  rcases step'.result s' log' with ⟨told', t'⟩
  intro ends
  cases told with
  | ok b =>
      cases told' with
      | ok b' => exact ends.2 array t t' later later' ends.1
      | error failure' => exact ends.elim
  | error failure =>
      cases told' with
      | ok b' => exact ends.elim
      | error failure' =>
          obtain ⟨rfl, states⟩ := ends
          exact ⟨rfl, rfl, states⟩

theorem Alike.modify {f g : σ → σ} (same : ∀ s s', related s s' → related (f s) (g s')) :
    Alike related (modify f : SectorM σ PUnit) (modify g) := by
  show Alike related (SectorM.perform (modifyGet fun s => (PUnit.unit, f s)))
    (SectorM.perform (modifyGet fun s => (PUnit.unit, g s)))
  exact .perform fun s s' _ _ here => ⟨rfl, same s s' here⟩

/-- Two computations may log what they like. -/
theorem Alike.emit {event event' : Event} : Alike related (emit event) (emit event') :=
  .perform fun _ _ _ _ here => ⟨rfl, here⟩

theorem Alike.report {error : Error} : Alike related (report error : SectorM σ α) (report error) :=
  .perform fun _ _ _ _ here => ⟨rfl, here⟩

theorem Alike.fault {why : Fault} : Alike related (fault why : SectorM σ α) (fault why) :=
  .perform fun _ _ _ _ here => ⟨rfl, here⟩

theorem Alike.require {kept : Bool} {rule : Rule} :
    Alike related (require kept rule : SectorM σ Unit) (require kept rule) := by
  cases kept with
  | true => exact .perform fun _ _ _ _ here => ⟨rfl, here⟩
  | false => exact .perform fun _ _ _ _ here => ⟨rfl, here⟩

/-- A plain array has nothing to make permanent. -/
theorem Alike.syncStore : Alike related (syncStore : SectorM σ Unit) syncStore := fun _ _ _ _ _ same => ⟨rfl, rfl, same⟩

theorem Alike.ofExcept {result : Except Failure α} :
    Alike related (SectorM.perform (Action.ofExcept result)) (SectorM.perform (Action.ofExcept result)) := by
  cases result with
  | ok a => exact .perform fun _ _ _ _ here => ⟨rfl, here⟩
  | error failure => exact .perform fun _ _ _ _ here => ⟨rfl, here⟩

/-- A request to a plain array that does not look at the log is answered alike. -/
theorem Joined.onFst {act : Action SectorArray α} (blind : act.Blind) {array : SectorArray} {s s' : σ}
    {log log' : Array Event} (same : related s s') :
    Joined related (act.onFst.result (array, s) log) (act.onFst.result (array, s') log') := by
  obtain ⟨told, after, ends, -⟩ := blind array
  rw [Action.onFst, Action.result_within, Action.result_within]
  dsimp only
  rw [ends log, ends log']
  exact ⟨rfl, rfl, same⟩

theorem Alike.readAt {sector : SectorId} {offset length : Nat} :
    Alike related (readAt sector offset length) (readAt sector offset length) := by
  intro array s s' log log' same
  rw [run_readAt]
  exact .onFst SectorArray.blind_read same

theorem Alike.writeAt {sector : SectorId} {offset : Nat} {bytes : Bytes} :
    Alike related (writeAt sector offset bytes) (writeAt sector offset bytes) := by
  intro array s s' log log' same
  rw [run_writeAt]
  exact .onFst SectorArray.blind_write same

theorem Alike.ite {p : Prop} [Decidable p] {yes no yes' no' : SectorM σ α} (first : Alike related yes yes')
    (second : Alike related no no') : Alike related (if p then yes else no) (if p then yes' else no') := by
  split
  · exact first
  · exact second

theorem Alike.dite {p : Prop} [Decidable p] {yes yes' : p → SectorM σ α} {no no' : ¬p → SectorM σ α}
    (first : ∀ h, Alike related (yes h) (yes' h)) (second : ∀ h, Alike related (no h) (no' h)) :
    Alike related (if h : p then yes h else no h) (if h : p then yes' h else no' h) := by
  split
  · exact first _
  · exact second _

theorem Alike.attempt (alike : Alike related x y) : Alike related x.attempt y.attempt := by
  intro array s s' log log' same
  have joined := alike array s s' log log' same
  rw [run_attempt, run_attempt, Action.result_attempt, Action.result_attempt]
  revert joined
  rcases x.run.result (array, s) log with ⟨told, sectors, t⟩
  rcases y.run.result (array, s') log' with ⟨told', sectors', t'⟩
  rintro ⟨rfl, rfl, same'⟩
  match told with
  | .ok a => exact ⟨rfl, rfl, same'⟩
  | .error (.reported error) => exact ⟨rfl, rfl, same'⟩
  | .error (.fault why) => exact ⟨rfl, rfl, same'⟩

theorem Alike.forM {list : List β} {step step' : β → SectorM σ PUnit} (each : ∀ b, Alike related (step b) (step' b)) :
    Alike related (list.forM step) (list.forM step') := by
  induction list with
  | nil => exact .pure
  | cons b rest ih => exact Alike.bind (each b) fun _ => ih

end SectorM

end InodeVolume
