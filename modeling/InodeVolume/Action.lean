import InodeVolume.Event

/-!
# Actions on a state

An `Action σ α` works on a state `σ`, appends to the log, and ends with an `α` or a `Failure`.
The state and the log are kept either way: an action that fails half-way leaves behind what it
had done, and the next action goes on from there.

Actions on a part of a state become actions on the whole by `onFst` and `onSnd`, or by `within`
where the whole is a structure.
-/

namespace InodeVolume

/-- A state together with the log written so far. -/
structure Traced (σ : Type) where
  state : σ
  log : Array Event

/-- Work on a state that may log and may fail; a failure keeps the state. -/
def Action (σ α : Type) : Type := EStateM Failure (Traced σ) α

namespace Action

variable {σ τ α β : Type}

instance : Monad (Action σ) := inferInstanceAs (Monad (EStateM Failure (Traced σ)))

instance : LawfulMonad (Action σ) := inferInstanceAs (LawfulMonad (EStateM Failure (Traced σ)))

instance : MonadExceptOf Failure (Action σ) where
  throw failure := fun world => .error failure world
  tryCatch act handle := fun world =>
    match act world with
    | .ok a after => .ok a after
    | .error failure after => handle failure after

instance : MonadStateOf σ (Action σ) where
  get := fun world => .ok world.state world
  set state := fun world => .ok () ⟨state, world.log⟩
  modifyGet f := fun ⟨state, log⟩ =>
    let (a, after) := f state
    .ok a ⟨after, log⟩

/-- Runs an action on a state and a log. -/
def run (act : Action σ α) (world : Traced σ) : EStateM.Result Failure (Traced σ) α := act world

/-- Adds a record to the log. -/
def emit (event : Event) : Action σ Unit :=
  fun ⟨state, log⟩ => .ok () ⟨state, log.push event⟩

/-- Fails with a reported error. -/
def report (error : Error) : Action σ α := throw (.reported error)

/-- Fails with a fault. -/
def fault (fault : Fault) : Action σ α := throw (.fault fault)

/-- Faults unless a caller's rule is kept. -/
def require (kept : Bool) (rule : Rule) : Action σ Unit :=
  if kept then pure () else fault (.broken rule)

/-- The sum of two words, a fault where it needs more than 64 bits. -/
def checkedAdd (a b : Nat) : Action σ Nat :=
  if a + b < wordLimit then pure (a + b) else fault .overflow

/-- The product of two words, a fault where it needs more than 64 bits. -/
def checkedMul (a b : Nat) : Action σ Nat :=
  if a * b < wordLimit then pure (a * b) else fault .overflow

/-- A counter of 32 bits one higher, a fault where it needs more. -/
def checkedNext (counter : UInt32) : Action σ UInt32 :=
  if counter.toNat + 1 < UInt32.size then pure (counter + 1) else fault .overflow

/-- Turns a reported error into a value; faults stay failures. -/
def attempt (act : Action σ α) : Action σ (Except Error α) := fun world =>
  match act world with
  | .ok a after => .ok (.ok a) after
  | .error (.reported error) after => .ok (.error error) after
  | .error (.fault fault) after => .error (.fault fault) after

/-- Turns every failure into a value. -/
def outcome (act : Action σ α) : Action σ (Except Failure α) := fun world =>
  match act world with
  | .ok a after => .ok (.ok a) after
  | .error failure after => .ok (.error failure) after

/-- Succeeds or fails as a value says. -/
def ofExcept : Except Failure α → Action σ α
  | .ok a => pure a
  | .error failure => throw failure

/-! ## Parts of a state -/

/-- An action on a part: `split` takes the part out and tells how to put it back. -/
@[inline] def within (split : σ → τ × (τ → σ)) (act : Action τ α) : Action σ α :=
  fun ⟨state, log⟩ =>
    let (part, whole) := split state
    match act ⟨part, log⟩ with
    | .ok a after => .ok a ⟨whole after.state, after.log⟩
    | .error failure after => .error failure ⟨whole after.state, after.log⟩

/-- An action on the first of two states. -/
def onFst (act : Action σ α) : Action (σ × τ) α := within (fun (s, t) => (s, fun s => (s, t))) act

/-- An action on the second of two states. -/
def onSnd (act : Action τ α) : Action (σ × τ) α := within (fun (s, t) => (t, fun t => (s, t))) act

/-! ## How actions run -/

@[simp] theorem run_pure (a : α) (world : Traced σ) :
    (pure a : Action σ α).run world = .ok a world := rfl

theorem run_bind (act : Action σ α) (next : α → Action σ β) (world : Traced σ) :
    (act >>= next).run world =
      match act.run world with
      | .ok a after => (next a).run after
      | .error failure after => .error failure after := by
  show EStateM.bind act next world = _
  unfold EStateM.bind run
  cases act world <;> rfl

@[simp] theorem run_throw (failure : Failure) (world : Traced σ) :
    (throw failure : Action σ α).run world = .error failure world := rfl

@[simp] theorem run_get (world : Traced σ) :
    (get : Action σ σ).run world = .ok world.state world := rfl

@[simp] theorem run_set (state : σ) (world : Traced σ) :
    (set state : Action σ PUnit).run world = .ok () ⟨state, world.log⟩ := rfl

@[simp] theorem run_modifyGet (f : σ → α × σ) (world : Traced σ) :
    (modifyGet f : Action σ α).run world =
      .ok (f world.state).1 ⟨(f world.state).2, world.log⟩ := rfl

@[simp] theorem run_emit (event : Event) (world : Traced σ) :
    (emit event : Action σ Unit).run world = .ok () ⟨world.state, world.log.push event⟩ := rfl

end Action

end InodeVolume
