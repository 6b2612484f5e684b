import InodeVolume.Store

/-!
# Computations over a store

`SectorM σ α` is a computation on a state `σ` over *some* store of sectors: a tree whose nodes
are actions on the state and requests to the store. Files, tables and volumes are written in it
once and run over every store, so what holds of two stores request by request holds of all that
is built from requests.

* `run` carries a computation out over a store.
* `hoist` moves a computation to a larger state.
* `attempt` turns a reported error into a value.
-/

namespace InodeVolume

/-- A computation on a state `σ` over some store of sectors. -/
inductive SectorM (σ α : Type) : Type 1 where
  | done (a : α)
  | act {β : Type} (step : Action σ β) (next : β → SectorM σ α)
  | read (sector : SectorId) (offset length : Nat) (next : Block length → SectorM σ α)
  | write (sector : SectorId) (offset : Nat) (bytes : Bytes) (next : Unit → SectorM σ α)
  | sync (next : Unit → SectorM σ α)
  | shutdown (next : Unit → SectorM σ α)

namespace SectorM

variable {σ τ α β : Type}

/-! ## Sequencing -/

/-- One computation after another. -/
def bind : SectorM σ α → (α → SectorM σ β) → SectorM σ β
  | done a, f => f a
  | act step next, f => act step fun b => (next b).bind f
  | read sector offset length next, f => read sector offset length fun b => (next b).bind f
  | write sector offset bytes next, f => write sector offset bytes fun u => (next u).bind f
  | sync next, f => sync fun u => (next u).bind f
  | shutdown next, f => shutdown fun u => (next u).bind f

theorem bind_done (x : SectorM σ α) : x.bind done = x := by
  induction x with
  | done => rfl
  | act step next ih => exact congrArg (act step) (funext ih)
  | read sector offset length next ih => exact congrArg (read sector offset length) (funext ih)
  | write sector offset bytes next ih => exact congrArg (write sector offset bytes) (funext ih)
  | sync next ih => exact congrArg sync (funext ih)
  | shutdown next ih => exact congrArg shutdown (funext ih)

theorem bind_bind {γ : Type} (x : SectorM σ α) (f : α → SectorM σ β) (g : β → SectorM σ γ) :
    (x.bind f).bind g = x.bind fun a => (f a).bind g := by
  induction x with
  | done => rfl
  | act step next ih => exact congrArg (act step) (funext ih)
  | read sector offset length next ih => exact congrArg (read sector offset length) (funext ih)
  | write sector offset bytes next ih => exact congrArg (write sector offset bytes) (funext ih)
  | sync next ih => exact congrArg sync (funext ih)
  | shutdown next ih => exact congrArg shutdown (funext ih)

instance : Monad (SectorM σ) where
  pure := done
  bind := bind

instance : LawfulMonad (SectorM σ) :=
  LawfulMonad.mk' _ bind_done (fun _ _ => rfl) bind_bind

/-! ## Single steps -/

/-- An action on the state. -/
def perform (step : Action σ α) : SectorM σ α := act step done

instance : MonadStateOf σ (SectorM σ) where
  get := act get done
  set state := act (set state) done
  modifyGet f := act (modifyGet f) done

/-- Reads `length` bytes of a sector from `offset` on. -/
def readAt (sector : SectorId) (offset length : Nat) : SectorM σ (Block length) :=
  read sector offset length done

/-- Writes bytes into a sector at `offset`. -/
def writeAt (sector : SectorId) (offset : Nat) (bytes : Bytes) : SectorM σ Unit :=
  write sector offset bytes done

/-- Makes what was written permanent. -/
def syncStore : SectorM σ Unit := sync done

/-- Makes what was written permanent and gives up all copies. -/
def shutdownStore : SectorM σ Unit := shutdown done

/-- Adds a record to the log. -/
def emit (event : Event) : SectorM σ Unit := perform (Action.emit event)

/-- Fails with a reported error. -/
def report (error : Error) : SectorM σ α := perform (Action.report error)

/-- Fails with a fault. -/
def fault (fault : Fault) : SectorM σ α := perform (Action.fault fault)

/-- Faults unless a caller's rule is kept. -/
def require (kept : Bool) (rule : Rule) : SectorM σ Unit := perform (Action.require kept rule)

/-! ## Larger states and caught errors -/

/-- The same computation, each of its actions carried to another state. -/
def hoist (carry : {γ : Type} → Action σ γ → Action τ γ) : SectorM σ α → SectorM τ α
  | done a => done a
  | act step next => act (carry step) fun b => (next b).hoist carry
  | read sector offset length next =>
    read sector offset length fun b => (next b).hoist carry
  | write sector offset bytes next =>
    write sector offset bytes fun u => (next u).hoist carry
  | sync next => sync fun u => (next u).hoist carry
  | shutdown next => shutdown fun u => (next u).hoist carry

/-- Turns an error that an action reports into a value; faults stay failures. -/
def attempt : SectorM σ α → SectorM σ (Except Error α)
  | done a => done (.ok a)
  | act step next => act step.attempt fun
    | .ok b => (next b).attempt
    | .error error => done (.error error)
  | read sector offset length next => read sector offset length fun b => (next b).attempt
  | write sector offset bytes next => write sector offset bytes fun u => (next u).attempt
  | sync next => sync fun u => (next u).attempt
  | shutdown next => shutdown fun u => (next u).attempt

/-- Goes on with a value, or reports the error that stands in its place. -/
def ofExcept : Except Error α → SectorM σ α
  | .ok a => done a
  | .error error => report error

/-! ## Running over a store -/

variable {S : Type} [SectorStore S]

/-- Carries a computation out over a store. -/
def run : SectorM σ α → Action (S × σ) α
  | done a, world => .ok a world
  | act step next, world =>
    match step.onSnd world with
    | .ok b after => (next b).run after
    | .error failure after => .error failure after
  | read sector offset length next, world =>
    match (SectorStore.read sector offset length).onFst world with
    | .ok b after => (next b).run after
    | .error failure after => .error failure after
  | write sector offset bytes next, world =>
    match (SectorStore.write sector offset bytes).onFst world with
    | .ok u after => (next u).run after
    | .error failure after => .error failure after
  | sync next, world =>
    match SectorStore.sync.onFst world with
    | .ok u after => (next u).run after
    | .error failure after => .error failure after
  | shutdown next, world =>
    match SectorStore.shutdown.onFst world with
    | .ok u after => (next u).run after
    | .error failure after => .error failure after

/-- Running in sequence is one run after the other. -/
theorem run_bind (x : SectorM σ α) (f : α → SectorM σ β) :
    (x >>= f).run (S := S) = x.run >>= fun a => (f a).run := by
  funext world
  show run (bind x f) world = Action.run (x.run >>= fun a => (f a).run) world
  rw [Action.run_bind]
  induction x generalizing world with
  | done a => rfl
  | act step next ih =>
    simp only [bind, run, Action.run]
    cases step.onSnd world with
    | ok b after => exact ih b after
    | error failure after => rfl
  | read sector offset length next ih =>
    simp only [bind, run, Action.run]
    cases (SectorStore.read (S := S) sector offset length).onFst world with
    | ok b after => exact ih b after
    | error failure after => rfl
  | write sector offset bytes next ih =>
    simp only [bind, run, Action.run]
    cases (SectorStore.write (S := S) sector offset bytes).onFst world with
    | ok u after => exact ih u after
    | error failure after => rfl
  | sync next ih =>
    simp only [bind, run, Action.run]
    cases (SectorStore.sync (S := S)).onFst world with
    | ok u after => exact ih u after
    | error failure after => rfl
  | shutdown next ih =>
    simp only [bind, run, Action.run]
    cases (SectorStore.shutdown (S := S)).onFst world with
    | ok u after => exact ih u after
    | error failure after => rfl

end SectorM

end InodeVolume
