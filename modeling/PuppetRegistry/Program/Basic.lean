import PuppetRegistry.Event
import PuppetRegistry.Handle

/-!
# Programs

An operation on a record in memory and its store, as a tree of what it does next. Between two
statements other operations may run, on the same store and on the same record, so a program reads
the record anew whenever it needs it. `run` carries a program out alone, against one handle. Main
statements: a run of `p >>= f` is the run of `p` followed by that of `f`, and a handler of storage
errors takes over from the store, the record and the events that the error leaves behind.
-/

namespace PuppetRegistry

/-- An operation on a record of type `μ` and a store, with a result of type `α`. -/
inductive Program (μ : Type) (α : Type)
  | done (value : α)
  | raise (fault : Fault)
  | note (event : Event) (rest : Program μ α)
  | consult (next : μ → Program μ α)
  | keep (record : μ) (rest : Program μ α)
  | rows (statement : Statement) (next : Except Fault (List (List Cell)) → Program μ α)
  | row (statement : Statement) (next : Except Fault (Option (List Cell)) → Program μ α)
  | execute (statement : Statement) (next : Except Fault Int → Program μ α)

namespace Program

variable {μ α β γ σ : Type}

def bind : Program μ α → (α → Program μ β) → Program μ β
  | done a, f => f a
  | raise fault, _ => raise fault
  | note event rest, f => note event (rest.bind f)
  | consult next, f => consult fun m => (next m).bind f
  | keep m rest, f => keep m (rest.bind f)
  | rows s next, f => rows s fun reply => (next reply).bind f
  | row s next, f => row s fun reply => (next reply).bind f
  | execute s next, f => execute s fun reply => (next reply).bind f

instance : Monad (Program μ) where
  pure := done
  bind := bind

/-- Go on with `handler` where a program would stop with a storage error. -/
def onStoreError : Program μ α → (StoreError → Program μ α) → Program μ α
  | done a, _ => done a
  | raise (.storage error), handler => handler error
  | raise fault, _ => raise fault
  | note event rest, handler => note event (rest.onStoreError handler)
  | consult next, handler => consult fun m => (next m).onStoreError handler
  | keep m rest, handler => keep m (rest.onStoreError handler)
  | rows s next, handler => rows s fun reply => (next reply).onStoreError handler
  | row s next, handler => row s fun reply => (next reply).onStoreError handler
  | execute s next, handler => execute s fun reply => (next reply).onStoreError handler

def ofExcept : Except Fault α → Program μ α
  | .ok a => done a
  | .error fault => raise fault

def record : Program μ μ :=
  consult done

def revise (f : μ → μ) : Program μ Unit :=
  consult fun m => keep (f m) (done ())

def report (event : Event) : Program μ Unit :=
  note event (done ())

def fetchRows (s : Statement) : Program μ (List (List Cell)) :=
  rows s ofExcept

def fetchRow (s : Statement) : Program μ (Option (List Cell)) :=
  row s ofExcept

def perform (s : Statement) : Program μ Int :=
  execute s ofExcept

/-! ## Running alone -/

/-- What a run leaves behind: its result, the store, the record, and the events in order. -/
structure Run (σ μ α : Type) where
  result : Except Fault α
  store : σ
  record : μ
  events : List Event

/-- Carry a program out against a handle. -/
def run (h : Handle σ) : Program μ α → σ → μ → Run σ μ α
  | done a, s, m => ⟨.ok a, s, m, []⟩
  | raise fault, s, m => ⟨.error fault, s, m, []⟩
  | note event rest, s, m =>
    let after := rest.run h s m
    { after with events := event :: after.events }
  | consult next, s, m => (next m).run h s m
  | keep m rest, s, _ => rest.run h s m
  | rows statement next, s, m =>
    let (reply, s) := h.rows statement s
    (next reply).run h s m
  | row statement next, s, m =>
    let (reply, s) := h.row statement s
    (next reply).run h s m
  | execute statement next, s, m =>
    let (reply, s) := h.execute statement s
    (next reply).run h s m

/-! ## Laws -/

@[simp] theorem pure_eq (a : α) : (pure a : Program μ α) = done a := rfl

@[simp] theorem bind_eq (p : Program μ α) (f : α → Program μ β) : p >>= f = p.bind f := rfl

/-- A run goes on where another has stopped. -/
def Run.andThen (h : Handle σ) (first : Run σ μ α) (f : α → Program μ β) : Run σ μ β :=
  match first.result with
  | .ok a =>
    let second := (f a).run h first.store first.record
    { second with events := first.events ++ second.events }
  | .error fault => ⟨.error fault, first.store, first.record, first.events⟩

theorem run_bind (h : Handle σ) (p : Program μ α) (f : α → Program μ β) (s : σ) (m : μ) :
    (p.bind f).run h s m = (p.run h s m).andThen h f := by
  induction p generalizing s m with
  | done a => simp [bind, run, Run.andThen]
  | raise fault => simp [bind, run, Run.andThen]
  | note event rest ih =>
    simp only [bind, run, ih, Run.andThen]
    split <;> rfl
  | keep m' rest ih => simp [bind, run, ih]
  | consult next ih => simp [bind, run, ih]
  | rows st next ih => simp [bind, run, ih]
  | row st next ih => simp [bind, run, ih]
  | execute st next ih => simp [bind, run, ih]

/-- A run goes on with the handler where another has stopped with a storage error. -/
def Run.recover (h : Handle σ) (first : Run σ μ α) (handler : StoreError → Program μ α) :
    Run σ μ α :=
  match first.result with
  | .error (.storage error) =>
    let second := (handler error).run h first.store first.record
    { second with events := first.events ++ second.events }
  | _ => first

theorem run_onStoreError (h : Handle σ) (p : Program μ α)
    (handler : StoreError → Program μ α) (s : σ) (m : μ) :
    (p.onStoreError handler).run h s m = (p.run h s m).recover h handler := by
  induction p generalizing s m with
  | done a => simp [onStoreError, run, Run.recover]
  | raise fault => cases fault <;> simp [onStoreError, run, Run.recover]
  | note event rest ih =>
    simp only [onStoreError, run, ih, Run.recover]
    split <;> rfl
  | keep m' rest ih => simp [onStoreError, run, ih]
  | consult next ih => simp [onStoreError, run, ih]
  | rows st next ih => simp [onStoreError, run, ih]
  | row st next ih => simp [onStoreError, run, ih]
  | execute st next ih => simp [onStoreError, run, ih]

end Program

end PuppetRegistry
