import Mathlib.Logic.Relation
import PuppetRegistry.Program.Interleaving

/-!
# Runs of a crowd

What one step of a crowd does to its task, its records and its store, told by the place of the task
that moves. A statement moves the store as the handle says; nothing else does.
-/

namespace PuppetRegistry

def Handle.Moves {σ : Type} (h : Handle σ) (statement : Statement) (s s' : σ) : Prop :=
  s' = (h.rows statement s).2 ∨ s' = (h.row statement s).2 ∨ s' = (h.execute statement s).2

/-- A reply, or a failure without effect where one is due. -/
def failNext {σ α : Type} (reply : σ → Except Fault α × σ) :
    List (Option StoreError) × σ → Except Fault α × (List (Option StoreError) × σ)
  | (some error :: rest, s) => (.error (.storage error), rest, s)
  | (none :: rest, s) => ((reply s).1, rest, (reply s).2)
  | ([], s) => ((reply s).1, [], (reply s).2)

/-- A handle whose statements fail without effect in the order of a list, `none` being no failure.
After the end of the list none fails. -/
def Handle.failing {σ : Type} (h : Handle σ) : Handle (List (Option StoreError) × σ) where
  rows statement := failNext (h.rows statement)
  row statement := failNext (h.row statement)
  execute statement := failNext (h.execute statement)

theorem failNext_of_works {σ α : Type} (reply : σ → Except Fault α × σ)
    {failures : List (Option StoreError)} (works : ∀ e, failures.head? ≠ some (some e)) (s : σ) :
    failNext reply (failures, s) = ((reply s).1, failures.tail, (reply s).2) := by
  cases failures with
  | nil => rfl
  | cons due rest =>
    cases due with
    | none => rfl
    | some e => exact absurd rfl (works e)

theorem snd_failNext {σ α : Type} (reply : σ → Except Fault α × σ)
    (s : List (Option StoreError) × σ) :
    (failNext reply s).2.2 = s.2 ∨ (failNext reply s).2.2 = (reply s.2).2 := by
  obtain ⟨_ | ⟨_ | error, rest⟩, s⟩ := s
  · exact .inr rfl
  · exact .inr rfl
  · exact .inl rfl

theorem Handle.moves_failing {σ : Type} {h : Handle σ} {statement : Statement}
    {s s' : List (Option StoreError) × σ} (moves : h.failing.Moves statement s s') :
    s'.2 = s.2 ∨ h.Moves statement s.2 s'.2 := by
  rcases moves with rfl | rfl | rfl
  · exact (snd_failNext (h.rows statement) s).imp id .inl
  · exact (snd_failNext (h.row statement) s).imp id fun same => .inr (.inl same)
  · exact (snd_failNext (h.execute statement) s).imp id fun same => .inr (.inr same)

namespace Program

variable {κ σ μ α : Type}

namespace Crowd

variable [DecidableEq κ] {h : Handle σ} {c c' : Crowd κ σ μ α}

/-- Any number of steps. -/
abbrev Reach (h : Handle σ) : Crowd κ σ μ α → Crowd κ σ μ α → Prop :=
  Relation.ReflTransGen (Step h)

def advanceAt (c : Crowd κ σ μ α) (i : Nat) (k : κ) (program : Program μ α) : Crowd κ σ μ α :=
  let (pause, m, _) := program.advance (c.records k)
  ⟨c.store, replace c.records k m, c.tasks.set i (k, .paused pause)⟩

def answerAt (c : Crowd κ σ μ α) (i : Nat) (k : κ) (program : Program μ α) (s : σ) :
    Crowd κ σ μ α :=
  ⟨s, c.records, c.tasks.set i (k, .running program)⟩

/-- All that a step can be, by the place of the task that moves. -/
theorem Step.cases_at (step : Step h c c') : ∃ i k,
    (∃ program, c.tasks[i]? = some (k, .running program) ∧ c' = c.advanceAt i k program) ∨
    (∃ pause program s, c.tasks[i]? = some (k, .paused pause) ∧
      pause.answer? h c.store = some (program, s) ∧ c' = c.answerAt i k program s) := by
  cases step with
  | @advance s records before k program after pause m events stop =>
    refine ⟨before.length, k, .inl ⟨program, by simp, ?_⟩⟩
    simp [advanceAt, stop]
  | @answer s s' records before k pause after program answer =>
    refine ⟨before.length, k, .inr ⟨pause, program, s', by simp, answer, ?_⟩⟩
    simp [answerAt]

/-- The crowd after the task at a place has made its next step, if it has one. -/
def stepAt? (h : Handle σ) (c : Crowd κ σ μ α) (i : Nat) : Option (Crowd κ σ μ α) :=
  match c.tasks[i]? with
  | none => none
  | some (k, .running program) => some (c.advanceAt i k program)
  | some (k, .paused pause) =>
    (pause.answer? h c.store).map fun (program, s) => c.answerAt i k program s

theorem step_of_stepAt? {i : Nat} (moved : c.stepAt? h i = some c') : Step h c c' := by
  obtain ⟨s, records, tasks⟩ := c
  unfold stepAt? at moved
  split at moved
  · cases moved
  · rename_i k program at_i
    cases moved
    obtain ⟨bound, he⟩ := List.getElem?_eq_some_iff.mp at_i
    have parts : tasks = tasks.take i ++ (k, .running program) :: tasks.drop (i + 1) := by
      rw [← he, List.getElem_cons_drop, List.take_append_drop]
    simp only [advanceAt]
    rw [List.set_eq_take_append_cons_drop, if_pos bound]
    conv => lhs; rw [parts]
    exact .advance rfl
  · rename_i k pause at_i
    obtain ⟨⟨program, s'⟩, answer, rfl⟩ := Option.map_eq_some_iff.mp moved
    obtain ⟨bound, he⟩ := List.getElem?_eq_some_iff.mp at_i
    have parts : tasks = tasks.take i ++ (k, .paused pause) :: tasks.drop (i + 1) := by
      rw [← he, List.getElem_cons_drop, List.take_append_drop]
    simp only [answerAt]
    rw [List.set_eq_take_append_cons_drop, if_pos bound]
    conv => lhs; rw [parts]
    exact .answer answer

/-- Let tasks make steps in the order of their places. A task that has ended is passed over. -/
def follow (h : Handle σ) : (schedule : List Nat) → Crowd κ σ μ α → Crowd κ σ μ α
  | [], c => c
  | i :: rest, c => follow h rest ((c.stepAt? h i).getD c)

theorem reach_follow (schedule : List Nat) (c : Crowd κ σ μ α) : Reach h c (c.follow h schedule) := by
  induction schedule generalizing c with
  | nil => exact .refl
  | cons i rest ih =>
    cases moved : c.stepAt? h i with
    | none => simpa [follow, moved] using ih c
    | some c' =>
      rw [follow, moved]
      exact .head (step_of_stepAt? moved) (ih c')

theorem Reach.keeps (kept : Crowd κ σ μ α → Prop) (reach : Reach h c c') (start : kept c)
    (step : ∀ {c c'}, Step h c c' → kept c → kept c') : kept c' := by
  induction reach with
  | refl => exact start
  | tail _ last ih => exact step last ih

end Crowd

@[simp] theorem replace_same [DecidableEq κ] (records : κ → μ) (k : κ) (m : μ) :
    replace records k m k = m := by
  simp [replace]

theorem replace_of_ne [DecidableEq κ] (records : κ → μ) {k i : κ} (m : μ) (h : i ≠ k) :
    replace records k m i = records i := by
  simp [replace, h]

theorem replace_eq_self [DecidableEq κ] (records : κ → μ) (k : κ) :
    replace records k (records k) = records := by
  funext i
  unfold replace
  split
  · next h => rw [h]
  · rfl

/-- What holds of all records and of a new one holds of all records after it is put in. -/
theorem forall_replace [DecidableEq κ] {records : κ → μ} {good : μ → Prop}
    (old : ∀ i, good (records i)) {k : κ} {m : μ} (new : good m) (i : κ) :
    good (replace records k m i) := by
  unfold replace
  split
  · exact new
  · exact old i

end Program

end PuppetRegistry
