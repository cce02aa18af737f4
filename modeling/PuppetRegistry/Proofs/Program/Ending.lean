import PuppetRegistry.Proofs.Program.Crowd

/-!
# Crowds come to an end

A program is a tree of what it does next, and a task goes down its tree with every step, whatever is
replied and whatever others do to the records. Main statements: no crowd moves for ever, and one
that cannot move any more has ended.
-/

namespace PuppetRegistry

/-- One entry of a list gives way to one below it. -/
def OneBelow {α : Type} (below : α → α → Prop) (new old : List α) : Prop :=
  ∃ (i : Nat) (a a' : α), old[i]? = some a ∧ below a' a ∧ new = old.set i a'

/-- Where one cannot go down for ever from any entry, one cannot in the list. -/
theorem acc_oneBelow {α : Type} {below : α → α → Prop} {entries : List α}
    (each : ∀ a ∈ entries, Acc below a) : Acc (OneBelow below) entries := by
  induction entries with
  | nil =>
    refine ⟨_, ?_⟩
    rintro _ ⟨i, a, a', at_i, _⟩
    cases at_i
  | cons a rest ih =>
    have down := each a List.mem_cons_self
    have others := ih fun a mem => each a (List.mem_cons_of_mem _ mem)
    clear each ih
    -- Either the first entry goes down, or the rest does; neither can for ever.
    induction down generalizing rest with
    | intro a _ first =>
      induction others with
      | intro rest before later =>
        refine ⟨_, ?_⟩
        rintro _ ⟨i, b, b', at_i, lower, rfl⟩
        cases i with
        | zero =>
          cases at_i
          exact first b' lower rest ⟨rest, before⟩
        | succ i => exact later _ ⟨i, b, b', at_i, lower, rfl⟩

namespace Program

variable {κ σ μ α : Type}

/-- Whatever the record or the reply, where a task goes on. -/
def Task.Next (new : Task μ α) : Task μ α → Prop
  | running program => ∃ m, new = .paused (program.advance m).1
  | paused (.ended _) => False
  | paused (.rows _ next) => ∃ reply, new = .running (next reply)
  | paused (.row _ next) => ∃ reply, new = .running (next reply)
  | paused (.execute _ next) => ∃ reply, new = .running (next reply)

theorem acc_advance (p : Program μ α) (m : μ) :
    Acc Task.Next (.paused (p.advance m).1) := by
  induction p generalizing m with
  | done | raise => exact ⟨_, fun _ none => none.elim⟩
  | note _ _ ih => exact ih m
  | consult _ ih => exact ih m m
  | keep m' _ ih => exact ih m'
  | rows _ _ ih | row _ _ ih | execute _ _ ih =>
    refine ⟨_, ?_⟩
    rintro _ ⟨reply, rfl⟩
    refine ⟨_, ?_⟩
    rintro _ ⟨m', rfl⟩
    exact ih reply m'

theorem acc_running (p : Program μ α) : Acc Task.Next (.running p) := by
  refine ⟨_, ?_⟩
  rintro _ ⟨m, rfl⟩
  exact acc_advance p m

theorem acc_next (task : Task μ α) : Acc Task.Next task := by
  cases task with
  | running program => exact acc_running program
  | paused pause =>
    refine ⟨_, fun new next => ?_⟩
    cases pause with
    | ended => exact next.elim
    | rows | row | execute =>
      obtain ⟨reply, rfl⟩ := next
      exact acc_running _

theorem Pause.next_of_answer {h : Handle σ} {pause : Pause μ α} {s s' : σ} {program : Program μ α}
    (answer : pause.answer? h s = some (program, s')) :
    Task.Next (.running program) (.paused pause) := by
  cases pause with
  | ended => cases answer
  | rows | row | execute =>
    cases answer
    exact ⟨_, rfl⟩

namespace Crowd

variable [DecidableEq κ] {h : Handle σ} {c c' : Crowd κ σ μ α}

theorem Step.oneBelow (step : Step h c c') :
    OneBelow (fun new old => Task.Next new.2 old.2) c'.tasks c.tasks := by
  obtain ⟨i, k, ⟨program, at_i, rfl⟩ | ⟨pause, program, s, at_i, answer, rfl⟩⟩ := step.cases_at
  · exact ⟨i, _, _, at_i, ⟨_, rfl⟩, rfl⟩
  · exact ⟨i, _, _, at_i, Pause.next_of_answer answer, rfl⟩

/-- No crowd moves for ever. -/
theorem wellFounded_step (h : Handle σ) :
    WellFounded fun c' c : Crowd κ σ μ α => Step h c c' := by
  refine ⟨fun c => ?_⟩
  have entries : ∀ entry ∈ c.tasks,
      Acc (fun new old : κ × Task μ α => Task.Next new.2 old.2) entry :=
    fun entry _ => InvImage.accessible Prod.snd (acc_next entry.2)
  have down := InvImage.accessible Crowd.tasks (acc_oneBelow entries)
  exact Subrelation.accessible (fun step => step.oneBelow) down

def Ended (c : Crowd κ σ μ α) : Prop :=
  ∀ entry ∈ c.tasks, ∃ result, entry.2 = .paused (.ended result)

theorem exists_step_of_not_ended (h : Handle σ) (moving : ¬ c.Ended) : ∃ c', Step h c c' := by
  simp only [Ended, Classical.not_forall, not_exists] at moving
  obtain ⟨⟨k, task⟩, mem, going⟩ := moving
  obtain ⟨i, at_i⟩ := List.mem_iff_getElem?.mp mem
  have moves : ∃ c', c.stepAt? h i = some c' := by
    rw [stepAt?, at_i]
    cases task with
    | running program => exact ⟨_, rfl⟩
    | paused pause =>
      cases pause with
      | ended result => exact absurd rfl (going result)
      | rows | row | execute => exact ⟨_, rfl⟩
  obtain ⟨c', moved⟩ := moves
  exact ⟨c', step_of_stepAt? moved⟩

theorem exists_ended (h : Handle σ) (c : Crowd κ σ μ α) : ∃ c', Reach h c c' ∧ c'.Ended := by
  induction (wellFounded_step h).apply c with
  | intro c _ ih =>
    by_cases ended : c.Ended
    · exact ⟨c, .refl, ended⟩
    · obtain ⟨next, step⟩ := exists_step_of_not_ended h ended
      obtain ⟨c', reach, ended'⟩ := ih next step
      exact ⟨c', .head step reach, ended'⟩

end Crowd

end Program

end PuppetRegistry
