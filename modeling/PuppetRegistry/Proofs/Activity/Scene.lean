import PuppetRegistry.Proofs.Activity.Course

/-!
# Errands on copies of one puppet

A scene is what matters of a crowd of errands: the stored window, the copies, and where each errand
stands. Every step of the crowd is a move of the scene. The invariant of scenes says what is on its
way: a second that a copy knows is stored or about to be, and a first second that a copy has assumed
is the stored one or about to be put right.
-/

namespace PuppetRegistry.Activity

open Program Sqlite

variable {κ : Type} {user : String}

def Errand.second? : Errand → Option Int
  | record second => some second
  | load _ => none

def secondsOf (errands : List (κ × Errand)) : List Int :=
  errands.filterMap fun e => e.2.second?

/-- The stored window, the copies, and the courses of the errands on them. -/
structure Scene (κ : Type) where
  window : Window
  copies : κ → Puppet
  courses : List (κ × Course)

/-- The scene after the errand at a place has moved. -/
def Scene.moved [DecidableEq κ] (a : Scene κ) (i : Nat) (k : κ) (m : Puppet) (w : Window)
    (x : Course) : Scene κ :=
  ⟨w, replace a.copies k m, a.courses.set i (k, x)⟩

inductive Scene.Step [DecidableEq κ] (user : String) : Scene κ → Scene κ → Prop
  | move {a : Scene κ} {i k x m w x'} :
    a.courses[i]? = some (k, x) → Course.Move user (a.copies k) a.window x m w x' →
    Step user a (a.moved i k m w x')

/-- A crowd that looks like this. -/
structure Scene.Shows (user : String) (a : Scene κ) (c : Crowd κ File Puppet Bool) : Prop where
  store : c.store.Holds user a.window
  records : c.records = a.copies
  tasks : c.tasks = a.courses.map fun y => (y.1, y.2.task user)

theorem Scene.Shows.step [DecidableEq κ] {a : Scene κ} {c c' : Crowd κ File Puppet Bool}
    (shows : a.Shows user c) (users : ∀ k, (a.copies k).remoteId.user = user)
    (fits : ∀ y ∈ a.courses, ∀ second, y.2.second? = some second → fitsInteger second = true)
    (step : Crowd.Step File.handle c c') : ∃ a', Scene.Step user a a' ∧ a'.Shows user c' := by
  obtain ⟨i, k, ⟨program, at_i, rfl⟩ | ⟨pause, program, f', at_i, answer, rfl⟩⟩ := step.cases_at
  all_goals
    rw [shows.tasks, List.getElem?_map] at at_i
    obtain ⟨⟨k', x⟩, course, same⟩ := Option.map_eq_some_iff.mp at_i
    obtain ⟨rfl, stands⟩ := Prod.mk.inj same
  · obtain ⟨x', move, stands'⟩ := Course.move_of_advance (w := a.window) (users k') stands
    refine ⟨_, .move course move, shows.store, ?_, ?_⟩
    · simp only [Crowd.advanceAt, shows.records, moved]
    · simp only [Crowd.advanceAt, shows.records, shows.tasks, moved, List.map_set, stands']
  · obtain ⟨w', x', move, holds, stands'⟩ :=
      Course.move_of_answer (m := a.copies k') shows.store
        (fits _ (List.mem_of_getElem? course)) stands answer
    refine ⟨_, .move course move, holds, ?_, ?_⟩
    · simp only [Crowd.answerAt, shows.records, moved, replace_eq_self]
    · simp only [Crowd.answerAt, shows.tasks, moved, List.map_set, stands']

end PuppetRegistry.Activity
