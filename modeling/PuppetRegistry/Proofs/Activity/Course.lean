import PuppetRegistry.Lookup
import PuppetRegistry.Proofs.Activity.Stretches
import PuppetRegistry.Proofs.Activity.Window

/-!
# The course of an errand

Copies of one puppet are loaded from its row and record activity in it, all at once and in any order
of their statements. An errand is told by where it stands in its course. Main statement: on a file
that holds a window of the user, each step of such a crowd is a move of one errand, and a move sees
no more of the file than the window.
-/

namespace PuppetRegistry.Activity

open Program Sqlite

def load (server user : String) : Program Puppet Bool := do
  match ← Lookup.byId server ⟨user, server⟩ with
  | none => return false
  | some p =>
    revise fun _ => p
    return true

def afterRow (server : String) : Except Fault (Option (List Cell)) → Program Puppet Bool
  | .error fault => raise fault
  | .ok none => done false
  | .ok (some cells) =>
    match Lookup.decode server cells with
    | .error fault => raise fault
    | .ok p => consult fun _ => keep p (done true)

theorem load_eq (server user : String) :
    load server user = row (.selectUser user) (afterRow server) := by
  change row _ _ = row _ _
  congr 1
  funext reply
  rcases reply with fault | (_ | cells)
  · rfl
  · rfl
  · simp only [afterRow, bind_eq, Program.bind, Program.ofExcept, pure_eq]
    cases Lookup.decode server cells <;> rfl

/-- What a copy of a puppet is wanted for. -/
inductive Errand
  | record (second : Int)
  /-- Read the copy from the row, as a puppet of a server. -/
  | load (server : String)

def Errand.program (user : String) : Errand → Program Puppet Bool
  | record second => Puppet.recordActivity second
  | load server => Activity.load server user

/-- Where an errand stands: about to run on from a reply, or at the statement it has come to. -/
inductive Course
  | waiting (errand : Errand)
  | writing (second : Int)
  | written (second : Int)
  | claiming (second : Int)
  | claimed (second : Int) (won : Bool)
  | reading (second : Int)
  | read (second : Int) (stored : Option Int)
  | recorded (second : Int) (answer : Bool)
  | fetching (server : String)
  | fetched (server : String) (r : Row)
  | loaded (result : Except Fault Bool)

namespace Course

def task (user : String) : Course → Task Puppet Bool
  | waiting errand => .running (errand.program user)
  | writing second => .paused (.execute (.advanceLast second user) (Puppet.afterLast second))
  | written second => .running (Puppet.claimUnlessKnown second none)
  | claiming second => .paused (.execute (.claimFirst second user) (Puppet.afterClaim none))
  | claimed _ won => .running (Puppet.afterClaim none (.ok (if won then 1 else 0)))
  | reading _ => .paused (.row (.selectFirstActivity user) (Puppet.afterReadBack none))
  | read _ stored => .running (Puppet.afterReadBack none (.ok (some [.ofInt? stored])))
  | recorded _ answer => .paused (.ended (.ok answer))
  | fetching server => .paused (.row (.selectUser user) (afterRow server))
  | fetched server r => .running (afterRow server (.ok (some r.cells)))
  | loaded result => .paused (.ended result)

/-- The second that an errand is to record, if it is to record one. -/
def second? : Course → Option Int
  | waiting (.record second) | writing second | written second | claiming second
  | claimed second _ | reading second | read second _ | recorded second _ => some second
  | waiting (.load _) | fetching _ | fetched _ _ | loaded _ => none

/-- What an errand does next, to its copy and to the window. -/
inductive Move (user : String) : Puppet → Window → Course → Puppet → Window → Course → Prop
  | skip {m w second} : second ≤ m.lastActivity →
    Move user m w (.waiting (.record second)) m w (.recorded second false)
  | start {m w second} : m.lastActivity < second →
    Move user m w (.waiting (.record second))
      { m with lastActivity := second } w (.writing second)
  | write {m w second} : Move user m w (.writing second) m (w.raise second) (.written second)
  | known {m w second} : m.firstActivity ≠ 0 →
    Move user m w (.written second) m w (.recorded second true)
  | assume {m w second} : m.firstActivity = 0 →
    Move user m w (.written second) { m with firstActivity := second } w (.claiming second)
  | claim {m w second} :
    Move user m w (.claiming second) m (w.claim second) (.claimed second w.first.isNone)
  | won {m w second} : Move user m w (.claimed second true) m w (.recorded second true)
  | lost {m w second} : Move user m w (.claimed second false) m w (.reading second)
  | readBack {m w second} : Move user m w (.reading second) m w (.read second w.first)
  | adopt {m w second stored} :
    Move user m w (.read second stored)
      { m with firstActivity := stored.getD m.firstActivity } w (.recorded second true)
  | ask {m w server} : Move user m w (.waiting (.load server)) m w (.fetching server)
  | fetch {m w server r} : r.user = .text user → Row.Shows r w →
    Move user m w (.fetching server) m w (.fetched server r)
  | take {m w server r p} : Puppet.ofCells server r.cells = .ok p →
    Move user m w (.fetched server r) p w (.loaded (.ok true))
  | drop {m w server r fault} : Move user m w (.fetched server r) m w (.loaded (.error fault))

variable {user : String} {m : Puppet} {w : Window} {x : Course}

/-- A running errand comes to its next statement, or to its end, by a move that leaves the window
alone. -/
theorem move_of_advance (own : m.remoteId.user = user) {program : Program Puppet Bool}
    (runs : x.task user = .running program) :
    ∃ x', Move user m w x (program.advance m).2.1 w x' ∧
      x'.task user = .paused (program.advance m).1 := by
  cases x with
  | waiting errand =>
    cases errand with
    | record second =>
      cases runs
      simp only [Errand.program, Puppet.recordActivity_eq, advance]
      by_cases old : second ≤ m.lastActivity
      · rw [if_pos old]
        exact ⟨_, .skip old, rfl⟩
      · rw [if_neg old]
        exact ⟨_, .start (by omega), by simp [advance, own, task]⟩
    | load server =>
      cases runs
      simp only [Errand.program, load_eq, advance]
      exact ⟨_, .ask, rfl⟩
  | written second =>
    cases runs
    simp only [Puppet.claimUnlessKnown, advance]
    by_cases free : m.firstActivity = 0
    · rw [if_pos free]
      exact ⟨_, .assume free, by simp [advance, own, task]⟩
    · rw [if_neg free]
      exact ⟨_, .known free, rfl⟩
  | claimed second won =>
    cases runs
    cases won with
    | true => exact ⟨_, .won, rfl⟩
    | false => exact ⟨_, .lost, by subst own; rfl⟩
  | read second stored =>
    cases runs
    cases stored with
    | none => exact ⟨_, .adopt, rfl⟩
    | some first => exact ⟨_, .adopt, rfl⟩
  | fetched server r =>
    cases runs
    simp only [afterRow, Lookup.decode]
    cases decoded : Puppet.ofCells server r.cells with
    | error e => exact ⟨_, .drop, rfl⟩
    | ok p => exact ⟨_, .take decoded, rfl⟩
  | writing | claiming | reading | recorded | fetching | loaded => cases runs

/-- The statement of a paused errand takes effect by a move that leaves the copy alone. -/
theorem move_of_answer {f f' : File} (holds : f.Holds user w)
    (fits : ∀ second, x.second? = some second → fitsInteger second = true)
    {pause : Pause Puppet Bool} {program : Program Puppet Bool}
    (stands : x.task user = .paused pause)
    (answer : pause.answer? File.handle f = some (program, f')) :
    ∃ w' x', Move user m w x m w' x' ∧ f'.Holds user w' ∧ x'.task user = .running program := by
  cases x with
  | writing second =>
    cases stands
    obtain ⟨n, f₁, done, holds'⟩ := holds.advanceLast (fits second rfl)
    simp only [Pause.answer?, done] at answer
    cases answer
    exact ⟨_, _, .write, holds', rfl⟩
  | claiming second =>
    cases stands
    obtain ⟨f₁, done, holds'⟩ := holds.claimFirst (fits second rfl)
    simp only [Pause.answer?, done] at answer
    cases answer
    exact ⟨_, _, .claim, holds', rfl⟩
  | reading second =>
    cases stands
    simp only [Pause.answer?, holds.selectFirstActivity] at answer
    cases answer
    exact ⟨_, _, .readBack, holds, rfl⟩
  | fetching server =>
    cases stands
    obtain ⟨r, found, own, shows⟩ := holds.selectUser
    simp only [Pause.answer?, found] at answer
    cases answer
    exact ⟨_, _, .fetch own shows, holds, rfl⟩
  | recorded | loaded => cases stands; cases answer
  | waiting | written | claimed | read | fetched => cases stands

end Course

end PuppetRegistry.Activity
