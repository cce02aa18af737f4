import PuppetRegistry.Proofs.Activity.Scene

/-!
# What is on its way

The invariant of scenes. A second that a copy knows is stored or about to be written, and a first
second that a copy has assumed is the stored one or about to be put right by a course of that copy.
Every move keeps it.
-/

namespace PuppetRegistry.Activity

open Program Sqlite

variable {κ : Type} {user : String}

/-! ## Moves -/

theorem Course.Move.widens {m m' : Puppet} {w w' : Window} {x x' : Course}
    (move : Course.Move user m w x m' w' x') : w.Widens w' := by
  cases move with
  | write => exact Window.widens_raise _ _
  | claim => exact Window.widens_claim _ _
  | _ => exact .refl w

theorem Course.Move.second_eq {m m' : Puppet} {w w' : Window} {x x' : Course}
    (move : Course.Move user m w x m' w' x') : x'.second? = x.second? := by
  cases move <;> rfl

theorem user_of_ofCells {server : String} {r : Row} {p : Puppet}
    (decoded : Puppet.ofCells server r.cells = .ok p) (own : r.user = .text user) :
    p.remoteId.user = user := by
  have reads := (Puppet.ofCells_eq_ok_iff.mp decoded).user
  rw [own] at reads
  exact congrArg RemoteId.user (Except.ok.inj reads).symm

/-! ## The invariant -/

namespace Course

/-- What a course has seen of the window. -/
def Sound (user : String) (w : Window) : Course → Prop
  | written second | claiming second => ∃ l, w.last = some l ∧ second ≤ l
  | claimed _ _ | reading _ => ∃ f, w.first = some f
  | read _ stored => ∃ f, stored = some f ∧ w.first = some f
  | fetched _ r => r.user = .text user ∧ ∃ seen, Row.Shows r seen ∧ seen.Widens w
  | waiting _ | writing _ | recorded _ _ | fetching _ | loaded _ => True

def Settles (first : Int) : Course → Prop
  | claiming second => second = first
  | claimed _ false | reading _ | read _ _ => True
  | _ => False

def Claims : Course → Prop
  | written _ | claiming _ => True
  | _ => False

def Begun : Course → Prop
  | waiting _ => False
  | _ => True

theorem Sound.widens {w w' : Window} {x : Course} (sound : x.Sound user w) (wider : w.Widens w') :
    x.Sound user w' := by
  cases x with
  | written second | claiming second =>
    obtain ⟨l, held, le⟩ := sound
    obtain ⟨l', held', le'⟩ := wider.last l held
    exact ⟨l', held', Int.le_trans le le'⟩
  | claimed | reading =>
    obtain ⟨f, held⟩ := sound
    exact ⟨f, wider.first f held⟩
  | read =>
    obtain ⟨f, took, held⟩ := sound
    exact ⟨f, took, wider.first f held⟩
  | fetched =>
    obtain ⟨own, seen, shows, before⟩ := sound
    exact ⟨own, seen, shows, before.trans wider⟩
  | waiting | writing | recorded | fetching | loaded => trivial

/-- A course at rest that settles something has seen a first second, unless it is to claim one. -/
theorem Settles.claims {w : Window} {x : Course} {first : Int} (settles : x.Settles first)
    (sound : x.Sound user w) : x.Claims ∨ ∃ f, w.first = some f := by
  cases x with
  | claiming => exact .inl trivial
  | claimed _ won => exact .inr sound
  | reading => exact .inr sound
  | read =>
    obtain ⟨f, _, held⟩ := sound
    exact .inr ⟨f, held⟩
  | waiting | writing | written | recorded | fetching | fetched | loaded => cases settles

end Course

namespace Scene

/-- A second is stored or about to be written, it or a later one. -/
def Covers (a : Scene κ) (second : Int) : Prop :=
  second ≤ 0 ∨ (∃ l, a.window.last = some l ∧ second ≤ l) ∨
    ∃ k later, (k, Course.writing later) ∈ a.courses ∧ second ≤ later

/-- The first second of a copy is the stored one, or a course of the copy settles it. -/
def Settles (a : Scene κ) (k : κ) (first : Int) : Prop :=
  a.window.first = some first ∨ ∃ x, (k, x) ∈ a.courses ∧ x.Settles first

/-- What holds of every scene on the way of some errands. -/
structure Inv (user : String) (errands : List (κ × Errand)) (a : Scene κ) : Prop where
  users : ∀ k, (a.copies k).remoteId.user = user
  seconds : a.courses.map (fun y => (y.1, y.2.second?)) =
    errands.map (fun e => (e.1, e.2.second?))
  sound : ∀ y ∈ a.courses, y.2.Sound user a.window
  ordered : ∀ f, a.window.first = some f → ∃ l, a.window.last = some l ∧ f ≤ l
  firstAmong : ∀ f, a.window.first = some f → f ∈ secondsOf errands
  lastAmong : ∀ l, a.window.last = some l → l ∈ secondsOf errands
  /-- Every second is covered from when its course has begun. -/
  begun : ∀ y ∈ a.courses, y.2.Begun → ∀ second, y.2.second? = some second → a.Covers second
  /-- So is every second that a copy takes for the latest. -/
  latest : ∀ k, a.Covers (a.copies k).lastActivity
  settled : ∀ k, (a.copies k).firstActivity ≠ 0 → a.Settles k (a.copies k).firstActivity
  /-- With a latest second there is a first one, or a course is about to claim it. -/
  claimed : ∀ l, a.window.last = some l →
    (∃ f, a.window.first = some f) ∨ ∃ y ∈ a.courses, y.2.Claims

/-! ## Steps -/

section Step

variable [DecidableEq κ] {a : Scene κ} {errands : List (κ × Errand)} {i : Nat} {k : κ}
  {m : Puppet} {w : Window} {x x' : Course}

theorem mem_moved (m : Puppet) (w : Window) (x' : Course) {y : κ × Course}
    (at_i : a.courses[i]? = some (k, x)) (mem : y ∈ a.courses) :
    y = (k, x) ∨ y ∈ (a.moved i k m w x').courses := by
  obtain ⟨j, at_j⟩ := List.getElem?_of_mem mem
  by_cases same : i = j
  · subst same
    exact .inl (Option.some.inj (at_j.symm.trans at_i))
  · right
    apply List.mem_of_getElem? (i := j)
    rw [moved, List.getElem?_set_ne same, at_j]

theorem mem_moved_self (at_i : a.courses[i]? = some (k, x)) :
    (k, x') ∈ (a.moved i k m w x').courses :=
  List.mem_set (List.getElem?_eq_some_iff.mp at_i).choose _

theorem forall_moved {good : κ × Course → Prop} (old : ∀ y ∈ a.courses, good y)
    (new : good (k, x')) : ∀ y ∈ (a.moved i k m w x').courses, good y := by
  intro y mem
  rcases List.mem_or_eq_of_mem_set mem with mem | rfl
  · exact old y mem
  · exact new

theorem forall_copies_moved (good : κ → Puppet → Prop)
    (others : ∀ k', k' ≠ k → good k' (a.copies k')) (own : good k m) :
    ∀ k', good k' ((a.moved i k m w x').copies k') := by
  intro k'
  by_cases same : k' = k
  · subst same
    change good k' (replace a.copies k' m k')
    rw [replace_same]
    exact own
  · change good k' (replace a.copies k m k')
    rw [replace_of_ne _ _ same]
    exact others k' same

omit [DecidableEq κ] in
theorem Covers.le {second second' : Int} (covers : a.Covers second) (le : second' ≤ second) :
    a.Covers second' := by
  rcases covers with none_yet | ⟨l, held, le'⟩ | ⟨k, later, mem, le'⟩
  · exact .inl (by omega)
  · exact .inr (.inl ⟨l, held, by omega⟩)
  · exact .inr (.inr ⟨k, later, mem, by omega⟩)

/-- What is covered stays so: the write that covers it takes effect, or is still to come. -/
theorem Covers.moved {second : Int} (covers : a.Covers second)
    (at_i : a.courses[i]? = some (k, x)) (move : Course.Move user (a.copies k) a.window x m w x') :
    (a.moved i k m w x').Covers second := by
  rcases covers with none_yet | ⟨l, held, le⟩ | ⟨k', later, mem, le⟩
  · exact .inl none_yet
  · obtain ⟨l', held', le'⟩ := move.widens.last l held
    exact .inr (.inl ⟨l', held', by omega⟩)
  · rcases mem_moved m w x' at_i mem with same | mem'
    · obtain ⟨rfl, rfl⟩ := Prod.mk.inj same
      cases move
      obtain ⟨l, held, le'⟩ := Window.last_raise later a.window
      exact .inr (.inl ⟨l, held, by omega⟩)
    · exact .inr (.inr ⟨k', later, mem', le⟩)

namespace Inv

theorem users_moved (inv : a.Inv user errands) (at_i : a.courses[i]? = some (k, x))
    (move : Course.Move user (a.copies k) a.window x m w x') :
    ∀ k', ((a.moved i k m w x').copies k').remoteId.user = user := by
  have own := inv.users k
  apply forall_copies_moved (fun _ m => m.remoteId.user = user) fun k' _ => inv.users k'
  cases move with
  | take decoded =>
    obtain ⟨own', _⟩ := inv.sound _ (List.mem_of_getElem? at_i)
    exact user_of_ofCells decoded own'
  | _ => exact own

theorem seconds_moved (inv : a.Inv user errands) (at_i : a.courses[i]? = some (k, x))
    (move : Course.Move user (a.copies k) a.window x m w x') :
    (a.moved i k m w x').courses.map (fun y => (y.1, y.2.second?)) =
      errands.map (fun e => (e.1, e.2.second?)) := by
  have same : (a.courses.map fun y => (y.1, y.2.second?))[i]? = some (k, x.second?) := by
    rw [List.getElem?_map, at_i]
    rfl
  obtain ⟨bound, he⟩ := List.getElem?_eq_some_iff.mp same
  rw [← inv.seconds, moved, List.map_set, move.second_eq, ← he]
  exact List.set_getElem_self bound

theorem sound_moved (inv : a.Inv user errands) (at_i : a.courses[i]? = some (k, x))
    (move : Course.Move user (a.copies k) a.window x m w x') :
    ∀ y ∈ (a.moved i k m w x').courses, y.2.Sound user w := by
  have sound := inv.sound _ (List.mem_of_getElem? at_i)
  apply forall_moved fun y mem => (inv.sound y mem).widens move.widens
  cases move with
  | write => exact Window.last_raise _ _
  | assume => exact sound
  | claim => exact ⟨_, rfl⟩
  | lost => exact sound
  | readBack =>
    obtain ⟨f, held⟩ := sound
    exact ⟨f, held, held⟩
  | fetch own shows => exact ⟨own, a.window, shows, .refl _⟩
  | _ => trivial

omit [DecidableEq κ] in
theorem ordered_moved (inv : a.Inv user errands) (at_i : a.courses[i]? = some (k, x))
    (move : Course.Move user (a.copies k) a.window x m w x') :
    ∀ f, w.first = some f → ∃ l, w.last = some l ∧ f ≤ l := by
  intro f held
  cases move with
  | write =>
    obtain ⟨l, last, le⟩ := inv.ordered f held
    obtain ⟨l', last', le'⟩ := (Window.widens_raise _ a.window).last l last
    exact ⟨l', last', Int.le_trans le le'⟩
  | claim =>
    rcases Window.of_first_claim held with rfl | first
    · exact inv.sound _ (List.mem_of_getElem? at_i)
    · exact inv.ordered f first
  | _ => exact inv.ordered f held

omit [DecidableEq κ] in
theorem second_mem (inv : a.Inv user errands) {y : κ × Course} (mem : y ∈ a.courses) {second : Int}
    (records : y.2.second? = some second) : second ∈ secondsOf errands := by
  have same : (y.1, some second) ∈ errands.map (fun e => (e.1, e.2.second?)) := by
    rw [← inv.seconds, ← records]
    exact List.mem_map_of_mem mem
  obtain ⟨e, he, pair⟩ := List.mem_map.mp same
  exact List.mem_filterMap.mpr ⟨e, he, (Prod.mk.inj pair).2⟩

omit [DecidableEq κ] in
theorem firstAmong_moved (inv : a.Inv user errands) (at_i : a.courses[i]? = some (k, x))
    (move : Course.Move user (a.copies k) a.window x m w x') :
    ∀ f, w.first = some f → f ∈ secondsOf errands := by
  intro f held
  cases move with
  | claim =>
    rcases Window.of_first_claim held with rfl | first
    · exact inv.second_mem (List.mem_of_getElem? at_i) rfl
    · exact inv.firstAmong f first
  | _ => exact inv.firstAmong f held

omit [DecidableEq κ] in
theorem lastAmong_moved (inv : a.Inv user errands) (at_i : a.courses[i]? = some (k, x))
    (move : Course.Move user (a.copies k) a.window x m w x') :
    ∀ l, w.last = some l → l ∈ secondsOf errands := by
  intro l held
  cases move with
  | write =>
    rcases Window.of_last_raise held with rfl | last
    · exact inv.second_mem (List.mem_of_getElem? at_i) rfl
    · exact inv.lastAmong l last
  | _ => exact inv.lastAmong l held

theorem begun_moved (inv : a.Inv user errands) (at_i : a.courses[i]? = some (k, x))
    (move : Course.Move user (a.copies k) a.window x m w x') :
    ∀ y ∈ (a.moved i k m w x').courses, y.2.Begun → ∀ second, y.2.second? = some second →
      (a.moved i k m w x').Covers second := by
  have still : ∀ {second}, a.Covers second → (a.moved i k m w x').Covers second :=
    fun covers => covers.moved at_i move
  apply forall_moved
  · intro y mem begun second records
    exact still (inv.begun y mem begun second records)
  · intro _ second records
    have own := inv.begun _ (List.mem_of_getElem? at_i)
    rw [move.second_eq] at records
    cases move with
    | skip le =>
      -- The copy takes a later second for the latest, and that one is covered already.
      cases records
      exact still ((inv.latest k).le le)
    | start =>
      cases records
      exact .inr (.inr ⟨k, _, mem_moved_self at_i, Int.le_refl _⟩)
    | ask => cases records
    | _ => exact still (own trivial second records)

theorem latest_moved (inv : a.Inv user errands) (at_i : a.courses[i]? = some (k, x))
    (move : Course.Move user (a.copies k) a.window x m w x') :
    ∀ k', (a.moved i k m w x').Covers ((a.moved i k m w x').copies k').lastActivity := by
  have still : ∀ {second}, a.Covers second → (a.moved i k m w x').Covers second :=
    fun covers => covers.moved at_i move
  apply forall_copies_moved (fun _ m' => (a.moved i k m w x').Covers m'.lastActivity)
  · exact fun k' _ => still (inv.latest k')
  · have own := inv.latest k
    cases move with
    | start => exact .inr (.inr ⟨k, _, mem_moved_self at_i, Int.le_refl _⟩)
    | take decoded =>
      obtain ⟨_, seen, shows, before⟩ := inv.sound _ (List.mem_of_getElem? at_i)
      rw [(shows.window_eq (Puppet.ofCells_eq_ok_iff.mp decoded)).2]
      cases held : seen.last with
      | none => exact .inl (Int.le_refl 0)
      | some l =>
        obtain ⟨l', held', le⟩ := before.last l held
        exact .inr (.inl ⟨l', held', le⟩)
    | _ => exact still own

/-- What is settled for a copy stays so, unless the copy changes. -/
theorem settles_moved (inv : a.Inv user errands) (at_i : a.courses[i]? = some (k, x))
    (move : Course.Move user (a.copies k) a.window x m w x') {k' : κ} {first : Int}
    (settles : a.Settles k' first) (same : k' = k → m.firstActivity = first) :
    (a.moved i k m w x').Settles k' first := by
  rcases settles with held | ⟨y, mem, settles⟩
  · exact .inl (move.widens.first first held)
  · rcases mem_moved m w x' at_i mem with mover | mem'
    · obtain ⟨rfl, rfl⟩ := Prod.mk.inj mover
      have seen := inv.sound _ (List.mem_of_getElem? at_i)
      cases move with
      | claim =>
        obtain rfl : _ = first := settles
        cases free : a.window.first with
        | none => exact .inl (by simp [moved, Window.claim, free])
        | some f => exact .inr ⟨_, mem_moved_self at_i, by simp [Course.Settles]⟩
      | lost => exact .inr ⟨_, mem_moved_self at_i, trivial⟩
      | readBack => exact .inr ⟨_, mem_moved_self at_i, trivial⟩
      | adopt =>
        obtain ⟨f, rfl, held⟩ := seen
        obtain rfl : f = first := same rfl
        exact .inl held
      | _ => cases settles
    · exact .inr ⟨y, mem', settles⟩

theorem settled_moved (inv : a.Inv user errands) (at_i : a.courses[i]? = some (k, x))
    (move : Course.Move user (a.copies k) a.window x m w x') :
    ∀ k', ((a.moved i k m w x').copies k').firstActivity ≠ 0 →
      (a.moved i k m w x').Settles k' ((a.moved i k m w x').copies k').firstActivity := by
  apply forall_copies_moved fun k' m' =>
    m'.firstActivity ≠ 0 → (a.moved i k m w x').Settles k' m'.firstActivity
  · intro k' other known
    exact inv.settles_moved at_i move (inv.settled k' known) fun same => absurd same other
  · intro known
    have kept : m.firstActivity = (a.copies k).firstActivity →
        (a.moved i k m w x').Settles k m.firstActivity := by
      intro same
      rw [same] at known
      exact inv.settles_moved at_i move (same ▸ inv.settled k known) fun _ => rfl
    have seen := inv.sound _ (List.mem_of_getElem? at_i)
    cases move with
    | assume => exact .inr ⟨_, mem_moved_self at_i, rfl⟩
    | adopt =>
      obtain ⟨f, rfl, held⟩ := seen
      exact .inl held
    | take decoded =>
      obtain ⟨_, seen, shows, before⟩ := seen
      have first := (shows.window_eq (Puppet.ofCells_eq_ok_iff.mp decoded)).1
      cases held : seen.first with
      | none => exact absurd (by rw [first, held]; rfl) known
      | some f =>
        rw [first, held]
        exact .inl (before.first f held)
    | _ => exact kept rfl

theorem claimed_moved (inv : a.Inv user errands) (at_i : a.courses[i]? = some (k, x))
    (move : Course.Move user (a.copies k) a.window x m w x') :
    ∀ l, w.last = some l →
      (∃ f, w.first = some f) ∨ ∃ y ∈ (a.moved i k m w x').courses, y.2.Claims := by
  intro l held
  have kept : a.window.last = some l → ¬ x.Claims → a.window = w →
      (∃ f, w.first = some f) ∨ ∃ y ∈ (a.moved i k m w x').courses, y.2.Claims := by
    intro held other same
    rcases inv.claimed l held with first | ⟨y, mem, claims⟩
    · exact .inl (same ▸ first)
    · rcases mem_moved m w x' at_i mem with rfl | mem'
      · exact absurd claims other
      · exact .inr ⟨y, mem', claims⟩
  cases move with
  | write => exact .inr ⟨_, mem_moved_self at_i, trivial⟩
  | known known =>
    rcases inv.settled k known with first | ⟨y, mem, settles⟩
    · exact .inl ⟨_, first⟩
    · rcases settles.claims (inv.sound _ mem) with claims | first
      · rcases mem_moved (a.copies k) a.window (.recorded _ true) at_i mem with mover | mem'
        · obtain ⟨_, rfl⟩ := Prod.mk.inj mover
          cases settles
        · exact .inr ⟨_, mem', claims⟩
      · exact .inl first
  | assume => exact .inr ⟨_, mem_moved_self at_i, trivial⟩
  | claim => exact .inl ⟨_, rfl⟩
  | _ => exact kept held id rfl

theorem step {a' : Scene κ} (inv : a.Inv user errands) (step : Step user a a') :
    a'.Inv user errands := by
  cases step with
  | move at_i move =>
    exact {
      users := inv.users_moved at_i move
      seconds := inv.seconds_moved at_i move
      sound := inv.sound_moved at_i move
      ordered := inv.ordered_moved at_i move
      firstAmong := inv.firstAmong_moved at_i move
      lastAmong := inv.lastAmong_moved at_i move
      begun := inv.begun_moved at_i move
      latest := inv.latest_moved at_i move
      settled := inv.settled_moved at_i move
      claimed := inv.claimed_moved at_i move }

end Inv

end Step

end Scene

end PuppetRegistry.Activity
