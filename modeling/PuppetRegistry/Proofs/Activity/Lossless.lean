import PuppetRegistry.Proofs.Activity.Pending

/-!
# No activity is lost

Copies of a puppet without activity, new ones or read from its row at any time, record activity in
any seconds and in any order of their statements. Main statement: the stored window never runs
backwards, and once all is recorded it ends with the latest of the seconds, begins with one of them,
and no copy knows another beginning.
-/

namespace PuppetRegistry.Activity

open Program Sqlite

variable {κ : Type} {user : String} {errands : List (κ × Errand)}

def crowdOf (user : String) (f : File) (copies : κ → Puppet) (errands : List (κ × Errand)) :
    Crowd κ File Puppet Bool :=
  ⟨f, copies, errands.map fun e => (e.1, .running (e.2.program user))⟩

def sceneOf (copies : κ → Puppet) (errands : List (κ × Errand)) : Scene κ :=
  ⟨⟨none, none⟩, copies, errands.map fun e => (e.1, .waiting e.2)⟩

structure Fresh (user : String) (p : Puppet) : Prop where
  own : p.remoteId.user = user
  first : p.firstActivity = 0
  last : p.lastActivity = 0

theorem inv_sceneOf {copies : κ → Puppet} (fresh : ∀ k, Fresh user (copies k)) :
    (sceneOf copies errands).Inv user errands := by
  have waits : ∀ y ∈ (sceneOf copies errands).courses, ∃ errand, y.2 = .waiting errand := by
    intro y mem
    obtain ⟨e, _, rfl⟩ := List.mem_map.mp mem
    exact ⟨e.2, rfl⟩
  constructor
  case users => exact fun k => (fresh k).own
  case seconds =>
    rw [sceneOf, List.map_map]
    apply List.map_congr_left
    rintro ⟨k, second | server⟩ _ <;> rfl
  case sound =>
    intro y mem
    obtain ⟨errand, waiting⟩ := waits y mem
    rw [waiting]
    trivial
  case begun =>
    intro y mem begun
    obtain ⟨errand, waiting⟩ := waits y mem
    rw [waiting] at begun
    cases begun
  case latest => exact fun k => .inl (Int.le_of_eq (fresh k).last)
  case settled => exact fun k known => absurd (fresh k).first known
  case ordered | firstAmong | lastAmong | claimed => exact fun _ held => by cases held

theorem shows_sceneOf {f : File} (holds : f.Holds user ⟨none, none⟩) (copies : κ → Puppet) :
    (sceneOf copies errands).Shows user (crowdOf user f copies errands) := by
  refine ⟨holds, rfl, ?_⟩
  rw [crowdOf, sceneOf, List.map_map]
  rfl

/-- Every crowd on the way looks like a scene on the way. -/
theorem exists_scene [DecidableEq κ] {f : File} {copies : κ → Puppet}
    (holds : f.Holds user ⟨none, none⟩) (fresh : ∀ k, Fresh user (copies k))
    (fits : ∀ second ∈ secondsOf errands, fitsInteger second = true)
    {c : Crowd κ File Puppet Bool}
    (reach : Crowd.Reach File.handle (crowdOf user f copies errands) c) :
    ∃ a : Scene κ, a.Shows user c ∧ a.Inv user errands := by
  apply reach.keeps fun c => ∃ a : Scene κ, a.Shows user c ∧ a.Inv user errands
  · exact ⟨_, shows_sceneOf holds copies, inv_sceneOf fresh⟩
  · rintro c c' step ⟨a, shows, inv⟩
    obtain ⟨a', moved, shows'⟩ := shows.step inv.users
      (fun y mem second records => fits second (inv.second_mem mem records)) step
    exact ⟨a', shows', inv.step moved⟩

/-! ## The end -/

def AllRecorded (errands : List (κ × Errand)) (c : Crowd κ File Puppet Bool) : Prop :=
  ∀ (i : Nat) (k : κ) (second : Int), errands[i]? = some (k, .record second) →
    ∃ result, c.tasks[i]? = some (k, .paused (.ended result))

theorem Course.eq_recorded {x : Course} {result : Except Fault Bool} {second : Int}
    (ended : x.task user = .paused (.ended result)) (records : x.second? = some second) :
    ∃ answer, x = .recorded second answer := by
  cases x with
  | recorded second answer =>
    cases records
    exact ⟨answer, rfl⟩
  | loaded => cases records
  | writing | claiming | reading | fetching => cases ended
  | waiting | written | claimed | read | fetched => cases ended

theorem Errand.eq_record {errand : Errand} {second : Int} (records : errand.second? = some second) :
    errand = .record second := by
  cases errand with
  | record => cases records; rfl
  | load => cases records

namespace Scene

variable {a : Scene κ} {c : Crowd κ File Puppet Bool}

theorem Inv.eq_recorded (inv : a.Inv user errands) (shows : a.Shows user c)
    (all : AllRecorded errands c) {y : κ × Course} (mem : y ∈ a.courses) {second : Int}
    (records : y.2.second? = some second) : ∃ answer, y.2 = .recorded second answer := by
  obtain ⟨i, at_i⟩ := List.getElem?_of_mem mem
  have pair : (errands.map fun e => (e.1, e.2.second?))[i]? = some (y.1, some second) := by
    rw [← inv.seconds, List.getElem?_map, at_i, ← records]
    rfl
  rw [List.getElem?_map] at pair
  obtain ⟨⟨k, errand⟩, at_errand, same⟩ := Option.map_eq_some_iff.mp pair
  obtain rfl := Errand.eq_record (Prod.mk.inj same).2
  obtain ⟨result, ended⟩ := all i k second at_errand
  rw [shows.tasks, List.getElem?_map, at_i] at ended
  exact Course.eq_recorded (Prod.mk.inj (Option.some.inj ended)).2 records

/-- In the end nothing is left to be written: each second is stored, it or a later one. -/
theorem Inv.le_last (inv : a.Inv user errands) (shows : a.Shows user c)
    (all : AllRecorded errands c) {second : Int} (mem : second ∈ secondsOf errands)
    (positive : 1 ≤ second) : ∃ l, a.window.last = some l ∧ second ≤ l := by
  obtain ⟨e, he, records⟩ := List.mem_filterMap.mp mem
  have pair : (e.1, some second) ∈ a.courses.map fun y => (y.1, y.2.second?) := by
    rw [inv.seconds, ← records]
    exact List.mem_map_of_mem he
  obtain ⟨y, hy, same⟩ := List.mem_map.mp pair
  have records' : y.2.second? = some second := (Prod.mk.inj same).2
  obtain ⟨answer, recorded⟩ := inv.eq_recorded shows all hy records'
  have begun : y.2.Begun := by
    rw [recorded]
    trivial
  rcases inv.begun y hy begun second records' with none_yet | stored | ⟨k, later, writes, _⟩
  · omega
  · exact stored
  · obtain ⟨_, recorded'⟩ := inv.eq_recorded shows all writes rfl
    cases recorded'

/-- In the end no course is left to claim or to settle a first second. -/
theorem Inv.first_settled (inv : a.Inv user errands) (shows : a.Shows user c)
    (all : AllRecorded errands c) {k : κ} (known : (a.copies k).firstActivity ≠ 0) :
    a.window.first = some (a.copies k).firstActivity := by
  rcases inv.settled k known with first | ⟨x, mem, settles⟩
  · exact first
  · exfalso
    cases x with
    | claiming second | claimed second | reading second | read second =>
      obtain ⟨_, recorded⟩ := inv.eq_recorded shows all mem rfl
      cases recorded
    | waiting | writing | written | recorded | fetching | fetched | loaded => cases settles

theorem Inv.exists_first (inv : a.Inv user errands) (shows : a.Shows user c)
    (all : AllRecorded errands c) {l : Int} (held : a.window.last = some l) :
    ∃ first, a.window.first = some first := by
  rcases inv.claimed l held with first | ⟨⟨k, x⟩, mem, claims⟩
  · exact first
  · exfalso
    cases x with
    | written second | claiming second =>
      obtain ⟨_, recorded⟩ := inv.eq_recorded shows all mem rfl
      cases recorded
    | waiting | writing | claimed | reading | read | recorded | fetching | fetched | loaded =>
      cases claims

end Scene

/-- Start from a row without activity and copies that have seen none. On every way the stored
window does not run backwards. Once all is recorded, its end is the latest second, its beginning is
one of the seconds, and a copy that knows a beginning knows this one. -/
theorem no_activity_lost [DecidableEq κ] {f : File} {t : Table} {r : Row} (ready : f.Ready t)
    (stored : r ∈ t) (own : r.user = .text user) (noFirst : r.firstActivity = .null)
    (noLast : r.lastActivity = .null) {copies : κ → Puppet} (fresh : ∀ k, Fresh user (copies k))
    (range : ∀ second ∈ secondsOf errands, 1 ≤ second ∧ second < 2 ^ 63)
    {c : Crowd κ File Puppet Bool}
    (reach : Crowd.Reach File.handle (crowdOf user f copies errands) c) :
    ∃ w : Window, c.store.Holds user w ∧
      (∀ first, w.first = some first → ∃ last, w.last = some last ∧ first ≤ last) ∧
      (AllRecorded errands c → secondsOf errands ≠ [] →
        ∃ first ∈ secondsOf errands, ∃ last ∈ secondsOf errands,
          w.first = some first ∧ w.last = some last ∧
          (∀ second ∈ secondsOf errands, second ≤ last) ∧
          ∀ k, (c.records k).firstActivity ≠ 0 → (c.records k).firstActivity = first) := by
  have holds : f.Holds user ⟨none, none⟩ :=
    ⟨t, r, ready, ready.keyed.rowsOf_eq stored own, noFirst, noLast⟩
  have fits : ∀ second ∈ secondsOf errands, fitsInteger second = true := by
    intro second mem
    have bounds := range second mem
    simp only [fitsInteger, Bool.and_eq_true, decide_eq_true_eq]
    omega
  obtain ⟨a, shows, inv⟩ := exists_scene holds fresh fits reach
  refine ⟨a.window, shows.store, inv.ordered, fun all some_second => ?_⟩
  obtain ⟨second, mem⟩ := List.exists_mem_of_ne_nil _ some_second
  obtain ⟨last, held, _⟩ := inv.le_last shows all mem (range second mem).1
  obtain ⟨first, began⟩ := inv.exists_first shows all held
  refine ⟨first, inv.firstAmong first began, last, inv.lastAmong last held, began, held, ?_, ?_⟩
  · intro second mem
    obtain ⟨last', held', le⟩ := inv.le_last shows all mem (range second mem).1
    rw [held] at held'
    cases held'
    exact le
  · intro k known
    rw [shows.records] at known ⊢
    have same := inv.first_settled shows all known
    rw [began] at same
    exact (Option.some.inj same).symm

def newRow : Row :=
  Puppet.toRow { remoteId := ⟨"ada", "remote.example"⟩ }

def threeErrands : List (Bool × Errand) :=
  [(false, .record 5), (true, .record 7), (false, .load "remote.example")]

/-- The three errands after they have met at every statement. -/
def meeting : Crowd Bool File Puppet Bool :=
  (crowdOf "ada" { table := some [newRow] } (fun _ => { remoteId := ⟨"ada", "remote.example"⟩ })
    threeErrands).follow File.handle [0, 1, 1, 0, 2, 0, 1, 2, 1, 2, 0, 0, 1, 0, 0, 1, 2]

theorem allRecorded_meeting : AllRecorded threeErrands meeting := by
  rintro (_ | _ | _ | i) k second h
  · cases h
    exact ⟨_, rfl⟩
  · cases h
    exact ⟨_, rfl⟩
  · cases h
  · cases h

theorem no_activity_lost_meeting :
    ∃ w : Window, meeting.store.Holds "ada" w ∧ w.last = some 7 ∧
      ∃ first ∈ [5, 7], w.first = some first ∧ ∀ k, (meeting.records k).firstActivity ≠ 0 →
        (meeting.records k).firstActivity = first := by
  have keyed : Table.Keyed [newRow] := fun c _ => List.count_le_length
  have ready : File.Ready { table := some [newRow] } [newRow] := ⟨rfl, rfl, rfl, keyed⟩
  have reach : Crowd.Reach File.handle (crowdOf "ada" { table := some [newRow] } _ threeErrands)
      meeting := Crowd.reach_follow _ _
  obtain ⟨w, holds, _, final⟩ := no_activity_lost ready List.mem_cons_self rfl rfl rfl
    (fun _ => ⟨rfl, rfl, rfl⟩) (by decide) reach
  obtain ⟨first, among, last, submitted, held, ended, atMost, agree⟩ :=
    final allRecorded_meeting (by decide)
  have last_le : last ≤ 7 := by
    change last ∈ [5, 7] at submitted
    simp only [List.mem_cons, List.not_mem_nil, or_false] at submitted
    omega
  have le_last := atMost 7 (by decide)
  rw [Int.le_antisymm last_le le_last] at ended
  exact ⟨w, holds, ended, first, among, held, agree⟩

end PuppetRegistry.Activity
