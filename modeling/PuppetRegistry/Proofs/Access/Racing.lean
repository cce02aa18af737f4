import PuppetRegistry.Proofs.Access.Stored
import PuppetRegistry.Proofs.Program.Ending

/-!
# Searches that race

Searches for one user who has no row yet overlap. Each looks first and adds the row only then, so
several may find nothing and all but one of them add in vain. Main statement: whoever wins, in the
end the row has been added once, no search has failed, each that creates answers the puppet as it
was created, and so does every later search.
-/

namespace PuppetRegistry.Access

open Program Sqlite

variable {κ μ : Type} {server : String} {id : RemoteId} {f : File} {t : Table}

/-! ## The file -/

def fileOnce (f : File) (t : Table) (id : RemoteId) (there : Bool) : File :=
  if there then f.withTable (t ++ [storedRow { remoteId := id }]) else f

theorem stored_fileOnce (ready : f.Ready t) (free : t.rowsOf id.user = [])
    (own : id.server = server) :
    Stored server (fileOnce f t id true) (t ++ [storedRow { remoteId := id }])
      (storedRow { remoteId := id }) { remoteId := id } := by
  have inRange : fitsInteger 0 = true := by decide
  have never : (0 : Int) < endSecond := by decide
  obtain ⟨-, ready', only⟩ := ready.insert_eq (p := { remoteId := id }) free inRange inRange
  exact ⟨ready', only, readsAs_storedRow own never, never⟩

theorem look_fileOnce (ready : f.Ready t) (free : t.rowsOf id.user = [])
    (own : id.server = server) (there : Bool) :
    File.handle.row (.selectUser id.user) (fileOnce f t id there) =
      (.ok (if there then some (storedRow { remoteId := id }).cells else none),
        fileOnce f t id there) := by
  cases there with
  | false =>
    have replied := ready.selectUser id.user
    rw [free] at replied
    exact replied
  | true =>
    have stored := stored_fileOnce ready free own
    have replied := stored.ready.selectUser id.user
    rw [stored.only] at replied
    exact replied

theorem insert_fileOnce (ready : f.Ready t) (free : t.rowsOf id.user = [])
    (own : id.server = server) (there : Bool) :
    File.handle.execute (.insert (Puppet.toRow { remoteId := id })) (fileOnce f t id there) =
      (if there then .error (.storage (.sqlite .statement .userTaken)) else .ok 1,
        fileOnce f t id true) := by
  have inRange : fitsInteger 0 = true := by decide
  cases there with
  | false => exact (ready.insert_eq (p := { remoteId := id }) free inRange inRange).1
  | true =>
    have stored := stored_fileOnce ready free own
    have taken : Table.rowsOf id.user (t ++ [storedRow { remoteId := id }]) ≠ [] := by
      rw [stored.only]
      nofun
    exact stored.ready.insert_taken (p := { remoteId := id }) taken inRange inRange

/-! ## Where a search stands -/

/-- Where a search for the user may stand, by whether the row is there. -/
inductive Stands (server : String) (id : RemoteId) :
    (there create : Bool) → Task μ (Option Puppet) → Prop
  | waiting {there create} : Stands server id there create (.running (find server id create))
  | looking {there create} : Stands server id there create
      (.paused (.row (.selectUser id.user) (afterLook server id create)))
  | absent {there create} : Stands server id there create
      (.running (afterLook server id create (.ok none)))
  | present {create} : Stands server id true create (.running (done (some { remoteId := id })))
  | adding {there} : Stands server id there true
      (.paused (.execute (.insert (Puppet.toRow { remoteId := id })) (afterInsert id)))
  | added {changed} : Stands server id true true (.running (afterInsert id (.ok changed)))
  | late {error} : Stands server id true true
      (.running (afterInsert id (.error (.storage error))))
  | answered {create} : Stands server id true create
      (.paused (.ended (.ok (some { remoteId := id }))))
  | missed {there} : Stands server id there false (.paused (.ended (.ok none)))

variable {there create : Bool}

theorem Stands.once {task : Task μ (Option Puppet)} (stands : Stands server id there create task) :
    Stands server id true create task := by
  cases stands with
  | waiting => exact .waiting
  | looking => exact .looking
  | absent => exact .absent
  | present => exact .present
  | adding => exact .adding
  | added => exact .added
  | late => exact .late
  | answered => exact .answered
  | missed => exact .missed

/-- A search runs on to where it may stand. -/
theorem Stands.advance (own : id.server = server) {program : Program μ (Option Puppet)}
    (stands : Stands server id there create (.running program)) (m : μ) :
    Stands server id there create (.paused (program.advance m).1) := by
  cases stands with
  | waiting =>
    rw [find_eq]
    exact .looking
  | absent =>
    cases create with
    | false => exact .missed
    | true =>
      rw [afterLook_absent own]
      exact .adding
  | present | added | late => exact .answered

/-- The statement of a search leaves the row there, if it was there, or adds it. -/
theorem Stands.answer (ready : f.Ready t) (free : t.rowsOf id.user = []) (own : id.server = server)
    {pause : Pause μ (Option Puppet)} {program : Program μ (Option Puppet)} {f' : File}
    (stands : Stands server id there create (.paused pause))
    (answer : pause.answer? File.handle (fileOnce f t id there) = some (program, f')) :
    ∃ there', (there = true → there' = true) ∧ f' = fileOnce f t id there' ∧
      Stands server id there' create (.running program) := by
  cases stands with
  | looking =>
    rw [Pause.answer?, look_fileOnce ready free own] at answer
    cases answer
    refine ⟨there, fun h => h, rfl, ?_⟩
    cases there with
    | false => exact .absent
    | true =>
      have reads := (stored_fileOnce ready free own).reads
      have found : (afterLook server id create (.ok (some (storedRow { remoteId := id }).cells)) :
          Program μ _) = done (some { remoteId := id }) := by
        simp only [afterLook, Except.bind, decode_eq_ok_iff.mpr reads, Except.map, afterFound]
        rfl
      rw [if_pos rfl, found]
      exact .present
  | adding =>
    rw [Pause.answer?, insert_fileOnce ready free own] at answer
    cases answer
    refine ⟨true, fun _ => rfl, rfl, ?_⟩
    cases there with
    | false => exact .added
    | true => exact .late
  | answered | missed => cases answer

/-! ## All searches -/

/-- Searches for one user, none of which has begun. Each creates or does not. -/
def searches (server : String) (id : RemoteId) (f : File) (records : κ → μ)
    (calls : List (κ × Bool)) : Crowd κ File μ (Option Puppet) :=
  ⟨f, records, calls.map fun call => (call.1, .running (find server id call.2))⟩

/-- The row has been added or not, and each search stands where it then may. -/
def Underway (server : String) (id : RemoteId) (f : File) (t : Table) (calls : List (κ × Bool))
    (c : Crowd κ File μ (Option Puppet)) : Prop :=
  ∃ there, c.store = fileOnce f t id there ∧
    List.Forall₂ (fun call entry => Stands server id there call.2 entry.2) calls c.tasks

section Entries

variable {α β : Type} {before after : α → β → Prop} {as : List α} {bs : List β} {i : Nat}

theorem exists_related (old : List.Forall₂ before as bs) {b : β} (at_i : bs[i]? = some b) :
    ∃ a, as[i]? = some a ∧ before a b := by
  induction old generalizing i with
  | nil => cases at_i
  | @cons a b' as bs first rest ih =>
    cases i with
    | zero =>
      cases at_i
      exact ⟨a, rfl, first⟩
    | succ i => exact ih at_i

theorem forall₂_set (old : List.Forall₂ before as bs) (others : ∀ a b, before a b → after a b)
    {a : α} (at_i : as[i]? = some a) {b : β} (new : after a b) :
    List.Forall₂ after as (bs.set i b) := by
  induction old generalizing i with
  | nil => exact .nil
  | cons first rest ih =>
    cases i with
    | zero =>
      cases at_i
      exact .cons new (rest.imp others)
    | succ i => exact .cons (others _ _ first) (ih at_i)

end Entries

theorem Underway.step [DecidableEq κ] (ready : f.Ready t) (free : t.rowsOf id.user = [])
    (own : id.server = server) {calls : List (κ × Bool)} {c c' : Crowd κ File μ (Option Puppet)}
    (underway : Underway server id f t calls c) (step : Crowd.Step File.handle c c') :
    Underway server id f t calls c' := by
  obtain ⟨there, stored, stand⟩ := underway
  obtain ⟨i, k, ⟨program, at_i, rfl⟩ | ⟨pause, program, f', at_i, answer, rfl⟩⟩ := step.cases_at
  · obtain ⟨call, at_i', stands⟩ := exists_related stand at_i
    exact ⟨there, stored, forall₂_set stand (fun _ _ stands => stands) at_i'
      (stands.advance own _)⟩
  · obtain ⟨call, at_i', stands⟩ := exists_related stand at_i
    rw [stored] at answer
    obtain ⟨there', stays, stored', stands'⟩ := stands.answer ready free own answer
    have others : ∀ (call : κ × Bool) (entry : κ × Task μ (Option Puppet)),
        Stands server id there call.2 entry.2 → Stands server id there' call.2 entry.2 := by
      intro call entry stands
      cases there' with
      | true => exact stands.once
      | false =>
        cases there with
        | false => exact stands
        | true => cases stays rfl
    exact ⟨there', stored', forall₂_set stand others at_i' stands'⟩

/-- How a search ends: creating, with the puppet; otherwise with the puppet or with nothing. -/
theorem Stands.ended {result : Except Fault (Option Puppet)}
    (stands : Stands server id there create
      (.paused (.ended result) : Task μ (Option Puppet))) :
    ∃ answer, result = .ok answer ∧ (answer = none ∧ create = false ∨
      answer = some { remoteId := id } ∧ there = true) := by
  cases stands with
  | answered => exact ⟨_, rfl, .inr ⟨rfl, rfl⟩⟩
  | missed => exact ⟨_, rfl, .inl ⟨rfl, rfl⟩⟩

/-- Searches for a user of the server who has no row yet, at least one of which creates, come to an
end in whatever order their statements take effect. Then the one row has been added, and the
creating ones have answered the puppet that every later search answers. -/
theorem created_once [DecidableEq κ] (ready : f.Ready t) (free : t.rowsOf id.user = [])
    (own : id.server = server) {calls : List (κ × Bool)} (creates : ∃ k, (k, true) ∈ calls)
    {records : κ → μ} {c : Crowd κ File μ (Option Puppet)}
    (reach : Crowd.Reach File.handle (searches server id f records calls) c) :
    (∃ c', Crowd.Reach File.handle c c' ∧ c'.Ended) ∧
    (c.Ended → ∃ r,
      c.store = f.withTable (t ++ [r]) ∧ Table.rowsOf id.user (t ++ [r]) = [r] ∧
      List.Forall₂ (fun call entry => ∃ answer, entry.2 = .paused (.ended (.ok answer)) ∧
        (call.2 = true → answer = some { remoteId := id })) calls c.tasks ∧
      ∀ create (m : μ), (find server id create).run File.handle c.store m =
        ⟨.ok (some { remoteId := id }), c.store, m, []⟩) := by
  have underway : Underway server id f t calls c := by
    apply reach.keeps (Underway server id f t calls)
    · refine ⟨false, rfl, ?_⟩
      rw [searches, List.forall₂_map_right_iff]
      exact List.forall₂_same.mpr fun _ _ => .waiting
    · exact fun step underway => underway.step ready free own step
  refine ⟨Crowd.exists_ended _ c, fun ended => ?_⟩
  obtain ⟨there, stored, stand⟩ := underway
  have ends : List.Forall₂ (fun call entry => ∃ answer, entry.2 = .paused (.ended (.ok answer)) ∧
      (answer = none ∧ call.2 = false ∨ answer = some { remoteId := id } ∧ there = true))
      calls c.tasks := by
    rw [List.forall₂_iff_zip] at stand ⊢
    refine ⟨stand.1, fun {call entry} mem => ?_⟩
    obtain ⟨result, stopped⟩ := ended entry (List.of_mem_zip mem).2
    have stands := stand.2 mem
    rw [stopped] at stands ⊢
    obtain ⟨answer, rfl, how⟩ := stands.ended
    exact ⟨answer, rfl, how⟩
  have added : there = true := by
    obtain ⟨k, mem⟩ := creates
    obtain ⟨i, at_i⟩ := List.mem_iff_getElem?.mp mem
    obtain ⟨entry, -, answer, -, ⟨-, spared⟩ | ⟨-, added⟩⟩ := exists_related ends.flip at_i
    · cases spared
    · exact added
  have inStore := stored_fileOnce ready free own
  rw [added] at stored
  refine ⟨_, stored, inStore.only, ends.imp fun call entry => ?_, fun create m => ?_⟩
  · rintro ⟨answer, stopped, ⟨-, spared⟩ | ⟨answered, -⟩⟩
    · refine ⟨answer, stopped, fun created => ?_⟩
      rw [spared] at created
      cases created
    · exact ⟨answer, stopped, fun _ => answered⟩
  · rw [stored]
    exact inStore.find create m

def newcomer : RemoteId :=
  ⟨"ada", "remote.example"⟩

def threeSearches : Crowd Unit File Unit (Option Puppet) :=
  searches newcomer.server newcomer (File.init {}).2 (fun _ => ())
    [((), true), ((), true), ((), false)]

/-- The three searches after two of them have found nothing and have tried to add the row. -/
def race : Crowd Unit File Unit (Option Puppet) :=
  threeSearches.follow File.handle [0, 1, 0, 1, 0, 1, 1, 0, 1, 0, 2, 2, 2]

theorem ended_race : race.Ended := by
  have tasks : race.tasks =
      List.replicate 3 ((), .paused (.ended (.ok (some { remoteId := newcomer })))) := rfl
  intro entry mem
  rw [tasks] at mem
  exact ⟨_, congrArg Prod.snd (List.eq_of_mem_replicate mem)⟩

theorem created_once_race :
    ∃ r, race.store = (File.init {}).2.withTable [r] ∧
      ∀ create, (find newcomer.server newcomer create).run File.handle race.store () =
        ⟨.ok (some { remoteId := newcomer }), race.store, (), []⟩ := by
  have reach : Crowd.Reach File.handle threeSearches race := Crowd.reach_follow _ _
  obtain ⟨-, final⟩ := created_once File.ready_init.2 rfl rfl ⟨(), List.mem_cons_self⟩ reach
  obtain ⟨r, stored, -, -, later⟩ := final ended_race
  exact ⟨r, stored, fun create => later create ()⟩

end PuppetRegistry.Access
