import PuppetRegistry.Proofs.Access.Calls
import PuppetRegistry.Proofs.Access.Finding
import PuppetRegistry.Proofs.Activity.Upkeep
import PuppetRegistry.Proofs.Sqlite.Writes

/-!
# Who is created

Puppets are looked up, some of them to be created, and calls are made on those that have been
answered, in any order and with a store that may fail at each statement. Main statement: a row is
there only for a user who was to be created on the server of the registry; nothing is ever created
for an identifier on another server. The user of an identifier may be empty, and is created then
like any other.
-/

namespace PuppetRegistry.Access

open Program Sqlite Activity

variable {server user : String} {users : String → Prop} {id : RemoteId} {create : Bool}

/-! ## What may add a row -/

/-- Statements that add a row of one of these users, or no row at all. -/
def Adds (users : String → Prop) : Statement → Prop
  | .insert values => ∃ user, values.user = .text user ∧ users user
  | .free _ _ => False
  | _ => True

section Calls

theorem within_write : write.Within (Owns user) (Adds users) := by
  have update : Puppet.update.Within (Owns user) (Adds users) := by
    apply within_update.mono
    rintro _ ⟨values, -, rfl⟩
    trivial
  exact update.onStoreError fun e _ _ => trivial

theorem within_noteActivity (second : Int) :
    (noteActivity (.int second)).Within (Owns user) (Adds users) := by
  have recorded : (Puppet.recordActivity second).Within (Owns user) (Adds users) := by
    apply within_recordActivity.mono
    rintro _ (rfl | rfl | rfl)
    · trivial
    · trivial
    · trivial
  exact recorded.onStoreError fun _ => trivial

theorem within_edit (e : Edit) : e.program.Within (Owns user) (Adds users) := by
  cases e with
  | write => exact within_write
  | rename name quality =>
    intro p _
    simp only [Program.bind, bind_eq]
    -- The tests on the name are not to be evaluated.
    generalize Text.trim (name.getD "") = text
    split
    · trivial
    · split
      · split
        · exact fun _ own => ⟨own, within_write.bind fun _ => trivial⟩
        · trivial
      · exact fun _ own => ⟨own, within_write.bind fun _ => fun _ _ => trivial⟩
  | changeAvatar avatar uri =>
    intro p _
    simp only [Program.bind, bind_eq]
    split
    · trivial
    · exact fun _ own => ⟨own, within_write.bind fun _ => trivial⟩
  | noteSynced now => exact fun _ own => ⟨own, within_write⟩
  | unlink =>
    intro p _
    simp only [Program.bind, bind_eq]
    split
    · trivial
    · exact fun _ own => ⟨own, within_write⟩

theorem within_call (call : Call) : call.program.Within (Owns user) (Adds users) := by
  cases call with
  | edit e => exact within_edit e
  | noteActivity second => exact within_noteActivity second

end Calls

section Lookups

variable {μ : Type} {good : μ → Prop} {allowed : Statement → Prop} {statement : Statement}

theorem within_first (reads : allowed statement) :
    (Lookup.first server statement : Program μ _).Within good allowed := by
  refine ⟨reads, fun reply => (within_ofExcept reply).bind fun row => ?_⟩
  cases row with
  | none => trivial
  | some cells => exact (within_ofExcept (Lookup.decode server cells)).bind fun _ => trivial

theorem within_every (reads : allowed statement) :
    (Lookup.every server statement : Program μ _).Within good allowed :=
  ⟨reads, fun reply => (within_ofExcept reply).bind fun _ => within_ofExcept _⟩

theorem within_afterFound
    (adds : create = true → id.server = server →
      allowed (.insert (Puppet.toRow { remoteId := id }))) (found : Except Fault (Option Puppet)) :
    (afterFound server id create found : Program μ _).Within good allowed := by
  unfold afterFound
  split
  · trivial
  · trivial
  · trivial
  · split
    · trivial
    next creates =>
    split
    · trivial
    · next own =>
      refine ⟨adds (by simpa using creates) (not_not.mp own), fun reply => ?_⟩
      unfold afterInsert
      split <;> trivial

/-- A search reads the row of the user, and adds one only if it is to be created on the server. -/
theorem within_find (reads : allowed (.selectUser id.user))
    (adds : create = true → id.server = server →
      allowed (.insert (Puppet.toRow { remoteId := id }))) :
    (find server id create : Program μ _).Within good allowed := by
  rw [find_eq]
  exact ⟨reads, fun _ => within_afterFound adds _⟩

end Lookups

/-! ## Rows of users -/

/-- The table of a ready file in which every row is that of one of these users. -/
def Peopled (users : String → Prop) (f : File) : Prop :=
  ∃ t, f.Ready t ∧ ∀ r ∈ t, ∃ user, r.user = .text user ∧ users user

theorem Adds.mono {statement : Statement} (adds : Adds users statement) {users' : String → Prop}
    (more : ∀ user, users user → users' user) : Adds users' statement := by
  cases statement with
  | insert values =>
    obtain ⟨user, own, one⟩ := adds
    exact ⟨user, own, more user one⟩
  | free => exact adds
  | selectAll | selectUser | selectLinkedTo | selectLinked | selectFirstActivity => trivial
  | update | advanceLast | claimFirst => trivial

theorem Peopled.mono {f : File} (peopled : Peopled users f) {users' : String → Prop}
    (more : ∀ user, users user → users' user) : Peopled users' f := by
  obtain ⟨t, ready, known⟩ := peopled
  refine ⟨t, ready, fun r mem => ?_⟩
  obtain ⟨user, own, one⟩ := known r mem
  exact ⟨user, own, more user one⟩

theorem Peopled.moved {f f' : File} (peopled : Peopled users f) {statement : Statement}
    (adds : Adds users statement) (moves : File.handle.Moves statement f f') :
    Peopled users f' := by
  obtain ⟨t, ready, known⟩ := peopled
  have fixed : ∀ sql arguments, statement ≠ .free sql arguments := by
    rintro sql arguments rfl
    exact adds
  obtain ⟨t', ready', rfl | ⟨n, wrote⟩⟩ := ready.moved moves
  · exact ⟨t', ready', known⟩
  · refine ⟨t', ready', fun r' mem => ?_⟩
    rcases mem_writeRows fixed wrote mem with ⟨r, held, makes⟩ | ⟨values, rfl, rfl⟩
    · rw [makes.user_eq]
      exact known r held
    · obtain ⟨user, own, one⟩ := adds
      exact ⟨user, user_convertRow own, one⟩

/-- What may be done by a program that adds rows of these users at most, whichever statements
fail. -/
theorem Peopled.run {μ α : Type} {program : Program μ α} {good : μ → Prop} {m : μ}
    {store : List (Option StoreError) × File} (peopled : Peopled users store.2)
    (within : program.Within good (Adds users)) (hm : good m) :
    Peopled users (program.run File.handle.failing store m).store.2 := by
  have keeps : ∀ statement s s', Adds users statement →
      File.handle.failing.Moves statement s s' → Peopled users s.2 → Peopled users s'.2 := by
    intro statement s s' adds moves peopled
    rcases Handle.moves_failing moves with same | moved
    · exact same ▸ peopled
    · exact peopled.moved adds moved
  exact within.run keeps peopled hm

/-! ## Sessions -/

inductive Query
  | find (id : RemoteId) (create : Bool)
  | findLinkedTo (link : Option String)
  | all
  | linked

def Query.program (server : String) : Query → Program Unit (List Puppet)
  | find id create => do return (← Access.find server id create).toList
  | findLinkedTo link => do return (← Access.findLinkedTo server link).toList
  | all => Access.all server
  | linked => Access.linked server

/-- A query, or a call on one of the puppets that have been answered so far. -/
inductive Request
  | query (query : Query)
  | call (place : Nat) (call : Call)

/-- A file with the failures that its statements are due, and the puppets that have been
answered. -/
structure Session where
  store : List (Option StoreError) × File
  held : List Puppet

namespace Session

def start (failures : List (Option StoreError)) : Session :=
  ⟨(failures, (File.init {}).2), []⟩

def serve (server : String) (session : Session) : Request → Session
  | .query query =>
    let after := (query.program server).run File.handle.failing session.store ()
    ⟨after.store, session.held ++ after.result.toOption.getD []⟩
  | .call place call =>
    match session.held[place]? with
    | none => session
    | some p =>
      let after := call.program.run File.handle.failing session.store p
      ⟨after.store, session.held.set place after.record⟩

end Session

/-- The users that a request may add a row of. -/
def Request.mayCreate (server : String) (request : Request) (user : String) : Prop :=
  ∃ id : RemoteId, request = .query (.find id true) ∧ id.server = server ∧ id.user = user

theorem Query.within (query : Query) :
    (query.program server).Within (fun _ => True)
      (Adds ((Request.query query).mayCreate server)) := by
  cases query with
  | find id create =>
    refine (within_find trivial fun creates own => ?_).bind fun _ => trivial
    exact ⟨id.user, rfl, id, by rw [creates], own, rfl⟩
  | findLinkedTo link =>
    refine Within.bind ?_ fun _ => trivial
    cases link with
    | none => trivial
    | some link =>
      have lookup : (Lookup.byLink server link : Program Unit _).Within (fun _ => True)
          (Adds ((Request.query (.findLinkedTo (some link))).mayCreate server)) := by
        rw [Lookup.byLink]
        split
        · trivial
        · exact within_first trivial
      apply lookup.onStoreError
      intro e
      trivial
  | all | linked =>
    apply (within_every trivial).onStoreError
    intro e
    trivial

theorem Peopled.serve {session : Session} (peopled : Peopled users session.store.2)
    (request : Request) :
    Peopled (fun user => users user ∨ request.mayCreate server user)
      (session.serve server request).store.2 := by
  have before : Peopled (fun user => users user ∨ request.mayCreate server user) session.store.2 :=
    peopled.mono fun _ one => .inl one
  cases request with
  | query query =>
    have within : (query.program server).Within (fun _ => True)
        (Adds fun user => users user ∨ (Request.query query).mayCreate server user) :=
      query.within.mono fun _ adds => adds.mono fun _ one => .inr one
    exact before.run within trivial
  | call place call =>
    simp only [Session.serve]
    cases session.held[place]? with
    | none => exact before
    | some p => exact before.run (within_call call) rfl

theorem Peopled.serveAll {session : Session} (peopled : Peopled users session.store.2)
    (requests : List Request) :
    Peopled (fun user => users user ∨ ∃ request ∈ requests, request.mayCreate server user)
      (requests.foldl (Session.serve server) session).store.2 := by
  induction requests generalizing users session with
  | nil => exact peopled.mono fun user one => .inl one
  | cons request rest ih =>
    refine (ih (peopled.serve request)).mono fun user one => ?_
    rcases one with (one | first) | ⟨later, mem, creates⟩
    · exact .inl one
    · exact .inr ⟨request, List.mem_cons_self, first⟩
    · exact .inr ⟨later, List.mem_cons_of_mem _ mem, creates⟩

/-! ## Other servers -/

/-- The search for somebody on another server leaves the file as it is, and answers nobody for a
user without a row. -/
theorem run_find_foreign {f : File} {t : Table} (ready : f.Ready t) (foreign : id.server ≠ server)
    (create : Bool) (failures : List (Option StoreError)) :
    ∃ answer events, (find server id create).run File.handle.failing (failures, f) () =
        ⟨.ok answer, (failures.tail, f), (), events⟩ ∧
      (t.rowsOf id.user = [] → answer = none) := by
  by_cases works : ∀ e, failures.head? ≠ some (some e)
  · have replied : File.handle.failing.row (.selectUser id.user) (failures, f) =
        (.ok ((t.rowsOf id.user).head?.map Row.cells), failures.tail, f) := by
      change failNext (File.handle.row _) (failures, f) = _
      rw [failNext_of_works _ works, ready.selectUser]
    cases rows : t.rowsOf id.user with
    | nil =>
      rw [rows] at replied
      obtain ⟨events, done⟩ := run_find_absent (m := ()) replied fun _ => foreign
      exact ⟨none, events, done, fun _ => rfl⟩
    | cons r rest =>
      rw [rows] at replied
      cases decoded : Lookup.decode server r.cells with
      | ok p => exact ⟨some p, [], run_find_found replied decoded, nofun⟩
      | error fault =>
        obtain ⟨e, rfl⟩ := storage_of_decode decoded
        exact ⟨none, _, run_find_undecodable replied decoded, fun _ => rfl⟩
  · obtain ⟨e, rest, rfl⟩ : ∃ e rest, failures = some e :: rest := by
      simpa [List.head?_eq_some_iff] using works
    exact ⟨none, _, run_find_failed rfl, fun _ => rfl⟩

/-- Whatever is asked for in a session, and whichever statements fail, each row is that of a user
who was to be created on the server. For an identifier on another server nothing is created, and
nobody is answered unless there is a row of the user. -/
theorem users_asked_for (server : String) (failures : List (Option StoreError))
    (requests : List Request) :
    let session := requests.foldl (Session.serve server) (Session.start failures)
    ∃ t, session.store.2.Ready t ∧
      (∀ r ∈ t, ∃ id : RemoteId, .query (.find id true) ∈ requests ∧ id.server = server ∧
        r.user = .text id.user) ∧
      ∀ (id : RemoteId) (create : Bool), id.server ≠ server → ∃ answer events,
        (find server id create).run File.handle.failing session.store () =
          ⟨.ok answer, (session.store.1.tail, session.store.2), (), events⟩ ∧
        (t.rowsOf id.user = [] → answer = none) := by
  intro session
  have new : Peopled (fun _ => False) (Session.start failures).store.2 :=
    ⟨[], File.ready_init.2, fun r mem => by cases mem⟩
  obtain ⟨t, ready, known⟩ : Peopled _ session.store.2 := new.serveAll requests
  refine ⟨t, ready, fun r mem => ?_, fun id create foreign => ?_⟩
  · obtain ⟨user, own, nobody | ⟨request, asked, id, rfl, home, same⟩⟩ := known r mem
    · exact nobody.elim
    · exact ⟨id, asked, home, by rw [own, same]⟩
  · exact run_find_foreign ready foreign create session.store.1

/-- A text without a user names a server alone. On the server of the registry it is created all the
same, as a user with an empty name. -/
theorem nobody_created :
    let id := RemoteId.parse "remote.example"
    let session := Session.serve "remote.example" (Session.start []) (.query (.find id true))
    id = ⟨"", "remote.example"⟩ ∧ session.held = [{ remoteId := id }] ∧
      session.store.2.table.map (·.map Row.user) = some [.text ""] := by
  decide +kernel

end PuppetRegistry.Access
