import PuppetRegistry.Proofs.Access.Finding
import PuppetRegistry.Proofs.Activity.Upkeep
import PuppetRegistry.Proofs.Puppet.Normal
import PuppetRegistry.Proofs.Sqlite.Writes

/-!
# Rows that can be read

One row that cannot be read makes the list of all puppets fail. Main statement: in a file that has
been initialised and into which puppets have been written in whatever order, every row can be read,
so that every lookup is answered, if no last sync is among the last microseconds of the calendar or
beyond them.
-/

namespace PuppetRegistry.Sqlite

open Program

/-- A row that reads as a puppet, on whatever server. -/
def Legible (r : Row) : Prop :=
  ∀ server, ∃ p, r.ReadsAs server p

variable {s : Statement} {t t' : Table} {n : Nat} {p : Puppet} {f f' : File}

theorem legible_storedRow (storable : p.Storable) : Legible (storedRow p) := by
  intro server
  have placed : storedRow p = storedRow { p with remoteId := ⟨p.remoteId.user, server⟩ } := rfl
  rw [placed]
  exact ⟨_, readsAs_storedRow rfl storable.syncSeconds_lt⟩

/-- A statement that writes no profile but that of a storable puppet. -/
def Careful : Statement → Prop
  | .insert values | .update values => ∃ p : Puppet, p.Storable ∧ values = p.toRow
  | .free _ _ => False
  | _ => True

theorem Careful.legible_of_insert {values : Row} (careful : Careful (.insert values)) :
    Legible (convertRow (bindRow values)) := by
  obtain ⟨p, storable, rfl⟩ := careful
  exact legible_storedRow storable

theorem Makes.legible {r r' : Row} (makes : Makes s r r') (careful : Careful s)
    (legible : Legible r) : Legible r' := by
  intro server
  obtain ⟨q, reads⟩ := legible server
  cases makes with
  | same => exact ⟨q, reads⟩
  | profile =>
    obtain ⟨p, storable, rfl⟩ := careful
    obtain ⟨p', profile⟩ := legible_storedRow storable server
    exact ⟨{ p' with
        remoteId := q.remoteId
        firstActivity := q.firstActivity
        lastActivity := q.lastActivity },
      { profile with
        user := reads.user
        firstActivity := reads.firstActivity
        lastActivity := reads.lastActivity }⟩
  | @last second => exact ⟨{ q with lastActivity := second }, { reads with lastActivity := rfl }⟩
  | @first second => exact ⟨{ q with firstActivity := second }, { reads with firstActivity := rfl }⟩

theorem legible_writeRows (careful : Careful s) (wrote : writeRows s t = .ok (t', n))
    (legible : ∀ r ∈ t, Legible r) : ∀ r ∈ t', Legible r := by
  intro r' mem
  have fixed : ∀ sql arguments, s ≠ .free sql arguments := by
    rintro sql arguments rfl
    exact careful
  rcases mem_writeRows fixed wrote mem with ⟨r, held, makes⟩ | ⟨values, rfl, rfl⟩
  · exact makes.legible careful (legible r held)
  · exact careful.legible_of_insert

/-- A ready file of which every row can be read. -/
def File.Readable (f : File) : Prop :=
  ∃ t, f.Ready t ∧ ∀ r ∈ t, Legible r

theorem File.Readable.moved (readable : f.Readable) (careful : Careful s)
    (moves : File.handle.Moves s f f') : f'.Readable := by
  obtain ⟨t, ready, legible⟩ := readable
  obtain ⟨t', ready', rfl | ⟨n, wrote⟩⟩ := ready.moved moves
  · exact ⟨_, ready', legible⟩
  · exact ⟨t', ready', legible_writeRows careful wrote legible⟩

/-! ## Writing puppets -/

/-- What is written of a puppet: its row, its profile, or its activity. -/
inductive Deed
  | insert (server : String)
  | update
  | recordActivity (second : Int)

def Deed.program : Deed → Program Puppet Bool
  | insert server => Puppet.insert server
  | update => Puppet.update
  | recordActivity second => Puppet.recordActivity second

theorem within_insert (server : String) (p : Puppet) :
    (Puppet.insert server).Within (· = p) (· = .insert p.toRow) := by
  rintro q rfl
  by_cases foreign : q.remoteId.server ≠ server
  · simp only [Program.bind, Puppet.insertRow, if_pos foreign]
    trivial
  · simp only [Program.bind, Puppet.insertRow, if_neg foreign]
    exact ⟨rfl, fun reply => (within_ofExcept reply).bind fun _ => trivial⟩

theorem within_update (p : Puppet) : Puppet.update.Within (· = p) (· = .update p.toRow) := by
  rintro q rfl
  exact ⟨rfl, fun reply => (within_ofExcept reply).bind fun _ => trivial⟩

theorem careful_of_note {user : String} {second : Int}
    (allows : (Activity.Upkeep.note second).Allows user s) : Careful s := by
  rcases allows with rfl | rfl | rfl
  · trivial
  · trivial
  · trivial

/-- A deed that writes the profile of a puppet writes a last sync that can be read again. -/
def Deed.Suits (p : Puppet) : Deed → Prop
  | insert _ | update => p.Storable
  | recordActivity _ => True

/-- A file of which every row can be read stays so, whether the deed succeeds or fails. -/
theorem File.Readable.deed (readable : f.Readable) {deed : Deed} (suits : deed.Suits p) :
    (deed.program.run File.handle f p).store.Readable := by
  cases deed with
  | insert server =>
    have careful : Careful (.insert p.toRow) := ⟨p, suits, rfl⟩
    apply (within_insert server p).run _ readable rfl
    rintro _ f f' rfl moves readable
    exact readable.moved careful moves
  | update =>
    have careful : Careful (.update p.toRow) := ⟨p, suits, rfl⟩
    apply (within_update p).run _ readable rfl
    rintro _ f f' rfl moves readable
    exact readable.moved careful moves
  | recordActivity second =>
    have within : (Puppet.recordActivity second).Within (Activity.Owns p.remoteId.user) _ :=
      Activity.within_recordActivity
    apply within.run _ readable rfl
    intro s f f' allows moves readable
    exact readable.moved (careful_of_note allows) moves

/-- The files that come about by writing puppets, one deed after the other. -/
inductive Written : File → Prop
  | init : Written (File.init {}).2
  | deed {f : File} (deed : Deed) (p : Puppet) : Written f → deed.Suits p →
    Written (deed.program.run File.handle f p).store

theorem Written.readable (written : Written f) : f.Readable := by
  induction written with
  | init => exact ⟨[], File.ready_init.2, fun _ mem => by cases mem⟩
  | deed _ _ _ suits ih => exact ih.deed suits

/-! ## Lookups -/

section Lookups

variable {μ : Type} {m : μ} {server : String} {found : Table}

theorem decode_legible {r : Row} (legible : Legible r) (server : String) :
    ∃ p, Lookup.decode server r.cells = .ok p := by
  obtain ⟨p, reads⟩ := legible server
  exact ⟨p, Access.decode_eq_ok_iff.mpr reads⟩

theorem mapM_decode_legible (legible : ∀ r ∈ found, Legible r) (server : String) :
    ∃ ps, (found.map Row.cells).mapM (Lookup.decode server) = .ok ps := by
  induction found with
  | nil => exact ⟨[], rfl⟩
  | cons r rest ih =>
    obtain ⟨p, first⟩ := decode_legible (legible r List.mem_cons_self) server
    obtain ⟨ps, others⟩ := ih fun r mem => legible r (List.mem_cons_of_mem _ mem)
    refine ⟨p :: ps, ?_⟩
    rw [List.map_cons, List.mapM_cons, first, others]
    rfl

theorem first_answered (replied : File.handle.row s f = (.ok (found.head?.map Row.cells), f))
    (legible : ∀ r ∈ found, Legible r) :
    ∃ answer, (Lookup.first server s).run File.handle f m = ⟨.ok answer, f, m, []⟩ := by
  rw [Access.run_first replied]
  cases found with
  | nil => exact ⟨none, rfl⟩
  | cons r rest =>
    obtain ⟨p, decoded⟩ := decode_legible (legible r List.mem_cons_self) server
    refine ⟨some p, ?_⟩
    simp only [List.head?_cons, Option.map_some, Except.bind, decoded, Except.map]

theorem every_answered (replied : File.handle.rows s f = (.ok (found.map Row.cells), f))
    (legible : ∀ r ∈ found, Legible r) :
    ∃ answers, (Lookup.every server s).run File.handle f m = ⟨.ok answers, f, m, []⟩ := by
  obtain ⟨ps, decoded⟩ := mapM_decode_legible legible server
  rw [Access.run_every replied]
  exact ⟨ps, by simp only [Except.bind, decoded]⟩

/-- Whatever has been written of puppets that are storable, every row of the file can be read and
every lookup is answered. -/
theorem lookups_answered (written : Written f) (server : String) (m : μ) :
    (∃ t, f.table = some t ∧ ∀ r ∈ t, ∃ p, Puppet.ofCells server r.cells = .ok p) ∧
    (∀ id, ∃ answer, (Lookup.byId server id).run File.handle f m = ⟨.ok answer, f, m, []⟩) ∧
    (∀ id, ∃ answer, (Lookup.byLink server id).run File.handle f m = ⟨.ok answer, f, m, []⟩) ∧
    (∃ answers, (Lookup.all server).run File.handle f m = ⟨.ok answers, f, m, []⟩) ∧
    (∃ answers, (Lookup.linked server).run File.handle f m = ⟨.ok answers, f, m, []⟩) := by
  obtain ⟨t, ready, legible⟩ := written.readable
  have filtered (picked : Row → Bool) : ∀ r ∈ t.filter picked, Legible r :=
    fun r mem => legible r (List.mem_filter.mp mem).1
  refine ⟨⟨t, ready.table, fun r mem => ?_⟩, fun id => ?_, fun id => ?_, ?_, ?_⟩
  · obtain ⟨p, reads⟩ := legible r mem server
    exact ⟨p, Puppet.ofCells_eq_ok_iff.mpr reads⟩
  · exact first_answered (ready.selectUser id.user) (filtered _)
  · rw [Lookup.byLink]
    split
    · exact ⟨none, rfl⟩
    · exact first_answered (ready.selectLinkedTo id) (filtered _)
  · exact every_answered ready.selectAll legible
  · exact every_answered ready.selectLinked (filtered _)

end Lookups

/-- The latest instant that is not rounded up to the end of the calendar. -/
def lastStorable : Int :=
  253402300799999984

/-- The last instant of the calendar. -/
def lastInstant : Int :=
  253402300799999999

def syncedAt (micros : Int) : Puppet :=
  { remoteId := ⟨"ada", "remote.example"⟩, lastSync := Moment.ofReading? micros 0 }

theorem storable_syncedAt {micros : Int} (early : micros + 15 < endSecond * microsPerSecond) :
    (syncedAt micros).Storable := by
  intro m held
  have same : m.micros = micros := by
    simp only [syncedAt, Moment.ofReading?] at held
    split at held
    · split at held
      · cases held
        simp
      · cases held
    · cases held
  rwa [same]

/-- The file after a puppet synced at an instant has been inserted. -/
def insertedAt (micros : Int) : Run File Puppet Bool :=
  (Puppet.insert "remote.example").run File.handle (File.init {}).2 (syncedAt micros)

theorem lookups_answered_late :
    (syncedAt lastStorable).lastSync.isSome = true ∧ (insertedAt lastStorable).result = .ok true ∧
      ∃ answers, (Lookup.all "remote.example").run File.handle (insertedAt lastStorable).store () =
        ⟨.ok answers, (insertedAt lastStorable).store, (), []⟩ := by
  have storable : (syncedAt lastStorable).Storable := storable_syncedAt (by decide)
  have written : Written (insertedAt lastStorable).store :=
    .deed (.insert "remote.example") (syncedAt lastStorable) .init storable
  obtain ⟨_, _, _, every, _⟩ := lookups_answered written "remote.example" ()
  exact ⟨rfl, rfl, every⟩

/-- A row that has been written at the end of the calendar cannot be read, and neither can any list
that it is in. -/
theorem unreadable_after_insert :
    (insertedAt lastInstant).result = .ok true ∧
      ((Lookup.byId "remote.example" ⟨"ada", "remote.example"⟩).run File.handle
        (insertedAt lastInstant).store ()).result =
          .error (.storage (.undecodable (.yearOutOfRange 10000))) ∧
      ((Lookup.all "remote.example").run File.handle (insertedAt lastInstant).store ()).result =
        .error (.storage (.undecodable (.yearOutOfRange 10000))) := by
  decide +kernel

end PuppetRegistry.Sqlite
