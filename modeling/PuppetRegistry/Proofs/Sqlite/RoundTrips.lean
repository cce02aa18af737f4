import PuppetRegistry.Lookup
import PuppetRegistry.Proofs.Access.Calls
import PuppetRegistry.Proofs.Access.Expected
import PuppetRegistry.Proofs.Access.Finding
import PuppetRegistry.Proofs.Sqlite.Saving

/-!
# Round trips

A puppet that is written to a ready file, by adding its row or by overwriting the profile in it, is
then found in normal form. Main statements: what is found after an insertion is the inserted puppet,
and after an update the updated one with the activity that was stored, each in normal form; and a
row of any cells that can be read is brought into a form, by loading and saving it once, that no
further loading and saving changes, while it reads as the same puppet all along.
-/

namespace PuppetRegistry

namespace Sqlite

open Program Access

variable {f : File} {t : Table} {r : Row} {p : Puppet} {server : String} {id : RemoteId}

theorem Table.rowsOf_eq_nil {user : String} (free : ∀ r ∈ t, r.user ≠ .text user) :
    t.rowsOf user = [] :=
  List.filter_eq_nil_iff.mpr fun r mem own => free r mem (Table.ofUser_text_iff.mp own)

theorem File.Ready.byId (ready : f.Ready t) (only : t.rowsOf id.user = [r])
    (reads : r.ReadsAs server p) {μ : Type} (m : μ) :
    (Lookup.byId server id).run File.handle f m = ⟨.ok (some p), f, m, []⟩ := by
  have replied := ready.selectUser id.user
  rw [only, List.head?_cons, Option.map_some] at replied
  rw [Lookup.byId, run_first replied]
  simp only [Except.bind, decode_eq_ok_iff.mpr reads, Except.map]

/-! ## Insertion -/

/-- A puppet of another server is not stored, and the store is not asked. One whose user has a row
is refused. Any other one is added below the rows that are there, and found as it comes back. -/
theorem insert_then_get (ready : f.Ready t) (server : String) (p : Puppet)
    (first : fitsInteger p.firstActivity = true) (last : fitsInteger p.lastActivity = true)
    (sync : ∀ m ∈ p.lastSync, m.unixSeconds < endSecond) :
    (p.remoteId.server ≠ server → ∀ {σ : Type} (h : Handle σ) (s : σ),
      (Puppet.insert server).run h s p = ⟨.ok false, s, p, [.notInserting p.remoteId]⟩) ∧
    (p.remoteId.server = server → (∃ r ∈ t, r.user = .text p.remoteId.user) →
      (Puppet.insert server).run File.handle f p =
        ⟨.error (.storage (.sqlite .statement .userTaken)), f, p, []⟩) ∧
    (p.remoteId.server = server → (∀ r ∈ t, r.user ≠ .text p.remoteId.user) →
      ∃ r q, p.ComesBackAs q ∧
        (Puppet.insert server).run File.handle f p = ⟨.ok true, f.withTable (t ++ [r]), p, []⟩ ∧
        ∀ id : RemoteId, id.user = p.remoteId.user → ∀ {μ : Type} (m : μ),
          (Lookup.byId server id).run File.handle (f.withTable (t ++ [r])) m =
            ⟨.ok (some q), f.withTable (t ++ [r]), m, []⟩) := by
  refine ⟨fun foreign _ h s => run_insert_foreign foreign, fun own taken => ?_,
    fun own free => ?_⟩
  · obtain ⟨r, mem, named⟩ := taken
    have some_row : t.rowsOf p.remoteId.user ≠ [] :=
      List.ne_nil_of_mem (Table.mem_rowsOf.mpr ⟨mem, named⟩)
    rw [run_insert own, ready.insert_taken some_row first last]
    rfl
  · obtain ⟨added, ready', only⟩ := ready.insert_eq (Table.rowsOf_eq_nil free) first last
    refine ⟨storedRow p, p.normal, Puppet.comesBackAs_normal sync, ?_, fun id same _ m => ?_⟩
    · rw [run_insert own, added]
      rfl
    · exact ready'.byId (same ▸ only)
        (readsAs_storedRow own (Puppet.syncSeconds_lt_iff.mpr sync)) m

def eveFile : File :=
  { written := true, version := 1
    table := some [storedRow { remoteId := ⟨"eve", "remote.example"⟩ }] }

theorem ready_eveFile : eveFile.Ready [storedRow { remoteId := ⟨"eve", "remote.example"⟩ }] where
  whole := rfl
  unlocked := rfl
  table := rfl
  keyed := Table.keyed_insert Table.keyed_nil rfl

/-- A puppet with an excessive quality, an avatar that has no text, and a last sync of one and a
half seconds past 1970 at an offset of an hour. -/
def excessive (user : String) : Puppet :=
  { remoteId := ⟨user, "remote.example"⟩, displayname := "Ada", nameQuality := 500
    avatarUri := ⟨"matrix.example", "a/b"⟩
    lastSync := Moment.ofReading? 3601500000 3600000000, lastActivity := -7 }

theorem insert_then_get_excessive :
    ((Puppet.insert "other.example").run File.handle eveFile (excessive "ada")).result = .ok false ∧
    (Puppet.insert "remote.example").run File.handle eveFile (excessive "eve") =
      ⟨.error (.storage (.sqlite .statement .userTaken)), eveFile, excessive "eve", []⟩ ∧
    ∃ q f', (excessive "ada").ComesBackAs q ∧ q.nameQuality = 127 ∧ q.avatarUri = {} ∧
      (Puppet.insert "remote.example").run File.handle eveFile (excessive "ada") =
        ⟨.ok true, f', excessive "ada", []⟩ ∧
      (Lookup.byId "remote.example" ⟨"ada", "elsewhere"⟩).run File.handle f' () =
        ⟨.ok (some q), f', (), []⟩ := by
  have sync (user : String) : ∀ m ∈ (excessive user).lastSync, m.unixSeconds < endSecond := by
    intro m held
    cases held
    exact (Moment.unixSeconds_lt_endSecond_iff _).mpr (by decide)
  have bad : ¬ (excessive "ada").avatarUri.Valid := fun valid => valid.plainFile (by decide)
  have stored (server user : String) :=
    insert_then_get ready_eveFile server (excessive user) rfl rfl (sync user)
  obtain ⟨_, _, added⟩ := stored "remote.example" "ada"
  obtain ⟨r, q, back, inserted, found⟩ := added rfl (by decide)
  refine ⟨?_, (stored "remote.example" "eve").2.1 rfl ⟨_, List.mem_singleton_self _, rfl⟩,
    q, _, back, back.quality, back.noAvatar bad, inserted, found _ rfl ()⟩
  rw [(stored "other.example" "ada").1 (by decide) File.handle eveFile]

/-! ## Updates -/

namespace Table

/-- A table in which the profile of a puppet has been saved, in the row of its user if there is
one. -/
def saved (p : Puppet) (t : Table) : Table :=
  (t.updateWhere (ofUser (.text p.remoteId.user)) (withProfile (storedRow p))).1

theorem keyed_saved (keyed : t.Keyed) (p : Puppet) : (t.saved p).Keyed :=
  keyed_updateWhere keyed _ fun _ => rfl

theorem rowsOf_saved {user : String} (only : t.rowsOf user = [r]) (same : p.remoteId.user = user) :
    (t.saved p).rowsOf user = [withProfile (storedRow p) r] := by
  have picked : ofUser (.text p.remoteId.user) r = true :=
    ofUser_text_iff.mpr (same ▸ user_of_rowsOf only)
  have keeps : ∀ r, (withProfile (storedRow p) r).user = r.user := fun _ => rfl
  rw [saved, rowsOf_updateWhere _ _ keeps, only, List.map_singleton, if_pos picked]

theorem forall₂_saved (p : Puppet) (t : Table) :
    List.Forall₂ (fun r r' => r'.user = r.user ∧ (r.user ≠ .text p.remoteId.user → r' = r)) t
      (t.saved p) := by
  refine forall₂_updateWhere (fun r own => ⟨rfl, fun other => ?_⟩) (fun r => ⟨rfl, fun _ => rfl⟩) t
  exact absurd (ofUser_text_iff.mp own) other

/-- A profile that has been saved is there already when it is saved again. -/
theorem saved_saved (p : Puppet) (t : Table) : (t.saved p).saved p = t.saved p := by
  rw [saved, saved, updateWhere, updateWhere, List.map_map]
  apply List.map_congr_left
  intro r _
  by_cases picked : ofUser (.text p.remoteId.user) r
  · rw [Function.comp, if_pos picked, ite_eq_right_iff]
    exact fun _ => rfl
  · rw [Function.comp, if_neg picked, if_neg picked]

end Table

theorem File.Ready.saved (ready : f.Ready t) (p : Puppet) :
    (f.withTable (t.saved p)).Ready (t.saved p) :=
  ready.with (Table.keyed_saved ready.keyed p)

theorem File.Ready.run_update (ready : f.Ready t) (p : Puppet) :
    Puppet.update.run File.handle f p =
      ⟨.ok (decide (∃ r ∈ t, r.user = .text p.remoteId.user)), f.withTable (t.saved p), p, []⟩ := by
  have done := ready.execute_eq (s := .update p.toRow) rfl rfl (binds_update p) rfl
  have user : (convertRow (bindRow p.toRow)).user = .text p.remoteId.user := rfl
  rw [Access.run_update done]
  congr 2
  simp only [Except.map, Int.natCast_pos, Table.updateWhere, List.countP_pos_iff, user,
    Table.ofUser_text_iff]

theorem readsAs_updated {first last : Int} (sync : Puppet.syncSeconds p.lastSync < endSecond)
    (own : r.user = .text p.remoteId.user) (readsFirst : r.firstActivity.asInt = .ok first)
    (readsLast : r.lastActivity.asInt = .ok last) (server : String) :
    (Table.withProfile (storedRow p) r).ReadsAs server (Puppet.normal
      { p with
        remoteId := ⟨p.remoteId.user, server⟩, firstActivity := first, lastActivity := last }) := by
  let q : Puppet := { p with
    remoteId := ⟨p.remoteId.user, server⟩, firstActivity := first, lastActivity := last }
  have user : Puppet.readUser server r.user = .ok q.remoteId := by
    rw [own]
    rfl
  have reads : (Table.withProfile (storedRow q) r).ReadsAs server q.normal :=
    readsAs_withProfile (readsAs_storedRow rfl sync) user readsFirst readsLast
  exact reads

/-- An update says whether there is a row of the user. It adds no row and changes no other one, and
what is found in the row afterwards has the profile as it comes back and the activity that was
there. -/
theorem update_then_get (ready : f.Ready t) (p : Puppet)
    (sync : ∀ m ∈ p.lastSync, m.unixSeconds < endSecond) :
    ∃ found t', Puppet.update.run File.handle f p = ⟨.ok found, f.withTable t', p, []⟩ ∧
      (found = true ↔ ∃ r ∈ t, r.user = .text p.remoteId.user) ∧
      List.Forall₂ (fun r r' => r'.user = r.user ∧ (r.user ≠ .text p.remoteId.user → r' = r)) t t' ∧
      ∀ r ∈ t, r.user = .text p.remoteId.user → ∀ first last,
        r.firstActivity.asInt = .ok first → r.lastActivity.asInt = .ok last →
        ∀ server, ∃ q,
          Puppet.ComesBackAs
            { p with
              remoteId := ⟨p.remoteId.user, server⟩, firstActivity := first,
              lastActivity := last } q ∧
          ∀ id : RemoteId, id.user = p.remoteId.user → ∀ {μ : Type} (m : μ),
            (Lookup.byId server id).run File.handle (f.withTable t') m =
              ⟨.ok (some q), f.withTable t', m, []⟩ := by
  refine ⟨_, _, ready.run_update p, decide_eq_true_iff, Table.forall₂_saved p t, ?_⟩
  intro r mem own first last readsFirst readsLast server
  refine ⟨_, Puppet.comesBackAs_normal sync, fun id same _ m => ?_⟩
  have only := Table.rowsOf_saved (ready.keyed.rowsOf_eq mem own) rfl
  have reads := readsAs_updated (Puppet.syncSeconds_lt_iff.mpr sync) own readsFirst readsLast server
  exact (ready.saved p).byId (same ▸ only) reads m

/-- A row of ada in which hardly a cell is of its column's type. -/
def motleyRow : Row where
  user := .text "ada"
  avatar := .null
  avatarUri := .text "mxc:/matrix.example/a"
  displayname := .blob [65, 100, 97]
  nameQuality := .int 1000
  nameSet := .int 7
  avatarSet := .text "no"
  lastSync := .int (-5)
  linkedUser := .real (.finite false 3 (-1))
  accessToken := .null
  nextBatch := .null
  enablePresence := .null
  enableReceipts := .int 1
  firstActivity := .real (.finite false 15 (-1))
  lastActivity := .null

def motleyFile : File :=
  { written := true, version := 1, table := some [motleyRow] }

theorem ready_motleyFile : motleyFile.Ready [motleyRow] where
  whole := rfl
  unlocked := rfl
  table := rfl
  keyed := Table.keyed_insert Table.keyed_nil rfl

/-- A copy of ada on another server, with activity that is in no row. -/
def foreignAda : Puppet :=
  { displayname := "Ada", nameQuality := -500, nameSet := true, firstActivity := 2 ^ 70
    remoteId := ⟨"ada", "other.example"⟩ }

theorem update_then_get_foreign :
    ∃ f' q, Puppet.update.run File.handle motleyFile foreignAda = ⟨.ok true, f', foreignAda, []⟩ ∧
      (Lookup.byId "remote.example" ⟨"ada", "remote.example"⟩).run File.handle f' () =
        ⟨.ok (some q), f', (), []⟩ ∧
      q.remoteId.server = "remote.example" ∧ q.displayname = "Ada" ∧ q.nameQuality = -128 ∧
      q.firstActivity = 7 ∧ q.lastActivity = 0 := by
  obtain ⟨found, t', updated, told, _, back⟩ :=
    update_then_get ready_motleyFile foreignAda (fun _ held => nomatch held)
  have own : motleyRow.user = .text foreignAda.remoteId.user := rfl
  obtain rfl : found = true := told.mpr ⟨_, List.mem_singleton_self _, own⟩
  obtain ⟨q, same, read⟩ :=
    back _ (List.mem_singleton_self _) own 7 0 (by decide) (by decide) "remote.example"
  exact ⟨_, q, updated, read ⟨"ada", "remote.example"⟩ rfl (),
    congrArg (fun q => q.remoteId.server) same.others, congrArg Puppet.displayname same.others,
    same.quality, congrArg Puppet.firstActivity same.others,
    congrArg Puppet.lastActivity same.others⟩

/-! ## Loading and saving -/

/-- Load the puppet of a user and save it as it is. Whether there is a row to save it in. -/
def resave (server : String) (id : RemoteId) : Program Puppet Bool := do
  match ← Lookup.byId server id with
  | none => return false
  | some p =>
    revise fun _ => p
    Puppet.update

def resaves (server : String) (id : RemoteId) : Nat → Program Puppet (List Bool)
  | 0 => done []
  | n + 1 => do
    let saved ← resave server id
    let others ← resaves server id n
    return saved :: others

/-- A row of a user in a ready file, and the puppet that it reads as. -/
structure Holds (server : String) (f : File) (t : Table) (id : RemoteId) (r : Row) (p : Puppet) :
    Prop where
  ready : f.Ready t
  only : t.rowsOf id.user = [r]
  reads : r.ReadsAs server p

namespace Holds

variable (holds : Holds server f t id r p)

include holds

theorem user_eq : p.remoteId.user = id.user := by
  have read := holds.reads.user
  rw [Table.user_of_rowsOf holds.only] at read
  have same : p.remoteId = ⟨id.user, server⟩ := (Except.ok.inj read).symm
  rw [same]

theorem saved : Holds server (f.withTable (t.saved p)) (t.saved p) id
    (Table.withProfile (storedRow p) r) p where
  ready := holds.ready.saved p
  only := Table.rowsOf_saved holds.only holds.user_eq
  reads := by
    have again := readsAs_storedRow holds.reads.server_eq holds.reads.sync.1
    rw [holds.reads.normal_eq] at again
    exact readsAs_withProfile again holds.reads.user holds.reads.firstActivity
      holds.reads.lastActivity

theorem run_resave (q : Puppet) :
    (resave server id).run File.handle f q = ⟨.ok true, f.withTable (t.saved p), p, []⟩ := by
  have found : ∃ r ∈ t, r.user = .text p.remoteId.user :=
    ⟨r, holds.user_eq ▸ Table.mem_rowsOf.mp (holds.only ▸ List.mem_singleton_self r)⟩
  have stored := holds.ready.run_update p
  rw [decide_eq_true found] at stored
  change ((Lookup.byId server id).bind _).run File.handle f q = _
  rw [run_bind, holds.ready.byId holds.only holds.reads]
  simp only [Run.andThen, revise, bind_eq, Program.bind, run, stored, List.nil_append]

/-- From the first time on, loading and saving comes to the same file. -/
theorem run_resaves (n : Nat) (q : Puppet) :
    (resaves server id (n + 1)).run File.handle f q =
      ⟨.ok (List.replicate (n + 1) true), f.withTable (t.saved p), p, []⟩ := by
  induction n generalizing f t r q with
  | zero =>
    simp only [resaves, bind_eq, run_bind, holds.run_resave, Run.andThen, run, Program.pure_eq,
      Program.bind, List.nil_append, List.replicate]
  | succ n ih =>
    have others := ih holds.saved p
    rw [Table.saved_saved] at others
    rw [resaves, bind_eq, run_bind, holds.run_resave]
    simp only [Run.andThen, bind_eq, run_bind, others, run, Program.pure_eq, List.append_nil]
    rfl

end Holds

/-- A row that can be read, whatever its cells, reads as the same puppet after it has been loaded
and saved; and however often that is done, the file is as it was after the first time. Other rows
are not changed at all. -/
theorem resaving_settles (ready : f.Ready t) (mem : r ∈ t) (own : r.user = .text id.user)
    (reads : Puppet.ofCells server r.cells = .ok p) :
    ∃ t', List.Forall₂ (fun r r' => r'.user = r.user ∧ (r.user ≠ .text id.user → r' = r)) t t' ∧
      (∀ {μ : Type} (m : μ),
        (Lookup.byId server id).run File.handle f m = ⟨.ok (some p), f, m, []⟩ ∧
        (Lookup.byId server id).run File.handle (f.withTable t') m =
          ⟨.ok (some p), f.withTable t', m, []⟩) ∧
      ∀ n q, (resaves server id (n + 1)).run File.handle f q =
        ⟨.ok (List.replicate (n + 1) true), f.withTable t', p, []⟩ := by
  have holds : Holds server f t id r p :=
    ⟨ready, ready.keyed.rowsOf_eq mem own, Puppet.ofCells_eq_ok_iff.mp reads⟩
  refine ⟨t.saved p, holds.user_eq ▸ Table.forall₂_saved p t, fun m => ⟨?_, ?_⟩,
    holds.run_resaves⟩
  · exact holds.ready.byId holds.only holds.reads m
  · exact holds.saved.ready.byId holds.saved.only holds.saved.reads m

def motleyAda : Puppet :=
  { remoteId := ⟨"ada", "remote.example"⟩, displayname := "b'Ada'", nameQuality := 127
    nameSet := true, avatarSet := true, linkedUser := "1.5", enablePresence := false
    firstActivity := 7 }

theorem resaving_settles_motley :
    ∃ f', f' ≠ motleyFile ∧
      (Lookup.byId "remote.example" motleyAda.remoteId).run File.handle f' () =
        ⟨.ok (some motleyAda), f', (), []⟩ ∧
      ∀ n, (resaves "remote.example" motleyAda.remoteId (n + 1)).run File.handle motleyFile {} =
        ⟨.ok (List.replicate (n + 1) true), f', motleyAda, []⟩ := by
  have reads : Puppet.ofCells "remote.example" motleyRow.cells = .ok motleyAda := by
    decide +kernel
  have own : motleyRow.user = .text motleyAda.remoteId.user := rfl
  obtain ⟨t', _, found, settles⟩ :=
    resaving_settles ready_motleyFile (List.mem_singleton_self _) own reads
  refine ⟨_, fun same => ?_, (found ()).2, fun n => settles n {}⟩
  have once : ((resaves "remote.example" motleyAda.remoteId 1).run File.handle motleyFile {}).store =
      motleyFile := by
    rw [settles 0 {}, same]
  exact absurd once (by decide +kernel)

end Sqlite

end PuppetRegistry
