import PuppetRegistry.Proofs.Access.Calls
import PuppetRegistry.Proofs.Access.Finding
import PuppetRegistry.Proofs.Sqlite.Saving

/-!
# Stored puppets

A puppet is stored in a row if that is the only one of its user and reads as its normal form. What
has been found, or created, is stored and in normal form; what is stored is found again; and an edit
that is written leaves the edited puppet stored, with the activity of the row as it was.
-/

namespace PuppetRegistry.Access

open Program Sqlite

variable {server : String} {f : File} {t : Table} {r : Row} {p q : Puppet}

/-- A ready file has one row of the user of a puppet, which reads as the normal form of the puppet,
and the last sync of the puppet can be stored again. -/
structure Stored (server : String) (f : File) (t : Table) (r : Row) (p : Puppet) : Prop where
  ready : f.Ready t
  only : t.rowsOf p.remoteId.user = [r]
  reads : r.ReadsAs server p.normal
  sync : Puppet.syncSeconds p.lastSync < endSecond

theorem Stored.server_eq (stored : Stored server f t r p) : p.remoteId.server = server :=
  stored.reads.server_eq

/-- The normal form of a stored puppet is stored, as it is what is read. -/
theorem Stored.normal (stored : Stored server f t r p) : Stored server f t r p.normal where
  ready := stored.ready
  only := stored.only
  reads := stored.reads.normal_eq.symm ▸ stored.reads
  sync := stored.reads.sync.1

/-! ## Edits -/

theorem Stored.write (stored : Stored server f t r p) {e : Edit} (new : e.change? p = some q)
    (fits : ∀ now, e = .noteSynced now → now.unixSeconds < endSecond) :
    ∃ t', File.handle.execute (.update q.toRow) f = (.ok 1, f.withTable t') ∧
      Stored server (f.withTable t') t' (Table.withProfile (storedRow q) r) q := by
  obtain ⟨id, first, last, sync⟩ := Edit.kept_of_change? new
  have only : t.rowsOf q.remoteId.user = [r] := id ▸ stored.only
  have own : q.remoteId.server = server := id ▸ stored.server_eq
  have bound : Puppet.syncSeconds q.lastSync < endSecond := by
    rcases sync with same | ⟨now, kind, synced⟩
    · exact same ▸ stored.sync
    · rw [synced]
      exact fits now kind
  obtain ⟨t', done, ready', only'⟩ := stored.ready.update only
  refine ⟨t', done, ready', only', ?_, bound⟩
  apply readsAs_withProfile (readsAs_storedRow own bound)
  · exact stored.reads.user.trans (congrArg Except.ok id.symm)
  · exact stored.reads.firstActivity.trans (congrArg Except.ok first.symm)
  · exact stored.reads.lastActivity.trans (congrArg Except.ok last.symm)

/-- An edit of a stored puppet is answered, and the puppet it makes is stored. -/
theorem Stored.edit (stored : Stored server f t r p) (e : Edit)
    (fits : ∀ now, e = .noteSynced now → now.unixSeconds < endSecond) :
    ∃ f' t' r' events,
      e.program.run File.handle f p = ⟨.ok (e.answerSaved p), f', (e.change? p).getD p, events⟩ ∧
      Stored server f' t' r' ((e.change? p).getD p) := by
  unfold Edit.answerSaved
  cases change : e.change? p with
  | none => exact ⟨f, t, r, [], Edit.run_none change, stored⟩
  | some q =>
    obtain ⟨t', wrote, stored'⟩ := stored.write change fits
    obtain ⟨events, done⟩ := Edit.run_some change (run_write wrote)
    exact ⟨_, t', _, events, done, stored'⟩

/-! ## Finding -/

section Find

variable {μ : Type} {m : μ} {id : RemoteId} {create : Bool}

theorem Stored.find (stored : Stored server f t r p) (create : Bool) (m : μ) :
    (Access.find server p.remoteId create).run File.handle f m = ⟨.ok (some p.normal), f, m, []⟩ := by
  have replied := stored.ready.selectUser p.remoteId.user
  rw [stored.only, List.head?_cons, Option.map_some] at replied
  exact run_find_found replied (decode_eq_ok_iff.mpr stored.reads)

/-- The row in which a puppet is stored that has been found is an old one, unless the puppet has
just been created. -/
structure Origin (f f' : File) (t : Table) (id : RemoteId) (create : Bool) (r : Row) (p : Puppet) :
    Prop where
  user : p.remoteId.user = id.user
  normal : p.normal = p
  row : f' = f ∧ r ∈ t ∨ create = true ∧ p = { remoteId := id } ∧ r = storedRow p

theorem stored_of_find (ready : f.Ready t)
    (found : ((Access.find server id create).run File.handle f m).result = .ok (some p)) :
    ∃ t' r, Stored server ((Access.find server id create).run File.handle f m).store t' r p ∧
      Origin f ((Access.find server id create).run File.handle f m).store t id create r p := by
  have replied := ready.selectUser id.user
  cases rows : t.rowsOf id.user with
  | nil =>
    rw [rows, List.head?_nil, Option.map_none] at replied
    by_cases foreign : create = true → id.server ≠ server
    · obtain ⟨events, done⟩ := run_find_absent (m := m) replied foreign
      rw [done] at found
      cases found
    · obtain ⟨rfl, home⟩ : create = true ∧ id.server = server := by
        simpa [Classical.not_imp] using foreign
      have inRange : fitsInteger 0 = true := by decide
      have never : (0 : Int) < endSecond := by decide
      obtain ⟨t', added, ready', only'⟩ :=
        ready.insert (p := { remoteId := id }) rows inRange inRange
      have done := run_find_created (m := m) replied home added
      rw [done] at found ⊢
      cases found
      exact ⟨t', _, ⟨ready', only', readsAs_storedRow home never, never⟩,
        ⟨rfl, rfl, .inr ⟨rfl, rfl, rfl⟩⟩⟩
  | cons r rest =>
    obtain ⟨mem, own⟩ := Table.mem_rowsOf.mp (rows ▸ List.mem_cons_self)
    have only := ready.keyed.rowsOf_eq mem own
    rw [only, List.head?_cons, Option.map_some] at replied
    cases decoded : Lookup.decode server r.cells with
    | error fault =>
      obtain ⟨e, rfl⟩ := storage_of_decode decoded
      rw [run_find_undecodable (m := m) replied decoded] at found
      cases found
    | ok q =>
      rw [run_find_found (m := m) replied decoded] at found ⊢
      cases found
      have reads := decode_eq_ok_iff.mp decoded
      have user : p.remoteId.user = id.user := by
        have read := reads.user
        rw [own] at read
        have same : p.remoteId = ⟨id.user, server⟩ := (Except.ok.inj read).symm
        rw [same]
      refine ⟨t, r, ⟨ready, by rw [user]; exact only, ?_, reads.sync.1⟩,
        ⟨user, reads.normal_eq, .inl ⟨rfl, mem⟩⟩⟩
      rw [reads.normal_eq]
      exact reads

end Find

end PuppetRegistry.Access
