import PuppetRegistry.Proofs.Access.Stored
import PuppetRegistry.Proofs.Sqlite.Writes

/-!
# Unlinking, again and again

A puppet is unlinked in memory first and in its row then, and what is left to do is told from
memory. Main statement: of any number of calls in a row, in a store that may fail at each write, the
first one decides. If it writes, the row holds no link, no token and no place in a sync, and the
puppet is found by no link; if its write fails, no later call writes anything.
-/

namespace PuppetRegistry.Access

open Program Sqlite

variable {server user : String} {f : File} {t : Table} {r : Row} {p q : Puppet}

/-! ## Found by a link -/

section Lookups

variable {μ : Type}

theorem run_linked (ready : f.Ready t) (server : String) (m : μ) :
    ∃ ps events, (linked server).run File.handle f m = ⟨.ok ps, f, m, events⟩ ∧
      ∀ q ∈ ps, ∃ r ∈ t, r.linkedUser ≠ .text "" ∧ r.ReadsAs server q := by
  rw [linked, run_onStoreError, Lookup.linked, run_every ready.selectLinked]
  simp only [Except.bind]
  cases decoded : ((t.filter Table.isLinked).map Row.cells).mapM (Lookup.decode server) with
  | ok ps =>
    refine ⟨ps, [], rfl, fun q mem => ?_⟩
    obtain ⟨r, held, reads⟩ := reads_of_mapM_decode decoded mem
    obtain ⟨held, linked⟩ := List.mem_filter.mp held
    have link : r.linkedUser ≠ .text "" := by
      simpa using (Bool.and_eq_true_iff.mp linked).2
    exact ⟨r, held, link, reads⟩
  | error fault =>
    obtain ⟨e, rfl⟩ := storage_of_mapM_decode decoded
    exact ⟨[], _, rfl, fun q mem => by cases mem⟩

theorem run_findLinkedTo (ready : f.Ready t) (server : String) (link : Option String) (m : μ) :
    ∃ answer events, (findLinkedTo server link).run File.handle f m = ⟨.ok answer, f, m, events⟩ ∧
      ∀ q, answer = some q → ∃ r ∈ t, r.linkedUser ≠ .text "" ∧ r.ReadsAs server q := by
  have nobody : ∀ q, (none : Option Puppet) = some q →
      ∃ r ∈ t, r.linkedUser ≠ .text "" ∧ r.ReadsAs server q := by
    intro q found
    cases found
  cases link with
  | none => exact ⟨none, [], rfl, nobody⟩
  | some link =>
    by_cases empty : link.isEmpty
    · refine ⟨none, [], ?_, nobody⟩
      rw [findLinkedTo, Lookup.byLink, if_pos empty]
      rfl
    · rw [findLinkedTo, run_onStoreError, Lookup.byLink, if_neg empty,
        run_first (ready.selectLinkedTo link)]
      cases rows : t.filter fun r => r.linkedUser == .text link with
      | nil => exact ⟨none, [], rfl, nobody⟩
      | cons r rest =>
        obtain ⟨held, linked⟩ := List.mem_filter.mp (rows ▸ List.mem_cons_self : r ∈ _)
        have same : r.linkedUser = .text link := beq_iff_eq.mp linked
        have named : r.linkedUser ≠ .text "" := by
          intro none_named
          rw [same] at none_named
          exact empty (by simpa using none_named)
        simp only [List.head?_cons, Option.map_some, Except.bind]
        cases decoded : Lookup.decode server r.cells with
        | error fault =>
          obtain ⟨e, rfl⟩ := storage_of_decode decoded
          exact ⟨none, _, rfl, nobody⟩
        | ok p =>
          refine ⟨some p, [], rfl, fun q found => ?_⟩
          cases found
          exact ⟨r, held, named, decode_eq_ok_iff.mp decoded⟩

end Lookups

/-! ## The row of an unlinked puppet -/

/-- A row without a link, a token and a place in a sync. -/
def Bare (r : Row) : Prop :=
  r.linkedUser = .text "" ∧ r.accessToken = .text "" ∧ r.nextBatch = .text ""

/-- A puppet that is read from the row of somebody else. If users are texts, as the registry writes
them, it is the puppet of another user. -/
def OfAnother (server user : String) (t : Table) (q : Puppet) : Prop :=
  (∃ r ∈ t, r.user ≠ .text user ∧ r.ReadsAs server q) ∧
    ((∀ r ∈ t, ∃ name, r.user = .text name) → q.remoteId.user ≠ user)

theorem ofAnother_of_reads (held : r ∈ t) (other : r.user ≠ .text user)
    (reads : r.ReadsAs server q) : OfAnother server user t q := by
  refine ⟨⟨r, held, other, reads⟩, fun texts same => ?_⟩
  obtain ⟨name, text⟩ := texts r held
  have read := reads.user
  rw [text] at read
  have id : q.remoteId = ⟨name, server⟩ := (Except.ok.inj read).symm
  apply other
  rw [text, ← same, id]

theorem user_ne_of_linked (ready : f.Ready t) (only : t.rowsOf user = [r]) (bare : Bare r)
    {r' : Row} (held : r' ∈ t) (link : r'.linkedUser ≠ .text "") : r'.user ≠ .text user := by
  intro own
  have same : [r'] = [r] := (ready.keyed.rowsOf_eq held own).symm.trans only
  cases same
  exact link bare.1

/-- Whatever a lookup by a link answers, it is not read from the row of this user. -/
def FoundByNoLink (server user : String) (f : File) (t : Table) : Prop :=
  (∃ ps events, (linked server).run File.handle f () = ⟨.ok ps, f, (), events⟩ ∧
    ∀ q ∈ ps, OfAnother server user t q) ∧
  ∀ link, ∃ answer events,
    (findLinkedTo server link).run File.handle f () = ⟨.ok answer, f, (), events⟩ ∧
      ∀ q, answer = some q → OfAnother server user t q

theorem foundByNoLink_of_bare (ready : f.Ready t) (only : t.rowsOf user = [r]) (bare : Bare r)
    (server : String) : FoundByNoLink server user f t := by
  have another {q : Puppet}
      (read : ∃ r' ∈ t, r'.linkedUser ≠ .text "" ∧ r'.ReadsAs server q) :
      OfAnother server user t q := by
    obtain ⟨r', held, link, reads⟩ := read
    exact ofAnother_of_reads held (user_ne_of_linked ready only bare held link) reads
  constructor
  · obtain ⟨ps, events, done, read⟩ := run_linked ready server ()
    exact ⟨ps, events, done, fun q mem => another (read q mem)⟩
  · intro link
    obtain ⟨answer, events, done, read⟩ := run_findLinkedTo ready server link ()
    exact ⟨answer, events, done, fun q found => another (read q found)⟩

/-! ## Calls in turn -/

def unlinked (p : Puppet) : Puppet :=
  { p with linkedUser := "", accessToken := "", nextBatch := "" }

def unlinkTimes (n : Nat) : Program Puppet (List Bool) :=
  Call.inTurn (List.replicate n (.edit .unlink))

theorem change_unlink_of_joined (joined : p.isLinked = true ∨ p.accessToken ≠ "") :
    Edit.unlink.change? p = some (unlinked p) := by
  simp only [Edit.change?]
  rw [if_neg]
  · rfl
  · rcases joined with linked | token
    · simp [linked]
    · simp [token]

theorem change_unlink_of_free (link : p.isLinked = false) (token : p.accessToken = "") :
    Edit.unlink.change? p = none := by
  simp [Edit.change?, link, token]

section Run

variable {σ : Type} {h : Handle σ} {s s' : σ}

theorem run_unlinkTimes_of_none (same : Edit.unlink.change? p = none) (n : Nat) :
    (unlinkTimes n).run h s p = ⟨.ok (List.replicate n false), s, p, []⟩ := by
  induction n with
  | zero => rfl
  | succ n ih =>
    have first : (Call.program (.edit .unlink)).run h s p = ⟨.ok false, s, p, []⟩ :=
      Edit.run_none same
    exact Call.run_inTurn_cons first ih

theorem run_unlinkTimes_of_some (joined : p.isLinked = true ∨ p.accessToken ≠ "") {saved : Bool}
    {events : List Event}
    (wrote : write.run h s (unlinked p) = ⟨.ok saved, s', unlinked p, events⟩) (more : Nat) :
    ∃ events', (unlinkTimes (more + 1)).run h s p =
      ⟨.ok (saved :: List.replicate more false), s', unlinked p, events'⟩ := by
  obtain ⟨events₁, first⟩ := Edit.run_some (change_unlink_of_joined joined) wrote
  have others := run_unlinkTimes_of_none (h := h) (s := s')
    (change_unlink_of_free (p := unlinked p) rfl rfl) more
  have one : (Call.program (.edit .unlink)).run h s p = ⟨.ok saved, s', unlinked p, events₁⟩ := first
  exact ⟨events₁ ++ [], Call.run_inTurn_cons one others⟩

end Run

theorem bare_storedRow (p : Puppet) (r : Row) :
    Bare (Table.withProfile (storedRow (unlinked p)) r) := by
  rw [storedRow_eq]
  exact ⟨rfl, rfl, rfl⟩

theorem Stored.unlink_writes (stored : Stored server f t r p)
    (joined : p.isLinked = true ∨ p.accessToken ≠ "") {failures : List (Option StoreError)}
    (works : ∀ e, failures.head? ≠ some (some e)) (more : Nat) :
    ∃ t' r' events,
      (unlinkTimes (more + 1)).run File.handle.failing (failures, f) p =
        ⟨.ok (true :: List.replicate more false), (failures.tail, f.withTable t'), unlinked p,
          events⟩ ∧
      (f.withTable t').Ready t' ∧ t'.rowsOf p.remoteId.user = [r'] ∧ Bare r' := by
  obtain ⟨t', wrote, stored'⟩ := stored.write (change_unlink_of_joined joined)
    (fun now sync => by cases sync)
  have replied : File.handle.failing.execute (.update (unlinked p).toRow) (failures, f) =
      (.ok 1, failures.tail, f.withTable t') := by
    change failNext (File.handle.execute _) (failures, f) = _
    rw [failNext_of_works _ works, wrote]
  obtain ⟨events, done⟩ := run_unlinkTimes_of_some joined (run_write replied) more
  exact ⟨t', _, events, done, stored'.ready, stored'.only, bare_storedRow p r⟩

theorem unlink_fails (joined : p.isLinked = true ∨ p.accessToken ≠ "") (e : StoreError)
    (rest : List (Option StoreError)) (f : File) (more : Nat) :
    ∃ events,
      (unlinkTimes (more + 1)).run File.handle.failing (some e :: rest, f) p =
        ⟨.ok (List.replicate (more + 1) false), (rest, f), unlinked p, events⟩ :=
  run_unlinkTimes_of_some joined (run_write_error rfl) more

/-- Of any number of calls on a puppet that has been found the first one decides. A puppet with
neither a link nor a token stays as it is. Of any other one the copy in memory is unlinked, and the
row if the first write succeeds; if that fails, the file stays as it is however often it is tried
again. -/
theorem first_unlinking_decides {μ : Type} {m m' : μ} {id : RemoteId} {create : Bool} {f' : File}
    {log : List Event} (ready : f.Ready t)
    (finds : (find server id create).run File.handle f m = ⟨.ok (some p), f', m', log⟩)
    (failures : List (Option StoreError)) (more : Nat) :
    (p.isLinked = false ∧ p.accessToken = "" →
      (unlinkTimes (more + 1)).run File.handle.failing (failures, f') p =
        ⟨.ok (List.replicate (more + 1) false), (failures, f'), p, []⟩) ∧
    (p.isLinked = true ∨ p.accessToken ≠ "" →
      (∀ e rest, failures = some e :: rest → ∃ events,
        (unlinkTimes (more + 1)).run File.handle.failing (failures, f') p =
          ⟨.ok (List.replicate (more + 1) false), (rest, f'), unlinked p, events⟩) ∧
      ((∀ e, failures.head? ≠ some (some e)) → ∃ t' r' events,
        (unlinkTimes (more + 1)).run File.handle.failing (failures, f') p =
          ⟨.ok (true :: List.replicate more false), (failures.tail, f'.withTable t'), unlinked p,
            events⟩ ∧
        t'.rowsOf id.user = [r'] ∧ Bare r' ∧
        FoundByNoLink server id.user (f'.withTable t') t')) := by
  have answer := stored_of_find (m := m) ready (congrArg Run.result finds)
  rw [finds] at answer
  obtain ⟨t₀, r₀, stored, origin⟩ := answer
  refine ⟨fun free => ?_, fun joined => ⟨fun e rest due => ?_, fun works => ?_⟩⟩
  · exact run_unlinkTimes_of_none (change_unlink_of_free free.1 free.2) (more + 1)
  · subst due
    exact unlink_fails joined e rest f' more
  · obtain ⟨t', r', events, done, ready', only, bare⟩ := stored.unlink_writes joined works more
    rw [origin.user] at only
    exact ⟨t', r', events, done, only, bare, foundByNoLink_of_bare ready' only bare server⟩

def fileOf (p : Puppet) : File :=
  (File.init {}).2.withTable [storedRow p]

theorem ready_fileOf (p : Puppet) : (fileOf p).Ready [storedRow p] :=
  File.ready_init.2.with (Table.keyed_insert Table.keyed_nil rfl)

def grace : Puppet :=
  { remoteId := ⟨"grace", "remote.example"⟩
    linkedUser := "@grace:example.org"
    accessToken := "token"
    nextBatch := "batch" }

def busy : StoreError :=
  .reported "database is locked"

theorem first_unlinking_decides_grace :
    (find "remote.example" grace.remoteId false).run File.handle (fileOf grace) () =
        ⟨.ok (some grace), fileOf grace, (), []⟩ ∧
      ∃ t' r' events,
        (unlinkTimes 2).run File.handle.failing ([none, some busy], fileOf grace) grace =
          ⟨.ok [true, false], ([some busy], (fileOf grace).withTable t'), unlinked grace, events⟩ ∧
        t'.rowsOf "grace" = [r'] ∧ Bare r' ∧
        FoundByNoLink "remote.example" "grace" ((fileOf grace).withTable t') t' := by
  have finds : (find "remote.example" grace.remoteId false).run File.handle (fileOf grace) () =
      ⟨.ok (some grace), fileOf grace, (), []⟩ := by
    have stored : Stored "remote.example" (fileOf grace) [storedRow grace] (storedRow grace) grace :=
      ⟨ready_fileOf grace, rfl, readsAs_storedRow rfl (by decide), by decide⟩
    have same : grace.normal = grace := by decide
    have found := stored.find false ()
    rwa [same] at found
  have joined : grace.isLinked = true ∨ grace.accessToken ≠ "" := by decide
  have works : ∀ e, [none, some busy].head? ≠ some (some e) := by
    intro e due
    cases due
  have decided := first_unlinking_decides (ready_fileOf grace) finds [none, some busy] 1
  exact ⟨finds, (decided.2 joined).2 works⟩

/-- After a first write that has failed, a second call writes nothing although it could. The token
stays in the row, and the user among the linked ones. A place in a sync that is there alone is not
removed at all. -/
theorem token_left_after_second_unlinking :
    let after := (unlinkTimes 2).run File.handle.failing ([some busy], fileOf grace) grace
    let waiting : Puppet := { remoteId := grace.remoteId, nextBatch := "batch" }
    (after.result = .ok [false, false] ∧ after.store = ([], fileOf grace) ∧
      ((linked "remote.example").run File.handle (fileOf grace) ()).result = .ok [grace] ∧
      (storedRow grace).accessToken = .text "token") ∧
    ((find "remote.example" grace.remoteId false).run File.handle (fileOf waiting) ()).result =
        .ok (some waiting) ∧
      ((unlinkTimes 1).run File.handle.failing ([], fileOf waiting) waiting).store =
        ([], fileOf waiting) ∧
      (storedRow waiting).nextBatch = .text "batch" := by
  decide +kernel

end PuppetRegistry.Access
