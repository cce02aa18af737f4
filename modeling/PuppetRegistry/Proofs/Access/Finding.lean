import PuppetRegistry.Access
import PuppetRegistry.Proofs.Puppet.Reading

/-!
# Finding puppets

What lookups come to by the reply to their statement, and what the search for the puppet of a user
comes to by the replies to its one or two. The search is cut at its statements, each stretch going
on from the reply to one of them.
-/

namespace PuppetRegistry.Access

open Program

variable {σ μ : Type} {h : Handle σ} {s s' s'' : σ} {m : μ} {server : String} {id : RemoteId}
  {create : Bool} {statement : Statement}

theorem decode_eq_ok_iff {r : Row} {p : Puppet} :
    Lookup.decode server r.cells = .ok p ↔ r.ReadsAs server p := by
  rw [← Puppet.ofCells_eq_ok_iff, Lookup.decode]
  cases Puppet.ofCells server r.cells with
  | ok q =>
    constructor
    · intro read
      cases read
      rfl
    · intro read
      cases read
      rfl
  | error e =>
    constructor
    · intro read
      cases read
    · intro read
      cases read

/-- A row that cannot be read is a storage error. -/
theorem storage_of_decode {cells : List Cell} {fault : Fault}
    (failed : Lookup.decode server cells = .error fault) : ∃ e, fault = .storage e := by
  rw [Lookup.decode] at failed
  cases read : Puppet.ofCells server cells with
  | ok =>
    rw [read] at failed
    cases failed
  | error e =>
    rw [read] at failed
    cases failed
    exact ⟨_, rfl⟩

theorem toOption_decode (server : String) (cells : List Cell) :
    (Lookup.decode server cells).toOption = (Puppet.ofCells server cells).toOption := by
  rw [Lookup.decode]
  cases Puppet.ofCells server cells <;> rfl

/-- Rows are decoded up to the first one that cannot be read, which is a storage error. -/
theorem mapM_decode (server : String) (rows : List (List Cell)) :
    match rows.mapM (Lookup.decode server) with
    | .ok ps => rows.mapM (fun cells => (Puppet.ofCells server cells).toOption) = some ps
    | .error fault => (∃ e, fault = .storage e) ∧
        rows.mapM (fun cells => (Puppet.ofCells server cells).toOption) = none := by
  induction rows with
  | nil => rfl
  | cons cells rest ih =>
    have read := toOption_decode server cells
    simp only [List.mapM_cons]
    cases decoded : Lookup.decode server cells with
    | error fault =>
      rw [decoded] at read
      exact ⟨storage_of_decode decoded, by rw [← read]; rfl⟩
    | ok p =>
      rw [decoded] at read
      rw [← read]
      cases others : rest.mapM (Lookup.decode server) with
      | error fault =>
        rw [others] at ih
        exact ⟨ih.1, by rw [ih.2]; rfl⟩
      | ok ps =>
        rw [others] at ih
        simp only [ih]
        rfl

theorem storage_of_mapM_decode {rows : List (List Cell)} {fault : Fault}
    (failed : rows.mapM (Lookup.decode server) = .error fault) : ∃ e, fault = .storage e := by
  have read := mapM_decode server rows
  rw [failed] at read
  exact read.1

/-- A puppet of a list that has been read reads as one of the rows. -/
theorem reads_of_mapM_decode {found : List Row} {ps : List Puppet} {q : Puppet}
    (decoded : (found.map Row.cells).mapM (Lookup.decode server) = .ok ps) (mem : q ∈ ps) :
    ∃ r ∈ found, r.ReadsAs server q := by
  induction found generalizing ps with
  | nil =>
    cases decoded
    cases mem
  | cons r rest ih =>
    rw [List.map_cons, List.mapM_cons] at decoded
    cases first : Lookup.decode server r.cells with
    | error fault =>
      rw [first] at decoded
      cases decoded
    | ok p =>
      cases others : (rest.map Row.cells).mapM (Lookup.decode server) with
      | error fault =>
        rw [first, others] at decoded
        cases decoded
      | ok qs =>
        rw [first, others] at decoded
        cases decoded
        rcases List.mem_cons.mp mem with rfl | later
        · exact ⟨r, List.mem_cons_self, decode_eq_ok_iff.mp first⟩
        · obtain ⟨r', held, reads⟩ := ih others later
          exact ⟨r', List.mem_cons_of_mem _ held, reads⟩

/-! ## Runs of lookups -/

theorem run_first {reply : Except Fault (Option (List Cell))}
    (replied : h.row statement s = (reply, s')) :
    (Lookup.first server statement).run h s m =
      ⟨reply.bind fun
        | none => .ok none
        | some cells => (Lookup.decode server cells).map some, s', m, []⟩ := by
  simp only [Lookup.first, fetchRow, bind_eq, Program.bind, run, replied]
  rcases reply with fault | _ | cells
  · rfl
  · rfl
  · simp only [Program.ofExcept, Program.bind, Except.bind]
    cases Lookup.decode server cells <;> rfl

theorem run_every {reply : Except Fault (List (List Cell))}
    (replied : h.rows statement s = (reply, s')) :
    (Lookup.every server statement).run h s m =
      ⟨reply.bind fun found => found.mapM (Lookup.decode server), s', m, []⟩ := by
  simp only [Lookup.every, fetchRows, bind_eq, Program.bind, run, replied]
  cases reply with
  | error fault => rfl
  | ok found =>
    simp only [Program.ofExcept, Program.bind, Except.bind]
    cases found.mapM (Lookup.decode server) <;> rfl

/-! ## A search, stretch by stretch -/

def afterInsert (id : RemoteId) : Except Fault Int → Program μ (Option Puppet)
  | .error (.storage error) => note (.insertFailed id error) (done (some { remoteId := id }))
  | .error fault => raise fault
  | .ok _ => done (some { remoteId := id })

/-- What is done about a user whose row has been looked for. -/
def afterFound (server : String) (id : RemoteId) (create : Bool) :
    Except Fault (Option Puppet) → Program μ (Option Puppet)
  | .error (.storage error) => note (.loadFailed id error) (done none)
  | .error fault => raise fault
  | .ok (some p) => done (some p)
  | .ok none =>
    if !create then done none
    else if id.server ≠ server then note (.notCreating id) (done none)
    else execute (.insert (Puppet.toRow { remoteId := id })) (afterInsert id)

def afterLook (server : String) (id : RemoteId) (create : Bool)
    (reply : Except Fault (Option (List Cell))) : Program μ (Option Puppet) :=
  afterFound server id create <| reply.bind fun
    | none => .ok none
    | some cells => (Lookup.decode server cells).map some

theorem find_eq (server : String) (id : RemoteId) (create : Bool) :
    (find server id create : Program μ _) =
      row (.selectUser id.user) (afterLook server id create) := by
  simp only [find, Lookup.byId, Lookup.first, fetchRow, Functor.map, bind_eq, pure_eq,
    Program.bind, onStoreError]
  congr 1
  funext reply
  rcases reply with fault | _ | cells
  · cases fault <;> rfl
  · simp only [Program.ofExcept, Program.bind, Function.comp, onStoreError, afterLook,
      Except.bind, afterFound]
    split
    · rfl
    · split
      · rfl
      · next own =>
        rw [Puppet.insertRow, if_neg own]
        simp only [perform, bind_eq, Program.bind, onStoreError]
        congr 1
        funext reply
        rcases reply with fault | changed
        · cases fault <;> rfl
        · rfl
  · simp only [Program.ofExcept, Program.bind, afterLook, Except.bind]
    cases Lookup.decode server cells with
    | error fault => cases fault <;> rfl
    | ok p => rfl

/-! ## Runs of searches -/

theorem run_find_failed {e : StoreError}
    (replied : h.row (.selectUser id.user) s = (.error (.storage e), s')) :
    (find server id create).run h s m = ⟨.ok none, s', m, [.loadFailed id e]⟩ := by
  simp only [find_eq, run, replied, afterLook, Except.bind, afterFound]

theorem run_find_undecodable {cells : List Cell} {e : StoreError}
    (replied : h.row (.selectUser id.user) s = (.ok (some cells), s'))
    (failed : Lookup.decode server cells = .error (.storage e)) :
    (find server id create).run h s m = ⟨.ok none, s', m, [.loadFailed id e]⟩ := by
  simp only [find_eq, run, replied, afterLook, Except.bind, failed, Except.map, afterFound]

theorem run_find_found {cells : List Cell} {p : Puppet}
    (replied : h.row (.selectUser id.user) s = (.ok (some cells), s'))
    (decoded : Lookup.decode server cells = .ok p) :
    (find server id create).run h s m = ⟨.ok (some p), s', m, []⟩ := by
  simp only [find_eq, run, replied, afterLook, Except.bind, decoded, Except.map, afterFound]

theorem run_find_absent (replied : h.row (.selectUser id.user) s = (.ok none, s'))
    (foreign : create = true → id.server ≠ server) :
    ∃ events, (find server id create).run h s m = ⟨.ok none, s', m, events⟩ := by
  simp only [find_eq, run, replied, afterLook, Except.bind, afterFound]
  cases create with
  | false => exact ⟨_, rfl⟩
  | true =>
    rw [if_neg (by simp), if_pos (foreign rfl)]
    exact ⟨_, rfl⟩

theorem afterLook_absent (own : id.server = server) :
    (afterLook server id true (.ok none) : Program μ _) =
      execute (.insert (Puppet.toRow { remoteId := id })) (afterInsert id) := by
  simp only [afterLook, Except.bind, afterFound, own, Bool.not_true, Bool.false_eq_true, if_false,
    ne_eq, not_true_eq_false]

theorem run_find_created {n : Int} (replied : h.row (.selectUser id.user) s = (.ok none, s'))
    (own : id.server = server)
    (added : h.execute (.insert (Puppet.toRow { remoteId := id })) s' = (.ok n, s'')) :
    (find server id true).run h s m = ⟨.ok (some { remoteId := id }), s'', m, []⟩ := by
  simp only [find_eq, run, replied, afterLook_absent own, added, afterInsert]

/-- A puppet that is created is answered even if it could not be added. -/
theorem run_find_not_added {e : StoreError}
    (replied : h.row (.selectUser id.user) s = (.ok none, s')) (own : id.server = server)
    (failed : h.execute (.insert (Puppet.toRow { remoteId := id })) s' =
      (.error (.storage e), s'')) :
    (find server id true).run h s m =
      ⟨.ok (some { remoteId := id }), s'', m, [.insertFailed id e]⟩ := by
  simp only [find_eq, run, replied, afterLook_absent own, failed, afterInsert]

end PuppetRegistry.Access
