import PuppetRegistry.Proofs.Access.Calls
import PuppetRegistry.Proofs.Access.Finding
import PuppetRegistry.Proofs.Activity.Stretches

/-!
# Failures end in absence

A handle that fails only with storage errors, whatever else it replies, stops no one: what was asked
for is absent instead. Main statement: for each way of access the answer is told from the replies
alone. There is one gap. A first second of activity that is read back from storage may be no number,
and nothing is said about what happens then.
-/

namespace PuppetRegistry

/-- A handle whose writes fail only with storage errors. -/
def Handle.WritesPolitely {σ : Type} (h : Handle σ) : Prop :=
  ∀ statement s fault, (h.execute statement s).1 = .error fault → ∃ e, fault = .storage e

/-- A handle that fails only with storage errors. -/
structure Handle.Polite {σ : Type} (h : Handle σ) : Prop where
  rows : ∀ statement s fault, (h.rows statement s).1 = .error fault → ∃ e, fault = .storage e
  row : ∀ statement s fault, (h.row statement s).1 = .error fault → ∃ e, fault = .storage e
  execute : ∀ statement s fault, (h.execute statement s).1 = .error fault → ∃ e, fault = .storage e

theorem storage_or_ok {α σ : Type} {reply : Except Fault α × σ}
    (expected : ∀ fault, reply.1 = .error fault → ∃ e, fault = .storage e) :
    (∃ e s, reply = (.error (.storage e), s)) ∨ ∃ a s, reply = (.ok a, s) := by
  obtain ⟨fault | a, s⟩ := reply
  · obtain ⟨e, rfl⟩ := expected fault rfl
    exact .inl ⟨e, s, rfl⟩
  · exact .inr ⟨a, s, rfl⟩

namespace Access

open Program

def puppetOf (server : String) : Except Fault (Option (List Cell)) → Option Puppet
  | .ok (some cells) => (Puppet.ofCells server cells).toOption
  | .ok none | .error _ => none

/-- The puppets of a reply, none if one of them cannot be read. -/
def puppetsOf (server : String) : Except Fault (List (List Cell)) → List Puppet
  | .ok found => (found.mapM fun cells => (Puppet.ofCells server cells).toOption).getD []
  | .error _ => []

def savedBy : Except Fault Int → Bool
  | .ok n => decide (0 < n)
  | .error _ => false

section

variable {σ μ : Type} {h : Handle σ} {s s' : σ} {m : μ} {server : String}

/-! ## Reading -/

theorem result_find (polite : h.Polite) (id : RemoteId) (create : Bool) :
    ((find server id create).run h s m).result =
      .ok (match (h.row (.selectUser id.user) s).1 with
        | .ok none => if create ∧ id.server = server then some { remoteId := id } else none
        | reply => puppetOf server reply) := by
  obtain ⟨e, s', replied⟩ | ⟨_ | cells, s', replied⟩ :=
    storage_or_ok (polite.row (.selectUser id.user) s)
  · rw [run_find_failed replied, replied]
    rfl
  · by_cases home : create ∧ id.server = server
    · obtain ⟨rfl, own⟩ := home
      simp only [replied, true_and, own, if_true]
      obtain ⟨e, s'', added⟩ | ⟨n, s'', added⟩ :=
        storage_or_ok (polite.execute (.insert (Puppet.toRow { remoteId := id })) s')
      · rw [run_find_not_added replied own added]
      · rw [run_find_created replied own added]
    · obtain ⟨events, done⟩ :=
        run_find_absent (m := m) replied fun creates own => home ⟨creates, own⟩
      simp only [replied, done, if_neg home]
  · cases decoded : Lookup.decode server cells with
    | ok p =>
      have read := toOption_decode server cells
      rw [decoded] at read
      rw [run_find_found replied decoded, replied]
      exact congrArg Except.ok read
    | error fault =>
      have read := toOption_decode server cells
      rw [decoded] at read
      obtain ⟨e, rfl⟩ := storage_of_decode decoded
      rw [run_find_undecodable replied decoded, replied]
      exact congrArg Except.ok read

theorem result_findLinkedTo (polite : h.Polite) (id : Option String) :
    ((findLinkedTo server id).run h s m).result =
      .ok (id.bind fun id =>
        if id.isEmpty then none else puppetOf server (h.row (.selectLinkedTo id) s).1) := by
  cases id with
  | none => rfl
  | some id =>
    rw [findLinkedTo, run_onStoreError, Lookup.byLink]
    by_cases empty : id.isEmpty
    · simp only [if_pos empty, Option.bind_some]
      rfl
    · obtain ⟨e, s', replied⟩ | ⟨_ | cells, s', replied⟩ :=
        storage_or_ok (polite.row (.selectLinkedTo id) s)
      · simp only [if_neg empty, Option.bind_some, run_first replied, replied, puppetOf]
        rfl
      · simp only [if_neg empty, Option.bind_some, run_first replied, replied, puppetOf]
        rfl
      · simp only [if_neg empty, Option.bind_some, run_first replied, replied, puppetOf,
          Except.bind, ← toOption_decode]
        cases decoded : Lookup.decode server cells with
        | ok p => rfl
        | error fault =>
          obtain ⟨e, rfl⟩ := storage_of_decode decoded
          rfl

theorem result_every (polite : h.Polite) {statement : Statement} {report : StoreError → Event} :
    (((Lookup.every server statement).onStoreError fun error =>
        note (report error) (done [])).run h s m).result =
      .ok (puppetsOf server (h.rows statement s).1) := by
  rw [run_onStoreError]
  obtain ⟨e, s', replied⟩ | ⟨found, s', replied⟩ := storage_or_ok (polite.rows statement s)
  · simp only [Lookup.every, fetchRows, bind_eq, Program.bind, run, replied, Program.ofExcept]
    rfl
  · have read := mapM_decode server found
    simp only [Lookup.every, fetchRows, bind_eq, Program.bind, run, replied, Program.ofExcept,
      puppetsOf]
    cases decoded : found.mapM (Lookup.decode server) with
    | ok ps =>
      rw [decoded] at read
      simp only [read]
      rfl
    | error fault =>
      rw [decoded] at read
      obtain ⟨⟨e, rfl⟩, none_read⟩ := read
      simp only [none_read]
      rfl

/-! ## Edits -/

variable {p q : Puppet}

theorem run_write_polite (writes : h.WritesPolitely) (s : σ) (q : Puppet) :
    ∃ events, write.run h s q = ⟨.ok (savedBy (h.execute (.update q.toRow) s).1),
      (h.execute (.update q.toRow) s).2, q, events⟩ := by
  obtain ⟨e, s', replied⟩ | ⟨n, s', replied⟩ := storage_or_ok (writes (.update q.toRow) s)
  · rw [replied]
    exact ⟨_, run_write_error replied⟩
  · rw [replied]
    exact ⟨_, run_write replied⟩

/-- An edit is answered, and changes the puppet in memory, whether it could be stored or not. -/
theorem run_edit_of_writes (writes : h.WritesPolitely) (s : σ) (p : Puppet) (e : Edit) :
    (e.program.run h s p).record = (e.change? p).getD p ∧
      (e.program.run h s p).result = .ok (match e.change? p with
        | none => false
        | some q => e.answer p (savedBy (h.execute (.update q.toRow) s).1)) := by
  cases change : e.change? p with
  | none =>
    rw [Edit.run_none change]
    exact ⟨rfl, rfl⟩
  | some q =>
    obtain ⟨events, wrote⟩ := run_write_polite writes s q
    obtain ⟨events', done⟩ := Edit.run_some change wrote
    rw [done]
    exact ⟨rfl, rfl⟩

theorem run_edit_polite (polite : h.Polite) (s : σ) (p : Puppet) (e : Edit) :
    (e.program.run h s p).record = (e.change? p).getD p ∧
      (e.program.run h s p).result = .ok (match e.change? p with
        | none => false
        | some q => e.answer p (savedBy (h.execute (.update q.toRow) s).1)) :=
  run_edit_of_writes polite.execute s p e

/-! ## Activity -/

/-- A run that ends well or with a storage error, after which the record has this latest second. -/
def Advanced (second : Int) (r : Run σ Puppet Bool) : Prop :=
  (r.result = .ok true ∨ ∃ e, r.result = .error (.storage e)) ∧ r.record.lastActivity = second

variable {last first : Option StoreError} {second : Int}

theorem advanced_conclude : Advanced p.lastActivity ((Puppet.conclude last first).run h s p) := by
  unfold Puppet.conclude
  split
  · exact ⟨.inl rfl, rfl⟩
  · exact ⟨.inr ⟨_, rfl⟩, rfl⟩

theorem advanced_afterReadBack {reply : Except Fault (Option (List Cell))}
    (expected : ∀ fault, reply = .error fault → ∃ e, fault = .storage e)
    (reads : ∀ found, reply = .ok found → ∃ stored, Puppet.readBack found = .ok stored) :
    Advanced p.lastActivity ((Puppet.afterReadBack last reply).run h s p) := by
  cases reply with
  | error fault =>
    obtain ⟨e, rfl⟩ := expected fault rfl
    exact advanced_conclude
  | ok found =>
    obtain ⟨_ | stored, read⟩ := reads found rfl
    · simp only [Puppet.afterReadBack, read]
      exact advanced_conclude
    · simp only [Puppet.afterReadBack, read, run]
      exact advanced_conclude

/-- If it comes to reading the first second back, what is stored can be read. -/
def ReadsBack (h : Handle σ) (s : σ) (p : Puppet) (second : Int) : Prop :=
  let s₁ := (h.execute (.advanceLast second p.remoteId.user) s).2
  let (claimed, s₂) := h.execute (.claimFirst second p.remoteId.user) s₁
  p.firstActivity = 0 → claimed = .ok 0 →
    ∀ found, (h.row (.selectFirstActivity p.remoteId.user) s₂).1 = .ok found →
      ∃ stored, Puppet.readBack found = .ok stored

theorem advanced_claimUnlessKnown (polite : h.Polite)
    (reads : p.firstActivity = 0 → (h.execute (.claimFirst second p.remoteId.user) s).1 = .ok 0 →
      ∀ found, (h.row (.selectFirstActivity p.remoteId.user)
        (h.execute (.claimFirst second p.remoteId.user) s).2).1 = .ok found →
        ∃ stored, Puppet.readBack found = .ok stored) :
    Advanced p.lastActivity ((Puppet.claimUnlessKnown second last).run h s p) := by
  simp only [Puppet.claimUnlessKnown, run]
  by_cases unknown : p.firstActivity = 0
  · rw [if_pos unknown]
    obtain ⟨e, s', claimed⟩ | ⟨n, s', claimed⟩ :=
      storage_or_ok (polite.execute (.claimFirst second p.remoteId.user) s)
    · simp only [run, claimed, Puppet.afterClaim]
      exact advanced_conclude (p := { p with firstActivity := second })
    · by_cases lost : n = 0
      · subst lost
        rw [claimed] at reads
        simp only [run, claimed, Puppet.afterClaim, ne_eq, not_true_eq_false, if_false]
        exact advanced_afterReadBack (p := { p with firstActivity := second })
          (polite.row _ _) (reads unknown rfl)
      · simp only [run, claimed, Puppet.afterClaim, ne_eq, lost, not_false_eq_true, if_true]
        exact advanced_conclude (p := { p with firstActivity := second })
  · rw [if_neg unknown]
    exact advanced_conclude

theorem advanced_recordActivity (polite : h.Polite) (later : p.lastActivity < second)
    (reads : ReadsBack h s p second) :
    Advanced second ((Puppet.recordActivity second).run h s p) := by
  rw [Puppet.recordActivity_eq]
  simp only [run, if_neg (Int.not_le.2 later)]
  obtain ⟨e, s', wrote⟩ | ⟨n, s', wrote⟩ :=
    storage_or_ok (polite.execute (.advanceLast second p.remoteId.user) s)
  · simp only [ReadsBack, wrote] at reads
    simp only [run, wrote, Puppet.afterLast]
    exact advanced_claimUnlessKnown (p := { p with lastActivity := second }) polite reads
  · simp only [ReadsBack, wrote] at reads
    simp only [wrote, Puppet.afterLast]
    exact advanced_claimUnlessKnown (p := { p with lastActivity := second }) polite reads

theorem run_noteActivity_old (old : second ≤ p.lastActivity) :
    (noteActivity (.int second)).run h s p = ⟨.ok false, s, p, []⟩ := by
  have recorded : (Puppet.recordActivityCell (.int second)).run h s p = ⟨.ok false, s, p, []⟩ := by
    change (Puppet.recordActivity second).run h s p = _
    rw [Puppet.recordActivity_eq]
    simp only [run, if_pos old]
  rw [noteActivity, run_onStoreError, recorded]
  rfl

theorem result_noteActivity (polite : h.Polite) (later : p.lastActivity < second)
    (reads : ReadsBack h s p second) :
    ((noteActivity (.int second)).run h s p).result = .ok true ∧
      ((noteActivity (.int second)).run h s p).record.lastActivity = second := by
  have advanced := advanced_recordActivity polite later reads
  have cell : (Puppet.recordActivityCell (.int second)).run h s p =
      (Puppet.recordActivity second).run h s p := rfl
  rw [noteActivity, run_onStoreError, cell]
  rcases ran : (Puppet.recordActivity second).run h s p with ⟨result, s', q, events⟩
  rw [ran] at advanced
  obtain ⟨done | ⟨e, failed⟩, moved⟩ := advanced
  · subst done
    exact ⟨rfl, moved⟩
  · subst failed
    exact ⟨rfl, moved⟩

/-! ## Every way of access -/

/-- No way of access is stopped by a handle that fails only with storage errors. Lookups answer what
the reply holds, and nothing if it holds nothing that can be read; a user without a row is created
all the same. Edits change the puppet in memory all the same, and the answer of those that only
store it is whether a row has been changed. Activity after the latest second is answered, and the
window has advanced, if a first second that is read back can be read. -/
theorem answered_from_replies (polite : h.Polite) (s : σ) (m : μ) (p : Puppet) (server : String) :
    (∀ id create, ((find server id create).run h s m).result =
      .ok (match (h.row (.selectUser id.user) s).1 with
        | .ok none => if create ∧ id.server = server then some { remoteId := id } else none
        | reply => puppetOf server reply)) ∧
    (∀ id, ((findLinkedTo server id).run h s m).result =
      .ok (id.bind fun id =>
        if id.isEmpty then none else puppetOf server (h.row (.selectLinkedTo id) s).1)) ∧
    ((all server).run h s m).result = .ok (puppetsOf server (h.rows .selectAll s).1) ∧
    ((linked server).run h s m).result = .ok (puppetsOf server (h.rows .selectLinked s).1) ∧
    (∀ e : Edit,
      (e.program.run h s p).record = (e.change? p).getD p ∧
      (e.program.run h s p).result = .ok (match e.change? p with
        | none => false
        | some q => e.answer p (savedBy (h.execute (.update q.toRow) s).1))) ∧
    (∀ second ≤ p.lastActivity,
      (noteActivity (.int second)).run h s p = ⟨.ok false, s, p, []⟩) ∧
    (∀ second > p.lastActivity, ReadsBack h s p second →
      ((noteActivity (.int second)).run h s p).result = .ok true ∧
      ((noteActivity (.int second)).run h s p).record.lastActivity = second) := by
  refine ⟨?_, ?_, ?_, ?_, ?_, ?_, ?_⟩
  · intro id create
    exact result_find polite id create
  · intro id
    exact result_findLinkedTo polite id
  · exact result_every polite
  · exact result_every polite
  · intro e
    exact run_edit_polite polite s p e
  · intro second old
    exact run_noteActivity_old old
  · intro second later reads
    exact result_noteActivity polite later reads

end

/-- A handle that gives the same replies to whatever is asked. -/
def steady (rows : Except Fault (List (List Cell))) (row : Except Fault (Option (List Cell)))
    (execute : Except Fault Int) : Handle Unit where
  rows _ s := (rows, s)
  row _ s := (row, s)
  execute _ s := (execute, s)

def unreachable : Fault :=
  .storage (.reported "connection refused")

theorem polite_unreachable {α : Type} (fault : Fault)
    (failed : (Except.error unreachable : Except Fault α) = .error fault) :
    ∃ e, fault = .storage e :=
  ⟨_, (Except.error.inj failed).symm⟩

theorem polite_ok {α : Type} {reply : α} (fault : Fault)
    (failed : (Except.ok reply : Except Fault α) = .error fault) : ∃ e, fault = .storage e := by
  cases failed

theorem refusing_polite :
    (steady (.error unreachable) (.error unreachable) (.error unreachable)).Polite where
  rows _ _ := polite_unreachable
  row _ _ := polite_unreachable
  execute _ _ := polite_unreachable

theorem answered_when_refused :
    let refusing := steady (.error unreachable) (.error unreachable) (.error unreachable)
    let p : Puppet := { remoteId := ⟨"42", "remote.example"⟩ }
    ((find "remote.example" p.remoteId true).run refusing () ()).result = .ok none ∧
    ((findLinkedTo "remote.example" (some "@ada:example.org")).run refusing () ()).result =
      .ok none ∧
    ((all "remote.example").run refusing () ()).result = .ok [] ∧
    ((linked "remote.example").run refusing () ()).result = .ok [] ∧
    (write.run refusing () p).result = .ok false ∧
    ((noteActivity (.int 1000)).run refusing () p).result = .ok true ∧
    ((noteActivity (.int 1000)).run refusing () p).record.lastActivity = 1000 := by
  intro refusing p
  obtain ⟨finds, links, every, everyLinked, edits, -, later⟩ :=
    answered_from_replies refusing_polite () () p "remote.example"
  have reads : ReadsBack refusing () p 1000 := by
    intro _ claimed
    cases claimed
  have edited := (edits .write).2
  have advanced := later 1000 (by decide) reads
  exact ⟨finds p.remoteId true, links (some "@ada:example.org"), every, everyLinked, edited, advanced⟩

/-- A failure does not always end in absence. A name is to be passed on although it could not be
stored, and a puppet is created although its row could not be added. -/
theorem present_after_failure :
    let refusing := steady (.error unreachable) (.error unreachable) (.error unreachable)
    let forgetting := steady (.ok []) (.ok none) (.error unreachable)
    let p : Puppet := { remoteId := ⟨"42", "remote.example"⟩ }
    (refusing.Polite ∧ ((rename (some "Ada") 1).run refusing () p).result = .ok true) ∧
    (forgetting.Polite ∧
      ((find "remote.example" p.remoteId true).run forgetting () ()).result = .ok (some p)) := by
  intro refusing forgetting p
  have forgets : forgetting.Polite :=
    ⟨fun _ _ => polite_ok, fun _ _ => polite_ok, fun _ _ => polite_unreachable⟩
  exact ⟨⟨refusing_polite, rfl⟩, forgets, rfl⟩

end Access

end PuppetRegistry
