import PuppetRegistry.Proofs.Access.Stored
import PuppetRegistry.Proofs.Activity.Stretches
import PuppetRegistry.Proofs.Activity.Window

/-!
# A puppet and its row agree

Whoever holds a puppet and is alone with a ready file may forget it at any time and find it again.
Main statement: a puppet that has been found, or created, is coherent with its row, and every
sequence of calls on it keeps it so; a coherent puppet is found again in normal form.
-/

namespace PuppetRegistry.Access

open Program Sqlite

variable {server : String} {f : File} {p q : Puppet}

/-- A row belongs to a puppet: it is the row of its user and has its window of activity, and the
last sync of the puppet can be stored. -/
structure Belongs (server : String) (r : Row) (p : Puppet) : Prop where
  server : p.remoteId.server = server
  sync : ∀ m ∈ p.lastSync, m.unixSeconds < endSecond
  window : ∃ w, Row.Shows r w ∧ p.firstActivity = w.first.getD 0 ∧ p.lastActivity = w.last.getD 0

def Attached (server : String) (f : File) (p : Puppet) : Prop :=
  ∃ t r, f.Ready t ∧ t.rowsOf p.remoteId.user = [r] ∧ Belongs server r p

/-- A ready file has a row that belongs to a puppet and reads as its normal form. -/
def Coherent (server : String) (f : File) (p : Puppet) : Prop :=
  ∃ t r, f.Ready t ∧ t.rowsOf p.remoteId.user = [r] ∧ Belongs server r p ∧
    r.ReadsAs server p.normal

theorem Coherent.attached (coherent : Coherent server f p) : Attached server f p := by
  obtain ⟨t, r, ready, only, belongs, _⟩ := coherent
  exact ⟨t, r, ready, only, belongs⟩

/-! ## Edits -/

theorem Attached.write (attached : Attached server f p) :
    ∃ f', Access.write.run File.handle f p = ⟨.ok true, f', p, []⟩ ∧ Coherent server f' p := by
  obtain ⟨t, r, ready, only, belongs⟩ := attached
  obtain ⟨t', done, ready', only'⟩ := ready.update only
  obtain ⟨w, shows, first, last⟩ := belongs.window
  have user : Puppet.readUser server r.user = .ok p.normal.remoteId := by
    rw [Table.user_of_rowsOf only, ← belongs.server]
    rfl
  refine ⟨_, run_write done, t', _, ready', only', ⟨belongs.server, belongs.sync, w, ?_, first,
    last⟩, ?_⟩
  · exact ⟨shows.first, shows.last⟩
  · have sync := Puppet.syncSeconds_lt_iff.mpr belongs.sync
    apply readsAs_withProfile (readsAs_storedRow belongs.server sync) user
    · rw [shows.first, Cell.asInt_ofInt?, ← first]
      rfl
    · rw [shows.last, Cell.asInt_ofInt?, ← last]
      rfl

theorem Attached.edited (attached : Attached server f p) {e : Edit} (new : e.change? p = some q)
    (fits : ∀ now, e = .noteSynced now → now.unixSeconds < endSecond) : Attached server f q := by
  obtain ⟨t, r, ready, only, belongs⟩ := attached
  obtain ⟨id, first, last, sync⟩ := Edit.kept_of_change? new
  refine ⟨t, r, ready, id ▸ only, id ▸ belongs.server, ?_, ?_⟩
  · rcases sync with same | ⟨now, kind, synced⟩
    · exact same ▸ belongs.sync
    · rw [synced]
      rintro _ ⟨⟩
      exact fits now kind
  · rw [first, last]
    exact belongs.window

theorem Coherent.edit (coherent : Coherent server f p) (e : Edit)
    (fits : ∀ now, e = .noteSynced now → now.unixSeconds < endSecond) :
    ∃ answer f' q events, e.program.run File.handle f p = ⟨.ok answer, f', q, events⟩ ∧
      Coherent server f' q := by
  cases change : e.change? p with
  | none => exact ⟨_, _, _, _, Edit.run_none change, coherent⟩
  | some q =>
    obtain ⟨f', wrote, coherent'⟩ := (coherent.attached.edited change fits).write
    obtain ⟨events, done⟩ := Edit.run_some change wrote
    exact ⟨_, _, _, _, done, coherent'⟩

/-! ## Activity -/

theorem Coherent.advanceLast (coherent : Coherent server f p) {second : Int}
    (later : p.lastActivity < second) (fits : fitsInteger second = true) :
    ∃ n f', File.handle.execute (.advanceLast second p.remoteId.user) f = (.ok n, f') ∧
      Coherent server f' { p with lastActivity := second } := by
  obtain ⟨t, r, ready, only, belongs, reads⟩ := coherent
  obtain ⟨w, shows, first, last⟩ := belongs.window
  obtain ⟨t', done, ready', only'⟩ := ready.advanceLast only fits
  have news : Table.isNews second r = true := by
    rw [Table.isNews, shows.last]
    rw [last] at later
    cases held : w.last with
    | none => rfl
    | some l =>
      rw [held] at later
      simpa [Cell.ofInt?, Table.ltInt] using later
  rw [if_pos news] at only'
  exact ⟨_, _, done, t', _, ready', only',
    ⟨belongs.server, belongs.sync, ⟨w.first, some second⟩, ⟨shows.first, rfl⟩, first, rfl⟩,
    { reads with lastActivity := rfl }⟩

theorem Coherent.claimFirst (coherent : Coherent server f p) (unknown : p.firstActivity = 0)
    {second : Int} (fits : fitsInteger second = true) :
    ∃ n f', File.handle.execute (.claimFirst second p.remoteId.user) f = (.ok n, f') ∧
      (n ≠ 0 ∧ Coherent server f' { p with firstActivity := second } ∨
        n = 0 ∧ Coherent server f' p ∧
          File.handle.row (.selectFirstActivity p.remoteId.user) f' = (.ok (some [.int 0]), f')) := by
  obtain ⟨t, r, ready, only, belongs, reads⟩ := coherent
  obtain ⟨w, shows, first, last⟩ := belongs.window
  obtain ⟨t', done, ready', only'⟩ := ready.claimFirst only fits
  refine ⟨_, _, done, ?_⟩
  cases held : w.first with
  | none =>
    have free : r.firstActivity = .null := by rw [shows.first, held]; rfl
    rw [if_pos free] at only'
    left
    refine ⟨by rw [if_pos free]; decide, t', _, ready', only', ?_, ?_⟩
    · exact ⟨belongs.server, belongs.sync, ⟨some second, w.last⟩, ⟨rfl, shows.last⟩, rfl, last⟩
    · exact { reads with firstActivity := rfl }
  | some zero =>
    have taken : r.firstActivity ≠ .null := by simp [shows.first, held]
    have stored : r.firstActivity = .int 0 := by
      rw [held, unknown] at first
      rw [shows.first, held, Cell.ofInt?, first]
      rfl
    rw [if_neg taken] at only'
    right
    refine ⟨if_neg taken, ⟨t', r, ready', only', belongs, reads⟩, ?_⟩
    rw [ready'.selectFirstActivity, only', List.head?_cons, Option.map_some, stored]

theorem Coherent.noteActivity (coherent : Coherent server f p) {second : Int}
    (fits : fitsInteger second = true) :
    ∃ answer f' q events, (Access.noteActivity (.int second)).run File.handle f p =
      ⟨.ok answer, f', q, events⟩ ∧ Coherent server f' q := by
  have recorded : ∃ answer f' q events, (Puppet.recordActivity second).run File.handle f p =
      ⟨.ok answer, f', q, events⟩ ∧ Coherent server f' q := by
    rw [Puppet.recordActivity_eq]
    simp only [run]
    by_cases old : second ≤ p.lastActivity
    · rw [if_pos old]
      exact ⟨_, _, _, _, rfl, coherent⟩
    · rw [if_neg old]
      obtain ⟨n, f₁, done, coherent₁⟩ := coherent.advanceLast (by omega) fits
      simp only [run, done, Puppet.afterLast, Puppet.claimUnlessKnown]
      by_cases unknown : p.firstActivity = 0
      · rw [if_pos unknown]
        obtain ⟨n, f₂, claimed, ⟨won, coherent₂⟩ | ⟨lost, coherent₂, stored⟩⟩ :=
          coherent₁.claimFirst unknown fits
        · simp only [run, claimed, Puppet.afterClaim, if_pos won]
          exact ⟨_, _, _, _, rfl, coherent₂⟩
        · simp only [run, claimed, Puppet.afterClaim, lost, ne_eq, not_true_eq_false, if_false,
            stored]
          refine ⟨_, _, _, _, rfl, ?_⟩
          rw [← unknown]
          exact coherent₂
      · rw [if_neg unknown]
        exact ⟨_, _, _, _, rfl, coherent₁⟩
  obtain ⟨answer, f', q, events, done, coherent'⟩ := recorded
  refine ⟨answer, f', q, events, ?_, coherent'⟩
  have same : Puppet.recordActivityCell (.int second) = Puppet.recordActivity second := rfl
  rw [Access.noteActivity, same, run_onStoreError, done]
  rfl

/-! ## Sequences of calls -/

/-- The arguments of a call can be stored: a second that is to be recorded has 64 bits, and the
moment of a sync is not beyond the calendar. -/
def Call.Fits : Call → Prop
  | edit (.noteSynced now) => now.unixSeconds < endSecond
  | noteActivity second => fitsInteger second = true
  | edit _ => True

theorem Coherent.call (coherent : Coherent server f p) {call : Call} (fits : call.Fits) :
    ∃ answer f' q events, call.program.run File.handle f p = ⟨.ok answer, f', q, events⟩ ∧
      Coherent server f' q := by
  cases call with
  | noteActivity second => exact coherent.noteActivity fits
  | edit e =>
    apply coherent.edit e
    rintro now rfl
    exact fits

theorem Coherent.inTurn (coherent : Coherent server f p) (calls : List Call)
    (fits : ∀ call ∈ calls, call.Fits) :
    ∃ answers f' q events, (Call.inTurn calls).run File.handle f p =
      ⟨.ok answers, f', q, events⟩ ∧ Coherent server f' q := by
  induction calls generalizing f p with
  | nil => exact ⟨_, _, _, _, rfl, coherent⟩
  | cons call rest ih =>
    obtain ⟨answer, f₁, p₁, events₁, done₁, coherent₁⟩ :=
      coherent.call (fits call List.mem_cons_self)
    obtain ⟨answers, f₂, p₂, events₂, done₂, coherent₂⟩ :=
      ih coherent₁ fun call mem => fits call (List.mem_cons_of_mem _ mem)
    exact ⟨answer :: answers, f₂, p₂, events₁ ++ events₂, Call.run_inTurn_cons done₁ done₂, coherent₂⟩

/-! ## Finding -/

section Find

variable {μ : Type} {m : μ} {t : Table} {id : RemoteId} {create : Bool}

theorem Coherent.find (coherent : Coherent server f p) :
    ∃ back, p.ComesBackAs back ∧
      (Access.find server p.remoteId create).run File.handle f m = ⟨.ok (some back), f, m, []⟩ := by
  obtain ⟨t, r, ready, only, belongs, reads⟩ := coherent
  have stored : Stored server f t r p :=
    ⟨ready, only, reads, Puppet.syncSeconds_lt_iff.mpr belongs.sync⟩
  exact ⟨p.normal, Puppet.comesBackAs_normal belongs.sync, stored.find create m⟩

/-- A puppet that is found, or created, is coherent, if what is stored of its activity is whole
numbers or null. -/
theorem coherent_of_find (ready : f.Ready t)
    (whole : ∀ r ∈ t, r.user = .text id.user → ∃ w, Row.Shows r w)
    (found : ((Access.find server id create).run File.handle f m).result = .ok (some p)) :
    Coherent server ((Access.find server id create).run File.handle f m).store p := by
  obtain ⟨t', r, stored, origin⟩ := stored_of_find ready found
  have own : r.user = .text id.user := by
    rw [Table.user_of_rowsOf stored.only, origin.user]
  have reads : r.ReadsAs server p := origin.normal ▸ stored.reads
  have window : ∃ w, Row.Shows r w ∧ p.firstActivity = w.first.getD 0 ∧
      p.lastActivity = w.last.getD 0 := by
    rcases origin.row with ⟨-, held⟩ | ⟨-, rfl, rfl⟩
    · obtain ⟨w, shows⟩ := whole r held own
      exact ⟨w, shows, shows.window_eq reads⟩
    · exact ⟨⟨none, none⟩, ⟨rfl, rfl⟩, rfl, rfl⟩
  have sync := Puppet.syncSeconds_lt_iff.mp stored.sync
  exact ⟨t', r, stored.ready, stored.only, ⟨stored.server_eq, sync, window⟩, stored.reads⟩

/-- Whoever has found or created a puppet and makes any calls on it alone has every call answered,
and finds the puppet again at any time, as it comes back from storage. -/
theorem found_again_after_calls (ready : f.Ready t)
    (whole : ∀ r ∈ t, r.user = .text id.user → ∃ w, Row.Shows r w)
    (found : ((Access.find server id create).run File.handle f m).result = .ok (some p))
    (calls : List Call) (fits : ∀ call ∈ calls, call.Fits) (again : Bool) :
    ∃ answers f' q events back,
      (Call.inTurn calls).run File.handle
        ((Access.find server id create).run File.handle f m).store p =
          ⟨.ok answers, f', q, events⟩ ∧
      q.ComesBackAs back ∧
      (Access.find server q.remoteId again).run File.handle f' m =
        ⟨.ok (some back), f', m, []⟩ := by
  obtain ⟨answers, f', q, events, done, coherent⟩ :=
    (coherent_of_find ready whole found).inTurn calls fits
  obtain ⟨back, same, again⟩ := coherent.find
  exact ⟨answers, f', q, events, back, done, same, again⟩

end Find

/-- The first second of 2020, read an hour ahead of UTC. -/
def newYear : Moment :=
  ⟨1577836800000000, 3600000000, by decide, by decide⟩

/-- One call of each kind, with values that do not come back as they are. -/
def eachCall : List Call :=
  [.edit (.rename (some " Ada ") 500), .edit (.changeAvatar "hash" ⟨"a/b", "c"⟩),
    .noteActivity (-5), .noteActivity 7, .edit (.noteSynced newYear), .edit .unlink, .edit .write]

theorem found_again_after_each_call :
    ∃ p answers f' q events back,
      ((Access.find "remote.example" ⟨"ada", "remote.example"⟩ true).run File.handle
        (File.init {}).2 ()).result = .ok (some p) ∧
      (Call.inTurn eachCall).run File.handle
        ((Access.find "remote.example" ⟨"ada", "remote.example"⟩ true).run File.handle
          (File.init {}).2 ()).store p = ⟨.ok answers, f', q, events⟩ ∧
      q.ComesBackAs back ∧
      (Access.find "remote.example" q.remoteId false).run File.handle f' () =
        ⟨.ok (some back), f', (), []⟩ := by
  have whole : ∀ r ∈ ([] : Table), r.user = .text "ada" → ∃ w, Row.Shows r w :=
    fun _ mem => by cases mem
  have fits : ∀ call ∈ eachCall, call.Fits := by
    intro call mem
    simp only [eachCall, List.mem_cons, List.not_mem_nil, or_false] at mem
    rcases mem with rfl | rfl | rfl | rfl | rfl | rfl | rfl
    · trivial
    · trivial
    · exact rfl
    · exact rfl
    · change newYear.unixSeconds < endSecond
      decide +kernel
    · trivial
    · trivial
  have created : ((Access.find "remote.example" ⟨"ada", "remote.example"⟩ true).run File.handle
      (File.init {}).2 ()).result = .ok (some { remoteId := ⟨"ada", "remote.example"⟩ }) := rfl
  obtain ⟨answers, f', q, events, back, done, same, again⟩ :=
    found_again_after_calls File.ready_init.2 whole created eachCall fits false
  exact ⟨_, answers, f', q, events, back, created, done, same, again⟩

end PuppetRegistry.Access
