import PuppetRegistry.Proofs.Activity.Stretches
import PuppetRegistry.Proofs.Program.Within
import PuppetRegistry.Proofs.Sqlite.Ready

/-!
# Stored activity is only added to

Copies of one puppet are saved and record activity, all at once and in any order of their
statements, any of which may fail. Main statement: the latest second of a row only rises, its first
second is written once, both are seconds that were to be recorded, and each kind of errand leaves
the rest of the table alone.
-/

namespace PuppetRegistry.Activity

open Program Sqlite

/-- What may be done with a copy of a puppet that changes its row. -/
inductive Upkeep
  | note (second : Int)
  | save

namespace Upkeep

def program : Upkeep → Program Puppet Bool
  | note second => Puppet.recordActivity second
  | save => Puppet.update

def second? : Upkeep → Option Int
  | note second => some second
  | save => none

/-- The statements that an errand on a copy of the puppet of a user may issue. -/
def Allows (user : String) : Upkeep → Statement → Prop
  | note second, s =>
    s = .advanceLast second user ∨ s = .claimFirst second user ∨ s = .selectFirstActivity user
  | save, s => ∃ values : Row, values.user = .text user ∧ s = .update values

end Upkeep

/-! ## What the errands ask for -/

section Within

variable {user : String} {second : Int} {last first : Option StoreError}

def Owns (user : String) (p : Puppet) : Prop :=
  p.remoteId.user = user

theorem within_conclude :
    (Puppet.conclude last first).Within (Owns user) ((Upkeep.note second).Allows user) := by
  unfold Puppet.conclude
  split
  · trivial
  · exact fun _ _ => trivial

theorem within_afterReadBack (reply : Except Fault (Option (List Cell))) :
    (Puppet.afterReadBack last reply).Within (Owns user) ((Upkeep.note second).Allows user) := by
  unfold Puppet.afterReadBack
  split
  · exact fun _ _ => within_conclude
  · trivial
  · split
    · trivial
    · exact within_conclude
    · exact fun _ own => ⟨own, within_conclude⟩

theorem within_afterClaim (reply : Except Fault Int) :
    (Puppet.afterClaim last reply).Within (Owns user) ((Upkeep.note second).Allows user) := by
  unfold Puppet.afterClaim
  split
  · exact fun _ _ => within_conclude
  · trivial
  · split
    · exact within_conclude
    · intro p own
      exact ⟨.inr (.inr (own ▸ rfl)), within_afterReadBack⟩

theorem within_claimUnlessKnown :
    (Puppet.claimUnlessKnown second last).Within (Owns user)
      ((Upkeep.note second).Allows user) := by
  intro p _
  dsimp only
  split
  · intro p own
    exact ⟨own, fun p own => ⟨.inr (.inl (own ▸ rfl)), within_afterClaim⟩⟩
  · exact within_conclude

theorem within_afterLast (reply : Except Fault Int) :
    (Puppet.afterLast second reply).Within (Owns user) ((Upkeep.note second).Allows user) := by
  unfold Puppet.afterLast
  split
  · exact fun _ _ => within_claimUnlessKnown
  · trivial
  · exact within_claimUnlessKnown

theorem within_recordActivity :
    (Puppet.recordActivity second).Within (Owns user) ((Upkeep.note second).Allows user) := by
  rw [Puppet.recordActivity_eq]
  intro p _
  dsimp only
  split
  · trivial
  · intro p own
    exact ⟨own, fun p own => ⟨.inl (own ▸ rfl), within_afterLast⟩⟩

theorem within_update : Puppet.update.Within (Owns user) (Upkeep.save.Allows user) := by
  intro p own
  refine ⟨⟨p.toRow, congrArg Cell.text own, rfl⟩, fun reply => ?_⟩
  exact (within_ofExcept reply).bind fun _ => trivial

theorem Upkeep.within (u : Upkeep) : u.program.Within (Owns user) (u.Allows user) := by
  cases u with
  | note second => exact within_recordActivity
  | save => exact within_update

end Within

/-! ## What they do to a row -/

def IsSecond (c : Cell) : Prop :=
  c = .null ∨ ∃ i, c = .int i

/-- The order of seconds, with null below all of them. -/
def NotAfter (c c' : Cell) : Prop :=
  (c = .null ∧ IsSecond c') ∨ ∃ i j, c = .int i ∧ c' = .int j ∧ i ≤ j

theorem IsSecond.notAfter {c : Cell} (h : IsSecond c) : NotAfter c c := by
  rcases h with rfl | ⟨i, rfl⟩
  · exact .inl ⟨rfl, .inl rfl⟩
  · exact .inr ⟨i, i, rfl, rfl, Int.le_refl i⟩

theorem NotAfter.isSecond {c c' : Cell} (h : NotAfter c c') : IsSecond c' := by
  rcases h with ⟨_, h⟩ | ⟨_, j, _, h, _⟩
  · exact h
  · exact .inr ⟨j, h⟩

theorem NotAfter.trans {a b c : Cell} (h : NotAfter a b) (h' : NotAfter b c) : NotAfter a c := by
  rcases h with ⟨rfl, _⟩ | ⟨i, j, rfl, rfl, le⟩
  · exact .inl ⟨rfl, h'.isSecond⟩
  · rcases h' with ⟨h, _⟩ | ⟨j', l, h, rfl, le'⟩
    · cases h
    · cases h
      exact .inr ⟨i, l, rfl, rfl, Int.le_trans le le'⟩

/-- What an errand may make of a row of a table. -/
inductive Touches (user : String) : Upkeep → Row → Row → Prop
  | nothing {u r} : Touches user u r r
  | last {second r} : r.user = .text user → Table.isNews second r = true →
    Touches user (.note second) r { r with lastActivity := .int second }
  | first {second r} : r.user = .text user → r.firstActivity = .null →
    Touches user (.note second) r { r with firstActivity := .int second }
  | profile {r values} : r.user = .text user →
    Touches user .save r (Table.withProfile values r)

theorem touches_writeRows {user : String} {u : Upkeep} {s : Statement} {t t' : Table} {n : Nat}
    (allows : u.Allows user s) (wrote : writeRows s t = .ok (t', n)) :
    List.Forall₂ (Touches user u) t t' := by
  cases u with
  | note second =>
    rcases allows with rfl | rfl | rfl
    · cases wrote
      refine Table.forall₂_updateWhere (fun r picked => ?_) (fun _ => .nothing) t
      obtain ⟨own, news⟩ := Bool.and_eq_true_iff.mp picked
      exact .last (Table.ofUser_text_iff.mp own) news
    · cases wrote
      refine Table.forall₂_updateWhere (fun r picked => ?_) (fun _ => .nothing) t
      obtain ⟨own, free⟩ := Bool.and_eq_true_iff.mp picked
      exact .first (Table.ofUser_text_iff.mp own) (beq_iff_eq.mp free)
    · cases wrote
      exact List.forall₂_same.mpr fun _ _ => .nothing
  | save =>
    obtain ⟨values, own, rfl⟩ := allows
    cases wrote
    refine Table.forall₂_updateWhere (fun r picked => ?_) (fun _ => .nothing) t
    rw [user_convertRow own] at picked
    exact .profile (Table.ofUser_text_iff.mp picked)

def FromOr (seconds : List Int) (c c' : Cell) : Prop :=
  c' = c ∨ ∃ second ∈ seconds, c' = .int second

theorem FromOr.trans {seconds : List Int} {a b c : Cell} (h : FromOr seconds a b)
    (h' : FromOr seconds b c) : FromOr seconds a c := by
  rcases h' with rfl | new
  · exact h
  · exact .inr new

theorem FromOr.isSecond {seconds : List Int} {c c' : Cell} (h : FromOr seconds c c')
    (isSecond : IsSecond c) : IsSecond c' := by
  rcases h with rfl | ⟨second, _, rfl⟩
  · exact isSecond
  · exact .inr ⟨second, rfl⟩

/-- A row whose activity is that of an earlier row or among some seconds. -/
structure Traces (seconds : List Int) (r r' : Row) : Prop where
  owner : r'.user = r.user
  first : FromOr seconds r.firstActivity r'.firstActivity
  last : FromOr seconds r.lastActivity r'.lastActivity

theorem Traces.trans {seconds : List Int} {a b c : Row} (h : Traces seconds a b)
    (h' : Traces seconds b c) : Traces seconds a c :=
  ⟨h'.owner.trans h.owner, h.first.trans h'.first, h.last.trans h'.last⟩

/-- A row at a later time: rows of others are as they were, and activity is only added to. -/
structure Rises (user : String) (r r' : Row) : Prop where
  owner : r'.user = r.user
  others : r.user ≠ .text user → r' = r
  last : r.user = .text user → NotAfter r.lastActivity r'.lastActivity
  first : r.user = .text user → r.firstActivity ≠ .null → r'.firstActivity = r.firstActivity

theorem Rises.refl {user : String} {r : Row} (only : r.user = .text user → IsSecond r.lastActivity) :
    Rises user r r :=
  ⟨rfl, fun _ => rfl, fun own => (only own).notAfter, fun _ _ => rfl⟩

theorem Rises.trans {user : String} {a b c : Row} (h : Rises user a b) (h' : Rises user b c) :
    Rises user a c := by
  have own : a.user = .text user → b.user = .text user := fun own => h.owner.trans own
  refine ⟨h'.owner.trans h.owner, fun other => ?_, fun mine => ?_, fun mine taken => ?_⟩
  · have same := h.others other
    rw [h'.others (same ▸ other), same]
  · exact (h.last mine).trans (h'.last (own mine))
  · have same := h.first mine taken
    rw [h'.first (own mine) (same ▸ taken), same]

/-- What an errand leaves alone. -/
def Upkeep.Spares (user : String) : Upkeep → Row → Row → Prop
  | note _, r, r' =>
    { r with firstActivity := r'.firstActivity, lastActivity := r'.lastActivity } = r' ∧
      (r.user ≠ .text user → r' = r)
  | save, r, r' => r'.firstActivity = r.firstActivity ∧ r'.lastActivity = r.lastActivity

namespace Touches

variable {user : String} {u : Upkeep} {r r' : Row}

theorem spares (touches : Touches user u r r') : u.Spares user r r' := by
  cases touches with
  | nothing =>
    cases u with
    | note => exact ⟨rfl, fun _ => rfl⟩
    | save => exact ⟨rfl, rfl⟩
  | last own | first own => exact ⟨rfl, fun other => absurd own other⟩
  | profile => exact ⟨rfl, rfl⟩

theorem rises (touches : Touches user u r r')
    (only : r.user = .text user → IsSecond r.lastActivity) : Rises user r r' := by
  cases touches with
  | nothing => exact .refl only
  | last own news =>
    refine ⟨rfl, fun other => absurd own other, fun _ => ?_, fun _ _ => rfl⟩
    rcases only own with null | ⟨i, held⟩
    · exact .inl ⟨null, .inr ⟨_, rfl⟩⟩
    · refine .inr ⟨i, _, held, rfl, ?_⟩
      simp only [Table.isNews, held, Table.ltInt, Bool.or_eq_true, beq_iff_eq, reduceCtorEq,
        false_or, decide_eq_true_eq] at news
      omega
  | first own free =>
    exact ⟨rfl, fun other => absurd own other, fun own => (only own).notAfter,
      fun _ taken => absurd free taken⟩
  | profile own =>
    exact ⟨rfl, fun other => absurd own other, fun own => (only own).notAfter, fun _ _ => rfl⟩

theorem traces (touches : Touches user u r r') {seconds : List Int}
    (among : ∀ second, u.second? = some second → second ∈ seconds) : Traces seconds r r' := by
  cases touches with
  | nothing => exact ⟨rfl, .inl rfl, .inl rfl⟩
  | last => exact ⟨rfl, .inl rfl, .inr ⟨_, among _ rfl, rfl⟩⟩
  | first => exact ⟨rfl, .inr ⟨_, among _ rfl, rfl⟩, .inl rfl⟩
  | profile => exact ⟨rfl, .inl rfl, .inl rfl⟩

end Touches

/-! ## Runs -/

section Run

variable {κ : Type} {user : String} {t₀ : Table} {errands : List (κ × Upkeep)}

def Upkeep.secondsOf (errands : List (κ × Upkeep)) : List Int :=
  errands.filterMap fun e => e.2.second?

abbrev Upkept (κ : Type) :=
  Crowd κ (List (Option StoreError) × File) Puppet Bool

/-- What holds of every crowd on the way of some errands. -/
structure Underway (user : String) (t₀ : Table) (errands : List (κ × Upkeep)) (c : Upkept κ) :
    Prop where
  length : c.tasks.length = errands.length
  within : c.Within (Owns user) fun i s => ∃ e, errands[i]? = some e ∧ e.2.Allows user s
  traces : ∃ t, c.store.2.table = some t ∧ List.Forall₂ (Traces (Upkeep.secondsOf errands)) t₀ t

theorem handle_touches {u : Upkeep} {s : Statement} {f f' : File} {t : Table}
    (held : f.table = some t) (allows : u.Allows user s) (moves : File.handle.Moves s f f') :
    ∃ t', f'.table = some t' ∧ List.Forall₂ (Touches user u) t t' := by
  rcases File.handle_moves moves with rfl | ⟨t₁, t', n, held', wrote, rfl⟩
  · exact ⟨t, held, List.forall₂_same.mpr fun _ _ => .nothing⟩
  · obtain rfl : t₁ = t := Option.some.inj (held'.symm.trans held)
    exact ⟨t', rfl, touches_writeRows allows wrote⟩

theorem Underway.step [DecidableEq κ] {c c' : Upkept κ} (underway : Underway user t₀ errands c)
    (step : Crowd.Step File.handle.failing c c') :
    Underway user t₀ errands c' ∧ ∃ i e t t', errands[i]? = some e ∧
      (∃ task, c'.tasks = c.tasks.set i task) ∧ c.store.2.table = some t ∧
      c'.store.2.table = some t' ∧ List.Forall₂ (Touches user e.2) t t' := by
  obtain ⟨t, held, traces⟩ := underway.traces
  obtain ⟨within, i, ⟨task, moved⟩, bound, stays⟩ := step.within underway.within
  rw [underway.length] at bound
  have at_i : errands[i]? = some errands[i] := List.getElem?_eq_getElem bound
  have touches : ∃ t', c'.store.2.table = some t' ∧
      List.Forall₂ (Touches user errands[i].2) t t' := by
    have same : c'.store.2 = c.store.2 → ∃ t', c'.store.2.table = some t' ∧
        List.Forall₂ (Touches user errands[i].2) t t' := by
      intro same
      exact ⟨t, same ▸ held, List.forall₂_same.mpr fun _ _ => .nothing⟩
    rcases stays with stays | ⟨s, ⟨e, at_i', allows⟩, moves⟩
    · exact same (congrArg Prod.snd stays)
    · obtain rfl : errands[i] = e := Option.some.inj (at_i.symm.trans at_i')
      rcases Handle.moves_failing moves with stays | moves
      · exact same stays
      · exact handle_touches held allows moves
  obtain ⟨t', held', touches⟩ := touches
  refine ⟨⟨?_, within, t', held', ?_⟩, i, _, t, t', at_i, ⟨task, moved⟩, held, held', touches⟩
  · rw [moved, List.length_set, underway.length]
  · have among : ∀ second, errands[i].2.second? = some second →
        second ∈ Upkeep.secondsOf errands :=
      fun second records => List.mem_filterMap.mpr ⟨_, List.getElem_mem bound, records⟩
    exact Table.forall₂_trans (fun _ _ _ trace touch => trace.trans (touch.traces among)) traces
      touches

/-- The latest second of a user is null or a whole number in every row. -/
def SecondsOnly (user : String) (t : Table) : Prop :=
  ∀ r ∈ t, r.user = .text user → IsSecond r.lastActivity

theorem SecondsOnly.traces {seconds : List Int} {t t' : Table} (only : SecondsOnly user t)
    (traces : List.Forall₂ (Traces seconds) t t') : SecondsOnly user t' := by
  induction traces with
  | nil => exact only
  | @cons r r' t t' trace _ ih =>
    intro r'' mem own
    rcases List.mem_cons.mp mem with rfl | mem
    · exact trace.last.isSecond (only r List.mem_cons_self (trace.owner.symm.trans own))
    · exact ih (fun r hr => only r (List.mem_cons_of_mem _ hr)) r'' mem own

theorem SecondsOnly.rises {u : Upkeep} {t t' : Table} (only : SecondsOnly user t)
    (touches : List.Forall₂ (Touches user u) t t') : List.Forall₂ (Rises user) t t' := by
  induction touches with
  | nil => exact .nil
  | cons touch _ ih =>
    exact .cons (touch.rises (only _ List.mem_cons_self))
      (ih fun r hr => only r (List.mem_cons_of_mem _ hr))

theorem Underway.rises [DecidableEq κ] {c c' : Upkept κ} (only : SecondsOnly user t₀)
    (underway : Underway user t₀ errands c) (later : Crowd.Reach File.handle.failing c c') :
    Underway user t₀ errands c' ∧ ∃ t t', c.store.2.table = some t ∧
      c'.store.2.table = some t' ∧ List.Forall₂ (Rises user) t t' := by
  induction later with
  | refl =>
    obtain ⟨t, held, traces⟩ := underway.traces
    exact ⟨underway, t, t, held, held,
      List.forall₂_same.mpr fun r mem => .refl (only.traces traces r mem)⟩
  | tail _ step ih =>
    -- A step is seen at the table that the way has come to; its rows still hold seconds only.
    obtain ⟨underway', t, t', held, held', rises⟩ := ih
    obtain ⟨t₁, held₁, traces⟩ := underway'.traces
    obtain ⟨underway'', _, _, t₂, t'', _, _, held₂, held'', touches⟩ := underway'.step step
    obtain rfl : t₂ = t' := Option.some.inj (held₂.symm.trans held')
    obtain rfl : t₁ = t₂ := Option.some.inj (held₁.symm.trans held')
    have next := (only.traces traces).rises touches
    exact ⟨underway'', t, t'', held, held'',
      Table.forall₂_trans (fun _ _ _ one two => one.trans two) rises next⟩

/-- The crowd of some errands, none of which has begun, on a file whose statements fail as told. -/
def upkeepOf (failures : List (Option StoreError)) (f : File) (copies : κ → Puppet)
    (errands : List (κ × Upkeep)) : Upkept κ :=
  ⟨(failures, f), copies, errands.map fun e => (e.1, .running e.2.program)⟩

theorem underway_upkeepOf {failures : List (Option StoreError)} {f : File}
    (held : f.table = some t₀) {copies : κ → Puppet} (own : ∀ k, Owns user (copies k)) :
    Underway user t₀ errands (upkeepOf failures f copies errands) := by
  refine ⟨List.length_map _, ⟨own, ?_⟩, t₀, held, ?_⟩
  · intro i k task at_i
    rw [upkeepOf, List.getElem?_map] at at_i
    obtain ⟨e, at_i', same⟩ := Option.map_eq_some_iff.mp at_i
    obtain ⟨_, rfl⟩ := Prod.mk.inj same
    exact e.2.within.mono fun s allows => ⟨e, at_i', allows⟩
  · exact List.forall₂_same.mpr fun _ _ => ⟨rfl, .inl rfl, .inl rfl⟩

/-- Whatever fails and however saves and recordings of activity overlap: of two tables on the way
the later one has the rows of others and no earlier latest second, and a first second that was there
is kept; all activity is as it was in the beginning or was to be recorded; and the errand that makes
the next step spares what is none of its business. -/
theorem stored_activity_rises [DecidableEq κ] {f : File} (held : f.table = some t₀)
    (only : SecondsOnly user t₀) {copies : κ → Puppet} (own : ∀ k, Owns user (copies k))
    {failures : List (Option StoreError)} {c c' : Upkept κ}
    (reach : Crowd.Reach File.handle.failing (upkeepOf failures f copies errands) c)
    (later : Crowd.Reach File.handle.failing c c') :
    ∃ t t', c.store.2.table = some t ∧ c'.store.2.table = some t' ∧
      List.Forall₂ (Rises user) t t' ∧
      List.Forall₂ (Traces (Upkeep.secondsOf errands)) t₀ t' ∧
      ∀ c'', Crowd.Step File.handle.failing c' c'' → ∃ i e t'', errands[i]? = some e ∧
        (∃ task, c''.tasks = c'.tasks.set i task) ∧ c''.store.2.table = some t'' ∧
        List.Forall₂ (e.2.Spares user) t' t'' := by
  obtain ⟨underway, _⟩ := (underway_upkeepOf held own).rises only reach
  obtain ⟨underway', t, t', held, held', rises⟩ := underway.rises only later
  obtain ⟨t₁, held₁, traces⟩ := underway'.traces
  obtain rfl : t₁ = t' := Option.some.inj (held₁.symm.trans held')
  refine ⟨t, t₁, held, held', rises, traces, fun c'' step => ?_⟩
  obtain ⟨_, i, e, t₂, t'', at_i, moved, held₂, held'', touches⟩ := underway'.step step
  obtain rfl : t₂ = t₁ := Option.some.inj (held₂.symm.trans held')
  exact ⟨i, e, t'', at_i, moved, held'', touches.imp fun _ _ touch => touch.spares⟩

end Run

def busyRow : Row :=
  Puppet.toRow { remoteId := ⟨"ada", "remote.example"⟩, firstActivity := 2, lastActivity := 4 }

/-- A recording, one that is late, and a save. -/
def threeUpkeeps : List (Bool × Upkeep) :=
  [(false, .note 5), (true, .note 3), (true, .save)]

/-- Two stale copies are kept up while the second statement fails. -/
def disturbed : Upkept Bool :=
  upkeepOf [none, some (.reported "busy")] { table := some [busyRow] }
    (fun _ => { remoteId := ⟨"ada", "remote.example"⟩ }) threeUpkeeps

theorem stored_activity_rises_disturbed :
    ∃ t t', (disturbed.follow File.handle.failing [0, 1, 0, 1]).store.2.table = some t ∧
      ((disturbed.follow File.handle.failing [0, 1, 0, 1]).follow File.handle.failing
        [2, 2, 1, 1, 0, 0, 1, 1, 0, 0]).store.2.table = some t' ∧
      List.Forall₂ (Rises "ada") t t' ∧ List.Forall₂ (Traces [5, 3]) [busyRow] t' := by
  have only : SecondsOnly "ada" [busyRow] := by
    intro r mem _
    rw [List.mem_singleton.mp mem]
    exact .inr ⟨4, rfl⟩
  have own : ∀ _ : Bool, Owns "ada" { remoteId := ⟨"ada", "remote.example"⟩ } := fun _ => rfl
  have reach : Crowd.Reach File.handle.failing (upkeepOf _ _ _ threeUpkeeps) _ :=
    Crowd.reach_follow [0, 1, 0, 1] disturbed
  obtain ⟨t, t', held, held', rises, traces, _⟩ :=
    stored_activity_rises rfl only own reach (Crowd.reach_follow [2, 2, 1, 1, 0, 0, 1, 1, 0, 0] _)
  exact ⟨t, t', held, held', rises, traces⟩

end PuppetRegistry.Activity
