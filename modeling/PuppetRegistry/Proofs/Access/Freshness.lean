import PuppetRegistry.Proofs.Access.Calls
import PuppetRegistry.Proofs.Activity.Stretches
import PuppetRegistry.Proofs.Program.Along
import PuppetRegistry.Proofs.Puppet.Normal
import PuppetRegistry.Proofs.Sqlite.Writes

/-!
# Flags that are not stale

A puppet is flagged for a name and an avatar that have been passed on. Calls are made on a puppet
one after the other, over a store that may fail at any statement. Main statement: at every stage of
such a course, a name that is flagged is the one of the latest sync, and so is a flagged avatar; and
every row in storage shows the name with its flag, and the avatar with its flag, as they were in
memory at one moment, unless it shows what it did at the start.
-/

namespace PuppetRegistry.Access

open Program

/-- What is flagged is as it was in the puppet that was synced. -/
def FreshTo (synced p : Puppet) : Prop :=
  (p.nameSet = true → p.displayname = synced.displayname) ∧
    (p.avatarSet = true → p.avatar = synced.avatar ∧ p.avatarUri = synced.avatarUri)

def Fresh (synced : Option Puppet) (p : Puppet) : Prop :=
  ∀ g, synced = some g → FreshTo g p

/-- What a call on a puppet may ask for: to write the profile as it is in memory, or to record and
to look at activity. -/
inductive Asks (p : Puppet) : Statement → Prop
  | profile : Asks p (.update p.toRow)
  | last (second : Int) : Asks p (.advanceLast second p.remoteId.user)
  | first (second : Int) : Asks p (.claimFirst second p.remoteId.user)
  | readBack : Asks p (.selectFirstActivity p.remoteId.user)

/-! ## Calls -/

def Call.sync? : Call → Puppet → Option Puppet
  | edit (.noteSynced _), p => some p
  | edit _, _ | noteActivity _, _ => none

section Calls

variable {synced : Option Puppet} {p : Puppet} {second : Int} {last first : Option StoreError}

theorem along_write (fresh : Fresh synced p) : write.Along (Fresh synced) Asks p := by
  apply Along.onStoreError
  · refine ⟨fresh, .profile, fun reply => ?_⟩
    exact (along_ofExcept fresh reply).bind fun _ _ fresh => fresh
  · intro e p fresh
    exact fresh

theorem along_conclude (fresh : Fresh synced p) :
    (Puppet.conclude last first).Along (Fresh synced) Asks p := by
  unfold Puppet.conclude
  split <;> exact fresh

theorem along_afterReadBack (fresh : Fresh synced p) (reply : Except Fault (Option (List Cell))) :
    (Puppet.afterReadBack last reply).Along (Fresh synced) Asks p := by
  unfold Puppet.afterReadBack
  split
  · exact along_conclude fresh
  · exact fresh
  · split
    · exact fresh
    · exact along_conclude fresh
    · exact ⟨fresh, along_conclude fresh⟩

theorem along_afterClaim (fresh : Fresh synced p) (reply : Except Fault Int) :
    (Puppet.afterClaim last reply).Along (Fresh synced) Asks p := by
  unfold Puppet.afterClaim
  split
  · exact along_conclude fresh
  · exact fresh
  · split
    · exact along_conclude fresh
    · exact ⟨fresh, .readBack, along_afterReadBack fresh⟩

theorem along_claimUnlessKnown (fresh : Fresh synced p) :
    (Puppet.claimUnlessKnown second last).Along (Fresh synced) Asks p := by
  simp only [Puppet.claimUnlessKnown, Along]
  split
  · exact ⟨fresh, fresh, .first second, along_afterClaim fresh⟩
  · exact along_conclude fresh

theorem along_afterLast (fresh : Fresh synced p) (reply : Except Fault Int) :
    (Puppet.afterLast second reply).Along (Fresh synced) Asks p := by
  unfold Puppet.afterLast
  split
  · exact along_claimUnlessKnown fresh
  · exact fresh
  · exact along_claimUnlessKnown fresh

theorem along_noteActivity (fresh : Fresh synced p) (second : Int) :
    (noteActivity (.int second)).Along (Fresh synced) Asks p := by
  have recording : (Puppet.recordActivity second).Along (Fresh synced) Asks p := by
    rw [Puppet.recordActivity_eq]
    simp only [Along]
    split
    · exact fresh
    · exact ⟨fresh, fresh, .last second, along_afterLast fresh⟩
  exact recording.onStoreError fun _ _ fresh => fresh

/-- A new value comes without its flag, and a flag is set only by what makes the sync. -/
theorem along_call (fresh : Fresh synced p) (call : Call) :
    call.program.Along (Fresh (call.sync? p <|> synced)) Asks p := by
  cases call with
  | noteActivity second => exact along_noteActivity fresh second
  | edit e =>
    cases e with
    | write => exact along_write fresh
    | rename name quality =>
      simp only [Call.program, Edit.program, Access.rename, Program.bind, bind_eq, record, revise,
        report, pure_eq, Along]
      split
      · exact fresh
      · split
        · split
          · have same_name : Fresh synced { p with nameQuality := quality } := fresh
            exact ⟨fresh, (along_write same_name).bind fun _ _ fresh => fresh⟩
          · exact fresh
        · have unflagged : Fresh synced
              { p with
                displayname := Text.trim (name.getD ""), nameQuality := quality, nameSet := false } :=
            fun g hg => ⟨fun flagged => (Bool.false_ne_true flagged).elim, (fresh g hg).2⟩
          exact ⟨fresh, (along_write unflagged).bind fun _ _ fresh => fresh⟩
    | changeAvatar avatar uri =>
      simp only [Call.program, Edit.program, Access.changeAvatar, Program.bind, bind_eq, record,
        revise, pure_eq, Along]
      split
      · exact fresh
      · have unflagged : Fresh synced
            { p with avatar := avatar, avatarUri := uri, avatarSet := false } :=
          fun g hg => ⟨(fresh g hg).1, fun flagged => (Bool.false_ne_true flagged).elim⟩
        exact ⟨fresh, (along_write unflagged).bind fun _ _ fresh => fresh⟩
    | noteSynced now =>
      have flagged : Fresh (some p)
          { p with nameSet := true, avatarSet := true, lastSync := some now } := by
        rintro g ⟨⟩
        exact ⟨fun _ => rfl, fun _ => ⟨rfl, rfl⟩⟩
      have fresh : Fresh (some p) p := by
        rintro g ⟨⟩
        exact ⟨fun _ => rfl, fun _ => ⟨rfl, rfl⟩⟩
      exact ⟨fresh, along_write flagged⟩
    | unlink =>
      simp only [Call.program, Edit.program, Access.unlink, Program.bind, bind_eq, record, revise,
        report, pure_eq, Along]
      split
      · exact fresh
      · exact ⟨fresh, along_write fresh⟩

end Calls

/-! ## Courses -/

/-- What is the case at one time in a course of calls. -/
structure Stage (σ : Type) where
  synced : Option Puppet
  store : σ
  record : Puppet

section Courses

variable {σ : Type} {h : Handle σ} {synced : Option Puppet} {s : σ} {p : Puppet}

/-- The stages of calls, one call after the other whatever becomes of each. -/
def Call.course (h : Handle σ) : List Call → Option Puppet → σ → Puppet → List (Stage σ)
  | [], synced, s, p => [⟨synced, s, p⟩]
  | call :: rest, synced, s, p =>
    let synced := call.sync? p <|> synced
    let after := call.program.run h s p
    (call.program.points h s p).map (fun x => ⟨synced, x.1, x.2⟩) ++
      course h rest synced after.store after.record

/-- A stage is reached from another by nothing, or by a statement that a call asks for there. -/
def Stage.Follows (h : Handle σ) (x y : Stage σ) : Prop :=
  Program.Follows h Asks (x.store, x.record) (y.store, y.record)

theorem fresh_course (fresh : Fresh synced p) (calls : List Call) :
    ∀ x ∈ Call.course h calls synced s p, Fresh x.synced x.record := by
  induction calls generalizing synced s p with
  | nil =>
    intro x mem
    rw [List.mem_singleton.mp mem]
    exact fresh
  | cons call rest ih =>
    have along := along_call fresh call
    intro x mem
    rcases List.mem_append.mp mem with now | later
    · obtain ⟨y, held, rfl⟩ := List.mem_map.mp now
      exact along.good_points y held
    · exact ih along.good_run x later

theorem head?_course (h : Handle σ) (calls : List Call) (synced : Option Puppet) (s : σ)
    (p : Puppet) :
    ∃ x, (Call.course h calls synced s p).head? = some x ∧ x.store = s ∧ x.record = p := by
  cases calls with
  | nil => exact ⟨_, rfl, rfl, rfl⟩
  | cons call rest =>
    refine ⟨⟨call.sync? p <|> synced, s, p⟩, ?_, rfl, rfl⟩
    rw [Call.course, List.head?_append, List.head?_map, head?_points]
    rfl

theorem isChain_course (calls : List Call) (synced : Option Puppet) (s : σ) (p : Puppet) :
    (Call.course h calls synced s p).IsChain (Stage.Follows h) := by
  induction calls generalizing synced s p with
  | nil => exact List.isChain_singleton _
  | cons call rest ih =>
    have unsynced : Fresh none p := fun g none_synced => nomatch none_synced
    have chain := (along_call unsynced call).isChain_points (h := h) (s := s)
    rw [Call.course, List.isChain_append, List.isChain_map]
    refine ⟨chain, ih .., ?_⟩
    intro x final y head
    obtain ⟨y', head', store, _⟩ := head?_course h rest (call.sync? p <|> synced)
      (call.program.run h s p).store (call.program.run h s p).record
    rw [head'] at head
    cases head
    rw [List.getLast?_map, getLast?_points] at final
    cases final
    exact .inl store

end Courses

/-! ## Rows in storage -/

section Rows

open Sqlite

variable {f f' : File} {t t' : Table} {p : Puppet} {statement : Statement} {n : Nat}

/-- The name and the avatar that a row shows, with their flags. -/
def rowPortrait (r : Row) : List Cell :=
  [r.displayname, r.nameQuality, r.nameSet, r.avatar, r.avatarUri, r.avatarSet]

def portrait (p : Puppet) : List Cell :=
  [.text p.displayname, .int (Puppet.clampQuality p.nameQuality),
    .int (if p.nameSet then 1 else 0), .text p.avatar, .text p.avatarUri.text,
    .int (if p.avatarSet then 1 else 0)]

theorem rowPortrait_storedRow (p : Puppet) : rowPortrait (storedRow p) = portrait p := by
  rw [storedRow_eq]
  rfl

/-- A row has the portrait of a row of the same user in a table, or that of a puppet of the same
user. -/
def Drawn (t : Table) (seen : Puppet → Prop) (r : Row) : Prop :=
  (∃ r₀ ∈ t, r.user = r₀.user ∧ rowPortrait r = rowPortrait r₀) ∨
    ∃ p, seen p ∧ r.user = .text p.remoteId.user ∧ rowPortrait r = portrait p

theorem drawn_writeRows (asks : Asks p statement) (wrote : writeRows statement t = .ok (t', n))
    {r : Row} (mem : r ∈ t') : Drawn t (· = p) r := by
  cases asks with
  | profile =>
    cases wrote
    obtain ⟨r₀, held, rfl⟩ := List.mem_map.mp mem
    by_cases own : Table.ofUser (convertRow (bindRow p.toRow)).user r₀ = true
    · rw [if_pos own]
      exact .inr ⟨p, rfl, Table.ofUser_text_iff.mp own, rowPortrait_storedRow p⟩
    · rw [if_neg own]
      exact .inl ⟨r₀, held, rfl, rfl⟩
  | last | first =>
    cases wrote
    obtain ⟨r₀, held, rfl | rfl⟩ := Table.mem_updateWhere mem
    · exact .inl ⟨_, held, rfl, rfl⟩
    · exact .inl ⟨_, held, rfl, rfl⟩
  | readBack =>
    cases wrote
    exact .inl ⟨r, mem, rfl, rfl⟩

/-- A file with a table of which every row has its portrait from another table, or from puppets. -/
def AllDrawn (t : Table) (seen : Puppet → Prop) (f : File) : Prop :=
  ∃ t', f.table = some t' ∧ ∀ r ∈ t', Drawn t seen r

theorem AllDrawn.mono {seen seen' : Puppet → Prop} (drawn : AllDrawn t seen f)
    (more : ∀ p, seen p → seen' p) : AllDrawn t seen' f := by
  obtain ⟨t', held, rows⟩ := drawn
  refine ⟨t', held, fun r mem => (rows r mem).imp id ?_⟩
  rintro ⟨p, old, shows⟩
  exact ⟨p, more p old, shows⟩

theorem AllDrawn.moved {seen : Puppet → Prop} (drawn : AllDrawn t seen f) (known : seen p)
    (asks : Asks p statement) (moves : File.handle.Moves statement f f') : AllDrawn t seen f' := by
  rcases File.handle_moves moves with rfl | ⟨t₁, t₂, n, held₁, wrote, rfl⟩
  · exact drawn
  obtain ⟨t', held, rows⟩ := drawn
  obtain rfl : t₁ = t' := Option.some.inj (held₁.symm.trans held)
  refine ⟨t₂, rfl, fun r mem => ?_⟩
  rcases drawn_writeRows asks wrote mem with ⟨r₀, mem₀, user, same⟩ | ⟨_, rfl, shows⟩
  · rcases rows r₀ mem₀ with ⟨r₁, mem₁, user₁, same₁⟩ | ⟨q, old, user₁, same₁⟩
    · exact .inl ⟨r₁, mem₁, user.trans user₁, same.trans same₁⟩
    · exact .inr ⟨q, old, user.trans user₁, same.trans same₁⟩
  · exact .inr ⟨_, known, shows⟩

abbrev Failing : Type := List (Option StoreError) × File

theorem AllDrawn.follows {x y : Stage Failing} {seen : List Puppet}
    (drawn : AllDrawn t (· ∈ seen ++ [x.record]) x.store.2)
    (follows : x.Follows File.handle.failing y) :
    AllDrawn t (· ∈ seen ++ [x.record] ++ [y.record]) y.store.2 := by
  have more : AllDrawn t (· ∈ seen ++ [x.record] ++ [y.record]) x.store.2 :=
    drawn.mono fun _ old => List.mem_append_left _ old
  rcases follows with same | ⟨statement, asks, moves⟩
  · change y.store = x.store at same
    rwa [same]
  · rcases Handle.moves_failing moves with same | moves
    · change y.store.2 = x.store.2 at same
      rwa [same]
    · exact more.moved (by simp) asks moves

/-- What is stored at a stage is drawn from the records up to there. -/
theorem allDrawn_of_isChain {x : Stage Failing} {rest : List (Stage Failing)} {seen : List Puppet}
    (chain : (x :: rest).IsChain (Stage.Follows File.handle.failing))
    (drawn : AllDrawn t (· ∈ seen ++ [x.record]) x.store.2)
    {earlier later : List (Stage Failing)} {y : Stage Failing}
    (split : x :: rest = earlier ++ y :: later) :
    AllDrawn t (· ∈ seen ++ (earlier ++ [y]).map Stage.record) y.store.2 := by
  induction rest generalizing x seen earlier with
  | nil =>
    cases earlier with
    | nil =>
      cases split
      exact drawn
    | cons first earlier => simp at split
  | cons z rest ih =>
    cases earlier with
    | nil =>
      cases split
      exact drawn
    | cons first earlier =>
      obtain ⟨rfl, tail⟩ := List.cons.inj split
      rw [List.isChain_cons_cons] at chain
      simpa using ih chain.2 (drawn.follows chain.1) tail

end Rows

/-- At every stage of a course of calls, whatever the store answers, a name that is flagged is that
of the latest sync, and so is a flagged avatar; and what is asked of the store is told by the record
of that time. In a file of which any statements fail, every row shows name and avatar with their
flags as they were in memory at one stage up to then, or as they were shown at the start. -/
theorem flags_never_stale (p : Puppet) (calls : List Call) :
    (∀ {σ : Type} (h : Handle σ) (s : σ),
      (∀ x ∈ Call.course h calls none s p, ∀ g, x.synced = some g → FreshTo g x.record) ∧
      (Call.course h calls none s p).IsChain (Stage.Follows h)) ∧
    ∀ (failures : List (Option StoreError)) (f : Sqlite.File) (t : Sqlite.Table),
      f.table = some t →
      ∀ earlier x later,
        Call.course Sqlite.File.handle.failing calls none (failures, f) p =
          earlier ++ x :: later →
        AllDrawn t (· ∈ (earlier ++ [x]).map Stage.record) x.store.2 := by
  have unsynced : Fresh none p := fun g none_synced => nomatch none_synced
  refine ⟨fun h s => ⟨fresh_course unsynced calls, isChain_course calls none s p⟩, ?_⟩
  intro failures f t held earlier x later split
  have chain := isChain_course (h := Sqlite.File.handle.failing) calls none (failures, f) p
  obtain ⟨first, head, store, record⟩ :=
    head?_course Sqlite.File.handle.failing calls none (failures, f) p
  obtain ⟨rest, all⟩ := List.head?_eq_some_iff.mp head
  have start : AllDrawn t (· ∈ [] ++ [first.record]) first.store.2 := by
    rw [store]
    exact ⟨t, held, fun r mem => .inl ⟨r, mem, rfl, rfl⟩⟩
  rw [all] at chain split
  exact allDrawn_of_isChain chain start split

/-- The first second of 2021, told two hours east of UTC. -/
def firstSync : Moment :=
  ⟨1609459200000000, 7200000000, by decide, by decide⟩

def unnamed : Puppet :=
  { remoteId := ⟨"ada", "remote.example"⟩ }

/-- A sync between two names, the writing of the second one failing. -/
def renamedTwice : List Call :=
  [.edit (.rename (some "Ada") 1), .edit (.noteSynced firstSync), .edit (.rename (some "Eve") 2)]

def courseRenamed : List (Stage Failing) :=
  Call.course Sqlite.File.handle.failing renamedTwice none
    ([none, none, some (.reported "database is locked")],
      (Sqlite.File.init {}).2.withTable [Sqlite.storedRow unnamed]) unnamed

theorem flags_never_stale_renamed :
    ∃ earlier x g, courseRenamed = earlier ++ [x] ∧ x.synced = some g ∧
      g.displayname = "Ada" ∧ x.record.displayname = "Eve" ∧ x.record.avatarSet = true ∧
      FreshTo g x.record ∧
      AllDrawn [Sqlite.storedRow unnamed] (· ∈ (earlier ++ [x]).map Stage.record) x.store.2 := by
  obtain ⟨anywhere, stored⟩ := flags_never_stale unnamed renamedTwice
  have last : courseRenamed.getLast?.map (fun x => (x.synced, x.record)) =
      some (some { unnamed with displayname := "Ada", nameQuality := 1 },
        { unnamed with
          displayname := "Eve", nameQuality := 2, avatarSet := true, lastSync := some firstSync }) := by
    decide +kernel
  obtain ⟨x, final, shows⟩ := Option.map_eq_some_iff.mp last
  obtain ⟨synced, record⟩ := Prod.mk.inj shows
  obtain ⟨earlier, split⟩ := List.getLast?_eq_some_iff.mp final
  have fresh := (anywhere _ _).1 x (List.mem_of_getLast? final) _ synced
  refine ⟨earlier, x, _, split, synced, rfl, ?_, ?_, fresh, stored _ _ _ rfl _ _ [] split⟩
  · rw [record]
  · rw [record]

end PuppetRegistry.Access
