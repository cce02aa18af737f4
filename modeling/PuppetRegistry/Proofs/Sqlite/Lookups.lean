import Mathlib.Data.List.Nodup
import PuppetRegistry.Proofs.Access.Finding
import PuppetRegistry.Proofs.Cell
import PuppetRegistry.Proofs.Sqlite.Writes

/-!
# The lookups agree

A lookup picks rows by their cells and reads what it has picked. Where the cells and the fields read
from them say the same, it could as well read all rows first and pick among the puppets. Main
statement: the lookup of all puppets answers one for each row, and the three others answer what is
found among these: the linked ones, the one of a user, and one with a given link.
-/

namespace PuppetRegistry.Sqlite

open Program

variable {σ μ : Type} {h : Handle σ} {s : σ} {m : μ} {server : String} {r : Row} {p : Puppet}
  {t : Table} {puppets : List Puppet} {statement : Statement}

/-! ## Rows and the puppets read from them -/

/-- The puppets that are read from rows, in their order. -/
abbrev ReadAs (server : String) : Table → List Puppet → Prop :=
  List.Forall₂ (Row.ReadsAs server)

theorem exists_readAs (decodes : ∀ r ∈ t, ∃ p, Puppet.ofCells server r.cells = .ok p) :
    ∃ puppets, ReadAs server t puppets := by
  induction t with
  | nil => exact ⟨[], .nil⟩
  | cons r rest ih =>
    obtain ⟨p, first⟩ := decodes r List.mem_cons_self
    obtain ⟨puppets, others⟩ := ih fun r mem => decodes r (List.mem_cons_of_mem _ mem)
    exact ⟨p :: puppets, .cons (Puppet.ofCells_eq_ok_iff.mp first) others⟩

theorem ReadAs.mapM_decode (read : ReadAs server t puppets) :
    (t.map Row.cells).mapM (Lookup.decode server) = .ok puppets := by
  induction read with
  | nil => rfl
  | cons first _ ih =>
    rw [List.map_cons, List.mapM_cons, Access.decode_eq_ok_iff.mpr first, ih]
    rfl

/-- Rows that are picked are read as the puppets that are picked, if the two tests agree on each row
and its puppet. -/
theorem ReadAs.filter (read : ReadAs server t puppets) {picks : Row → Bool} {likes : Puppet → Bool}
    (agree : ∀ r ∈ t, ∀ p, r.ReadsAs server p → picks r = likes p) :
    ReadAs server (t.filter picks) (puppets.filter likes) := by
  have among : List.Forall₂ (fun r p => r ∈ t ∧ r.ReadsAs server p) t puppets :=
    (List.forall₂_and_left _ _).mpr ⟨fun _ mem => mem, read⟩
  have picked := List.rel_filter (p := picks) (q := likes)
    (fun r p ⟨mem, reads⟩ => Bool.eq_iff_iff.mp (agree r mem p reads)) among
  exact picked.imp fun _ _ => And.right

/-! ## Tests on a row and on its puppet -/

/-- A link is missing, or empty, in a row as in the puppet read from it. -/
theorem isLinked_eq (reads : r.ReadsAs server p) : Table.isLinked r = p.isLinked := by
  have link := reads.linkedUser
  by_cases empty : p.linkedUser = ""
  · rw [Table.isLinked, Puppet.isLinked, empty]
    rw [empty] at link
    rcases Cell.eq_of_asText_empty link with null | none
    · rw [null]
      rfl
    · rw [none]
      rfl
  · have notNull : r.linkedUser ≠ .null := by
      intro null
      rw [null] at link
      exact empty (Except.ok.inj link).symm
    have notNone : r.linkedUser ≠ .text "" := by
      intro none
      rw [none] at link
      exact empty (Except.ok.inj link).symm
    have linked : p.isLinked = true := by simp [Puppet.isLinked, empty]
    rw [linked, Table.isLinked, Bool.and_eq_true_iff, bne_iff_ne, bne_iff_ne]
    exact ⟨notNull, notNone⟩

theorem ofUser_eq (reads : r.ReadsAs server p) (named : ∃ name, r.user = .text name)
    (user : String) : Table.ofUser (.text user) r = (p.remoteId.user == user) := by
  obtain ⟨name, own⟩ := named
  have read := reads.user
  rw [own] at read
  have same : p.remoteId.user = name := congrArg RemoteId.user (Except.ok.inj read).symm
  rw [same, Bool.eq_iff_iff, Table.ofUser_text_iff, own, beq_iff_eq, Cell.text.injEq]

theorem linkedTo_eq (reads : r.ReadsAs server p)
    (plain : r.linkedUser = .null ∨ ∃ link, r.linkedUser = .text link) {link : String}
    (some_link : link ≠ "") : (r.linkedUser == .text link) = (p.linkedUser == link) := by
  have read := reads.linkedUser
  rcases plain with null | ⟨name, written⟩
  · rw [null] at read ⊢
    have none : p.linkedUser = "" := (Except.ok.inj read).symm
    rw [none, Bool.eq_iff_iff, beq_iff_eq, beq_iff_eq]
    exact ⟨nofun, fun same => absurd same.symm some_link⟩
  · rw [written] at read ⊢
    have same : p.linkedUser = name := (Except.ok.inj read).symm
    rw [same, Bool.eq_iff_iff, beq_iff_eq, beq_iff_eq, Cell.text.injEq]

/-! ## Lookups -/

/-- Lookups are answered from a table. -/
structure Serves (h : Handle σ) (s : σ) (t : Table) : Prop where
  rows {statement : Statement} (reads : Command.ofStatement statement = .ok .read) :
    (h.rows statement s).1 = .ok (readRows statement t)
  row {statement : Statement} (reads : Command.ofStatement statement = .ok .read) :
    (h.row statement s).1 = .ok (readRows statement t).head?

theorem File.snd_rows (rights : Rights) (f : File) (statement : Statement) :
    ((handleWith rights).rows statement f).2 = f := by
  simp only [handleWith, rows]
  split <;> rfl

theorem File.snd_row (rights : Rights) (f : File) (statement : Statement) :
    ((handleWith rights).row statement f).2 = f := by
  simp only [handleWith, row]
  split <;> rfl

theorem File.serves {f : File} (rights : Rights) (opened : f.open? = .ok t) :
    Serves (handleWith rights) f t where
  rows reads := by simp only [handleWith, File.rows, effect_read opened reads]
  row reads := by simp only [handleWith, File.row, effect_read opened reads]

namespace Serves

variable (serves : Serves h s t)

include serves

theorem every (reads : Command.ofStatement statement = .ok .read) {found : Table}
    (picked : readRows statement t = found.map Row.cells) (read : ReadAs server found puppets) :
    (Lookup.every server statement).run h s m = ⟨.ok puppets, (h.rows statement s).2, m, []⟩ := by
  rw [Access.run_every rfl, serves.rows reads, picked]
  simp only [Except.bind, read.mapM_decode]

theorem first (reads : Command.ofStatement statement = .ok .read) {found : Table}
    (picked : readRows statement t = found.map Row.cells) (read : ReadAs server found puppets) :
    (Lookup.first server statement).run h s m =
      ⟨.ok puppets.head?, (h.row statement s).2, m, []⟩ := by
  rw [Access.run_first rfl, serves.row reads, picked]
  cases read with
  | nil => rfl
  | cons first _ =>
    simp only [List.map_cons, List.head?_cons, Except.bind, Access.decode_eq_ok_iff.mpr first,
      Except.map]

theorem all (read : ReadAs server t puppets) :
    (Lookup.all server).run h s m = ⟨.ok puppets, (h.rows .selectAll s).2, m, []⟩ :=
  serves.every rfl rfl read

theorem linked (read : ReadAs server t puppets) :
    (Lookup.linked server).run h s m =
      ⟨.ok (puppets.filter Puppet.isLinked), (h.rows .selectLinked s).2, m, []⟩ :=
  serves.every rfl rfl (read.filter fun _ _ _ => isLinked_eq)

theorem byId (read : ReadAs server t puppets) (named : ∀ r ∈ t, ∃ name, r.user = .text name)
    (id : RemoteId) :
    (Lookup.byId server id).run h s m =
      ⟨.ok (puppets.filter fun p => p.remoteId.user == id.user).head?,
        (h.row (.selectUser id.user) s).2, m, []⟩ :=
  serves.first rfl rfl (read.filter fun r mem _ reads => ofUser_eq reads (named r mem) id.user)

theorem byLink (read : ReadAs server t puppets)
    (plain : ∀ r ∈ t, r.linkedUser = .null ∨ ∃ link, r.linkedUser = .text link) {link : String}
    (some_link : link ≠ "") :
    (Lookup.byLink server link).run h s m =
      ⟨.ok (puppets.filter fun p => p.linkedUser == link).head?,
        (h.row (.selectLinkedTo link) s).2, m, []⟩ := by
  rw [Lookup.byLink, if_neg (by simpa using some_link)]
  exact serves.first rfl rfl
    (read.filter fun r mem _ reads => linkedTo_eq reads (plain r mem) some_link)

end Serves

/-- At most one puppet has been read from the rows of a user. -/
theorem ReadAs.toList_head?_ofUser (read : ReadAs server t puppets) (keyed : t.Keyed)
    (named : ∀ r ∈ t, ∃ name, r.user = .text name) (user : String) :
    (puppets.filter fun p => p.remoteId.user == user).head?.toList =
      puppets.filter fun p => p.remoteId.user == user := by
  have found : ReadAs server (t.rowsOf user) (puppets.filter fun p => p.remoteId.user == user) :=
    read.filter fun r mem _ reads => ofUser_eq reads (named r mem) user
  generalize (puppets.filter fun p => p.remoteId.user == user) = listed at found ⊢
  obtain none | ⟨r, only⟩ := keyed.rowsOf_cases user
  · rw [none] at found
    cases found
    rfl
  · rw [only] at found
    cases found with
    | cons _ rest =>
      cases rest
      rfl

/-- In a file of which every row can be read, with texts for users and texts or nulls for links, all
puppets are listed, one for each row, and the other lookups answer what is found in that list. -/
theorem lookups_agree {f : File} (rights : Rights) (opened : f.open? = .ok t) (keyed : t.Keyed)
    (decodes : ∀ r ∈ t, ∃ p, Puppet.ofCells server r.cells = .ok p)
    (named : ∀ r ∈ t, ∃ name, r.user = .text name)
    (plain : ∀ r ∈ t, r.linkedUser = .null ∨ ∃ link, r.linkedUser = .text link) (m : μ) :
    ∃ puppets,
      (Lookup.all server).run (File.handleWith rights) f m = ⟨.ok puppets, f, m, []⟩ ∧
      List.Forall₂ (fun r p => Puppet.ofCells server r.cells = .ok p) t puppets ∧
      (Lookup.linked server).run (File.handleWith rights) f m =
        ⟨.ok (puppets.filter Puppet.isLinked), f, m, []⟩ ∧
      (∀ id, ∃ answer,
        (Lookup.byId server id).run (File.handleWith rights) f m = ⟨.ok answer, f, m, []⟩ ∧
        answer.toList = puppets.filter fun p => p.remoteId.user == id.user) ∧
      ∀ link, ∃ answer,
        (Lookup.byLink server link).run (File.handleWith rights) f m = ⟨.ok answer, f, m, []⟩ ∧
        match answer with
        | some p => p ∈ puppets ∧ p.linkedUser = link ∧ link ≠ ""
        | none => link = "" ∨ ∀ p ∈ puppets, p.linkedUser ≠ link := by
  obtain ⟨puppets, read⟩ := exists_readAs decodes
  have serves := File.serves rights opened
  refine ⟨puppets, ?_, read.imp fun _ _ => Puppet.ofCells_eq_ok_iff.mpr, ?_, fun id => ?_,
    fun link => ?_⟩
  · rw [serves.all read, File.snd_rows]
  · rw [serves.linked read, File.snd_rows]
  · refine ⟨_, ?_, read.toList_head?_ofUser keyed named id.user⟩
    rw [serves.byId read named id, File.snd_row]
  · by_cases empty : link = ""
    · refine ⟨none, ?_, .inl empty⟩
      rw [empty]
      rfl
    · refine ⟨(puppets.filter fun p => p.linkedUser == link).head?, ?_, ?_⟩
      · rw [serves.byLink read plain empty, File.snd_row]
      · cases found : (puppets.filter fun p => p.linkedUser == link).head? with
        | some p =>
          obtain ⟨mem, linked⟩ := List.mem_filter.mp (List.mem_of_head? found)
          exact ⟨mem, beq_iff_eq.mp linked, empty⟩
        | none =>
          refine .inr fun p mem linked => ?_
          rw [List.head?_eq_none_iff, List.filter_eq_nil_iff] at found
          exact found p mem (beq_iff_eq.mpr linked)

/-- A row with a user and a link, and nothing else. -/
def linkRow (user : String) (link : Cell) : Row :=
  { defaultRow with user := .text user, linkedUser := link }

/-- Rows without a link, with an empty one, and two with the same. -/
def linkRows : Table :=
  [linkRow "ada" .null, linkRow "bea" (.text ""), linkRow "cyd" (.text "@eve:local.example"),
    linkRow "dan" (.text "@eve:local.example")]

theorem lookups_agree_linkRows :
    ∃ puppets : List Puppet, puppets.length = 4 ∧
      (Lookup.linked "remote.example").run (File.handleWith {}) { table := some linkRows } () =
        ⟨.ok (puppets.filter Puppet.isLinked), { table := some linkRows }, (), []⟩ ∧
      ∃ answer,
        (Lookup.byLink "remote.example" "@eve:local.example").run (File.handleWith {})
          { table := some linkRows } () = ⟨.ok answer, { table := some linkRows }, (), []⟩ := by
  have keyed : linkRows.Keyed := fun c _ =>
    List.nodup_iff_count_le_one.mp (by decide : (linkRows.map Row.user).Nodup) c
  have each : ∀ r ∈ linkRows, (∃ p, Puppet.ofCells "remote.example" r.cells = .ok p) ∧
      (∃ name, r.user = .text name) ∧
      (r.linkedUser = .null ∨ ∃ link, r.linkedUser = .text link) := by
    intro r mem
    simp only [linkRows, List.mem_cons, List.not_mem_nil, or_false] at mem
    obtain rfl | rfl | rfl | rfl := mem
    · exact ⟨⟨_, rfl⟩, ⟨_, rfl⟩, .inl rfl⟩
    · exact ⟨⟨_, rfl⟩, ⟨_, rfl⟩, .inr ⟨_, rfl⟩⟩
    · exact ⟨⟨_, rfl⟩, ⟨_, rfl⟩, .inr ⟨_, rfl⟩⟩
    · exact ⟨⟨_, rfl⟩, ⟨_, rfl⟩, .inr ⟨_, rfl⟩⟩
  obtain ⟨puppets, -, read, linked, -, byLink⟩ :=
    lookups_agree (f := { table := some linkRows }) {} rfl keyed (fun r mem => (each r mem).1)
      (fun r mem => (each r mem).2.1) (fun r mem => (each r mem).2.2) ()
  obtain ⟨answer, answered, -⟩ := byLink "@eve:local.example"
  exact ⟨puppets, read.length_eq.symm, linked, answer, answered⟩

end PuppetRegistry.Sqlite
