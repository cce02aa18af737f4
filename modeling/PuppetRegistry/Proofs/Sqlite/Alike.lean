import PuppetRegistry.Proofs.Program.Alike
import PuppetRegistry.Proofs.Sqlite.Meaning

/-!
# Files with other tokens

Two tables are alike if their rows are, one by one, and two files if they differ at most in tables
that are alike. Which rows a statement picks, and whether it is refused, is never decided by a
token. Main statements: from alike files, alike statements draw alike replies and leave alike files
behind; so does the creation of the schema.
-/

namespace PuppetRegistry

/-! ## Cells that are stored -/

namespace Cell.Alike

open Sqlite

variable {c d : Cell}

theorem isSome_bindCell? (alike : c.Alike d) : (bindCell? c).isSome = (bindCell? d).isSome := by
  cases alike <;> rfl

theorem bound (alike : c.Alike d) :
    ((bindCell? c).getD c).Alike ((bindCell? d).getD d) := by
  cases alike with
  | same => exact .same _
  | texts s t => exact .texts s t

theorem asFlag_bound (alike : c.Alike d) (flags : c.asFlag = d.asFlag) :
    ((bindCell? c).getD c).asFlag = ((bindCell? d).getD d).asFlag := by
  cases alike with
  | same => rfl
  | texts s t => exact flags

theorem convert (alike : c.Alike d) :
    (Affinity.text.convert c).Alike (Affinity.text.convert d) := by
  cases alike with
  | same => exact .same _
  | texts s t => exact .texts s t

theorem asFlag_convert (alike : c.Alike d) (flags : c.asFlag = d.asFlag) :
    (Affinity.text.convert c).asFlag = (Affinity.text.convert d).asFlag := by
  cases alike with
  | same => rfl
  | texts s t => exact flags

end Cell.Alike

theorem Row.Alike.stored {r r' : Row} (alike : r.Alike r') :
    (Sqlite.convertRow (Sqlite.bindRow r)).Alike (Sqlite.convertRow (Sqlite.bindRow r')) := by
  obtain ⟨token, batch, tokens, flags, batches, rfl⟩ := alike
  exact ⟨_, _, tokens.bound.convert, tokens.bound.asFlag_convert (tokens.asFlag_bound flags),
    batches.bound.convert, rfl⟩

namespace Sqlite

/-! ## Tables -/

namespace Table

abbrev Alike : Table → Table → Prop :=
  List.Forall₂ Row.Alike

variable {t t' : Table} {r r' : Row}

theorem Alike.refl (t : Table) : Alike t t :=
  List.forall₂_same.mpr fun r _ => .refl r

/-- A condition on rows that no token decides. -/
def Blind {α : Type} (shown : Row → α) : Prop :=
  ∀ r r', r.Alike r' → shown r = shown r'

theorem Blind.of_eq {α : Type} {shown : Row → α}
    (same : ∀ r token batch, shown r = shown { r with accessToken := token, nextBatch := batch }) :
    Blind shown := by
  rintro r _ ⟨token, batch, _, _, _, rfl⟩
  exact same r token batch

theorem Alike.filter {picked : Row → Bool} (blind : Blind picked) (alike : Alike t t') :
    Alike (t.filter picked) (t'.filter picked) := by
  have picks (r r' : Row) (rows : r.Alike r') : picked r = true ↔ picked r' = true := by
    rw [blind r r' rows]
  exact List.rel_filter picks alike

theorem Alike.countP {picked : Row → Bool} (blind : Blind picked) (alike : Alike t t') :
    t.countP picked = t'.countP picked := by
  rw [List.countP_eq_length_filter, List.countP_eq_length_filter]
  exact (alike.filter blind).length_eq

theorem Alike.any {picked : Row → Bool} (blind : Blind picked) (alike : Alike t t') :
    t.any picked = t'.any picked := by
  induction alike with
  | nil => rfl
  | cons first _ ih => rw [List.any_cons, List.any_cons, blind _ _ first, ih]

theorem Alike.cells (alike : Alike t t') : RowsAlike (t.map Row.cells) (t'.map Row.cells) :=
  List.rel_map (fun _ _ rows => .rows rows) alike

/-- What is done to a table: the table, and how many rows it concerns. -/
abbrev Changed : Table × Nat → Table × Nat → Prop :=
  Twins Alike Eq

theorem Alike.updateWhere {picked : Row → Bool} {f g : Row → Row} (blind : Blind picked)
    (keeps : ∀ r r', r.Alike r' → (f r).Alike (g r')) (alike : Alike t t') :
    Changed (updateWhere picked f t) (updateWhere picked g t') := by
  refine ⟨List.rel_map (fun r r' rows => ?_) alike, alike.countP blind⟩
  rw [blind r r' rows]
  split
  · exact keeps r r' rows
  · exact rows

theorem Alike.insert (row : r.Alike r') (alike : Alike t t') :
    Agree Changed (insert r t) (insert r' t') := by
  have blind : Blind (ofUser r.user) := .of_eq fun _ _ _ => rfl
  have user : r'.user = r.user := by
    obtain ⟨token, batch, _, _, _, rfl⟩ := row
    rfl
  unfold Table.insert
  rw [user, alike.any blind]
  split
  · exact .error _
  · exact .ok ⟨List.rel_append alike (.cons row .nil), rfl⟩

theorem Alike.deleteWhere {picked : Row → Bool} (blind : Blind picked) (alike : Alike t t') :
    Changed (deleteWhere picked t) (deleteWhere picked t') := by
  refine ⟨alike.filter fun r r' rows => ?_, alike.countP blind⟩
  rw [blind r r' rows]

theorem alike_withProfile {values values' : Row} (profile : values.Alike values')
    (rows : r.Alike r') : (withProfile values r).Alike (withProfile values' r') := by
  obtain ⟨token, batch, tokens, flags, batches, rfl⟩ := profile
  obtain ⟨_, _, _, _, _, rfl⟩ := rows
  exact ⟨token, batch, tokens, flags, batches, rfl⟩

end Table

/-! ## Statements -/

variable {st st' : Statement} {t t' : Table}

theorem ofStatement_eq (asks : st.Alike st') :
    Command.ofStatement st = Command.ofStatement st' := by
  cases asks <;> rfl

theorem forall₂_arguments (asks : st.Alike st') :
    List.Forall₂ Cell.Alike st.arguments st'.arguments := by
  cases asks with
  | same => exact List.forall₂_same.mpr fun c _ => .same c
  | insert row | update row =>
    obtain ⟨token, batch, tokens, _, batches, rfl⟩ := row
    repeat' constructor
    · exact tokens
    · exact batches

theorem places_eq (asks : st.Alike st') (command : Command) :
    places st command = places st' command := by
  cases asks <;> rfl

theorem rowsAlike_readRows (asks : st.Alike st') (alike : t.Alike t') :
    RowsAlike (readRows st t) (readRows st' t') := by
  cases asks with
  | insert | update => exact .nil
  | same =>
    cases st with
    | selectAll => exact alike.cells
    | selectUser | selectLinkedTo | selectLinked =>
      exact (alike.filter (.of_eq fun _ _ _ => rfl)).cells
    | selectFirstActivity user =>
      have blind : Table.Blind (Table.ofUser (.text user)) := .of_eq fun _ _ _ => rfl
      have found := alike.filter blind
      refine List.rel_map (fun r r' rows => ?_) found
      obtain ⟨_, _, _, _, _, rfl⟩ := rows
      exact .same [r.firstActivity]
    | insert | update | advanceLast | claimFirst | free => exact .nil

theorem agree_free (free : FreeWrite) (bound : List Cell) (alike : t.Alike t') :
    Agree Table.Changed (free.form.write bound t) (free.form.write bound t') := by
  cases free with
  | insertUser => exact alike.insert (.refl _)
  | deleteUser => exact .ok (alike.deleteWhere (.of_eq fun _ _ _ => rfl))
  | setAvatar =>
    refine .ok (alike.updateWhere (.of_eq fun _ _ _ => rfl) fun r r' rows => ?_)
    obtain ⟨token, batch, tokens, flags, batches, rfl⟩ := rows
    cases bound with
    | nil => exact ⟨token, batch, tokens, flags, batches, rfl⟩
    | cons => exact ⟨token, batch, tokens, flags, batches, rfl⟩

theorem agree_update {values values' : Row} (row : values.Alike values') (alike : t.Alike t') :
    Agree Table.Changed (writeRows (.update values) t) (writeRows (.update values') t') := by
  have user : (convertRow (bindRow values')).user = (convertRow (bindRow values)).user := by
    obtain ⟨token, batch, _, _, _, rfl⟩ := row
    rfl
  rw [writeRows, writeRows, user]
  exact .ok (alike.updateWhere (.of_eq fun _ _ _ => rfl) fun r r' rows =>
    Table.alike_withProfile row.stored rows)

theorem agree_writeRows (asks : st.Alike st') (alike : t.Alike t') :
    Agree Table.Changed (writeRows st t) (writeRows st' t') := by
  cases asks with
  | insert row => exact alike.insert row.stored
  | update row => exact agree_update row alike
  | same =>
    cases st with
    | insert values => exact alike.insert (.refl _)
    | update values => exact agree_update (.refl values) alike
    | advanceLast | claimFirst =>
      refine .ok (alike.updateWhere (.of_eq fun _ _ _ => rfl) fun r r' rows => ?_)
      obtain ⟨token, batch, tokens, flags, batches, rfl⟩ := rows
      exact ⟨token, batch, tokens, flags, batches, rfl⟩
    | free sql arguments =>
      rw [writeRows, writeRows]
      split
      · exact agree_free _ _ alike
      · exact .ok ⟨alike, rfl⟩
    | selectAll | selectUser | selectLinkedTo | selectLinked | selectFirstActivity =>
      exact .ok ⟨alike, rfl⟩

namespace File

/-- Two files that differ at most in their tables, which are alike. -/
def Alike (f f' : File) : Prop :=
  ∃ table, Option.Rel Table.Alike f.table table ∧ f' = { f with table := table }

structure EffectsAlike (e e' : Effect) : Prop where
  rows : RowsAlike e.rows e'.rows
  changed : e.changed = e'.changed
  table : Option.Rel Table.Alike e.table e'.table

variable {f f' : File}

theorem Alike.written (alike : f.Alike f') : f'.written = f.written := by
  obtain ⟨_, _, rfl⟩ := alike
  rfl

theorem Alike.locked (alike : f.Alike f') : f'.locked = f.locked := by
  obtain ⟨_, _, rfl⟩ := alike
  rfl

theorem Alike.logged (alike : f.Alike f') : f'.logged = f.logged := by
  obtain ⟨_, _, rfl⟩ := alike
  rfl

theorem Alike.damaged (alike : f.Alike f') : f'.damaged = f.damaged := by
  obtain ⟨_, _, rfl⟩ := alike
  rfl

theorem Alike.refl (f : File) : f.Alike f := by
  refine ⟨f.table, ?_, rfl⟩
  cases f.table with
  | none => exact .none
  | some t => exact .some (.refl t)

private theorem isSome_mapM_cons (c : Cell) (cells : List Cell) :
    ((c :: cells).mapM bindCell?).isSome =
      ((bindCell? c).isSome && (cells.mapM bindCell?).isSome) := by
  rw [List.mapM_cons]
  cases bindCell? c with
  | none => rfl
  | some _ => cases cells.mapM bindCell? <;> rfl

theorem agree_bindAll {cells cells' : List Cell} (used : Nat)
    (alike : List.Forall₂ Cell.Alike cells cells') :
    Agree (fun _ _ => True) (bindAll used cells) (bindAll used cells') := by
  have bound : (cells.mapM bindCell?).isSome = (cells'.mapM bindCell?).isSome := by
    clear used
    induction alike with
    | nil => rfl
    | cons first _ ih =>
      rw [isSome_mapM_cons, isSome_mapM_cons, ih, first.isSome_bindCell?]
  unfold bindAll
  rw [alike.length_eq]
  split
  · exact .error _
  · cases left : cells.mapM bindCell? with
    | none =>
      have right : cells'.mapM bindCell? = none := by simpa [left] using bound.symm
      rw [right]
      exact .error _
    | some =>
      have right : (cells'.mapM bindCell?).isSome := by rw [← bound, left]; rfl
      obtain ⟨_, right⟩ := Option.isSome_iff_exists.mp right
      rw [right]
      exact .ok trivial

theorem agree_open (alike : f.Alike f') : Agree Table.Alike f.open? f'.open? := by
  obtain ⟨table, tables, rfl⟩ := alike
  unfold open?
  dsimp only
  split
  · exact .error _
  · rcases split_rel tables with ⟨none, rfl⟩ | ⟨t, t', held, rfl, rows⟩
    · rw [none]
      exact .error _
    · rw [held]
      exact .ok rows

theorem permit_eq (alike : f.Alike f') (rights : Rights) : f.permit rights = f'.permit rights := by
  obtain ⟨table, tables, rfl⟩ := alike
  rfl

theorem alike_table (alike : f.Alike f') : Option.Rel Table.Alike f.table f'.table := by
  obtain ⟨table, tables, rfl⟩ := alike
  exact tables

theorem agree_effect (rights : Rights) (asks : st.Alike st') (alike : f.Alike f') :
    Agree EffectsAlike (f.effect rights st) (f'.effect rights st') := by
  have opened := (agree_open alike).mapError Refusal.failed
  have bound (command : Command) : Agree (fun _ _ => True)
      (bindAll (places st command) st.arguments) (bindAll (places st' command) st'.arguments) := by
    rw [places_eq asks]
    exact agree_bindAll _ (forall₂_arguments asks)
  rw [effect_eq, effect_eq, ofStatement_eq asks, permit_eq alike]
  cases does : Command.ofStatement st' with
  | error e => exact .error _
  | ok command =>
    cases command with
    | read =>
      refine opened.bind fun t t' tables => ?_
      refine (bound .read).bind fun _ _ _ => ?_
      exact .ok ⟨rowsAlike_readRows asks tables, rfl, alike_table alike⟩
    | write =>
      refine opened.bind fun t t' tables => ?_
      refine (bound .write).bind fun _ _ _ => ?_
      refine Agree.bind (R := Eq) (.refl (fun _ => rfl) _) fun _ _ _ => ?_
      refine ((agree_writeRows asks tables).mapError _).bind fun done done' changed => ?_
      obtain ⟨after, n, after', _, rfl, rfl, tables, rfl⟩ := changed.pairs
      exact .ok ⟨.nil, rfl, .some tables⟩
    | echo terms =>
      cases asks with
      | insert | update => cases does
      | same =>
        have bounds : Agree Eq (bindAll (places st (.echo terms)) st.arguments)
          (bindAll (places st (.echo terms)) st.arguments) := .refl (fun _ => rfl) _
        refine bounds.bind fun cells _ same => ?_
        subst same
        exact .ok ⟨.cons (.same _) .nil, rfl, alike_table alike⟩

/-! ## Connections -/

theorem respects (rights : Rights) : (handleWith rights).Respects Alike where
  rows asks alike := by
    rcases (agree_effect rights asks alike).split with
      ⟨refusal, left, right⟩ | ⟨e, e', left, right, effects⟩
    · simp only [handleWith, File.rows, left, right]
      exact ⟨.error _, alike⟩
    · simp only [handleWith, File.rows, left, right]
      exact ⟨.ok effects.rows, alike⟩
  row asks alike := by
    rcases (agree_effect rights asks alike).split with
      ⟨refusal, left, right⟩ | ⟨e, e', left, right, effects⟩
    · simp only [handleWith, File.row, left, right]
      exact ⟨.error _, alike⟩
    · simp only [handleWith, File.row, left, right]
      exact ⟨.ok effects.rows.head?, alike⟩
  execute asks alike := by
    rcases (agree_effect rights asks alike).split with
      ⟨refusal, left, right⟩ | ⟨e, e', left, right, effects⟩
    · simp only [handleWith, File.execute, left, right]
      exact ⟨rfl, alike⟩
    · simp only [handleWith, File.execute, left, right, effects.changed]
      obtain ⟨_, _, rfl⟩ := alike
      exact ⟨rfl, _, effects.table, rfl⟩

/-! ## The schema -/

theorem agree_startLog (rights : Rights) (alike : f.Alike f') :
    Agree Alike (f.startLog rights) (f'.startLog rights) := by
  have permitted := permit_eq alike rights
  obtain ⟨table, tables, rfl⟩ := alike
  unfold startLog
  rw [← permitted]
  dsimp only
  split
  · exact .error _
  split
  · exact .ok ⟨table, tables, rfl⟩
  split
  · exact .ok ⟨table, tables, rfl⟩
  · exact .error _

theorem twins_createSchema (rights : Rights) (alike : f.Alike f') :
    Twins Eq Alike (f.createSchema rights) (f'.createSchema rights) := by
  have permitted := permit_eq alike rights
  obtain ⟨table, tables, rfl⟩ := alike
  have there : table.isSome = f.table.isSome := by
    rcases split_rel tables with ⟨none, rfl⟩ | ⟨t, t', held, rfl, _⟩
    · rw [none]
    · rw [held]
      rfl
  unfold createSchema
  rw [← permitted]
  dsimp only
  rw [there]
  split
  · exact ⟨rfl, table, tables, rfl⟩
  split
  · exact ⟨rfl, table, tables, rfl⟩
  split
  · exact ⟨rfl, table, tables, rfl⟩
  split
  · exact ⟨rfl, table, tables, rfl⟩
  · refine ⟨rfl, some (table.getD []), .some ?_, rfl⟩
    rcases split_rel tables with ⟨none, rfl⟩ | ⟨t, t', held, rfl, rows⟩
    · rw [none]
      exact .nil
    · rw [held]
      exact rows

theorem twins_initWith (rights : Rights) (alike : f.Alike f') :
    Twins Eq Alike (f.initWith rights) (f'.initWith rights) := by
  rcases (agree_startLog rights alike).split with
    ⟨fault, left, right⟩ | ⟨g, g', left, right, kept⟩
  · rw [initWith, initWith, left, right]
    exact ⟨rfl, alike⟩
  · rw [initWith, initWith, left, right]
    exact twins_createSchema rights kept

end File

end Sqlite

end PuppetRegistry
