import PuppetRegistry.Proofs.Stages
import PuppetRegistry.Sqlite.File

/-!
# What statements mean

A statement is carried out from its form and the arguments at its places. Main statements: the form
of a statement has the statement's own text; and what it answers, and what it does to the table, can
be told from the values that the statement was made of, each in the column of its name.
-/

namespace PuppetRegistry.Sqlite

open Stages

/-! ## Text -/

def placeText (place : Nat) : String :=
  "$" ++ Numeral.write place

def Condition.text : Condition → String
  | equals column place => column.name ++ "=" ++ placeText place
  | isNull column => column.name ++ " IS NULL"
  | isBelow column place =>
    "(" ++ column.name ++ " IS NULL OR " ++ column.name ++ " < " ++ placeText place ++ ")"
  | isNotEmpty column => column.name ++ "<>\x27\x27"

def conditionsText (conditions : List Condition) : String :=
  if conditions.isEmpty then ""
  else " WHERE " ++ " AND ".intercalate (conditions.map Condition.text)

def columnsText (columns : List Column) : String :=
  ", ".intercalate (columns.map Column.name)

def Form.text : Form → String
  | select columns conditions =>
    "SELECT " ++ columnsText columns ++ " FROM puppet" ++ conditionsText conditions
  | insert columns =>
    "INSERT INTO puppet ( " ++ columnsText columns ++ " ) VALUES (" ++
      ", ".intercalate ((List.range columns.length).map fun i => placeText (i + 1)) ++ ")"
  | update columns conditions =>
    "UPDATE puppet SET " ++
      ", ".intercalate (columns.zipIdx.map fun (c, i) => c.name ++ "=" ++ placeText (i + 1)) ++
      conditionsText conditions
  | delete conditions => "DELETE FROM puppet" ++ conditionsText conditions

/-- A statement of the registry has the text of its form, whatever its arguments are. -/
theorem text_eq_sql (s : Statement) (fixed : ∀ sql arguments, s ≠ .free sql arguments) :
    (Form.ofStatement? s).map Form.text = some s.sql := by
  have closed : ∀ s ∈ [Statement.selectAll, .selectUser "", .selectLinkedTo "", .selectLinked,
      .selectFirstActivity "", .insert defaultRow, .update defaultRow, .advanceLast 0 "",
      .claimFirst 0 ""], (Form.ofStatement? s).map Form.text = some s.sql := by
    decide +kernel
  simp only [List.forall_mem_cons] at closed
  obtain ⟨all, user, link, linked, first, insert, update, advance, claim, -⟩ := closed
  cases s with
  | selectAll => exact all
  | selectUser => exact user
  | selectLinkedTo => exact link
  | selectLinked => exact linked
  | selectFirstActivity => exact first
  | insert => exact insert
  | update => exact update
  | advanceLast => exact advance
  | claimFirst => exact claim
  | free sql arguments => exact absurd rfl (fixed sql arguments)

/-! ## Values -/

/-- The values of a row as they are bound to a statement. -/
def bindRow (r : Row) : Row :=
  let bound (c : Cell) : Cell := (bindCell? c).getD c
  { user := bound r.user, avatar := bound r.avatar, avatarUri := bound r.avatarUri
    displayname := bound r.displayname, nameQuality := bound r.nameQuality
    nameSet := bound r.nameSet, avatarSet := bound r.avatarSet, lastSync := bound r.lastSync
    linkedUser := bound r.linkedUser, accessToken := bound r.accessToken
    nextBatch := bound r.nextBatch, enablePresence := bound r.enablePresence
    enableReceipts := bound r.enableReceipts, firstActivity := bound r.firstActivity
    lastActivity := bound r.lastActivity }

/-- A row with every value as its column stores it. -/
def convertRow (r : Row) : Row where
  user := Affinity.text.convert r.user
  avatar := Affinity.text.convert r.avatar
  avatarUri := Affinity.text.convert r.avatarUri
  displayname := Affinity.text.convert r.displayname
  nameQuality := Affinity.integer.convert r.nameQuality
  nameSet := Affinity.integer.convert r.nameSet
  avatarSet := Affinity.integer.convert r.avatarSet
  lastSync := Affinity.integer.convert r.lastSync
  linkedUser := Affinity.text.convert r.linkedUser
  accessToken := Affinity.text.convert r.accessToken
  nextBatch := Affinity.text.convert r.nextBatch
  enablePresence := Affinity.integer.convert r.enablePresence
  enableReceipts := Affinity.integer.convert r.enableReceipts
  firstActivity := Affinity.integer.convert r.firstActivity
  lastActivity := Affinity.integer.convert r.lastActivity

theorem user_convertRow {user : String} {values : Row} (own : values.user = .text user) :
    (convertRow (bindRow values)).user = .text user := by
  simp only [convertRow, bindRow, own]
  rfl

theorem eq_map_of_bound {arguments bound : List Cell}
    (binds : arguments.mapM bindCell? = some bound) :
    bound = arguments.map fun c => (bindCell? c).getD c := by
  induction arguments generalizing bound with
  | nil =>
    cases binds
    rfl
  | cons c rest ih =>
    rw [List.mapM_cons] at binds
    cases first : bindCell? c with
    | none =>
      rw [first] at binds
      cases binds
    | some c' =>
      rw [first] at binds
      cases others : rest.mapM bindCell? with
      | none =>
        rw [others] at binds
        cases binds
      | some rest' =>
        rw [others] at binds
        cases binds
        rw [List.map_cons, first, ← ih others]
        rfl

theorem mapM_eq_of_bindAll {used : Nat} {arguments bound : List Cell}
    (done : File.bindAll used arguments = .ok bound) : arguments.mapM bindCell? = some bound := by
  unfold File.bindAll at done
  split at done
  · cases done
  · split at done
    · rename_i all
      cases done
      exact all
    · cases done

/-! ## Rows -/

namespace Table

def isLinked (r : Row) : Bool :=
  r.linkedUser != .null && r.linkedUser != .text ""

/-- Whether activity in a second is news to a row. -/
def isNews (second : Int) (r : Row) : Bool :=
  r.lastActivity == .null || ltInt r.lastActivity second

/-- A row with the profile of another one; the activity stays. -/
def withProfile (values : Row) (r : Row) : Row :=
  { values with
    user := r.user, firstActivity := r.firstActivity, lastActivity := r.lastActivity }

end Table

/-- What a lookup answers. -/
def readRows (s : Statement) (t : Table) : List (List Cell) :=
  match s with
  | .selectAll => t.map Row.cells
  | .selectUser user => (t.filter (Table.ofUser (.text user))).map Row.cells
  | .selectLinkedTo id => (t.filter fun r => r.linkedUser == .text id).map Row.cells
  | .selectLinked => (t.filter Table.isLinked).map Row.cells
  | .selectFirstActivity user =>
    (t.filter (Table.ofUser (.text user))).map fun r => [r.firstActivity]
  | _ => []

/-- What a statement does to the table, and how many rows it changes. -/
def writeRows (s : Statement) (t : Table) : Except SqliteError (Table × Nat) :=
  match s with
  | .insert values => Table.insert (convertRow (bindRow values)) t
  | .update values =>
    .ok (Table.updateWhere (Table.ofUser (convertRow (bindRow values)).user)
      (Table.withProfile (convertRow (bindRow values))) t)
  | .advanceLast second user =>
    .ok (Table.updateWhere (fun r => Table.ofUser (.text user) r && Table.isNews second r)
      (fun r => { r with lastActivity := .int second }) t)
  | .claimFirst second user =>
    .ok (Table.updateWhere
      (fun r => Table.ofUser (.text user) r && r.firstActivity == .null)
      (fun r => { r with firstActivity := .int second }) t)
  | .free sql arguments =>
    match freeWrite? sql with
    | some free => free.form.write (arguments.map fun c => (bindCell? c).getD c) t
    | none => .ok (t, 0)
  | _ => .ok (t, 0)

variable {s : Statement} {t : Table} {bound : List Cell}

theorem Form.read_select {columns : List Column} {conditions : List Condition} {picked : Row → Bool}
    {shown : Row → List Cell} (picks : ∀ r, conditions.all (Condition.holds bound r) = picked r)
    (shows : ∀ r, columns.map (getCell r) = shown r) :
    (Form.select columns conditions).read bound t = (t.filter picked).map shown := by
  simp only [read, picks, shows]

theorem Form.write_update {columns : List Column} {conditions : List Condition}
    {picked : Row → Bool} {change : Row → Row}
    (picks : ∀ r, conditions.all (Condition.holds bound r) = picked r)
    (changes : ∀ r, assign columns bound r = change r) :
    (Form.update columns conditions).write bound t = .ok (Table.updateWhere picked change t) := by
  have same : assign columns bound = change := funext changes
  simp only [write, picks, same]

theorem answerRows_eq (binds : s.arguments.mapM bindCell? = some bound) :
    answerRows s bound t = readRows s t := by
  have values := eq_map_of_bound binds
  subst values
  cases s with
  | selectAll =>
    have every : t.filter (fun _ => true) = t := List.filter_eq_self.mpr fun _ _ => rfl
    have shown : (Form.select Column.all []).read [] t = (t.filter fun _ => true).map Row.cells :=
      Form.read_select (fun _ => rfl) fun _ => rfl
    rw [every] at shown
    exact shown
  | selectUser | selectFirstActivity | selectLinkedTo | selectLinked =>
    exact Form.read_select (fun _ => Bool.and_true _) fun _ => rfl
  | insert | update | advanceLast | claimFirst => rfl
  | free sql =>
    simp only [answerRows, Form.ofStatement?]
    cases freeWrite? sql with
    | none => rfl
    | some free => cases free <;> rfl

theorem assign_insert (values : Row) :
    assign insertColumns ((Statement.insert values).arguments.map fun c => (bindCell? c).getD c)
      defaultRow = convertRow (bindRow values) := by
  simp only [assign, insertColumns, Statement.arguments, List.map_cons, List.map_nil,
    List.zip_cons_cons, List.zip_nil_left, List.foldl_cons, List.foldl_nil, setCell,
    Column.affinity, convertRow, bindRow]

theorem assign_update (values r : Row) :
    assign profileColumns
        ((Statement.update values).arguments.map fun c => (bindCell? c).getD c) r =
      Table.withProfile (convertRow (bindRow values)) r := by
  simp only [assign, profileColumns, Statement.arguments, List.map_cons, List.map_nil,
    List.zip_cons_cons, List.zip_nil_left, List.foldl_cons, List.foldl_nil, setCell,
    Column.affinity, convertRow, bindRow, Table.withProfile]

theorem assign_avatar (r : Row) : ∃ c, assign [.avatar] bound r = { r with avatar := c } := by
  cases bound with
  | nil => exact ⟨r.avatar, rfl⟩
  | cons c => exact ⟨Affinity.text.convert c, rfl⟩

theorem bound_int (i : Int) : (bindCell? (.int i)).getD (.int i) = .int i := by
  rw [bindCell?]
  split <;> rfl

/-- The arguments of a statement on the activity of a user. -/
theorem bound_activity (second : Int) (user : String) :
    [Cell.int second, .text user].map (fun c => (bindCell? c).getD c) =
      [.int second, .text user] := by
  simp only [List.map_cons, List.map_nil, bound_int]
  rfl

theorem changeRows_eq (binds : s.arguments.mapM bindCell? = some bound) :
    changeRows s bound t = writeRows s t := by
  have values := eq_map_of_bound binds
  subst values
  cases s with
  | selectAll | selectUser | selectFirstActivity | selectLinkedTo | selectLinked => rfl
  | insert values => exact congrArg (Table.insert · t) (assign_insert values)
  | update values =>
    have picks (r : Row) :
        [Condition.equals .user 13].all (Condition.holds
          ((Statement.update values).arguments.map fun c => (bindCell? c).getD c) r) =
        Table.ofUser (convertRow (bindRow values)).user r := Bool.and_true _
    exact Form.write_update picks (assign_update values)
  | advanceLast second user | claimFirst second user =>
    change (Form.update _ _).write (List.map _ _) t = _
    rw [Statement.arguments, bound_activity]
    refine Form.write_update (fun r => ?_) fun _ => rfl
    simp only [List.all_cons, List.all_nil, Bool.and_true]
    rfl
  | free sql =>
    simp only [changeRows, Form.ofStatement?, writeRows]
    cases freeWrite? sql with
    | none => rfl
    | some free => rfl

namespace File

/-- The effect of a statement, told from its values. -/
theorem effect_eq (rights : Rights) (f : File) (s : Statement) :
    f.effect rights s = do
      let command ← (Command.ofStatement s).mapError .failed
      match command with
      | .echo terms =>
        let bound ← bindAll (places s command) s.arguments
        return ⟨[echoRow bound terms], none, f.table⟩
      | .read =>
        let t ← f.open?.mapError .failed
        let _ ← bindAll (places s command) s.arguments
        return ⟨readRows s t, none, f.table⟩
      | .write =>
        let t ← f.open?.mapError .failed
        let _ ← bindAll (places s command) s.arguments
        (f.permit rights).mapError .failed
        let (after, changed) ← (writeRows s t).mapError .failed
        return ⟨[], some changed, some after⟩ := by
  rw [effect]
  cases does : Command.ofStatement s with
  | error => rfl
  | ok command =>
    cases command with
    | echo => rfl
    | read =>
      cases f.open? with
      | error => rfl
      | ok t =>
        cases done : bindAll (places s .read) s.arguments with
        | error => simp only [mapError_ok, bind, Except.bind, done]
        | ok bound =>
          simp only [mapError_ok, bind, Except.bind, done,
            answerRows_eq (mapM_eq_of_bindAll done)]
    | write =>
      cases f.open? with
      | error => rfl
      | ok t =>
        cases done : bindAll (places s .write) s.arguments with
        | error => simp only [mapError_ok, bind, Except.bind, done]
        | ok bound =>
          simp only [mapError_ok, bind, Except.bind, done,
            changeRows_eq (mapM_eq_of_bindAll done)]

end File

end PuppetRegistry.Sqlite
