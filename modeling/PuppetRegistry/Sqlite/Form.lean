import PuppetRegistry.Sqlite.Placeholder
import PuppetRegistry.Sqlite.Table

/-!
# Forms of statements

What SQLite takes from the text of a statement on the puppet table: the columns that are read or
given values, and the conditions on rows. Arguments are told by the numbers of their places alone,
and a value is stored as its column prefers it.
-/

namespace PuppetRegistry.Sqlite

inductive Condition
  | equals (column : Column) (place : Nat)
  | isNull (column : Column)
  /-- Null counts as less than any number. -/
  | isBelow (column : Column) (place : Nat)
  | isNotEmpty (column : Column)
  deriving DecidableEq, Repr

inductive Form
  | select (columns : List Column) (conditions : List Condition)
  /-- A row with the first argument in the first column, and so on. -/
  | insert (columns : List Column)
  /-- The first argument goes to the first column, and so on. -/
  | update (columns : List Column) (conditions : List Condition)
  | delete (conditions : List Condition)
  deriving DecidableEq, Repr

/-- The argument at a place. Places count from one. -/
def argumentAt (arguments : List Cell) (place : Nat) : Cell :=
  arguments.getD (place - 1) .null

def assign (columns : List Column) (values : List Cell) (r : Row) : Row :=
  (columns.zip values).foldl (fun r (column, c) => setCell r column (column.affinity.convert c)) r

namespace Condition

def place : Condition → Nat
  | equals _ place | isBelow _ place => place
  | isNull _ | isNotEmpty _ => 0

def holds (arguments : List Cell) (r : Row) : Condition → Bool
  | equals column place =>
    let c := column.affinity.convert (argumentAt arguments place)
    c != .null && getCell r column == c
  | isNull column => getCell r column == .null
  | isBelow column place =>
    getCell r column == .null || Table.isLess (getCell r column) (argumentAt arguments place)
  | isNotEmpty column => getCell r column != .null && getCell r column != .text ""

end Condition

namespace Form

def places : Form → Nat
  | select _ conditions | delete conditions => (conditions.map Condition.place).foldl max 0
  | insert columns => columns.length
  | update columns conditions => (conditions.map Condition.place).foldl max columns.length

def read (form : Form) (arguments : List Cell) (t : Table) : List (List Cell) :=
  match form with
  | select columns conditions =>
    (t.filter fun r => conditions.all (Condition.holds arguments r)).map fun r =>
      columns.map (getCell r)
  | insert _ | update _ _ | delete _ => []

/-- The table afterwards, and how many rows have changed. -/
def write (form : Form) (arguments : List Cell) (t : Table) : Except SqliteError (Table × Nat) :=
  match form with
  | select _ _ => .ok (t, 0)
  | insert columns => Table.insert (assign columns arguments defaultRow) t
  | update columns conditions =>
    .ok (Table.updateWhere (fun r => conditions.all (Condition.holds arguments r))
      (assign columns arguments) t)
  | delete conditions =>
    .ok (Table.deleteWhere (fun r => conditions.all (Condition.holds arguments r)) t)

end Form

/-! ## Free text -/

/-- The free texts that change the table. -/
inductive FreeWrite
  | setAvatar
  | deleteUser
  | insertUser
  deriving DecidableEq, Repr

def FreeWrite.text : FreeWrite → String
  | setAvatar => "UPDATE puppet SET avatar=?1"
  | deleteUser => "DELETE FROM puppet WHERE username=?1"
  | insertUser => "INSERT INTO puppet (username) VALUES (?1)"

def FreeWrite.form : FreeWrite → Form
  | setAvatar => .update [.avatar] []
  | deleteUser => .delete [.equals .user 1]
  | insertUser => .insert [.user]

def freeWrite? (sql : String) : Option FreeWrite :=
  [FreeWrite.setAvatar, .deleteUser, .insertUser].find? fun w => w.text == placeholders sql

/-! ## Statements of the registry -/

def insertColumns : List Column :=
  [.user, .avatar, .avatarUri, .avatarSet, .displayname, .nameQuality, .nameSet, .lastSync,
    .linkedUser, .accessToken, .nextBatch, .enablePresence, .enableReceipts, .firstActivity,
    .lastActivity]

def profileColumns : List Column :=
  [.displayname, .nameQuality, .nameSet, .avatar, .avatarUri, .avatarSet, .lastSync, .linkedUser,
    .accessToken, .nextBatch, .enablePresence, .enableReceipts]

def Form.ofStatement? : Statement → Option Form
  | .selectAll => some (.select Column.all [])
  | .selectUser _ => some (.select Column.all [.equals .user 1])
  | .selectLinkedTo _ => some (.select Column.all [.equals .linkedUser 1])
  | .selectLinked => some (.select Column.all [.isNotEmpty .linkedUser])
  | .selectFirstActivity _ => some (.select [.firstActivity] [.equals .user 1])
  | .insert _ => some (.insert insertColumns)
  | .update _ => some (.update profileColumns [.equals .user 13])
  | .advanceLast _ _ =>
    some (.update [.lastActivity] [.equals .user 2, .isBelow .lastActivity 1])
  | .claimFirst _ _ => some (.update [.firstActivity] [.equals .user 2, .isNull .firstActivity])
  | .free sql _ => (freeWrite? sql).map FreeWrite.form

end PuppetRegistry.Sqlite
