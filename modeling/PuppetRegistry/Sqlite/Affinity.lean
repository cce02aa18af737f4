import PuppetRegistry.Puppet.Row
import PuppetRegistry.Sqlite.RealText

/-!
# Column affinity

A column prefers a type and converts a value to it when that loses nothing: a text column writes
numbers as text; an integer column reads numerals, and turns whole floating-point numbers into
integers. Null and blobs stay as they are.
-/

namespace PuppetRegistry.Sqlite

inductive Column
  | user
  | avatar
  | avatarUri
  | displayname
  | nameQuality
  | nameSet
  | avatarSet
  | lastSync
  | linkedUser
  | accessToken
  | nextBatch
  | enablePresence
  | enableReceipts
  | firstActivity
  | lastActivity
  deriving DecidableEq, Repr

inductive Affinity
  | text
  | integer
  deriving DecidableEq, Repr

def fitsInteger (i : Int) : Bool :=
  decide (-(2 ^ 63) ≤ i) && decide (i < 2 ^ 63)

/-- The blanks that may stand around a numeral. -/
def isSpace (c : Char) : Bool :=
  c == ' ' || (0x09 ≤ c.toNat && c.toNat ≤ 0x0d)

/-- A floating-point number in an integer column. -/
def wholeOrReal (x : Binary64) : Cell :=
  match x.exactInt? with
  | some i => if -(2 ^ 63) < i ∧ i < 2 ^ 63 - 1 then .int i else .real x
  | none => .real x

/-- The number that a text writes, as an integer column stores it. -/
def numeral? (s : String) : Option Cell :=
  let (negative, body) := Numeral.splitSign (Text.dropTail isSpace (s.toList.dropWhile isSpace))
  (decimal? body).map fun decimal =>
    let i : Int := if negative then -(decimal.digits : Int) else decimal.digits
    if body.all Char.isDigit && fitsInteger i then .int i
    else wholeOrReal (readReal negative decimal)

/-- A value as a column stores it. -/
def Affinity.convert : Affinity → Cell → Cell
  | .text, .int i => .text (Numeral.write i)
  | .text, .real x => .text (columnText x)
  | .integer, .real x => wholeOrReal x
  | .integer, .text s => (numeral? s).getD (.text s)
  | _, c => c

namespace Column

def name : Column → String
  | user => "username"
  | avatar => "avatar"
  | avatarUri => "avatar_url"
  | displayname => "displayname"
  | nameQuality => "name_quality"
  | nameSet => "name_set"
  | avatarSet => "avatar_set"
  | lastSync => "last_sync"
  | linkedUser => "custom_mxid"
  | accessToken => "access_token"
  | nextBatch => "next_batch"
  | enablePresence => "enable_presence"
  | enableReceipts => "enable_receipts"
  | firstActivity => "first_activity_ts"
  | lastActivity => "last_activity_ts"

def all : List Column :=
  [user, avatar, avatarUri, displayname, nameQuality, nameSet, avatarSet, lastSync, linkedUser,
    accessToken, nextBatch, enablePresence, enableReceipts, firstActivity, lastActivity]

def ofName? (name : String) : Option Column :=
  all.find? fun c => c.name == name

def affinity : Column → Affinity
  | user | avatar | avatarUri | displayname | linkedUser | accessToken | nextBatch => .text
  | nameQuality | nameSet | avatarSet | lastSync | enablePresence | enableReceipts
  | firstActivity | lastActivity => .integer

end Column

def getCell (r : Row) (column : Column) : Cell :=
  match column with
  | .user => r.user
  | .avatar => r.avatar
  | .avatarUri => r.avatarUri
  | .displayname => r.displayname
  | .nameQuality => r.nameQuality
  | .nameSet => r.nameSet
  | .avatarSet => r.avatarSet
  | .lastSync => r.lastSync
  | .linkedUser => r.linkedUser
  | .accessToken => r.accessToken
  | .nextBatch => r.nextBatch
  | .enablePresence => r.enablePresence
  | .enableReceipts => r.enableReceipts
  | .firstActivity => r.firstActivity
  | .lastActivity => r.lastActivity

def setCell (r : Row) (column : Column) (c : Cell) : Row :=
  match column with
  | .user => { r with user := c }
  | .avatar => { r with avatar := c }
  | .avatarUri => { r with avatarUri := c }
  | .displayname => { r with displayname := c }
  | .nameQuality => { r with nameQuality := c }
  | .nameSet => { r with nameSet := c }
  | .avatarSet => { r with avatarSet := c }
  | .lastSync => { r with lastSync := c }
  | .linkedUser => { r with linkedUser := c }
  | .accessToken => { r with accessToken := c }
  | .nextBatch => { r with nextBatch := c }
  | .enablePresence => { r with enablePresence := c }
  | .enableReceipts => { r with enableReceipts := c }
  | .firstActivity => { r with firstActivity := c }
  | .lastActivity => { r with lastActivity := c }

def defaultRow : Row where
  user := .null
  avatar := .null
  avatarUri := .null
  displayname := .null
  nameQuality := .null
  nameSet := .int 0
  avatarSet := .int 0
  lastSync := .int 0
  linkedUser := .null
  accessToken := .null
  nextBatch := .null
  enablePresence := .int 1
  enableReceipts := .int 1
  firstActivity := .null
  lastActivity := .null

end PuppetRegistry.Sqlite
