import PuppetRegistry.Sqlite.Command
import PuppetRegistry.Handle

/-!
# SQLite files

A file holds a version stamp and, once the schema has been created, the puppet table. Another
connection may hold its write lock, and it may have been overwritten by something else. Of several
reasons to refuse a statement the first one wins: what it says, whether its table is there, the
number of its arguments, their range, whether it may write, the rows. A connection has rights to a
file; `handle` and `init` are for a connection that has all of them.
-/

namespace PuppetRegistry.Sqlite

structure File where
  /-- Whether anything has been written to it. -/
  written : Bool := false
  version : Int := 0
  table : Option Table := none
  /-- Whether another connection holds the write lock. -/
  locked : Bool := false
  /-- Whether changes go to a log beside the file first, so that readers and a writer do not
  meet. -/
  logged : Bool := false
  damaged : Bool := false
  deriving DecidableEq, Repr

structure Rights where
  writes : Bool := true
  shares : Bool := true
  /-- Whether changes have a place to go first. -/
  staged : Bool := true
  deriving DecidableEq, Repr

inductive Refusal
  | failed (error : SqliteError)
  | integerTooLarge
  deriving DecidableEq, Repr

def Refusal.fault (purpose : Purpose) : Refusal → Fault
  | failed error => .storage (.sqlite purpose error)
  | integerTooLarge => .integerTooLarge

def Refusal.rawFault : Refusal → Fault
  | failed error => .sqlite error
  | integerTooLarge => .integerTooLarge

/-- What a statement answers and does: rows, the number of rows changed if it changes rows, and the
table afterwards. -/
structure Effect where
  rows : List (List Cell)
  changed : Option Nat
  table : Option Table

namespace File

def open? (f : File) : Except SqliteError Table :=
  if f.damaged then .error .notADatabase
  else
    match f.table with
    | none => .error .noSuchTable
    | some t => .ok t

def permit (rights : Rights) (f : File) : Except SqliteError Unit :=
  if !rights.writes then .error .readOnlyFile
  else if rights.shares && f.locked then .error .locked
  else if !rights.staged then .error .cannotOpen
  else .ok ()

def bindAll (used : Nat) (arguments : List Cell) : Except Refusal (List Cell) :=
  if arguments.length ≠ used then .error (.failed (.bindingCount used arguments.length))
  else
    match arguments.mapM bindCell? with
    | some bound => .ok bound
    | none => .error .integerTooLarge

/-- Carry out a statement on a file, without keeping what it changes. -/
def effect (rights : Rights) (f : File) (s : Statement) : Except Refusal Effect := do
  let command ← (Command.ofStatement s).mapError .failed
  match command with
  | .echo terms =>
    let bound ← bindAll (places s command) s.arguments
    return ⟨[echoRow bound terms], none, f.table⟩
  | .read =>
    let t ← f.open?.mapError .failed
    let bound ← bindAll (places s command) s.arguments
    return ⟨answerRows s bound t, none, f.table⟩
  | .write =>
    let t ← f.open?.mapError .failed
    let bound ← bindAll (places s command) s.arguments
    (f.permit rights).mapError .failed
    let (after, changed) ← (changeRows s bound t).mapError .failed
    return ⟨[], some changed, some after⟩

def rows (rights : Rights) (s : Statement) (f : File) : Except Fault (List (List Cell)) × File :=
  match f.effect rights s with
  | .ok e => (.ok e.rows, f)
  | .error refusal => (.error (refusal.fault .query), f)

def row (rights : Rights) (s : Statement) (f : File) : Except Fault (Option (List Cell)) × File :=
  match f.effect rights s with
  | .ok e => (.ok e.rows.head?, f)
  | .error refusal => (.error (refusal.fault .query), f)

def execute (rights : Rights) (s : Statement) (f : File) : Except Fault Int × File :=
  match f.effect rights s with
  | .ok e => (.ok (e.changed.getD 0 : Nat), { f with table := e.table })
  | .error refusal => (.error (refusal.fault .statement), f)

/-- Start to keep a log, where it is shared and not yet kept. -/
def startLog (rights : Rights) (f : File) : Except Fault File :=
  if f.damaged then .error (.sqlite .notADatabase)
  else if f.logged || !rights.shares then .ok f
  else
    match f.permit rights with
    | .ok () => .ok { f with written := true, logged := true }
    | .error error => .error (.sqlite error)

/-- Create the schema where it is missing, as far as the rights go. A newer schema is left alone. -/
def createSchema (rights : Rights) (f : File) : Except Fault Unit × File :=
  if f.damaged then (.error (.sqlite .notADatabase), f)
  else if Fault.currentSchema < f.version then (.error (.schemaTooNew .sqlite f.version), f)
  else if f.table.isSome && f.version == Fault.currentSchema then (.ok (), f)
  else
    match f.permit rights with
    | .error error => (.error (.sqlite error), f)
    | .ok () =>
      (.ok (),
        { f with written := true, table := some (f.table.getD []), version := Fault.currentSchema })

def initWith (rights : Rights) (f : File) : Except Fault Unit × File :=
  match f.startLog rights with
  | .error fault => (.error fault, f)
  | .ok f => f.createSchema rights

def init (f : File) : Except Fault Unit × File :=
  f.initWith {}

def handleWith (rights : Rights) : Handle File := ⟨rows rights, row rights, execute rights⟩

def handle : Handle File := handleWith {}

/-! ## Behind the handle's back -/

def versionStamp (f : File) : Except Fault Int :=
  if f.damaged then .error (.sqlite .notADatabase) else .ok f.version

def openToWrite (rights : Rights) (f : File) : Except Fault Unit := do
  if f.damaged then .error (.sqlite .notADatabase)
  (f.permit rights).mapError .sqlite

/-- Set the version stamp, which has 32 bits; anything else is taken for zero. -/
def setVersionStamp (version : Int) (rights : Rights) (f : File) : Except Fault File := do
  f.openToWrite rights
  let stamp := if -(2 ^ 31) ≤ version ∧ version < 2 ^ 31 then version else 0
  return { f with written := true, version := stamp }

def dump (f : File) : Except Fault (List (List Cell)) := do
  let t ← f.open?.mapError .sqlite
  return t.sorted.map Row.cells

def insertCells (values : List (Column × Cell)) (rights : Rights) (f : File) :
    Except Fault File := do
  let t ← f.open?.mapError .sqlite
  let bound ← (bindAll values.length (values.map Prod.snd)).mapError Refusal.rawFault
  f.openToWrite rights
  let r := assign (values.map Prod.fst) bound defaultRow
  let (after, _) ← (Table.insert r t).mapError .sqlite
  return { f with table := some after }

def deleteUser (user : String) (rights : Rights) (f : File) : Except Fault (Nat × File) := do
  let t ← f.open?.mapError .sqlite
  f.openToWrite rights
  let (after, count) := Table.deleteWhere (Table.ofUser (.text user)) t
  return (count, { f with table := some after })

def dropTable (rights : Rights) (f : File) : Except Fault File := do
  let _ ← f.open?.mapError .sqlite
  f.openToWrite rights
  return { f with table := none }

def lock (rights : Rights) (f : File) : Except Fault File := do
  f.openToWrite rights
  return { f with locked := true }

def unlock (f : File) : File :=
  { f with locked := false }

def damage (f : File) : File :=
  { f with written := true, damaged := true }

end File

end PuppetRegistry.Sqlite
