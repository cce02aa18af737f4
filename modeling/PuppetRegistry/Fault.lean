import PuppetRegistry.Conversion
import PuppetRegistry.RemoteId
import PuppetRegistry.Text.Utf8

/-!
# Faults

What can go wrong between a record and its store. A `StoreError` is the kind that callers expect
and handle: a statement failed, or a stored row cannot be read. Every other fault passes through
them. `message` gives the wording of each.
-/

namespace PuppetRegistry

inductive SqliteError
  | noSuchTable
  | nearToken (token : String)
  | bindingCount (used given : Nat)
  | userTaken
  | locked
  | notADatabase
  | cannotOpen
  | unreadable
  | readOnlyFile
  | unknownOption (option value : String)
  | modeNotAllowed (mode : String)
  | garbled (defect : Text.Utf8.Defect)
  /-- The log beside the file changes whenever it is looked at. -/
  | lockingProtocol
  deriving DecidableEq, Repr

def SqliteError.message : SqliteError → String
  | noSuchTable => "no such table: puppet"
  | nearToken token => "near \"" ++ token ++ "\": syntax error"
  | bindingCount used given =>
    "Incorrect number of bindings supplied. The current statement uses " ++ Numeral.write used ++
      ", and there are " ++ Numeral.write given ++ " supplied."
  | userTaken => "UNIQUE constraint failed: puppet.username"
  | locked => "database is locked"
  | notADatabase => "file is not a database"
  | cannotOpen => "unable to open database file"
  | unreadable => "disk I/O error"
  | readOnlyFile => "attempt to write a readonly database"
  | unknownOption option value => "no such " ++ option ++ ": " ++ value
  | modeNotAllowed mode => "access mode not allowed: " ++ mode
  | garbled defect => defect.message
  | lockingProtocol => "locking protocol"

/-- An address has an option with a value, given by its bytes, that does not exist. -/
def SqliteError.unknownValue (option : String) (value : List UInt8) : SqliteError :=
  match Text.Utf8.defect? ((unknownOption option "").message.toUTF8.toList ++ value) with
  | some defect => garbled defect
  | none => unknownOption option (Text.Utf8.text value)

inductive ReportKind
  | storage
  | system
  | timeout
  | server
  | interface
  | badValue
  | other
  deriving DecidableEq, Repr

/-- Whether an error belongs to the connection itself, and not to the use made of it. -/
def ReportKind.isConnection : ReportKind → Bool
  | system | timeout | server | interface => true
  | storage | badValue | other => false

structure Report where
  kind : ReportKind
  text : String
  deriving DecidableEq, Repr

inductive Backend
  | sqlite
  | postgres
  deriving DecidableEq, Repr

def Backend.name : Backend → String
  | sqlite => "sqlite"
  | postgres => "postgres"

inductive Purpose
  | query
  | statement
  | connection
  | schema
  deriving DecidableEq, Repr

def Purpose.name : Purpose → String
  | query => "query"
  | statement => "statement"
  | connection => "connection"
  | schema => "schema bootstrap"

/-- The failures that callers of a store expect. -/
inductive StoreError
  | sqlite (purpose : Purpose) (cause : SqliteError)
  | postgres (purpose : Purpose) (cause : String)
  | undecodable (cause : ConversionError)
  /-- Some write of an activity failed, this one first. -/
  | activity (who : RemoteId) (first : StoreError)
  /-- The far end says so itself. -/
  | reported (text : String)
  deriving DecidableEq, Repr

def StoreError.message : StoreError → String
  | sqlite purpose cause => "sqlite " ++ purpose.name ++ " failed: " ++ cause.message
  | postgres purpose cause => "postgres " ++ purpose.name ++ " failed: " ++ cause
  | undecodable cause => "failed to decode puppet row: " ++ cause.message
  | activity who first => "activity update for " ++ who.text ++ " failed: " ++ first.message
  | reported text => text

inductive Fault
  | storage (error : StoreError)
  | conversion (error : ConversionError)
  | integerTooLarge
  | sqlite (error : SqliteError)
  | schemaTooNew (backend : Backend) (version : Int)
  | reported (report : Report)
  deriving DecidableEq, Repr

namespace Fault

def currentSchema : Int := 1

def message : Fault → String
  | storage error => error.message
  | conversion error => error.message
  | integerTooLarge => "Python int too large to convert to SQLite INTEGER"
  | sqlite error => error.message
  | schemaTooNew .sqlite version =>
    "SQLite schema version mismatch detected (database is newer than this bridge build). " ++
      "Found user_version=" ++ Numeral.write version ++ ", supported=" ++
      Numeral.write currentSchema ++ "."
  | schemaTooNew .postgres version =>
    "Postgres schema version " ++ Numeral.write version ++ " is newer than supported " ++
      Numeral.write currentSchema ++ ". Upgrade the bridge before starting."
  | reported report => report.text

/-- The fault that a report is when nobody takes it for a failed connection. -/
def ofReport (report : Report) : Fault :=
  match report.kind with
  | .storage => storage (.reported report.text)
  | _ => reported report

def ofPostgres (purpose : Purpose) (report : Report) : Fault :=
  if report.kind.isConnection then storage (.postgres purpose report.text) else ofReport report

end Fault

end PuppetRegistry
