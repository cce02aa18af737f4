import PuppetRegistry.Event
import PuppetRegistry.Server

/-!
# Postgres

A handle on a Postgres server. It holds a pool of connections from its first use until it is closed,
and remembers whether it has prepared the schema since. The schema is prepared in one transaction,
which is committed as a whole or rolled back. Errors of the connection become storage errors; others
pass as they are.
-/

namespace PuppetRegistry

structure Postgres.Address where
  dsn : String
  minSize : Int
  maxSize : Int
  deriving DecidableEq, Repr

structure Postgres where
  address : Postgres.Address
  pooled : Bool := false
  initialized : Bool := false
  server : Server := {}
  deriving Repr

namespace Postgres

def defaultMinSize : Int := 1

def defaultMaxSize : Int := 6

/-- The address of a server, unless the text that names it is blank. The sizes of the pool are
raised to what makes sense. -/
def Address.make? (dsn : String) (minSize maxSize : Int) : Option Address :=
  let dsn := Text.trim dsn
  if dsn.isEmpty then none
  else
    let minSize := max 0 minSize
    some ⟨dsn, minSize, max (max 1 maxSize) minSize⟩

/-- The number of rows in the tag that answers a statement: its last word. -/
def changedRows (tag : Option String) : Int :=
  match (Text.words (tag.getD "")).getLast? with
  | none => 0
  | some word => (Numeral.read word).toOption.getD 0

def tagOf (payload : Payload) : Option String :=
  if payload.toCell.asFlag then payload.toCell.asText.toOption else none

/-! ## The pool -/

def holdPool (p : Postgres) : Except Fault Unit × Postgres :=
  if p.pooled then (.ok (), p)
  else
    match p.server.connect p.address.dsn p.address.minSize p.address.maxSize with
    | (none, server) => (.ok (), { p with pooled := true, server := server })
    | (some report, server) =>
      (.error (.ofPostgres .connection report), { p with server := server })

def close (p : Postgres) : Postgres :=
  if p.pooled then
    { p with pooled := false, initialized := false, server := p.server.note .closePool }
  else { p with initialized := false }

/-! ## Statements -/

def answer {α : Type} (purpose : Purpose) (method : Method) (idle : Payload)
    (read : Payload → Except Fault α) (st : Statement) (p : Postgres) : Except Fault α × Postgres :=
  match p.holdPool with
  | (.error fault, p) => (.error fault, p)
  | (.ok (), p) =>
    match p.server.ask method idle st with
    | (.ok payload, server) => (read payload, { p with server := server })
    | (.error report, server) => (.error (.ofPostgres purpose report), { p with server := server })

/-- The rows in a payload. Null is not taken for no rows. -/
def rowsOf : Payload → Except Fault (List (List Cell))
  | .cell .null => .error (.conversion .nullRows)
  | payload => .ok payload.toRows

def handle : Handle Postgres where
  rows := answer .query .fetch (.rows []) rowsOf
  row := answer .query .fetchRow (.cell .null) fun payload => .ok payload.toRow?
  execute := answer .statement .execute (.cell (.text "")) fun payload =>
    .ok (changedRows (tagOf payload))

def pingStatement : Statement := .free "SELECT 1" []

def ping (p : Postgres) : Except Fault Unit × Postgres :=
  match handle.execute pingStatement p with
  | (.ok _, p) => (.ok (), p)
  | (.error fault, p) => (.error fault, p)

/-! ## The schema -/

def createVersionTable : Statement :=
  .free "CREATE TABLE IF NOT EXISTS puppet_bridge_version ( version INTEGER NOT NULL )" []

def readVersion : Statement :=
  .free "SELECT MAX(version) FROM puppet_bridge_version" []

def createPuppetTable : Statement :=
  .free ("CREATE TABLE IF NOT EXISTS puppet ( username TEXT PRIMARY KEY, avatar TEXT, " ++
    "avatar_url TEXT, displayname TEXT, name_quality SMALLINT, name_set BOOLEAN DEFAULT false, " ++
    "avatar_set BOOLEAN DEFAULT false, last_sync BIGINT DEFAULT 0, custom_mxid TEXT, " ++
    "access_token TEXT, next_batch TEXT, enable_presence BOOLEAN DEFAULT true, " ++
    "enable_receipts BOOLEAN DEFAULT true, first_activity_ts BIGINT, last_activity_ts BIGINT ); " ++
    "CREATE INDEX IF NOT EXISTS idx_puppet_custom_mxid ON puppet(custom_mxid);") []

def deleteVersion : Statement :=
  .free "DELETE FROM puppet_bridge_version" []

def insertVersion : Statement :=
  .free "INSERT INTO puppet_bridge_version (version) VALUES ($1)" [.int Fault.currentSchema]

def versionOf (c : Cell) : Except Fault Int :=
  if c.asFlag then c.toInt.mapError .conversion else .ok 0

def askAll : List Statement → Server → Except Fault Unit × Server
  | [], s => (.ok (), s)
  | st :: rest, s =>
    match s.ask .execute (.cell (.text "")) st with
    | (.ok _, s) => askAll rest s
    | (.error report, s) => (.error (.ofPostgres .schema report), s)

/-- The statements that follow the reading of the version. -/
def upgrade (version : Int) : List Statement :=
  createPuppetTable ::
    if version = Fault.currentSchema then [] else [deleteVersion, insertVersion]

def prepare (s : Server) : Except Fault Unit × Server :=
  match askAll [createVersionTable] s with
  | (.error fault, s) => (.error fault, s)
  | (.ok (), s) =>
    match s.ask .fetchValue (.cell .null) readVersion with
    | (.error report, s) => (.error (.ofPostgres .schema report), s)
    | (.ok payload, s) =>
      match versionOf payload.toCell with
      | .error fault => (.error fault, s)
      | .ok version =>
        if Fault.currentSchema < version then (.error (.schemaTooNew .postgres version), s)
        else askAll (upgrade version) s

/-- Run `body` in a transaction: committed if it succeeds, rolled back if not. -/
def transaction (body : Server → Except Fault Unit × Server) (s : Server) :
    Except Fault Unit × Server :=
  match body (s.note .begin) with
  | (.ok (), s) => (.ok (), s.note .commit)
  | (.error fault, s) => (.error fault, s.note .rollback)

def init (p : Postgres) : Except Fault Unit × List Event × Postgres :=
  if p.initialized then (.ok (), [], p)
  else
    match p.holdPool with
    | (.error fault, p) => (.error fault, [], p)
    | (.ok (), p) =>
      match transaction prepare p.server with
      | (.ok (), server) =>
        (.ok (), [.postgresReady], { p with initialized := true, server := server })
      | (.error fault, server) => (.error fault, [], { p with server := server })

/-- Overlapping preparations wait for one another, so they run in order. -/
def initMany : (count : Nat) → Postgres → List (Except Fault Unit) × List Event × Postgres
  | 0, p => ([], [], p)
  | count + 1, p =>
    let (result, events, p) := p.init
    let (results, later, p) := initMany count p
    (result :: results, events ++ later, p)

end Postgres

end PuppetRegistry
