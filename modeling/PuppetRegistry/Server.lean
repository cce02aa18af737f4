import PuppetRegistry.Handle
import PuppetRegistry.Text.Blank

/-!
# A rehearsed server

The far end of a connection, reduced to what it will answer and what has passed so far. Replies are
given in order, whatever is asked; when none is left, every request succeeds with nothing to say.
-/

namespace PuppetRegistry

inductive Method
  | query
  | queryRow
  | execute
  | fetch
  | fetchRow
  | fetchValue
  deriving DecidableEq, Repr

inductive Payload
  | cell (value : Cell)
  | row (cells : List Cell)
  | rows (found : List (List Cell))
  deriving DecidableEq, Repr

namespace Payload

def toRows? : Payload → Option (List (List Cell))
  | rows found => some found
  | cell .null => none
  | row _ | cell _ => some []

def toRows (p : Payload) : List (List Cell) :=
  p.toRows?.getD []

def toRow? : Payload → Option (List Cell)
  | row cells => some cells
  | rows _ | cell _ => none

def toCell : Payload → Cell
  | cell value => value
  | row _ | rows _ => .null

def toCount : Payload → Int
  | cell (.int n) => n
  | cell value => if value.asFlag then 1 else 0
  | row cells => cells.length
  | rows found => found.length

end Payload

abbrev Reply := Except Report Payload

/-- What passes between a handle and a server: a request, and its outcome where it has one. -/
inductive Exchange
  | statement (method : Method) (statement : Statement) (reply : Reply)
  /-- A pool is asked for; without a failure it is there. -/
  | createPool (dsn : String) (minSize maxSize : Int) (failure : Option Report)
  | closePool
  | begin
  | commit
  | rollback
  deriving Repr

structure Server where
  replies : List Reply := []
  /-- The outcomes of the pools to be created: an error, or none for success. -/
  pools : List (Option Report) := []
  /-- What has passed, the latest first. -/
  passed : List Exchange := []
  deriving Repr

namespace Server

def trace (s : Server) : List Exchange :=
  s.passed.reverse

def note (e : Exchange) (s : Server) : Server :=
  { s with passed := e :: s.passed }

/-- Put a statement to the server. `idle` is the answer when no reply is left. -/
def ask (method : Method) (idle : Payload) (st : Statement) (s : Server) : Reply × Server :=
  let reply := s.replies.headD (.ok idle)
  (reply, { s with replies := s.replies.tail }.note (.statement method st reply))

/-- Ask for a pool: the failure, if it is one. -/
def connect (dsn : String) (minSize maxSize : Int) (s : Server) : Option Report × Server :=
  let failure := s.pools.headD none
  (failure, { s with pools := s.pools.tail }.note (.createPool dsn minSize maxSize failure))

/-! ## The bare handle -/

def answer {α : Type} (method : Method) (idle : Payload) (read : Payload → α) (st : Statement)
    (s : Server) : Except Fault α × Server :=
  match s.ask method idle st with
  | (.ok payload, s) => (.ok (read payload), s)
  | (.error report, s) => (.error (.ofReport report), s)

def rows? : Statement → Server → Except Fault (Option (List (List Cell))) × Server :=
  answer .query (.rows []) Payload.toRows?

/-- A handle that puts statements to a server without any pool. -/
def handle : Handle Server where
  rows := answer .query (.rows []) Payload.toRows
  row := answer .queryRow (.cell .null) Payload.toRow?
  execute := answer .execute (.cell (.int 1)) Payload.toCount

end Server

end PuppetRegistry
