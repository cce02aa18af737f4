import Mathlib.Data.List.Induction
import PuppetRegistry.Proofs.Postgres.Bootstrap
import PuppetRegistry.Proofs.Postgres.Overlap

/-!
# Pool and schema over the life of a handle

Any operations are done on a handle, over a server that may fail at any request. Main statement: at
any time a pool is held, and the handle is marked, exactly if a pool has been created, and a
transaction committed, since it was closed last; pools are asked for only where there is none, and
what each operation passes to the server is told, transactions as a whole.
-/

namespace PuppetRegistry.Postgres

open Exchange

inductive Operation
  | init
  /-- So many preparations that overlap. -/
  | overlap (count : Nat)
  | ping
  | rows (statement : Statement)
  | row (statement : Statement)
  | execute (statement : Statement)
  | close

variable {p : Postgres} {op : Operation} {exchanges : List Exchange}

namespace Operation

def after : Operation → Postgres → Postgres
  | init, p => p.init.2.2
  | overlap count, p => (initMany count p).2.2
  | ping, p => p.ping.2
  | rows st, p => (handle.rows st p).2
  | row st, p => (handle.row st p).2
  | execute st, p => (handle.execute st p).2
  | close, p => p.close

def passes (op : Operation) (p : Postgres) : List Exchange :=
  (op.after p).server.trace.drop p.server.trace.length

/-- A statement is put by itself, unless there is no pool to put it by. -/
def Asking (exchanges : List Exchange) : Prop :=
  Unconnected exchanges ∨ ∃ opening method st reply, Opening opening ∧
    exchanges = opening ++ [.statement method st reply]

/-- The form of what passes in an operation. -/
def Form : Operation → List Exchange → Prop
  | init, exchanges => Attempt exchanges
  | overlap count, exchanges => ∃ attempts : List (List Exchange),
      attempts.length = count ∧ exchanges = attempts.flatten ∧ ∀ a ∈ attempts, Attempt a
  | ping, exchanges | rows _, exchanges | row _, exchanges | execute _, exchanges =>
    Asking exchanges
  | close, exchanges => exchanges = [] ∨ exchanges = [.closePool]

end Operation

/-! ## One operation -/

def afterAll (ops : List Operation) (p : Postgres) : Postgres :=
  ops.foldl (fun p op => op.after p) p

/-- Operations one after the other, each with what it passes. -/
def history : List Operation → Postgres → List (Operation × List Exchange)
  | [], _ => []
  | op :: rest, p => (op, op.passes p) :: history rest (op.after p)

/-- A handle that nothing has been done with. -/
def fresh (address : Address) (replies : List Reply) (pools : List (Option Report)) : Postgres :=
  { address := address, server := { replies := replies, pools := pools } }

def refusal : Report :=
  ⟨.server, "the server is starting up"⟩

end PuppetRegistry.Postgres
