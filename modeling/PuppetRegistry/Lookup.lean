import PuppetRegistry.Program.Basic

/-!
# Looking puppets up

Reading puppets from a store, by user, by linked local user, or all of them. A stored row knows no
server, so every puppet read is put on the configured one.
-/

namespace PuppetRegistry.Lookup

open Program

variable {μ : Type}

def decode (server : String) (cells : List Cell) : Except Fault Puppet :=
  (Puppet.ofCells server cells).mapError fun error => .storage (.undecodable error)

def first (server : String) (s : Statement) : Program μ (Option Puppet) := do
  match ← fetchRow s with
  | none => return none
  | some cells => return some (← ofExcept (decode server cells))

/-- The puppets of all rows that a statement reads. The first unreadable row decides. -/
def every (server : String) (s : Statement) : Program μ (List Puppet) := do
  ofExcept ((← fetchRows s).mapM (decode server))

def byId (server : String) (id : RemoteId) : Program μ (Option Puppet) :=
  first server (.selectUser id.user)

/-- The puppet linked to a local user. No puppet is linked to the empty identifier. -/
def byLink (server : String) (id : String) : Program μ (Option Puppet) :=
  if id.isEmpty then done none else first server (.selectLinkedTo id)

def all (server : String) : Program μ (List Puppet) :=
  every server .selectAll

def linked (server : String) : Program μ (List Puppet) :=
  every server .selectLinked

end PuppetRegistry.Lookup
