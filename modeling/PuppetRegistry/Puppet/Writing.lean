import PuppetRegistry.Program.Basic

/-!
# Storing puppets

The operations that write one puppet: adding its row, overwriting the profile in its row, and
recording activity. Activity is never written by the first two after the row exists, and recording
it is written so that copies of one puppet, used in turn, agree on the window: the latest second
only rises and the first one is claimed once.
-/

namespace PuppetRegistry.Puppet

open Program

variable {μ : Type}

/-- Add the row of a puppet of `server`. A puppet of another server is not stored. -/
def insertRow (server : String) (p : Puppet) : Program μ Bool := do
  if p.remoteId.server ≠ server then
    report (.notInserting p.remoteId)
    return false
  let _ ← perform (.insert p.toRow)
  return true

def insert (server : String) : Program Puppet Bool := do
  insertRow server (← record)

/-- Overwrite all but the activity in the row of a puppet. Whether there is such a row. -/
def update : Program Puppet Bool := do
  let p ← record
  let changed ← perform (.update p.toRow)
  return decide (0 < changed)

def failureOf (event : RemoteId → StoreError → Event) (program : Program Puppet Unit) :
    Program Puppet (Option StoreError) :=
  (program.bind fun _ => done none).onStoreError fun error => do
    let p ← record
    report (event p.remoteId error)
    return some error

/-- Claim the first second of activity in storage. When the row already has one, or there is no
row, take over what is stored. -/
def claimFirst (second : Int) : Program Puppet Unit := do
  let p ← record
  let changed ← perform (.claimFirst second p.remoteId.user)
  if changed ≠ 0 then return ()
  let p ← record
  match ← fetchRow (.selectFirstActivity p.remoteId.user) with
  | none => return ()
  | some [] => raise (.conversion .emptyRow)
  | some (.null :: _) => return ()
  | some (cell :: _) =>
    let stored ← ofExcept (cell.toInt.mapError .conversion)
    revise fun p => { p with firstActivity := stored }

/-- Record activity in a second. A second that is not after the latest one in memory is skipped.
Both writes are tried before the first failure is raised. -/
def recordActivity (second : Int) : Program Puppet Bool := do
  let p ← record
  if second ≤ p.lastActivity then return false
  report (.advancing p.remoteId second)
  revise fun p => { p with lastActivity := second }
  let p ← record
  let last ← failureOf .lastActivityFailed do
    let _ ← perform (.advanceLast second p.remoteId.user)
    return ()
  let p ← record
  let first ←
    if p.firstActivity = 0 then do
      revise fun p => { p with firstActivity := second }
      failureOf .firstActivityFailed (claimFirst second)
    else pure none
  match last <|> first with
  | none => return true
  | some error =>
    let p ← record
    raise (.storage (.activity p.remoteId error))

def recordActivityCell (second : Cell) : Program Puppet Bool := do
  recordActivity (← ofExcept (second.toInt.mapError .conversion))

end PuppetRegistry.Puppet
