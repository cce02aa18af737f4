import PuppetRegistry.CommandLine.Run
import PuppetRegistry.Proofs.Access.Calls

/-!
# Sessions

Operations on puppets and commands, one after the other, on one store: puppets are looked up and
held in slots by name, rows are read into them, they are written and edited, and their activity is
recorded; commands list and show what is stored. A site says what the operations work on.
-/

namespace PuppetRegistry

open Program

/-! ## Operations -/

inductive Search
  | byId (id : RemoteId)
  | byLink (id : String)
  | find (id : RemoteId) (create : Bool)
  | findLinkedTo (id : Option String)

inductive Listing
  | storedAll
  | storedLinked
  | all
  | linked

inductive Act
  | isLinked
  | insert (server : String)
  | update
  | recordActivity (second : Cell)
  | edit (edit : Access.Edit)
  | noteActivity (second : Cell)

def Search.program (server : String) : Search → Program Unit (Option Puppet)
  | byId id => Lookup.byId server id
  | byLink id => Lookup.byLink server id
  | find id create => Access.find server id create
  | findLinkedTo id => Access.findLinkedTo server id

def Listing.program (server : String) : Listing → Program Unit (List Puppet)
  | storedAll => Lookup.all server
  | storedLinked => Lookup.linked server
  | all => Access.all server
  | linked => Access.linked server

def Act.program : Act → Program Puppet Bool
  | isLinked => do return (← record).isLinked
  | insert server => Puppet.insert server
  | update => Puppet.update
  | recordActivity second => Puppet.recordActivityCell second
  | edit e => e.program
  | noteActivity second => Access.noteActivity second

/-- An operation on the puppets in slots, or a command. -/
inductive Operation (κ : Type)
  | new (slot : String)
  | read (slot server : String) (cells : List Cell)
  | act (slot : String) (act : Act)
  | search (slot server : String) (search : Search)
  /-- Look for many puppets; the first ones go into slots. -/
  | list (slots : List String) (server : String) (listing : Listing)
  | command (command : κ)

/-! ## Courses -/

inductive Answer
  | nobody
  | done
  | flag (value : Bool)
  | found (puppet : Option Puppet)
  | listed (puppets : List Puppet)
  | fault (fault : Fault)
  | ended (exit : Except CommandFault Int) (lines : List String)

def Answer.of {α : Type} (told : α → Answer) : Except Fault α → Answer
  | .ok a => told a
  | .error e => fault e

/-- A store, and the puppets in slots. -/
structure Session (σ : Type) where
  store : σ
  held : String → Option Puppet

namespace Session

variable {σ : Type}

def hold (slot : String) (puppet : Option Puppet) (x : Session σ) : Session σ :=
  { x with held := fun s => if s = slot then puppet else x.held s }

/-- Put puppets into slots, as far as both last. -/
def holdAll : List String → List Puppet → Session σ → Session σ
  | slot :: slots, p :: puppets, x => holdAll slots puppets (x.hold slot (some p))
  | _, _, x => x

end Session

/-- What an operation answers and reports, and the session after it. -/
structure Turn (σ : Type) where
  answer : Answer
  events : List Event
  session : Session σ

/-- Where operations are carried out: the statements of a store, and commands on it. -/
structure Site (σ κ : Type) where
  handle : Handle σ
  command : κ → σ → CommandLine.Outcome σ

namespace Site

variable {σ κ : Type}

/-- Run a program, tell its result, and keep in the session what it has come to. -/
def ask {α : Type} (site : Site σ κ) (program : Program Unit α) (told : α → Answer)
    (keep : α → Session σ → Session σ) (x : Session σ) : Turn σ :=
  let after := program.run site.handle x.store ()
  let x := { x with store := after.store }
  ⟨.of told after.result, after.events,
    match after.result with
    | .ok a => keep a x
    | .error _ => x⟩

def step (site : Site σ κ) (operation : Operation κ) (x : Session σ) : Turn σ :=
  match operation with
  | .new slot => ⟨.done, [], x.hold slot (some {})⟩
  | .read slot server cells =>
    match x.held slot with
    | none => ⟨.nobody, [], x⟩
    | some p =>
      match Puppet.readCells server cells p with
      | (p, none) => ⟨.done, [], x.hold slot (some p)⟩
      | (p, some error) => ⟨.fault (.storage (.undecodable error)), [], x.hold slot (some p)⟩
  | .act slot act =>
    match x.held slot with
    | none => ⟨.nobody, [], x⟩
    | some p =>
      let after := act.program.run site.handle x.store p
      ⟨.of .flag after.result, after.events,
        { x with store := after.store }.hold slot (some after.record)⟩
  | .search slot server search => site.ask (search.program server) .found (Session.hold slot) x
  | .list slots server listing =>
    site.ask (listing.program server) .listed (Session.holdAll slots) x
  | .command command =>
    let after := site.command command x.store
    ⟨.ended after.exit after.lines, after.events, { x with store := after.world }⟩

/-- The turns of operations, one after the other whatever becomes of each. -/
def course (site : Site σ κ) : List (Operation κ) → Session σ → List (Turn σ)
  | [], _ => []
  | operation :: rest, x =>
    let turn := site.step operation x
    turn :: course site rest turn.session

end Site

end PuppetRegistry
