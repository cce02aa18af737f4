import PuppetRegistry.CommandLine.Arguments
import PuppetRegistry.Log
import PuppetRegistry.Access
import PuppetRegistry.Postgres
import PuppetRegistry.Puppet.Summary
import PuppetRegistry.Settings
import PuppetRegistry.Sqlite.Connection

/-!
# Running commands

A command works on the store that the settings name: it prepares the store, answers from it, and
closes it again, also when something fails in between.
-/

namespace PuppetRegistry

structure Store (σ : Type) where
  backend : Backend
  handle : Handle σ
  init : σ → Except Fault Unit × List Event × σ
  close : σ → σ

def Store.sqlite (address : Sqlite.Address) : Store Disk where
  backend := .sqlite
  handle := Sqlite.handleAt address
  init d :=
    let (result, d) := Sqlite.initAt address d
    (result, [], d)
  close := id

def Store.postgres : Store Postgres where
  backend := .postgres
  handle := Postgres.handle
  init := Postgres.init
  close := Postgres.close

inductive Target
  | sqlite (path : Path)
  | postgres (address : Postgres.Address)
  deriving DecidableEq, Repr

inductive CommandFault
  | settings (error : SettingsError)
  | log (refusal : Log.Refusal)
  | disk (error : DiskError)
  | fault (fault : Fault)
  deriving DecidableEq, Repr

def CommandFault.message : CommandFault → String
  | settings error => error.message
  | log refusal => refusal.message
  | disk error => error.message
  | fault f => f.message

namespace Settings

/-- The store that settings name. The directory of an SQLite file is created. -/
def target (s : Settings) (d : Disk) : Except CommandFault Target × Disk :=
  if s.backend = "sqlite" then
    match d.makeDirectories s.file.parent Disk.depthLimit with
    | (.ok _, d) => (.ok (.sqlite s.file), d)
    | (.error error, d) => (.error (.disk error), d)
  else if s.backend ≠ "postgres" then (.error (.settings .unknownBackend), d)
  else if s.dsn.isEmpty then (.error (.settings .dsnMissing), d)
  else
    match Postgres.Address.make? s.dsn Postgres.defaultMinSize s.poolSize with
    | some address => (.ok (.postgres address), d)
    | none => (.error (.settings .dsnBlank), d)

end Settings

namespace CommandLine

structure Outcome (σ : Type) where
  exit : Except CommandFault Int
  lines : List String
  events : List Event
  world : σ

/-- What a command answers from a store that is prepared: exit code and lines. -/
def answer (server : String) : Command → Program Unit (Int × List String)
  | .init => .done (0, [])
  | .list linked => do
    let puppets ← if linked then Access.linked server else Access.all server
    return (0, puppets.map Puppet.summary)
  | .show user => do
    let named := RemoteId.parse user
    let id : RemoteId := if named.user.isEmpty then ⟨user, server⟩ else named
    match ← Access.find server id false with
    | none => return (1, ["No puppet for " ++ id.text])
    | some p => return (0, [p.summary])

def runOn {σ : Type} (store : Store σ) (server : String) (command : Command) (s : σ) : Outcome σ :=
  match store.init s with
  | (.error fault, events, s) => ⟨.error (.fault fault), [], events, store.close s⟩
  | (.ok (), events, s) =>
    let ready := if command = .init then [Event.schemaReady store.backend] else []
    let after := (answer server command).run store.handle s ()
    match after.result with
    | .error fault => ⟨.error (.fault fault), [], events ++ after.events, store.close after.store⟩
    | .ok (exit, lines) =>
      ⟨.ok exit, lines, events ++ ready ++ after.events, store.close after.store⟩

structure World where
  disk : Disk := {}
  server : Server := {}
  deriving Repr

def Outcome.within {σ τ : Type} (o : Outcome σ) (world : σ → τ) : Outcome τ :=
  ⟨o.exit, o.lines, o.events, world o.world⟩

def stopped (w : World) (exit : Except CommandFault Int) : Outcome World :=
  ⟨exit, [], [], w⟩

/-- Carry a command out on the store that settings name. -/
def runWith (settings : Settings) (command : Command) (w : World) : Outcome World :=
  match settings.target w.disk with
  | (.error fault, disk) => stopped { w with disk := disk } (.error fault)
  | (.ok (.sqlite path), disk) =>
    (runOn (Store.sqlite (.ofText path.text)) settings.userServer command disk).within fun disk =>
      { w with disk := disk }
  | (.ok (.postgres address), disk) =>
    (runOn Store.postgres settings.userServer command
      { address := address, server := w.server }).within fun p =>
        { w with disk := disk, server := p.server }

def run (arguments : List String) (env : Environment) (w : World) (accounts : Accounts := {}) :
    Outcome World :=
  match parse arguments with
  | .usage => stopped w (.ok 2)
  | .help => stopped w (.ok 0)
  | .run command =>
    match Settings.ofEnvironment env accounts with
    | .error error => stopped w (.error (.settings error))
    | .ok settings =>
      match settings.check with
      | .error error => stopped w (.error (.settings error))
      | .ok () =>
        match Log.threshold settings.level with
        | .error refusal => stopped w (.error (.log refusal))
        | .ok threshold =>
          let o := runWith settings command w
          { o with events := Log.above threshold o.events }

end CommandLine

end PuppetRegistry
