import PuppetRegistry.CommandLine.Run
import PuppetRegistry.Proofs.Access.Alike
import PuppetRegistry.Proofs.Postgres.Alike
import PuppetRegistry.Proofs.Sqlite.AlikeConnections

/-!
# Commands with other tokens

A store respects a relation of its states if its statements do, and if it is prepared with the same
result and events, and closed, in related states. Main statement: a command ends with the same exit
code or the same fault, prints the same lines and reports the same events from related states of a
store that respects the relation, and so does the program as a whole on worlds that are alike.
-/

namespace PuppetRegistry

open Program

structure Store.Respects {σ : Type} (store : Store σ) (S : σ → σ → Prop) : Prop where
  handle : store.handle.Respects S
  init {s s' : σ} : S s s' → Twins Eq (Twins Eq S) (store.init s) (store.init s')
  close {s s' : σ} : S s s' → S (store.close s) (store.close s')

theorem Store.respects_sqlite {address : Sqlite.Address} (plain : address.Plain) :
    (Store.sqlite address).Respects Disk.Alike where
  handle := Sqlite.respects_handleAt plain
  init alike := ⟨(Sqlite.twins_initAt plain alike).1, rfl, (Sqlite.twins_initAt plain alike).2⟩
  close alike := alike

theorem Store.respects_postgres : Store.postgres.Respects Postgres.Alike :=
  ⟨Postgres.respects, Postgres.Alike.init, Postgres.Alike.close⟩

namespace CommandLine

variable {σ : Type} {S : σ → σ → Prop}

/-- Outcomes that look the same, and leave related states behind. -/
structure Outcome.Alike (S : σ → σ → Prop) (o o' : Outcome σ) : Prop where
  exit : o.exit = o'.exit
  lines : o.lines = o'.lines
  events : o.events = o'.events
  world : S o.world o'.world

theorem map_summary {puppets puppets' : List Puppet}
    (alike : List.Forall₂ Puppet.Alike puppets puppets') :
    puppets.map Puppet.summary = puppets'.map Puppet.summary := by
  induction alike with
  | nil => rfl
  | cons first _ ih => rw [List.map_cons, List.map_cons, first.summary, ih]

theorem alike_answer (server : String) (command : Command) :
    Program.Alike Eq Eq (answer server command) (answer server command) := by
  have lines (puppets puppets' : List Puppet) (alike : List.Forall₂ Puppet.Alike puppets puppets') :
      Program.Alike (@Eq Unit) Eq (done ((0 : Int), puppets.map Puppet.summary))
        (done (0, puppets'.map Puppet.summary)) := by
    rw [map_summary alike]
    exact .done rfl
  cases command with
  | init => exact .done rfl
  | list linked =>
    cases linked with
    | true => exact (Access.alike_linked server).bind lines
    | false => exact (Access.alike_all server).bind lines
  | «show» user =>
    refine (Access.alike_find server _ false).bind fun found found' puppets => ?_
    cases puppets with
    | none => exact .done rfl
    | some alike =>
      dsimp only
      rw [alike.summary]
      exact .done rfl

theorem alike_runOn {store : Store σ} (respects : store.Respects S) (server : String)
    (command : Command) {s s' : σ} (states : S s s') :
    (runOn store server command s).Alike S (runOn store server command s') := by
  obtain ⟨result, _, _, _, eq, eq', rfl, reported⟩ := (respects.init states).pairs
  obtain ⟨events, t, _, t', rfl, rfl, rfl, prepared⟩ := reported.pairs
  rw [runOn, runOn, eq, eq']
  cases result with
  | error fault => exact ⟨rfl, rfl, rfl, respects.close prepared⟩
  | ok =>
    have after := (alike_answer server command).run respects.handle prepared (rfl : () = ())
    dsimp only
    rw [after.events]
    rcases after.result.split with ⟨fault, left, right⟩ | ⟨⟨exit, lines⟩, _, left, right, rfl⟩
    · rw [left, right]
      exact ⟨rfl, rfl, rfl, respects.close after.store⟩
    · rw [left, right]
      exact ⟨rfl, rfl, rfl, respects.close after.store⟩

/-! ## The program -/

structure World.Alike (w w' : World) : Prop where
  disk : w.disk.Alike w'.disk
  server : w.server.Alike w'.server

theorem Outcome.Alike.within {τ : Type} {T : τ → τ → Prop} {o o' : Outcome σ} (alike : o.Alike S o')
    {world world' : σ → τ} (worlds : ∀ s s', S s s' → T (world s) (world' s')) :
    (o.within world).Alike T (o'.within world') :=
  ⟨alike.exit, alike.lines, alike.events, worlds _ _ alike.world⟩

theorem twins_target (settings : Settings) {d d' : Disk} (alike : d.Alike d') :
    Twins (fun x y => x = y ∧ ∀ path, x = .ok (.sqlite path) → path = settings.file) Disk.Alike
      (settings.target d) (settings.target d') := by
  unfold Settings.target
  split
  · obtain ⟨result, e, _, e', eq, eq', rfl, alike⟩ :=
      (Disk.twins_makeDirectories alike settings.file.parent Disk.depthLimit).pairs
    rw [eq, eq']
    cases result with
    | error => exact ⟨⟨rfl, nofun⟩, alike⟩
    | ok =>
      refine ⟨⟨rfl, fun path same => ?_⟩, alike⟩
      cases same
      rfl
  split
  · exact ⟨⟨rfl, nofun⟩, alike⟩
  split
  · exact ⟨⟨rfl, nofun⟩, alike⟩
  split
  · exact ⟨⟨rfl, nofun⟩, alike⟩
  · exact ⟨⟨rfl, nofun⟩, alike⟩

theorem alike_runWith {settings : Settings}
    (plain : (Sqlite.Address.ofText settings.file.text).Plain) (command : Command) {w w' : World}
    (alike : w.Alike w') :
    (runWith settings command w).Alike World.Alike (runWith settings command w') := by
  obtain ⟨target, d, _, d', eq, eq', ⟨rfl, file⟩, disks⟩ := (twins_target settings alike.disk).pairs
  rw [runWith, runWith, eq, eq']
  cases target with
  | error fault => exact ⟨rfl, rfl, rfl, disks, alike.server⟩
  | ok target =>
    cases target with
    | sqlite path =>
      obtain rfl := file path rfl
      have ran := alike_runOn (Store.respects_sqlite plain) settings.userServer command disks
      exact ran.within fun _ _ disks => ⟨disks, alike.server⟩
    | postgres address =>
      have pools : Postgres.Alike { address := address, server := w.server }
          { address := address, server := w'.server } := ⟨_, alike.server, rfl⟩
      have ran := alike_runOn Store.respects_postgres settings.userServer command pools
      refine ran.within fun _ _ pools => ⟨disks, ?_⟩
      obtain ⟨_, servers, rfl⟩ := pools
      exact servers

/-- The settings do not name a file as a journal is named. -/
def Plain (env : Environment) (accounts : Accounts := {}) : Prop :=
  ∀ settings, Settings.ofEnvironment env accounts = .ok settings →
    (Sqlite.Address.ofText settings.file.text).Plain

theorem alike_run (arguments : List String) {env : Environment} {accounts : Accounts}
    (plain : Plain env accounts) {w w' : World} (alike : w.Alike w') :
    (run arguments env w accounts).Alike World.Alike (run arguments env w' accounts) := by
  have stopped (exit : Except CommandFault Int) :
      (stopped w exit).Alike World.Alike (CommandLine.stopped w' exit) := ⟨rfl, rfl, rfl, alike⟩
  unfold run
  cases parse arguments with
  | usage => exact stopped _
  | help => exact stopped _
  | run command =>
    cases known : Settings.ofEnvironment env accounts with
    | error error => exact stopped _
    | ok settings =>
      have ran := alike_runWith (plain settings known) command alike
      dsimp only
      split
      · exact stopped _
      split
      · exact stopped _
      · exact ⟨ran.exit, ran.lines, congrArg (Log.above _) ran.events, ran.world⟩

end CommandLine

end PuppetRegistry
