import PuppetRegistry.Proofs.CommandLine.Alike
import PuppetRegistry.Proofs.CommandLine.Session
import PuppetRegistry.Proofs.Puppet.Normal

/-!
# Tokens never show

Two courses of the same operations on puppets and commands are set side by side, from puppets and
rows that differ at most in the texts of their tokens. Main statement: they give the same answers,
report the same events, print the same lines and end with the same exit codes, and at no time do the
puppets and the rows differ in anything else.
-/

namespace PuppetRegistry

open Program

/-! ## Two courses -/

/-- One operation, or two that read alike rows into one slot. -/
inductive Operation.Alike {κ : Type} : Operation κ → Operation κ → Prop
  | same (operation : Operation κ) : Alike operation operation
  | read (slot server : String) {cells cells' : List Cell} (rows : CellsAlike cells cells') :
    Alike (.read slot server cells) (.read slot server cells')

/-- One answer, or puppets that are alike. -/
inductive Answer.Alike : Answer → Answer → Prop
  | same (answer : Answer) : Alike answer answer
  | found {puppet puppet' : Option Puppet} (alike : Option.Rel Puppet.Alike puppet puppet') :
    Alike (.found puppet) (.found puppet')
  | listed {puppets puppets' : List Puppet} (alike : List.Forall₂ Puppet.Alike puppets puppets') :
    Alike (.listed puppets) (.listed puppets')

section

variable {σ κ : Type} {S : σ → σ → Prop}

structure Session.Alike (S : σ → σ → Prop) (x x' : Session σ) : Prop where
  store : S x.store x'.store
  held (slot : String) : Option.Rel Puppet.Alike (x.held slot) (x'.held slot)

structure Turn.Alike (S : σ → σ → Prop) (t t' : Turn σ) : Prop where
  answer : t.answer.Alike t'.answer
  events : t.events = t'.events
  session : t.session.Alike S t'.session

structure Site.Respects (site : Site σ κ) (S : σ → σ → Prop) : Prop where
  handle : site.handle.Respects S
  command (command : κ) {s s' : σ} : S s s' →
    (site.command command s).Alike S (site.command command s')

/-- Alike operations, one after the other from alike sessions, take alike turns. -/
def Site.Hides (site : Site σ κ) (S : σ → σ → Prop) : Prop :=
  ∀ {operations operations' : List (Operation κ)} {x x' : Session σ},
    List.Forall₂ Operation.Alike operations operations' → x.Alike S x' →
      List.Forall₂ (Turn.Alike S) (site.course operations x) (site.course operations' x')

theorem Session.Alike.hold {x x' : Session σ} (alike : x.Alike S x') (slot : String)
    {puppet puppet' : Option Puppet} (puppets : Option.Rel Puppet.Alike puppet puppet') :
    (x.hold slot puppet).Alike S (x'.hold slot puppet') := by
  refine ⟨alike.store, fun s => ?_⟩
  unfold Session.hold
  dsimp only
  split
  · exact puppets
  · exact alike.held s

theorem Session.Alike.holdAll {x x' : Session σ} (alike : x.Alike S x') (slots : List String)
    {puppets puppets' : List Puppet} (each : List.Forall₂ Puppet.Alike puppets puppets') :
    (x.holdAll slots puppets).Alike S (x'.holdAll slots puppets') := by
  induction slots generalizing x x' puppets puppets' with
  | nil => exact alike
  | cons slot slots ih =>
    cases each with
    | nil => exact alike
    | cons first rest => exact ih (alike.hold slot (.some first)) rest

theorem Search.alike (server : String) (search : Search) :
    Program.Alike Eq (Option.Rel Puppet.Alike) (search.program server) (search.program server) := by
  cases search with
  | byId id => exact Lookup.alike_first server _
  | byLink id => exact Lookup.alike_byLink server id
  | find id create => exact Access.alike_find server id create
  | findLinkedTo id => exact Access.alike_findLinkedTo server id

theorem Listing.alike (server : String) (listing : Listing) :
    Program.Alike Eq (List.Forall₂ Puppet.Alike) (listing.program server)
      (listing.program server) := by
  cases listing with
  | storedAll | storedLinked => exact Lookup.alike_every server _
  | all => exact Access.alike_all server
  | linked => exact Access.alike_linked server

theorem Act.alike (act : Act) : Program.Alike Puppet.Alike Eq act.program act.program := by
  cases act with
  | insert server => exact Puppet.alike_insert server
  | update => exact Puppet.alike_update
  | recordActivity second => exact Puppet.alike_recordActivityCell second
  | edit e => exact Access.alike_edit e
  | noteActivity second => exact Access.alike_noteActivity second
  | isLinked =>
    refine alike_record.bind fun p p' alike => ?_
    rw [alike.isLinked]
    exact .done rfl

theorem Answer.alike_of {α : Type} {A : α → α → Prop} {told : α → Answer}
    {result result' : Except Fault α} (agree : Agree A result result')
    (tells : ∀ a a', A a a' → (told a).Alike (told a')) :
    (Answer.of told result).Alike (Answer.of told result') := by
  cases agree with
  | error fault => exact .same _
  | ok related => exact tells _ _ related

theorem Site.alike_read (site : Site σ κ) (slot server : String) {cells cells' : List Cell}
    (rows : CellsAlike cells cells') {x x' : Session σ} (alike : x.Alike S x') :
    (site.step (.read slot server cells) x).Alike S (site.step (.read slot server cells') x') := by
  simp only [step]
  rcases split_rel (alike.held slot) with ⟨left, right⟩ | ⟨p, p', left, right, puppets⟩
  · rw [left, right]
    exact ⟨.same _, rfl, alike⟩
  · rw [left, right]
    obtain ⟨q, e, q', _, reads, reads', read, rfl⟩ := (puppets.readCells server rows).pairs
    dsimp only
    rw [reads, reads']
    cases e with
    | none => exact ⟨.same _, rfl, alike.hold slot (.some read)⟩
    | some error => exact ⟨.same _, rfl, alike.hold slot (.some read)⟩

theorem Site.Respects.ask {α : Type} {A : α → α → Prop} {site : Site σ κ}
    (respects : site.Respects S) {program program' : Program Unit α} {told : α → Answer}
    {keep : α → Session σ → Session σ} (programs : Program.Alike Eq A program program')
    (tells : ∀ a a', A a a' → (told a).Alike (told a'))
    (keeps : ∀ a a', A a a' → ∀ x x', Session.Alike S x x' → (keep a x).Alike S (keep a' x'))
    {x x' : Session σ} (alike : x.Alike S x') :
    (site.ask program told keep x).Alike S (site.ask program' told keep x') := by
  have after := programs.run respects.handle alike.store (rfl : () = ())
  refine ⟨Answer.alike_of after.result tells, after.events, ?_⟩
  have stores : Session.Alike S ⟨_, x.held⟩ ⟨_, x'.held⟩ := ⟨after.store, alike.held⟩
  simp only [Site.ask]
  rcases after.result.split with ⟨fault, left, right⟩ | ⟨a, a', left, right, related⟩
  · rw [left, right]
    exact stores
  · rw [left, right]
    exact keeps a a' related _ _ stores

theorem Site.Respects.step {site : Site σ κ} (respects : site.Respects S)
    {operation operation' : Operation κ} (same : operation.Alike operation') {x x' : Session σ}
    (alike : x.Alike S x') : (site.step operation x).Alike S (site.step operation' x') := by
  cases same with
  | read slot server rows => exact site.alike_read slot server rows alike
  | same =>
    cases operation with
    | new slot => exact ⟨.same _, rfl, alike.hold slot (.some (.refl {}))⟩
    | read slot server cells => exact site.alike_read slot server (.same cells) alike
    | act slot act =>
      simp only [Site.step]
      rcases split_rel (alike.held slot) with ⟨left, right⟩ | ⟨p, p', left, right, puppets⟩
      · rw [left, right]
        exact ⟨.same _, rfl, alike⟩
      · rw [left, right]
        have after := act.alike.run respects.handle alike.store puppets
        refine ⟨Answer.alike_of after.result ?_, after.events, ?_⟩
        · rintro a _ rfl
          exact .same _
        · have stores : Session.Alike S ⟨_, x.held⟩ ⟨_, x'.held⟩ := ⟨after.store, alike.held⟩
          exact stores.hold slot (.some after.record)
    | search slot server search =>
      exact respects.ask (search.alike server) (fun _ _ => .found)
        (fun _ _ puppets _ _ alike => alike.hold slot puppets) alike
    | list slots server listing =>
      exact respects.ask (listing.alike server) (fun _ _ => .listed)
        (fun _ _ puppets _ _ alike => alike.holdAll slots puppets) alike
    | command command =>
      have after := respects.command command alike.store
      refine ⟨?_, after.events, after.world, alike.held⟩
      simp only [Site.step]
      rw [after.exit, after.lines]
      exact .same _

/-- What one operation keeps, operations one after the other keep. -/
theorem Site.Respects.hides {site : Site σ κ} (respects : site.Respects S) : site.Hides S := by
  intro operations operations' x x' each alike
  induction each generalizing x x' with
  | nil => exact .nil
  | cons first _ ih =>
    have turn := respects.step first alike
    exact .cons turn (ih turn.session)

end

/-! ## Sites -/

def Site.onStore {σ : Type} (store : Store σ) (server : String) : Site σ CommandLine.Command where
  handle := store.handle
  command := CommandLine.runOn store server

theorem Site.respects_onStore {σ : Type} {S : σ → σ → Prop} {store : Store σ}
    (respects : store.Respects S) (server : String) : (Site.onStore store server).Respects S where
  handle := respects.handle
  command command _ _ states := CommandLine.alike_runOn respects server command states

def Store.rehearsed (backend : Backend) : Store Server where
  backend := backend
  handle := Server.handle
  init s := (.ok (), [], s)
  close := id

theorem Store.respects_rehearsed (backend : Backend) :
    (Store.rehearsed backend).Respects Server.Alike :=
  ⟨Server.respects, fun alike => ⟨rfl, rfl, alike⟩, id⟩

def Store.onFile (rights : Sqlite.Rights) : Store Sqlite.File where
  backend := .sqlite
  handle := Sqlite.File.handleWith rights
  init f := ((f.initWith rights).1, [], (f.initWith rights).2)
  close := id

theorem Store.respects_onFile (rights : Sqlite.Rights) :
    (Store.onFile rights).Respects Sqlite.File.Alike where
  handle := Sqlite.File.respects rights
  init alike :=
    have both := Sqlite.File.twins_initWith rights alike
    ⟨both.1, rfl, both.2⟩
  close := id

/-- A call of the program, its settings not naming a file as a journal is named. -/
structure Invocation where
  arguments : List String
  env : Environment
  accounts : Accounts := {}
  plain : CommandLine.Plain env accounts

/-- Statements on the disk of a world. -/
def CommandLine.World.handle (h : Handle Disk) : Handle CommandLine.World where
  rows st w := ((h.rows st w.disk).1, { w with disk := (h.rows st w.disk).2 })
  row st w := ((h.row st w.disk).1, { w with disk := (h.row st w.disk).2 })
  execute st w := ((h.execute st w.disk).1, { w with disk := (h.execute st w.disk).2 })

theorem CommandLine.World.respects_handle {h : Handle Disk} (respects : h.Respects Disk.Alike) :
    (CommandLine.World.handle h).Respects CommandLine.World.Alike where
  rows asks worlds :=
    have both := respects.rows asks worlds.disk
    ⟨both.1, both.2, worlds.server⟩
  row asks worlds :=
    have both := respects.row asks worlds.disk
    ⟨both.1, both.2, worlds.server⟩
  execute asks worlds :=
    have both := respects.execute asks worlds.disk
    ⟨both.1, both.2, worlds.server⟩

/-- The statements of an SQLite address, and calls of the program, in one world. -/
def Site.onDisk (address : Sqlite.Address) : Site CommandLine.World Invocation where
  handle := CommandLine.World.handle (Sqlite.handleAt address)
  command call w := CommandLine.run call.arguments call.env w call.accounts

theorem Site.respects_onDisk {address : Sqlite.Address} (plain : address.Plain) :
    (Site.onDisk address).Respects CommandLine.World.Alike := by
  constructor
  · exact CommandLine.World.respects_handle (Sqlite.respects_handleAt plain)
  · intro call w w' worlds
    dsimp only [Site.onDisk]
    exact CommandLine.alike_run call.arguments call.plain worlds

/-- Whatever is done with puppets and rows that differ in the texts of their tokens only, on a
rehearsed server, on one behind a pool, in an SQLite file, or on a disk: nothing else ever
differs. -/
theorem tokens_never_show (server : String) :
    (∀ backend, (Site.onStore (.rehearsed backend) server).Hides Server.Alike) ∧
    (Site.onStore .postgres server).Hides Postgres.Alike ∧
    (∀ rights, (Site.onStore (.onFile rights) server).Hides Sqlite.File.Alike) ∧
    ∀ address : Sqlite.Address, address.Plain →
      (Site.onDisk address).Hides CommandLine.World.Alike := by
  refine ⟨fun backend => ?_, ?_, fun rights => ?_, fun address plain => ?_⟩
  · exact (Site.respects_onStore (Store.respects_rehearsed backend) server).hides
  · exact (Site.respects_onStore Store.respects_postgres server).hides
  · exact (Site.respects_onStore (Store.respects_onFile rights) server).hides
  · exact (Site.respects_onDisk plain).hides

/-! ## Two disks that differ in tokens -/

def bridgeAddress : Sqlite.Address :=
  .ofText "data/bridge.db"

def bridgePlace : Location :=
  ⟨false, 0, ["bridge.db", "data"]⟩

theorem not_isJournal_bridgePlace : ¬ bridgePlace.IsJournal := by
  rintro ⟨name, others, names, ending⟩
  obtain ⟨rfl, _⟩ := List.cons.inj names
  revert ending
  decide

theorem plain_bridgeAddress : bridgeAddress.Plain := by
  have address : bridgeAddress = .file ⟨.here, ["data", "bridge.db"]⟩ {} := by decide +kernel
  rw [address]
  exact not_isJournal_bridgePlace

theorem plain_unset : CommandLine.Plain [] := by
  intro settings known
  have file : (Settings.ofEnvironment []).toOption.map (fun s => s.file.text) =
      some "data/bridge.db" := by decide +kernel
  rw [known] at file
  have text : settings.file.text = "data/bridge.db" := Option.some.inj file
  rw [text]
  exact plain_bridgeAddress

def ada (token batch : String) : Puppet where
  remoteId := ⟨"42", RemoteId.usualServer⟩
  displayname := "Ada"
  linkedUser := "@ada:example.org"
  accessToken := token
  nextBatch := batch

/-- A session on a disk with one linked puppet, nobody being held. -/
def bridgeSession (token batch : String) : Session CommandLine.World where
  store := {
    disk := {
      directories := [⟨false, 0, ["data"]⟩]
      files := [(bridgePlace,
        { written := true
          version := 1
          logged := true
          table := some [Sqlite.storedRow (ada token batch)] })] } }
  held _ := none

/-- A puppet is looked up, listed by the program, unlinked, and shown by the program. -/
def unlinkedInBetween : List (Operation Invocation) :=
  [.search "ada" RemoteId.usualServer (.byId ⟨"42", RemoteId.usualServer⟩),
    .command ⟨["list", "--linked"], [], {}, plain_unset⟩,
    .act "ada" (.edit .unlink),
    .command ⟨["show", "42"], [], {}, plain_unset⟩]

def Answer.shown : Answer → List String
  | found (some p) => [p.accessToken]
  | ended _ lines => lines
  | _ => []

theorem tokens_never_show_unlinked :
    ∃ turns turns',
      turns = (Site.onDisk bridgeAddress).course unlinkedInBetween (bridgeSession "left" "s1") ∧
      turns' = (Site.onDisk bridgeAddress).course unlinkedInBetween (bridgeSession "right" "s2") ∧
      List.Forall₂ (Turn.Alike CommandLine.World.Alike) turns turns' ∧
      turns.map (fun t => t.answer.shown) =
        [["left"],
          ["42@s.whatsapp.net\tname=\x27Ada\x27 quality=0 avatar=- linked=@ada:example.org " ++
            "last_sync=never activity=0..0"],
          [],
          ["42@s.whatsapp.net\tname=\x27Ada\x27 quality=0 avatar=- linked=- " ++
            "last_sync=never activity=0..0"]] ∧
      (turns'.map fun t => t.answer.shown).head? = some ["right"] := by
  have puppets : (ada "left" "s1").Alike (ada "right" "s2") := ⟨"right", "s2", by decide, rfl⟩
  have tables : Sqlite.Table.Alike [Sqlite.storedRow (ada "left" "s1")]
      [Sqlite.storedRow (ada "right" "s2")] := .cons puppets.toRow.stored .nil
  have disks : CommandLine.World.Alike (bridgeSession "left" "s1").store
      (bridgeSession "right" "s2").store := by
    refine ⟨⟨rfl, .cons ⟨rfl, _, .some tables, rfl⟩ .nil, ?_⟩, .nil, rfl, .nil⟩
    intro x mem
    rw [List.mem_singleton.mp mem]
    exact not_isJournal_bridgePlace
  refine ⟨_, _, rfl, rfl, ?_, ?_, ?_⟩
  · exact (tokens_never_show RemoteId.usualServer).2.2.2 bridgeAddress plain_bridgeAddress
      (List.forall₂_same.mpr fun operation _ => .same operation) ⟨disks, fun _ => .none⟩
  · decide +kernel
  · decide +kernel

end PuppetRegistry
