import PuppetRegistry.CommandLine.Run
import PuppetRegistry.Proofs.RemoteId
import PuppetRegistry.Proofs.Sqlite.Connections

/-!
# Views of one table

Commands list the puppets of an initialised SQLite file, or the linked ones, or show one of them by
an argument that names a user. Main statement: they agree. Both lists and the single views are made
of one line for each row, and a user is shown alike with and without a server.
-/

namespace PuppetRegistry.CommandLine

open Program Sqlite

variable {σ : Type} {h : Handle σ} {s : σ} {server : String} {t : Table} {puppets : List Puppet}
  {command : Command}

/-! ## Arguments -/

theorem tokenOf_value {u : String} (bare : u.toList.head? ≠ some '-') (spellings : Spellings) :
    tokenOf spellings u = .value u := by
  unfold tokenOf
  split
  · next chars =>
    rw [chars] at bare
    exact absurd rfl bare
  · rfl

theorem parse_show {u : String} (bare : u.toList.head? ≠ some '-') :
    parse ["show", u] = .run (.show u) := by
  have named : tokenOf helpSpellings "show" = .value "show" := rfl
  have given : tokens helpSpellings [u] = [.value u] := by
    rw [tokens, tokenOf_value bare]
    rfl
  simp only [parse, named, parseCommand, reader?, given]
  rfl

theorem parse_list : parse ["list"] = .run (.list false) := by
  decide

theorem parse_list_linked : parse ["list", "--linked"] = .run (.list true) := by
  decide

/-! ## Answers -/

def lineOf (server : String) (r : Row) : String :=
  ((Puppet.ofCells server r.cells).toOption.map Puppet.summary).getD ""

theorem lineOf_eq {r : Row} {p : Puppet} (reads : r.ReadsAs server p) :
    lineOf server r = p.summary := by
  rw [lineOf, Puppet.ofCells_eq_ok_iff.mpr reads]
  rfl

theorem map_summary_eq (read : ReadAs server t puppets) :
    puppets.map Puppet.summary = t.map (lineOf server) := by
  induction read with
  | nil => rfl
  | cons first _ ih => rw [List.map_cons, List.map_cons, ih, lineOf_eq first]

theorem result_list (serves : Serves h s t) (read : ReadAs server t puppets) :
    ((answer server (.list false)).run h s ()).result = .ok (0, t.map (lineOf server)) := by
  have listed : (Access.all server).run h s () =
      ⟨.ok puppets, (h.rows .selectAll s).2, (), []⟩ := by
    rw [Access.all, run_onStoreError, serves.all read]
    rfl
  rw [answer, if_neg Bool.false_ne_true, bind_eq, run_bind, listed, ← map_summary_eq read]
  rfl

theorem result_list_linked (serves : Serves h s t) (read : ReadAs server t puppets) :
    ((answer server (.list true)).run h s ()).result =
      .ok (0, (t.filter Table.isLinked).map (lineOf server)) := by
  have listed : (Access.linked server).run h s () =
      ⟨.ok (puppets.filter Puppet.isLinked), (h.rows .selectLinked s).2, (), []⟩ := by
    rw [Access.linked, run_onStoreError, serves.linked read]
    rfl
  rw [answer, if_pos rfl, bind_eq, run_bind, listed,
    ← map_summary_eq (read.filter fun _ _ _ => isLinked_eq)]
  rfl

def idOf (server argument : String) : RemoteId :=
  if (RemoteId.parse argument).user.isEmpty then ⟨argument, server⟩ else RemoteId.parse argument

/-- What is printed of a puppet that was looked for. -/
def shown (id : RemoteId) : Option Puppet → Int × List String
  | none => (1, ["No puppet for " ++ id.text])
  | some p => (0, [p.summary])

theorem result_show {argument : String} (found : Option Puppet)
    (ends : ((Access.find server (idOf server argument) false).run h s ()).result = .ok found) :
    ((answer server (.show argument)).run h s ()).result =
      .ok (shown (idOf server argument) found) := by
  have shows : answer server (.show argument) =
      (Access.find server (idOf server argument) false).bind fun found =>
        match found with
        | none => done ((1 : Int), ["No puppet for " ++ (idOf server argument).text])
        | some p => done (0, [p.summary]) := rfl
  rw [shows, run_bind, Run.andThen, ends]
  cases found <;> rfl

theorem row_selectUser (serves : Serves h s t) (user : String) :
    h.row (.selectUser user) s =
      (.ok ((t.rowsOf user).head?.map Row.cells), (h.row (.selectUser user) s).2) := by
  refine Prod.ext ?_ rfl
  rw [serves.row rfl, readRows, List.head?_map]
  rfl

theorem result_show_found (serves : Serves h s t) (keyed : t.Keyed) {argument : String} {r : Row}
    (mem : r ∈ t) (own : r.user = .text (idOf server argument).user) {p : Puppet}
    (reads : r.ReadsAs server p) :
    ((answer server (.show argument)).run h s ()).result = .ok (0, [p.summary]) := by
  have replied := row_selectUser serves (idOf server argument).user
  rw [keyed.rowsOf_eq mem own] at replied
  refine result_show (some p) ?_
  rw [Access.run_find_found replied (Access.decode_eq_ok_iff.mpr reads)]

theorem result_show_absent (serves : Serves h s t) {argument : String}
    (absent : ∀ r ∈ t, r.user ≠ .text (idOf server argument).user) :
    ((answer server (.show argument)).run h s ()).result =
      .ok (1, ["No puppet for " ++ (idOf server argument).text]) := by
  have replied := row_selectUser serves (idOf server argument).user
  have nobody : t.rowsOf (idOf server argument).user = [] := by
    rw [Table.rowsOf, List.filter_eq_nil_iff]
    exact fun r mem own => absent r mem (Table.ofUser_text_iff.mp own)
  rw [nobody] at replied
  have ends : ∃ events, (Access.find server (idOf server argument) false).run h s () =
      ⟨.ok none, _, (), events⟩ :=
    Access.run_find_absent replied fun creates => absurd creates Bool.false_ne_true
  obtain ⟨events, done⟩ := ends
  refine result_show none ?_
  rw [done]

theorem idOf_bare {u : String} (server : String) (plain : '@' ∉ u.toList) :
    idOf server u = ⟨u, server⟩ := by
  rw [idOf, RemoteId.user_parse_eq_empty plain]
  rfl

theorem user_idOf_suffixed {u : String} (server : String) (plain : RemoteId.PlainUser u)
    (s : String) : (idOf server (u ++ "@" ++ s)).user = u := by
  rw [idOf, RemoteId.user_parse_suffixed plain]
  split
  · next empty =>
    obtain ⟨c, head, _⟩ := plain.start
    rw [String.isEmpty_iff.mp empty] at head
    cases head
  · exact RemoteId.user_parse_suffixed plain s

/-! ## Commands -/

/-- A command comes to an end with an exit code, and has printed some lines. -/
def Outcome.Prints (o : Outcome σ) (exit : Int) (lines : List String) : Prop :=
  o.exit = .ok exit ∧ o.lines = lines

theorem prints_runOn {store : Store σ} {events : List Event} {s s' : σ} {exit : Int}
    {lines : List String} (prepared : store.init s = (.ok (), events, s'))
    (answered : ((answer server command).run store.handle s' ()).result = .ok (exit, lines)) :
    (runOn store server command s).Prints exit lines := by
  unfold runOn
  rw [prepared]
  dsimp only
  rw [answered]
  exact ⟨rfl, rfl⟩

/-- Commands work on an SQLite file: the settings can be used, and the directory of the file can be
made. -/
structure Configured (env : Environment) (accounts : Accounts) (w : World) (settings : Settings)
    (d : Disk) : Prop where
  read : Settings.ofEnvironment env accounts = .ok settings
  valid : settings.check = .ok ()
  level : ∃ threshold, Log.threshold settings.level = .ok threshold
  target : settings.target w.disk = (.ok (.sqlite settings.file), d)

section Run

variable {env : Environment} {accounts : Accounts} {w : World} {settings : Settings} {d : Disk}
  {path : Path} {opening : Opening} {f : File} {r : Row} {argument u : String}
  (configured : Configured env accounts w settings d)
  (address : Address.ofText settings.file.text = .file path opening)
  (prepared : Prepared d path opening f t)

include configured address prepared

/-- A command on a file that has been initialised prints what it answers. -/
theorem prints_run {arguments : List String} (parsed : parse arguments = .run command) {exit : Int}
    {lines : List String}
    (answers : ∀ {h : Handle Disk} {d : Disk}, Serves h d t →
      ((answer settings.userServer command).run h d ()).result = .ok (exit, lines)) :
    (run arguments env w accounts).Prints exit lines := by
  obtain ⟨d', initialised, finds⟩ := prepared.init
  have serves := finds.serves prepared.initialised.open_eq
  have ready : (Store.sqlite (.file path opening)).init d = (.ok (), [], d') := by
    simp only [Store.sqlite, initialised]
  obtain ⟨threshold, level⟩ := configured.level
  have done := prints_runOn ready (answers serves)
  simp only [run, parsed, configured.read, configured.valid, level, runWith, configured.target,
    address]
  exact done

theorem prints_show_found (keyed : t.Keyed) (bare : argument.toList.head? ≠ some '-')
    (names : (idOf settings.userServer argument).user = u) (mem : r ∈ t) (own : r.user = .text u)
    (decodes : ∃ p, Puppet.ofCells settings.userServer r.cells = .ok p) :
    (run ["show", argument] env w accounts).Prints 0 [lineOf settings.userServer r] := by
  obtain ⟨p, decoded⟩ := decodes
  have reads := Puppet.ofCells_eq_ok_iff.mp decoded
  have own' := own.trans (congrArg Cell.text names.symm)
  rw [lineOf_eq reads]
  exact prints_run configured address prepared (parse_show bare) fun serves =>
    result_show_found serves keyed mem own' reads

theorem prints_show_absent (bare : argument.toList.head? ≠ some '-')
    (names : (idOf settings.userServer argument).user = u) (nobody : ∀ r ∈ t, r.user ≠ .text u) :
    (run ["show", argument] env w accounts).Prints 1
      ["No puppet for " ++ (idOf settings.userServer argument).text] :=
  prints_run configured address prepared (parse_show bare) fun serves =>
    result_show_absent serves fun r mem own =>
      nobody r mem (own.trans (congrArg Cell.text names))

end Run

/-- The lists and the single views of an initialised SQLite file agree. A list has one line for each
row, and the list of linked puppets those of the rows with a link. A user is shown by the line of
his row, if he has one, and so he is with anything behind an at sign. -/
theorem views_agree {env : Environment} {accounts : Accounts} {w : World} {settings : Settings}
    {d : Disk} {path : Path} {opening : Opening} {f : File}
    (configured : Configured env accounts w settings d)
    (address : Address.ofText settings.file.text = .file path opening)
    (prepared : Prepared d path opening f t) (keyed : t.Keyed)
    (decodes : ∀ r ∈ t, ∃ p, Puppet.ofCells settings.userServer r.cells = .ok p) :
    ∃ line : Row → String,
      (∀ r ∈ t, ∃ p, Puppet.ofCells settings.userServer r.cells = .ok p ∧ line r = p.summary) ∧
      (run ["list"] env w accounts).Prints 0 (t.map line) ∧
      (run ["list", "--linked"] env w accounts).Prints 0 ((t.filter Table.isLinked).map line) ∧
      (∀ u : String, '@' ∉ u.toList → u.toList.head? ≠ some '-' →
        (∀ r ∈ t, r.user = .text u → (run ["show", u] env w accounts).Prints 0 [line r]) ∧
        ((∀ r ∈ t, r.user ≠ .text u) → (run ["show", u] env w accounts).Prints 1
          ["No puppet for " ++ (⟨u, settings.userServer⟩ : RemoteId).text])) ∧
      ∀ u s : String, RemoteId.PlainUser u → u.toList.head? ≠ some '-' →
        (run ["show", u ++ "@" ++ s] env w accounts).exit = (run ["show", u] env w accounts).exit ∧
        ((run ["show", u] env w accounts).exit = .ok 0 →
          (run ["show", u ++ "@" ++ s] env w accounts).lines =
            (run ["show", u] env w accounts).lines) := by
  obtain ⟨puppets, read⟩ := exists_readAs decodes
  refine ⟨lineOf settings.userServer, fun r mem => ?_, ?_, ?_, fun u plain bare => ?_,
    fun u s plain bare => ?_⟩
  · obtain ⟨p, decoded⟩ := decodes r mem
    exact ⟨p, decoded, lineOf_eq (Puppet.ofCells_eq_ok_iff.mp decoded)⟩
  · exact prints_run configured address prepared parse_list fun serves => result_list serves read
  · exact prints_run configured address prepared parse_list_linked fun serves =>
      result_list_linked serves read
  · have id := idOf_bare settings.userServer plain
    have names := congrArg RemoteId.user id
    refine ⟨fun r mem own => ?_, fun nobody => ?_⟩
    · exact prints_show_found configured address prepared keyed bare names mem own (decodes r mem)
    · have shows := prints_show_absent configured address prepared bare names nobody
      rwa [id] at shows
  · have names := congrArg RemoteId.user (idOf_bare settings.userServer plain.unmarked.1)
    have names' := user_idOf_suffixed settings.userServer plain s
    have bare' : (u ++ "@" ++ s).toList.head? ≠ some '-' := by
      obtain ⟨c, head, _⟩ := plain.start
      rw [String.toList_append, String.toList_append, List.append_assoc, List.head?_append, head]
      rw [head] at bare
      exact bare
    by_cases held : ∃ r ∈ t, r.user = .text u
    · obtain ⟨r, mem, own⟩ := held
      have decoded := decodes r mem
      have shows := prints_show_found configured address prepared keyed bare names mem own decoded
      have shows' :=
        prints_show_found configured address prepared keyed bare' names' mem own decoded
      exact ⟨shows'.1.trans shows.1.symm, fun _ => shows'.2.trans shows.2.symm⟩
    · have nobody : ∀ r ∈ t, r.user ≠ .text u := fun r mem own => held ⟨r, mem, own⟩
      have shows := prints_show_absent configured address prepared bare names nobody
      have shows' := prints_show_absent configured address prepared bare' names' nobody
      refine ⟨shows'.1.trans shows.1.symm, fun zero => ?_⟩
      rw [shows.1] at zero
      cases zero

/-- Two puppets, of which one is linked, in the file that is used if nothing is set. -/
def visitors : Table :=
  [linkRow "ada" (.text "@eve:local.example"), linkRow "bea" .null]

def visitorsFile : File where
  written := true
  version := Fault.currentSchema
  table := some visitors
  logged := true

def visitorsDisk : Disk where
  directories := [⟨false, 0, ["data"]⟩]
  files := [(⟨false, 0, ["bridge.db", "data"]⟩, visitorsFile)]

def unset : Settings where
  backend := "sqlite"
  file := .ofText "data/bridge.db"
  dsn := ""
  poolSize := 6
  userServer := RemoteId.usualServer
  level := "INFO"

theorem views_agree_visitors :
    ∃ ada bea : String,
      (run ["list"] [] { disk := visitorsDisk }).Prints 0 [ada, bea] ∧
      (run ["list", "--linked"] [] { disk := visitorsDisk }).Prints 0 [ada] ∧
      (run ["show", "bea"] [] { disk := visitorsDisk }).Prints 0 [bea] ∧
      (run ["show", "bea@elsewhere.example"] [] { disk := visitorsDisk }).Prints 0 [bea] ∧
      (run ["show", "eve"] [] { disk := visitorsDisk }).Prints 1
        ["No puppet for eve@s.whatsapp.net"] := by
  have configured : Configured [] {} { disk := visitorsDisk } unset visitorsDisk :=
    ⟨by decide +kernel, by decide +kernel, ⟨_, rfl⟩, by rfl⟩
  have prepared : Prepared visitorsDisk (.ofText "data/bridge.db") {} visitorsFile visitors := by
    have opens : Opens visitorsDisk (.ofText "data/bridge.db") {} visitorsFile :=
      ⟨by decide +kernel, by decide +kernel, rfl, by decide +kernel, by decide +kernel, .inl rfl⟩
    exact ⟨⟨opens, _, _, rfl⟩, ⟨rfl, rfl, rfl, rfl, .inl rfl⟩, .inl rfl, ⟨_, rfl⟩, nofun⟩
  have keyed : visitors.Keyed := fun c _ =>
    List.nodup_iff_count_le_one.mp (by decide : (visitors.map Row.user).Nodup) c
  have decodes : ∀ r ∈ visitors, ∃ p, Puppet.ofCells unset.userServer r.cells = .ok p := by
    intro r mem
    simp only [visitors, List.mem_cons, List.not_mem_nil, or_false] at mem
    obtain rfl | rfl := mem
    · exact ⟨_, rfl⟩
    · exact ⟨_, rfl⟩
  have plain : RemoteId.PlainUser "bea" := ⟨⟨'b', rfl, by decide⟩, by decide⟩
  have nobody : ∀ r ∈ visitors, r.user ≠ .text "eve" := by decide
  obtain ⟨line, -, list, linked, shown, suffixed⟩ :=
    views_agree configured rfl prepared keyed decodes
  have bea := (shown "bea" (by decide) (by decide)).1 _ (List.mem_of_getElem? (i := 1) rfl) rfl
  obtain ⟨exit, lines⟩ := suffixed "bea" "elsewhere.example" plain (by decide)
  exact ⟨_, _, list, linked, bea, ⟨exit.trans bea.1, (lines bea.1).trans bea.2⟩,
    (shown "eve" (by decide) (by decide)).2 nobody⟩

end PuppetRegistry.CommandLine
