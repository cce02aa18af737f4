import PuppetRegistry.CommandLine.Run
import PuppetRegistry.Proofs.Path
import PuppetRegistry.Proofs.RemoteId

/-!
# Settings that are accepted

Settings that were read are trimmed, and are checked before they are used. Main statement: what is
accepted names a store, which has the values of the settings as they are, and a server whose users
are read as they are written.
-/

namespace PuppetRegistry

namespace Environment

variable {env : Environment} {names : List String} {default value : String}

def NulFree (env : Environment) : Prop :=
  ∀ entry ∈ env, '\x00' ∉ entry.2.toList

theorem NulFree.get? {name : String} (free : env.NulFree) (found : env.get? name = some value) :
    '\x00' ∉ value.toList := by
  obtain ⟨before, after, made, _⟩ := List.lookup_eq_some_iff.mp found
  exact free (name, value) (by simp [made])

theorem NulFree.find? (free : env.NulFree) (found : env.find? names = some value) :
    '\x00' ∉ value.toList := by
  obtain ⟨name, _, given⟩ := List.exists_of_findSome?_eq_some found
  exact free.get? given

theorem text_cases (env : Environment) (names : List String) (default : String) :
    env.text names default = default ∨
      ∃ value, env.find? names = some value ∧ env.text names default = Text.trim value := by
  unfold text
  cases found : env.find? names with
  | none => exact .inl (if_pos rfl)
  | some value =>
    dsimp only
    split
    · exact .inl rfl
    · exact .inr ⟨value, rfl, rfl⟩

theorem trim_text (env : Environment) (names : List String) (trimmed : Text.trim default = default) :
    Text.trim (env.text names default) = env.text names default := by
  obtain same | ⟨value, _, same⟩ := env.text_cases names default
  · rw [same, trimmed]
  · rw [same, Text.trim_trim]

theorem NulFree.text (free : env.NulFree) (clear : '\x00' ∉ default.toList) :
    '\x00' ∉ (env.text names default).toList := by
  obtain same | ⟨value, found, same⟩ := env.text_cases names default
  · rwa [same]
  · rw [same, Text.trim, String.toList_ofList]
    intro inside
    exact free.find? found ((Text.trimChars_sublist _).subset inside)

end Environment

/-- A value that was given is to blame: a setting, or a path with a zero character. -/
inductive CommandFault.OfValue : CommandFault → Prop
  | settings (error : SettingsError) : OfValue (.settings error)
  | log (refusal : Log.Refusal) : OfValue (.log refusal)
  | path (p : Path) : OfValue (.disk ⟨.embeddedNull, p⟩)

namespace Settings

variable {env : Environment} {accounts : Accounts} {s : Settings} {d d' : Disk}

/-- What is known of settings that were read. -/
structure Tidy (env : Environment) (s : Settings) : Prop where
  dsn : Text.trim s.dsn = s.dsn
  userServer : Text.trim s.userServer = s.userServer
  file : env.NulFree → s.file.NulFree

theorem tidy_of_ofEnvironment (read : ofEnvironment env accounts = .ok s) : s.Tidy env := by
  unfold ofEnvironment at read
  dsimp only at read
  split at read
  · cases read
  · next path expanded =>
    rw [Except.ok.injEq] at read
    subst read
    have blank : Text.trim "" = "" := by decide
    have usual : Text.trim RemoteId.usualServer = RemoteId.usualServer := by decide
    constructor <;> dsimp only
    · exact env.trim_text ["POSTGRES_DSN", "DATABASE_URL"] blank
    · exact env.trim_text ["DEFAULT_USER_SERVER"] usual
    intro free
    have clear : ∀ text ∈ env.get? "HOME", '\x00' ∉ text.toList := fun _ home => free.get? home
    exact (Path.nulFree_ofText (free.text (by decide))).expandHome clear expanded

structure Accepted (s : Settings) : Prop where
  backend : s.backend = "sqlite" ∨ s.backend = "postgres"
  dsn : s.backend = "postgres" → s.dsn ≠ ""
  poolSize : 1 ≤ s.poolSize
  named : s.userServer ≠ ""
  unmarked : '@' ∉ s.userServer.toList

theorem accepted_of_check (accepted : s.check = .ok ()) : s.Accepted := by
  unfold check at accepted
  split at accepted
  · cases accepted
  split at accepted
  · cases accepted
  split at accepted
  · cases accepted
  split at accepted
  · cases accepted
  next known dsn size server =>
  simp only [Bool.or_eq_true, String.isEmpty_iff, List.contains_iff_mem, not_or] at server
  refine ⟨?_, ?_, by omega, server.1, server.2⟩
  · by_cases file : s.backend = "sqlite"
    · exact .inl file
    · by_cases remote : s.backend = "postgres"
      · exact .inr remote
      · exact absurd ⟨file, remote⟩ known
  · rintro remote empty
    exact dsn ⟨remote, by rw [empty]; rfl⟩

theorem make?_of_trimmed {dsn : String} {size : Int} (trimmed : Text.trim dsn = dsn)
    (some_dsn : dsn ≠ "") (positive : 1 ≤ size) :
    Postgres.Address.make? dsn Postgres.defaultMinSize size = some ⟨dsn, 1, size⟩ := by
  have whole : ¬ dsn.isEmpty = true := by rwa [String.isEmpty_iff]
  have least : max 0 Postgres.defaultMinSize = 1 := rfl
  have most : max (max 1 size) 1 = size := by omega
  simp only [Postgres.Address.make?, trimmed, if_neg whole, least, most]

theorem target_postgres (remote : s.backend = "postgres") (trimmed : Text.trim s.dsn = s.dsn)
    (some_dsn : s.dsn ≠ "") (positive : 1 ≤ s.poolSize) (d : Disk) :
    s.target d = (.ok (.postgres ⟨s.dsn, 1, s.poolSize⟩), d) := by
  have other : ¬ s.backend = "sqlite" := by rw [remote]; decide
  have known : ¬ s.backend ≠ "postgres" := not_not_intro remote
  have whole : ¬ s.dsn.isEmpty = true := by rwa [String.isEmpty_iff]
  rw [target, if_neg other, if_neg known, if_neg whole, make?_of_trimmed trimmed some_dsn positive]

theorem target_sqlite (file : s.backend = "sqlite") {l : Location}
    (made : d.makeDirectories s.file.parent Disk.depthLimit = (.ok l, d')) :
    s.target d = (.ok (.sqlite s.file), d') := by
  rw [target, if_pos file, made]

/-- Only the disk can refuse an accepted file. -/
theorem target_sqlite_error (file : s.backend = "sqlite") {fault : CommandFault}
    (failed : (s.target d).1 = .error fault) :
    ∃ e, (d.makeDirectories s.file.parent Disk.depthLimit).1 = .error e ∧ fault = .disk e := by
  rw [target, if_pos file] at failed
  split at failed
  · cases failed
  · next e _ refused =>
    cases failed
    exact ⟨e, congrArg Prod.fst refused, rfl⟩

/-- Settings that were read from an environment without zero characters and accepted name a store,
and no value that they hold is refused on the way: the address and pool size of a server are those
of the settings, and so is the path of a file if its directory can be created. The server of users
is a name that can stand behind an at sign, so that any plain user on it is read as written. -/
theorem accepted_settings_name_store {env : Environment} {accounts : Accounts} {s : Settings}
    (free : env.NulFree) (read : ofEnvironment env accounts = .ok s) (accepted : s.check = .ok ()) :
    (∀ d fault, (s.target d).1 = .error fault → ¬ fault.OfValue) ∧
    (s.backend = "postgres" ∧ (∀ d, s.target d = (.ok (.postgres ⟨s.dsn, 1, s.poolSize⟩), d)) ∨
      s.backend = "sqlite" ∧ (∀ d l d',
        d.makeDirectories s.file.parent Disk.depthLimit = (.ok l, d') →
          s.target d = (.ok (.sqlite s.file), d'))) ∧
    (s.userServer ≠ "" ∧ '@' ∉ s.userServer.toList ∧ Text.trim s.userServer = s.userServer) ∧
    ∀ user, RemoteId.PlainUser user →
      RemoteId.parse (RemoteId.text ⟨user, s.userServer⟩) = ⟨user, s.userServer⟩ := by
  have tidy := tidy_of_ofEnvironment read
  have good := accepted_of_check accepted
  have postgres (remote : s.backend = "postgres") (d : Disk) :=
    target_postgres remote tidy.dsn (good.dsn remote) good.poolSize d
  refine ⟨?_, ?_, ⟨good.named, good.unmarked, tidy.userServer⟩, ?_⟩
  · intro d fault failed blamed
    obtain file | remote := good.backend
    · obtain ⟨e, refused, rfl⟩ := target_sqlite_error file failed
      cases blamed
      exact Disk.obstacle_of_makeDirectories (tidy.file free).parent refused rfl
    · rw [postgres remote d] at failed
      cases failed
  · obtain file | remote := good.backend
    · exact .inr ⟨file, fun d l d' made => target_sqlite file made⟩
    · exact .inl ⟨remote, postgres remote⟩
  · intro user plain
    have kept : Text.trimChars s.userServer.toList = s.userServer.toList := by
      simpa only [Text.trim, String.toList_ofList] using congrArg String.toList tidy.userServer
    exact (RemoteId.Canonical.user plain (Text.trimChars_eq_self_iff.mp kept).2).parse_text

/-- The names that are used last, marks in front of them, and blanks of many kinds around values. -/
def oddEnvironment : Environment :=
  [("\ufeffBRIDGE_DATABASE_BACKEND", " PostgreS\n"), ("DATABASE_URL", "\u00a0postgres://db\u2003"),
    ("POSTGRES_POOL_MAX_SIZE", "\u3000+1_2 "), ("\ufeffDEFAULT_USER_SERVER", "\u0085remote.example\t")]

def oddSettings : Settings where
  backend := "postgres"
  file := .ofText "data/bridge.db"
  dsn := "postgres://db"
  poolSize := 12
  userServer := "remote.example"
  level := "INFO"

def nestedEnvironment : Environment :=
  [("SQLITE_PATH", "\n./nested//bridge.db ")]

def nestedSettings : Settings where
  backend := "sqlite"
  file := ⟨.here, ["nested", "bridge.db"]⟩
  dsn := ""
  poolSize := 6
  userServer := RemoteId.usualServer
  level := "INFO"

theorem accepted_settings_name_store_odd :
    (oddEnvironment.NulFree ∧ ofEnvironment oddEnvironment = .ok oddSettings ∧
      oddSettings.check = .ok () ∧
      (∀ d, oddSettings.target d = (.ok (.postgres ⟨"postgres://db", 1, 12⟩), d)) ∧
      RemoteId.parse "ada@remote.example" = ⟨"ada", "remote.example"⟩) ∧
    nestedEnvironment.NulFree ∧ ofEnvironment nestedEnvironment = .ok nestedSettings ∧
      nestedSettings.check = .ok () ∧
      nestedSettings.target {} = (.ok (.sqlite ⟨.here, ["nested", "bridge.db"]⟩),
        { directories := [⟨false, 0, ["nested"]⟩] }) := by
  have free : oddEnvironment.NulFree := by
    unfold Environment.NulFree
    decide
  have read : ofEnvironment oddEnvironment = .ok oddSettings := by decide +kernel
  have accepted : oddSettings.check = .ok () := by decide
  have nestedFree : nestedEnvironment.NulFree := by
    unfold Environment.NulFree
    decide
  have nestedRead : ofEnvironment nestedEnvironment = .ok nestedSettings := by decide +kernel
  have nestedAccepted : nestedSettings.check = .ok () := by decide
  obtain ⟨-, ⟨-, named⟩ | ⟨file, -⟩, -, users⟩ := accepted_settings_name_store free read accepted
  · obtain ⟨-, ⟨remote, -⟩ | ⟨-, named'⟩, -, -⟩ :=
      accepted_settings_name_store nestedFree nestedRead nestedAccepted
    · exact absurd remote (by decide)
    · exact ⟨⟨free, read, accepted, named, users "ada" ⟨⟨'a', rfl, by decide⟩, by decide⟩⟩,
        nestedFree, nestedRead, nestedAccepted, named' _ ⟨false, 0, ["nested"]⟩ _ rfl⟩
  · exact absurd file (by decide)

end Settings

end PuppetRegistry
