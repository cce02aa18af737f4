import PuppetRegistry.Numeral
import PuppetRegistry.Path
import PuppetRegistry.RemoteId
import PuppetRegistry.Text.Case

/-!
# Settings

Settings come from environment variables. A variable may also be given by a second name, and by
either name after a byte order mark; the first of these that is set counts, even when it is blank. A
blank value, or a number that cannot be read, gives way to the default.
-/

namespace PuppetRegistry

abbrev Environment := List (String × String)

namespace Environment

def get? (env : Environment) (name : String) : Option String :=
  env.lookup name

/-- The byte order mark that some editors leave in front of the first name. -/
def byteOrderMark : String := "\ufeff"

def find? (env : Environment) (names : List String) : Option String :=
  (names.flatMap fun name => [name, byteOrderMark ++ name]).findSome? env.get?

def text (env : Environment) (names : List String) (default : String) : String :=
  let value := Text.trim ((env.find? names).getD "")
  if value.isEmpty then default else value

def number (env : Environment) (names : List String) (default : Int) : Int :=
  match env.find? names with
  | none => default
  | some raw => (Numeral.read (Text.trim raw)).toOption.getD default

end Environment

inductive SettingsError
  | unknownBackend
  | dsnMissing
  | poolTooSmall
  | notAServer
  | dsnBlank
  | homeless
  deriving DecidableEq, Repr

def SettingsError.message : SettingsError → String
  | unknownBackend => "DATABASE_BACKEND must be \x27sqlite\x27 or \x27postgres\x27"
  | dsnMissing => "POSTGRES_DSN is required when DATABASE_BACKEND=postgres"
  | poolTooSmall => "POSTGRES_POOL_MAX_SIZE must be >= 1"
  | notAServer => "DEFAULT_USER_SERVER must be a bare server name"
  | dsnBlank => "POSTGRES_DSN cannot be empty"
  | homeless => "Could not determine home directory."

structure Settings where
  backend : String
  file : Path
  dsn : String
  poolSize : Int
  userServer : String
  level : String
  deriving DecidableEq, Repr

namespace Settings

def ofEnvironment (env : Environment) (accounts : Accounts := {}) :
    Except SettingsError Settings :=
  let path := Path.ofText (env.text ["SQLITE_PATH"] "./data/bridge.db")
  match path.expandHome (env.get? "HOME") accounts with
  | none => .error .homeless
  | some path =>
    .ok {
      backend :=
        Text.lower (env.text ["DATABASE_BACKEND", "BRIDGE_DATABASE_BACKEND"] "sqlite")
      file := path
      dsn := env.text ["POSTGRES_DSN", "DATABASE_URL"] ""
      poolSize := env.number ["POSTGRES_POOL_MAX_SIZE"] 6
      userServer := env.text ["DEFAULT_USER_SERVER"] RemoteId.usualServer
      level := Text.upper (env.text ["LOG_LEVEL"] "INFO") }

/-- Whether settings can be used; if not, the first reason. -/
def check (s : Settings) : Except SettingsError Unit :=
  if s.backend ≠ "sqlite" ∧ s.backend ≠ "postgres" then .error .unknownBackend
  else if s.backend = "postgres" ∧ s.dsn.isEmpty then .error .dsnMissing
  else if s.poolSize < 1 then .error .poolTooSmall
  else if s.userServer.isEmpty || s.userServer.toList.contains '@' then
    .error .notAServer
  else .ok ()

/-- The milliseconds for which a statement waits for a lock: five seconds unless another number is
set, a minute at most. -/
def busyTimeout (value : Option String) : Int :=
  let wait := (Numeral.read (Text.trim (value.getD "5000"))).toOption.getD 5000
  max 0 (min wait 60000)

end Settings

end PuppetRegistry
