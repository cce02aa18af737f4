import PuppetRegistry.CommandLine.Run

/-!
# The program

Reads its arguments and environment, runs the command, prints what it answers. Stores live in memory
for the length of a run; there is no Postgres server to connect to, and no account whose home
directory could be asked for.
-/

namespace PuppetRegistry

def settingNames : List String :=
  let names := ["DATABASE_BACKEND", "BRIDGE_DATABASE_BACKEND", "SQLITE_PATH", "POSTGRES_DSN",
    "DATABASE_URL", "POSTGRES_POOL_MAX_SIZE", "DEFAULT_USER_SERVER", "LOG_LEVEL", "HOME"]
  names ++ names.map fun name => Environment.byteOrderMark ++ name

def readEnvironment : IO Environment := do
  settingNames.filterMapM fun name => do
    return (← IO.getEnv name).map fun value => (name, value)

def startingWorld : CommandLine.World :=
  { server := { pools := [some ⟨.system, "no server"⟩] } }

end PuppetRegistry

open PuppetRegistry

def main (arguments : List String) : IO UInt32 := do
  let outcome := CommandLine.run arguments (← readEnvironment) startingWorld
  for event in outcome.events do
    IO.eprintln (event.level.name ++ " | " ++ event.message)
  for line in outcome.lines do
    IO.println line
  match outcome.exit with
  | .ok code => return code.toNat.toUInt32
  | .error fault =>
    IO.eprintln fault.message
    return 1
