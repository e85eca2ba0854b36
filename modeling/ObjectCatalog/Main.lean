import ObjectCatalog.Preflight
import ObjectCatalog.Settings.EnvFile

/-!
# The command line

Reads the environment and the environment file of the working directory, runs the preflight check
and prints its report.
-/

namespace ObjectCatalog.CommandLine

def checkedVariables : List String :=
  ["DATABASE_URL", "TABLE_PREFIX", "DB_ENGINE", "DB_CHARSET", "DB_COLLATE", "DB_MAX_CONNECTIONS"]

def environment : IO Environment :=
  checkedVariables.foldlM (fun env name => do
    match ← IO.getEnv name with
    | some value => pure (env.insert name value)
    | none => pure env) ∅

/-- The environment file, or no text if there is none. -/
def environmentFile : IO String := do
  try IO.FS.readFile ".env" catch _ => pure ""

end ObjectCatalog.CommandLine

open ObjectCatalog in
/-- Runs the preflight check and exits with its code. -/
def main (args : List String) : IO UInt32 := do
  let env ← CommandLine.environment
  let file ← CommandLine.environmentFile
  let report := Preflight.run args (EnvFile.load env file)
  IO.print report.output
  if report.complaint != "" then IO.eprintln report.complaint
  if report.exit == 2 then IO.eprint Preflight.usageDetails
  pure report.exit.toUInt32
