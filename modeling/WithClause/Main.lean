import WithClause.CommandLine.LogLine
import WithClause.CommandLine.Run

/-! The program: arguments, environment and files in, output, error output and exit code out. -/
namespace WithClause.Program

/-- The system's number of a fault, which some calls report negated. -/
def faultNumber (code : UInt32) : Nat := min code.toNat (-code).toNat

def fileFault : IO.Error → FileFault
  | .noFileOrDirectory .. => .notFound
  | .permissionDenied .. => .permissionDenied
  | .inappropriateType _ code _ =>
    if faultNumber code = 21 then .isDirectory else .notDirectory
  | e@(.invalidArgument _ code _) =>
    if faultNumber code = 36 then .nameTooLong else .other e.toString
  | e => .other e.toString

def readFile (path : String) : IO (Except FileFault ByteArray) := do
  match ← (IO.FS.readBinFile path).toBaseIO with
  | .ok bytes => return .ok bytes
  | .error e => return .error (fileFault e)

def environmentNames : List String :=
  ["CLICOLOR_FORCE", "HOME", "QAIL_CTE_CONFIG", "QAIL_CTE_LOG", "XDG_CONFIG_HOME"]

def environment : IO (List (String × String)) := do
  return (← environmentNames.mapM fun name => do
    return (← IO.getEnv name).map fun value => (name, value)).filterMap id

end WithClause.Program

open WithClause Program in
def main (arguments : List String) : IO UInt32 := do
  let outcome ← CommandLine.execute readFile (← environment) arguments
  for event in outcome.events do
    IO.eprintln (CommandLine.LogLine.text event)
  IO.print outcome.output
  IO.eprint outcome.errors
  return outcome.exit
