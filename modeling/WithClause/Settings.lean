import WithClause.Registry.Attach

/-! Settings shared by several runs: definitions, and defaults for the command line. -/
namespace WithClause

inductive OutputFormat where
  | text
  | json
  deriving DecidableEq

/-- A definition in the settings: a name with its SQL, or a text `name AS (expression)`. -/
structure Settings.Entry where
  name : Option String := none
  sql : Option String := none
  definition : Option String := none
  deriving DecidableEq

structure Settings where
  recursive : Bool := false
  logLevel : String := "warn"
  format : OutputFormat := .text
  color : Bool := true
  entries : List Settings.Entry := []
  deriving DecidableEq

namespace Settings

/-- Entries are numbered from one. -/
def Entry.argument (e : Entry) (number : Nat) : Except Error Argument :=
  match e.name, e.sql, e.definition with
  | some name, some sql, none => .ok (.mapping [(name, .raw sql)])
  | none, none, some definition => .ok (.text definition)
  | _, _, _ => .error (.incompleteEntry number)

def arguments (s : Settings) : Except Error (List Argument) :=
  (s.entries.zipIdx 1).mapM fun entry => entry.1.argument entry.2

/-- The definitions of the settings. Without entries nothing is recursive. -/
def registry (s : Settings) : Attempt Registry :=
  if s.entries.isEmpty then return {}
  else do Registry.attach {} (← Attempt.ofExcept s.arguments) s.recursive

end Settings
end WithClause
