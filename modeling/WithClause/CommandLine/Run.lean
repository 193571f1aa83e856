import WithClause.CommandLine.Filter
import WithClause.CommandLine.Help
import WithClause.Settings.Load

/-! Running a command on settings that have been loaded. -/
namespace WithClause.CommandLine

/-- Why a command fails. -/
inductive Failure where
  /-- The settings cannot be loaded. -/
  | loading (cause : Error)
  /-- The settings declare something that is refused. -/
  | settings (cause : Error)
  | declaration (cause : Error)
  | conflicting (names : List String)
  deriving DecidableEq

namespace Failure

/-- An error with the errors that caused it. -/
def causes (e : Error) : String :=
  match e with
  | .unreadableFile fault => e.message ++ ": " ++ fault.message
  | _ => e.message

def message : Failure → String
  | loading cause => "failed to load config: " ++ causes cause
  | settings cause => "invalid CTE in config: " ++ causes cause
  | declaration cause => causes cause
  | conflicting names =>
    names.length.repr ++ " CTE name(s) declared with different bodies: "
      ++ ", ".intercalate names

end Failure

abbrev Task := ExceptT Failure Logged

/-- The definitions of the settings and then those of the command line. -/
def buildRegistry (s : Settings) (declarations : List String) (recursive : Bool) :
    Task Registry := do
  let s := { s with recursive := s.recursive || recursive }
  let base ← ExceptT.adapt .settings s.registry
  if declarations.isEmpty then return base
  ExceptT.adapt .declaration (base.attach (declarations.map .text) s.recursive)

/-- What a command writes, and why it fails nevertheless. -/
structure Report where
  output : String
  failure : Option Failure := none

def Command.run (c : Command) (s : Settings) (t : Terminal) (format : OutputFormat) :
    Task Report := do
  match c with
  | .parse declaration =>
    let e ← ExceptT.adapt .declaration (NamedExpression.read declaration)
    return { output := expressionReport t e format }
  | .render declarations recursive select =>
    let r ← buildRegistry s declarations recursive
    return { output := renderReport t r (renderedSql r select) format }
  | .check declarations =>
    let f := Findings.ofRegistry (← buildRegistry s declarations false)
    return {
      output := f.report t format
      failure := if f.passes then none else some (.conflicting f.conflicts) }

/-- The visible result of a run. -/
structure Outcome where
  exit : UInt32
  output : String := ""
  errors : String := ""
  events : List Event := []

namespace Outcome

def failureText (t : Terminal) (f : Failure) : String :=
  lines [t.paint (.bold Style.red) "Error:" ++ " " ++ f.message]

def ofReport (t : Terminal) (r : Report) (events : List Event) : Outcome :=
  match r.failure with
  | none => { exit := 0, output := r.output, events }
  | some f => { exit := 1, output := r.output, errors := failureText t f, events }

end Outcome

/-- Nothing is logged before the settings are loaded, and they may turn the colours off. -/
def Invocation.run (i : Invocation) (environment : List (String × String))
    (loaded : Except Error Settings) : Outcome :=
  let t := Terminal.ofEnvironment environment
  match loaded with
  | .error cause => .ofReport t { output := "", failure := some (.loading cause) } []
  | .ok s =>
    let t := if s.color then t else ⟨false⟩
    let filter := Filter.choose environment i.verbose s.logLevel
    let result := (i.command.run s t (i.format.getD s.format)).run
    let events := result.events.filter fun e => filter.allows e.level
    match result.value with
    | .ok report => .ofReport t report events
    | .error f => .ofReport t { output := "", failure := some f } events

def versionText : String := lines ["qail-cte 0.1.0"]

/-- Arguments that are misused are answered by how they are to be given. -/
def Stop.outcome (configDefault : Option String) : Stop → Outcome
  | misuse => {
      exit := 2
      errors := lines [Topic.usageLine (.scope .root), "", "For more information, try '--help'."] }
  | version => { exit := 0, output := versionText }
  | help topic => { exit := 0, output := topic.text configDefault }

variable {m : Type → Type} [Monad m]

/-- Runs the program on its arguments, in an environment and with a way to read files. -/
def execute (read : String → m (Except FileFault ByteArray))
    (environment : List (String × String)) (arguments : List String) : m Outcome := do
  let configDefault := environment.lookup "QAIL_CTE_CONFIG"
  match Invocation.ofArguments configDefault arguments with
  | .error stop => return stop.outcome configDefault
  | .ok i => return i.run environment (← Settings.load read environment i.config)

end WithClause.CommandLine
