import WithClause.Settings

/-! Reading the arguments of the command line, from left to right. -/
namespace WithClause.CommandLine

inductive Command where
  | parse (declaration : String)
  | render (declarations : List String) (recursive : Bool) (select : Option String)
  | check (declarations : List String)

/-- A command with the options that every command has. -/
structure Invocation where
  config : Option String
  format : Option OutputFormat
  verbose : Bool
  command : Command

/-- The part of the command line that an option belongs to. -/
inductive Scope where
  | root
  | parse
  | render
  | check
  deriving DecidableEq

namespace Scope

/-- The commands in order, by name. -/
def commands : List (String × Scope) := [("parse", parse), ("render", render), ("check", check)]

def ofName? (name : String) : Option Scope := commands.lookup name

end Scope

/-- What help is asked about. -/
inductive Topic where
  | scope (scope : Scope)
  /-- The word that asks for help. -/
  | help
  deriving DecidableEq

/-- Why arguments do not lead to a command. -/
inductive Stop where
  | misuse
  | version
  | help (topic : Topic)
  deriving DecidableEq

inductive Switch where
  | config
  | format
  | verbose
  | version
  | help
  | recursive
  | select
  deriving DecidableEq

namespace Switch

/-- In the order in which they are explained. -/
def all : List Switch := [config, recursive, format, select, verbose, help, version]

def long : Switch → String
  | config => "config"
  | format => "format"
  | verbose => "verbose"
  | version => "version"
  | help => "help"
  | recursive => "recursive"
  | select => "select"

def short : Switch → Char
  | config => 'c'
  | format => 'f'
  | verbose => 'v'
  | version => 'V'
  | help => 'h'
  | recursive => 'r'
  | select => 's'

/-- What the value of an option stands for, if it takes one. -/
def valueName? : Switch → Option String
  | config => some "CONFIG"
  | format => some "FORMAT"
  | select => some "TABLE"
  | _ => none

def takesValue (s : Switch) : Bool := s.valueName?.isSome

def isAllowed : Switch → Scope → Bool
  | version, scope => scope == .root
  | recursive, scope | select, scope => scope == .render
  | _, _ => true

def allowed (scope : Scope) : List Switch := all.filter (·.isAllowed scope)

def ofLong? (scope : Scope) (name : String) : Option Switch :=
  (allowed scope).find? (·.long == name)

def ofShort? (scope : Scope) (c : Char) : Option Switch :=
  (allowed scope).find? (·.short == c)

/-- An option is understood where it is allowed, under either of its names. -/
theorem mem_allowed_iff {scope : Scope} {s : Switch} : s ∈ allowed scope ↔
    ofLong? scope s.long = some s ∧ ofShort? scope s.short = some s := by
  cases scope <;> cases s <;> decide

end Switch

/-- What has been read in one scope. -/
structure Given where
  config : Option String := none
  format : Option OutputFormat := none
  verbose : Bool := false
  recursive : Bool := false
  select : Option String := none
  positionals : List String := []

namespace Given

def formatNamed? : String → Option OutputFormat
  | "text" => some .text
  | "json" => some .json
  | _ => none

/-- Gives an option its value. No option is given twice, and no path is empty. -/
def assign (g : Given) (switch : Switch) (value : String) : Except Stop Given :=
  match switch with
  | .config =>
    if g.config.isSome || value.isEmpty then .error .misuse
    else .ok { g with config := some value }
  | .format =>
    match g.format, formatNamed? value with
    | none, some format => .ok { g with format := some format }
    | _, _ => .error .misuse
  | .select =>
    if g.select.isSome then .error .misuse else .ok { g with select := some value }
  | _ => .error .misuse

/-- Turns a switch without value on. -/
def turnOn (g : Given) (scope : Scope) : Switch → Except Stop Given
  | .verbose => if g.verbose then .error .misuse else .ok { g with verbose := true }
  | .recursive => if g.recursive then .error .misuse else .ok { g with recursive := true }
  | .version => .error .version
  | .help => .error (.help (.scope scope))
  | _ => .error .misuse

/-- An option in its long form, without the dashes; also the option whose value is still due. -/
def readLong (g : Given) (scope : Scope) (text : List Char) :
    Except Stop (Given × Option Switch) :=
  match Switch.ofLong? scope (String.ofList (text.takeWhile (· != '='))),
    text.dropWhile (· != '=') with
  | none, _ => .error .misuse
  | some switch, [] =>
    if switch.takesValue then .ok (g, some switch)
    else do return (← g.turnOn scope switch, none)
  | some switch, _ :: value =>
    if switch.takesValue then do return (← g.assign switch (String.ofList value), none)
    else .error .misuse

/-- Options in their short form, without the dash. An option with a value takes all that follows,
less an equals sign in front. -/
def readShort (g : Given) (scope : Scope) : List Char → Except Stop (Given × Option Switch)
  | [] => .ok (g, none)
  | c :: cs =>
    match Switch.ofShort? scope c with
    | none => .error .misuse
    | some switch =>
      if switch.takesValue then
        match cs with
        | [] => .ok (g, some switch)
        | '=' :: value => do return (← g.assign switch (String.ofList value), none)
        | value => do return (← g.assign switch (String.ofList value), none)
      else do (← g.turnOn scope switch).readShort scope cs

/-- Only the commands on several definitions take more than one. -/
def addPositional (g : Given) (scope : Scope) (argument : String) : Except Stop Given :=
  if scope = .parse && !g.positionals.isEmpty then .error .misuse
  else .ok { g with positionals := g.positionals ++ [argument] }

/-- A single dash is no option. -/
def isOption (argument : String) : Bool :=
  match argument.toList with
  | '-' :: _ :: _ => true
  | _ => false

def readOption (g : Given) (scope : Scope) (argument : String) :
    Except Stop (Given × Option Switch) :=
  match argument.toList with
  | '-' :: '-' :: text => g.readLong scope text
  | _ :: text => g.readShort scope text
  | [] => .error .misuse

/-- Reads the arguments of a scope. The root ends at the name of a command; elsewhere, two dashes
end the options. -/
def read (scope : Scope) (g : Given) : List String → Except Stop (Given × List String)
  | [] => .ok (g, [])
  | argument :: rest =>
    if argument = "--" then
      if scope = .root then .error .misuse
      else do return (← rest.foldlM (·.addPositional scope ·) g, [])
    else if isOption argument then do
      match ← g.readOption scope argument, rest with
      | (g, none), rest => g.read scope rest
      | (_, some _), [] => .error .misuse
      | (g, some switch), value :: rest =>
        if isOption value then .error .misuse
        else (← g.assign switch value).read scope rest
    else if scope = .root then .ok (g, argument :: rest)
    else do (← g.addPositional scope argument).read scope rest

def command : Scope → Given → Except Stop Command
  | .parse, g =>
    match g.positionals with
    | [declaration] => .ok (.parse declaration)
    | _ => .error .misuse
  | .render, g => .ok (.render g.positionals g.recursive g.select)
  | .check, g => .ok (.check g.positionals)
  | .root, _ => .error .misuse

end Given

def Topic.ofName? (name : String) : Option Topic :=
  if name = "help" then some .help else (Scope.ofName? name).map .scope

/-- What follows the word `help`: nothing, or the name of what to explain. -/
def helpOn : List String → Stop
  | [] => .help (.scope .root)
  | [name] => (Topic.ofName? name).elim .misuse .help
  | _ => .misuse

/-- The command of that name, which the given arguments follow. -/
def scopeOf (name : String) (arguments : List String) : Except Stop Scope :=
  if name = "help" then .error (helpOn arguments)
  else match Scope.ofName? name with
    | some scope => .ok scope
    | none => .error .misuse

namespace Invocation

/-- The invocation that the arguments stand for, with a default for the path of the settings. What
is given after the command's name goes before what is given in front of it. The default must
be a path wherever it could count. -/
def ofArguments (configDefault : Option String) (arguments : List String) :
    Except Stop Invocation := do
  let (outer, rest) ← Given.read .root {} arguments
  let name :: rest := rest | .error .misuse
  let scope ← scopeOf name rest
  let (inner, _) ← Given.read scope {} rest
  let command ← inner.command scope
  if configDefault = some "" && (outer.config.isNone || inner.config.isNone) then .error .misuse
  return {
    config := inner.config <|> outer.config <|> configDefault
    format := inner.format <|> outer.format
    verbose := inner.verbose || outer.verbose
    command }

end Invocation
end WithClause.CommandLine
