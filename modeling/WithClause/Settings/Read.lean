import WithClause.Settings
import WithClause.Toml.Document

/-! Reading settings from a TOML document. Unknown keys and values of another type are refused. -/
namespace WithClause.Settings

def string? : Toml → Option String
  | .string s => some s
  | _ => none

def boolean? : Toml → Option Bool
  | .boolean b => some b
  | _ => none

/-- The fields of a record, which may be a table or a list of the values in the order of the
names. Values beyond the last name are not looked at. -/
def fields? (names : List String) : Toml → Option Toml.Entries
  | .table _ entries => if entries.all fun e => names.contains e.1 then some entries else none
  | item => do return names.zip (← item.items?)

/-- A field that need not be there. -/
def field? {α : Type} (fields : Toml.Entries) (name : String) (read : Toml → Option α)
    (default : α) : Option α :=
  match fields.lookup name with
  | none => some default
  | some item => read item

def formatNamed? : String → Option OutputFormat
  | "text" => some .text
  | "json" => some .json
  | _ => none

/-- A format is a word, or the only key of a table, with nothing in its value. -/
def format? : Toml → Option OutputFormat
  | .string s => formatNamed? s
  | .table _ [(name, .table _ [])] => formatNamed? name
  | .table _ [(name, .array [])] => formatNamed? name
  | _ => none

/-- An entry written as a list gives all its fields. -/
def entry? (item : Toml) : Option Entry := do
  let names := ["name", "sql", "definition"]
  if let some items := item.items? then guard (names.length ≤ items.length)
  let fields ← fields? names item
  let text := fun name => field? fields name (fun item => some <$> string? item) none
  return { name := ← text "name", sql := ← text "sql", definition := ← text "definition" }

def logLevel? (item : Toml) : Option String := do
  field? (← fields? ["level"] item) "level" string? ({} : Settings).logLevel

def output? (item : Toml) : Option (OutputFormat × Bool) := do
  let fields ← fields? ["format", "color"] item
  return (← field? fields "format" format? ({} : Settings).format,
    ← field? fields "color" boolean? ({} : Settings).color)

def entries? (item : Toml) : Option (List Entry) := do (← item.items?).mapM entry?

def ofToml? (root : Toml.Entries) : Option Settings := do
  let fields ← fields? ["recursive", "log", "output", "cte"] (.table .header root)
  let default : Settings := {}
  let (format, color) ← field? fields "output" output? (default.format, default.color)
  return {
    recursive := ← field? fields "recursive" boolean? default.recursive
    logLevel := ← field? fields "log" logLevel? default.logLevel
    format
    color
    entries := ← field? fields "cte" entries? default.entries }

def parse (text : String) : Except Error Settings :=
  match Toml.parse text >>= ofToml? with
  | some settings => .ok settings
  | none => .error .malformedSettings

end WithClause.Settings
