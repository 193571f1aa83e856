import WithClause.CommandLine.Style
import WithClause.NamedExpression
import WithClause.Query.Json
import WithClause.Query.Sql
import WithClause.Registry
import WithClause.Settings

/-! What the commands write: findings about an expression or a registry, and their two layouts. -/
namespace WithClause.CommandLine

/-- Each line with its end. -/
def lines (texts : List String) : String := String.join (texts.map (· ++ "\n"))

/-- An indented JSON text whose keys are sorted. -/
def sortedJson (j : Json) : String := lines [j.sortKeys.pretty 0]

namespace Terminal

def nothing (t : Terminal) : String := t.paint .dimmed "(no CTEs)"

end Terminal

def expressionReport (t : Terminal) (e : NamedExpression) : OutputFormat → String
  | .json => lines [e.toJson.pretty 0]
  | .text => lines [
      t.paint (.bold Style.cyan) "🪝 QAIL CTE",
      "",
      "  " ++ t.paint .dimmed "Table:" ++ " " ++ t.paint (.plain Style.white) e.name,
      "  " ++ t.paint .dimmed "Expression:" ++ " "
        ++ t.paint (.plain Style.yellow) e.expression,
      "",
      t.paint (.bold Style.green) "Rendered:",
      "  " ++ t.paint (.plain Style.white) e.toDefinition.text]

/-- The prologue of a registry, in front of a statement if there is a table to select from. -/
def renderedSql (r : Registry) : Option String → String
  | some table => Query.text { table, ctes := r }
  | none => r.text

def renderReport (t : Terminal) (r : Registry) (sql : String) : OutputFormat → String
  | .json => sortedJson (.object [
      ("recursive", .bool r.recursive),
      ("definitions", .array (r.definitions.map Definition.toJson)),
      ("sql", .string sql)])
  | .text =>
    if sql.isEmpty then lines [t.nothing]
    else lines [t.paint (.bold Style.green) "Generated SQL:", t.paint (.plain Style.white) sql]

/-- What a check finds in a registry. -/
structure Findings where
  /-- The definitions in order, each with whether its name is in conflict. -/
  entries : List (Definition × Bool)
  names : List String
  conflicts : List String
  recursive : Bool

namespace Findings

def ofRegistry (r : Registry) : Findings :=
  let conflicts := r.conflicts
  { entries := r.definitions.map fun d => (d, conflicts.contains d.name)
    names := r.names
    conflicts
    recursive := r.recursive }

def passes (f : Findings) : Bool := f.conflicts.isEmpty

/-- Numbers are right-aligned in three columns. -/
def numberText (n : Nat) : String :=
  String.ofList (List.replicate (3 - n.repr.length) ' ') ++ n.repr

def entryLine (t : Terminal) (entry : Definition × Bool) (number : Nat) : String :=
  let style := if entry.2 then Style.bold Style.red else Style.plain Style.cyan
  numberText number ++ ". " ++ t.paint style entry.1.name ++ " "
    ++ t.paint .dimmed entry.1.body.text

def summary (t : Terminal) (f : Findings) : List String :=
  if f.entries.isEmpty || !f.passes then []
  else ["", t.paint (.plain Style.green) "✓" ++ " " ++ f.names.length.repr
    ++ " CTE(s), no conflicts"]

def report (t : Terminal) (f : Findings) : OutputFormat → String
  | .json => sortedJson (.object [
      ("recursive", .bool f.recursive),
      ("names", .array (f.names.map .string)),
      ("conflicts", .array (f.conflicts.map .string))])
  | .text => lines (
      (if f.entries.isEmpty then [t.nothing] else [])
        ++ (f.entries.zipIdx 1).map (fun entry => entryLine t entry.1 entry.2)
        ++ (if f.recursive then ["", t.paint (.plain Style.yellow) "WITH RECURSIVE"] else [])
        ++ f.summary t)

end Findings
end WithClause.CommandLine
