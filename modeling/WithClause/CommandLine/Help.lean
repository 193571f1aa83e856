import WithClause.CommandLine.Arguments
import WithClause.CommandLine.Report

/-! What the program says about itself. -/
namespace WithClause.CommandLine

namespace Switch

def about : Switch → String
  | config => "Config file (defaults to ./qail-cte.toml, then the user config dir)"
  | format => "Output format (overrides the config file)"
  | verbose => "Verbose output (debug logging)"
  | version => "Print version"
  | help => "Print help"
  | recursive => "Render WITH RECURSIVE"
  | select => "Append \x60SELECT * FROM <TABLE>\x60 to the prologue"

/-- Where else the value comes from, or which values there are. -/
def hint (configDefault : Option String) : Switch → String
  | config => " [env: QAIL_CTE_CONFIG=" ++ configDefault.getD "" ++ "]"
  | format => " [possible values: text, json]"
  | _ => ""

/-- An option with its meaning. -/
def row (configDefault : Option String) (s : Switch) : String × String :=
  ("-" ++ s.short.toString ++ ", --" ++ s.long ++
      (s.valueName?.elim "" fun name => " <" ++ name ++ ">"),
    s.about ++ s.hint configDefault)

end Switch

namespace Scope

def about : Scope → String
  | root => "🪝 Composable WITH clauses for QAIL"
  | parse => "Parse a \x60name AS (SELECT ...)\x60 string and show its parts"
  | render => "Render the WITH prologue for the configured and given CTEs"
  | check => "List definitions and names declared with conflicting bodies"

/-- What is given to a command without a name, and its meaning. -/
def positional? : Scope → Option (String × String)
  | root => none
  | parse => some ("<CTE>", "The CTE string")
  | render | check =>
    some ("[CTES]...", "Additional CTE strings, attached after the configured ones")

end Scope

namespace Topic

def about : Topic → String
  | scope s => s.about
  | help => "Print this message or the help of the given subcommand(s)"

def usage : Topic → String
  | scope .root => "qail-cte [OPTIONS] <COMMAND>"
  | scope .parse => "qail-cte parse [OPTIONS] <CTE>"
  | scope .render => "qail-cte render [OPTIONS] [CTES]..."
  | scope .check => "qail-cte check [OPTIONS] [CTES]..."
  | help => "qail-cte help [COMMAND]..."

def commands : Topic → List (String × String)
  | scope .root =>
    (Scope.commands.map fun c => (c.1, c.2.about)) ++ [("help", about .help)]
  | _ => []

def positionals : Topic → List (String × String)
  | scope s => s.positional?.toList
  | help => [("[COMMAND]...", "Print help for the subcommand(s)")]

def options (configDefault : Option String) : Topic → List (String × String)
  | scope s => (Switch.allowed s).map (Switch.row configDefault)
  | help => []

def examples : Topic → List String
  | scope .root => [
      "",
      "EXAMPLES:",
      "    qail-cte parse 'popular_posts AS (SELECT * FROM posts WHERE views_count > 100)'",
      "    qail-cte render 'a AS (SELECT 1)' 'b AS (SELECT * FROM a)' --select b",
      "    qail-cte render --recursive 'tree AS (SELECT 1 UNION ALL SELECT n + 1 FROM tree)'",
      "    qail-cte check --config qail-cte.toml"]
  | _ => []

/-- Rows of two columns behind a blank line and a heading, if there are any. -/
def table (heading : String) (rows : List (String × String)) : List String :=
  let width := rows.foldl (fun width row => max width row.1.length) 0
  if rows.isEmpty then []
  else "" :: heading :: rows.map fun row =>
    "  " ++ row.1 ++ String.ofList (List.replicate (width + 2 - row.1.length) ' ') ++ row.2

def usageLine (t : Topic) : String := "Usage: " ++ t.usage

def text (t : Topic) (configDefault : Option String) : String :=
  lines ([t.about, "", t.usageLine] ++ table "Commands:" t.commands ++
    table "Arguments:" t.positionals ++ table "Options:" (t.options configDefault) ++ t.examples)

end Topic
end WithClause.CommandLine
