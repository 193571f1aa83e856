import WithClause.Toml
import WithClause.Toml.Grammar.Quantity

/-! The values and the lines of TOML documents. -/
namespace WithClause.Toml.Grammar

open Text Text.Reader

def scalar : Reader Toml :=
  Toml.string <$> string
    <|> (token "true" *> pure (.boolean true))
    <|> (token "false" *> pure (.boolean false))
    <|> (quantity *> pure .quantity)

/-- Line ends and comments may stand between the items, and a comma after the last one. -/
def arrayOf (item : Reader Toml) : Reader Toml := do
  char '['
  let items ← sepBy (filler *> item <* filler) (char ',')
  unless items.isEmpty do discard (maybe (char ','))
  filler
  char ']'
  return .array items

def pairOf (item : Reader Toml) : Reader (List String × Toml) := do
  let keys ← path
  char '='
  spaces
  return (keys, ← item)

/-- An inline table stays on one line and has no comma after its last pair. -/
def inlineTableOf (item : Reader Toml) : Reader Toml := do
  char '\x7b'
  let pairs ← sepBy (pairOf item <* spaces) (char ',')
  spaces
  char '\x7d'
  return .table .inline (← StateT.lift (addPairs [] pairs))

/-- A value in which brackets and braces are nested at most so deep. -/
def value : Nat → Reader Toml
  | 0 => scalar
  | depth + 1 => arrayOf (value depth) <|> inlineTableOf (value depth) <|> scalar

/-- The nesting that documents may have. -/
def maxDepth : Nat := 79

inductive Statement where
  | pair (keys : List String) (item : Toml)
  | tableHeader (keys : List String)
  | elementHeader (keys : List String)

def statement : Reader Statement :=
  (do
    token "[["
    let keys ← path
    token "]]"
    return .elementHeader keys)
  <|> (do
    char '['
    let keys ← path
    char ']'
    return .tableHeader keys)
  <|> (do
    let (keys, item) ← pairOf (value maxDepth)
    return .pair keys item)

def line : Reader (Option Statement) := do
  spaces
  let s ← maybe statement
  spaces
  discard (maybe comment)
  newline <|> atEnd
  return s

/-- The statements of a document, which may start with a byte order mark. -/
def document (text : String) : Option (List Statement) := do
  let cs := match text.toList with
    | '\uFEFF' :: cs => cs
    | cs => cs
  return (← (many line).readAll cs).filterMap id

end WithClause.Toml.Grammar
