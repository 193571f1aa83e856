import WithClause.Decimal.Layout

/-! JSON values and their two texts, the compact one and the indented one. -/
namespace WithClause

inductive Json where
  | null
  | bool (b : Bool)
  | integer (n : Int)
  | real (x : Binary64)
  | string (s : String)
  | array (items : List Json)
  | object (fields : List (String × Json))

namespace Json

/-- Hexadecimal with lower-case letters. -/
def hexDigit (n : Nat) : Char := Nat.digitChar (n % 16)

/-- Only the quote, the backslash and the characters below space are escaped. -/
def escapeChar (c : Char) : List Char :=
  if c = '"' then ['\\', '"']
  else if c = '\\' then ['\\', '\\']
  else if c = '\x08' then ['\\', 'b']
  else if c = '\x0c' then ['\\', 'f']
  else if c = '\n' then ['\\', 'n']
  else if c = '\r' then ['\\', 'r']
  else if c = '\t' then ['\\', 't']
  else if c.toNat < 32 then ['\\', 'u', '0', '0', hexDigit (c.toNat / 16), hexDigit c.toNat]
  else [c]

def quote (s : String) : String :=
  "\"" ++ String.ofList (s.toList.flatMap escapeChar) ++ "\""

/-- Numbers have the fewest digits, ties going to the even one. From `0.00001` to below `1e+16`
they are positional, with `.0` on whole numbers. -/
def numberLayout : Decimal.Layout where
  tie := .even
  positional := some (-5, 16)
  marksWhole := true

/-- What is no finite number has no text of its own. -/
def realText (x : Binary64) : String :=
  if x.isFinite then numberLayout.write x else "null"

/-- The texts that do not depend on the layout of collections. -/
def scalarText : Json → String
  | null => "null"
  | bool true => "true"
  | bool false => "false"
  | integer n => n.repr
  | real x => realText x
  | string s => quote s
  | array _ | object _ => ""

mutual
/-- The text without any space between its parts. -/
def compact : Json → String
  | array items => "[" ++ ",".intercalate (compactItems items) ++ "]"
  | object fields => "\x7b" ++ ",".intercalate (compactFields fields) ++ "\x7d"
  | null => scalarText null
  | bool b => scalarText (bool b)
  | integer n => scalarText (integer n)
  | real x => scalarText (real x)
  | string s => scalarText (string s)

def compactItems : List Json → List String
  | [] => []
  | item :: items => compact item :: compactItems items

def compactFields : List (String × Json) → List String
  | [] => []
  | (key, item) :: fields => (quote key ++ ":" ++ compact item) :: compactFields fields
end

def indent (depth : Nat) : String := String.ofList (List.replicate (2 * depth) ' ')

/-- The parts of a collection, each on its own line one level deeper than its brackets. -/
def block (depth : Nat) (left right : String) : List String → String
  | [] => left ++ right
  | parts =>
    left ++ "\n" ++ ",\n".intercalate (parts.map (indent (depth + 1) ++ ·))
      ++ "\n" ++ indent depth ++ right

mutual
/-- The text with two spaces of indentation for each level. -/
def pretty (depth : Nat) : Json → String
  | array items => block depth "[" "]" (prettyItems (depth + 1) items)
  | object fields => block depth "\x7b" "\x7d" (prettyFields (depth + 1) fields)
  | null => scalarText null
  | bool b => scalarText (bool b)
  | integer n => scalarText (integer n)
  | real x => scalarText (real x)
  | string s => scalarText (string s)

def prettyItems (depth : Nat) : List Json → List String
  | [] => []
  | item :: items => pretty depth item :: prettyItems depth items

def prettyFields (depth : Nat) : List (String × Json) → List String
  | [] => []
  | (key, item) :: fields =>
    (quote key ++ ": " ++ pretty depth item) :: prettyFields depth fields
end

def insertField (field : String × Json) : List (String × Json) → List (String × Json)
  | [] => [field]
  | other :: fields =>
    if field.1 < other.1 then field :: other :: fields else other :: insertField field fields

mutual
/-- The same value with the fields of every object in the order of their keys. -/
def sortKeys : Json → Json
  | array items => array (sortItems items)
  | object fields => object (sortFields fields)
  | null => null
  | bool b => bool b
  | integer n => integer n
  | real x => real x
  | string s => string s

def sortItems : List Json → List Json
  | [] => []
  | item :: items => sortKeys item :: sortItems items

def sortFields : List (String × Json) → List (String × Json)
  | [] => []
  | (key, item) :: fields => insertField (key, sortKeys item) (sortFields fields)
end

theorem compactItems_eq_map (items : List Json) : compactItems items = items.map compact := by
  induction items with
  | nil => rfl
  | cons item items ih => simp [compactItems, ih]

theorem compactFields_eq_map (fields : List (String × Json)) :
    compactFields fields = fields.map fun f => quote f.1 ++ ":" ++ compact f.2 := by
  induction fields with
  | nil => rfl
  | cons field fields ih => simp [compactFields, ih]

end Json
end WithClause
