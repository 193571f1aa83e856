import WithClause.Text.Reader

/-! The strings, keys and spaces of TOML. -/
namespace WithClause.Toml.Grammar

open Text Text.Reader

def isSpace (c : Char) : Bool := c == ' ' || c == '\t'

def spaces : Reader Unit := discard (span isSpace)

def newline : Reader Unit := char '\n' <|> (char '\r' *> char '\n')

/-- What may stand in a comment: no control character but the tab. -/
def isPlain (c : Char) : Bool := c == '\t' || (' ' ≤ c && c != '\x7f')

def comment : Reader Unit := char '#' *> discard (span isPlain)

/-- Spaces and line ends. -/
def blankLines : Reader Unit :=
  discard (many (discard (satisfy isSpace) <|> newline))

/-- Spaces, line ends and comments, which may surround the items of an array. -/
def filler : Reader Unit :=
  discard (many (discard (satisfy isSpace) <|> newline <|> comment))

def hexDigit? (c : Char) : Option Nat :=
  if c.isDigit then some (c.toNat - '0'.toNat)
  else if 'a' ≤ c && c ≤ 'f' then some (c.toNat - 'a'.toNat + 10)
  else if 'A' ≤ c && c ≤ 'F' then some (c.toNat - 'A'.toNat + 10)
  else none

def isHexDigit (c : Char) : Bool := (hexDigit? c).isSome

def hexValue (digits : List Char) : Nat :=
  digits.foldl (fun n c => 16 * n + (hexDigit? c).getD 0) 0

/-- A character given by its code point, which must not be a surrogate. -/
def codePoint (digits : Nat) : Reader Char := do
  let n := hexValue (← exactly digits isHexDigit)
  guard n.isValidChar
  return Char.ofNat n

/-- The rest of an escape sequence. -/
def escape : Reader Char := do
  match ← satisfy fun _ => true with
  | 'b' => return '\x08'
  | 't' => return '\t'
  | 'n' => return '\n'
  | 'f' => return '\x0c'
  | 'r' => return '\r'
  | '"' => return '"'
  | '\\' => return '\\'
  | 'u' => codePoint 4
  | 'U' => codePoint 8
  | _ => failure

def basicChar : Reader Char :=
  satisfy (fun c => isPlain c && c != '"' && c != '\\') <|> (char '\\' *> escape)

def basicString : Reader (List Char) := char '"' *> many basicChar <* char '"'

def literalString : Reader (List Char) :=
  char '\'' *> span (fun c => isPlain c && c != '\'') <* char '\''

/-- One or two quotes inside a string of several lines. -/
def innerQuotes (q : Char) : Reader (List Char) := do
  let quotes ← span (· == q)
  guard (quotes.length = 1 || quotes.length = 2)
  return quotes

/-- Three closing quotes, with up to two more before them that belong to the content. -/
def closingQuotes (q : Char) : Reader (List Char) := do
  let quotes ← span (· == q)
  guard (3 ≤ quotes.length && quotes.length ≤ 5)
  return quotes.drop 3

/-- A backslash at the end of a line removes it with all spaces and lines that follow. -/
def joinedLines : Reader (List Char) := do
  char '\\' *> spaces *> newline *> blankLines
  return []

def lineBreak : Reader (List Char) := do
  newline
  return ['\n']

/-- A string of several lines; a line end right after the opening quotes does not count. -/
def multiline (q : Char) (piece : Reader (List Char)) : Reader (List Char) := do
  char q *> char q *> char q
  discard (maybe newline)
  let pieces ← many (piece <|> lineBreak <|> innerQuotes q)
  return pieces.flatten ++ (← closingQuotes q)

def multilineBasic : Reader (List Char) :=
  multiline '"' (joinedLines <|> (fun c => [c]) <$> basicChar)

def multilineLiteral : Reader (List Char) :=
  multiline '\'' ((fun c => [c]) <$> satisfy fun c => isPlain c && c != '\'')

def string : Reader String :=
  String.ofList <$> (multilineBasic <|> basicString <|> multilineLiteral <|> literalString)

def isBareKey (c : Char) : Bool := c.isAlphanum || c == '-' || c == '_'

def bareKey : Reader (List Char) := do
  let key ← span isBareKey
  guard !key.isEmpty
  return key

def key : Reader String := String.ofList <$> (basicString <|> literalString <|> bareKey)

/-- Keys joined by dots. Spaces may surround each of them. -/
def path : Reader (List String) := do
  let keys ← sepBy1 (spaces *> key <* spaces) (char '.')
  guard (keys.length < 80)
  return keys

end WithClause.Toml.Grammar
