import WithClause.Text.Quoted

/-! Names as SQL identifiers: bare where that is safe, otherwise in double quotes with each double
quote inside written twice. -/
namespace WithClause.Identifier

/-- The words that are never bare, in lower case. -/
def reservedWords : List (List Char) := [
  "all", "and", "any", "as", "asc", "between", "both", "by", "case", "cast", "check", "column",
  "constraint", "create", "cross", "current_date", "current_user", "default", "delete", "desc",
  "distinct", "do", "else", "end", "except", "false", "fetch", "for", "foreign", "from", "full",
  "grant", "group", "having", "in", "inner", "insert", "intersect", "into", "is", "join",
  "leading", "left", "like", "limit", "natural", "not", "null", "offset", "on", "only", "or",
  "order", "outer", "primary", "recursive", "references", "returning", "right", "select", "set",
  "some", "table", "then", "to", "trailing", "true", "union", "unique", "update", "user", "using",
  "values", "when", "where", "window", "with"].map String.toList

def startsBare (c : Char) : Bool := c.isAlpha || c == '_'

def continuesBare (c : Char) : Bool := c.isAlphanum || c == '_'

/-- ASCII letters, digits and underscores, with no digit in front. -/
def hasBareShape : List Char → Bool
  | [] => false
  | c :: cs => startsBare c && cs.all continuesBare

/-- Letter case does not matter for being reserved. -/
def isReserved (name : List Char) : Bool :=
  reservedWords.contains (name.map Char.toLower)

def isBare (name : List Char) : Bool := hasBareShape name && !isReserved name

def quoteChars (name : List Char) : List Char :=
  if isBare name then name else Text.enclose '"' name

/-- A bare name keeps the case folding that the database applies to the rest of the statement. -/
def quote (name : String) : String := String.ofList (quoteChars name.toList)

theorem quoteChars_of_isBare {name : List Char} (h : isBare name = true) :
    quoteChars name = name := by
  simp [quoteChars, h]

theorem quoteChars_of_not_isBare {name : List Char} (h : isBare name = false) :
    quoteChars name = Text.enclose '"' name := by
  simp [quoteChars, h]

theorem toList_quote (name : String) : (quote name).toList = quoteChars name.toList := by
  simp [quote]

end WithClause.Identifier
