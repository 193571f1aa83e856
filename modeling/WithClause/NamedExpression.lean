import WithClause.Json
import WithClause.Logged
import WithClause.Query
import WithClause.Text.Blank
import WithClause.Text.Letter
import WithClause.Text.Parenthesis

/-! Reading a text of the form `name AS (expression)`. The name is bare, in backticks or in double
quotes, and the expression is everything up to the last closing parenthesis. -/
namespace WithClause

open Text

/-- A table name and the expression it stands for, neither of them blank. -/
structure NamedExpression where
  name : String
  expression : String
  deriving DecidableEq

namespace NamedExpression

/-- The text up to the next quote character, which is dropped, and the rest. -/
def readQuoted (q : Char) (cs : List Char) : Option (List Char × List Char) :=
  match cs.dropWhile (· != q) with
  | [] => none
  | _ :: rest => some (cs.takeWhile (· != q), rest)

/-- A name and the rest. Nothing inside quotes stands for a quote. -/
def readName : List Char → Option (List Char × List Char)
  | [] => none
  | c :: cs =>
    if c = '\x60' ∨ c = '"' then readQuoted c cs
    else if startsName c then
      some (c :: cs.takeWhile continuesName, cs.dropWhile continuesName)
    else none

/-- At least one spacing character, and all of them that follow. -/
def skipSpacing : List Char → Option (List Char)
  | [] => none
  | c :: cs => if isSpacing c then some (cs.dropWhile isSpacing) else none

/-- The word `AS` in either case. -/
def skipAs : List Char → Option (List Char)
  | a :: s :: rest => if a.toLower = 'a' ∧ s.toLower = 's' then some rest else none
  | _ => none

def skipOpen : List Char → Option (List Char)
  | [] => none
  | c :: cs => if c = '(' then some cs else none

def readNamedAs (cs : List Char) : Option (List Char × List Char) := do
  let (name, rest) ← readName cs
  return (name, ← skipAs (← skipSpacing rest))

/-- An `AS` without a name reads as the empty name, so that the missing name can be reported. -/
def readNamelessAs (cs : List Char) : Option (List Char × List Char) := do
  return ([], ← skipAs cs)

/-- The name in front of an opening parenthesis, and the text after that. A text that begins with a
name and `AS` is never read as one without a name. -/
def readHead (cs : List Char) : Option (List Char × List Char) := do
  let (name, rest) ← readNamedAs cs <|> readNamelessAs cs
  return (name, ← skipOpen (← skipSpacing rest))

def hasAs (input : List Char) : Bool := (words input).any fun w => w.map Char.toLower == ['a', 's']

/-- The most helpful error for a text of another form. -/
def misfit (input : String) : Error :=
  if !hasAs input.toList then .missingAs input
  else if !(input.toList.contains '(' && input.toList.contains ')') then .missingParentheses input
  else .invalidFormat input

/-- What the outer parentheses enclose, and whether they are closed. Text after a closing
parenthesis has no place in the form. -/
def outerBody (body : List Char) : Option (List Char × Bool) :=
  if body.getLast? = some ')' then some (body.dropLast, true)
  else if body.contains ')' then none
  else some (body, false)

def parse (input : String) : Except Error NamedExpression :=
  let trimmed := trim input.toList
  if trimmed.isEmpty then .error .emptyInput
  else match readHead trimmed with
    | none => .error (misfit input)
    | some (name, body) =>
      let name := trim name
      if name.isEmpty then .error .emptyTableName
      else match outerBody body with
        | none => .error (misfit input)
        | some (inner, closed) =>
          let expression := trim inner
          if expression.isEmpty then .error .emptyExpression
          else if closed && balanced expression then
            .ok ⟨String.ofList name, String.ofList expression⟩
          else .error (.unbalancedParentheses (String.ofList expression))

/-- Reading is logged only if it succeeds. -/
def read (input : String) : Attempt NamedExpression := do
  let e ← Attempt.ofExcept (parse input)
  Attempt.emit (.parsed e.name)
  return e

def toDefinition (e : NamedExpression) : Definition := .raw e.name e.expression

def toJson (e : NamedExpression) : Json :=
  .object [("table_name", .string e.name), ("expression", .string e.expression)]

end NamedExpression

/-- The definition that a text declares. -/
def Definition.read (input : String) : Attempt Definition :=
  NamedExpression.toDefinition <$> NamedExpression.read input

end WithClause
