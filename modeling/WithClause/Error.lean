/-! The causes for which a definition, an argument or a settings file is refused. -/
namespace WithClause

/-- Why a file cannot be read as text. -/
inductive FileFault where
  | notFound
  | permissionDenied
  | notDirectory
  | isDirectory
  | nameTooLong
  | notUtf8
  /-- A fault named by the system alone. -/
  | other (description : String)
  deriving DecidableEq

inductive Error where
  | emptyInput
  /-- The input has no standalone `AS`. -/
  | missingAs (input : String)
  | missingParentheses (input : String)
  | unbalancedParentheses (expression : String)
  | emptyTableName
  | emptyExpression
  | invalidFormat (input : String)
  | noArguments
  | nestedMapping
  | nestedList
  | nilBody (name : String)
  | collectionBody (name : String)
  | emptyName
  /-- A settings entry, counted from one, is neither a name with its SQL nor a definition. -/
  | incompleteEntry (number : Nat)
  | malformedSettings
  | unreadableFile (fault : FileFault)
  deriving DecidableEq

namespace FileFault

def message : FileFault → String
  | notFound => "No such file or directory (os error 2)"
  | permissionDenied => "Permission denied (os error 13)"
  | notDirectory => "Not a directory (os error 20)"
  | isDirectory => "Is a directory (os error 21)"
  | nameTooLong => "File name too long (os error 36)"
  | notUtf8 => "stream did not contain valid UTF-8"
  | other description => description

/-- Whether there is no file to read, as against one that cannot be read. -/
def isAbsence : FileFault → Bool
  | notFound | notDirectory | nameTooLong => true
  | _ => false

end FileFault

namespace Error

def expected : String := "Expected 'table_name AS (SELECT ...)' but got: "

def message : Error → String
  | emptyInput => "CTE string cannot be empty"
  | missingAs input => "CTE string must contain 'AS' keyword. " ++ expected ++ input
  | missingParentheses input =>
    "CTE expression must be enclosed in parentheses. " ++ expected ++ input
  | unbalancedParentheses expression =>
    "Unbalanced parentheses in CTE expression: " ++ expression
  | emptyTableName => "Empty table name in CTE string"
  | emptyExpression => "Empty expression in CTE string"
  | invalidFormat input => "Invalid CTE string format. " ++ expected ++ input
  | noArguments => "The method .with() must contain arguments."
  | nestedMapping =>
    "Unsupported argument type: a mapping of CTEs cannot be nested inside a list, "
      ++ "pass it directly to .with()"
  | nestedList => "Unsupported argument type: nested lists of CTEs are not supported"
  | nilBody name => "Expression for CTE '" ++ name ++ "' must not be nil"
  | collectionBody name =>
    "Unsupported argument type for CTE '" ++ name
      ++ "': expected a single query or SQL string, got a collection"
  | emptyName => "CTE name must not be empty"
  | incompleteEntry number =>
    "Configuration error: cte #" ++ number.repr
      ++ " must set either \x60name\x60 and \x60sql\x60, or \x60definition\x60"
  | malformedSettings => "Invalid config file: not a TOML document of the expected form"
  | unreadableFile fault => "IO error: " ++ fault.message

/-- Whether the text of a definition was at fault, and not the arguments or the surroundings. -/
def isParseError : Error → Bool
  | emptyInput | missingAs _ | missingParentheses _ | unbalancedParentheses _ | emptyTableName
  | emptyExpression | invalidFormat _ => true
  | _ => false

end Error
end WithClause
