import WithClause.Json
import WithClause.Text.Quoted

/-! The values that a condition compares a column with. -/
namespace WithClause

inductive Value where
  | null
  | bool (b : Bool)
  | int (n : Int64)
  | float (x : Binary64)
  | string (s : String)
  | parameter (n : UInt64)
  | call (function : String)

namespace Value

/-- Numbers in SQL have the fewest digits, ties going up, and no power of ten. -/
def numberLayout : Decimal.Layout where
  tie := .up
  positional := none
  marksWhole := false

def floatText (x : Binary64) : String :=
  if x.isFinite then numberLayout.write x
  else if x.isNaN then "NaN"
  else if x.isNegative then "-inf" else "inf"

/-- A string as an SQL literal. -/
def literal (s : String) : String := String.ofList (Text.enclose '\'' s.toList)

/-- The SQL text of a value. -/
def text : Value → String
  | null => "NULL"
  | bool b => if b then "true" else "false"
  | int n => n.toInt.repr
  | float x => floatText x
  | string s => literal s
  | parameter n => "$" ++ n.toNat.repr
  | call function => function ++ "()"

/-- The SQL text of the pattern that finds a value anywhere in a text. -/
def pattern : Value → String
  | string s => literal ("%" ++ s ++ "%")
  | parameter n => "'%' || " ++ (parameter n).text ++ " || '%'"
  | v => "'%" ++ v.text ++ "%'"

/-- Equality in which numbers are compared as numbers, and a whole number is no float. -/
def same : Value → Value → Bool
  | null, null => true
  | bool a, bool b => a == b
  | int a, int b => a == b
  | float a, float b => a.same b
  | string a, string b => a == b
  | parameter a, parameter b => a == b
  | call a, call b => a == b
  | _, _ => false

def toJson : Value → Json
  | null => .string "Null"
  | bool b => .object [("Bool", .bool b)]
  | int n => .object [("Int", .integer n.toInt)]
  | float x => .object [("Float", .real x)]
  | string s => .object [("String", .string s)]
  | parameter n => .object [("Param", .integer n.toNat)]
  | call function => .object [("Function", .string function)]

theorem toList_literal (s : String) : (literal s).toList = Text.enclose '\'' s.toList := by
  simp [literal]

end Value
end WithClause
