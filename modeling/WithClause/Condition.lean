import WithClause.Value

/-! Conditions on one column. -/
namespace WithClause

inductive Comparison where
  | eq
  | ne
  | gt
  | gte
  | lt
  | lte
  | fuzzy
  | isNull
  | isNotNull
  deriving DecidableEq

namespace Comparison

/-- What follows the column. -/
def text (value : Value) : Comparison → String
  | eq => "= " ++ value.text
  | ne => "!= " ++ value.text
  | gt => "> " ++ value.text
  | gte => ">= " ++ value.text
  | lt => "< " ++ value.text
  | lte => "<= " ++ value.text
  | fuzzy => "ILIKE " ++ value.pattern
  | isNull => "IS NULL"
  | isNotNull => "IS NOT NULL"

def name : Comparison → String
  | eq => "Eq"
  | ne => "Ne"
  | gt => "Gt"
  | gte => "Gte"
  | lt => "Lt"
  | lte => "Lte"
  | fuzzy => "Fuzzy"
  | isNull => "IsNull"
  | isNotNull => "IsNotNull"

end Comparison

structure Condition where
  column : String
  comparison : Comparison
  value : Value

namespace Condition

def text (c : Condition) : String := c.column ++ " " ++ c.comparison.text c.value

def same (c d : Condition) : Bool :=
  c.column == d.column && c.comparison == d.comparison && c.value.same d.value

def toJson (c : Condition) : Json :=
  .object [("column", .string c.column), ("op", .string c.comparison.name),
    ("value", c.value.toJson)]

end Condition
end WithClause
