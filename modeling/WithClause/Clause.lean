import WithClause.Condition

/-! The clauses that follow the table of a SELECT statement. -/
namespace WithClause

inductive Direction where
  | ascending
  | descending
  deriving DecidableEq

namespace Clause

inductive Kind where
  | filter
  | sort (direction : Direction)
  | limit (n : UInt64)
  | offset (n : UInt64)
  deriving DecidableEq

end Clause

/-- A filter uses all its conditions, a sort the column of the first one, a limit and an offset
none. -/
structure Clause where
  kind : Clause.Kind
  conditions : List Condition

namespace Direction

def text : Direction → String
  | ascending => "ASC"
  | descending => "DESC"

def name : Direction → String
  | ascending => "Asc"
  | descending => "Desc"

end Direction

namespace Clause

def filterTexts (c : Clause) : List String :=
  match c.kind with
  | .filter => c.conditions.map Condition.text
  | _ => []

def sortText? (c : Clause) : Option String :=
  match c.kind, c.conditions with
  | .sort direction, first :: _ => some (first.column ++ " " ++ direction.text)
  | _, _ => none

def limit? (c : Clause) : Option UInt64 :=
  match c.kind with
  | .limit n => some n
  | _ => none

def offset? (c : Clause) : Option UInt64 :=
  match c.kind with
  | .offset n => some n
  | _ => none

def isFilter (c : Clause) : Bool := c.kind == .filter

def same (c d : Clause) : Bool :=
  c.kind == d.kind && c.conditions.isEqv d.conditions Condition.same

namespace Kind

def toJson : Kind → Json
  | filter => .string "Filter"
  | sort direction => .object [("Sort", .string direction.name)]
  | limit n => .object [("Limit", .integer n.toNat)]
  | offset n => .object [("Offset", .integer n.toNat)]

end Kind

def toJson (c : Clause) : Json :=
  .object [("kind", c.kind.toJson), ("conditions", .array (c.conditions.map Condition.toJson))]

end Clause
end WithClause
