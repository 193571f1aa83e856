import WithClause.Registry.Attach

/-! Building queries step by step. -/
namespace WithClause.Query

/-- Replaces the selected columns. No columns select all of them. -/
def withColumns (q : Query) (columns : List String) : Query := { q with columns }

def add (q : Query) (kind : Clause.Kind) (conditions : List Condition) : Query :=
  { q with clauses := q.clauses ++ [⟨kind, conditions⟩] }

def filter (q : Query) (column : String) (comparison : Comparison) (value : Value) : Query :=
  q.add .filter [⟨column, comparison, value⟩]

/-- The condition of a sort only names its column. -/
def sort (q : Query) (direction : Direction) (column : String) : Query :=
  q.add (.sort direction) [⟨column, .eq, .null⟩]

def limit (q : Query) (n : UInt64) : Query := q.add (.limit n) []

def offset (q : Query) (n : UInt64) : Query := q.add (.offset n) []

def attach (q : Query) (args : List Argument) (recursive : Bool) : Attempt Query := do
  return { q with ctes := ← q.ctes.attach args recursive }

/-- Our query narrowed by the filters of the other one, with the definitions of both. All else
of the other query is ignored. -/
def merge (q other : Query) : Logged Query := do
  return { q with
    ctes := ← q.ctes.merge other.ctes
    clauses := q.clauses ++ other.clauses.filter Clause.isFilter }

end WithClause.Query
