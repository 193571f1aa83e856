import WithClause.Query

/-! What is anywhere in a query, also in the queries of its definitions, at any depth. -/
namespace WithClause

def Condition.mapValue (f : Value → Value) (c : Condition) : Condition :=
  { c with value := f c.value }

def Clause.mapValues (f : Value → Value) (c : Clause) : Clause :=
  { c with conditions := c.conditions.map (Condition.mapValue f) }

def Select.mapValues (f : Value → Value) (s : Select) : Select :=
  { s with clauses := s.clauses.map (Clause.mapValues f) }

mutual
/-- The same query with other values in its conditions. -/
def Query.mapValues (f : Value → Value) : Query → Query
  | ⟨s, r⟩ => ⟨s.mapValues f, r.mapValues f⟩

def Registry.mapValues (f : Value → Value) : Registry → Registry
  | ⟨ds, recursive⟩ => ⟨Definition.mapAllValues f ds, recursive⟩

def Definition.mapAllValues (f : Value → Value) : List Definition → List Definition
  | [] => []
  | d :: ds => d.mapValues f :: Definition.mapAllValues f ds

def Definition.mapValues (f : Value → Value) : Definition → Definition
  | ⟨name, body⟩ => ⟨name, body.mapValues f⟩

def Body.mapValues (f : Value → Value) : Body → Body
  | .query q => .query (q.mapValues f)
  | .raw sql => .raw sql
end

section Gather
variable {α : Type} (select : Select → List α) (raw : String → List α)

mutual
/-- What is found in the SELECT statements and in the raw bodies, in the order of the text. -/
def Query.gather : Query → List α
  | ⟨s, r⟩ => r.gather ++ select s

def Registry.gather : Registry → List α
  | ⟨ds, _⟩ => Definition.gatherAll ds

def Definition.gatherAll : List Definition → List α
  | [] => []
  | d :: ds => d.gather ++ Definition.gatherAll ds

def Definition.gather : Definition → List α
  | ⟨_, body⟩ => body.gather

def Body.gather : Body → List α
  | .query q => q.gather
  | .raw sql => raw sql
end

end Gather

namespace Value

/-- The same value, but for the characters of a string. -/
def hollow : Value → Value
  | string _ => string ""
  | v => v

/-- The only text in a value that is written as it is. -/
def fragments : Value → List String
  | call function => [function]
  | _ => []

/-- What the literals in the text of a value hold. -/
def literals : Value → List String
  | string s => [s]
  | _ => []

/-- What the literals in the pattern for a value hold. -/
def patternLiterals : Value → List String
  | string s => ["%" ++ s ++ "%"]
  | parameter _ => ["%", "%"]
  | v => ["%" ++ v.text ++ "%"]

end Value

def Comparison.literals (value : Value) : Comparison → List String
  | fuzzy => value.patternLiterals
  | isNull | isNotNull => []
  | eq | ne | gt | gte | lt | lte => value.literals

namespace Condition

def fragments (c : Condition) : List String := c.column :: c.value.fragments

def literals (c : Condition) : List String := c.comparison.literals c.value

end Condition

namespace Clause

def fragments (c : Clause) : List String := c.conditions.flatMap Condition.fragments

def literals (c : Clause) : List String :=
  match c.kind with
  | .filter => c.conditions.flatMap Condition.literals
  | _ => []

end Clause

namespace Select

def fragments (s : Select) : List String :=
  s.table :: s.columns ++ s.clauses.flatMap Clause.fragments

def literals (s : Select) : List String := s.clauses.flatMap Clause.literals

end Select

namespace Query

/-- The same query, but for the characters of the strings in its conditions. -/
def hollow (q : Query) : Query := q.mapValues Value.hollow

/-- All texts that are written as they are: tables, columns, functions and raw bodies. -/
def fragments (q : Query) : List String := q.gather Select.fragments fun sql => [sql]

/-- What the literals in the text of a query hold, in order. -/
def literals (q : Query) : List String := q.gather Select.literals fun _ => []

end Query

end WithClause
