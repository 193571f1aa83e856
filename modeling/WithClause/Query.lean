import WithClause.Select

/-! Queries and the definitions of their WITH prologue, whose bodies may again be queries. -/
namespace WithClause

mutual
/-- A SELECT statement behind the definitions it may use. -/
structure Query extends Select where
  ctes : Registry

/-- Definitions in the order of their declaration. -/
structure Registry where
  definitions : List Definition := []
  recursive : Bool := false

structure Definition where
  name : String
  body : Body

inductive Body where
  | query (q : Query)
  | raw (sql : String)
end

namespace Query

def ofTable (table : String) : Query := { table, ctes := {} }

end Query

namespace Definition

def raw (name sql : String) : Definition := ⟨name, .raw sql⟩

end Definition

mutual
/-- Equality of all parts, with values compared as numbers; a query that holds a NaN differs from
itself. -/
def Query.same : Query → Query → Bool
  | ⟨s, r⟩, ⟨t, u⟩ => s.same t && r.same u

def Registry.same : Registry → Registry → Bool
  | ⟨ds, a⟩, ⟨es, b⟩ => Definition.allSame ds es && a == b

def Definition.allSame : List Definition → List Definition → Bool
  | [], [] => true
  | d :: ds, e :: es => d.same e && Definition.allSame ds es
  | _, _ => false

def Definition.same : Definition → Definition → Bool
  | ⟨m, b⟩, ⟨n, c⟩ => m == n && b.same c

def Body.same : Body → Body → Bool
  | .query q, .query r => q.same r
  | .raw s, .raw t => s == t
  | _, _ => false
end

end WithClause
