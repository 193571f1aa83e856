import WithClause.Query

/-! The JSON form of queries. Fields stand in the order of their declaration. -/
namespace WithClause

/-- The prologue is left out when it declares nothing. -/
def queryJson (s : Select) (declares : Bool) (ctes : Json) : Json :=
  .object ([("table", .string s.table), ("columns", .array (s.columns.map .string)),
    ("cages", .array (s.clauses.map Clause.toJson))] ++ if declares then [("ctes", ctes)] else [])

mutual
def Query.toJson : Query → Json
  | ⟨s, r⟩ => queryJson s (!r.definitions.isEmpty) r.toJson

def Registry.toJson : Registry → Json
  | ⟨ds, recursive⟩ =>
    .object [("definitions", .array (Definition.allToJson ds)), ("recursive", .bool recursive)]

def Definition.allToJson : List Definition → List Json
  | [] => []
  | d :: ds => d.toJson :: Definition.allToJson ds

def Definition.toJson : Definition → Json
  | ⟨name, body⟩ => .object [("name", .string name), ("body", body.toJson)]

def Body.toJson : Body → Json
  | .query q => .object [("kind", .string "query"), ("value", q.toJson)]
  | .raw sql => .object [("kind", .string "sql"), ("value", .string sql)]
end

end WithClause
