import WithClause.Identifier
import WithClause.Query

/-! The SQL text of queries: the WITH prologue, if there are definitions, and the statement. -/
namespace WithClause

/-- The prologue that declares the given texts, empty if there are none. -/
def prologueText (recursive : Bool) : List String → String
  | [] => ""
  | texts => "WITH " ++ (if recursive then "RECURSIVE " else "") ++ ", ".intercalate texts

def declarationText (name sql : String) : String := Identifier.quote name ++ " AS (" ++ sql ++ ")"

theorem toList_declarationText (name sql : String) : (declarationText name sql).toList =
    Identifier.quoteChars name.toList ++ (" AS (".toList ++ (sql.toList ++ [')'])) := by
  simp [declarationText, Identifier.toList_quote]

mutual
def Query.text : Query → String
  | ⟨s, r⟩ => if r.definitions.isEmpty then s.text else r.text ++ " " ++ s.text

/-- The WITH prologue of the registry. -/
def Registry.text : Registry → String
  | ⟨ds, recursive⟩ => prologueText recursive (Definition.texts ds)

def Definition.texts : List Definition → List String
  | [] => []
  | d :: ds => d.text :: Definition.texts ds

/-- The declaration of one name. -/
def Definition.text : Definition → String
  | ⟨name, body⟩ => declarationText name body.text

def Body.text : Body → String
  | .query q => q.text
  | .raw sql => sql
end

theorem Query.text_eq (q : Query) :
    q.text = if q.ctes.definitions.isEmpty then q.toSelect.text
      else q.ctes.text ++ " " ++ q.toSelect.text := by
  cases q; simp only [Query.text]

theorem Definition.texts_eq_map (ds : List Definition) :
    Definition.texts ds = ds.map Definition.text := by
  induction ds with
  | nil => simp only [Definition.texts, List.map_nil]
  | cons d ds ih => simp only [Definition.texts, ih, List.map_cons]

theorem Registry.text_eq (r : Registry) :
    r.text = prologueText r.recursive (r.definitions.map Definition.text) := by
  cases r; simp only [Registry.text, Definition.texts_eq_map]

theorem Definition.text_eq (d : Definition) : d.text = declarationText d.name d.body.text := by
  cases d; simp only [Definition.text]

/-- The prologue to put in front of a statement, if there is one. -/
def Registry.prologue? (r : Registry) : Option String :=
  if r.definitions.isEmpty then none else some r.text

end WithClause
