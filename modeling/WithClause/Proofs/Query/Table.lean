import WithClause.Proofs.Identifier.Bare
import WithClause.Proofs.Query.Payload
import WithClause.Query.Sql

/-! A query that selects from a definition of its own prologue. The prologue writes the name as an
identifier, in quotes where it needs them, and FROM repeats the table as it is. -/
namespace WithClause

section Prologue
variable {texts : List String} {t : String}

lemma infix_intercalate (separator : String) (h : t ∈ texts) :
    t.toList <:+: (separator.intercalate texts).toList := by
  induction texts with
  | nil => cases h
  | cons u us ih =>
    cases us with
    | nil =>
      obtain rfl := List.mem_singleton.mp h
      simp
    | cons v us =>
      rw [String.intercalate_cons_cons,String.toList_append]
      rcases List.mem_cons.mp h with rfl | h
      · rw [String.toList_append,List.append_assoc]
        exact (List.prefix_append _ _).isInfix
      · exact (ih h).trans (List.suffix_append _ _).isInfix

/-- A prologue has each of its declarations in it. -/
lemma infix_prologueText (recursive : Bool) (h : t ∈ texts) :
    t.toList <:+: (prologueText recursive texts).toList := by
  obtain ⟨u,us,rfl⟩ := List.exists_cons_of_ne_nil (List.ne_nil_of_mem h)
  simp only [prologueText, String.toList_append]
  exact (infix_intercalate ", " h).trans (List.suffix_append _ _).isInfix

end Prologue

theorem Registry.infix_text {r : Registry} {d : Definition} (h : d ∈ r.definitions) :
    (declarationText d.name d.body.text).toList <:+: r.text.toList := by
  rw [r.text_eq,← d.text_eq]
  exact infix_prologueText r.recursive (List.mem_map_of_mem h)

namespace Query

/-- The text behind the table. -/
def clausesText (q : Query) : String :=
  Select.part " WHERE " " AND " q.filterTexts ++ q.closing

/-- The query as a text in which FROM names a given table. -/
def textFrom (q : Query) (identifier : String) : String :=
  q.ctes.text ++ " SELECT " ++ q.columnsText ++ " FROM " ++ identifier ++ q.clausesText

/-- FROM names the table as the prologue declares it. -/
def SelectsDeclared (q : Query) : Prop := q.text = q.textFrom (Identifier.quote q.table)

lemma textFrom_injective (q : Query) : Function.Injective q.textFrom := by
  intro s t h
  rw [textFrom,textFrom,String.append_left_inj,String.append_right_inj] at h
  exact h

lemma text_eq_textFrom_iff {q : Query} (h : q.ctes.definitions ≠ []) {identifier : String} :
    q.text = q.textFrom identifier ↔ identifier = q.table := by
  have hnonempty : ¬ q.ctes.definitions.isEmpty = true := by rwa [List.isEmpty_iff]
  have hselect : " SELECT " = " " ++ "SELECT " := by decide
  have htext : q.text = q.textFrom q.table := by
    rw [q.text_eq,if_neg hnonempty,Select.text_eq,Select.opening,textFrom,clausesText,hselect]
    simp only [String.append_assoc]
  rw [htext,q.textFrom_injective.eq_iff,eq_comm]

/-- A query that selects from one of its definitions writes the name twice, as an identifier in the
prologue and as it is in FROM. The two are the same exactly for bare names. -/
theorem selectsDeclared_iff {q : Query} {d : Definition} (hd : d ∈ q.ctes.definitions)
    (hname : d.name = q.table) :
    (declarationText q.table d.body.text).toList <:+: q.ctes.text.toList ∧
      (∀ identifier, q.text = q.textFrom identifier ↔ identifier = q.table) ∧
      (q.SelectsDeclared ↔ Identifier.isBare q.table.toList = true) := by
  have hne : q.ctes.definitions ≠ [] := List.ne_nil_of_mem hd
  refine ⟨?_,fun _ => text_eq_textFrom_iff hne,?_⟩
  · rw [← hname]
    exact Registry.infix_text hd
  · rw [SelectsDeclared,text_eq_textFrom_iff hne,Identifier.quote_eq_self_iff]

/-- A query on one of two definitions, of which one has a reserved word for its name. -/
def onDeclared (table : String) : Query where
  table
  ctes := { definitions := [.raw "order" "SELECT 1", .raw "recent" "SELECT 2"] }

theorem selectsDeclared_recent : (onDeclared "recent").SelectsDeclared := by
  have hd : Definition.raw "recent" "SELECT 2" ∈ (onDeclared "recent").ctes.definitions :=
    List.mem_cons_of_mem _ List.mem_cons_self
  obtain ⟨-,-,hiff⟩ := selectsDeclared_iff hd rfl
  exact hiff.mpr (by decide +kernel)

/-- A reserved word is declared in quotes and selected from without them. -/
theorem not_selectsDeclared_order :
    (onDeclared "order").text =
      "WITH \"order\" AS (SELECT 1), recent AS (SELECT 2) SELECT * FROM order" ∧
    ¬ ∀ (q : Query) (d : Definition), d ∈ q.ctes.definitions → d.name = q.table →
      q.SelectsDeclared := by
  refine ⟨by decide +kernel,?_⟩
  intro h
  have hd : Definition.raw "order" "SELECT 1" ∈ (onDeclared "order").ctes.definitions :=
    List.mem_cons_self
  have hselects : (onDeclared "order").SelectsDeclared := h _ _ hd rfl
  rw [SelectsDeclared,text_eq_textFrom_iff (List.ne_nil_of_mem hd)] at hselects
  revert hselects
  decide +kernel

end Query
end WithClause
