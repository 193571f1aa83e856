import WithClause.Proofs.Query.Select
import WithClause.Proofs.Text.Balance
import WithClause.Query.Sql

/-! The parentheses in the text of a query. Besides those in the texts that the query was given there are
only the pairs of calls and those around the bodies of definitions, so what is made of balanced texts
is balanced, however deep its queries are nested. -/
namespace WithClause
open Text

/-- Each text by itself is balanced. -/
def AllBalanced (texts : List String) : Prop := ∀ t ∈ texts, Balanced t.toList

instance (texts : List String) : Decidable (AllBalanced texts) :=
  List.decidableBAll (fun t : String => Balanced t.toList) texts

namespace AllBalanced

lemma append_iff {ts us : List String} :
    AllBalanced (ts ++ us) ↔ AllBalanced ts ∧ AllBalanced us := List.forall_mem_append

lemma cons_iff {t : String} {ts : List String} :
    AllBalanced (t :: ts) ↔ Balanced t.toList ∧ AllBalanced ts := List.forall_mem_cons

end AllBalanced

lemma compositional_balanced : Compositional Balanced where
  plain h := balanced_of_forall (List.all_eq_true.mp h) (by decide) (by decide)
  append := Balanced.append

namespace Value

/-- The texts that a value is written with, if it is. -/
def ingredients : Value → List String
  | string s => [s]
  | call function => [function]
  | _ => []

lemma balanced_literal {s : String} (h : Balanced s.toList) : Balanced (literal s).toList := by
  rw [toList_literal]
  exact h.enclose (by decide) (by decide)

lemma balanced_text {v : Value} (h : AllBalanced v.ingredients) : Balanced v.text.toList := by
  cases v with
  | null => decide
  | bool b => cases b <;> decide
  | int n => exact compositional_balanced.numeral (numeral_repr_int _)
  | float x => exact compositional_balanced.numeral (numeral_floatText x)
  | string s => exact balanced_literal (h s List.mem_cons_self)
  | parameter n =>
    rw [text,String.toList_append]
    exact .append (by decide) (compositional_balanced.numeral (numeral_repr _))
  | call function =>
    rw [text,String.toList_append]
    exact .append (h function List.mem_cons_self) (by decide)

lemma balanced_pattern {v : Value} (h : AllBalanced v.ingredients) : Balanced v.pattern.toList := by
  have hbetween : ∀ (before after : String), Balanced before.toList → Balanced after.toList →
      ∀ {t : String}, Balanced t.toList → Balanced (before ++ t ++ after).toList := by
    intro before after hbefore hafter t ht
    rw [String.toList_append,String.toList_append]
    exact (hbefore.append ht).append hafter
  cases v with
  | string s =>
    exact balanced_literal (hbetween "%" "%" (by decide) (by decide) (h s List.mem_cons_self))
  | parameter n => exact hbetween "'%' || " " || '%'" (by decide) (by decide) (balanced_text h)
  | null | bool b | int n | float x | call function =>
    exact hbetween "'%" "%'" (by decide) (by decide) (balanced_text h)

end Value

/-- A test for NULL does not write its value. -/
def Comparison.ingredients (value : Value) : Comparison → List String
  | isNull | isNotNull => []
  | eq | ne | gt | gte | lt | lte | fuzzy => value.ingredients

lemma Comparison.balanced_text {v : Value} {c : Comparison} (h : AllBalanced (c.ingredients v)) :
    Balanced (c.text v).toList := by
  cases c with
  | eq | ne | gt | gte | lt | lte =>
    rw [text,String.toList_append]
    exact .append (by decide) (Value.balanced_text h)
  | fuzzy =>
    rw [text,String.toList_append]
    exact .append (by decide) (Value.balanced_pattern h)
  | isNull => exact (show Balanced "IS NULL".toList by decide)
  | isNotNull => exact (show Balanced "IS NOT NULL".toList by decide)

namespace Condition

def ingredients (c : Condition) : List String := c.column :: c.comparison.ingredients c.value

lemma balanced_text {c : Condition} (h : AllBalanced c.ingredients) : Balanced c.text.toList := by
  obtain ⟨hcolumn,hvalue⟩ := AllBalanced.cons_iff.mp h
  rw [text,String.toList_append,String.toList_append]
  exact (hcolumn.append (by decide)).append (Comparison.balanced_text hvalue)

end Condition

namespace Clause

/-- A filter writes all of its conditions, any other clause at most the column it sorts by. -/
def ingredients (c : Clause) : List String :=
  match c.kind with
  | .filter => c.conditions.flatMap Condition.ingredients
  | _ => c.sortColumn?.toList

lemma balanced_filterTexts {c : Clause} (h : AllBalanced c.ingredients) :
    AllBalanced c.filterTexts := by
  obtain ⟨kind,conditions⟩ := c
  cases kind with
  | filter =>
    intro t ht
    obtain ⟨d,hd,rfl⟩ := List.mem_map.mp ht
    exact Condition.balanced_text (List.forall_mem_flatMap.mp h d hd)
  | sort direction => exact List.forall_mem_nil _
  | limit n => exact List.forall_mem_nil _
  | offset n => exact List.forall_mem_nil _

end Clause

namespace Select

def ingredients (s : Select) : List String :=
  s.table :: s.columns ++ s.clauses.flatMap Clause.ingredients

theorem balanced_text {s : Select} (h : AllBalanced s.ingredients) : Balanced s.text.toList := by
  obtain ⟨hrest,hclauses⟩ := AllBalanced.append_iff.mp h
  obtain ⟨htable,hcolumns⟩ := AllBalanced.cons_iff.mp hrest
  have hclause : ∀ c ∈ s.clauses, AllBalanced c.ingredients := List.forall_mem_flatMap.mp hclauses
  have hfilters : AllBalanced s.filterTexts := by
    intro t ht
    obtain ⟨c,hc,ht⟩ := List.mem_flatMap.mp ht
    exact c.balanced_filterTexts (hclause c hc) t ht
  have hsort : ∀ c ∈ s.clauses, ∀ t ∈ c.sortColumn?, Balanced t.toList := by
    intro c hc t ht
    obtain ⟨direction,first,rest,rfl,rfl⟩ := c.exists_of_mem_sortColumn? ht
    exact hclause _ hc _ List.mem_cons_self
  rw [s.text_eq,String.toList_append,String.toList_append]
  exact ((compositional_balanced.opening htable hcolumns).append
    (compositional_balanced.part (by decide) (by decide) hfilters)).append
      (compositional_balanced.closing hsort)

end Select

mutual
/-- The texts that a query is written with, the names in its prologue among them. -/
def Query.ingredients : Query → List String
  | ⟨s, r⟩ => r.ingredients ++ s.ingredients

def Registry.ingredients : Registry → List String
  | ⟨ds, _⟩ => Definition.allIngredients ds

def Definition.allIngredients : List Definition → List String
  | [] => []
  | d :: ds => d.ingredients ++ Definition.allIngredients ds

def Definition.ingredients : Definition → List String
  | ⟨name, body⟩ => name :: body.ingredients

def Body.ingredients : Body → List String
  | .query q => q.ingredients
  | .raw sql => [sql]
end

/-- The body stands in a pair of parentheses. -/
lemma balanced_declarationText {name sql : String} (hname : Balanced name.toList)
    (hsql : Balanced sql.toList) : Balanced (declarationText name sql).toList := by
  have hquote : Balanced (Identifier.quoteChars name.toList) := by
    rw [Identifier.quoteChars]
    split
    · exact hname
    · exact hname.enclose (by decide) (by decide)
  have hkeyword : Balanced " AS ".toList := by decide
  rw [toList_declarationText]
  exact hquote.append (hkeyword.append hsql.parenthesized)

lemma balanced_prologueText {texts : List String} (h : AllBalanced texts) (recursive : Bool) :
    Balanced (prologueText recursive texts).toList := by
  cases texts with
  | nil => exact (show Balanced "".toList by decide)
  | cons t ts =>
    rw [prologueText,String.toList_append]
    · refine .append ?_ (compositional_balanced.intercalate (by decide) h)
      cases recursive <;> decide
    · simp

mutual
theorem Query.balanced_text : ∀ q : Query, AllBalanced q.ingredients → Balanced q.text.toList
  | ⟨s, r⟩ => by
    intro h
    rw [Query.ingredients,AllBalanced.append_iff] at h
    have hselect := Select.balanced_text h.2
    rw [Query.text]
    split
    · exact hselect
    · rw [String.toList_append,String.toList_append]
      exact ((Registry.balanced_text r h.1).append (by decide)).append hselect

theorem Registry.balanced_text :
    ∀ r : Registry, AllBalanced r.ingredients → Balanced r.text.toList
  | ⟨ds, recursive⟩ => by
    intro h
    rw [Registry.ingredients] at h
    rw [Registry.text]
    exact balanced_prologueText (Definition.balanced_texts ds h) recursive

theorem Definition.balanced_texts :
    ∀ ds : List Definition, AllBalanced (Definition.allIngredients ds) →
      AllBalanced (Definition.texts ds)
  | [] => by
    intro _
    rw [Definition.texts]
    exact List.forall_mem_nil _
  | d :: ds => by
    intro h
    rw [Definition.allIngredients,AllBalanced.append_iff] at h
    rw [Definition.texts,AllBalanced.cons_iff]
    exact ⟨Definition.balanced_text d h.1,Definition.balanced_texts ds h.2⟩

theorem Definition.balanced_text :
    ∀ d : Definition, AllBalanced d.ingredients → Balanced d.text.toList
  | ⟨name, body⟩ => by
    intro h
    rw [Definition.ingredients,AllBalanced.cons_iff] at h
    rw [Definition.text]
    exact balanced_declarationText h.1 (Body.balanced_text body h.2)

theorem Body.balanced_text : ∀ b : Body, AllBalanced b.ingredients → Balanced b.text.toList
  | .query q => by
    intro h
    rw [Body.ingredients] at h
    rw [Body.text]
    exact Query.balanced_text q h
  | .raw sql => by
    intro h
    rw [Body.ingredients] at h
    rw [Body.text]
    exact h sql List.mem_cons_self
end

end WithClause
