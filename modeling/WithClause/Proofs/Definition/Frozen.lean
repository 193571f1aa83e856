import WithClause.Proofs.Query.Balance
import WithClause.Proofs.Registry.Items

/-! Definitions that are attached as their own text. Whatever query the body is, it comes back as the SQL of
that query, and the prologue is the same. -/
namespace WithClause
open Text

/-- An argument with one item is all that an empty registry then holds. -/
lemma Registry.attach_empty {a : Argument} {i : Item} {d : Definition} (hitems : a.items = [i])
    (hd : i.Declares d) (recursive : Bool) :
    (attach {} [a] recursive).outcome = .ok ⟨[d], recursive⟩ := by
  have hdeclares : List.Forall₂ Item.Declares ([a].flatMap Argument.items) [d] := by
    rw [List.flatMap_singleton,hitems]
    exact .cons hd .nil
  exact attach_eq_ok_iff.mpr ⟨by simp,[d],hdeclares,rfl,rfl⟩

namespace Definition

variable {d : Definition}

lemma Legible.filled (h : d.Legible) : d.Filled := by
  refine ⟨h.name_not_blank,?_⟩
  intro sql hsql
  have htext : d.body.text = sql := by rw [hsql,Body.text]
  rw [← htext]
  exact h.body_not_blank

/-- The name and the SQL are read as they are. -/
lemma Legible.declares (h : d.Legible) (hname : trim d.name.toList = d.name.toList)
    (hbody : trim d.body.text.toList = d.body.text.toList) :
    (Item.element (.text d.text)).Declares (raw d.name d.body.text) :=
  .text (h.parse_text hname hbody)

lemma text_raw_body (d : Definition) : (raw d.name d.body.text).text = d.text := by
  rw [text_eq,text_eq,text_raw]
  rfl

/-- A body made of balanced texts has a balanced text. If moreover neither that nor the name is blank
or has blanks around it, and no double quote is in the name, then the text of the definition can be
attached in its place and gives the same prologue. -/
theorem attach_own_text (d : Definition) (h : AllBalanced d.body.ingredients) :
    Balanced d.body.text.toList ∧
    (¬ Blank d.body.text.toList → trim d.body.text.toList = d.body.text.toList →
      trim d.name.toList = d.name.toList → ¬ Blank d.name.toList → '"' ∉ d.name.toList →
      ∀ recursive : Bool,
        (Registry.attach {} [.text d.text] recursive).outcome =
          .ok ⟨[raw d.name d.body.text], recursive⟩ ∧
        (Registry.attach {} [.definition d] recursive).outcome = .ok ⟨[d], recursive⟩ ∧
        (Registry.mk [raw d.name d.body.text] recursive).text =
          (Registry.mk [d] recursive).text) := by
  have hbalanced := Body.balanced_text d.body h
  refine ⟨hbalanced,?_⟩
  intro hfilled hbody hname hnamed hquote recursive
  have hlegible : d.Legible := ⟨hnamed,hquote,hfilled,hbalanced⟩
  refine ⟨?_,?_,?_⟩
  · exact Registry.attach_empty rfl (hlegible.declares hname hbody) recursive
  · exact Registry.attach_empty rfl (.held (.definition d) hlegible.filled) recursive
  · simp only [Registry.text_eq, List.map_singleton, text_raw_body]

/-- A call, a column that is one, a pattern, a definition inside under a name with parentheses, and
a parenthesis in a value that is not written. -/
def nestedCalls : Definition where
  name := "order"
  body := .query
    { table := "u"
      columns := ["count(*)"]
      clauses := [⟨.filter, [⟨"at", .lt, .call "now"⟩, ⟨"x", .isNull, .string "("⟩,
        ⟨"s", .fuzzy, .string "(')"⟩]⟩, ⟨.limit 1, [⟨")", .eq, .null⟩]⟩]
      ctes := { definitions := [⟨"a (b)", .query (.ofTable "v")⟩, .raw "c" "f(1)"] } }

theorem attach_own_text_nested :
    AllBalanced nestedCalls.body.ingredients ∧
      nestedCalls.body.text = "WITH \"a (b)\" AS (SELECT * FROM v), c AS (f(1)) " ++
        "SELECT count(*) FROM u WHERE at < now() AND x IS NULL AND s ILIKE '%('')%' LIMIT 1" ∧
      (Registry.attach {} [.text nestedCalls.text] true).outcome =
        .ok ⟨[raw "order" nestedCalls.body.text], true⟩ ∧
      (Registry.attach {} [.definition nestedCalls] true).outcome = .ok ⟨[nestedCalls], true⟩ ∧
      (Registry.mk [raw "order" nestedCalls.body.text] true).text =
        (Registry.mk [nestedCalls] true).text := by
  have hingredients : nestedCalls.body.ingredients =
      ["a (b)", "v", "c", "f(1)", "u", "count(*)", "at", "now", "x", "s", "(')"] := rfl
  have hbalanced : AllBalanced nestedCalls.body.ingredients := by
    rw [hingredients]
    decide
  have htext : nestedCalls.body.text = "WITH \"a (b)\" AS (SELECT * FROM v), c AS (f(1)) " ++
      "SELECT count(*) FROM u WHERE at < now() AND x IS NULL AND s ILIKE '%('')%' LIMIT 1" := by
    decide +kernel
  have htrim : trim nestedCalls.body.text.toList = nestedCalls.body.text.toList := by
    rw [htext,String.toList_append]
    decide +kernel
  have hfilled : ¬ Blank nestedCalls.body.text.toList := by
    rw [← trim_eq_nil,htrim,htext,String.toList_append,List.append_eq_nil_iff]
    decide +kernel
  obtain ⟨-,hattach⟩ := attach_own_text nestedCalls hbalanced
  exact ⟨hbalanced,htext,hattach hfilled htrim (by decide) (by decide) (by decide) true⟩

end Definition
end WithClause
