import WithClause.Proofs.Identifier.LetterCase
import WithClause.Proofs.Registry.Conflicts
import WithClause.Proofs.Registry.Items

/-! Declarations that a database takes for two of one name. The registry compares names as they are and
the database folds the bare ones, so what is not listed as a conflict can still clash in letter case,
and in nothing else. -/
namespace WithClause
open Text Identifier

namespace Definition

variable {d e : Definition}

/-- The database takes both declarations for ones of the same name. -/
def Clashes (d e : Definition) : Prop :=
  ∃ name, resolve d.text.toList = some name ∧ resolve e.text.toList = some name

/-- Both names are bare, and the same but for the case of their letters. -/
def BareAlike (d e : Definition) : Prop :=
  isBare d.name.toList = true ∧ isBare e.name.toList = true ∧
    SameLetters d.name.toList e.name.toList

instance (d e : Definition) : Decidable (d.BareAlike e) :=
  inferInstanceAs (Decidable (isBare d.name.toList = true ∧ isBare e.name.toList = true ∧
    SameLetters d.name.toList e.name.toList))

lemma resolve_text (d : Definition) : resolve d.text.toList = some (folded d.name.toList) := by
  rw [d.text_eq,toList_declarationText]
  exact resolve_quoteChars _ (stops_cons.mpr (by decide)) (stops_cons.mpr (by decide))

/-- The identifier alone decides what a declaration is taken for. -/
lemma resolve_quote (d : Definition) : resolve d.text.toList = resolve (quote d.name).toList := by
  have hstops : ∀ p : Char → Bool, Stops p [] := by simp [Stops]
  have hquote := resolve_quoteChars d.name.toList (hstops continuesBare) (hstops (· == '"'))
  rw [List.append_nil,← toList_quote] at hquote
  rw [resolve_text,hquote]

theorem clashes_iff : d.Clashes e ↔ d.name = e.name ∨ d.BareAlike e := by
  have hfolded : d.Clashes e ↔ folded d.name.toList = folded e.name.toList := by
    rw [Clashes,resolve_text,resolve_text]
    simp [eq_comm]
  rw [hfolded,folded_eq_iff,String.toList_inj,BareAlike]

end Definition

namespace Registry

variable {r : Registry}

lemma conflicts_eq_nil_iff_pairwise :
    r.conflicts = [] ↔ r.definitions.Pairwise fun d e => d.name ≠ e.name := by
  rw [conflicts_eq_nil_iff,List.Nodup,List.pairwise_map]

/-- What a declaration is taken for is what its identifier in the prologue is taken for. Where no conflict
is listed, two of them clash exactly if their names are bare and differ in letter case alone. So none
do exactly if there are neither conflicts nor two such names. -/
theorem clashes_exact (r : Registry) :
    (∃ identifiers,
      declaredIdentifiers (r.definitions.map fun d => d.body.text) r.text = some identifiers ∧
      List.Forall₂ (fun d identifier => resolve d.text.toList = resolve identifier.toList)
        r.definitions identifiers) ∧
    (r.conflicts = [] → r.definitions.Pairwise fun d e => d.Clashes e ↔ d.BareAlike e) ∧
    ((r.definitions.Pairwise fun d e => ¬ d.Clashes e) ↔
      r.conflicts = [] ∧ r.definitions.Pairwise fun d e => ¬ d.BareAlike e) := by
  refine ⟨⟨_,r.declaredIdentifiers_text,?_⟩,?_,?_⟩
  · exact List.forall₂_map_right_iff.mpr (List.forall₂_same.mpr fun d _ => d.resolve_quote)
  · intro h
    refine (conflicts_eq_nil_iff_pairwise.mp h).imp ?_
    intro d e hname
    rw [Definition.clashes_iff,or_iff_right hname]
  · simp only [Definition.clashes_iff, not_or, List.pairwise_and_iff,
      conflicts_eq_nil_iff_pairwise, ne_eq]

/-- Letter case alone separates two names that are written in quotes, for which it counts, and two bare
ones, for which it does not. -/
theorem clashes_exact_letterCase :
    let upper : Definition := .raw "ORDER" "1"
    let lower : Definition := .raw "order" "2"
    let capital : Definition := .raw "Recent" "3"
    let small : Definition := .raw "recent" "4"
    declaredIdentifiers ["1", "2", "3", "4"] (Registry.mk [upper, lower, capital, small] false).text =
        some ["\"ORDER\"", "\"order\"", "Recent", "recent"] ∧
      (Registry.mk [upper, lower, capital, small] false).conflicts = [] ∧
      ¬ upper.Clashes lower ∧ capital.Clashes small ∧
      [upper, lower, capital].Pairwise fun d e => ¬ d.Clashes e := by
  intro upper lower capital small
  have hconflicts : (Registry.mk [upper, lower, capital, small] false).conflicts = [] := rfl
  obtain ⟨-,hclashes,-⟩ := clashes_exact ⟨[upper, lower, capital, small], false⟩
  have hdeclared := declaredIdentifiers_text ⟨[upper, lower, capital, small], false⟩
  have hquoted : [upper, lower, capital, small].map (fun d => quote d.name) =
      ["\"ORDER\"", "\"order\"", "Recent", "recent"] := by decide +kernel
  rw [hquoted] at hdeclared
  obtain ⟨hupper,hrest⟩ := List.pairwise_cons.mp (hclashes hconflicts)
  obtain ⟨hcapital,-⟩ := List.pairwise_cons.mp (List.pairwise_cons.mp hrest).2
  obtain ⟨-,-,hnone⟩ := clashes_exact ⟨[upper, lower, capital], false⟩
  refine ⟨hdeclared,hconflicts,?_,?_,hnone.mpr ⟨rfl,by decide +kernel⟩⟩
  · rw [hupper lower List.mem_cons_self]
    decide +kernel
  · rw [hcapital small List.mem_cons_self]
    decide +kernel

/-- Two bare names that differ in their first letter are no conflict, but clash. -/
theorem not_unclashing_of_letterCase :
    let r : Registry := ⟨[.raw "Recent" "SELECT 1", .raw "recent" "SELECT 2"], false⟩
    (attach {} [.text "Recent AS (SELECT 1)", .text "recent AS (SELECT 2)"] false).outcome =
      .ok r ∧
    r.text = "WITH Recent AS (SELECT 1), recent AS (SELECT 2)" ∧ r.conflicts = [] ∧
    ¬ ∀ (ds : List Definition) (r : Registry), Built ds r → r.conflicts = [] →
      r.definitions.Pairwise fun d e => ¬ d.Clashes e := by
  intro r
  have hcapital : NamedExpression.parse "Recent AS (SELECT 1)" =
      .ok ⟨"Recent", "SELECT 1"⟩ := by decide +kernel
  have hsmall : NamedExpression.parse "recent AS (SELECT 2)" =
      .ok ⟨"recent", "SELECT 2"⟩ := by decide +kernel
  have hattach : (attach {} [.text "Recent AS (SELECT 1)", .text "recent AS (SELECT 2)"]
      false).outcome = .ok r := by
    refine attach_eq_ok_iff.mpr ⟨List.cons_ne_nil _ _,r.definitions,?_,?_,rfl⟩
    · exact .cons (.text hcapital) (.cons (.text hsmall) .nil)
    · simp [r, novel, Definition.same, Definition.raw]
  have hconflicts : r.conflicts = [] := rfl
  refine ⟨hattach,by decide +kernel,hconflicts,?_⟩
  intro h
  obtain ⟨ds,hds,-⟩ := outcome_attach_eq_ok_iff.mp hattach
  have hpairwise := h _ r (.attach .empty hds hattach) hconflicts
  obtain ⟨hnot,-⟩ := List.pairwise_cons.mp hpairwise
  apply hnot _ List.mem_cons_self
  rw [Definition.clashes_iff]
  exact .inr (by decide +kernel)

end Registry
end WithClause
