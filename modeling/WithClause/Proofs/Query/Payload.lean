import WithClause.Proofs.Query.Parts
import WithClause.Proofs.Query.Select
import WithClause.Proofs.Text.Alike
import WithClause.Query.Sql

/-! The strings in the conditions of a query stay inside their literals: what they hold has no
influence on the rest of the text. -/
namespace WithClause
open Text

namespace Value

lemma quoteless_text {v : Value} (h : AllQuoteless v.fragments) (hv : v.literals = []) :
    Quoteless v.text.toList := by
  cases v with
  | null => decide
  | bool b => cases b <;> decide
  | int n => exact (numeral_repr_int _).quoteless
  | float x => exact (numeral_floatText x).quoteless
  | string s => cases hv
  | parameter n =>
    rw [text,String.toList_append,quoteless_append]
    exact ⟨by decide,(numeral_repr _).quoteless⟩
  | call function =>
    rw [text,String.toList_append,quoteless_append]
    exact ⟨h function List.mem_cons_self,by decide⟩

lemma alike_text {v : Value} (h : AllQuoteless v.fragments) :
    Alike v.text v.hollow.text v.literals := by
  cases v with
  | string s => exact .literal s ""
  | null | bool b | int n | float x | parameter n | call function =>
    exact .of_quoteless (quoteless_text h rfl)

/-- A pattern that is put together around a text without quotes is one literal. -/
lemma pattern_eq_literal {v : Value} (h : Quoteless v.text.toList) :
    "'%" ++ v.text ++ "%'" = literal ("%" ++ v.text ++ "%") := by
  apply String.toList_inj.mp
  have hquote : '\'' ∉ ("%" ++ v.text ++ "%").toList := by
    simpa using h.not_mem (by decide)
  rw [toList_literal,enclose,Identifier.double_of_not_mem hquote]
  simp

lemma alike_pattern {v : Value} (h : AllQuoteless v.fragments) :
    Alike v.pattern v.hollow.pattern v.patternLiterals := by
  have hother (hhollow : v.hollow = v) (hpattern : v.pattern = "'%" ++ v.text ++ "%'")
      (hliterals : v.patternLiterals = ["%" ++ v.text ++ "%"]) (hplain : v.literals = []) :
      Alike v.pattern v.hollow.pattern v.patternLiterals := by
    rw [hhollow,hliterals,hpattern,pattern_eq_literal (quoteless_text h hplain)]
    exact .literal _ _
  cases v with
  | string s => exact .literal _ _
  | parameter n =>
    have hmiddle : Quoteless (" || " ++ (parameter n).text ++ " || ").toList := by
      simp only [String.toList_append, Text.quoteless_append, quoteless_text h rfl]
      decide
    have hne : " || " ++ (parameter n).text ++ " || " ≠ "" := by simp
    have hpattern : (parameter n).pattern =
        literal "%" ++ (" || " ++ (parameter n).text ++ " || ") ++ literal "%" := by
      apply String.toList_inj.mp
      simp [pattern, toList_literal, enclose, double]
    change Alike (parameter n).pattern (parameter n).pattern ["%", "%"]
    rw [hpattern]
    exact (Alike.literal "%" "%").separated hmiddle hne (.literal "%" "%")
  | null | bool b | int n | float x | call function => exact hother rfl rfl rfl rfl

end Value

lemma Comparison.alike_text {v : Value} (h : AllQuoteless v.fragments) (c : Comparison) :
    Alike (c.text v) (c.text v.hollow) (c.literals v) := by
  cases c with
  | eq | ne | gt | gte | lt | lte => exact .quoteless_append (by decide) (Value.alike_text h)
  | fuzzy => exact .quoteless_append (by decide) (Value.alike_pattern h)
  | isNull => exact .of_quoteless (show Quoteless "IS NULL".toList by decide)
  | isNotNull => exact .of_quoteless (show Quoteless "IS NOT NULL".toList by decide)

lemma Condition.alike_text {c : Condition} (h : AllQuoteless c.fragments) :
    Alike c.text (c.mapValue Value.hollow).text c.literals := by
  obtain ⟨hcolumn,hvalue⟩ := List.forall_mem_cons.mp h
  apply Alike.quoteless_append _ (c.comparison.alike_text hvalue)
  rw [String.toList_append,Text.quoteless_append]
  exact ⟨hcolumn,by decide⟩

namespace Clause

lemma alike_filterTexts {c : Clause} (h : AllQuoteless c.fragments) :
    AllAlike c.filterTexts (c.mapValues Value.hollow).filterTexts c.literals := by
  obtain ⟨kind,conditions⟩ := c
  cases kind with
  | filter =>
    simp only [filterTexts, mapValues, literals, List.map_map]
    exact .map fun c hc => Condition.alike_text (List.forall_mem_flatMap.mp h c hc)
  | sort direction => exact .nil
  | limit n => exact .nil
  | offset n => exact .nil

lemma sortText?_mapValues (f : Value → Value) (c : Clause) :
    (c.mapValues f).sortText? = c.sortText? := by
  obtain ⟨kind,conditions⟩ := c
  cases kind <;> cases conditions <;> rfl

end Clause

namespace Select

lemma compositional_quoteless : Compositional Quoteless where
  plain h := quoteless_of_forall (List.all_eq_true.mp h) (by decide) (by decide)
  append hx hy := Text.quoteless_append.mpr ⟨hx,hy⟩

lemma alike_part {opening separator : String} {ts us held : List String}
    (h : AllAlike ts us held) (ho : Quoteless opening.toList) (hs : Quoteless separator.toList)
    (hne : separator ≠ "") : Alike (part opening separator ts) (part opening separator us) held := by
  cases h with
  | nil => exact .of_quoteless (show Quoteless "".toList by decide)
  | cons h hs' => exact .quoteless_append ho ((AllAlike.cons h hs').intercalate hs hne)

lemma closing_mapValues (f : Value → Value) (s : Select) : (s.mapValues f).closing = s.closing := by
  have hsort : (s.mapValues f).sortTexts = s.sortTexts := by
    rw [sortTexts,sortTexts,mapValues,List.filterMap_map]
    congr 1
    funext c
    exact c.sortText?_mapValues f
  have hlimit : (s.mapValues f).limit? = s.limit? := by
    rw [limit?,limit?,mapValues,List.filterMap_map]
    rfl
  have hoffset : (s.mapValues f).offset? = s.offset? := by
    rw [offset?,offset?,mapValues,List.filterMap_map]
    rfl
  rw [closing,closing,hsort,hlimit,hoffset]

theorem alike_text {s : Select} (h : AllQuoteless s.fragments) :
    Alike s.text (s.mapValues Value.hollow).text s.literals := by
  obtain ⟨htable,hrest⟩ := List.forall_mem_cons.mp h
  obtain ⟨hcolumns,hclauses⟩ := List.forall_mem_append.mp hrest
  have hclause : ∀ c ∈ s.clauses, AllQuoteless c.fragments := List.forall_mem_flatMap.mp hclauses
  have hfilters : AllAlike s.filterTexts (s.mapValues Value.hollow).filterTexts s.literals := by
    rw [filterTexts,filterTexts,mapValues,List.flatMap_map]
    exact .flatMap fun c hc => c.alike_filterTexts (hclause c hc)
  have hsort : ∀ c ∈ s.clauses, ∀ t ∈ c.sortColumn?, Quoteless t.toList := by
    intro c hc t ht
    obtain ⟨direction,first,rest,rfl,rfl⟩ := c.exists_of_mem_sortColumn? ht
    exact hclause _ hc _ (List.mem_flatMap_of_mem List.mem_cons_self List.mem_cons_self)
  rw [s.text_eq,text_eq,closing_mapValues]
  apply Alike.append_quoteless _ (compositional_quoteless.closing hsort)
  exact .quoteless_append (compositional_quoteless.opening htable hcolumns)
    (alike_part hfilters (by decide) (by decide) (by decide))

end Select

lemma Alike.declaration {t u : String} {held : List String} (h : Alike t u held) (name : String) :
    Alike (declarationText name t) (declarationText name u) held := by
  have hopen := (Alike.quote name).separated (p := " AS (") (by decide) (by decide) h
  exact hopen.append_quoteless (p := ")") (by decide)

lemma AllAlike.prologue {ts us held : List String} (h : AllAlike ts us held) (recursive : Bool) :
    Alike (prologueText recursive ts) (prologueText recursive us) held := by
  cases h with
  | nil => exact .of_quoteless (show Quoteless "".toList by decide)
  | cons h hs =>
    refine .quoteless_append ?_ ((AllAlike.cons h hs).intercalate (by decide) (by decide))
    cases recursive <;> decide

mutual
theorem Query.alike_text :
    ∀ q : Query, AllQuoteless q.fragments → Alike q.text q.hollow.text q.literals
  | ⟨s, ⟨[], recursive⟩⟩ => by
    intro h
    simp only [Query.fragments, Query.literals, Query.hollow, Query.gather, Registry.gather,
      Definition.gatherAll, Query.mapValues, Registry.mapValues, Definition.mapAllValues,
      Query.text, List.isEmpty_nil, if_true, List.nil_append] at h ⊢
    exact Select.alike_text h
  | ⟨s, ⟨d :: ds, recursive⟩⟩ => by
    intro h
    simp only [Query.fragments, Query.literals, Query.hollow, Query.gather, Query.mapValues,
      Registry.mapValues, Definition.mapAllValues,
      Query.text, List.isEmpty_cons, Bool.false_eq_true, if_false] at h ⊢
    obtain ⟨hr,hs⟩ := List.forall_mem_append.mp h
    have hregistry := Registry.alike_text ⟨d :: ds, recursive⟩ hr
    simp only [Registry.mapValues, Definition.mapAllValues] at hregistry
    exact hregistry.separated (by decide) (by decide) (Select.alike_text hs)

theorem Registry.alike_text : ∀ r : Registry,
    AllQuoteless (r.gather Select.fragments fun sql => [sql]) →
      Alike r.text (r.mapValues Value.hollow).text (r.gather Select.literals fun _ => [])
  | ⟨ds, recursive⟩ => by
    intro h
    simp only [Registry.gather, Registry.text, Registry.mapValues] at h ⊢
    exact (Definition.alike_texts ds h).prologue recursive

theorem Definition.alike_texts : ∀ ds : List Definition,
    AllQuoteless (Definition.gatherAll Select.fragments (fun sql => [sql]) ds) →
      AllAlike (Definition.texts ds) (Definition.texts (Definition.mapAllValues Value.hollow ds))
        (Definition.gatherAll Select.literals (fun _ => []) ds)
  | [] => fun _ => by
    simp only [Definition.texts, Definition.mapAllValues, Definition.gatherAll]
    exact .nil
  | d :: ds => by
    intro h
    simp only [Definition.texts, Definition.mapAllValues, Definition.gatherAll] at h ⊢
    obtain ⟨hd,hds⟩ := List.forall_mem_append.mp h
    exact .cons (Definition.alike_text d hd) (Definition.alike_texts ds hds)

theorem Definition.alike_text : ∀ d : Definition,
    AllQuoteless (d.gather Select.fragments fun sql => [sql]) →
      Alike d.text (d.mapValues Value.hollow).text (d.gather Select.literals fun _ => [])
  | ⟨name, body⟩ => by
    intro h
    simp only [Definition.gather, Definition.text, Definition.mapValues] at h ⊢
    exact (Body.alike_text body h).declaration name

theorem Body.alike_text : ∀ b : Body,
    AllQuoteless (b.gather Select.fragments fun sql => [sql]) →
      Alike b.text (b.mapValues Value.hollow).text (b.gather Select.literals fun _ => [])
  | .query q => by
    intro h
    simp only [Body.gather, Body.text, Body.mapValues] at h ⊢
    exact Query.alike_text q h
  | .raw sql => by
    intro h
    simp only [Body.gather, Body.text, Body.mapValues] at h ⊢
    exact .of_quoteless (h sql List.mem_cons_self)
end

namespace Query

/-- Two queries that differ only in the strings of their conditions have the same text but for
what the literals hold, and the literals hold exactly what the queries put into them. -/
theorem scan_text_of_hollow_eq {q r : Query} (hq : AllQuoteless q.fragments)
    (hr : AllQuoteless r.fragments) (hollow_eq : q.hollow = r.hollow) :
    ∃ ps qs, scan q.text.toList = some ps ∧ scan r.text.toList = some qs ∧
      (∀ mark, masked mark ps = masked mark qs) ∧
      Text.literals ps = q.literals ∧ Text.literals qs = r.literals := by
  obtain ⟨ps,ps',hps,hps',hp,hpl⟩ := q.alike_text hq
  obtain ⟨qs,qs',hqs,hqs',hq',hql⟩ := r.alike_text hr
  have hcommon : ps' = qs' := by
    rw [hollow_eq] at hps'
    exact Option.some.inj (hps'.scan_eq.symm.trans hqs'.scan_eq)
  have hpieces : ps.map Piece.hollow = qs.map Piece.hollow := by rw [hp,hcommon,hq']
  refine ⟨ps,qs,hps.scan_eq,hqs.scan_eq,?_,hpl,hql⟩
  intro mark
  rw [← masked_map_hollow mark ps,hpieces,masked_map_hollow]

/-- Strings at two depths and below both kinds of comparison, next to a definition whose name is
full of quotes. -/
def withStrings (outer inner : String) : Query where
  table := "orders"
  columns := ["id"]
  clauses := [⟨.filter, [⟨"note", .eq, .string outer⟩, ⟨"title", .fuzzy, .string outer⟩,
    ⟨"code", .fuzzy, .parameter 1⟩, ⟨"at", .lt, .call "now"⟩]⟩]
  ctes :=
    { definitions := [⟨"it's \"new\"", .query
        { table := "users"
          columns := []
          clauses := [⟨.filter, [⟨"name", .ne, .string inner⟩]⟩]
          ctes := { definitions := [.raw "x" "SELECT 1"] } }⟩] }

theorem scan_text_of_hostile_strings :
    (withStrings "' OR 1=1 --" "''").hollow = (withStrings "" "\"").hollow ∧
      ∃ ps qs, scan (withStrings "' OR 1=1 --" "''").text.toList = some ps ∧
        scan (withStrings "" "\"").text.toList = some qs ∧
        (∀ mark, masked mark ps = masked mark qs) ∧
        Text.literals ps = ["''", "' OR 1=1 --", "%' OR 1=1 --%", "%", "%"] ∧
        Text.literals qs = ["\"", "", "%%", "%", "%"] := by
  have hquoteless (outer inner : String) : AllQuoteless (withStrings outer inner).fragments := by
    have hfragments : (withStrings outer inner).fragments =
        ["SELECT 1", "users", "name", "orders", "id", "note", "title", "code", "at", "now"] := by
      rfl
    rw [hfragments]
    decide
  have hollow_eq : (withStrings "' OR 1=1 --" "''").hollow = (withStrings "" "\"").hollow := by
    rfl
  exact ⟨hollow_eq,scan_text_of_hollow_eq (hquoteless _ _) (hquoteless _ _) hollow_eq⟩

end Query

end WithClause
