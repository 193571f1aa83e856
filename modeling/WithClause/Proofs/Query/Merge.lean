import WithClause.Proofs.Query.Select
import WithClause.Proofs.Registry.Insertion
import WithClause.Query.Builder
import WithClause.Query.Sql

/-! Merging several queries gives the same query whichever two are merged first, and a text that only
differs from that of the first query in its prologue and its conditions. -/
namespace WithClause

/-- Definitions that are left out of the inner merge are equal to ones in front of them, so the outer
merge would have left them out as well. -/
theorem Registry.merge_merge (r s t : Registry) :
    ((r.merge s).value.merge t).value = (r.merge (s.merge t).value).value := by
  simp only [merge_value, foldl_insert_markRecursive, markRecursive_markRecursive,
    markRecursive_definitions, foldl_insert_foldl_insert]
  congr 1
  simp only [markRecursive, foldl_insert_recursive]

lemma Query.merge_value (q r : Query) : (q.merge r).value =
    { q with
      ctes := (q.ctes.merge r.ctes).value
      clauses := q.clauses ++ r.clauses.filter Clause.isFilter } := rfl

/-- The order in which three queries are merged makes no difference to any part of the result, down
to the sign of a zero, nor to its text. -/
theorem Query.merge_assoc (q r s : Query) :
    ((q.merge r).value.merge s).value = (q.merge (r.merge s).value).value ∧
      ((q.merge r).value.merge s).value.text = (q.merge (r.merge s).value).value.text := by
  have hmerge : ((q.merge r).value.merge s).value = (q.merge (r.merge s).value).value := by
    simp only [merge_value, Registry.merge_merge, List.filter_append, List.filter_filter,
      Bool.and_self, List.append_assoc]
  exact ⟨hmerge,congrArg Query.text hmerge⟩

/-- Several merges, one after the other. -/
def Registry.mergeAll (r : Registry) (others : List Registry) : Logged Registry :=
  others.foldlM merge r

namespace Select

/-- The same statement with filters behind its other clauses. -/
def narrow (s : Select) (filters : List Clause) : Select :=
  { s with clauses := s.clauses ++ filters }

variable {s : Select} {filters : List Clause}

lemma narrow_narrow (s : Select) (filters others : List Clause) :
    (s.narrow filters).narrow others = s.narrow (filters ++ others) := by
  simp only [narrow, List.append_assoc]

lemma filterTexts_narrow (s : Select) (filters : List Clause) :
    (s.narrow filters).filterTexts = s.filterTexts ++ filters.flatMap Clause.filterTexts :=
  List.flatMap_append

/-- Where the order, the limit and the offset come from, there is nothing new. -/
lemma closing_narrow (h : ∀ c ∈ filters, c.isFilter = true) : (s.narrow filters).closing = s.closing := by
  have hnone : filters.filterMap Clause.sortText? = [] ∧ filters.filterMap Clause.limit? = [] ∧
      filters.filterMap Clause.offset? = [] := by
    simp only [List.filterMap_eq_nil_iff]
    exact ⟨fun c hc => (c.eq_none_of_isFilter (h c hc)).1,
      fun c hc => (c.eq_none_of_isFilter (h c hc)).2.1,
      fun c hc => (c.eq_none_of_isFilter (h c hc)).2.2⟩
  obtain ⟨hsort,hlimit,hoffset⟩ := hnone
  simp only [closing, sortTexts, limit?, offset?, narrow, List.filterMap_append, hsort, hlimit,
    hoffset, List.append_nil]

theorem text_narrow (h : ∀ c ∈ filters, c.isFilter = true) : (s.narrow filters).text =
    s.opening ++ part " WHERE " " AND " (s.filterTexts ++ filters.flatMap Clause.filterTexts)
      ++ s.closing := by
  rw [text_eq,closing_narrow h,filterTexts_narrow]
  rfl

end Select

namespace Query

/-- Several merges, one after the other. -/
def mergeAll (q : Query) (others : List Query) : Logged Query := others.foldlM merge q

/-- All of a query that a merge with it takes. -/
def contribution (q : Query) : List Clause × Registry := (q.clauses.filter Clause.isFilter, q.ctes)

/-- A query after merges whose registries have come to the given one. -/
def narrowed (q : Query) (others : List Query) (ctes : Registry) : Query where
  toSelect := q.toSelect.narrow (others.flatMap fun r => r.contribution.1)
  ctes

lemma narrowed_nil (q : Query) : q.narrowed [] q.ctes = q := by
  obtain ⟨s,ctes⟩ := q
  simp [narrowed, Select.narrow]

lemma narrowed_narrowed (q : Query) (others rest : List Query) (r s : Registry) :
    (q.narrowed others r).narrowed rest s = q.narrowed (others ++ rest) s := by
  simp only [narrowed, Select.narrow_narrow, List.flatMap_append]

lemma merge_eq (q r : Query) : q.merge r = q.narrowed [r] <$> q.ctes.merge r.ctes := by
  rw [merge,map_eq_pure_bind]
  simp only [narrowed, Select.narrow, contribution, List.flatMap_singleton]

/-- Merges only meet in the query that they lead to, and log what the merges of the registries log. -/
theorem mergeAll_eq (q : Query) (others : List Query) :
    q.mergeAll others = q.narrowed others <$> q.ctes.mergeAll (others.map ctes) := by
  induction others generalizing q with
  | nil => simp [mergeAll, Registry.mergeAll, narrowed_nil]
  | cons r others ih =>
    have hstep : ∀ s, (q.narrowed [r] s).narrowed others = q.narrowed (r :: others) :=
      fun s => funext (q.narrowed_narrowed [r] others s)
    calc (r :: others).foldlM merge q
        = q.ctes.merge r.ctes >>= fun s => (q.narrowed [r] s).mergeAll others := by
          rw [List.foldlM_cons,merge_eq,bind_map_left]
          rfl
      _ = q.ctes.merge r.ctes >>= fun s =>
            q.narrowed (r :: others) <$> s.mergeAll (others.map ctes) := by
          simp only [ih, hstep]
          rfl
      _ = q.narrowed (r :: others) <$> q.ctes.mergeAll ((r :: others).map ctes) := by
          rw [← map_bind]
          rfl

variable (q : Query) (others : List Query)

lemma toSelect_mergeAll : (q.mergeAll others).value.toSelect =
    q.toSelect.narrow (others.flatMap fun r => r.contribution.1) := by
  rw [mergeAll_eq]
  rfl

lemma ctes_mergeAll : ctes <$> q.mergeAll others = q.ctes.mergeAll (others.map ctes) := by
  rw [mergeAll_eq,← comp_map]
  exact id_map _

lemma mergeAll_eq_of_contribution {rest : List Query}
    (h : rest.map contribution = others.map contribution) : q.mergeAll rest = q.mergeAll others := by
  have hfilters : ∀ rs : List Query, (rs.flatMap fun r => r.contribution.1) =
      ((rs.map contribution).map Prod.fst).flatten := by
    intro rs
    rw [List.map_map]
    rfl
  have hctes : ∀ rs : List Query, rs.map ctes = (rs.map contribution).map Prod.snd := by
    intro rs
    rw [List.map_map]
    rfl
  have hnarrowed : q.narrowed rest = q.narrowed others := by
    funext r
    rw [narrowed,narrowed,hfilters,hfilters,h]
  rw [mergeAll_eq,mergeAll_eq,hctes,hctes,h,hnarrowed]

/-- A query into which others are merged keeps the text of its SELECT but for the conditions, which
are its own and then theirs in order, and its prologue is that of the registries merged in order. Of
the others nothing but their filters and their registries has any effect. -/
theorem text_mergeAll :
    q.toSelect.text = q.opening ++ Select.part " WHERE " " AND " q.filterTexts ++ q.closing ∧
    (q.mergeAll others).value.toSelect.text = q.opening ++
      Select.part " WHERE " " AND " (q.filterTexts ++ others.flatMap fun r => r.filterTexts) ++
        q.closing ∧
    ctes <$> q.mergeAll others = q.ctes.mergeAll (others.map ctes) ∧
    (q.mergeAll others).value.text =
      (q.ctes.mergeAll (others.map ctes)).value.prologue?.elim "" (· ++ " ") ++
        (q.mergeAll others).value.toSelect.text ∧
    ∀ rest : List Query, rest.map contribution = others.map contribution →
      q.mergeAll rest = q.mergeAll others := by
  have hfilters : ∀ c ∈ others.flatMap fun r => r.contribution.1, c.isFilter = true := by
    intro c hc
    obtain ⟨r,-,hr⟩ := List.mem_flatMap.mp hc
    exact List.of_mem_filter hr
  have hconditions : (others.flatMap fun r => r.contribution.1).flatMap Clause.filterTexts =
      others.flatMap fun r => r.filterTexts := by
    rw [List.flatMap_assoc]
    simp only [contribution, Select.filterTexts_eq]
  refine ⟨q.toSelect.text_eq,?_,q.ctes_mergeAll others,?_,
    fun rest => q.mergeAll_eq_of_contribution others⟩
  · rw [toSelect_mergeAll,Select.text_narrow hfilters,hconditions]
  · rw [text_eq,← ctes_mergeAll,Logged.map_value,Registry.prologue?]
    split
    · simp
    · simp

/-- The merged queries bring a sort, limits, an offset, columns and tables, to no effect. -/
theorem text_mergeAll_overridden :
    let q : Query :=
      ⟨⟨"t", ["id"], [⟨.limit 5, []⟩, ⟨.filter, [⟨"x", .eq, .bool true⟩]⟩,
        ⟨.sort .descending, [⟨"y", .eq, .null⟩]⟩]⟩, ⟨[.raw "a" "1"], false⟩⟩
    let first : Query :=
      ⟨⟨"u", ["z"], [⟨.limit 3, []⟩, ⟨.filter, [⟨"b", .gt, .int 1⟩, ⟨"c", .isNull, .null⟩]⟩,
        ⟨.offset 2, []⟩]⟩, ⟨[.raw "a" "1", .raw "b" "2"], true⟩⟩
    let second : Query :=
      ⟨⟨"v", [], [⟨.sort .ascending, [⟨"w", .eq, .null⟩]⟩, ⟨.filter, [⟨"d", .ne, .null⟩]⟩]⟩, {}⟩
    let bare : Query := ⟨⟨"", [], [⟨.filter, [⟨"d", .ne, .null⟩]⟩]⟩, {}⟩
    (q.mergeAll [first, second]).value.text = "WITH RECURSIVE a AS (1), b AS (2) SELECT id FROM t" ++
        " WHERE x = true AND b > 1 AND c IS NULL AND d != NULL ORDER BY y DESC LIMIT 5" ∧
      [first, bare].map contribution = [first, second].map contribution ∧
      q.mergeAll [first, bare] = q.mergeAll [first, second] := by
  intro q first second bare
  obtain ⟨-,hselect,-,htext,heffect⟩ := q.text_mergeAll [first, second]
  have hbare : [first, bare].map contribution = [first, second].map contribution := rfl
  refine ⟨?_,hbare,heffect _ hbare⟩
  rw [htext,hselect]
  decide +kernel

end Query

end WithClause
