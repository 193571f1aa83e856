import WithClause.Proofs.Registry.Insertion
import WithClause.Proofs.Registry.Resolution
import WithClause.Proofs.Text.Trim

/-! Registries that come about by attaching and merging. No definition is in them twice and none is
blank, also in the registries of the queries inside them. -/
namespace WithClause.Registry
open Text

/-- The queries that are attached carry registries that came about in the same way. -/
inductive Reachable : Registry → Prop
  | empty : Reachable {}
  | attach {r s : Registry} {args : List Argument} {recursive : Bool} (hr : Reachable r)
    (hargs : ∀ a ∈ args, ∀ q, a.Holds q → Reachable q.ctes)
    (hs : (r.attach args recursive).outcome = .ok s) : Reachable s
  | merge {r s : Registry} (hr : Reachable r) (hs : Reachable s) : Reachable (r.merge s).value

/-- A registry and those of the queries in its bodies, at any depth. -/
inductive Within (r : Registry) : Registry → Prop
  | self : Within r r
  | query {s : Registry} {d : Definition} {q : Query} (hs : Within r s) (hd : d ∈ s.definitions)
    (hq : d.body = .query q) : Within r q.ctes

/-- Each definition differs from those before it, none is blank, and all queries are of a class. -/
structure Sound (Q : Query → Prop) (r : Registry) : Prop where
  distinct : r.definitions.Pairwise fun d e => d.same e = false
  resolved : ∀ d ∈ r.definitions, d.Resolved Q

variable {Q : Query → Prop} {r : Registry}

lemma Sound.markRecursive (h : r.Sound Q) (recursive : Bool) :
    (r.markRecursive recursive).Sound Q := ⟨h.distinct,h.resolved⟩

lemma Sound.insert (h : r.Sound Q) {d : Definition} (hd : d.Resolved Q) :
    (r.insert d).Sound Q := by
  refine ⟨Distinct.insert h.distinct d,?_⟩
  intro e he
  cases hholds : r.holds d with
  | true =>
    rw [insert_of_holds hholds] at he
    exact h.resolved e he
  | false =>
    rw [insert_of_not_holds hholds] at he
    rcases List.mem_append.mp he with he | he
    · exact h.resolved e he
    · rw [List.mem_singleton.mp he]
      exact hd

lemma Sound.foldl_insert (h : r.Sound Q) {ds : List Definition} (hds : ∀ d ∈ ds, d.Resolved Q) :
    (ds.foldl Registry.insert r).Sound Q := by
  induction ds generalizing r with
  | nil => exact h
  | cons d ds ih =>
    exact ih (h.insert (hds d (by simp))) fun e he => hds e (by simp [he])

theorem Sound.attach (h : r.Sound Q) {s : Registry} {args : List Argument} {recursive : Bool}
    (hargs : ∀ a ∈ args, ∀ q, a.Holds q → Q q)
    (hs : (r.attach args recursive).outcome = .ok s) : s.Sound Q := by
  obtain ⟨ds,hds,rfl⟩ := outcome_attach_eq_ok_iff.mp hs
  apply (h.markRecursive recursive).foldl_insert
  intro d hd
  apply (Argument.resolved_of_resolveAll hds d hd).mono
  rintro q ⟨a,ha,hq⟩
  exact hargs a ha q hq

/-- Nothing is validated here; the definitions of the other registry are sound already. -/
theorem Sound.merge (h : r.Sound Q) {s : Registry} (hs : s.Sound Q) :
    (r.merge s).value.Sound Q := by
  rw [merge_value]
  exact (h.markRecursive s.recursive).foldl_insert hs.resolved

theorem Reachable.sound (h : r.Reachable) : r.Sound fun q => q.ctes.Reachable := by
  induction h with
  | empty => exact ⟨List.Pairwise.nil,fun d hd => by cases hd⟩
  | attach _ hargs hs ih => exact ih.attach hargs hs
  | merge _ _ ihr ihs => exact ihr.merge ihs

theorem Within.reachable {s : Registry} (h : r.Within s) (hr : r.Reachable) : s.Reachable := by
  induction h with
  | self => exact hr
  | query _ hd hq ih => exact (ih.sound.resolved _ hd).query _ hq

/-- In a registry that came about by attaching and merging, and in all registries inside it, no
two places hold equal definitions, and no name and no raw body is blank. -/
theorem Reachable.distinct_and_filled {s : Registry} (hr : r.Reachable) (hs : r.Within s) :
    (∀ i j, ∀ (hi : i < s.definitions.length) (hj : j < s.definitions.length), i ≠ j →
      s.definitions[i].same s.definitions[j] = false) ∧
    (∀ d ∈ s.definitions, ∃ c ∈ d.name.toList, isBlank c = false) ∧
    ∀ d ∈ s.definitions, ∀ sql, d.body = .raw sql → ∃ c ∈ sql.toList, isBlank c = false := by
  have hsound := (hs.reachable hr).sound
  have hdistinct := List.pairwise_iff_getElem.mp hsound.distinct
  refine ⟨?_,?_,?_⟩
  · intro i j hi hj hij
    rcases Nat.lt_or_gt_of_ne hij with hlt | hgt
    · exact hdistinct i j hi hj hlt
    · rw [Definition.same_comm]
      exact hdistinct j i hj hi hgt
  · intro d hd
    exact not_blank_iff.mp (hsound.resolved d hd).filled.name
  · intro d hd sql hsql
    exact not_blank_iff.mp ((hsound.resolved d hd).filled.body sql hsql)

/-- A query that was given its definitions as a text, in a mapping and as they are, one of them
twice. -/
def nestedQuery : Query :=
  { table := "a", ctes := ⟨[.raw "a" "1", .raw "b" "2"], false⟩ }

lemma nestedQuery_reachable : nestedQuery.ctes.Reachable := by
  have hattach : (Registry.attach {} [.text "\"a\" AS (1)", .mapping [("b", .raw "2")],
      .definition (.raw "a" "1")] false).outcome = .ok nestedQuery.ctes := by
    refine outcome_attach_eq_ok_iff.mpr ⟨[.raw "a" "1", .raw "b" "2", .raw "a" "1"],rfl,?_⟩
    simp [Registry.markRecursive, Registry.insert, holds, Definition.same, Body.same,
      Definition.raw, nestedQuery]
  refine .attach .empty ?_ hattach
  simp only [List.mem_cons, List.not_mem_nil, or_false]
  rintro a (rfl | rfl | rfl) q hq
  · cases hq
  · cases hq with
    | mapping hs hq =>
      cases List.mem_singleton.mp hs
      cases hq
  · cases hq with
    | definition hq => cases hq

/-- A registry with the query inside it, merged with the registry of the query. -/
def nested : Registry :=
  ⟨[⟨"c", .query nestedQuery⟩, .raw "a" "1", .raw "b" "2"], true⟩

lemma nested_reachable : nested.Reachable := by
  have hattach : (Registry.attach {} [.list [.definition ⟨"c", .query nestedQuery⟩]] true).outcome =
      .ok ⟨[⟨"c", .query nestedQuery⟩], true⟩ := rfl
  have hmerge : (Registry.merge ⟨[⟨"c", .query nestedQuery⟩], true⟩ nestedQuery.ctes).value =
      nested := by
    rw [merge_value]
    simp [Registry.markRecursive, Registry.insert, holds, Definition.same, Body.same,
      Definition.raw, nestedQuery, nested]
  rw [← hmerge]
  refine .merge (.attach .empty ?_ hattach) nestedQuery_reachable
  intro a ha q hq
  obtain rfl := List.mem_singleton.mp ha
  cases hq with
  | list ha hq =>
    obtain rfl := List.mem_singleton.mp ha
    cases hq with
    | definition hq =>
      cases hq
      exact nestedQuery_reachable

theorem nested_distinct_and_filled : nested.Reachable ∧ nested.Within nestedQuery.ctes ∧
    (Definition.raw "b" "2").same (.raw "a" "1") = false ∧
    (∃ c ∈ "b".toList, isBlank c = false) ∧ ∃ c ∈ "2".toList, isBlank c = false := by
  have hwithin : nested.Within nestedQuery.ctes :=
    .query (d := ⟨"c", .query nestedQuery⟩) .self (by simp [nested]) rfl
  obtain ⟨hdistinct,hname,hbody⟩ := nested_reachable.distinct_and_filled hwithin
  have hb : Definition.raw "b" "2" ∈ nestedQuery.ctes.definitions := by simp [nestedQuery]
  refine ⟨nested_reachable,hwithin,?_,hname _ hb,hbody _ hb "2" rfl⟩
  exact hdistinct 1 0 (by decide) (by decide) (by decide)

end WithClause.Registry
