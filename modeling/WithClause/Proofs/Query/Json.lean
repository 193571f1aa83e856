import Mathlib.Data.List.Basic
import WithClause.Proofs.Json.Compact
import WithClause.Proofs.Query.NotANumber
import WithClause.Proofs.Registry.Reachable
import WithClause.Query.Json

/-! The JSON form of a query loses nothing of it, apart from the mark of a registry that declares nothing.
What the compact text loses are real numbers, since those that are not finite have no text. -/
namespace WithClause

theorem Value.toJson_injective : Function.Injective Value.toJson := by
  intro v w h
  cases v <;> cases w <;> simp only [toJson, Json.object.injEq, List.cons.injEq, Prod.mk.injEq,
    Json.bool.injEq, Json.integer.injEq, Json.real.injEq, Json.string.injEq, reduceCtorEq,
    String.reduceEq, false_and, and_true, true_and] at h
  case null.null => rfl
  case int.int => rw [Int64.toInt_inj.mp h]
  case parameter.parameter => rw [UInt64.toNat_inj.mp (Int.ofNat_inj.mp h)]
  all_goals rw [h]

theorem Comparison.name_injective : Function.Injective Comparison.name := by
  intro a b h
  cases a <;> cases b <;> first | rfl | exact absurd h (by decide)

theorem Direction.name_injective : Function.Injective Direction.name := by
  intro a b h
  cases a <;> cases b <;> first | rfl | exact absurd h (by decide)

theorem Condition.toJson_injective : Function.Injective Condition.toJson := by
  rintro ⟨column,comparison,value⟩ ⟨column',comparison',value'⟩ h
  simp only [toJson, Json.object.injEq, List.cons.injEq, Prod.mk.injEq, Json.string.injEq, true_and,
    and_true] at h
  obtain ⟨rfl,hname,hvalue⟩ := h
  obtain rfl := Comparison.name_injective hname
  obtain rfl := Value.toJson_injective hvalue
  rfl

namespace Clause

theorem Kind.toJson_injective : Function.Injective Kind.toJson := by
  intro k l h
  cases k <;> cases l <;> simp only [toJson, Json.object.injEq, List.cons.injEq, Prod.mk.injEq,
    Json.integer.injEq, Json.string.injEq, reduceCtorEq, String.reduceEq, false_and, and_true,
    true_and] at h
  case filter.filter => rfl
  case sort.sort => rw [Direction.name_injective h]
  all_goals rw [UInt64.toNat_inj.mp (Int.ofNat_inj.mp h)]

theorem toJson_injective : Function.Injective Clause.toJson := by
  rintro ⟨kind,conditions⟩ ⟨kind',conditions'⟩ h
  simp only [toJson, Json.object.injEq, List.cons.injEq, Prod.mk.injEq, Json.array.injEq, true_and,
    and_true] at h
  obtain ⟨hkind,hconditions⟩ := h
  obtain rfl := Kind.toJson_injective hkind
  obtain rfl := Condition.toJson_injective.list_map hconditions
  rfl

end Clause

lemma queryJson_inj {s t : Select} {a b : Bool} {x y : Json}
    (h : queryJson s a x = queryJson t b y) : s = t ∧ a = b ∧ (a = true → x = y) := by
  obtain ⟨table,columns,clauses⟩ := s
  obtain ⟨table',columns',clauses'⟩ := t
  simp only [queryJson, Json.object.injEq, List.cons_append, List.nil_append, List.cons.injEq,
    Prod.mk.injEq, Json.string.injEq, Json.array.injEq, true_and] at h
  obtain ⟨rfl,hcolumns,hclauses,hctes⟩ := h
  obtain rfl := (List.map_inj_right fun _ _ => Json.string.inj).mp hcolumns
  obtain rfl := Clause.toJson_injective.list_map hclauses
  refine ⟨rfl,?_⟩
  cases a <;> cases b <;> simp at hctes ⊢
  exact hctes

/-- Registries in which each one that declares nothing, at whatever depth, is not recursive. -/
def Registry.Tidy (r : Registry) : Prop :=
  ∀ s, r.Within s → s.definitions = [] → s.recursive = false

/-- Queries whose registries, at whatever depth, are not recursive where they declare nothing. -/
def Query.Tidy (q : Query) : Prop := q.ctes.Tidy

def Definition.Tidy (d : Definition) : Prop := ∀ q, d.body = .query q → q.Tidy

namespace Registry

lemma Within.trans {r s t : Registry} (hrs : r.Within s) (hst : s.Within t) : r.Within t := by
  induction hst with
  | self => exact hrs
  | query _ hd hq ih => exact .query ih hd hq

/-- What is inside a registry is inside the query of one of its definitions. -/
lemma Within.eq_or_exists {r s : Registry} (h : r.Within s) :
    s = r ∨ ∃ d ∈ r.definitions, ∃ q, d.body = .query q ∧ q.ctes.Within s := by
  induction h with
  | self => exact .inl rfl
  | @query _ d q _ hd hq ih =>
    rcases ih with rfl | ⟨e,he,p,hp,hs⟩
    · exact .inr ⟨d,hd,q,hq,.self⟩
    · exact .inr ⟨e,he,p,hp,.query hs hd hq⟩

lemma tidy_iff {r : Registry} : r.Tidy ↔
    (r.definitions = [] → r.recursive = false) ∧ ∀ d ∈ r.definitions, d.Tidy := by
  constructor
  · intro h
    exact ⟨h r .self,fun d hd q hq s hs => h s (Within.trans (.query .self hd hq) hs)⟩
  · rintro ⟨hself,hdefinitions⟩ s hs
    rcases hs.eq_or_exists with rfl | ⟨d,hd,q,hq,hs⟩
    · exact hself
    · exact hdefinitions d hd q hq s hs

lemma Tidy.eq_empty {r : Registry} (h : r.Tidy) (hr : r.definitions = []) : r = {} :=
  Registry.ext hr (h r .self hr)

end Registry

mutual
theorem Query.toJson_inj :
    ∀ q r : Query, q.Tidy → r.Tidy → q.toJson = r.toJson → q = r
  | ⟨s, a⟩, ⟨t, b⟩, ha, hb, h => by
    rw [Query.toJson,Query.toJson] at h
    obtain ⟨rfl,hdeclares,hctes⟩ := queryJson_inj h
    congr 1
    cases hempty : a.definitions.isEmpty with
    | true =>
      rw [hempty] at hdeclares
      have haempty : a = {} := Registry.Tidy.eq_empty ha (List.isEmpty_iff.mp hempty)
      have hbempty : b = {} :=
        Registry.Tidy.eq_empty hb (List.isEmpty_iff.mp (Bool.not_inj hdeclares.symm))
      rw [haempty,hbempty]
    | false =>
      rw [hempty] at hctes
      exact Registry.toJson_inj a b ha hb (hctes rfl)

theorem Registry.toJson_inj :
    ∀ r s : Registry, r.Tidy → s.Tidy → r.toJson = s.toJson → r = s
  | ⟨ds, a⟩, ⟨es, b⟩, hr, hs, h => by
    simp only [Registry.toJson, Json.object.injEq, List.cons.injEq, Prod.mk.injEq, Json.array.injEq,
      Json.bool.injEq, true_and, and_true] at h
    obtain ⟨hdefinitions,rfl⟩ := h
    obtain rfl := Definition.allToJson_inj ds es (Registry.tidy_iff.mp hr).2
      (Registry.tidy_iff.mp hs).2 hdefinitions
    rfl

theorem Definition.allToJson_inj : ∀ ds es : List Definition, (∀ d ∈ ds, d.Tidy) →
    (∀ e ∈ es, e.Tidy) → Definition.allToJson ds = Definition.allToJson es → ds = es
  | [], [], _, _, _ => rfl
  | [], _ :: _, _, _, h => by simp only [Definition.allToJson, reduceCtorEq] at h
  | _ :: _, [], _, _, h => by simp only [Definition.allToJson, reduceCtorEq] at h
  | d :: ds, e :: es, hds, hes, h => by
    simp only [Definition.allToJson, List.cons.injEq] at h
    obtain ⟨hd,hds'⟩ := List.forall_mem_cons.mp hds
    obtain ⟨he,hes'⟩ := List.forall_mem_cons.mp hes
    rw [Definition.toJson_inj d e hd he h.1,Definition.allToJson_inj ds es hds' hes' h.2]

theorem Definition.toJson_inj :
    ∀ d e : Definition, d.Tidy → e.Tidy → d.toJson = e.toJson → d = e
  | ⟨name, body⟩, ⟨name', body'⟩, hd, he, h => by
    simp only [Definition.toJson, Json.object.injEq, List.cons.injEq, Prod.mk.injEq,
      Json.string.injEq, true_and, and_true] at h
    obtain ⟨rfl,hbody⟩ := h
    rw [Body.toJson_inj body body' hd he hbody]

theorem Body.toJson_inj : ∀ b c : Body, (∀ q, b = .query q → q.Tidy) →
    (∀ q, c = .query q → q.Tidy) → b.toJson = c.toJson → b = c
  | .query q, .query r, hb, hc, h => by
    simp only [Body.toJson, Json.object.injEq, List.cons.injEq, Prod.mk.injEq, true_and,
      and_true] at h
    rw [Query.toJson_inj q r (hb q rfl) (hc r rfl) h]
  | .raw s, .raw t, _, _, h => by
    simp only [Body.toJson, Json.object.injEq, List.cons.injEq, Prod.mk.injEq, Json.string.injEq,
      true_and, and_true] at h
    rw [h]
  | .query _, .raw _, _, _, h => by
    simp [Body.toJson] at h
  | .raw _, .query _, _, _, h => by
    simp [Body.toJson] at h
end

def Value.isFloat : Value → Bool
  | float _ => true
  | _ => false

/-- Queries in which no value is a real number, at whatever depth. -/
def Query.FloatFree (q : Query) : Prop :=
  ∀ v ∈ q.gather Select.values fun _ => [], v.isFloat = false

lemma Value.realFree_toJson {v : Value} (h : v.isFloat = false) : v.toJson.RealFree := by
  cases v with
  | float x => cases h
  | null => exact .string _
  | bool b => exact (Json.RealFree.bool b).tagged _
  | int n => exact (Json.RealFree.integer _).tagged _
  | string s => exact (Json.RealFree.string s).tagged _
  | parameter n => exact (Json.RealFree.integer _).tagged _
  | call function => exact (Json.RealFree.string function).tagged _

lemma Condition.realFree_toJson {c : Condition} (h : c.value.isFloat = false) :
    c.toJson.RealFree :=
  .object (by simpa using ⟨.string _,.string _,Value.realFree_toJson h⟩)

lemma Clause.Kind.realFree_toJson (k : Clause.Kind) : k.toJson.RealFree := by
  cases k with
  | filter => exact .string _
  | sort direction => exact (Json.RealFree.string _).tagged _
  | limit n => exact (Json.RealFree.integer _).tagged _
  | offset n => exact (Json.RealFree.integer _).tagged _

lemma Clause.realFree_toJson {c : Clause} (h : ∀ d ∈ c.conditions, d.value.isFloat = false) :
    c.toJson.RealFree := by
  have hconditions : (Json.array (c.conditions.map Condition.toJson)).RealFree := by
    refine .array (List.forall_mem_map.mpr ?_)
    exact fun d hd => Condition.realFree_toJson (h d hd)
  exact .object (by simpa using ⟨Kind.realFree_toJson c.kind,hconditions⟩)

lemma realFree_queryJson {s : Select} {declares : Bool} {ctes : Json}
    (hs : ∀ v ∈ s.values, v.isFloat = false) (hctes : ctes.RealFree) :
    (queryJson s declares ctes).RealFree := by
  have hcolumns : (Json.array (s.columns.map .string)).RealFree :=
    .array (List.forall_mem_map.mpr fun column _ => .string column)
  have hclauses : (Json.array (s.clauses.map Clause.toJson)).RealFree := by
    refine .array (List.forall_mem_map.mpr fun c hc => Clause.realFree_toJson ?_)
    exact fun d hd => hs _ (List.mem_flatMap.mpr ⟨c,hc,List.mem_map_of_mem hd⟩)
  refine .object ?_
  cases declares
  · simpa using ⟨.string _,hcolumns,hclauses⟩
  · simpa using ⟨.string _,hcolumns,hclauses,hctes⟩

mutual
theorem Query.realFree_toJson : ∀ q : Query,
    (∀ v ∈ q.gather Select.values fun _ => [], v.isFloat = false) → q.toJson.RealFree
  | ⟨s, r⟩, h => by
    rw [Query.gather,List.forall_mem_append] at h
    rw [Query.toJson]
    exact realFree_queryJson h.2 (Registry.realFree_toJson r h.1)

theorem Registry.realFree_toJson : ∀ r : Registry,
    (∀ v ∈ r.gather Select.values fun _ => [], v.isFloat = false) → r.toJson.RealFree
  | ⟨ds, recursive⟩, h => by
    rw [Registry.gather] at h
    rw [Registry.toJson]
    have hdefinitions : (Json.array (Definition.allToJson ds)).RealFree :=
      .array (Definition.realFree_allToJson ds h)
    exact .object (by simpa using ⟨hdefinitions,.bool recursive⟩)

theorem Definition.realFree_allToJson : ∀ ds : List Definition,
    (∀ v ∈ Definition.gatherAll Select.values (fun _ => []) ds, v.isFloat = false) →
      ∀ item ∈ Definition.allToJson ds, item.RealFree
  | [], _ => by simp [Definition.allToJson]
  | d :: ds, h => by
    rw [Definition.gatherAll,List.forall_mem_append] at h
    rw [Definition.allToJson]
    exact List.forall_mem_cons.mpr
      ⟨Definition.realFree_toJson d h.1,Definition.realFree_allToJson ds h.2⟩

theorem Definition.realFree_toJson : ∀ d : Definition,
    (∀ v ∈ d.gather Select.values fun _ => [], v.isFloat = false) → d.toJson.RealFree
  | ⟨name, body⟩, h => by
    rw [Definition.gather] at h
    rw [Definition.toJson]
    exact .object (by simpa using ⟨.string name,Body.realFree_toJson body h⟩)

theorem Body.realFree_toJson : ∀ b : Body,
    (∀ v ∈ b.gather Select.values fun _ => [], v.isFloat = false) → b.toJson.RealFree
  | .query q, h => by
    rw [Body.gather] at h
    rw [Body.toJson]
    exact .object (by simpa using ⟨.string _,Query.realFree_toJson q h⟩)
  | .raw sql, _ => by
    rw [Body.toJson]
    exact .object (by simpa using ⟨.string _,.string sql⟩)
end

/-- Queries that hold no real number, and no mark of a registry that declares nothing, are told apart by
their compact JSON texts. -/
theorem Query.compact_toJson_eq_iff {q r : Query} (hq : q.FloatFree) (hr : r.FloatFree)
    (hqtidy : q.Tidy) (hrtidy : r.Tidy) : q.toJson.compact = r.toJson.compact ↔ q = r := by
  constructor
  · intro h
    exact Query.toJson_inj q r hqtidy hrtidy
      ((Query.realFree_toJson q hq).eq_of_compact_eq (Query.realFree_toJson r hr) h)
  · rintro rfl
    rfl

/-- A query whose names are pieces of JSON, with columns to choose for the query inside it. -/
def quotingQuery (columns : List String) : Query where
  table := "\"columns\":[\\"
  columns := ["\n\x01"]
  clauses := [⟨.sort .descending, [⟨"x", .isNull, .string "Null"⟩]⟩, ⟨.limit 1, []⟩]
  ctes := ⟨[⟨"kind", .query { Query.ofTable "sql" with columns }⟩, .raw "kind" "\"query\""], true⟩

lemma quotingQuery_floatFree (columns : List String) : (quotingQuery columns).FloatFree := by
  simp [Query.FloatFree, quotingQuery, Query.ofTable, Definition.raw, Query.gather,
    Registry.gather, Definition.gatherAll, Definition.gather, Body.gather, Select.values,
    Value.isFloat]

lemma quotingQuery_tidy (columns : List String) : (quotingQuery columns).Tidy := by
  have hinner : ({ Query.ofTable "sql" with columns } : Query).Tidy :=
    Registry.tidy_iff.mpr ⟨fun _ => rfl,fun d hd => by cases hd⟩
  refine Registry.tidy_iff.mpr ⟨fun h => absurd h (List.cons_ne_nil _ _),?_⟩
  simp only [quotingQuery, List.forall_mem_cons]
  refine ⟨?_,?_,fun d hd => by cases hd⟩
  · rintro q hq
    obtain rfl := Body.query.inj hq
    exact hinner
  · rintro q hq
    cases hq

/-- One column is told from two, although its name has the quotes and the comma between them. -/
theorem Query.compact_toJson_ne_of_quoting :
    let q := quotingQuery ["a\",\"b"]
    let r := quotingQuery ["a", "b"]
    q.FloatFree ∧ r.FloatFree ∧ q.Tidy ∧ r.Tidy ∧ q.toJson.compact ≠ r.toJson.compact := by
  intro q r
  have hq : q.FloatFree := quotingQuery_floatFree _
  have hr : r.FloatFree := quotingQuery_floatFree _
  have hqtidy : q.Tidy := quotingQuery_tidy _
  have hrtidy : r.Tidy := quotingQuery_tidy _
  refine ⟨hq,hr,hqtidy,hrtidy,?_⟩
  rw [Ne,Query.compact_toJson_eq_iff hq hr hqtidy hrtidy]
  simp [q, r, quotingQuery]

end WithClause
