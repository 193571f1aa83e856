import WithClause.Proofs.Query.Select
import WithClause.Proofs.Registry.Emptiness
import WithClause.Query.Builder
import WithClause.Query.Sql

/-! Queries that are built step by step. Steps of different kinds do not get in each other's way: the text
depends on the filters, on the sorts and on the attachments, each in their own order, and of the columns,
limits and offsets on the last ones alone. -/
namespace WithClause

section FoldM
variable {α β : Type}

lemma Attempt.outcome_foldlM (f : β → α → Attempt β) (b : β) (as : List α) :
    (as.foldlM f b).outcome = as.foldlM (fun b a => (f b a).outcome) b := by
  induction as generalizing b with
  | nil => rfl
  | cons a as ih => simp only [List.foldlM_cons, outcome_bind, ih]

end FoldM

namespace Registry

/-- Several attachments, one after the other. -/
def attachAll (r : Registry) (calls : List Attachment) : Attempt Registry :=
  calls.foldlM (fun r call => r.attach call.args call.recursive) r

lemma outcome_attachAll_append (r : Registry) (xs ys : List Attachment) :
    (r.attachAll (xs ++ ys)).outcome =
      (r.attachAll xs).outcome >>= fun s => (s.attachAll ys).outcome := by
  rw [attachAll,List.foldlM_append,Attempt.outcome_bind]
  rfl

end Registry

namespace Query

/-- One call on a query. A clause may be added with any number of conditions. -/
inductive Step where
  | columns (columns : List String)
  | filter (column : String) (comparison : Comparison) (value : Value)
  | sort (direction : Direction) (column : String)
  | limit (n : UInt64)
  | offset (n : UInt64)
  | add (c : Clause)
  | attach (call : Attachment)

namespace Step

def perform (q : Query) : Step → Attempt Query
  | columns names => return q.withColumns names
  | filter column comparison value => return q.filter column comparison value
  | sort direction column => return q.sort direction column
  | limit n => return q.limit n
  | offset n => return q.offset n
  | add c => return q.add c.kind c.conditions
  | attach call => q.attach call.args call.recursive

def columns? : Step → Option (List String)
  | columns names => some names
  | _ => none

/-- The clause that a step puts behind those that are there. -/
def clause? : Step → Option Clause
  | filter column comparison value => some ⟨.filter, [⟨column, comparison, value⟩]⟩
  | sort direction column => some ⟨.sort direction, [⟨column, .eq, .null⟩]⟩
  | limit n => some ⟨.limit n, []⟩
  | offset n => some ⟨.offset n, []⟩
  | add c => some c
  | columns _ | attach _ => none

def call? : Step → Option Attachment
  | attach call => some call
  | _ => none

end Step

/-- The steps one after the other. -/
def build (q : Query) (steps : List Step) : Attempt Query := steps.foldlM Step.perform q

/-- A query after steps whose attachments have come to the given registry. -/
def assembled (q : Query) (steps : List Step) (ctes : Registry) : Query where
  table := q.table
  columns := (steps.filterMap Step.columns?).getLast?.getD q.columns
  clauses := q.clauses ++ steps.filterMap Step.clause?
  ctes

lemma assembled_append (q : Query) (xs ys : List Step) (r s : Registry) :
    (q.assembled xs r).assembled ys s = q.assembled (xs ++ ys) s := by
  simp only [assembled, List.filterMap_append, List.getLast?_append, Option.getD_or,
    List.append_assoc]

lemma outcome_perform (q : Query) (step : Step) : (step.perform q).outcome =
    q.assembled [step] <$> (q.ctes.attachAll step.call?.toList).outcome := by
  cases step with
  | filter _ _ _ | sort _ _ | limit _ | offset _ | add _ => rfl
  | columns names =>
    simp [Step.perform, assembled, withColumns, Step.columns?, Step.clause?, Step.call?,
      Registry.attachAll]
  | attach call =>
    have hassembled : q.assembled [.attach call] = fun ctes => { q with ctes } := by
      funext ctes
      exact congrArg (Query.mk ⟨q.table,q.columns,·⟩ ctes) (List.append_nil q.clauses)
    rw [hassembled]
    simp [Step.perform, attach, Step.call?, Registry.attachAll]

/-- The steps only meet in the query that they make together. -/
theorem outcome_build (q : Query) (steps : List Step) : (q.build steps).outcome =
    q.assembled steps <$> (q.ctes.attachAll (steps.filterMap Step.call?)).outcome := by
  rw [build,Attempt.outcome_foldlM]
  induction steps generalizing q with
  | nil =>
    have hassembled : q.assembled [] q.ctes = q := by
      obtain ⟨s,ctes⟩ := q
      exact congrArg (Query.mk ⟨s.table,s.columns,·⟩ ctes) (List.append_nil s.clauses)
    exact congrArg Except.ok hassembled.symm
  | cons step steps ih =>
    have hcalls : (step :: steps).filterMap Step.call? =
        step.call?.toList ++ steps.filterMap Step.call? := by
      cases step <;> rfl
    rw [List.foldlM_cons,outcome_perform,hcalls,Registry.outcome_attachAll_append]
    simp only [ih]
    cases (q.ctes.attachAll step.call?.toList).outcome with
    | error error => rfl
    | ok r =>
      have hassembled : (q.assembled [step] r).assembled steps = q.assembled (step :: steps) :=
        funext (assembled_append q [step] steps r)
      exact congrArg (· <$> (r.attachAll _).outcome) hassembled

/-- What the text of the query depends on. -/
structure Step.Agree (steps others : List Step) : Prop where
  filters : (steps.filterMap clause?).filter Clause.isFilter =
    (others.filterMap clause?).filter Clause.isFilter
  sorts : (steps.filterMap clause?).filter Clause.isSort =
    (others.filterMap clause?).filter Clause.isSort
  calls : steps.filterMap call? = others.filterMap call?
  columns : (steps.filterMap columns?).getLast? = (others.filterMap columns?).getLast?
  limit : ((steps.filterMap clause?).filterMap Clause.limit?).getLast? =
    ((others.filterMap clause?).filterMap Clause.limit?).getLast?
  offset : ((steps.filterMap clause?).filterMap Clause.offset?).getLast? =
    ((others.filterMap clause?).filterMap Clause.offset?).getLast?

variable {steps others : List Step}

lemma text_assembled (h : Step.Agree steps others) (q : Query) (r : Registry) :
    (q.assembled steps r).text = (q.assembled others r).text := by
  have hfilters : (q.assembled steps r).filterTexts = (q.assembled others r).filterTexts := by
    simp only [Select.filterTexts_eq, assembled, List.filter_append, h.filters]
  have hsorts : (q.assembled steps r).sortTexts = (q.assembled others r).sortTexts := by
    simp only [Select.sortTexts_eq, assembled, List.filter_append, h.sorts]
  have hlimit : (q.assembled steps r).limit? = (q.assembled others r).limit? := by
    simp only [Select.limit?, assembled, List.filterMap_append, List.getLast?_append, h.limit]
  have hoffset : (q.assembled steps r).offset? = (q.assembled others r).offset? := by
    simp only [Select.offset?, assembled, List.filterMap_append, List.getLast?_append, h.offset]
  have hcolumns : (q.assembled steps r).columnsText = (q.assembled others r).columnsText := by
    rw [Select.columnsText,Select.columnsText,assembled,assembled,h.columns]
  have hselect : (q.assembled steps r).toSelect.text = (q.assembled others r).toSelect.text := by
    simp only [Select.text, hfilters, hsorts, hlimit, hoffset, hcolumns]
    rfl
  rw [text_eq,text_eq,hselect]
  rfl

/-- Two sequences of steps on the same query that have the filters, the sorts and the attachments in
common, each in their own order, and the last columns, limit and offset, lead to queries with the
same text, however they are interleaved and whatever they override. Only an attachment can fail,
and then both fail for its error. -/
theorem text_build_of_agree (h : Step.Agree steps others) (q : Query) :
    (∀ r, (q.ctes.attachAll (steps.filterMap Step.call?)).outcome = .ok r →
      ∃ p p', (q.build steps).outcome = .ok p ∧ (q.build others).outcome = .ok p' ∧
        p.text = p'.text) ∧
    ∀ error, (q.ctes.attachAll (steps.filterMap Step.call?)).outcome = .error error →
      (q.build steps).outcome = .error error ∧ (q.build others).outcome = .error error := by
  rw [outcome_build,outcome_build,← h.calls]
  constructor
  · intro r hr
    rw [hr]
    exact ⟨_,_,rfl,rfl,text_assembled h q r⟩
  · intro error herror
    rw [herror]
    exact ⟨rfl,rfl⟩

/-- One limit, one offset and one choice of columns are overridden, the last limit by a clause that brings
a condition of no use, and a sort has no column to sort by. -/
theorem text_build_of_agree_overridden :
    let pair : Clause := ⟨.filter, [⟨"b", .gt, .int 1⟩, ⟨"c", .isNull, .null⟩]⟩
    let steps : List Step := [.limit 5, .attach ⟨[.text "\"a\" AS (1)"], false⟩,
      .filter "x" .eq (.bool true), .columns ["id"], .sort .descending "y", .offset 3, .add pair,
      .add ⟨.sort .ascending, []⟩, .attach ⟨[.definition (.raw "b" "2")], true⟩,
      .add ⟨.limit 10, [⟨"z", .eq, .null⟩]⟩]
    let others : List Step := [.columns [], .offset 7, .sort .descending "y",
      .add ⟨.sort .ascending, []⟩, .limit 10, .attach ⟨[.text "\"a\" AS (1)"], false⟩,
      .filter "x" .eq (.bool true), .attach ⟨[.definition (.raw "b" "2")], true⟩, .add pair,
      .offset 3, .columns ["id"]]
    Step.Agree steps others ∧ ∃ p p', ((ofTable "t").build steps).outcome = .ok p ∧
      ((ofTable "t").build others).outcome = .ok p' ∧ p.text = p'.text ∧
      p.text = "WITH RECURSIVE a AS (1), b AS (2) SELECT id FROM t" ++
        " WHERE x = true AND b > 1 AND c IS NULL ORDER BY y DESC LIMIT 10 OFFSET 3" := by
  intro pair steps others
  have hagree : Step.Agree steps others := ⟨rfl,rfl,rfl,rfl,rfl,rfl⟩
  have hfirst : (Registry.attach {} [.text "\"a\" AS (1)"] false).outcome =
      .ok ⟨[.raw "a" "1"], false⟩ := rfl
  have hsecond : (Registry.attach ⟨[.raw "a" "1"], false⟩ [.definition (.raw "b" "2")]
      true).outcome = .ok ⟨[.raw "a" "1", .raw "b" "2"], true⟩ := by
    refine Registry.outcome_attach_eq_ok_iff.mpr ⟨[.raw "b" "2"],rfl,?_⟩
    simp [Registry.markRecursive, Registry.insert, Registry.holds, Definition.same,
      Definition.raw]
  have hcalls : ((ofTable "t").ctes.attachAll (steps.filterMap Step.call?)).outcome =
      .ok ⟨[.raw "a" "1", .raw "b" "2"], true⟩ := by
    rw [Registry.attachAll,Attempt.outcome_foldlM]
    change ((Registry.attach {} _ false).outcome >>= fun r =>
      (r.attach _ true).outcome >>= fun r => .ok r) = _
    rw [hfirst]
    exact congrArg (· >>= Except.ok) hsecond
  obtain ⟨htext,-⟩ := text_build_of_agree hagree (ofTable "t")
  obtain ⟨p,p',hp,hp',h⟩ := htext _ hcalls
  refine ⟨hagree,p,p',hp,hp',h,?_⟩
  rw [outcome_build,hcalls] at hp
  cases hp
  decide +kernel

end Query
end WithClause
