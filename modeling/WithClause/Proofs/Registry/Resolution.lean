import WithClause.Proofs.Attempt
import WithClause.Proofs.Definition.RoundTrip
import WithClause.Registry.Attach

/-! What the arguments of an attachment resolve to: definitions that are not blank, with bodies that
the arguments supplied. -/
namespace WithClause
open Text

/-- Neither the name nor raw SQL is blank. -/
structure Definition.Filled (d : Definition) : Prop where
  name : ¬ Blank d.name.toList
  body : ∀ sql, d.body = .raw sql → ¬ Blank sql.toList

/-- A definition that is filled and takes its query, where it has one, from a given class. -/
structure Definition.Resolved (Q : Query → Prop) (d : Definition) : Prop where
  filled : d.Filled
  query : ∀ q, d.body = .query q → Q q

lemma Definition.Resolved.mono {Q R : Query → Prop} {d : Definition} (h : d.Resolved Q)
    (hQR : ∀ q, Q q → R q) : d.Resolved R :=
  ⟨h.filled,fun q hq => hQR q (h.query q hq)⟩

lemma Definition.resolved_raw {name sql : String} {Q : Query → Prop}
    (hname : ¬ Blank name.toList) (hsql : ¬ Blank sql.toList) : (raw name sql).Resolved Q := by
  refine ⟨⟨hname,?_⟩,?_⟩
  · intro other hother
    cases hother
    exact hsql
  · intro q hq
    cases hq

/-- What is validated is left as it is. -/
theorem Definition.validate_eq_ok_iff {d e : Definition} :
    d.validate = .ok e ↔ e = d ∧ d.Filled := by
  obtain ⟨name,body⟩ := d
  rw [validate]
  split_ifs with hname hbody
  · simp only [false_iff, not_and]
    rintro - h
    exact h.name (by simpa [hasBlankName] using hname)
  · simp only [false_iff, not_and]
    rintro - h
    cases body with
    | raw sql => exact h.body sql rfl (by simpa [hasBlankBody] using hbody)
    | query q => simp [hasBlankBody] at hbody
  · constructor
    · intro h
      cases h
      refine ⟨rfl,by simpa [hasBlankName] using hname,?_⟩
      rintro sql rfl
      simpa [hasBlankBody] using hbody
    · rintro ⟨rfl,-⟩
      rfl

/-- The queries in a supplied body. -/
inductive Supplied.Holds : Supplied → Query → Prop
  | query (q : Query) : Holds (.query q) q
  | definition {d : Definition} {q : Query} : d.body = .query q → Holds (.definition d) q
  | list {items : List Supplied} {s : Supplied} {q : Query} :
    s ∈ items → Holds s q → Holds (.list items) q

/-- The queries in an argument. -/
inductive Argument.Holds : Argument → Query → Prop
  | mapping {entries : List (String × Supplied)} {name : String} {s : Supplied} {q : Query} :
    (name, s) ∈ entries → s.Holds q → Holds (.mapping entries) q
  | definition {d : Definition} {q : Query} : d.body = .query q → Holds (.definition d) q
  | list {items : List Argument} {a : Argument} {q : Query} :
    a ∈ items → Holds a q → Holds (.list items) q

theorem Supplied.resolved_of_bindTo {s : Supplied} {name : String} {d : Definition}
    (h : s.bindTo name = .ok d) : d.Resolved s.Holds := by
  cases s with
  | null => cases h
  | list items => cases h
  | raw sql =>
    obtain ⟨rfl,hfilled⟩ := Definition.validate_eq_ok_iff.mp h
    exact ⟨hfilled,fun q hq => by cases hq⟩
  | query r =>
    obtain ⟨rfl,hfilled⟩ := Definition.validate_eq_ok_iff.mp h
    refine ⟨hfilled,fun q hq => ?_⟩
    cases hq
    exact .query r
  | definition e =>
    obtain ⟨rfl,hfilled⟩ := Definition.validate_eq_ok_iff.mp h
    exact ⟨hfilled,fun q hq => .definition hq⟩

/-- A text only gives raw bodies; the reader itself refuses blank ones. -/
theorem Definition.resolved_of_read {input : String} {d : Definition} {Q : Query → Prop}
    (h : (read input).outcome = .ok d) : d.Resolved Q := by
  rw [outcome_read] at h
  cases hparse : NamedExpression.parse input with
  | error error => rw [hparse] at h; cases h
  | ok expression =>
    rw [hparse] at h
    cases h
    obtain ⟨name,inner,-,hname,hinner,-,rfl⟩ :=
      NamedExpression.parse_eq_ok_iff_readHead.mp hparse
    apply resolved_raw
    · rw [String.toList_ofList,blank_trim]
      exact mt trim_eq_nil.mpr hname
    · rw [String.toList_ofList,blank_trim]
      exact mt trim_eq_nil.mpr hinner

namespace Argument

theorem resolved_of_single {a : Argument} {d : Definition} (h : a.single.outcome = .ok d) :
    d.Resolved a.Holds := by
  cases a with
  | mapping entries => cases h
  | list items => cases h
  | text declaration => exact Definition.resolved_of_read h
  | definition e =>
    rw [single,Attempt.outcome_ofExcept] at h
    obtain ⟨rfl,hfilled⟩ := Definition.validate_eq_ok_iff.mp h
    exact ⟨hfilled,fun q hq => .definition hq⟩

lemma single_of_outcome_pure {a : Argument} {ds : List Definition}
    (h : (do return [← a.single] : Attempt (List Definition)).outcome = .ok ds) :
    ∃ d, a.single.outcome = .ok d ∧ ds = [d] := by
  rw [Attempt.outcome_bind,bind_eq_ok_iff] at h
  obtain ⟨d,hd,h⟩ := h
  cases h
  exact ⟨d,hd,rfl⟩

theorem resolved_of_definitions {a : Argument} {ds : List Definition}
    (h : a.definitions.outcome = .ok ds) : ∀ d ∈ ds, d.Resolved a.Holds := by
  intro d hd
  cases a with
  | mapping entries =>
    rw [definitions,Attempt.outcome_ofExcept] at h
    obtain ⟨⟨name,s⟩,hs,hbind⟩ := exists_of_mem_mapM h hd
    exact (Supplied.resolved_of_bindTo hbind).mono fun q hq => .mapping hs hq
  | list items =>
    rw [definitions,Attempt.outcome_mapM] at h
    obtain ⟨a,ha,hsingle⟩ := exists_of_mem_mapM h hd
    exact (resolved_of_single hsingle).mono fun q hq => .list ha hq
  | text declaration =>
    obtain ⟨e,he,rfl⟩ := single_of_outcome_pure h
    rw [List.mem_singleton.mp hd]
    exact resolved_of_single he
  | definition e =>
    obtain ⟨e,he,rfl⟩ := single_of_outcome_pure h
    rw [List.mem_singleton.mp hd]
    exact resolved_of_single he

theorem resolved_of_resolveAll {args : List Argument} {ds : List Definition}
    (h : (resolveAll args).outcome = .ok ds) :
    ∀ d ∈ ds, d.Resolved fun q => ∃ a ∈ args, a.Holds q := by
  intro d hd
  rw [resolveAll] at h
  split_ifs at h with hempty
  · cases h
  · rw [Attempt.outcome_bind,bind_eq_ok_iff] at h
    obtain ⟨dss,hdss,h⟩ := h
    cases h
    obtain ⟨es,hes,hd⟩ := List.mem_flatten.mp hd
    rw [Attempt.outcome_mapM] at hdss
    obtain ⟨a,ha,hdefinitions⟩ := exists_of_mem_mapM hdss hes
    exact (resolved_of_definitions hdefinitions d hd).mono fun q hq => ⟨a,ha,hq⟩

end Argument

/-- An attachment declares all that its arguments resolve to, or fails with them. -/
theorem Registry.outcome_attach (r : Registry) (args : List Argument) (recursive : Bool) :
    (r.attach args recursive).outcome =
      (·.foldl insert (r.markRecursive recursive)) <$> (Argument.resolveAll args).outcome := by
  rw [attach,Attempt.outcome_bind]
  cases (Argument.resolveAll args).outcome with
  | error error => rfl
  | ok ds =>
    change Except.ok (absorbAll _ ds).value = _
    rw [absorbAll_value]
    rfl

theorem Registry.outcome_attach_eq_ok_iff {r s : Registry} {args : List Argument}
    {recursive : Bool} : (r.attach args recursive).outcome = .ok s ↔
      ∃ ds, (Argument.resolveAll args).outcome = .ok ds ∧
        s = ds.foldl insert (r.markRecursive recursive) := by
  rw [outcome_attach]
  cases (Argument.resolveAll args).outcome with
  | error error => simp
  | ok ds => simp [eq_comm (a := s)]

end WithClause
