import Mathlib.Tactic.Common
import WithClause.Query

/-! The equality of queries, which compares numbers as numbers, is symmetric and transitive. It is not
reflexive. -/
namespace WithClause

lemma isEqv_comm {α : Type} {f : α → α → Bool} (hf : ∀ a b, f a b = f b a) (as bs : List α) :
    as.isEqv bs f = bs.isEqv as f := by
  induction as generalizing bs with
  | nil => cases bs <;> rfl
  | cons a as ih =>
    cases bs with
    | nil => rfl
    | cons b bs => simp only [List.isEqv, hf a b, ih bs]

theorem Value.same_comm (v w : Value) : v.same w = w.same v := by
  cases v <;> cases w <;> simp only [Value.same, Binary64.same_comm, BEq.comm]

theorem Condition.same_comm (c d : Condition) : c.same d = d.same c := by
  simp only [Condition.same, BEq.comm (a := c.column), BEq.comm (a := c.comparison),
    Value.same_comm c.value]

theorem Clause.same_comm (c d : Clause) : c.same d = d.same c := by
  simp only [Clause.same, BEq.comm (a := c.kind), isEqv_comm Condition.same_comm c.conditions]

theorem Select.same_comm (s t : Select) : s.same t = t.same s := by
  simp only [Select.same, BEq.comm (a := s.table), BEq.comm (a := s.columns),
    isEqv_comm Clause.same_comm s.clauses]

mutual
theorem Query.same_comm : ∀ q r : Query, q.same r = r.same q
  | ⟨s, r⟩, ⟨t, u⟩ => by
    rw [Query.same,Query.same,Select.same_comm s t,Registry.same_comm r u]

theorem Registry.same_comm : ∀ r s : Registry, r.same s = s.same r
  | ⟨ds, a⟩, ⟨es, b⟩ => by
    rw [Registry.same,Registry.same,Definition.allSame_comm ds es,BEq.comm (a := a)]

theorem Definition.allSame_comm :
    ∀ ds es : List Definition, Definition.allSame ds es = Definition.allSame es ds
  | [], [] => rfl
  | [], _ :: _ => by simp only [Definition.allSame]
  | _ :: _, [] => by simp only [Definition.allSame]
  | d :: ds, e :: es => by
    rw [Definition.allSame,Definition.allSame,Definition.same_comm d e,
      Definition.allSame_comm ds es]

theorem Definition.same_comm : ∀ d e : Definition, d.same e = e.same d
  | ⟨m, b⟩, ⟨n, c⟩ => by
    rw [Definition.same,Definition.same,BEq.comm (a := m),Body.same_comm b c]

theorem Body.same_comm : ∀ b c : Body, b.same c = c.same b
  | .query q, .query r => by rw [Body.same,Body.same,Query.same_comm q r]
  | .raw s, .raw t => by rw [Body.same,Body.same,BEq.comm (a := s)]
  | .query _, .raw _ => by simp only [Body.same]
  | .raw _, .query _ => by simp only [Body.same]
end

lemma isEqv_trans {α : Type} {f : α → α → Bool}
    (hf : ∀ a b c, f a b = true → f b c = true → f a c = true) {as bs cs : List α}
    (hab : as.isEqv bs f = true) (hbc : bs.isEqv cs f = true) : as.isEqv cs f = true := by
  induction as generalizing bs cs with
  | nil =>
    cases bs with
    | nil => exact hbc
    | cons b bs => cases hab
  | cons a as ih =>
    cases bs with
    | nil => cases hab
    | cons b bs =>
      cases cs with
      | nil => cases hbc
      | cons c cs =>
        simp only [List.isEqv, Bool.and_eq_true] at hab hbc ⊢
        exact ⟨hf a b c hab.1 hbc.1,ih hab.2 hbc.2⟩

theorem Value.same_trans {u v w : Value} (huv : u.same v = true) (hvw : v.same w = true) :
    u.same w = true := by
  cases u <;> cases v <;> simp only [Value.same, Bool.false_eq_true] at huv <;>
    cases w <;> simp only [Value.same, Bool.false_eq_true] at hvw ⊢
  case float.float.float => exact Binary64.same_trans huv hvw
  all_goals exact beq_iff_eq.mpr ((beq_iff_eq.mp huv).trans (beq_iff_eq.mp hvw))

theorem Condition.same_trans (b c d : Condition) (hbc : b.same c = true) (hcd : c.same d = true) :
    b.same d = true := by
  simp only [Condition.same, Bool.and_eq_true, beq_iff_eq] at hbc hcd ⊢
  obtain ⟨⟨hcolumn,hcomparison⟩,hvalue⟩ := hbc
  obtain ⟨⟨hcolumn',hcomparison'⟩,hvalue'⟩ := hcd
  exact ⟨⟨hcolumn.trans hcolumn',hcomparison.trans hcomparison'⟩,Value.same_trans hvalue hvalue'⟩

theorem Clause.same_trans (b c d : Clause) (hbc : b.same c = true) (hcd : c.same d = true) :
    b.same d = true := by
  simp only [Clause.same, Bool.and_eq_true, beq_iff_eq] at hbc hcd ⊢
  exact ⟨hbc.1.trans hcd.1,isEqv_trans Condition.same_trans hbc.2 hcd.2⟩

theorem Select.same_trans {s t u : Select} (hst : s.same t = true) (htu : t.same u = true) :
    s.same u = true := by
  simp only [Select.same, Bool.and_eq_true, beq_iff_eq] at hst htu ⊢
  obtain ⟨⟨htable,hcolumns⟩,hclauses⟩ := hst
  obtain ⟨⟨htable',hcolumns'⟩,hclauses'⟩ := htu
  exact ⟨⟨htable.trans htable',hcolumns.trans hcolumns'⟩,
    isEqv_trans Clause.same_trans hclauses hclauses'⟩

mutual
theorem Query.same_trans :
    ∀ p q r : Query, p.same q = true → q.same r = true → p.same r = true
  | ⟨_, a⟩, ⟨_, b⟩, ⟨_, c⟩ => by
    simp only [Query.same, Bool.and_eq_true]
    rintro ⟨hst,hab⟩ ⟨htu,hbc⟩
    exact ⟨Select.same_trans hst htu,Registry.same_trans a b c hab hbc⟩

theorem Registry.same_trans :
    ∀ r s t : Registry, r.same s = true → s.same t = true → r.same t = true
  | ⟨cs, _⟩, ⟨ds, _⟩, ⟨es, _⟩ => by
    simp only [Registry.same, Bool.and_eq_true, beq_iff_eq]
    rintro ⟨hcd,hab⟩ ⟨hde,hbc⟩
    exact ⟨Definition.allSame_trans cs ds es hcd hde,hab.trans hbc⟩

theorem Definition.allSame_trans : ∀ cs ds es : List Definition,
    Definition.allSame cs ds = true → Definition.allSame ds es = true →
      Definition.allSame cs es = true
  | [], [], _ => fun _ h => h
  | [], _ :: _, _ => by simp only [Definition.allSame, Bool.false_eq_true, false_imp_iff]
  | _ :: _, [], _ => by simp only [Definition.allSame, Bool.false_eq_true, false_imp_iff]
  | _ :: _, _ :: _, [] => by
    simp only [Definition.allSame, Bool.false_eq_true, imp_self, implies_true]
  | c :: cs, d :: ds, e :: es => by
    simp only [Definition.allSame, Bool.and_eq_true]
    rintro ⟨hcd,hcds⟩ ⟨hde,hdes⟩
    exact ⟨Definition.same_trans c d e hcd hde,Definition.allSame_trans cs ds es hcds hdes⟩

theorem Definition.same_trans :
    ∀ c d e : Definition, c.same d = true → d.same e = true → c.same e = true
  | ⟨_, a⟩, ⟨_, b⟩, ⟨_, c⟩ => by
    simp only [Definition.same, Bool.and_eq_true, beq_iff_eq]
    rintro ⟨hlm,hab⟩ ⟨hmn,hbc⟩
    exact ⟨hlm.trans hmn,Body.same_trans a b c hab hbc⟩

theorem Body.same_trans :
    ∀ a b c : Body, a.same b = true → b.same c = true → a.same c = true
  | .query p, .query q, .query r => by
    simp only [Body.same]
    exact Query.same_trans p q r
  | .raw s, .raw t, .raw u => by
    simp only [Body.same, beq_iff_eq]
    exact Eq.trans
  | .query _, .raw _, _ => by simp only [Body.same, Bool.false_eq_true, false_imp_iff]
  | .raw _, .query _, _ => by simp only [Body.same, Bool.false_eq_true, false_imp_iff]
  | .query _, .query _, .raw _ => by
    simp only [Body.same, Bool.false_eq_true, imp_self, implies_true]
  | .raw _, .raw _, .query _ => by
    simp only [Body.same, Bool.false_eq_true, imp_self, implies_true]
end

lemma Definition.name_eq_of_same {d e : Definition} (h : d.same e = true) : d.name = e.name := by
  obtain ⟨m,b⟩ := d
  obtain ⟨n,c⟩ := e
  rw [Definition.same,Bool.and_eq_true] at h
  exact beq_iff_eq.mp h.1

end WithClause
