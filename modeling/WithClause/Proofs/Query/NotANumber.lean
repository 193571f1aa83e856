import WithClause.Proofs.Query.Equality
import WithClause.Proofs.Query.Parts

/-! A definition is equal to itself unless a NaN is somewhere in it, at whatever depth, and one with a
NaN in it is equal to nothing. -/
namespace WithClause

lemma isEqv_self {α : Type} (f : α → α → Bool) (as : List α) :
    as.isEqv as f = as.all fun a => f a a := by
  induction as with
  | nil => rfl
  | cons a as ih => rw [List.isEqv,List.all_cons,ih]

def Value.isNaN : Value → Bool
  | float x => x.isNaN
  | _ => false

namespace Select

/-- The values in all conditions, also in those that are not written. -/
def values (s : Select) : List Value :=
  s.clauses.flatMap fun c => c.conditions.map Condition.value

end Select

namespace Definition

/-- The values in the query that a definition stands for, and in the queries of its definitions. -/
def values (d : Definition) : List Value := d.gather Select.values fun _ => []

def holdsNaN (d : Definition) : Bool := d.values.any Value.isNaN

end Definition

theorem Value.same_self (v : Value) : v.same v = !v.isNaN := by
  cases v with
  | float x => exact Binary64.same_self x
  | null => rfl
  | bool _ | int _ | string _ | parameter _ | call _ => exact beq_self_eq_true _

theorem Condition.same_self (c : Condition) : c.same c = !c.value.isNaN := by
  rw [same,beq_self_eq_true,beq_self_eq_true,Bool.true_and,Bool.true_and,Value.same_self]

theorem Clause.same_self (c : Clause) :
    c.same c = !(c.conditions.map Condition.value).any Value.isNaN := by
  rw [same,beq_self_eq_true,Bool.true_and,isEqv_self,List.any_map,List.not_any_eq_all_not]
  congr 1
  funext d
  exact d.same_self

theorem Select.same_self (s : Select) : s.same s = !s.values.any Value.isNaN := by
  rw [same,beq_self_eq_true,beq_self_eq_true,Bool.true_and,Bool.true_and,isEqv_self,values,
    List.any_flatMap,List.not_any_eq_all_not]
  congr 1
  funext c
  exact c.same_self

mutual
theorem Query.same_self :
    ∀ q : Query, q.same q = !(q.gather Select.values fun _ => []).any Value.isNaN
  | ⟨s, r⟩ => by
    rw [Query.same,Query.gather,List.any_append,Bool.not_or,Select.same_self s,
      Registry.same_self r,Bool.and_comm]

theorem Registry.same_self :
    ∀ r : Registry, r.same r = !(r.gather Select.values fun _ => []).any Value.isNaN
  | ⟨ds, _⟩ => by
    rw [Registry.same,Registry.gather,Definition.allSame_self ds,beq_self_eq_true,Bool.and_true]

theorem Definition.allSame_self : ∀ ds : List Definition, Definition.allSame ds ds =
    !(Definition.gatherAll Select.values (fun _ => []) ds).any Value.isNaN
  | [] => by simp only [Definition.allSame, Definition.gatherAll, List.any_nil, Bool.not_false]
  | d :: ds => by
    rw [Definition.allSame,Definition.gatherAll,List.any_append,Bool.not_or,
      Definition.same_self d,Definition.allSame_self ds,Definition.holdsNaN,Definition.values]

theorem Definition.same_self : ∀ d : Definition, d.same d = !d.holdsNaN
  | ⟨_, body⟩ => by
    rw [Definition.same,beq_self_eq_true,Bool.true_and,Definition.holdsNaN,Definition.values,
      Definition.gather,Body.same_self body]

theorem Body.same_self :
    ∀ b : Body, b.same b = !(b.gather Select.values fun _ => []).any Value.isNaN
  | .query q => by rw [Body.same,Body.gather,Query.same_self q]
  | .raw _ => by
    rw [Body.same,Body.gather,beq_self_eq_true,List.any_nil,Bool.not_false]
end

namespace Definition

variable {d : Definition}

lemma same_self_of_not_holdsNaN (h : d.holdsNaN = false) : d.same d = true := by
  rw [same_self,h,Bool.not_false]

/-- What is equal to another definition is equal to itself. -/
lemma same_eq_false_of_holdsNaN (h : d.holdsNaN = true) (e : Definition) : e.same d = false := by
  rw [Bool.eq_false_iff]
  intro hed
  have hde : d.same e = true := by rwa [same_comm]
  have hself := same_trans d e d hde hed
  rw [same_self,h] at hself
  cases hself

end Definition
end WithClause
