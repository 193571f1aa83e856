import Mathlib.Data.List.Infix
import WithClause.Proofs.Registry.Insertion

/-! The distinct elements of a list, and the names of a registry, which are the distinct names of all
that was ever declared in it. -/
namespace WithClause

section Distinct
variable {α : Type} [DecidableEq α]

theorem distinct_sublist (as : List α) : (distinct as).Sublist as := by
  induction as with
  | nil => exact List.Sublist.refl _
  | cons a as ih => exact (List.filter_sublist.trans ih).cons_cons a

theorem distinct_append (as bs : List α) :
    distinct (as ++ bs) = distinct as ++ (distinct bs).filter (· ∉ as) := by
  induction as with
  | nil => simp [distinct]
  | cons a as ih =>
    simp only [List.cons_append, distinct, ih, List.filter_append, List.filter_filter]
    congr 2
    apply List.filter_congr
    intro b _
    simp [List.mem_cons, not_or]

lemma distinct_concat (as : List α) (a : α) :
    distinct (as ++ [a]) = distinct as ++ if a ∈ as then [] else [a] := by
  rw [distinct_append]
  by_cases h : a ∈ as <;> simp [distinct, h]

/-- A further occurrence of an element changes nothing. -/
theorem distinct_append_cons_of_mem {a : α} {as : List α} (h : a ∈ as) (bs : List α) :
    distinct (as ++ a :: bs) = distinct (as ++ bs) := by
  rw [distinct_append,distinct_append,distinct,List.filter_cons_of_neg (by simpa using h),
    List.filter_filter]
  congr 1
  apply List.filter_congr
  intro b _
  by_cases hb : b ∈ as
  · simp [hb]
  · have hne : b ≠ a := by
      rintro rfl
      exact hb h
    simp [hb, hne]

theorem length_distinct_eq_iff {as : List α} : (distinct as).length = as.length ↔ as.Nodup := by
  constructor
  · intro h
    rw [← (distinct_sublist as).eq_of_length h]
    exact nodup_distinct as
  · intro h
    induction as with
    | nil => rfl
    | cons a as ih =>
      obtain ⟨ha,has⟩ := List.nodup_cons.mp h
      have hfilter : (distinct as).filter (· ≠ a) = distinct as := by
        rw [List.filter_eq_self]
        intro b hb
        rw [decide_eq_true_eq]
        rintro rfl
        exact ha (mem_distinct.mp hb)
      rw [distinct,hfilter,List.length_cons,List.length_cons,ih has]

/-- The order is that of the first occurrences. -/
theorem pairwise_idxOf_distinct (as : List α) :
    (distinct as).Pairwise fun a b => as.idxOf a < as.idxOf b := by
  induction as with
  | nil => exact List.Pairwise.nil
  | cons c as ih =>
    rw [distinct,List.pairwise_cons]
    have hne : ∀ b ∈ (distinct as).filter (· ≠ c), c ≠ b := by
      intro b hb
      have := (List.mem_filter.mp hb).2
      rw [decide_eq_true_eq] at this
      exact this.symm
    constructor
    · intro b hb
      rw [List.idxOf_cons_self,List.idxOf_cons_ne as (hne b hb)]
      exact Nat.succ_pos _
    · refine (ih.sublist List.filter_sublist).imp_of_mem ?_
      intro a b ha hb hab
      rw [List.idxOf_cons_ne as (hne a ha),List.idxOf_cons_ne as (hne b hb)]
      exact Nat.succ_lt_succ hab

end Distinct

namespace Registry

lemma contains_iff {r : Registry} {name : String} :
    r.contains name = true ↔ name ∈ r.definitions.map Definition.name := by
  simp [contains]

lemma contains_eq_isSome_get? (r : Registry) (name : String) :
    r.contains name = (r.get? name).isSome := List.isSome_find?.symm

lemma name_mem_of_holds {r : Registry} {d : Definition} (h : r.holds d = true) :
    d.name ∈ r.definitions.map Definition.name := by
  obtain ⟨e,he,hsame⟩ := holds_iff.mp h
  rw [← Definition.name_eq_of_same hsame]
  exact List.mem_map_of_mem he

/-- A definition that is not declared again has brought no new name. -/
theorem names_foldl_insert (r : Registry) (ds : List Definition) :
    (ds.foldl insert r).names = distinct ((r.definitions ++ ds).map Definition.name) := by
  induction ds generalizing r with
  | nil => simp [names]
  | cons d ds ih =>
    rw [List.foldl_cons,ih]
    cases h : r.holds d with
    | true =>
      rw [insert_of_holds h,List.map_append,List.map_append,List.map_cons,
        distinct_append_cons_of_mem (name_mem_of_holds h)]
    | false => rw [insert_of_not_holds h,List.append_assoc,List.singleton_append]

end Registry
end WithClause
