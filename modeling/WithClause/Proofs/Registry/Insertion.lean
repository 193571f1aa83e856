import Mathlib.Data.List.Infix
import WithClause.Proofs.Query.Equality
import WithClause.Registry

/-! Declaring definitions one after another. Those already there stay in front, every declared one is
there afterwards or has an equal one before it, and the recursive flag plays no part. -/
namespace WithClause.Registry

variable {r : Registry} {d e : Definition}

@[ext] theorem ext {r s : Registry} (hdefinitions : r.definitions = s.definitions)
    (hrecursive : r.recursive = s.recursive) : r = s := by
  obtain ⟨definitions,recursive⟩ := r
  obtain ⟨definitions',recursive'⟩ := s
  rw [mk.injEq]
  exact ⟨hdefinitions,hrecursive⟩

lemma holds_iff : r.holds d = true ↔ ∃ e ∈ r.definitions, e.same d = true := List.any_eq_true

lemma same_eq_false_of_not_holds (h : r.holds d = false) :
    ∀ e ∈ r.definitions, e.same d = false := by
  intro e he
  simpa using List.any_eq_false.mp h e he

theorem prefix_insert (r : Registry) (d : Definition) :
    r.definitions <+: (r.insert d).definitions := by
  cases h : r.holds d with
  | true => rw [insert_of_holds h]
  | false => exact ⟨[d],(insert_of_not_holds h).symm⟩

theorem prefix_foldl_insert (r : Registry) (ds : List Definition) :
    r.definitions <+: (ds.foldl insert r).definitions := by
  induction ds generalizing r with
  | nil => exact List.prefix_rfl
  | cons d ds ih => exact (prefix_insert r d).trans (ih (r.insert d))

theorem foldl_insert_sublist (r : Registry) (ds : List Definition) :
    (ds.foldl insert r).definitions.Sublist (r.definitions ++ ds) := by
  induction ds generalizing r with
  | nil => simp
  | cons d ds ih =>
    refine (ih (r.insert d)).trans ?_
    cases h : r.holds d with
    | true =>
      rw [insert_of_holds h]
      exact (List.sublist_cons_self d ds).append_left _
    | false => rw [insert_of_not_holds h,List.append_assoc,List.singleton_append]

/-- Each definition differs from those before it. -/
def Distinct (r : Registry) : Prop := r.definitions.Pairwise fun d e => d.same e = false

theorem Distinct.insert (h : r.Distinct) (d : Definition) : (r.insert d).Distinct := by
  cases hholds : r.holds d with
  | true =>
    rw [insert_of_holds hholds]
    exact h
  | false =>
    rw [Distinct,insert_of_not_holds hholds,List.pairwise_append]
    refine ⟨h,List.pairwise_singleton _ _,?_⟩
    intro e he f hf
    rw [List.mem_singleton.mp hf]
    exact same_eq_false_of_not_holds hholds e he

theorem Distinct.foldl_insert (h : r.Distinct) (ds : List Definition) :
    (ds.foldl Registry.insert r).Distinct := by
  induction ds generalizing r with
  | nil => exact h
  | cons d ds ih => exact ih (h.insert d)

/-- A definition with a NaN in it is not equal to itself, so equality alone would not do. -/
theorem exists_mem_insert (r : Registry) (d : Definition) :
    ∃ e ∈ (r.insert d).definitions, e = d ∨ e.same d = true := by
  cases h : r.holds d with
  | true =>
    obtain ⟨e,he,hsame⟩ := holds_iff.mp h
    rw [insert_of_holds h]
    exact ⟨e,he,.inr hsame⟩
  | false =>
    rw [insert_of_not_holds h]
    exact ⟨d,by simp,.inl rfl⟩

theorem exists_mem_foldl_insert {ds : List Definition} (r : Registry) (hd : d ∈ ds) :
    ∃ e ∈ (ds.foldl insert r).definitions, e = d ∨ e.same d = true := by
  induction ds generalizing r with
  | nil => cases hd
  | cons c ds ih =>
    rcases List.mem_cons.mp hd with rfl | hd
    · obtain ⟨e,he,hsame⟩ := exists_mem_insert r d
      exact ⟨e,(prefix_foldl_insert _ ds).subset he,hsame⟩
    · exact ih (r.insert c) hd

/-- What a declared definition is equal to counts as held, whether it was kept or not. -/
lemma holds_foldl_insert {ds : List Definition} (r : Registry) (hd : d ∈ ds)
    (h : d.same e = true) : (ds.foldl insert r).holds e = true := by
  obtain ⟨f,hf,rfl | hsame⟩ := exists_mem_foldl_insert r hd
  · exact holds_iff.mpr ⟨f,hf,h⟩
  · exact holds_iff.mpr ⟨f,hf,Definition.same_trans f d e hsame h⟩

lemma holds_insert_eq (r : Registry) (d e : Definition) :
    (r.insert d).holds e = (r.holds e || d.same e) := by
  cases h : r.holds d with
  | false => simp [holds, insert_of_not_holds h]
  | true =>
    rw [insert_of_holds h]
    cases hde : d.same e with
    | false => rw [Bool.or_false]
    | true =>
      obtain ⟨c,hc,hcd⟩ := holds_iff.mp h
      rw [Bool.or_true]
      exact holds_iff.mpr ⟨c,hc,Definition.same_trans c d e hcd hde⟩

/-- Those definitions that are equal to no known one and to none in front of them. -/
def novel (known : List Definition) : List Definition → List Definition
  | [] => []
  | d :: ds =>
    if known.any (·.same d) then novel (known ++ [d]) ds else d :: novel (known ++ [d]) ds

/-- A definition that was left out is known as well as one that was kept, since what is equal to it is
also equal to the one that was found for it. -/
lemma definitions_foldl_insert_of_holds {known : List Definition}
    (h : ∀ d, known.any (·.same d) = r.holds d) (ds : List Definition) :
    (ds.foldl insert r).definitions = r.definitions ++ novel known ds := by
  induction ds generalizing r known with
  | nil => simp [novel]
  | cons d ds ih =>
    have hnext : ∀ e, (known ++ [d]).any (·.same e) = (r.insert d).holds e := by
      intro e
      rw [holds_insert_eq,List.any_append,h]
      simp
    rw [List.foldl_cons,ih hnext,novel,h]
    cases hd : r.holds d with
    | true => rw [insert_of_holds hd,if_pos rfl]
    | false =>
      rw [insert_of_not_holds hd,List.append_assoc,List.singleton_append,
        if_neg Bool.false_ne_true]

theorem definitions_foldl_insert (r : Registry) (ds : List Definition) :
    (ds.foldl insert r).definitions = r.definitions ++ novel r.definitions ds :=
  definitions_foldl_insert_of_holds (fun _ => rfl) ds

/-- To declare what a registry has made of some definitions is to declare the definitions
themselves. -/
theorem foldl_insert_foldl_insert (r s : Registry) (ds : List Definition) :
    (ds.foldl insert s).definitions.foldl insert r =
      ds.foldl insert (s.definitions.foldl insert r) := by
  induction ds generalizing s with
  | nil => rfl
  | cons d ds ih =>
    have hstep : (s.insert d).definitions.foldl insert r =
        (s.definitions.foldl insert r).insert d := by
      cases h : s.holds d with
      | true =>
        obtain ⟨e,he,hsame⟩ := holds_iff.mp h
        rw [insert_of_holds h,insert_of_holds (holds_foldl_insert r he hsame)]
      | false =>
        rw [insert_of_not_holds h,List.foldl_append]
        rfl
    rw [List.foldl_cons,List.foldl_cons,ih,hstep]

lemma insert_markRecursive (r : Registry) (recursive : Bool) (d : Definition) :
    (r.markRecursive recursive).insert d = (r.insert d).markRecursive recursive := by
  have hholds : (r.markRecursive recursive).holds d = r.holds d := rfl
  rw [insert,insert,hholds]
  split <;> rfl

theorem foldl_insert_markRecursive (r : Registry) (recursive : Bool) (ds : List Definition) :
    ds.foldl insert (r.markRecursive recursive) = (ds.foldl insert r).markRecursive recursive := by
  induction ds generalizing r with
  | nil => rfl
  | cons d ds ih => rw [List.foldl_cons,List.foldl_cons,insert_markRecursive,ih]

@[simp] theorem markRecursive_markRecursive (r : Registry) (a b : Bool) :
    (r.markRecursive a).markRecursive b = r.markRecursive (a || b) := by
  simp only [markRecursive, Bool.or_assoc]

@[simp] theorem markRecursive_definitions (r : Registry) (recursive : Bool) :
    (r.markRecursive recursive).definitions = r.definitions := rfl

@[simp] theorem foldl_insert_recursive (r : Registry) (ds : List Definition) :
    (ds.foldl insert r).recursive = r.recursive := by
  induction ds generalizing r with
  | nil => rfl
  | cons d ds ih => rw [List.foldl_cons,ih,insert_recursive]

theorem merge_recursive (r s : Registry) :
    (r.merge s).value.recursive = (r.recursive || s.recursive) := by
  rw [merge_value,foldl_insert_recursive]
  rfl

end WithClause.Registry
