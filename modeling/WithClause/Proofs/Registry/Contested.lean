import WithClause.Proofs.Registry.Conflicts

/-! Registries that are given raw SQL only. They keep each pair of a name and its SQL once, and the names in
conflict are those that come with SQL that differs. -/
namespace WithClause

variable {p q : String × String} {supplied : List (String × String)} {name : String}

/-- The definition that gives raw SQL to a name. -/
def Definition.ofPair (p : String × String) : Definition := raw p.1 p.2

lemma Definition.same_ofPair_iff : (ofPair p).same (ofPair q) = true ↔ p = q := by
  simp [ofPair, raw, Definition.same, Body.same, Prod.ext_iff]

/-- The name is supplied twice, with SQL that differs. -/
def Contested (supplied : List (String × String)) (name : String) : Prop :=
  ∃ p ∈ supplied, ∃ q ∈ supplied, p.1 = name ∧ q.1 = name ∧ p.2 ≠ q.2

instance (supplied : List (String × String)) : DecidablePred (Contested supplied) := fun name =>
  inferInstanceAs
    (Decidable (∃ p ∈ supplied, ∃ q ∈ supplied, p.1 = name ∧ q.1 = name ∧ p.2 ≠ q.2))

/-- The contested names in the order in which they were first supplied. -/
def contestedNames (supplied : List (String × String)) : List String :=
  (distinct (supplied.map Prod.fst)).filter fun name => Contested supplied name

lemma mem_contestedNames_iff : name ∈ contestedNames supplied ↔ Contested supplied name := by
  rw [contestedNames,List.mem_filter,mem_distinct,decide_eq_true_eq,and_iff_right_iff_imp]
  rintro ⟨p,hp,-,-,rfl,-⟩
  exact List.mem_map_of_mem hp

lemma contestedNames_ne_nil_iff : contestedNames supplied ≠ [] ↔
    ∃ p ∈ supplied, ∃ q ∈ supplied, p.1 = q.1 ∧ p.2 ≠ q.2 := by
  rw [Ne,List.eq_nil_iff_forall_not_mem,not_forall_not]
  simp only [mem_contestedNames_iff]
  constructor
  · rintro ⟨name,p,hp,q,hq,rfl,hname,hsql⟩
    exact ⟨p,hp,q,hq,hname.symm,hsql⟩
  · rintro ⟨p,hp,q,hq,hname,hsql⟩
    exact ⟨q.1,p,hp,q,hq,hname,rfl,hsql⟩

namespace Registry

variable {r : Registry}

lemma holds_ofPair_iff (h : r.definitions = (distinct supplied).map .ofPair) :
    r.holds (.ofPair p) = true ↔ p ∈ supplied := by
  rw [holds_iff,h]
  constructor
  · rintro ⟨d,hd,hsame⟩
    obtain ⟨q,hq,rfl⟩ := List.mem_map.mp hd
    obtain rfl := Definition.same_ofPair_iff.mp hsame
    exact mem_distinct.mp hq
  · intro hp
    exact ⟨_,List.mem_map_of_mem (mem_distinct.mpr hp),Definition.same_ofPair_iff.mpr rfl⟩

/-- A pair is kept where it is supplied for the first time. -/
theorem definitions_foldl_insert_ofPair (h : r.definitions = []) :
    ((supplied.map .ofPair).foldl insert r).definitions = (distinct supplied).map .ofPair := by
  induction supplied using List.reverseRecOn with
  | nil => exact h
  | append_singleton supplied p ih =>
    rw [List.map_append,List.foldl_append,List.map_singleton,List.foldl_cons,List.foldl_nil,
      distinct_concat]
    by_cases hp : p ∈ supplied
    · rw [insert_of_holds ((holds_ofPair_iff ih).mpr hp),ih,if_pos hp,List.append_nil]
    · have hholds := mt (holds_ofPair_iff ih).mp hp
      rw [insert_of_not_holds (Bool.not_eq_true _ ▸ hholds),ih,if_neg hp,List.map_append]
      rfl

lemma mem_conflicts_ofPair_iff (h : r.definitions = (distinct supplied).map .ofPair) :
    name ∈ r.conflicts ↔ Contested supplied name := by
  rw [mem_conflicts_iff_pair,h]
  constructor
  · rintro ⟨d,e,hpair,hd,he⟩
    obtain ⟨ps,hps,hmap⟩ := List.sublist_map_iff.mp hpair
    have hlength := congrArg List.length hmap
    obtain ⟨p,q,rfl⟩ := List.length_eq_two.mp (by simpa using hlength.symm)
    simp only [List.map_cons, List.map_nil, List.cons.injEq, and_true] at hmap
    obtain ⟨rfl,rfl⟩ := hmap
    have hne : p ≠ q := by
      simpa using (nodup_distinct supplied).sublist hps
    have hp : p ∈ supplied := mem_distinct.mp (hps.subset List.mem_cons_self)
    have hq : q ∈ supplied :=
      mem_distinct.mp (hps.subset (List.mem_cons_of_mem p List.mem_cons_self))
    exact ⟨p,hp,q,hq,hd,he,fun hsql => hne (Prod.ext (hd.trans he.symm) hsql)⟩
  · rintro ⟨p,hp,q,hq,hpname,hqname,hsql⟩
    have hne : p ≠ q := by
      rintro rfl
      exact hsql rfl
    rcases pair_sublist_or (mem_distinct.mpr hp) (mem_distinct.mpr hq) hne with hpair | hpair
    · exact ⟨_,_,hpair.map Definition.ofPair,hpname,hqname⟩
    · exact ⟨_,_,hpair.map Definition.ofPair,hqname,hpname⟩

theorem conflicts_foldl_insert_ofPair (h : r.definitions = []) :
    ((supplied.map .ofPair).foldl insert r).conflicts = contestedNames supplied := by
  have hmem : ∀ name, name ∈ ((supplied.map .ofPair).foldl insert r).conflicts ↔
      Contested supplied name :=
    fun _ => mem_conflicts_ofPair_iff (definitions_foldl_insert_ofPair h)
  have hnames := names_foldl_insert r (supplied.map .ofPair)
  rw [h,List.nil_append,List.map_map] at hnames
  rw [contestedNames,conflicts,hnames]
  apply List.filter_congr
  intro name _
  rw [decide_eq_decide,← hmem name,mem_conflicts_iff_count,countP_name_eq_count]

/-- Without conflicts there are as many names as definitions. -/
lemma length_names_of_conflicts_eq_nil (h : r.conflicts = []) : r.names.length = r.size := by
  rw [names,length_distinct_eq_iff.mpr (conflicts_eq_nil_iff.mp h),List.length_map,size]

end Registry
end WithClause
