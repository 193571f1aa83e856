import WithClause.Proofs.Registry.Conflicts

/-! Looking names up. What was left out has the name of a definition that was there before it, so a
registry tells the same of names as the list of all that was ever supplied, and to merge is to append
such lists. -/
namespace WithClause

variable {d : Definition} {ds : List Definition} {name : String}

/-- The definition has the name, and none in front of it has. -/
def Leads (ds : List Definition) (name : String) (d : Definition) : Prop :=
  ∃ before after, ds = before ++ d :: after ∧ d.name = name ∧ ∀ e ∈ before, e.name ≠ name

lemma find?_name_eq_some_iff : ds.find? (·.name == name) = some d ↔ Leads ds name d := by
  rw [List.find?_eq_some_iff_append,beq_iff_eq,Leads]
  constructor
  · rintro ⟨hname,before,after,hds,hbefore⟩
    exact ⟨before,after,hds,hname,fun e he => by simpa using hbefore e he⟩
  · rintro ⟨before,after,hds,hname,hbefore⟩
    exact ⟨hname,before,after,hds,fun e he => by simpa using hbefore e he⟩

/-- A further definition under a name is not the one that is found. -/
lemma find?_name_append_cons_of_mem (h : d.name ∈ ds.map Definition.name) (es : List Definition)
    (name : String) :
    (ds ++ d :: es).find? (·.name == name) = (ds ++ es).find? (·.name == name) := by
  rw [List.find?_append,List.find?_append]
  by_cases hname : d.name = name
  · have hfound : (ds.find? (·.name == name)).isSome = true := by
      obtain ⟨e,he,hed⟩ := List.mem_map.mp h
      exact List.find?_isSome.mpr ⟨e,he,beq_iff_eq.mpr (hed.trans hname)⟩
    rw [Option.or_of_isSome hfound,Option.or_of_isSome hfound]
  · rw [List.find?_cons_of_neg (by simpa using hname)]

namespace Registry

variable {r : Registry}

/-- The registry names what the list names, each name where it comes first, and finds under it the
definition that comes first. -/
structure Tells (r : Registry) (ds : List Definition) : Prop where
  mem_names : ∀ name, name ∈ r.names ↔ ∃ d ∈ ds, d.name = name
  ordered : r.names.Pairwise fun m n =>
    (ds.map Definition.name).idxOf m < (ds.map Definition.name).idxOf n
  get? : ∀ name d, r.get? name = some d ↔ Leads ds name d

lemma tells_of_names_eq (hnames : r.names = distinct (ds.map Definition.name))
    (hget : ∀ name, r.get? name = ds.find? (·.name == name)) : r.Tells ds := by
  constructor
  · intro name
    rw [hnames,mem_distinct,List.mem_map]
  · rw [hnames]
    exact pairwise_idxOf_distinct _
  · intro name d
    rw [hget,find?_name_eq_some_iff]

theorem get?_foldl_insert (r : Registry) (ds : List Definition) (name : String) :
    (ds.foldl insert r).get? name = (r.definitions ++ ds).find? (·.name == name) := by
  induction ds generalizing r with
  | nil => rw [List.append_nil,List.foldl_nil,get?]
  | cons d ds ih =>
    rw [List.foldl_cons,ih]
    cases h : r.holds d with
    | true =>
      -- left out, but what it is equal to has its name and stands before it
      rw [insert_of_holds h,find?_name_append_cons_of_mem (name_mem_of_holds h)]
    | false => rw [insert_of_not_holds h,List.append_assoc,List.singleton_append]

theorem tells_definitions (r : Registry) : r.Tells r.definitions :=
  tells_of_names_eq rfl fun _ => rfl

theorem Built.tells (h : Built ds r) : r.Tells ds := by
  refine tells_of_names_eq h.names_eq fun name => ?_
  rw [get?,h.definitions_eq]
  exact get?_foldl_insert {} ds name

theorem names_merge (r s : Registry) :
    (r.merge s).value.names = r.names ++ s.names.filter (!r.contains ·) := by
  rw [merge_value,names_foldl_insert,List.map_append,distinct_append]
  congr 1
  apply List.filter_congr
  intro name _
  rw [Bool.eq_iff_iff,Bool.not_eq_true',decide_eq_true_eq,← Bool.not_eq_true,contains_iff]
  rfl

theorem get?_merge (r s : Registry) (name : String) :
    (r.merge s).value.get? name = if r.contains name then r.get? name else s.get? name := by
  rw [merge_value,get?_foldl_insert,markRecursive_definitions,List.find?_append,
    contains_eq_isSome_get?]
  change (r.get? name).or (s.get? name) = _
  cases r.get? name <;> rfl

/-- The lookups agree: a name is contained exactly if it is listed, and exactly if something is found
under it. The names are those of the definitions that were kept, and those of all that were supplied,
each once and in the order of first declaration, and what is found under a name is what was declared
under it first. A merge appends the names that were lacking, and what the other registry has under
the rest is not found. -/
theorem Built.lookups_agree (h : Built ds r) (s : Registry) :
    r.names.Nodup ∧
    (∀ name, (r.contains name = true ↔ name ∈ r.names) ∧
      (name ∈ r.names ↔ (r.get? name).isSome = true)) ∧
    r.Tells r.definitions ∧ r.Tells ds ∧
    (r.merge s).value.names = r.names ++ s.names.filter (!r.contains ·) ∧
    ∀ name, (r.merge s).value.get? name = if r.contains name then r.get? name else s.get? name := by
  have hlisted : ∀ name, r.contains name = true ↔ name ∈ r.names := by
    intro name
    rw [contains_iff,names,mem_distinct]
  refine ⟨nodup_distinct _,?_,r.tells_definitions,h.tells,names_merge r s,get?_merge r s⟩
  intro name
  rw [← hlisted name,contains_eq_isSome_get?]
  exact ⟨Iff.rfl,Iff.rfl⟩

/-- A registry that declares known names again, one of them under a body it had before. -/
def supplement : Registry :=
  ⟨[.raw "c" "1", .raw "a" "3", .raw "a" "1", .raw "b" "4", .raw "c" "2"], false⟩

theorem contested_lookups_agree : Built contestedSupply contested ∧
    contested.names = ["a", "b"] ∧ contested.contains "b" = true ∧
    Leads contestedSupply "b" ⟨"b", .query nanQuery⟩ ∧
    (contested.merge supplement).value.names = ["a", "b", "c"] ∧
    (contested.merge supplement).value.get? "a" = some (.raw "a" "1") ∧
    (contested.merge supplement).value.get? "c" = some (.raw "c" "1") := by
  obtain ⟨-,hagree,-,htells,hnames,hget⟩ := contested_built.lookups_agree supplement
  have hb : contested.get? "b" = some ⟨"b", .query nanQuery⟩ := rfl
  refine ⟨contested_built,rfl,?_,(htells.get? _ _).mp hb,?_,?_,?_⟩
  · rw [(hagree "b").1,(hagree "b").2,hb]
    rfl
  · rw [hnames]
    rfl
  · rw [hget]
    rfl
  · rw [hget]
    rfl

end Registry
end WithClause
