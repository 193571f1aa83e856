import WithClause.Proofs.Registry.Names
import WithClause.Proofs.Registry.Resolution
import WithClause.Query.Sql

/-! What comes about from a registry by attaching to it and merging others into it. The definitions
that were there stay in front, so nothing that was said of them changes. -/
namespace WithClause

lemma prologueText_append {xs : List String} (hxs : xs ≠ []) (recursive : Bool)
    (ys : List String) : prologueText recursive (xs ++ ys) =
      prologueText recursive xs ++ if ys.isEmpty then "" else ", " ++ ", ".intercalate ys := by
  obtain ⟨x,xs,rfl⟩ := List.exists_cons_of_ne_nil hxs
  cases ys with
  | nil => simp
  | cons y ys =>
    have hjoin : ", ".intercalate (x :: xs ++ y :: ys) =
        ", ".intercalate (x :: xs) ++ ", " ++ ", ".intercalate (y :: ys) :=
      String.intercalate_append_of_ne_nil (List.cons_ne_nil x xs) (List.cons_ne_nil y ys)
    rw [List.cons_append] at hjoin
    simp only [List.cons_append, prologueText, hjoin, String.append_assoc, List.isEmpty_cons,
      Bool.false_eq_true, if_false]

namespace Registry

variable {r s t : Registry}

/-- What was declared stays in front, and a recursive registry stays recursive. -/
structure Grown (r s : Registry) : Prop where
  definitions : r.definitions <+: s.definitions
  recursive : r.recursive = true → s.recursive = true

lemma Grown.refl (r : Registry) : r.Grown r := ⟨List.prefix_rfl,id⟩

lemma Grown.trans (hrs : r.Grown s) (hst : s.Grown t) : r.Grown t :=
  ⟨hrs.definitions.trans hst.definitions,fun h => hst.recursive (hrs.recursive h)⟩

lemma grown_foldl_insert (r : Registry) (recursive : Bool) (ds : List Definition) :
    r.Grown (ds.foldl insert (r.markRecursive recursive)) := by
  constructor
  · exact prefix_foldl_insert (r.markRecursive recursive) ds
  · intro h
    rw [foldl_insert_recursive,markRecursive,h,Bool.true_or]

theorem grown_of_attach {args : List Argument} {recursive : Bool}
    (h : (r.attach args recursive).outcome = .ok s) : r.Grown s := by
  obtain ⟨ds,-,rfl⟩ := outcome_attach_eq_ok_iff.mp h
  exact grown_foldl_insert r recursive ds

theorem grown_merge (r other : Registry) : r.Grown (r.merge other).value := by
  rw [merge_value]
  exact grown_foldl_insert r other.recursive other.definitions

/-- The registries that come about from a given one by attaching and merging. -/
inductive Extended (r : Registry) : Registry → Prop
  | refl : Extended r r
  | attach {s t : Registry} {args : List Argument} {recursive : Bool} (hs : Extended r s)
    (ht : (s.attach args recursive).outcome = .ok t) : Extended r t
  | merge {s : Registry} (hs : Extended r s) (other : Registry) :
    Extended r (s.merge other).value

theorem Extended.grown (h : r.Extended s) : r.Grown s := by
  induction h with
  | refl => exact Grown.refl r
  | attach _ ht ih => exact ih.trans (grown_of_attach ht)
  | merge _ other ih => exact ih.trans (grown_merge _ other)

lemma exists_get?_of_contains {name : String} (h : r.contains name = true) :
    ∃ d, r.get? name = some d := by
  rw [← Option.isSome_iff_exists,← contains_eq_isSome_get?]
  exact h

/-- Whatever is declared under a name later on is not the first definition under it. -/
lemma Grown.get?_eq (h : r.Grown s) {name : String} {d : Definition} (hd : r.get? name = some d) :
    s.get? name = some d := h.definitions.find?_eq_some hd

theorem Grown.names (h : r.Grown s) : r.names <+: s.names := by
  obtain ⟨added,hadded⟩ := h.definitions
  rw [Registry.names,Registry.names,← hadded,List.map_append,distinct_append]
  exact List.prefix_append _ _

/-- A name that is declared more than once remains so, and names keep their order. -/
theorem Grown.conflicts (h : r.Grown s) : r.conflicts.Sublist s.conflicts := by
  have hcount : ∀ name, 1 < r.definitions.countP (·.name == name) →
      1 < s.definitions.countP (·.name == name) :=
    fun name hname => hname.trans_le h.definitions.sublist.countP_le
  have hkept : (r.names.filter fun name => 1 < r.definitions.countP (·.name == name)).Sublist
      (r.names.filter fun name => 1 < s.definitions.countP (·.name == name)) := by
    apply List.monotone_filter_right
    intro name hname
    rw [decide_eq_true_eq] at hname ⊢
    exact hcount name hname
  exact hkept.trans (h.names.sublist.filter _)

theorem text_of_definitions_eq {added : List Definition}
    (h : s.definitions = r.definitions ++ added) (hne : r.isEmpty = false)
    (hrecursive : r.recursive = s.recursive) :
    s.text = r.text ++
      if added.isEmpty then "" else ", " ++ ", ".intercalate (added.map Definition.text) := by
  have htexts : r.definitions.map Definition.text ≠ [] := by
    rw [ne_eq,List.map_eq_nil_iff]
    exact List.isEmpty_eq_false_iff.mp hne
  rw [s.text_eq,r.text_eq,h,List.map_append,← hrecursive,prologueText_append htexts,
    List.isEmpty_map]

/-- Attaching and merging disturb nothing that was declared before. The old definitions come first, a
recursive registry stays recursive, every name that was there still stands for the same definition,
names and conflicts only grow in the order they have, and the prologue is only continued. -/
theorem Extended.undisturbed (h : r.Extended s) : ∃ added,
    s.definitions = r.definitions ++ added ∧
    (r.recursive = true → s.recursive = true) ∧
    (∀ name, r.contains name = true → ∃ d, r.get? name = some d ∧ s.get? name = some d) ∧
    r.names <+: s.names ∧
    r.conflicts.Sublist s.conflicts ∧
    (r.isEmpty = false → r.recursive = s.recursive → s.text = r.text ++
      if added.isEmpty then "" else ", " ++ ", ".intercalate (added.map Definition.text)) := by
  have hgrown := h.grown
  obtain ⟨added,hadded⟩ := hgrown.definitions
  refine ⟨added,hadded.symm,hgrown.recursive,?_,hgrown.names,hgrown.conflicts,?_⟩
  · intro name hname
    obtain ⟨d,hd⟩ := exists_get?_of_contains hname
    exact ⟨d,hd,hgrown.get?_eq hd⟩
  · exact text_of_definitions_eq hadded.symm

/-- A registry in which a name is in conflict already. -/
def early : Registry := ⟨[.raw "a" "1", .raw "b" "2", .raw "a" "3"], true⟩

/-- The same after an attachment and a merge that repeat some of it and bring more conflicts. -/
def late : Registry :=
  ⟨[.raw "a" "1", .raw "b" "2", .raw "a" "3", .raw "c" "4", .raw "b" "5"], true⟩

lemma late_extended : early.Extended late := by
  have hattach : (early.attach [.mapping [("a", .raw "3"), ("c", .raw "4")]] false).outcome =
      .ok ⟨early.definitions ++ [.raw "c" "4"], true⟩ := by
    refine outcome_attach_eq_ok_iff.mpr ⟨[.raw "a" "3", .raw "c" "4"],rfl,?_⟩
    simp [early, markRecursive, insert, holds, Definition.same, Body.same, Definition.raw]
  have hmerge : (Registry.merge ⟨early.definitions ++ [.raw "c" "4"], true⟩
      ⟨[.raw "b" "5", .raw "a" "1"], false⟩).value = late := by
    simp [merge_value, early, late, markRecursive, insert, holds, Definition.same, Body.same,
      Definition.raw]
  rw [← hmerge]
  exact .merge (.attach .refl hattach) _

theorem late_undisturbed : early.Extended late ∧ early.contains "b" = true ∧
    late.get? "b" = some (.raw "b" "2") ∧ early.names <+: late.names ∧
    early.conflicts = ["a"] ∧ early.conflicts.Sublist late.conflicts ∧
    late.text = early.text ++ ", c AS (4), b AS (5)" := by
  obtain ⟨added,hadded,-,hget,hnames,hconflicts,htext⟩ := late_extended.undisturbed
  have hb : early.contains "b" = true := by decide
  have hnew : added = [.raw "c" "4", .raw "b" "5"] := by
    simpa [early, late] using hadded.symm
  obtain ⟨d,hearly,hlate⟩ := hget "b" hb
  have hd : early.get? "b" = some (.raw "b" "2") := rfl
  rw [hd] at hearly
  refine ⟨late_extended,hb,hlate.trans hearly.symm,hnames,rfl,hconflicts,?_⟩
  rw [htext rfl rfl,hnew]
  decide +kernel

end Registry
end WithClause
