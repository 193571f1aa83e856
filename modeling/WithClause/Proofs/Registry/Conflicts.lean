import Mathlib.Data.List.Nodup
import WithClause.Proofs.Registry.Names
import WithClause.Proofs.Registry.Prologue
import WithClause.Proofs.Registry.Resolution
import WithClause.Query.Builder

/-! The names that are in conflict are those under which unequal definitions were supplied, although
no two bodies are compared when conflicts are looked for. -/
namespace WithClause

lemma pair_sublist_or {α : Type} {a b : α} {as : List α} (ha : a ∈ as) (hb : b ∈ as)
    (h : a ≠ b) : [a, b].Sublist as ∨ [b, a].Sublist as := by
  obtain ⟨xs,ys,rfl⟩ := List.append_of_mem ha
  rcases List.mem_append.mp hb with hb | hb
  · right
    exact (List.singleton_sublist.mpr hb).append (List.singleton_sublist.mpr List.mem_cons_self)
  · left
    have hys : b ∈ ys := (List.mem_cons.mp hb).resolve_left h.symm
    exact ((List.singleton_sublist.mpr hys).cons_cons a).trans (List.sublist_append_right xs _)

namespace Registry

variable {r : Registry} {ds : List Definition} {d e : Definition} {name : String}

/-- All registries that come about by attaching and merging, with the definitions that were supplied
on the way, in order, whether they were kept or not. -/
inductive Built : List Definition → Registry → Prop
  | empty : Built [] {}
  | attach {ds es : List Definition} {r s : Registry} {args : List Argument} {recursive : Bool}
    (hr : Built ds r) (hes : (Argument.resolveAll args).outcome = .ok es)
    (hs : (r.attach args recursive).outcome = .ok s) : Built (ds ++ es) s
  | merge {ds : List Definition} {r : Registry} (hr : Built ds r) (s : Registry) :
    Built (ds ++ s.definitions) (r.merge s).value

/-- It does not matter in which portions the definitions were supplied. -/
theorem Built.exists_eq (h : Built ds r) :
    ∃ recursive, r = (ds.foldl insert {}).markRecursive recursive := by
  induction h with
  | empty => exact ⟨false,rfl⟩
  | @attach ds es r s args recursive _ hes hs ih =>
    obtain ⟨before,rfl⟩ := ih
    obtain ⟨es',hes',rfl⟩ := outcome_attach_eq_ok_iff.mp hs
    obtain rfl := Except.ok.inj (hes.symm.trans hes')
    refine ⟨before || recursive,?_⟩
    rw [markRecursive_markRecursive,foldl_insert_markRecursive,List.foldl_append]
  | @merge ds r _ s ih =>
    obtain ⟨before,rfl⟩ := ih
    refine ⟨before || s.recursive,?_⟩
    rw [merge_value,markRecursive_markRecursive,foldl_insert_markRecursive,List.foldl_append]

lemma Built.definitions_eq (h : Built ds r) : r.definitions = (ds.foldl insert {}).definitions := by
  obtain ⟨recursive,rfl⟩ := h.exists_eq
  rfl

theorem Built.isDistinct (h : Built ds r) : r.Distinct := by
  rw [Distinct,h.definitions_eq]
  exact Distinct.foldl_insert (r := {}) List.Pairwise.nil ds

lemma Built.definitions_sublist (h : Built ds r) : r.definitions.Sublist ds := by
  rw [h.definitions_eq]
  exact foldl_insert_sublist {} ds

lemma Built.names_eq (h : Built ds r) : r.names = distinct (ds.map Definition.name) := by
  rw [names,h.definitions_eq]
  exact names_foldl_insert {} ds

/-- Two places of the list hold definitions of the name that differ. -/
def Disputed (ds : List Definition) (name : String) : Prop :=
  ∃ d e, [d, e].Sublist ds ∧ d.name = name ∧ e.name = name ∧ d.same e = false

lemma countP_name_eq_count (ds : List Definition) (name : String) :
    ds.countP (·.name == name) = (ds.map Definition.name).count name := by
  rw [List.count_eq_countP,List.countP_map]
  rfl

theorem mem_conflicts_iff_count :
    name ∈ r.conflicts ↔ 1 < (r.definitions.map Definition.name).count name := by
  rw [conflicts,List.mem_filter,decide_eq_true_eq,countP_name_eq_count,names,mem_distinct,
    and_iff_right_iff_imp]
  intro h
  exact List.count_pos_iff.mp (Nat.zero_lt_of_lt h)

theorem mem_conflicts_iff_pair : name ∈ r.conflicts ↔
    ∃ d e, [d, e].Sublist r.definitions ∧ d.name = name ∧ e.name = name := by
  rw [mem_conflicts_iff_count]
  constructor
  · intro h
    have hpair : [name, name].Sublist (r.definitions.map Definition.name) :=
      List.replicate_sublist_iff.mpr h
    obtain ⟨ds,hds,hnames⟩ := List.sublist_map_iff.mp hpair
    have hlength := congrArg List.length hnames
    obtain ⟨d,e,rfl⟩ := List.length_eq_two.mp (by simpa using hlength.symm)
    simp only [List.map_cons, List.map_nil, List.cons.injEq, and_true] at hnames
    exact ⟨d,e,hds,hnames.1.symm,hnames.2.symm⟩
  · rintro ⟨d,e,h,rfl,hname⟩
    have hpair := h.map Definition.name
    rw [List.map_cons,List.map_cons,List.map_nil,hname] at hpair
    exact List.replicate_sublist_iff.mp hpair

/-- A definition that was not kept has an equal one in its place, and two that differ cannot have
the same one. -/
theorem exists_pair_foldl_insert (h : [d, e].Sublist ds) (hname : d.name = e.name)
    (hdiffer : d.same e = false) (r : Registry) :
    ∃ f g, [f, g].Sublist (ds.foldl insert r).definitions ∧ f.name = e.name ∧ g.name = e.name := by
  obtain ⟨xs,ys,rfl,hd,he⟩ := List.cons_sublist_iff.mp h
  obtain ⟨us,vs,rfl⟩ := List.append_of_mem (List.singleton_sublist.mp he)
  -- the state in front of the second definition
  generalize hs : (xs ++ us).foldl insert r = s
  have hstate : (xs ++ (us ++ e :: vs)).foldl insert r = vs.foldl insert (s.insert e) := by
    rw [← hs,← List.append_assoc,List.foldl_append,List.foldl_cons]
  have hprefix : (s.insert e).definitions.Sublist
      ((xs ++ (us ++ e :: vs)).foldl insert r).definitions := by
    rw [hstate]
    exact (prefix_foldl_insert _ vs).sublist
  obtain ⟨f,hf,hfd⟩ := exists_mem_foldl_insert r (List.mem_append_left us hd)
  rw [hs] at hf
  have hfname : f.name = e.name := by
    rcases hfd with rfl | hsame
    · exact hname
    · exact (Definition.name_eq_of_same hsame).trans hname
  cases hholds : s.holds e with
  | false =>
    refine ⟨f,e,List.Sublist.trans ?_ hprefix,hfname,rfl⟩
    rw [insert_of_not_holds hholds]
    exact (List.singleton_sublist.mpr hf).append (List.Sublist.refl [e])
  | true =>
    obtain ⟨g,hg,hge⟩ := holds_iff.mp hholds
    have hgname := Definition.name_eq_of_same hge
    have hne : f ≠ g := by
      rintro rfl
      rcases hfd with rfl | hsame
      · rw [hge] at hdiffer
        cases hdiffer
      · rw [Definition.same_comm] at hsame
        rw [Definition.same_trans d f e hsame hge] at hdiffer
        cases hdiffer
    rw [insert_of_holds hholds] at hprefix
    rcases pair_sublist_or hf hg hne with hpair | hpair
    · exact ⟨f,g,hpair.trans hprefix,hfname,hgname⟩
    · exact ⟨g,f,hpair.trans hprefix,hgname,hfname⟩

theorem Built.mem_conflicts_iff (h : Built ds r) : name ∈ r.conflicts ↔ Disputed ds name := by
  rw [mem_conflicts_iff_pair]
  constructor
  · rintro ⟨d,e,hpair,hd,he⟩
    exact ⟨d,e,hpair.trans h.definitions_sublist,hd,he,
      List.pairwise_iff_forall_sublist.mp h.isDistinct hpair⟩
  · rintro ⟨d,e,hpair,rfl,hname,hdiffer⟩
    rw [h.definitions_eq,← hname]
    exact exists_pair_foldl_insert hpair hname.symm hdiffer {}

/-- Without conflicts no name is declared twice. -/
theorem conflicts_eq_nil_iff : r.conflicts = [] ↔ (r.definitions.map Definition.name).Nodup := by
  rw [List.eq_nil_iff_forall_not_mem,List.nodup_iff_count_le_one]
  simp only [mem_conflicts_iff_count, not_lt]

lemma conflicts_sublist_names (r : Registry) : r.conflicts.Sublist r.names := List.filter_sublist

/-- The names in conflict are exactly those under which two differing definitions were supplied, kept
or not, each listed once and in the order in which they were first supplied. There are none if
and only if there are as many names as definitions, and if and only if the prologue declares no
identifier twice. -/
theorem Built.conflicts_exact (h : Built ds r) :
    (∀ name, name ∈ r.conflicts ↔ Disputed ds name) ∧
    r.conflicts.Nodup ∧
    (r.conflicts.Pairwise fun m n =>
      (ds.map Definition.name).idxOf m < (ds.map Definition.name).idxOf n) ∧
    (r.conflicts = [] ↔ r.names.length = r.size) ∧
    (r.conflicts = [] ↔ (r.definitions.map fun d => Identifier.quote d.name).Nodup) ∧
    declaredIdentifiers (r.definitions.map fun d => d.body.text) r.text =
      some (r.definitions.map fun d => Identifier.quote d.name) := by
  have hnames := h.names_eq
  refine ⟨fun name => h.mem_conflicts_iff,?_,?_,?_,?_,r.declaredIdentifiers_text⟩
  · exact (nodup_distinct _).sublist r.conflicts_sublist_names
  · refine List.Pairwise.sublist r.conflicts_sublist_names ?_
    rw [hnames]
    exact pairwise_idxOf_distinct _
  · rw [conflicts_eq_nil_iff,← length_distinct_eq_iff,List.length_map]
    rfl
  · have hquoted : (r.definitions.map fun d => Identifier.quote d.name) =
        (r.definitions.map Definition.name).map Identifier.quote := by
      rw [List.map_map]
      rfl
    rw [hquoted,List.nodup_map_iff Identifier.quote_injective,conflicts_eq_nil_iff]

/-- A query that differs from itself. -/
def nanQuery : Query := (Query.ofTable "t").filter "x" .eq (.float ⟨0x7ff8000000000000⟩)

/-- Two bodies under one name, and a query under another name that is supplied twice. -/
def contestedSupply : List Definition :=
  [.raw "a" "1", ⟨"b", .query nanQuery⟩, .raw "a" "2", ⟨"b", .query nanQuery⟩, .raw "a" "1"]

def contested : Registry :=
  ⟨[.raw "a" "1", ⟨"b", .query nanQuery⟩, .raw "a" "2", ⟨"b", .query nanQuery⟩], true⟩

lemma contested_built : Built contestedSupply contested := by
  have hresolve : (Argument.resolveAll [.mapping [("a", .raw "1"), ("b", .query nanQuery)],
      .text "\"a\" AS (2)"]).outcome =
      .ok [.raw "a" "1", ⟨"b", .query nanQuery⟩, .raw "a" "2"] := rfl
  have hnan : nanQuery.same nanQuery = false := by decide +kernel
  have hcontested : (Registry.merge ([.raw "a" "1", ⟨"b", .query nanQuery⟩, .raw "a" "2"].foldl
      insert (markRecursive {} true)) ⟨[⟨"b", .query nanQuery⟩, .raw "a" "1"], false⟩).value =
      contested := by
    simp [merge_value, markRecursive, insert, holds, Definition.same, Body.same, Definition.raw,
      hnan, contested]
  rw [← hcontested]
  exact .merge (.attach .empty hresolve (outcome_attach_eq_ok_iff.mpr ⟨_,hresolve,rfl⟩))
    ⟨[⟨"b", .query nanQuery⟩, .raw "a" "1"], false⟩

theorem contested_conflicts_exact : Built contestedSupply contested ∧
    contested.conflicts = ["a", "b"] ∧ Disputed contestedSupply "a" ∧
    Disputed contestedSupply "b" ∧ contested.names.length ≠ contested.size ∧
    declaredIdentifiers (contested.definitions.map fun d => d.body.text) contested.text =
      some ["a", "b", "a", "b"] := by
  obtain ⟨hmem,-,-,hsize,-,hdeclared⟩ := contested_built.conflicts_exact
  have hconflicts : contested.conflicts = ["a", "b"] := rfl
  refine ⟨contested_built,hconflicts,(hmem "a").mp ?_,(hmem "b").mp ?_,?_,?_⟩
  · simp [hconflicts]
  · simp [hconflicts]
  · intro h
    have hnil := hsize.mpr h
    rw [hconflicts] at hnil
    cases hnil
  · rw [hdeclared]
    decide +kernel

end Registry
end WithClause
