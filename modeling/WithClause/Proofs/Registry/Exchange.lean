import WithClause.Proofs.Registry.Conflicts

/-! Merging two registries in either order. The orders differ, and so may the definitions that stand for
equal ones, but there are as many of them and they declare the same names with the same conflicts. -/
namespace WithClause

section Partners
variable {α : Type} {f : α → α → Bool} {as bs : List α}

lemma countP_or_of_disjoint {p q : α → Bool} (h : ∀ a ∈ as, p a = true → q a = false) :
    (as.countP fun a => p a || q a) = as.countP p + as.countP q := by
  induction as with
  | nil => rfl
  | cons a as ih =>
    obtain ⟨ha,has⟩ := List.forall_mem_cons.mp h
    rw [List.countP_cons,List.countP_cons,List.countP_cons,ih has]
    cases hp : p a with
    | true => rw [ha hp]; simp; omega
    | false => simp; omega

/-- Of elements without a partner among them at most one can be the partner of a given element. -/
lemma countP_eq_toNat_any (hcomm : ∀ a b, f a b = f b a)
    (htrans : ∀ a b c, f a b = true → f b c = true → f a c = true)
    (has : as.Pairwise fun a b => f a b = false) (a : α) :
    as.countP (f a) = (as.any (f a)).toNat := by
  induction as with
  | nil => rfl
  | cons b as ih =>
    obtain ⟨hb,has⟩ := List.pairwise_cons.mp has
    rw [List.countP_cons,List.any_cons]
    cases hab : f a b with
    | false => simp [ih has]
    | true =>
      have hnone : as.countP (f a) = 0 := by
        rw [List.countP_eq_zero]
        intro c hc hac
        rw [hcomm] at hab
        have hbc := htrans b a c hab hac
        rw [hb c hc] at hbc
        cases hbc
      simp [hnone]

/-- Two lists whose elements have no partner in their own list have as many with a partner in the
other one. -/
theorem countP_any_comm (hcomm : ∀ a b, f a b = f b a)
    (htrans : ∀ a b c, f a b = true → f b c = true → f a c = true)
    (has : as.Pairwise fun a b => f a b = false) (hbs : bs.Pairwise fun a b => f a b = false) :
    (as.countP fun a => bs.any (f a)) = bs.countP fun b => as.any (f b) := by
  induction as with
  | nil => simp
  | cons a as ih =>
    obtain ⟨ha,has⟩ := List.pairwise_cons.mp has
    have hdisjoint : ∀ b ∈ bs, f a b = true → as.any (f b) = false := by
      intro b _ hab
      rw [List.any_eq_false]
      intro c hc hbc
      have hac := htrans a b c hab hbc
      rw [ha c hc] at hac
      cases hac
    have hsplit : (bs.countP fun b => (a :: as).any (f b)) =
        bs.countP (f a) + bs.countP fun b => as.any (f b) := by
      rw [← countP_or_of_disjoint hdisjoint]
      simp only [List.any_cons, hcomm a]
    rw [hsplit,countP_eq_toNat_any hcomm htrans hbs,List.countP_cons,ih has]
    cases bs.any (f a) <;> simp [Nat.add_comm]

end Partners

namespace Registry

variable {r s : Registry} {ds es : List Definition} {name : String}

lemma novel_of_pairwise {known : List Definition}
    (h : ds.Pairwise fun d e => d.same e = false) :
    novel known ds = ds.filter fun d => !known.any (·.same d) := by
  induction ds generalizing known with
  | nil => rfl
  | cons d ds ih =>
    obtain ⟨hd,hds⟩ := List.pairwise_cons.mp h
    have hfilter : (ds.filter fun e => !(known ++ [d]).any (·.same e)) =
        ds.filter fun e => !known.any (·.same e) := by
      apply List.filter_congr
      intro e he
      simp [hd e he]
    rw [novel,ih hds,hfilter,List.filter_cons]
    cases known.any (·.same d) <;> rfl

theorem Distinct.definitions_merge (hs : s.Distinct) (r : Registry) :
    (r.merge s).value.definitions = r.definitions ++ s.definitions.filter (!r.holds ·) := by
  rw [merge_value,definitions_foldl_insert,novel_of_pairwise hs]
  rfl

lemma Distinct.size_merge (hs : s.Distinct) (r : Registry) :
    (r.merge s).value.size + s.definitions.countP r.holds = r.size + s.size := by
  have hsplit := List.length_eq_countP_add_countP r.holds (l := s.definitions)
  have hlacking : (s.definitions.filter (!r.holds ·)).length =
      s.definitions.countP fun d => ¬ r.holds d = true := by
    rw [← List.countP_eq_length_filter]
    simp only [Bool.not_eq_true, Bool.decide_eq_false]
  rw [size,hs.definitions_merge r,List.length_append,hlacking]
  simp only [size]
  omega

lemma holds_eq_any (r : Registry) (d : Definition) : r.holds d = r.definitions.any d.same := by
  simp only [holds, Definition.same_comm _ d]

theorem Distinct.size_merge_comm (hr : r.Distinct) (hs : s.Distinct) :
    (r.merge s).value.size = (s.merge r).value.size := by
  have hpartners : s.definitions.countP r.holds = r.definitions.countP s.holds := by
    simp only [funext (holds_eq_any _)]
    exact countP_any_comm Definition.same_comm Definition.same_trans hs hr
  have hrs := hs.size_merge r
  have hsr := hr.size_merge s
  omega

lemma mem_names_merge :
    name ∈ (r.merge s).value.names ↔ name ∈ r.names ∨ name ∈ s.names := by
  rw [merge_value,names_foldl_insert,List.map_append,mem_distinct,List.mem_append,names,names,
    mem_distinct,mem_distinct]
  rfl

theorem names_merge_perm (r s : Registry) :
    (r.merge s).value.names.Perm (s.merge r).value.names := by
  refine (List.perm_ext_iff_of_nodup (nodup_distinct _) (nodup_distinct _)).mpr fun name => ?_
  rw [← names,← names,mem_names_merge,mem_names_merge,or_comm]

/-- The two lists hold definitions of the name that differ. -/
def Clash (ds es : List Definition) (name : String) : Prop :=
  ∃ d ∈ ds, ∃ e ∈ es, d.name = name ∧ e.name = name ∧ d.same e = false

lemma Clash.symm (h : Clash ds es name) : Clash es ds name := by
  obtain ⟨d,hd,e,he,hdn,hen,hdiffer⟩ := h
  rw [Definition.same_comm] at hdiffer
  exact ⟨e,he,d,hd,hen,hdn,hdiffer⟩

lemma disputed_append_iff :
    Disputed (ds ++ es) name ↔ Disputed ds name ∨ Disputed es name ∨ Clash ds es name := by
  constructor
  · rintro ⟨d,e,hpair,hd,he,hdiffer⟩
    obtain ⟨us,vs,hsplit,hus,hvs⟩ := List.sublist_append_iff.mp hpair
    rcases us with - | ⟨u,- | ⟨v,us⟩⟩
    · obtain rfl := hsplit
      exact .inr (.inl ⟨d,e,hvs,hd,he,hdiffer⟩)
    · obtain ⟨rfl,rfl⟩ := List.cons.inj hsplit
      exact .inr (.inr ⟨d,List.singleton_sublist.mp hus,e,List.singleton_sublist.mp hvs,hd,he,
        hdiffer⟩)
    · simp only [List.cons_append, List.cons.injEq, List.nil_eq, List.append_eq_nil_iff] at hsplit
      obtain ⟨rfl,rfl,rfl,rfl⟩ := hsplit
      exact .inl ⟨d,e,hus,hd,he,hdiffer⟩
  · rintro (⟨d,e,hpair,h⟩ | ⟨d,e,hpair,h⟩ | ⟨d,hd,e,he,h⟩)
    · exact ⟨d,e,hpair.trans (List.sublist_append_left ds es),h⟩
    · exact ⟨d,e,hpair.trans (List.sublist_append_right ds es),h⟩
    · exact ⟨d,e,(List.singleton_sublist.mpr hd).append (List.singleton_sublist.mpr he),h⟩

/-- A registry without equal definitions is what comes of declaring them. -/
lemma Distinct.built (h : r.Distinct) : Built r.definitions r := by
  have hmerge : (Registry.merge {} r).value = r := by
    apply Registry.ext
    · rw [h.definitions_merge]
      exact List.filter_eq_self.mpr fun _ _ => rfl
    · rw [merge_recursive]
      exact Bool.false_or r.recursive
  simpa only [hmerge, List.nil_append] using Built.merge .empty r

theorem Distinct.mem_conflicts_merge (hr : r.Distinct) (hs : s.Distinct) :
    name ∈ (r.merge s).value.conflicts ↔ name ∈ r.conflicts ∨ name ∈ s.conflicts ∨
      Clash r.definitions s.definitions name := by
  rw [(Built.merge hr.built s).mem_conflicts_iff,disputed_append_iff,hr.built.mem_conflicts_iff,
    hs.built.mem_conflicts_iff]

theorem Distinct.conflicts_merge_perm (hr : r.Distinct) (hs : s.Distinct) :
    (r.merge s).value.conflicts.Perm (s.merge r).value.conflicts := by
  have hnodup : ∀ t : Registry, t.conflicts.Nodup :=
    fun t => (nodup_distinct _).sublist t.conflicts_sublist_names
  rw [List.perm_ext_iff_of_nodup (hnodup _) (hnodup _)]
  intro name
  have hclash : Clash r.definitions s.definitions name ↔ Clash s.definitions r.definitions name :=
    ⟨Clash.symm,Clash.symm⟩
  rw [hr.mem_conflicts_merge hs,hs.mem_conflicts_merge hr,or_left_comm,hclash]

/-- What is in a merge is in the merge the other way round, or something equal to it is. -/
theorem exists_mem_merge {d : Definition} (hd : d ∈ (r.merge s).value.definitions) :
    ∃ e ∈ (s.merge r).value.definitions, e = d ∨ e.same d = true := by
  have hsource : d ∈ r.definitions ++ s.definitions := by
    rw [merge_value] at hd
    exact (foldl_insert_sublist (r.markRecursive s.recursive) s.definitions).subset hd
  rw [merge_value]
  rcases List.mem_append.mp hsource with hr | hs
  · exact exists_mem_foldl_insert _ hr
  · exact ⟨d,(prefix_foldl_insert _ _).subset hs,.inl rfl⟩

/-- Merged in either order, two registries give as many definitions, the same flag, and the same names
and conflicts but for their order, and each definition of one result is in the other one or equal
to one there. A name is in conflict if it was in one of the two, or if they hold definitions
under it that differ. -/
theorem Built.merge_exchange (hr : Built ds r) (hs : Built es s) :
    (r.merge s).value.size = (s.merge r).value.size ∧
    (r.merge s).value.recursive = (s.merge r).value.recursive ∧
    (r.merge s).value.names.Perm (s.merge r).value.names ∧
    (r.merge s).value.conflicts.Perm (s.merge r).value.conflicts ∧
    (∀ d ∈ (r.merge s).value.definitions,
      ∃ e ∈ (s.merge r).value.definitions, e = d ∨ e.same d = true) ∧
    (∀ d ∈ (s.merge r).value.definitions,
      ∃ e ∈ (r.merge s).value.definitions, e = d ∨ e.same d = true) ∧
    ∀ name, name ∈ (r.merge s).value.conflicts ↔
      name ∈ r.conflicts ∨ name ∈ s.conflicts ∨ Clash r.definitions s.definitions name := by
  have hflag : (r.merge s).value.recursive = (s.merge r).value.recursive := by
    rw [merge_recursive,merge_recursive,Bool.or_comm]
  exact ⟨hr.isDistinct.size_merge_comm hs.isDistinct,hflag,names_merge_perm r s,
    hr.isDistinct.conflicts_merge_perm hs.isDistinct,fun _ => exists_mem_merge,
    fun _ => exists_mem_merge,fun _ => hr.isDistinct.mem_conflicts_merge hs.isDistinct⟩

/-- Two registries without conflicts that share a query with a NaN in it, which differs from itself, and
have another body each under one name. -/
def ours : Registry := ⟨[.raw "a" "1", ⟨"b", .query nanQuery⟩, .raw "c" "3"], false⟩

def theirs : Registry := ⟨[.raw "c" "3", ⟨"b", .query nanQuery⟩, .raw "a" "2"], true⟩

theorem merge_exchange_unlike : ours.conflicts = [] ∧ theirs.conflicts = [] ∧
    Built ours.definitions ours ∧ Built theirs.definitions theirs ∧
    (ours.merge theirs).value.size = (theirs.merge ours).value.size ∧
    (ours.merge theirs).value.conflicts.Perm (theirs.merge ours).value.conflicts ∧
    "a" ∈ (ours.merge theirs).value.conflicts ∧ "b" ∈ (ours.merge theirs).value.conflicts := by
  have hours : ours.Distinct := by
    simp [Distinct, ours, Definition.same, Definition.raw]
  have htheirs : theirs.Distinct := by
    simp [Distinct, theirs, Definition.same, Definition.raw]
  obtain ⟨hsize,-,-,hconflicts,-,-,hmem⟩ := hours.built.merge_exchange htheirs.built
  refine ⟨by decide +kernel,by decide +kernel,hours.built,htheirs.built,hsize,hconflicts,
    (hmem "a").mpr (.inr (.inr ?_)),(hmem "b").mpr (.inr (.inr ?_))⟩
  · exact ⟨.raw "a" "1",by simp [ours],.raw "a" "2",by simp [theirs],rfl,rfl,by decide +kernel⟩
  · exact ⟨⟨"b", .query nanQuery⟩,by simp [ours],⟨"b", .query nanQuery⟩,by simp [theirs],rfl,rfl,
      by decide +kernel⟩

end Registry
end WithClause
