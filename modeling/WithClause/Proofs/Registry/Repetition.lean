import WithClause.Proofs.Query.NotANumber
import WithClause.Proofs.Registry.Insertion
import WithClause.Proofs.Registry.Resolution
import WithClause.Query.Builder

/-! Declaring something again. What is equal to itself is found and left out the second time, and what
holds a NaN is never found. -/
namespace WithClause.Registry

variable {r : Registry} {d : Definition} {ds : List Definition}

lemma holds_insert (h : r.holds d = true) (e : Definition) : (r.insert e).holds d = true := by
  obtain ⟨f,hf,hsame⟩ := holds_iff.mp h
  exact holds_iff.mpr ⟨f,(prefix_insert r e).subset hf,hsame⟩

lemma not_holds_of_holdsNaN (h : d.holdsNaN = true) (r : Registry) : r.holds d = false := by
  rw [holds,List.any_eq_false]
  intro e _
  rw [Definition.same_eq_false_of_holdsNaN h e]
  exact Bool.false_ne_true

lemma holds_of_mem (hd : d ∈ r.definitions) (h : d.holdsNaN = false) : r.holds d = true :=
  holds_iff.mpr ⟨d,hd,Definition.same_self_of_not_holdsNaN h⟩

/-- Where everything that can be found is there already, only the rest is added, in order and as often
as it comes. -/
theorem foldl_insert_of_holds (h : ∀ d ∈ ds, d.holdsNaN = false → r.holds d = true) :
    ds.foldl insert r = { r with definitions := r.definitions ++ ds.filter Definition.holdsNaN } := by
  induction ds generalizing r with
  | nil =>
    obtain ⟨definitions,recursive⟩ := r
    simp
  | cons d ds ih =>
    have htail : ∀ e ∈ ds, e.holdsNaN = false → (r.insert d).holds e = true :=
      fun e he hfound => holds_insert (h e (List.mem_cons_of_mem d he) hfound) d
    rw [List.foldl_cons,ih htail]
    cases hd : d.holdsNaN with
    | true =>
      have hkept := insert_of_not_holds (not_holds_of_holdsNaN hd r)
      rw [List.filter_cons_of_pos hd,hkept,List.append_assoc,List.singleton_append,
        insert_recursive]
    | false =>
      have hfilter : ¬ d.holdsNaN = true := by
        rw [hd]
        exact Bool.false_ne_true
      rw [List.filter_cons_of_neg hfilter,insert_of_holds (h d List.mem_cons_self hd)]

theorem foldl_insert_again (r : Registry) (ds : List Definition) :
    ds.foldl insert (ds.foldl insert r) =
      { ds.foldl insert r with
        definitions := (ds.foldl insert r).definitions ++ ds.filter Definition.holdsNaN } := by
  apply foldl_insert_of_holds
  intro d hd hfound
  exact holds_foldl_insert r hd (Definition.same_self_of_not_holdsNaN hfound)

lemma markRecursive_of_imp {recursive : Bool} (h : recursive = true → r.recursive = true) :
    r.markRecursive recursive = r := by
  obtain ⟨definitions,before⟩ := r
  rw [markRecursive]
  congr 1
  cases recursive with
  | false => exact Bool.or_false before
  | true =>
    obtain rfl := h rfl
    rfl

/-- The flag that a second call brings is set by the first one. -/
lemma foldl_insert_markRecursive_again (r : Registry) (recursive : Bool) (ds : List Definition) :
    ds.foldl insert ((ds.foldl insert (r.markRecursive recursive)).markRecursive recursive) =
      { ds.foldl insert (r.markRecursive recursive) with
        definitions := (ds.foldl insert (r.markRecursive recursive)).definitions ++
          ds.filter Definition.holdsNaN } := by
  have hflag : recursive = true →
      (ds.foldl insert (r.markRecursive recursive)).recursive = true := by
    rintro rfl
    rw [foldl_insert_recursive,markRecursive,Bool.or_true]
  rw [markRecursive_of_imp hflag]
  exact foldl_insert_again (r.markRecursive recursive) ds

lemma append_definitions_eq_self_iff {es : List Definition} :
    { r with definitions := r.definitions ++ es } = r ↔ es = [] := by
  obtain ⟨definitions,recursive⟩ := r
  simp

/-- To attach the same arguments again adds those definitions again that hold a NaN, at whatever depth,
and changes nothing else; so it changes nothing if and only if there is no such definition. The
same holds of merging the same registry again, and of merging a registry with itself. -/
theorem redeclare :
    (∀ (r s : Registry) (args : List Argument) (recursive : Bool),
      (r.attach args recursive).outcome = .ok s →
        ∃ incoming, (Argument.resolveAll args).outcome = .ok incoming ∧
          (s.attach args recursive).outcome = .ok
            { s with definitions := s.definitions ++ incoming.filter Definition.holdsNaN } ∧
          ((s.attach args recursive).outcome = .ok s ↔ ∀ d ∈ incoming, d.holdsNaN = false)) ∧
    (∀ r s : Registry, ((r.merge s).value.merge s).value =
      { (r.merge s).value with
        definitions := (r.merge s).value.definitions ++
          s.definitions.filter Definition.holdsNaN }) ∧
    ∀ r : Registry, (r.merge r).value =
      { r with definitions := r.definitions ++ r.definitions.filter Definition.holdsNaN } := by
  refine ⟨?_,?_,?_⟩
  · intro r s args recursive h
    obtain ⟨incoming,hincoming,rfl⟩ := outcome_attach_eq_ok_iff.mp h
    have hagain : ((incoming.foldl insert (r.markRecursive recursive)).attach args
        recursive).outcome = .ok
          { incoming.foldl insert (r.markRecursive recursive) with
            definitions := (incoming.foldl insert (r.markRecursive recursive)).definitions ++
              incoming.filter Definition.holdsNaN } :=
      outcome_attach_eq_ok_iff.mpr
        ⟨incoming,hincoming,(foldl_insert_markRecursive_again r recursive incoming).symm⟩
    refine ⟨incoming,hincoming,hagain,?_⟩
    rw [hagain,Except.ok.injEq,append_definitions_eq_self_iff,List.filter_eq_nil_iff]
    simp only [Bool.not_eq_true]
  · intro r s
    simp only [merge_value]
    exact foldl_insert_markRecursive_again r s.recursive s.definitions
  · intro r
    rw [merge_value,markRecursive_of_imp id]
    exact foldl_insert_of_holds fun d hd hfound => holds_of_mem hd hfound

def comparedWith (bits : UInt64) : Query := (Query.ofTable "u").filter "x" .eq (.float ⟨bits⟩)

/-- A NaN that only a query inside the query is compared with. -/
def buried : Definition :=
  ⟨"n", .query { table := "m", ctes := ⟨[⟨"m", .query (comparedWith 0x7ff8000000000000)⟩], false⟩ }⟩

def positiveZero : Definition := ⟨"z", .query (comparedWith 0)⟩

def negativeZero : Definition := ⟨"z", .query (comparedWith 0x8000000000000000)⟩

/-- Of the two zeros only the first is kept, and of the NaN every occurrence. -/
theorem redeclare_buried :
    let args : List Argument := [.definition buried, .list [.definition positiveZero],
      .definition negativeZero]
    let once : Registry := ⟨[buried, positiveZero], true⟩
    (Registry.attach {} args true).outcome = .ok once ∧
      (once.attach args true).outcome = .ok ⟨[buried, positiveZero, buried], true⟩ ∧
      (once.attach args true).outcome ≠ .ok once := by
  intro args once
  have hresolve : (Argument.resolveAll args).outcome =
      .ok [buried, positiveZero, negativeZero] := rfl
  have hzeros : positiveZero.same negativeZero = true := by decide +kernel
  have hothers : buried.same positiveZero = false ∧ buried.same negativeZero = false := by
    decide +kernel
  have honce : (Registry.attach {} args true).outcome = .ok once := by
    refine outcome_attach_eq_ok_iff.mpr ⟨_,hresolve,?_⟩
    simp [once, markRecursive, insert, holds, hzeros, hothers]
  have hnan : buried.holdsNaN = true ∧ positiveZero.holdsNaN = false ∧
      negativeZero.holdsNaN = false := by decide +kernel
  obtain ⟨incoming,hincoming,hagain,hunchanged⟩ := redeclare.1 {} once args true honce
  obtain rfl := Except.ok.inj (hresolve.symm.trans hincoming)
  refine ⟨honce,?_,?_⟩
  · rw [hagain]
    simp [once, hnan]
  · intro h
    have hfalse := hunchanged.mp h buried List.mem_cons_self
    rw [hnan.1] at hfalse
    cases hfalse

end WithClause.Registry
