import WithClause.Proofs.Registry.Insertion
import WithClause.Proofs.Registry.Resolution

/-! How the definitions are spread over calls, mappings and lists makes no difference: one call with
all arguments does what several calls do one after the other. -/
namespace WithClause

section Singletons
variable {m : Type → Type} [Monad m] [LawfulMonad m] {α β : Type}

lemma flatten_mapM_singleton (f : α → m β) (as : List α) :
    List.flatten <$> as.mapM (fun a => do return [← f a]) = as.mapM f := by
  induction as with
  | nil => simp
  | cons a as ih => simp [← ih]

lemma mapM_congr_mem {f g : α → m β} {as : List α} (h : ∀ a ∈ as, f a = g a) :
    as.mapM f = as.mapM g := by
  induction as with
  | nil => simp
  | cons a as ih =>
    rw [List.mapM_cons,List.mapM_cons,h a List.mem_cons_self,
      ih fun b hb => h b (List.mem_cons_of_mem a hb)]

end Singletons

namespace Attempt

variable {α β : Type}

lemma ofExcept_bind (x : Except Error α) (f : α → Except Error β) :
    ofExcept (x >>= f) = ofExcept x >>= fun a => ofExcept (f a) := by
  cases x <;> rfl

lemma ofExcept_mapM (f : α → Except Error β) (as : List α) :
    ofExcept (as.mapM f) = as.mapM fun a => ofExcept (f a) := by
  induction as with
  | nil => rfl
  | cons a as ih =>
    rw [List.mapM_cons,List.mapM_cons,ofExcept_bind]
    congr 1
    funext b
    rw [ofExcept_bind,ih]
    rfl

end Attempt

namespace Argument

/-- A text or a definition. -/
def IsSingle : Argument → Prop
  | text _ => True
  | definition _ => True
  | mapping _ => False
  | list _ => False

lemma IsSingle.definitions_eq {a : Argument} (h : a.IsSingle) :
    a.definitions = do return [← a.single] := by
  cases a with
  | text declaration => rfl
  | definition d => rfl
  | mapping entries => exact absurd h not_false
  | list items => exact absurd h not_false

lemma definitions_mapping_singleton (entry : String × Supplied) : (mapping [entry]).definitions =
    do return [← Attempt.ofExcept (entry.2.bindTo entry.1)] := by
  simp only [definitions, List.mapM_cons, List.mapM_nil, pure_bind, Attempt.ofExcept_bind]
  rfl

/-- A mapping resolves as its entries do one by one. -/
lemma flatten_mapM_mapping (entries : List (String × Supplied)) :
    List.flatten <$> (entries.map fun entry => mapping [entry]).mapM definitions =
      (mapping entries).definitions := by
  have heach : (entries.map fun entry => mapping [entry]).mapM definitions =
      entries.mapM fun entry => do return [← Attempt.ofExcept (entry.2.bindTo entry.1)] := by
    rw [List.mapM_map]
    exact mapM_congr_mem fun entry _ => definitions_mapping_singleton entry
  rw [heach,flatten_mapM_singleton,definitions,Attempt.ofExcept_mapM]

/-- A list resolves as its items do as arguments. -/
lemma flatten_mapM_items {items : List Argument} (h : ∀ a ∈ items, a.IsSingle) :
    List.flatten <$> items.mapM definitions = (list items).definitions := by
  rw [mapM_congr_mem fun a ha => (h a ha).definitions_eq,flatten_mapM_singleton,definitions]

/-- An argument may be replaced by several that together resolve as it does. -/
theorem resolveAll_replace {a : Argument} {as : List Argument} (has : as ≠ [])
    (h : List.flatten <$> as.mapM definitions = a.definitions) (before after : List Argument) :
    resolveAll (before ++ a :: after) = resolveAll (before ++ as ++ after) := by
  simp [resolveAll, has, ← h]

end Argument

namespace Registry

/-- One attachment of all arguments is an attachment of the first of them and then one of the
rest. -/
theorem outcome_attach_append {xs ys : List Argument} (hx : xs ≠ []) (hy : ys ≠ []) (r : Registry)
    (a b : Bool) : (r.attach (xs ++ ys) (a || b)).outcome =
      (r.attach xs a).outcome >>= fun s => (s.attach ys b).outcome := by
  simp only [outcome_attach, Argument.resolveAll_append hx hy, Attempt.outcome_bind]
  cases (Argument.resolveAll xs).outcome with
  | error error => rfl
  | ok ds =>
    cases (Argument.resolveAll ys).outcome with
    | error error => rfl
    | ok es =>
      change Except.ok ((ds ++ es).foldl insert (r.markRecursive (a || b))) =
        Except.ok (es.foldl insert ((ds.foldl insert (r.markRecursive a)).markRecursive b))
      rw [List.foldl_append,← foldl_insert_markRecursive,markRecursive_markRecursive]

/-- Arguments that are attached in one call could as well be attached in two: the outcome is the
same registry, or the error of the first call that fails. The entries of a mapping could be
mappings of their own, and the texts and definitions of a list arguments of their own. -/
theorem attach_grouping (r : Registry) :
    (∀ (xs ys : List Argument) (a b : Bool), xs ≠ [] → ys ≠ [] →
      (∀ t, (r.attach (xs ++ ys) (a || b)).outcome = .ok t ↔
        ∃ s, (r.attach xs a).outcome = .ok s ∧ (s.attach ys b).outcome = .ok t) ∧
      ∀ error, (r.attach (xs ++ ys) (a || b)).outcome = .error error ↔
        (r.attach xs a).outcome = .error error ∨
          ∃ s, (r.attach xs a).outcome = .ok s ∧ (s.attach ys b).outcome = .error error) ∧
    (∀ (before after : List Argument) (entries : List (String × Supplied)) (recursive : Bool),
      entries ≠ [] → r.attach (before ++ .mapping entries :: after) recursive =
        r.attach (before ++ entries.map (fun entry => .mapping [entry]) ++ after) recursive) ∧
    ∀ (before after items : List Argument) (recursive : Bool),
      items ≠ [] → (∀ a ∈ items, a.IsSingle) →
        r.attach (before ++ .list items :: after) recursive =
          r.attach (before ++ items ++ after) recursive := by
  refine ⟨?_,?_,?_⟩
  · intro xs ys a b hx hy
    rw [outcome_attach_append hx hy]
    constructor
    · intro t
      exact bind_eq_ok_iff
    · intro error
      exact bind_eq_error_iff
  · intro before after entries recursive hne
    have hentries : entries.map (fun entry => Argument.mapping [entry]) ≠ [] := by simpa using hne
    rw [attach,attach,Argument.resolveAll_replace hentries (Argument.flatten_mapM_mapping entries)]
  · intro before after items recursive hne hsingle
    rw [attach,attach,Argument.resolveAll_replace hne (Argument.flatten_mapM_items hsingle)]

/-- Two calls that declare `a` and `b` twice, and a third one that fails. -/
theorem attach_grouping_repeated :
    let first : List Argument := [.mapping [("b", .raw "2"), ("a", .raw "1")]]
    let second : List Argument := [.list [.text "\"c\" AS (3)", .definition (.raw "b" "2")]]
    let r : Registry := ⟨[.raw "a" "1"], false⟩
    (r.attach (first ++ second) true).outcome =
        .ok ⟨[.raw "a" "1", .raw "b" "2", .raw "c" "3"], true⟩ ∧
      (r.attach (first ++ [.mapping [("d", .null)]]) true).outcome = .error (.nilBody "d") ∧
      r.attach first true = r.attach [.mapping [("b", .raw "2")], .mapping [("a", .raw "1")]] true ∧
      r.attach second true =
        r.attach [.text "\"c\" AS (3)", .definition (.raw "b" "2")] true := by
  intro first second r
  obtain ⟨hcalls,hmapping,hlist⟩ := attach_grouping r
  have hfirst : (r.attach first true).outcome = .ok ⟨[.raw "a" "1", .raw "b" "2"], true⟩ := by
    refine outcome_attach_eq_ok_iff.mpr ⟨[.raw "b" "2", .raw "a" "1"],rfl,?_⟩
    simp [r, markRecursive, insert, holds, Definition.same, Body.same, Definition.raw]
  refine ⟨?_,?_,?_,?_⟩
  · refine ((hcalls first second true false (by simp [first]) (by simp [second])).1 _).mpr
      ⟨_,hfirst,outcome_attach_eq_ok_iff.mpr ⟨[.raw "c" "3", .raw "b" "2"],rfl,?_⟩⟩
    simp [markRecursive, insert, holds, Definition.same, Body.same, Definition.raw]
  · exact ((hcalls first [.mapping [("d", .null)]] true false (by simp [first]) (by simp)).2 _).mpr
      (.inr ⟨_,hfirst,rfl⟩)
  · exact hmapping [] [] [("b", .raw "2"), ("a", .raw "1")] true (by simp)
  · exact hlist [] [] [.text "\"c\" AS (3)", .definition (.raw "b" "2")] true (by simp)
      (by simp [Argument.IsSingle])

end Registry
end WithClause
