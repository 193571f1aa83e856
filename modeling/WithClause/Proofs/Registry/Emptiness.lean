import WithClause.Proofs.Registry.Items
import WithClause.Query.Json

/-! Whether a registry declares anything. An attachment is refused when it has no arguments, but not when
these ask for nothing, so a registry may be marked recursive and declare nothing. The JSON of a query
loses such a mark. -/
namespace WithClause

def Json.field? : Json → String → Option Json
  | object fields, name => fields.lookup name
  | _, _ => none

/-- Whether the JSON of a query calls its prologue recursive. A query without prologue does not. -/
def Json.marksRecursive (query : Json) : Bool :=
  match query.field? "ctes" >>= (·.field? "recursive") with
  | some (.bool recursive) => recursive
  | _ => false

lemma Query.marksRecursive_toJson (q : Query) :
    q.toJson.marksRecursive = (!q.ctes.isEmpty && q.ctes.recursive) := by
  obtain ⟨s,⟨ds,recursive⟩⟩ := q
  rw [Query.toJson,Registry.toJson,queryJson]
  cases ds <;> rfl

/-- What one attachment is called with. -/
structure Attachment where
  args : List Argument
  recursive : Bool

def Attachment.items (a : Attachment) : List Item := a.args.flatMap Argument.items

namespace Registry

/-- The registries that come about by attaching and merging, with the attachments on the way. -/
inductive Attained : List Attachment → Registry → Prop
  | empty : Attained [] {}
  | attach {calls : List Attachment} {r s : Registry} {args : List Argument} {recursive : Bool}
    (hr : Attained calls r) (hs : (r.attach args recursive).outcome = .ok s) :
    Attained (calls ++ [⟨args, recursive⟩]) s
  | merge {calls more : List Attachment} {r s : Registry} (hr : Attained calls r)
    (hs : Attained more s) : Attained (calls ++ more) (r.merge s).value

variable {r s : Registry} {args : List Argument} {recursive : Bool} {calls : List Attachment}

/-- The first definition that an empty registry is given is not left out. -/
lemma isEmpty_foldl_insert (r : Registry) (ds : List Definition) :
    (ds.foldl insert r).isEmpty = (r.isEmpty && ds.isEmpty) := by
  rw [isEmpty,definitions_foldl_insert,isEmpty]
  cases r.definitions with
  | cons e es => rfl
  | nil => cases ds <;> rfl

lemma isEmpty_merge (r s : Registry) : (r.merge s).value.isEmpty = (r.isEmpty && s.isEmpty) := by
  rw [merge_value,isEmpty_foldl_insert]
  rfl

/-- An attachment leaves a registry empty if it was empty and no item is asked for. -/
theorem isEmpty_of_attach (h : (r.attach args recursive).outcome = .ok s) :
    s.isEmpty = (r.isEmpty && (args.flatMap Argument.items).isEmpty) := by
  obtain ⟨-,ds,hds,hdefinitions,-⟩ := attach_eq_ok_iff.mp h
  have hitems : ds.isEmpty = (args.flatMap Argument.items).isEmpty := by
    generalize args.flatMap Argument.items = items at hds
    cases hds <;> rfl
  rw [← hitems,← isEmpty_foldl_insert,isEmpty,isEmpty,hdefinitions,definitions_foldl_insert]

theorem recursive_of_attach (h : (r.attach args recursive).outcome = .ok s) :
    s.recursive = (r.recursive || recursive) := by
  obtain ⟨-,ds,-,-,hrecursive⟩ := attach_eq_ok_iff.mp h
  exact hrecursive

theorem Attained.isEmpty_iff (h : Attained calls r) :
    r.isEmpty = true ↔ ∀ a ∈ calls, a.items = [] := by
  induction h with
  | empty => simp [isEmpty]
  | attach _ hs ih => simp [isEmpty_of_attach hs, ih, or_imp, forall_and, Attachment.items]
  | merge _ _ ihr ihs => simp [isEmpty_merge, ihr, ihs, or_imp, forall_and]

theorem Attained.recursive_iff (h : Attained calls r) :
    r.recursive = true ↔ ∃ a ∈ calls, a.recursive = true := by
  induction h with
  | empty => simp
  | attach _ hs ih => simp [recursive_of_attach hs, ih, or_and_right, exists_or]
  | merge _ _ ihr ihs => simp [merge_recursive, ihr, ihs, or_and_right, exists_or]

/-- After an attachment something is declared exactly if it was before or an item was asked for. A mark
that an attachment has made means that the registry declares something, and is shown by the JSON of a
query with it, exactly if an item was asked for as well, by the same attachment or by another. -/
theorem declares_iff_asked (r : Registry) (args : List Argument) (recursive : Bool) :
    (∀ s, (r.attach args recursive).outcome = .ok s →
      (s.isEmpty = false ↔ r.isEmpty = false ∨ args.flatMap Argument.items ≠ [])) ∧
    ∀ calls : List Attachment, Attained calls r →
      ((r.recursive = true → r.isEmpty = false) ↔
        ((∃ a ∈ calls, a.recursive = true) → ∃ a ∈ calls, a.items ≠ [])) ∧
      ∀ q : Query, q.ctes = r → (q.toJson.marksRecursive = r.recursive ↔
        ((∃ a ∈ calls, a.recursive = true) → ∃ a ∈ calls, a.items ≠ [])) := by
  refine ⟨?_,?_⟩
  · intro s hs
    rw [isEmpty_of_attach hs,Bool.and_eq_false_iff,List.isEmpty_eq_false_iff]
  · intro calls hr
    have hasked : r.isEmpty = false ↔ ∃ a ∈ calls, a.items ≠ [] := by
      rw [← Bool.not_eq_true,hr.isEmpty_iff]
      simp only [not_forall, exists_prop, ne_eq]
    have hmarked : (r.recursive = true → r.isEmpty = false) ↔
        ((∃ a ∈ calls, a.recursive = true) → ∃ a ∈ calls, a.items ≠ []) := by
      rw [hr.recursive_iff,hasked]
    refine ⟨hmarked,?_⟩
    rintro q rfl
    rw [← hmarked,q.marksRecursive_toJson]
    cases q.ctes.isEmpty <;> simp

/-- The mark is made by an attachment that asks for nothing, and shown for the sake of the next one. -/
theorem declares_iff_asked_later :
    let first : List Argument := [.mapping []]
    let second : List Argument := [.definition (.raw "a" "1")]
    let marked : Registry := ⟨[], true⟩
    let q : Query := { table := "a", ctes := ⟨[.raw "a" "1"], true⟩ }
    (attach {} first true).outcome = .ok marked ∧
      (marked.attach second false).outcome = .ok q.ctes ∧
      q.ctes.isEmpty = false ∧ q.toJson.marksRecursive = true := by
  intro first second marked q
  have hfirst : (attach {} first true).outcome = .ok marked := rfl
  have hsecond : (marked.attach second false).outcome = .ok q.ctes := rfl
  have hattained : Attained [⟨first, true⟩, ⟨second, false⟩] q.ctes :=
    .attach (.attach .empty hfirst) hsecond
  have hasked : ∃ a ∈ ([⟨first, true⟩, ⟨second, false⟩] : List Attachment), a.items ≠ [] :=
    ⟨⟨second, false⟩,by simp,List.cons_ne_nil _ _⟩
  obtain ⟨hdeclares,-⟩ := declares_iff_asked marked second false
  obtain ⟨-,hcalls⟩ := declares_iff_asked q.ctes first true
  obtain ⟨-,hjson⟩ := hcalls _ hattained
  exact ⟨hfirst,hsecond,(hdeclares _ hsecond).mpr (.inr (List.cons_ne_nil _ _)),
    (hjson q rfl).mpr fun _ => hasked⟩

/-- An empty mapping is an argument that asks for nothing. The registry is marked recursive and
declares nothing, and a query has the same JSON with it as without it. -/
theorem not_declares_of_empty_mapping :
    (attach {} [.mapping []] true).outcome = .ok ⟨[], true⟩ ∧
    Query.toJson { table := "a", ctes := ⟨[], true⟩ } = (Query.ofTable "a").toJson ∧
    (¬ ∀ (r s : Registry) (args : List Argument) (recursive : Bool),
      (r.attach args recursive).outcome = .ok s → s.isEmpty = false) ∧
    ¬ ∀ (calls : List Attachment) (r : Registry), Attained calls r → r.recursive = true →
      r.isEmpty = false := by
  have hattach : (attach {} [.mapping []] true).outcome = .ok ⟨[], true⟩ := rfl
  refine ⟨hattach,rfl,?_,?_⟩
  · intro h
    cases h _ _ _ _ hattach
  · intro h
    cases h _ _ (.attach .empty hattach) rfl

end Registry
end WithClause
