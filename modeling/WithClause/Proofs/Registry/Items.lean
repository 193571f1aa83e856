import WithClause.Proofs.NamedExpression.Failure
import WithClause.Proofs.Registry.Insertion
import WithClause.Proofs.Registry.Resolution

/-! What an attachment is asked for, item by item. The first item that is refused decides the error, and
if none is, the registry grows by the definitions that are equal to none before them. -/
namespace WithClause
open Text

/-- One of the things that arguments ask for. -/
inductive Item where
  /-- An entry of a mapping. -/
  | entry (name : String) (s : Supplied)
  /-- An element of a list, or an argument that is neither a mapping nor a list. -/
  | element (a : Argument)

namespace Argument

def items : Argument → List Item
  | mapping entries => entries.map fun entry => .entry entry.1 entry.2
  | list elements => elements.map .element
  | text declaration => [.element (.text declaration)]
  | definition d => [.element (.definition d)]

end Argument

/-- The one body that is supplied, if it is one. -/
def Supplied.body? : Supplied → Option Body
  | null => none
  | raw sql => some (.raw sql)
  | query q => some (.query q)
  | definition d => some d.body
  | list _ => none

namespace Item

/-- The definition that an item holds, be it blank or not. A text does not hold one, it is read. -/
inductive Holds : Item → Definition → Prop
  | entry {name : String} {s : Supplied} {body : Body} (h : s.body? = some body) :
    Holds (.entry name s) ⟨name, body⟩
  | definition (d : Definition) : Holds (.element (.definition d)) d

/-- The definition that comes of an item. -/
inductive Declares : Item → Definition → Prop
  | text {declaration : String} {e : NamedExpression}
    (h : NamedExpression.parse declaration = .ok e) :
    Declares (.element (.text declaration)) e.toDefinition
  | held {i : Item} {d : Definition} (h : i.Holds d) (hd : d.Filled) : Declares i d

/-- The items that are refused, with the reason. Whether a body is missing is looked at before the name,
and whether it is blank after that. -/
inductive Fails : Item → Error → Prop
  | text {declaration : String} {error : Error}
    (h : NamedExpression.parse declaration = .error error) :
    Fails (.element (.text declaration)) error
  | mapping (entries : List (String × Supplied)) :
    Fails (.element (.mapping entries)) .nestedMapping
  | list (elements : List Argument) : Fails (.element (.list elements)) .nestedList
  | null (name : String) : Fails (.entry name .null) (.nilBody name)
  | bodies (name : String) (items : List Supplied) :
    Fails (.entry name (.list items)) (.collectionBody name)
  | blankName {i : Item} {d : Definition} (h : i.Holds d) (hname : Blank d.name.toList) :
    Fails i .emptyName
  | blankBody {i : Item} {d : Definition} {sql : String} (h : i.Holds d)
    (hname : ¬ Blank d.name.toList) (hbody : d.body = .raw sql) (hsql : Blank sql.toList) :
    Fails i (.nilBody d.name)

def IsText (i : Item) : Prop := ∃ declaration, i = .element (.text declaration)

/-- What the arguments of an attachment are resolved by, one item at a time. -/
def resolve : Item → Except Error Definition
  | entry name s => s.bindTo name
  | element a => a.single.outcome

end Item

lemma NamedExpression.isParseError_of_parse {input : String} {error : Error}
    (h : parse input = .error error) : error.isParseError = true := by
  cases parse_eq_error_iff.mp h <;> rfl

theorem Definition.validate_eq_error_iff {d : Definition} {error : Error} :
    d.validate = .error error ↔ Blank d.name.toList ∧ error = .emptyName ∨
      ¬ Blank d.name.toList ∧ ∃ sql, d.body = .raw sql ∧ Blank sql.toList ∧
        error = .nilBody d.name := by
  obtain ⟨name,body⟩ := d
  rw [validate]
  by_cases hname : Blank name.toList
  · simp [hasBlankName, hname, eq_comm]
  · cases body with
    | query q => simp [hasBlankName, hasBlankBody, hname]
    | raw sql => by_cases hsql : Blank sql.toList <;>
        simp [hasBlankName, hasBlankBody, hname, hsql, eq_comm]

theorem Supplied.bindTo_of_body? {s : Supplied} {body : Body} (h : s.body? = some body)
    (name : String) : s.bindTo name = Definition.validate ⟨name, body⟩ := by
  cases s with
  | null => cases h
  | list items => cases h
  | raw sql => cases h; rfl
  | query q => cases h; rfl
  | definition d => cases h; rfl

namespace Item

variable {i : Item} {d : Definition} {error : Error}

lemma resolve_of_holds (h : i.Holds d) : i.resolve = d.validate := by
  cases h with
  | entry hbody => exact Supplied.bindTo_of_body? hbody _
  | definition d => rfl

lemma resolve_text (declaration : String) : resolve (.element (.text declaration)) =
    NamedExpression.toDefinition <$> NamedExpression.parse declaration :=
  Definition.outcome_read declaration

/-- An item is a text, or holds a definition, or is refused for what it is. -/
lemma text_or_holds_or_fails (i : Item) :
    i.IsText ∨ (∃ d, i.Holds d) ∨ ∃ error, i.resolve = .error error ∧ i.Fails error := by
  cases i with
  | entry name s =>
    cases s with
    | null => exact .inr (.inr ⟨_,rfl,.null name⟩)
    | list items => exact .inr (.inr ⟨_,rfl,.bodies name items⟩)
    | raw sql => exact .inr (.inl ⟨_,.entry rfl⟩)
    | query q => exact .inr (.inl ⟨_,.entry rfl⟩)
    | definition e => exact .inr (.inl ⟨_,.entry rfl⟩)
  | element a =>
    cases a with
    | mapping entries => exact .inr (.inr ⟨_,rfl,.mapping entries⟩)
    | list elements => exact .inr (.inr ⟨_,rfl,.list elements⟩)
    | definition e => exact .inr (.inl ⟨e,.definition e⟩)
    | text declaration => exact .inl ⟨declaration,rfl⟩

theorem resolve_eq_ok_iff : i.resolve = .ok d ↔ i.Declares d := by
  constructor
  · intro h
    rcases i.text_or_holds_or_fails with ⟨declaration,rfl⟩ | ⟨e,he⟩ | ⟨error,herror,-⟩
    · rw [resolve_text] at h
      cases hparse : NamedExpression.parse declaration with
      | error error => rw [hparse] at h; cases h
      | ok e =>
        rw [hparse] at h
        cases h
        exact .text hparse
    · rw [resolve_of_holds he] at h
      obtain ⟨rfl,hfilled⟩ := Definition.validate_eq_ok_iff.mp h
      exact .held he hfilled
    · rw [herror] at h
      cases h
  · intro h
    cases h with
    | text hparse => rw [resolve_text,hparse]; rfl
    | held hholds hfilled =>
      rw [resolve_of_holds hholds]
      exact Definition.validate_eq_ok_iff.mpr ⟨rfl,hfilled⟩

theorem resolve_eq_error_iff : i.resolve = .error error ↔ i.Fails error := by
  constructor
  · intro h
    rcases i.text_or_holds_or_fails with ⟨declaration,rfl⟩ | ⟨d,hd⟩ | ⟨e,he,hfails⟩
    · rw [resolve_text] at h
      cases hparse : NamedExpression.parse declaration with
      | error e => rw [hparse] at h; cases h; exact .text hparse
      | ok e => rw [hparse] at h; cases h
    · rw [resolve_of_holds hd,Definition.validate_eq_error_iff] at h
      rcases h with ⟨hname,rfl⟩ | ⟨hname,sql,hbody,hsql,rfl⟩
      · exact .blankName hd hname
      · exact .blankBody hd hname hbody hsql
    · obtain rfl := Except.error.inj (he.symm.trans h)
      exact hfails
  · intro h
    cases h with
    | text hparse => rw [resolve_text,hparse]; rfl
    | mapping entries => rfl
    | list elements => rfl
    | null name => rfl
    | bodies name items => rfl
    | blankName hd hname =>
      rw [resolve_of_holds hd]
      exact Definition.validate_eq_error_iff.mpr (.inl ⟨hname,rfl⟩)
    | blankBody hd hname hbody hsql =>
      rw [resolve_of_holds hd]
      exact Definition.validate_eq_error_iff.mpr (.inr ⟨hname,_,hbody,hsql,rfl⟩)

/-- Only a text is at fault for how it reads. -/
theorem Fails.isParseError_iff (h : i.Fails error) : error.isParseError = true ↔ i.IsText := by
  have held : ∀ d, i.Holds d → ¬ i.IsText := by
    rintro d hd ⟨declaration,rfl⟩
    cases hd
  cases h with
  | text hparse =>
    exact iff_of_true (NamedExpression.isParseError_of_parse hparse) ⟨_,rfl⟩
  | mapping _ | list _ | null _ | bodies _ _ =>
    refine iff_of_false Bool.false_ne_true ?_
    rintro ⟨declaration,h⟩
    cases h
  | blankName hd _ => exact iff_of_false Bool.false_ne_true (held _ hd)
  | blankBody hd _ _ _ => exact iff_of_false Bool.false_ne_true (held _ hd)

lemma Fails.ne_noArguments (h : i.Fails error) : error ≠ .noArguments := by
  rintro rfl
  cases h with
  | text hparse => cases NamedExpression.isParseError_of_parse hparse

end Item

namespace Argument

lemma outcome_definitions (a : Argument) : a.definitions.outcome = a.items.mapM Item.resolve := by
  cases a with
  | mapping entries =>
    rw [definitions,items,Attempt.outcome_ofExcept,List.mapM_map]
    rfl
  | list elements =>
    rw [definitions,items,Attempt.outcome_mapM,List.mapM_map]
    rfl
  | text declaration =>
    rw [definitions,items,Attempt.outcome_bind,List.mapM_cons]
    rfl
  | definition d =>
    rw [definitions,items,Attempt.outcome_bind,List.mapM_cons]
    rfl

lemma outcome_mapM_definitions (args : List Argument) :
    List.flatten <$> (args.mapM fun a => a.definitions.outcome) =
      (args.flatMap items).mapM Item.resolve := by
  induction args with
  | nil => rfl
  | cons a args ih =>
    rw [List.mapM_cons,List.flatMap_cons,List.mapM_append,← ih,outcome_definitions]
    cases a.items.mapM Item.resolve with
    | error error => rfl
    | ok ds => cases args.mapM fun a => a.definitions.outcome <;> rfl

/-- Where there are arguments they are resolved item by item. -/
theorem outcome_resolveAll {args : List Argument} (h : args ≠ []) :
    (resolveAll args).outcome = (args.flatMap items).mapM Item.resolve := by
  rw [resolveAll,if_neg (by simpa using h),← outcome_mapM_definitions,Attempt.outcome_bind,
    Attempt.outcome_mapM]
  rfl

end Argument

namespace Registry

variable {r s : Registry} {args : List Argument} {recursive : Bool} {error : Error}

theorem attach_eq_error_iff (h : args ≠ []) : (r.attach args recursive).outcome = .error error ↔
    ∃ i, FirstFault Item.Fails (args.flatMap Argument.items) i error := by
  rw [outcome_attach,Argument.outcome_resolveAll h,
    ← mapM_eq_error_iff fun _ _ => Item.resolve_eq_error_iff]
  cases (args.flatMap Argument.items).mapM Item.resolve with
  | error error => simp [Functor.map, Except.map]
  | ok ds => simp [Functor.map, Except.map]

theorem attach_nil (r : Registry) (recursive : Bool) :
    (r.attach [] recursive).outcome = .error .noArguments := rfl

theorem attach_eq_ok_iff : (r.attach args recursive).outcome = .ok s ↔
    args ≠ [] ∧ ∃ ds, List.Forall₂ Item.Declares (args.flatMap Argument.items) ds ∧
      s.definitions = r.definitions ++ novel r.definitions ds ∧
      s.recursive = (r.recursive || recursive) := by
  have hgrown : ∀ ds : List Definition, s = ds.foldl insert (r.markRecursive recursive) ↔
      s.definitions = r.definitions ++ novel r.definitions ds ∧
        s.recursive = (r.recursive || recursive) := by
    intro ds
    rw [Registry.ext_iff,definitions_foldl_insert,foldl_insert_recursive]
    rfl
  by_cases h : args = []
  · simp [h, attach_nil]
  · simp only [outcome_attach_eq_ok_iff, Argument.outcome_resolveAll h, mapM_eq_ok_iff,
      Item.resolve_eq_ok_iff, hgrown, h, ne_eq, not_false_eq_true, true_and]

/-- An attachment without arguments is refused. Any other is refused exactly if one of its items is,
and then for the first of these in order, which is a text exactly if the error is one of reading.
Otherwise all items declare a definition each, and those that are equal to none before them are
added in order. -/
theorem attach_itemwise (r : Registry) (args : List Argument) (recursive : Bool) :
    ((r.attach args recursive).outcome = .error .noArguments ↔ args = []) ∧
    (args ≠ [] →
      ((∃ error, (r.attach args recursive).outcome = .error error) ↔
        ∃ i ∈ args.flatMap Argument.items, ∃ error, i.Fails error) ∧
      ∀ error, (r.attach args recursive).outcome = .error error ↔
        ∃ i, FirstFault Item.Fails (args.flatMap Argument.items) i error) ∧
    (∀ error, (r.attach args recursive).outcome = .error error →
      (error.isParseError = true ↔
        ∃ i, FirstFault Item.Fails (args.flatMap Argument.items) i error ∧ i.IsText)) ∧
    ∀ s, (r.attach args recursive).outcome = .ok s ↔
      args ≠ [] ∧ ∃ ds, List.Forall₂ Item.Declares (args.flatMap Argument.items) ds ∧
        s.definitions = r.definitions ++ novel r.definitions ds ∧
        s.recursive = (r.recursive || recursive) := by
  refine ⟨?_,?_,?_,fun _ => attach_eq_ok_iff⟩
  · constructor
    · intro h
      by_contra hne
      obtain ⟨i,hi⟩ := (attach_eq_error_iff hne).mp h
      exact hi.holds.ne_noArguments rfl
    · rintro rfl
      exact attach_nil r recursive
  · intro hne
    refine ⟨?_,fun _ => attach_eq_error_iff hne⟩
    simp only [attach_eq_error_iff hne]
    rw [exists_comm,exists_firstFault_iff]
  · intro error h
    by_cases hne : args = []
    · obtain rfl := hne
      cases h
      refine iff_of_false Bool.false_ne_true ?_
      rintro ⟨i,hi,-⟩
      cases hi.mem
    · obtain ⟨i,hi⟩ := (attach_eq_error_iff hne).mp h
      rw [hi.holds.isParseError_iff]
      constructor
      · exact fun htext => ⟨i,hi,htext⟩
      · rintro ⟨j,hj,htext⟩
        rw [← hi.holds.isParseError_iff]
        exact hj.holds.isParseError_iff.mpr htext

/-- Three faults in one call, of which the missing body comes first, although its name is blank; and a
call that asks for two definitions a second time. -/
theorem attach_itemwise_overlapping :
    let r : Registry := ⟨[.raw "a" "1"], false⟩
    let faulty : List Argument :=
      [.mapping [("b", .raw "2"), (" ", .null)], .text "c", .list [.list []]]
    let repeated : List Argument := [.mapping [("b", .raw "2"), ("a", .raw "1")],
      .list [.definition (.raw "b" "2"), .text "\"c\" AS (3)"]]
    (r.attach faulty true).outcome = .error (.nilBody " ") ∧
      (r.attach repeated true).outcome =
        .ok ⟨[.raw "a" "1", .raw "b" "2", .raw "c" "3"], true⟩ := by
  intro r faulty repeated
  constructor
  · have hentry : ∀ error, ¬ (Item.entry "b" (.raw "2")).Fails error := by
      intro error h
      cases Item.resolve_eq_error_iff.mpr h
    have hfault : FirstFault Item.Fails (faulty.flatMap Argument.items) (.entry " " .null)
        (.nilBody " ") :=
      ⟨[.entry "b" (.raw "2")],[.element (.text "c"), .element (.list [])],rfl,by simpa,.null " "⟩
    obtain ⟨-,hfails,-⟩ := attach_itemwise r faulty true
    exact ((hfails (by simp [faulty])).2 _).mpr ⟨_,hfault⟩
  · obtain ⟨-,-,-,hdeclares⟩ := attach_itemwise r repeated true
    refine (hdeclares _).mpr ⟨by simp [repeated],
      [.raw "b" "2", .raw "a" "1", .raw "b" "2", .raw "c" "3"],?_,?_,rfl⟩
    · have hresolve : ∀ (i : Item) d, i.resolve = .ok d → i.Declares d :=
        fun _ _ => Item.resolve_eq_ok_iff.mp
      exact .cons (hresolve _ _ rfl) (.cons (hresolve _ _ rfl) (.cons (hresolve _ _ rfl)
        (.cons (hresolve _ _ rfl) .nil)))
    · simp [r, novel, Definition.same, Body.same, Definition.raw]

end Registry
end WithClause
