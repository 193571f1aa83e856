import WithClause.Proofs.Registry.Conflicts
import WithClause.Proofs.Registry.Grouping
import WithClause.Proofs.Registry.Items

/-! What attaching and merging log. Every text that is read is reported, then every definition that puts
another body under a name, and last the operation. The warnings count the definitions that share a
name with one before them. -/
namespace WithClause

namespace Attempt

variable {α β : Type} {x : Attempt α} {f : α → Attempt β}

@[simp] theorem events_lift (x : Logged α) : events (ExceptT.lift x) = x.events :=
  Logged.map_events Except.ok x

lemma events_bind_of_ok {a : α} (h : x.outcome = .ok a) :
    (x >>= f).events = x.events ++ (f a).events := by
  obtain ⟨result,events⟩ := x
  cases h
  rfl

lemma events_bind_of_error {error : Error} (h : x.outcome = .error error) :
    (x >>= f).events = x.events := by
  obtain ⟨result,events⟩ := x
  cases h
  exact List.append_nil events

/-- A traversal emits what its elements emit, up to the first that fails. -/
theorem events_mapM {as : List α} {bs : List β} (h : (as.mapM f).outcome = .ok bs) :
    (as.mapM f).events = as.flatMap fun a => (f a).events := by
  induction as generalizing bs with
  | nil => rfl
  | cons a as ih =>
    rw [List.mapM_cons] at h ⊢
    rw [outcome_bind,bind_eq_ok_iff] at h
    obtain ⟨b,hb,h⟩ := h
    rw [outcome_bind,bind_eq_ok_iff] at h
    obtain ⟨cs,hcs,-⟩ := h
    rw [events_bind_of_ok hb,events_bind_of_ok hcs,ih hcs,List.flatMap_cons]
    exact congrArg _ (List.append_nil _)

theorem events_mapM_of_fault {before after : List α} {a : α} {bs : List β} {error : Error}
    (hbefore : (before.mapM f).outcome = .ok bs) (ha : (f a).outcome = .error error) :
    ((before ++ a :: after).mapM f).events =
      (before.flatMap fun b => (f b).events) ++ (f a).events := by
  rw [List.mapM_append,events_bind_of_ok hbefore,events_mapM hbefore]
  have htail : ((a :: after).mapM f).outcome = .error error := by
    rw [List.mapM_cons,outcome_bind,ha]
    rfl
  rw [events_bind_of_error htail,List.mapM_cons,events_bind_of_error ha]

end Attempt

namespace Item

/-- The definition that an item declares, with what is logged on the way. -/
def attempt : Item → Attempt Definition
  | entry name s => Attempt.ofExcept (s.bindTo name)
  | element a => a.single

lemma outcome_attempt (i : Item) : i.attempt.outcome = i.resolve := by
  cases i <;> rfl

def text? : Item → Option String
  | element (.text declaration) => some declaration
  | _ => none

end Item

namespace Argument

lemma definitions_eq (a : Argument) : a.definitions = a.items.mapM Item.attempt := by
  cases a with
  | mapping entries =>
    rw [definitions,items,List.mapM_map,Attempt.ofExcept_mapM]
    rfl
  | list elements =>
    rw [definitions,items,List.mapM_map]
    rfl
  | text declaration => simp [definitions, items, Item.attempt]
  | definition d => simp [definitions, items, Item.attempt]

lemma resolveAll_eq {args : List Argument} (h : args ≠ []) :
    resolveAll args = (args.flatMap items).mapM Item.attempt := by
  have hflatten : ∀ args : List Argument,
      List.flatten <$> args.mapM definitions = (args.flatMap items).mapM Item.attempt := by
    intro args
    induction args with
    | nil => simp
    | cons a args ih => simp [List.mapM_append, ← ih, definitions_eq]
  rw [resolveAll,if_neg (by simpa using h),← hflatten,map_eq_pure_bind]

end Argument

/-- The lines that events stand for, each under its level: the names that were read, those that were
declared again, and what was said at the end. -/
def Logs (events : List Event) (read warned closing : List String) : Prop :=
  events.map (fun e => (e.level.name, e.message)) =
    read.map (fun name => ("DEBUG", "Parsed CTE string: table '" ++ name ++ "'")) ++
    warned.map (fun name => ("WARN", "CTE '" ++ name ++
      "' declared again with a different body; the database will reject the statement")) ++
    closing.map fun message => ("DEBUG", message)

lemma logs_append {last : List Event} {closing : List String}
    (h : last.map (fun e => (e.level.name, e.message)) = closing.map fun message => ("DEBUG", message))
    (read warned : List String) :
    Logs (read.map .parsed ++ warned.map .redeclared ++ last) read warned closing := by
  rw [Logs,List.map_append,List.map_append,List.map_map,List.map_map,h]
  rfl

lemma logs_unclosed (read warned : List String) :
    Logs (read.map .parsed ++ warned.map .redeclared) read warned [] := by
  have hnone : ([] : List Event).map (fun e => (e.level.name, e.message)) =
      ([] : List String).map fun message => ("DEBUG", message) := rfl
  simpa using logs_append hnone read warned

/-- The name that reading a declaration finds and reports. -/
def Reports (declaration name : String) : Prop :=
  ∃ e, NamedExpression.parse declaration = .ok e ∧ e.name = name

namespace Item

variable {i : Item} {error : Error}

lemma text?_eq_some_iff {declaration : String} :
    i.text? = some declaration ↔ i = .element (.text declaration) := by
  constructor
  · intro h
    cases i with
    | entry name s => cases h
    | element a => cases a <;> cases h; rfl
  · rintro rfl
    rfl

lemma events_of_not_text (h : i.text? = none) : i.attempt.events = [] := by
  cases i with
  | entry name s => rfl
  | element a => cases a <;> first | rfl | cases h

lemma events_text (declaration : String) : (element (.text declaration)).attempt.events =
    match NamedExpression.parse declaration with
    | .ok e => [.parsed e.name]
    | .error _ => [] := by
  change (NamedExpression.toDefinition <$> NamedExpression.read declaration : Attempt _).events = _
  rw [NamedExpression.read]
  cases NamedExpression.parse declaration <;> rfl

lemma events_of_fails (h : i.Fails error) : i.attempt.events = [] := by
  cases htext : i.text? with
  | none => exact events_of_not_text htext
  | some declaration =>
    obtain rfl := text?_eq_some_iff.mp htext
    cases h with
    | text hparse => rw [events_text,hparse]
    | blankName hd _ => cases hd
    | blankBody hd _ _ _ => cases hd

lemma outcome_mapM_attempt_eq_ok_iff {items : List Item} {ds : List Definition} :
    (items.mapM attempt).outcome = .ok ds ↔ List.Forall₂ Declares items ds := by
  simp only [Attempt.outcome_mapM, outcome_attempt, mapM_eq_ok_iff, resolve_eq_ok_iff]

/-- Each text among items that are not refused is reported once, in order. -/
lemma exists_reports {items : List Item} {ds : List Definition}
    (h : List.Forall₂ Declares items ds) :
    ∃ names, List.Forall₂ Reports (items.filterMap text?) names ∧
      (items.flatMap fun i => i.attempt.events) = names.map .parsed := by
  induction h with
  | nil => exact ⟨[],.nil,rfl⟩
  | @cons i d items ds hi _ ih =>
    obtain ⟨names,hnames,hevents⟩ := ih
    rw [List.flatMap_cons,hevents]
    cases htext : i.text? with
    | none =>
      rw [List.filterMap_cons_none htext,events_of_not_text htext]
      exact ⟨names,hnames,rfl⟩
    | some declaration =>
      rw [List.filterMap_cons_some htext]
      obtain rfl := text?_eq_some_iff.mp htext
      cases hi with
      | held hd _ => cases hd
      | @text _ e hparse =>
        rw [events_text,hparse]
        exact ⟨e.name :: names,.cons ⟨e,hparse,rfl⟩ hnames,rfl⟩

lemma exists_declares {items : List Item} (h : ∀ i ∈ items, ∀ error, ¬ i.Fails error) :
    ∃ ds, List.Forall₂ Declares items ds := by
  cases hresolve : items.mapM resolve with
  | ok ds =>
    rw [mapM_eq_ok_iff] at hresolve
    exact ⟨ds,hresolve.imp fun _ _ => resolve_eq_ok_iff.mp⟩
  | error error =>
    obtain ⟨i,hi⟩ := (mapM_eq_error_iff fun _ _ => resolve_eq_error_iff).mp hresolve
    exact absurd hi.holds (h i hi.mem error)

end Item

namespace Registry

variable {r s t : Registry}

/-- What the warnings on the way from one registry to another say of both. -/
structure Warned (r s : Registry) (names : List String) : Prop where
  size : s.size + r.names.length = r.size + s.names.length + names.length
  conflicts (name : String) : name ∈ s.conflicts ↔ name ∈ r.conflicts ∨ name ∈ names

lemma Warned.refl (r : Registry) : Warned r r [] := ⟨rfl,fun _ => by simp⟩

lemma Warned.trans {xs ys : List String} (hrs : Warned r s xs) (hst : Warned s t ys) :
    Warned r t (xs ++ ys) := by
  have hr := hrs.size
  have hs := hst.size
  refine ⟨?_,?_⟩
  · rw [List.length_append]
    omega
  · intro name
    rw [hst.conflicts,hrs.conflicts,List.mem_append,or_assoc]

lemma warned_insert_of_not_holds {d : Definition} (h : r.holds d = false) :
    Warned r (r.insert d) (if r.contains d.name then [d.name] else []) := by
  have hnames : (r.insert d).definitions.map Definition.name =
      r.definitions.map Definition.name ++ [d.name] := by
    rw [insert_of_not_holds h,List.map_append]
    rfl
  have hlength := congrArg List.length hnames
  rw [List.length_append,List.length_map,List.length_map,List.length_singleton] at hlength
  have hcount : 0 < (r.definitions.map Definition.name).count d.name ↔
      d.name ∈ r.definitions.map Definition.name := List.count_pos_iff
  constructor
  · simp only [size, names, hnames, distinct_concat, contains_iff, List.length_append, hlength]
    split <;> simp only [List.length_nil, List.length_singleton] <;> omega
  · intro name
    rw [mem_conflicts_iff_count,mem_conflicts_iff_count,hnames,List.count_append]
    by_cases hname : name = d.name
    · subst hname
      by_cases hmem : d.name ∈ r.definitions.map Definition.name
      · rw [if_pos (contains_iff.mpr hmem),List.count_singleton_self]
        simp only [List.mem_singleton, or_true, iff_true]
        have hpos := hcount.mpr hmem
        omega
      · rw [if_neg (contains_iff.not.mpr hmem),List.count_singleton_self,
          List.count_eq_zero_of_not_mem hmem]
        simp
    · have hother : (d.name == name) = false := beq_eq_false_iff_ne.mpr (Ne.symm hname)
      rw [List.count_singleton,hother,if_neg Bool.false_ne_true,Nat.add_zero]
      split <;> simp [hname]

lemma warned_absorb (r : Registry) (d : Definition) : ∃ names,
    (r.absorb d).events = names.map .redeclared ∧ Warned r (r.absorb d).value names := by
  cases hholds : r.holds d with
  | true =>
    refine ⟨[],by simp [absorb, redeclares, hholds],?_⟩
    rw [absorb_value,insert_of_holds hholds]
    exact .refl r
  | false =>
    refine ⟨_,?_,warned_insert_of_not_holds hholds⟩
    simp only [absorb, redeclares, hholds, Bool.not_false, Bool.true_and]
    split <;> rfl

lemma warned_absorbAll (r : Registry) (ds : List Definition) : ∃ names,
    (r.absorbAll ds).events = names.map .redeclared ∧ Warned r (r.absorbAll ds).value names := by
  induction ds generalizing r with
  | nil => exact ⟨[],rfl,.refl r⟩
  | cons d ds ih =>
    obtain ⟨xs,hxs,hd⟩ := warned_absorb r d
    obtain ⟨ys,hys,hds⟩ := ih (r.absorb d).value
    refine ⟨xs ++ ys,?_,hd.trans hds⟩
    rw [List.map_append,← hxs,← hys]
    rfl

variable {args : List Argument} {recursive : Bool} {error : Error} {events : List Event}

lemma length_names_le (r : Registry) : r.names.length ≤ r.size := by
  have h := (distinct_sublist (r.definitions.map Definition.name)).length_le
  rwa [List.length_map] at h

/-- How many more definitions than names there are grows with each warning. -/
lemma Warned.excess {names : List String} (h : Warned r s names) :
    s.size - s.names.length = r.size - r.names.length + names.length := by
  have hsize := h.size
  have hr := r.length_names_le
  have hs := s.length_names_le
  omega

/-- An attachment that succeeds reports the texts that it reads, then warns, and last says what the
registry has become. -/
theorem events_attach_of_ok (h : (r.attach args recursive).outcome = .ok s) :
    ∃ read warned, List.Forall₂ Reports ((args.flatMap Argument.items).filterMap Item.text?) read ∧
      (r.attach args recursive).events =
        read.map .parsed ++ warned.map .redeclared ++ [.attached s.size s.recursive] ∧
      Warned r s warned := by
  obtain ⟨ds,hds,rfl⟩ := outcome_attach_eq_ok_iff.mp h
  obtain ⟨hne,-⟩ := attach_eq_ok_iff.mp h
  rw [Argument.resolveAll_eq hne] at hds
  obtain ⟨read,hread,hparsed⟩ :=
    Item.exists_reports (Item.outcome_mapM_attempt_eq_ok_iff.mp hds)
  obtain ⟨warned,hredeclared,hwarned⟩ := (r.markRecursive recursive).warned_absorbAll ds
  refine ⟨read,warned,hread,?_,?_⟩
  · rw [attach,Argument.resolveAll_eq hne,Attempt.events_bind_of_ok hds,Attempt.events_mapM hds,
      hparsed,Attempt.events_bind_of_ok (Attempt.outcome_lift _),Attempt.events_lift,hredeclared,
      List.append_assoc,← absorbAll_value]
    rfl
  · rw [absorbAll_value] at hwarned
    exact ⟨hwarned.size,hwarned.conflicts⟩

/-- A merge warns and then says how much has come of how much. -/
theorem events_merge (r other : Registry) :
    ∃ warned, (r.merge other).events =
        warned.map .redeclared ++ [.merged r.size other.size (r.merge other).value.size] ∧
      Warned r (r.merge other).value warned := by
  obtain ⟨warned,hredeclared,hwarned⟩ :=
    (r.markRecursive other.recursive).warned_absorbAll other.definitions
  refine ⟨warned,?_,⟨hwarned.size,hwarned.conflicts⟩⟩
  rw [← hredeclared]
  rfl

/-- An attachment that is refused reports the texts in front of the item at fault, and nothing else. -/
theorem events_attach_of_error (h : (r.attach args recursive).outcome = .error error) :
    args = [] ∧ (r.attach args recursive).events = [] ∨
      ∃ before i after read, args.flatMap Argument.items = before ++ i :: after ∧
        (∀ j ∈ before, ∀ e, ¬ j.Fails e) ∧ i.Fails error ∧
        List.Forall₂ Reports (before.filterMap Item.text?) read ∧
        (r.attach args recursive).events = read.map .parsed := by
  by_cases hne : args = []
  · obtain rfl := hne
    exact .inl ⟨rfl,rfl⟩
  · obtain ⟨i,before,after,hitems,hbefore,hi⟩ := (attach_eq_error_iff hne).mp h
    obtain ⟨ds,hds⟩ := Item.exists_declares hbefore
    obtain ⟨read,hread,hparsed⟩ := Item.exists_reports hds
    refine .inr ⟨before,i,after,read,hitems,hbefore,hi,hread,?_⟩
    have hresolve : (Argument.resolveAll args).outcome = .error error := by
      rw [Argument.outcome_resolveAll hne]
      exact (mapM_eq_error_iff fun _ _ => Item.resolve_eq_error_iff).mpr
        ⟨i,before,after,hitems,hbefore,hi⟩
    have hfault : i.attempt.outcome = .error error := by
      rw [Item.outcome_attempt]
      exact Item.resolve_eq_error_iff.mpr hi
    rw [attach,Attempt.events_bind_of_error hresolve,Argument.resolveAll_eq hne,hitems,
      Attempt.events_mapM_of_fault (Item.outcome_mapM_attempt_eq_ok_iff.mpr hds) hfault,hparsed,
      Item.events_of_fails hi,List.append_nil]

/-- The registries that a chain of operations makes of the empty one, with the events on the way. An
attachment that is refused leaves the registry as it was, and any registry may be merged into it. -/
inductive Traced : List Event → Registry → Prop
  | empty : Traced [] {}
  | attach {events : List Event} {r s : Registry} {args : List Argument} {recursive : Bool}
    (hr : Traced events r) (hs : (r.attach args recursive).outcome = .ok s) :
    Traced (events ++ (r.attach args recursive).events) s
  | refused {events : List Event} {r : Registry} {args : List Argument} {recursive : Bool}
    {error : Error} (hr : Traced events r) (h : (r.attach args recursive).outcome = .error error) :
    Traced (events ++ (r.attach args recursive).events) r
  | merge {events : List Event} {r : Registry} (hr : Traced events r) (s : Registry) :
    Traced (events ++ (r.merge s).events) (r.merge s).value

def warnings (events : List Event) : List Event := events.filter (·.level = .warn)

@[simp] lemma warnings_append (xs ys : List Event) :
    warnings (xs ++ ys) = warnings xs ++ warnings ys := List.filter_append xs ys

@[simp] lemma warnings_parsed (names : List String) : warnings (names.map .parsed) = [] := by
  simp [warnings, Event.level]

@[simp] lemma warnings_redeclared (names : List String) :
    warnings (names.map .redeclared) = names.map .redeclared := by
  simp [warnings, Event.level]

lemma warnings_attach_of_error (h : (r.attach args recursive).outcome = .error error) :
    warnings (r.attach args recursive).events = [] := by
  rcases events_attach_of_error h with ⟨-,hevents⟩ | ⟨-,-,-,read,-,-,-,-,hevents⟩
  · rw [hevents]
    rfl
  · rw [hevents,warnings_parsed]

/-- The warnings of a chain say of the last registry what those of each operation say of its two. -/
theorem Traced.exists_warned (h : Traced events r) :
    ∃ names, warnings events = names.map .redeclared ∧ Warned {} r names := by
  induction h with
  | empty => exact ⟨[],rfl,.refl {}⟩
  | attach _ hs ih =>
    obtain ⟨names,hnames,hwarned⟩ := ih
    obtain ⟨read,more,-,hevents,hmore⟩ := events_attach_of_ok hs
    refine ⟨names ++ more,?_,hwarned.trans hmore⟩
    rw [warnings_append,hnames,hevents,warnings_append,warnings_append,warnings_parsed,
      warnings_redeclared,List.map_append]
    exact congrArg _ (List.append_nil _)
  | refused _ hfails ih =>
    obtain ⟨names,hnames,hwarned⟩ := ih
    refine ⟨names,?_,hwarned⟩
    rw [warnings_append,hnames,warnings_attach_of_error hfails,List.append_nil]
  | @merge _ r _ s ih =>
    obtain ⟨names,hnames,hwarned⟩ := ih
    obtain ⟨more,hevents,hmore⟩ := r.events_merge s
    refine ⟨names ++ more,?_,hwarned.trans hmore⟩
    rw [warnings_append,hnames,hevents,warnings_append,warnings_redeclared,List.map_append]
    exact congrArg _ (List.append_nil _)

/-- An attachment reports the texts in order, then warns, and then says what the registry has become;
one that fails has reported the texts in front of the fault only, and a merge does not report any.
The warnings of an operation are as many as definitions have come that brought no name of their
own. Since the empty registry, there have been as many as there are more definitions than names,
and there has been none if and only if no name is in conflict. -/
theorem warnings_tell_conflicts (r : Registry) :
    (∀ args recursive s, (r.attach args recursive).outcome = .ok s →
      ∃ read warned : List String,
        List.Forall₂ Reports ((args.flatMap Argument.items).filterMap Item.text?) read ∧
        (r.attach args recursive).events =
          read.map .parsed ++ warned.map .redeclared ++ [.attached s.size s.recursive] ∧
        Logs (r.attach args recursive).events read warned ["Attached CTEs: " ++ s.size.repr ++
          " definition(s), recursive=" ++ if s.recursive then "true" else "false"] ∧
        s.size - s.names.length = r.size - r.names.length + warned.length ∧
        ∀ name, name ∈ s.conflicts ↔ name ∈ r.conflicts ∨ name ∈ warned) ∧
    (∀ other, ∃ warned : List String,
      (r.merge other).events =
        warned.map .redeclared ++ [.merged r.size other.size (r.merge other).value.size] ∧
      Logs (r.merge other).events [] warned ["Merged CTE registries: " ++ r.size.repr ++ " + " ++
        other.size.repr ++ " -> " ++ (r.merge other).value.size.repr ++ " definition(s)"] ∧
      (r.merge other).value.size - (r.merge other).value.names.length =
        r.size - r.names.length + warned.length ∧
      ∀ name, name ∈ (r.merge other).value.conflicts ↔ name ∈ r.conflicts ∨ name ∈ warned) ∧
    (∀ args recursive error, (r.attach args recursive).outcome = .error error →
      args = [] ∧ (r.attach args recursive).events = [] ∨
        ∃ before i after, ∃ read : List String,
          args.flatMap Argument.items = before ++ i :: after ∧
          (∀ j ∈ before, ∀ e, ¬ j.Fails e) ∧ i.Fails error ∧
          List.Forall₂ Reports (before.filterMap Item.text?) read ∧
          (r.attach args recursive).events = read.map .parsed ∧
          Logs (r.attach args recursive).events read [] []) ∧
    ∀ events, Traced events r →
      (warnings events).length = r.size - r.names.length ∧
      (r.conflicts = [] ↔ warnings events = []) ∧
      (∀ name, name ∈ r.conflicts ↔ .redeclared name ∈ warnings events) ∧
      ∃ warned, Logs (warnings events) [] warned [] ∧ ∀ name, name ∈ r.conflicts ↔ name ∈ warned := by
  refine ⟨?_,?_,?_,?_⟩
  · intro args recursive s hs
    obtain ⟨read,warned,hread,hevents,hwarned⟩ := events_attach_of_ok hs
    refine ⟨read,warned,hread,hevents,?_,hwarned.excess,hwarned.conflicts⟩
    rw [hevents]
    exact logs_append rfl read warned
  · intro other
    obtain ⟨warned,hevents,hwarned⟩ := r.events_merge other
    refine ⟨warned,hevents,?_,hwarned.excess,hwarned.conflicts⟩
    rw [hevents]
    exact logs_append rfl [] warned
  · intro args recursive error h
    rcases events_attach_of_error h with hnone | ⟨before,i,after,read,hitems,hbefore,hi,hread,hevents⟩
    · exact .inl hnone
    · refine .inr ⟨before,i,after,read,hitems,hbefore,hi,hread,hevents,?_⟩
      rw [hevents]
      simpa using logs_unclosed read []
  · intro events h
    obtain ⟨names,hnames,hwarned⟩ := h.exists_warned
    have hmem : ∀ name, name ∈ r.conflicts ↔ name ∈ names := by
      intro name
      rw [hwarned.conflicts]
      exact or_iff_right List.not_mem_nil
    refine ⟨?_,?_,?_,names,?_,hmem⟩
    · rw [hnames,List.length_map,hwarned.excess]
      exact (Nat.zero_add _).symm
    · rw [hnames,List.map_eq_nil_iff,List.eq_nil_iff_forall_not_mem,
        List.eq_nil_iff_forall_not_mem]
      exact forall_congr' fun name => not_congr (hmem name)
    · intro name
      simp [hnames, hmem]
    · rw [hnames]
      simpa using logs_unclosed [] names

/-- A call that declares `a` twice, one that is refused after two texts, and a registry merged in that
was in conflict before. -/
theorem warnings_tell_conflicts_refused :
    let declared : List Argument := [.text "\"a\" AS (1)", .mapping [("a", .raw "2"), ("a", .raw "1")]]
    let refused : List Argument := [.text "\"b\" AS (1)", .list [.text "\"c\" AS (1)", .list []]]
    let r : Registry := ⟨[.raw "a" "1", .raw "a" "2"], true⟩
    let other : Registry := ⟨[.raw "b" "1", .raw "a" "1", .raw "b" "2", .raw "a" "3"], false⟩
    let events := (attach {} declared true).events ++ (r.attach refused false).events ++
      (r.merge other).events
    ((attach {} declared true).outcome = .ok r ∧ ∃ read warned : List String,
      List.Forall₂ Reports ["\"a\" AS (1)"] read ∧ (attach {} declared true).events =
        read.map .parsed ++ warned.map .redeclared ++ [.attached 2 true] ∧
      Logs (attach {} declared true).events read warned
        ["Attached CTEs: 2 definition(s), recursive=true"] ∧ warned.length = 1) ∧
      ((r.attach refused false).outcome = .error .nestedList ∧ ∃ read : List String,
        (r.attach refused false).events = read.map .parsed ∧
        Logs (r.attach refused false).events read [] []) ∧
      Traced events (r.merge other).value ∧
      (warnings events).length = (r.merge other).value.size - (r.merge other).value.names.length ∧
      warnings events = [.redeclared "a", .redeclared "b", .redeclared "a"] ∧
      (r.merge other).value.conflicts ≠ [] ∧ "b" ∈ (r.merge other).value.conflicts := by
  intro declared refused r other events
  have hdeclared : (attach {} declared true).outcome = .ok r := by
    refine outcome_attach_eq_ok_iff.mpr ⟨[.raw "a" "1", .raw "a" "2", .raw "a" "1"],rfl,?_⟩
    simp [r, markRecursive, insert, holds, Definition.same, Body.same, Definition.raw]
  have hrefused : (r.attach refused false).outcome = .error .nestedList := rfl
  have htraced : Traced events (r.merge other).value :=
    .merge (.refused (.attach .empty hdeclared) hrefused) other
  have hwarnings : warnings events = [.redeclared "a", .redeclared "b", .redeclared "a"] := by
    decide +kernel
  obtain ⟨hok,-,-⟩ := warnings_tell_conflicts {}
  obtain ⟨-,-,herror,-⟩ := warnings_tell_conflicts r
  obtain ⟨-,-,-,hchain⟩ := warnings_tell_conflicts (r.merge other).value
  obtain ⟨hlength,hnil,hmem,-⟩ := hchain events htraced
  refine ⟨⟨hdeclared,?_⟩,⟨hrefused,?_⟩,htraced,hlength,hwarnings,?_,(hmem "b").mpr ?_⟩
  · obtain ⟨read,warned,hread,hevents,hlogs,hexcess,-⟩ := hok _ _ _ hdeclared
    have hone : 1 = 0 + warned.length := hexcess
    have hclosing : ("Attached CTEs: " ++ r.size.repr ++ " definition(s), recursive=" ++
        if r.recursive then "true" else "false") =
        "Attached CTEs: 2 definition(s), recursive=true" := by decide +kernel
    rw [hclosing] at hlogs
    exact ⟨read,warned,hread,hevents,hlogs,by omega⟩
  · rcases herror _ _ _ hrefused with ⟨hempty,-⟩ | ⟨-,-,-,read,-,-,-,-,hevents,hlogs⟩
    · exact absurd hempty (List.cons_ne_nil _ _)
    · exact ⟨read,hevents,hlogs⟩
  · rw [Ne,hnil,hwarnings]
    exact List.cons_ne_nil _ _
  · simp [hwarnings]

end Registry
end WithClause
