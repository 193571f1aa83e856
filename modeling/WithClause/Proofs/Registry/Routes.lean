import WithClause.Proofs.Definition.Frozen
import WithClause.Proofs.Registry.Grouping
import WithClause.Settings

/-! The forms in which one definition can be supplied. All but the text are validated and nothing else,
and a text that is the definition's own needs no validation. -/
namespace WithClause
open Text

namespace Argument

variable {a : Argument} {d : Definition}

/-- An argument that comes to one definition once that has been validated. -/
def Validates (a : Argument) (d : Definition) : Prop :=
  a.definitions = do return [← Attempt.ofExcept d.validate]

lemma resolveAll_singleton (a : Argument) : resolveAll [a] = a.definitions := by
  simp [resolveAll]

lemma validates_definition (d : Definition) : (definition d).Validates d := rfl

lemma validates_mapping (name : String) {s : Supplied} {body : Body} (h : s.body? = some body) :
    (mapping [(name, s)]).Validates ⟨name, body⟩ := by
  rw [Validates,definitions_mapping_singleton,Supplied.bindTo_of_body? h]

lemma validates_list (d : Definition) : (list [.definition d]).Validates d := by
  rw [Validates,definitions,List.mapM_cons,List.mapM_nil]
  simp only [pure_bind]
  rfl

end Argument

lemma Definition.validate_raw (name sql : String) : (raw name sql).validate =
    if Blank name.toList then .error .emptyName
    else if Blank sql.toList then .error (.nilBody name) else .ok (raw name sql) := by
  by_cases hname : Blank name.toList
  · simp [validate, hasBlankName, raw, hname]
  · by_cases hsql : Blank sql.toList <;>
      simp [validate, hasBlankName, hasBlankBody, raw, hname, hsql]

namespace Registry

variable {a b : Argument} {d : Definition}

/-- What is validated alike is attached alike, with the same events. -/
lemma attach_eq_of_validates (ha : a.Validates d) (hb : b.Validates d) (r : Registry)
    (recursive : Bool) : r.attach [a] recursive = r.attach [b] recursive := by
  rw [attach,attach,Argument.resolveAll_singleton,Argument.resolveAll_singleton,ha,hb]

lemma outcome_attach_of_validates (ha : a.Validates d) (r : Registry) (recursive : Bool) :
    (r.attach [a] recursive).outcome = (r.markRecursive recursive).insert <$> d.validate := by
  rw [outcome_attach,Argument.resolveAll_singleton,ha,Attempt.outcome_bind,
    Attempt.outcome_ofExcept]
  cases d.validate <;> rfl

lemma outcome_attach_raw {name sql : String} (ha : a.Validates (.raw name sql)) (r : Registry)
    (recursive : Bool) : (r.attach [a] recursive).outcome =
      if Blank name.toList then .error .emptyName
      else if Blank sql.toList then .error (.nilBody name)
      else .ok ((r.markRecursive recursive).insert (.raw name sql)) := by
  rw [outcome_attach_of_validates ha,Definition.validate_raw]
  split_ifs <;> rfl

/-- A text that is read adds nothing but the event of that. -/
lemma attach_text {declaration : String} {e : NamedExpression}
    (hparse : NamedExpression.parse declaration = .ok e)
    (hvalid : e.toDefinition.validate = .ok e.toDefinition) (r : Registry) (recursive : Bool) :
    r.attach [.text declaration] recursive =
      Attempt.emit (.parsed e.name) >>= fun _ => r.attach [.definition e.toDefinition] recursive := by
  have htext : (Argument.text declaration).definitions =
      Attempt.emit (.parsed e.name) >>= fun _ => pure [e.toDefinition] := by
    rw [Argument.definitions,Argument.single,Definition.read,NamedExpression.read,hparse]
    rfl
  have hdefinition : (Argument.definition e.toDefinition).definitions = pure [e.toDefinition] := by
    rw [Argument.definitions,Argument.single,hvalid]
    rfl
  rw [attach,attach,Argument.resolveAll_singleton,Argument.resolveAll_singleton,htext,hdefinition,
    bind_assoc]

/-- The text that a definition is rendered as comes to the definition itself. -/
lemma attach_own_declaration {name sql : String} (ha : a.Validates (.raw name sql))
    (h : (Definition.raw name sql).Legible) (hname : trim name.toList = name.toList)
    (hsql : trim sql.toList = sql.toList) (r : Registry) (recursive : Bool) :
    r.attach [.text (Definition.raw name sql).text] recursive =
      Attempt.emit (.parsed name) >>= fun _ => r.attach [a] recursive := by
  have hparse : NamedExpression.parse (Definition.raw name sql).text = .ok ⟨name, sql⟩ := by
    rw [h.parse_text hname (by rwa [Definition.text_raw]),Definition.text_raw]
    rfl
  rw [attach_eq_of_validates ha (Argument.validates_definition _)]
  exact attach_text hparse (Definition.validate_eq_ok_iff.mpr ⟨rfl,h.filled⟩) r recursive

/-- A name with its SQL gives the same registry or the same error, and the same events, in whichever form
it is supplied: as an entry of a mapping, as a definition, as one in a list, as the body of a definition
under another name, or as an entry of the settings. It is refused if the name is blank, and else if the
SQL is. Where the text of the definition says the same, it can be supplied as well, and is only reported
in addition. -/
theorem attach_routes (r : Registry) (recursive : Bool) (name other sql : String) :
    let supplied := r.attach [.mapping [(name, .raw sql)]] recursive
    r.attach [.definition (.raw name sql)] recursive = supplied ∧
    r.attach [.list [.definition (.raw name sql)]] recursive = supplied ∧
    r.attach [.mapping [(name, .definition (.raw other sql))]] recursive = supplied ∧
    (∀ number, ∃ a, Settings.Entry.argument ⟨some name, some sql, none⟩ number = .ok a ∧
      r.attach [a] recursive = supplied) ∧
    supplied.outcome =
      (if Blank name.toList then .error .emptyName
      else if Blank sql.toList then .error (.nilBody name)
      else .ok ((r.markRecursive recursive).insert (.raw name sql))) ∧
    (trim name.toList = name.toList → ¬ Blank name.toList → '"' ∉ name.toList →
      trim sql.toList = sql.toList → ¬ Blank sql.toList → Text.Balanced sql.toList →
      let declared := r.attach [.text (Identifier.quote name ++ " AS (" ++ sql ++ ")")] recursive
      declared.outcome = .ok ((r.markRecursive recursive).insert (.raw name sql)) ∧
      declared.outcome = supplied.outcome ∧
      declared.events = .parsed name :: supplied.events) := by
  intro supplied
  have hmapping : (Argument.mapping [(name, .raw sql)]).Validates (.raw name sql) :=
    Argument.validates_mapping name rfl
  have hrenamed : (Argument.mapping [(name, .definition (.raw other sql))]).Validates
      (.raw name sql) := Argument.validates_mapping name rfl
  have houtcome := outcome_attach_raw hmapping r recursive
  refine ⟨?_,?_,?_,?_,houtcome,?_⟩
  · exact attach_eq_of_validates (Argument.validates_definition _) hmapping r recursive
  · exact attach_eq_of_validates (Argument.validates_list _) hmapping r recursive
  · exact attach_eq_of_validates hrenamed hmapping r recursive
  · intro number
    exact ⟨_,rfl,rfl⟩
  · intro hname hnamed hquote hsql hfilled hbalanced declared
    have hlegible : (Definition.raw name sql).Legible := by
      refine ⟨hnamed,hquote,?_,?_⟩ <;> rwa [Definition.text_raw]
    have hdeclared : declared =
        Attempt.emit (.parsed name) >>= fun _ => r.attach [.mapping [(name, .raw sql)]] recursive := by
      rw [← attach_own_declaration hmapping hlegible hname hsql,Definition.text_raw_eq]
    have hsame : declared.outcome = supplied.outcome := by
      rw [hdeclared,Attempt.outcome_bind]
      rfl
    refine ⟨?_,hsame,?_⟩
    · rw [hsame,houtcome,if_neg hnamed,if_neg hfilled]
    · rw [hdeclared]
      rfl

/-- A reserved word as the name, supplied as a text and in a list, and a blank body under it whose own name
is blank as well. -/
theorem attach_routes_reserved :
    let r : Registry := ⟨[.raw "a" "1"], false⟩
    let grown : Registry := ⟨[.raw "a" "1", .raw "select" "f(1)"], true⟩
    Identifier.quote "select" ++ " AS (" ++ "f(1)" ++ ")" = "\"select\" AS (f(1))" ∧
    (r.attach [.text (Identifier.quote "select" ++ " AS (" ++ "f(1)" ++ ")")] true).outcome =
      .ok grown ∧
    (r.attach [.list [.definition (.raw "select" "f(1)")]] true).outcome = .ok grown ∧
    (r.attach [.mapping [("select", .definition (.raw " " "\n"))]] true).outcome =
      .error (.nilBody "select") := by
  intro r grown
  obtain ⟨-,hlist,-,-,houtcome,htext⟩ := attach_routes r true "select" " " "f(1)"
  obtain ⟨-,-,hrenamed,-,hblank,-⟩ := attach_routes r true "select" " " "\n"
  have hgrown : (r.markRecursive true).insert (.raw "select" "f(1)") = grown := by
    simp [r, grown, markRecursive, insert, holds, Definition.same, Definition.raw]
  obtain ⟨hdeclared,-⟩ := htext (by decide) (by decide) (by decide) (by decide) (by decide)
    (by decide)
  rw [hgrown] at hdeclared houtcome
  refine ⟨by decide +kernel,hdeclared,?_,?_⟩
  · rw [hlist,houtcome]
    rfl
  · rw [hrenamed,hblank]
    rfl

end Registry
end WithClause
