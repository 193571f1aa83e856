import WithClause.Proofs.Query.Statement

/-! The identifiers that a prologue declares. A body may be any text, so where a declaration ends is known
only from its body; the identifiers are then read off the text. -/
namespace WithClause

/-- The identifier at the beginning of a text as it is written there, and the rest. -/
def Identifier.readWritten (cs : List Char) : Option (String × List Char) :=
  (read cs).map fun r => (String.ofList (cs.take (cs.length - r.2.length)), r.2)

/-- What stands between the identifier of a body and that of the next one, if there are more. -/
def closingText (body : String) (bodies : List String) : String :=
  " AS (" ++ body ++ ")" ++ if bodies.isEmpty then "" else ", "

/-- The identifiers that stand in front of the bodies. -/
def readIdentifiers : List String → List Char → Option (List String)
  | [], cs => if cs = [] then some [] else none
  | body :: bodies, cs => do
    let (identifier, rest) ← Identifier.readWritten cs
    let rest ← rest.dropPrefix? (closingText body bodies).toList
    return identifier :: (← readIdentifiers bodies rest)

/-- The identifiers of a prologue, of which the bodies are known. Without bodies there is no prologue. -/
def declaredIdentifiers (bodies : List String) (text : String) : Option (List String) :=
  if text = "" then readIdentifiers bodies []
  else (text.toList.dropPrefix? "WITH ".toList).bind fun cs =>
    readIdentifiers bodies (readRecursive cs).2

lemma readWritten_quote (name : String) (rest : List Char) :
    Identifier.readWritten ((Identifier.quote name).toList ++ ' ' :: rest) =
      some (Identifier.quote name, ' ' :: rest) := by
  have hread := read_quoteChars_space name.toList rest
  rw [← Identifier.toList_quote] at hread
  rw [Identifier.readWritten,hread,Option.map_some,List.length_append,Nat.add_sub_cancel,
    List.take_left,String.ofList_toList]

lemma readWritten_closingText (name body : String) (bodies : List String) (rest : List Char) :
    Identifier.readWritten
        ((Identifier.quote name).toList ++ ((closingText body bodies).toList ++ rest)) =
      some (Identifier.quote name, (closingText body bodies).toList ++ rest) := by
  have hblank : ∃ cs, (closingText body bodies).toList = ' ' :: cs := by simp [closingText]
  obtain ⟨cs,hcs⟩ := hblank
  rw [hcs]
  exact readWritten_quote name (cs ++ rest)

lemma toList_texts_cons (d : Definition) (ds : List Definition) :
    (", ".intercalate ((d :: ds).map Definition.text)).toList =
      (Identifier.quote d.name).toList ++
        ((closingText d.body.text (ds.map fun d => d.body.text)).toList ++
          (", ".intercalate (ds.map Definition.text)).toList) := by
  cases ds <;> simp [Definition.text_eq, declarationText, closingText]

lemma readIdentifiers_texts (ds : List Definition) :
    readIdentifiers (ds.map fun d => d.body.text) (", ".intercalate (ds.map Definition.text)).toList =
      some (ds.map fun d => Identifier.quote d.name) := by
  induction ds with
  | nil => rfl
  | cons d ds ih =>
    have hclosing := List.dropPrefix?_append_of_beq
      (", ".intercalate (ds.map Definition.text)).toList
      (beq_self_eq_true (closingText d.body.text (ds.map fun d => d.body.text)).toList)
    rw [toList_texts_cons,List.map_cons,readIdentifiers,readWritten_closingText]
    simp only [hclosing, ih, Option.bind_eq_bind, Option.bind_some]
    rfl

/-- The identifiers that a prologue declares are the names of the definitions, each written as it must be
to be read as itself. -/
theorem Registry.declaredIdentifiers_text (r : Registry) :
    declaredIdentifiers (r.definitions.map fun d => d.body.text) r.text =
      some (r.definitions.map fun d => Identifier.quote d.name) := by
  cases hds : r.definitions with
  | nil =>
    have htext : r.text = "" := by rw [r.text_eq,hds]; rfl
    rw [htext]
    rfl
  | cons d ds =>
    have htext : r.text.toList = "WITH ".toList ++ (recursiveText r.recursive ++
        (", ".intercalate ((d :: ds).map Definition.text)).toList) := by
      rw [r.text_eq,hds]
      cases r.recursive <;> simp [prologueText, recursiveText]
    have hne : r.text ≠ "" := by
      intro h
      rw [h] at htext
      simp at htext
    obtain ⟨rest,hrest⟩ := exists_texts_eq d ds []
    rw [List.append_nil] at hrest
    rw [declaredIdentifiers,if_neg hne,htext,
      List.dropPrefix?_append_of_beq _ (beq_self_eq_true "WITH ".toList),Option.bind_some,hrest,
      readRecursive_text,← hrest]
    exact readIdentifiers_texts (d :: ds)

end WithClause
