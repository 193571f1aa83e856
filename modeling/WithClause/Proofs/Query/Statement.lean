import Mathlib.Data.List.Basic
import WithClause.Proofs.Identifier.Reader
import WithClause.Proofs.Text.Balance
import WithClause.Query.Sql

/-! Reading a statement back: its prologue with the declared names and the texts of the bodies, and
the SELECT behind it. -/
namespace WithClause
open Text

/-- The definitions of a WITH prologue, as names with the SQL they stand for. -/
structure Prologue where
  recursive : Bool
  definitions : List (String × String)
  deriving DecidableEq

/-- A statement without the queries it was made of. -/
structure Statement where
  prologue : Option Prologue
  select : String
  deriving DecidableEq

/-- What is inside the parentheses that surround a body, and what follows them. The body ends where
a parenthesis closes that was not opened in it. -/
def readBody : ℕ → List Char → Option (List Char × List Char)
  | _, [] => none
  | depth, c :: cs =>
    match depthAfter depth [c] with
    | none => some ([], cs)
    | some depth => (readBody depth cs).map fun r => (c :: r.1, r.2)

lemma readBody_append {depth final : ℕ} {cs : List Char} (h : depthAfter depth cs = some final)
    (rest : List Char) :
    readBody depth (cs ++ rest) = (readBody final rest).map fun r => (cs ++ r.1, r.2) := by
  induction cs generalizing depth with
  | nil =>
    cases h
    simp
  | cons c cs ih =>
    rw [← List.singleton_append,depthAfter_append,Option.bind_eq_some_iff] at h
    obtain ⟨next,hstep,hrest⟩ := h
    rw [List.cons_append,readBody,hstep]
    simp only [ih hrest, Option.map_map]
    rfl

theorem readBody_balanced {cs : List Char} (h : Balanced cs) (rest : List Char) :
    readBody 0 (cs ++ ')' :: rest) = some (cs, rest) := by
  have hclose : readBody 0 (')' :: rest) = some ([], rest) := by simp [readBody]
  rw [readBody_append (h.depthAfter_eq 0),hclose]
  simp

lemma readBody_length {depth : ℕ} {cs body rest : List Char}
    (h : readBody depth cs = some (body, rest)) : rest.length < cs.length := by
  induction cs generalizing depth body with
  | nil => cases h
  | cons c cs ih =>
    rw [readBody] at h
    rw [List.length_cons]
    split at h
    · cases h
      omega
    · obtain ⟨r,hr,heq⟩ := Option.map_eq_some_iff.mp h
      cases heq
      have := ih hr
      omega

/-- One declaration `name AS (body)`, and the rest. -/
def readDeclaration (cs : List Char) : Option ((String × String) × List Char) := do
  let (name, rest) ← Identifier.read cs
  let (sql, rest) ← readBody 0 (← rest.dropPrefix? " AS (".toList)
  return ((String.ofList name, String.ofList sql), rest)

lemma readDeclaration_length {cs rest : List Char} {d : String × String}
    (h : readDeclaration cs = some (d, rest)) : rest.length < cs.length := by
  simp only [readDeclaration, Option.bind_eq_bind, Option.bind_eq_some_iff, Option.pure_def] at h
  obtain ⟨⟨name,t⟩,hname,u,hopen,⟨sql,v⟩,hbody,heq⟩ := h
  cases heq
  obtain ⟨w,hw,-⟩ := List.dropPrefix?_eq_some_iff.mp hopen
  have hlength := congrArg List.length hw
  have := Identifier.read_length hname
  have := readBody_length hbody
  rw [List.length_append] at hlength
  dsimp only at *
  omega

/-- The declarations up to the first one that no comma follows, and the rest. -/
def readDeclarations (cs : List Char) : Option (List (String × String) × List Char) :=
  match _h : readDeclaration cs with
  | none => none
  | some (d, ',' :: ' ' :: rest) => (readDeclarations rest).map fun r => (d :: r.1, r.2)
  | some (d, rest) => some ([d], rest)
termination_by cs.length
decreasing_by
  have := readDeclaration_length _h
  simp only [List.length_cons] at this
  omega

/-- Whether the keyword stands in front of the declarations, and what follows it. -/
def readRecursive (cs : List Char) : Bool × List Char :=
  match cs.dropPrefix? "RECURSIVE ".toList with
  | none => (false, cs)
  | some rest => (true, rest)

/-- A statement is a prologue and a SELECT, or a SELECT alone. -/
def Statement.read (text : String) : Option Statement :=
  match text.toList.dropPrefix? "WITH ".toList with
  | none => some ⟨none, text⟩
  | some cs =>
    match readDeclarations (readRecursive cs).2 with
    | some (definitions, ' ' :: select) =>
      some ⟨some ⟨(readRecursive cs).1, definitions⟩, String.ofList select⟩
    | _ => none

/-- What a query says, apart from how its queries inside were built. -/
def Query.statement (q : Query) : Statement where
  prologue :=
    if q.ctes.definitions.isEmpty then none
    else some ⟨q.ctes.recursive, q.ctes.definitions.map fun d => (d.name, d.body.text)⟩
  select := q.toSelect.text

lemma read_quoteChars_space (name rest : List Char) :
    Identifier.read (Identifier.quoteChars name ++ ' ' :: rest) = some (name, ' ' :: rest) := by
  apply Identifier.read_quoteChars
  · rw [stops_cons]
    decide
  · rw [stops_cons]
    decide

lemma readDeclaration_text {d : Definition} (h : Balanced d.body.text.toList) (rest : List Char) :
    readDeclaration (d.text.toList ++ rest) = some ((d.name, d.body.text), rest) := by
  have htext : d.text.toList ++ rest = Identifier.quoteChars d.name.toList ++
      ' ' :: ("AS (".toList ++ (d.body.text.toList ++ ')' :: rest)) := by
    simp [d.text_eq, toList_declarationText]
  have hopen : (' ' :: ("AS (".toList ++ (d.body.text.toList ++ ')' :: rest))).dropPrefix?
      " AS (".toList = some (d.body.text.toList ++ ')' :: rest) := by
    simp [List.dropPrefix?]
  rw [htext,readDeclaration,read_quoteChars_space]
  simp only [Option.bind_eq_bind, Option.bind_some, hopen, readBody_balanced h,
    String.ofList_toList, Option.pure_def]

theorem readDeclarations_texts {ds : List Definition} (hne : ds ≠ [])
    (h : ∀ d ∈ ds, Balanced d.body.text.toList) (rest : List Char) :
    readDeclarations ((", ".intercalate (ds.map Definition.text)).toList ++ ' ' :: rest) =
      some (ds.map fun d => (d.name, d.body.text), ' ' :: rest) := by
  induction ds with
  | nil => exact absurd rfl hne
  | cons d ds ih =>
    have hd := h d List.mem_cons_self
    cases ds with
    | nil =>
      rw [List.map_singleton,String.intercalate_singleton,readDeclarations]
      rw [readDeclaration_text hd]
      rfl
    | cons e ds =>
      have htext : (", ".intercalate ((d :: e :: ds).map Definition.text)).toList ++ ' ' :: rest =
          d.text.toList ++ (',' :: ' ' ::
            ((", ".intercalate ((e :: ds).map Definition.text)).toList ++ ' ' :: rest)) := by
        simp
      rw [htext,readDeclarations,readDeclaration_text hd]
      simp only [ih (by simp) fun d hd => h d (List.mem_cons_of_mem _ hd)]
      rfl

lemma read_recursive (rest : List Char) :
    Identifier.read ("RECURSIVE ".toList ++ rest) = some ("RECURSIVE".toList, ' ' :: rest) := by
  have hword : ∀ c ∈ "ECURSIVE".toList, Identifier.continuesBare c = true := by
    rw [← List.all_eq_true]
    decide
  have hstop : Stops Identifier.continuesBare (' ' :: rest) := by
    rw [stops_cons]
    decide
  change Identifier.read ('R' :: ("ECURSIVE".toList ++ ' ' :: rest)) = _
  rw [Identifier.read,if_neg (by decide),if_pos (by decide),takeWhile_run hword hstop,
    dropWhile_run hword hstop]
  rfl

/-- The keyword is reserved, so no name is ever taken for it. -/
lemma dropPrefix?_recursive (name rest : List Char) :
    (Identifier.quoteChars name ++ ' ' :: rest).dropPrefix? "RECURSIVE ".toList = none := by
  cases h : (Identifier.quoteChars name ++ ' ' :: rest).dropPrefix? "RECURSIVE ".toList with
  | none => rfl
  | some tail =>
    obtain ⟨w,hw,hkeyword⟩ := List.dropPrefix?_eq_some_iff.mp h
    obtain rfl := eq_of_beq hkeyword
    have hread := read_quoteChars_space name rest
    rw [hw,read_recursive] at hread
    obtain ⟨rfl,-⟩ := Prod.mk.inj (Option.some.inj hread)
    rw [Identifier.quoteChars_of_not_isBare (by decide)] at hw
    exact absurd (List.cons.inj hw).1 (by decide)

def recursiveText (recursive : Bool) : List Char :=
  if recursive then "RECURSIVE ".toList else []

lemma readRecursive_text (recursive : Bool) (name rest : List Char) :
    readRecursive (recursiveText recursive ++ (Identifier.quoteChars name ++ ' ' :: rest)) =
      (recursive, Identifier.quoteChars name ++ ' ' :: rest) := by
  cases recursive with
  | false =>
    change readRecursive (Identifier.quoteChars name ++ ' ' :: rest) = _
    rw [readRecursive,dropPrefix?_recursive]
  | true =>
    rw [recursiveText,if_pos rfl,readRecursive,
      List.dropPrefix?_append_of_beq _ (beq_self_eq_true "RECURSIVE ".toList)]

/-- A prologue begins with the identifier of its first name. -/
lemma exists_texts_eq (d : Definition) (ds : List Definition) (tail : List Char) : ∃ rest,
    (", ".intercalate ((d :: ds).map Definition.text)).toList ++ tail =
      Identifier.quoteChars d.name.toList ++ ' ' :: rest := by
  cases ds with
  | nil =>
    refine ⟨"AS (".toList ++ (d.body.text.toList ++ ')' :: tail),?_⟩
    simp [d.text_eq, toList_declarationText]
  | cons e ds =>
    refine ⟨"AS (".toList ++ (d.body.text.toList ++ ')' :: ", ".toList ++
      (", ".intercalate ((e :: ds).map Definition.text)).toList ++ tail),?_⟩
    simp [d.text_eq, toList_declarationText]

lemma toList_text_of_cons {q : Query} {d : Definition} {ds : List Definition}
    (h : q.ctes.definitions = d :: ds) : q.text.toList =
      "WITH ".toList ++ (recursiveText q.ctes.recursive ++
        ((", ".intercalate ((d :: ds).map Definition.text)).toList ++
          ' ' :: q.toSelect.text.toList)) := by
  rw [q.text_eq,q.ctes.text_eq,h]
  cases q.ctes.recursive <;> simp [prologueText, recursiveText]

/-- Bodies whose parentheses are balanced by themselves. -/
def Registry.Balanced (r : Registry) : Prop :=
  ∀ d ∈ r.definitions, Text.Balanced d.body.text.toList

/-- The prologue of a query is found again, and so is the SELECT behind it. -/
theorem Statement.read_query {q : Query} (h : q.ctes.Balanced) :
    read q.text = some q.statement := by
  cases hds : q.ctes.definitions with
  | nil =>
    have htext : q.text = q.toSelect.text := by rw [q.text_eq,hds]; rfl
    have hselect : q.toSelect.text.toList.dropPrefix? "WITH ".toList = none := by
      simp [Select.text, List.dropPrefix?]
    rw [read,htext,hselect]
    simp [Query.statement, hds]
  | cons d ds =>
    have hkeyword := List.dropPrefix?_append_of_beq (recursiveText q.ctes.recursive ++
      ((", ".intercalate ((d :: ds).map Definition.text)).toList ++
        ' ' :: q.toSelect.text.toList)) (beq_self_eq_true "WITH ".toList)
    have hdeclarations := readDeclarations_texts (List.cons_ne_nil d ds) (hds ▸ h)
      q.toSelect.text.toList
    obtain ⟨rest,hrest⟩ := exists_texts_eq d ds (' ' :: q.toSelect.text.toList)
    rw [read,toList_text_of_cons hds,hkeyword]
    simp only [hrest, readRecursive_text]
    rw [← hrest]
    simp only [hdeclarations, Query.statement, hds, List.isEmpty_cons, String.ofList_toList]
    rfl

lemma Query.eq_of_statement_eq {q r : Query} (h : q.statement = r.statement) :
    q.toSelect.text = r.toSelect.text ∧
      q.ctes.definitions.map (fun d => (d.name, d.body.text)) =
        r.ctes.definitions.map (fun d => (d.name, d.body.text)) ∧
      (q.ctes.definitions ≠ [] → q.ctes.recursive = r.ctes.recursive) := by
  obtain ⟨hprologue,hselect⟩ := Statement.mk.inj h
  refine ⟨hselect,?_⟩
  cases hq : q.ctes.definitions with
  | nil =>
    cases hr : r.ctes.definitions with
    | nil => simp
    | cons e es => simp [hq, hr] at hprologue
  | cons d ds =>
    cases hr : r.ctes.definitions with
    | nil => simp [hq, hr] at hprologue
    | cons e es =>
      simp only [hq, hr, List.isEmpty_cons, Bool.false_eq_true, if_false, Option.some.injEq,
        Prologue.mk.injEq] at hprologue
      exact ⟨hprologue.2,fun _ => hprologue.1⟩

/-- One reader recovers what every query with balanced bodies declares and selects, whatever the
names are; so queries with the same text agree in all of it. -/
theorem Statement.read_text_of_balanced :
    (∀ q : Query, q.ctes.Balanced → read q.text = some q.statement) ∧
    ∀ q r : Query, q.ctes.Balanced → r.ctes.Balanced → q.text = r.text →
      q.toSelect.text = r.toSelect.text ∧
        q.ctes.definitions.map (fun d => (d.name, d.body.text)) =
          r.ctes.definitions.map (fun d => (d.name, d.body.text)) ∧
        (q.ctes.definitions ≠ [] → q.ctes.recursive = r.ctes.recursive) := by
  refine ⟨fun q h => read_query h,?_⟩
  intro q r hq hr htext
  apply Query.eq_of_statement_eq
  have hread := read_query hq
  rw [htext,read_query hr] at hread
  exact (Option.some.inj hread).symm

/-- Names that look like the keyword and like another declaration. -/
def Query.deceptive (body : Body) : Query where
  table := "t"
  ctes := { definitions := [⟨"RECURSIVE", .raw "f(1)"⟩, ⟨"a AS (1), \"b", body⟩] }

theorem Statement.read_text_deceptive :
    (Query.deceptive (.query (.ofTable "u"))).ctes.Balanced ∧
      read (Query.deceptive (.query (.ofTable "u"))).text = some
        ⟨some ⟨false, [("RECURSIVE", "f(1)"), ("a AS (1), \"b", "SELECT * FROM u")]⟩,
          "SELECT * FROM t"⟩ ∧
      (Query.deceptive (.query (.ofTable "u"))).text =
        (Query.deceptive (.raw "SELECT * FROM u")).text ∧
      (Query.deceptive (.query (.ofTable "u"))).ctes.definitions.map
          (fun d => (d.name, d.body.text)) =
        (Query.deceptive (.raw "SELECT * FROM u")).ctes.definitions.map
          (fun d => (d.name, d.body.text)) := by
  have hbuilt : (Query.deceptive (.query (.ofTable "u"))).ctes.Balanced := by
    simp only [Registry.Balanced, Query.deceptive, List.forall_mem_cons]
    exact ⟨by decide,by decide,by simp⟩
  have hraw : (Query.deceptive (.raw "SELECT * FROM u")).ctes.Balanced := by
    simp only [Registry.Balanced, Query.deceptive, List.forall_mem_cons]
    exact ⟨by decide,by decide,by simp⟩
  refine ⟨hbuilt,read_text_of_balanced.1 _ hbuilt,rfl,?_⟩
  exact (read_text_of_balanced.2 _ _ hbuilt hraw rfl).2.1

end WithClause
