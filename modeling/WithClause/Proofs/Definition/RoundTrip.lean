import WithClause.Proofs.Attempt
import WithClause.Proofs.Identifier.Bare
import WithClause.Proofs.NamedExpression.Grammar
import WithClause.Query.Sql

/-! Which definitions are read back from their own text, and as what. -/
namespace WithClause
open Text Identifier NamedExpression

lemma permits_of_isBare {name : List Char} (h : isBare name = true) :
    Spelling.bare.Permits name := by
  obtain ⟨c,cs,rfl,hc,hcs⟩ := exists_cons_of_isBare h
  exact ⟨c,cs,rfl,startsName_of_startsBare hc,fun d hd => continuesName_of_continuesBare (hcs d hd)⟩

/-- What a declaration puts in front of the body, for a name without a double quote. -/
def declarationHead (name : List Char) (h : '"' ∉ name) : Head where
  spelling := if isBare name then .bare else .doubleQuotes
  name := name
  permitted := by
    split
    · next hbare => exact permits_of_isBare hbare
    · exact h
  before := [' ']
  before_isGap := by decide
  keyword := ['A', 'S']
  keyword_isAs := by decide
  after := [' ']
  after_isGap := by decide

lemma declarationHead_text (name sql : String) (h : '"' ∉ name.toList) :
    (declarationText name sql).toList =
      (declarationHead name.toList h).text ++ (sql.toList ++ [')']) := by
  rw [toList_declarationText,Head.text_append]
  simp only [declarationHead, quoteChars]
  split
  · simp [Spelling.write]
  · simp [Spelling.write, enclose, double_of_not_mem h]

/-- A declaration has no blanks around it. -/
lemma trim_declarationText (name sql : String) :
    trim (declarationText name sql).toList = (declarationText name sql).toList := by
  rw [toList_declarationText]
  apply trim_eq_self
  · cases hbare : isBare name.toList with
    | false =>
      rw [quoteChars_of_not_isBare hbare]
      simp only [enclose, List.cons_append, List.head?_cons, Option.mem_some_iff, forall_eq']
      decide
    | true =>
      obtain ⟨c,cs,hname,hc,-⟩ := exists_cons_of_isBare hbare
      rw [quoteChars_of_isBare hbare,hname]
      simpa using isBlank_of_startsBare hc
  · simp only [← List.append_assoc, List.getLast?_concat, Option.mem_some_iff, forall_eq']
    decide

/-- Behind the first quote in a name its double follows, where a gap has to be. -/
lemma readHead_declarationText {name sql : String} (h : '"' ∈ name.toList) :
    readHead (declarationText name sql).toList = none := by
  obtain ⟨a,b,hname,ha⟩ := List.eq_append_cons_of_mem h
  have hbare : isBare name.toList = false := by
    by_contra hbare
    rw [Bool.not_eq_false] at hbare
    exact quote_not_mem_of_isBare hbare h
  have hread : ∀ rest, readName (enclose '"' (a ++ '"' :: b) ++ rest) =
      some (a, '"' :: (double '"' b ++ '"' :: rest)) := by
    intro rest
    apply readName_eq_some_iff.mpr
    refine ⟨.doubleQuotes,ha,?_,by simp⟩
    simp [enclose, Spelling.write, double_of_not_mem ha, double_cons]
  have hgap : ∀ rest, skipSpacing ('"' :: rest) = none := by
    intro rest
    rw [skipSpacing,if_neg (by decide)]
  have has : ∀ rest, skipAs ('"' :: rest) = none := by
    intro rest
    cases rest with
    | nil => rfl
    | cons c rest => rw [skipAs,if_neg (fun hc => absurd hc.1 (by decide))]
  have hnamed : readNamedAs (declarationText name sql).toList = none := by
    rw [toList_declarationText,quoteChars_of_not_isBare hbare,hname,readNamedAs,hread]
    simp [hgap]
  have hnameless : readNamelessAs (declarationText name sql).toList = none := by
    rw [toList_declarationText,quoteChars_of_not_isBare hbare,enclose,List.cons_append,
      List.cons_append,readNamelessAs,has]
    rfl
  rw [readHead,hnamed,hnameless]
  rfl

/-- Neither the name nor the body is blank, no double quote is in the name, and the parentheses of
the body are balanced. -/
structure Definition.Legible (d : Definition) : Prop where
  name_not_blank : ¬ Blank d.name.toList
  quote_not_mem : '"' ∉ d.name.toList
  body_not_blank : ¬ Blank d.body.text.toList
  body_balanced : Balanced d.body.text.toList

theorem parse_text_eq_ok_iff {d : Definition} {e : NamedExpression} :
    parse d.text = .ok e ↔ d.Legible ∧
      e = ⟨String.ofList (trim d.name.toList), String.ofList (trim d.body.text.toList)⟩ := by
  rw [d.text_eq]
  by_cases hq : '"' ∈ d.name.toList
  · rw [parse_eq_ok_iff_readHead,trim_declarationText,readHead_declarationText hq]
    constructor
    · rintro ⟨name,inner,h,-⟩
      cases h
    · rintro ⟨h,-⟩
      exact absurd hq h.quote_not_mem
  · have htext : trim (declarationText d.name d.body.text).toList =
        (Form.mk (declarationHead d.name.toList hq) d.body.text.toList).text := by
      rw [trim_declarationText,declarationHead_text _ _ hq]
      rfl
    rw [parse_eq_ok_iff_of_text_eq htext]
    constructor
    · rintro ⟨hname,hbody,hbalanced,rfl⟩
      exact ⟨⟨hname,hq,hbody,hbalanced⟩,rfl⟩
    · rintro ⟨h,rfl⟩
      exact ⟨h.name_not_blank,h.body_not_blank,h.body_balanced,rfl⟩

namespace Definition

/-- Nothing is lost in the text of a definition without blanks around its parts. -/
lemma Legible.parse_text {d : Definition} (h : d.Legible)
    (hname : trim d.name.toList = d.name.toList)
    (hbody : trim d.body.text.toList = d.body.text.toList) :
    parse d.text = .ok ⟨d.name, d.body.text⟩ := by
  rw [parse_text_eq_ok_iff.mpr ⟨h,rfl⟩,hname,hbody,String.ofList_toList,String.ofList_toList]

theorem outcome_read (input : String) :
    (read input).outcome = NamedExpression.toDefinition <$> parse input := by
  rw [read,Attempt.outcome_map,NamedExpression.read,Attempt.outcome_bind,Attempt.outcome_ofExcept]
  cases parse input <;> rfl

theorem outcome_read_text {d e : Definition} : (read d.text).outcome = .ok e ↔
    d.Legible ∧
      e = raw (String.ofList (trim d.name.toList)) (String.ofList (trim d.body.text.toList)) := by
  rw [outcome_read]
  constructor
  · intro h
    cases hparse : parse d.text with
    | error error => rw [hparse] at h; cases h
    | ok expression =>
      rw [hparse] at h
      obtain ⟨hlegible,rfl⟩ := parse_text_eq_ok_iff.mp hparse
      cases h
      exact ⟨hlegible,rfl⟩
  · rintro ⟨hlegible,rfl⟩
    rw [parse_text_eq_ok_iff.mpr ⟨hlegible,rfl⟩]
    rfl

lemma text_raw (name sql : String) : (raw name sql).body.text = sql := by
  rw [raw,Body.text]

lemma text_raw_eq (name sql : String) :
    (raw name sql).text = Identifier.quote name ++ " AS (" ++ sql ++ ")" := by
  rw [text_eq,text_raw]
  rfl

/-- Only a raw body and texts without blanks around them come back as they were. -/
theorem outcome_read_text_self {d : Definition} : (read d.text).outcome = .ok d ↔
    ∃ name sql, d = raw name sql ∧ d.Legible ∧
      trim name.toList = name.toList ∧ trim sql.toList = sql.toList := by
  rw [outcome_read_text]
  constructor
  · rintro ⟨hlegible,hself⟩
    obtain ⟨name,body⟩ := d
    obtain ⟨hname,hbody⟩ := Definition.mk.inj hself
    have hsql : body.text = String.ofList (trim body.text.toList) := by
      calc body.text = (Body.raw (String.ofList (trim body.text.toList))).text :=
            congrArg Body.text hbody
        _ = String.ofList (trim body.text.toList) := by rw [Body.text]
    refine ⟨name,body.text,?_,hlegible,?_,?_⟩
    · rw [raw,Definition.mk.injEq]
      exact ⟨rfl,hbody.trans (congrArg Body.raw hsql.symm)⟩
    · simpa using (congrArg String.toList hname).symm
    · simpa using (congrArg String.toList hsql).symm
  · rintro ⟨name,sql,rfl,hlegible,hname,hsql⟩
    refine ⟨hlegible,?_⟩
    change raw name sql = raw (String.ofList (trim name.toList)) _
    rw [text_raw,hname,hsql,String.ofList_toList,String.ofList_toList]

/-- Reading the text of a definition succeeds exactly for the legible ones, with the trimmed
name and the trimmed SQL of the body; so it gives the definition itself exactly for trimmed
raw ones. A double quote in the name, which a name in backticks may have, is never read back. -/
theorem read_own_text :
    (∀ d : Definition, (∃ e, (read d.text).outcome = .ok e) ↔ d.Legible) ∧
    (∀ d e : Definition, (read d.text).outcome = .ok e →
      e = raw (String.ofList (trim d.name.toList)) (String.ofList (trim d.body.text.toList))) ∧
    (∀ d : Definition, (read d.text).outcome = .ok d ↔ ∃ name sql, d = raw name sql ∧
      d.Legible ∧ trim name.toList = name.toList ∧ trim sql.toList = sql.toList) ∧
    (∀ d : Definition, '"' ∈ d.name.toList → ∃ error, (read d.text).outcome = .error error) ∧
    ∃ input, ∃ d : Definition, (read input).outcome = .ok d ∧ '"' ∈ d.name.toList := by
  refine ⟨?_,?_,fun d => outcome_read_text_self,?_,?_⟩
  · intro d
    constructor
    · rintro ⟨e,he⟩
      exact (outcome_read_text.mp he).1
    · intro hlegible
      exact ⟨_,outcome_read_text.mpr ⟨hlegible,rfl⟩⟩
  · intro d e he
    exact (outcome_read_text.mp he).2
  · intro d hq
    cases hread : (read d.text).outcome with
    | error error => exact ⟨error,rfl⟩
    | ok e => exact absurd hq (outcome_read_text.mp hread).1.quote_not_mem
  · exact ⟨"\x60\"\x60 AS (1)",raw "\"" "1",rfl,by decide⟩

/-- A name that has to be quoted, with blanks to trim on both sides of both parts. -/
theorem read_own_text_padded :
    (raw " as " " f(1)\n").Legible ∧
      (read (raw " as " " f(1)\n").text).outcome = .ok (raw "as" "f(1)") ∧
      '"' ∈ (raw "a\"" "1").name.toList ∧
      ∃ error, (read (raw "a\"" "1").text).outcome = .error error := by
  have hlegible : (raw " as " " f(1)\n").Legible := by
    refine ⟨by decide,by decide,?_,?_⟩
    · rw [text_raw]
      decide
    · rw [text_raw]
      decide
  obtain ⟨e,he⟩ := (read_own_text.1 _).mpr hlegible
  have hself := read_own_text.2.1 _ _ he
  rw [text_raw] at hself
  refine ⟨hlegible,?_,by decide,read_own_text.2.2.2.1 _ (by decide)⟩
  rw [he,hself]
  rfl

end Definition
end WithClause
