import WithClause.Proofs.Definition.RoundTrip

/-! Names in backticks or in double quotes. Whatever stands between the quotes is read as the name, but for
the blanks at its ends. -/
namespace WithClause.NamedExpression
open Text

lemma isGap_space : IsGap [' '] := by decide

lemma isAs_upper : IsAs ['A', 'S'] := by decide

/-- A text `name AS (body)` with the name in one of its spellings. -/
def spelled (s : Spelling) (name body : String) : String :=
  String.ofList (s.write name.toList) ++ " AS (" ++ body ++ ")"

section Spelled
variable {s : Spelling} {name body : String} {e : NamedExpression}

def spelledForm (s : Spelling) (name body : List Char) (h : s.Permits name) : Form where
  head := {
    spelling := s
    name
    permitted := h
    before := [' ']
    before_isGap := isGap_space
    keyword := ['A', 'S']
    keyword_isAs := isAs_upper
    after := [' ']
    after_isGap := isGap_space }
  body

lemma toList_spelled (h : s.Permits name.toList) :
    (spelled s name body).toList = (spelledForm s name.toList body.toList h).text := by
  simp [spelled, Form.text, spelledForm, Head.text]

/-- The first character is a quote and the last one a parenthesis. -/
lemma trim_spelled (hs : s ≠ .bare) : trim (spelled s name body).toList =
    (spelled s name body).toList := by
  apply trim_eq_self
  · intro c hc
    cases s with
    | bare => exact absurd rfl hs
    | backticks =>
      obtain rfl : '\x60' = c := by simpa [spelled, Spelling.write] using hc
      decide
    | doubleQuotes =>
      obtain rfl : '"' = c := by simpa [spelled, Spelling.write] using hc
      decide
  · intro c hc
    have hlast : (spelled s name body).toList.getLast? = some ')' := by
      rw [spelled,String.toList_append]
      exact List.getLast?_concat
    obtain rfl := Option.mem_unique hc hlast
    decide

theorem parse_spelled_eq_ok_iff (hs : s ≠ .bare) (h : s.Permits name.toList) :
    parse (spelled s name body) = .ok e ↔
      ¬ Blank name.toList ∧ ¬ Blank body.toList ∧ Balanced body.toList ∧
        e = ⟨String.ofList (trim name.toList), String.ofList (trim body.toList)⟩ :=
  parse_eq_ok_iff_of_text_eq ((trim_spelled hs).trans (toList_spelled h))

lemma text_plain (body : String) :
    (Definition.raw "t" body).text = "t AS (" ++ body ++ ")" := by
  have hquote : Identifier.quote "t" ++ " AS (" = "t AS (" := by decide +kernel
  rw [Definition.text_raw_eq]
  exact congrArg (· ++ body ++ ")") hquote

/-- Whether a body is accepted does not depend on the name. -/
lemma parse_spelled_of_plain (hs : s ≠ .bare) (h : s.Permits name.toList)
    (hname : ¬ Blank name.toList) (he : parse ("t AS (" ++ body ++ ")") = .ok e) :
    parse (spelled s name body) = .ok ⟨String.ofList (trim name.toList), e.expression⟩ := by
  rw [← text_plain,parse_text_eq_ok_iff] at he
  obtain ⟨hlegible,rfl⟩ := he
  have hbody := hlegible.body_not_blank
  have hbalanced := hlegible.body_balanced
  rw [Definition.text_raw] at hbody hbalanced ⊢
  exact (parse_spelled_eq_ok_iff hs h).mpr ⟨hname,hbody,hbalanced,rfl⟩

lemma name_of_parse_spelled (hs : s ≠ .bare) (h : s.Permits name.toList)
    (he : parse (spelled s name body) = .ok e) : e.name.toList = trim name.toList := by
  obtain ⟨-,-,-,rfl⟩ := (parse_spelled_eq_ok_iff hs h).mp he
  exact String.toList_ofList

/-- A body that is accepted behind a bare name is accepted behind every quoted one that is not blank. The
name is then read without the blanks at its ends, so as it stands exactly if there are none, and
another one is read as the same exactly if it differs in nothing else. -/
theorem parse_quoted (hs : s ≠ .bare) (h : s.Permits name.toList) (hname : ¬ Blank name.toList)
    (he : parse ("t AS (" ++ body ++ ")") = .ok e) :
    parse (spelled s name body) = .ok ⟨String.ofList (trim name.toList), e.expression⟩ ∧
    ((∃ expression, parse (spelled s name body) = .ok ⟨name, expression⟩) ↔
      trim name.toList = name.toList) ∧
    ∀ (t : Spelling) (other body' : String) (d f : NamedExpression), t ≠ .bare →
      t.Permits other.toList → parse (spelled s name body) = .ok d →
      parse (spelled t other body') = .ok f →
      (d.name = f.name ↔ trim name.toList = trim other.toList) := by
  have hread := parse_spelled_of_plain hs h hname he
  refine ⟨hread,?_,?_⟩
  · constructor
    · rintro ⟨expression,hverbatim⟩
      exact (name_of_parse_spelled hs h hverbatim).symm
    · intro htrim
      rw [htrim,String.ofList_toList] at hread
      exact ⟨_,hread⟩
  · intro t other body' d f ht h' hd hf
    rw [← String.toList_inj,name_of_parse_spelled hs h hd,name_of_parse_spelled ht h' hf]

/-- A name that looks like the rest of a text and ends with a no-break space, the other quote as a name, and
blanks on either side of the same letter. -/
theorem parse_quoted_deceptive :
    parse (spelled .backticks "\" AS (\u00a0" "f(1)") = .ok ⟨"\" AS (", "f(1)"⟩ ∧
      (∃ expression, parse (spelled .doubleQuotes "\x60" "f(1)") = .ok ⟨"\x60", expression⟩) ∧
      ∀ d f, parse (spelled .backticks "a\u00a0" "f(1)") = .ok d →
        parse (spelled .doubleQuotes "\ta" "2") = .ok f → d.name = f.name := by
  have hbody : parse ("t AS (" ++ "f(1)" ++ ")") = .ok ⟨"t", "f(1)"⟩ := by decide +kernel
  have hdeceptive : Spelling.backticks.Permits "\" AS (\u00a0".toList :=
    show '\x60' ∉ "\" AS (\u00a0".toList by decide
  have hquote : Spelling.doubleQuotes.Permits "\x60".toList := show '"' ∉ "\x60".toList by decide
  have hbehind : Spelling.backticks.Permits "a\u00a0".toList :=
    show '\x60' ∉ "a\u00a0".toList by decide
  have hbefore : Spelling.doubleQuotes.Permits "\ta".toList := show '"' ∉ "\ta".toList by decide
  obtain ⟨hread,-,-⟩ := parse_quoted (by decide) hdeceptive (by decide) hbody
  obtain ⟨-,hverbatim,-⟩ := parse_quoted (by decide) hquote (by decide) hbody
  obtain ⟨-,-,hsame⟩ := parse_quoted (by decide) hbehind (by decide) hbody
  refine ⟨hread,hverbatim.mpr (by decide),?_⟩
  intro d f hd hf
  exact (hsame _ _ _ _ _ (by decide) hbefore hd hf).mpr (by decide)

/-- A blank in front of a quoted name is lost, and with it what tells two names apart. -/
theorem not_verbatim_of_blank :
    parse "\x60 a\x60 AS (SELECT 1)" = .ok ⟨"a", "SELECT 1"⟩ ∧
    (¬ ∀ (s : Spelling) (name body : String) (e : NamedExpression), s ≠ .bare →
      s.Permits name.toList → ¬ Blank name.toList → parse ("t AS (" ++ body ++ ")") = .ok e →
      ∃ expression, parse (spelled s name body) = .ok ⟨name, expression⟩) ∧
    ¬ ∀ (s : Spelling) (name other body : String) (e f : NamedExpression), s ≠ .bare →
      s.Permits name.toList → s.Permits other.toList → name ≠ other →
      parse (spelled s name body) = .ok e → parse (spelled s other body) = .ok f →
      e.name ≠ f.name := by
  have hplain : parse ("t AS (" ++ "SELECT 1" ++ ")") = .ok ⟨"t", "SELECT 1"⟩ := by decide +kernel
  have hblank : parse (spelled .backticks " a" "SELECT 1") = .ok ⟨"a", "SELECT 1"⟩ := by
    decide +kernel
  have hverbatim : parse (spelled .backticks "a" "SELECT 1") = .ok ⟨"a", "SELECT 1"⟩ := by
    decide +kernel
  have hpermitted : Spelling.backticks.Permits " a".toList := show '\x60' ∉ " a".toList by decide
  have hpermitted' : Spelling.backticks.Permits "a".toList := show '\x60' ∉ "a".toList by decide
  refine ⟨by decide +kernel,?_,?_⟩
  · intro h
    obtain ⟨expression,he⟩ := h _ _ _ _ (by decide) hpermitted (by decide) hplain
    have hname : "a" = " a" := congrArg NamedExpression.name (Except.ok.inj (hblank.symm.trans he))
    exact absurd hname (by decide)
  · intro h
    exact h _ _ _ _ _ _ (by decide) hpermitted hpermitted' (by decide) hblank hverbatim rfl

end Spelled

end WithClause.NamedExpression
