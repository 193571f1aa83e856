import WithClause.Proofs.NamedExpression.Failure

/-! Where the parenthesis in front of a body is closed. If it never is, the text is refused, though not
always as unbalanced; if it is closed and the text is read, then only blanks can follow. -/
namespace WithClause.NamedExpression
open Text

/-- No beginning of the body closes the parenthesis in front of it. -/
def StaysOpen (body : List Char) : Prop := ∀ p, p <+: body → p.count ')' ≤ p.count '('

section Open
variable {input : String} {name body inner : List Char}

lemma staysOpen_iff : StaysOpen body ↔ ∃ depth, depthAfter 0 body = some depth := by
  simp only [depthAfter_eq_some_iff, Nat.zero_add, exists_and_left]
  constructor
  · intro h
    have hall := h body List.prefix_rfl
    exact ⟨h,body.count '(' - body.count ')',by omega⟩
  · rintro ⟨h,-⟩
    exact h

instance (body : List Char) : Decidable (StaysOpen body) :=
  decidable_of_iff _ (Option.isSome_iff_exists.trans staysOpen_iff.symm)

/-- The last parenthesis closes one of the body, so that without it one stays open. -/
lemma StaysOpen.count_lt (h : StaysOpen (inner ++ [')'])) :
    inner.count ')' < inner.count '(' := by
  have hall := h _ List.prefix_rfl
  simp only [List.count_append, List.count_singleton_self] at hall
  rw [List.count_singleton,if_neg (by decide)] at hall
  omega

lemma StaysOpen.not_blank (h : StaysOpen body) (hbody : ¬ Blank body)
    (henclosed : Encloses body inner) : ¬ Blank inner := by
  rcases henclosed with rfl | ⟨rfl,-⟩
  · have hmem : '(' ∈ inner := List.count_pos_iff.mp (Nat.zero_lt_of_lt h.count_lt)
    exact not_blank_of_mem hmem (by decide)
  · exact hbody

lemma StaysOpen.refused (h : StaysOpen body) (henclosed : Encloses body inner) :
    body = inner ∨ ¬ Balanced inner := by
  rcases henclosed with rfl | ⟨rfl,-⟩
  · exact .inr fun hbalanced => h.count_lt.ne' hbalanced.2
  · exact .inl rfl

/-- What follows a parenthesis that closes, whichever it closes, is enclosed by nothing. -/
lemma exists_encloses_iff :
    (∃ inner, Encloses body inner) ↔ (')' ∈ body → body.getLast? = some ')') := by
  constructor
  · rintro ⟨inner,rfl | ⟨rfl,hclose⟩⟩ hmem
    · exact List.getLast?_concat
    · exact absurd hmem hclose
  · intro h
    by_cases hclose : ')' ∈ body
    · obtain ⟨inner,hinner⟩ := List.getLast?_eq_some_iff.mp (h hclose)
      exact ⟨inner,.inl hinner⟩
    · exact ⟨body,.inr ⟨rfl,hclose⟩⟩

lemma parse_of_encloses (hhead : Opens (trim input.toList) name body) (hname : ¬ Blank name)
    (hbody : ¬ Blank body) (hopen : StaysOpen body) (henclosed : Encloses body inner) :
    parse input = .error (.unbalancedParentheses (String.ofList (trim inner))) :=
  (Fails.unbalanced hhead hname henclosed (hopen.not_blank hbody henclosed)
    (hopen.refused henclosed)).parse_eq

/-- A text with a name whose outer parenthesis is never closed is refused: as unbalanced exactly if
its last character is a parenthesis that closes or none in the body does, and as of another form
otherwise. -/
theorem parse_of_staysOpen {head : Head} (htext : trim input.toList = head.text ++ body)
    (hname : ¬ Blank head.name) (hbody : ¬ Blank body) (hopen : StaysOpen body) :
    ((∃ expression, parse input = .error (.unbalancedParentheses expression)) ↔
      (')' ∈ body → body.getLast? = some ')')) ∧
    (∀ inner, Encloses body inner →
      parse input = .error (.unbalancedParentheses (String.ofList (trim inner)))) ∧
    (')' ∈ body → body.getLast? ≠ some ')' → parse input = .error (.invalidFormat input)) := by
  have hhead : Opens (trim input.toList) head.name body := .inl ⟨head,htext,rfl⟩
  have hunbalanced : ∀ inner, Encloses body inner →
      parse input = .error (.unbalancedParentheses (String.ofList (trim inner))) :=
    fun inner henclosed => parse_of_encloses hhead hname hbody hopen henclosed
  have hinvalid : ')' ∈ body → body.getLast? ≠ some ')' →
      parse input = .error (.invalidFormat input) :=
    fun hclose hlast => (Fails.trailing hhead hname hclose hlast).parse_eq
  refine ⟨⟨?_,?_⟩,hunbalanced,hinvalid⟩
  · rintro ⟨expression,hexpression⟩ hclose
    by_contra hlast
    rw [hinvalid hclose hlast] at hexpression
    cases hexpression
  · intro hlast
    obtain ⟨inner,henclosed⟩ := exists_encloses_iff.mpr hlast
    exact ⟨_,hunbalanced inner henclosed⟩

lemma exists_head_of_readHead {cs : List Char} (h : readHead cs = some (name, body))
    (hname : ¬ Blank name) : ∃ head : Head, cs = head.text ++ body ∧ ¬ Blank head.name := by
  rcases readHead_eq_some_iff.mp h with ⟨head,htext,rfl⟩ | ⟨rfl,-⟩
  · exact ⟨head,htext,hname⟩
  · exact absurd (List.forall_mem_nil _) hname

/-- A body that ends with the parenthesis of a call, and one that goes on behind it. -/
theorem parse_of_staysOpen_nested :
    parse " t AS (f((1) " = .error (.unbalancedParentheses "f((1") ∧
      parse "t AS (f(1) + 2" = .error (.invalidFormat "t AS (f(1) + 2") := by
  have hends : readHead (trim " t AS (f((1) ".toList) = some (['t'], "f((1)".toList) := by
    decide +kernel
  have hgoesOn : readHead (trim "t AS (f(1) + 2".toList) = some (['t'], "f(1) + 2".toList) := by
    decide +kernel
  obtain ⟨head,htext,hname⟩ := exists_head_of_readHead hends (by decide)
  obtain ⟨head',htext',hname'⟩ := exists_head_of_readHead hgoesOn (by decide)
  obtain ⟨-,hunbalanced,-⟩ := parse_of_staysOpen htext hname (by decide) (by decide)
  obtain ⟨-,-,hinvalid⟩ := parse_of_staysOpen htext' hname' (by decide) (by decide)
  exact ⟨hunbalanced "f((1".toList (.inl rfl),hinvalid (by decide) (by decide)⟩

/-- The parentheses of a call are taken for the outer ones. -/
theorem not_unbalanced_of_call : ¬ ∀ (input : String) (head : Head) (body : List Char),
    trim input.toList = head.text ++ body → ¬ Blank head.name → ¬ Blank body → StaysOpen body →
      ∃ expression, parse input = .error (.unbalancedParentheses expression) := by
  intro h
  have hread : readHead (trim "t AS (SELECT count(*) FROM posts".toList) =
      some (['t'], "SELECT count(*) FROM posts".toList) := by decide +kernel
  obtain ⟨head,htext,hname⟩ := exists_head_of_readHead hread (by decide)
  obtain ⟨expression,hexpression⟩ := h _ head _ htext hname (by decide) (by decide)
  have hinvalid : Fails "t AS (SELECT count(*) FROM posts"
      (.invalidFormat "t AS (SELECT count(*) FROM posts") :=
    .trailing (.inl ⟨head,htext,rfl⟩) hname (by decide) (by decide)
  rw [hinvalid.parse_eq] at hexpression
  cases hexpression

end Open

section Suffix
variable {s t : String} {e : NamedExpression}

lemma not_blank_of_parse (h : parse s = .ok e) : ¬ Blank s.toList := by
  intro hblank
  rw [parse_of_blank hblank] at h
  cases h

/-- More text behind a text that is read moves into the body, and the head stays as it is. -/
lemma exists_opens_append (h : parse s = .ok e) (ht : ¬ Blank t.toList) :
    ∃ name inner gap, ¬ Blank name ∧ ¬ Blank inner ∧ Balanced inner ∧
      e.expression.toList = trim inner ∧
      Opens (trim (s ++ t).toList) name (inner ++ ')' :: (gap ++ trimEnd t.toList)) := by
  obtain ⟨f,htext,hf⟩ := parse_eq_ok_iff_form.mp h
  obtain ⟨gap,-,htrim⟩ := exists_trim_append (not_blank_of_parse h) ht
  refine ⟨f.head.name,f.body,gap,?_,?_,?_,hf.expression_eq,.inl ⟨f.head,?_,rfl⟩⟩
  · rw [← trim_eq_nil,← hf.name_eq]
    simpa using hf.name_ne
  · rw [← trim_eq_nil,← hf.expression_eq]
    simpa using hf.expression_ne
  · rw [← balanced_trim,← hf.expression_eq]
    exact hf.balanced
  · rw [String.toList_append,htrim,htext,Form.text]
    simp

/-- The depth falls below zero at the parenthesis that closed the text that was read, and no suffix
makes up for it. -/
lemma parse_append_of_closed (h : parse s = .ok e)
    (hclose : (trimEnd t.toList).getLast? = some ')') :
    ∃ expression, e.expression.toList <+: expression.toList ∧
      parse (s ++ t) = .error (.unbalancedParentheses expression) := by
  obtain ⟨u,hu⟩ := List.getLast?_eq_some_iff.mp hclose
  have ht : ¬ Blank t.toList := by
    rw [← trimEnd_eq_nil,hu]
    simp
  obtain ⟨name,inner,gap,hname,hinner,hbalanced,hexpression,hhead⟩ := exists_opens_append h ht
  have hencloses : Encloses (inner ++ ')' :: (gap ++ trimEnd t.toList))
      (inner ++ ')' :: (gap ++ u)) := .inl (by simp [hu])
  have hfilled : ∀ rest, ¬ Blank (')' :: rest) :=
    fun rest => not_blank_of_mem List.mem_cons_self (by decide)
  have hfilled' : ¬ Blank (inner ++ ')' :: (gap ++ u)) :=
    not_blank_of_mem (List.mem_append_right _ List.mem_cons_self) (by decide)
  obtain ⟨gap',-,htrim⟩ := exists_trim_append hinner (hfilled (gap ++ u))
  refine ⟨_,?_,(Fails.unbalanced hhead hname hencloses hfilled'
    (.inr (hbalanced.not_balanced_append_close _))).parse_eq⟩
  rw [String.toList_ofList,htrim,hexpression]
  exact List.prefix_append _ _

lemma parse_append_of_not_closed (h : parse s = .ok e) (ht : ¬ Blank t.toList)
    (hclose : (trimEnd t.toList).getLast? ≠ some ')') :
    parse (s ++ t) = .error (.invalidFormat (s ++ t)) := by
  obtain ⟨name,inner,gap,hname,-,-,-,hhead⟩ := exists_opens_append h ht
  have hlast : (inner ++ ')' :: (gap ++ trimEnd t.toList)).getLast? =
      (trimEnd t.toList).getLast? := by
    rw [← List.cons_append,← List.append_assoc]
    exact List.getLast?_append_of_ne_nil _ (mt trimEnd_eq_nil.mp ht)
  refine (Fails.trailing hhead hname (by simp) ?_).parse_eq
  rwa [hlast]

/-- A text that is read cannot be continued but by blanks: behind a suffix that ends with a
parenthesis that closes it is unbalanced, with the former expression in front, and of another form
behind any other. So two texts that are read are not read as one, whatever separates them. -/
theorem parse_append :
    (∀ (s t : String) (e : NamedExpression), parse s = .ok e → ¬ Blank t.toList →
      ((trimEnd t.toList).getLast? = some ')' →
        ∃ expression, e.expression.toList <+: expression.toList ∧
          parse (s ++ t) = .error (.unbalancedParentheses expression)) ∧
      ((trimEnd t.toList).getLast? ≠ some ')' →
        parse (s ++ t) = .error (.invalidFormat (s ++ t)))) ∧
    ∀ (s separator t : String) (e f : NamedExpression), parse s = .ok e → parse t = .ok f →
      ∀ g, parse (s ++ separator ++ t) ≠ .ok g := by
  constructor
  · intro s t e h ht
    exact ⟨parse_append_of_closed h,parse_append_of_not_closed h ht⟩
  · intro s separator t e f hs ht g hg
    have hrest : ¬ Blank (separator ++ t).toList := by
      obtain ⟨c,hc,hfilled⟩ := not_blank_iff.mp (not_blank_of_parse ht)
      rw [String.toList_append]
      exact not_blank_of_mem (List.mem_append_right _ hc) hfilled
    rw [String.append_assoc] at hg
    by_cases hclose : (trimEnd (separator ++ t).toList).getLast? = some ')'
    · obtain ⟨expression,-,herror⟩ := parse_append_of_closed hs hclose
      rw [herror] at hg
      cases hg
    · rw [parse_append_of_not_closed hs hrest hclose] at hg
      cases hg

/-- A second declaration behind a comma, and a semicolon alone. -/
theorem parse_append_declaration :
    parse "a AS (f(1)) " = .ok ⟨"a", "f(1)"⟩ ∧
      (∃ expression, "f(1)".toList <+: expression.toList ∧
        parse ("a AS (f(1)) " ++ ", b AS (2)\n") = .error (.unbalancedParentheses expression)) ∧
      parse ("a AS (f(1)) " ++ ";") = .error (.invalidFormat "a AS (f(1)) ;") ∧
      ∀ g, parse ("a AS (f(1)) " ++ "UNION ALL " ++ "\"b\" AS (2)") ≠ .ok g := by
  have ha : parse "a AS (f(1)) " = .ok ⟨"a", "f(1)"⟩ := by decide +kernel
  have hb : parse "\"b\" AS (2)" = .ok ⟨"b", "2"⟩ := by decide
  obtain ⟨hclosed,-⟩ := parse_append.1 _ ", b AS (2)\n" _ ha (by decide)
  obtain ⟨-,hother⟩ := parse_append.1 _ ";" _ ha (by decide)
  exact ⟨ha,hclosed (by decide),hother (by decide),parse_append.2 _ _ _ _ _ ha hb⟩

end Suffix

end WithClause.NamedExpression
