import WithClause.Proofs.Identifier.Bare
import WithClause.Proofs.NamedExpression.Grammar
import WithClause.Proofs.Text.Words

/-! For which texts the reader fails, and with which error. The classification of texts without a head
looks at words and parentheses alone, yet it never blames a text with a head for a missing `AS` or
missing parentheses. -/
namespace WithClause.NamedExpression
open Text

/-- A text that begins with a name and `AS (`, or with `AS (` alone and then an empty name. -/
def Opens (cs name body : List Char) : Prop :=
  (∃ h : Head, cs = h.text ++ body ∧ name = h.name) ∨ (name = [] ∧ IsNameless cs body)

def MentionsAs (cs : List Char) : Prop := ∃ w ∈ words cs, IsAs w

/-- A body encloses what is in front of its final parenthesis, or all of it if nothing in it closes. -/
def Encloses (body inner : List Char) : Prop := body = inner ++ [')'] ∨ body = inner ∧ ')' ∉ body

/-- The texts that are refused, with the reason. -/
inductive Fails (input : String) : Error → Prop
  | blank (h : Blank input.toList) : Fails input .emptyInput
  | noAs (hfilled : ¬ Blank input.toList) (has : ¬ MentionsAs input.toList) :
    Fails input (.missingAs input)
  | noParentheses (has : MentionsAs input.toList)
    (hmissing : '(' ∉ input.toList ∨ ')' ∉ input.toList)
    (hhead : ∀ name body, ¬ Opens (trim input.toList) name body) :
    Fails input (.missingParentheses input)
  | noHead (has : MentionsAs input.toList) (hopen : '(' ∈ input.toList)
    (hclose : ')' ∈ input.toList) (hhead : ∀ name body, ¬ Opens (trim input.toList) name body) :
    Fails input (.invalidFormat input)
  | noName {name body : List Char} (hhead : Opens (trim input.toList) name body)
    (hname : Blank name) : Fails input .emptyTableName
  | trailing {name body : List Char} (hhead : Opens (trim input.toList) name body)
    (hname : ¬ Blank name) (hclose : ')' ∈ body) (hlast : body.getLast? ≠ some ')') :
    Fails input (.invalidFormat input)
  | noExpression {name body inner : List Char} (hhead : Opens (trim input.toList) name body)
    (hname : ¬ Blank name) (hbody : Encloses body inner) (hinner : Blank inner) :
    Fails input .emptyExpression
  | unbalanced {name body inner : List Char} (hhead : Opens (trim input.toList) name body)
    (hname : ¬ Blank name) (hbody : Encloses body inner) (hinner : ¬ Blank inner)
    (hbad : body = inner ∨ ¬ Balanced inner) :
    Fails input (.unbalancedParentheses (String.ofList (trim inner)))

lemma IsGap.blank {w : List Char} (h : IsGap w) : Blank w :=
  fun c hc => isBlank_of_isSpacing (h.2 c hc)

lemma IsAs.filled {w : List Char} (h : IsAs w) : ∀ c ∈ w, isBlank c = false := by
  intro c hc
  apply Identifier.isBlank_of_startsBare
  rw [Identifier.startsBare,h.isAlpha c hc,Bool.true_or]

section Heads
variable {cs name body : List Char}

/-- A keyword is a word where a gap follows it. -/
lemma mem_words_keyword {k gap : List Char} (hk : IsAs k) (hgap : IsGap gap) (rest : List Char) :
    k ∈ words (k ++ (gap ++ rest)) := by
  rw [words_append_blank_append hgap.blank hgap.1,words_of_filled hk.filled hk.ne_nil]
  exact List.mem_append_left _ List.mem_cons_self

/-- The keyword of a head stands between gaps or at the beginning, so it is one of the words. -/
theorem Opens.mentionsAs (h : Opens cs name body) : MentionsAs cs := by
  rcases h with ⟨head,rfl,-⟩ | ⟨-,k,gap,hk,hgap,rfl⟩
  · refine ⟨head.keyword,?_,head.keyword_isAs⟩
    rw [head.text_append,words_append_blank_append head.before_isGap.blank head.before_isGap.1]
    exact List.mem_append_right _ (mem_words_keyword head.keyword_isAs head.after_isGap _)
  · exact ⟨k,mem_words_keyword hk hgap _,hk⟩

lemma Opens.open_mem (h : Opens cs name body) : '(' ∈ cs := by
  rcases h with ⟨head,rfl,-⟩ | ⟨-,k,gap,-,-,rfl⟩
  · simp [Head.text]
  · simp

lemma Opens.subset (h : Opens cs name body) : body ⊆ cs := by
  rcases h with ⟨head,rfl,-⟩ | ⟨-,k,gap,-,-,rfl⟩
  · exact List.subset_append_right _ _
  · intro c hc
    simp [hc]

theorem readHead_eq_some_iff_opens : readHead cs = some (name, body) ↔ Opens cs name body :=
  readHead_eq_some_iff

theorem readHead_eq_none_iff : readHead cs = none ↔ ∀ name body, ¬ Opens cs name body := by
  rw [Option.eq_none_iff_forall_ne_some]
  constructor
  · intro h name body hopens
    exact h (name, body) (readHead_eq_some_iff_opens.mpr hopens)
  · rintro h ⟨name,body⟩ hread
    exact h name body (readHead_eq_some_iff_opens.mp hread)

end Heads

section Bodies
variable {body inner : List Char}

lemma outerBody_eq_none_iff :
    outerBody body = none ↔ ')' ∈ body ∧ body.getLast? ≠ some ')' := by
  rw [outerBody]
  split_ifs with hlast hclose
  · simp [hlast]
  · simpa [hlast] using hclose
  · simpa [hlast] using hclose

lemma outerBody_eq_open_iff : outerBody body = some (inner, false) ↔ body = inner ∧ ')' ∉ body := by
  rw [outerBody]
  split_ifs with hlast hclose
  · have hmem : ')' ∈ body := List.mem_of_getLast? hlast
    simp [hmem]
  · have hmem : ')' ∈ body := by simpa using hclose
    simp [hmem]
  · have hmem : ')' ∉ body := by simpa using hclose
    simp [hmem]

lemma encloses_iff : Encloses body inner ↔ ∃ closed, outerBody body = some (inner, closed) := by
  rw [Encloses,← outerBody_eq_open_iff,← outerBody_eq_closed_iff,Bool.exists_bool,or_comm]

/-- Only what is closed and balanced is an expression. -/
lemma refused_iff {closed : Bool} (h : outerBody body = some (inner, closed)) :
    (closed && balanced (trim inner)) = false ↔ body = inner ∨ ¬ Balanced inner := by
  cases closed with
  | false => simp [(outerBody_eq_open_iff.mp h).1]
  | true =>
    have hne : body ≠ inner := by
      rw [outerBody_eq_closed_iff.mp h]
      simp
    rw [Bool.true_and,Bool.eq_false_iff,ne_eq,balanced_iff,balanced_trim]
    simp only [hne, false_or]

end Bodies

section Reading
variable {input : String} {name body : List Char}

/-- A text with a word is not blank. -/
lemma MentionsAs.not_blank {cs : List Char} (h : MentionsAs cs) : ¬ Blank cs := by
  intro hblank
  obtain ⟨w,hw,-⟩ := h
  rw [words_of_blank hblank] at hw
  cases hw

lemma hasAs_iff {cs : List Char} : hasAs cs = true ↔ MentionsAs cs := by
  simp [hasAs, MentionsAs, IsAs]

lemma misfit_of_not_mentionsAs (h : ¬ MentionsAs input.toList) :
    misfit input = .missingAs input := by
  rw [← hasAs_iff,Bool.not_eq_true] at h
  simp [misfit, h]

lemma misfit_of_not_mem (has : MentionsAs input.toList)
    (h : '(' ∉ input.toList ∨ ')' ∉ input.toList) : misfit input = .missingParentheses input := by
  rw [← hasAs_iff] at has
  rcases h with h | h <;> simp [misfit, has, h]

lemma misfit_of_mem (has : MentionsAs input.toList) (hopen : '(' ∈ input.toList)
    (hclose : ')' ∈ input.toList) : misfit input = .invalidFormat input := by
  rw [← hasAs_iff] at has
  simp [misfit, has, hopen, hclose]

lemma mentionsAs_trim {cs : List Char} : MentionsAs (trim cs) ↔ MentionsAs cs := by
  rw [MentionsAs,words_trim]
  rfl

/-- A text with a head has all that the classification looks for in front of its body. -/
lemma misfit_of_opens (h : Opens (trim input.toList) name body) (hclose : ')' ∈ body) :
    misfit input = .invalidFormat input :=
  misfit_of_mem (mentionsAs_trim.mp h.mentionsAs) (mem_of_mem_trim h.open_mem)
    (mem_of_mem_trim (h.subset hclose))

lemma parse_of_blank (h : Blank input.toList) : parse input = .error .emptyInput := by
  simp [parse, trim_eq_nil.mpr h]

lemma parse_of_not_opens (hfilled : ¬ Blank input.toList)
    (h : ∀ name body, ¬ Opens (trim input.toList) name body) :
    parse input = .error (misfit input) := by
  simp [parse, trim_eq_nil, hfilled, readHead_eq_none_iff.mpr h]

lemma Opens.ne_nil {cs : List Char} (h : Opens cs name body) : cs ≠ [] :=
  List.ne_nil_of_mem h.open_mem

section Headed
variable (hhead : Opens (trim input.toList) name body)
include hhead

lemma parse_of_blank_name (hname : Blank name) : parse input = .error .emptyTableName := by
  simp [parse, hhead.ne_nil, readHead_eq_some_iff_opens.mpr hhead, trim_eq_nil.mpr hname]

lemma parse_of_trailing (hname : ¬ Blank name) (hbody : outerBody body = none) :
    parse input = .error (misfit input) := by
  simp [parse, hhead.ne_nil, readHead_eq_some_iff_opens.mpr hhead, trim_eq_nil, hname, hbody]

lemma parse_of_blank_inner {inner : List Char} {closed : Bool} (hname : ¬ Blank name)
    (hbody : outerBody body = some (inner, closed)) (hinner : Blank inner) :
    parse input = .error .emptyExpression := by
  simp [parse, hhead.ne_nil, readHead_eq_some_iff_opens.mpr hhead, trim_eq_nil, hname, hbody,
    hinner]

lemma parse_of_inner {inner : List Char} {closed : Bool} (hname : ¬ Blank name)
    (hbody : outerBody body = some (inner, closed)) (hinner : ¬ Blank inner) :
    parse input = if closed && balanced (trim inner) then
        .ok ⟨String.ofList (trim name), String.ofList (trim inner)⟩
      else .error (.unbalancedParentheses (String.ofList (trim inner))) := by
  simp [parse, hhead.ne_nil, readHead_eq_some_iff_opens.mpr hhead, trim_eq_nil, hname, hbody,
    hinner]

end Headed

theorem Fails.parse_eq {e : Error} (h : Fails input e) : parse input = .error e := by
  cases h with
  | blank h => exact parse_of_blank h
  | noAs hfilled has =>
    have hhead : ∀ name body, ¬ Opens (trim input.toList) name body :=
      fun name body h => has (mentionsAs_trim.mp h.mentionsAs)
    rw [parse_of_not_opens hfilled hhead,misfit_of_not_mentionsAs has]
  | noParentheses has hmissing hhead =>
    rw [parse_of_not_opens has.not_blank hhead,misfit_of_not_mem has hmissing]
  | noHead has hopen hclose hhead =>
    rw [parse_of_not_opens has.not_blank hhead,misfit_of_mem has hopen hclose]
  | noName hhead hname => exact parse_of_blank_name hhead hname
  | trailing hhead hname hclose hlast =>
    rw [parse_of_trailing hhead hname (outerBody_eq_none_iff.mpr ⟨hclose,hlast⟩),
      misfit_of_opens hhead hclose]
  | noExpression hhead hname hbody hinner =>
    obtain ⟨closed,houter⟩ := encloses_iff.mp hbody
    exact parse_of_blank_inner hhead hname houter hinner
  | unbalanced hhead hname hbody hinner hbad =>
    obtain ⟨closed,houter⟩ := encloses_iff.mp hbody
    rw [parse_of_inner hhead hname houter hinner,(refused_iff houter).mpr hbad,
      if_neg Bool.false_ne_true]

/-- Whatever is not read is refused for one of the reasons. -/
theorem exists_ok_or_fails (input : String) : (∃ e, parse input = .ok e) ∨ ∃ e, Fails input e := by
  by_cases hblank : Blank input.toList
  · exact .inr ⟨_,.blank hblank⟩
  by_cases hheadless : ∀ name body, ¬ Opens (trim input.toList) name body
  · right
    by_cases has : MentionsAs input.toList
    · by_cases hboth : '(' ∈ input.toList ∧ ')' ∈ input.toList
      · exact ⟨_,.noHead has hboth.1 hboth.2 hheadless⟩
      · exact ⟨_,.noParentheses has (not_and_or.mp hboth) hheadless⟩
    · exact ⟨_,.noAs hblank has⟩
  push Not at hheadless
  obtain ⟨name,body,hhead⟩ := hheadless
  by_cases hname : Blank name
  · exact .inr ⟨_,.noName hhead hname⟩
  cases hbody : outerBody body with
  | none =>
    obtain ⟨hclose,hlast⟩ := outerBody_eq_none_iff.mp hbody
    exact .inr ⟨_,.trailing hhead hname hclose hlast⟩
  | some enclosed =>
    obtain ⟨inner,closed⟩ := enclosed
    have hencloses : Encloses body inner := encloses_iff.mpr ⟨closed,hbody⟩
    by_cases hinner : Blank inner
    · exact .inr ⟨_,.noExpression hhead hname hencloses hinner⟩
    cases hclosed : closed && balanced (trim inner) with
    | false => exact .inr ⟨_,.unbalanced hhead hname hencloses hinner ((refused_iff hbody).mp hclosed)⟩
    | true =>
      left
      rw [parse_of_inner hhead hname hbody hinner,hclosed,if_pos rfl]
      exact ⟨_,rfl⟩

theorem parse_eq_error_iff {e : Error} : parse input = .error e ↔ Fails input e := by
  constructor
  · intro h
    rcases exists_ok_or_fails input with ⟨n,hn⟩ | ⟨f,hf⟩
    · rw [hn] at h
      cases h
    · rw [hf.parse_eq] at h
      cases h
      exact hf
  · exact Fails.parse_eq

/-! Each error on its own: a text that is refused with it is refused by one rule, `invalidFormat` by one
of two. -/

theorem parse_eq_emptyInput_iff : parse input = .error .emptyInput ↔ Blank input.toList := by
  rw [parse_eq_error_iff]
  constructor
  · rintro ⟨h⟩
    exact h
  · exact .blank

theorem parse_eq_missingAs_iff : parse input = .error (.missingAs input) ↔
    ¬ Blank input.toList ∧ ¬ MentionsAs input.toList := by
  rw [parse_eq_error_iff]
  constructor
  · rintro (_ | ⟨hfilled,has⟩)
    exact ⟨hfilled,has⟩
  · rintro ⟨hfilled,has⟩
    exact .noAs hfilled has

theorem parse_eq_missingParentheses_iff : parse input = .error (.missingParentheses input) ↔
    MentionsAs input.toList ∧ ('(' ∉ input.toList ∨ ')' ∉ input.toList) ∧
      ∀ name body, ¬ Opens (trim input.toList) name body := by
  rw [parse_eq_error_iff]
  constructor
  · intro h
    cases h with
    | noParentheses has hmissing hhead => exact ⟨has,hmissing,hhead⟩
  · rintro ⟨has,hmissing,hhead⟩
    exact .noParentheses has hmissing hhead

theorem parse_eq_emptyTableName_iff : parse input = .error .emptyTableName ↔
    ∃ name body, Opens (trim input.toList) name body ∧ Blank name := by
  rw [parse_eq_error_iff]
  constructor
  · intro h
    cases h with
    | noName hhead hname => exact ⟨_,_,hhead,hname⟩
  · rintro ⟨name,body,hhead,hname⟩
    exact .noName hhead hname

theorem parse_eq_invalidFormat_iff : parse input = .error (.invalidFormat input) ↔
    MentionsAs input.toList ∧ '(' ∈ input.toList ∧ ')' ∈ input.toList ∧
      ((∀ name body, ¬ Opens (trim input.toList) name body) ∨
        ∃ name body, Opens (trim input.toList) name body ∧ ¬ Blank name ∧
          ')' ∈ body ∧ body.getLast? ≠ some ')') := by
  rw [parse_eq_error_iff]
  constructor
  · intro h
    cases h with
    | noHead has hopen hclose hhead => exact ⟨has,hopen,hclose,.inl hhead⟩
    | trailing hhead hname hclose hlast =>
      exact ⟨mentionsAs_trim.mp hhead.mentionsAs,mem_of_mem_trim hhead.open_mem,
        mem_of_mem_trim (hhead.subset hclose),.inr ⟨_,_,hhead,hname,hclose,hlast⟩⟩
  · rintro ⟨has,hopen,hclose,hhead | ⟨name,body,hhead,hname,hclose,hlast⟩⟩
    · exact .noHead has hopen hclose hhead
    · exact .trailing hhead hname hclose hlast

theorem parse_eq_emptyExpression_iff : parse input = .error .emptyExpression ↔
    ∃ name body inner, Opens (trim input.toList) name body ∧ ¬ Blank name ∧
      Encloses body inner ∧ Blank inner := by
  rw [parse_eq_error_iff]
  constructor
  · intro h
    cases h with
    | noExpression hhead hname hbody hinner => exact ⟨_,_,_,hhead,hname,hbody,hinner⟩
  · rintro ⟨name,body,inner,hhead,hname,hbody,hinner⟩
    exact .noExpression hhead hname hbody hinner

theorem parse_eq_unbalancedParentheses_iff {expression : String} :
    parse input = .error (.unbalancedParentheses expression) ↔
      ∃ name body inner, Opens (trim input.toList) name body ∧ ¬ Blank name ∧
        Encloses body inner ∧ ¬ Blank inner ∧ (body = inner ∨ ¬ Balanced inner) ∧
          expression = String.ofList (trim inner) := by
  rw [parse_eq_error_iff]
  constructor
  · intro h
    cases h with
    | unbalanced hhead hname hbody hinner hbad =>
      exact ⟨_,_,_,hhead,hname,hbody,hinner,hbad,rfl⟩
  · rintro ⟨name,body,inner,hhead,hname,hbody,hinner,hbad,rfl⟩
    exact .unbalanced hhead hname hbody hinner hbad

/-- No other error, and none that quotes another text than the input. -/
theorem ok_or_known_error (input : String) : (∃ e, parse input = .ok e) ∨
    ∃ error, parse input = .error error ∧
      (error ∈ [.emptyInput, .missingAs input, .missingParentheses input, .emptyTableName,
        .invalidFormat input, .emptyExpression] ∨
        ∃ expression, error = .unbalancedParentheses expression) := by
  rcases exists_ok_or_fails input with hok | ⟨error,h⟩
  · exact .inl hok
  · refine .inr ⟨error,h.parse_eq,?_⟩
    cases h <;> simp

end Reading

/-- Exactly when the reader fails with which error. A blank text is empty input; a text without the
word `AS` has no `AS`; one without a head lacks parentheses or has another form; one with a head has
no name, something behind its last parenthesis, no expression or no balance. There is no other
failure. -/
theorem failure_kinds (input : String) :
    (parse input = .error .emptyInput ↔ Blank input.toList) ∧
    (parse input = .error (.missingAs input) ↔
      ¬ Blank input.toList ∧ ¬ MentionsAs input.toList) ∧
    (parse input = .error (.missingParentheses input) ↔
      MentionsAs input.toList ∧ ('(' ∉ input.toList ∨ ')' ∉ input.toList) ∧
        ∀ name body, ¬ Opens (trim input.toList) name body) ∧
    (parse input = .error .emptyTableName ↔
      ∃ name body, Opens (trim input.toList) name body ∧ Blank name) ∧
    (parse input = .error (.invalidFormat input) ↔
      MentionsAs input.toList ∧ '(' ∈ input.toList ∧ ')' ∈ input.toList ∧
        ((∀ name body, ¬ Opens (trim input.toList) name body) ∨
          ∃ name body, Opens (trim input.toList) name body ∧ ¬ Blank name ∧
            ')' ∈ body ∧ body.getLast? ≠ some ')')) ∧
    (parse input = .error .emptyExpression ↔
      ∃ name body inner, Opens (trim input.toList) name body ∧ ¬ Blank name ∧
        Encloses body inner ∧ Blank inner) ∧
    (∀ expression, parse input = .error (.unbalancedParentheses expression) ↔
      ∃ name body inner, Opens (trim input.toList) name body ∧ ¬ Blank name ∧
        Encloses body inner ∧ ¬ Blank inner ∧ (body = inner ∨ ¬ Balanced inner) ∧
          expression = String.ofList (trim inner)) ∧
    ((∃ e, parse input = .ok e) ∨ ∃ error, parse input = .error error ∧
      (error ∈ [.emptyInput, .missingAs input, .missingParentheses input, .emptyTableName,
        .invalidFormat input, .emptyExpression] ∨
        ∃ expression, error = .unbalancedParentheses expression)) :=
  ⟨parse_eq_emptyInput_iff,parse_eq_missingAs_iff,parse_eq_missingParentheses_iff,
    parse_eq_emptyTableName_iff,parse_eq_invalidFormat_iff,parse_eq_emptyExpression_iff,
    fun _ => parse_eq_unbalancedParentheses_iff,ok_or_known_error input⟩

/-- The head of `"as" AS (`, in which the name is a word of its own but for its quotes. -/
def namedAs : Head where
  spelling := .doubleQuotes
  name := "as".toList
  permitted := show '"' ∉ "as".toList by decide
  before := " ".toList
  before_isGap := by decide
  keyword := "AS".toList
  keyword_isAs := by decide
  after := " ".toList
  after_isGap := by decide

theorem failure_kinds_trailing :
    parse "\"as\" AS (f(1) x" = .error (.invalidFormat "\"as\" AS (f(1) x") := by
  obtain ⟨-,-,-,-,hinvalid,-⟩ := failure_kinds "\"as\" AS (f(1) x"
  have has : MentionsAs "\"as\" AS (f(1) x".toList := ⟨"AS".toList,by decide,by decide⟩
  have hhead : Opens (trim "\"as\" AS (f(1) x".toList) "as".toList "f(1) x".toList :=
    .inl ⟨namedAs,by decide,rfl⟩
  exact hinvalid.mpr ⟨has,by decide,by decide,.inr ⟨_,_,hhead,by decide,by decide,by decide⟩⟩

end WithClause.NamedExpression
