import WithClause.Proofs.NamedExpression.Head
import WithClause.Proofs.Text.Balance

/-! The texts `name AS (body)` that are read as a name with its expression, and no others. -/
namespace WithClause.NamedExpression
open Text

/-- A text of the form, taken apart. The parentheses around the body are not part of it. -/
@[ext] structure Form where
  head : Head
  body : List Char

namespace Form

def text (f : Form) : List Char := f.head.text ++ (f.body ++ [')'])

/-- The trimmed parts of the form, which must not be empty. -/
structure Denotes (f : Form) (name expression : String) : Prop where
  name_eq : name.toList = trim f.head.name
  name_ne : name ≠ ""
  expression_eq : expression.toList = trim f.body
  expression_ne : expression ≠ ""
  balanced : Balanced expression.toList

theorem eq_of_text_eq {f g : Form} (h : f.text = g.text) : f = g := by
  obtain ⟨hhead,hbody⟩ := Head.eq_of_text_append h
  exact Form.ext hhead (List.append_cancel_right hbody)

end Form

lemma outerBody_eq_closed_iff {body inner : List Char} :
    outerBody body = some (inner, true) ↔ body = inner ++ [')'] := by
  rw [outerBody]
  split
  · next hlast =>
    obtain ⟨cs,rfl⟩ := List.getLast?_eq_some_iff.mp hlast
    simp
  · next hlast =>
    constructor
    · intro h
      split at h <;> simp at h
    · rintro rfl
      simp at hlast

/-- What a successful reading has found. -/
theorem parse_eq_ok_iff_readHead {input : String} {e : NamedExpression} :
    parse input = .ok e ↔ ∃ name inner, readHead (trim input.toList) = some (name, inner ++ [')']) ∧
      trim name ≠ [] ∧ trim inner ≠ [] ∧ Balanced (trim inner) ∧
        e = ⟨String.ofList (trim name), String.ofList (trim inner)⟩ := by
  constructor
  · intro h
    simp only [parse] at h
    split_ifs at h with hempty
    split at h
    · cases h
    · next name body hhead =>
      split_ifs at h with hname
      split at h
      · cases h
      · next inner closed hbody =>
        split_ifs at h with hinner hbalanced
        cases h
        obtain ⟨hclosed,hb⟩ := Bool.and_eq_true_iff.mp hbalanced
        subst hclosed
        obtain rfl := outerBody_eq_closed_iff.mp hbody
        exact ⟨name,inner,hhead,by simpa using hname,by simpa using hinner,balanced_iff.mp hb,rfl⟩
  · rintro ⟨name,inner,hhead,hname,hinner,hb,rfl⟩
    have hempty : trim input.toList ≠ [] := by
      intro hnil
      rw [hnil] at hhead
      cases hhead
    have hbody := outerBody_eq_closed_iff.mpr (rfl : inner ++ [')'] = inner ++ [')'])
    have hbalanced := balanced_iff.mpr hb
    simp [parse, hempty, hhead, hname, hbody, hinner, hbalanced]

/-- A text of a form is read if its parts are not blank and its body is balanced. -/
theorem parse_eq_ok_iff_of_text_eq {input : String} {f : Form} {e : NamedExpression}
    (h : trim input.toList = f.text) : parse input = .ok e ↔
      ¬ Blank f.head.name ∧ ¬ Blank f.body ∧ Balanced f.body ∧
        e = ⟨String.ofList (trim f.head.name), String.ofList (trim f.body)⟩ := by
  rw [parse_eq_ok_iff_readHead,h,Form.text,f.head.readHead_text]
  constructor
  · rintro ⟨name,inner,hread,hname,hinner,hbalanced,rfl⟩
    obtain ⟨rfl,hbody⟩ := Prod.mk.inj (Option.some.inj hread)
    obtain rfl := List.append_cancel_right hbody
    exact ⟨mt trim_eq_nil.mpr hname,mt trim_eq_nil.mpr hinner,balanced_trim.mp hbalanced,rfl⟩
  · rintro ⟨hname,hbody,hbalanced,rfl⟩
    exact ⟨_,_,rfl,mt trim_eq_nil.mp hname,mt trim_eq_nil.mp hbody,balanced_trim.mpr hbalanced,rfl⟩

theorem parse_eq_ok_iff_form {input name expression : String} :
    parse input = .ok ⟨name, expression⟩ ↔
      ∃ f : Form, trim input.toList = f.text ∧ f.Denotes name expression := by
  rw [parse_eq_ok_iff_readHead]
  constructor
  · rintro ⟨n,inner,hhead,hname,hinner,hb,he⟩
    cases he
    rcases readHead_eq_some_iff.mp hhead with ⟨h,htext,rfl⟩ | ⟨rfl,-⟩
    · refine ⟨⟨h,inner⟩,htext,?_,?_,?_,?_,?_⟩
      · exact String.toList_ofList
      · simpa using hname
      · exact String.toList_ofList
      · simpa using hinner
      · simpa using hb
    · exact absurd rfl hname
  · rintro ⟨f,htext,hf⟩
    refine ⟨f.head.name,f.body,?_,?_,?_,?_,?_⟩
    · rw [htext,Form.text,f.head.readHead_text]
    · rw [← hf.name_eq]
      simpa using hf.name_ne
    · rw [← hf.expression_eq]
      simpa using hf.expression_ne
    · rw [← hf.expression_eq]
      exact hf.balanced
    · rw [← hf.name_eq,← hf.expression_eq,String.ofList_toList,String.ofList_toList]

/-- Exactly the trimmed texts of the form with a name, a body and balance are read, and a text has
at most one form. -/
theorem parse_eq_ok_iff :
    (∀ input name expression, parse input = .ok ⟨name, expression⟩ ↔
      ∃ f : Form, trim input.toList = f.text ∧ f.Denotes name expression) ∧
    ∀ (input : String) (f g : Form),
      trim input.toList = f.text → trim input.toList = g.text → f = g := by
  constructor
  · intro input name expression
    exact parse_eq_ok_iff_form
  · intro input f g hf hg
    rw [hf] at hg
    exact Form.eq_of_text_eq hg

/-- A name that looks like the rest of a head, in backticks. -/
def deceptiveForm : Form where
  head := {
    spelling := .backticks
    name := " AS (".toList
    permitted := show '\x60' ∉ " AS (".toList by decide
    before := "\t ".toList
    before_isGap := by decide
    keyword := "aS".toList
    keyword_isAs := by decide
    after := "\n".toList
    after_isGap := by decide }
  body := " f(1) ".toList

theorem parse_deceptiveForm :
    trim " \x60 AS (\x60\t aS\n( f(1) )".toList = deceptiveForm.text ∧
      parse " \x60 AS (\x60\t aS\n( f(1) )" = .ok ⟨"AS (", "f(1)"⟩ ∧
      ∀ f : Form, trim " \x60 AS (\x60\t aS\n( f(1) )".toList = f.text → f = deceptiveForm := by
  have htext : trim " \x60 AS (\x60\t aS\n( f(1) )".toList = deceptiveForm.text := by decide
  have hdenotes : deceptiveForm.Denotes "AS (" "f(1)" :=
    ⟨by decide,by decide,by decide,by decide,by decide⟩
  refine ⟨htext,(parse_eq_ok_iff.1 _ _ _).mpr ⟨deceptiveForm,htext,hdenotes⟩,?_⟩
  intro f hf
  exact parse_eq_ok_iff.2 _ _ _ hf htext

end WithClause.NamedExpression
