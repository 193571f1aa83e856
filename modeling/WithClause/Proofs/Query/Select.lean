import WithClause.Proofs.Value.Numeral
import WithClause.Select

/-! The text of a SELECT statement, part by part: which clauses each part is made of, and properties that
the text has because its parts have them. -/
namespace WithClause
open Text

namespace Clause

def isSort (c : Clause) : Bool :=
  match c.kind with
  | .sort _ => true
  | _ => false

/-- The column that a clause sorts by. -/
def sortColumn? (c : Clause) : Option String :=
  match c.kind, c.conditions with
  | .sort _, first :: _ => some first.column
  | _, _ => none

/-- A clause that sorts by a column has it in its first condition. -/
lemma exists_of_mem_sortColumn? {c : Clause} {t : String} (h : t ∈ c.sortColumn?) :
    ∃ direction first rest, c = ⟨.sort direction, first :: rest⟩ ∧ first.column = t := by
  obtain ⟨kind,conditions⟩ := c
  cases kind with
  | sort direction =>
    cases conditions with
    | nil => cases h
    | cons first rest =>
      cases h
      exact ⟨direction,first,rest,rfl,rfl⟩
  | filter => cases h
  | limit n => cases h
  | offset n => cases h

lemma filterTexts_of_not_isFilter {c : Clause} (h : c.isFilter = false) : c.filterTexts = [] := by
  obtain ⟨kind,conditions⟩ := c
  cases kind with
  | filter => cases h
  | sort direction => rfl
  | limit n => rfl
  | offset n => rfl

lemma sortText?_of_not_isSort {c : Clause} (h : c.isSort = false) : c.sortText? = none := by
  obtain ⟨kind,conditions⟩ := c
  cases kind with
  | sort direction => cases h
  | filter => rfl
  | limit n => rfl
  | offset n => rfl

/-- A filter is neither a sort nor a limit nor an offset. -/
lemma eq_none_of_isFilter {c : Clause} (h : c.isFilter = true) :
    c.sortText? = none ∧ c.limit? = none ∧ c.offset? = none := by
  obtain ⟨kind,conditions⟩ := c
  cases kind with
  | filter => exact ⟨rfl,rfl,rfl⟩
  | sort direction => cases h
  | limit n => cases h
  | offset n => cases h

end Clause

namespace Select

lemma filterTexts_eq (s : Select) :
    s.filterTexts = (s.clauses.filter Clause.isFilter).flatMap Clause.filterTexts := by
  rw [filterTexts]
  induction s.clauses with
  | nil => rfl
  | cons c cs ih =>
    rw [List.flatMap_cons,ih]
    cases h : c.isFilter with
    | true => rw [List.filter_cons_of_pos h,List.flatMap_cons]
    | false => simp [h, Clause.filterTexts_of_not_isFilter h]

lemma sortTexts_eq (s : Select) :
    s.sortTexts = (s.clauses.filter Clause.isSort).filterMap Clause.sortText? := by
  rw [sortTexts,List.filterMap_filter]
  congr 1
  funext c
  cases h : c.isSort with
  | true => rfl
  | false => exact Clause.sortText?_of_not_isSort h

/-- What stands in front of the conditions. -/
def opening (s : Select) : String := "SELECT " ++ s.columnsText ++ " FROM " ++ s.table

/-- What stands behind the conditions. -/
def closing (s : Select) : String :=
  part " ORDER BY " ", " s.sortTexts ++ countText " LIMIT " s.limit?
    ++ countText " OFFSET " s.offset?

lemma text_eq (s : Select) :
    s.text = s.opening ++ part " WHERE " " AND " s.filterTexts ++ s.closing := by
  simp only [text, opening, closing, String.append_assoc]

end Select

/-- Letters, digits and what else a SELECT statement writes between its parts. -/
def Text.isPlain (c : Char) : Bool := isNumeral c || c == ' ' || c == ',' || c == '*'

/-- A property of texts that plain ones have and that goes over to what is put together. -/
structure Compositional (P : List Char → Prop) : Prop where
  plain {cs : List Char} (h : cs.all isPlain = true) : P cs
  append {xs ys : List Char} (hx : P xs) (hy : P ys) : P (xs ++ ys)

namespace Compositional

variable {P : List Char → Prop} (hP : Compositional P)
include hP

lemma numeral {cs : List Char} (h : Numeral cs) : P cs := by
  apply hP.plain
  rw [List.all_eq_true]
  intro c hc
  simp [isPlain, h c hc]

lemma intercalate {separator : String} {ts : List String} (hs : P separator.toList)
    (h : ∀ t ∈ ts, P t.toList) : P (separator.intercalate ts).toList := by
  induction ts with
  | nil => exact hP.plain rfl
  | cons t ts ih =>
    obtain ⟨ht,hts⟩ := List.forall_mem_cons.mp h
    cases ts with
    | nil => simpa using ht
    | cons u us =>
      simp only [String.intercalate_cons_cons, String.toList_append]
      exact hP.append (hP.append ht hs) (ih hts)

lemma part {opening separator : String} {ts : List String} (ho : P opening.toList)
    (hs : P separator.toList) (h : ∀ t ∈ ts, P t.toList) :
    P (Select.part opening separator ts).toList := by
  cases ts with
  | nil => exact hP.plain rfl
  | cons t ts =>
    rw [Select.part,String.toList_append]
    · exact hP.append ho (hP.intercalate hs h)
    · simp

lemma countText {opening : String} (ho : P opening.toList) (n : Option UInt64) :
    P (Select.countText opening n).toList := by
  cases n with
  | none => exact hP.plain rfl
  | some n =>
    rw [Select.countText,String.toList_append]
    exact hP.append ho (hP.numeral (numeral_repr _))

lemma sortText? {c : Clause} {t : String} (hcolumn : ∀ u ∈ c.sortColumn?, P u.toList)
    (ht : c.sortText? = some t) : P t.toList := by
  obtain ⟨kind,conditions⟩ := c
  cases kind with
  | sort direction =>
    cases conditions with
    | nil => cases ht
    | cons first conditions =>
      cases ht
      simp only [String.toList_append]
      refine hP.append (hP.append (hcolumn _ rfl) (hP.plain rfl)) (hP.plain ?_)
      cases direction <;> decide
  | filter => cases ht
  | limit n => cases ht
  | offset n => cases ht

lemma opening {s : Select} (htable : P s.table.toList) (hcolumns : ∀ t ∈ s.columns, P t.toList) :
    P s.opening.toList := by
  have hlist : P s.columnsText.toList := by
    rw [Select.columnsText]
    split
    · exact hP.plain (by decide)
    · exact hP.intercalate (hP.plain (by decide)) hcolumns
  simp only [Select.opening, String.toList_append]
  exact hP.append (hP.append (hP.append (hP.plain (by decide)) hlist) (hP.plain (by decide))) htable

lemma closing {s : Select} (h : ∀ c ∈ s.clauses, ∀ t ∈ c.sortColumn?, P t.toList) :
    P s.closing.toList := by
  have hsort : ∀ t ∈ s.sortTexts, P t.toList := by
    intro t ht
    obtain ⟨c,hc,hct⟩ := List.mem_filterMap.mp ht
    exact hP.sortText? (h c hc) hct
  simp only [Select.closing, String.toList_append]
  exact hP.append (hP.append (hP.part (hP.plain (by decide)) (hP.plain (by decide)) hsort)
    (hP.countText (hP.plain (by decide)) _)) (hP.countText (hP.plain (by decide)) _)

end Compositional

end WithClause
