import Mathlib.Tactic.Common
import WithClause.Proofs.Identifier.Bare

/-! Reading an SQL identifier from the beginning of a text: a bare word, or a text in double quotes
in which two quotes stand for one. -/
namespace WithClause

namespace Text

/-- The content up to the closing quote, and the rest behind it. -/
def readEnclosed (q : Char) : List Char → Option (List Char × List Char)
  | [] => none
  | [c] => if c = q then some ([], []) else none
  | c :: d :: cs =>
    if c = q then
      if d = q then (readEnclosed q cs).map fun r => (q :: r.1, r.2) else some ([], d :: cs)
    else (readEnclosed q (d :: cs)).map fun r => (c :: r.1, r.2)

lemma readEnclosed_close {q : Char} {rest : List Char} (h : Stops (· == q) rest) :
    readEnclosed q (q :: rest) = some ([], rest) := by
  cases rest with
  | nil => simp [readEnclosed]
  | cons d rest =>
    have hd : d ≠ q := by simpa using h
    rw [readEnclosed,if_pos rfl,if_neg hd]

lemma readEnclosed_escape (q : Char) (cs : List Char) :
    readEnclosed q (q :: q :: cs) = (readEnclosed q cs).map fun r => (q :: r.1, r.2) := by
  rw [readEnclosed,if_pos rfl,if_pos rfl]

lemma readEnclosed_of_ne {q c : Char} (hc : c ≠ q) (cs : List Char) :
    readEnclosed q (c :: cs) = (readEnclosed q cs).map fun r => (c :: r.1, r.2) := by
  cases cs with
  | nil => rw [readEnclosed,readEnclosed,if_neg hc,Option.map_none]
  | cons d cs => rw [readEnclosed,if_neg hc]

/-- The content is found again, whatever it is, if no further quote follows the closing one. -/
theorem readEnclosed_double (q : Char) (cs : List Char) {rest : List Char}
    (h : Stops (· == q) rest) : readEnclosed q (double q cs ++ q :: rest) = some (cs, rest) := by
  induction cs with
  | nil => exact readEnclosed_close h
  | cons c cs ih =>
    rw [double_cons]
    split
    · next hc =>
      subst hc
      simp only [List.cons_append, List.nil_append, readEnclosed_escape, ih, Option.map_some]
    · next hc =>
      simp only [List.cons_append, List.nil_append, readEnclosed_of_ne hc, ih, Option.map_some]

lemma readEnclosed_length {q : Char} {cs content rest : List Char}
    (h : readEnclosed q cs = some (content, rest)) : rest.length < cs.length := by
  fun_induction readEnclosed q cs generalizing content rest with
  | case1 => cases h
  | case2 => cases h; simp
  | case3 => cases h
  | case4 cs ih =>
    obtain ⟨r,hr,heq⟩ := Option.map_eq_some_iff.mp h
    cases heq
    have := ih hr
    simp only [List.length_cons]
    omega
  | case5 => cases h; simp
  | case6 c d cs hc ih =>
    obtain ⟨r,hr,heq⟩ := Option.map_eq_some_iff.mp h
    cases heq
    have := ih hr
    simp only [List.length_cons] at this ⊢
    omega

end Text

namespace Identifier
open Text

/-- The name that an identifier stands for, and the rest of the text. -/
def read : List Char → Option (List Char × List Char)
  | [] => none
  | c :: cs =>
    if c = '"' then readEnclosed '"' cs
    else if startsBare c then some (c :: cs.takeWhile continuesBare, cs.dropWhile continuesBare)
    else none

/-- A quoted name is read as it was, if nothing follows that could go on with it. -/
theorem read_quoteChars (name : List Char) {rest : List Char} (hbare : Stops continuesBare rest)
    (hquote : Stops (· == '"') rest) : read (quoteChars name ++ rest) = some (name, rest) := by
  cases h : isBare name with
  | false =>
    rw [quoteChars_of_not_isBare h,enclose,List.cons_append,List.cons_append,read,if_pos rfl,
      List.append_assoc]
    exact readEnclosed_double '"' name hquote
  | true =>
    rw [quoteChars_of_isBare h]
    have hq := quote_not_mem_of_isBare h
    obtain ⟨c,cs,rfl,hc,hcs⟩ := exists_cons_of_isBare h
    have hne : c ≠ '"' := by
      rintro rfl
      exact hq List.mem_cons_self
    rw [List.cons_append,read,if_neg hne,if_pos hc,takeWhile_run hcs hbare,dropWhile_run hcs hbare]

theorem quote_injective : Function.Injective quote := by
  intro m n h
  have hread (name : String) : read ((quote name).toList ++ []) = some (name.toList, []) := by
    rw [toList_quote]
    exact read_quoteChars name.toList (by simp [Stops]) (by simp [Stops])
  have hm := hread m
  rw [h,hread n] at hm
  exact String.toList_inj.mp (Prod.mk.inj (Option.some.inj hm)).1.symm

lemma read_length {cs name rest : List Char} (h : read cs = some (name, rest)) :
    rest.length < cs.length := by
  cases cs with
  | nil => cases h
  | cons c cs =>
    rw [read] at h
    split_ifs at h with hq hc
    · have := readEnclosed_length h
      rw [List.length_cons]
      omega
    · cases h
      have := List.length_dropWhile_le continuesBare cs
      rw [List.length_cons]
      omega

end Identifier
end WithClause
