import Mathlib.Data.List.DropRight
import WithClause.Text.Blank
import WithClause.Text.Parenthesis

/-! What trimming takes away and what it keeps. -/
namespace WithClause.Text

lemma not_blank_iff {cs : List Char} : ¬ Blank cs ↔ ∃ c ∈ cs, isBlank c = false := by
  simp [Blank]

lemma not_blank_of_mem {c : Char} {cs : List Char} (h : c ∈ cs) (hc : isBlank c = false) :
    ¬ Blank cs := not_blank_iff.mpr ⟨c,h,hc⟩

lemma trimEnd_eq_rdropWhile (cs : List Char) : trimEnd cs = cs.rdropWhile isBlank := rfl

/-- Only blanks are cut off, at both ends. -/
theorem exists_blank_trim (cs : List Char) :
    ∃ l r, Blank l ∧ Blank r ∧ cs = l ++ trim cs ++ r := by
  refine ⟨cs.takeWhile isBlank,(trimStart cs).rtakeWhile isBlank,?_,?_,?_⟩
  · exact fun c hc => List.mem_takeWhile_imp hc
  · exact fun c hc => List.mem_rtakeWhile_imp hc
  · rw [trim,trimEnd_eq_rdropWhile,List.append_assoc,List.rdropWhile_append_rtakeWhile]
    exact List.takeWhile_append_dropWhile.symm

theorem blank_trim {cs : List Char} : Blank (trim cs) ↔ Blank cs := by
  obtain ⟨l,r,hl,hr,h⟩ := exists_blank_trim cs
  constructor
  · intro ht
    rw [h]
    simp only [Blank, List.mem_append] at hl hr ht ⊢
    rintro c ((hc | hc) | hc)
    · exact hl c hc
    · exact ht c hc
    · exact hr c hc
  · intro hb c hc
    apply hb
    rw [h]
    simp [hc]

lemma trimStart_append {cs : List Char} (h : ¬ Blank cs) (ds : List Char) :
    trimStart (cs ++ ds) = trimStart cs ++ ds := by
  have hne : cs.dropWhile isBlank ≠ [] := mt trimStart_eq_nil.mp h
  rw [trimStart,List.dropWhile_append,if_neg (by simpa using hne)]
  rfl

lemma trimEnd_append (cs : List Char) {ds : List Char} (h : ¬ Blank ds) :
    trimEnd (cs ++ ds) = cs ++ trimEnd ds := by
  have hreverse : trimStart (ds.reverse ++ cs.reverse) = trimStart ds.reverse ++ cs.reverse :=
    trimStart_append (mt blank_reverse.mp h) _
  calc trimEnd (cs ++ ds) = (trimStart (ds.reverse ++ cs.reverse)).reverse := by
        rw [← List.reverse_append]
        rfl
    _ = cs ++ trimEnd ds := by
        rw [hreverse,List.reverse_append,List.reverse_reverse]
        rfl

/-- Where a text goes on with more than blanks, nothing of it is cut off at its end. -/
theorem exists_trim_append {cs ds : List Char} (hc : ¬ Blank cs) (hd : ¬ Blank ds) :
    ∃ gap, Blank gap ∧ trim (cs ++ ds) = trim cs ++ (gap ++ trimEnd ds) := by
  refine ⟨(trimStart cs).rtakeWhile isBlank,fun c h => List.mem_rtakeWhile_imp h,?_⟩
  rw [trim,trimStart_append hc,trimEnd_append _ hd,← List.append_assoc]
  congr 1
  exact (List.rdropWhile_append_rtakeWhile (p := isBlank)).symm

/-- A text that begins and ends with something else than a blank is left as it is. -/
theorem trim_eq_self {cs : List Char} (hhead : ∀ c ∈ cs.head?, isBlank c = false)
    (hlast : ∀ c ∈ cs.getLast?, isBlank c = false) : trim cs = cs := by
  have hs : trimStart cs = cs := by
    cases cs with
    | nil => rfl
    | cons c cs =>
      have hc : isBlank c = false := hhead c rfl
      simp [trimStart, hc]
  rw [trim,hs,trimEnd_eq_rdropWhile,List.rdropWhile_eq_self_iff]
  intro hne
  rw [hlast _ (List.getLast_mem_getLast? hne)]
  simp

end WithClause.Text
