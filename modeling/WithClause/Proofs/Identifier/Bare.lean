import WithClause.Identifier
import WithClause.Proofs.Text.Run

/-! Bare identifiers as texts: their characters are letters, digits and underscores of any name, and
never blank. -/
namespace WithClause.Identifier
open Text

lemma isBlank_of_startsBare {c : Char} (h : startsBare c = true) : isBlank c = false := by
  by_contra hblank
  rw [Bool.not_eq_false,isBlank,inRanges_iff] at hblank
  simp only [startsBare, Bool.or_eq_true, isAlpha_iff, beq_iff_eq] at h
  rcases h with h | rfl
  · simp at hblank
    omega
  · revert hblank
    decide

lemma startsName_of_startsBare {c : Char} (h : startsBare c = true) : startsName c = true := by
  simp only [startsBare, startsName, Bool.or_eq_true] at h ⊢
  exact h.imp_left isAlphabetic_of_isAlpha

lemma continuesBare_of_startsBare {c : Char} (h : startsBare c = true) : continuesBare c = true := by
  simp only [startsBare, continuesBare, Char.isAlphanum, Bool.or_eq_true] at h ⊢
  exact h.imp_left .inl

lemma continuesName_of_continuesBare {c : Char} (h : continuesBare c = true) :
    continuesName c = true := by
  simp only [continuesBare, continuesName, Char.isAlphanum, Bool.or_eq_true] at h ⊢
  exact h.imp_left (Or.imp isAlphabetic_of_isAlpha isNumeric_of_isDigit)

/-- Without the quote in it a text needs no escape. -/
lemma double_of_not_mem {q : Char} {cs : List Char} (h : q ∉ cs) : double q cs = cs := by
  induction cs with
  | nil => rfl
  | cons c cs ih =>
    obtain ⟨hc,hcs⟩ := not_or.mp (mt List.mem_cons.mpr h)
    rw [double_cons,if_neg (Ne.symm hc),ih hcs]
    rfl

lemma hasBareShape_cons {c : Char} {cs : List Char} :
    hasBareShape (c :: cs) = true ↔ startsBare c = true ∧ ∀ d ∈ cs, continuesBare d = true := by
  rw [hasBareShape,Bool.and_eq_true,List.all_eq_true]

lemma exists_cons_of_isBare {name : List Char} (h : isBare name = true) :
    ∃ c cs, name = c :: cs ∧ startsBare c = true ∧ ∀ d ∈ cs, continuesBare d = true := by
  obtain ⟨hshape,-⟩ := Bool.and_eq_true_iff.mp h
  cases name with
  | nil => cases hshape
  | cons c cs => exact ⟨c,cs,rfl,hasBareShape_cons.mp hshape⟩

lemma quote_not_mem_of_isBare {name : List Char} (h : isBare name = true) : '"' ∉ name := by
  obtain ⟨c,cs,rfl,hc,hcs⟩ := exists_cons_of_isBare h
  intro hq
  rcases List.mem_cons.mp hq with rfl | hq
  · revert hc
    decide
  · have hbare := hcs _ hq
    revert hbare
    decide

lemma length_le_double (q : Char) (cs : List Char) : cs.length ≤ (double q cs).length := by
  induction cs with
  | nil => exact Nat.le_refl 0
  | cons c cs ih =>
    have hfirst : 0 < (if c = q then [q, q] else [c]).length := by split <;> simp
    rw [double_cons,List.length_append,List.length_cons]
    omega

/-- The enclosing quotes make the text longer, whatever it holds. -/
lemma enclose_ne (q : Char) (cs : List Char) : enclose q cs ≠ cs := by
  intro h
  have hlength := congrArg List.length h
  have hcontent := length_le_double q cs
  rw [enclose,List.length_append,List.length_cons,List.length_singleton] at hlength
  omega

theorem quote_eq_self_iff {name : String} : quote name = name ↔ isBare name.toList = true := by
  rw [← String.toList_inj,toList_quote]
  constructor
  · intro h
    by_contra hbare
    rw [quoteChars_of_not_isBare (Bool.eq_false_iff.mpr hbare)] at h
    exact enclose_ne '"' name.toList h
  · exact quoteChars_of_isBare

end WithClause.Identifier
