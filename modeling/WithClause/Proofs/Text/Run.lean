import Mathlib.Data.List.TakeWhile
import WithClause.Text.Blank
import WithClause.Text.Letter

/-! Maximal runs of one class of characters at the beginning of a text, and which of the classes
exclude each other. -/
namespace WithClause.Text

/-- A text that does not begin with a character of the class. -/
def Stops (p : Char → Bool) (cs : List Char) : Prop := ∀ c ∈ cs.head?, p c = false

@[simp] theorem stops_cons {p : Char → Bool} {c : Char} {cs : List Char} :
    Stops p (c :: cs) ↔ p c = false := by simp [Stops]

lemma stops_append {p : Char → Bool} {w : List Char} (hw : w ≠ []) (cs : List Char) :
    Stops p (w ++ cs) ↔ Stops p w := by
  cases w with
  | nil => exact absurd rfl hw
  | cons c w => rw [List.cons_append,stops_cons,stops_cons]

lemma stops_dropWhile (p : Char → Bool) (cs : List Char) : Stops p (cs.dropWhile p) := by
  intro c hc
  have h := List.head?_dropWhile_not p cs
  rw [Option.mem_def.mp hc] at h
  exact h

/-- The run and the rest are the only way to cut a text where the class ends. -/
theorem run_iff {p : Char → Bool} {cs w rest : List Char} :
    cs.takeWhile p = w ∧ cs.dropWhile p = rest ↔
      cs = w ++ rest ∧ (∀ c ∈ w, p c = true) ∧ Stops p rest := by
  constructor
  · rintro ⟨rfl,rfl⟩
    exact ⟨List.takeWhile_append_dropWhile.symm,fun c hc => List.mem_takeWhile_imp hc,
      stops_dropWhile p cs⟩
  · rintro ⟨rfl,hw,hrest⟩
    rw [List.takeWhile_append_of_pos hw,List.dropWhile_append_of_pos hw]
    cases rest with
    | nil => simp
    | cons c rest =>
      have hc := stops_cons.mp hrest
      simp [hc]

lemma takeWhile_run {p : Char → Bool} {w rest : List Char} (hw : ∀ c ∈ w, p c = true)
    (hrest : Stops p rest) : (w ++ rest).takeWhile p = w := (run_iff.mpr ⟨rfl,hw,hrest⟩).1

lemma dropWhile_run {p : Char → Bool} {w rest : List Char} (hw : ∀ c ∈ w, p c = true)
    (hrest : Stops p rest) : (w ++ rest).dropWhile p = rest := (run_iff.mpr ⟨rfl,hw,hrest⟩).2

lemma isAlpha_of_isUpper {c : Char} (h : c.isUpper = true) : c.isAlpha = true := by
  unfold Char.isAlpha
  rw [h,Bool.true_or]

lemma toLower_eq_self {c : Char} (h : c.isUpper = false) : c.toLower = c := by
  unfold Char.isUpper at h
  unfold Char.toLower
  rw [dif_neg]
  simpa using h

lemma isLower_toLower {c : Char} (h : c.isUpper = true) : c.toLower.isLower = true := by
  unfold Char.isUpper at h
  simp only [ge_iff_le, decide_eq_true_eq] at h
  unfold Char.toLower Char.isLower
  rw [dif_pos h]
  grind [UInt32.le_iff_toNat_le,UInt32.toNat_add]

lemma isAlpha_toLower (c : Char) : c.toLower.isAlpha = c.isAlpha := by
  cases h : c.isUpper with
  | true =>
    rw [isAlpha_of_isUpper h]
    unfold Char.isAlpha
    rw [isLower_toLower h,Bool.or_true]
  | false => rw [toLower_eq_self h]

lemma toLower_toLower (c : Char) : c.toLower.toLower = c.toLower := by
  cases h : c.isUpper with
  | true =>
    have hlower := isLower_toLower h
    apply toLower_eq_self
    unfold Char.isLower at hlower
    unfold Char.isUpper
    grind [UInt32.le_iff_toNat_le]
  | false => rw [toLower_eq_self h,toLower_eq_self h]

lemma isAlpha_iff {c : Char} : c.isAlpha = true ↔
    0x41 ≤ c.toNat ∧ c.toNat ≤ 0x5A ∨ 0x61 ≤ c.toNat ∧ c.toNat ≤ 0x7A := by
  unfold Char.isAlpha Char.isUpper Char.isLower
  simp only [Bool.or_eq_true, Bool.and_eq_true, decide_eq_true_eq]
  rfl

lemma isAlphabetic_of_isAlpha {c : Char} (h : c.isAlpha = true) : isAlphabetic c = true := by
  rw [isAlphabetic,inRanges_iff]
  rcases isAlpha_iff.mp h with h | h
  · exact ⟨(0x41,0x5A),List.mem_cons_self,h⟩
  · exact ⟨(0x61,0x7A),List.mem_cons_of_mem _ List.mem_cons_self,h⟩

lemma isNumeric_of_isDigit {c : Char} (h : c.isDigit = true) : isNumeric c = true := by
  rw [isNumeric,inRanges_iff]
  simp only [Char.isDigit, Bool.and_eq_true, decide_eq_true_eq] at h
  exact ⟨(0x30,0x39),List.mem_cons_self,h⟩

/-- What separates the parts of a definition ends a name. -/
lemma continuesName_of_isSpacing {c : Char} (h : isSpacing c = true) : continuesName c = false := by
  simp only [isSpacing, Bool.or_eq_true, beq_iff_eq] at h
  rcases h with ((rfl | rfl) | rfl) | rfl <;> decide +kernel

lemma isSpacing_of_isAlpha {c : Char} (h : c.isAlpha = true) : isSpacing c = false := by
  by_contra hc
  rw [Bool.not_eq_false] at hc
  simp only [isSpacing, Bool.or_eq_true, beq_iff_eq] at hc
  rcases hc with ((rfl | rfl) | rfl) | rfl <;> revert h <;> decide

end WithClause.Text
