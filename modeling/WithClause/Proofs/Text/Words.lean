import WithClause.Proofs.Text.Trim

/-! Where the words of a text are. Blanks only divide a text, so what stands between two of them is a
word, and trimming changes no word. -/
namespace WithClause.Text

variable {b : Char} {gap w : List Char}

/-- All else about words comes from this. -/
theorem words_append_cons (hb : isBlank b = true) (xs ys : List Char) :
    words (xs ++ b :: ys) = words xs ++ words ys := by
  rw [words,List.splitOnP_append_cons xs ys hb,List.filter_append]
  rfl

lemma blank_cons_iff {cs : List Char} : Blank (b :: cs) ↔ isBlank b = true ∧ Blank cs :=
  List.forall_mem_cons

lemma words_cons (hb : isBlank b = true) (cs : List Char) : words (b :: cs) = words cs :=
  words_append_cons hb [] cs

lemma words_blank_append (h : Blank gap) (cs : List Char) : words (gap ++ cs) = words cs := by
  induction gap with
  | nil => rfl
  | cons b gap ih =>
    obtain ⟨hb,hgap⟩ := blank_cons_iff.mp h
    rw [List.cons_append,words_cons hb,ih hgap]

lemma words_of_blank (h : Blank gap) : words gap = [] := by
  rw [← List.append_nil gap,words_blank_append h]
  rfl

/-- A gap divides the words of a text. -/
theorem words_append_blank_append (h : Blank gap) (hne : gap ≠ []) (xs ys : List Char) :
    words (xs ++ (gap ++ ys)) = words xs ++ words ys := by
  obtain ⟨b,gap,rfl⟩ := List.exists_cons_of_ne_nil hne
  obtain ⟨hb,hgap⟩ := blank_cons_iff.mp h
  rw [List.cons_append,words_append_cons hb,words_blank_append hgap]

lemma words_append_blank (h : Blank gap) (cs : List Char) : words (cs ++ gap) = words cs := by
  cases gap with
  | nil => rw [List.append_nil]
  | cons b gap =>
    obtain ⟨hb,hgap⟩ := blank_cons_iff.mp h
    rw [words_append_cons hb,words_of_blank hgap,List.append_nil]

theorem words_trim (cs : List Char) : words (trim cs) = words cs := by
  obtain ⟨l,r,hl,hr,h⟩ := exists_blank_trim cs
  have hcs : words cs = words (l ++ trim cs ++ r) := congrArg words h
  rw [hcs,words_append_blank hr,words_blank_append hl]

/-- A text without blanks is one word. -/
lemma words_of_filled (h : ∀ c ∈ w, isBlank c = false) (hne : w ≠ []) : words w = [w] := by
  rw [words,List.splitOnP_eq_singleton h]
  exact List.filter_cons_of_pos (by simpa using hne)

lemma mem_of_mem_trim {c : Char} {cs : List Char} (h : c ∈ trim cs) : c ∈ cs := by
  obtain ⟨l,r,-,-,hcs⟩ := exists_blank_trim cs
  rw [hcs]
  exact List.mem_append_left r (List.mem_append_right l h)

end WithClause.Text
