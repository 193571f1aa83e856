import WithClause.Text.Range

/-! Blank characters in two senses: the Unicode property White_Space, by which texts are trimmed
and cut into words, and the four ASCII characters that may separate the parts of a definition. -/
namespace WithClause.Text

/-- The characters with the Unicode property White_Space. -/
def isBlank (c : Char) : Bool :=
  inRanges [(0x9, 0xD), (0x20, 0x20), (0x85, 0x85), (0xA0, 0xA0), (0x1680, 0x1680),
    (0x2000, 0x200A), (0x2028, 0x2029), (0x202F, 0x202F), (0x205F, 0x205F), (0x3000, 0x3000)] c

/-- Space, tab, carriage return and line feed. -/
def isSpacing (c : Char) : Bool :=
  c == ' ' || c == '\t' || c == '\r' || c == '\n'

theorem isBlank_of_isSpacing {c : Char} (h : isSpacing c = true) : isBlank c = true := by
  simp only [isSpacing, Bool.or_eq_true, beq_iff_eq] at h
  rcases h with ((rfl | rfl) | rfl) | rfl <;> decide

def trimStart (cs : List Char) : List Char := cs.dropWhile isBlank

def trimEnd (cs : List Char) : List Char := (cs.reverse.dropWhile isBlank).reverse

/-- The text without its leading and trailing blanks. -/
def trim (cs : List Char) : List Char := trimEnd (trimStart cs)

/-- Nothing but blanks, so also the empty text. -/
def Blank (cs : List Char) : Prop := ∀ c ∈ cs, isBlank c = true

instance (cs : List Char) : Decidable (Blank cs) :=
  List.decidableBAll (isBlank · = true) cs

theorem trimStart_eq_nil {cs : List Char} : trimStart cs = [] ↔ Blank cs := by
  induction cs with
  | nil => simp [trimStart, Blank]
  | cons c cs ih =>
    by_cases h : isBlank c = true
    · rw [trimStart, List.dropWhile_cons_of_pos h]
      exact ih.trans (by simp [Blank, h])
    · simp [trimStart, Blank, h]

theorem blank_reverse {cs : List Char} : Blank cs.reverse ↔ Blank cs := by
  simp [Blank]

theorem trimEnd_eq_nil {cs : List Char} : trimEnd cs = [] ↔ Blank cs := by
  rw [trimEnd, List.reverse_eq_nil_iff, ← blank_reverse]
  exact trimStart_eq_nil

theorem blank_trimStart {cs : List Char} : Blank (trimStart cs) ↔ Blank cs := by
  induction cs with
  | nil => rfl
  | cons c cs ih =>
    by_cases h : isBlank c = true
    · simpa [trimStart, Blank, h] using ih
    · simp [trimStart, Blank, h]

theorem trim_eq_nil {cs : List Char} : trim cs = [] ↔ Blank cs := by
  rw [trim, trimEnd_eq_nil, blank_trimStart]

/-- The maximal runs of characters that are not blank. -/
def words (cs : List Char) : List (List Char) := (cs.splitOnP isBlank).filter (! ·.isEmpty)

end WithClause.Text
