import WithClause.Proofs.Identifier.Reader

/-! Scanning an SQL text from left to right for what stands in single or double quotes, where two
quotes inside stand for one. -/
namespace WithClause.Text

/-- A character outside of quotes, or all that stands between two quotes. -/
inductive Piece where
  | plain (c : Char)
  | quoted (q : Char) (content : List Char)
  deriving DecidableEq

def isQuote (c : Char) : Bool := c == '\'' || c == '"'

/-- The pieces of a text, or nothing if it ends inside of quotes. -/
def scan : List Char → Option (List Piece)
  | [] => some []
  | c :: cs =>
    if isQuote c then
      match _h : readEnclosed c cs with
      | none => none
      | some (content, rest) => (scan rest).map (.quoted c content :: ·)
    else (scan cs).map (.plain c :: ·)
termination_by cs => cs.length
decreasing_by
  · have := readEnclosed_length _h
    rw [List.length_cons]
    omega
  · simp

namespace Piece

/-- What a literal holds. Identifiers stand in the other quotes. -/
def literal? : Piece → Option String
  | plain _ => none
  | quoted q content => if q = '\'' then some (String.ofList content) else none

/-- A mark in place of a literal, and all else as it stands in the text. -/
def masked (mark : List Char) : Piece → List Char
  | plain c => [c]
  | quoted q content => if q = '\'' then mark else enclose q content

/-- A literal without what it holds. -/
def hollow : Piece → Piece
  | plain c => plain c
  | quoted q content => if q = '\'' then quoted q [] else quoted q content

lemma masked_hollow (mark : List Char) (p : Piece) : p.hollow.masked mark = p.masked mark := by
  cases p with
  | plain c => rfl
  | quoted q content =>
    by_cases hq : q = '\'' <;> simp [hollow, masked, hq]

end Piece

def literals (ps : List Piece) : List String := ps.filterMap Piece.literal?

def masked (mark : List Char) (ps : List Piece) : List Char := ps.flatMap (Piece.masked mark)

lemma masked_map_hollow (mark : List Char) (ps : List Piece) :
    masked mark (ps.map Piece.hollow) = masked mark ps := by
  simp only [masked, List.flatMap_map, Piece.masked_hollow]

@[simp] theorem literals_append (ps qs : List Piece) :
    literals (ps ++ qs) = literals ps ++ literals qs := List.filterMap_append

@[simp] theorem scan_nil : scan [] = some [] := by rw [scan]

/-- No quotes of either kind. -/
def Quoteless (cs : List Char) : Prop := ∀ c ∈ cs, isQuote c = false

instance (cs : List Char) : Decidable (Quoteless cs) :=
  List.decidableBAll (isQuote · = false) cs

@[simp] theorem quoteless_append {xs ys : List Char} :
    Quoteless (xs ++ ys) ↔ Quoteless xs ∧ Quoteless ys := List.forall_mem_append

/-- A class without the two quotes has only texts without quotes. -/
lemma quoteless_of_forall {p : Char → Bool} {cs : List Char} (h : ∀ c ∈ cs, p c = true)
    (hsingle : p '\'' = false) (hdouble : p '"' = false) : Quoteless cs := by
  intro c hc
  have hp := h c hc
  rw [isQuote,Bool.or_eq_false_iff,beq_eq_false_iff_ne,beq_eq_false_iff_ne]
  constructor <;> rintro rfl
  · rw [hsingle] at hp
    cases hp
  · rw [hdouble] at hp
    cases hp

lemma Quoteless.stops {cs : List Char} (h : Quoteless cs) : Stops isQuote cs :=
  fun c hc => h c (List.mem_of_mem_head? hc)

lemma Quoteless.not_mem {cs : List Char} (h : Quoteless cs) {q : Char} (hq : isQuote q = true) :
    q ∉ cs := by
  intro hmem
  rw [h q hmem] at hq
  cases hq

lemma Quoteless.literals_plain (cs : List Char) : literals (cs.map .plain) = [] := by
  induction cs with
  | nil => rfl
  | cons c cs ih => exact ih

theorem scan_quoteless_append {cs : List Char} (h : Quoteless cs) (rest : List Char) :
    scan (cs ++ rest) = (scan rest).map (cs.map .plain ++ ·) := by
  induction cs with
  | nil => simp
  | cons c cs ih =>
    have hc : isQuote c = false := h c List.mem_cons_self
    have hcs : Quoteless cs := fun d hd => h d (List.mem_cons_of_mem c hd)
    rw [List.cons_append,scan,if_neg (by simp [hc]),ih hcs,Option.map_map]
    rfl

theorem scan_enclose_append {q : Char} (hq : isQuote q = true) (content : List Char)
    {rest : List Char} (h : Stops isQuote rest) :
    scan (enclose q content ++ rest) = (scan rest).map (.quoted q content :: ·) := by
  have hstop : Stops (· == q) rest := by
    intro c hc
    rw [beq_eq_false_iff_ne]
    rintro rfl
    rw [h c hc] at hq
    cases hq
  have hread := readEnclosed_double q content hstop
  rw [enclose,List.append_assoc,List.cons_append,scan,if_pos hq]
  split
  · next hnone =>
    rw [List.singleton_append,hread] at hnone
    cases hnone
  · next hsome =>
    rw [List.singleton_append,hread] at hsome
    cases hsome
    rfl

example : scan "x='it''s' \"y\"".toList = some [.plain 'x', .plain '=',
    .quoted '\'' "it's".toList, .plain ' ', .quoted '"' ['y']] := by cbv

/-- Pieces that were found one after another are the pieces of the whole. -/
lemma scan_append_append {cs ds rest : List Char} {ps qs : List Piece}
    (h : scan (cs ++ (ds ++ rest)) = (scan (ds ++ rest)).map (ps ++ ·))
    (h' : scan (ds ++ rest) = (scan rest).map (qs ++ ·)) :
    scan (cs ++ ds ++ rest) = (scan rest).map (ps ++ qs ++ ·) := by
  rw [List.append_assoc,h,h',Option.map_map]
  congr 1
  funext rs
  exact (List.append_assoc ps qs rs).symm

/-- The pieces are found whatever follows, as long as that does not begin with a quote. -/
def Scans (cs : List Char) (ps : List Piece) : Prop :=
  ∀ rest, Stops isQuote rest → scan (cs ++ rest) = (scan rest).map (ps ++ ·)

namespace Scans

variable {cs ds : List Char} {ps qs : List Piece}

lemma scan_eq (h : Scans cs ps) : scan cs = some ps := by
  have hend := h [] (by simp [Stops])
  rw [List.append_nil,scan_nil] at hend
  simpa using hend

lemma of_quoteless (h : Quoteless cs) : Scans cs (cs.map .plain) :=
  fun rest _ => scan_quoteless_append h rest

lemma enclose {q : Char} (hq : isQuote q = true) (content : List Char) :
    Scans (enclose q content) [.quoted q content] :=
  fun _ h => scan_enclose_append hq content h

/-- A closing quote must not meet another quote. -/
theorem append (h : Scans cs ps) (h' : Scans ds qs) (hstop : Stops isQuote ds) :
    Scans (cs ++ ds) (ps ++ qs) := by
  intro rest hrest
  have hnext : Stops isQuote (ds ++ rest) := by
    cases ds with
    | nil => exact hrest
    | cons d ds => simpa using hstop
  exact scan_append_append (h _ hnext) (h' rest hrest)

theorem quoteless_append (h : Quoteless cs) (h' : Scans ds qs) :
    Scans (cs ++ ds) (cs.map .plain ++ qs) :=
  fun rest hrest => scan_append_append (scan_quoteless_append h _) (h' rest hrest)

end Scans
end WithClause.Text
