import WithClause.CommandLine.Report
import WithClause.Proofs.CommandLine.Style
import WithClause.Proofs.Registry.Contested

/-! The listing of a check as it is read: numbered entries, of which those with a contested name are marked
if styles are written, and what stands before and behind them. -/
namespace WithClause.CommandLine

/-- A number in decimal, behind as many blanks as fill three columns. -/
def RightAligned (n : ℕ) (text : String) : Prop :=
  ∃ blanks : String, (∀ c ∈ blanks.toList, c = ' ') ∧ text = blanks ++ n.repr ∧
    text.length = max 3 n.repr.length

/-- The parts of an entry as they are shown. -/
structure Shown where
  number : String
  name : String
  sql : String

namespace Shown

/-- The line of an entry. A name or a body with line ends in it goes on in further ones. -/
def line (e : Shown) : String := e.number ++ ". " ++ e.name ++ " " ++ e.sql ++ "\n"

/-- Where a name is shown as contested, it is bold and red, and otherwise cyan. -/
def nameOpening (contested : Bool) : String := if contested then "\x1b[1;31m" else "\x1b[36m"

/-- The name is shown as contested. -/
def Marked (e : Shown) : Prop := (nameOpening true).toList <+: e.name.toList

/-- The entry shows a pair of a name and its SQL under a number, and is marked if and only if the name is
contested. Without styles there is no mark; the name and the SQL are there as they are. -/
structure Shows (colored : Bool) (supplied : List (String × String))
    (entry : (String × String) × ℕ) (e : Shown) : Prop where
  number : RightAligned entry.2 e.number
  name : Appears colored (nameOpening (Contested supplied entry.1.1)) entry.1.1 e.name
  marked : colored = true → (e.Marked ↔ Contested supplied entry.1.1)
  sql : Appears colored "\x1b[2m" entry.1.2 e.sql

end Shown

/-- Each pair that was supplied has one entry, numbered in the order of its first occurrence. Where nothing
was supplied that is said instead, a recursive prologue is noted, and if no name is contested the
entries are counted. -/
def Listing (colored recursive : Bool) (supplied : List (String × String)) (output : String) : Prop :=
  ∃ (entries : List Shown) (nothing note tick : String),
    List.Forall₂ (Shown.Shows colored supplied) ((distinct supplied).zipIdx 1) entries ∧
    Appears colored "\x1b[2m" "(no CTEs)" nothing ∧
    Appears colored "\x1b[33m" "WITH RECURSIVE" note ∧
    Appears colored "\x1b[32m" "✓" tick ∧
    output = (if supplied = [] then nothing ++ "\n" else "") ++
      String.join (entries.map Shown.line) ++
      (if recursive = true ∧ supplied ≠ [] then "\n" ++ note ++ "\n" else "") ++
      if supplied ≠ [] ∧ contestedNames supplied = [] then
        "\n" ++ tick ++ " " ++ entries.length.repr ++ " CTE(s), no conflicts\n" else ""

lemma rightAligned_numberText (n : ℕ) : RightAligned n (Findings.numberText n) := by
  refine ⟨String.ofList (List.replicate (3 - n.repr.length) ' '),?_,rfl,?_⟩
  · intro c hc
    rw [String.toList_ofList] at hc
    exact List.eq_of_mem_replicate hc
  · rw [Findings.numberText,String.length_append,String.length_ofList,List.length_replicate]
    omega

/-- An entry as it is shown on a terminal. -/
def Terminal.entry (t : Terminal) (p : String × String) (contested : Bool) (number : ℕ) : Shown where
  number := Findings.numberText number
  name := t.paint (if contested then Style.bold Style.red else Style.plain Style.cyan) p.1
  sql := t.paint .dimmed p.2

lemma marked_iff {contested : Bool} {name : String} {e : Shown}
    (h : Styled (Shown.nameOpening contested) name e.name) : e.Marked ↔ contested = true := by
  cases contested with
  | true => exact iff_of_true h.prefix_opening rfl
  | false =>
    refine iff_of_false ?_ Bool.false_ne_true
    intro hmarked
    have hcyan := List.prefix_of_prefix_length_le h.prefix_opening hmarked (by decide)
    revert hcyan
    decide

lemma appears_name (t : Terminal) (p : String × String) (contested : Bool) (number : ℕ) :
    Appears t.colored (Shown.nameOpening contested) p.1 (t.entry p contested number).name := by
  cases contested with
  | true =>
    have hopening : (Style.bold Style.red).opening = Shown.nameOpening true := by decide +kernel
    rw [← hopening]
    exact t.appears_paint _ _
  | false =>
    have hopening : (Style.plain Style.cyan).opening = Shown.nameOpening false := by decide +kernel
    rw [← hopening]
    exact t.appears_paint _ _

lemma shows_entry (t : Terminal) (supplied : List (String × String))
    (entry : (String × String) × ℕ) :
    Shown.Shows t.colored supplied entry
      (t.entry entry.1 (Contested supplied entry.1.1) entry.2) := by
  have hname := appears_name t entry.1 (Contested supplied entry.1.1) entry.2
  refine ⟨rightAligned_numberText _,hname,?_,t.appears_paint .dimmed entry.1.2⟩
  intro hcolored
  rw [Appears,if_pos hcolored] at hname
  rw [marked_iff hname,decide_eq_true_eq]

lemma lines_append (xs ys : List String) : lines (xs ++ ys) = lines xs ++ lines ys := by
  rw [lines,List.map_append,String.join_append]
  rfl

lemma lines_singleton (x : String) : lines [x] = x ++ "\n" := by
  rw [lines,List.map_singleton,String.join_cons,String.join_nil,String.append_empty]

lemma lines_blank_cons (x : String) : lines ["", x] = "\n" ++ x ++ "\n" := by
  rw [← List.singleton_append,lines_append,lines_singleton,lines_singleton,String.empty_append,
    String.append_assoc]

lemma lines_entries (t : Terminal) (entries : List (Definition × Bool)) (k : ℕ) :
    lines ((entries.zipIdx k).map fun entry => Findings.entryLine t entry.1 entry.2) =
      String.join ((entries.zipIdx k).map fun entry =>
        (t.entry (entry.1.1.name, entry.1.1.body.text) entry.1.2 entry.2).line) := by
  rw [lines,List.map_map]
  rfl

/-- The text of a report, part by part. -/
lemma report_text (t : Terminal) (f : Findings) : f.report t .text =
    (if f.entries.isEmpty = true then t.nothing ++ "\n" else "") ++
    String.join ((f.entries.zipIdx 1).map fun entry =>
      (t.entry (entry.1.1.name, entry.1.1.body.text) entry.1.2 entry.2).line) ++
    (if f.recursive = true then "\n" ++ t.paint (.plain Style.yellow) "WITH RECURSIVE" ++ "\n"
      else "") ++
    if (f.entries.isEmpty || !f.passes) = true then ""
    else "\n" ++ t.paint (.plain Style.green) "✓" ++ " " ++ f.names.length.repr ++
      " CTE(s), no conflicts\n" := by
  have hnil : lines [] = "" := rfl
  rw [Findings.report,lines_append,lines_append,lines_append,lines_entries,Findings.summary,
    apply_ite lines,apply_ite lines,apply_ite lines,lines_singleton,lines_blank_cons,
    lines_blank_cons,hnil]
  simp only [String.append_assoc]
  rfl

section OfRegistry

variable {recursive : Bool} {supplied : List (String × String)} {r : Registry}

/-- What a check finds in a registry of pairs. -/
lemma findings_ofRegistry (hdefinitions : r.definitions = (distinct supplied).map .ofPair)
    (hconflicts : r.conflicts = contestedNames supplied) :
    Findings.ofRegistry r = {
      entries := (distinct supplied).map fun p => (.ofPair p, decide (Contested supplied p.1))
      names := r.names
      conflicts := contestedNames supplied
      recursive := r.recursive } := by
  rw [Findings.ofRegistry,hconflicts,hdefinitions,List.map_map]
  congr 1
  apply List.map_congr_left
  intro p _
  have hcontains : (contestedNames supplied).contains p.1 = decide (Contested supplied p.1) := by
    rw [Bool.eq_iff_iff,List.contains_iff_mem,mem_contestedNames_iff,decide_eq_true_eq]
  exact Prod.ext rfl hcontains

theorem listing_report (hdefinitions : r.definitions = (distinct supplied).map .ofPair)
    (hconflicts : r.conflicts = contestedNames supplied)
    (hrecursive : r.recursive = (recursive && !supplied.isEmpty)) (t : Terminal) :
    Listing t.colored recursive supplied ((Findings.ofRegistry r).report t .text) := by
  let shown : (String × String) × ℕ → Shown := fun entry =>
    t.entry entry.1 (Contested supplied entry.1.1) entry.2
  refine ⟨((distinct supplied).zipIdx 1).map shown,t.nothing,
    t.paint (.plain Style.yellow) "WITH RECURSIVE",t.paint (.plain Style.green) "✓",?_,
    t.appears_paint _ _,t.appears_paint _ _,t.appears_paint _ _,?_⟩
  · exact List.forall₂_map_right_iff.mpr
      (List.forall₂_same.mpr fun entry _ => shows_entry t supplied entry)
  · have hkept : (distinct supplied).isEmpty = decide (supplied = []) := by
      cases supplied <;> simp [distinct]
    have hrecursive' : r.recursive = true ↔ recursive = true ∧ supplied ≠ [] := by
      simp [hrecursive]
    rw [findings_ofRegistry hdefinitions hconflicts,report_text]
    dsimp only [Findings.passes]
    rw [List.isEmpty_map,hkept,List.zipIdx_map,List.map_map,List.map_map,List.length_map,
      List.length_zipIdx]
    refine congrArg₂ _ (congrArg₂ _ (congrArg₂ _ ?_ rfl) ?_) ?_
    · exact if_congr decide_eq_true_iff rfl rfl
    · exact if_congr hrecursive' rfl rfl
    · by_cases hsupplied : supplied = []
      · simp [hsupplied]
      by_cases hcontested : contestedNames supplied = []
      · rw [Registry.length_names_of_conflicts_eq_nil (hconflicts.trans hcontested),Registry.size,
          hdefinitions,List.length_map]
        simp [hsupplied, hcontested]
      · simp [hcontested]

end OfRegistry

end WithClause.CommandLine
