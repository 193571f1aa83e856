import Mathlib.Data.List.Infix
import WithClause.CommandLine.Style

/-! What a styled text looks like. It may hold resets of its own, which cut it into pieces; every piece stands
between the sequence that opens the style and a reset. -/
namespace WithClause.CommandLine

/-- The pieces of a text between the resets in it, each of them behind the opening sequence. -/
def Styled (opening text shown : String) : Prop :=
  ∃ pieces : List String, pieces ≠ [] ∧
    (∀ piece ∈ pieces, ¬ "\x1b[0m".toList <:+: piece.toList) ∧
    text = "\x1b[0m".intercalate pieces ∧
    shown = String.join (pieces.map fun piece => opening ++ piece ++ "\x1b[0m")

/-- How a text is shown in a style: as it is, where no styles are written. -/
def Appears (colored : Bool) (opening text shown : String) : Prop :=
  if colored = true then Styled opening text shown else shown = text

/-- A styled text begins with the sequence that opens its style. -/
lemma Styled.prefix_opening {opening text shown : String} (h : Styled opening text shown) :
    opening.toList <+: shown.toList := by
  obtain ⟨pieces,hne,-,-,rfl⟩ := h
  obtain ⟨piece,pieces,rfl⟩ := List.exists_cons_of_ne_nil hne
  simp

namespace Style

/-- A style is opened again wherever a further piece begins. -/
lemma exists_pieces (s : Style) (cs : List Char) : ∃ piece pieces,
    (∀ p ∈ piece :: pieces, ¬ reset.toList <:+: p) ∧
    cs = piece ++ pieces.flatMap (reset.toList ++ ·) ∧
    s.reopen cs = piece ++ pieces.flatMap (reset.toList ++ s.opening.toList ++ ·) := by
  fun_induction s.reopen cs with
  | case1 => exact ⟨[],[],by decide,rfl,rfl⟩
  | case2 cs ih =>
    obtain ⟨piece,pieces,hfree,hcs,hreopen⟩ := ih
    refine ⟨[],piece :: pieces,List.forall_mem_cons.mpr ⟨by decide,hfree⟩,?_,?_⟩
    · rw [List.flatMap_cons,List.append_assoc,← hcs]
      rfl
    · rw [List.nil_append,List.flatMap_cons,List.append_assoc _ piece,← hreopen]
  | case3 c cs hreset ih =>
    obtain ⟨piece,pieces,hfree,hcs,hreopen⟩ := ih
    obtain ⟨hpiece,hpieces⟩ := List.forall_mem_cons.mp hfree
    refine ⟨c :: piece,pieces,List.forall_mem_cons.mpr ⟨?_,hpieces⟩,?_,?_⟩
    · rw [List.infix_cons_iff,not_or]
      refine ⟨?_,hpiece⟩
      -- a reset across the first character would have been cut off
      rintro ⟨rest,hrest⟩
      obtain ⟨rfl,rfl⟩ := List.cons.inj hrest
      exact hreset _ rfl hcs
    · rw [List.cons_append,← hcs]
    · rw [List.cons_append,← hreopen]

lemma append_flatMap_eq_intercalate (separator piece : List Char) (pieces : List (List Char)) :
    piece ++ pieces.flatMap (separator ++ ·) = separator.intercalate (piece :: pieces) := by
  induction pieces generalizing piece with
  | nil => simp
  | cons next pieces ih =>
    rw [List.flatMap_cons,List.append_assoc,ih,List.intercalate_cons_cons,List.append_assoc]

lemma enclose_pieces (opening closing piece : List Char) (pieces : List (List Char)) :
    opening ++ (piece ++ pieces.flatMap (closing ++ opening ++ ·)) ++ closing =
      (piece :: pieces).flatMap (opening ++ · ++ closing) := by
  induction pieces generalizing piece with
  | nil => simp
  | cons next pieces ih =>
    have hnext := ih next
    simp only [List.flatMap_cons, List.append_assoc] at hnext ⊢
    rw [hnext]

theorem styled_enclose (s : Style) (text : String) : Styled s.opening text (s.enclose text) := by
  obtain ⟨piece,pieces,hfree,htext,hreopen⟩ := s.exists_pieces text.toList
  refine ⟨(piece :: pieces).map String.ofList,List.cons_ne_nil _ _,?_,?_,?_⟩
  · intro p hp
    obtain ⟨cs,hcs,rfl⟩ := List.mem_map.mp hp
    change ¬ reset.toList <:+: _
    rw [String.toList_ofList]
    exact hfree cs hcs
  · apply String.toList_inj.mp
    rw [htext,append_flatMap_eq_intercalate,String.toList_intercalate,List.map_map]
    simp [reset, Function.comp_def]
  · apply String.toList_inj.mp
    simp only [enclose, String.toList_append, String.toList_ofList, hreopen, enclose_pieces]
    simp [reset, List.flatMap_map]

end Style

theorem Terminal.appears_paint (t : Terminal) (s : Style) (text : String) :
    Appears t.colored s.opening text (t.paint s text) := by
  rw [Appears,paint]
  split_ifs with h
  · exact s.styled_enclose text
  · rfl

end WithClause.CommandLine
