import WithClause.Proofs.Text.Scan
import WithClause.Proofs.Value.Numeral
import WithClause.Value

/-! Texts that differ in nothing but what their literals hold, and how larger texts are put
together from them. -/
namespace WithClause
open Text

lemma Text.Numeral.quoteless {cs : List Char} (h : Numeral cs) : Quoteless cs :=
  quoteless_of_forall h (by decide) (by decide)

lemma Identifier.quoteless_of_isBare {name : List Char} (h : isBare name = true) :
    Quoteless name := by
  obtain ⟨c,cs,rfl,hc,hcs⟩ := exists_cons_of_isBare h
  have hbare : ∀ d ∈ c :: cs, continuesBare d = true :=
    List.forall_mem_cons.mpr ⟨continuesBare_of_startsBare hc,hcs⟩
  exact quoteless_of_forall hbare (by decide) (by decide)

/-- Texts that a scanner takes apart in the same way, apart from what the literals hold, and what
those of the first text hold. -/
def Alike (t u : String) (held : List String) : Prop :=
  ∃ ps qs, Scans t.toList ps ∧ Scans u.toList qs ∧ ps.map Piece.hollow = qs.map Piece.hollow ∧
    literals ps = held

/-- The same for texts one by one. -/
inductive AllAlike : List String → List String → List String → Prop
  | nil : AllAlike [] [] []
  | cons {t u : String} {ts us held rest : List String} (h : Alike t u held)
    (hs : AllAlike ts us rest) : AllAlike (t :: ts) (u :: us) (held ++ rest)

namespace Alike

variable {t u t' u' p : String} {held held' : List String}

lemma of_quoteless (h : Quoteless t.toList) : Alike t t [] :=
  ⟨_,_,.of_quoteless h,.of_quoteless h,rfl,Quoteless.literals_plain _⟩

lemma literal (s s' : String) : Alike (Value.literal s) (Value.literal s') [s] := by
  have hscan (s : String) : Scans (Value.literal s).toList [.quoted '\'' s.toList] := by
    rw [Value.toList_literal]
    exact .enclose (by decide) s.toList
  refine ⟨_,_,hscan s,hscan s',rfl,?_⟩
  simp [literals, Piece.literal?]

lemma quoteless_append (hp : Quoteless p.toList) (h : Alike t u held) :
    Alike (p ++ t) (p ++ u) held := by
  obtain ⟨ps,qs,ht,hu,hhollow,rfl⟩ := h
  refine ⟨p.toList.map .plain ++ ps,p.toList.map .plain ++ qs,?_,?_,?_,?_⟩
  · rw [String.toList_append]
    exact .quoteless_append hp ht
  · rw [String.toList_append]
    exact .quoteless_append hp hu
  · rw [List.map_append,List.map_append,hhollow]
  · rw [literals_append,Quoteless.literals_plain,List.nil_append]

lemma append (h : Alike t u held) (h' : Alike t' u' held') (ht : Stops isQuote t'.toList)
    (hu : Stops isQuote u'.toList) : Alike (t ++ t') (u ++ u') (held ++ held') := by
  obtain ⟨ps,qs,hps,hqs,hhollow,rfl⟩ := h
  obtain ⟨ps',qs',hps',hqs',hhollow',rfl⟩ := h'
  refine ⟨ps ++ ps',qs ++ qs',?_,?_,?_,literals_append ps ps'⟩
  · rw [String.toList_append]
    exact hps.append hps' ht
  · rw [String.toList_append]
    exact hqs.append hqs' hu
  · rw [List.map_append,List.map_append,hhollow,hhollow']

lemma append_quoteless (h : Alike t u held) (hp : Quoteless p.toList) :
    Alike (t ++ p) (u ++ p) held := by
  simpa using h.append (of_quoteless hp) hp.stops hp.stops

/-- Something else than a quote stands between the two texts. -/
lemma separated (h : Alike t u held) (hp : Quoteless p.toList) (hne : p ≠ "")
    (h' : Alike t' u' held') : Alike (t ++ p ++ t') (u ++ p ++ u') (held ++ held') := by
  have hstop : ∀ s : String, Stops isQuote (p ++ s).toList := by
    intro s
    rw [String.toList_append,stops_append (by simpa using hne)]
    exact hp.stops
  rw [String.append_assoc,String.append_assoc]
  exact h.append (quoteless_append hp h') (hstop t') (hstop u')

lemma quote (name : String) : Alike (Identifier.quote name) (Identifier.quote name) [] := by
  cases h : Identifier.isBare name.toList with
  | true =>
    apply of_quoteless
    rw [Identifier.toList_quote,Identifier.quoteChars_of_isBare h]
    exact Identifier.quoteless_of_isBare h
  | false =>
    have hscan : Scans (Identifier.quote name).toList [.quoted '"' name.toList] := by
      rw [Identifier.toList_quote,Identifier.quoteChars_of_not_isBare h]
      exact .enclose (by decide) name.toList
    exact ⟨_,_,hscan,hscan,rfl,rfl⟩

end Alike

namespace AllAlike

variable {ts us ts' us' held held' : List String} {p : String}

lemma append (h : AllAlike ts us held) (h' : AllAlike ts' us' held') :
    AllAlike (ts ++ ts') (us ++ us') (held ++ held') := by
  induction h with
  | nil => exact h'
  | cons h _ ih =>
    rw [List.append_assoc]
    exact .cons h ih

lemma intercalate (h : AllAlike ts us held) (hp : Quoteless p.toList) (hne : p ≠ "") :
    Alike (p.intercalate ts) (p.intercalate us) held := by
  induction h with
  | nil => exact .of_quoteless (by simp [Quoteless])
  | cons h hs ih =>
    cases hs with
    | nil => simpa using h
    | cons h' hs =>
      rw [String.intercalate_cons_cons,String.intercalate_cons_cons]
      exact h.separated hp hne ih

section Map
variable {α : Type} {as : List α} {part : α → List String}

lemma map {f g : α → String} (h : ∀ a ∈ as, Alike (f a) (g a) (part a)) :
    AllAlike (as.map f) (as.map g) (as.flatMap part) := by
  induction as with
  | nil => exact .nil
  | cons a as ih =>
    obtain ⟨ha,has⟩ := List.forall_mem_cons.mp h
    exact .cons ha (ih has)

lemma flatMap {f g : α → List String} (h : ∀ a ∈ as, AllAlike (f a) (g a) (part a)) :
    AllAlike (as.flatMap f) (as.flatMap g) (as.flatMap part) := by
  induction as with
  | nil => exact .nil
  | cons a as ih =>
    obtain ⟨ha,has⟩ := List.forall_mem_cons.mp h
    exact ha.append (ih has)

end Map

end AllAlike

/-- The texts that are written as they are contain no quotes. -/
def AllQuoteless (fragments : List String) : Prop := ∀ t ∈ fragments, Quoteless t.toList

instance (fragments : List String) : Decidable (AllQuoteless fragments) :=
  List.decidableBAll (fun t : String => Quoteless t.toList) fragments

end WithClause
