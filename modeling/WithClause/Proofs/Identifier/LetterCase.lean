import Mathlib.Data.List.Basic
import WithClause.Proofs.Identifier.Reader

/-! Names in other letter cases. Being bare does not depend on the case, so a name is bare only if none of
its variants is reserved, and only bare names are the same to a database that folds them. -/
namespace WithClause.Identifier
open Text

/-- Texts that differ in the case of ASCII letters at most. -/
def SameLetters (v w : List Char) : Prop := v.map Char.toLower = w.map Char.toLower

instance (v w : List Char) : Decidable (SameLetters v w) :=
  inferInstanceAs (Decidable (v.map Char.toLower = w.map Char.toLower))

lemma startsBare_toLower (c : Char) : startsBare c.toLower = startsBare c := by
  cases h : c.isUpper with
  | true =>
    rw [startsBare,startsBare,isAlpha_toLower,isAlpha_of_isUpper h,Bool.true_or,Bool.true_or]
  | false => rw [toLower_eq_self h]

lemma continuesBare_toLower (c : Char) : continuesBare c.toLower = continuesBare c := by
  cases h : c.isUpper with
  | true =>
    have hstarts : startsBare c = true := by rw [startsBare,isAlpha_of_isUpper h,Bool.true_or]
    rw [continuesBare_of_startsBare hstarts]
    exact continuesBare_of_startsBare ((startsBare_toLower c).trans hstarts)
  | false => rw [toLower_eq_self h]

lemma map_toLower_map_toLower (name : List Char) :
    (name.map Char.toLower).map Char.toLower = name.map Char.toLower := by
  rw [List.map_map]
  exact List.map_congr_left fun c _ => toLower_toLower c

lemma sameLetters_map_toLower (name : List Char) : SameLetters (name.map Char.toLower) name :=
  map_toLower_map_toLower name

lemma hasBareShape_map_toLower (name : List Char) :
    hasBareShape (name.map Char.toLower) = hasBareShape name := by
  cases name with
  | nil => rfl
  | cons c cs =>
    have hall : (cs.map Char.toLower).all continuesBare = cs.all continuesBare := by
      rw [List.all_map]
      exact congrArg cs.all (funext continuesBare_toLower)
    rw [List.map_cons,hasBareShape,hasBareShape,startsBare_toLower,hall]

lemma isReserved_map_toLower (name : List Char) :
    isReserved (name.map Char.toLower) = isReserved name := by
  rw [isReserved,isReserved,map_toLower_map_toLower]

lemma isBare_map_toLower (name : List Char) : isBare (name.map Char.toLower) = isBare name := by
  rw [isBare,isBare,hasBareShape_map_toLower,isReserved_map_toLower]

lemma map_toLower_of_mem_reservedWords : ∀ w ∈ reservedWords, w.map Char.toLower = w := by
  decide +kernel

lemma isReserved_iff {name : List Char} :
    isReserved name = true ↔ ∃ w ∈ reservedWords, SameLetters w name := by
  rw [isReserved,List.contains_iff_mem]
  constructor
  · intro h
    exact ⟨_,h,sameLetters_map_toLower name⟩
  · rintro ⟨w,hw,hletters⟩
    rw [← hletters,map_toLower_of_mem_reservedWords w hw]
    exact hw

/-- A bare name is of the shape of one, and no variant of it is reserved. -/
theorem isBare_iff {name : List Char} : isBare name = true ↔
    hasBareShape name = true ∧ ∀ w, SameLetters w name → w ∉ reservedWords := by
  rw [isBare,Bool.and_eq_true,Bool.not_eq_true',Bool.eq_false_iff,ne_eq,isReserved_iff]
  constructor
  · rintro ⟨hshape,hreserved⟩
    exact ⟨hshape,fun w hletters hw => hreserved ⟨w,hw,hletters⟩⟩
  · rintro ⟨hshape,hreserved⟩
    exact ⟨hshape,fun ⟨w,hw,hletters⟩ => hreserved w hletters hw⟩

lemma head?_quoteChars {name : List Char} :
    (quoteChars name).head? = some '"' ↔ isBare name = false := by
  cases h : isBare name with
  | false =>
    rw [quoteChars_of_not_isBare h]
    exact iff_of_true rfl rfl
  | true =>
    rw [quoteChars_of_isBare h]
    refine iff_of_false ?_ Bool.false_ne_true.symm
    intro hq
    exact quote_not_mem_of_isBare h (List.mem_of_mem_head? hq)

lemma quoteChars_ne_nil (name : List Char) : quoteChars name ≠ [] := by
  intro h
  have hread : read (quoteChars name ++ []) = some (name, []) :=
    read_quoteChars name (by simp [Stops]) (by simp [Stops])
  rw [h] at hread
  cases hread

/-- What a name is written as is read as that name in front of every text that begins with a space. It
is bare only if no variant of it is reserved, and always if moreover its shape allows that. No two
names are written alike. -/
theorem quote_selfDelimiting :
    (∀ name rest : String, rest.toList.head? = some ' ' →
      read (quote name ++ rest).toList = some (name.toList, rest.toList)) ∧
    (∀ name : String, (quote name).toList.head? ≠ some '"' →
      quote name = name ∧ ∀ w, SameLetters w (quote name).toList → w ∉ reservedWords) ∧
    (∀ name : String, quote name = name ↔ hasBareShape name.toList = true ∧
      ∀ w, SameLetters w name.toList → w ∉ reservedWords) ∧
    Function.Injective quote := by
  refine ⟨?_,?_,fun name => quote_eq_self_iff.trans isBare_iff,quote_injective⟩
  · intro name rest hrest
    have hstops : ∀ p : Char → Bool, p ' ' = false → Stops p rest.toList := by
      intro p hp c hc
      rw [hrest,Option.mem_some_iff] at hc
      rwa [← hc]
    rw [String.toList_append,toList_quote]
    exact read_quoteChars name.toList (hstops _ (by decide)) (hstops _ (by decide))
  · intro name hname
    rw [toList_quote,ne_eq,head?_quoteChars,Bool.not_eq_false] at hname
    have hself := quote_eq_self_iff.mpr hname
    rw [hself]
    exact ⟨rfl,(isBare_iff.mp hname).2⟩

/-- Quotes at both ends of the name and in what follows it, a bare name that contains a reserved word, and
a reserved word in another letter case. -/
theorem quote_selfDelimiting_hostile :
    read (quote "\"a\"\"" ++ " \" AS (1)").toList = some ("\"a\"\"".toList, " \" AS (1)".toList) ∧
    (quote "Order_1").toList.head? ≠ some '"' ∧
    (∀ w, SameLetters w (quote "Order_1").toList → w ∉ reservedWords) ∧
    quote "ORDER" ≠ "ORDER" := by
  obtain ⟨hread,hbare,hself,-⟩ := quote_selfDelimiting
  have hfirst : (quote "Order_1").toList.head? ≠ some '"' := by decide +kernel
  refine ⟨hread _ _ (by decide),hfirst,(hbare _ hfirst).2,?_⟩
  intro h
  exact ((hself "ORDER").mp h).2 "order".toList (by decide) (by decide)

/-- The name that a database takes the identifier at the beginning of a text for. One in quotes is taken
as it is read, a bare one in lower case. -/
def resolve (cs : List Char) : Option (List Char) :=
  (read cs).map fun r => if cs.head? = some '"' then r.1 else r.1.map Char.toLower

/-- A name as it is taken once it has been declared. -/
def folded (name : List Char) : List Char := if isBare name then name.map Char.toLower else name

theorem resolve_quoteChars (name : List Char) {rest : List Char} (hbare : Stops continuesBare rest)
    (hquote : Stops (· == '"') rest) : resolve (quoteChars name ++ rest) = some (folded name) := by
  rw [resolve,read_quoteChars name hbare hquote,
    List.head?_append_of_ne_nil _ (quoteChars_ne_nil name),Option.map_some,folded]
  cases h : isBare name with
  | false => rw [if_pos (head?_quoteChars.mpr h),if_neg Bool.false_ne_true]
  | true =>
    have hfirst : (quoteChars name).head? ≠ some '"' := by
      rw [ne_eq,head?_quoteChars,h]
      exact Bool.false_ne_true.symm
    rw [if_neg hfirst,if_pos rfl]

/-- Names are taken for the same only if they are, or if they are bare and differ in letter case alone. -/
theorem folded_eq_iff {m n : List Char} : folded m = folded n ↔
    m = n ∨ isBare m = true ∧ isBare n = true ∧ SameLetters m n := by
  constructor
  · intro h
    rw [folded,folded] at h
    split_ifs at h with hm hn hn
    · exact .inr ⟨hm,hn,h⟩
    · rw [← h,isBare_map_toLower] at hn
      exact absurd hm hn
    · rw [h,isBare_map_toLower] at hm
      exact absurd hn hm
    · exact .inl h
  · rintro (rfl | ⟨hm,hn,h⟩)
    · rfl
    · rw [folded,folded,hm,hn]
      exact h

end WithClause.Identifier
