import WithClause.NamedExpression
import WithClause.Proofs.Text.Run

/-! The grammar of what stands in front of a body, `name AS (`, and the reader of it. -/
namespace WithClause.NamedExpression
open Text

/-- The ways to write a name. -/
inductive Spelling where
  | bare
  | backticks
  | doubleQuotes
  deriving DecidableEq

namespace Spelling

/-- The names that can be written so. A quoted name is everything but its own quote. -/
def Permits : Spelling → List Char → Prop
  | bare, name => ∃ c cs, name = c :: cs ∧ startsName c = true ∧ ∀ d ∈ cs, continuesName d = true
  | backticks, name => '\x60' ∉ name
  | doubleQuotes, name => '"' ∉ name

def write : Spelling → List Char → List Char
  | bare, name => name
  | backticks, name => '\x60' :: name ++ ['\x60']
  | doubleQuotes, name => '"' :: name ++ ['"']

lemma write_injective (name : List Char) : Function.Injective (write · name) := by
  intro s t h
  have hlen := congrArg List.length h
  cases s <;> cases t <;> simp [write] at h hlen ⊢ <;> omega

end Spelling

/-- One or more of space, tab, carriage return and line feed. -/
def IsGap (w : List Char) : Prop := w ≠ [] ∧ ∀ c ∈ w, isSpacing c = true

instance (w : List Char) : Decidable (IsGap w) :=
  have : Decidable (∀ c ∈ w, isSpacing c = true) := List.decidableBAll (isSpacing · = true) w
  inferInstanceAs (Decidable (w ≠ [] ∧ ∀ c ∈ w, isSpacing c = true))

/-- The word `AS` in any letter case. -/
def IsAs (w : List Char) : Prop := w.map Char.toLower = ['a', 's']

instance (w : List Char) : Decidable (IsAs w) :=
  inferInstanceAs (Decidable (w.map Char.toLower = ['a', 's']))

lemma IsAs.isAlpha {w : List Char} (h : IsAs w) : ∀ c ∈ w, c.isAlpha = true := by
  intro c hc
  have hm : c.toLower ∈ w.map Char.toLower := List.mem_map_of_mem hc
  rw [h] at hm
  rw [← isAlpha_toLower]
  revert hm
  generalize c.toLower = d
  simp only [List.mem_cons, List.not_mem_nil, or_false]
  rintro (rfl | rfl) <;> decide

lemma IsAs.ne_nil {w : List Char} (h : IsAs w) : w ≠ [] := by
  rintro rfl
  simp [IsAs] at h

lemma IsAs.permits_bare {w : List Char} (h : IsAs w) : Spelling.bare.Permits w := by
  cases w with
  | nil => exact absurd rfl h.ne_nil
  | cons c cs =>
    have hname : ∀ d ∈ c :: cs, startsName d = true := by
      intro d hd
      rw [startsName,isAlphabetic_of_isAlpha (h.isAlpha d hd),Bool.true_or]
    refine ⟨c,cs,rfl,hname c List.mem_cons_self,?_⟩
    exact fun d hd => continuesName_of_startsName (hname d (List.mem_cons_of_mem c hd))

lemma IsAs.stops_isSpacing {w : List Char} (h : IsAs w) (rest : List Char) :
    Stops isSpacing (w ++ rest) := by
  rw [stops_append h.ne_nil]
  exact fun c hc => isSpacing_of_isAlpha (h.isAlpha c (List.mem_of_mem_head? hc))

lemma IsGap.stops_continuesName {w : List Char} (h : IsGap w) (rest : List Char) :
    Stops continuesName (w ++ rest) := by
  rw [stops_append h.1]
  exact fun c hc => continuesName_of_isSpacing (h.2 c (List.mem_of_mem_head? hc))

theorem readQuoted_eq_some_iff {q : Char} {cs name rest : List Char} :
    readQuoted q cs = some (name, rest) ↔ cs = name ++ q :: rest ∧ q ∉ name := by
  constructor
  · intro h
    unfold readQuoted at h
    split at h
    · cases h
    · next c tail hdrop =>
      cases h
      obtain ⟨hcs,hname,hstop⟩ := run_iff.mp ⟨rfl,hdrop⟩
      have hc : c = q := by simpa using hstop
      subst hc
      exact ⟨hcs,fun hq => by simpa using hname c hq⟩
  · rintro ⟨rfl,hq⟩
    have hname : ∀ c ∈ name, (c != q) = true := by
      intro c hc
      rw [bne_iff_ne]
      rintro rfl
      exact hq hc
    have hstop : Stops (· != q) (q :: rest) := by simp
    rw [readQuoted,dropWhile_run hname hstop,takeWhile_run hname hstop]

lemma startsName_ne_quote {c : Char} (h : startsName c = true) : c ≠ '\x60' ∧ c ≠ '"' := by
  constructor <;> rintro rfl <;> revert h <;> decide +kernel

lemma readName_quoted {q : Char} {name : List Char} (hq : q = '\x60' ∨ q = '"') (hname : q ∉ name)
    (rest : List Char) : readName (q :: name ++ [q] ++ rest) = some (name, rest) := by
  rw [List.append_assoc,List.cons_append,readName,if_pos hq]
  exact readQuoted_eq_some_iff.mpr ⟨rfl,hname⟩

/-- A bare name ends where no name goes on, a quoted one at its quote. -/
theorem readName_eq_some_iff {cs name rest : List Char} :
    readName cs = some (name, rest) ↔ ∃ s : Spelling, s.Permits name ∧ cs = s.write name ++ rest ∧
      (s = .bare → Stops continuesName rest) := by
  constructor
  · intro h
    cases cs with
    | nil => cases h
    | cons c cs =>
      rw [readName] at h
      split at h
      · next hq =>
        obtain ⟨rfl,hname⟩ := readQuoted_eq_some_iff.mp h
        rcases hq with rfl | rfl
        · exact ⟨.backticks,hname,by simp [Spelling.write],by simp⟩
        · exact ⟨.doubleQuotes,hname,by simp [Spelling.write],by simp⟩
      · split at h
        · next hc =>
          cases h
          obtain ⟨hcs,hname,hstop⟩ := run_iff.mp ⟨rfl,rfl⟩
          exact ⟨.bare,⟨c,_,rfl,hc,hname⟩,congrArg (c :: ·) hcs,fun _ => hstop⟩
        · cases h
  · rintro ⟨s,hs,rfl,hstop⟩
    cases s with
    | bare =>
      obtain ⟨c,cs,rfl,hc,hcs⟩ := hs
      have hquote : ¬ (c = '\x60' ∨ c = '"') := not_or.mpr (startsName_ne_quote hc)
      rw [Spelling.write,List.cons_append,readName,if_neg hquote,if_pos hc,
        takeWhile_run hcs (hstop rfl),dropWhile_run hcs (hstop rfl)]
    | backticks => exact readName_quoted (.inl rfl) hs rest
    | doubleQuotes => exact readName_quoted (.inr rfl) hs rest

theorem skipSpacing_eq_some_iff {cs rest : List Char} :
    skipSpacing cs = some rest ↔ ∃ w, IsGap w ∧ cs = w ++ rest ∧ Stops isSpacing rest := by
  constructor
  · intro h
    cases cs with
    | nil => cases h
    | cons c cs =>
      rw [skipSpacing] at h
      split at h
      · next hc =>
        cases h
        obtain ⟨hcs,hw,hstop⟩ := run_iff.mp ⟨rfl,rfl⟩
        refine ⟨c :: cs.takeWhile isSpacing,⟨by simp,?_⟩,congrArg (c :: ·) hcs,hstop⟩
        simpa [hc] using hw
      · cases h
  · rintro ⟨w,⟨hne,hw⟩,rfl,hstop⟩
    cases w with
    | nil => exact absurd rfl hne
    | cons c w =>
      rw [List.cons_append,skipSpacing,if_pos (hw c List.mem_cons_self),
        dropWhile_run (fun d hd => hw d (List.mem_cons_of_mem c hd)) hstop]

theorem skipAs_eq_some_iff {cs rest : List Char} :
    skipAs cs = some rest ↔ ∃ k, IsAs k ∧ cs = k ++ rest := by
  constructor
  · intro h
    unfold skipAs at h
    split at h
    · next a s tail =>
      split at h
      · next hk =>
        cases h
        exact ⟨[a, s],by simp [IsAs, hk.1, hk.2],rfl⟩
      · cases h
    · cases h
  · rintro ⟨k,hk,rfl⟩
    rcases k with - | ⟨a,- | ⟨s,- | ⟨c,k⟩⟩⟩ <;> simp [IsAs] at hk
    simp [skipAs, hk]

theorem skipOpen_eq_some_iff {cs rest : List Char} :
    skipOpen cs = some rest ↔ cs = '(' :: rest := by
  cases cs with
  | nil => simp [skipOpen]
  | cons c cs =>
    rw [skipOpen]
    split <;> simp_all

/-- What stands in front of a body, taken apart. -/
@[ext] structure Head where
  spelling : Spelling
  name : List Char
  permitted : spelling.Permits name
  before : List Char
  before_isGap : IsGap before
  keyword : List Char
  keyword_isAs : IsAs keyword
  after : List Char
  after_isGap : IsGap after

def Head.text (h : Head) : List Char :=
  h.spelling.write h.name ++ h.before ++ h.keyword ++ h.after ++ ['(']

lemma Head.text_append (h : Head) (rest : List Char) : h.text ++ rest =
    h.spelling.write h.name ++ (h.before ++ (h.keyword ++ (h.after ++ '(' :: rest))) := by
  simp [text]

lemma stops_isSpacing_open (rest : List Char) : Stops isSpacing ('(' :: rest) := by
  rw [stops_cons]
  decide

namespace Head

variable (h : Head) (rest : List Char)

lemma readName_text : readName (h.text ++ rest) =
    some (h.name, h.before ++ (h.keyword ++ (h.after ++ '(' :: rest))) :=
  readName_eq_some_iff.mpr ⟨h.spelling,h.permitted,h.text_append rest,
    fun _ => h.before_isGap.stops_continuesName _⟩

lemma skipSpacing_before : skipSpacing (h.before ++ (h.keyword ++ (h.after ++ '(' :: rest))) =
    some (h.keyword ++ (h.after ++ '(' :: rest)) :=
  skipSpacing_eq_some_iff.mpr ⟨h.before,h.before_isGap,rfl,h.keyword_isAs.stops_isSpacing _⟩

lemma skipAs_keyword : skipAs (h.keyword ++ (h.after ++ '(' :: rest)) =
    some (h.after ++ '(' :: rest) :=
  skipAs_eq_some_iff.mpr ⟨h.keyword,h.keyword_isAs,rfl⟩

lemma skipSpacing_after : skipSpacing (h.after ++ '(' :: rest) = some ('(' :: rest) :=
  skipSpacing_eq_some_iff.mpr ⟨h.after,h.after_isGap,rfl,stops_isSpacing_open rest⟩

/-- The reader finds the name of a head and stops right behind it. -/
theorem readHead_text : readHead (h.text ++ rest) = some (h.name, rest) := by
  simp [readHead, readNamedAs, readName_text, skipSpacing_before, skipAs_keyword,
    skipSpacing_after, skipOpen]

end Head

/-- The parts are where the reader stops, so there is only one way to take a text apart. -/
theorem Head.eq_of_text_append {g h : Head} {r s : List Char} (heq : g.text ++ r = h.text ++ s) :
    g = h ∧ r = s := by
  have hname := g.readName_text r
  rw [heq,h.readName_text s] at hname
  obtain ⟨hn,hbefore⟩ := Prod.mk.inj (Option.some.inj hname)
  have hkeyword := g.skipSpacing_before r
  rw [← hbefore,h.skipSpacing_before s] at hkeyword
  have hk := Option.some.inj hkeyword
  have hafter := g.skipAs_keyword r
  rw [← hk,h.skipAs_keyword s] at hafter
  have ha := Option.some.inj hafter
  have hopen := g.skipSpacing_after r
  rw [← ha,h.skipSpacing_after s] at hopen
  obtain ⟨-,hrest⟩ := List.cons.inj (Option.some.inj hopen)
  -- all rests agree, so each part is what is left of it in front of its rest
  rw [g.text_append,h.text_append,hbefore,hn] at heq
  rw [hk] at hbefore
  rw [ha] at hk
  rw [hrest] at ha
  refine ⟨Head.ext ?_ hn.symm ?_ ?_ ?_,hrest.symm⟩
  · exact Spelling.write_injective g.name (List.append_cancel_right heq)
  · exact (List.append_cancel_right hbefore).symm
  · exact (List.append_cancel_right hk).symm
  · exact (List.append_cancel_right ha).symm

/-- Without a name the text before the body is `AS (` alone. -/
def IsNameless (cs rest : List Char) : Prop :=
  ∃ k w, IsAs k ∧ IsGap w ∧ cs = k ++ (w ++ '(' :: rest)

theorem readHead_nameless {cs rest : List Char} (h : IsNameless cs rest) :
    readHead cs = some ([], rest) := by
  obtain ⟨k,w,hk,hw,rfl⟩ := h
  have hname : readName (k ++ (w ++ '(' :: rest)) = some (k, w ++ '(' :: rest) :=
    readName_eq_some_iff.mpr ⟨.bare,hk.permits_bare,rfl,fun _ => hw.stops_continuesName _⟩
  have hgap : skipSpacing (w ++ '(' :: rest) = some ('(' :: rest) :=
    skipSpacing_eq_some_iff.mpr ⟨w,hw,rfl,stops_isSpacing_open rest⟩
  -- the keyword is taken for a name first, but no keyword follows it
  have hnot : skipAs ('(' :: rest) = none := by
    cases rest <;> simp [skipAs]
  have has : skipAs (k ++ (w ++ '(' :: rest)) = some (w ++ '(' :: rest) :=
    skipAs_eq_some_iff.mpr ⟨k,hk,rfl⟩
  simp [readHead, readNamedAs, readNamelessAs, hname, hgap, hnot, has, skipOpen]

theorem readHead_eq_some_iff {cs name rest : List Char} : readHead cs = some (name, rest) ↔
    (∃ h : Head, cs = h.text ++ rest ∧ name = h.name) ∨ (name = [] ∧ IsNameless cs rest) := by
  constructor
  · intro h
    simp only [readHead, readNamedAs, readNamelessAs, Option.bind_eq_bind, Option.bind_eq_some_iff,
      Option.orElse_eq_orElse, Option.orElse_eq_or, Option.or_eq_some_iff, Option.pure_def] at h
    obtain ⟨⟨n,t⟩,hhead,u,hgap,v,hopen,heq⟩ := h
    cases heq
    obtain ⟨w,hw,rfl,-⟩ := skipSpacing_eq_some_iff.mp hgap
    obtain rfl := skipOpen_eq_some_iff.mp hopen
    rcases hhead with ⟨⟨m,t⟩,hname,u,hbefore,v,has,heq⟩ | ⟨-,v,has,heq⟩
    · cases heq
      obtain ⟨s,hs,rfl,-⟩ := readName_eq_some_iff.mp hname
      obtain ⟨b,hb,rfl,-⟩ := skipSpacing_eq_some_iff.mp hbefore
      obtain ⟨k,hk,rfl⟩ := skipAs_eq_some_iff.mp has
      exact .inl ⟨⟨s,m,hs,b,hb,k,hk,w,hw⟩,by simp [Head.text],rfl⟩
    · cases heq
      obtain ⟨k,hk,rfl⟩ := skipAs_eq_some_iff.mp has
      exact .inr ⟨rfl,k,w,hk,hw,rfl⟩
  · rintro (⟨h,rfl,rfl⟩ | ⟨rfl,h⟩)
    · exact h.readHead_text rest
    · exact readHead_nameless h

end WithClause.NamedExpression
