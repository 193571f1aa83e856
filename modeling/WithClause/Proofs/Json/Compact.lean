import WithClause.Json
import WithClause.Proofs.Text.Run

/-! The compact text of a JSON value can be read in one way only, provided that no real number is in it.
Strings and collections show where they end, and an integer ends where the digits do. -/
namespace WithClause

namespace Text

variable {α : Type} {write : α → List Char} {close : Char} {as bs : List α} {s t : List Char}

/-- Texts that begin with the one or the other element are equal only if the elements are and what
follows them is. No digit may follow. -/
def Cancels (write : α → List Char) (a b : α) : Prop :=
  ∀ s t, Stops Char.isDigit s → Stops Char.isDigit t → write a ++ s = write b ++ t → a = b ∧ s = t

/-- The elements of a collection behind its first one. -/
def others (write : α → List Char) (as : List α) : List Char := as.flatMap fun a => ',' :: write a

lemma stops_others (hdigit : close.isDigit = false) (as : List α) (s : List Char) :
    Stops Char.isDigit (others write as ++ close :: s) := by
  cases as with
  | nil => exact stops_cons.mpr hdigit
  | cons a as => exact stops_cons.mpr (by decide)

/-- A comma shows that an element follows, and the bracket that none does. -/
lemma others_inj (hdigit : close.isDigit = false) (hcomma : close ≠ ',')
    (hcancels : ∀ a ∈ as, ∀ b ∈ bs, Cancels write a b)
    (h : others write as ++ close :: s = others write bs ++ close :: t) : as = bs ∧ s = t := by
  induction as generalizing bs with
  | nil =>
    cases bs with
    | nil => exact ⟨rfl,List.tail_eq_of_cons_eq h⟩
    | cons b bs => exact absurd (List.head_eq_of_cons_eq h) hcomma
  | cons a as ih =>
    cases bs with
    | nil => exact absurd (List.head_eq_of_cons_eq h).symm hcomma
    | cons b bs =>
      have htail : write a ++ (others write as ++ close :: s) =
          write b ++ (others write bs ++ close :: t) := by
        simpa [others] using h
      obtain ⟨rfl,hrest⟩ := hcancels a List.mem_cons_self b List.mem_cons_self _ _
        (stops_others hdigit as s) (stops_others hdigit bs t) htail
      obtain ⟨rfl,hst⟩ := ih (fun c hc d hd => hcancels c (List.mem_cons_of_mem a hc) d
        (List.mem_cons_of_mem a hd)) hrest
      exact ⟨rfl,hst⟩

/-- An element that cannot be taken for the end of its collection. -/
def Begins (write : α → List Char) (close : Char) (a : α) : Prop :=
  ∃ c w, write a = c :: w ∧ c ≠ close

def elements (write : α → List Char) : List α → List Char
  | [] => []
  | a :: as => write a ++ others write as

theorem elements_inj (hdigit : close.isDigit = false) (hcomma : close ≠ ',')
    (has : ∀ a ∈ as, Begins write close a) (hbs : ∀ b ∈ bs, Begins write close b)
    (hcancels : ∀ a ∈ as, ∀ b ∈ bs, Cancels write a b)
    (h : elements write as ++ close :: s = elements write bs ++ close :: t) : as = bs ∧ s = t := by
  cases as with
  | nil =>
    cases bs with
    | nil => exact ⟨rfl,List.tail_eq_of_cons_eq h⟩
    | cons b bs =>
      obtain ⟨c,w,hw,hc⟩ := hbs b List.mem_cons_self
      rw [elements,elements,hw] at h
      exact absurd (List.head_eq_of_cons_eq h).symm hc
  | cons a as =>
    cases bs with
    | nil =>
      obtain ⟨c,w,hw,hc⟩ := has a List.mem_cons_self
      rw [elements,elements,hw] at h
      exact absurd (List.head_eq_of_cons_eq h) hc
    | cons b bs =>
      refine others_inj hdigit hcomma hcancels ?_
      simpa [elements, others] using h

lemma elements_map {β : Type} (f : β → α) (bs : List β) :
    elements write (bs.map f) = elements (fun b => write (f b)) bs := by
  cases bs with
  | nil => rfl
  | cons b bs => simp [elements, others, List.flatMap_map]

lemma toList_intercalate_comma (texts : List String) :
    (",".intercalate texts).toList = elements String.toList texts := by
  cases texts with
  | nil => rfl
  | cons x xs =>
    induction xs generalizing x with
    | nil => simp [elements, others]
    | cons y ys ih =>
      rw [String.intercalate_cons_cons,String.toList_append,String.toList_append,ih]
      simp [elements, others]

end Text

namespace Json
open Text

def hexValue (c : Char) : Nat := if c.isDigit then c.toNat - 48 else c.toNat - 87

lemma hexValue_hexDigit (n : Nat) : hexValue (hexDigit n) = n % 16 := by
  have hdigit : ∀ m < 16, hexValue (Nat.digitChar m) = m := by decide
  exact hdigit _ (Nat.mod_lt n (by decide))

/-- The character that is meant behind a backslash. -/
def readEscape : List Char → Option (Char × List Char)
  | 'b' :: rest => some ('\x08', rest)
  | 'f' :: rest => some ('\x0c', rest)
  | 'n' :: rest => some ('\n', rest)
  | 'r' :: rest => some ('\r', rest)
  | 't' :: rest => some ('\t', rest)
  | 'u' :: '0' :: '0' :: a :: b :: rest => some (Char.ofNat (16 * hexValue a + hexValue b), rest)
  | c :: rest => some (c, rest)
  | [] => none

/-- The first character of a string from its escaped text, unless this is at its end. -/
def readChar : List Char → Option (Char × List Char)
  | '"' :: _ => none
  | '\\' :: rest => readEscape rest
  | c :: rest => some (c, rest)
  | [] => none

lemma readChar_escapeChar (c : Char) (rest : List Char) :
    readChar (escapeChar c ++ rest) = some (c, rest) := by
  rw [escapeChar]
  split_ifs with hquote hbackslash hb hf hn hr ht hcontrol
  · rw [hquote]; rfl
  · rw [hbackslash]; rfl
  · rw [hb]; rfl
  · rw [hf]; rfl
  · rw [hn]; rfl
  · rw [hr]; rfl
  · rw [ht]; rfl
  · have hcode : 16 * hexValue (hexDigit (c.toNat / 16)) + hexValue (hexDigit c.toNat) = c.toNat := by
      rw [hexValue_hexDigit,hexValue_hexDigit]
      omega
    simp only [List.cons_append, List.nil_append, readChar, readEscape, hcode, Char.ofNat_toNat]
  · simp [readChar]

lemma escaped_inj {cs ds s t : List Char}
    (h : cs.flatMap escapeChar ++ '"' :: s = ds.flatMap escapeChar ++ '"' :: t) :
    cs = ds ∧ s = t := by
  induction cs generalizing ds with
  | nil =>
    cases ds with
    | nil => exact ⟨rfl,List.tail_eq_of_cons_eq h⟩
    | cons d ds =>
      have hread := congrArg readChar h
      rw [List.flatMap_cons,List.append_assoc,readChar_escapeChar] at hread
      cases hread
  | cons c cs ih =>
    have hread := congrArg readChar h
    rw [List.flatMap_cons,List.append_assoc,readChar_escapeChar] at hread
    cases ds with
    | nil => cases hread
    | cons d ds =>
      rw [List.flatMap_cons,List.append_assoc,readChar_escapeChar] at hread
      obtain ⟨rfl,hrest⟩ := Prod.mk.inj (Option.some.inj hread)
      obtain ⟨rfl,hst⟩ := ih hrest
      exact ⟨rfl,hst⟩

lemma toList_quote (s : String) :
    (quote s).toList = '"' :: (s.toList.flatMap escapeChar ++ ['"']) := by
  simp [quote]

lemma quote_inj {a b : String} {s t : List Char}
    (h : (quote a).toList ++ s = (quote b).toList ++ t) : a = b ∧ s = t := by
  rw [toList_quote,toList_quote] at h
  have htail : a.toList.flatMap escapeChar ++ '"' :: s = b.toList.flatMap escapeChar ++ '"' :: t := by
    simpa using h
  obtain ⟨hab,hst⟩ := escaped_inj htail
  exact ⟨String.toList_inj.mp hab,hst⟩

lemma repr_inj {m n : Nat} {s t : List Char} (hs : Stops Char.isDigit s) (ht : Stops Char.isDigit t)
    (h : m.repr.toList ++ s = n.repr.toList ++ t) : m = n ∧ s = t := by
  rw [Nat.toList_repr,Nat.toList_repr] at h
  have hdigits : ∀ k : Nat, ∀ c ∈ Nat.toDigits 10 k, c.isDigit = true := fun k c hc =>
    Nat.isDigit_of_mem_toDigits (by decide) (by decide) hc
  have hrun := congrArg (List.takeWhile Char.isDigit) h
  rw [takeWhile_run (hdigits m) hs,takeWhile_run (hdigits n) ht] at hrun
  refine ⟨?_,?_⟩
  · have hvalue := congrArg (fun cs => Nat.ofDigitChars 10 cs 0) hrun
    simpa only [Nat.ofDigitChars_ten_toDigits] using hvalue
  · rw [hrun] at h
    exact List.append_cancel_left h

/-- The values in which no real number is, at any depth. -/
inductive RealFree : Json → Prop
  | null : RealFree null
  | bool (b : Bool) : RealFree (bool b)
  | integer (n : Int) : RealFree (integer n)
  | string (s : String) : RealFree (string s)
  | array {items : List Json} (h : ∀ item ∈ items, RealFree item) : RealFree (array items)
  | object {fields : List (String × Json)} (h : ∀ field ∈ fields, RealFree field.2) :
    RealFree (object fields)

lemma RealFree.tagged {a : Json} (h : a.RealFree) (tag : String) :
    (Json.object [(tag, a)]).RealFree :=
  .object (by simpa using h)

def chars (a : Json) : List Char := a.compact.toList

def fieldChars (field : String × Json) : List Char :=
  (quote field.1).toList ++ ':' :: field.2.chars

lemma chars_array (items : List Json) :
    (array items).chars = '[' :: (elements chars items ++ [']']) := by
  rw [chars,compact,compactItems_eq_map,String.toList_append,String.toList_append,
    toList_intercalate_comma,elements_map]
  rfl

lemma chars_object (fields : List (String × Json)) :
    (object fields).chars = '\x7b' :: (elements fieldChars fields ++ ['\x7d']) := by
  have hfield : fieldChars = fun f => (quote f.1 ++ ":" ++ f.2.compact).toList := by
    funext f
    simp [fieldChars, chars]
  rw [chars,compact,compactFields_eq_map,String.toList_append,String.toList_append,
    toList_intercalate_comma,elements_map,hfield]
  rfl

lemma chars_string (s : String) : (string s).chars = (quote s).toList := rfl

lemma chars_ofNat (n : Nat) : (integer (.ofNat n)).chars = n.repr.toList := rfl

lemma chars_negSucc (n : Nat) : (integer (.negSucc n)).chars = '-' :: (n + 1).repr.toList := by
  simp [chars, compact, scalarText, Int.repr]

inductive Shape where
  | null
  | bool
  | number
  | string
  | array
  | object

def shape : Json → Shape
  | null => .null
  | bool _ => .bool
  | integer _ => .number
  | real _ => .number
  | string _ => .string
  | array _ => .array
  | object _ => .object

/-- What begins with a character, if anything does. -/
def Shape.ofChar? (c : Char) : Option Shape :=
  if c = 'n' then some null
  else if c = 't' ∨ c = 'f' then some bool
  else if c = '"' then some string
  else if c = '[' then some array
  else if c = '\x7b' then some object
  else if c = '-' ∨ c.isDigit = true then some number
  else none

lemma Shape.ofChar?_digit {c : Char} (h : c.isDigit = true) : ofChar? c = some number := by
  have hne : ∀ d : Char, d.isDigit = false → c ≠ d := by
    rintro d hd rfl
    rw [h] at hd
    cases hd
  rw [ofChar?,if_neg (hne _ (by decide)),
    if_neg (not_or.mpr ⟨hne _ (by decide),hne _ (by decide)⟩),if_neg (hne _ (by decide)),
    if_neg (hne _ (by decide)),if_neg (hne _ (by decide)),if_pos (.inr h)]

lemma exists_cons_repr (n : Nat) : ∃ c w, n.repr.toList = c :: w ∧ c.isDigit = true := by
  rw [Nat.toList_repr]
  obtain ⟨c,w,hw⟩ := List.exists_cons_of_ne_nil (Nat.toDigits_ne_nil (n := n) (b := 10))
  refine ⟨c,w,hw,Nat.isDigit_of_mem_toDigits (b := 10) (n := n) (by decide) (by decide) ?_⟩
  rw [hw]
  exact List.mem_cons_self

/-- The first character shows what a value is. -/
lemma RealFree.exists_cons {a : Json} (h : a.RealFree) :
    ∃ c w, a.chars = c :: w ∧ Shape.ofChar? c = some a.shape := by
  cases h with
  | null => exact ⟨_,_,rfl,rfl⟩
  | bool b => cases b <;> exact ⟨_,_,rfl,rfl⟩
  | integer n =>
    cases n with
    | ofNat n =>
      obtain ⟨c,w,hw,hc⟩ := exists_cons_repr n
      exact ⟨c,w,hw,Shape.ofChar?_digit hc⟩
    | negSucc n => exact ⟨_,_,chars_negSucc n,rfl⟩
  | string s => exact ⟨_,_,by rw [chars_string,toList_quote],rfl⟩
  | array _ => exact ⟨_,_,chars_array _,rfl⟩
  | object _ => exact ⟨_,_,chars_object _,rfl⟩

variable {a b : Json}

lemma RealFree.begins (h : a.RealFree) : Begins chars ']' a := by
  obtain ⟨c,w,hw,hc⟩ := h.exists_cons
  refine ⟨c,w,hw,?_⟩
  rintro rfl
  cases hc

lemma begins_field (field : String × Json) : Begins fieldChars '\x7d' field := by
  have hfield : fieldChars field = '"' :: (field.1.toList.flatMap escapeChar ++ ['"'] ++
      ':' :: field.2.chars) := by
    rw [fieldChars,toList_quote,List.cons_append]
  exact ⟨_,_,hfield,by decide⟩

lemma cancels_of_shape (ha : a.RealFree) (hb : b.RealFree)
    (h : a.shape = b.shape → Cancels chars a b) : Cancels chars a b := by
  intro s t hs ht heq
  refine h ?_ s t hs ht heq
  obtain ⟨c,v,hv,hc⟩ := ha.exists_cons
  obtain ⟨d,w,hw,hd⟩ := hb.exists_cons
  rw [hv,hw] at heq
  rw [List.head_eq_of_cons_eq heq,hd] at hc
  exact (Option.some.inj hc).symm

lemma cancels_bool (c d : Bool) : Cancels chars (bool c) (bool d) := by
  intro s t _ _ h
  cases c <;> cases d
  · exact ⟨rfl,List.append_cancel_left h⟩
  · exact absurd (List.head_eq_of_cons_eq h) (by decide)
  · exact absurd (List.head_eq_of_cons_eq h) (by decide)
  · exact ⟨rfl,List.append_cancel_left h⟩

lemma cancels_integer (m n : Int) : Cancels chars (integer m) (integer n) := by
  intro s t hs ht h
  have hsign : ∀ k : Nat, ∀ v w : List Char, k.repr.toList ++ v ≠ '-' :: w := by
    intro k v w heq
    obtain ⟨c,u,hu,hc⟩ := exists_cons_repr k
    rw [hu] at heq
    rw [List.head_eq_of_cons_eq heq] at hc
    cases hc
  cases m with
  | ofNat m =>
    rw [chars_ofNat] at h
    cases n with
    | ofNat n =>
      obtain ⟨rfl,hst⟩ := repr_inj hs ht h
      exact ⟨rfl,hst⟩
    | negSucc n =>
      rw [chars_negSucc] at h
      exact absurd h (hsign _ _ _)
  | negSucc m =>
    rw [chars_negSucc] at h
    cases n with
    | ofNat n =>
      rw [chars_ofNat] at h
      exact absurd h.symm (hsign _ _ _)
    | negSucc n =>
      rw [chars_negSucc] at h
      obtain ⟨hmn,hst⟩ := repr_inj hs ht (List.tail_eq_of_cons_eq h)
      obtain rfl := Nat.succ_injective hmn
      exact ⟨rfl,hst⟩

/-- A collection shows where it ends if its elements do. -/
lemma cancels_enclosed {α : Type} {write : α → List Char} {wrap : List α → Json}
    {opening close : Char} {as bs : List α} (hdigit : close.isDigit = false) (hcomma : close ≠ ',')
    (hwrap : ∀ cs, (wrap cs).chars = opening :: (elements write cs ++ [close]))
    (has : ∀ a ∈ as, Begins write close a) (hbs : ∀ b ∈ bs, Begins write close b)
    (hcancels : ∀ a ∈ as, ∀ b ∈ bs, Cancels write a b) :
    Cancels chars (wrap as) (wrap bs) := by
  intro s t _ _ heq
  rw [hwrap,hwrap] at heq
  have htail : elements write as ++ close :: s = elements write bs ++ close :: t := by
    simpa using heq
  obtain ⟨rfl,hst⟩ := elements_inj hdigit hcomma has hbs hcancels htail
  exact ⟨rfl,hst⟩

lemma cancels_field {f g : String × Json} (h : Cancels chars f.2 g.2) : Cancels fieldChars f g := by
  intro s t hs ht heq
  rw [fieldChars,fieldChars,List.append_assoc,List.append_assoc] at heq
  obtain ⟨hname,htail⟩ := quote_inj heq
  obtain ⟨hvalue,hst⟩ := h s t hs ht (List.tail_eq_of_cons_eq htail)
  exact ⟨Prod.ext hname hvalue,hst⟩

/-- The induction is on the first value; the second one has its shape. -/
theorem RealFree.cancels (ha : a.RealFree) (hb : b.RealFree) : Cancels chars a b := by
  induction ha generalizing b with
  | null =>
    refine cancels_of_shape .null hb fun hshape => ?_
    cases hb <;> cases hshape
    exact fun s t _ _ h => ⟨rfl,List.append_cancel_left h⟩
  | bool c =>
    refine cancels_of_shape (.bool c) hb fun hshape => ?_
    cases hb with
    | bool d => exact cancels_bool c d
    | _ => cases hshape
  | integer m =>
    refine cancels_of_shape (.integer m) hb fun hshape => ?_
    cases hb with
    | integer n => exact cancels_integer m n
    | _ => cases hshape
  | string u =>
    refine cancels_of_shape (.string u) hb fun hshape => ?_
    cases hb with
    | string v =>
      intro s t _ _ h
      obtain ⟨rfl,hst⟩ := quote_inj h
      exact ⟨rfl,hst⟩
    | _ => cases hshape
  | array hitems ih =>
    refine cancels_of_shape (.array hitems) hb fun hshape => ?_
    cases hb with
    | array hitems' =>
      exact cancels_enclosed (by decide) (by decide) chars_array (fun c hc => (hitems c hc).begins)
        (fun d hd => (hitems' d hd).begins) fun c hc d hd => ih c hc (hitems' d hd)
    | _ => cases hshape
  | object hfields ih =>
    refine cancels_of_shape (.object hfields) hb fun hshape => ?_
    cases hb with
    | object hfields' =>
      exact cancels_enclosed (by decide) (by decide) chars_object (fun f _ => begins_field f)
        (fun g _ => begins_field g) fun f hf g hg => cancels_field (ih f hf (hfields' g hg))
    | _ => cases hshape

/-- What holds no real number is determined by its compact text. -/
theorem RealFree.eq_of_compact_eq (ha : a.RealFree) (hb : b.RealFree) (h : a.compact = b.compact) :
    a = b := by
  have htext : a.chars ++ [] = b.chars ++ [] := by rw [chars,chars,h]
  exact (ha.cancels hb [] [] (by simp [Stops]) (by simp [Stops]) htext).1

end Json
end WithClause
