/-! The nesting depth of round parentheses, counted everywhere in a text. -/
namespace WithClause.Text

/-- The number of parentheses left open after the text, or nothing once more are closed than
were open. -/
def depthAfter : Nat → List Char → Option Nat
  | depth, [] => some depth
  | depth, c :: cs =>
    if c = '(' then depthAfter (depth + 1) cs
    else if c = ')' then
      match depth with
      | 0 => none
      | depth + 1 => depthAfter depth cs
    else depthAfter depth cs

/-- Every parenthesis that closes has one before it that opens, and all are closed at the end. -/
def balanced (cs : List Char) : Bool := depthAfter 0 cs == some 0

@[simp] theorem depthAfter_nil (depth : Nat) : depthAfter depth [] = some depth := rfl

@[simp] theorem depthAfter_open (depth : Nat) (cs : List Char) :
    depthAfter depth ('(' :: cs) = depthAfter (depth + 1) cs := by
  simp only [depthAfter, if_true]

@[simp] theorem depthAfter_zero_close (cs : List Char) : depthAfter 0 (')' :: cs) = none := by
  simp [depthAfter]

@[simp] theorem depthAfter_succ_close (depth : Nat) (cs : List Char) :
    depthAfter (depth + 1) (')' :: cs) = depthAfter depth cs := by
  simp [depthAfter]

theorem depthAfter_of_ne {c : Char} (ho : c ≠ '(') (hc : c ≠ ')') (depth : Nat) (cs : List Char) :
    depthAfter depth (c :: cs) = depthAfter depth cs := by
  simp only [depthAfter, ho, hc, if_false]

theorem depthAfter_append (depth : Nat) (xs ys : List Char) :
    depthAfter depth (xs ++ ys) = (depthAfter depth xs).bind (depthAfter · ys) := by
  induction xs generalizing depth with
  | nil => rfl
  | cons c xs ih =>
    simp only [List.cons_append, depthAfter]
    by_cases ho : c = '('
    · simp only [ho, if_true, ih]
    · by_cases hc : c = ')'
      · cases depth with
        | zero => simp [hc]
        | succ depth => simp [hc, ih]
      · simp only [ho, hc, if_false, ih]

end WithClause.Text
