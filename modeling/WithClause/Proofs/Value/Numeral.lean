import Mathlib.Tactic.Common
import WithClause.Value

/-! The characters in the texts of values that hold no text of their own. -/
namespace WithClause
namespace Text

/-- ASCII letters and digits, the sign and the decimal point. -/
def isNumeral (c : Char) : Bool := c.isAlphanum || c == '-' || c == '.'

/-- A text such as a number has, possibly empty. -/
def Numeral (cs : List Char) : Prop := ∀ c ∈ cs, isNumeral c = true

instance (cs : List Char) : Decidable (Numeral cs) :=
  List.decidableBAll (isNumeral · = true) cs

@[simp] theorem numeral_append {xs ys : List Char} :
    Numeral (xs ++ ys) ↔ Numeral xs ∧ Numeral ys := List.forall_mem_append

lemma Numeral.sublist {xs ys : List Char} (h : Numeral ys) (hsub : xs.Sublist ys) : Numeral xs :=
  fun c hc => h c (hsub.subset hc)

@[simp] theorem numeral_repr (n : ℕ) : Numeral n.repr.toList := by
  intro c hc
  rw [Nat.toList_repr] at hc
  have hdigit := Nat.isDigit_of_mem_toDigits (by decide) (by decide) hc
  simp [isNumeral, Char.isAlphanum, hdigit]

@[simp] theorem numeral_repr_int (n : Int) : Numeral n.repr.toList := by
  cases n with
  | ofNat n => exact numeral_repr n
  | negSucc n =>
    change Numeral ("-" ++ n.succ.repr).toList
    rw [String.toList_append,numeral_append]
    exact ⟨by decide,numeral_repr _⟩

end Text

namespace Decimal
open Text

@[simp] theorem numeral_zeros (n : ℕ) : Numeral (zeros n).toList := by
  intro c hc
  rw [zeros,String.toList_ofList] at hc
  obtain rfl := List.eq_of_mem_replicate hc
  decide

theorem Layout.numeral_writePositional (l : Layout) (d : Decimal) :
    Numeral (l.writePositional d).toList := by
  have hdigits := numeral_repr d.coefficient
  rw [writePositional]
  split_ifs
  · simp only [String.toList_append, numeral_append, hdigits, numeral_zeros, true_and]
    decide
  · simp only [String.toList_append, numeral_append, hdigits, numeral_zeros, true_and]
    decide
  · simp only [String.toList_append, String.toList_ofList, numeral_append]
    exact ⟨⟨hdigits.sublist (List.take_sublist _ _),by decide⟩,
      hdigits.sublist (List.drop_sublist _ _)⟩
  · simp only [String.toList_append, numeral_append, numeral_zeros, hdigits, and_true]
    decide

end Decimal

namespace Value
open Text

/-- A number is never written with a power of ten. -/
theorem numeral_floatText (x : Binary64) : Numeral (floatText x).toList := by
  have hdecimal : ∀ d, numberLayout.writeDecimal d = numberLayout.writePositional d :=
    fun d => rfl
  rw [floatText]
  split_ifs
  · rw [Decimal.Layout.write,hdecimal,String.toList_append,numeral_append]
    constructor
    · split_ifs <;> decide
    · split_ifs <;> exact Decimal.Layout.numeral_writePositional _ _
  all_goals decide

end Value
end WithClause
