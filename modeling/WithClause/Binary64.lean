/-! Binary64 numbers of IEEE 754 as the words that encode them. They are compared and written, never
computed with, so no arithmetic is defined. -/
namespace WithClause

structure Binary64 where
  bits : UInt64
  deriving DecidableEq

namespace Binary64

def isNegative (x : Binary64) : Bool := Nat.pow 2 63 ≤ x.bits.toNat

def exponentField (x : Binary64) : Nat := x.bits.toNat / Nat.pow 2 52 % Nat.pow 2 11

def fractionField (x : Binary64) : Nat := x.bits.toNat % Nat.pow 2 52

def isFinite (x : Binary64) : Bool := x.exponentField < 2047

def isNaN (x : Binary64) : Bool := !x.isFinite && x.fractionField != 0

def isZero (x : Binary64) : Bool := x.exponentField == 0 && x.fractionField == 0

/-- The magnitude of a finite number is `significand * 2 ^ scale`. -/
def significand (x : Binary64) : Nat :=
  if x.exponentField = 0 then x.fractionField else Nat.pow 2 52 + x.fractionField

def scale (x : Binary64) : Int := (max x.exponentField 1 : Nat) - 1075

/-- The number of next smaller magnitude is half as far away as the one of next larger magnitude. -/
def isBinadeStart (x : Binary64) : Bool := x.fractionField == 0 && 1 < x.exponentField

/-- Equality of numbers: a NaN differs from everything, the two zeros are equal. -/
def same (x y : Binary64) : Bool :=
  !x.isNaN && !y.isNaN && (x.bits == y.bits || (x.isZero && y.isZero))

theorem same_self (x : Binary64) : x.same x = !x.isNaN := by
  simp [same]

theorem same_comm (x y : Binary64) : x.same y = y.same x := by
  simp only [same, BEq.comm (a := x.bits)]
  cases x.isNaN <;> cases y.isNaN <;> cases x.isZero <;> cases y.isZero <;> rfl

theorem same_trans {x y z : Binary64} (hxy : x.same y = true) (hyz : y.same z = true) :
    x.same z = true := by
  simp only [same, Bool.and_eq_true, Bool.not_eq_true', Bool.or_eq_true, beq_iff_eq] at *
  obtain ⟨⟨hx, hy⟩, h | h⟩ := hxy <;> obtain ⟨⟨-, hz⟩, h' | h'⟩ := hyz
  · exact ⟨⟨hx, hz⟩, .inl (h.trans h')⟩
  · obtain rfl : x = y := by cases x; cases y; simp_all
    exact ⟨⟨hx, hz⟩, .inr h'⟩
  · obtain rfl : y = z := by cases y; cases z; simp_all
    exact ⟨⟨hx, hz⟩, .inr h⟩
  · exact ⟨⟨hx, hz⟩, .inr ⟨h.1, h'.2⟩⟩

end Binary64
end WithClause
