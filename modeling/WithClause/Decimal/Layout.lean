import WithClause.Decimal.Shortest

/-! Ways to write a finite binary number in decimal digits. -/
namespace WithClause.Decimal

/-- The choices that a format leaves open. -/
structure Layout where
  tie : Tie
  /-- The exponents of the leading digit, from the first up to but not including the second, for
  which no power of ten is written. Without bounds it never is. -/
  positional : Option (Int × Int)
  /-- A whole number ends in `.0`. -/
  marksWhole : Bool

def zeros (n : Nat) : String := String.ofList (List.replicate n '0')

/-- The exponent of the leading digit. -/
def leadExponent (d : Decimal) : Int := d.exponent + d.coefficient.repr.length - 1

namespace Layout

def isPositional (l : Layout) (d : Decimal) : Bool :=
  match l.positional with
  | none => true
  | some (first, last) => first ≤ d.leadExponent && d.leadExponent < last

def writePositional (l : Layout) (d : Decimal) : String :=
  let digits := d.coefficient.repr
  if 0 ≤ d.exponent then
    digits ++ zeros d.exponent.toNat ++ (if l.marksWhole then ".0" else "")
  else if 0 ≤ d.leadExponent then
    let whole := (d.leadExponent + 1).toNat
    String.ofList (digits.toList.take whole) ++ "." ++ String.ofList (digits.toList.drop whole)
  else
    "0." ++ zeros (-d.leadExponent - 1).toNat ++ digits

def writeScientific (d : Decimal) : String :=
  let digits := d.coefficient.repr.toList
  let fraction := digits.drop 1
  String.ofList (digits.take 1)
    ++ (if fraction.isEmpty then "" else "." ++ String.ofList fraction)
    ++ (if d.leadExponent < 0 then "e-" else "e+") ++ d.leadExponent.natAbs.repr

def writeDecimal (l : Layout) (d : Decimal) : String :=
  if l.isPositional d then l.writePositional d else writeScientific d

/-- The text of a finite number. A zero keeps its sign. -/
def write (l : Layout) (x : Binary64) : String :=
  (if x.isNegative then "-" else "")
    ++ if x.isZero then l.writePositional ⟨0, 0⟩ else l.writeDecimal (shortest l.tie x)

end Layout
end WithClause.Decimal
