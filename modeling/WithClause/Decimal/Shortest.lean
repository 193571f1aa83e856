import WithClause.Binary64

/-! The shortest decimal that rounds to a given binary number, found in exact integer arithmetic. -/
namespace WithClause

/-- The number `coefficient * 10 ^ exponent`. -/
structure Decimal where
  coefficient : Nat
  exponent : Int
  deriving DecidableEq

namespace Decimal

/-- The choice between two decimals at the same distance. -/
inductive Tie where
  | up
  | even

/-- A binary number with the interval of reals that round to it, all in units of
`10 ^ exponent`. -/
structure Window where
  low : Nat
  value : Nat
  high : Nat
  closed : Bool
  exponent : Int

namespace Window

/-- The interval reaches half way to both neighbours. In quarters of the last binary place its
ends are integers, and the unit turns those into integers of a power of ten. -/
def ofBinary (x : Binary64) : Window :=
  let quarter := x.scale - 2
  let unit := if 0 ≤ quarter then Nat.pow 2 quarter.toNat else Nat.pow 5 (-quarter).toNat
  { low := (4 * x.significand - if x.isBinadeStart then 1 else 2) * unit
    value := 4 * x.significand * unit
    high := (4 * x.significand + 2) * unit
    closed := x.significand % 2 == 0
    exponent := min quarter 0 }

def contains (w : Window) (n : Nat) : Bool :=
  if w.closed then w.low ≤ n && n ≤ w.high else w.low < n && n < w.high

/-- Of the two multiples of `grid` next to the value, the one inside the interval, and the nearer
one if both are inside. -/
def onGrid (w : Window) (tie : Tie) (grid : Nat) : Option Nat :=
  let below := w.value / grid
  let above := below + 1
  let distance := w.value % grid
  if w.contains (below * grid) then
    if w.contains (above * grid) then
      if 2 * distance < grid then some below
      else if grid < 2 * distance then some above
      else match tie with
        | .up => some above
        | .even => some (if below % 2 = 0 then below else above)
    else some below
  else if w.contains (above * grid) then some above
  else none

/-- The decimal on the coarsest of the grids up to `10 ^ power` that meets the interval. The value
itself lies on the finest one. -/
def coarsest (w : Window) (tie : Tie) : Nat → Decimal
  | 0 => ⟨w.value, w.exponent⟩
  | power + 1 =>
    match w.onGrid tie (Nat.pow 10 (power + 1)) with
    | some n => ⟨n, w.exponent + (power + 1 : Nat)⟩
    | none => w.coarsest tie power

end Window

/-- The decimal of fewest digits that rounds to a finite number other than zero, and among those the
nearest one. A power of ten above the whole interval has no multiple in it, so the search
starts there; four factors of ten are more than thirteen bits. -/
def shortest (tie : Tie) (x : Binary64) : Decimal :=
  let w := Window.ofBinary x
  w.coarsest tie (4 * (w.high.log2 + 1) / 13 + 1)

end Decimal
end WithClause
