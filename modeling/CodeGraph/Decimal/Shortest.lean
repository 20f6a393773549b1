/-!
The fewest decimal digits that name a binary64. A finite positive float is `m · 2^q`; the reals that round to it
form an interval around it, whose ends belong to it exactly when `m` is even. Of the decimal grids with 1, 2, …
digits the first that meets the interval gives the digits, and of two points that meet it the nearer one.
-/
namespace CodeGraph.Decimal

/-- `digits · 10^exponent`. -/
structure Scaled where
  digits : Nat
  exponent : Int

/-- The significand and binary exponent of a finite float, sign left aside. -/
def binary (x : Float) : Nat × Int :=
  let bits : Nat := x.toBits.toNat
  let fraction : Nat := bits % Nat.pow 2 52
  let biased : Nat := bits / Nat.pow 2 52 % 2048
  if biased = 0 then (fraction, -1074) else (fraction + Nat.pow 2 52, (biased : Int) - 1075)

def digitCount (n : Nat) : Nat := (Nat.toDigits 10 n).length

/-- A positive value and the interval of reals that round to it, over one denominator. -/
structure Interval where
  low : Nat
  value : Nat
  high : Nat
  unit : Nat
  closed : Bool

/-- Below a power of two the neighbour is half as far away as above it. -/
def interval (m : Nat) (q : Int) : Interval :=
  let scale := Nat.pow 2 q.toNat
  let below := if m = Nat.pow 2 52 ∧ q > -1074 then 1 else 2
  { low := (4 * m - below) * scale, value := 4 * m * scale, high := (4 * m + 2) * scale
    unit := 4 * Nat.pow 2 (-q).toNat, closed := m % 2 == 0 }

namespace Interval

/-- Whether `d · 10^e` rounds to the value. -/
def holds (i : Interval) (d : Nat) (e : Int) : Bool :=
  let point := d * Nat.pow 10 e.toNat * i.unit
  let scale := Nat.pow 10 (-e).toNat
  if i.closed then i.low * scale ≤ point && point ≤ i.high * scale
  else i.low * scale < point && point < i.high * scale

/-- The power of ten of the value's leading digit. -/
def leading (i : Interval) : Int :=
  let shift := digitCount i.unit
  (digitCount (i.value * Nat.pow 10 shift / i.unit) : Int) - 1 - shift

/-- The point with exponent `e` that is nearest to the value, a tie going to the even one, if any rounds to it. -/
def nearest? (i : Interval) (e : Int) : Option Scaled :=
  let num := i.value * Nat.pow 10 (-e).toNat
  let den := i.unit * Nat.pow 10 e.toNat
  let d := num / den
  let rest := num % den
  let down := i.holds d e
  let up := i.holds (d + 1) e
  let pickUp := up && (!down || 2 * rest > den || (2 * rest == den && d % 2 == 1))
  if pickUp then some ⟨d + 1, e⟩ else if down then some ⟨d, e⟩ else none

end Interval

/-- The shortest digits of a finite positive float. Seventeen always suffice. -/
def shortest (x : Float) : Scaled :=
  let (m, q) := binary x
  let i := interval m q
  let top := i.leading
  ((List.range 17).findSome? fun (n : Nat) => i.nearest? (top - n)).getD ⟨i.value, 0⟩

end CodeGraph.Decimal
