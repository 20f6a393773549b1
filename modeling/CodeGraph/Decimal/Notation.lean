import CodeGraph.Decimal.Shortest
/-!
How floats are written: the shortest digits, positional while the decimal point stays within sixteen places to the
right of the first digit or five to the left, and with an exponent beyond that.
-/
namespace CodeGraph.Decimal

/-- Where positional notation ends and how an exponent is marked. -/
structure Notation where
  /-- Least number of digits before the point that is written positionally; zero and below means leading zeros. -/
  least : Int
  most : Int
  positive : String
  negative : String

/-- JSON text writes `0.00001` and `1000000000000000.0`, but `1e-6` and `1e+16`. -/
def jsonNotation : Notation := ⟨-4, 16, "e+", "e-"⟩

def zeros (n : Nat) : String := String.ofList (List.replicate n '0')

/-- Digits `ds` with the point after the first `place` of them. -/
def Notation.layout (n : Notation) (ds : List Char) (place : Int) : String :=
  let text := String.ofList ds
  if n.least ≤ place ∧ place ≤ 0 then "0." ++ zeros (-place).toNat ++ text
  else if 0 < place ∧ place ≤ n.most then
    let whole := place.toNat
    if ds.length ≤ whole then text ++ zeros (whole - ds.length) ++ ".0"
    else String.ofList (ds.take whole) ++ "." ++ String.ofList (ds.drop whole)
  else
    let power := place - 1
    let mark := if power < 0 then n.negative else n.positive
    let rest := ds.drop 1
    let point := if rest.isEmpty then "" else "." ++ String.ofList rest
    String.ofList (ds.take 1) ++ point ++ mark ++ toString power.natAbs

def dropTrailingZeros (ds : List Char) : List Char :=
  (ds.reverse.dropWhile (· == '0')).reverse

/-- The text of a finite float. -/
def write (n : Notation) (x : Float) : String :=
  let sign := if x.toBits ≥ 0x8000000000000000 then "-" else ""
  if x == 0 then sign ++ "0.0" else
  let s := shortest x
  let ds := Nat.toDigits 10 s.digits
  sign ++ n.layout (dropTrailingZeros ds) (ds.length + s.exponent)

end CodeGraph.Decimal
