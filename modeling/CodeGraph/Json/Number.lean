import CodeGraph.Json.Basic
/-!
Reading a JSON number. An integer that fits 64 bits stays one; anything else becomes a binary64, computed by one
multiplication or division of the first significant digits (as many as fit 64 bits) by a power of ten. That is
within a last place of the number written, and exact for up to fifteen digits.
-/
namespace CodeGraph.Number

def maxUnsigned : Nat := Nat.pow 2 64 - 1

def digitValue (c : Char) : Nat := c.toNat - '0'.toNat

/-- Digits gathered into 64 bits, the power of ten still owed, and whether a digit has been left out. -/
structure Significand where
  value : Nat
  exponent : Int
  full : Bool

/-- A digit before the point: one that no longer fits only raises the exponent, and so do all after it. -/
def Significand.pushWhole (s : Significand) (c : Char) : Significand :=
  if s.full then { s with exponent := s.exponent + 1 } else
  let v := s.value * 10 + digitValue c
  if v ≤ maxUnsigned then { s with value := v } else { s with exponent := s.exponent + 1, full := true }

/-- A digit after the point: from the first that no longer fits on, they are ignored. -/
def Significand.pushFraction (s : Significand) (c : Char) : Significand :=
  if s.full then s else
  let v := s.value * 10 + digitValue c
  if v ≤ maxUnsigned then { s with value := v, exponent := s.exponent - 1 } else { s with full := true }

def powerOfTen (n : Nat) : Float := .ofScientific 1 false n

/-- `x · 10^e`, or none if it exceeds every float. A division beyond `10^308` is done in steps of that size, of
which `steps` many are enough to reach zero. -/
def scale (x : Float) (e : Int) (steps : Nat) : Option Float :=
  if e.natAbs ≤ 308 then
    if 0 ≤ e then
      let y := x * powerOfTen e.toNat
      if y.isInf then none else some y
    else some (x / powerOfTen e.natAbs)
  else if x == 0 then some x
  else if 0 ≤ e then none
  else match steps with
    | 0 => some 0
    | n + 1 => scale (x / powerOfTen 308) (e + 308) n

/-- An exponent part: its value, or a mark that it exceeds 31 bits. -/
inductive Power where
  | exact (value : Int)
  | huge (positive : Bool)

def Power.ofDigits (positive : Bool) (ds : List Char) : Power :=
  let v := ds.foldl (fun v c => v * 10 + digitValue c) 0
  if v < Nat.pow 2 31 then .exact (if positive then v else -v) else .huge positive

/-- The number with these digits before the point, digits after it if there is one, and exponent if there is one;
none if it exceeds every float. -/
def ofParts (negative : Bool) (whole : List Char) (fraction : Option (List Char)) (power : Option Power) :
    Option Number :=
  let sign (x : Float) : Number := .float (if negative then -x else x)
  let s := whole.foldl Significand.pushWhole ⟨0, 0, false⟩
  match fraction, power, s.full with
  | none, none, false =>
    if negative then
      if 0 < s.value ∧ s.value ≤ Nat.pow 2 63 then some (.int (-s.value)) else some (sign (.ofNat s.value))
    else some (.int s.value)
  | _, _, _ =>
    let s := (fraction.getD []).foldl Significand.pushFraction { s with full := false }
    match power.getD (.exact 0) with
    | .huge positive => if s.value = 0 ∨ !positive then some (sign 0) else none
    | .exact e => (scale (.ofNat s.value) (s.exponent + e) 8).map sign

end CodeGraph.Number
