import CodeGraph.Time.Basic
/-!
The written form of a time: RFC 3339 with a `Z`, the fraction in as few of three, six or nine places as hold it, and
years outside four digits with a sign. A leap second is written as the sixtieth.
-/
namespace CodeGraph

/-- At least `width` digits. -/
def padDigits (width n : Nat) : List Char :=
  let ds := Nat.toDigits 10 n
  List.replicate (width - ds.length) '0' ++ ds

namespace Time

def yearChars (y : Int) : List Char :=
  if 0 ≤ y ∧ y ≤ 9999 then padDigits 4 y.toNat
  else (if y < 0 then '-' else '+') :: padDigits 4 y.natAbs

def fractionChars (nano : Nat) : List Char :=
  if nano = 0 then []
  else if nano % 1000000 = 0 then '.' :: padDigits 3 (nano / 1000000)
  else if nano % 1000 = 0 then '.' :: padDigits 6 (nano / 1000)
  else '.' :: padDigits 9 nano

def chars (t : Time) : List Char :=
  let leap := t.nano ≥ nanosPerSecond
  let second := t.second % 60 + if leap then 1 else 0
  yearChars t.date.year ++ '-' :: padDigits 2 t.date.month ++ '-' :: padDigits 2 t.date.day
    ++ 'T' :: padDigits 2 (t.second / 3600) ++ ':' :: padDigits 2 (t.second / 60 % 60) ++ ':' :: padDigits 2 second
    ++ fractionChars (t.nano % nanosPerSecond) ++ ['Z']

def render (t : Time) : String := String.ofList t.chars

end Time
end CodeGraph
