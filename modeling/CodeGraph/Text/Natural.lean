/-! Natural numbers of 64 bits in decimal digits. -/
namespace CodeGraph.Text

/-- The number that ASCII digits spell, perhaps after a plus sign. -/
def natural? (cs : List Char) : Option Nat :=
  let ds := if cs.head? == some '+' then cs.drop 1 else cs
  if ds.isEmpty || !ds.all Char.isDigit then none else
  let n := ds.foldl (fun n c => n * 10 + (c.toNat - '0'.toNat)) 0
  if n < Nat.pow 2 64 then some n else none

end CodeGraph.Text
