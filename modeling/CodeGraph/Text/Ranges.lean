/-! Sets of characters given as ranges of code points. -/
namespace CodeGraph.Text

/-- Closed ranges of code points in increasing order. -/
abbrev Ranges := List (Nat × Nat)

def Ranges.has (rs : Ranges) (c : Char) : Bool :=
  rs.any fun r => r.1 ≤ c.toNat && c.toNat ≤ r.2

end CodeGraph.Text
