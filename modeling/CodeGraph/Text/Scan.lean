import CodeGraph.Text.Word
/-! Finding patterns in a text, from left to right and without overlaps. -/
namespace CodeGraph.Text

/-- Tells how many characters a pattern takes at the front of a text, given the character before it; zero where the
pattern does not stand. -/
abbrev Pattern := Option Char → List Char → Nat

/-- Every occurrence of a pattern; the first `skip` characters already belong to one. -/
def occurrencesFrom (p : Pattern) (skip : Nat) (before : Option Char) : List Char → List (List Char)
  | [] => []
  | c :: cs =>
    match skip with
    | n + 1 => occurrencesFrom p n (some c) cs
    | 0 =>
      match p before (c :: cs) with
      | 0 => occurrencesFrom p 0 (some c) cs
      | n + 1 => (c :: cs.take n) :: occurrencesFrom p n (some c) cs

def occurrences (p : Pattern) (cs : List Char) : List (List Char) := occurrencesFrom p 0 none cs

/-- Whether something holds somewhere in a text, seen with the character before it. -/
def somewhere (holds : Option Char → List Char → Bool) (before : Option Char) : List Char → Bool
  | [] => false
  | c :: cs => holds before (c :: cs) || somewhere holds (some c) cs

end CodeGraph.Text
