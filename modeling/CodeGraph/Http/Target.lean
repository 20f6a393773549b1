import CodeGraph.Text.Natural
/-! The target of a request: the segments of its path, and the pairs of its query. -/
namespace CodeGraph

structure Target where
  path : List Char
  query : List Char
  deriving DecidableEq

namespace Target

def isSchemeChar (c : Char) : Bool := c.isAlphanum || "+-.~".toList.contains c

/-- The path and the query of a target. Before them may stand a scheme with an authority, after which an empty path
is the root; an authority alone has no path. -/
def afterAuthority (cs : List Char) : List Char :=
  match cs with
  | '/' :: _ => cs
  | _ =>
    match cs.dropWhile isSchemeChar with
    | ':' :: '/' :: '/' :: rest =>
      match rest.dropWhile fun c => c != '/' && c != '?' with
      | '/' :: path => '/' :: path
      | query => '/' :: query
    | _ => []

/-- A fragment is dropped. -/
def ofText (text : String) : Target :=
  let cs := afterAuthority (text.toList.takeWhile (· != '#'))
  { path := cs.takeWhile (· != '?'), query := (cs.dropWhile (· != '?')).drop 1 }

def hexDigit? (c : Char) : Option Nat :=
  if c.isDigit then some (c.toNat - '0'.toNat)
  else if 'a' ≤ c ∧ c ≤ 'f' then some (c.toNat - 'a'.toNat + 10)
  else if 'A' ≤ c ∧ c ≤ 'F' then some (c.toNat - 'A'.toNat + 10)
  else none

/-- The bytes of a text in which a percent sign and two hexadecimal digits stand for one byte. -/
def bytes : List Char → List UInt8
  | [] => []
  | '%' :: a :: b :: rest =>
    match hexDigit? a, hexDigit? b with
    | some x, some y => UInt8.ofNat (x * 16 + y) :: bytes rest
    | _, _ => '%'.toNat.toUInt8 :: bytes (a :: b :: rest)
  | c :: rest => (String.singleton c).toUTF8.toList ++ bytes rest

/-- The decoded text, if its bytes are one. -/
def decode? (cs : List Char) : Option String := String.fromUTF8? ⟨(bytes cs).toArray⟩

/-- The decoded text of a part of a query, where a plus sign stands for a blank. -/
def decodeQuery? (cs : List Char) : Option String := decode? (cs.map fun c => if c == '+' then ' ' else c)

/-- The values of a name in the query, each if it is a text. -/
def values (t : Target) (name : String) : List (Option String) :=
  let pairs := (t.query.splitOnP (· == '&')).filter (!·.isEmpty)
  let named := pairs.filter fun p => decodeQuery? (p.takeWhile (· != '=')) == some name
  named.map fun p => decodeQuery? ((p.dropWhile (· != '=')).drop 1)

/-- The number of a name in the query, zero if it is not given; none if it is given twice or is no number. -/
def natural? (t : Target) (name : String) : Option Nat :=
  match t.values name with
  | [] => some 0
  | [some value] => Text.natural? value.toList
  | _ => none

/-- The segments of a path that begins with a slash. -/
def segments? (t : Target) : Option (List (List Char)) :=
  match t.path with
  | '/' :: rest => some (rest.splitOnP (· == '/'))
  | _ => none

end Target
end CodeGraph
