import CodeGraph.Json.Number
/-!
The literals of JSON text. The form of a literal says where it ends; what it stands for is asked apart from that, since
a string of good form may hold half of a surrogate pair and a number of good form may exceed every float.
-/
namespace CodeGraph.Json

def isBlank (c : Char) : Bool := c == ' ' || c == '\n' || c == '\t' || c == '\r'

def skipBlanks (cs : List Char) : List Char := cs.dropWhile isBlank

/-- A character of a string literal, or one code unit of UTF-16 given by four hexadecimal digits. -/
inductive Piece where
  | char (c : Char)
  | unit (n : Nat)
  deriving DecidableEq

namespace Piece

def hexValue? (c : Char) : Option Nat :=
  if c.isDigit then some (c.toNat - '0'.toNat)
  else if 'a' ≤ c ∧ c ≤ 'f' then some (c.toNat - 'a'.toNat + 10)
  else if 'A' ≤ c ∧ c ≤ 'F' then some (c.toNat - 'A'.toNat + 10)
  else none

def unit? (a b c d : Char) : Option Piece := do
  return .unit ((((← hexValue? a) * 16 + (← hexValue? b)) * 16 + (← hexValue? c)) * 16 + (← hexValue? d))

def escape? : Char → Option Piece
  | '"' => some (.char '"')
  | '\\' => some (.char '\\')
  | '/' => some (.char '/')
  | 'b' => some (.char '\x08')
  | 'f' => some (.char '\x0c')
  | 'n' => some (.char '\n')
  | 'r' => some (.char '\r')
  | 't' => some (.char '\t')
  | _ => none

/-- The pieces of a string literal from behind its opening quote on, after those already read in reverse, and what
follows the closing quote. -/
def scan (read : List Piece) : List Char → Option (List Piece × List Char)
  | [] => none
  | '"' :: rest => some (read.reverse, rest)
  | '\\' :: 'u' :: a :: b :: c :: d :: rest =>
    match unit? a b c d with
    | some p => scan (p :: read) rest
    | none => none
  | '\\' :: e :: rest =>
    match escape? e with
    | some p => scan (p :: read) rest
    | none => none
  | c :: rest => if c == '\\' || c.toNat < 0x20 then none else scan (.char c :: read) rest

def isHigh (n : Nat) : Bool := 0xD800 ≤ n && n < 0xDC00
def isLow (n : Nat) : Bool := 0xDC00 ≤ n && n < 0xE000

/-- The characters that pieces stand for, after those already found in reverse. Surrogates stand for something in
pairs only. -/
def decode (found : List Char) : List Piece → Option (List Char)
  | [] => some found.reverse
  | .char c :: rest => decode (c :: found) rest
  | .unit n :: rest =>
    if isLow n then none
    else if isHigh n then
      match rest with
      | .unit m :: rest =>
        if isLow m then decode (Char.ofNat (0x10000 + (n - 0xD800) * 0x400 + (m - 0xDC00)) :: found) rest else none
      | _ => none
    else decode (Char.ofNat n :: found) rest

end Piece

/-- A number as it is written: the digits before the point, those after it, and those of the exponent with its sign. -/
structure Numeral where
  negative : Bool
  whole : List Char
  fraction : Option (List Char)
  power : Option (Bool × List Char)

namespace Numeral

def digits? (cs : List Char) : Option (List Char × List Char) :=
  match cs.takeWhile Char.isDigit with
  | [] => none
  | ds => some (ds, cs.dropWhile Char.isDigit)

/-- The digits before the point: zero alone, or digits that do not begin with zero. -/
def whole? (cs : List Char) : Option (List Char × List Char) :=
  (digits? cs).filter fun (ds, _) => ds.head? ≠ some '0' ∨ ds.length = 1

def fraction? (cs : List Char) : Option (Option (List Char) × List Char) :=
  match cs with
  | '.' :: rest => (digits? rest).map fun (ds, rest) => (some ds, rest)
  | _ => some (none, cs)

def power? (cs : List Char) : Option (Option (Bool × List Char) × List Char) :=
  let signed (positive : Bool) (rest : List Char) := (digits? rest).map fun (ds, rest) => (some (positive, ds), rest)
  match cs with
  | e :: rest =>
    if e == 'e' || e == 'E' then
      match rest with
      | '+' :: rest => signed true rest
      | '-' :: rest => signed false rest
      | _ => signed true rest
    else some (none, cs)
  | [] => some (none, cs)

def scan (cs : List Char) : Option (Numeral × List Char) := do
  let (negative, cs) := match cs with
    | '-' :: rest => (true, rest)
    | _ => (false, cs)
  let (whole, cs) ← whole? cs
  let (fraction, cs) ← fraction? cs
  let (power, cs) ← power? cs
  return ({ negative, whole, fraction, power }, cs)

/-- The number, if it does not exceed every float. -/
def value? (n : Numeral) : Option Number :=
  Number.ofParts n.negative n.whole n.fraction (n.power.map fun (positive, ds) => .ofDigits positive ds)

end Numeral

inductive Literal where
  | null
  | bool (value : Bool)
  | num (numeral : Numeral)
  | str (pieces : List Piece)

namespace Literal

def keyword? (word : List Char) (cs : List Char) : Option (List Char) :=
  if word.isPrefixOf cs then some (cs.drop word.length) else none

def scan (cs : List Char) : Option (Literal × List Char) :=
  match cs with
  | 'n' :: _ => (keyword? "null".toList cs).map (.null, ·)
  | 't' :: _ => (keyword? "true".toList cs).map (.bool true, ·)
  | 'f' :: _ => (keyword? "false".toList cs).map (.bool false, ·)
  | '"' :: rest => (Piece.scan [] rest).map fun (pieces, rest) => (.str pieces, rest)
  | _ => (Numeral.scan cs).map fun (n, rest) => (.num n, rest)

def value? : Literal → Option Json
  | .null => some .null
  | .bool b => some (.bool b)
  | .num n => n.value?.map .num
  | .str pieces => (Piece.decode [] pieces).map fun cs => .str (String.ofList cs)

end Literal

/-- The text of a string literal from behind its opening quote on. -/
def string? (cs : List Char) : Option (String × List Char) := do
  let (pieces, rest) ← Piece.scan [] cs
  return (String.ofList (← Piece.decode [] pieces), rest)

def literal? (cs : List Char) : Option (Json × List Char) := do
  let (l, rest) ← Literal.scan cs
  return (← l.value?, rest)

end CodeGraph.Json
