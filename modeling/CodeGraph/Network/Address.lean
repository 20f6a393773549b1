/-!
Addresses to bind to: an IPv4 address or a bracketed IPv6 address, a colon and a port. Numbers of an IPv4 address
have no leading zeros; an IPv6 address may leave out one run of zero groups, end in an IPv4 address and name a scope.
-/
namespace CodeGraph

inductive Host where
  | v4 (a b c d : Nat)
  | v6 (groups : List Nat) (scope : Nat)
  deriving DecidableEq, Repr

structure Address where
  host : Host
  port : Nat
  deriving DecidableEq, Repr

namespace Address

abbrev Scan (α : Type) := List Char → Option (α × List Char)

def char? (c : Char) : Scan Unit
  | d :: rest => if c = d then some ((), rest) else none
  | [] => none

def digit? (radix : Nat) (c : Char) : Option Nat :=
  let n := if c.isDigit then c.toNat - '0'.toNat
    else if 'a' ≤ c ∧ c ≤ 'f' then c.toNat - 'a'.toNat + 10
    else if 'A' ≤ c ∧ c ≤ 'F' then c.toNat - 'A'.toNat + 10
    else radix
  if n < radix then some n else none

def isDigitOf (radix : Nat) (c : Char) : Bool := (digit? radix c).isSome

/-- A number of at most `width` digits, below `bound`. -/
def number? (radix bound : Nat) (width : Option Nat) (leadingZero : Bool) : Scan Nat := fun cs =>
  let ds := cs.takeWhile (isDigitOf radix)
  let n := ds.foldl (fun n c => n * radix + (digit? radix c).getD 0) 0
  let tooLong := match width with
    | some w => w < ds.length
    | none => false
  if ds.isEmpty || tooLong || n ≥ bound || (!leadingZero && ds.length > 1 && ds.head? == some '0') then none
  else some (n, cs.dropWhile (isDigitOf radix))

def byte? : Scan Nat := number? 10 256 (some 3) false

def v4? (cs : List Char) : Option ((Nat × Nat × Nat × Nat) × List Char) := do
  let (a, cs) ← byte? cs
  let ((), cs) ← char? '.' cs
  let (b, cs) ← byte? cs
  let ((), cs) ← char? '.' cs
  let (c, cs) ← byte? cs
  let ((), cs) ← char? '.' cs
  let (d, cs) ← byte? cs
  return ((a, b, c, d), cs)

/-- What stands after a colon, which the first of several groups does without. -/
def afterColon? (first : Bool) (cs : List Char) : Option (List Char) :=
  if first then some cs else (char? ':' cs).map (·.2)

/-- Up to `room` groups and what follows them; tells whether they end in an IPv4 address. -/
def groups (first : Bool) (room : Nat) (cs : List Char) : List Nat × Bool × List Char :=
  match room with
  | 0 => ([], false, cs)
  | room + 1 =>
    let four := if room = 0 then none else (afterColon? first cs).bind v4?
    match four with
    | some ((a, b, c, d), rest) => ([a * 256 + b, c * 256 + d], true, rest)
    | none =>
      match (afterColon? first cs).bind (number? 16 65536 (some 4) true) with
      | none => ([], false, cs)
      | some (g, rest) =>
        let (more, four, rest) := groups false room rest
        (g :: more, four, rest)

def v6? (cs : List Char) : Option (List Nat × List Char) := do
  let (head, four, cs) := groups true 8 cs
  if head.length = 8 then return (head, cs)
  guard (!four)
  let ((), cs) ← char? ':' cs
  let ((), cs) ← char? ':' cs
  let (tail, _, cs) := groups true (7 - head.length) cs
  return (head ++ List.replicate (8 - head.length - tail.length) 0 ++ tail, cs)

def port? (cs : List Char) : Option (Nat × List Char) := do
  let ((), cs) ← char? ':' cs
  number? 10 65536 none true cs

def scope? (cs : List Char) : Option (Nat × List Char) := do
  let ((), cs) ← char? '%' cs
  number? 10 (Nat.pow 2 32) none true cs

def bracketed? (cs : List Char) : Option (Host × List Char) := do
  let ((), cs) ← char? '[' cs
  let (groups, cs) ← v6? cs
  let (scope, cs) := (scope? cs).getD (0, cs)
  let ((), cs) ← char? ']' cs
  return (.v6 groups scope, cs)

def host? (cs : List Char) : Option (Host × List Char) :=
  match v4? cs with
  | some ((a, b, c, d), rest) => some (.v4 a b c d, rest)
  | none => bracketed? cs

def parse? (s : String) : Option Address := do
  let (host, cs) ← host? s.toList
  let (port, cs) ← port? cs
  guard cs.isEmpty
  return { host, port }

def hex (n : Nat) : String := String.ofList (Nat.toDigits 16 n)

/-- The first of the longest runs of zeros: where it begins and how long it is. -/
def longestZeros (at_ : Nat) : List Nat → Nat × Nat
  | [] => (at_, 0)
  | g :: gs =>
    let here := ((g :: gs).takeWhile (· == 0)).length
    let (start, length) := longestZeros (at_ + 1) gs
    if here ≥ length then (at_, here) else (start, length)

def joinGroups (gs : List Nat) : String := ":".intercalate (gs.map hex)

def renderV6 (gs : List Nat) : String :=
  match gs with
  | [0, 0, 0, 0, 0, 0xFFFF, a, b] => s!"::ffff:{a / 256}.{a % 256}.{b / 256}.{b % 256}"
  | _ =>
    let (start, length) := longestZeros 0 gs
    if length > 1 then joinGroups (gs.take start) ++ "::" ++ joinGroups (gs.drop (start + length))
    else joinGroups gs

def render (a : Address) : String :=
  match a.host with
  | .v4 w x y z => s!"{w}.{x}.{y}.{z}:{a.port}"
  | .v6 groups scope =>
    let host := renderV6 groups
    if scope = 0 then s!"[{host}]:{a.port}" else s!"[{host}%{scope}]:{a.port}"

end Address
end CodeGraph
