import CodeGraph.Time.Basic
import CodeGraph.Text.Blank
/-!
Reading a time: RFC 3339, relaxed in that numbers may be short of their width, blanks may stand before each part, a
blank may replace the `T`, and the offset may be `UTC` or lack its colon.
-/
namespace CodeGraph

inductive TimeFault where
  | outOfRange
  | impossible
  | invalid
  | tooShort
  | tooLong
  deriving DecidableEq, Repr

def TimeFault.message : TimeFault → String
  | .outOfRange => "input is out of range"
  | .impossible => "no possible date and time matching input"
  | .invalid => "input contains invalid characters"
  | .tooShort => "premature end of input"
  | .tooLong => "trailing input"

namespace Time.Parser

abbrev Step (α : Type) := Except TimeFault (α × List Char)

def digitsValue (ds : List Char) : Nat := ds.foldl (fun n c => n * 10 + (c.toNat - '0'.toNat)) 0

/-- A number of one digit or more, of which at most `width` are read (all of them without a width); it must fit 63
bits. -/
def number (width : Option Nat) (cs : List Char) : Step Nat :=
  match cs with
  | [] => .error .tooShort
  | c :: _ =>
    if !c.isDigit then .error .invalid else
    let run := cs.takeWhile Char.isDigit
    let ds := match width with
      | some w => run.take w
      | none => run
    let n := digitsValue ds
    if n < Nat.pow 2 63 then .ok (n, cs.drop ds.length) else .error .outOfRange

/-- A number of at most two digits within bounds, blanks before it skipped. -/
def bounded (low high : Nat) (cs : List Char) : Step Nat :=
  match number (some 2) (Text.trimStart cs) with
  | .ok (n, rest) => if low ≤ n ∧ n ≤ high then .ok (n, rest) else .error .outOfRange
  | .error e => .error e

/-- A year has four digits, or any number of them after a sign. -/
def year (cs : List Char) : Step Int :=
  let signed : Step Int := match Text.trimStart cs with
    | '-' :: rest => (number none rest).map fun (n, rest) => (-(n : Int), rest)
    | '+' :: rest => (number none rest).map fun (n, rest) => ((n : Int), rest)
    | rest => (number (some 4) rest).map fun (n, rest) => ((n : Int), rest)
  match signed with
  | .ok (y, rest) => if -2147483648 ≤ y ∧ y < 2147483648 then .ok (y, rest) else .error .outOfRange
  | .error e => .error e

/-- One character, blanks before it skipped. -/
def mark (c : Char) (cs : List Char) : Except TimeFault (List Char) :=
  match Text.trimStart cs with
  | [] => .error .tooShort
  | d :: rest => if c = d then .ok rest else .error .invalid

/-- A fraction of a second, in nanoseconds; digits beyond the ninth are dropped. -/
def fraction (cs : List Char) : Step Nat :=
  match cs with
  | '.' :: rest =>
    match number (some 9) rest with
    | .ok (n, after) =>
      .ok (n * Nat.pow 10 (9 - (rest.length - after.length)), after.dropWhile Char.isDigit)
    | .error e => .error e
  | _ => .ok (0, cs)

/-- The first bytes of a text decide whether it is too short for what is wanted of it. -/
def byteLength (cs : List Char) : Nat := (cs.map fun c => c.utf8Size).foldl (· + ·) 0

def twoDigits (cs : List Char) : Step Nat :=
  if byteLength cs < 2 then .error .tooShort else
  match cs with
  | a :: b :: rest => if a.isDigit && b.isDigit then .ok (digitsValue [a, b], rest) else .error .invalid
  | _ => .error .invalid

def minutes (cs : List Char) : Step Nat :=
  match twoDigits cs with
  | .ok (n, rest) => if n < 60 then .ok (n, rest) else .error .outOfRange
  | .error e => .error e

/-- Hours and minutes of an offset, with colons or blanks between them or nothing. -/
def clockOffset (cs : List Char) : Except TimeFault (Nat × List Char) := do
  let (hours, cs) ← twoDigits cs
  let (minutes, cs) ← minutes (cs.dropWhile fun c => c == ':' || Text.isBlank c)
  return (hours * 3600 + minutes * 60, cs)

def isUtc : List Char → Option (List Char)
  | a :: b :: c :: rest =>
    if a.toUpper == 'U' && b.toUpper == 'T' && c.toUpper == 'C' then some rest else none
  | _ => none

/-- Seconds east of UTC. -/
def offset (cs : List Char) : Step Int :=
  match isUtc cs with
  | some rest => .ok (0, rest)
  | none =>
    match cs with
    | [] => .error .tooShort
    | c :: rest =>
      if c == 'Z' || c == 'z' then .ok (0, rest)
      else if c == '+' then (clockOffset rest).map fun (s, rest) => ((s : Int), rest)
      else if c == '-' || c.toNat == 0x2212 then (clockOffset rest).map fun (s, rest) => (-(s : Int), rest)
      else .error .invalid

def separator (cs : List Char) : Except TimeFault (List Char) :=
  match cs with
  | [] => .error .tooShort
  | c :: rest => if c == 't' || c == 'T' || c == ' ' then .ok rest else .error .invalid

end Time.Parser

open Time.Parser in
/-- The moment that a text names. -/
def Time.parse (s : String) : Except TimeFault Time := do
  let (year, cs) ← year s.toList
  let cs ← mark '-' cs
  let (month, cs) ← bounded 1 12 cs
  let cs ← mark '-' cs
  let (day, cs) ← bounded 1 31 cs
  let cs ← separator cs
  let (hour, cs) ← bounded 0 23 cs
  let cs ← mark ':' cs
  let (minute, cs) ← bounded 0 59 cs
  let cs ← mark ':' cs
  let (second, cs) ← bounded 0 60 cs
  let (nano, cs) ← fraction cs
  let (offset, cs) ← offset (Text.trimStart cs)
  if !(Text.trimStart cs).isEmpty then throw .tooLong
  let date : Date := ⟨year, month, day⟩
  if !date.isValid then throw .outOfRange
  if offset.natAbs ≥ secondsPerDay then throw .outOfRange
  let leap := second = 60
  let inDay := hour * 3600 + minute * 60 + if leap then 59 else second
  match Time.ofLocal? date inDay (nano + if leap then nanosPerSecond else 0) offset with
  | some t => return t
  | none => throw .impossible

end CodeGraph
