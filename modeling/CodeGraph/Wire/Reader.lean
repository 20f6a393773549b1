import Std.Data.ExtTreeSet
import Std.Data.ExtTreeMap
import CodeGraph.Json.Printer
import CodeGraph.Text.Quoted
import CodeGraph.Time.Parser
import CodeGraph.Time.Printer
/-!
Readers of JSON values by type, and why a value is refused. A reader names what it expected and what it found.
-/
namespace CodeGraph

/-- A finite set of texts; equal sets are equal values. -/
abbrev StringSet := Std.ExtTreeSet String

def addAll (set : StringSet) (names : List String) : StringSet := set.insertMany names

inductive Fault where
  | wrongType (found : Json) (expected : String)
  | wrongValue (found : Json) (expected : String)
  | wrongLength (length : Nat) (expected : String)
  | missingField (name : String)
  | unknownVariant (name : String) (known : List String)
  | badTime (fault : TimeFault)

namespace Fault

def describe : Json → String
  | .null => "null"
  | .bool true => "boolean `true`"
  | .bool false => "boolean `false`"
  | .num (.int n) => s!"integer `{toString n}`"
  | .num (.float x) => s!"floating point `{Decimal.write Decimal.jsonNotation x}`"
  | .str s => "string " ++ Text.quoted s
  | .arr _ => "sequence"
  | .obj _ => "map"

def alternatives : List String → String
  | [] => "there are no variants"
  | [a] => s!"expected `{a}`"
  | [a, b] => s!"expected `{a}` or `{b}`"
  | names => "expected one of " ++ ", ".intercalate (names.map fun n => s!"`{n}`")

def message : Fault → String
  | wrongType found expected => s!"invalid type: {describe found}, expected {expected}"
  | wrongValue found expected => s!"invalid value: {describe found}, expected {expected}"
  | wrongLength length expected => s!"invalid length {length}, expected {expected}"
  | missingField name => s!"missing field `{name}`"
  | unknownVariant name known => s!"unknown variant `{name}`, {alternatives known}"
  | badTime fault => fault.message

end Fault

abbrev Reader (α : Type) := Json → Except Fault α

namespace Reader

def value : Reader Json := .ok

def unit : Reader Unit
  | .null => .ok ()
  | j => .error (.wrongType j "unit")

def boolean : Reader Bool
  | .bool b => .ok b
  | j => .error (.wrongType j "a boolean")

def string : Reader String
  | .str s => .ok s
  | j => .error (.wrongType j "a string")

def float : Reader Float
  | .num n => .ok n.toFloat
  | j => .error (.wrongType j "f64")

/-- A natural number of that many bits; the width is spelt as the message has it. -/
def natural (bits : Nat) (width : String) : Reader Nat
  | .num (.int n) =>
    if 0 ≤ n ∧ n.toNat < Nat.pow 2 bits then .ok n.toNat else .error (.wrongValue (.num (.int n)) width)
  | j => .error (.wrongType j width)

def nullable (read : Reader α) : Reader (Option α)
  | .null => .ok none
  | j => (read j).map some

def items (read : Reader α) : List Json → Except Fault (List α)
  | [] => .ok []
  | j :: js =>
    match read j with
    | .error e => .error e
    | .ok a => (items read js).map (a :: ·)

def list (read : Reader α) : Reader (List α)
  | .arr js => items read js
  | j => .error (.wrongType j "a sequence")

def set : Reader StringSet := fun j => (list string j).map fun xs => Std.ExtTreeSet.ofList xs

def members (read : Reader α) : List (String × Json) → Except Fault (List (String × α))
  | [] => .ok []
  | (name, j) :: ms =>
    match read j with
    | .error e => .error e
    | .ok a => (members read ms).map ((name, a) :: ·)

def map (read : Reader α) : Reader (Std.ExtTreeMap String α)
  | .obj ms => (members read ms).map fun xs => Std.ExtTreeMap.ofList xs
  | j => .error (.wrongType j "a map")

def time : Reader Time
  | .str s =>
    match Time.parse s with
    | .ok t => .ok t
    | .error e => .error (.badTime e)
  | j => .error (.wrongType j "an RFC 3339 formatted date and time string")

def variant (known : List (String × α)) (name : String) : Except Fault α :=
  match known.lookup name with
  | some a => .ok a
  | none => .error (.unknownVariant name (known.map (·.1)))

/-- One of a fixed choice of names, given bare or as an object with that one member, which is then `null`. -/
def choice (known : List (String × α)) : Reader α
  | .str name => variant known name
  | .obj [(name, content)] => do
    let a ← variant known name
    unit content
    return a
  | .obj ms => .error (.wrongValue (.obj ms) "map with a single key")
  | j => .error (.wrongType j "string or map")

end Reader

namespace Json

def ofSet (s : StringSet) : Json := .arr (s.toList.map .str)

def ofMap (write : α → Json) (m : Std.ExtTreeMap String α) : Json :=
  .obj (m.toList.map fun e => (e.1, write e.2))

def ofTime (t : Time) : Json := .str t.render

end Json
end CodeGraph
