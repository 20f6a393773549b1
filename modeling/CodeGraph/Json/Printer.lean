import CodeGraph.Json.Basic
import CodeGraph.Decimal.Notation
/-! The compact text of a JSON value. -/
namespace CodeGraph.Json

/-- Control characters without a short escape are written as `\u` and four hexadecimal digits. -/
def escapeChar (c : Char) : List Char :=
  match c with
  | '"' => ['\\', '"']
  | '\\' => ['\\', '\\']
  | '\n' => ['\\', 'n']
  | '\r' => ['\\', 'r']
  | '\t' => ['\\', 't']
  | '\x08' => ['\\', 'b']
  | '\x0c' => ['\\', 'f']
  | c =>
    if c.toNat < 0x20 then
      ['\\', 'u', '0', '0', Nat.digitChar (c.toNat / 16), Nat.digitChar (c.toNat % 16)]
    else [c]

def quote (s : String) : String :=
  "\"" ++ String.ofList (s.toList.flatMap escapeChar) ++ "\""

def renderNumber : Number → String
  | .int n => toString n
  | .float x => Decimal.write Decimal.jsonNotation x

mutual

def render : Json → String
  | .null => "null"
  | .bool b => if b then "true" else "false"
  | .num n => renderNumber n
  | .str s => quote s
  | .arr xs => "[" ++ ",".intercalate (renderItems xs) ++ "]"
  | .obj ms => "\x7b" ++ ",".intercalate (renderMembers ms) ++ "\x7d"

def renderItems : List Json → List String
  | [] => []
  | x :: xs => render x :: renderItems xs

def renderMembers : List (String × Json) → List String
  | [] => []
  | m :: ms => renderMember m :: renderMembers ms

def renderMember : String × Json → String
  | (name, value) => quote name ++ ":" ++ render value

end

end CodeGraph.Json
