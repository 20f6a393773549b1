import CodeGraph.Json.Literal
/-!
Where a value of a JSON text ends, found without reading it: its form is checked, to any depth, but its strings and
numbers need not stand for anything.
-/
namespace CodeGraph.Json

inductive Bracket where
  | square
  | curly
  deriving DecidableEq

/-- What comes next in a value: a value, the name of a member, or what joins or closes. -/
inductive Due where
  | value
  | name
  | joint
  deriving DecidableEq

/-- What follows the value once all open brackets, the innermost first, are closed. Every step but the last takes a
character. -/
def afterWithin (steps : Nat) (due : Due) (opened : List Bracket) (cs : List Char) : Option (List Char) :=
  match steps with
  | 0 => none
  | steps + 1 =>
    match due, opened with
    | .joint, [] => some cs
    | .joint, .square :: outer =>
      match skipBlanks cs with
      | ',' :: rest => afterWithin steps .value opened rest
      | ']' :: rest => afterWithin steps .joint outer rest
      | _ => none
    | .joint, .curly :: outer =>
      match skipBlanks cs with
      | ',' :: rest => afterWithin steps .name opened rest
      | '}' :: rest => afterWithin steps .joint outer rest
      | _ => none
    | .name, _ =>
      match skipBlanks cs with
      | '"' :: rest =>
        match (Piece.scan [] rest).map fun (_, rest) => skipBlanks rest with
        | some (':' :: rest) => afterWithin steps .value opened rest
        | _ => none
      | _ => none
    | .value, _ =>
      match skipBlanks cs with
      | '[' :: rest =>
        match skipBlanks rest with
        | ']' :: rest => afterWithin steps .joint opened rest
        | rest => afterWithin steps .value (.square :: opened) rest
      | '{' :: rest =>
        match skipBlanks rest with
        | '}' :: rest => afterWithin steps .joint opened rest
        | rest => afterWithin steps .name (.curly :: opened) rest
      | cs =>
        match Literal.scan cs with
        | some (_, rest) => afterWithin steps .joint opened rest
        | none => none

/-- What follows the value that a text begins with. -/
def after? (cs : List Char) : Option (List Char) := afterWithin (cs.length + 1) .value [] cs

end CodeGraph.Json
