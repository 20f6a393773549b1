import CodeGraph.Json.Literal
/-! Reading JSON text. Of a repeated member name the last member counts. -/
namespace CodeGraph.Json

mutual

/-- A value nested at most `levels` deep, and what follows it. The steps bound the characters and brackets still to be
read. -/
def valueWithin (steps levels : Nat) (cs : List Char) : Option (Json × List Char) :=
  match steps with
  | 0 => none
  | steps + 1 =>
    match skipBlanks cs with
    | '[' :: rest =>
      match levels, skipBlanks rest with
      | 0, _ => none
      | _ + 1, ']' :: rest => some (.arr [], rest)
      | levels + 1, rest => itemsWithin steps levels [] rest
    | '{' :: rest =>
      match levels, skipBlanks rest with
      | 0, _ => none
      | _ + 1, '}' :: rest => some (.obj [], rest)
      | levels + 1, rest => membersWithin steps levels [] rest
    | cs => literal? cs

/-- One or more items up to the closing bracket, after those already read in reverse. -/
def itemsWithin (steps levels : Nat) (read : List Json) (cs : List Char) : Option (Json × List Char) :=
  match steps with
  | 0 => none
  | steps + 1 =>
    match valueWithin steps levels cs with
    | none => none
    | some (item, rest) =>
      match skipBlanks rest with
      | ']' :: rest => some (.arr (item :: read).reverse, rest)
      | ',' :: rest => itemsWithin steps levels (item :: read) rest
      | _ => none

/-- One or more members up to the closing brace, after those already read in reverse. -/
def membersWithin (steps levels : Nat) (read : List (String × Json)) (cs : List Char) : Option (Json × List Char) :=
  match steps with
  | 0 => none
  | steps + 1 =>
    match skipBlanks cs with
    | '"' :: rest =>
      match string? rest with
      | none => none
      | some (name, rest) =>
        match skipBlanks rest with
        | ':' :: rest =>
          match valueWithin steps levels rest with
          | none => none
          | some (value, rest) =>
            match skipBlanks rest with
            | '}' :: rest => some (.object ((name, value) :: read).reverse, rest)
            | ',' :: rest => membersWithin steps levels ((name, value) :: read) rest
            | _ => none
        | _ => none
    | _ => none

end

/-- A value that is read nests at most 127 levels deep. -/
def maxLevels : Nat := 127

/-- The value that a text begins with, and what follows it. -/
def value? (cs : List Char) : Option (Json × List Char) := valueWithin (2 * cs.length + 2) maxLevels cs

/-- The value that a whole text stands for. -/
def parse? (text : String) : Option Json :=
  match value? text.toList with
  | some (j, rest) => if (skipBlanks rest).isEmpty then some j else none
  | none => none

end CodeGraph.Json
