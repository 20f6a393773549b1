import CodeGraph.Json.Extent
import CodeGraph.Json.Parser
import CodeGraph.Wire.Record
/-!
JSON bodies of requests. A body that is no JSON is told apart from one that is not what was asked for; if it is both,
what comes first in the text counts. Members that nobody asked for are passed over, not read.
-/
namespace CodeGraph

inductive BodyFault where
  | malformed
  | mismatched
  deriving DecidableEq, Repr

/-- Reads the value of a certain shape that a text begins with. Gives what was asked for of it, and what follows. -/
abbrev Shape := List Char → Except BodyFault (Json × List Char)

namespace Shape

def orMalformed : Option α → Except BodyFault α
  | some a => .ok a
  | none => .error .malformed

def any : Shape := fun cs => orMalformed (Json.value? cs)

/-- A literal that is accepted. An array or object is refused where it begins. -/
def leaf (accepts : Json → Bool) : Shape := fun cs =>
  match Json.skipBlanks cs with
  | '[' :: _ | '{' :: _ => .error .mismatched
  | cs =>
    match Json.literal? cs with
    | some (j, rest) => if accepts j then .ok (j, rest) else .error .mismatched
    | none => .error .malformed

def text : Shape := leaf fun j => j.str?.isSome
def number : Shape := leaf fun j => j.float?.isSome

/-- What is wrong where neither a list nor a record begins. -/
def unfit : Shape := leaf fun _ => false

def nullable (shape : Shape) : Shape := fun cs =>
  match Json.Literal.keyword? "null".toList (Json.skipBlanks cs) with
  | some rest => .ok (.null, rest)
  | none => shape cs

/-- One or more items up to the closing bracket, after those already read in reverse. There are fewer than `steps`. -/
def items (item : Shape) (steps : Nat) (read : List Json) (cs : List Char) : Except BodyFault (Json × List Char) :=
  match steps with
  | 0 => .error .malformed
  | steps + 1 =>
    match item cs with
    | .error fault => .error fault
    | .ok (j, rest) =>
      match Json.skipBlanks rest with
      | ']' :: rest => .ok (.arr (j :: read).reverse, rest)
      | ',' :: rest => items item steps (j :: read) rest
      | _ => .error .malformed

def list (item : Shape) : Shape := fun cs =>
  match Json.skipBlanks cs with
  | '[' :: rest =>
    match Json.skipBlanks rest with
    | ']' :: rest => .ok (.arr [], rest)
    | rest => items item (rest.length + 1) [] rest
  | cs => unfit cs

/-- A field of a record: its name, its shape, and whether it must be given. -/
structure Part where
  name : String
  shape : Shape
  required : Bool := false

/-- The record of the members that were given. -/
def complete (parts : List Part) (given : List (String × Json)) (rest : List Char) :
    Except BodyFault (Json × List Char) :=
  if parts.all fun p => !p.required || given.any (·.1 == p.name) then .ok (.object given, rest)
  else .error .mismatched

/-- A colon and the value of a member, which is kept if it is a part of the record. -/
def member (part : Option Part) (given : List (String × Json)) (cs : List Char) :
    Except BodyFault (List (String × Json) × List Char) :=
  match Json.skipBlanks cs with
  | ':' :: rest =>
    match part with
    | some p => (p.shape rest).map fun (j, rest) => ((p.name, j) :: given, rest)
    | none => (orMalformed (Json.after? rest)).map (given, ·)
  | _ => .error .malformed

/-- One or more members up to the closing brace, after the parts already given. A part may not be given twice. There
are fewer members than `steps`. -/
def members (parts : List Part) (steps : Nat) (given : List (String × Json)) (cs : List Char) :
    Except BodyFault (Json × List Char) :=
  match steps with
  | 0 => .error .malformed
  | steps + 1 =>
    match Json.skipBlanks cs with
    | '"' :: rest =>
      match Json.string? rest with
      | none => .error .malformed
      | some (name, rest) =>
        if given.any (·.1 == name) then .error .mismatched else
        match member (parts.find? (·.name == name)) given rest with
        | .error fault => .error fault
        | .ok (given, rest) =>
          match Json.skipBlanks rest with
          | '}' :: rest => complete parts given rest
          | ',' :: rest => members parts steps given rest
          | _ => .error .malformed
    | _ => .error .malformed

/-- An item that is not the first stands behind a comma. -/
def afterComma? (first : Bool) (cs : List Char) : Option (List Char) :=
  match first, cs with
  | true, cs => some cs
  | false, ',' :: rest => some rest
  | false, _ => none

/-- The parts still to come, given in order up to the closing bracket. -/
def fields (parts : List Part) (given : List (String × Json)) (first : Bool) (cs : List Char) :
    Except BodyFault (Json × List Char) :=
  match parts, Json.skipBlanks cs with
  | parts, ']' :: rest => complete parts given rest
  | [], _ => .error .malformed
  | p :: parts, cs =>
    match afterComma? first cs with
    | none => .error .malformed
    | some cs =>
      match p.shape cs with
      | .error fault => .error fault
      | .ok (j, rest) => fields parts ((p.name, j) :: given) false rest

/-- A record, given as an object or as an array of its parts in order. -/
def record (parts : List Part) : Shape := fun cs =>
  match Json.skipBlanks cs with
  | '{' :: rest =>
    match Json.skipBlanks rest with
    | '}' :: rest => complete parts [] rest
    | rest => members parts (rest.length + 1) [] rest
  | '[' :: rest => fields parts [] true rest
  | cs => unfit cs

end Shape

/-- Reads a body of a shape. Only blanks may follow it. -/
def readBody (shape : Shape) (read : Reader α) (text : String) : Except BodyFault α :=
  match shape text.toList with
  | .error fault => .error fault
  | .ok (j, rest) =>
    if (Json.skipBlanks rest).isEmpty then
      match read j with
      | .ok a => .ok a
      | .error _ => .error .mismatched
    else .error .malformed

end CodeGraph
