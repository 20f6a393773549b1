import CodeGraph.Wire.Reader
/-!
Readers of records. A record is given as an object, whose unknown members are skipped, or as an array of its fields
in order. Of several faults in an object the first member that is refused is reported, and only if none is, the
first field that is missing.
-/
namespace CodeGraph

structure Field where
  name : String
  check : Json → Except Fault Unit
  /-- Whether an array of the fields may end before this one. -/
  optional : Bool

structure Record (α : Type) where
  fields : List Field
  build : (String → Option Json) → Except Fault α

namespace Record

def map (f : α → β) (x : Record α) : Record β := ⟨x.fields, fun find => (x.build find).map f⟩

def seq (f : Record (α → β)) (x : Record α) : Record β :=
  { fields := f.fields ++ x.fields
    build := fun find => do
      let g ← f.build find
      let a ← x.build find
      return g a }

instance : Functor Record := ⟨map, fun b x => map (fun _ => b) x⟩
instance : Seq Record := ⟨fun f x => seq f (x ())⟩

def field (name : String) (read : Reader α) (optional : Bool) (absent : Except Fault α) : Record α :=
  { fields := [⟨name, fun j => (read j).map fun _ => (), optional⟩]
    build := fun find =>
      match find name with
      | some j => read j
      | none => absent }

def required (name : String) (read : Reader α) : Record α :=
  field name read false (.error (.missingField name))

/-- A field that has this value when it is left out. -/
def defaulted (name : String) (read : Reader α) (value : α) : Record α :=
  field name read true (.ok value)

/-- A field that may be `null` or left out, but not from an array. -/
def nullable (name : String) (read : Reader α) : Record (Option α) :=
  field name (Reader.nullable read) false (.ok none)

/-- The first member whose field refuses it. -/
def firstRefusal (fields : List Field) : List (String × Json) → Option Fault
  | [] => none
  | (name, j) :: ms =>
    match fields.find? (·.name == name) with
    | none => firstRefusal fields ms
    | some f =>
      match f.check j with
      | .error e => some e
      | .ok () => firstRefusal fields ms

/-- Why an array is no list of these fields, the first of which stands at place `i`. The two texts say what was
expected where the array is too short, and where it is too long. -/
def arrayRefusal (whole fewer : String) (total : Nat) (i : Nat) : List Field → List Json → Option Fault
  | [], [] => none
  | [], _ :: _ => some (.wrongLength total fewer)
  | f :: fs, [] => if f.optional then arrayRefusal whole fewer total (i + 1) fs [] else some (.wrongLength i whole)
  | f :: fs, j :: js =>
    match f.check j with
    | .error e => some e
    | .ok () => arrayRefusal whole fewer total (i + 1) fs js

def plural (n : Nat) : String := if n = 1 then "1 element" else s!"{n} elements"

def readMembers (r : Record α) (ms : List (String × Json)) : Except Fault α :=
  match r.build (ms.lookup ·) with
  | .ok a => .ok a
  | .error e => .error ((firstRefusal r.fields ms).getD e)

def readArray (name fewer : String) (r : Record α) (js : List Json) : Except Fault α :=
  match arrayRefusal s!"struct {name} with {plural r.fields.length}" fewer js.length 0 r.fields js with
  | some e => .error e
  | none => r.build (((r.fields.map (·.name)).zip js).lookup ·)

/-- Reads the record of that name. An array of too many items is refused in the words given. -/
def readSaying (fewer name : String) (r : Record α) : Reader α
  | .obj ms => readMembers r ms
  | .arr js => readArray name fewer r js
  | j => .error (.wrongType j s!"struct {name}")

/-- Reads the record of that name. -/
def read (name : String) (r : Record α) : Reader α := readSaying "fewer elements in array" name r

/-- Reads the record of that name. An array of too many items is told how many there should be. -/
def readCounted (name : String) (r : Record α) : Reader α :=
  let count := plural r.fields.length
  readSaying s!"{count} in sequence" name r

/-- Reads a record some of whose members make up a record of their own, side by side with the others; never an
array. Faults of the outer record come first; records within the inner one are to be read counted. -/
def readJoined (name : String) (outer : Record (α → β)) (inner : Record α) : Reader β
  | .obj ms =>
    match readMembers outer ms with
    | .error e => .error e
    | .ok f => (readMembers inner ms).map f
  | j => .error (.wrongType j s!"struct {name}")

end Record
end CodeGraph
