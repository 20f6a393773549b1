/-!
JSON values and the questions asked of them. The members of an object that was read or built here stand in
increasing order of their names, each name once.
-/
namespace CodeGraph

/-- An integer that fits 64 bits (signed or unsigned), or a finite binary64. -/
inductive Number where
  | int (value : Int)
  | float (value : Float)

inductive Json where
  | null
  | bool (value : Bool)
  | num (value : Number)
  | str (value : String)
  | arr (items : List Json)
  | obj (members : List (String × Json))

instance : Inhabited Json := ⟨.null⟩

/-- The nearest binary64 of a number. -/
def Number.toFloat : Number → Float
  | .int n => .ofInt n
  | .float x => x

namespace Json

def isNull : Json → Bool
  | .null => true
  | _ => false

def str? : Json → Option String
  | .str s => some s
  | _ => none

def float? : Json → Option Float
  | .num n => some n.toFloat
  | _ => none

def arr? : Json → Option (List Json)
  | .arr xs => some xs
  | _ => none

def obj? : Json → Option (List (String × Json))
  | .obj ms => some ms
  | _ => none

/-- The member of that name; nothing has members but an object. -/
def get? (j : Json) (name : String) : Option Json :=
  j.obj?.bind (·.lookup name)

/-- The member of that name, where `null` counts as absent. -/
def present? (members : List (String × Json)) (name : String) : Option Json :=
  (members.lookup name).filter (!·.isNull)

def nat (n : Nat) : Json := .num (.int n)

/-- A float has a JSON form only when it is finite. -/
def float (x : Float) : Json := if x.isFinite then .num (.float x) else .null

def ofOption (write : α → Json) : Option α → Json
  | none => .null
  | some a => write a

def ofList (write : α → Json) (xs : List α) : Json := .arr (xs.map write)

/-- Puts a member in its place by name; a later member of the same name replaces the earlier. -/
def insertMember (name : String) (value : Json) : List (String × Json) → List (String × Json)
  | [] => [(name, value)]
  | (n, v) :: rest =>
    match compare name n with
    | .lt => (name, value) :: (n, v) :: rest
    | .eq => (name, value) :: rest
    | .gt => (n, v) :: insertMember name value rest

/-- The object of members given in any order. -/
def object (members : List (String × Json)) : Json :=
  .obj (members.foldl (fun ms m => insertMember m.1 m.2 ms) [])

end Json
end CodeGraph
