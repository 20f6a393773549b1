import CodeGraph.Text.Blank
/-!
Paths of project files. A reported path is resolved against the project's root without looking at any disk: it must
stay inside the root, and what remains are the names that lead there from the root.
-/
namespace CodeGraph

/-- Why a reported path is refused. -/
inductive PathFault where
  | empty
  | outsideRoot (raw : String)
  | escapesRoot (raw : String)
  | rootItself (raw : String)
  deriving DecidableEq, Repr

def PathFault.message : PathFault → String
  | empty => "empty path"
  | outsideRoot raw => s!"{raw}: absolute path outside the project root"
  | escapesRoot raw => s!"{raw}: escapes the project root"
  | rootItself raw => s!"{raw}: names the project root itself"

namespace ProjectPath

def slashed (cs : List Char) : List Char := cs.map fun c => if c == '\\' then '/' else c

/-- The parts of a path that mean something: neither empty nor the current directory. -/
def parts (cs : List Char) : List (List Char) :=
  (cs.splitOnP (· == '/')).filter fun p => !p.isEmpty && p != ['.']

def isAbsolute (cs : List Char) : Bool := cs.head? == some '/'

/-- The parts of `path` below `root`, both absolute. -/
def below? (root path : List (List Char)) : Option (List (List Char)) :=
  if root.isPrefixOf path then some (path.drop root.length) else none

/-- Follows the parts from a directory given by its names, innermost first; none if that leaves the root. -/
def follow : List (List Char) → List (List Char) → Option (List (List Char))
  | names, [] => some names
  | names, p :: rest =>
    if p == ['.', '.'] then
      match names with
      | [] => none
      | _ :: outer => follow outer rest
    else follow (p :: names) rest

def hasDrive : List Char → Bool
  | _ :: ':' :: _ => true
  | _ => false

/-- Whether the second byte of the path is a colon. -/
def drivePath (cs : List Char) : Bool :=
  match cs with
  | c :: _ => c.toNat < 0x80 && hasDrive cs
  | [] => false

/-- The parts to follow from the root. -/
def fromRoot? (root cleaned : List Char) : Option (List (List Char)) :=
  if isAbsolute cleaned then
    if isAbsolute root then below? (parts root) (parts cleaned) else none
  else some (parts cleaned)

def joined (names : List (List Char)) : String :=
  String.ofList (['/'].intercalate names)

/-- The path of a file relative to the project's root. -/
def normalize (root raw : String) : Except PathFault String :=
  let cleaned := slashed (Text.trimChars raw.toList)
  if cleaned.isEmpty then .error .empty else
  match fromRoot? root.toList cleaned with
  | none => .error (.outsideRoot raw)
  | some ps =>
    if drivePath cleaned then .error (.outsideRoot raw) else
    match follow [] ps with
    | none => .error (.escapesRoot raw)
    | some [] => .error (.rootItself raw)
    | some names => .ok (joined names.reverse)

end ProjectPath
end CodeGraph
