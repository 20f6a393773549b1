import CodeGraph.Text.Word
import CodeGraph.Text.Blank
/-!
References to files in the lines of a stack trace: `File "app.py"`, or a path with an extension, a colon and a line
number, as in `src/a.ts:10:5`.
-/
namespace CodeGraph.Reference

def isPathChar (c : Char) : Bool :=
  Text.isWord c || c == '@' || c == '.' || c == '~' || c == '/' || c == '\\' || c == '-'

def isExtension (cs : List Char) : Bool :=
  match cs with
  | c :: rest => c.isAlpha && rest.all Char.isAlphanum
  | [] => false

/-- Whether a run of path characters ends in a name and an extension. -/
def endsInFile (run : List Char) : Bool :=
  let rev := run.reverse
  let extension := (rev.takeWhile (· != '.')).reverse
  match rev.dropWhile (· != '.') with
  | _ :: c :: _ => isExtension extension && (Text.isWord c || c == '-')
  | _ => false

/-- A drive letter with its colon, if the text begins with one. -/
def drive (cs : List Char) : List Char :=
  match cs with
  | c :: ':' :: _ => if c.isAlpha then [c, ':'] else []
  | _ => []

/-- A file at the very front of a text, with the digits of its line number and what follows them. -/
structure Place where
  file : List Char
  line : List Char
  rest : List Char

def place? (cs : List Char) : Option Place :=
  let letter := drive cs
  let body := cs.drop letter.length
  let run := body.takeWhile isPathChar
  match body.dropWhile isPathChar with
  | ':' :: after =>
    let digits := after.takeWhile Text.isDigit
    if endsInFile run && !digits.isEmpty then
      some ⟨letter ++ run, digits, after.dropWhile Text.isDigit⟩
    else none
  | _ => none

/-- A file in quotes after the word `File`, at the very front of a text. -/
def quoted? (cs : List Char) : Option (List Char × List Char) :=
  let opening := "File \"".toList
  if opening.isPrefixOf cs then
    let body := cs.drop opening.length
    let file := body.takeWhile (· != '"')
    match body.dropWhile (· != '"') with
    | _ :: rest => if file.isEmpty then none else some (file, rest)
    | [] => none
  else none

/-- The file that a text names at its very front, and what follows. -/
def at? (cs : List Char) : Option (List Char × List Char) :=
  match quoted? cs with
  | some found => some found
  | none => (place? cs).map fun p => (p.file, p.rest)

/-- The files that a text names, from left to right; `skip` characters already belong to one. -/
def filesFrom (skip : Nat) : List Char → List (List Char)
  | [] => []
  | c :: cs =>
    match skip with
    | n + 1 => filesFrom n cs
    | 0 =>
      match at? (c :: cs) with
      | some (file, rest) => file :: filesFrom (cs.length - rest.length) cs
      | none => filesFrom 0 cs

/-- The first place in a text. -/
def firstPlace? : List Char → Option Place
  | [] => none
  | c :: cs =>
    match place? (c :: cs) with
    | some p => some p
    | none => firstPlace? cs

/-- A path with forward slashes, without leading `file://` and then without leading `./`. -/
def normalizeChars (cs : List Char) : List Char :=
  let slashed := cs.map fun c => if c == '\\' then '/' else c
  Text.dropMarker "./".toList (Text.dropMarker "file://".toList slashed)

def normalize (path : String) : String := String.ofList (normalizeChars path.toList)

/-- Whether `part` ends the path `whole` right after a slash. -/
def endsAfterSlash (whole part : List Char) : Bool := ('/' :: part).isSuffixOf whole

/-- Whether two paths may name the same file, one of them being perhaps less qualified than the other. -/
def pathMatches (stored reference : String) : Bool :=
  let a := normalizeChars stored.toList
  let b := normalizeChars reference.toList
  !a.isEmpty && !b.isEmpty && (a == b || endsAfterSlash b a || endsAfterSlash a b)

/-- The files that a stack trace refers to, each once, in order of their first mention. -/
def ofStack (stack : List String) : List String :=
  let all := stack.flatMap fun line => (filesFrom 0 line.toList).map fun f => normalize (String.ofList f)
  all.foldl (fun seen f => if seen.contains f then seen else seen ++ [f]) []

end CodeGraph.Reference
