/-! Which content types say that a body is JSON. -/
namespace CodeGraph.MediaType

def isTokenChar (c : Char) : Bool := c.isAlphanum || "!#$%&'*+-.^_|~".toList.contains c || c.toNat == 0x60

/-- The rest after a quoted parameter value, which holds at least one character and ends in a semicolon or with the
text. -/
def afterQuoted? (cs : List Char) : Option (List Char) :=
  match (cs.drop 1).dropWhile (· != '"') with
  | [] => none
  | _ :: rest =>
    match rest.dropWhile (· == ' ') with
    | [] => some []
    | ';' :: more => some more
    | _ => none

/-- The rest after a parameter, which is a name, an equals sign and a value. -/
def afterParameter? (cs : List Char) : Option (List Char) :=
  let name := cs.takeWhile isTokenChar
  match cs.drop name.length with
  | '=' :: '"' :: quoted => if name.isEmpty then none else afterQuoted? quoted
  | '=' :: text =>
    let value := text.takeWhile isTokenChar
    match text.drop value.length with
    | [] => if name.isEmpty then none else some []
    | ';' :: more => if name.isEmpty || value.isEmpty then none else some more
    | _ => none
  | _ => none

/-- Whether a list of parameters is well formed; it has fewer than `steps` characters. -/
def parametersOk : Nat → List Char → Bool
  | 0, _ => false
  | _ + 1, [] => true
  | n + 1, ' ' :: rest => parametersOk n rest
  | n + 1, cs =>
    match afterParameter? cs with
    | none => false
    | some rest => parametersOk n rest

/-- The part of a subtype before its last plus sign, and the part after it; a plus sign in front counts as neither. -/
def splitSuffix (subtype : List Char) : List Char × Option (List Char) :=
  let rev := subtype.reverse
  let suffix := (rev.takeWhile (· != '+')).reverse
  match (rev.dropWhile (· != '+')).drop 1 with
  | [] => (subtype, none)
  | base => (base.reverse, some suffix)

/-- JSON itself, or an application type based on it. The text is printable ASCII. -/
def isJson (contentType : String) : Bool :=
  let cs := contentType.toList.map Char.toLower
  let kind := cs.takeWhile isTokenChar
  match cs.drop kind.length with
  | '/' :: rest =>
    let subtype := rest.takeWhile isTokenChar
    let (base, suffix) := splitSuffix subtype
    let parametersFine := match rest.drop subtype.length with
      | [] => true
      | ';' :: parameters => !subtype.isEmpty && parametersOk (parameters.length + 1) parameters
      | _ => false
    cs.all (fun c => 0x20 ≤ c.toNat && c.toNat < 0x7F) && parametersFine
      && kind == "application".toList && (base == "json".toList || suffix == some "json".toList)
  | _ => false

end CodeGraph.MediaType
