import CodeGraph.Source.Measure
/-!
What stands out in a program text: patterns, smells, vulnerabilities and what to do about them, and the documentation
at its head.
-/
namespace CodeGraph

structure SourceFindings where
  patterns : StringSet
  smells : StringSet
  vulnerabilities : StringSet
  suggestions : StringSet
  documentation : Option String

/-- Missing documentation is left out. -/
def SourceFindings.write (f : SourceFindings) : Json :=
  .obj ((f.documentation.map fun d => ("documentation", Json.str d)).toList ++ [
    ("patterns", .ofSet f.patterns),
    ("smells", .ofSet f.smells),
    ("suggestions", .ofSet f.suggestions),
    ("vulnerabilities", .ofSet f.vulnerabilities)])

namespace Source

def longFile : Nat := 500
def deepNesting : Nat := 4
def highCyclomatic : Nat := 10

def secretNames : List (List Char) :=
  ["password", "passwd", "secret", "api_key", "api-key", "apikey", "token"].map String.toList

/-- Small letters for capitals, and for the long s and the Kelvin sign. -/
def foldLetter (c : Char) : Char :=
  if c.toNat == 0x17F then 's' else if c.toNat == 0x212A then 'k' else c.toLower

def isAnyQuote (c : Char) : Bool := c == '"' || c == '\''

/-- Whether a text assigns a quoted text of at least four characters. -/
def assignsText (cs : List Char) : Bool :=
  match cs.dropWhile Text.isBlank with
  | c :: rest =>
    (c == ':' || c == '=') &&
    match rest.dropWhile Text.isBlank with
    | q :: body =>
      let text := body.takeWhile (!isAnyQuote ·)
      isAnyQuote q && text.length ≥ 4 && (body.drop text.length).head?.isSome
    | [] => false
  | [] => false

/-- Whether a text begins with the name of a secret, as a word of its own, to which a text is assigned. -/
def assignsSecret (before : Option Char) (cs : List Char) : Bool :=
  !before.any Text.isWord && secretNames.any fun name =>
    let rest := cs.drop name.length
    (cs.take name.length).map foldLetter == name && !rest.head?.any Text.isWord && assignsText rest

def hasSecret (content : String) : Bool := Text.somewhere assignsSecret none content.toList

def documentation? (lines : List (List Char)) : Option String :=
  match headComments false lines with
  | [] => none
  | texts => some (String.ofList (['\n'].intercalate texts))

/-- The names whose conditions hold. -/
def selected (rules : List (Bool × String)) : StringSet := addAll ∅ ((rules.filter (·.1)).map (·.2))

def findings (path content : String) (m : Measurement) : SourceFindings :=
  let lowerPath := String.ofList (path.toList.map Char.toLower)
  let holds (words : List String) := words.any (Text.contains content)
  let unfinished := holds ["TODO", "FIXME", "XXX"]
  let long := decide (m.metrics.lines > longFile)
  let deep := decide (m.maxDepth > deepNesting)
  let complex := decide (m.metrics.cyclomatic > highCyclomatic)
  let secret := hasSecret content
  { patterns := selected [
      (["test", "spec"].any (Text.contains lowerPath), "test-suite"),
      (holds ["async ", "await"], "async"),
      (holds ["export ", "pub ", "module.exports"], "public-api"),
      (holds ["class ", "struct "], "type-definitions")]
    smells := selected [
      (unfinished, "todo-comment"), (long, "long-file"), (deep, "deep-nesting"),
      (decide (m.longLines > 0), "long-lines"), (complex, "high-complexity")]
    vulnerabilities := selected [
      (holds ["eval("], "dynamic-eval"),
      (holds ["innerHTML", "dangerouslySetInnerHTML"], "unsafe-html"),
      (secret, "hardcoded-secret")]
    suggestions := selected [
      (unfinished, "resolve outstanding TODO/FIXME comments"),
      (long, "split the file into smaller modules"),
      (deep, "flatten nested blocks with early returns"),
      (complex, "reduce branching in the most complex functions"),
      (secret, "move credentials into configuration")]
    documentation := documentation? (Text.lines content) }

/-- The answer to a request for the analysis of a file. -/
def analyzeBy (logs : Logarithms) (path content : String) : Json :=
  let m := measureBy logs content
  .obj [("analysis", (findings path content m).write), ("metrics", m.metrics.write), ("path", .str path)]

def analyze (path content : String) : Json := analyzeBy .native path content

/-- Answers a request of the analysis by its payload; content that is missing is empty. -/
def respond (payload : Json) : Except String Json :=
  match (payload.get? "path").bind Json.str? with
  | none => .error "analysis request is missing `path`"
  | some path => .ok (analyze path (((payload.get? "content").bind Json.str?).getD ""))

end Source
end CodeGraph
