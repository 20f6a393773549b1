import CodeGraph.Text.Blank
import CodeGraph.Text.Scan
/-!
What a program text is made of, without regard to its language: decision points, operands and operators. Literals
and names are operands, but for a few dozen keywords, which operate.
-/
namespace CodeGraph.Source

open Text (Pattern isWord isDigit isBlank)

def decisionWords : List (List Char) :=
  ["if", "elif", "for", "while", "case", "catch", "except", "match", "loop", "when"].map String.toList

/-- A word that decides, `&&`, `||`, `??`, or a question mark before a blank. -/
def decision : Pattern := fun before cs =>
  match cs with
  | '&' :: '&' :: _ => 2
  | '|' :: '|' :: _ => 2
  | '?' :: '?' :: _ => 2
  | '?' :: c :: _ => if isBlank c then 2 else 0
  | _ =>
    if before.any isWord then 0 else
    let word := cs.takeWhile isWord
    if decisionWords.contains word then word.length else 0

def decisions (code : List Char) : Nat := (Text.occurrences decision code).length

/-- The length of a literal after its opening mark, closing mark included; zero if it is not closed. A backslash
escapes what follows, which may not be the end of the line. -/
def literalRest (mark : Char) : List Char → Nat
  | [] => 0
  | '\\' :: c :: cs =>
    if c == '\n' then 0 else
    match literalRest mark cs with
    | 0 => 0
    | n + 1 => n + 3
  | c :: cs =>
    if c == mark then 1
    else if c == '\\' then 0
    else match literalRest mark cs with
      | 0 => 0
      | n + 1 => n + 2

def literal (mark : Char) (cs : List Char) : Nat :=
  match literalRest mark cs with
  | 0 => 0
  | n + 1 => n + 2

/-- The digits after a decimal point that end where a word could end. -/
def fractionDigits (cs : List Char) : Nat :=
  match cs with
  | '.' :: rest =>
    let digits := rest.takeWhile isDigit
    if (rest.drop digits.length).head?.any isWord then 0 else digits.length
  | _ => 0

/-- A number: digits, perhaps with a fraction; never part of a longer word. -/
def number (cs : List Char) : Nat :=
  let digits := cs.takeWhile isDigit
  let rest := cs.drop digits.length
  if rest.head?.any isWord then 0
  else match fractionDigits rest with
    | 0 => digits.length
    | n + 1 => digits.length + n + 2

def isNameStart (c : Char) : Bool := c.isAlpha || c == '_' || c == '$'
def isNamePart (c : Char) : Bool := isWord c || c == '$'

/-- A name; a dollar sign at its end does not belong to it. -/
def name (cs : List Char) : Nat :=
  (Text.dropEndWhile (· == '$') (cs.takeWhile isNamePart)).length

def operand : Pattern := fun before cs =>
  match cs with
  | [] => 0
  | c :: rest =>
    if c == '"' || c == '\'' then literal c rest
    else if !Text.isBoundary before (some c) then 0
    else if isDigit c then number cs
    else if isNameStart c then name cs
    else 0

def isOperatorPart (c : Char) : Bool := "+-*/%=<>!&|^~?:".toList.contains c
def isPunctuation (c : Char) : Bool := "()\x7b\x7d[];,.".toList.contains c

/-- A run of operator signs, or one punctuation mark. -/
def operator : Pattern := fun _ cs =>
  match cs with
  | [] => 0
  | c :: _ => if isPunctuation c then 1 else (cs.takeWhile isOperatorPart).length

def keywords : List (List Char) :=
  ["if", "else", "for", "while", "loop", "match", "case", "switch", "return", "break", "continue", "fn", "function",
    "def", "class", "struct", "enum", "impl", "let", "const", "var", "mut", "pub", "use", "import", "export", "from",
    "async", "await", "try", "catch", "except", "finally", "new", "in", "of", "elif", "when"].map String.toList

/-- The operators of a text, those that are words first. -/
def operators (cs : List Char) : List (List Char) :=
  (Text.occurrences operand cs).filter keywords.contains ++ Text.occurrences operator cs

def operands (cs : List Char) : List (List Char) :=
  (Text.occurrences operand cs).filter fun t => !keywords.contains t

end CodeGraph.Source
