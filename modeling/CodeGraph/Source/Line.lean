import CodeGraph.Text.Blank
/-! Single lines of a program text: which are comments, and what of a line is code. -/
namespace CodeGraph.Source

def commentMarks : List (List Char) := ["//", "#", "/*", "*", "--", "\"\"\""].map String.toList

/-- Whether a trimmed line is a comment. -/
def isComment (trimmed : List Char) : Bool := commentMarks.any (·.isPrefixOf trimmed)

def isCode (line : List Char) : Bool :=
  let trimmed := Text.trimChars line
  !trimmed.isEmpty && !isComment trimmed

/-- Where in a line a character stands: in code, or in a quoted text, there perhaps right after a backslash. -/
inductive Place where
  | code
  | quoted (mark : Char)
  | escaped (mark : Char)

def isQuoteMark (c : Char) : Bool := c == '"' || c == '\'' || c == '`'

/-- The code of a line. A quoted text leaves one blank; a comment ends the code, where a hash sign opens one only if
nothing but blanks was kept before it (so unless `begun`). -/
def codeFrom : Place → Bool → List Char → List Char
  | _, _, [] => []
  | .escaped mark, begun, _ :: cs => codeFrom (.quoted mark) begun cs
  | .quoted mark, begun, c :: cs =>
    if c == '\\' then codeFrom (.escaped mark) begun cs
    else if c == mark then codeFrom .code begun cs
    else codeFrom (.quoted mark) begun cs
  | .code, begun, c :: cs =>
    if isQuoteMark c then ' ' :: codeFrom (.quoted c) begun cs
    else if c == '/' && cs.head? == some '/' then []
    else if c == '#' && !begun then []
    else c :: codeFrom .code (begun || !Text.isBlank c) cs

def codePortion (line : List Char) : List Char := codeFrom .code false line

/-- The text of a comment line: the marks around it are dropped. -/
def commentText (trimmed : List Char) : List Char :=
  let t := ["//!", "///", "//", "/**", "/*"].foldl (fun t mark => Text.dropMarker mark.toList t) trimmed
  let t := Text.dropEndMarker "*/".toList t
  let t := (t.dropWhile (· == '*')).dropWhile (· == '#')
  Text.trimChars (Text.dropEndWhile (· == '"') (t.dropWhile (· == '"')))

/-- The texts of the comment block at the head of the lines. Blank lines may stand before the first text (so unless
`begun`); a comment line without a text is passed over. -/
def headComments (begun : Bool) : List (List Char) → List (List Char)
  | [] => []
  | line :: rest =>
    let trimmed := Text.trimChars line
    if trimmed.isEmpty && !begun then headComments begun rest
    else if isComment trimmed then
      match commentText trimmed with
      | [] => headComments begun rest
      | text => text :: headComments true rest
    else []

end CodeGraph.Source
