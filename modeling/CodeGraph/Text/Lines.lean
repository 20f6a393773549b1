/-!
The lines of a text. A line ends at a line feed, which takes a carriage return before it along; text after the last
line feed is a line of its own if there is any.
-/
namespace CodeGraph.Text

/-- A finished line, given from its end. -/
def closeLine : List Char → List Char
  | '\r' :: rev => rev.reverse
  | rev => rev.reverse

/-- The lines of a text of which `rev`, given from its end, already belongs to the first. -/
def linesFrom (rev : List Char) : List Char → List (List Char)
  | [] => if rev.isEmpty then [] else [rev.reverse]
  | '\n' :: rest => closeLine rev :: linesFrom [] rest
  | c :: rest => linesFrom (c :: rev) rest

def lines (s : String) : List (List Char) := linesFrom [] s.toList

end CodeGraph.Text
