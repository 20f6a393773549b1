import CodeGraph.Error
import CodeGraph.Text.Blank
/-! New contents of files, and the path that every event about a file must name. -/
namespace CodeGraph

/-- The path of an event, trimmed and not blank. -/
def eventPath (data : Json) : Except ValidationError String :=
  match (data.get? "path").bind Json.str? |>.bind Text.trimmed? with
  | some path => .ok path
  | none => .error (.missingField "event" "path")

structure ContentChange where
  path : String
  content : String
  deriving DecidableEq

def ContentChange.parse (data : Json) : Except ValidationError ContentChange := do
  let path ← eventPath data
  match (data.get? "content").bind Json.str? with
  | some content => return { path, content }
  | none => throw (.missingField "event" "content")

end CodeGraph
