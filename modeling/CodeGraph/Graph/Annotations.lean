import CodeGraph.Wire.Record
import CodeGraph.Text.Blank
/-! What is known about the content of a node: findings, documentation, contributors and commits. -/
namespace CodeGraph

structure Commit where
  hash : Option String := none
  author : Option String := none
  message : Option String := none
  time : Option Time := none
  deriving DecidableEq, Inhabited

namespace Commit

def record : Record Commit :=
  let text (name : String) := Record.defaulted name (Reader.nullable Reader.string) none
  Commit.mk <$> text "hash" <*> text "author" <*> text "message"
    <*> Record.defaulted "timestamp" (Reader.nullable Reader.time) none

def read : Reader Commit := record.read "GitHistoryEntry"

def write (c : Commit) : Json :=
  .obj [
    ("author", .ofOption .str c.author),
    ("hash", .ofOption .str c.hash),
    ("message", .ofOption .str c.message),
    ("timestamp", .ofOption .ofTime c.time)]

end Commit

structure Annotations where
  patterns : StringSet := ∅
  smells : StringSet := ∅
  vulnerabilities : StringSet := ∅
  suggestions : StringSet := ∅
  documentation : Option String := none
  lastModified : Option Time := none
  contributors : List String := []
  commits : List Commit := []
  deriving BEq, DecidableEq, Inhabited

namespace Annotations

/-- Names are trimmed; blank and known ones are not added again. -/
def addContributor (a : Annotations) (name : String) : Annotations :=
  match Text.trimmed? name with
  | none => a
  | some n => if n ∈ a.contributors then a else { a with contributors := a.contributors ++ [n] }

def addCommit (a : Annotations) (c : Commit) : Annotations :=
  if c ∈ a.commits then a else { a with commits := a.commits ++ [c] }

def record : Record Annotations :=
  let names (name : String) := Record.defaulted name Reader.set ∅
  Annotations.mk <$> names "patterns" <*> names "smells" <*> names "vulnerabilities" <*> names "suggestions"
    <*> Record.defaulted "documentation" (Reader.nullable Reader.string) none
    <*> Record.defaulted "lastModified" (Reader.nullable Reader.time) none
    <*> Record.defaulted "contributors" (Reader.list Reader.string) []
    <*> Record.defaulted "gitHistory" (Reader.list Commit.read) []

def read : Reader Annotations := record.read "NodeAnalysis"

def write (a : Annotations) : Json :=
  .obj [
    ("contributors", .ofList .str a.contributors),
    ("documentation", .ofOption .str a.documentation),
    ("gitHistory", .ofList Commit.write a.commits),
    ("lastModified", .ofOption .ofTime a.lastModified),
    ("patterns", .ofSet a.patterns),
    ("smells", .ofSet a.smells),
    ("suggestions", .ofSet a.suggestions),
    ("vulnerabilities", .ofSet a.vulnerabilities)]

end Annotations
end CodeGraph
