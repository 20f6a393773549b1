import CodeGraph.Update.Content
import CodeGraph.Graph.Store
/-!
Findings about a file: those that an event reports and those that the content analyzer answers. Both are merged into
what the node has; nothing is taken away.
-/
namespace CodeGraph

/-- The findings of a payload, every part of which may be missing. -/
structure Findings where
  patterns : List String
  smells : List String
  vulnerabilities : List String
  suggestions : List String
  documentation : Option String
  lastModified : Option Time
  contributors : List String
  contributor : Option String
  commit : Option Commit

namespace Findings

def record : Record Findings :=
  let names (name : String) := Record.defaulted name (Reader.list Reader.string) []
  let text (name : String) := Record.defaulted name (Reader.nullable Reader.string) none
  Findings.mk <$> names "patterns" <*> names "smells" <*> names "vulnerabilities" <*> names "suggestions"
    <*> text "documentation" <*> Record.defaulted "lastModified" (Reader.nullable Reader.time) none
    <*> names "contributors" <*> text "contributor"
    <*> Record.defaulted "commit" (Reader.nullable Commit.read) none

def read : Reader Findings := record.read "AnalysisBody"

end Findings

structure AnalysisUpdate where
  path : String
  patterns : List String
  smells : List String
  vulnerabilities : List String
  suggestions : List String
  documentation : Option String
  lastModified : Time
  contributors : List String
  commit : Option Commit

namespace AnalysisUpdate

/-- The findings stand under `analysis` or in the payload itself. Without a modification time that of the commit is
taken, and without that the clock's. -/
def parse (now : Time) (data : Json) : Except ValidationError AnalysisUpdate := do
  let path ← eventPath data
  match Findings.read ((data.get? "analysis").getD data) with
  | .error e => throw (.invalidField "analysis" e.message)
  | .ok f =>
    let author := f.commit.bind (·.author)
    let lastModified := (f.lastModified.or (f.commit.bind (·.time))).getD now
    return { path, patterns := f.patterns, smells := f.smells, vulnerabilities := f.vulnerabilities,
             suggestions := f.suggestions, documentation := f.documentation, lastModified,
             contributors := f.contributors ++ f.contributor.toList ++ author.toList, commit := f.commit }

def merge (u : AnalysisUpdate) (a : Annotations) : Annotations :=
  let a := { a with
    patterns := addAll a.patterns u.patterns
    smells := addAll a.smells u.smells
    vulnerabilities := addAll a.vulnerabilities u.vulnerabilities
    suggestions := addAll a.suggestions u.suggestions
    documentation := u.documentation.or a.documentation
    lastModified := some u.lastModified }
  let a := u.contributors.foldl Annotations.addContributor a
  match u.commit with
  | some c => a.addCommit c
  | none => a

def apply (now : Time) (u : AnalysisUpdate) (payload : Json) (s : Store) : Store × Bool :=
  s.modify now u.path Node.fileKind .analysis payload fun n => { n with analysis := u.merge n.analysis }

end AnalysisUpdate

/-- What the content analyzer answers. -/
structure AnalyzerResult where
  metrics : List (Metric × Float)
  patterns : List String
  smells : List String
  vulnerabilities : List String
  suggestions : List String
  documentation : Option String

namespace AnalyzerResult

/-- An answer with an error that is not `null` is a failure, whatever else it holds. -/
def parse (path : String) (response : Json) : Except AnalysisError AnalyzerResult := do
  match (response.get? "error").filter (!·.isNull) with
  | some (.str detail) => throw { path, detail }
  | some j => throw { path, detail := j.render }
  | none => pure ()
  let metrics ← match (response.get? "metrics").filter (!·.isNull) with
    | none => pure []
    | some j =>
      match Payload.metrics j with
      | .ok ms => pure ms
      | .error e => throw { path, detail := e.message }
  match Findings.read ((response.get? "analysis").getD response) with
  | .error e =>
    let why := e.message
    throw { path, detail := s!"malformed analysis: {why}" }
  | .ok f =>
    return { metrics, patterns := f.patterns, smells := f.smells, vulnerabilities := f.vulnerabilities,
             suggestions := f.suggestions, documentation := f.documentation }

def merge (r : AnalyzerResult) (n : Node) : Node :=
  { n with
    metrics := n.metrics.setAll r.metrics
    analysis := { n.analysis with
      patterns := addAll n.analysis.patterns r.patterns
      smells := addAll n.analysis.smells r.smells
      vulnerabilities := addAll n.analysis.vulnerabilities r.vulnerabilities
      suggestions := addAll n.analysis.suggestions r.suggestions
      documentation := r.documentation.or n.analysis.documentation } }

def apply (now : Time) (r : AnalyzerResult) (path : String) (payload : Json) (s : Store) : Store × Bool :=
  s.modify now path Node.fileKind .file payload r.merge

end AnalyzerResult
end CodeGraph
