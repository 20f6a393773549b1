import CodeGraph.Inbound.Noted
import CodeGraph.Project.Path
import CodeGraph.Update.Dependencies
/-!
What is reported about a whole project: its files and what they import, and numbers and remarks about it. Only paths
inside the project's root are taken.
-/
namespace CodeGraph

structure ProjectMetrics where
  complexity : Float := 0
  maintainability : Float := 0
  testCoverage : Float := 0
  documentation : Float := 0
  deriving Inhabited

namespace ProjectMetrics

def record : Record ProjectMetrics :=
  let ratio (name : String) := Record.defaulted name Reader.float 0
  ProjectMetrics.mk <$> ratio "complexity" <*> ratio "maintainability" <*> ratio "testCoverage"
    <*> ratio "documentation"

def read : Reader ProjectMetrics := record.read "ProjectMetrics"
def readCounted : Reader ProjectMetrics := record.readCounted "ProjectMetrics"

def write (m : ProjectMetrics) : Json :=
  .obj [
    ("complexity", .float m.complexity),
    ("documentation", .float m.documentation),
    ("maintainability", .float m.maintainability),
    ("testCoverage", .float m.testCoverage)]

end ProjectMetrics

/-- What is remembered of the latest report. -/
structure ProjectInsights where
  projectId : Option String := none
  metrics : ProjectMetrics := {}
  architecture : List String := []
  issues : List String := []
  recommendations : List String := []
  directories : List String := []
  updatedAt : Option Time := none
  deriving Inhabited

namespace ProjectInsights

def record (metrics : Reader ProjectMetrics) : Record ProjectInsights :=
  let names (name : String) := Record.required name (Reader.list Reader.string)
  ProjectInsights.mk <$> Record.nullable "projectId" Reader.string
    <*> Record.required "metrics" metrics <*> names "architecture" <*> names "issues"
    <*> names "recommendations" <*> names "directories" <*> Record.nullable "updatedAt" Reader.time

def read : Reader ProjectInsights := (record ProjectMetrics.read).read "ProjectInsights"

def write (i : ProjectInsights) : Json :=
  .obj [
    ("architecture", .ofList .str i.architecture),
    ("directories", .ofList .str i.directories),
    ("issues", .ofList .str i.issues),
    ("metrics", i.metrics.write),
    ("projectId", .ofOption .str i.projectId),
    ("recommendations", .ofList .str i.recommendations),
    ("updatedAt", .ofOption .ofTime i.updatedAt)]

end ProjectInsights

structure ProjectUpdate where
  projectId : Option String
  files : List String
  rejectedFiles : List String
  directories : List String
  dependencies : Std.ExtTreeMap String (List String)
  metrics : ProjectMetrics
  insights : ProjectInsights
  anomalies : List String

namespace ProjectUpdate

def record : Record ProjectUpdate :=
  let names (name : String) := Record.required name (Reader.list Reader.string)
  ProjectUpdate.mk <$> Record.nullable "projectId" Reader.string <*> names "files" <*> names "rejectedFiles"
    <*> names "directories" <*> Record.required "dependencies" (Reader.map (Reader.list Reader.string))
    <*> Record.required "metrics" ProjectMetrics.read <*> Record.required "insights" ProjectInsights.read
    <*> Record.defaulted "anomalies" (Reader.list Reader.string) []

def read : Reader ProjectUpdate := record.read "ProjectUpdate"

/-- An empty list of anomalies is left out. -/
def write (u : ProjectUpdate) : Json :=
  .obj ((if u.anomalies.isEmpty then [] else [("anomalies", .ofList .str u.anomalies)]) ++ [
    ("dependencies", .ofMap (.ofList .str) u.dependencies),
    ("directories", .ofList .str u.directories),
    ("files", .ofList .str u.files),
    ("insights", u.insights.write),
    ("metrics", u.metrics.write),
    ("projectId", .ofOption .str u.projectId),
    ("rejectedFiles", .ofList .str u.rejectedFiles)])

/-- Resolves a path; a refusal is an anomaly of that kind. -/
def resolve (root what raw : String) : Except String String :=
  match ProjectPath.normalize root raw with
  | .ok path => .ok path
  | .error fault =>
    let why := fault.message
    .error s!"rejected {what} {why}"

def isAccepted (root raw : String) : Bool := (ProjectPath.normalize root raw).isOk

/-- The first of each name. -/
def distinct (names : List String) : List String :=
  names.foldl (fun seen name => if seen.contains name then seen else seen ++ [name]) []

/-- The dependencies of one source, unless its path is refused. -/
def readSource (root : String) (sources : Members) (source : String) : Noted (Option (String × List String)) :=
  match ProjectPath.normalize root source with
  | .error _ => .note s!"rejected dependency source {source}" none
  | .ok path => do
    let targets ← Inbound.strings sources source
    let targets ← Noted.keep (resolve root "dependency") targets
    return some (path, targets)

/-- The dependencies by source. Of two sources with the same path the later one counts. -/
def readSources (root : String) (sources : Members) :
    List (String × Json) → Noted (List (String × List String))
  | [] => ⟨[], []⟩
  | (source, _) :: rest => do
    let one ← readSource root sources source
    let more ← readSources root sources rest
    return one.toList ++ more

def readRatio (ms : Members) (name : String) : Noted Float := do
  let x ← Inbound.number ms name
  return (x.map clampUnit).getD 0

def readMetrics (ms : Members) : Noted ProjectMetrics := do
  let complexity ← readRatio ms "complexity"
  let maintainability ← readRatio ms "maintainability"
  let testCoverage ← readRatio ms "testCoverage"
  let documentation ← readRatio ms "documentation"
  return { complexity, maintainability, testCoverage, documentation }

def gather (now : Time) (root : String) (payload : Json) : Noted ProjectUpdate := do
  let object ← Inbound.object payload
  let projectId ← Inbound.required object "projectId"
  let layout ← Inbound.nested object "structure"
  let listed ← Inbound.strings layout "files"
  let files ← Noted.keep (resolve root "file") listed
  let directories ← Inbound.strings layout "directories"
  let directories ← Noted.keep (resolve root "directory") directories
  let sources ← Inbound.nested layout "dependencies"
  let dependencies ← readSources root sources (sources.getD [])
  let ratios ← Inbound.nested object "metrics"
  let metrics ← readMetrics ratios
  let patterns ← Inbound.nested object "patterns"
  let architecture ← Inbound.strings patterns "architecture"
  let issues ← Inbound.strings patterns "antiPatterns"
  let recommendations ← Inbound.strings patterns "suggestions"
  let insights := { projectId, metrics, architecture, issues, recommendations, directories, updatedAt := some now }
  return { projectId, files := distinct files, rejectedFiles := listed.filter fun raw => !isAccepted root raw,
           directories, dependencies := Std.ExtTreeMap.ofList dependencies, metrics, insights, anomalies := [] }

def parse (now : Time) (root : String) (payload : Json) : ProjectUpdate :=
  let u := gather now root payload
  { u.value with anomalies := u.anomalies }

def ensureFile (now : Time) (p : DependencyChange.Progress) (path : String) : DependencyChange.Progress :=
  let (store, created) := p.store.ensureNode now path Node.fileKind .file
  { store, changed := if created then p.changed.insert path else p.changed }

/-- Replaces the imports of one file. -/
def applySource (now : Time) (projectId : Option String) (p : DependencyChange.Progress)
    (source : String × List String) : DependencyChange.Progress :=
  let (path, dependencies) := source
  let payload := Json.obj [("dependencies", .ofList .str dependencies), ("path", .str path),
    ("projectId", .ofOption .str projectId)]
  let (store, changed) := DependencyChange.apply now { path, dependencies } payload p.store
  { store, changed := p.changed.insertMany changed.toList }

/-- Creates the files that are missing, then replaces the imports of every source. Tells which nodes changed. -/
def apply (now : Time) (u : ProjectUpdate) (s : Store) : Store × StringSet :=
  let p := u.files.foldl (ensureFile now) ⟨s, ∅⟩
  let p := u.dependencies.toList.foldl (applySource now u.projectId) p
  (p.store, p.changed)

end ProjectUpdate
end CodeGraph
