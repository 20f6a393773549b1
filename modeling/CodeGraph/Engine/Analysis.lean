import CodeGraph.Engine.Basic
import CodeGraph.Update.Analysis
/-!
The analysis of changed contents. A change is numbered and waits for the debounce interval; only the newest change of
a path is sent to the analyzer, and only its result counts.
-/
namespace CodeGraph.Engine

def contentChanged (e : Engine) (path content : String) : Outcome :=
  let seq := e.analysisSeq + 1
  ({ e with analysisSeq := seq, pendingAnalyses := e.pendingAnalyses.insert path seq }, [.delay path seq content])

/-- Whether a change of a path is still the newest whose analysis is awaited. -/
def isCurrent (e : Engine) (path : String) (seq : Nat) : Bool := e.pendingAnalyses[path]? == some seq

def analysisDue (e : Engine) (path : String) (seq : Nat) (content : String) : Outcome :=
  if e.isCurrent path seq then
    let payload := Json.obj [("content", .str content), ("path", .str path), ("seq", .nat seq)]
    (e, [.request .requestCodeAnalysis payload (.analysis path seq)])
  else (e, [])

/-- Keeps and announces what the analyzer found. -/
def landAnalysis (now : Time) (e : Engine) (path : String) (n : Node) : Outcome :=
  let snapshot := AnalysisSnapshot.ofNode now n
  let details := Json.obj [("metrics", snapshot.metrics.write), ("smells", .ofSet snapshot.analysis.smells)]
  ({ e with analysisCache := e.analysisCache.set path snapshot now.instant },
    .emit .analyzeCode snapshot.write :: e.notifyAgents path "analysis" details)

def applyAnalysis (now : Time) (e : Engine) (path : String) (response : Json) : Outcome :=
  match AnalyzerResult.parse path response with
  | .error fault => (e, emitError (.analysis fault))
  | .ok found =>
    let e := { e with store := (found.apply now path response e.store).1 }
    match e.store.node? path with
    | none => (e, [])
    | some n => e.landAnalysis now path n

def analysisFinished (now : Time) (e : Engine) (path : String) (seq : Nat) (result : Except TransportError Json) :
    Outcome :=
  if e.isCurrent path seq then
    let e := { e with pendingAnalyses := e.pendingAnalyses.erase path }
    match result with
    | .error fault => (e, emitError (.transport fault))
    | .ok response => e.applyAnalysis now path response
  else (e, [])

end CodeGraph.Engine
