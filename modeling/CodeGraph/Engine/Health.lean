import CodeGraph.Cache.Basic
import CodeGraph.Engine.Profiler
/-! The health of the service. One kind of trouble degrades it, two kinds make it unhealthy. -/
namespace CodeGraph

inductive HealthState where
  | healthy
  | degraded
  | unhealthy
  deriving DecidableEq, Repr

def HealthState.name : HealthState → String
  | healthy => "healthy"
  | degraded => "degraded"
  | unhealthy => "unhealthy"

inductive HealthIssue where
  | staleCache
  | slowOperation (name : String)
  deriving DecidableEq, Repr

namespace HealthIssue

def category : HealthIssue → String
  | staleCache => "stale_cache"
  | slowOperation _ => "slow_operation"

def message : HealthIssue → String
  | staleCache => "cache data is stale"
  | slowOperation name => s!"slow operation: {name}"

def write (i : HealthIssue) : Json := .obj [("category", .str i.category), ("message", .str i.message)]

end HealthIssue

def HealthState.ofIssues (issues : List HealthIssue) : HealthState :=
  match issues with
  | [] => .healthy
  | i :: rest => if rest.all (·.category == i.category) then .degraded else .unhealthy

structure GraphCounts where
  nodes : Nat := 0
  edges : Nat := 0
  danglingEdges : Nat := 0

structure HealthStatus where
  state : HealthState
  issues : List HealthIssue
  metricsCache : CacheStats
  analysisCache : CacheStats
  trackedOperations : Nat
  slowestAverageMs : Float
  counts : GraphCounts
  checkedAt : Time

namespace HealthStatus

def write (h : HealthStatus) : Json :=
  .obj [
    ("checkedAt", .ofTime h.checkedAt),
    ("issues", .ofList HealthIssue.write h.issues),
    ("metrics", .obj [
      ("analysisCache", h.analysisCache.write),
      ("danglingEdges", .nat h.counts.danglingEdges),
      ("edgeCount", .nat h.counts.edges),
      ("metricsCache", h.metricsCache.write),
      ("nodeCount", .nat h.counts.nodes),
      ("slowestAverageMs", .float h.slowestAverageMs),
      ("trackedOperations", .nat h.trackedOperations)]),
    ("status", .str h.state.name)]

def evaluate (now : Time) (metricsCache analysisCache : CacheStats) (profiler : Profiler) (slowNanos : Nat)
    (counts : GraphCounts) : HealthStatus :=
  let stale := if metricsCache.staleEntries + analysisCache.staleEntries > 0 then [HealthIssue.staleCache] else []
  let issues := stale ++ (profiler.slow slowNanos).map HealthIssue.slowOperation
  { state := .ofIssues issues, issues, metricsCache, analysisCache
    trackedOperations := profiler.operations.size, slowestAverageMs := profiler.slowest, counts, checkedAt := now }

end HealthStatus
end CodeGraph
