import CodeGraph.Project.Insights
/-! What is derived from the stored graph about a single node, and what was last found in its content. -/
namespace CodeGraph

structure DerivedMetrics where
  inDegree : Nat
  outDegree : Nat
  dependencyCount : Nat
  dependentCount : Nat
  risk : Float
  computedAt : Time

def DerivedMetrics.write (d : DerivedMetrics) : Json :=
  .obj [
    ("computedAt", .ofTime d.computedAt),
    ("dependencyCount", .nat d.dependencyCount),
    ("dependentCount", .nat d.dependentCount),
    ("inDegree", .nat d.inDegree),
    ("outDegree", .nat d.outDegree),
    ("riskScore", .float d.risk)]

def Store.derive (s : Store) (now : Time) (n : Node) : DerivedMetrics :=
  let dependents := s.dependents n
  { inDegree := s.inDegree n.id
    outDegree := s.outDegree n.id
    dependencyCount := (addAll n.dependencies n.relationships.imports.toList).size
    dependentCount := dependents
    risk := n.metrics.risk dependents
    computedAt := now }

structure NodeInfo where
  node : Node
  edges : List Edge
  derived : DerivedMetrics

def NodeInfo.write (i : NodeInfo) : Json :=
  .obj [("derived", i.derived.write), ("edges", .ofList Edge.write i.edges), ("node", i.node.write)]

/-- What the content analyzer last found in a file. -/
structure AnalysisSnapshot where
  path : String
  metrics : Metrics
  analysis : Annotations
  analyzedAt : Time

namespace AnalysisSnapshot

def ofNode (now : Time) (n : Node) : AnalysisSnapshot :=
  { path := n.path, metrics := n.metrics, analysis := n.analysis, analyzedAt := now }

def write (s : AnalysisSnapshot) : Json :=
  .obj [
    ("analysis", s.analysis.write),
    ("analyzedAt", .ofTime s.analyzedAt),
    ("metrics", s.metrics.write),
    ("path", .str s.path)]

end AnalysisSnapshot
end CodeGraph
