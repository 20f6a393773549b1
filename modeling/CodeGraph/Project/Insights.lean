import CodeGraph.Project.Structure
/-! The standing of a project: what was reported about it together with what the stored graph shows. -/
namespace CodeGraph

/-- A complex node and the risk it carries. -/
structure Hotspot where
  id : String
  complexity : Float
  risk : Float
  deriving Inhabited

namespace Hotspot

def record : Record Hotspot :=
  Hotspot.mk <$> Record.required "id" Reader.string <*> Record.required "complexity" Reader.float
    <*> Record.required "riskScore" Reader.float

def read : Reader Hotspot := record.read "Hotspot"

def write (h : Hotspot) : Json :=
  .obj [("complexity", .float h.complexity), ("id", .str h.id), ("riskScore", .float h.risk)]

/-- The more complex one first; of two equally complex ones the one with the lesser id. -/
def before (a b : Hotspot) : Bool :=
  if b.complexity < a.complexity then true
  else if a.complexity < b.complexity then false
  else compare a.id b.id != .gt

end Hotspot

structure ProjectReport where
  insights : ProjectInsights
  nodeCount : Nat
  edgeCount : Nat
  averageComplexity : Float
  hotspots : List Hotspot
  recentErrors : Nat

namespace ProjectReport

def count : Reader Nat := Reader.natural 64 "usize"

def record : Record (ProjectInsights → ProjectReport) :=
  (fun nodes edges average hotspots errors insights =>
      { insights, nodeCount := nodes, edgeCount := edges, averageComplexity := average, hotspots
        recentErrors := errors })
    <$> Record.required "nodeCount" count <*> Record.required "edgeCount" count
    <*> Record.required "averageComplexity" Reader.float <*> Record.required "hotspots" (Reader.list Hotspot.read)
    <*> Record.required "recentErrors" count

/-- The insights stand among the other members. -/
def read : Reader ProjectReport :=
  Record.readJoined "ProjectInsightsReport" record (ProjectInsights.record ProjectMetrics.readCounted)

def write (r : ProjectReport) : Json :=
  .obj [
    ("architecture", .ofList .str r.insights.architecture),
    ("averageComplexity", .float r.averageComplexity),
    ("directories", .ofList .str r.insights.directories),
    ("edgeCount", .nat r.edgeCount),
    ("hotspots", .ofList Hotspot.write r.hotspots),
    ("issues", .ofList .str r.insights.issues),
    ("metrics", r.insights.metrics.write),
    ("nodeCount", .nat r.nodeCount),
    ("projectId", .ofOption .str r.insights.projectId),
    ("recentErrors", .nat r.recentErrors),
    ("recommendations", .ofList .str r.insights.recommendations),
    ("updatedAt", .ofOption .ofTime r.insights.updatedAt)]

end ProjectReport

namespace Store

/-- How many nodes depend on a node: as many as say so or as edges say so, whichever is more. -/
def dependents (s : Store) (n : Node) : Nat := max n.relationships.usedBy.size (s.inDegree n.id)

def hotspotLimit : Nat := 5

def hotspots (s : Store) : List Hotspot :=
  let complex := s.nodeList.filter fun n => n.metrics.complexity > 0
  let spots := complex.map fun n => ⟨n.id, n.metrics.complexity, n.metrics.risk (s.dependents n)⟩
  (spots.mergeSort Hotspot.before).take hotspotLimit

def averageComplexity (s : Store) : Float :=
  if s.nodes.size = 0 then 0
  else (s.nodeList.map (·.metrics.complexity)).foldl (· + ·) 0 / .ofNat s.nodes.size

def summarize (s : Store) (insights : ProjectInsights) (recentErrors : Nat) : ProjectReport :=
  { insights, nodeCount := s.nodes.size, edgeCount := s.edges.size, averageComplexity := s.averageComplexity
    hotspots := s.hotspots, recentErrors }

end Store
end CodeGraph
