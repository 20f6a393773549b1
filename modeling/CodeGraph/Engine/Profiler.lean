import Std.Data.ExtTreeMap
import CodeGraph.Wire.Reader
/-!
How long operations take. A profile counts from its start what is recorded until it ends; profiles do not disturb
one another.
-/
namespace CodeGraph

structure OperationStats where
  count : Nat := 0
  totalMs : Float := 0
  averageMs : Float := 0
  maxMs : Float := 0
  lastMs : Float := 0
  deriving Inhabited

namespace OperationStats

/-- Whole seconds and the rest are added before the sum is taken in milliseconds. -/
def millis (nanos : Nat) : Float :=
  (Float.ofNat (nanos / 1000000000) + Float.ofNat (nanos % 1000000000) / 1000000000) * 1000

def record (s : OperationStats) (nanos : Nat) : OperationStats :=
  let ms := millis nanos
  let count := s.count + 1
  let total := s.totalMs + ms
  { count, totalMs := total, averageMs := total / .ofNat count, maxMs := if s.maxMs < ms then ms else s.maxMs
    lastMs := ms }

def write (s : OperationStats) : Json :=
  .obj [
    ("averageMs", .float s.averageMs),
    ("count", .nat s.count),
    ("lastMs", .float s.lastMs),
    ("maxMs", .float s.maxMs),
    ("totalMs", .float s.totalMs)]

end OperationStats

abbrev OperationMap := Std.ExtTreeMap String OperationStats

/-- One operation within a profile. -/
structure ProfiledOperation where
  count : Nat
  totalMs : Float
  averageMs : Float

def ProfiledOperation.write (p : ProfiledOperation) : Json :=
  .obj [("averageMs", .float p.averageMs), ("count", .nat p.count), ("totalMs", .float p.totalMs)]

structure ProfileReport where
  id : String
  startedAt : Time
  durationMs : Float
  /-- Growth of the graph's footprint in bytes. -/
  memoryUsage : Int
  operations : Std.ExtTreeMap String ProfiledOperation

def ProfileReport.write (r : ProfileReport) : Json :=
  .obj [
    ("durationMs", .float r.durationMs),
    ("id", .str r.id),
    ("memoryUsage", .num (.int r.memoryUsage)),
    ("operationMetrics", .ofMap ProfiledOperation.write r.operations),
    ("startedAt", .ofTime r.startedAt)]

structure ActiveProfile where
  operations : List String
  startedAt : Time
  memory : Nat
  baseline : OperationMap

structure Profiler where
  operations : OperationMap := ∅
  profiles : Std.ExtTreeMap String ActiveProfile := ∅

structure PerformanceSnapshot where
  operations : OperationMap
  activeProfiles : List String

def PerformanceSnapshot.write (s : PerformanceSnapshot) : Json :=
  .obj [
    ("activeProfiles", .ofList .str s.activeProfiles),
    ("operations", .ofMap OperationStats.write s.operations)]

namespace Profiler

def stats? (p : Profiler) (name : String) : Option OperationStats := p.operations[name]?

def record (p : Profiler) (name : String) (nanos : Nat) : Profiler :=
  { p with operations := p.operations.insert name (((p.stats? name).getD {}).record nanos) }

/-- Starts or restarts a profile; without names it follows every operation. -/
def start (p : Profiler) (now : Time) (id : String) (operations : List String) (memory : Nat) : Profiler :=
  let baseline := p.operations.filter fun name _ => operations.isEmpty || operations.contains name
  { p with profiles := p.profiles.insert id { operations, startedAt := now, memory, baseline } }

/-- What one operation did since the profile began. -/
def since (p : Profiler) (a : ActiveProfile) (name : String) : ProfiledOperation :=
  let current := (p.stats? name).getD {}
  let before := (a.baseline[name]?).getD {}
  let count := current.count - before.count
  let total := current.totalMs - before.totalMs
  let total := if total > 0 then total else 0
  { count, totalMs := total, averageMs := if count = 0 then 0 else total / .ofNat count }

def report (p : Profiler) (now : Time) (id : String) (a : ActiveProfile) (memory : Nat) : ProfileReport :=
  let names := if a.operations.isEmpty then p.operations.keys else a.operations
  { id, startedAt := a.startedAt
    durationMs := OperationStats.millis (now.instant - a.startedAt.instant).toNat
    memoryUsage := (memory : Int) - a.memory
    operations := Std.ExtTreeMap.ofList (names.map fun name => (name, p.since a name)) }

/-- Ends a profile and reports on it, if it was started. -/
def finish (p : Profiler) (now : Time) (id : String) (memory : Nat) : Option ProfileReport × Profiler :=
  match p.profiles[id]? with
  | none => (none, p)
  | some a => (some (p.report now id a memory), { p with profiles := p.profiles.erase id })

/-- The operations that take longer than that on average. -/
def slow (p : Profiler) (nanos : Nat) : List String :=
  (p.operations.toList.filter fun e => e.2.averageMs > OperationStats.millis nanos).map (·.1)

def slowest (p : Profiler) : Float :=
  (p.operations.toList.map (·.2.averageMs)).foldl (fun a b => if a < b then b else a) 0

def snapshot (p : Profiler) : PerformanceSnapshot :=
  { operations := p.operations, activeProfiles := p.profiles.keys }

end Profiler
end CodeGraph
