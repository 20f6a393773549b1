import CodeGraph.Wire.Record
/-!
The nine metrics of a node. Coverage and maintainability are ratios in `[0, 1]`, all others magnitudes from zero up;
setting a metric brings the value into its range.
-/
namespace CodeGraph

inductive Metric where
  | complexity
  | lines
  | coverage
  | maintainability
  | cognitiveComplexity
  | cyclomaticComplexity
  | halsteadVolume
  | halsteadDifficulty
  | halsteadEffort
  deriving DecidableEq, Repr

namespace Metric

def all : List Metric :=
  [complexity, lines, coverage, maintainability, cognitiveComplexity, cyclomaticComplexity, halsteadVolume,
    halsteadDifficulty, halsteadEffort]

def name : Metric → String
  | complexity => "complexity"
  | lines => "lines"
  | coverage => "coverage"
  | maintainability => "maintainability"
  | cognitiveComplexity => "cognitiveComplexity"
  | cyclomaticComplexity => "cyclomaticComplexity"
  | halsteadVolume => "halsteadVolume"
  | halsteadDifficulty => "halsteadDifficulty"
  | halsteadEffort => "halsteadEffort"

def ofName? (s : String) : Option Metric := all.find? (·.name == s)

def isRatio : Metric → Bool
  | coverage | maintainability => true
  | _ => false

end Metric

/-- Into `[0, 1]`; what is not finite counts as zero. -/
def clampUnit (x : Float) : Float :=
  if !x.isFinite then 0 else if x < 0 then 0 else if x > 1 then 1 else x

/-- Not below zero; what is not finite counts as zero. -/
def clampMagnitude (x : Float) : Float :=
  if !x.isFinite then 0 else if x > 0 then x else 0

def Metric.clamp (m : Metric) (x : Float) : Float :=
  if m.isRatio then clampUnit x else clampMagnitude x

structure Metrics where
  complexity : Float := 0
  lines : Float := 0
  coverage : Float := 0
  maintainability : Float := 0
  cognitiveComplexity : Float := 0
  cyclomaticComplexity : Float := 0
  halsteadVolume : Float := 0
  halsteadDifficulty : Float := 0
  halsteadEffort : Float := 0
  deriving BEq, Inhabited

namespace Metrics

def get (m : Metrics) : Metric → Float
  | .complexity => m.complexity
  | .lines => m.lines
  | .coverage => m.coverage
  | .maintainability => m.maintainability
  | .cognitiveComplexity => m.cognitiveComplexity
  | .cyclomaticComplexity => m.cyclomaticComplexity
  | .halsteadVolume => m.halsteadVolume
  | .halsteadDifficulty => m.halsteadDifficulty
  | .halsteadEffort => m.halsteadEffort

/-- Stores a value as it is. -/
def put (m : Metrics) (x : Float) : Metric → Metrics
  | .complexity => { m with complexity := x }
  | .lines => { m with lines := x }
  | .coverage => { m with coverage := x }
  | .maintainability => { m with maintainability := x }
  | .cognitiveComplexity => { m with cognitiveComplexity := x }
  | .cyclomaticComplexity => { m with cyclomaticComplexity := x }
  | .halsteadVolume => { m with halsteadVolume := x }
  | .halsteadDifficulty => { m with halsteadDifficulty := x }
  | .halsteadEffort => { m with halsteadEffort := x }

def set (m : Metrics) (k : Metric) (x : Float) : Metrics := m.put (k.clamp x) k

def setAll (m : Metrics) (values : List (Metric × Float)) : Metrics :=
  values.foldl (fun m v => m.set v.1 v.2) m

@[simp] theorem get_put_self (m : Metrics) (k : Metric) (x : Float) : (m.put x k).get k = x := by
  cases k <;> rfl

theorem get_put_of_ne (m : Metrics) {k l : Metric} (x : Float) (h : l ≠ k) : (m.put x k).get l = m.get l := by
  cases k <;> cases l <;> first | rfl | exact absurd rfl h

/-- What holds of every metric, and of every value that is brought into range, holds of all after some are set. -/
theorem setAll_keeps {P : Metric → Float → Prop} (hclamp : ∀ k x, P k (k.clamp x)) {m : Metrics}
    (h : ∀ k, P k (m.get k)) (values : List (Metric × Float)) : ∀ k, P k ((m.setAll values).get k) := by
  unfold setAll
  induction values generalizing m with
  | nil => exact h
  | cons v rest ih =>
    have hset : ∀ k, P k ((m.set v.1 v.2).get k) := by
      intro k
      by_cases hk : k = v.1
      · rw [hk, set, get_put_self]
        exact hclamp v.1 v.2
      · rw [set, get_put_of_ne m _ hk]
        exact h k
    exact ih hset

def record : Record Metrics :=
  let metric (k : Metric) := Record.defaulted k.name Reader.float 0
  Metrics.mk <$> metric .complexity <*> metric .lines <*> metric .coverage <*> metric .maintainability
    <*> metric .cognitiveComplexity <*> metric .cyclomaticComplexity <*> metric .halsteadVolume
    <*> metric .halsteadDifficulty <*> metric .halsteadEffort

def read : Reader Metrics := record.read "NodeMetrics"

def write (m : Metrics) : Json :=
  .obj [
    ("cognitiveComplexity", .float m.cognitiveComplexity),
    ("complexity", .float m.complexity),
    ("coverage", .float m.coverage),
    ("cyclomaticComplexity", .float m.cyclomaticComplexity),
    ("halsteadDifficulty", .float m.halsteadDifficulty),
    ("halsteadEffort", .float m.halsteadEffort),
    ("halsteadVolume", .float m.halsteadVolume),
    ("lines", .float m.lines),
    ("maintainability", .float m.maintainability)]

/-- How much harm a node may do: complex, untested and unmaintained code weighs more, and so does code that many
others depend on. -/
def risk (m : Metrics) (dependents : Nat) : Float :=
  let most (a b : Float) := if a < b then b else a
  let least (a b : Float) := if a < b then a else b
  let complexity := least (most m.cyclomaticComplexity m.complexity / 20) 1
  let base := complexity * 0.5 + (1 - m.coverage) * 0.3 + (1 - m.maintainability) * 0.2
  let fanIn := 1 + least (.ofNat dependents / 10) 1
  clampUnit (base * fanIn / 2)

end Metrics
end CodeGraph
