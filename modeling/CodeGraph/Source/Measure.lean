import CodeGraph.Text.Lines
import CodeGraph.Graph.Metrics
import CodeGraph.Source.Line
import CodeGraph.Source.Token
/-! Measuring a program text: its size, its branching and nesting, and the vocabulary it is written in. -/
namespace CodeGraph

/-- What is counted line by line. `depth` is the number of braces that are open. -/
structure LineTally where
  codeLines : Nat := 0
  longLines : Nat := 0
  decisions : Nat := 0
  cognitive : Nat := 0
  depth : Nat := 0
  maxDepth : Nat := 0
  deriving DecidableEq

namespace LineTally

def longLine : Nat := 120

def addBrace (t : LineTally) (c : Char) : LineTally :=
  if c == '\x7b' then { t with depth := t.depth + 1, maxDepth := max t.maxDepth (t.depth + 1) }
  else if c == '\x7d' then { t with depth := t.depth - 1 }
  else t

/-- Counts code; a decision weighs more the deeper it is nested at the start of its line. -/
def addCode (t : LineTally) (code : List Char) : LineTally :=
  let found := Source.decisions code
  let t := { t with
    codeLines := t.codeLines + 1
    decisions := t.decisions + found
    cognitive := t.cognitive + found * (1 + t.depth) }
  code.foldl addBrace t

def addLine (t : LineTally) (line : List Char) : LineTally :=
  let t := if line.length > longLine then { t with longLines := t.longLines + 1 } else t
  if Source.isCode line then t.addCode (Source.codePortion line) else t

def ofLines (lines : List (List Char)) : LineTally := lines.foldl addLine {}

end LineTally

/-- The logarithms of the machine, which no law of arithmetic pins down to the last bit. -/
structure Logarithms where
  log2 : Float → Float
  ln : Float → Float

def Logarithms.native : Logarithms := ⟨Float.log2, Float.log⟩

structure SourceMetrics where
  lines : Nat
  cyclomatic : Nat
  cognitive : Nat
  volume : Float
  difficulty : Float
  effort : Float
  maintainability : Float

structure Measurement where
  metrics : SourceMetrics
  maxDepth : Nat
  longLines : Nat

namespace SourceMetrics

def values (m : SourceMetrics) : List (Metric × Float) :=
  [(.cognitiveComplexity, .ofNat m.cognitive), (.complexity, .ofNat m.cyclomatic),
    (.cyclomaticComplexity, .ofNat m.cyclomatic), (.halsteadDifficulty, m.difficulty), (.halsteadEffort, m.effort),
    (.halsteadVolume, m.volume), (.lines, .ofNat m.lines), (.maintainability, m.maintainability)]

def write (m : SourceMetrics) : Json := .obj (m.values.map fun v => (v.1.name, .float v.2))

/-- The tokens of a text times the bits that tell one word of its vocabulary from another. -/
def volumeOf (logs : Logarithms) (length vocabulary : Nat) : Float :=
  if vocabulary ≥ 2 then .ofNat length * logs.log2 (.ofNat vocabulary) else 0

/-- Grows with the number of different operators and with the repetition of operands. -/
def difficultyOf (distinctOperators distinctOperands operands : Nat) : Float :=
  if distinctOperands = 0 then 0
  else .ofNat distinctOperators / 2 * (.ofNat operands / .ofNat distinctOperands)

/-- The maintainability index, from its customary scale of 171 brought into `[0, 1]`. -/
def maintainabilityOf (logs : Logarithms) (volume : Float) (cyclomatic codeLines : Nat) : Float :=
  let size := if volume < 1 then 1 else volume
  let index := 171 - 5.2 * logs.ln size - 0.23 * .ofNat cyclomatic - 16.2 * logs.ln (.ofNat (max codeLines 1))
  clampUnit (index / 171)

end SourceMetrics

namespace Source

def distinctCount (tokens : List (List Char)) : Nat := (addAll ∅ (tokens.map String.ofList)).size

def measureBy (logs : Logarithms) (content : String) : Measurement :=
  let lines := Text.lines content
  let tally := LineTally.ofLines lines
  let operators := operators content.toList
  let operands := operands content.toList
  let distinctOperators := distinctCount operators
  let distinctOperands := distinctCount operands
  let cyclomatic := tally.decisions + 1
  let length := operators.length + operands.length
  let volume := SourceMetrics.volumeOf logs length (distinctOperators + distinctOperands)
  let difficulty := SourceMetrics.difficultyOf distinctOperators distinctOperands operands.length
  { metrics :=
      { lines := lines.length, cyclomatic, cognitive := tally.cognitive, volume, difficulty
        effort := volume * difficulty
        maintainability := SourceMetrics.maintainabilityOf logs volume cyclomatic tally.codeLines }
    maxDepth := tally.maxDepth
    longLines := tally.longLines }

def measure (content : String) : Measurement := measureBy .native content

end Source
end CodeGraph
