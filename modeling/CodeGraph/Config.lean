import Std.Data.ExtTreeMap
import CodeGraph.Network.Address
import CodeGraph.Text.Blank
import CodeGraph.Text.Natural
import CodeGraph.Json.Basic
import CodeGraph.Graph.Store
/-! The settings of the service. A setting that cannot be read has its default. -/
namespace CodeGraph

structure Config where
  bindAddress : Address := ⟨.v4 0 0 0 0, 8080⟩
  projectRoot : String := "."
  cacheMaxAgeNanos : Nat := 300 * 1000000000
  cacheCapacity : Nat := 256
  cacheSweepMillis : Nat := 60 * 1000
  slowOperationNanos : Nat := 100 * 1000000
  batchDeferThreshold : Nat := 20
  batchChunkSize : Nat := 20
  batchWindowMillis : Nat := 150
  analysisDebounceMillis : Nat := 300
  requestTimeoutMillis : Nat := 5 * 1000
  changeHistoryLimit : Option Nat := none
  outboundLogCapacity : Nat := 1024
  builtinAnalyzer : Bool := true
  /-- A fact of the machine that no setting tells. -/
  recordSizes : RecordSizes := {}
  deriving Inhabited

namespace Config

def nanosPerSecond : Nat := 1000000000
def nanosPerMilli : Nat := 1000000

/-- A natural number, which may have blanks around it. -/
def natural? (s : String) : Option Nat := Text.natural? (Text.trimChars s.toList)

/-- Quotation marks around an address are ignored. -/
def unquoted (s : String) : String :=
  let strip (q : Char) (cs : List Char) := Text.dropEndWhile (· == q) (cs.dropWhile (· == q))
  String.ofList (strip '\'' (strip '"' (Text.trimChars s.toList)))

def isYes (s : String) : Bool :=
  let lower := String.ofList ((Text.trimChars s.toList).map Char.toLower)
  ["1", "true", "yes", "on"].contains lower

/-- Reads the settings; `var` gives the text of each, if there is one. -/
def ofVars (var : String → Option String) : Config :=
  let default : Config := {}
  let number (name : String) := (var name).bind natural?
  { bindAddress := ((var "BIND_ADDR").bind fun s => Address.parse? (unquoted s)).getD default.bindAddress
    projectRoot := (var "PROJECT_ROOT").getD default.projectRoot
    cacheMaxAgeNanos := ((number "CACHE_MAX_AGE_SECONDS").map (· * nanosPerSecond)).getD default.cacheMaxAgeNanos
    cacheCapacity := (number "CACHE_CAPACITY").getD default.cacheCapacity
    cacheSweepMillis := ((number "CACHE_SWEEP_SECONDS").map (· * 1000)).getD default.cacheSweepMillis
    slowOperationNanos := ((number "SLOW_OPERATION_MS").map (· * nanosPerMilli)).getD default.slowOperationNanos
    batchDeferThreshold := (number "BATCH_DEFER_THRESHOLD").getD default.batchDeferThreshold
    batchChunkSize := ((number "BATCH_CHUNK_SIZE").map (max · 1)).getD default.batchChunkSize
    batchWindowMillis := (number "BATCH_WINDOW_MS").getD default.batchWindowMillis
    analysisDebounceMillis := (number "ANALYSIS_DEBOUNCE_MS").getD default.analysisDebounceMillis
    requestTimeoutMillis := (number "REQUEST_TIMEOUT_MS").getD default.requestTimeoutMillis
    changeHistoryLimit := (number "CHANGE_HISTORY_LIMIT").filter (· > 0)
    outboundLogCapacity := (number "OUTBOUND_LOG_CAPACITY").getD default.outboundLogCapacity
    builtinAnalyzer := ((var "BUILTIN_ANALYZER").map isYes).getD default.builtinAnalyzer }

def write (c : Config) : Json :=
  .obj [
    ("analysisDebounceMs", .nat c.analysisDebounceMillis),
    ("batchChunkSize", .nat c.batchChunkSize),
    ("batchDeferThreshold", .nat c.batchDeferThreshold),
    ("batchWindowMs", .nat c.batchWindowMillis),
    ("bindAddr", .str c.bindAddress.render),
    ("builtinAnalyzer", .bool c.builtinAnalyzer),
    ("cacheCapacity", .nat c.cacheCapacity),
    ("cacheMaxAgeSecs", .nat (c.cacheMaxAgeNanos / nanosPerSecond)),
    ("cacheSweepSecs", .nat (c.cacheSweepMillis / 1000)),
    ("changeHistoryLimit", .ofOption .nat c.changeHistoryLimit),
    ("outboundLogCapacity", .nat c.outboundLogCapacity),
    ("projectRoot", .str c.projectRoot),
    ("requestTimeoutMs", .nat c.requestTimeoutMillis),
    ("slowOperationMs", .nat (c.slowOperationNanos / nanosPerMilli))]

end Config
end CodeGraph
