import CodeGraph.Agent.Context
import CodeGraph.Batch.Run
import CodeGraph.ErrorReport.Basic
import CodeGraph.Project.Insights
import CodeGraph.Query.Filter
import CodeGraph.Proofs.Graph.Comparison
import CodeGraph.Proofs.Graph.Written
/-!
The records that are exchanged, as they are written and read. A record fits if all its floats are finite, its counts
have the width that is read for them, and its times are moments of the calendar; what fits is read back as it was.
-/
namespace CodeGraph
open Record Reader

section Graph

theorem Metrics.read_write {m : Metrics} (h : m.Finite) : read m.write = .ok m := by
  refine Finds.read (((((((((Finds.map ?_ Metrics.mk).seq ?_).seq ?_).seq ?_).seq ?_).seq ?_).seq ?_).seq ?_).seq ?_)
    "NodeMetrics"
  · exact .defaulted rfl (float_float (h .complexity)) 0
  · exact .defaulted rfl (float_float (h .lines)) 0
  · exact .defaulted rfl (float_float (h .coverage)) 0
  · exact .defaulted rfl (float_float (h .maintainability)) 0
  · exact .defaulted rfl (float_float (h .cognitiveComplexity)) 0
  · exact .defaulted rfl (float_float (h .cyclomaticComplexity)) 0
  · exact .defaulted rfl (float_float (h .halsteadVolume)) 0
  · exact .defaulted rfl (float_float (h .halsteadDifficulty)) 0
  · exact .defaulted rfl (float_float (h .halsteadEffort)) 0

theorem Relationships.read_write (r : Relationships) : read r.write = .ok r := by
  refine Finds.read ((((((Finds.map ?_ Relationships.mk).seq ?_).seq ?_).seq ?_).seq ?_).seq ?_) "Relationships"
  all_goals exact .defaulted rfl (set_ofSet _) ∅

structure Node.Fits (n : Node) : Prop where
  metrics : n.metrics.Finite
  analysis : n.analysis.Timed

theorem Node.read_write {n : Node} (h : n.Fits) : read n.write = .ok n := by
  refine Finds.read (((((((((Finds.map ?id Node.mk).seq ?kind).seq ?name).seq ?path).seq ?dependencies).seq
    ?metrics).seq ?relationships).seq ?context).seq ?analysis) "CodeNode"
  case id | kind => exact .required rfl rfl
  case name | path => exact .defaulted rfl (string_str _) ""
  case dependencies => exact .defaulted rfl (set_ofSet _) ∅
  case metrics => exact .defaulted rfl (Metrics.read_write h.metrics) {}
  case relationships => exact .defaulted rfl (Relationships.read_write _) {}
  case context => exact .defaulted rfl (NodeContext.read_write _) {}
  case analysis => exact .defaulted rfl (Annotations.read_write h.analysis) {}

structure Edge.Fits (e : Edge) : Prop where
  weight : e.weight.isFinite = true
  details : e.details.Fits

theorem Edge.read_write {e : Edge} (h : e.Fits) : read e.write = .ok e := by
  refine Finds.read (((((Finds.map ?source Edge.mk).seq ?target).seq ?kind).seq ?weight).seq ?details) "CodeEdge"
  case source | target | kind => exact .required rfl rfl
  case weight => exact .required rfl (float_float h.weight)
  case details => exact .defaulted rfl (EdgeDetails.read_write h.details) {}

theorem ChangeKind.read_name (k : ChangeKind) : read (.str k.name) = .ok k := by
  cases k <;> rfl

theorem Change.read_write {c : Change} (h : c.time.Valid) : read c.write = .ok c := by
  refine Finds.read ((((Finds.map ?kind Change.mk).seq ?path).seq ?payload).seq ?time) "ChangeHistoryEntry"
  case kind => exact .required rfl (ChangeKind.read_name _)
  case path | payload => exact .required rfl rfl
  case time => exact .required rfl (time_ofTime h)

structure NumericRange.Finite (r : NumericRange) : Prop where
  min : ∀ x ∈ r.min, x.isFinite = true
  max : ∀ x ∈ r.max, x.isFinite = true

theorem NumericRange.read_write {r : NumericRange} (h : r.Finite) : read r.write = .ok r := by
  refine Finds.read ((Finds.map ?min NumericRange.mk).seq ?max) "NumericRange"
  case min => exact .defaulted rfl (nullable_float h.min) none
  case max => exact .defaulted rfl (nullable_float h.max) none

structure NodeFilter.Finite (f : NodeFilter) : Prop where
  complexity : ∀ r ∈ f.complexity, r.Finite
  coverage : ∀ r ∈ f.coverage, r.Finite
  maintainability : ∀ r ∈ f.maintainability, r.Finite

theorem NodeFilter.read_write {f : NodeFilter} (h : f.Finite) : read f.write = .ok f := by
  have hrange {o : Option NumericRange} (ho : ∀ r ∈ o, r.Finite) :
      nullable NumericRange.read (.ofOption NumericRange.write o) = .ok o :=
    nullable_ofOption (fun _ => rfl) fun r hr => NumericRange.read_write (ho r hr)
  refine Finds.read (((((((Finds.map ?types NodeFilter.mk).seq ?complexity).seq ?coverage).seq ?maintainability).seq
    ?patterns).seq ?smells).seq ?vulnerabilities) "NodeFilter"
  case complexity => exact .defaulted rfl (hrange h.complexity) none
  case coverage => exact .defaulted rfl (hrange h.coverage) none
  case maintainability => exact .defaulted rfl (hrange h.maintainability) none
  all_goals exact .defaulted rfl (list_text _) []

end Graph

section Agents

theorem ContextRequest.read_write (r : ContextRequest) : read r.write = .ok r := by
  refine Finds.read (((((Finds.map ?agentId ContextRequest.mk).seq ?taskId).seq ?capabilities).seq
    ?requiredContext).seq ?relevantFiles) "AgentContextRequest"
  case agentId | taskId => exact .defaulted rfl (nullable_text _) none
  all_goals exact .defaulted rfl (list_text _) []

theorem AgentTask.read_write (t : AgentTask) : read t.write = .ok t := by
  refine Finds.read ((((Finds.map ?_ AgentTask.mk).seq ?_).seq ?_).seq ?_) "AgentTask"
  all_goals exact .nullable rfl (nullable_text _)

theorem AgentTask.nullable_write (o : Option AgentTask) : nullable read (.ofOption write o) = .ok o :=
  nullable_ofOption (fun _ => rfl) fun t _ => t.read_write

structure AgentState.Fits (a : AgentState) : Prop where
  metrics : ∀ (name : String) x, a.metrics[name]? = some x → x.isFinite = true
  updatedAt : ∀ t ∈ a.updatedAt, t.Valid

theorem AgentState.read_write {a : AgentState} (h : a.Fits) : read a.write = .ok a := by
  refine Finds.read ((((((((Finds.map ?agentId AgentState.mk).seq ?agentType).seq ?capabilities).seq
    ?currentTask).seq ?relevantFiles).seq ?dependencies).seq ?metrics).seq ?updatedAt) "AgentState"
  case agentId | agentType => exact .required rfl rfl
  case currentTask => exact .nullable rfl (AgentTask.nullable_write _)
  case metrics => exact .required rfl (map_ofMap fun name x hx => float_float (h.metrics name x hx))
  case updatedAt => exact .nullable rfl (nullable_time h.updatedAt)
  all_goals exact .required rfl (list_text _)

theorem AgentUpdate.read_write (u : AgentUpdate) : read u.write = .ok u := by
  obtain ⟨agentId, agentType, capabilities, taskId, taskStatus, currentTask, relevantFiles, trackedFiles,
    anomalies⟩ := u
  refine Finds.read (((((((((Finds.map ?agentId AgentUpdate.mk).seq ?agentType).seq ?capabilities).seq ?taskId).seq
    ?taskStatus).seq ?currentTask).seq ?relevantFiles).seq ?trackedFiles).seq ?anomalies) "AgentUpdate"
  case agentId | agentType => cases anomalies <;> exact .required rfl rfl
  case taskId | taskStatus => cases anomalies <;> exact .nullable rfl (nullable_text _)
  case currentTask => cases anomalies <;> exact .nullable rfl (AgentTask.nullable_write _)
  case capabilities | relevantFiles | trackedFiles => cases anomalies <;> exact .required rfl (list_text _)
  case anomalies =>
    cases anomalies with
    | nil => exact .absent rfl []
    | cons _ _ => exact .defaulted rfl (list_text _) []

structure ContextSlice.Fits (s : ContextSlice) : Prop where
  nodes : ∀ n ∈ s.nodes, n.Fits
  relationships : ∀ e ∈ s.relationships, e.Fits
  metrics : ∀ (name : String) m, s.metrics[name]? = some m → m.Finite

theorem ContextSlice.read_write {s : ContextSlice} (h : s.Fits) : read s.write = .ok s := by
  refine Finds.read ((((((Finds.map ?agentId ContextSlice.mk).seq ?taskId).seq ?nodes).seq ?relationships).seq
    ?metrics).seq ?suggestions) "AgentContextSlice"
  case agentId | taskId => exact .nullable rfl (nullable_text _)
  case nodes => exact .required rfl (list_ofList fun n hn => Node.read_write (h.nodes n hn))
  case relationships => exact .required rfl (list_ofList fun e he => Edge.read_write (h.relationships e he))
  case metrics => exact .required rfl (map_ofMap fun name m hm => Metrics.read_write (h.metrics name m hm))
  case suggestions => exact .required rfl (list_text _)

end Agents

section Errors

structure ErrorLocation.Fits (l : ErrorLocation) : Prop where
  line : ∀ n ∈ l.line, n < Nat.pow 2 64
  column : ∀ n ∈ l.column, n < Nat.pow 2 64

theorem ErrorLocation.read_write {l : ErrorLocation} (h : l.Fits) : read l.write = .ok l := by
  refine Finds.read (((Finds.map ?file ErrorLocation.mk).seq ?line).seq ?column) "ErrorLocation"
  case file => exact .nullable rfl (nullable_text _)
  case line => exact .nullable rfl (nullable_ofOption (fun _ => rfl) fun n hn => natural_nat _ (h.line n hn))
  case column => exact .nullable rfl (nullable_ofOption (fun _ => rfl) fun n hn => natural_nat _ (h.column n hn))

structure ErrorAnalysis.Fits (a : ErrorAnalysis) : Prop where
  context : a.context.Fits
  analyzedAt : ∀ t ∈ a.analyzedAt, t.Valid

theorem ErrorAnalysis.read_write {a : ErrorAnalysis} (h : a.Fits) : read a.write = .ok a := by
  obtain ⟨errorId, errorType, severity, affectedNodes, suggestedFixes, context, message, anomalies, analyzedAt⟩ := a
  refine Finds.read (((((((((Finds.map ?errorId ErrorAnalysis.mk).seq ?errorType).seq ?severity).seq
    ?affectedNodes).seq ?suggestedFixes).seq ?context).seq ?message).seq ?anomalies).seq ?analyzedAt) "ErrorAnalysis"
  case errorId | errorType | severity => cases anomalies <;> cases message <;> exact .required rfl rfl
  case affectedNodes | suggestedFixes =>
    cases anomalies <;> cases message <;> exact .required rfl (list_text _)
  case context => cases anomalies <;> exact .required rfl (ErrorLocation.read_write h.context)
  case analyzedAt => exact .nullable rfl (nullable_time h.analyzedAt)
  case message =>
    cases message with
    | none => cases anomalies <;> exact .absent rfl none
    | some text => cases anomalies <;> exact .defaulted rfl (nullable_text (some text)) none
  case anomalies =>
    cases anomalies with
    | nil => cases message <;> exact .absent rfl []
    | cons _ _ => exact .defaulted rfl (list_text _) []

theorem ErrorKind.read_name (k : ErrorKind) : read (.str k.name) = .ok k := by
  cases k <;> rfl

theorem ErrorEvent.read_write (e : ErrorEvent) : read e.write = .ok e := by
  refine Finds.read ((Finds.map ?kind ErrorEvent.mk).seq ?error) "ErrorEvent"
  case kind => exact .required rfl (ErrorKind.read_name _)
  case error => exact .required rfl rfl

end Errors

section Reports

theorem BatchFailure.read_write {f : BatchFailure} (h : f.index < Nat.pow 2 64) : read f.write = .ok f := by
  refine Finds.read ((Finds.map ?index BatchFailure.mk).seq ?error) "BatchFailure"
  case index => exact .required rfl (natural_nat _ h)
  case error => exact .required rfl rfl

structure BatchReport.Fits (r : BatchReport) : Prop where
  total : r.total < Nat.pow 2 64
  applied : r.applied < Nat.pow 2 64
  failed : ∀ f ∈ r.failed, f.index < Nat.pow 2 64
  durationMs : r.durationMs.isFinite = true

theorem BatchReport.read_write {r : BatchReport} (h : r.Fits) : read r.write = .ok r := by
  refine Finds.read ((((((Finds.map ?batchId BatchReport.mk).seq ?total).seq ?applied).seq ?failed).seq
    ?deferred).seq ?durationMs) "BatchReport"
  case batchId | deferred => exact .required rfl rfl
  case total => exact .required rfl (natural_nat _ h.total)
  case applied => exact .required rfl (natural_nat _ h.applied)
  case failed => exact .required rfl (list_ofList fun f hf => BatchFailure.read_write (h.failed f hf))
  case durationMs => exact .required rfl (float_float h.durationMs)

structure ProjectMetrics.Finite (m : ProjectMetrics) : Prop where
  complexity : m.complexity.isFinite = true
  maintainability : m.maintainability.isFinite = true
  testCoverage : m.testCoverage.isFinite = true
  documentation : m.documentation.isFinite = true

/-- The members that metrics are written as make them up. -/
theorem ProjectMetrics.finds {m : ProjectMetrics} (h : m.Finite) :
    ∃ members, m.write = .obj members ∧ Finds (members.lookup ·) record m := by
  refine ⟨_, rfl, (((Finds.map ?complexity ProjectMetrics.mk).seq ?maintainability).seq ?testCoverage).seq
    ?documentation⟩
  case complexity => exact .defaulted rfl (float_float h.complexity) 0
  case maintainability => exact .defaulted rfl (float_float h.maintainability) 0
  case testCoverage => exact .defaulted rfl (float_float h.testCoverage) 0
  case documentation => exact .defaulted rfl (float_float h.documentation) 0

theorem ProjectMetrics.read_write {m : ProjectMetrics} (h : m.Finite) : read m.write = .ok m := by
  obtain ⟨members, hmembers, hfinds⟩ := ProjectMetrics.finds h
  rw [hmembers]
  exact hfinds.read "ProjectMetrics"

theorem ProjectMetrics.readCounted_write {m : ProjectMetrics} (h : m.Finite) : readCounted m.write = .ok m := by
  obtain ⟨members, hmembers, hfinds⟩ := ProjectMetrics.finds h
  rw [hmembers]
  exact hfinds.readCounted "ProjectMetrics"

structure ProjectInsights.Fits (i : ProjectInsights) : Prop where
  metrics : i.metrics.Finite
  updatedAt : ∀ t ∈ i.updatedAt, t.Valid

theorem ProjectInsights.read_write {i : ProjectInsights} (h : i.Fits) : read i.write = .ok i := by
  refine Finds.read (((((((Finds.map ?projectId ProjectInsights.mk).seq ?metrics).seq ?architecture).seq ?issues).seq
    ?recommendations).seq ?directories).seq ?updatedAt) "ProjectInsights"
  case projectId => exact .nullable rfl (nullable_text _)
  case metrics => exact .required rfl (ProjectMetrics.read_write h.metrics)
  case updatedAt => exact .nullable rfl (nullable_time h.updatedAt)
  all_goals exact .required rfl (list_text _)

structure Hotspot.Finite (h : Hotspot) : Prop where
  complexity : h.complexity.isFinite = true
  risk : h.risk.isFinite = true

theorem Hotspot.read_write {s : Hotspot} (h : s.Finite) : read s.write = .ok s := by
  refine Finds.read (((Finds.map ?id Hotspot.mk).seq ?complexity).seq ?risk) "Hotspot"
  case id => exact .required rfl rfl
  case complexity => exact .required rfl (float_float h.complexity)
  case risk => exact .required rfl (float_float h.risk)

structure ProjectReport.Fits (r : ProjectReport) : Prop where
  insights : r.insights.Fits
  nodeCount : r.nodeCount < Nat.pow 2 64
  edgeCount : r.edgeCount < Nat.pow 2 64
  averageComplexity : r.averageComplexity.isFinite = true
  hotspots : ∀ s ∈ r.hotspots, s.Finite
  recentErrors : r.recentErrors < Nat.pow 2 64

theorem ProjectReport.read_write {r : ProjectReport} (h : r.Fits) : read r.write = .ok r := by
  refine Finds.readJoined (((((Finds.map ?nodeCount _).seq ?edgeCount).seq ?averageComplexity).seq ?hotspots).seq
    ?recentErrors) (((((((Finds.map ?projectId ProjectInsights.mk).seq ?metrics).seq ?architecture).seq ?issues).seq
    ?recommendations).seq ?directories).seq ?updatedAt) "ProjectInsightsReport"
  case nodeCount => exact .required rfl (natural_nat _ h.nodeCount)
  case edgeCount => exact .required rfl (natural_nat _ h.edgeCount)
  case averageComplexity => exact .required rfl (float_float h.averageComplexity)
  case hotspots => exact .required rfl (list_ofList fun s hs => Hotspot.read_write (h.hotspots s hs))
  case recentErrors => exact .required rfl (natural_nat _ h.recentErrors)
  case projectId => exact .nullable rfl (nullable_text _)
  case metrics => exact .required rfl (ProjectMetrics.readCounted_write h.insights.metrics)
  case updatedAt => exact .nullable rfl (nullable_time h.insights.updatedAt)
  all_goals exact .required rfl (list_text _)

structure ProjectUpdate.Fits (u : ProjectUpdate) : Prop where
  metrics : u.metrics.Finite
  insights : u.insights.Fits

theorem ProjectUpdate.read_write {u : ProjectUpdate} (h : u.Fits) : read u.write = .ok u := by
  obtain ⟨projectId, files, rejectedFiles, directories, dependencies, metrics, insights, anomalies⟩ := u
  refine Finds.read ((((((((Finds.map ?projectId ProjectUpdate.mk).seq ?files).seq ?rejectedFiles).seq
    ?directories).seq ?dependencies).seq ?metrics).seq ?insights).seq ?anomalies) "ProjectUpdate"
  case projectId => cases anomalies <;> exact .nullable rfl (nullable_text _)
  case files | rejectedFiles | directories => cases anomalies <;> exact .required rfl (list_text _)
  case dependencies => cases anomalies <;> exact .required rfl (map_ofMap fun _ xs _ => list_text xs)
  case metrics => cases anomalies <;> exact .required rfl (ProjectMetrics.read_write h.metrics)
  case insights => cases anomalies <;> exact .required rfl (ProjectInsights.read_write h.insights)
  case anomalies =>
    cases anomalies with
    | nil => exact .absent rfl []
    | cons _ _ => exact .defaulted rfl (list_text _) []

end Reports

/-- The types of the records that are exchanged whole. -/
inductive WireType where
  | node
  | edge
  | nodeFilter
  | contextRequest
  | agentState
  | agentUpdate
  | contextSlice
  | change
  | errorAnalysis
  | errorEvent
  | batchReport
  | projectInsights
  | projectReport
  | projectUpdate

namespace WireType

def Value : WireType → Type
  | node => Node
  | edge => Edge
  | nodeFilter => NodeFilter
  | contextRequest => ContextRequest
  | agentState => AgentState
  | agentUpdate => AgentUpdate
  | contextSlice => ContextSlice
  | change => Change
  | errorAnalysis => ErrorAnalysis
  | errorEvent => ErrorEvent
  | batchReport => BatchReport
  | projectInsights => ProjectInsights
  | projectReport => ProjectReport
  | projectUpdate => ProjectUpdate

def read : (t : WireType) → Reader t.Value
  | node => Node.read
  | edge => Edge.read
  | nodeFilter => NodeFilter.read
  | contextRequest => ContextRequest.read
  | agentState => AgentState.read
  | agentUpdate => AgentUpdate.read
  | contextSlice => ContextSlice.read
  | change => Change.read
  | errorAnalysis => ErrorAnalysis.read
  | errorEvent => ErrorEvent.read
  | batchReport => BatchReport.read
  | projectInsights => ProjectInsights.read
  | projectReport => ProjectReport.read
  | projectUpdate => ProjectUpdate.read

def write : (t : WireType) → t.Value → Json
  | node => Node.write
  | edge => Edge.write
  | nodeFilter => NodeFilter.write
  | contextRequest => ContextRequest.write
  | agentState => AgentState.write
  | agentUpdate => AgentUpdate.write
  | contextSlice => ContextSlice.write
  | change => Change.write
  | errorAnalysis => ErrorAnalysis.write
  | errorEvent => ErrorEvent.write
  | batchReport => BatchReport.write
  | projectInsights => ProjectInsights.write
  | projectReport => ProjectReport.write
  | projectUpdate => ProjectUpdate.write

/-- All floats are finite. That counts have the width they are read with, and that times are moments of the calendar,
goes for all that are exchanged. -/
def Fits : (t : WireType) → t.Value → Prop
  | node => Node.Fits
  | edge => Edge.Fits
  | nodeFilter => NodeFilter.Finite
  | agentState => AgentState.Fits
  | contextSlice => ContextSlice.Fits
  | change => fun c => c.time.Valid
  | errorAnalysis => ErrorAnalysis.Fits
  | batchReport => BatchReport.Fits
  | projectInsights => ProjectInsights.Fits
  | projectReport => ProjectReport.Fits
  | projectUpdate => ProjectUpdate.Fits
  | contextRequest | agentUpdate | errorEvent => fun _ => True

/-- Whatever fits is read back from what it is written as. -/
theorem written_read_back (t : WireType) (a : t.Value) (h : t.Fits a) : t.read (t.write a) = .ok a := by
  cases t with
  | node => exact Node.read_write h
  | edge => exact Edge.read_write h
  | nodeFilter => exact NodeFilter.read_write h
  | contextRequest => exact ContextRequest.read_write a
  | agentState => exact AgentState.read_write h
  | agentUpdate => exact AgentUpdate.read_write a
  | contextSlice => exact ContextSlice.read_write h
  | change => exact Change.read_write h
  | errorAnalysis => exact ErrorAnalysis.read_write h
  | errorEvent => exact ErrorEvent.read_write a
  | batchReport => exact BatchReport.read_write h
  | projectInsights => exact ProjectInsights.read_write h
  | projectReport => exact ProjectReport.read_write h
  | projectUpdate => exact ProjectUpdate.read_write h

/-- A report with a hotspot and everything that insights can hold. -/
def survey : ProjectReport where
  insights :=
    { projectId := some "p", metrics := { complexity := 0.5, documentation := 1 }, architecture := ["layers"]
      issues := ["cycle", "cycle"], directories := ["src"], updatedAt := some ⟨⟨2024, 2, 29⟩, 86399, 1500000000⟩ }
  nodeCount := 2
  edgeCount := 1
  averageComplexity := 1.5
  hotspots := [⟨"a", 3, 0.25⟩]
  recentErrors := 0

/-- An analysis that is written without a message and without anomalies. -/
def terse : ErrorAnalysis where
  errorId := "e"
  errorType := "Error"
  severity := "error"
  affectedNodes := []
  suggestedFixes := []
  context := { line := some (Nat.pow 2 64 - 1) }
  message := none
  anomalies := []
  analyzedAt := none

theorem survey_read_back :
    survey.Fits ∧ ProjectReport.read survey.write = .ok survey ∧
    terse.Fits ∧ ErrorAnalysis.read terse.write = .ok terse := by
  have hsurvey : survey.Fits := by
    refine ⟨⟨⟨by decide, by decide, by decide, by decide⟩, ?_⟩, by decide, by decide, by decide, ?_, by decide⟩
    · rintro t ⟨⟩
      exact ⟨by decide, by decide, by decide, by decide⟩
    · exact List.forall_mem_singleton.mpr ⟨by decide, by decide⟩
  have hterse : terse.Fits := by
    refine ⟨⟨?_, ?_⟩, ?_⟩
    · rintro n ⟨⟩
      decide
    · rintro n ⟨⟩
    · rintro t ⟨⟩
  exact ⟨hsurvey, written_read_back .projectReport survey hsurvey, hterse,
    written_read_back .errorAnalysis terse hterse⟩

end WireType
end CodeGraph
