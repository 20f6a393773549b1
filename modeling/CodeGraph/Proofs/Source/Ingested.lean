import CodeGraph.Proofs.Graph.Lookup
import CodeGraph.Proofs.Graph.Repeated
import CodeGraph.Proofs.Source.Measured
import CodeGraph.Source.Analysis
import CodeGraph.Update.Analysis
/-!
The analyzer's answers and what becomes of them. An answer about a text is read back as what was
measured and found, whatever the text; merged into a node it sets the metrics that are measured to
just these values and adds what was found.
-/
namespace CodeGraph
open Record Reader

/-- Values in their ranges are stored as they are. -/
theorem Metrics.setAll_of_settled {values : List (Metric × Float)} (h : ∀ v ∈ values, v.1.clamp v.2 = v.2)
    (m : Metrics) : m.setAll values = values.foldl (fun m v => m.put v.2 v.1) m := by
  induction values generalizing m with
  | nil => rfl
  | cons v values ih =>
    obtain ⟨hv, hvalues⟩ := List.forall_mem_cons.mp h
    change (m.set v.1 v.2).setAll values = _
    rw [ih hvalues, set, hv, List.foldl_cons]

/-- What is read of findings as the analyzer writes them. -/
theorem Findings.read_write (f : SourceFindings) : read f.write = .ok {
    patterns := f.patterns.toList, smells := f.smells.toList, vulnerabilities := f.vulnerabilities.toList
    suggestions := f.suggestions.toList, documentation := f.documentation
    lastModified := none, contributors := [], contributor := none, commit := none } := by
  have hset : ∀ names : StringSet, list string (.ofSet names) = .ok names.toList := fun names => list_text names.toList
  obtain ⟨patterns, smells, vulnerabilities, suggestions, documentation⟩ := f
  refine Finds.read (((((((((Finds.map ?patterns Findings.mk).seq ?smells).seq ?vulnerabilities).seq ?suggestions).seq
    ?documentation).seq ?lastModified).seq ?contributors).seq ?contributor).seq ?commit) "AnalysisBody"
  case documentation =>
    cases documentation with
    | none => exact .absent rfl none
    | some text => exact .defaulted rfl (nullable_text (some text)) none
  -- documentation stands before all others if there is any, and the last four fields are never written
  all_goals cases documentation
  all_goals first | exact .defaulted rfl (hset _) [] | exact .absent rfl _

namespace AnalyzerResult

/-- What is read of an analysis. -/
def ofAnalysis (m : SourceMetrics) (f : SourceFindings) : AnalyzerResult where
  metrics := m.values
  patterns := f.patterns.toList
  smells := f.smells.toList
  vulnerabilities := f.vulnerabilities.toList
  suggestions := f.suggestions.toList
  documentation := f.documentation

/-- An answer whose metrics are finite is read as what it was written from. -/
theorem parse_write {m : SourceMetrics} {f : SourceFindings} (h : ∀ v ∈ m.values, v.2.isFinite = true)
    (path asked : String) :
    parse path (.obj [("analysis", f.write), ("metrics", m.write), ("path", .str asked)]) = .ok (ofAnalysis m f) := by
  have hmetrics : Payload.metrics m.write = .ok m.values := Payload.metricMembers_floats h
  have herror : ∀ j k l : Json, (Json.obj [("analysis", j), ("metrics", k), ("path", l)]).get? "error" = none :=
    fun _ _ _ => rfl
  have hread : ∀ j k l : Json, (Json.obj [("analysis", j), ("metrics", k), ("path", l)]).get? "metrics" = some k ∧
      (Json.obj [("analysis", j), ("metrics", k), ("path", l)]).get? "analysis" = some j :=
    fun _ _ _ => ⟨rfl, rfl⟩
  have hnull : (some m.write).filter (!·.isNull) = some m.write := rfl
  simp only [parse, herror, hread, Option.filter_none, hnull, hmetrics, Option.getD_some, Findings.read_write]
  rfl

end AnalyzerResult

/-- What an analysis makes of a node: its measures take the place of those of the node, and its findings are added
to what was found before. All else is as it was. -/
structure Node.Analyzed (m : SourceMetrics) (f : SourceFindings) (before after : Node) : Prop where
  metrics : after.metrics = {
    lines := .ofNat m.lines, complexity := .ofNat m.cyclomatic, cyclomaticComplexity := .ofNat m.cyclomatic
    cognitiveComplexity := .ofNat m.cognitive, halsteadVolume := m.volume, halsteadDifficulty := m.difficulty
    halsteadEffort := m.effort, maintainability := m.maintainability, coverage := before.metrics.coverage }
  patterns : ∀ x, x ∈ after.analysis.patterns ↔ x ∈ before.analysis.patterns ∨ x ∈ f.patterns
  smells : ∀ x, x ∈ after.analysis.smells ↔ x ∈ before.analysis.smells ∨ x ∈ f.smells
  vulnerabilities : ∀ x, x ∈ after.analysis.vulnerabilities ↔
    x ∈ before.analysis.vulnerabilities ∨ x ∈ f.vulnerabilities
  suggestions : ∀ x, x ∈ after.analysis.suggestions ↔ x ∈ before.analysis.suggestions ∨ x ∈ f.suggestions
  documentation : after.analysis.documentation = f.documentation.or before.analysis.documentation
  history : after.analysis.lastModified = before.analysis.lastModified ∧
    after.analysis.contributors = before.analysis.contributors ∧ after.analysis.commits = before.analysis.commits
  kept : after = { before with metrics := after.metrics, analysis := after.analysis }

theorem AnalyzerResult.merge_analyzed {m : SourceMetrics} (h : ∀ v ∈ m.values, v.1.clamp v.2 = v.2)
    (f : SourceFindings) (n : Node) : Node.Analyzed m f n ((ofAnalysis m f).merge n) := by
  have hadded : ∀ (set found : StringSet) (x : String), x ∈ addAll set found.toList ↔ x ∈ set ∨ x ∈ found := by
    intro set found x
    rw [mem_addAll, Std.ExtTreeSet.mem_toList]
  exact {
    metrics := Metrics.setAll_of_settled h n.metrics
    patterns := hadded _ _
    smells := hadded _ _
    vulnerabilities := hadded _ _
    suggestions := hadded _ _
    documentation := rfl
    history := ⟨rfl, rfl, rfl⟩
    kept := rfl }

namespace Store

/-- The answer of the analyzer to any path and any text (which has fewer than `2 ^ 63` characters, as all texts in
memory have) is read without a fault. What is read of it leaves the node at that path, stored or new, with exactly the
measures of the text and with what was found added; no other node and no edge changes. -/
theorem analysis_ingested {logs : Logarithms} (hlogs : logs.Sound) (path : String) {content : String}
    (hsize : content.length < 2 ^ 63) :
    ∃ result, AnalyzerResult.parse path (Source.analyzeBy logs path content) = .ok result ∧
      ∀ (s : Store) (now : Time) (payload : Json),
        (∃ after, (result.apply now path payload s).1.node? path = some after ∧
          Node.Analyzed (Source.measureBy logs content).metrics
            (Source.findings path content (Source.measureBy logs content))
            ((s.node? path).getD (Node.forPath path)) after) ∧
        (∀ id, id ≠ path → (result.apply now path payload s).1.node? id = s.node? id) ∧
        ∀ source target, (result.apply now path payload s).1.edge? source target = s.edge? source target := by
  have hsettled := Source.measured_settled hlogs hsize
  have hfinite : ∀ v ∈ (Source.measureBy logs content).metrics.values, v.2.isFinite = true :=
    fun v hv => hsettled v hv ▸ (Metrics.clamp_range v.1 v.2).1
  refine ⟨_, AnalyzerResult.parse_write hfinite path path, fun s now payload => ?_⟩
  have hnode := AnalyzerResult.merge_analyzed hsettled
    (Source.findings path content (Source.measureBy logs content)) ((s.node? path).getD (Node.forPath path))
  refine ⟨⟨_, ?_, hnode⟩, fun id hid => ?_, fun source target => ?_⟩
  · rw [AnalyzerResult.apply, node?_modify, if_pos rfl]
    rfl
  · rw [AnalyzerResult.apply, node?_modify, if_neg fun h => hid h.symm]
  · exact edge?_modify s now path Node.fileKind .file payload _ source target

end Store

/-- The logarithms of one and of two; a number from two up has that of two. -/
def Logarithms.coarse : Logarithms where
  log2 x := if x < 2 then 0 else 1
  ln x := if x < 2 then 0 else 0.6931471805599453

theorem Logarithms.coarse_sound : coarse.Sound where
  log2_magnitude x _ _ := by
    simp only [coarse]
    split
    · exact Or.inl rfl
    · exact Or.inr (by decide)
  log2_le x _ _ := by
    simp only [coarse]
    split <;> decide

/-- A text of two words, one of which is a keyword. -/
theorem Store.two_words_ingested :
    Logarithms.coarse.Sound ∧ "return 1".length < 2 ^ 63 ∧
      ∃ result after, AnalyzerResult.parse "tests/one" (Source.analyzeBy .coarse "tests/one" "return 1") = .ok result ∧
        (result.apply noon "tests/one" .null (empty none)).1.node? "tests/one" = some after ∧
        after.metrics.halsteadVolume = 2 ∧ after.metrics.coverage = 0 ∧ "test-suite" ∈ after.analysis.patterns := by
  have hsize : "return 1".length < 2 ^ 63 := by decide
  obtain ⟨result, hparse, happly⟩ := analysis_ingested Logarithms.coarse_sound "tests/one" hsize
  obtain ⟨⟨after, hafter, hanalyzed⟩, -⟩ := happly (empty none) noon .null
  have hvolume : (Source.measureBy .coarse "return 1").metrics.volume = 2 := by decide +kernel
  have hpattern : "test-suite" ∈
      (Source.findings "tests/one" "return 1" (Source.measureBy .coarse "return 1")).patterns := by decide +kernel
  refine ⟨Logarithms.coarse_sound, hsize, result, after, hparse, hafter, ?_, ?_, ?_⟩
  · rw [hanalyzed.metrics]
    exact hvolume
  · rw [hanalyzed.metrics]
    rfl
  · exact (hanalyzed.patterns _).mpr (Or.inr hpattern)

end CodeGraph
