import CodeGraph.Proofs.Graph.Names
/-!
What a report on a project adds to a graph. Whatever it holds, it brings in no node but the normal paths of its own
texts, and takes none away.
-/
namespace CodeGraph.ProjectUpdate

theorem parse_paths {now : Time} {root : String} {payload : Json} {id : String}
    (h : id ∈ (parse now root payload).paths) : Mentions root payload id := by
  rcases List.mem_append.mp h with hfile | hsource
  · exact parse_files hfile
  · obtain ⟨source, hsource, hid⟩ := List.mem_flatMap.mp hsource
    obtain ⟨hpath, htargets⟩ := parse_dependencies hsource
    rcases List.mem_cons.mp hid with rfl | hid
    · exact hpath
    · exact htargets id hid

/-- A report brings in nothing but the normal paths of its texts, all of them inside the root, and takes no node away.
Every listed file that is refused is told as such, in the order of the list, and noted with the reason. -/
theorem parsed_contained (now later : Time) (root : String) (payload : Json) (s : Store) :
    let u := parse now root payload
    s.Adds (Mentions root payload) (u.apply later s).1 ∧
    (∀ id, s.contains id = true → (u.apply later s).1.contains id = true) ∧
    u.rejectedFiles = (refusedFiles root payload).map (·.1) ∧
    ((refusedFiles root payload).map fun r => "rejected file " ++ r.2.message) <:+: u.anomalies := by
  intro u
  refine ⟨(u.adds_paths later s).mono fun id hid => parse_paths hid, fun id hid => ?_,
    parse_rejectedFiles now root payload, parse_anomalies now root payload⟩
  exact (u.apply_revised later s).contains hid

end CodeGraph.ProjectUpdate
