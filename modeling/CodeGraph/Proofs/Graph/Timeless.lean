import CodeGraph.Proofs.Graph.Action
/-!
What an action reads. The clock shows only in the times of the history, and the notes of what
changed are only added to: an action does the same whenever it is performed and whatever was noted
before.
-/
namespace CodeGraph

/-- Stands in for any clock reading. -/
def Time.erased : Time := ⟨⟨1970, 1, 1⟩, 0, 0⟩

def Change.untimed (c : Change) : Change := { c with time := .erased }

namespace Store

/-- The store with the clock readings of its history erased. -/
def untimed (s : Store) : Store := { s with history := s.history.map Change.untimed }

/-- The store without its notes of what changed. -/
def swept (s : Store) : Store := s.takeDirty.2

variable (s : Store) (now : Time)

theorem not_mem_swept (x : String) : x ∉ s.swept.dirty := by simp [swept, takeDirty]

theorem keepNewest_untimed (limit : Option Nat) (history : List Change) :
    (keepNewest limit history).map Change.untimed = keepNewest limit (history.map Change.untimed) := by
  cases limit with
  | none => rfl
  | some n => simp only [keepNewest, List.map_drop, List.length_map]

theorem record_untimed (kind : ChangeKind) (path : String) (payload : Json) :
    (s.record now kind path payload).untimed = s.untimed.record .erased kind path payload := by
  simp only [record, untimed, keepNewest_untimed, List.map_append, List.map_cons, List.map_nil, Change.untimed]

end Store

namespace StoreAction
variable (a : StoreAction) (now : Time) (s : Store)

/-- The clock shows only in the times of the history. -/
theorem apply_untimed : (a.apply now s).untimed = a.apply .erased s.untimed := by
  cases a with
  | edit id kind change payload how =>
    simp only [apply, Store.modify]
    split
    · next h =>
      rw [if_pos (by exact h)]
      rfl
    · next h =>
      rw [if_neg (by exact h)]
      exact Store.record_untimed ..
  | link edge payload =>
    simp only [apply, Store.putEdge]
    split
    · next h => rw [if_pos (by exact h)]
    · next h =>
      rw [if_neg (by exact h)]
      exact Store.record_untimed ..
  | unlink source target =>
    have hsame : s.untimed.edge? source target = s.edge? source target := rfl
    simp only [apply, Store.removeEdge, hsame]
    cases s.edge? source target with
    | none => rfl
    | some e => exact Store.record_untimed ..
  | remove id =>
    have hsame : s.untimed.node? id = s.node? id := rfl
    simp only [apply, Store.removeNode, hsame]
    cases s.node? id with
    | none => rfl
    | some n => exact Store.record_untimed ..

/-- What was noted before makes no difference but to the notes. -/
theorem apply_swept : (a.apply now s.swept).swept = (a.apply now s).swept := by
  cases a with
  | edit id kind change payload how =>
    simp only [apply, Store.modify]
    split
    · next h =>
      rw [if_pos (by exact h)]
      rfl
    · next h =>
      rw [if_neg (by exact h)]
      rfl
  | link edge payload =>
    simp only [apply, Store.putEdge]
    split
    · next h =>
      rw [if_pos (by exact h)]
      rfl
    · next h =>
      rw [if_neg (by exact h)]
      rfl
  | unlink source target =>
    have hsame : s.swept.edge? source target = s.edge? source target := rfl
    simp only [apply, Store.removeEdge, hsame]
    cases s.edge? source target <;> rfl
  | remove id =>
    have hsame : s.swept.node? id = s.node? id := rfl
    simp only [apply, Store.removeNode, hsame]
    cases s.node? id <;> rfl

theorem marks_swept (x : String) : a.Marks s.swept x ↔ a.Marks s x := by
  cases a <;> exact Iff.rfl

theorem mem_dirty_swept (x : String) :
    x ∈ (a.apply now s).dirty ↔ x ∈ s.dirty ∨ x ∈ (a.apply now s.swept).dirty := by
  rw [mem_dirty_apply, mem_dirty_apply, iff_false_intro (s.not_mem_swept x), marks_swept, false_or]

end StoreAction

namespace Store
variable (s : Store) (now : Time) (as : List StoreAction)

theorem perform_untimed : (s.perform now as).untimed = s.untimed.perform .erased as := by
  induction as generalizing s with
  | nil => rfl
  | cons a as ih => rw [perform_cons, ih, a.apply_untimed, perform_cons]

theorem perform_swept : (s.swept.perform now as).swept = (s.perform now as).swept := by
  induction as generalizing s with
  | nil => rfl
  | cons a as ih => rw [perform_cons, ← ih, a.apply_swept, ih, perform_cons]

theorem mem_dirty_perform_swept (x : String) :
    x ∈ (s.perform now as).dirty ↔ x ∈ s.dirty ∨ x ∈ (s.swept.perform now as).dirty := by
  induction as generalizing s with
  | nil => simp [swept, takeDirty]
  | cons a as ih =>
    rw [perform_cons, perform_cons, ih, ih (a.apply now s.swept), a.apply_swept, a.mem_dirty_swept, or_assoc]

end Store
end CodeGraph
