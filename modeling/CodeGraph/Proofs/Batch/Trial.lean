import CodeGraph.Proofs.Batch.Plan
/-!
Items tried one after the other. What comes of a run of items is read off their verdicts: the
accepted actions are performed in order, and every refusal is noted with its place.
-/
namespace CodeGraph

/-- What an item of a batch is found to be: the action it stands for, or why it is refused. -/
abbrev Verdict := Except ValidationError StoreAction

namespace Verdict

def judge (s : Store) (item : Json) : Verdict := do
  let op ← BatchOperation.parse item
  op.plan s

/-- The store after an item with that verdict. -/
def store (now : Time) (s : Store) : Verdict → Store
  | .ok a => a.apply now s
  | .error _ => s

/-- The verdicts on some items, each tried on what those before it left. -/
def all (now : Time) : List Json → Store → List Verdict
  | [], _ => []
  | item :: rest, s => judge s item :: all now rest ((judge s item).store now s)

def accepted (verdicts : List Verdict) : List StoreAction := verdicts.filterMap Except.toOption

/-- The refusals among verdicts on the items from some place on. -/
def refusals : Nat → List Verdict → List BatchFailure
  | _, [] => []
  | i, .ok _ :: rest => refusals (i + 1) rest
  | i, .error e :: rest => ⟨i, e.message⟩ :: refusals (i + 1) rest

/-- The nodes that the accepted actions remove. -/
def removed (verdicts : List Verdict) : List String := (accepted verdicts).filterMap StoreAction.removed?

@[simp] theorem accepted_nil : accepted [] = [] := rfl
@[simp] theorem accepted_ok (a : StoreAction) (vs : List Verdict) : accepted (.ok a :: vs) = a :: accepted vs := rfl
@[simp] theorem accepted_error (e : ValidationError) (vs : List Verdict) :
    accepted (.error e :: vs) = accepted vs := rfl

theorem accepted_append (vs ws : List Verdict) : accepted (vs ++ ws) = accepted vs ++ accepted ws :=
  List.filterMap_append

theorem removed_append (vs ws : List Verdict) : removed (vs ++ ws) = removed vs ++ removed ws := by
  rw [removed, accepted_append, List.filterMap_append, removed, removed]

theorem removed_ok (a : StoreAction) : removed [.ok a] = a.removed?.toList := by
  rw [removed, accepted_ok, accepted_nil]
  cases h : a.removed? with
  | none => simp [h]
  | some id => simp [h]

theorem refusals_append (i : Nat) (vs ws : List Verdict) :
    refusals i (vs ++ ws) = refusals i vs ++ refusals (i + vs.length) ws := by
  induction vs generalizing i with
  | nil => rfl
  | cons v vs ih =>
    have hlen : i + (v :: vs).length = i + 1 + vs.length := by
      rw [List.length_cons]
      omega
    cases v with
    | ok a => simp only [List.cons_append, refusals, ih, hlen]
    | error e => simp only [List.cons_append, refusals, ih, hlen]

theorem length_all (now : Time) (items : List Json) (s : Store) : (all now items s).length = items.length := by
  induction items generalizing s with
  | nil => rfl
  | cons item rest ih => simp only [all, List.length_cons, ih]

theorem all_append (now : Time) (xs ys : List Json) (s : Store) :
    all now (xs ++ ys) s = all now xs s ++ all now ys (s.perform now (accepted (all now xs s))) := by
  induction xs generalizing s with
  | nil => rfl
  | cons x xs ih =>
    simp only [List.cons_append, all, ih]
    cases judge s x with
    | ok a => rfl
    | error e => rfl

theorem length_accepted_add_refusals (i : Nat) (vs : List Verdict) :
    (accepted vs).length + (refusals i vs).length = vs.length := by
  induction vs generalizing i with
  | nil => rfl
  | cons v vs ih =>
    have := ih (i + 1)
    cases v with
    | ok a =>
      simp only [accepted_ok, refusals, List.length_cons]
      omega
    | error e =>
      simp only [accepted_error, refusals, List.length_cons]
      omega

/-- What is removed is there. -/
theorem judge_removed {s : Store} {item : Json} {a : StoreAction} (h : judge s item = .ok a) {id : String}
    (hid : a.removed? = some id) : s.contains id = true := by
  obtain ⟨op, -, hplan⟩ := bind_ok_inv h
  exact (BatchOperation.plan_removed hplan).2 id hid

/-- The removals among the accepted actions are those of the nodes that they remove, in that
order. -/
theorem removals_all (now : Time) (items : List Json) (s : Store) :
    (Store.removals now (accepted (all now items s)) s).map (·.2) = removed (all now items s) := by
  induction items generalizing s with
  | nil => rfl
  | cons item rest ih =>
    simp only [all]
    cases h : judge s item with
    | error e => exact ih s
    | ok a =>
      have hrest := ih (a.apply now s)
      simp only [accepted_ok, store, Store.removals, List.map_append, hrest]
      cases ha : a.removed? with
      | none => simp [Store.removalBy, ha, removed]
      | some id => simp [Store.removalBy, ha, removed, Store.removal, judge_removed h ha]

end Verdict

namespace BatchRun
open Verdict

/-- A run in which items with these verdicts have been tried. -/
def advance (r : BatchRun) (verdicts : List Verdict) : BatchRun :=
  { r with
    pending := r.pending.drop verdicts.length
    applied := r.applied + (accepted verdicts).length
    failed := r.failed ++ refusals r.next verdicts
    removed := r.removed ++ Verdict.removed verdicts }

@[simp] theorem advance_nil (r : BatchRun) : r.advance [] = r := by
  simp only [advance, List.length_nil, List.drop_zero, accepted_nil, Nat.add_zero, refusals, Verdict.removed,
    List.filterMap_nil, List.append_nil]

theorem next_advance {r : BatchRun} {vs : List Verdict} (h : r.pending.length ≤ r.total)
    (hv : vs.length ≤ r.pending.length) : (r.advance vs).next = r.next + vs.length := by
  simp only [next, advance, List.length_drop]
  omega

theorem advance_append {r : BatchRun} {vs : List Verdict} (h : r.pending.length ≤ r.total)
    (hv : vs.length ≤ r.pending.length) (ws : List Verdict) :
    r.advance (vs ++ ws) = (r.advance vs).advance ws := by
  have hnext := next_advance h hv
  rw [advance.eq_1 (r.advance vs), hnext]
  simp only [advance, List.length_append, accepted_append, refusals_append, removed_append, List.drop_drop,
    List.append_assoc, Nat.add_assoc]

theorem advance_accepted (r : BatchRun) (a : StoreAction) : r.advance [.ok a] =
    { r with
      pending := r.pending.drop 1
      applied := r.applied + 1
      removed := r.removed ++ a.removed?.toList } := by
  simp only [advance, removed_ok, accepted_ok, accepted_nil, refusals, List.length_singleton, List.append_nil]

theorem advance_refused (r : BatchRun) (fault : ValidationError) : r.advance [.error fault] =
    { r with pending := r.pending.drop 1, failed := r.failed ++ [⟨r.next, fault.message⟩] } := by
  simp only [advance, Verdict.removed, accepted_error, accepted_nil, refusals, List.length_singleton, List.length_nil,
    List.filterMap_nil, List.append_nil, Nat.add_zero]

theorem tryItem_eq (now : Time) (s : Store) {r : BatchRun} {item : Json} {rest : List Json}
    (h : r.pending = item :: rest) :
    tryItem now item r.next { r with pending := rest } s =
      (r.advance [judge s item], (judge s item).store now s) := by
  have hrest : r.pending.drop 1 = rest := by rw [h, List.drop_one, List.tail_cons]
  simp only [tryItem, judge, bind, Except.bind]
  cases BatchOperation.parse item with
  | error e =>
    rw [advance_refused, hrest]
    rfl
  | ok op =>
    simp only [BatchOperation.apply_eq]
    cases hplan : op.plan s with
    | error e =>
      rw [advance_refused, hrest]
      rfl
    | ok a =>
      rw [advance_accepted, hrest, (BatchOperation.plan_removed hplan).1]
      rfl

/-- Trying items comes to advancing the run by their verdicts and performing what is accepted. -/
theorem tryItems_eq (now : Time) (n : Nat) (r : BatchRun) (s : Store) (h : r.pending.length ≤ r.total) :
    tryItems now n r s = (r.advance (all now (r.pending.take n) s),
      s.perform now (accepted (all now (r.pending.take n) s))) := by
  induction n generalizing r s with
  | zero => simp [tryItems, all]
  | succ n ih =>
    simp only [tryItems]
    split
    · next hp => simp [hp, all]
    · next item rest hp =>
      have hone : [judge s item].length ≤ r.pending.length := by simp [hp]
      have hpending : (r.advance [judge s item]).pending = rest := by simp [advance, hp]
      have hle : (r.advance [judge s item]).pending.length ≤ r.total := by
        rw [hpending]
        rw [hp, List.length_cons] at h
        omega
      have hjoin := advance_append h hone (all now (rest.take n) ((judge s item).store now s))
      rw [tryItem_eq now s hp, ih _ _ hle, hpending, hp, List.take_succ_cons, ← hjoin]
      simp only [all, List.singleton_append]
      cases judge s item with
      | ok a => rfl
      | error e => rfl

end BatchRun
end CodeGraph
