import CodeGraph.Proofs.Wire.Ordered
/-!
One object laid over another. A member of the upper one counts unless it is `null`; in the fields that are merged by
name the same is done with the objects that stand there.
-/
namespace CodeGraph.Json

def overlay (lower upper : List (String × Json)) : List (String × Json) :=
  upper.foldl (fun ms m => if m.2.isNull then ms else insertMember m.1 m.2 ms) lower

/-- The members of the object that stands in a field; none if there is no object. -/
def membersAt (members : List (String × Json)) (field : String) : List (String × Json) :=
  ((present? members field).bind obj?).getD []

/-- What a member of the upper object becomes. -/
def mergedValue (deep : List String) (lower : List (String × Json)) (field : String) (value : Json) : Json :=
  match value with
  | .obj inner => if field ∈ deep then .obj (overlay (membersAt lower field) inner) else value
  | _ => value

def mergedMembers (deep : List String) (lower upper : List (String × Json)) : List (String × Json) :=
  overlay lower (upper.map fun m => (m.1, mergedValue deep lower m.1 m.2))

/-- The second object laid over the first, where some fields are merged by name. -/
def merge (deep : List String) : Json → Json → Json
  | .obj lower, .obj upper => .obj (mergedMembers deep lower upper)
  | _, j => j

section Present
variable {members : List (String × Json)} {name : String}

/-- A value that counts as absent if it is `null`. -/
def unlessNull (j : Json) : Option Json := if j.isNull then none else some j

theorem present?_eq : present? members name = (members.lookup name).bind unlessNull := by
  unfold present?
  cases members.lookup name with
  | none => rfl
  | some j =>
    rw [Option.filter_some, Option.bind_some, unlessNull]
    cases j.isNull <;> rfl

theorem present?_cons {first : String × Json} {rest : List (String × Json)} :
    present? (first :: rest) name = if name = first.1 then unlessNull first.2 else present? rest name := by
  rw [present?_eq, present?_eq, lookup_cons]
  split <;> rfl

theorem present?_none_of_not_mem (h : name ∉ members.map (·.1)) : present? members name = none := by
  induction members with
  | nil => rfl
  | cons first rest ih =>
    rw [List.map_cons, List.mem_cons, not_or] at h
    rw [present?_cons, if_neg h.1, ih h.2]

theorem mem_of_present? {j : Json} (h : present? members name = some j) : (name, j) ∈ members :=
  mem_of_lookup (Option.filter_eq_some_iff.mp h).1

theorem present?_insertMember {field : String} {value : Json} :
    present? (insertMember name value members) field =
      if field = name then unlessNull value else present? members field := by
  rw [present?_eq, present?_eq, lookup_insertMember]
  split <;> rfl

theorem present?_map {f : String → Json → Json} (h : ∀ j, (f name j).isNull = j.isNull) :
    present? (members.map fun m => (m.1, f m.1 m.2)) name = (present? members name).map (f name) := by
  induction members with
  | nil => rfl
  | cons first rest ih =>
    rw [List.map_cons, present?_cons, present?_cons, ih]
    split
    · next hname =>
      subst hname
      simp only [unlessNull, h]
      split <;> rfl
    · rfl

theorem Sorted.nodup (h : Sorted members) : (members.map (·.1)).Nodup := by
  rw [List.Nodup, List.pairwise_map]
  refine h.imp fun {a b} hlt heq => ?_
  rw [heq, Std.compare_self] at hlt
  cases hlt

end Present

theorem Ordered.members {members : List (String × Json)} (h : (Json.obj members).Ordered) :
    Sorted members ∧ ∀ m ∈ members, m.2.Ordered := by
  cases h with
  | obj hsorted hall => exact ⟨hsorted, hall⟩

section Overlay
variable {lower upper : List (String × Json)} {name : String}

theorem overlay_cons (lower : List (String × Json)) (m : String × Json) (upper : List (String × Json)) :
    overlay lower (m :: upper) = overlay (if m.2.isNull then lower else insertMember m.1 m.2 lower) upper := rfl

/-- A name stands for what the upper object has there, or else for what the lower one has. -/
theorem present?_overlay (h : (upper.map (·.1)).Nodup) :
    present? (overlay lower upper) name = (present? upper name).or (present? lower name) := by
  induction upper generalizing lower with
  | nil => rfl
  | cons first rest ih =>
    rw [List.map_cons, List.nodup_cons] at h
    rw [overlay_cons, ih h.2, present?_cons]
    by_cases hname : name = first.1
    · have habsent : present? rest name = none := present?_none_of_not_mem (hname ▸ h.1)
      rw [habsent, if_pos hname, Option.none_or, unlessNull]
      split
      · rfl
      · next hnull => rw [present?_insertMember, if_pos hname, unlessNull, if_neg hnull, Option.some_or]
    · rw [if_neg hname]
      split
      · rfl
      · rw [present?_insertMember, if_neg hname]

theorem mem_overlay {m : String × Json} (h : m ∈ overlay lower upper) : m ∈ lower ∨ m ∈ upper := by
  refine List.foldlRecOn upper _ (motive := fun ms => m ∈ ms → m ∈ lower ∨ m ∈ upper) Or.inl ?_ h
  intro ms hms first hfirst hm
  split at hm
  · exact hms hm
  · rcases mem_insertMember hm with rfl | hm
    · exact Or.inr hfirst
    · exact hms hm

theorem overlay_sorted (h : Sorted lower) : Sorted (overlay lower upper) := by
  refine List.foldlRecOn upper _ (motive := Sorted) h ?_
  intro ms hms m _
  split
  · exact hms
  · exact insertMember_sorted hms

end Overlay

section Merge
variable {deep : List String} {lower upper : List (String × Json)} {field : String}

theorem mergedValue_isNull (value : Json) : (mergedValue deep lower field value).isNull = value.isNull := by
  cases value with
  | obj inner =>
    simp only [mergedValue]
    split <;> rfl
  | _ => rfl

theorem mergedValue_of_not_mem (h : field ∉ deep) (value : Json) : mergedValue deep lower field value = value := by
  unfold mergedValue
  split
  · rw [if_neg h]
  · rfl

theorem present?_mergedMembers (h : Sorted upper) :
    present? (mergedMembers deep lower upper) field =
      ((present? upper field).map (mergedValue deep lower field)).or (present? lower field) := by
  have hnames : (upper.map fun m => (m.1, mergedValue deep lower m.1 m.2)).map (·.1) = upper.map (·.1) := by
    rw [List.map_map]
    rfl
  rw [mergedMembers, present?_overlay (hnames ▸ h.nodup), present?_map mergedValue_isNull]

/-- A field that is not merged by name is taken as a whole. -/
theorem present?_whole (h : Sorted upper) (hfield : field ∉ deep) :
    present? (mergedMembers deep lower upper) field = (present? upper field).or (present? lower field) := by
  rw [present?_mergedMembers h]
  cases present? upper field with
  | none => rfl
  | some j => rw [Option.map_some, mergedValue_of_not_mem hfield]

/-- A field that is merged by name has the one object laid over the other. -/
theorem present?_deep (h : Sorted upper) (hfield : field ∈ deep)
    (hobject : ∀ j, present? upper field = some j → ∃ inner, j = .obj inner) :
    present? (mergedMembers deep lower upper) field =
      if (present? upper field).isSome then some (.obj (overlay (membersAt lower field) (membersAt upper field)))
      else present? lower field := by
  rw [present?_mergedMembers h, membersAt]
  cases hupper : present? upper field with
  | none => rfl
  | some j =>
    obtain ⟨inner, rfl⟩ := hobject j hupper
    simp [mergedValue, hfield, membersAt, hupper, obj?]

theorem membersAt_merged (h : Sorted upper) (hfield : field ∈ deep)
    (hobject : ∀ j, present? upper field = some j → ∃ inner, j = .obj inner) :
    membersAt (mergedMembers deep lower upper) field = overlay (membersAt lower field) (membersAt upper field) := by
  rw [membersAt, present?_deep h hfield hobject]
  cases hupper : present? upper field with
  | none =>
    have hnone : membersAt upper field = [] := by rw [membersAt, hupper]; rfl
    rw [hnone]
    rfl
  | some j => rfl

theorem overlay_ordered (hlower : (Json.obj lower).Ordered) (hupper : ∀ m ∈ upper, m.2.Ordered) :
    (Json.obj (overlay lower upper)).Ordered := by
  obtain ⟨hsorted, hall⟩ := hlower.members
  exact .obj (overlay_sorted hsorted) fun m hm => (mem_overlay hm).elim (hall m) (hupper m)

theorem membersAt_ordered (h : (Json.obj lower).Ordered) : (Json.obj (membersAt lower field)).Ordered := by
  unfold membersAt
  cases hfield : present? lower field with
  | none => exact .obj List.Pairwise.nil fun m hm => absurd hm List.not_mem_nil
  | some j =>
    have hj : j.Ordered := h.members.2 _ (mem_of_present? hfield)
    cases j with
    | obj inner => exact hj
    | _ => exact .obj List.Pairwise.nil fun m hm => absurd hm List.not_mem_nil

theorem mergedValue_ordered {value : Json} (hlower : (Json.obj lower).Ordered) (hvalue : value.Ordered) :
    (mergedValue deep lower field value).Ordered := by
  cases value with
  | obj inner =>
    simp only [mergedValue]
    split
    · exact overlay_ordered (membersAt_ordered hlower) hvalue.members.2
    · exact hvalue
  | _ => exact hvalue

/-- Where two objects are in order, so is the one laid over the other. -/
theorem merge_ordered {p q : Json} (hp : p.Ordered) (hq : q.Ordered) : (merge deep p q).Ordered := by
  cases p with
  | obj lower =>
    cases q with
    | obj upper =>
      refine overlay_ordered hp fun m hm => ?_
      obtain ⟨n, hn, rfl⟩ := List.mem_map.mp hm
      exact mergedValue_ordered hp (hq.members.2 n hn)
    | _ => exact hq
  | _ => cases q <;> exact hq

end Merge
end CodeGraph.Json
