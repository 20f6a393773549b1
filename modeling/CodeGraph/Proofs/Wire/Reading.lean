import CodeGraph.Wire.Record
/-!
What readers give. A step that succeeds does so through the steps it is made of, and what a record is built from stands
in the value that is read.
-/
namespace CodeGraph

section Steps
variable {ε α β : Type}

theorem bind_ok_inv {x : Except ε α} {f : α → Except ε β} {b : β} (h : x >>= f = .ok b) :
    ∃ a, x = .ok a ∧ f a = .ok b := by
  cases x with
  | error e => cases h
  | ok a => exact ⟨a, rfl, h⟩

theorem map_ok_inv {x : Except ε α} {f : α → β} {b : β} (h : x.map f = .ok b) : ∃ a, x = .ok a ∧ f a = b := by
  cases x with
  | error e => cases h
  | ok a => exact ⟨a, rfl, Except.ok.inj h⟩

theorem ok_bind {x : Except ε α} {a : α} (h : x = .ok a) (f : α → Except ε β) : x >>= f = f a := by
  rw [h]
  rfl

end Steps

theorem mem_of_lookup {α : Type} {members : List (String × α)} {name : String} {value : α}
    (h : members.lookup name = some value) : (name, value) ∈ members := by
  obtain ⟨before, after, rfl, -⟩ := List.lookup_eq_some_iff.mp h
  exact List.mem_append_right before List.mem_cons_self

namespace Json

/-- A value all of whose numbers are finite, as all are that can be written. -/
inductive Finite : Json → Prop where
  | null : Finite .null
  | bool (b : Bool) : Finite (.bool b)
  | num {n : Number} : n.toFloat.isFinite = true → Finite (.num n)
  | str (text : String) : Finite (.str text)
  | arr {items : List Json} : (∀ j ∈ items, Finite j) → Finite (.arr items)
  | obj {members : List (String × Json)} : (∀ m ∈ members, Finite m.2) → Finite (.obj members)

/-- The values that stand in an array or an object. -/
def parts : Json → List Json
  | .arr items => items
  | .obj members => members.map (·.2)
  | _ => []

theorem Finite.part {j value : Json} (h : j.Finite) (hvalue : value ∈ j.parts) : value.Finite := by
  cases h with
  | arr hitems => exact hitems value hvalue
  | obj hmembers =>
    obtain ⟨m, hm, rfl⟩ := List.mem_map.mp hvalue
    exact hmembers m hm
  | _ => cases hvalue

end Json

namespace Record
variable {α β : Type} {find : String → Option Json}

/-- A record is built as `a` from the fields that are found. -/
def Finds (find : String → Option Json) (r : Record α) (a : α) : Prop := r.build find = .ok a

/-- A record is built from values that stand within the one that is read. -/
theorem read_finds {name : String} {r : Record α} {j : Json} {a : α} (h : r.read name j = .ok a) :
    ∃ find, (∀ {field value}, find field = some value → value ∈ j.parts) ∧ Finds find r a := by
  cases j with
  | obj members =>
    simp only [read, readSaying, readMembers] at h
    split at h
    · next b hb =>
      refine ⟨(members.lookup ·), fun hfield => ?_, hb.trans h⟩
      exact List.mem_map.mpr ⟨_, mem_of_lookup hfield, rfl⟩
    · cases h
  | arr items =>
    simp only [read, readSaying, readArray] at h
    split at h
    · cases h
    · exact ⟨_, fun hfield => (List.of_mem_zip (mem_of_lookup hfield)).2, h⟩
  | _ => cases h

namespace Finds

theorem of_map {r : Record α} {f : α → β} {b : β} (h : Finds find (f <$> r) b) : ∃ a, f a = b ∧ Finds find r a := by
  obtain ⟨a, ha, hb⟩ := map_ok_inv h
  exact ⟨a, hb, ha⟩

theorem of_seq {g : Record (α → β)} {r : Record α} {b : β} (h : Finds find (g <*> r) b) :
    ∃ f a, f a = b ∧ Finds find r a ∧ Finds find g f := by
  obtain ⟨f, hf, h⟩ := bind_ok_inv h
  obtain ⟨a, ha, h⟩ := bind_ok_inv h
  exact ⟨f, a, Except.ok.inj h, ha, hf⟩

theorem of_defaulted {name : String} {read : Reader α} {value a : α}
    (h : Finds find (Record.defaulted name read value) a) : a = value ∨ ∃ j, find name = some j ∧ read j = .ok a := by
  simp only [Finds, Record.defaulted, field] at h
  split at h
  · next j hj => exact Or.inr ⟨j, hj, h⟩
  · exact Or.inl (Except.ok.inj h).symm

end Finds
end Record

namespace Reader
variable {α : Type} {read : Reader α} {j : Json}

theorem nullable_inv {o : Option α} (h : nullable read j = .ok o) {a : α} (ha : a ∈ o) : read j = .ok a := by
  cases j with
  | null =>
    cases h
    cases ha
  | _ =>
    obtain ⟨a', ha', rfl⟩ := map_ok_inv h
    cases ha
    exact ha'

theorem list_inv {xs : List α} (h : list read j = .ok xs) {a : α} (ha : a ∈ xs) : ∃ j, read j = .ok a := by
  cases j with
  | arr items =>
    simp only [list] at h
    induction items generalizing xs with
    | nil =>
      cases h
      cases ha
    | cons j items ih =>
      simp only [Reader.items] at h
      split at h
      · cases h
      · next a' hj =>
        obtain ⟨rest, hrest, rfl⟩ := map_ok_inv h
        rcases List.mem_cons.mp ha with rfl | hmem
        · exact ⟨j, hj⟩
        · exact ih hmem hrest
  | _ => cases h

theorem natural_inv {bits n : Nat} {width : String} (h : natural bits width j = .ok n) : n < Nat.pow 2 bits := by
  unfold natural at h
  split at h
  · split at h
    · next hrange =>
      cases h
      exact hrange.2
    · cases h
  · cases h

theorem float_inv {x : Float} (hj : j.Finite) (h : float j = .ok x) : x.isFinite = true := by
  cases hj with
  | num hn =>
    cases h
    exact hn
  | _ => cases h

end Reader
end CodeGraph
