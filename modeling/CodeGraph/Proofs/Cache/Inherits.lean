import CodeGraph.Cache.Basic
/-!
Where the values of a cache come from. Apart from storing a value, whatever is done to a cache
leaves it only values that it had under the same keys.
-/
namespace CodeGraph.Cache
variable {α : Type}

/-- Every value of the later cache stands under the same key in the earlier one. -/
def Inherits (c c' : Cache α) : Prop :=
  ∀ (key : String) (entry' : CacheEntry α), c'.entries[key]? = some entry' →
    ∃ entry, c.entries[key]? = some entry ∧ entry.value = entry'.value

theorem Inherits.refl (c : Cache α) : c.Inherits c := fun _ entry h => ⟨entry, h, rfl⟩

theorem getElem?_foldl_erase {β : Type} (keys : List String) (m : Std.ExtTreeMap String β) (key : String) :
    (keys.foldl (·.erase ·) m)[key]? = if key ∈ keys then none else m[key]? := by
  induction keys generalizing m with
  | nil => simp
  | cons k keys ih =>
    simp only [List.foldl_cons, ih, Std.ExtTreeMap.getElem?_erase, Std.compare_eq_iff_eq]
    by_cases hk : k = key
    · simp [hk]
    · simp [hk, Ne.symm hk]

theorem optimize_entry {c : Cache α} {now : Int} {key : String} {entry : CacheEntry α}
    (h : (c.optimize now).1.entries[key]? = some entry) : c.entries[key]? = some entry := by
  simp only [optimize, getElem?_foldl_erase] at h
  split at h
  · cases h
  · exact h

theorem optimize_inherits (c : Cache α) (now : Int) : c.Inherits (c.optimize now).1 :=
  fun _ entry h => ⟨entry, optimize_entry h, rfl⟩

/-- A look-up answers a value that is there, and keeps all of them. -/
theorem get?_inherits (c : Cache α) (key : String) (now : Int) :
    c.Inherits (c.get? key now).2 ∧
      ∀ value, (c.get? key now).1 = some value → ∃ entry, c.entries[key]? = some entry ∧ entry.value = value := by
  simp only [get?]
  split
  · exact ⟨Inherits.refl _, by simp⟩
  · next entry hentry =>
    split
    · refine ⟨?_, fun value h => ⟨entry, hentry, Option.some.inj h⟩⟩
      intro k entry' hk
      simp only [Std.ExtTreeMap.getElem?_insert, Std.compare_eq_iff_eq] at hk
      split at hk
      · next hkey =>
        subst hkey
        rw [← Option.some.inj hk]
        exact ⟨entry, hentry, rfl⟩
      · exact ⟨entry', hk, rfl⟩
    · exact ⟨Inherits.refl _, by simp⟩

/-- Storing a value adds only that value. -/
theorem set_entry {c : Cache α} {key k : String} {value : α} {now : Int} {entry : CacheEntry α}
    (h : (c.set key value now).entries[k]? = some entry) :
    (key = k ∧ entry.value = value) ∨ (key ≠ k ∧ c.entries[k]? = some entry) := by
  have hput : ∀ {new : CacheEntry α}, new.value = value → (c.entries.insert key new)[k]? = some entry →
      (key = k ∧ entry.value = value) ∨ (key ≠ k ∧ c.entries[k]? = some entry) := by
    intro new hnew hk
    simp only [Std.ExtTreeMap.getElem?_insert, Std.compare_eq_iff_eq] at hk
    split at hk
    · next hkey =>
      rw [← Option.some.inj hk]
      exact Or.inl ⟨hkey, hnew⟩
    · next hkey => exact Or.inr ⟨hkey, hk⟩
  simp only [set, setAt] at h
  split at h
  · exact hput rfl (optimize_entry h)
  · exact hput rfl h

theorem foldl_invalidate (keys : List String) (c : Cache α) :
    keys.foldl (fun c key => (c.invalidate key).1) c = { c with entries := keys.foldl (·.erase ·) c.entries } := by
  induction keys generalizing c with
  | nil => rfl
  | cons k keys ih =>
    rw [List.foldl_cons, ih]
    rfl

section Keys
variable {c c' : Cache α} {key : String}

theorem mem_iff : key ∈ c.entries ↔ ∃ entry, c.entries[key]? = some entry := by
  rw [Std.ExtTreeMap.mem_iff_isSome_getElem?, Option.isSome_iff_exists]

theorem Inherits.mem (h : c.Inherits c') (hkey : key ∈ c'.entries) : key ∈ c.entries := by
  obtain ⟨entry', hentry⟩ := mem_iff.mp hkey
  obtain ⟨entry, hentry, -⟩ := h key entry' hentry
  exact mem_iff.mpr ⟨entry, hentry⟩

theorem mem_set {value : α} {now : Int} {k : String} (h : k ∈ (c.set key value now).entries) :
    k = key ∨ k ∈ c.entries := by
  obtain ⟨entry', hentry⟩ := mem_iff.mp h
  rcases set_entry hentry with ⟨hk, -⟩ | ⟨-, hold⟩
  · exact Or.inl hk.symm
  · exact Or.inr (mem_iff.mpr ⟨entry', hold⟩)

end Keys
end CodeGraph.Cache
