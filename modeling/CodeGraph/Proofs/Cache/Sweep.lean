import Mathlib.Data.List.Perm.Basic
import CodeGraph.Proofs.Cache.Inherits
/-!
What a sweep leaves of a cache. The keys that are dropped and those that stay share out all keys between them, so as
many entries stay as are fresh, up to the capacity.
-/
namespace CodeGraph

section Selection
variable (entries : List EntryUse) (capacity : Nat) (maxAge now : Int)

def freshUses : List EntryUse := entries.filter fun e => !isStale e.written maxAge now

/-- The fresh entries that stay: all but the coldest that are too many. -/
def survivors : List EntryUse :=
  let fresh := freshUses entries maxAge now
  (fresh.mergeSort (EntryUse.colder now)).drop (fresh.length - max capacity 1)

theorem length_survivors :
    (survivors entries capacity maxAge now).length = min (freshUses entries maxAge now).length (max capacity 1) := by
  simp only [survivors, List.length_drop, List.length_mergeSort]
  omega

/-- Every key is either dropped or stays. -/
theorem selectEvictions_perm :
    (selectEvictions entries capacity maxAge now ++ (survivors entries capacity maxAge now).map (·.key)).Perm
      (entries.map (·.key)) := by
  have hsorted := List.mergeSort_perm (freshUses entries maxAge now) (EntryUse.colder now)
  have hshared :
      (entries.filter (fun e => isStale e.written maxAge now) ++ freshUses entries maxAge now).Perm entries :=
    List.filter_append_perm (fun e : EntryUse => isStale e.written maxAge now) entries
  simp only [selectEvictions, survivors, ← List.map_append, List.append_assoc]
  rw [← freshUses, List.take_append_drop]
  exact ((hsorted.append_left _).trans hshared).map _

end Selection

namespace Cache
variable {α : Type} (c : Cache α) (now : Int)

theorem mem_uses_key {key : String} : key ∈ c.uses.map (·.key) ↔ key ∈ c.entries := by
  rw [uses, List.map_map, mem_iff]
  simp only [List.mem_map, Function.comp_apply, Prod.exists, Std.ExtTreeMap.mem_toList_iff_getElem?_eq_some]
  exact ⟨fun ⟨k, entry, hentry, hk⟩ => ⟨entry, hk ▸ hentry⟩, fun ⟨entry, hentry⟩ => ⟨key, entry, hentry, rfl⟩⟩

theorem uses_key_nodup : (c.uses.map (·.key)).Nodup := by
  rw [uses, List.map_map]
  exact Std.ExtTreeMap.map_fst_toList_eq_keys (t := c.entries) ▸ Std.ExtTreeMap.nodup_keys

/-- What stays of a cache are the survivors. -/
theorem mem_optimize {key : String} : key ∈ (c.optimize now).1.entries ↔
    key ∈ (survivors c.uses c.capacity c.maxAge now).map (·.key) := by
  have hperm := selectEvictions_perm c.uses c.capacity c.maxAge now
  have hnodup := hperm.nodup_iff.mpr c.uses_key_nodup
  have hmem : key ∈ c.evictions now ∨ key ∈ (survivors c.uses c.capacity c.maxAge now).map (·.key) ↔
      key ∈ c.entries := by
    rw [← mem_uses_key, ← hperm.mem_iff, List.mem_append, evictions]
  have hapart := (List.nodup_append.mp hnodup).2.2
  have hleft : key ∈ (c.optimize now).1.entries ↔ key ∉ c.evictions now ∧ key ∈ c.entries := by
    simp only [optimize, Std.ExtTreeMap.mem_iff_isSome_getElem?, getElem?_foldl_erase]
    split
    · next hgone => simp [hgone]
    · next hkept => simp [hkept]
  rw [hleft, ← hmem]
  exact ⟨fun h => h.2.resolve_left h.1, fun h => ⟨fun hgone => hapart key hgone key h rfl, Or.inr h⟩⟩

/-- As many entries stay as are fresh, up to the capacity. -/
theorem size_optimize : (c.optimize now).1.size = min (freshUses c.uses c.maxAge now).length (max c.capacity 1) := by
  have hnodup : ((survivors c.uses c.capacity c.maxAge now).map (·.key)).Nodup :=
    (List.nodup_append.mp ((selectEvictions_perm _ _ _ _).nodup_iff.mpr c.uses_key_nodup)).2.1
  have hperm : (c.optimize now).1.entries.keys.Perm ((survivors c.uses c.capacity c.maxAge now).map (·.key)) := by
    rw [List.perm_ext_iff_of_nodup Std.ExtTreeMap.nodup_keys hnodup]
    intro key
    rw [Std.ExtTreeMap.mem_keys, mem_optimize]
  rw [size, ← Std.ExtTreeMap.length_keys, hperm.length_eq, List.length_map, length_survivors]

/-- Some entry is fresh. -/
def HoldsFresh : Prop :=
  ∃ (key : String) (entry : CacheEntry α), c.entries[key]? = some entry ∧ c.isFresh now entry = true

/-- A sweep that finds a fresh entry leaves one. -/
theorem size_optimize_pos (h : c.HoldsFresh now) : 0 < (c.optimize now).1.size := by
  obtain ⟨key, entry, hentry, hfresh⟩ := h
  have hmem : (⟨key, entry.written, entry.touched, entry.hits⟩ : EntryUse) ∈ freshUses c.uses c.maxAge now :=
    List.mem_filter.mpr
      ⟨List.mem_map.mpr ⟨(key, entry), Std.ExtTreeMap.mem_toList_iff_getElem?_eq_some.mpr hentry, rfl⟩, hfresh⟩
  have hpos := List.length_pos_of_mem hmem
  rw [size_optimize]
  omega

end Cache
end CodeGraph
