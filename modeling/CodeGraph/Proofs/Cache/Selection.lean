import CodeGraph.Proofs.Cache.Insertion
/-!
Which keys are selected to go. They are those of all stale entries and of the coldest fresh ones, up to what the
capacity leaves, and the order in which the entries are listed does not matter.
-/
namespace CodeGraph

namespace EntryUse

/-- Which of two entries goes first: the colder one, and of two equally cold ones that with the lesser key. -/
def Precedes (now : Int) (a b : EntryUse) : Prop :=
  b.coldness now < a.coldness now ∨ (a.coldness now == b.coldness now) = true ∧ a.key < b.key

theorem rank_lt_iff_precedes {now : Int} {a b : EntryUse} (ha : a.hits < 2 ^ 64) (hb : b.hits < 2 ^ 64) :
    a.rank now < b.rank now ↔ a.Precedes now b :=
  (coldness_unsigned ha).placeDown_lt_iff (coldness_unsigned hb)

end EntryUse

section Selection
variable {entries entries' : List EntryUse} {capacity : Nat} {maxAge now : Int} {u v : EntryUse}

/-- The fresh entries that go: the coldest, as many as are too many. -/
def leavers (entries : List EntryUse) (capacity : Nat) (maxAge now : Int) : List EntryUse :=
  let fresh := freshUses entries maxAge now
  (fresh.mergeSort (EntryUse.colder now)).take (fresh.length - max capacity 1)

theorem mem_selectEvictions {key : String} : key ∈ selectEvictions entries capacity maxAge now ↔
    (∃ e ∈ entries, isStale e.written maxAge now = true ∧ e.key = key) ∨
      ∃ e ∈ leavers entries capacity maxAge now, e.key = key := by
  simp only [selectEvictions, List.mem_map, List.mem_append, List.mem_filter, or_and_right, exists_or, and_assoc]
  exact Iff.rfl

theorem mem_fresh_iff : u ∈ freshUses entries maxAge now ↔
    u ∈ leavers entries capacity maxAge now ∨ u ∈ survivors entries capacity maxAge now := by
  rw [← List.mem_append, leavers, survivors, List.take_append_drop, (List.mergeSort_perm _ _).mem_iff]

/-- Of the fresh entries those stay whose keys are not selected. -/
theorem mem_survivors_iff (hkeys : (entries.map (·.key)).Nodup) :
    u ∈ survivors entries capacity maxAge now ↔
      u ∈ freshUses entries maxAge now ∧ u.key ∉ selectEvictions entries capacity maxAge now := by
  have hapart := (List.nodup_append.mp ((selectEvictions_perm entries capacity maxAge now).nodup_iff.mpr hkeys)).2.2
  constructor
  · intro hstays
    exact ⟨mem_fresh_iff.mpr (Or.inr hstays), fun hgoes => hapart _ hgoes _ (List.mem_map_of_mem hstays) rfl⟩
  · rintro ⟨hfresh, hkey⟩
    refine (mem_fresh_iff.mp hfresh).resolve_left fun hleaves => hkey ?_
    exact mem_selectEvictions.mpr (Or.inr ⟨u, hleaves, rfl⟩)

/-- What is asked of the keys that go: no entry is named twice, all that is stale goes, and of the fresh entries as many
stay as there is room for, namely those which the order puts last. -/
structure Selects (entries : List EntryUse) (capacity : Nat) (maxAge now : Int) (keys : List String) : Prop where
  nodup : keys.Nodup
  listed : ∀ key ∈ keys, key ∈ entries.map (·.key)
  stale : ∀ e ∈ entries, isStale e.written maxAge now = true → e.key ∈ keys
  kept : ((freshUses entries maxAge now).filter fun e => e.key ∉ keys).length =
    min (freshUses entries maxAge now).length (max capacity 1)
  coldest : ∀ u ∈ freshUses entries maxAge now, ∀ v ∈ freshUses entries maxAge now,
    u.key ∈ keys → v.key ∉ keys → u.Precedes now v

theorem rank_inj (hkeys : (entries.map (·.key)).Nodup) :
    ∀ u ∈ freshUses entries maxAge now, ∀ v ∈ freshUses entries maxAge now, u.rank now = v.rank now → u = v :=
  fun _ hu _ hv heq => List.inj_on_of_nodup_map hkeys (List.mem_filter.mp hu).1 (List.mem_filter.mp hv).1
    (congrArg (fun r => (ofLex r).2) heq)

theorem leavers_precede (hkeys : (entries.map (·.key)).Nodup) (hhits : ∀ e ∈ entries, e.hits < 2 ^ 64)
    (hu : u ∈ leavers entries capacity maxAge now) (hv : v ∈ survivors entries capacity maxAge now) :
    u.Precedes now v := by
  have huhits := fresh_hits hhits u (mem_fresh_iff.mpr (Or.inl hu))
  have hvhits := fresh_hits hhits v (mem_fresh_iff.mpr (Or.inr hv))
  rw [leavers, EntryUse.mergeSort_colder (fresh_hits hhits)] at hu
  rw [survivors_eq hhits] at hv
  have hnodup : (freshUses entries maxAge now).Nodup := (List.Nodup.of_map _ hkeys).filter _
  exact (EntryUse.rank_lt_iff_precedes huhits hvhits).mp (lt_of_mem_take_drop _ hnodup (rank_inj hkeys) hu hv)

theorem selectEvictions_selects (hkeys : (entries.map (·.key)).Nodup) (hhits : ∀ e ∈ entries, e.hits < 2 ^ 64) :
    Selects entries capacity maxAge now (selectEvictions entries capacity maxAge now) := by
  have hperm := selectEvictions_perm entries capacity maxAge now
  have hnodup := List.nodup_append.mp (hperm.nodup_iff.mpr hkeys)
  refine ⟨hnodup.1, fun key hkey => hperm.mem_iff.mp (List.mem_append_left _ hkey), ?_, ?_, ?_⟩
  · exact fun e he hstale => mem_selectEvictions.mpr (Or.inl ⟨e, he, hstale, rfl⟩)
  · rw [← length_survivors]
    have hfresh : (freshUses entries maxAge now).Nodup := (List.Nodup.of_map _ hkeys).filter _
    have hkept : (survivors entries capacity maxAge now).Nodup := List.Nodup.of_map _ hnodup.2.1
    refine List.Perm.length_eq ((List.perm_ext_iff_of_nodup (hfresh.filter _) hkept).mpr fun e => ?_)
    rw [mem_survivors_iff hkeys, List.mem_filter, decide_eq_true_iff]
  · intro u hu v hv hgoes hstays
    refine leavers_precede hkeys hhits ((mem_fresh_iff.mp hu).resolve_right fun hu => ?_)
      ((mem_survivors_iff hkeys).mpr ⟨hv, hstays⟩)
    exact ((mem_survivors_iff hkeys).mp hu).2 hgoes

theorem selectEvictions_of_perm (hkeys : (entries.map (·.key)).Nodup) (hhits : ∀ e ∈ entries, e.hits < 2 ^ 64)
    (h : entries.Perm entries') :
    (selectEvictions entries' capacity maxAge now).Perm (selectEvictions entries capacity maxAge now) := by
  have hfresh : (freshUses entries maxAge now).Perm (freshUses entries' maxAge now) := h.filter _
  have hhits' : ∀ e ∈ entries', e.hits < 2 ^ 64 := fun e he => hhits e (h.mem_iff.mpr he)
  have hleavers : leavers entries' capacity maxAge now = leavers entries capacity maxAge now := by
    rw [leavers, leavers, EntryUse.mergeSort_colder (fresh_hits hhits), EntryUse.mergeSort_colder (fresh_hits hhits'),
      mergeSort_eq_of_perm _ hfresh (rank_inj hkeys), hfresh.length_eq]
  change (((entries'.filter _) ++ leavers entries' capacity maxAge now).map _).Perm
    (((entries.filter _) ++ leavers entries capacity maxAge now).map _)
  rw [hleavers]
  exact ((h.symm.filter _).append_right _).map _

/-- Among entries with different keys, each looked up as often as 64 bits can count, exactly those go that are stale or
the coldest ones too many, in whatever order they are listed. -/
theorem evictions_selected (entries : List EntryUse) (capacity : Nat) (maxAge now : Int)
    (hkeys : (entries.map (·.key)).Nodup) (hhits : ∀ e ∈ entries, e.hits < 2 ^ 64) :
    Selects entries capacity maxAge now (selectEvictions entries capacity maxAge now) ∧
      ∀ entries', entries.Perm entries' →
        (selectEvictions entries' capacity maxAge now).Perm (selectEvictions entries capacity maxAge now) :=
  ⟨selectEvictions_selects hkeys hhits, fun _ => selectEvictions_of_perm hkeys hhits⟩

end Selection

/-- A stale entry and three fresh ones, two of which are equally cold. -/
def mixedUses : List EntryUse :=
  [⟨"spent", 0, 8000000000, 9⟩, ⟨"idle", 5000000000, 7000000000, 0⟩, ⟨"often", 5000000000, 6000000000, 50⟩,
    ⟨"even", 5000000000, 7000000000, 0⟩]

/-- Without a capacity one entry stays all the same, which is the one that was looked up often. -/
theorem mixed_selected :
    (mixedUses.map (·.key)).Nodup ∧ (∀ e ∈ mixedUses, e.hits < 2 ^ 64) ∧
    Selects mixedUses 0 6000000000 10000000000 ["spent", "even", "idle"] ∧
    (selectEvictions mixedUses.reverse 0 6000000000 10000000000).Perm ["spent", "even", "idle"] := by
  have hkeys : (mixedUses.map (·.key)).Nodup := by decide
  have hhits : ∀ e ∈ mixedUses, e.hits < 2 ^ 64 := by decide
  have hselected := evictions_selected mixedUses 0 6000000000 10000000000 hkeys hhits
  have hidle : EntryUse.colder 10000000000 ⟨"idle", 5000000000, 7000000000, 0⟩
      ⟨"often", 5000000000, 6000000000, 50⟩ = true := by decide +kernel
  have heven : EntryUse.colder 10000000000 ⟨"idle", 5000000000, 7000000000, 0⟩
      ⟨"even", 5000000000, 7000000000, 0⟩ = false := by decide +kernel
  have hevicted : selectEvictions mixedUses 0 6000000000 10000000000 = ["spent", "even", "idle"] := by
    simp [selectEvictions, mixedUses, isStale, List.mergeSort, List.MergeSort.Internal.splitInTwo, hidle, heven]
  rw [hevicted] at hselected
  exact ⟨hkeys, hhits, hselected.1, hselected.2 _ mixedUses.reverse_perm.symm⟩

end CodeGraph
