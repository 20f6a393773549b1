import CodeGraph.Proofs.Cache.History
import CodeGraph.Proofs.List.Ranked
import CodeGraph.Proofs.Number.Place
/-!
Whether an entry survives its own insertion. Nothing is less cold than a new entry, so a full cache drops it only if all
that it holds was touched within the same millisecond, and then by its key.
-/
namespace CodeGraph

/-! ### Coldness -/

theorem normal_thousand : Normal 10 10 1000 :=
  ⟨1000 * 2 ^ 43, -43, by decide, rfl, by decide, by decide, by decide⟩

/-- One more than a count of 64 bits. -/
theorem one_add_normal {n : Nat} (h : n < 2 ^ 64) : Normal 1 69 (1 + .ofNat n) := by
  rcases Nat.eq_zero_or_pos n with rfl | hpos
  · have hone : (1 + .ofNat 0 : Float) = 1 := rfl
    rw [hone]
    exact normal_one.mono (Int.le_refl 1) (by decide)
  · exact (normal_one.mono (Int.le_refl 1) (by decide)).add (ofNat_pos hpos h (by decide)) (by decide)

namespace EntryUse
variable {now : Int} {a b : EntryUse}

theorem coldness_recent (hhits : a.hits < 2 ^ 64) (h : now - a.touched < 1000000) : a.coldness now = 0 := by
  have hidle : ((now - a.touched) / 1000000).toNat = 0 := by omega
  have hzero : Float.ofNat 0 = 0 := rfl
  rw [coldness, hidle, hzero, zero_div_normal normal_thousand, zero_div_normal (one_add_normal hhits)]

theorem coldness_idle (hhits : a.hits < 2 ^ 64) (h : 1000000 ≤ now - a.touched) : AtLeast (-78) (a.coldness now) := by
  have hidle : 0 < ((now - a.touched) / 1000000).toNat := by omega
  exact ((ofNat_atLeast hidle).div normal_thousand (by decide)).div (one_add_normal hhits) (by decide)

theorem coldness_unsigned (hhits : a.hits < 2 ^ 64) : Unsigned (a.coldness now) := by
  rcases Int.lt_or_le (now - a.touched) 1000000 with h | h
  · rw [coldness_recent hhits h]
    exact unsigned_zero
  · exact (coldness_idle hhits h).unsigned

/-- Where an entry stands in the order in which entries are dropped. -/
def rank (now : Int) (e : EntryUse) : (Nat ×ₗ Int ×ₗ Nat)ᵒᵈ ×ₗ String :=
  toLex (OrderDual.toDual (place (e.coldness now)), e.key)

theorem colder_eq (ha : a.hits < 2 ^ 64) (hb : b.hits < 2 ^ 64) :
    colder now a b = decide (a.rank now ≤ b.rank now) :=
  (coldness_unsigned ha).placeDown_le_iff (coldness_unsigned hb)

theorem mergeSort_colder {l : List EntryUse} (hhits : ∀ v ∈ l, v.hits < 2 ^ 64) :
    l.mergeSort (colder now) = l.mergeSort fun a b => a.rank now ≤ b.rank now :=
  mergeSort_eq_of_rank (rank now) fun a ha b hb => colder_eq (hhits a ha) (hhits b hb)

/-- What was not touched for a millisecond goes before what was, and of what was that with the lesser key. -/
theorem rank_lt_iff (ha : a.hits < 2 ^ 64) (hb : b.hits < 2 ^ 64) (hnew : now - b.touched < 1000000) :
    a.rank now < b.rank now ↔ 1000000 ≤ now - a.touched ∨ a.key < b.key := by
  rw [rank, rank, Prod.Lex.toLex_lt_toLex, coldness_recent hb hnew]
  rcases Int.lt_or_le (now - a.touched) 1000000 with h | h
  · rw [coldness_recent ha h]
    simp [Int.not_le.mpr h]
  · have hlt := (unsigned_zero.lt_iff (coldness_unsigned ha)).mp (coldness_idle ha h).pos
    simp [hlt, h]

end EntryUse

/-! ### An entry too many -/

section Selection
variable {entries : List EntryUse} {capacity : Nat} {maxAge now : Int} {u v : EntryUse}

theorem mem_of_survivors (h : u ∈ survivors entries capacity maxAge now) : u ∈ entries :=
  (List.mem_filter.mp ((List.mergeSort_perm _ _).mem_iff.mp (List.mem_of_mem_drop h))).1

theorem fresh_hits (hhits : ∀ v ∈ entries, v.hits < 2 ^ 64) : ∀ v ∈ freshUses entries maxAge now, v.hits < 2 ^ 64 :=
  fun v hv => hhits v (List.mem_filter.mp hv).1

theorem survivors_eq (hhits : ∀ v ∈ entries, v.hits < 2 ^ 64) : survivors entries capacity maxAge now =
    ((freshUses entries maxAge now).mergeSort fun a b => a.rank now ≤ b.rank now).drop
      ((freshUses entries maxAge now).length - max capacity 1) := by
  rw [survivors, EntryUse.mergeSort_colder (fresh_hits hhits)]

/-- If there is one entry too many, a fresh one goes unless some other is stale or goes before it. -/
theorem mem_survivors_overfull (hpos : 1 ≤ capacity) (hlength : entries.length = capacity + 1)
    (hkeys : (entries.map (·.key)).Nodup) (hhits : ∀ v ∈ entries, v.hits < 2 ^ 64) (hu : u ∈ entries)
    (hfresh : isStale u.written maxAge now = false) : u ∈ survivors entries capacity maxAge now ↔
      ∃ v ∈ entries, isStale v.written maxAge now = true ∨ v.rank now < u.rank now := by
  rw [survivors_eq hhits, Nat.max_eq_left hpos]
  by_cases hall : ∀ v ∈ entries, isStale v.written maxAge now = false
  · have hsame : freshUses entries maxAge now = entries := List.filter_eq_self.mpr fun v hv => by simp [hall v hv]
    have hone : entries.length - capacity = 1 := by omega
    have hinj : ∀ v ∈ entries, u.rank now = v.rank now → u = v := fun v hv heq =>
      List.inj_on_of_nodup_map hkeys hu hv (congrArg (fun r => (ofLex r).2) heq)
    rw [hsame, hone, mem_drop_one_mergeSort _ (List.Nodup.of_map _ hkeys) hinj hu]
    exact exists_congr fun v => and_congr_right fun hv => by simp [hall v hv]
  · obtain ⟨v, hv, hstale⟩ : ∃ v ∈ entries, isStale v.written maxAge now = true := by simpa using hall
    have hfew : (freshUses entries maxAge now).length ≤ capacity := by
      have hlt : (freshUses entries maxAge now).length < entries.length :=
        List.length_filter_lt_length_iff_exists.mpr ⟨v, hv, by simp [hstale]⟩
      omega
    rw [Nat.sub_eq_zero_of_le hfew, List.drop_zero, (List.mergeSort_perm _ _).mem_iff]
    exact iff_of_true (List.mem_filter.mpr ⟨hu, by simp [hfresh]⟩) ⟨v, hv, Or.inl hstale⟩

end Selection

namespace Cache
variable {α : Type} {c : Cache α} {key : String} {value : α} {now clock : Int} {u : EntryUse}

theorem mem_uses : u ∈ c.uses ↔ ∃ entry : CacheEntry α,
    c.entries[u.key]? = some entry ∧ u = ⟨u.key, entry.written, entry.touched, entry.hits⟩ := by
  simp only [uses, List.mem_map, Prod.exists, Std.ExtTreeMap.mem_toList_iff_getElem?_eq_some]
  constructor
  · rintro ⟨key, entry, hentry, rfl⟩
    exact ⟨entry, hentry, rfl⟩
  · rintro ⟨entry, hentry, hu⟩
    exact ⟨u.key, entry, hentry, hu.symm⟩

theorem mem_optimize_iff (hu : u ∈ c.uses) :
    u.key ∈ (c.optimize now).1.entries ↔ u ∈ survivors c.uses c.capacity c.maxAge now := by
  rw [mem_optimize, List.mem_map]
  constructor
  · rintro ⟨v, hv, hkey⟩
    exact List.inj_on_of_nodup_map c.uses_key_nodup (mem_of_survivors hv) hu hkey ▸ hv
  · exact fun h => ⟨u, h, rfl⟩

/-! ### Storing and looking up -/

/-- A full cache turns a new entry away if all that it holds is fresh, was touched less than a millisecond before and
has a greater key. -/
structure Ousts (c : Cache α) (key : String) (now : Int) : Prop where
  new : key ∉ c.entries
  full : c.size = c.capacity
  held : ∀ v ∈ c.uses, isStale v.written c.maxAge now = false ∧ now - v.touched < 1000000 ∧ key < v.key

instance (c : Cache α) (key : String) (now : Int) : Decidable (c.Ousts key now) :=
  decidable_of_iff (key ∉ c.entries ∧ c.size = c.capacity ∧
    ∀ v ∈ c.uses, isStale v.written c.maxAge now = false ∧ now - v.touched < 1000000 ∧ key < v.key)
    ⟨fun h => ⟨h.1, h.2.1, h.2.2⟩, fun h => ⟨h.new, h.full, h.held⟩⟩

theorem setAt_eq (c : Cache α) (key : String) (value : α) (written clock : Int) : c.setAt key value written clock =
    if (c.put key value written).size > c.capacity then ((c.put key value written).optimize (max written clock)).1
    else c.put key value written := rfl

theorem put_self (c : Cache α) (key : String) (value : α) (now : Int) : ∃ hits,
    (c.put key value now).entries[key]? = some ⟨value, now, now, hits⟩ :=
  ⟨_, Std.ExtTreeMap.getElem?_insert_self⟩

theorem put_other {k : String} (h : key ≠ k) : (c.put key value now).entries[k]? = c.entries[k]? := by
  rw [put, Std.ExtTreeMap.getElem?_insert, if_neg (fun heq => h (Std.compare_eq_iff_eq.mp heq))]

theorem mem_uses_put (hnew : key ∉ c.entries) :
    u ∈ (c.put key value now).uses ↔ u = ⟨key, now, now, 0⟩ ∨ u ∈ c.uses := by
  have hnone : c.entries[key]? = none := Std.ExtTreeMap.getElem?_eq_none hnew
  have hself : (c.put key value now).entries[key]? = some ⟨value, now, now, 0⟩ := by
    rw [put, Std.ExtTreeMap.getElem?_insert_self, hnone]
    rfl
  by_cases hkey : key = u.key
  · subst hkey
    rw [mem_uses, hself, mem_uses, hnone]
    simp
  · have hne : u ≠ ⟨key, now, now, 0⟩ := fun heq => hkey (congrArg EntryUse.key heq).symm
    rw [mem_uses, put_other hkey, mem_uses]
    simp [hne]

theorem mem_put (c : Cache α) (key : String) (value : α) (now : Int) : key ∈ (c.put key value now).entries :=
  Std.ExtTreeMap.mem_insert_self

/-- What is stored is answered, as long as it is there. -/
theorem get?_setAt_iff (hage : 0 ≤ c.maxAge) :
    ((c.setAt key value now clock).get? key now).1 = some value ↔ key ∈ (c.setAt key value now clock).entries := by
  have hlimits : (c.setAt key value now clock).maxAge = c.maxAge := (c.step_limits (.set key value now clock)).2
  constructor
  · intro h
    obtain ⟨entry, hentry, -⟩ := get?_fresh h
    exact mem_iff.mpr ⟨entry, hentry⟩
  · intro h
    obtain ⟨entry, hentry⟩ := mem_iff.mp h
    have hput : (c.put key value now).entries[key]? = some entry := by
      rw [setAt_eq] at hentry
      split at hentry
      · exact optimize_entry hentry
      · exact hentry
    obtain ⟨hits, hself⟩ := c.put_self key value now
    cases hself.symm.trans hput
    have hfresh : (c.setAt key value now clock).isFresh now ⟨value, now, now, hits⟩ = true := by
      simp [isFresh, isStale, hlimits, hage]
    simp only [get?, hentry, hfresh, if_true]

/-- Some entry goes before a new one unless the full cache turns that one away. -/
theorem goes_first_iff (hfull : c.size = c.capacity) (hnew : key ∉ c.entries) (hage : 0 ≤ c.maxAge)
    (hhits : ∀ v ∈ c.uses, v.hits < 2 ^ 64) :
    (∃ v ∈ (c.put key value now).uses,
      isStale v.written c.maxAge now = true ∨ v.rank now < EntryUse.rank now ⟨key, now, now, 0⟩) ↔
      ¬ c.Ousts key now := by
  have hrank : ∀ v ∈ c.uses, v.rank now < EntryUse.rank now ⟨key, now, now, 0⟩ ↔
      1000000 ≤ now - v.touched ∨ v.key < key := fun v hv =>
    EntryUse.rank_lt_iff (hhits v hv) (Nat.two_pow_pos 64) (by simp)
  constructor
  · rintro ⟨v, hv, hgoes⟩ houst
    rcases (mem_uses_put hnew).mp hv with rfl | hheld
    · simp [isStale, Int.not_lt.mpr hage] at hgoes
    · rw [hrank v hheld] at hgoes
      obtain ⟨hfresh, hrecent, hkey⟩ := houst.held v hheld
      rw [hfresh] at hgoes
      rcases hgoes with hstale | hidle | hless
      · cases hstale
      · exact absurd hidle (Int.not_le.mpr hrecent)
      · exact lt_asymm hless hkey
  · intro houst
    by_contra hnone
    refine houst ⟨hnew, hfull, fun v hheld => ?_⟩
    have hstays := fun hgoes => hnone ⟨v, (mem_uses_put hnew).mpr (Or.inr hheld), hgoes⟩
    rw [hrank v hheld] at hstays
    have hne : key ≠ v.key := fun heq => hnew (heq ▸ (c.mem_uses_key).mp (List.mem_map_of_mem hheld))
    refine ⟨?_, ?_, ?_⟩
    · simpa using fun hstale => hstays (Or.inl hstale)
    · exact Int.not_le.mp fun hidle => hstays (Or.inr (Or.inl hidle))
    · exact lt_of_le_of_ne (not_lt.mp fun hless => hstays (Or.inr (Or.inr hless))) hne

theorem size_put (hnew : key ∉ c.entries) : (c.put key value now).size = c.size + 1 :=
  Std.ExtTreeMap.size_insert.trans (if_neg hnew)

/-- A new entry that is one too many stays in a sweep unless it is turned away. -/
theorem mem_optimize_put (hpos : 1 ≤ c.capacity) (hfull : c.size = c.capacity) (hnew : key ∉ c.entries)
    (hage : 0 ≤ c.maxAge) (hhits : ∀ v ∈ c.uses, v.hits < 2 ^ 64) :
    key ∈ ((c.put key value now).optimize now).1.entries ↔ ¬ c.Ousts key now := by
  have hself : ⟨key, now, now, 0⟩ ∈ (c.put key value now).uses := (mem_uses_put hnew).mpr (Or.inl rfl)
  have hlength : (c.put key value now).uses.length = c.capacity + 1 := by
    rw [uses, List.length_map, Std.ExtTreeMap.length_toList]
    exact (size_put hnew).trans (congrArg (· + 1) hfull)
  have hputHits : ∀ v ∈ (c.put key value now).uses, v.hits < 2 ^ 64 := by
    intro v hv
    rcases (mem_uses_put hnew).mp hv with rfl | hheld
    · exact Nat.two_pow_pos 64
    · exact hhits v hheld
  have hfresh : isStale now c.maxAge now = false := by
    simpa [isStale] using hage
  have hstays := mem_survivors_overfull hpos hlength (uses_key_nodup _) hputHits hself hfresh
  exact ((mem_optimize_iff hself).trans hstays).trans (goes_first_iff hfull hnew hage hhits)

theorem mem_setAt_iff (hpos : 1 ≤ c.capacity) (hsize : c.size ≤ c.capacity) (hage : 0 ≤ c.maxAge)
    (hhits : ∀ v ∈ c.uses, v.hits < 2 ^ 64) (hclock : clock ≤ now) :
    key ∈ (c.setAt key value now clock).entries ↔ ¬ c.Ousts key now := by
  rw [setAt_eq, Int.max_eq_left hclock]
  by_cases hnew : key ∈ c.entries
  · have hkept : (c.put key value now).size = c.size := Std.ExtTreeMap.size_insert.trans (if_pos hnew)
    rw [if_neg (by omega)]
    exact iff_of_true (c.mem_put key value now) fun h => h.new hnew
  have hgrown : (c.put key value now).size = c.size + 1 := size_put hnew
  by_cases hfull : c.size = c.capacity
  · rw [if_pos (by omega)]
    exact mem_optimize_put hpos hfull hnew hage hhits
  · rw [if_neg (by omega)]
    exact iff_of_true (c.mem_put key value now) fun h => hfull h.full

/-! ### Along a history -/

theorem after_maxAge (c : Cache α) (ops : List (CacheOp α)) : (c.after ops).maxAge = c.maxAge := by
  induction ops using List.reverseRecOn with
  | nil => rfl
  | append_singleton ops op ih =>
    rw [after_concat]
    exact (step_limits _ op).2.trans ih

theorem empty_maxAge_nonneg (capacity maxAge : Nat) : 0 ≤ (empty capacity maxAge : Cache α).maxAge := by
  have hfallback : 0 ≤ fallbackMaxAge := by decide
  simp only [empty]
  split <;> omega

/-- No entry has been looked up more often than that. -/
def Counted (c : Cache α) (n : Nat) : Prop :=
  ∀ (key : String) (entry : CacheEntry α), c.entries[key]? = some entry → entry.hits ≤ n

theorem Counted.step {n : Nat} (h : c.Counted n) (op : CacheOp α) : (c.step op).Counted (n + 1) := by
  intro k entry hentry
  cases op with
  | set key value written clock =>
    have hput : (c.put key value written).entries[k]? = some entry := by
      rcases c.step_set key value written clock with ⟨-, hset⟩ | hset
      · exact hset ▸ hentry
      · exact optimize_entry (hset ▸ hentry)
    rw [put, Std.ExtTreeMap.getElem?_insert] at hput
    split at hput
    · cases hput
      cases hold : c.entries[key]? with
      | none => exact Nat.zero_le _
      | some old => exact Nat.le_succ_of_le (h key old hold)
    · exact Nat.le_succ_of_le (h k entry hput)
  | get key now =>
    simp only [Cache.step, get?] at hentry
    split at hentry
    · exact Nat.le_succ_of_le (h k entry hentry)
    · next found hfound =>
      split at hentry
      · rw [Std.ExtTreeMap.getElem?_insert] at hentry
        split at hentry
        · cases hentry
          exact Nat.succ_le_succ (h key found hfound)
        · exact Nat.le_succ_of_le (h k entry hentry)
      · exact Nat.le_succ_of_le (h k entry hentry)
  | invalidate key =>
    have herased : (c.entries.erase key)[k]? = some entry := hentry
    rw [Std.ExtTreeMap.getElem?_erase] at herased
    split at herased
    · cases herased
    · exact Nat.le_succ_of_le (h k entry herased)
  | optimize now => exact Nat.le_succ_of_le (h k entry (optimize_entry hentry))

/-- No entry has been looked up more often than there were operations. -/
theorem after_counted (capacity maxAge : Nat) (ops : List (CacheOp α)) :
    ((empty capacity maxAge).after ops).Counted ops.length := by
  induction ops using List.reverseRecOn with
  | nil =>
    intro key entry hentry
    simp [after, empty] at hentry
  | append_singleton ops op ih =>
    rw [after_concat, List.length_append]
    exact ih.step op

/-- As long as 64 bits are enough for every count, a value that is stored is answered at once, unless the cache turns it
away. -/
theorem stored_answered_iff (capacity maxAge : Nat) (ops : List (CacheOp α)) (key : String) (value : α) (now clock : Int)
    (hcounted : ((empty capacity maxAge : Cache α).after ops).Counted (2 ^ 64 - 1)) (hclock : clock ≤ now) :
    let c := (empty capacity maxAge).after ops
    ((c.setAt key value now clock).get? key now).1 = some value ↔ ¬ c.Ousts key now := by
  intro c
  have h : c.Sound capacity maxAge ops := after_sound capacity maxAge ops
  have hpos : 1 ≤ c.capacity := h.capacity ▸ Nat.le_max_right capacity 1
  have hage : 0 ≤ c.maxAge := by
    rw [after_maxAge]
    exact empty_maxAge_nonneg capacity maxAge
  have hhits : ∀ v ∈ c.uses, v.hits < 2 ^ 64 := by
    intro v hv
    obtain ⟨entry, hentry, huse⟩ := mem_uses.mp hv
    have hle : v.hits ≤ 2 ^ 64 - 1 := huse ▸ hcounted v.key entry hentry
    exact Nat.lt_of_le_pred (Nat.two_pow_pos 64) hle
  exact (get?_setAt_iff hage).trans (mem_setAt_iff hpos h.size hage hhits hclock)

/-- A full cache, the entry of which is touched as late as the new one is stored. -/
theorem tied_ousted :
    let c := (empty 1 1000000000 : Cache Nat).after [.set "b" 1 0 0]
    ((c.setAt "a" 2 0 0).get? "a" 0).1 ≠ some 2 := by
  intro c
  have houst : c.Ousts "a" 0 := by decide +kernel
  have hhits : ∀ v ∈ c.uses, v.hits < 2 ^ 64 := by decide +kernel
  rw [Ne, get?_setAt_iff (by decide), mem_setAt_iff (by decide) houst.full.le (by decide) hhits (Int.le_refl 0)]
  exact fun h => h houst

/-- A millisecond later the new entry takes its place. -/
theorem untied_answered :
    let c := (empty 1 1000000000 : Cache Nat).after [.set "b" 1 0 0]
    ((c.setAt "a" 2 1000000 1000000).get? "a" 1000000).1 = some 2 := by
  intro c
  have hcounted : c.Counted (2 ^ 64 - 1) := fun key entry hentry =>
    Nat.le_trans (after_counted 1 1000000000 [.set "b" 1 0 0] key entry hentry) (by decide)
  have houst : ¬ c.Ousts "a" 1000000 := by decide +kernel
  exact (stored_answered_iff 1 1000000000 [.set "b" 1 0 0] "a" 2 1000000 1000000 hcounted (Int.le_refl _)).mpr houst

end Cache
end CodeGraph
