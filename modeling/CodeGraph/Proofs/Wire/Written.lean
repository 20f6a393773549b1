import CodeGraph.Proofs.Time.Written
import CodeGraph.Proofs.Wire.Reading
/-!
Values as they are written and read. A reader recovers what was written for it, and the reader of a record recovers
the fields that stand in an object under their names.
-/
namespace CodeGraph

namespace Reader
variable {α : Type}

theorem string_str (text : String) : string (.str text) = .ok text := rfl

theorem nullable_some {read : Reader α} {j : Json} {a : α} (h : read j = .ok a) (hj : j.isNull = false) :
    nullable read j = .ok (some a) := by
  cases j with
  | null => cases hj
  | _ => simp only [nullable, h, Except.map]

theorem nullable_ofOption {read : Reader α} {write : α → Json} (hwrite : ∀ a, (write a).isNull = false) {o : Option α}
    (h : ∀ a ∈ o, read (write a) = .ok a) : nullable read (.ofOption write o) = .ok o := by
  cases o with
  | none => rfl
  | some a => exact nullable_some (h a rfl) (hwrite a)

theorem nullable_text (o : Option String) : nullable string (.ofOption .str o) = .ok o :=
  nullable_ofOption (fun _ => rfl) fun _ _ => rfl

theorem items_map {read : Reader α} {write : α → Json} {xs : List α} (h : ∀ a ∈ xs, read (write a) = .ok a) :
    items read (xs.map write) = .ok xs := by
  induction xs with
  | nil => rfl
  | cons a xs ih =>
    obtain ⟨ha, hxs⟩ := List.forall_mem_cons.mp h
    simp only [List.map_cons, items, ha, ih hxs, Except.map]

theorem list_ofList {read : Reader α} {write : α → Json} {xs : List α} (h : ∀ a ∈ xs, read (write a) = .ok a) :
    list read (.ofList write xs) = .ok xs :=
  items_map h

theorem ofList_toList (names : StringSet) : Std.ExtTreeSet.ofList names.toList = names := by
  apply Std.ExtTreeSet.ext_mem
  intro name
  rw [Std.ExtTreeSet.mem_ofList, List.contains_iff_mem, Std.ExtTreeSet.mem_toList]

theorem set_ofSet (names : StringSet) : set (.ofSet names) = .ok names := by
  have hnames : list string (.ofSet names) = .ok names.toList := items_map fun _ _ => rfl
  rw [set, hnames, Except.map, ofList_toList]

theorem list_text (xs : List String) : list string (.ofList .str xs) = .ok xs := list_ofList fun _ _ => rfl

theorem members_map {read : Reader α} {write : α → Json} {entries : List (String × α)}
    (h : ∀ e ∈ entries, read (write e.2) = .ok e.2) :
    members read (entries.map fun e => (e.1, write e.2)) = .ok entries := by
  induction entries with
  | nil => rfl
  | cons e rest ih =>
    obtain ⟨he, hrest⟩ := List.forall_mem_cons.mp h
    simp only [List.map_cons, members, he, ih hrest, Except.map]

theorem ofList_entries (m : Std.ExtTreeMap String α) : Std.ExtTreeMap.ofList m.toList = m := by
  apply Std.ExtTreeMap.ext_getElem?
  intro name
  cases hname : m[name]? with
  | some a =>
    have hmem : (name, a) ∈ m.toList := Std.ExtTreeMap.mem_toList_iff_getElem?_eq_some.mpr hname
    exact Std.ExtTreeMap.getElem?_ofList_of_mem Std.compare_self Std.ExtTreeMap.distinct_keys_toList hmem
  | none =>
    apply Std.ExtTreeMap.getElem?_ofList_of_contains_eq_false
    rw [Std.ExtTreeMap.map_fst_toList_eq_keys]
    simpa using hname

theorem map_ofMap {read : Reader α} {write : α → Json} {m : Std.ExtTreeMap String α}
    (h : ∀ (name : String) a, m[name]? = some a → read (write a) = .ok a) : map read (.ofMap write m) = .ok m := by
  have hmembers : members read (m.toList.map fun e => (e.1, write e.2)) = .ok m.toList :=
    members_map fun e he => h e.1 e.2 (Std.ExtTreeMap.mem_toList_iff_getElem?_eq_some.mp he)
  simp only [map, Json.ofMap, hmembers, Except.map, ofList_entries]

theorem time_ofTime {t : Time} (h : t.Valid) : time (.ofTime t) = .ok t := by
  simp only [time, Json.ofTime, Time.parse_render h]

theorem nullable_time {o : Option Time} (h : ∀ t ∈ o, t.Valid) : nullable time (.ofOption .ofTime o) = .ok o :=
  nullable_ofOption (fun _ => rfl) fun t ht => time_ofTime (h t ht)

theorem natural_nat {bits n : Nat} (width : String) (h : n < Nat.pow 2 bits) : natural bits width (.nat n) = .ok n := by
  simp only [natural, Json.nat, Int.toNat_natCast]
  exact if_pos ⟨by omega, h⟩

theorem time_inv {j : Json} {t : Time} (h : time j = .ok t) : t.Valid := by
  cases j with
  | str text =>
    simp only [time] at h
    split at h
    · next ht =>
      cases h
      exact Time.parse_valid ht
    · cases h
  | _ => cases h

theorem float_float {x : Float} (h : x.isFinite = true) : float (.float x) = .ok x := by
  rw [Json.float, if_pos h]
  rfl

theorem nullable_float {o : Option Float} (h : ∀ x ∈ o, x.isFinite = true) :
    nullable float (.ofOption .float o) = .ok o := by
  cases o with
  | none => rfl
  | some x =>
    have hx : x.isFinite = true := h x rfl
    have hnull : (Json.float x).isNull = false := by
      rw [Json.float, if_pos hx]
      rfl
    exact nullable_some (float_float hx) hnull

end Reader

namespace Record
variable {α β : Type} {find : String → Option Json} {a : α} {j : Json}

theorem Finds.defaulted {name : String} {read : Reader α} (hj : find name = some j) (h : read j = .ok a) (value : α) :
    Finds find (Record.defaulted name read value) a := by
  simp only [Finds, Record.defaulted, field, hj, h]

theorem Finds.required {name : String} {read : Reader α} (hj : find name = some j) (h : read j = .ok a) :
    Finds find (Record.required name read) a := by
  simp only [Finds, Record.required, field, hj, h]

theorem Finds.nullable {name : String} {read : Reader α} {o : Option α} (hj : find name = some j)
    (h : Reader.nullable read j = .ok o) : Finds find (Record.nullable name read) o := by
  simp only [Finds, Record.nullable, field, hj, h]

/-- A field that is left out has its default. -/
theorem Finds.absent {name : String} {read : Reader α} (hj : find name = none) (value : α) :
    Finds find (Record.defaulted name read value) value := by
  simp only [Finds, Record.defaulted, field, hj]

theorem Finds.map {r : Record α} (h : Finds find r a) (f : α → β) : Finds find (f <$> r) (f a) :=
  congrArg (Except.map f) h

theorem Finds.seq {g : Record (α → β)} {f : α → β} {r : Record α} (hg : Finds find g f) (h : Finds find r a) :
    Finds find (g <*> r) (f a) := by
  change (g.build find >>= fun f => r.build find >>= fun a => .ok (f a)) = .ok (f a)
  rw [ok_bind hg, ok_bind h]

variable {members : List (String × Json)}

theorem Finds.read {r : Record α} (h : Finds (members.lookup ·) r a) (name : String) :
    r.read name (.obj members) = .ok a := by
  rw [Finds] at h
  simp only [Record.read, readSaying, readMembers, h]

theorem Finds.readCounted {r : Record α} (h : Finds (members.lookup ·) r a) (name : String) :
    r.readCounted name (.obj members) = .ok a := by
  rw [Finds] at h
  simp only [Record.readCounted, readSaying, readMembers, h]

/-- A record is read from among the members of another. -/
theorem Finds.readJoined {outer : Record (α → β)} {inner : Record α} {f : α → β}
    (houter : Finds (members.lookup ·) outer f) (hinner : Finds (members.lookup ·) inner a) (name : String) :
    Record.readJoined name outer inner (.obj members) = .ok (f a) := by
  rw [Finds] at houter hinner
  simp only [Record.readJoined, readMembers, houter, hinner, Except.map]

end Record
end CodeGraph
