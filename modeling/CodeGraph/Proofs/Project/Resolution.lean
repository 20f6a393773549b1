import CodeGraph.Proofs.Project.Paths
import CodeGraph.Proofs.Text.Segments
/-!
Reported paths against the rules for paths. A path is taken or refused as the rules say of its components, and the path
that is taken leads from the root to the very place to which the reported one leads.
-/
namespace CodeGraph.ProjectPath

/-! ### The rules -/

/-- A path without blanks around it, its parts divided by slashes only. -/
def cleaned (raw : String) : String := (Text.trim raw).map fun c => if c = '\\' then '/' else c

/-- What stands between the slashes of a path, but for what is empty or means the directory itself. -/
def components (path : String) : List String :=
  ((path.split '/').toList.map (·.copy)).filter fun part => part ≠ "" ∧ part ≠ "."

/-- Follows one component from the directory to which the names lead from the root; none if that leaves the root. -/
def enter (names : List String) (part : String) : Option (List String) :=
  if part = ".." then
    if names = [] then none else some names.dropLast
  else some (names ++ [part])

/-- The components to follow from the root: a path from the top has to begin with those of the root, which then go. -/
def relative? (root path : String) : Option (List String) :=
  if path.startsWith '/' then
    if root.startsWith '/' then (components path).dropPrefix? (components root) else none
  else some (components path)

/-- What the rules make of a reported path. -/
def resolve (root raw : String) : Except PathFault String :=
  let path := cleaned raw
  if path = "" then .error .empty
  else if path.toByteArray[1]? = some ':'.toUInt8 then .error (.outsideRoot raw)
  else match relative? root path with
    | none => .error (.outsideRoot raw)
    | some parts =>
      match parts.foldlM enter [] with
      | none => .error (.escapesRoot raw)
      | some [] => .error (.rootItself raw)
      | some names => .ok ("/".intercalate names)

/-- Where a path leads by its text alone: so many directories up, then down by names. At the top there is no way up. -/
structure Location where
  absolute : Bool
  up : Nat := 0
  names : List String := []
  deriving DecidableEq

namespace Location

def enter (l : Location) (part : String) : Location :=
  if part = ".." then
    if l.names = [] then (if l.absolute then l else { l with up := l.up + 1 })
    else { l with names := l.names.dropLast }
  else { l with names := l.names ++ [part] }

def below (l : Location) (names : List String) : Location := { l with names := l.names ++ names }

theorem below_nil (l : Location) : l.below [] = l := by
  rw [below, List.append_nil]

end Location

def locate (path : String) : Location := (components path).foldl .enter { absolute := path.startsWith '/' }

/-- A path as seen from a directory. -/
def join (directory path : String) : String :=
  if path.startsWith '/' then path
  else if directory = "" ∨ directory.endsWith '/' then directory ++ path
  else directory ++ "/" ++ path

/-! ### The rules are followed -/

theorem toList_cleaned (raw : String) : (cleaned raw).toList = slashed (Text.trimChars raw.toList) := by
  simp only [cleaned, String.toList_map, Text.trim_toList, slashed, beq_iff_eq]

theorem isAbsolute_toList (path : String) : isAbsolute path.toList = path.startsWith '/' :=
  String.startsWith_char_eq_head?.symm

theorem components_eq (path : String) : components path = (parts path.toList).map String.ofList := by
  rw [components, parts, String.toList_split_char, List.splitOn_eq_splitOnP, List.filter_map]
  refine congrArg _ (List.filter_congr fun p _ => ?_)
  have hempty : String.ofList p = "" ↔ p = [] := by rw [← String.ofList_nil, String.ofList_inj]
  have hhere : String.ofList p = "." ↔ p = ['.'] := by rw [← String.toList_inj, String.toList_ofList]; rfl
  rw [Bool.eq_iff_iff]
  simp [hempty, hhere]

theorem dropPrefix?_ofList (root path : List (List Char)) :
    (path.map String.ofList).dropPrefix? (root.map String.ofList) = (below? root path).map (·.map String.ofList) := by
  induction root generalizing path with
  | nil => simp [below?]
  | cons r rs ih =>
    cases path with
    | nil => simp [below?, List.dropPrefix?]
    | cons p ps =>
      have hsame : (String.ofList p == String.ofList r) = (r == p) := by
        rw [Bool.eq_iff_iff, beq_iff_eq, beq_iff_eq, String.ofList_inj, eq_comm]
      have hbelow : below? (r :: rs) (p :: ps) = if r == p then below? rs ps else none := by
        by_cases h : r = p <;> simp [below?, h]
      rw [List.map_cons, List.map_cons, List.dropPrefix?, hsame, ih, hbelow]
      split <;> rfl

theorem relative?_eq (root path : String) :
    relative? root path = (fromRoot? root.toList path.toList).map (·.map String.ofList) := by
  rw [relative?, fromRoot?, isAbsolute_toList, isAbsolute_toList, components_eq, components_eq]
  split
  · split
    · exact dropPrefix?_ofList _ _
    · rfl
  · rfl

/-- The names are kept outermost first where the rules speak of them, and innermost first where they are followed. -/
theorem foldlM_enter (names ps : List (List Char)) :
    (ps.map String.ofList).foldlM enter (names.reverse.map String.ofList) =
      (follow names ps).map fun out => out.reverse.map String.ofList := by
  induction ps generalizing names with
  | nil => rfl
  | cons p rest ih =>
    have hup : String.ofList p = ".." ↔ p = ['.', '.'] := by rw [← String.toList_inj, String.toList_ofList]; rfl
    rw [List.map_cons, List.foldlM_cons, enter]
    by_cases h : p = ['.', '.']
    · rw [if_pos (hup.mpr h)]
      cases names with
      | nil => simp [follow, h]
      | cons inner outer =>
        have hdrop : ((inner :: outer).reverse.map String.ofList).dropLast = outer.reverse.map String.ofList := by simp
        rw [if_neg (by simp), hdrop]
        simpa [follow, h] using ih outer
    · rw [if_neg fun hp => h (hup.mp hp)]
      simpa [follow, h] using ih (p :: names)

theorem intercalate_ofList (names : List (List Char)) : "/".intercalate (names.map String.ofList) = joined names := by
  rw [← String.toList_inj, String.toList_intercalate, joined, String.toList_ofList, List.map_map]
  simp [Function.comp_def]

theorem getElem?_toByteArray (bytes : List UInt8) (i : Nat) : bytes.toByteArray[i]? = bytes[i]? := by
  by_cases h : i < bytes.length
  · rw [getElem?_pos bytes i h, getElem?_pos bytes.toByteArray i (by simpa using h), List.getElem_toByteArray]
  · rw [getElem?_neg bytes i h, getElem?_neg bytes.toByteArray i (by simpa using h)]

/-- Only an ASCII character is written as its own code; what begins any other one is greater. -/
theorem colon_first (c : Char) (rest : List UInt8) :
    (String.utf8EncodeChar c ++ rest)[0]? = some ':'.toUInt8 ↔ c = ':' := by
  have hcolon : c = ':' ↔ c.toNat = 58 := ⟨fun h => h ▸ rfl, fun h => Char.toNat_inj.mp h⟩
  have hbyte : ':'.toUInt8.toNat = 58 := rfl
  have hc : c.val.toNat = c.toNat := rfl
  rw [hcolon, String.utf8EncodeChar, hc]
  repeat' split
  all_goals
    rw [List.cons_append, List.getElem?_cons_zero, Option.some.injEq, ← UInt8.toNat_inj, UInt8.toNat_ofNat', hbyte]
    omega

theorem colon_second (c : Char) (rest : List UInt8) :
    (String.utf8EncodeChar c ++ rest)[1]? = some ':'.toUInt8 ↔ c.toNat < 0x80 ∧ rest[0]? = some ':'.toUInt8 := by
  have hbyte : ':'.toUInt8.toNat = 58 := rfl
  have hc : c.val.toNat = c.toNat := rfl
  rw [String.utf8EncodeChar, hc]
  repeat' split
  · next h => simp [Nat.lt_succ_of_le h]
  all_goals
    rw [List.cons_append, List.getElem?_cons_succ, List.cons_append, List.getElem?_cons_zero, Option.some.injEq,
      ← UInt8.toNat_inj, UInt8.toNat_ofNat', hbyte]
    omega

theorem secondByte_iff (path : String) :
    path.toByteArray[1]? = some ':'.toUInt8 ↔ drivePath path.toList = true := by
  rw [← String.utf8Encode_toList, List.utf8Encode, getElem?_toByteArray]
  cases path.toList with
  | nil => simp [drivePath]
  | cons c cs =>
    rw [List.flatMap_cons, colon_second]
    cases cs with
    | nil => simp [drivePath, hasDrive]
    | cons d ds =>
      rw [List.flatMap_cons, colon_first]
      by_cases hd : d = ':' <;> simp [drivePath, hasDrive, hd]

theorem normalize_eq_resolve (root raw : String) : normalize root raw = resolve root raw := by
  have hpath := toList_cleaned raw
  have hempty : cleaned raw = "" ↔ (slashed (Text.trimChars raw.toList)).isEmpty = true := by
    rw [← hpath, List.isEmpty_iff, String.toList_eq_nil_iff]
  rw [normalize, resolve]
  simp only [← hempty, secondByte_iff, relative?_eq, hpath]
  split
  · rfl
  · cases hps : fromRoot? root.toList (slashed (Text.trimChars raw.toList)) with
    | none => simp
    | some ps =>
      simp only [Option.map_some]
      split
      · rfl
      · have hfollow := foldlM_enter [] ps
        rw [List.reverse_nil, List.map_nil] at hfollow
        rw [hfollow]
        cases follow [] ps with
        | none => rfl
        | some names =>
          cases names with
          | nil => rfl
          | cons name outer =>
            have hne : (name :: outer).reverse.map String.ofList ≠ [] := by simp
            obtain ⟨first, rest, hcons⟩ := List.exists_cons_of_ne_nil hne
            simp only [Option.map_some, hcons]
            rw [← hcons, intercalate_ofList]

/-! ### Where paths lead -/

/-- As far as the names do not leave the root, they lead on from wherever the root is. -/
theorem foldl_enter {names out parts : List String} (h : parts.foldlM enter names = some out) (l : Location) :
    parts.foldl .enter (l.below names) = l.below out := by
  induction parts generalizing names with
  | nil =>
    cases h
    rfl
  | cons part rest ih =>
    rw [List.foldlM_cons] at h
    obtain ⟨next, hnext, hrest⟩ := Option.bind_eq_some_iff.mp h
    have hstep : (l.below names).enter part = l.below next := by
      rw [enter] at hnext
      rw [Location.enter, Location.below]
      split at hnext
      · next hup =>
        split at hnext
        · cases hnext
        · next hne =>
          cases hnext
          rw [if_pos hup, if_neg (List.append_ne_nil_of_right_ne_nil _ hne), List.dropLast_append_of_ne_nil hne]
          rfl
      · next hup =>
        cases hnext
        rw [if_neg hup, List.append_assoc]
        rfl
    rw [List.foldl_cons, hstep, ih hrest]

theorem foldlM_enter_names {parts : List String} (h : ∀ part ∈ parts, part ≠ "..") (names : List String) :
    parts.foldlM enter names = some (names ++ parts) := by
  induction parts generalizing names with
  | nil => simp
  | cons part rest ih =>
    obtain ⟨hpart, hrest⟩ := List.forall_mem_cons.mp h
    rw [List.foldlM_cons, enter, if_neg hpart, Option.bind_eq_bind, Option.bind_some, ih hrest, List.append_assoc]
    rfl

theorem components_slash (a b : String) : components (a ++ "/" ++ b) = components a ++ components b := by
  change (Text.segments _).filter _ = _
  rw [Text.segments_slash, List.filter_append]
  rfl

theorem components_empty : components "" = [] := by
  rw [components_eq]
  rfl

variable {directory path : String}

theorem components_join (h : path.startsWith '/' = false) :
    components (join directory path) = components directory ++ components path := by
  have hnot : ¬ path.startsWith '/' = true := Bool.eq_false_iff.mp h
  rw [join, if_neg hnot]
  by_cases hempty : directory = ""
  · rw [if_pos (Or.inl hempty), hempty, components_empty, String.empty_append, List.nil_append]
  · by_cases hslash : directory.endsWith '/' = true
    · obtain ⟨above, habove⟩ := String.endsWith_char_iff_exists_append.mp hslash
      have hsame : components directory = components above := by
        have hadd := components_slash above ""
        rw [String.append_empty, components_empty, List.append_nil] at hadd
        exact habove ▸ hadd
      rw [if_pos (Or.inr hslash), hsame, habove]
      exact components_slash above path
    · rw [if_neg (not_or.mpr ⟨hempty, hslash⟩), components_slash]

theorem startsWith_join (h : path.startsWith '/' = false) :
    (join directory path).startsWith '/' = directory.startsWith '/' := by
  have hnot : ¬ path.startsWith '/' = true := Bool.eq_false_iff.mp h
  rw [join, if_neg hnot]
  by_cases hempty : directory = ""
  · rw [if_pos (Or.inl hempty), hempty, String.empty_append, h]
    rfl
  · have hfirst : ∀ rest : String, (directory ++ rest).startsWith '/' = directory.startsWith '/' := by
      intro rest
      obtain ⟨c, cs, hcs⟩ := List.exists_cons_of_ne_nil (fun hnil => hempty (String.toList_eq_nil_iff.mp hnil))
      rw [String.startsWith_char_eq_head?, String.startsWith_char_eq_head?, String.toList_append, hcs]
      rfl
    split
    · exact hfirst path
    · rw [String.append_assoc]
      exact hfirst _

/-- A path that does not start at the top is followed from where the directory is. -/
theorem locate_join (h : path.startsWith '/' = false) :
    locate (join directory path) = (components path).foldl .enter (locate directory) := by
  rw [locate, components_join h, startsWith_join h, List.foldl_append]
  rfl

theorem Contained.components {path : String} (h : Contained path) :
    components path = Text.segments path ∧ ∀ part ∈ components path, part ≠ ".." := by
  have hparts : parts path.toList = path.toList.splitOn '/' := by
    rw [parts, ← List.splitOn_eq_splitOnP, List.filter_eq_self]
    intro p hp
    simp [(h.names p hp).nonempty, (h.names p hp).notHere]
  rw [components_eq, hparts]
  refine ⟨(Text.segments_eq path).symm, fun part hpart hup => ?_⟩
  obtain ⟨p, hp, rfl⟩ := List.mem_map.mp hpart
  exact (h.names p hp).notUp (by rw [← String.toList_ofList (l := p), hup]; rfl)

/-- A normal path leads from a directory down by its names. -/
theorem Contained.locate_below {path : String} (h : Contained path) (directory : String) :
    locate (join directory path) = (locate directory).below (ProjectPath.components path) := by
  have hrelative : path.startsWith '/' = false := by
    rw [← isAbsolute_toList]
    exact Bool.eq_false_iff.mpr h.relative
  have hnames := foldlM_enter_names h.components.2 []
  have hled := foldl_enter hnames (locate directory)
  rw [Location.below_nil, List.nil_append] at hled
  rw [locate_join hrelative, hled]

/-- The components to follow lead from the root to where the path leads. -/
theorem locate_relative {root path : String} {ps : List String} (h : relative? root path = some ps) :
    locate (join root path) = ps.foldl .enter (locate root) := by
  rw [relative?] at h
  split at h
  · next habsolute =>
    split at h
    · next hroot =>
      obtain ⟨above, hpath, habove⟩ := List.dropPrefix?_eq_some_iff.mp h
      rw [join, if_pos habsolute, locate, hpath, habsolute, List.foldl_append, eq_of_beq habove, locate, hroot]
    · cases h
  · next hrelative =>
    cases h
    exact locate_join (Bool.eq_false_iff.mpr hrelative)

/-- A path that is taken has the names as components to which its reported form leads from the root. -/
theorem foldlM_of_normalize {root raw path : String} (h : normalize root raw = .ok path) :
    ∃ ps, relative? root (cleaned raw) = some ps ∧ ps.foldlM enter [] = some (components path) := by
  have hcontained := normalize_contained h
  obtain ⟨ps, names, hps, hnames, hne, rfl⟩ := normalize_ok h
  have hunslashed : ∀ p ∈ names.reverse, '/' ∉ p := fun p hp =>
    (follow_names hnames (by simp) (fromRoot?_parts hps) p (List.mem_reverse.mp hp)).1
  refine ⟨ps.map String.ofList, by rw [relative?_eq, toList_cleaned, hps, Option.map_some], ?_⟩
  have hfollow := foldlM_enter [] ps
  rw [hnames, Option.map_some, List.reverse_nil, List.map_nil] at hfollow
  rw [hfollow, hcontained.components.1, Text.segments_eq, splitOn_joined (List.reverse_ne_nil_iff.mpr hne) hunslashed]

/-- The normal path of a reported one follows the rules of resolution, and where a path is taken, the normal path leads
from the root to where the reported one leads, which is a place below the root. -/
theorem normalize_resolves (root raw : String) :
    normalize root raw = resolve root raw ∧
    ∀ path, normalize root raw = .ok path →
      locate (join root (cleaned raw)) = locate (join root path) ∧
      locate (join root path) = (locate root).below (components path) := by
  refine ⟨normalize_eq_resolve root raw, fun path h => ?_⟩
  have hpath := (normalize_contained h).locate_below root
  obtain ⟨ps, hps, hnames⟩ := foldlM_of_normalize h
  have hled := foldl_enter hnames (locate root)
  rw [Location.below_nil] at hled
  exact ⟨by rw [hpath, locate_relative hps, hled], hpath⟩

/-- The root goes, whatever is entered and left again leads nowhere, and the place is the same. -/
theorem roundabout_resolved :
    normalize "/srv/app/" " //srv/./app\\lib/../src//a.rs/ " = .ok "src/a.rs" ∧
    resolve "/srv/app/" " //srv/./app\\lib/../src//a.rs/ " = .ok "src/a.rs" ∧
    locate (join "/srv/app/" (cleaned " //srv/./app\\lib/../src//a.rs/ ")) = locate "/srv/app/src/a.rs" := by
  obtain ⟨hrules, hplace⟩ := normalize_resolves "/srv/app/" " //srv/./app\\lib/../src//a.rs/ "
  have htaken : normalize "/srv/app/" " //srv/./app\\lib/../src//a.rs/ " = .ok "src/a.rs" := by decide +kernel
  have hjoin : join "/srv/app/" "src/a.rs" = "/srv/app/src/a.rs" := by decide +kernel
  exact ⟨htaken, hrules ▸ htaken, hjoin ▸ (hplace "src/a.rs" htaken).1⟩

end CodeGraph.ProjectPath
