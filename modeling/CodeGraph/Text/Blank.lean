/-!
Blank characters, trimming, and the search for one text in another. All scanning is on lists of characters.
-/
namespace CodeGraph.Text

/-- The characters of the property White_Space. -/
def isBlank (c : Char) : Bool :=
  let n := c.toNat
  (9 ≤ n && n ≤ 13) || n == 0x20 || n == 0x85 || n == 0xA0 || n == 0x1680 || (0x2000 ≤ n && n ≤ 0x200A)
    || n == 0x2028 || n == 0x2029 || n == 0x202F || n == 0x205F || n == 0x3000

def trimStart (cs : List Char) : List Char := cs.dropWhile isBlank

/-- Drops from the end what satisfies `p`. -/
def dropEndWhile (p : Char → Bool) (cs : List Char) : List Char := (cs.reverse.dropWhile p).reverse

def trimChars (cs : List Char) : List Char := dropEndWhile isBlank (trimStart cs)

def trim (s : String) : String := String.ofList (trimChars s.toList)

/-- The trimmed text, unless nothing is left of it. -/
def trimmed? (s : String) : Option String :=
  let t := trim s
  if t.isEmpty then none else some t

/-- Drops the marker from the front as often as it stands there. -/
def dropMarker (marker : List Char) (cs : List Char) : List Char :=
  match marker with
  | [] => cs
  | m :: ms =>
    if (m :: ms).isPrefixOf cs then dropMarker (m :: ms) (cs.drop (m :: ms).length) else cs
termination_by cs.length
decreasing_by
  have h : (m :: ms).isPrefixOf cs = true := by assumption
  obtain ⟨t, rfl⟩ := List.isPrefixOf_iff_prefix.mp h
  simp only [List.length_drop, List.length_append, List.length_cons]
  omega

/-- Drops the marker from the end as often as it stands there. -/
def dropEndMarker (marker : List Char) (cs : List Char) : List Char :=
  (dropMarker marker.reverse cs.reverse).reverse

/-- Whether `needle` stands somewhere in the text. -/
def hasInfix (needle : List Char) : List Char → Bool
  | [] => needle.isEmpty
  | c :: cs => needle.isPrefixOf (c :: cs) || hasInfix needle cs

def contains (s needle : String) : Bool := hasInfix needle.toList s.toList

end CodeGraph.Text
