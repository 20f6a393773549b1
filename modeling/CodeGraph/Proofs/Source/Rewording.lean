import Mathlib
import CodeGraph.Source.Measure
/-!
The branching and nesting measured of a text are those of its code. Blank lines and comment lines may come and go, and
what stands between quotes or after the mark of a comment may be any other text.
-/
namespace CodeGraph

namespace Text

/-- Has no line feed, and does not end in the carriage return that a line feed takes along. -/
structure IsLine (line : List Char) : Prop where
  no_feed : '\n' ∉ line
  no_return : line.getLast? ≠ some '\r'

instance (line : List Char) : Decidable (IsLine line) :=
  decidable_of_iff ('\n' ∉ line ∧ line.getLast? ≠ some '\r') ⟨fun h => ⟨h.1, h.2⟩, fun h => ⟨h.1, h.2⟩⟩

def joinLines (lines : List (List Char)) : String := String.ofList (['\n'].intercalate lines)

theorem closeLine_reverse {line : List Char} (h : IsLine line) : closeLine line.reverse = line := by
  have hlast := h.no_return
  rw [← List.head?_reverse] at hlast
  unfold closeLine
  split
  · next hrev =>
    rw [hrev] at hlast
    exact absurd rfl hlast
  · exact List.reverse_reverse line

theorem linesFrom_feed {line : List Char} (hfeed : '\n' ∉ line) (rev rest : List Char) :
    linesFrom rev (line ++ '\n' :: rest) = closeLine (line.reverse ++ rev) :: linesFrom [] rest := by
  induction line generalizing rev with
  | nil => rfl
  | cons c line ih =>
    obtain ⟨hc, hline⟩ := not_or.mp (List.mem_cons.not.mp hfeed)
    rw [List.cons_append, linesFrom, ih hline]
    · simp
    · exact Ne.symm hc

theorem linesFrom_last {line : List Char} (hfeed : '\n' ∉ line) (rev : List Char) :
    linesFrom rev line = if (line.reverse ++ rev).isEmpty then [] else [rev.reverse ++ line] := by
  induction line generalizing rev with
  | nil => simp [linesFrom]
  | cons c line ih =>
    obtain ⟨hc, hline⟩ := not_or.mp (List.mem_cons.not.mp hfeed)
    rw [linesFrom, ih hline]
    · simp
    · exact Ne.symm hc

/-- Joined lines are the lines of their text, but an empty one at the end is not seen. -/
theorem lines_joinLines {ls : List (List Char)} (h : ∀ l ∈ ls, IsLine l) :
    lines (joinLines ls) = ls ∨ lines (joinLines ls) ++ [[]] = ls := by
  unfold lines joinLines
  rw [String.toList_ofList]
  induction ls with
  | nil => exact Or.inl rfl
  | cons l rest ih =>
    obtain ⟨hl, hrest⟩ := List.forall_mem_cons.mp h
    cases rest with
    | nil =>
      rw [List.intercalate_singleton, linesFrom_last hl.no_feed]
      cases l with
      | nil => exact Or.inr rfl
      | cons c cs => exact Or.inl (by simp)
    | cons l' rest =>
      have hjoined : ['\n'].intercalate (l :: l' :: rest) = l ++ '\n' :: ['\n'].intercalate (l' :: rest) := by
        simp [List.intercalate]
      rw [hjoined, linesFrom_feed hl.no_feed, List.append_nil, closeLine_reverse hl]
      exact (ih hrest).imp (congrArg (l :: ·)) (congrArg (l :: ·))

end Text

namespace Source

/-- What is code of the lines that are. -/
def codeOf (lines : List (List Char)) : List (List Char) := (lines.filter isCode).map codePortion

@[simp] theorem codeOf_append (above below : List (List Char)) :
    codeOf (above ++ below) = codeOf above ++ codeOf below := by
  simp [codeOf]

theorem codeOf_cons (line : List Char) (below : List (List Char)) :
    codeOf (line :: below) = if isCode line then codePortion line :: codeOf below else codeOf below := by
  unfold codeOf
  rw [List.filter_cons]
  split <;> rfl

end Source

namespace LineTally

/-- All that is counted but how long the lines are. -/
def shape (t : LineTally) : LineTally := { t with longLines := 0 }

theorem shape_addBrace (t : LineTally) (c : Char) : (t.addBrace c).shape = t.shape.addBrace c := by
  unfold addBrace
  split
  · rfl
  · split <;> rfl

theorem shape_foldl_addBrace (code : List Char) (t : LineTally) :
    (code.foldl addBrace t).shape = code.foldl addBrace t.shape := by
  induction code generalizing t with
  | nil => rfl
  | cons c code ih => rw [List.foldl_cons, ih, shape_addBrace, List.foldl_cons]

theorem shape_addCode (t : LineTally) (code : List Char) : (t.addCode code).shape = t.shape.addCode code :=
  shape_foldl_addBrace code _

theorem shape_addLine (t : LineTally) (line : List Char) :
    (t.addLine line).shape = if Source.isCode line then t.shape.addCode (Source.codePortion line) else t.shape := by
  unfold addLine
  split <;> split <;> first | rfl | exact shape_addCode _ _

theorem shape_foldl_addLine (lines : List (List Char)) (t : LineTally) :
    (lines.foldl addLine t).shape = (Source.codeOf lines).foldl addCode t.shape := by
  induction lines generalizing t with
  | nil => rfl
  | cons line lines ih =>
    rw [List.foldl_cons, ih, shape_addLine, Source.codeOf_cons]
    split <;> rfl

theorem shape_ofLines (lines : List (List Char)) : (ofLines lines).shape = (Source.codeOf lines).foldl addCode {} :=
  shape_foldl_addLine lines {}

theorem decisions_addBrace (t : LineTally) (c : Char) : (t.addBrace c).decisions = t.decisions := by
  unfold addBrace
  split
  · rfl
  · split <;> rfl

theorem decisions_addCode (t : LineTally) (code : List Char) :
    (t.addCode code).decisions = t.decisions + Source.decisions code :=
  List.foldlRecOn (motive := fun u => u.decisions = t.decisions + Source.decisions code) code addBrace rfl
    fun u hu c _ => (decisions_addBrace u c).trans hu

theorem decisions_foldl_addCode (codes : List (List Char)) (t : LineTally) :
    (codes.foldl addCode t).decisions = t.decisions + (codes.map Source.decisions).sum := by
  induction codes generalizing t with
  | nil => rfl
  | cons code codes ih =>
    rw [List.foldl_cons, ih, decisions_addCode, List.map_cons, List.sum_cons, Nat.add_assoc]

theorem decisions_ofLines (lines : List (List Char)) :
    (ofLines lines).decisions = ((Source.codeOf lines).map Source.decisions).sum := by
  have hshape := congrArg decisions (shape_ofLines lines)
  rw [decisions_foldl_addCode] at hshape
  exact hshape.trans (Nat.zero_add _)

end LineTally

namespace Source

/-- Where what comes after `cs` stands, if `cs` stands at `place`. In a comment no quotes are opened. -/
def Place.after : Place → Bool → List Char → Place
  | place, _, [] => place
  | .escaped mark, begun, _ :: cs => after (.quoted mark) begun cs
  | .quoted mark, begun, c :: cs =>
    if c == '\\' then after (.escaped mark) begun cs
    else if c == mark then after .code begun cs
    else after (.quoted mark) begun cs
  | .code, begun, c :: cs =>
    if isQuoteMark c then after (.quoted c) begun cs
    else if c == '/' && cs.head? == some '/' then .code
    else if c == '#' && !begun then .code
    else after .code (begun || !Text.isBlank c) cs

/-- Stands out of quotes after `cs`, from the start of a line. -/
def IsUnquotedAfter (cs : List Char) : Prop := Place.after .code false cs = .code

/-- Whether a text in quotes leaves them open: the mark is not in it but after a backslash, which is not at its end. -/
def isEnclosed (mark : Char) : List Char → Bool
  | [] => true
  | '\\' :: _ :: cs => isEnclosed mark cs
  | c :: cs => c != '\\' && c != mark && isEnclosed mark cs

/-- A line of which a reader of code sees the same. -/
inductive Rewording : List Char → List Char → Prop
  | quoted {before old text rest : List Char} {mark : Char} (hbefore : IsUnquotedAfter before)
      (hmark : isQuoteMark mark = true) (hold : isEnclosed mark old = true) (hopen : mark ∉ text)
      (hplain : '\\' ∉ text) :
      Rewording (before ++ mark :: (old ++ mark :: rest)) (before ++ mark :: (text ++ mark :: rest))
  | comment {before old text : List Char} (hbefore : IsUnquotedAfter before) :
      Rewording (before ++ '/' :: '/' :: old) (before ++ '/' :: '/' :: text)

/-- One change of the lines of a text: a blank line or a comment comes or goes, or a line is put in other words that is
code or not as before. -/
inductive Edit : List (List Char) → List (List Char) → Prop
  | insert {above below : List (List Char)} {line : List Char}
      (hline : Text.trimChars line = [] ∨ isComment (Text.trimChars line) = true) :
      Edit (above ++ below) (above ++ line :: below)
  | delete {above below : List (List Char)} {line : List Char}
      (hline : Text.trimChars line = [] ∨ isComment (Text.trimChars line) = true) :
      Edit (above ++ line :: below) (above ++ below)
  | reword {above below : List (List Char)} {line line' : List Char} (hline : Rewording line line')
      (hcode : isCode line = isCode line') : Edit (above ++ line :: below) (above ++ line' :: below)

theorem isCode_eq_false_iff {line : List Char} :
    isCode line = false ↔ Text.trimChars line = [] ∨ isComment (Text.trimChars line) = true := by
  simp only [isCode, Bool.and_eq_false_iff, Bool.not_eq_false', List.isEmpty_iff]

theorem isEnclosed_of_plain {mark : Char} {text : List Char} (hopen : mark ∉ text) (hplain : '\\' ∉ text) :
    isEnclosed mark text = true := by
  fun_induction isEnclosed mark text with
  | case1 => rfl
  | case2 c cs ih => simp at hplain
  | case3 c cs hnone ih =>
    simp only [List.mem_cons, not_or] at hopen hplain
    simp [ih hopen.2 hplain.2, Ne.symm hopen.1, Ne.symm hplain.1]

/-- Text in quotes is skipped with the closing mark. -/
theorem codeFrom_enclosed {mark : Char} {text : List Char} (hmark : isQuoteMark mark = true)
    (htext : isEnclosed mark text = true) (begun : Bool) (rest : List Char) :
    codeFrom (.quoted mark) begun (text ++ mark :: rest) = codeFrom .code begun rest := by
  have hslash : (mark == '\\') = false := by
    by_contra h
    rw [Bool.not_eq_false, beq_iff_eq] at h
    rw [h] at hmark
    exact absurd hmark (by decide)
  fun_induction isEnclosed mark text with
  | case1 => simp [codeFrom, hslash]
  | case2 c cs ih =>
    rw [List.cons_append, List.cons_append, codeFrom]
    simp [codeFrom, ih htext]
  | case3 c cs hnone ih =>
    simp only [Bool.and_eq_true, bne_iff_ne, ne_eq] at htext
    obtain ⟨⟨hc, hc'⟩, hcs⟩ := htext
    simp [codeFrom, hc, hc', ih hcs]

/-- Two ends of a line that start alike and have the same code in every line have it also after `before`. -/
theorem codeFrom_append_congr {before tail tail' : List Char} {place : Place} {begun : Bool}
    (hbefore : place.after begun before = .code) (hhead : tail.head? = tail'.head?)
    (htail : ∀ begun, codeFrom .code begun tail = codeFrom .code begun tail') :
    codeFrom place begun (before ++ tail) = codeFrom place begun (before ++ tail') := by
  have hheads (cs : List Char) : (cs ++ tail).head? = (cs ++ tail').head? := by
    rw [List.head?_append, List.head?_append, hhead]
  fun_induction Place.after place begun before with
  | case1 place begun =>
    subst hbefore
    exact htail begun
  | case2 begun mark c cs ih =>
    simp only [List.cons_append, codeFrom]
    exact ih hbefore
  | case3 begun mark c cs hc ih =>
    simp only [List.cons_append, codeFrom, hc, if_true]
    exact ih hbefore
  | case4 begun mark c cs hslash hc ih =>
    simp only [List.cons_append, codeFrom, hslash, hc, if_true]
    exact ih hbefore
  | case5 begun mark c cs hslash hc ih =>
    simp only [List.cons_append, codeFrom, hslash, hc]
    exact ih hbefore
  | case6 begun c cs hc ih =>
    simp only [List.cons_append, codeFrom, hc, if_true]
    rw [ih hbefore]
  | case7 begun c cs hc hcomment =>
    obtain ⟨hc', hcs⟩ := Bool.and_eq_true_iff.mp hcomment
    have hnext (end_ : List Char) : ((cs ++ end_).head? == some '/') = true := by
      rw [beq_iff_eq] at hcs ⊢
      rw [List.head?_append, hcs, Option.some_or]
    simp only [List.cons_append, codeFrom, if_neg hc, hc', hnext, Bool.and_self, if_true]
  | case8 begun c cs hc hcomment hhash =>
    simp only [List.cons_append, codeFrom, if_neg hc, if_pos hhash, hheads]
  | case9 begun c cs hc hcomment hhash ih =>
    simp only [List.cons_append, codeFrom, if_neg hc, if_neg hhash, hheads, ih hbefore]

theorem Rewording.codePortion_eq {line line' : List Char} (h : Rewording line line') :
    codePortion line = codePortion line' := by
  cases h with
  | quoted hbefore hmark hold hopen hplain =>
    refine codeFrom_append_congr hbefore rfl fun begun => ?_
    simp only [codeFrom, hmark, if_true]
    rw [codeFrom_enclosed hmark hold, codeFrom_enclosed hmark (isEnclosed_of_plain hopen hplain)]
  | comment hbefore => exact codeFrom_append_congr hbefore rfl fun begun => rfl

theorem Edit.codeOf_eq {lines lines' : List (List Char)} (h : Edit lines lines') : codeOf lines = codeOf lines' := by
  cases h with
  | insert hline | delete hline => simp [codeOf_cons, isCode_eq_false_iff.mpr hline]
  | reword hline hcode => simp [codeOf_cons, hcode, hline.codePortion_eq]

theorem codeOf_edits {lines lines' : List (List Char)} (h : Relation.ReflTransGen Edit lines lines') :
    codeOf lines = codeOf lines' := by
  induction h with
  | refl => rfl
  | tail _ hedit ih => rw [ih, hedit.codeOf_eq]

theorem codeOf_joinLines {lines : List (List Char)} (h : ∀ l ∈ lines, Text.IsLine l) :
    codeOf (Text.lines (Text.joinLines lines)) = codeOf lines := by
  rcases Text.lines_joinLines h with heq | heq
  · rw [heq]
  · have hlast := congrArg codeOf heq
    rw [codeOf_append] at hlast
    exact (List.append_nil _).symm.trans hlast

/-- What is measured of branching and nesting is counted in the code alone. -/
theorem measureBy_of_codeOf (logs : Logarithms) {content content' : String}
    (h : codeOf (Text.lines content) = codeOf (Text.lines content')) :
    let m := measureBy logs content
    let m' := measureBy logs content'
    m.metrics.cyclomatic = m'.metrics.cyclomatic ∧ m.metrics.cognitive = m'.metrics.cognitive ∧
      m.maxDepth = m'.maxDepth := by
  have hshape : (LineTally.ofLines (Text.lines content)).shape = (LineTally.ofLines (Text.lines content')).shape := by
    rw [LineTally.shape_ofLines, LineTally.shape_ofLines, h]
  have hdecisions := congrArg LineTally.decisions hshape
  have hcognitive := congrArg LineTally.cognitive hshape
  have hdepth := congrArg LineTally.maxDepth hshape
  exact ⟨congrArg (· + 1) hdecisions, hcognitive, hdepth⟩

/-- The decisions that are counted are those in the code of the lines. Blank lines and comments may come and go, and what
stands in quotes or in a comment at the end of a line may be put in other words: decisions, their weights and the depth
of the nesting stay. -/
theorem branching_of_edits (logs : Logarithms) {lines lines' : List (List Char)}
    (hlines : ∀ l ∈ lines, Text.IsLine l) (hlines' : ∀ l ∈ lines', Text.IsLine l)
    (h : Relation.ReflTransGen Edit lines lines') :
    let m := measureBy logs (Text.joinLines lines)
    let m' := measureBy logs (Text.joinLines lines')
    m.metrics.cyclomatic = ((codeOf lines).map decisions).sum + 1 ∧
      m.metrics.cyclomatic = m'.metrics.cyclomatic ∧ m.metrics.cognitive = m'.metrics.cognitive ∧
      m.maxDepth = m'.maxDepth := by
  constructor
  · rw [← codeOf_joinLines hlines, ← LineTally.decisions_ofLines]
    rfl
  · apply measureBy_of_codeOf
    rw [codeOf_joinLines hlines, codeOf_joinLines hlines', codeOf_edits h]

/-- A branch with a text in quotes and a comment at the end. -/
def branching (text remark : String) : List Char :=
  "  if a == ".toList ++ '"' :: (text.toList ++ '"' :: (" \x7b //".toList ++ remark.toList))

/-- The lines of a function, some of them given. -/
def function (lines : List (List Char)) : List (List Char) :=
  ["fn go() \x7b".toList] ++ (lines ++ ["    for b \x7b\x7d \x7d".toList, "\x7d".toList])

def draft : List (List Char) := function ["  # when".toList, branching "\\\"if \x7b" " as long as"]

def revised : List (List Char) := function [branching "&& for" " while \x7b", []]

theorem draft_revised : Relation.ReflTransGen Edit draft revised := by
  have hopened : IsUnquotedAfter "  if a == ".toList := rfl
  have hclosed : IsUnquotedAfter "  if a == \"&& for\" \x7b ".toList := rfl
  have hold : isEnclosed '"' "\\\"if \x7b".toList = true := rfl
  have hopen : '"' ∉ "&& for".toList := by decide
  have hplain : '\\' ∉ "&& for".toList := by decide
  have hquoted : Rewording (branching "\\\"if \x7b" " as long as") (branching "&& for" " as long as") :=
    .quoted hopened rfl hold hopen hplain
  have hremark : Rewording (branching "&& for" " as long as") (branching "&& for" " while \x7b") := .comment hclosed
  have hcode : isCode (branching "\\\"if \x7b" " as long as") = true ∧
      isCode (branching "&& for" " as long as") = true ∧ isCode (branching "&& for" " while \x7b") = true := by
    decide +kernel
  have hdelete : Edit draft (function [branching "\\\"if \x7b" " as long as"]) := .delete (Or.inr rfl)
  have hinsert : Edit (function [branching "&& for" " while \x7b"]) revised :=
    @Edit.insert ["fn go() \x7b".toList, branching "&& for" " while \x7b"] _ _ (Or.inl rfl)
  exact .tail (.tail (.tail (.single hdelete) (.reword hquoted (hcode.1.trans hcode.2.1.symm)))
    (.reword hremark (hcode.2.1.trans hcode.2.2.symm))) hinsert

theorem measure_revised :
    let m := measure (Text.joinLines draft)
    let m' := measure (Text.joinLines revised)
    (∀ l ∈ draft, Text.IsLine l) ∧ (∀ l ∈ revised, Text.IsLine l) ∧ Relation.ReflTransGen Edit draft revised ∧
      (m.metrics.cyclomatic = ((codeOf draft).map decisions).sum + 1 ∧
        m.metrics.cyclomatic = m'.metrics.cyclomatic ∧ m.metrics.cognitive = m'.metrics.cognitive ∧
        m.maxDepth = m'.maxDepth) ∧
      m.metrics.cyclomatic = 3 ∧ m.metrics.cognitive = 5 ∧ m.maxDepth = 3 := by
  have hdraft : ∀ l ∈ draft, Text.IsLine l := by decide +kernel
  have hrevised : ∀ l ∈ revised, Text.IsLine l := by decide +kernel
  exact ⟨hdraft, hrevised, draft_revised, branching_of_edits .native hdraft hrevised draft_revised, by decide +kernel⟩

end Source
end CodeGraph
