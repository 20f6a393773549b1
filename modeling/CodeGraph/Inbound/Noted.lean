import CodeGraph.Json.Printer
import CodeGraph.Text.Blank
import CodeGraph.Text.Lines
/-!
Forgiving reads of inbound payloads: what is usable is read out, and what was wrong is noted as an anomaly, in the
order in which it was met.
-/
namespace CodeGraph

structure Noted (α : Type) where
  value : α
  anomalies : List String := []

namespace Noted

def bind (x : Noted α) (f : α → Noted β) : Noted β :=
  let y := f x.value
  ⟨y.value, x.anomalies ++ y.anomalies⟩

instance : Monad Noted where
  pure a := ⟨a, []⟩
  bind := bind

def note (anomaly : String) (a : α) : Noted α := ⟨a, [anomaly]⟩

/-- Keeps what is accepted; each refusal is noted. -/
def keep (accept : α → Except String β) : List α → Noted (List β)
  | [] => ⟨[], []⟩
  | a :: as =>
    let rest := keep accept as
    match accept a with
    | .ok b => ⟨b :: rest.value, rest.anomalies⟩
    | .error anomaly => ⟨rest.value, anomaly :: rest.anomalies⟩

end Noted

/-- The members of an object, or none where there is no object to read from. -/
abbrev Members := Option (List (String × Json))

namespace Inbound

def object (payload : Json) : Noted Members :=
  match payload with
  | .obj ms => ⟨some ms, []⟩
  | _ => .note "payload is not an object" none

def find? (ms : Members) (field : String) : Option Json := ms.bind (·.lookup field)

def nested (ms : Members) (field : String) : Noted Members :=
  match find? ms field with
  | none | some .null => ⟨none, []⟩
  | some (.obj inner) => ⟨some inner, []⟩
  | some _ => .note s!"`{field}` is not an object" none

/-- A text, trimmed; a blank one counts as absent, and a number is taken as its text. -/
def string (ms : Members) (field : String) : Noted (Option String) :=
  match find? ms field with
  | none | some .null => ⟨none, []⟩
  | some (.str s) => ⟨Text.trimmed? s, []⟩
  | some (.num n) => ⟨some (Json.renderNumber n), []⟩
  | some _ => .note s!"`{field}` is not a string" none

def required (ms : Members) (field : String) : Noted (Option String) := do
  match ← string ms field with
  | some s => return some s
  | none => .note s!"missing `{field}`" none

def number (ms : Members) (field : String) : Noted (Option Float) :=
  match find? ms field with
  | none | some .null => ⟨none, []⟩
  | some j =>
    match j.float? with
    | some x => ⟨some x, []⟩
    | none => .note s!"`{field}` is not numeric" none

def item? (j : Json) : Option String := j.str?.bind Text.trimmed?

/-- The lines of a text that are not blank, trimmed. -/
def textLines (s : String) : List String :=
  (Text.lines s).filterMap fun l => Text.trimmed? (String.ofList l)

/-- The texts of an array, trimmed; what is blank or no text is dropped. A text stands for its lines. -/
def strings (ms : Members) (field : String) : Noted (List String) :=
  match find? ms field with
  | none | some .null => ⟨[], []⟩
  | some (.str s) => ⟨textLines s, []⟩
  | some (.arr items) =>
    let kept := items.filterMap item?
    let dropped := items.length - kept.length
    if dropped = 0 then ⟨kept, []⟩
    else .note s!"dropped {dropped} invalid item(s) from `{field}`" kept
  | some _ => .note s!"`{field}` is not an array" []

/-- The named numbers of an object. -/
def numbers (ms : Members) : List (String × Json) → Noted (List (String × Float))
  | [] => ⟨[], []⟩
  | (name, _) :: rest => do
    let x ← number ms name
    let more ← numbers ms rest
    return (x.map (name, ·)).toList ++ more

end Inbound
end CodeGraph
