import CodeGraph.Batch.Operation
/-!
A batch in progress. Its items are tried in order, one chunk at a time; an item that fails changes nothing and does
not stop the others.
-/
namespace CodeGraph

structure BatchFailure where
  index : Nat
  error : String
  deriving DecidableEq

namespace BatchFailure

def record : Record BatchFailure :=
  BatchFailure.mk <$> Record.required "index" (Reader.natural 64 "usize") <*> Record.required "error" Reader.string

def read : Reader BatchFailure := record.read "BatchFailure"

def write (f : BatchFailure) : Json := .obj [("error", .str f.error), ("index", .nat f.index)]

end BatchFailure

structure BatchReport where
  batchId : String
  total : Nat
  applied : Nat
  failed : List BatchFailure
  deferred : Bool
  durationMs : Float

namespace BatchReport

def record : Record BatchReport :=
  let count (name : String) := Record.required name (Reader.natural 64 "usize")
  BatchReport.mk <$> Record.required "batchId" Reader.string <*> count "total" <*> count "applied"
    <*> Record.required "failed" (Reader.list BatchFailure.read) <*> Record.required "deferred" Reader.boolean
    <*> Record.required "durationMs" Reader.float

def read : Reader BatchReport := record.read "BatchReport"

def write (r : BatchReport) : Json :=
  .obj [
    ("applied", .nat r.applied),
    ("batchId", .str r.batchId),
    ("deferred", .bool r.deferred),
    ("durationMs", .float r.durationMs),
    ("failed", .ofList BatchFailure.write r.failed),
    ("total", .nat r.total)]

end BatchReport

structure BatchRun where
  batchId : String
  deferred : Bool
  total : Nat
  /-- The items not yet tried. -/
  pending : List Json
  applied : Nat := 0
  failed : List BatchFailure := []
  /-- The nodes removed since they were last asked for. -/
  removed : List String := []

namespace BatchRun

def start (batchId : String) (items : List Json) (deferred : Bool) : BatchRun :=
  { batchId, deferred, total := items.length, pending := items }

def isFinished (r : BatchRun) : Bool := r.pending.isEmpty

/-- The place of the next item in the batch. -/
def next (r : BatchRun) : Nat := r.total - r.pending.length

/-- What becomes of the store, and of the report, when an item is tried. -/
def tryItem (now : Time) (item : Json) (index : Nat) (r : BatchRun) (s : Store) : BatchRun × Store :=
  let outcome : Except ValidationError (BatchOperation × Store) := do
    let op ← BatchOperation.parse item
    return (op, ← op.apply now s)
  match outcome with
  | .ok (op, s) => ({ r with applied := r.applied + 1, removed := r.removed ++ op.removedNode?.toList }, s)
  | .error e => ({ r with failed := r.failed ++ [⟨index, e.message⟩] }, s)

/-- Tries up to `count` items. -/
def tryItems (now : Time) : Nat → BatchRun → Store → BatchRun × Store
  | 0, r, s => (r, s)
  | n + 1, r, s =>
    match r.pending with
    | [] => (r, s)
    | item :: rest =>
      let (r, s) := tryItem now item r.next { r with pending := rest } s
      tryItems now n r s

/-- Tries the next chunk, which is at least one item. -/
def runChunk (now : Time) (chunk : Nat) (r : BatchRun) (s : Store) : BatchRun × Store :=
  tryItems now (max chunk 1) r s

/-- The nodes removed since the last call, and the run without them. -/
def takeRemoved (r : BatchRun) : List String × BatchRun := (r.removed, { r with removed := [] })

def report (r : BatchRun) (durationMs : Float) : BatchReport :=
  { batchId := r.batchId, total := r.total, applied := r.applied, failed := r.failed, deferred := r.deferred
    durationMs }

end BatchRun
end CodeGraph
