import CodeGraph.Engine.Worker
import CodeGraph.Transport.Basic
/-!
A running service: the worker with its queue, the transport, the editor's document, and what waits for its time to
come. Time passes only when it is told to; between two moments everything is done that can be done, the worker first,
then the requests it made, then the timers that are due.
-/
namespace CodeGraph

structure Document where
  path : String
  content : String
  deriving DecidableEq

def Document.write (d : Document) : Json := .obj [("content", .str d.content), ("path", .str d.path)]

/-- What happens when a timer is due. -/
inductive Alarm where
  | debounced (path : String) (seq : Nat) (content : String)
  /-- A request is given up. -/
  | unanswered (event : OutboundEvent) (purpose : Purpose)
  | sweep

structure Timer where
  /-- In milliseconds since the service was started. -/
  due : Nat
  alarm : Alarm

structure OutboundRequest where
  event : OutboundEvent
  payload : Json
  purpose : Purpose

structure Service where
  worker : Worker
  transport : Transport
  document : Option Document := none
  /-- Requests that are still to be sent. -/
  requests : List OutboundRequest := []
  /-- In the order in which they were set. -/
  timers : List Timer := []
  millis : Nat := 0
  now : Time
  /-- The supply of ids that were never used before. -/
  freshId : String
  nextTicket : Ticket := 0
  answers : List (Ticket × Answer) := []
  finishedBatches : List BatchReport := []
  /-- What subscribers were told. -/
  told : List (String × Json) := []
  disposed : Bool := false

namespace Service

/-- The handler by which the service listens to inbound events. -/
def handlerLabel : String := "graph"

def config (s : Service) : Config := s.worker.engine.config

def shortestSweepMillis : Nat := 10

def sweepMillis (s : Service) : Nat := max s.config.cacheSweepMillis shortestSweepMillis

/-- The clock never shows the same time twice. -/
def tick (s : Service) : Service := { s with now := s.now.tick }

def reading (s : Service) : Reading := { now := s.now, elapsedNanos := 1000, freshId := s.freshId }

/-- Hands a command to the worker. -/
def enqueue (s : Service) (c : Command) : Service := { s with worker := s.worker.post c }

def setTimer (s : Service) (after : Nat) (alarm : Alarm) : Service :=
  { s with timers := s.timers ++ [⟨s.millis + after, alarm⟩] }

/-- Emits an event. A failure is an error to be announced, unless it was an announcement that failed. -/
def emit (s : Service) (event : OutboundEvent) (payload : Json) : Service :=
  match s.transport.emit s.now event.name payload with
  | .ok transport => { s with transport }
  | .error fault =>
    if event = .error then s else
    match (GraphError.transport fault).event? with
    | none => s
    | some announcement =>
      match s.transport.emit s.now OutboundEvent.error.name announcement.write with
      | .ok transport => { s with transport }
      | .error _ => s

def perform (s : Service) : Effect → Service
  | .emit event payload => s.emit event payload
  | .tell label value => { s with told := s.told ++ [(label, value)] }
  | .delay path seq content => s.setTimer s.config.analysisDebounceMillis (.debounced path seq content)
  | .request event payload purpose => { s with requests := s.requests ++ [⟨event, payload, purpose⟩] }
  | .answer ticket answer => { s with answers := s.answers ++ [(ticket, answer)] }
  | .batchFinished report => { s with finishedBatches := s.finishedBatches ++ [report] }

def stepWorker (s : Service) : Service :=
  let s := s.tick
  let (worker, effects) := s.worker.step s.reading
  effects.foldl perform { s with worker }

/-- The worker's turn: it ends when nothing is left to do, or after a chunk of a batch that is not finished. -/
def turn : Nat → Service → Service
  | 0, s => s
  | n + 1, s =>
    if s.worker.isIdle then s else
    let after := s.stepWorker
    if s.worker.run.isSome && after.worker.run.isSome then after else turn n after

/-- Sends a request. It is answered at once, or else given up when its time is over. -/
def send (s : Service) (r : OutboundRequest) : Service :=
  let s := s.tick
  let (transport, answer) := s.transport.request s.now r.event.name r.payload
  let s := { s with transport }
  match answer with
  | some result => s.enqueue (.answered r.purpose result)
  | none => s.setTimer s.config.requestTimeoutMillis (.unanswered r.event r.purpose)

def sendRequests (s : Service) : Service := s.requests.foldl send { s with requests := [] }

def ring (s : Service) : Alarm → Service
  | .debounced path seq content => s.enqueue (.analysisDue path seq content)
  | .unanswered event purpose =>
    s.enqueue (.answered purpose (.error (.timeout event.name s.config.requestTimeoutMillis)))
  | .sweep => if s.worker.stopped then s else (s.enqueue .optimizeCaches).setTimer s.sweepMillis .sweep

def isDue (s : Service) (t : Timer) : Bool := t.due ≤ s.millis

def ringDue (s : Service) : Service :=
  (s.timers.filter s.isDue).foldl (fun s t => s.ring t.alarm) { s with timers := s.timers.filter (!s.isDue ·) }

/-- Whether nothing is left to do at this moment. -/
def isSettled (s : Service) : Bool := s.worker.isIdle && s.requests.isEmpty && !s.timers.any s.isDue

def settleFor : Nat → Service → Service
  | 0, s => s
  | n + 1, s =>
    let s := turn s.worker.work s
    if s.isSettled then s else settleFor n s.sendRequests.ringDue

/-- Does everything that can be done at this moment. Every round either tries a chunk of a batch or takes each
content change one stage further on its way, of which there are fewer than eight. -/
def settle (s : Service) : Service := settleFor (s.worker.work + 8) s

/-- When the next timer is due. -/
def nextDue? (s : Service) : Option Nat := (s.timers.map (·.due)).min?

def advanceFor (target : Nat) : Nat → Service → Service
  | 0, s => s
  | n + 1, s =>
    match s.nextDue?.filter (· ≤ target) with
    | none => s
    | some due => advanceFor target n (settle { s with millis := max s.millis due })

/-- Lets time pass. Each round reaches a later millisecond. -/
def advance (s : Service) (millis : Nat) : Service :=
  let target := s.millis + millis
  { advanceFor target (millis + 1) s with millis := target }

def answer? (s : Service) (ticket : Ticket) : Option Answer := s.answers.lookup ticket

def awaitFor (ticket : Ticket) : Nat → Service → Service
  | 0, s => s
  | n + 1, s =>
    if (s.answer? ticket).isSome then s else
    match s.nextDue? with
    | none => s
    | some due => awaitFor ticket n (settle { s with millis := max s.millis due })

/-- Lets time pass until a query is answered, which is no later than a request is given up. -/
def await (s : Service) (ticket : Ticket) : Service := awaitFor ticket (s.config.requestTimeoutMillis + 2) s.settle

end Service
end CodeGraph
