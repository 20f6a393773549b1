import CodeGraph.Service.Basic
/-!
What can be done with a service from outside. After it was disposed of, it takes no commands and answers no queries.
-/
namespace CodeGraph.Service

/-- Starts a service over a transport; the document that is open is analyzed like a changed one. -/
def start (config : Config) (transport : Transport) (document : Option Document) (now : Time) (freshId : String) :
    Service :=
  let transport := InboundEvent.all.foldl (fun t e => t.subscribe e.name handlerLabel) transport
  let s : Service := { worker := { engine := .empty config }, transport, document, now, freshId }
  let s := (s.setTimer s.sweepMillis .sweep).enqueue .announce
  settle (match document with
    | some d => s.enqueue (.contentChanged d.path d.content)
    | none => s)

/-- Gives a command that is not answered. -/
def post (s : Service) (c : Command) : Service := if s.disposed then s else settle (s.enqueue c)

/-- The ticket of a command that is answered, which is given with it. -/
def submit (s : Service) (c : Ticket → Command) : Option Ticket × Service :=
  if s.disposed then (none, s)
  else (some s.nextTicket, { s with nextTicket := s.nextTicket + 1 }.enqueue (c s.nextTicket))

def awaitAnswer (s : Service) (c : Ticket → Command) : Except GraphError Answer × Service :=
  match s.submit c with
  | (none, s) => (.error .closed, s)
  | (some ticket, s) =>
    let s := s.await ticket
    match s.answer? ticket with
    | some answer => (.ok answer, s)
    | none => (.error .closed, s)

def ask (s : Service) (q : Query) : Except GraphError Answer × Service := s.awaitAnswer fun t => .ask t q

def batch (s : Service) (items : List Json) : Except GraphError Answer × Service :=
  s.awaitAnswer fun t => .batch t items

/-- The report on a deferred batch that is finished. -/
def batchReport? (s : Service) (batchId : String) : Option BatchReport :=
  s.finishedBatches.reverse.find? (·.batchId == batchId)

/-- The context of a task; that of a service that is closed is empty. -/
def refreshContext (s : Service) (agentId taskId : String) : ContextSlice × Service :=
  match s.ask (.refreshContext agentId taskId) with
  | (.ok (.context slice), s) => (slice, s)
  | (_, s) => ({ agentId := some agentId, taskId := some taskId }, s)

/-- Stops the service; commands that were given before are still handled. -/
def dispose (s : Service) : Service :=
  if s.disposed then s else
  let transport := InboundEvent.all.foldl (fun t e => t.unsubscribe e.name) s.transport
  settle ({ s with transport, disposed := true }.enqueue .shutdown)

/-- Delivers an inbound event; tells how many handlers it reached. -/
def deliver (s : Service) (event : String) (payload : Json) : Nat × Service :=
  let handlers := s.transport.handlersOf event
  (handlers.length, settle (handlers.foldl (fun s _ => s.enqueue (.inbound event payload)) s))

/-- Changes the document in the editor. -/
def edit (s : Service) (d : Document) : Service :=
  settle ({ s with document := some d }.enqueue (.contentChanged d.path d.content))

def respond (s : Service) (event : String) (r : Responder) : Service :=
  { s with transport := s.transport.respond event r }

end CodeGraph.Service
