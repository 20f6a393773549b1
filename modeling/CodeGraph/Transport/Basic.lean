import CodeGraph.Error
import CodeGraph.Source.Analysis
import CodeGraph.Transport.Log
/-!
The way in and out: inbound events go to the handlers that subscribed to them, outbound events and requests into the
log. A request is answered by whoever responds to its event.
-/
namespace CodeGraph

inductive Responder where
  | reply (value : Json)
  | echo
  | fail (message : String)
  /-- Never answers. -/
  | silent
  /-- Analyzes the content of the file that is asked about. -/
  | analyzer

/-- The answer to a request, if there will ever be one. -/
def Responder.answer? (r : Responder) (payload : Json) : Option (Except String Json) :=
  match r with
  | reply value => some (.ok value)
  | echo => some (.ok payload)
  | fail message => some (.error message)
  | silent => none
  | analyzer => some (Source.respond payload)

structure Transport where
  log : OutboundLog
  /-- The handlers of an inbound event, by their labels, in order of their subscription. -/
  handlers : Std.ExtTreeMap String (List String) := ∅
  responders : Std.ExtTreeMap String Responder := ∅
  /-- The events that cannot be emitted, and why. -/
  broken : Std.ExtTreeMap String String := ∅

namespace Transport

def empty (capacity : Nat) : Transport := { log := .empty capacity }

def handlersOf (t : Transport) (event : String) : List String := (t.handlers[event]?).getD []

def subscribe (t : Transport) (event label : String) : Transport :=
  { t with handlers := t.handlers.insert event (t.handlersOf event ++ [label]) }

/-- Drops all handlers of an event. -/
def unsubscribe (t : Transport) (event : String) : Transport :=
  { t with handlers := t.handlers.erase event }

def respond (t : Transport) (event : String) (r : Responder) : Transport :=
  { t with responders := t.responders.insert event r }

def emit (t : Transport) (now : Time) (event : String) (payload : Json) : Except TransportError Transport :=
  match t.broken[event]? with
  | some why => .error (.emit event why)
  | none => .ok { t with log := t.log.append now event payload }

/-- Logs a request; the result is its answer, if there will ever be one. -/
def request (t : Transport) (now : Time) (event : String) (payload : Json) :
    Transport × Option (Except TransportError Json) :=
  let answer := match t.responders[event]? with
    | none => some (.error (.noResponder event))
    | some r =>
      match r.answer? payload with
      | none => none
      | some (.ok value) => some (.ok value)
      | some (.error message) => some (.error (.remote event message))
  ({ t with log := t.log.append now event payload }, answer)

/-- A request of which the answer is awaited no longer than that. -/
def requestWithin (t : Transport) (now : Time) (millis : Nat) (event : String) (payload : Json) :
    Transport × Except TransportError Json :=
  let (t, answer) := t.request now event payload
  (t, answer.getD (.error (.timeout event millis)))

end Transport
end CodeGraph
