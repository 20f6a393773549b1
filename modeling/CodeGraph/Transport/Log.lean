import CodeGraph.Wire.Reader
/-! The log of outbound events: numbered from one without gaps, and bounded. -/
namespace CodeGraph

structure LoggedEvent where
  seq : Nat
  time : Time
  event : String
  payload : Json

def LoggedEvent.write (e : LoggedEvent) : Json :=
  .obj [("event", .str e.event), ("payload", e.payload), ("seq", .nat e.seq), ("ts", .ofTime e.time)]

structure OutboundLog where
  capacity : Nat
  /-- The number of the next event. -/
  next : Nat := 1
  events : List LoggedEvent := []

namespace OutboundLog

/-- A log that keeps the newest `capacity` events, at least one. -/
def empty (capacity : Nat) : OutboundLog := { capacity := max capacity 1 }

def append (l : OutboundLog) (now : Time) (event : String) (payload : Json) : OutboundLog :=
  let events := l.events ++ [⟨l.next, now, event, payload⟩]
  { l with next := l.next + 1, events := events.drop (events.length - l.capacity) }

/-- The kept events after a number. -/
def since (l : OutboundLog) (seq : Nat) : List LoggedEvent := l.events.filter (seq < ·.seq)

/-- The payloads of the kept events of a name. -/
def payloads (l : OutboundLog) (event : String) : List Json :=
  (l.events.filter (·.event == event)).map (·.payload)

end OutboundLog
end CodeGraph
