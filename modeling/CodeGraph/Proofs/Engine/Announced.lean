import CodeGraph.Proofs.Engine.Session
import CodeGraph.Service.Basic
/-!
What is announced of an event from outside that is read forgivingly. Whatever its payload is, one event tells what was
made of it, and if anything was wrong with it, one error after that tells what.
-/
namespace CodeGraph

/-- The inbound events of which it is announced what was made of them. -/
inductive Integration where
  | error
  | agent
  | project

/-- An event that goes out. -/
structure Announcement where
  event : OutboundEvent
  body : Json

/-- The anomalies that a body lists. -/
def anomaliesIn (body : Json) : List String :=
  (((body.get? "anomalies").bind Json.arr?).getD []).filterMap Json.str?

namespace Integration

def inbound : Integration → InboundEvent
  | error => .errorDetected
  | agent => .agentUpdate
  | project => .projectUpdate

def outbound : Integration → OutboundEvent
  | error => .errorAnalysis
  | agent => .agentUpdate
  | project => .projectUpdate

def subscribers (i : Integration) (e : Engine) : List Subscriber :=
  match i with
  | error => e.subscribers.errors
  | agent => e.subscribers.agents
  | project => e.subscribers.projects

/-- What was wrong with a payload, in the order in which it was met. -/
def anomalies (i : Integration) (r : Reading) (e : Engine) (payload : Json) : List String :=
  match i with
  | error => (ErrorReport.parse r.freshId payload).anomalies
  | agent => (AgentState.parse r.now payload).anomalies
  | project => (ProjectUpdate.gather r.now e.config.projectRoot payload).anomalies

/-- What is made of a payload. -/
def body (i : Integration) (r : Reading) (e : Engine) (payload : Json) : Json :=
  match i with
  | error =>
    let report := ErrorReport.parse r.freshId payload
    (ErrorAnalysis.ofReport r.now report.value e.store report.anomalies).write
  | agent =>
    let state := AgentState.parse r.now payload
    (AgentUpdate.ofState state.value e.store state.anomalies).write
  | project => (ProjectUpdate.parse r.now e.config.projectRoot payload).write

/-- Announces that a payload of which the rest was used was malformed. -/
def complaint (i : Integration) (anomalies : List String) : Announcement :=
  ⟨.error, (ErrorEvent.mk .integration (IntegrationError.message ⟨i.inbound.name, anomalies⟩)).write⟩

/-- One event with that body, and a complaint if the body lists anomalies. -/
def announcements (i : Integration) (body : Json) : List Announcement :=
  ⟨i.outbound, body⟩ :: if (anomaliesIn body).isEmpty then [] else [i.complaint (anomaliesIn body)]

end Integration

section Bodies

theorem anomaliesIn_ofList {body : Json} {anomalies : List String}
    (h : body.get? "anomalies" = if anomalies.isEmpty then none else some (.ofList .str anomalies)) :
    anomaliesIn body = anomalies := by
  cases anomalies with
  | nil =>
    rw [anomaliesIn, h]
    rfl
  | cons a as =>
    rw [anomaliesIn, h]
    simp [Json.ofList, Json.arr?, Json.str?, List.filterMap_map, Function.comp_def]

theorem ErrorAnalysis.anomaliesIn_write (a : ErrorAnalysis) : anomaliesIn a.write = a.anomalies := by
  refine anomaliesIn_ofList ?_
  rw [write]
  cases a.anomalies <;> cases a.message <;> rfl

theorem AgentUpdate.anomaliesIn_write (u : AgentUpdate) : anomaliesIn u.write = u.anomalies := by
  refine anomaliesIn_ofList ?_
  rw [write]
  cases u.anomalies <;> rfl

theorem ProjectUpdate.anomaliesIn_write (u : ProjectUpdate) : anomaliesIn u.write = u.anomalies := by
  refine anomaliesIn_ofList ?_
  rw [write]
  cases u.anomalies <;> rfl

/-- A body lists what was wrong with the payload that it was made of. -/
theorem Integration.anomaliesIn_body (i : Integration) (r : Reading) (e : Engine) (payload : Json) :
    anomaliesIn (i.body r e payload) = i.anomalies r e payload := by
  cases i with
  | error => exact ErrorAnalysis.anomaliesIn_write _
  | agent => exact AgentUpdate.anomaliesIn_write _
  | project => exact ProjectUpdate.anomaliesIn_write _

end Bodies

namespace Engine
variable (i : Integration) (r : Reading) (e : Engine) (payload : Json)

/-- Nobody who is told of something fails. -/
def Unfailing (e : Engine) : Prop := ∀ (i : Integration), ∀ s ∈ i.subscribers e, s.fails = false

theorem dispatch_integration : (e.dispatch r (.inbound i.inbound.name payload)).2 = none ∧
    (e.dispatch r (.inbound i.inbound.name payload)).1.2 =
      .emit i.outbound (i.body r e payload) :: tellAll (i.subscribers e) i.outbound (i.body r e payload)
        ++ flagAnomalies i.inbound.name (i.anomalies r e payload) := by
  cases i with
  | error => exact ⟨rfl, rfl⟩
  | project => exact ⟨rfl, rfl⟩
  | agent =>
    have hinbound : e.inbound r "agentUpdate" payload = e.agentUpdate r.now payload := rfl
    refine ⟨rfl, ?_⟩
    simp only [dispatch, Integration.inbound, InboundEvent.name, hinbound, agentUpdate]
    -- Remembering the agent changes no subscribers.
    split <;> rfl

variable {e} in
theorem tellAll_unfailing (h : e.Unfailing) (event : OutboundEvent) (value : Json) :
    tellAll (i.subscribers e) event value = (i.subscribers e).map fun s => .tell s.label value := by
  have hfailed : ((i.subscribers e).filter (·.fails)).length = 0 := by
    rw [List.length_eq_zero_iff, List.filter_eq_nil_iff]
    intro s hs
    simp [h i s hs]
  simp only [tellAll, hfailed, if_true, List.append_nil]

end Engine

/-- The event that an effect sends out. -/
def Effect.announcement? : Effect → Option Announcement
  | .emit event body => some ⟨event, body⟩
  | _ => none

/-- The events that some effects send out, in order. -/
def announcementsOf (effects : List Effect) : List Announcement := effects.filterMap (·.announcement?)

theorem announcementsOf_append (fs gs : List Effect) :
    announcementsOf (fs ++ gs) = announcementsOf fs ++ announcementsOf gs := List.filterMap_append

theorem announcementsOf_emit (event : OutboundEvent) (body : Json) (fs : List Effect) :
    announcementsOf (.emit event body :: fs) = ⟨event, body⟩ :: announcementsOf fs := rfl

/-- Whether an effect only sends out or tells, and so leads to nothing later. -/
def Effect.isNote : Effect → Bool
  | .emit _ _ | .tell _ _ => true
  | _ => false

namespace Engine
variable {e : Engine}

theorem announcementsOf_flagAnomalies (i : Integration) (anomalies : List String) :
    announcementsOf (flagAnomalies i.inbound.name anomalies) =
      if anomalies.isEmpty then [] else [i.complaint anomalies] := by
  unfold flagAnomalies
  split <;> rfl

theorem isNote_flagAnomalies {event : String} {anomalies : List String} {f : Effect}
    (h : f ∈ flagAnomalies event anomalies) : f.isNote = true := by
  unfold flagAnomalies at h
  split at h
  · cases h
  · rw [emitError, Option.mem_toList] at h
    obtain ⟨_, -, rfl⟩ := Option.map_eq_some_iff.mp h
    rfl

/-- Handling an event sends out what is made of it and perhaps a complaint; the rest is told to subscribers. -/
theorem handle_integration (h : e.Unfailing) (i : Integration) (r : Reading) (payload : Json) :
    (e.handle r (.inbound i.inbound.name payload)).2 = none ∧
    announcementsOf (e.handle r (.inbound i.inbound.name payload)).1.2 = i.announcements (i.body r e payload) ∧
    ∀ f ∈ (e.handle r (.inbound i.inbound.name payload)).1.2, f.isNote = true := by
  obtain ⟨profiler, hhandle⟩ := handle_eq r e (.inbound i.inbound.name payload)
  obtain ⟨hrun, heffects⟩ := dispatch_integration i r e payload
  have hcomplaint : announcementsOf (flagAnomalies i.inbound.name (i.anomalies r e payload)) =
      if (anomaliesIn (i.body r e payload)).isEmpty then [] else [i.complaint (anomaliesIn (i.body r e payload))] := by
    rw [announcementsOf_flagAnomalies, i.anomaliesIn_body]
  have htold : announcementsOf ((i.subscribers e).map fun s => .tell s.label (i.body r e payload)) = [] := by
    rw [announcementsOf, List.filterMap_eq_nil_iff]
    intro f hf
    obtain ⟨_, -, rfl⟩ := List.mem_map.mp hf
    rfl
  rw [hhandle, heffects, tellAll_unfailing i h, hrun]
  refine ⟨rfl, ?_, ?_⟩
  · rw [announcementsOf_append, hcomplaint]
    rw [announcementsOf_emit, htold]
    rfl
  · intro f hf
    rcases List.mem_append.mp hf with hf | hf
    · rcases List.mem_cons.mp hf with rfl | hf
      · rfl
      · obtain ⟨_, -, rfl⟩ := List.mem_map.mp hf
        rfl
    · exact isNote_flagAnomalies hf

end Engine

/-- A log in which some events are entered at once. -/
def OutboundLog.enter (l : OutboundLog) (now : Time) (as : List Announcement) : OutboundLog :=
  as.foldl (fun l a => l.append now a.event.name a.body) l

namespace Service
variable {s : Service}

/-- No event is kept from going out. -/
def Open (s : Service) : Prop := ∀ event : OutboundEvent, s.transport.broken[event.name]? = none

/-- The only trace of what was done are events that went out and what subscribers were told. -/
structure Announces (as : List Announcement) (s s' : Service) : Prop where
  transport : s'.transport = { s.transport with log := s.transport.log.enter s.now as }
  requests : s'.requests = s.requests
  timers : s'.timers = s.timers

theorem Announces.of_worker {as : List Announcement} {worker : Worker} {s' : Service}
    (h : Announces as { s with worker } s') : Announces as s s' :=
  ⟨h.transport, h.requests, h.timers⟩

theorem foldl_perform_announces {effects : List Effect} (h : s.Open) (hnotes : ∀ f ∈ effects, f.isNote = true) :
    Announces (announcementsOf effects) s (effects.foldl perform s) := by
  induction effects generalizing s with
  | nil => exact ⟨rfl, rfl, rfl⟩
  | cons f fs ih =>
    obtain ⟨hf, hfs⟩ := List.forall_mem_cons.mp hnotes
    cases f with
    | emit event body =>
      have hemit : s.perform (.emit event body) =
          { s with transport := { s.transport with log := s.transport.log.append s.now event.name body } } := by
        simp only [perform, emit, Transport.emit, h event]
      rw [List.foldl_cons, hemit, announcementsOf_emit]
      have hrest := ih (s := { s with
        transport := { s.transport with log := s.transport.log.append s.now event.name body } }) h hfs
      exact ⟨hrest.transport, hrest.requests, hrest.timers⟩
    | tell label value =>
      have hrest := ih (s := { s with told := s.told ++ [(label, value)] }) h hfs
      exact ⟨hrest.transport, hrest.requests, hrest.timers⟩
    | _ => cases hf

theorem stepWorker_eq {worker : Worker} {effects : List Effect}
    (h : s.tick.worker.step s.tick.reading = (worker, effects)) :
    s.stepWorker = effects.foldl perform { s.tick with worker } := by
  simp only [stepWorker, h]

/-- The worker's next step begins with that command. -/
structure Begins (s : Service) (c : Command) : Prop where
  running : s.worker.stopped = false
  free : s.worker.run = none
  first : s.worker.queue.head? = some c

/-- Whatever the payload is, one event goes out that tells what was made of it; if it lists anomalies, and these are
all that was wrong with the payload, one error follows that spells them, and nothing else goes out. -/
theorem integration_announced {i : Integration} {payload : Json} (hs : s.Begins (.inbound i.inbound.name payload))
    (hcalm : s.worker.engine.Unfailing) (hopen : s.Open) :
    let body := i.body s.tick.reading s.worker.engine payload
    anomaliesIn body = i.anomalies s.tick.reading s.worker.engine payload ∧
      Announces (i.announcements body) s.tick s.stepWorker := by
  intro body
  obtain ⟨-, hannounced, hnotes⟩ := Engine.handle_integration hcalm i s.tick.reading payload
  refine ⟨i.anomaliesIn_body _ _ _, ?_⟩
  obtain ⟨rest, hqueue⟩ := List.head?_eq_some_iff.mp hs.first
  have hstep : ∃ worker, s.tick.worker.step s.tick.reading = (worker,
      (s.worker.engine.handle s.tick.reading (.inbound i.inbound.name payload)).1.2) := by
    simp only [Worker.step, tick, hs.running, hs.free, hqueue, Bool.false_eq_true, if_false]
    exact ⟨_, rfl⟩
  obtain ⟨worker, hstep⟩ := hstep
  have hperformed := foldl_perform_announces (s := { s.tick with worker }) hopen hnotes
  rw [hannounced] at hperformed
  rw [stepWorker_eq hstep]
  exact hperformed.of_worker

/-- A service that is about to hear of an agent in a way it cannot read. -/
def misinformed : Service :=
  { worker := { engine := .empty {}, queue := [.inbound "agentUpdate" (.str "idle")] }, transport := .empty 8
    now := ⟨⟨2024, 1, 1⟩, 43200, 0⟩, freshId := "fresh" }

theorem misinformed_announced :
    misinformed.Begins (.inbound Integration.agent.inbound.name (.str "idle")) ∧ misinformed.worker.engine.Unfailing ∧
    misinformed.Open ∧ misinformed.stepWorker.requests = [] ∧
    misinformed.stepWorker.transport.log.events.map (·.event) = ["agentUpdate", "error"] ∧
    (misinformed.stepWorker.transport.log.payloads "error").map Json.render =
      [(ErrorEvent.mk .integration
        "malformed `agentUpdate` payload: payload is not an object; missing `agentId`").write.render] := by
  have hbegins : misinformed.Begins (.inbound Integration.agent.inbound.name (.str "idle")) := ⟨rfl, rfl, rfl⟩
  have hcalm : misinformed.worker.engine.Unfailing := by
    intro i s hs
    cases i <;> cases hs
  have hopen : misinformed.Open := fun event => Std.ExtTreeMap.getElem?_empty
  obtain ⟨-, htransport, hrequests, -⟩ := integration_announced hbegins hcalm hopen
  refine ⟨hbegins, hcalm, hopen, hrequests, ?_, ?_⟩
  · rw [htransport]
    decide +kernel
  · rw [htransport]
    decide +kernel

end Service
end CodeGraph
