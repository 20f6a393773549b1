import CodeGraph.Proofs.List.Newest
import CodeGraph.Transport.Basic
/-!
The log against all that was ever sent out, by an emit or by a request. Whatever else is done with a transport, its log
numbers what was sent from one on and keeps the newest.
-/
namespace CodeGraph

/-- What is done with a transport. -/
inductive TransportOp where
  | emit (now : Time) (event : String) (payload : Json)
  | request (now : Time) (event : String) (payload : Json)
  | subscribe (event label : String)
  | unsubscribe (event : String)
  | respond (event : String) (responder : Responder)

/-- What is sent out, before it has a number. -/
structure Sending where
  time : Time
  event : String
  payload : Json

/-- What an operation sends, where some events cannot be emitted. -/
def TransportOp.sends? (broken : Std.ExtTreeMap String String) : TransportOp → Option Sending
  | emit now event payload => if broken.contains event then none else some ⟨now, event, payload⟩
  | request now event payload => some ⟨now, event, payload⟩
  | subscribe _ _ | unsubscribe _ | respond _ _ => none

def Sending.logged (s : Sending) (seq : Nat) : LoggedEvent := ⟨seq, s.time, s.event, s.payload⟩

/-- All that was sent, in order and numbered from one on. -/
def numbered (sent : List Sending) : List LoggedEvent := sent.mapIdx fun i s => s.logged (i + 1)

theorem length_numbered (sent : List Sending) : (numbered sent).length = sent.length := List.length_mapIdx

theorem numbered_concat (sent : List Sending) (s : Sending) :
    numbered (sent ++ [s]) = numbered sent ++ [s.logged (sent.length + 1)] := List.mapIdx_concat

theorem numbered_append (sent more : List Sending) : ∃ rest, numbered (sent ++ more) = numbered sent ++ rest :=
  ⟨_, List.mapIdx_append⟩

/-- What is sent later does not change how the first events are numbered. -/
theorem take_numbered_append (sent more : List Sending) {k : Nat} (h : k ≤ sent.length) :
    (numbered (sent ++ more)).take k = (numbered sent).take k := by
  obtain ⟨rest, hrest⟩ := numbered_append sent more
  rw [hrest, List.take_append_of_le_length]
  rwa [length_numbered]

theorem seq_numbered (sent : List Sending) {i : Nat} (h : i < (numbered sent).length) :
    (numbered sent)[i].seq = i + 1 := by
  simp only [numbered, List.getElem_mapIdx, Sending.logged]

theorem map_seq_numbered (sent : List Sending) : (numbered sent).map (·.seq) = List.range' 1 sent.length := by
  refine List.ext_getElem (by simp [length_numbered]) fun i _ _ => ?_
  rw [List.getElem_map, seq_numbered, List.getElem_range', Nat.one_mul, Nat.add_comm]

theorem mem_drop_numbered {sent : List Sending} {k : Nat} {e : LoggedEvent} :
    e ∈ (numbered sent).drop k ↔ e ∈ numbered sent ∧ k < e.seq := by
  constructor
  · intro he
    refine ⟨List.mem_of_mem_drop he, ?_⟩
    obtain ⟨i, hi, rfl⟩ := List.mem_drop_iff_getElem.mp he
    rw [seq_numbered]
    omega
  · rintro ⟨he, hk⟩
    obtain ⟨i, hi, rfl⟩ := List.mem_iff_getElem.mp he
    rw [seq_numbered] at hk
    exact List.mem_drop_iff_getElem.mpr ⟨i - k, by omega, by congr 1; omega⟩

theorem mem_take_numbered {sent : List Sending} {k : Nat} {e : LoggedEvent} :
    e ∈ (numbered sent).take k ↔ e ∈ numbered sent ∧ e.seq ≤ k := by
  constructor
  · intro he
    refine ⟨List.mem_of_mem_take he, ?_⟩
    obtain ⟨i, hi, rfl⟩ := List.mem_take_iff_getElem.mp he
    rw [seq_numbered]
    omega
  · rintro ⟨he, hk⟩
    obtain ⟨i, hi, rfl⟩ := List.mem_iff_getElem.mp he
    rw [seq_numbered] at hk
    exact List.mem_take_iff_getElem.mpr ⟨i, by omega, rfl⟩

/-- The log of all that was sent, of which it has room for some. -/
def OutboundLog.ofSent (capacity : Nat) (sent : List Sending) : OutboundLog :=
  { capacity, next := sent.length + 1, events := (numbered sent).rtake capacity }

theorem OutboundLog.ofSent_nil (capacity : Nat) : ofSent capacity [] = { capacity } := by
  simp only [ofSent, numbered, List.mapIdx_nil, List.rtake_nil, List.length_nil]

theorem OutboundLog.append_ofSent (capacity : Nat) (sent : List Sending) (s : Sending) :
    (ofSent capacity sent).append s.time s.event s.payload = ofSent capacity (sent ++ [s]) := by
  have hkept : ((numbered sent).rtake capacity ++ [s.logged (sent.length + 1)]).rtake capacity =
      (numbered (sent ++ [s])).rtake capacity := by
    rw [rtake_rtake_append _ _ (Nat.le_refl capacity), numbered_concat]
  rw [ofSent, ofSent, ← hkept, List.length_append]
  rfl

/-- The numbers of the kept events are the last ones, without a gap. -/
theorem OutboundLog.map_seq_ofSent (capacity : Nat) (sent : List Sending) :
    (ofSent capacity sent).events.map (·.seq) =
      List.range' (sent.length + 1 - min capacity sent.length) (min capacity sent.length) := by
  have hstart : 1 + (sent.length - capacity) = sent.length + 1 - min capacity sent.length := by omega
  have hlength : sent.length - (sent.length - capacity) = min capacity sent.length := by omega
  rw [ofSent, List.rtake, List.map_drop, map_seq_numbered, length_numbered, List.drop_range', hlength, Nat.mul_one,
    hstart]

namespace Transport

def step (t : Transport) : TransportOp → Transport
  | .emit now event payload =>
    match t.emit now event payload with
    | .ok t => t
    | .error _ => t
  | .request now event payload => (t.request now event payload).1
  | .subscribe event label => t.subscribe event label
  | .unsubscribe event => t.unsubscribe event
  | .respond event responder => t.respond event responder

theorem step_broken (t : Transport) (op : TransportOp) : (t.step op).broken = t.broken := by
  cases op with
  | emit now event payload =>
    simp only [step, emit]
    cases t.broken[event]? <;> rfl
  | _ => rfl

/-- An operation logs what it sends and nothing else. -/
theorem step_log (t : Transport) (op : TransportOp) :
    (t.step op).log = match op.sends? t.broken with
      | some s => t.log.append s.time s.event s.payload
      | none => t.log := by
  cases op with
  | emit now event payload =>
    simp only [step, emit, TransportOp.sends?, Std.ExtTreeMap.contains_eq_isSome_getElem?]
    cases t.broken[event]? <;> rfl
  | _ => rfl

theorem step_ofSent {t : Transport} {capacity : Nat} {sent : List Sending} (h : t.log = .ofSent capacity sent)
    (op : TransportOp) : (t.step op).log = .ofSent capacity (sent ++ (op.sends? t.broken).toList) := by
  rw [step_log, h]
  cases op.sends? t.broken with
  | none => rw [Option.toList_none, List.append_nil]
  | some s => exact OutboundLog.append_ofSent ..

end Transport
end CodeGraph
