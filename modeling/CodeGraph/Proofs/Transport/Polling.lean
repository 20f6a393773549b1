import Mathlib.Data.List.Induction
import CodeGraph.Proofs.Transport.Sent
/-!
Somebody polls the log of a transport for what came after the last event that they received. As long as not more is
sent between two polls than the log keeps, they receive every event once and in order; and if more is sent, the number
of the first event that they receive tells.
-/
namespace CodeGraph

structure Polling where
  transport : Transport
  /-- The number of the last event received. -/
  last : Nat := 0
  received : List LoggedEvent := []

namespace Polling

inductive Move where
  | act (op : TransportOp)
  | poll

def start (capacity : Nat) (broken : Std.ExtTreeMap String String) : Polling :=
  { transport := { Transport.empty capacity with broken } }

/-- What a poll gets. -/
def answer (p : Polling) : List LoggedEvent := p.transport.log.since p.last

def poll (p : Polling) : Polling :=
  { p with last := (p.answer.getLast?.map (·.seq)).getD p.last, received := p.received ++ p.answer }

def move (p : Polling) : Move → Polling
  | .act op => { p with transport := p.transport.step op }
  | .poll => p.poll

def after (p : Polling) (moves : List Move) : Polling := moves.foldl move p

/-- What is sent out by some moves. -/
def sent (broken : Std.ExtTreeMap String String) (moves : List Move) : List Sending :=
  moves.filterMap fun
    | .act op => op.sends? broken
    | .poll => none

/-- Between two polls, and before the first, not more than that many events are sent. -/
def Prompt (bound : Nat) (broken : Std.ExtTreeMap String String) (moves : List Move) : Prop :=
  ∀ before recent after, moves = before ++ recent ++ .poll :: after → .poll ∉ recent →
    (sent broken recent).length ≤ bound

theorem Prompt.of_append {bound : Nat} {broken : Std.ExtTreeMap String String} {moves more : List Move}
    (h : Prompt bound broken (moves ++ more)) : Prompt bound broken moves := by
  rintro before recent after rfl
  exact h before recent (after ++ more) (by simp)

theorem after_concat (p : Polling) (moves : List Move) (m : Move) : p.after (moves ++ [m]) = (p.after moves).move m :=
  List.foldl_concat ..

theorem sent_append (broken : Std.ExtTreeMap String String) (moves more : List Move) :
    sent broken (moves ++ more) = sent broken moves ++ sent broken more := List.filterMap_append

theorem sent_concat_act (broken : Std.ExtTreeMap String String) (moves : List Move) (op : TransportOp) :
    sent broken (moves ++ [.act op]) = sent broken moves ++ (op.sends? broken).toList := by
  rw [sent_append]
  simp only [sent, List.filterMap_cons, List.filterMap_nil]
  cases op.sends? broken <;> rfl

theorem sent_concat_poll (broken : Std.ExtTreeMap String String) (moves : List Move) :
    sent broken (moves ++ [.poll]) = sent broken moves := by
  rw [sent_append]
  exact List.append_nil _

/-- After an event come those with greater numbers, unless they are no longer kept. -/
theorem since_ofSent (capacity : Nat) (all : List Sending) (last : Nat) :
    (OutboundLog.ofSent capacity all).since last = (numbered all).drop (max (all.length - capacity) last) := by
  rw [OutboundLog.since, OutboundLog.ofSent, List.rtake, length_numbered]
  generalize all.length - capacity = gone
  have hsplit : (numbered all).drop gone =
      ((numbered all).drop gone).take (last - gone) ++ (numbered all).drop (max gone last) := by
    have hdrop : gone + (last - gone) = max gone last := by omega
    rw [← hdrop, ← List.drop_drop, List.take_append_drop]
  have hold : (((numbered all).drop gone).take (last - gone)).filter (last < ·.seq) = [] := by
    rw [List.filter_eq_nil_iff]
    intro e he
    obtain ⟨i, hi, rfl⟩ := List.mem_iff_getElem.mp he
    simp only [List.length_take] at hi
    simp only [List.getElem_take, List.getElem_drop, seq_numbered, decide_eq_true_eq]
    omega
  have hnew : ((numbered all).drop (max gone last)).filter (last < ·.seq) = (numbered all).drop (max gone last) := by
    rw [List.filter_eq_self]
    intro e he
    obtain ⟨i, hi, rfl⟩ := List.mem_iff_getElem.mp he
    simp only [List.getElem_drop, seq_numbered, decide_eq_true_eq]
    omega
  rw [hsplit, List.filter_append, hold, hnew, List.nil_append]

theorem getLast?_numbered (all : List Sending) : ((numbered all).getLast?.map (·.seq)).getD 0 = all.length := by
  rcases List.eq_nil_or_concat all with rfl | ⟨old, s, rfl⟩
  · rfl
  · rw [List.concat_eq_append, numbered_concat, List.getLast?_concat, List.length_append]
    rfl

/-- A transport and its poller after some moves. -/
structure Sound (capacity : Nat) (broken : Std.ExtTreeMap String String) (moves : List Move) (p : Polling) :
    Prop where
  refuses : p.transport.broken = broken
  log : p.transport.log = .ofSent capacity (sent broken moves)
  /-- Everything that was sent up to the last poll was sent before the last event received, or is that event. -/
  upToDate : ∃ before recent, moves = before ++ recent ∧ .poll ∉ recent ∧ p.last = (sent broken before).length
  behind : ∀ before recent, moves = before ++ recent → .poll ∉ recent → p.last ≤ (sent broken before).length
  received : p.received.Sublist ((numbered (sent broken moves)).take p.last)
  prompt : Prompt capacity broken moves → p.received = (numbered (sent broken moves)).take p.last

namespace Sound
variable {capacity : Nat} {broken : Std.ExtTreeMap String String} {moves : List Move} {p : Polling}

theorem last_le (h : p.Sound capacity broken moves) : p.last ≤ (sent broken moves).length :=
  h.behind moves [] (List.append_nil _).symm List.not_mem_nil

theorem answer_eq (h : p.Sound capacity broken moves) :
    p.answer = (numbered (sent broken moves)).drop (max ((sent broken moves).length - capacity) p.last) := by
  rw [answer, h.log, since_ofSent]

/-- A poll brings the poller up to date. -/
theorem last_poll (h : p.Sound capacity broken moves) (hpos : 1 ≤ capacity) :
    p.poll.last = (sent broken moves).length := by
  have hle := h.last_le
  have hlast := getLast?_numbered (sent broken moves)
  simp only [Polling.poll, h.answer_eq, List.getLast?_drop, length_numbered]
  split
  · next hnone =>
    rw [Option.map_none, Option.getD_none]
    omega
  · next hsome =>
    cases hget : (numbered (sent broken moves)).getLast? with
    | none =>
      rw [hget, Option.map_none, Option.getD_none] at hlast
      omega
    | some e => rwa [hget] at hlast

theorem act (h : p.Sound capacity broken moves) (op : TransportOp) :
    (p.move (.act op)).Sound capacity broken (moves ++ [.act op]) := by
  have hsent := sent_concat_act broken moves op
  have htake : (numbered (sent broken (moves ++ [.act op]))).take p.last =
      (numbered (sent broken moves)).take p.last := by
    rw [hsent, take_numbered_append _ _ h.last_le]
  constructor
  · exact (p.transport.step_broken op).trans h.refuses
  · rw [hsent, ← h.refuses]
    exact Transport.step_ofSent (h.refuses ▸ h.log) op
  · obtain ⟨before, recent, rfl, hrecent, hlast⟩ := h.upToDate
    exact ⟨before, recent ++ [.act op], List.append_assoc .., by simpa using hrecent, hlast⟩
  · intro before recent hmoves hrecent
    rcases List.eq_nil_or_concat recent with rfl | ⟨recent, m, rfl⟩
    · rw [← List.append_nil before, ← hmoves, hsent, List.length_append]
      exact Nat.le_add_right_of_le h.last_le
    · rw [List.concat_eq_append, ← List.append_assoc] at hmoves
      exact h.behind before recent (List.append_inj' hmoves rfl).1 fun hmem => hrecent (by simp [hmem])
  · exact htake ▸ h.received
  · exact fun hprompt => htake ▸ h.prompt hprompt.of_append

theorem poll (h : p.Sound capacity broken moves) (hpos : 1 ≤ capacity) :
    p.poll.Sound capacity broken (moves ++ [.poll]) := by
  have hsent := sent_concat_poll broken moves
  have hlast := h.last_poll hpos
  have hall : (numbered (sent broken moves)).take p.poll.last = numbered (sent broken moves) := by
    rw [hlast, ← length_numbered, List.take_length]
  have hreceived : p.poll.received = p.received ++ p.answer := rfl
  constructor
  · exact h.refuses
  · rw [hsent]
    exact h.log
  · exact ⟨moves ++ [.poll], [], (List.append_nil _).symm, List.not_mem_nil, by rw [hsent, hlast]⟩
  · intro before recent hmoves hrecent
    rcases List.eq_nil_or_concat recent with rfl | ⟨recent, m, rfl⟩
    · rw [← List.append_nil before, ← hmoves, hsent, hlast]
    · rw [List.concat_eq_append, ← List.append_assoc] at hmoves
      obtain ⟨-, hm⟩ := List.append_inj' hmoves rfl
      cases hm
      exact absurd (by simp) hrecent
  · have hanswer : p.answer.Sublist ((numbered (sent broken moves)).drop p.last) := by
      rw [h.answer_eq]
      exact List.drop_sublist_drop_left _ (Nat.le_max_right ..)
    have happend := h.received.append hanswer
    rw [List.take_append_drop] at happend
    rw [hsent, hall, hreceived]
    exact happend
  · intro hprompt
    obtain ⟨before, recent, hmoves, hrecent, hbefore⟩ := h.upToDate
    -- All that was sent since the last poll is still kept, so the poll gets it.
    have hbound := hprompt before recent [] (by rw [hmoves]) hrecent
    have hcount : (sent broken moves).length = (sent broken before).length + (sent broken recent).length := by
      rw [hmoves, sent_append, List.length_append]
    have hlost : max ((sent broken moves).length - capacity) p.last = p.last := by omega
    rw [hsent, hall, hreceived, h.prompt hprompt.of_append, h.answer_eq, hlost, List.take_append_drop]

end Sound

theorem after_sound (capacity : Nat) (broken : Std.ExtTreeMap String String) (moves : List Move) :
    ((start capacity broken).after moves).Sound (max capacity 1) broken moves := by
  induction moves using List.reverseRecOn with
  | nil =>
    exact ⟨rfl, (OutboundLog.ofSent_nil _).symm, ⟨[], [], rfl, List.not_mem_nil, rfl⟩, fun _ _ _ _ => Nat.zero_le _,
      .slnil, fun _ => List.take_zero.symm⟩
  | append_singleton moves m ih =>
    rw [after_concat]
    cases m with
    | act op => exact ih.act op
    | poll => exact ih.poll (Nat.le_max_right ..)

/-- Whatever is done with a transport and whenever its log is polled, the log keeps the newest of all events, numbered
without a gap. A poller who is never further behind than that receives all events once and in order. Whoever is further
behind receives an event next whose number does not follow on the last; and nobody receives an event twice. -/
theorem events_received_once (capacity : Nat) (broken : Std.ExtTreeMap String String) (moves : List Move) :
    let p := (start capacity broken).after moves
    let all := numbered (sent broken moves)
    let kept := max capacity 1
    (p.transport.log.next = all.length + 1 ∧ p.transport.log.events <:+ all ∧
      p.transport.log.events.map (·.seq) = List.range' (all.length + 1 - min kept all.length) (min kept all.length)) ∧
    (Prompt kept broken moves →
      p.received = all.take p.last ∧ ∀ before, moves = before ++ [.poll] → p.received = all) ∧
    (∀ before recent, moves = before ++ recent → .poll ∉ recent → kept < (sent broken recent).length →
      ∃ first rest, p.answer = first :: rest ∧ p.last + 1 < first.seq) ∧
    p.received.Sublist all := by
  intro p all kept
  have h : p.Sound kept broken moves := after_sound capacity broken moves
  have hlength : all.length = (sent broken moves).length := length_numbered _
  refine ⟨⟨?_, ?_, ?_⟩, fun hprompt => ⟨h.prompt hprompt, ?_⟩, ?_, h.received.trans (List.take_sublist ..)⟩
  · rw [h.log, hlength]
    rfl
  · rw [h.log]
    exact rtake_suffix _ _
  · rw [h.log, hlength]
    exact OutboundLog.map_seq_ofSent _ _
  · rintro before rfl
    have hlast : p.last = all.length := by
      rw [hlength, sent_append, List.length_append]
      exact (congrArg Polling.last (after_concat ..)).trans ((after_sound capacity broken before).last_poll (by omega))
    rw [h.prompt hprompt, hlast, List.take_length]
  · rintro before recent rfl hrecent hmore
    have hbehind := h.behind before recent rfl hrecent
    have hcount : all.length = (sent broken before).length + (sent broken recent).length := by
      rw [hlength, sent_append, List.length_append]
    have hgone : max ((sent broken (before ++ recent)).length - kept) p.last = all.length - kept := by omega
    have hsome : all.length - kept < all.length := by omega
    refine ⟨_, _, (h.answer_eq.trans (congrArg (all.drop ·) hgone)).trans (List.drop_eq_getElem_cons hsome), ?_⟩
    rw [seq_numbered]
    omega

/-- With room for two events the third of those that are sent at once is lost. -/
example :
    let send (event : String) : Move := .act (.emit default event .null)
    let moves := [send "a", send "b", .poll, .poll, send "c", send "d", send "e", .poll]
    ((start 2 ∅).after moves).received.map (fun e => (e.seq, e.event)) = [(1, "a"), (2, "b"), (4, "d"), (5, "e")] := by
  decide +kernel

end Polling
end CodeGraph
