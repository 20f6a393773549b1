import Mathlib.Data.List.Nodup
import Mathlib.Data.List.Perm.Subperm
import CodeGraph.Http.Serve
import CodeGraph.Proofs.Transport.Polling
/-!
Somebody polls the log of a transport over a route that reads it twice for an answer: the events after a number first,
the number of the next event then. Polls go on from the event before that one, so what is sent between the two reads of
an answer is never received. All else is, once and in order, as long as the log keeps it from one answer to the next.

The reads are those of the route by `read_read`: with nothing in between, two of them take over exactly what it answers.
-/
namespace CodeGraph
open Polling (Move sent sent_append sent_concat_act sent_concat_poll since_ofSent)

structure Resuming where
  transport : Transport
  /-- The number after which events are asked for. -/
  since : Nat := 0
  received : List LoggedEvent := []
  /-- The events of an answer that is begun. -/
  pending : Option (List LoggedEvent) := none

namespace Resuming

def start (capacity : Nat) (broken : Std.ExtTreeMap String String) : Resuming :=
  { transport := { Transport.empty capacity with broken } }

/-- The next read: of the events, or, if an answer is begun, of the next number, with which it is finished. -/
def read (p : Resuming) : Resuming :=
  match p.pending with
  | none => { p with pending := some (p.transport.log.since p.since) }
  | some events =>
    { p with since := p.transport.log.next - 1, received := p.received ++ events, pending := none }

/-- A poll is one of two reads here. -/
def move (p : Resuming) : Move → Resuming
  | .act op => { p with transport := p.transport.step op }
  | .poll => p.read

def after (p : Resuming) (moves : List Move) : Resuming := moves.foldl move p

/-- Whether an answer is begun and not finished. -/
def halfway (moves : List Move) : Bool :=
  moves.foldl (fun h m => match m with | .act _ => h | .poll => !h) false

/-- The two reads of an answer, and what is done in between. -/
def answering (during : List Move) : List Move := Move.poll :: (during ++ [Move.poll])

/-- No events are read in moves that come after others. -/
def Unread (before recent : List Move) : Prop :=
  ∀ first rest, recent = first ++ Move.poll :: rest → halfway (before ++ first) = true

/-- From one time that events are read to the next, and before the first, not more than that many are sent. -/
def Prompt (bound : Nat) (broken : Std.ExtTreeMap String String) (moves : List Move) : Prop :=
  ∀ before recent after, moves = before ++ recent ++ Move.poll :: after → halfway (before ++ recent) = false →
    Unread before recent → (sent broken recent).length ≤ bound

/-- The event of that number is sent between the two reads of an answer. -/
def Torn (broken : Std.ExtTreeMap String String) (moves : List Move) (seq : Nat) : Prop :=
  ∃ before op after, moves = before ++ .act op :: after ∧ halfway before = true ∧
    (op.sends? broken).isSome = true ∧ (sent broken before).length + 1 = seq

/-- What was received, and what is in the answer that is begun. -/
def gathered (p : Resuming) : List LoggedEvent := p.received ++ p.pending.getD []

/-- Two reads with nothing in between do what the answer of the route tells. -/
theorem read_read {p : Resuming} (hidle : p.pending = none) {s : Service} (h : s.transport = p.transport) :
    ∃ events next, (s.carryOut (.outboundEvents p.since)).1 =
        .json (.obj [("events", .ofList LoggedEvent.write events), ("nextSeq", .nat next)]) ∧
      p.read.read = { p with since := next - 1, received := p.received ++ events } := by
  refine ⟨p.transport.log.since p.since, p.transport.log.next, ?_, ?_⟩
  · rw [← h]
    rfl
  · simp only [read, hidle]

section Moves
variable {broken : Std.ExtTreeMap String String} {moves more : List Move} {m : Move} {op : TransportOp} {seq : Nat}

theorem after_append (p : Resuming) (moves more : List Move) : p.after (moves ++ more) = (p.after moves).after more :=
  List.foldl_append

theorem halfway_concat_act : halfway (moves ++ [.act op]) = halfway moves := List.foldl_concat ..

theorem halfway_concat_poll : halfway (moves ++ [Move.poll]) = !halfway moves := List.foldl_concat ..

theorem halfway_append (h : Move.poll ∉ more) : halfway (moves ++ more) = halfway moves := by
  induction more using List.reverseRecOn with
  | nil => rw [List.append_nil]
  | append_singleton more m ih =>
    rw [List.mem_append, not_or] at h
    cases m with
    | act op => rw [← List.append_assoc, halfway_concat_act, ih h.1]
    | poll => exact absurd (List.mem_singleton_self _) h.2

theorem Prompt.of_append {bound : Nat} (h : Prompt bound broken (moves ++ more)) : Prompt bound broken moves := by
  rintro before recent after rfl
  exact h before recent (after ++ more) (by simp)

theorem prompt_of_length {bound : Nat} (h : (sent broken moves).length ≤ bound) : Prompt bound broken moves := by
  rintro before recent after rfl - -
  simp only [sent_append, List.length_append] at h
  omega

theorem Unread.nil (before : List Move) : Unread before [] := by
  intro first rest h
  simp at h

theorem Unread.concat {before recent : List Move} (h : Unread before recent)
    (hm : m = .poll → halfway (before ++ recent) = true) : Unread before (recent ++ [m]) := by
  intro first rest hrecent
  rcases List.eq_nil_or_concat rest with rfl | ⟨rest, m', rfl⟩
  · obtain ⟨rfl, hm'⟩ := List.append_inj' hrecent rfl
    cases hm'
    exact hm rfl
  · rw [List.concat_eq_append, ← List.cons_append, ← List.append_assoc] at hrecent
    exact h first rest (List.append_inj' hrecent rfl).1

theorem torn_concat : Torn broken (moves ++ [m]) seq ↔ Torn broken moves seq ∨
    ∃ op, m = .act op ∧ halfway moves = true ∧ (op.sends? broken).isSome = true ∧
      (sent broken moves).length + 1 = seq := by
  constructor
  · rintro ⟨before, op, after, hmoves, htorn⟩
    rcases List.eq_nil_or_concat after with rfl | ⟨after, m', rfl⟩
    · obtain ⟨rfl, hm⟩ := List.append_inj' hmoves rfl
      cases hm
      exact Or.inr ⟨op, rfl, htorn⟩
    · rw [List.concat_eq_append, ← List.cons_append, ← List.append_assoc] at hmoves
      exact Or.inl ⟨before, op, after, (List.append_inj' hmoves rfl).1, htorn⟩
  · rintro (⟨before, op, after, rfl, htorn⟩ | ⟨op, rfl, htorn⟩)
    · exact ⟨before, op, after ++ [m], by simp, htorn⟩
    · exact ⟨moves, op, [], rfl, htorn⟩

theorem torn_concat_poll : Torn broken (moves ++ [Move.poll]) seq ↔ Torn broken moves seq := by simp [torn_concat]

theorem Torn.bounds (h : Torn broken moves seq) : 1 ≤ seq ∧ seq ≤ (sent broken moves).length := by
  obtain ⟨before, op, after, rfl, -, hsends, rfl⟩ := h
  obtain ⟨s, hs⟩ := Option.isSome_iff_exists.mp hsends
  have hcount : (sent broken (.act op :: after)).length = (sent broken after).length + 1 := by simp [sent, hs]
  rw [sent_append, List.length_append, hcount]
  omega

/-- What is sent later does not change which of the earlier events are torn. -/
theorem torn_append (h : seq ≤ (sent broken moves).length) :
    Torn broken (moves ++ more) seq ↔ Torn broken moves seq := by
  induction more using List.reverseRecOn with
  | nil => rw [List.append_nil]
  | append_singleton more m ih =>
    rw [← List.append_assoc, torn_concat, ih]
    refine or_iff_left ?_
    rintro ⟨op, -, -, -, hlast⟩
    rw [sent_append, List.length_append] at hlast
    omega

end Moves

/-- A transport and the one who polls it after some moves, when so many events were sent as events were last read. -/
structure Sound (capacity : Nat) (broken : Std.ExtTreeMap String String) (moves : List Move) (p : Resuming)
    (seen : Nat) : Prop where
  refuses : p.transport.broken = broken
  log : p.transport.log = .ofSent capacity (sent broken moves)
  begun : p.pending.isSome = halfway moves
  last : ∃ before recent, moves = before ++ recent ∧ Unread before recent ∧ (sent broken before).length = seen
  seen_le : seen ≤ (sent broken moves).length
  /-- Between two answers the poller is ready to go on after the torn events, and after no others that are new. -/
  passed : halfway moves = false → seen ≤ p.since ∧ (∀ seq, seen < seq → seq ≤ p.since → Torn broken moves seq) ∧
    ∀ seq, Torn broken moves seq → seq ≤ p.since
  /-- Whatever is sent during an answer is torn. -/
  tearing : halfway moves = true → ∀ seq, seen < seq → seq ≤ (sent broken moves).length → Torn broken moves seq
  sublist : p.gathered.Sublist ((numbered (sent broken moves)).take seen)
  prompt : Prompt capacity broken moves →
    ∀ e ∈ (numbered (sent broken moves)).take seen, e ∈ p.gathered ↔ ¬ Torn broken moves e.seq

theorem start_sound (capacity : Nat) (broken : Std.ExtTreeMap String String) :
    (start capacity broken).Sound (max capacity 1) broken [] 0 where
  refuses := rfl
  log := (OutboundLog.ofSent_nil _).symm
  begun := rfl
  last := ⟨[], [], rfl, Unread.nil _, rfl⟩
  seen_le := Nat.le_refl 0
  passed _ := ⟨Nat.le_refl 0, fun _ hlow hhigh => absurd hhigh (Nat.not_le.mpr hlow), fun _ h => h.bounds.2⟩
  tearing h := nomatch h
  sublist := .slnil
  prompt _ _ h := nomatch h

namespace Sound
variable {capacity seen : Nat} {broken : Std.ExtTreeMap String String} {moves : List Move} {p : Resuming}

theorem act (h : p.Sound capacity broken moves seen) (op : TransportOp) :
    (p.move (.act op)).Sound capacity broken (moves ++ [.act op]) seen := by
  have hsent := sent_concat_act broken moves op
  have htake : (numbered (sent broken (moves ++ [.act op]))).take seen = (numbered (sent broken moves)).take seen := by
    rw [hsent, take_numbered_append _ _ h.seen_le]
  constructor
  case refuses => exact (p.transport.step_broken op).trans h.refuses
  case log =>
    rw [hsent, ← h.refuses]
    exact Transport.step_ofSent (h.refuses ▸ h.log) op
  case begun => exact h.begun.trans halfway_concat_act.symm
  case last =>
    obtain ⟨before, recent, rfl, hunread, hseen⟩ := h.last
    exact ⟨before, recent ++ [.act op], List.append_assoc .., hunread.concat nofun, hseen⟩
  case seen_le =>
    rw [hsent, List.length_append]
    exact Nat.le_add_right_of_le h.seen_le
  case passed =>
    intro hidle
    rw [halfway_concat_act] at hidle
    have htorn (seq : Nat) : Torn broken (moves ++ [.act op]) seq ↔ Torn broken moves seq := by
      simp [torn_concat, hidle]
    simp only [htorn]
    exact h.passed hidle
  case tearing =>
    intro hbusy seq hlow hhigh
    rw [halfway_concat_act] at hbusy
    rw [torn_concat]
    rcases Nat.lt_or_ge (sent broken moves).length seq with hnew | hold
    · right
      rw [hsent, List.length_append] at hhigh
      cases hsends : op.sends? broken with
      | none =>
        rw [hsends, Option.toList_none, List.length_nil] at hhigh
        omega
      | some s =>
        rw [hsends, Option.toList_some, List.length_singleton] at hhigh
        exact ⟨op, rfl, hbusy, by rw [hsends, Option.isSome_some], by omega⟩
    · exact Or.inl (h.tearing hbusy seq hlow hold)
  case sublist => exact htake ▸ h.sublist
  case prompt =>
    intro hprompt e he
    rw [htake] at he
    rw [torn_append (Nat.le_trans (mem_take_numbered.mp he).2 h.seen_le)]
    exact h.prompt hprompt.of_append e he

theorem gathered_eq (h : p.Sound capacity broken moves seen) (hidle : halfway moves = false) :
    p.pending = none ∧ p.gathered = p.received := by
  have hpending : p.pending = none := Option.not_isSome_iff_eq_none.mp (by simp [h.begun, hidle])
  refine ⟨hpending, ?_⟩
  rw [gathered, hpending]
  exact List.append_nil _

/-- The answer is finished: polls go on after all that was sent until now. -/
theorem readNext (h : p.Sound capacity broken moves seen) (hbusy : halfway moves = true) :
    p.read.Sound capacity broken (moves ++ [Move.poll]) seen := by
  have hsent := sent_concat_poll broken moves
  obtain ⟨events, hpending⟩ := Option.isSome_iff_exists.mp (h.begun.trans hbusy)
  have hread : p.read =
      { p with since := p.transport.log.next - 1, received := p.received ++ events, pending := none } := by
    simp only [read, hpending]
  have hgathered : p.read.gathered = p.gathered := by
    rw [hread, gathered, gathered, hpending]
    exact List.append_nil _
  have hsince : p.read.since = (sent broken moves).length := by
    rw [hread]
    change p.transport.log.next - 1 = _
    rw [h.log]
    rfl
  constructor
  case refuses => rw [hread]; exact h.refuses
  case log => rw [hread, hsent]; exact h.log
  case begun => rw [hread, halfway_concat_poll, hbusy]; rfl
  case last =>
    obtain ⟨before, recent, rfl, hunread, hseen⟩ := h.last
    exact ⟨before, recent ++ [Move.poll], List.append_assoc .., hunread.concat fun _ => hbusy, hseen⟩
  case seen_le => rw [hsent]; exact h.seen_le
  case passed =>
    intro _
    simp only [hsince, torn_concat_poll]
    exact ⟨h.seen_le, h.tearing hbusy, fun _ htorn => htorn.bounds.2⟩
  case tearing =>
    rw [halfway_concat_poll, hbusy]
    nofun
  case sublist => rw [hgathered, hsent]; exact h.sublist
  case prompt =>
    intro hprompt
    simp only [hgathered, hsent, torn_concat_poll]
    exact h.prompt hprompt.of_append

/-- Events are read: all that is kept and not passed by. -/
theorem readEvents (h : p.Sound capacity broken moves seen) (hidle : halfway moves = false) :
    p.read.Sound capacity broken (moves ++ [Move.poll]) (sent broken moves).length := by
  have hsent := sent_concat_poll broken moves
  obtain ⟨hpending, hidleGathered⟩ := h.gathered_eq hidle
  have hread : p.read = { p with pending := some (p.transport.log.since p.since) } := by
    simp only [read, hpending]
  have hgathered : p.read.gathered =
      p.gathered ++ (numbered (sent broken moves)).drop (max ((sent broken moves).length - capacity) p.since) := by
    rw [hread, hidleGathered, ← since_ofSent, ← h.log]
    rfl
  have hall : (numbered (sent broken moves)).take (sent broken moves).length = numbered (sent broken moves) := by
    rw [← length_numbered, List.take_length]
  obtain ⟨hseen, hgap, hopen⟩ := h.passed hidle
  constructor
  case refuses => rw [hread]; exact h.refuses
  case log => rw [hread, hsent]; exact h.log
  case begun => rw [hread, halfway_concat_poll, hidle]; rfl
  case last => exact ⟨moves ++ [Move.poll], [], (List.append_nil _).symm, Unread.nil _, by rw [hsent]⟩
  case seen_le => rw [hsent]
  case passed =>
    rw [halfway_concat_poll, hidle]
    nofun
  case tearing =>
    intro _ seq hlow hhigh
    rw [hsent] at hhigh
    exact absurd hhigh (Nat.not_le.mpr hlow)
  case sublist =>
    have hanswer := List.drop_sublist_drop_left (numbered (sent broken moves))
      (Nat.le_trans hseen (Nat.le_max_right ((sent broken moves).length - capacity) p.since))
    have happend := h.sublist.append hanswer
    rw [List.take_append_drop] at happend
    rw [hsent, hall, hgathered]
    exact happend
  case prompt =>
    intro hprompt e he
    obtain ⟨before, recent, rfl, hunread, rfl⟩ := h.last
    -- all that was sent since events were last read is still kept
    have hbound := hprompt before recent [] rfl hidle hunread
    have hkept : max ((sent broken (before ++ recent)).length - capacity) p.since = p.since := by
      rw [sent_append, List.length_append] at *
      omega
    rw [hsent, hall] at he
    rw [hgathered, hkept, torn_concat_poll, List.mem_append, mem_drop_numbered, and_iff_right he]
    rcases Nat.lt_or_ge (sent broken before).length e.seq with hnew | hold
    · have hunseen : e ∉ p.gathered := fun hmem =>
        absurd (mem_take_numbered.mp (h.sublist.subset hmem)).2 (Nat.not_le.mpr hnew)
      rw [or_iff_right hunseen]
      exact ⟨fun hlater htorn => absurd (hopen _ htorn) (Nat.not_le.mpr hlater),
        fun hwhole => Nat.not_le.mp fun hpassed => hwhole (hgap _ hnew hpassed)⟩
    · rw [or_iff_left (by omega)]
      exact h.prompt hprompt.of_append e (mem_take_numbered.mpr ⟨he, hold⟩)

theorem acts (h : p.Sound capacity broken moves seen) {recent : List Move} (hrecent : Move.poll ∉ recent) :
    (p.after recent).Sound capacity broken (moves ++ recent) seen := by
  induction recent generalizing moves p with
  | nil => rwa [List.append_nil]
  | cons m recent ih =>
    obtain ⟨hm, hrest⟩ := not_or.mp (List.mem_cons.not.mp hrecent)
    cases m with
    | act op =>
      rw [List.append_cons]
      exact ih (h.act op) hrest
    | poll => exact absurd rfl hm

end Sound

theorem after_sound (capacity : Nat) (broken : Std.ExtTreeMap String String) (moves : List Move) :
    ∃ seen, ((start capacity broken).after moves).Sound (max capacity 1) broken moves seen := by
  induction moves using List.reverseRecOn with
  | nil => exact ⟨0, start_sound capacity broken⟩
  | append_singleton moves m ih =>
    obtain ⟨seen, ih⟩ := ih
    rw [after_append]
    cases m with
    | act op => exact ⟨seen, ih.act op⟩
    | poll =>
      cases hphase : halfway moves with
      | false => exact ⟨_, ih.readEvents hphase⟩
      | true => exact ⟨seen, ih.readNext hphase⟩

/-- The two reads of an answer, whatever is done in between. -/
theorem Sound.answer {capacity seen : Nat} {broken : Std.ExtTreeMap String String} {before during : List Move}
    {p : Resuming} (h : p.Sound capacity broken before seen) (hidle : halfway before = false)
    (hduring : Move.poll ∉ during) :
    (p.after (answering during)).Sound capacity broken (before ++ answering during)
        (sent broken before).length ∧
      halfway (before ++ answering during) = false := by
  have hmoves : before ++ answering during = before ++ [Move.poll] ++ during ++ [Move.poll] := by simp [answering]
  have hbusy : halfway (before ++ [Move.poll] ++ during) = true := by
    rw [halfway_append hduring, halfway_concat_poll, hidle, Bool.not_false]
  have hp : p.after (answering during) = (p.read.after during).read := after_append p.read during [Move.poll]
  rw [hmoves, hp]
  refine ⟨((h.readEvents hidle).acts hduring).readNext hbusy, ?_⟩
  rw [halfway_concat_poll, hbusy, Bool.not_true]

theorem numbered_nodup (all : List Sending) : (numbered all).Nodup := by
  apply List.Nodup.of_map (·.seq)
  rw [map_seq_numbered]
  exact List.nodup_range' 1 (by decide)

/-- What was received once an answer is finished of which the events were read when so many were sent. -/
theorem Sound.received_iff {capacity : Nat} {broken : Std.ExtTreeMap String String} {before more : List Move}
    {p : Resuming} (h : p.Sound capacity broken (before ++ more) (sent broken before).length)
    (hidle : halfway (before ++ more) = false) (hprompt : Prompt capacity broken (before ++ more)) :
    (∀ e ∈ numbered (sent broken before), e ∈ p.received ↔ ¬ Torn broken before e.seq) ∧
      (p.received = numbered (sent broken before) ↔ ∀ seq, ¬ Torn broken before seq) := by
  have hall : (numbered (sent broken (before ++ more))).take (sent broken before).length =
      numbered (sent broken before) := by
    rw [sent_append, take_numbered_append _ _ (Nat.le_refl _), ← length_numbered, List.take_length]
  have hsublist := h.sublist
  have hmem := h.prompt hprompt
  rw [(h.gathered_eq hidle).2, hall] at hsublist hmem
  have hwhole : ∀ e ∈ numbered (sent broken before), e ∈ p.received ↔ ¬ Torn broken before e.seq := by
    intro e he
    have hseq : e.seq ≤ (sent broken before).length := (mem_take_numbered.mp (hall ▸ he)).2
    rw [hmem e he, torn_append hseq]
  refine ⟨hwhole, fun hsame seq htorn => ?_, fun hnone => ?_⟩
  · obtain ⟨hlow, hhigh⟩ := htorn.bounds
    have hlength : seq - 1 < (numbered (sent broken before)).length := by
      rw [length_numbered]
      omega
    have hreceived : (numbered (sent broken before))[seq - 1] ∈ p.received := by
      rw [hsame]
      exact List.getElem_mem hlength
    have hwhole := (hwhole _ (List.getElem_mem hlength)).mp hreceived
    rw [seq_numbered, Nat.sub_add_cancel hlow] at hwhole
    exact hwhole htorn
  · refine hsublist.eq_of_length_le ((numbered_nodup _).subperm fun e he => ?_).length_le
    exact (hwhole e he).mpr (hnone e.seq)

/-- However polls and the two reads of their answers fall between what else is done, nobody receives an event twice or
out of order. And if the log keeps all that is sent from one reading of events to the next, the poller has received,
when an answer is finished, exactly those of the events sent until it was begun that were not sent during an answer:
all of them if and only if nothing was sent during one. -/
theorem resumed_iff (capacity : Nat) (broken : Std.ExtTreeMap String String) (moves : List Move) :
    let p := (start capacity broken).after moves
    p.received.Sublist (numbered (sent broken moves)) ∧
    (Prompt (max capacity 1) broken moves →
      ∀ before during, moves = before ++ answering during → halfway before = false → Move.poll ∉ during →
        let all := numbered (sent broken before)
        (∀ e ∈ all, e ∈ p.received ↔ ¬ Torn broken before e.seq) ∧
        (p.received = all ↔ ∀ seq, ¬ Torn broken before seq)) := by
  intro p
  constructor
  · obtain ⟨seen, h⟩ := after_sound capacity broken moves
    exact (List.sublist_append_left _ _).trans (h.sublist.trans (List.take_sublist _ _))
  · rintro hprompt before during rfl hidle hduring
    obtain ⟨seen, hbefore⟩ := after_sound capacity broken before
    obtain ⟨h, hphase⟩ := hbefore.answer hidle hduring
    rw [← after_append] at h
    exact h.received_iff hphase hprompt

/-- An event is emitted between the two reads of an answer. It is in no answer, neither in this one nor in the next. -/
theorem interrupted_lost :
    let before : List Move := [.poll, .act (.emit default "a" .null), .poll]
    let p := (start 1024 ∅).after (before ++ answering [])
    Prompt 1024 ∅ (before ++ answering []) ∧ halfway before = false ∧
      (numbered (sent ∅ before)).map (fun e => (e.seq, e.event)) = [(1, "a")] ∧ p.received = [] ∧ p.since = 1 :=
  ⟨prompt_of_length (by decide +kernel), rfl, by decide +kernel, rfl, rfl⟩

/-- What is emitted between two answers is in the second one, and a subscription during an answer does no harm. -/
theorem undisturbed_received :
    let emit (event : String) : Move := .act (.emit default event .null)
    let before : List Move := [emit "a", .poll, .act (.subscribe "fileChanged" "engine"), .poll, emit "b", emit "c"]
    let p := (start 4 ∅).after (before ++ answering [])
    Prompt 4 ∅ (before ++ answering []) ∧ (∀ seq, ¬ Torn ∅ before seq) ∧
      p.received.map (fun e => (e.seq, e.event)) = [(1, "a"), (2, "b"), (3, "c")] := by
  intro emit before p
  have hprompt : Prompt 4 ∅ (before ++ answering []) := prompt_of_length (by decide +kernel)
  have hreceived : p.received = numbered (sent ∅ before) := rfl
  obtain ⟨-, hanswers⟩ := resumed_iff 4 ∅ (before ++ answering [])
  exact ⟨hprompt, (hanswers hprompt before [] rfl rfl List.not_mem_nil).2.mp hreceived, by decide +kernel⟩

end Resuming
end CodeGraph
