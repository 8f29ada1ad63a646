import Fuatilia.Events.Envelope
import Fuatilia.Foundations.Lists
import Fuatilia.Foundations.Machine

/-!
# The outbox in memory

Events are appended in order, at most once for each identifier. A consumer drains: it is given every
event after its checkpoint or after a cursor, and the checkpoint moves up to the end.

## Main definitions

* `Outbox`, `Outbox.drain`, `Outbox.replay` — the outbox.
* `Feed` — the outbox with every batch that a drain returned.

## Main results

* `delivered_once`, `delivered_up_to_checkpoint` — what a consumer has been given.
* `drain_skips_events` — a cursor beyond the checkpoint moves it over events never delivered.

## Implementation notes

A cursor is an index, `-1` standing for nothing delivered yet.
-/

namespace Fuatilia.Events

open Fallible Machine

/-! ## The outbox -/

/-- The outbox: the events in append order, their identifiers and the checkpoints of the consumers
that have drained. -/
structure Outbox where
  events : List DomainEvent
  eventIds : List Uuid
  cursors : String → Option ℤ

namespace Outbox

def empty : Outbox := ⟨[], [], fun _ => none⟩

variable (outbox : Outbox)

def size : ℕ := outbox.events.length

def append (event : DomainEvent) : Except Thrown Outbox := do
  validateEnvelope event
  throwIf (event.eventId ∈ outbox.eventIds) (.domainError "OUTBOX_DUPLICATE"
    s!"event {event.eventId} (\"{event.name}\") is already in the outbox"
    [("eventId", event.eventId), ("name", event.name)])
  return { outbox with
    eventIds := outbox.eventIds ++ [event.eventId]
    events := outbox.events ++ [event] }

def stored (consumer : String) : ℤ := (outbox.cursors consumer).getD (-1)

def assertConsumer (consumer : String) : Except Thrown Unit :=
  throwIf (consumer = "") (.domainError "OUTBOX_CONSUMER_INVALID"
    "consumer must be a non-empty string" [("consumer", consumer)])

def cursorOf (consumer : String) : Except Thrown ℤ := do
  assertConsumer consumer
  return outbox.stored consumer

/-- A cursor is a safe integer from `-1` to the index of the last event. -/
def assertValidCursor (cursor : JsNumber) : Except Thrown ℤ :=
  match cursor.safeInteger.filter fun c : ℤ => decide (-1 ≤ c ∧ c < (outbox.size : ℤ)) with
  | some c => .ok c
  | none => .error (.domainError "OUTBOX_CURSOR_INVALID"
      (s!"cursor {cursor.text} is out of range for an outbox holding {outbox.size} event(s) " ++
        s!"(valid: -1…{(outbox.size : ℤ) - 1})")
      [("cursor", cursor.text), ("size", toString outbox.size)])

def start (consumer : String) : Option JsNumber → Except Thrown ℤ
  | none => .ok (outbox.stored consumer)
  | some cursor => outbox.assertValidCursor cursor

def checkpoint (consumer : String) (nextCursor : ℤ) : Outbox :=
  if outbox.stored consumer < nextCursor then
    { outbox with cursors := Function.update outbox.cursors consumer (some nextCursor) }
  else outbox

end Outbox

structure DrainResult where
  events : List DomainEvent
  nextCursor : ℤ

namespace Outbox

def drain (outbox : Outbox) (consumer : String) (cursor : Option JsNumber) :
    Except Thrown (Outbox × DrainResult) := do
  assertConsumer consumer
  let start ← outbox.start consumer cursor
  let batch := outbox.events.drop (start + 1).toNat
  let nextCursor := if batch = [] then start else (outbox.size : ℤ) - 1
  return (outbox.checkpoint consumer nextCursor, ⟨batch, nextCursor⟩)

def replay (outbox : Outbox) : List DomainEvent := outbox.events

end Outbox

/-! ## Runs -/

/-- An outbox and the batches it has handed out: to whom, and which events. -/
structure Feed where
  outbox : Outbox
  deliveries : List (String × List DomainEvent)

inductive Command where
  | append (event : DomainEvent)
  | drain (consumer : String) (cursor : Option JsNumber)

def step (s : Feed) : Command → Option Feed
  | .append event => (s.outbox.append event).toOption.map fun outbox => { s with outbox }
  | .drain consumer cursor => (s.outbox.drain consumer cursor).toOption.map fun (outbox, result) =>
      ⟨outbox, s.deliveries ++ [(consumer, result.events)]⟩

namespace Feed

def initial : Feed := ⟨.empty, []⟩

variable (s : Feed)

def deliveredTo (consumer : String) : List DomainEvent :=
  (s.deliveries.filter (·.1 = consumer)).flatMap (·.2)

def firstDeliveries (consumer : String) : List Uuid :=
  ((s.deliveredTo consumer).map (·.eventId)).eraseDups

def appended : List Uuid := s.outbox.events.map (·.eventId)

end Feed

/-- An explicit cursor does not lie beyond the checkpoint of the consumer that passes it. -/
def WithinCheckpoint (s : Feed) : Command → Prop
  | .append _ => True
  | .drain consumer cursor => ∀ x ∈ cursor, ∀ n ∈ x.safeInteger, n ≤ s.outbox.stored consumer

instance decidableWithinCheckpoint (s : Feed) (c : Command) : Decidable (WithinCheckpoint s c) :=
  match c with
  | .append _ => inferInstanceAs (Decidable True)
  | .drain consumer cursor => inferInstanceAs
      (Decidable (∀ x ∈ cursor, ∀ n ∈ x.safeInteger, n ≤ s.outbox.stored consumer))

variable {s s' : Feed} {c : Command}

variable {outbox outbox' : Outbox} {consumer : String} {cursor : Option JsNumber}
  {result : DrainResult} {event : DomainEvent}

lemma Outbox.assertValidCursor_eq_ok {cursor : JsNumber} {n : ℤ}
    (h : outbox.assertValidCursor cursor = .ok n) :
    cursor.safeInteger = some n ∧ -1 ≤ n ∧ n < outbox.size := by
  unfold assertValidCursor at h
  split at h
  next c hc =>
    obtain rfl : c = n := Except.ok.inj h
    simpa [Option.filter_eq_some_iff] using hc
  next => cases h

namespace Outbox

variable (outbox : Outbox) (consumer : String) (next : ℤ)

@[simp] lemma checkpoint_events : (outbox.checkpoint consumer next).events = outbox.events := by
  rw [checkpoint]
  split_ifs <;> rfl

@[simp] lemma checkpoint_eventIds :
    (outbox.checkpoint consumer next).eventIds = outbox.eventIds := by
  rw [checkpoint]
  split_ifs <;> rfl

lemma checkpoint_stored :
    (outbox.checkpoint consumer next).stored consumer = max (outbox.stored consumer) next := by
  rw [checkpoint]
  split_ifs with hlater
  · rw [max_eq_right hlater.le]
    simp [stored]
  · rw [max_eq_left (not_lt.mp hlater)]

lemma checkpoint_stored_of_ne {other : String} (h : other ≠ consumer) :
    (outbox.checkpoint consumer next).stored other = outbox.stored other := by
  rw [checkpoint]
  split_ifs with hlater
  · simp [stored, Function.update_of_ne h]
  · rfl

end Outbox

/-- What a drain does: it hands out the events after its start, and the checkpoint of its consumer
is the later one of the old checkpoint and the end of the batch. -/
lemma Outbox.drain_eq_ok (h : outbox.drain consumer cursor = .ok (outbox', result)) :
    ∃ start, outbox.start consumer cursor = .ok start ∧
      result.events = outbox.events.drop (start + 1).toNat ∧
      result.nextCursor = (if result.events = [] then start else (outbox.size : ℤ) - 1) ∧
      outbox'.events = outbox.events ∧ outbox'.eventIds = outbox.eventIds ∧
      outbox'.stored consumer = max (outbox.stored consumer) result.nextCursor ∧
      ∀ other ≠ consumer, outbox'.stored other = outbox.stored other := by
  simp only [drain, ok_iff, Prod.mk.injEq] at h
  obtain ⟨_, -, start, hstart, rfl, rfl⟩ := h
  refine ⟨start, hstart, rfl, rfl, checkpoint_events .., checkpoint_eventIds ..,
    checkpoint_stored .., fun other hne => checkpoint_stored_of_ne _ _ _ hne⟩

lemma Outbox.append_eq_ok (h : outbox.append event = .ok outbox') :
    WellFormed event ∧ event.eventId ∉ outbox.eventIds ∧ outbox' = { outbox with
      eventIds := outbox.eventIds ++ [event.eventId]
      events := outbox.events ++ [event] } := by
  simpa only [append, seq_eq_ok, throwIf_eq_ok, pure_eq_ok, validateEnvelope_eq_ok] using h

theorem step_cases (h : step s c = some s') :
    (∃ event, c = .append event ∧ event.eventId ∉ s.outbox.eventIds ∧
      s' = { s with outbox := { s.outbox with
        eventIds := s.outbox.eventIds ++ [event.eventId]
        events := s.outbox.events ++ [event] } }) ∨
    ∃ consumer cursor outbox result, c = .drain consumer cursor ∧
      s.outbox.drain consumer cursor = .ok (outbox, result) ∧
      s' = ⟨outbox, s.deliveries ++ [(consumer, result.events)]⟩ := by
  cases c with
  | append event =>
    obtain ⟨outbox, happend, rfl⟩ := map_toOption_eq_some.mp h
    obtain ⟨-, hfresh, rfl⟩ := Outbox.append_eq_ok happend
    exact .inl ⟨event, rfl, hfresh, rfl⟩
  | drain consumer cursor =>
    obtain ⟨⟨outbox, result⟩, hdrain, rfl⟩ := map_toOption_eq_some.mp h
    exact .inr ⟨consumer, cursor, outbox, result, rfl, hdrain, rfl⟩

/-! ## Deliveries -/

/-- The events up to the checkpoint of every consumer have been delivered to it in append order, and
the outbox has no event twice. -/
structure Delivered (s : Feed) : Prop where
  ids : s.outbox.eventIds = s.appended
  nodup : s.appended.Nodup
  lower : ∀ consumer, -1 ≤ s.outbox.stored consumer
  upper : ∀ consumer, s.outbox.stored consumer < s.outbox.size
  first : ∀ consumer, s.firstDeliveries consumer =
    s.appended.take (s.outbox.stored consumer + 1).toNat

lemma delivered_initial : Delivered .initial where
  ids := rfl
  nodup := List.nodup_nil
  lower _ := le_rfl
  upper _ := by simp [Feed.initial, Outbox.empty, Outbox.stored, Outbox.size]
  first _ := rfl

lemma delivered_append (h : Delivered s) (hfresh : event.eventId ∉ s.outbox.eventIds) :
    Delivered { s with outbox := { s.outbox with
      eventIds := s.outbox.eventIds ++ [event.eventId]
      events := s.outbox.events ++ [event] } } := by
  have hids := h.ids
  simp only [Feed.appended] at hids
  constructor
  case ids => simp [Feed.appended, hids]
  case nodup =>
    have hnodup := h.nodup
    simp only [Feed.appended] at hnodup
    simp only [Feed.appended]
    exact Lists.nodup_map_concat hnodup fun hid => hfresh (hids ▸ hid)
  case lower => exact h.lower
  case upper =>
    intro consumer
    have := h.upper consumer
    simp only [Outbox.size, Outbox.stored, List.length_append, List.length_singleton] at this ⊢
    omega
  case first =>
    intro consumer
    have hupper := h.upper consumer
    have hfirst := h.first consumer
    simp only [Feed.appended, Outbox.size, Outbox.stored] at hfirst hupper
    simp only [Feed.appended, List.map_append, Outbox.stored]
    rw [List.take_append_of_le_length (by rw [List.length_map]; omega)]
    exact hfirst

lemma deliveredTo_append (consumer other : String) (outbox : Outbox) (batch : List DomainEvent) :
    Feed.deliveredTo ⟨outbox, s.deliveries ++ [(consumer, batch)]⟩ other =
      s.deliveredTo other ++ if consumer = other then batch else [] := by
  by_cases h : consumer = other <;> simp [Feed.deliveredTo, h]

lemma start_le_stored {start : ℤ}
    (h : Delivered s) (hwithin : WithinCheckpoint s (.drain consumer cursor))
    (hstart : s.outbox.start consumer cursor = .ok start) :
    -1 ≤ start ∧ start ≤ s.outbox.stored consumer := by
  cases cursor with
  | none =>
    obtain rfl : s.outbox.stored consumer = start := Except.ok.inj hstart
    exact ⟨h.lower consumer, le_rfl⟩
  | some x =>
    obtain ⟨hsafe, hlower, -⟩ := Outbox.assertValidCursor_eq_ok hstart
    exact ⟨hlower, hwithin x rfl start hsafe⟩

/-- A drain within the checkpoint hands out everything after the checkpoint, so that the checkpoint
moves to the last event: the batch is empty only when it is there already. -/
lemma delivered_drain (h : Delivered s) (hwithin : WithinCheckpoint s (.drain consumer cursor))
    (hdrain : s.outbox.drain consumer cursor = .ok (outbox, result)) :
    Delivered ⟨outbox, s.deliveries ++ [(consumer, result.events)]⟩ := by
  obtain ⟨start, hstart, hbatch, hnext, hevents, hids, hstored, hother⟩ := Outbox.drain_eq_ok hdrain
  obtain ⟨hlower, hle⟩ := start_le_stored h hwithin hstart
  have hupper := h.upper consumer
  -- the checkpoint moves to the last event
  have hlast : outbox.stored consumer = (s.outbox.size : ℤ) - 1 := by
    rw [hstored, hnext]
    by_cases hempty : result.events = []
    · rw [hbatch, List.drop_eq_nil_iff] at hempty
      rw [if_pos (by rw [hbatch, List.drop_eq_nil_iff]; exact hempty), max_eq_left hle]
      simp only [Outbox.size] at hupper ⊢
      omega
    · rw [if_neg hempty, max_eq_right]
      omega
  have happended : Feed.appended ⟨outbox, s.deliveries ++ [(consumer, result.events)]⟩ =
      s.appended := by
    simp [Feed.appended, hevents]
  have hsize : outbox.size = s.outbox.size := by simp [Outbox.size, hevents]
  constructor
  case ids => rw [happended, ← h.ids]; exact hids
  case nodup => rw [happended]; exact h.nodup
  case lower =>
    intro other
    by_cases hne : other = consumer
    · subst hne
      have := h.lower other
      show -1 ≤ outbox.stored other
      omega
    · exact (hother other hne).symm ▸ h.lower other
  case upper =>
    intro other
    show outbox.stored other < outbox.size
    rw [hsize]
    by_cases hne : other = consumer
    · subst hne
      omega
    · exact (hother other hne).symm ▸ h.upper other
  case first =>
    intro other
    rw [happended]
    by_cases hne : other = consumer
    · subst hne
      have hall : (s.outbox.size : ℤ) - 1 + 1 = s.outbox.size := by omega
      have hfirst := h.first other
      simp only [Feed.firstDeliveries] at hfirst
      rw [hlast, hall, Int.toNat_natCast,
        List.take_of_length_le (by simp [Feed.appended, Outbox.size]),
        Feed.firstDeliveries, deliveredTo_append, if_pos rfl, List.map_append, hbatch,
        List.map_drop]
      exact Lists.eraseDups_append_drop h.nodup (by omega) hfirst
    · rw [Feed.firstDeliveries, deliveredTo_append, if_neg (Ne.symm hne), List.append_nil,
        hother other hne]
      exact h.first other

lemma delivered_step (hwithin : WithinCheckpoint s c) (h : Delivered s)
    (hstep : step s c = some s') : Delivered s' := by
  rcases step_cases hstep with ⟨event, rfl, hfresh, rfl⟩ |
    ⟨consumer, cursor, outbox, result, rfl, hdrain, rfl⟩
  · exact delivered_append h hfresh
  · exact delivered_drain h hwithin hdrain

/-- **Deliveries up to the checkpoint.** In every run of appends and drains whose explicit cursors
do not lie beyond the checkpoint of their consumer, every event up to the checkpoint of a consumer
has been delivered to it, first deliveries in append order. -/
theorem delivered_up_to_checkpoint (commands : List Command)
    (hwithin : Meets step WithinCheckpoint .initial commands) (consumer : String) :
    let s := run step .initial commands
    (∀ (i : ℕ) event, s.outbox.events[i]? = some event → (i : ℤ) ≤ s.outbox.stored consumer →
      event.eventId ∈ (s.deliveredTo consumer).map (·.eventId)) ∧
    s.firstDeliveries consumer = s.appended.take (s.outbox.stored consumer + 1).toNat := by
  intro s
  have h : Delivered s := run_invariant (fun _ _ _ hC h hstep => delivered_step hC h hstep)
    commands .initial delivered_initial hwithin
  refine ⟨fun i event hevent hle => ?_, h.first consumer⟩
  have hmem : event.eventId ∈ s.appended.take (s.outbox.stored consumer + 1).toNat := by
    apply List.mem_of_getElem? (i := i)
    rw [List.getElem?_take_of_lt (by omega), Feed.appended, List.getElem?_map, hevent]
    rfl
  rw [← h.first consumer, Feed.firstDeliveries, List.mem_eraseDups] at hmem
  exact hmem

/-! ## Without cursors -/

/-- Exactly the events up to the checkpoint of a consumer have been delivered to it. -/
def InStep (consumer : String) (s : Feed) : Prop :=
  ∃ n ≤ s.outbox.events.length, s.outbox.stored consumer = (n : ℤ) - 1 ∧
    s.deliveredTo consumer = s.outbox.events.take n

lemma inStep_step (hplain : ∀ cursor, c = .drain consumer cursor → cursor = none)
    (h : InStep consumer s) (hstep : step s c = some s') : InStep consumer s' := by
  obtain ⟨n, hn, hlast, hdelivered⟩ := h
  rcases step_cases hstep with ⟨event, rfl, -, rfl⟩ | ⟨other, cursor, outbox, result, rfl, hdrain,
    rfl⟩
  · refine ⟨n, by simp; omega, hlast, ?_⟩
    exact hdelivered.trans (List.take_append_of_le_length hn).symm
  · obtain ⟨start, hstart, hbatch, hnext, hevents, -, hstored, hother⟩ := Outbox.drain_eq_ok hdrain
    simp only [InStep, deliveredTo_append, hevents]
    by_cases hsame : other = consumer
    · -- the batch is what follows the checkpoint, which moves to the last event
      subst hsame
      obtain rfl := hplain cursor rfl
      obtain rfl : s.outbox.stored other = start := Except.ok.inj hstart
      have hrest : result.events = s.outbox.events.drop n := by simp [hbatch, hlast]
      refine ⟨_, le_rfl, ?_, ?_⟩
      · simp only [hstored, hnext, hrest, hlast, List.drop_eq_nil_iff, Outbox.size]
        split_ifs <;> omega
      · rw [if_pos rfl, hdelivered, hrest, List.take_append_drop, List.take_length]
    · exact ⟨n, hn,
        (hother consumer (Ne.symm hsame)).trans hlast, by simpa [hsame] using hdelivered⟩

/-- **Each event once, in order.** Whatever the other consumers do, a consumer that passes no cursor
has been delivered the events up to its checkpoint, each once and in append order, and its next
drain hands out exactly the rest. -/
theorem delivered_once (commands : List Command) (consumer : String)
    (hplain : ∀ cursor, .drain consumer cursor ∈ commands → cursor = none) :
    let s := run step .initial commands
    s.deliveredTo consumer = s.outbox.replay.take (s.outbox.stored consumer + 1).toNat ∧
      ∀ outbox result, s.outbox.drain consumer none = .ok (outbox, result) →
        s.deliveredTo consumer ++ result.events = s.outbox.replay := by
  intro s
  obtain ⟨n, -, hlast, hdelivered⟩ : InStep consumer s := run_invariant
    (fun _ c _ hc => inStep_step fun cursor hcursor => hplain cursor (hcursor ▸ hc))
    commands _ ⟨0, le_rfl, rfl, rfl⟩ (meets_of_mem _ fun _ hc => hc)
  rw [hlast, sub_add_cancel, Int.toNat_natCast]
  refine ⟨hdelivered, fun outbox result hdrain => ?_⟩
  obtain ⟨start, hstart, hbatch, -⟩ := Outbox.drain_eq_ok hdrain
  obtain rfl : s.outbox.stored consumer = start := Except.ok.inj hstart
  simp [hdelivered, hbatch, hlast, Outbox.replay]

/-! ## Cursors beyond the checkpoint -/

def exampleEvent (eventId : Uuid) : DomainEvent where
  eventId
  name := "receivable.opened"
  version := ⟨some 1, "1"⟩
  occurredAt := "2025-09-02T08:00:00.000Z"
  aggregateId := "00000000-0000-4000-8000-0000000000aa"
  correlationId := none
  payload := .object none []

/-- Two events are appended; the consumer is handed the second and its checkpoint is behind both. -/
def skippingRun : List Command :=
  [.append (exampleEvent "00000000-0000-4000-8000-000000000001"),
    .append (exampleEvent "00000000-0000-4000-8000-000000000002"),
    .drain "ledger" (some ⟨some 0, "0"⟩)]

theorem drain_skips_events :
    let s := run step .initial skippingRun
    s.appended = ["00000000-0000-4000-8000-000000000001", "00000000-0000-4000-8000-000000000002"] ∧
      s.outbox.stored "ledger" = 1 ∧
      (s.deliveredTo "ledger").map (·.eventId) = ["00000000-0000-4000-8000-000000000002"] := by
  decide

theorem delivered_once_beside_skipping :
    let s := run step .initial (skippingRun ++ [.drain "audit" none])
    s.deliveredTo "audit" = s.outbox.replay.take 2 :=
  (delivered_once _ "audit" (by simp [skippingRun])).1

/-- A consumer that drains from its checkpoint, and again from an older cursor. -/
def redeliveringRun : List Command :=
  [.append (exampleEvent "00000000-0000-4000-8000-000000000001"),
    .append (exampleEvent "00000000-0000-4000-8000-000000000002"),
    .drain "ledger" none, .drain "ledger" (some ⟨some 0, "0"⟩)]

theorem delivered_up_to_checkpoint_redelivered :
    Meets step WithinCheckpoint .initial redeliveringRun ∧
      (run step .initial redeliveringRun).firstDeliveries "ledger" =
        (run step .initial redeliveringRun).appended.take
          ((run step .initial redeliveringRun).outbox.stored "ledger" + 1).toNat := by
  have hwithin : Meets step WithinCheckpoint .initial redeliveringRun := by decide
  exact ⟨hwithin, (delivered_up_to_checkpoint redeliveringRun hwithin "ledger").2⟩

end Fuatilia.Events
