import Fuatilia.Shared.Formats
import Fuatilia.Shared.JsValue

/-!
# The event envelope

The wire contract of every domain event.

## Main definitions

* `DomainEvent` — an identifier, a name of the closed catalog with its version, the instant, the
  aggregate and a payload that survives JSON.
* `validateEnvelope` — the gate before the outbox.

## Main results

* `validateEnvelope_eq_ok` — what passes the gate.
-/

namespace Fuatilia.Events

open Fallible

/-! ## The catalog -/

def EVENT_NAMES : List String :=
  ["invoicing.invoiceNumberAllocated", "invoicing.invoiceIssued", "invoicing.invoiceSent",
    "invoicing.invoiceVoided", "receivable.opened", "receivable.partiallySettled",
    "receivable.settled", "receivable.overdue", "receivable.writtenOff", "receivable.recovered",
    "payment.initiated", "payment.confirmed", "payment.failed", "payment.reversed",
    "payments.duplicateCallbackObserved", "reconciliation.paymentMatched",
    "reconciliation.paymentPartiallyMatched", "reconciliation.matchReversed",
    "adjustment.creditNoteIssued", "adjustment.creditNoteApplied", "adjustment.refundRequested",
    "adjustment.refundCompleted", "adjustment.creditBalanceApplied", "allocation.executed",
    "allocation.reversed", "collections.caseOpened", "collections.promiseBroken"]

def eventVersion : ℕ := 1

def isEventName (value : String) : Bool := EVENT_NAMES.contains value

/-! ## Envelopes -/

structure DomainEvent where
  eventId : Uuid
  name : String
  version : JsNumber
  occurredAt : String
  aggregateId : Uuid
  correlationId : Option Uuid
  payload : JsValue

def isCamelCase : List Char → Bool
  | c :: cs => c.isLower && cs.all Char.isAlphanum
  | [] => false

/-- `/^[a-z][a-zA-Z0-9]*\.[a-z][a-zA-Z0-9]+$/`: two camel-case words with a dot between them, the
second of at least two characters. -/
def matchesEventNamePattern (name : String) : Bool :=
  let context := name.toList.takeWhile (· ≠ '.')
  match name.toList.drop context.length with
  | _ :: fact => isCamelCase context && isCamelCase fact && decide (2 ≤ fact.length)
  | [] => false

def assertUuid (value : Uuid) (field : String) : Except Thrown Unit :=
  throwIf (!isCanonicalUuid value) (.domainError "EVENT_ID_INVALID"
    s!"{field} must be a canonical UUID, got {value}" [("field", field), ("value", value)])

/-- An instant that is already a string passes as it is. -/
def normalizeOccurredAt (input : String) : Except Thrown Unit :=
  throwIf (!isIso8601 input) (.domainError "EVENT_OCCURRED_AT_INVALID"
    s!"occurredAt must be ISO-8601 (e.g. 2025-09-02T08:00:00.000Z), got {input}"
    [("occurredAt", input)])

def assertEventName (name : String) : Except Thrown Unit := do
  throwIf (!matchesEventNamePattern name) (.domainError "EVENT_NAME_MALFORMED"
    s!"event name must be '<context>.<aggregate><PastTenseVerb>' in camelCase, got {name}"
    [("name", name)])
  throwIf (!isEventName name) (.domainError "EVENT_UNKNOWN"
    s!"unknown event name \"{name}\" — see docs/04-event-catalog.md (27 core events)"
    [("name", name)])

/-! ## Payloads -/

def MAX_PAYLOAD_DEPTH : ℕ := 24

def notSerializable (path why : String) : Thrown :=
  .domainError "EVENT_PAYLOAD_NOT_SERIALIZABLE"
    (if path = "" then s!"payload: {why}" else s!"payload at \"{path}\": {why}")
    [("path", if path = "" then "(root)" else path)]

def payloadTexts : JsValue.ShapeTexts where
  maxDepth := MAX_PAYLOAD_DEPTH
  error := notSerializable
  nonFinite text := s!"non-finite number {text} would become null"
  other
    | .bigint => "bigint is not JSON-serializable — convert minor units with minorUnits()"
    | type => s!"{type} is not JSON-serializable (silently dropped on the wire)"
  instances kind := s!"{kind} instances are not serializable — use ids, ISO strings and scalars"
  undefinedMember := none

def assertMemberSerializable (value : JsValue) (path : String) (depth : ℕ) : Except Thrown Unit :=
  value.checkShape payloadTexts path depth

def assertSerializablePayload : JsValue → Except Thrown Unit
  | .null | .other .undefined => .error (DomainError "EVENT_PAYLOAD_REQUIRED"
      "payload is required — use an empty object \x7b\x7d if an event carries no fields")
  | .array _ => .error (notSerializable "" "payload must be a plain object, got array")
  | .object kind members => assertMemberSerializable (.object kind members) "" 0
  | .circular => assertMemberSerializable .circular "" 0
  | payload => .error (notSerializable "" s!"payload must be a plain object, got {payload.typeOf}")

/-! ## The gate -/

def assertCorrelationId : Option Uuid → Except Thrown Unit
  | some id => assertUuid id "correlationId"
  | none => .ok ()

def validateEnvelope (event : DomainEvent) : Except Thrown Unit := do
  assertEventName event.name
  throwIf (event.version.value ≠ some (eventVersion : ℚ)) (.domainError "EVENT_VERSION_UNSUPPORTED"
    s!"event \"{event.name}\" is at schema version {eventVersion}, got {event.version.text}"
    [("name", event.name), ("expectedVersion", toString eventVersion),
      ("actualVersion", event.version.text)])
  assertUuid event.eventId "eventId"
  assertUuid event.aggregateId "aggregateId"
  assertCorrelationId event.correlationId
  normalizeOccurredAt event.occurredAt
  assertSerializablePayload event.payload

lemma matchesEventNamePattern_of_mem {name : String} (h : name ∈ EVENT_NAMES) :
    matchesEventNamePattern name = true := by
  have hall : EVENT_NAMES.all matchesEventNamePattern = true := by decide
  exact List.all_eq_true.mp hall name h

lemma assertEventName_eq_ok {name : String} :
    assertEventName name = .ok () ↔ name ∈ EVENT_NAMES := by
  simp only [assertEventName, ok_iff, isEventName, List.contains_iff_mem, Bool.not_eq_true',
    Bool.not_eq_false]
  exact ⟨fun h => h.2, fun h => ⟨matchesEventNamePattern_of_mem h, h⟩⟩

lemma assertSerializablePayload_eq_ok {payload : JsValue} :
    assertSerializablePayload payload = .ok () ↔
      (∃ members, payload = .object none members) ∧ payload.Plain ∧
        payload.nesting ≤ MAX_PAYLOAD_DEPTH := by
  cases payload with
  | object kind members =>
    rw [assertSerializablePayload, assertMemberSerializable, JsValue.checkShape_eq_ok]
    simp only [JsValue.Plain, payloadTexts, zero_add, JsValue.object.injEq]
    constructor
    · rintro ⟨⟨rfl, hmembers⟩, hdepth⟩
      exact ⟨⟨members, rfl, rfl⟩, ⟨rfl, hmembers⟩, hdepth⟩
    · exact fun h => h.2
  | circular =>
    rw [assertSerializablePayload, assertMemberSerializable, JsValue.checkShape_eq_ok]
    simp [JsValue.Plain]
  | other type => cases type <;> simp [assertSerializablePayload]
  | _ => simp [assertSerializablePayload]

structure WellFormed (event : DomainEvent) : Prop where
  name : event.name ∈ EVENT_NAMES
  version : event.version.value = some 1
  eventId : isCanonicalUuid event.eventId = true
  aggregateId : isCanonicalUuid event.aggregateId = true
  correlationId : ∀ id ∈ event.correlationId, isCanonicalUuid id = true
  occurredAt : isIso8601 event.occurredAt = true
  payload : ∃ members, event.payload = .object none members
  plain : event.payload.Plain
  nesting : event.payload.nesting ≤ MAX_PAYLOAD_DEPTH

/-- **What the gate lets through**: exactly the envelopes that keep the wire contract. -/
theorem validateEnvelope_eq_ok {event : DomainEvent} :
    validateEnvelope event = .ok () ↔ WellFormed event := by
  have hcorrelation : assertCorrelationId event.correlationId = .ok () ↔
      ∀ id ∈ event.correlationId, isCanonicalUuid id = true := by
    cases event.correlationId <;> simp [assertCorrelationId, assertUuid, throwIf_eq_ok]
  simp only [validateEnvelope, seq_eq_ok, hcorrelation, assertEventName_eq_ok, assertUuid,
    normalizeOccurredAt, throwIf_eq_ok, assertSerializablePayload_eq_ok, eventVersion, not_not,
    Bool.not_eq_true', Bool.not_eq_false, Nat.cast_one, ne_eq]
  constructor
  · rintro ⟨hname, hversion, hid, haggregate, hcorr, hat, hobject, hplain, hdepth⟩
    exact ⟨hname, hversion, hid, haggregate, hcorr, hat, hobject, hplain, hdepth⟩
  · intro h
    exact ⟨h.name, h.version, h.eventId, h.aggregateId, h.correlationId, h.occurredAt, h.payload,
      h.plain, h.nesting⟩

end Fuatilia.Events
