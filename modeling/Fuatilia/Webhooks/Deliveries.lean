import Fuatilia.Foundations.Json
import Fuatilia.Webhooks.Endpoint

/-!
# Webhook deliveries

The payload of an event is the JSON value that `JSON.stringify` sees, or nothing when it is
undefined.

## Main definitions

* `planDelivery`, `enqueueDelivery` — from an event and an endpoint to a delivery.
* `beginAttempt`, `recordAttemptOutcome` — until an attempt succeeds or the retries are spent.

## Main results

* `Webhooks.planDelivery_eq_planned` — only an active endpoint is planned for.
* `Webhooks.recordAttemptOutcome_eq_ok` — the three things an outcome can do.
-/

namespace Fuatilia.Webhooks

open Fallible

/-! ## The ladder of retries -/

def retryLadderInvalid (message : String) : Thrown :=
  DomainError "WEBHOOK_RETRY_LADDER_INVALID" message

def assertStep (x : JsNumber) : Except Thrown ℤ :=
  match x.safeInteger.filter fun n => 0 < n with
  | some n => .ok n
  | none => .error (retryLadderInvalid
      s!"retry backoff steps must be positive safe integers of milliseconds, got {x.text}")

def assertAscending : List ℤ → Except Thrown Unit
  | a :: b :: rest => do
    throwIf (b ≤ a) (retryLadderInvalid
      "retry backoff steps must be strictly ascending (deterministic exponential backoff)")
    assertAscending (b :: rest)
  | _ => pure ()

def assertRetryLadder (ladder : List JsNumber) : Except Thrown (List ℤ) := do
  throwIf (ladder = []) (retryLadderInvalid "a retry ladder requires at least one backoff step")
  let steps ← ladder.mapM assertStep
  assertAscending steps
  pure steps

/-! ## Planning -/

structure OutboundEvent where
  eventId : Uuid
  eventType : String
  payload : Option Json.Value

structure DeliveryPlan where
  endpointId : Uuid
  orgId : Uuid
  eventId : Uuid
  eventType : String
  canonicalPayload : String
  plannedAt : Date

inductive PlanDeliveryResult where
  | planned (plan : DeliveryPlan)
  | refused (reason : WebhookRefusalReason) (detail : String) (event : WebhookEvent)

/-- The envelope that is signed and sent, its members in this order; `JSON.stringify` leaves out an
undefined payload. -/
def canonicalEnvelope (event : OutboundEvent) (orgId : Uuid) (occurredAt : String) : String :=
  let text := fun s : String => Json.Value.string s.toList
  String.ofList (Json.print (.object (
    [("name".toList, text event.eventType), ("version".toList, .number ⟨['1'], by decide⟩),
      ("aggregateId".toList, text event.eventId), ("orgId".toList, text orgId),
      ("occurredAt".toList, text occurredAt)] ++
    (event.payload.map fun payload => ("payload".toList, payload)).toList)))

def maxPayloadDefault : JsNumber := ⟨some 65536, "65536"⟩

/-- `length > cap`, for any number the caller may supply. -/
def exceeds (length : ℕ) (cap : JsNumber) : Bool :=
  match cap.value with
  | some q => q < length
  | none => cap.text = "-Infinity"

/-- The local `refuse` of `planDelivery`: the refusal is a value, with the fact of it. -/
def refusePlan (event : OutboundEvent) (endpoint : WebhookEndpoint) (reason : WebhookRefusalReason)
    (detail : String) (now : Date) : Except Thrown PlanDeliveryResult := do
  let fact ← emit "webhook.deliveryRefused" endpoint.endpointId
    (.deliveryRefused endpoint.orgId endpoint.endpointId event.eventId event.eventType reason
      detail)
    now
  pure (.refused reason detail fact)

def planWithinCap (event : OutboundEvent) (endpoint : WebhookEndpoint) (clock : Clock)
    (cap : JsNumber) : Except Thrown PlanDeliveryResult := do
  let plannedAt ← webhookNow (clock.now 0)
  let occurredAt ← plannedAt.toISOString
  let canonicalPayload := canonicalEnvelope event endpoint.orgId occurredAt
  let length := (codeUnits canonicalPayload).length
  if exceeds length cap then
    refusePlan event endpoint .payloadTooLarge
      s!"canonical payload is {length} chars, over the {cap.text} cap" (clock.now 1)
  else
    pure (.planned
      { endpointId := endpoint.endpointId, orgId := endpoint.orgId, eventId := event.eventId,
        eventType := event.eventType, canonicalPayload, plannedAt })

def planDelivery (event : OutboundEvent) (endpoint : WebhookEndpoint) (clock : Clock)
    (maxPayloadBytes : Option JsNumber) : Except Thrown PlanDeliveryResult := do
  throwIf (event.eventId = "" ∨ event.eventType = "" ∨ event.payload.isNone)
    (DomainError "WEBHOOK_EVENT_MALFORMED"
      "planning requires an eventId, an eventType and a defined payload")
  if endpoint.status = .revoked then
    refusePlan event endpoint .endpointRevoked
      s!"endpoint {endpoint.endpointId} is revoked — revoked endpoints never plan deliveries"
      (clock.now 0)
  else if endpoint.status = .paused then
    refusePlan event endpoint .endpointPaused
      s!"endpoint {endpoint.endpointId} is paused — resume it to plan deliveries" (clock.now 0)
  else if !endpointSubscribedTo endpoint event.eventType then
    refusePlan event endpoint .notSubscribed
      s!"endpoint {endpoint.endpointId} has no subscription matching '{event.eventType}'"
      (clock.now 0)
  else planWithinCap event endpoint clock (maxPayloadBytes.getD maxPayloadDefault)

/-! ## The delivery -/

inductive DeliveryStatus where
  | queued
  | delivering
  | delivered
  | deadLettered
  deriving DecidableEq

def DeliveryStatus.text : DeliveryStatus → String
  | .queued => "queued"
  | .delivering => "delivering"
  | .delivered => "delivered"
  | .deadLettered => "deadLettered"

instance : ToString DeliveryStatus := ⟨DeliveryStatus.text⟩

inductive Outcome where
  | success
  | failure
  deriving DecidableEq

structure AttemptRecord where
  attemptNo : ℕ
  date : Date
  outcome : Outcome
  failureReason : Option String

structure Delivery where
  deliveryId : Uuid
  endpointId : Uuid
  orgId : Uuid
  eventId : Uuid
  eventType : String
  status : DeliveryStatus
  attempts : ℕ
  nextAttemptAt : Option Date
  deliveredAt : Option Date
  deadLetteredAt : Option Date
  lastFailureReason : Option String
  attemptLog : List AttemptRecord

def isTerminalDelivery (delivery : Delivery) : Bool :=
  delivery.status = .delivered ∨ delivery.status = .deadLettered

def isActiveFor (endpointId eventId : Uuid) (delivery : Delivery) : Bool :=
  !isTerminalDelivery delivery ∧ delivery.endpointId = endpointId ∧ delivery.eventId = eventId

def assertNoActiveDuplicate (existing : List Delivery) (plan : DeliveryPlan) : Except Thrown Unit :=
  match existing.find? (isActiveFor plan.endpointId plan.eventId) with
  | some d => .error (.domainError "WEBHOOK_DELIVERY_DUPLICATE"
      (s!"delivery {d.deliveryId} is already {d.status} for event {plan.eventId} " ++
        "on this endpoint — the queue never double-sends")
      [("endpointId", plan.endpointId), ("eventId", plan.eventId)])
  | none => .ok ()

def enqueueDelivery (existing : List Delivery) (plan : DeliveryPlan) (deliveryId : Uuid)
    (clock : Clock) : Except Thrown (Delivery × WebhookEvent) := do
  throwIf (deliveryId ∈ existing.map Delivery.deliveryId) (.domainError "WEBHOOK_DELIVERY_ID_TAKEN"
    s!"delivery {deliveryId} already exists" [("deliveryId", deliveryId)])
  assertNoActiveDuplicate existing plan
  let queuedAt ← webhookNow (clock.now 0)
  let event ← emit "webhook.deliveryQueued" deliveryId
    (.deliveryQueued deliveryId plan.endpointId plan.orgId plan.eventId plan.eventType)
    (clock.now 1)
  pure ({ deliveryId, endpointId := plan.endpointId, orgId := plan.orgId, eventId := plan.eventId,
          eventType := plan.eventType, status := .queued, attempts := 0,
          nextAttemptAt := some queuedAt, deliveredAt := none, deadLetteredAt := none,
          lastFailureReason := none, attemptLog := [] }, event)

def beginAttempt (delivery : Delivery) (clock : Clock) : Except Thrown Delivery := do
  throwIf (delivery.status ≠ .queued) (.domainError "WEBHOOK_DELIVERY_NOT_QUEUED"
    s!"delivery {delivery.deliveryId} is {delivery.status} — attempts begin only from queued"
    [("deliveryId", delivery.deliveryId), ("status", delivery.status.text)])
  let _ ← webhookNow (clock.now 0)
  pure { delivery with status := .delivering }

inductive AttemptOutcome where
  | success
  | failure (reason : String)

/-- A success has its one fact under `event`, a failure its one or two under `events`; a success is
reported as not `terminal`. -/
structure AttemptResult where
  delivery : Delivery
  terminal : Bool
  events : List WebhookEvent

def recordSuccess (delivery : Delivery) (date : Date) (clock : Clock) :
    Except Thrown AttemptResult := do
  let attemptNo := delivery.attempts + 1
  let event ← emit "webhook.deliverySucceeded" delivery.deliveryId
    (.deliverySucceeded delivery.deliveryId delivery.endpointId delivery.orgId delivery.eventId
      delivery.eventType attemptNo) (clock.now 1)
  pure { delivery := { delivery with
           status := .delivered, attempts := attemptNo, nextAttemptAt := none,
           deliveredAt := some date,
           attemptLog := delivery.attemptLog ++ [⟨attemptNo, date, .success, none⟩] }
         terminal := false
         events := [event] }

def afterBackoff (date : Date) (backoffMs : ℤ) : Date :=
  match date with
  | .ofTime t => Date.ofMs (t + backoffMs)
  | .invalid => .invalid

/-- An attempt that failed: a retry while the ladder has a delay for it, else the end. -/
def recordFailure (delivery : Delivery) (reason : String) (steps : List ℤ) (date : Date)
    (clock : Clock) : Except Thrown AttemptResult := do
  let attemptNo := delivery.attempts + 1
  let logged : AttemptRecord := ⟨attemptNo, date, .failure, some reason⟩
  let base : Delivery :=
    { delivery with attempts := attemptNo, lastFailureReason := some reason,
                    attemptLog := delivery.attemptLog ++ [logged] }
  if attemptNo ≤ steps.length then
    let nextAttemptAt := afterBackoff date (steps.getD (attemptNo - 1) 0)
    let nextText ← nextAttemptAt.toISOString
    let event ← emit "webhook.deliveryFailed" delivery.deliveryId
      (.deliveryFailed delivery.deliveryId delivery.endpointId delivery.orgId delivery.eventId
        attemptNo reason true (some nextText)) (clock.now 1)
    pure { delivery := { base with status := .queued, nextAttemptAt := some nextAttemptAt }
           terminal := false
           events := [event] }
  else
    let failed ← emit "webhook.deliveryFailed" delivery.deliveryId
      (.deliveryFailed delivery.deliveryId delivery.endpointId delivery.orgId delivery.eventId
        attemptNo reason false none) (clock.now 1)
    let dead ← emit "webhook.deliveryDeadLettered" delivery.deliveryId
      (.deliveryDeadLettered delivery.deliveryId delivery.endpointId delivery.orgId delivery.eventId
        attemptNo reason) (clock.now 2)
    pure { delivery := { base with
             status := .deadLettered, nextAttemptAt := none, deadLetteredAt := some date }
           terminal := true
           events := [failed, dead] }

def recordAttemptOutcome (delivery : Delivery) (result : AttemptOutcome) (ladder : List JsNumber)
    (clock : Clock) : Except Thrown AttemptResult := do
  let steps ← assertRetryLadder ladder
  throwIf (delivery.status ≠ .delivering) (.domainError "WEBHOOK_DELIVERY_NOT_DELIVERING"
    (s!"delivery {delivery.deliveryId} is {delivery.status} — " ++
      "outcomes record only against a delivering attempt")
    [("deliveryId", delivery.deliveryId), ("status", delivery.status.text)])
  let date ← webhookNow (clock.now 0)
  match result with
  | .success => recordSuccess delivery date clock
  | .failure raw =>
    let reason := trim raw
    throwIf (reason = "") (DomainError "WEBHOOK_FAILURE_REASON_REQUIRED"
      "a failed attempt requires a non-blank failure reason (audit)")
    recordFailure delivery reason steps date clock

/-! ## What the commands do -/

variable {ladder : List JsNumber} {steps : List ℤ} {date : Date} {result : AttemptResult}

lemma length_of_assertRetryLadder
    (h : assertRetryLadder ladder = .ok steps) : steps.length = ladder.length := by
  simp only [assertRetryLadder, ok_iff] at h
  obtain ⟨-, mapped, hmapped, _, -, rfl⟩ := h
  exact (mapM_eq_ok.mp hmapped).length_eq.symm

variable {endpoint : WebhookEndpoint} {event : OutboundEvent} {plan : DeliveryPlan} {clock : Clock}
  {delivery : Delivery}

lemma refusePlan_ne_planned {reason : WebhookRefusalReason} {detail : String} {now : Date} :
    refusePlan event endpoint reason detail now ≠ .ok (.planned plan) := by
  intro h
  simp only [refusePlan, ok_iff] at h
  obtain ⟨fact, -, h⟩ := h
  cases h

lemma planWithinCap_eq_planned {cap : JsNumber}
    (h : planWithinCap event endpoint clock cap = .ok (.planned plan)) :
    plan.endpointId = endpoint.endpointId := by
  simp only [planWithinCap, bind_eq_ok] at h
  obtain ⟨plannedAt, -, occurredAt, -, h⟩ := h
  split at h
  · exact absurd h refusePlan_ne_planned
  · rw [pure_eq_ok] at h
    cases h
    rfl

lemma planDelivery_eq_planned {maxPayloadBytes : Option JsNumber}
    (h : planDelivery event endpoint clock maxPayloadBytes = .ok (.planned plan)) :
    endpoint.status = .active ∧ plan.endpointId = endpoint.endpointId := by
  rw [planDelivery, bind_eq_ok] at h
  obtain ⟨_, -, h⟩ := h
  by_cases hrevoked : endpoint.status = .revoked
  · rw [if_pos hrevoked] at h
    exact absurd h refusePlan_ne_planned
  rw [if_neg hrevoked] at h
  by_cases hpaused : endpoint.status = .paused
  · rw [if_pos hpaused] at h
    exact absurd h refusePlan_ne_planned
  rw [if_neg hpaused] at h
  constructor
  · cases hstatus : endpoint.status with
    | active => rfl
    | paused => exact absurd hstatus hpaused
    | revoked => exact absurd hstatus hrevoked
  · split at h
    · exact absurd h refusePlan_ne_planned
    · exact planWithinCap_eq_planned h

structure Enqueued (plan : DeliveryPlan) (deliveryId : Uuid) (delivery : Delivery) : Prop where
  deliveryId_eq : delivery.deliveryId = deliveryId
  endpointId_eq : delivery.endpointId = plan.endpointId
  eventId_eq : delivery.eventId = plan.eventId
  status_eq : delivery.status = .queued
  attempts_eq : delivery.attempts = 0
  attemptLog_eq : delivery.attemptLog = []

lemma enqueueDelivery_eq_ok {existing : List Delivery} {deliveryId : Uuid}
    {result : Delivery × WebhookEvent}
    (h : enqueueDelivery existing plan deliveryId clock = .ok result) :
    deliveryId ∉ existing.map Delivery.deliveryId ∧
      (∀ d ∈ existing, ¬ isActiveFor plan.endpointId plan.eventId d) ∧
      Enqueued plan deliveryId result.1 := by
  simp only [enqueueDelivery, assertNoActiveDuplicate, ok_iff] at h
  obtain ⟨hfresh, _, hnone, _, -, _, -, rfl⟩ := h
  refine ⟨hfresh, ?_, ⟨rfl, rfl, rfl, rfl, rfl, rfl⟩⟩
  split at hnone
  · cases hnone
  · rename_i hfind
    simpa using List.find?_eq_none.mp hfind

lemma beginAttempt_eq_ok {after : Delivery} (h : beginAttempt delivery clock = .ok after) :
    delivery.status = .queued ∧ after = { delivery with status := .delivering } := by
  simp only [beginAttempt, ok_iff] at h
  obtain ⟨hqueued, _, -, rfl⟩ := h
  exact ⟨not_not.mp hqueued, rfl⟩

structure Logged (delivery : Delivery) (outcome : Outcome) (after : Delivery) : Prop where
  deliveryId_eq : after.deliveryId = delivery.deliveryId
  endpointId_eq : after.endpointId = delivery.endpointId
  eventId_eq : after.eventId = delivery.eventId
  attempts_eq : after.attempts = delivery.attempts + 1
  attemptLog_eq : ∃ date reason, after.attemptLog =
    delivery.attemptLog ++ [⟨delivery.attempts + 1, date, outcome, reason⟩]

/-- What an outcome can do to a delivery under a ladder of `n` delays. -/
inductive Attempted (n : ℕ) (delivery after : Delivery) : Prop
  | delivered (hlog : Logged delivery .success after) (hstatus : after.status = .delivered)
  | retried (hlog : Logged delivery .failure after) (hleft : delivery.attempts + 1 ≤ n)
      (hstatus : after.status = .queued)
  | deadLettered (hlog : Logged delivery .failure after) (hspent : n < delivery.attempts + 1)
      (hstatus : after.status = .deadLettered)

lemma recordSuccess_attempted {n : ℕ} (h : recordSuccess delivery date clock = .ok result) :
    Attempted n delivery result.delivery := by
  simp only [recordSuccess, ok_iff] at h
  obtain ⟨event, -, rfl⟩ := h
  exact .delivered ⟨rfl, rfl, rfl, rfl, date, none, rfl⟩ rfl

lemma recordFailure_attempted {reason : String}
    (h : recordFailure delivery reason steps date clock = .ok result) :
    Attempted steps.length delivery result.delivery := by
  simp only [recordFailure] at h
  split at h
  case isTrue hleft =>
    simp only [ok_iff] at h
    obtain ⟨_, -, _, -, rfl⟩ := h
    exact .retried ⟨rfl, rfl, rfl, rfl, date, some reason, rfl⟩ hleft rfl
  case isFalse hspent =>
    simp only [ok_iff] at h
    obtain ⟨_, -, _, -, rfl⟩ := h
    exact .deadLettered ⟨rfl, rfl, rfl, rfl, date, some reason, rfl⟩ (not_le.mp hspent) rfl

lemma recordAttemptOutcome_eq_ok {outcome : AttemptOutcome}
    (h : recordAttemptOutcome delivery outcome ladder clock = .ok result) :
    delivery.status = .delivering ∧ Attempted ladder.length delivery result.delivery := by
  simp only [recordAttemptOutcome, ok_iff] at h
  obtain ⟨steps, hsteps, hdelivering, date, -, h⟩ := h
  refine ⟨not_not.mp hdelivering, ?_⟩
  rw [← length_of_assertRetryLadder hsteps]
  cases outcome with
  | success => exact recordSuccess_attempted h
  | failure raw =>
    simp only [ok_iff] at h
    exact recordFailure_attempted h.2

end Fuatilia.Webhooks
