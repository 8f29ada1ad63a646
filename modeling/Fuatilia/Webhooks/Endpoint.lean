import Fuatilia.Shared.Formats

/-!
# Webhook endpoints

## Main definitions

* `WebhookEndpoint` — a delivery target of an organisation: active, paused or revoked for good.
* `parseSubscriptionPattern`, `matchesSubscription` — which events are planned for it.
-/

namespace Fuatilia.Webhooks

open Fallible

/-! ## Facts -/

inductive WebhookRefusalReason where
  | endpointPaused
  | endpointRevoked
  | notSubscribed
  | payloadTooLarge

inductive SignatureRejectReason where
  | mismatch
  | staleTimestamp
  | malformed

inductive SubscriptionMode where
  | exact
  | wildcard
  deriving DecidableEq

inductive WebhookPayload where
  | endpointPaused (endpointId orgId : Uuid) (reason : String)
  | endpointResumed (endpointId orgId : Uuid)
  | endpointRevoked (endpointId orgId : Uuid) (reason : String)
  | subscriptionAdded (endpointId orgId : Uuid) (pattern : String) (mode : SubscriptionMode)
  | deliveryQueued (deliveryId endpointId orgId eventId : Uuid) (eventType : String)
  | deliverySucceeded (deliveryId endpointId orgId eventId : Uuid) (eventType : String)
      (attemptNo : ℕ)
  | deliveryFailed (deliveryId endpointId orgId eventId : Uuid) (attemptNo : ℕ)
      (failureReason : String) (willRetry : Bool) (nextAttemptAt : Option String)
  | deliveryDeadLettered (deliveryId endpointId orgId eventId : Uuid) (attempts : ℕ)
      (failureReason : String)
  | deliveryRefused (orgId endpointId eventId : Uuid) (eventType : String)
      (reason : WebhookRefusalReason) (detail : String)
  | signatureRejected (endpointId deliveryId : Uuid) (reason : SignatureRejectReason)
      (detail : String) (replay : Bool)

structure WebhookEvent where
  name : String
  version : ℕ
  aggregateId : Uuid
  payload : WebhookPayload
  occurredAt : String

def webhookNow (now : Date) : Except Thrown Date :=
  match now with
  | .invalid => .error (DomainError "WEBHOOK_CLOCK_INVALID" "clock returned an invalid Date")
  | .ofTime t => .ok (.ofTime t)

def emit (name : String) (aggregateId : Uuid) (payload : WebhookPayload) (now : Date) :
    Except Thrown WebhookEvent := do
  let date ← webhookNow now
  let occurredAt ← date.toISOString
  pure { name, version := 1, aggregateId, payload, occurredAt }

/-! ## Subscriptions -/

structure EventSubscription where
  pattern : String
  mode : SubscriptionMode
  addedAt : Date
  deriving DecidableEq

def isLowerLetter (c : Char) : Bool := 'a' ≤ c && c ≤ 'z'

def isAsciiAlphanum (c : Char) : Bool := isLowerLetter c || ('A' ≤ c && c ≤ 'Z') || c.isDigit

/-- A lower-case letter and then at least `least` letters or digits. -/
def isSegment (least : ℕ) : List Char → Bool
  | c :: cs => isLowerLetter c && cs.all isAsciiAlphanum && least ≤ cs.length
  | [] => false

/-- `EVENT_TYPE_PATTERN`: a context and a name of two characters or more, with a dot between. -/
def isEventType (eventType : String) : Bool :=
  match eventType.toList.dropWhile (· ≠ '.') with
  | '.' :: name => isSegment 0 (eventType.toList.takeWhile (· ≠ '.')) && isSegment 1 name
  | _ => false

/-- `KNOWN_EVENT_PREFIXES`: the contexts of the event catalogue. -/
def knownEventPrefixes : List String :=
  ["adjustment", "adjustments", "agent", "allocation", "behavior", "case", "collections", "comms",
    "consent", "dispute", "dunning", "fx", "intelligence", "invoicing", "ledger", "memory", "nba",
    "notifications", "payment", "paymentlink", "payments", "policy", "projections", "promise",
    "receivable", "receivables", "reconciliation", "segment"]

def malformed (detail : String) : Thrown :=
  DomainError "WEBHOOK_SUBSCRIPTION_MALFORMED"
    ("subscription pattern must be an exact event type ('payment.confirmed') or a " ++
      s!"'<knownPrefix>.*' wildcard, {detail}")

def unknownContext (context : String) : Thrown :=
  .domainError "WEBHOOK_EVENT_PREFIX_UNKNOWN"
    (s!"subscription prefix \"{context}\" is not a known event-type context " ++
      "(see docs/04-event-catalog.md)") [("prefix", context)]

def parseSubscriptionPattern (pattern : String) : Except Thrown SubscriptionMode := do
  throwIf (pattern = "") (malformed "got an empty pattern")
  match pattern.toList.splitOn '.' with
  | [head, tail] =>
    let context := String.ofList head
    let name := String.ofList tail
    throwIf (!isSegment 0 head) (malformed s!"prefix \"{context}\" is not a lowerCamelCase context")
    throwIf (tail ≠ ['*'] ∧ !isSegment 0 tail)
      (malformed s!"tail \"{name}\" is not a lowerCamelCase event name")
    throwIf (context ∉ knownEventPrefixes) (unknownContext context)
    pure (if tail = ['*'] then .wildcard else .exact)
  | segments => throw (malformed s!"got {segments.length} dot-separated segment(s)")

/-- An exact pattern is the event type; a wildcard stands for every name of its context. -/
def matchesSubscription (pattern eventType : String) : Bool :=
  if !isEventType eventType then false
  else if endsWith pattern ".*" then
    pattern.toList.take (pattern.toList.length - 2) = eventType.toList.takeWhile (· ≠ '.')
  else pattern = eventType

/-! ## Endpoints -/

inductive EndpointStatus where
  | active
  | paused
  | revoked
  deriving DecidableEq

def EndpointStatus.text : EndpointStatus → String
  | .active => "active"
  | .paused => "paused"
  | .revoked => "revoked"

instance : ToString EndpointStatus := ⟨EndpointStatus.text⟩

structure WebhookEndpoint where
  endpointId : Uuid
  orgId : Uuid
  url : String
  label : String
  description : Option String
  status : EndpointStatus
  secretRef : String
  subscriptions : List EventSubscription
  createdAt : Date
  pausedAt : Option Date
  resumedAt : Option Date
  revokedAt : Option Date
  deriving DecidableEq

def endpointSubscribedTo (endpoint : WebhookEndpoint) (eventType : String) : Bool :=
  endpoint.subscriptions.any fun s => matchesSubscription s.pattern eventType

def requireReason (reason op : String) : Except Thrown String := do
  let why := trim reason
  throwIf (why = "") (DomainError "WEBHOOK_REASON_REQUIRED"
    s!"a {op} transition requires an explicit reason (R3)")
  pure why

structure EndpointTransitionResult where
  endpoint : WebhookEndpoint
  event : WebhookEvent

def pauseEndpoint (endpoint : WebhookEndpoint) (reason : String) (clock : Clock) :
    Except Thrown EndpointTransitionResult := do
  throwIf (endpoint.status ≠ .active) (DomainError "WEBHOOK_TRANSITION_INVALID"
    s!"cannot pause a {endpoint.status} endpoint; only active endpoints pause")
  let why ← requireReason reason "pause"
  let pausedAt ← webhookNow (clock.now 0)
  let event ← emit "webhook.endpointPaused" endpoint.endpointId
    (.endpointPaused endpoint.endpointId endpoint.orgId why) (clock.now 1)
  pure { endpoint := { endpoint with status := .paused, pausedAt := some pausedAt }, event }

def resumeEndpoint (endpoint : WebhookEndpoint) (clock : Clock) :
    Except Thrown EndpointTransitionResult := do
  throwIf (endpoint.status ≠ .paused) (DomainError "WEBHOOK_TRANSITION_INVALID"
    s!"cannot resume a {endpoint.status} endpoint; only paused endpoints resume")
  let resumedAt ← webhookNow (clock.now 0)
  let event ← emit "webhook.endpointResumed" endpoint.endpointId
    (.endpointResumed endpoint.endpointId endpoint.orgId) (clock.now 1)
  pure { endpoint := { endpoint with status := .active, resumedAt := some resumedAt }, event }

def revokeEndpoint (endpoint : WebhookEndpoint) (reason : String) (clock : Clock) :
    Except Thrown EndpointTransitionResult := do
  throwIf (endpoint.status = .revoked) (DomainError "WEBHOOK_TRANSITION_INVALID"
    "endpoint is revoked — revoked is terminal")
  let why ← requireReason reason "revoke"
  let revokedAt ← webhookNow (clock.now 0)
  let event ← emit "webhook.endpointRevoked" endpoint.endpointId
    (.endpointRevoked endpoint.endpointId endpoint.orgId why) (clock.now 1)
  pure { endpoint := { endpoint with status := .revoked, revokedAt := some revokedAt }, event }

/-- Append a subscription; a pattern that is already there changes nothing and has no fact. -/
def addSubscription (endpoint : WebhookEndpoint) (pattern : String) (clock : Clock) :
    Except Thrown (WebhookEndpoint × Option WebhookEvent) := do
  let mode ← parseSubscriptionPattern pattern
  if endpoint.subscriptions.any fun s => s.pattern = pattern then
    pure (endpoint, none)
  else
    let addedAt ← webhookNow (clock.now 0)
    let event ← emit "webhook.subscriptionAdded" endpoint.endpointId
      (.subscriptionAdded endpoint.endpointId endpoint.orgId pattern mode) (clock.now 1)
    pure ({ endpoint with subscriptions := endpoint.subscriptions ++ [⟨pattern, mode, addedAt⟩] },
      some event)

/-! ## What the commands do to the status -/

section Commands

variable {endpoint : WebhookEndpoint} {result : EndpointTransitionResult} {clock : Clock}

lemma pauseEndpoint_eq_ok {reason : String}
    (h : pauseEndpoint endpoint reason clock = .ok result) :
    endpoint.status = .active ∧ result.endpoint.status = .paused := by
  simp only [pauseEndpoint, ok_iff] at h
  obtain ⟨hactive, _, -, _, -, _, -, rfl⟩ := h
  exact ⟨not_not.mp hactive, rfl⟩

lemma resumeEndpoint_eq_ok (h : resumeEndpoint endpoint clock = .ok result) :
    endpoint.status = .paused ∧ result.endpoint.status = .active := by
  simp only [resumeEndpoint, ok_iff] at h
  obtain ⟨hpaused, _, -, _, -, rfl⟩ := h
  exact ⟨not_not.mp hpaused, rfl⟩

lemma revokeEndpoint_eq_ok {reason : String}
    (h : revokeEndpoint endpoint reason clock = .ok result) :
    endpoint.status ≠ .revoked ∧ result.endpoint.status = .revoked := by
  simp only [revokeEndpoint, ok_iff] at h
  obtain ⟨hrevoked, _, -, _, -, _, -, rfl⟩ := h
  exact ⟨hrevoked, rfl⟩

lemma addSubscription_eq_ok {pattern : String} {after : WebhookEndpoint × Option WebhookEvent}
    (h : addSubscription endpoint pattern clock = .ok after) :
    after.1.status = endpoint.status := by
  simp only [addSubscription, bind_eq_ok] at h
  obtain ⟨mode, -, h⟩ := h
  split at h
  · rw [pure_eq_ok] at h
    rw [h]
  · simp only [ok_iff] at h
    obtain ⟨_, -, _, -, rfl⟩ := h
    rfl

end Commands

end Fuatilia.Webhooks
