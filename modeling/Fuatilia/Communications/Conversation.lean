import Fuatilia.Shared.Primitives

/-!
# Conversations

One thread of messages with a customer, and a trail of consent facts that is only extended.

## Main definitions

* `Conversation`, `startConversation`, `queueOutboundMessage` — the thread.
* `latestConsentFact` — the current fact of a reference, found by the ISO texts of the stamps.
* `appendConsentGranted`, `appendConsentRevoked` — what extends the trail.
-/

namespace Fuatilia.Communications

open Fallible

/-! ## Events -/

inductive CommsPayload where
  | conversationStarted (conversationId orgId customerId : Uuid) (channel : String)
  | messageSent (conversationId messageId : Uuid) (channel : String) (attemptNo : ℕ)
      (providerRef : String) (templateId : Option Uuid) (templateVersion : Option ℕ)
  | messageDelivered (conversationId messageId : Uuid) (attemptNo : ℕ) (providerRef : String)
  | messageRead (conversationId messageId : Uuid)
  | messageFailed (conversationId messageId : Uuid) (attemptNo : ℕ) (failureReason : String)
      (willRetry : Bool) (retryAt : Option String)
  | messageDeadLettered (conversationId messageId : Uuid) (attempts : ℕ) (failureReason : String)
  | sendBlockedNoConsent (conversationId : Uuid) (channel : String) (consentRef : Option Uuid)
      (reason detail : String)
  | inboundReceived (conversationId messageId : Uuid) (channel : String)

structure CommsEvent where
  name : String
  version : ℕ
  aggregateId : Uuid
  payload : CommsPayload
  occurredAt : String

def emit (name : String) (aggregateId : Uuid) (payload : CommsPayload) (now : Date) :
    Except Thrown CommsEvent := do
  let occurredAt ← now.toISOString
  return ⟨name, 1, aggregateId, payload, occurredAt⟩

lemma exists_emit (name : String) (aggregateId : Uuid) (payload : CommsPayload) {now : Date}
    (h : now ≠ .invalid) : ∃ event, emit name aggregateId payload now = .ok event := by
  obtain ⟨iso, hiso⟩ := Date.exists_toISOString.mpr h
  exact ⟨_, bind_eq_ok.mpr ⟨iso, hiso, rfl⟩⟩

/-! ## The aggregate -/

inductive CommsChannel where
  | whatsapp | sms | email
  deriving DecidableEq

instance : ToString CommsChannel where
  toString
    | .whatsapp => "whatsapp"
    | .sms => "sms"
    | .email => "email"

def assertCommsChannel (channel : String) : Except Thrown CommsChannel :=
  match channel with
  | "whatsapp" => .ok .whatsapp
  | "sms" => .ok .sms
  | "email" => .ok .email
  | _ => .error (.domainError "COMMS_CHANNEL_INVALID" s!"unknown communications channel: {channel}"
      [("channel", channel), ("allowed", "whatsapp,sms,email")])

inductive MessageDirection where
  | inbound | outbound
  deriving DecidableEq

inductive MessageStatus where
  | queued | sent | delivered | failed | read | deadLettered
  deriving DecidableEq

instance : ToString MessageStatus where
  toString
    | .queued => "queued"
    | .sent => "sent"
    | .delivered => "delivered"
    | .failed => "failed"
    | .read => "read"
    | .deadLettered => "deadLettered"

inductive DeliveryStatus where
  | queued | sent | delivered | failed | read
  deriving DecidableEq

structure DeliveryAttempt where
  attemptNo : ℕ
  providerRef : String
  status : DeliveryStatus
  failureReason : Option String
  attemptedAt : String
  deriving DecidableEq

structure TemplateRef where
  templateId : Uuid
  version : ℕ
  deriving DecidableEq

structure MessageLinkage where
  customerId : Uuid
  caseId : Option Uuid
  promiseId : Option Uuid
  invoiceId : Option Uuid
  deriving DecidableEq

structure Message where
  id : Uuid
  conversationId : Uuid
  direction : MessageDirection
  bodyRef : String
  templateRef : Option TemplateRef
  linkage : MessageLinkage
  consentRef : Option Uuid
  sentAt : Option Date
  status : MessageStatus
  attempts : List DeliveryAttempt
  deriving DecidableEq

inductive FactType where
  | consentGranted | consentRevoked
  deriving DecidableEq

structure ConversationFact where
  type : FactType
  consentRef : Uuid
  stamp : String

structure Conversation where
  id : Uuid
  orgId : Uuid
  customerId : Uuid
  channel : CommsChannel
  startedAt : Date
  messages : List Message
  facts : List ConversationFact

/-! ## The thread -/

structure StartConversationArgs where
  id : Uuid
  orgId : Uuid
  customerId : Uuid
  channel : String

structure ConversationStarted where
  conversation : Conversation
  event : CommsEvent

def refuseDuplicate (args : StartConversationArgs) (channel : CommsChannel) :
    Option Conversation → Except Thrown Unit
  | none => .ok ()
  | some duplicate => .error (.domainError "COMMS_CONVERSATION_EXISTS"
      (s!"a {channel} conversation for customer {args.customerId} in org {args.orgId} " ++
        "already exists")
      [("conversationId", duplicate.id)])

def startConversation (args : StartConversationArgs) (existing : List Conversation)
    (clock : Clock) : Except Thrown ConversationStarted := do
  let channel ← assertCommsChannel args.channel
  let startedAt := clock.now 0
  throwIf (startedAt = .invalid)
    (DomainError "COMMS_CLOCK_INVALID" "clock returned an invalid Date")
  refuseDuplicate args channel (existing.find? fun c =>
    c.orgId = args.orgId && c.customerId = args.customerId && c.channel = channel)
  let event ← emit "comms.conversationStarted" args.id
    (.conversationStarted args.id args.orgId args.customerId (toString channel)) (clock.now 1)
  return ⟨⟨args.id, args.orgId, args.customerId, channel, startedAt, [], []⟩, event⟩

structure OutboundMessageInput where
  id : Uuid
  bodyRef : String
  templateRef : Option TemplateRef
  linkage : MessageLinkage
  consentRef : Option Uuid

structure InboundMessageInput where
  id : Uuid
  bodyRef : String
  linkage : MessageLinkage

def assertMessageInput (conversation : Conversation) (id : Uuid) (bodyRef : String) :
    Except Thrown Unit := do
  throwIf (trim bodyRef = "") (DomainError "COMMS_BODY_REF_REQUIRED" "a message requires a bodyRef")
  throwIf (conversation.messages.any (·.id = id)) (.domainError "COMMS_MESSAGE_ID_TAKEN"
    s!"message id already in conversation: {id}"
    [("messageId", id), ("conversationId", conversation.id)])

def assertLinkageCustomer (conversation : Conversation) (linkage : MessageLinkage) :
    Except Thrown Unit :=
  throwIf (linkage.customerId ≠ conversation.customerId)
    (.domainError "COMMS_MESSAGE_CUSTOMER_MISMATCH"
      (s!"message linkage customer {linkage.customerId} does not match conversation customer " ++
        conversation.customerId)
      [("customerId", linkage.customerId), ("conversationCustomerId", conversation.customerId)])

structure MessageQueued where
  conversation : Conversation
  message : Message

def queueOutboundMessage (conversation : Conversation) (input : OutboundMessageInput) :
    Except Thrown MessageQueued := do
  assertMessageInput conversation input.id input.bodyRef
  let message : Message := ⟨input.id, conversation.id, .outbound, input.bodyRef, input.templateRef,
    input.linkage, input.consentRef, none, .queued, []⟩
  return ⟨{ conversation with messages := conversation.messages ++ [message] }, message⟩

structure InboundAppended where
  conversation : Conversation
  message : Message
  event : CommsEvent

def appendInboundMessage (conversation : Conversation) (input : InboundMessageInput)
    (clock : Clock) : Except Thrown InboundAppended := do
  assertMessageInput conversation input.id input.bodyRef
  assertLinkageCustomer conversation input.linkage
  let message : Message := ⟨input.id, conversation.id, .inbound, input.bodyRef, none, input.linkage,
    none, some (clock.now 0), .delivered, []⟩
  let event ← emit "comms.inboundReceived" message.id
    (.inboundReceived conversation.id message.id (toString conversation.channel)) (clock.now 1)
  return ⟨{ conversation with messages := conversation.messages ++ [message] }, message, event⟩

def replaceMessage (message : Message) : List Message → List Message
  | [] => []
  | m :: messages => if m.id = message.id then message :: messages
      else m :: replaceMessage message messages

def withMessage (conversation : Conversation) (message : Message) : Except Thrown Conversation := do
  throwIf (¬ conversation.messages.any (·.id = message.id))
    (.domainError "COMMS_MESSAGE_NOT_IN_CONVERSATION"
      s!"message {message.id} does not belong to conversation {conversation.id}"
      [("messageId", message.id), ("conversationId", conversation.id)])
  return { conversation with messages := replaceMessage message conversation.messages }

/-! ## The consent trail -/

/-- One round of the search for the latest fact of a reference: a fact that is not older than the
best so far takes its place. -/
def newerFact (consentRef : Uuid) (best : Option ConversationFact) (fact : ConversationFact) :
    Option ConversationFact :=
  if fact.consentRef = consentRef ∧
      ∀ current ∈ best, ¬ codeUnits fact.stamp < codeUnits current.stamp then some fact else best

def latestConsentFact (conversation : Conversation) (consentRef : Uuid) : Option ConversationFact :=
  conversation.facts.foldl (newerFact consentRef) none

def appendConsentGranted (conversation : Conversation) (consentRef : Uuid) (clock : Clock) :
    Except Thrown Conversation := do
  throwIf ((latestConsentFact conversation consentRef).map (·.type) = some .consentGranted)
    (.domainError "COMMS_CONSENT_ALREADY_GRANTED"
      s!"consent {consentRef} is already granted on conversation {conversation.id}"
      [("consentRef", consentRef), ("conversationId", conversation.id)])
  let stamp ← (clock.now 0).toISOString
  return { conversation with facts := conversation.facts ++ [⟨.consentGranted, consentRef, stamp⟩] }

def assertRevocable (conversation : Conversation) (consentRef : Uuid) :
    Option ConversationFact → Except Thrown Unit
  | none => .error (.domainError "COMMS_CONSENT_REVOCATION_UNGRANTED"
      s!"cannot revoke consent {consentRef}: never granted on conversation {conversation.id}"
      [("consentRef", consentRef), ("conversationId", conversation.id)])
  | some current =>
    throwIf (current.type = .consentRevoked) (.domainError "COMMS_CONSENT_NOT_ACTIVE"
      s!"consent {consentRef} is already revoked on conversation {conversation.id}"
      [("consentRef", consentRef), ("conversationId", conversation.id),
        ("revokedAt", current.stamp)])

def appendConsentRevoked (conversation : Conversation) (consentRef : Uuid) (clock : Clock) :
    Except Thrown Conversation := do
  assertRevocable conversation consentRef (latestConsentFact conversation consentRef)
  let stamp ← (clock.now 0).toISOString
  return { conversation with facts := conversation.facts ++ [⟨.consentRevoked, consentRef, stamp⟩] }

/-! ## What an accepted operation did -/

variable {clock : Clock} {c c' : Conversation}

lemma startConversation_eq_ok {args : StartConversationArgs} {existing : List Conversation}
    {started : ConversationStarted} (h : startConversation args existing clock = .ok started) :
    started.conversation.messages = [] ∧ started.conversation.facts = [] := by
  simp only [startConversation, ok_iff] at h
  obtain ⟨_, -, -, _, -, _, -, rfl⟩ := h
  exact ⟨rfl, rfl⟩

lemma appendConsentGranted_eq_ok {ref : Uuid} :
    appendConsentGranted c ref clock = .ok c' ↔
      (latestConsentFact c ref).map (·.type) ≠ some .consentGranted ∧
        ∃ stamp, (clock.now 0).toISOString = .ok stamp ∧
          c' = { c with facts := c.facts ++ [⟨.consentGranted, ref, stamp⟩] } := by
  simp only [appendConsentGranted, ok_iff, ne_eq]

lemma appendConsentRevoked_eq_ok {ref : Uuid} :
    appendConsentRevoked c ref clock = .ok c' ↔
      (latestConsentFact c ref).map (·.type) = some .consentGranted ∧
        ∃ stamp, (clock.now 0).toISOString = .ok stamp ∧
          c' = { c with facts := c.facts ++ [⟨.consentRevoked, ref, stamp⟩] } := by
  rw [appendConsentRevoked, seq_eq_ok]
  simp only [ok_iff]
  refine and_congr_left fun _ => ?_
  cases latestConsentFact c ref with
  | none => simp [assertRevocable]
  | some current => cases htype : current.type <;> simp [assertRevocable, throwIf_eq_ok, htype]

lemma withMessage_eq_ok {message : Message} :
    withMessage c message = .ok c' ↔ (∃ m ∈ c.messages, m.id = message.id) ∧
      c' = { c with messages := replaceMessage message c.messages } := by
  rw [withMessage, seq_eq_ok, throwIf_eq_ok, pure_eq_ok, not_not, List.any_eq_true]
  simp only [decide_eq_true_eq]

end Fuatilia.Communications
