import Fuatilia.Foundations.Machine
import Fuatilia.Communications.Conversation

/-!
# Sending messages

A rejected attempt is repeated under a retry policy until it has no attempt left; then the message
is dead-lettered. The provider is called before the attempt is recorded, and what comes after the
call can still throw: then the provider has answered and nothing is recorded.

## Main definitions

* `prepareAttempt`, `settleAttempt`, `attemptSend` — one attempt, before and after the call.
* `markDelivered`, `markRead` — the receipts of the provider.
* `sendingStep`, `Punctual` — a message with its calls, and clocks within the range of dates.

## Main results

* `message_delivery` — what becomes of a message in every punctual run.

## Implementation notes

The text of a refused policy shows the number of attempts less one; from `10^21` on, which
JavaScript prints with an exponent, it is the decimal one here.
-/

namespace Fuatilia.Communications

open Fallible Machine

/-! ## The provider and the policy -/

structure OutboundCommand where
  messageId : Uuid
  conversationId : Uuid
  channel : CommsChannel
  body : String
  recipient : String

inductive ProviderOutcome where
  | accepted (providerRef : String)
  | rejected (failureReason : String)

structure MessagingProvider where
  name : String
  send : OutboundCommand → ℕ → ProviderOutcome

structure RetryPolicy where
  maxAttempts : JsNumber
  backoffStepsMs : List JsNumber

def RetryPolicy.limit (policy : RetryPolicy) : ℤ := policy.maxAttempts.integer.getD 0

def RetryPolicy.steps (policy : RetryPolicy) : List ℤ :=
  policy.backoffStepsMs.map fun ms => ms.integer.getD 0

inductive RetryDecision where
  | retry (delayMs : ℤ) (nextAttemptNo : ℕ)
  | deadLetter

def assertPolicy (policy : RetryPolicy) : Except Thrown Unit := do
  throwIf (policy.maxAttempts.integer = none ∨ policy.limit < 1)
    (.domainError "COMMS_RETRY_POLICY_INVALID"
      s!"maxAttempts must be a positive integer, got {policy.maxAttempts.text}"
      [("maxAttempts", policy.maxAttempts.text)])
  throwIf ((policy.backoffStepsMs.length : ℤ) < policy.limit - 1)
    (.domainError "COMMS_RETRY_POLICY_INVALID"
      (s!"retry policy needs at least {policy.limit - 1} backoff step(s) for maxAttempts " ++
        policy.maxAttempts.text)
      [("steps", toString policy.backoffStepsMs.length), ("maxAttempts", policy.maxAttempts.text)])
  throwIf (policy.backoffStepsMs.any fun ms => ms.integer = none || ms.integer.getD 0 < 0)
    (.domainError "COMMS_RETRY_POLICY_INVALID" "backoff steps must be non-negative integers (ms)"
      [("steps", ",".intercalate (policy.backoffStepsMs.map JsNumber.text))])

def decideRetry (policy : RetryPolicy) (failedAttemptNo : ℕ) : Except Thrown RetryDecision := do
  assertPolicy policy
  throwIf (failedAttemptNo < 1) (.domainError "COMMS_RETRY_DECISION_INVALID"
    s!"failedAttemptNo must be >= 1, got {failedAttemptNo}"
    [("failedAttemptNo", toString failedAttemptNo)])
  return if (failedAttemptNo : ℤ) < policy.limit then
      .retry (policy.steps[min (failedAttemptNo - 1) (policy.steps.length - 1)]?.getD 0)
        (failedAttemptNo + 1)
    else .deadLetter

/-! ## An attempt -/

def messageOf (conversation : Conversation) (messageId : Uuid) : Option Message :=
  conversation.messages.find? (·.id = messageId)

def notInConversation (conversation : Conversation) (messageId : Uuid) : Thrown :=
  .domainError "COMMS_MESSAGE_NOT_IN_CONVERSATION"
    s!"message {messageId} does not belong to conversation {conversation.id}"
    [("messageId", messageId), ("conversationId", conversation.id)]

def findMessage (conversation : Conversation) (messageId : Uuid) : Except Thrown Message :=
  match messageOf conversation messageId with
  | some message => .ok message
  | none => .error (notInConversation conversation messageId)

def assertSendable (message : Message) (policy : RetryPolicy) : Except Thrown Unit := do
  throwIf (message.direction ≠ .outbound) (.domainError "COMMS_MESSAGE_NOT_OUTBOUND"
    s!"message {message.id} is inbound — only outbound messages are sent through the provider"
    [("messageId", message.id)])
  throwIf (message.status ≠ .queued) (.domainError "COMMS_MESSAGE_NOT_QUEUED"
    s!"message {message.id} is '{message.status}' — only queued messages can be attempted"
    [("messageId", message.id), ("status", toString message.status)])
  throwIf ((message.attempts.length : ℤ) ≥ policy.limit)
    (.domainError "COMMS_ATTEMPT_LIMIT_EXCEEDED"
      s!"message {message.id} already used all {policy.maxAttempts.text} attempt(s)"
    [("messageId", message.id), ("attempts", toString message.attempts.length)])

structure PreparedAttempt where
  message : Message
  attemptNo : ℕ
  attemptedAt : Date

def prepareAttempt (conversation : Conversation) (messageId : Uuid) (policy : RetryPolicy)
    (clock : Clock) : Except Thrown PreparedAttempt := do
  let message ← findMessage conversation messageId
  assertPolicy policy
  assertSendable message policy
  let attemptedAt := clock.now 0
  throwIf (attemptedAt = .invalid)
    (DomainError "COMMS_CLOCK_INVALID" "clock returned an invalid Date")
  return ⟨message, message.attempts.length + 1, attemptedAt⟩

structure AttemptSendResult where
  conversation : Conversation
  message : Message
  outcome : ProviderOutcome
  decision : Option RetryDecision
  events : List CommsEvent
  retryAt : Option String

def plusMs (date : Date) (delayMs : ℤ) : Date :=
  match date with
  | .invalid => .invalid
  | .ofTime ms => .ofMs (ms + delayMs)

def Message.attempted (message : Message) (attempt : DeliveryAttempt) (status : MessageStatus) :
    Message :=
  { message with status, attempts := message.attempts ++ [attempt] }

def settleAccepted (conversation : Conversation) (p : PreparedAttempt) (providerRef : String)
    (clock : Clock) : Except Thrown AttemptSendResult := do
  let attemptedAt ← p.attemptedAt.toISOString
  let sent := { p.message.attempted ⟨p.attemptNo, providerRef, .sent, none, attemptedAt⟩ .sent with
    sentAt := some p.attemptedAt }
  let updated ← withMessage conversation sent
  let event ← emit "comms.messageSent" p.message.id
    (.messageSent conversation.id p.message.id (toString conversation.channel) p.attemptNo
      providerRef (p.message.templateRef.map (·.templateId))
      (p.message.templateRef.map (·.version)))
    (clock.now 1)
  return ⟨updated, sent, .accepted providerRef, none, [event], none⟩

def settleRetry (conversation : Conversation) (p : PreparedAttempt) (attempt : DeliveryAttempt)
    (failureReason : String) (delayMs : ℤ) (nextAttemptNo : ℕ) (clock : Clock) :
    Except Thrown AttemptSendResult := do
  let retried := p.message.attempted attempt .queued
  let updated ← withMessage conversation retried
  let retryAt ← (plusMs p.attemptedAt delayMs).toISOString
  let event ← emit "comms.messageFailed" p.message.id
    (.messageFailed conversation.id p.message.id p.attemptNo failureReason true (some retryAt))
    (clock.now 1)
  return ⟨updated, retried, .rejected failureReason, some (.retry delayMs nextAttemptNo), [event],
    some retryAt⟩

def settleDeadLetter (conversation : Conversation) (p : PreparedAttempt) (attempt : DeliveryAttempt)
    (failureReason : String) (clock : Clock) : Except Thrown AttemptSendResult := do
  let deadLettered := p.message.attempted attempt .deadLettered
  let updated ← withMessage conversation deadLettered
  let failed ← emit "comms.messageFailed" p.message.id
    (.messageFailed conversation.id p.message.id p.attemptNo failureReason false none) (clock.now 1)
  let dead ← emit "comms.messageDeadLettered" p.message.id
    (.messageDeadLettered conversation.id p.message.id p.attemptNo failureReason) (clock.now 2)
  return ⟨updated, deadLettered, .rejected failureReason, some .deadLetter, [failed, dead], none⟩

def settleAttempt (conversation : Conversation) (p : PreparedAttempt) (policy : RetryPolicy)
    (clock : Clock) : ProviderOutcome → Except Thrown AttemptSendResult
  | .accepted providerRef => settleAccepted conversation p providerRef clock
  | .rejected failureReason => do
    let attemptedAt ← p.attemptedAt.toISOString
    let attempt : DeliveryAttempt := ⟨p.attemptNo, "", .failed, some failureReason, attemptedAt⟩
    match ← decideRetry policy p.attemptNo with
    | .retry delayMs nextAttemptNo =>
      settleRetry conversation p attempt failureReason delayMs nextAttemptNo clock
    | .deadLetter => settleDeadLetter conversation p attempt failureReason clock

structure Envelope where
  body : String
  recipient : String

def PreparedAttempt.call (p : PreparedAttempt) (conversation : Conversation)
    (provider : MessagingProvider) (cmd : Envelope) : ProviderOutcome :=
  provider.send ⟨p.message.id, conversation.id, conversation.channel, cmd.body, cmd.recipient⟩
    p.attemptNo

def attemptSend (conversation : Conversation) (messageId : Uuid) (provider : MessagingProvider)
    (cmd : Envelope) (policy : RetryPolicy) (clock : Clock) : Except Thrown AttemptSendResult := do
  let p ← prepareAttempt conversation messageId policy clock
  settleAttempt conversation p policy clock (p.call conversation provider cmd)

/-! ## Receipts -/

def receipted (status : DeliveryStatus) (attempts : List DeliveryAttempt) : List DeliveryAttempt :=
  attempts.map fun a => if attempts.getLast?.map (·.attemptNo) = some a.attemptNo then
    { a with status } else a

structure Receipted where
  conversation : Conversation
  event : CommsEvent

def markDelivered (conversation : Conversation) (messageId : Uuid) (clock : Clock) :
    Except Thrown Receipted := do
  let message ← findMessage conversation messageId
  throwIf (message.status ≠ .sent) (.domainError "COMMS_MESSAGE_NOT_SENT"
    s!"message {message.id} is '{message.status}' — only sent messages can be marked delivered"
    [("messageId", message.id), ("status", toString message.status)])
  let last := message.attempts.getLast?
  let updated ← withMessage conversation
    { message with status := .delivered, attempts := receipted .delivered message.attempts }
  let event ← emit "comms.messageDelivered" message.id
    (.messageDelivered conversation.id message.id ((last.map (·.attemptNo)).getD 0)
      ((last.map (·.providerRef)).getD "")) (clock.now 0)
  return ⟨updated, event⟩

def markRead (conversation : Conversation) (messageId : Uuid) (clock : Clock) :
    Except Thrown Receipted := do
  let message ← findMessage conversation messageId
  throwIf (message.status ≠ .delivered) (.domainError "COMMS_MESSAGE_NOT_DELIVERED"
    s!"message {message.id} is '{message.status}' — only delivered messages can be marked read"
    [("messageId", message.id), ("status", toString message.status)])
  let updated ← withMessage conversation
    { message with status := .read, attempts := receipted .read message.attempts }
  let event ← emit "comms.messageRead" message.id (.messageRead conversation.id message.id)
    (clock.now 0)
  return ⟨updated, event⟩

/-! ## Runs -/

structure ProviderCall where
  messageId : Uuid
  attemptNo : ℕ
  outcome : ProviderOutcome

structure Sending where
  conversation : Conversation
  calls : List ProviderCall

inductive SendingCommand where
  | attempt (messageId : Uuid) (provider : MessagingProvider) (cmd : Envelope) (clock : Clock)
  | delivered (messageId : Uuid) (clock : Clock)
  | read (messageId : Uuid) (clock : Clock)

/-- A command of a run under one policy. An attempt that throws after the call leaves the
conversation as it was; the call was made all the same. -/
def sendingStep (policy : RetryPolicy) (s : Sending) : SendingCommand → Option Sending
  | .attempt messageId provider cmd clock =>
    (prepareAttempt s.conversation messageId policy clock).toOption.map fun p =>
      let outcome := p.call s.conversation provider cmd
      let settled := (settleAttempt s.conversation p policy clock outcome).toOption
      ⟨(settled.map (·.conversation)).getD s.conversation,
        s.calls ++ [⟨messageId, p.attemptNo, outcome⟩]⟩
  | .delivered messageId clock =>
    (markDelivered s.conversation messageId clock).toOption.map fun r =>
      { s with conversation := r.conversation }
  | .read messageId clock =>
    (markRead s.conversation messageId clock).toOption.map fun r =>
      { s with conversation := r.conversation }

/-- The condition: the readings of the clock after the call are dates, and so is the moment of an
attempt put off by any step of the policy. -/
def Punctual (policy : RetryPolicy) (_ : Sending) : SendingCommand → Prop
  | .attempt _ _ _ clock => clock.now 1 ≠ .invalid ∧ clock.now 2 ≠ .invalid ∧
      ∀ delayMs ∈ policy.steps, clock.now 0 ≠ .invalid → plusMs (clock.now 0) delayMs ≠ .invalid
  | .delivered _ _ | .read _ _ => True

instance (policy : RetryPolicy) (s : Sending) (command : SendingCommand) :
    Decidable (Punctual policy s command) :=
  match command with
  | .attempt _ _ _ _ => inferInstanceAs (Decidable (_ ∧ _ ∧ _))
  | .delivered _ _ | .read _ _ => inferInstanceAs (Decidable True)

/-! ## Single operations -/

variable {c : Conversation} {id : Uuid} {m m' : Message} {policy : RetryPolicy} {clock : Clock}
  {p : PreparedAttempt} {calls calls' : List ProviderCall}

lemma messageOf_id (h : messageOf c id = some m) : m.id = id := by
  simpa using List.find?_some h

lemma find?_replaceMessage {messages : List Message}
    (h : ∃ old ∈ messages, old.id = m.id) (id : Uuid) :
    (replaceMessage m messages).find? (·.id = id) =
      if m.id = id then some m else messages.find? (·.id = id) := by
  induction messages with
  | nil => simp at h
  | cons first rest ih =>
    unfold replaceMessage
    by_cases hfirst : first.id = m.id
    · by_cases hm : m.id = id <;> simp [hfirst, hm]
    · have hrest : ∃ old ∈ rest, old.id = m.id := by simpa [hfirst] using h
      rw [if_neg hfirst, List.find?_cons, List.find?_cons, ih hrest]
      by_cases hm : m.id = id
      · have hother : ¬ first.id = id := fun heq => hfirst (heq.trans hm.symm)
        simp [hother, hm]
      · simp [hm]

lemma messageOf_withMessage {c' : Conversation} (h : withMessage c m = .ok c')
    (id : Uuid) : messageOf c' id = if m.id = id then some m else messageOf c id := by
  obtain ⟨hthere, rfl⟩ := withMessage_eq_ok.mp h
  exact find?_replaceMessage hthere id

lemma exists_withMessage (h : messageOf c m.id = some m)
    (hid : m'.id = m.id) : ∃ c', withMessage c m' = .ok c' :=
  ⟨_, withMessage_eq_ok.mpr ⟨⟨m, List.mem_of_find?_eq_some h, hid.symm⟩, rfl⟩⟩

lemma findMessage_eq_ok : findMessage c id = .ok m ↔ messageOf c id = some m := by
  unfold findMessage
  split <;> simp [*]

lemma prepareAttempt_eq_ok (h : prepareAttempt c id policy clock = .ok p) :
    messageOf c id = some p.message ∧ assertPolicy policy = .ok () ∧ p.message.status = .queued ∧
      (p.message.attempts.length : ℤ) < policy.limit ∧ clock.now 0 ≠ .invalid ∧
      p.attemptNo = p.message.attempts.length + 1 ∧ p.attemptedAt = clock.now 0 := by
  simp only [prepareAttempt, assertSendable, bind_eq_ok, findMessage_eq_ok, throwIf_eq_ok,
    exists_const, pure_eq_ok, not_not, ge_iff_le, not_le] at h
  obtain ⟨m, hm, _, hpolicy, ⟨-, hstatus, hlimit⟩, hclock, rfl⟩ := h
  exact ⟨hm, hpolicy, hstatus, hlimit, hclock, rfl, rfl⟩

lemma decideRetry_of_policy (hpolicy : assertPolicy policy = .ok ()) {n : ℕ} (hn : 1 ≤ n) :
    if (n : ℤ) < policy.limit then
      ∃ delayMs ∈ policy.steps, decideRetry policy n = .ok (.retry delayMs (n + 1))
    else decideRetry policy n = .ok .deadLetter := by
  have hdecide : decideRetry policy n = .ok (if (n : ℤ) < policy.limit then
      .retry (policy.steps[min (n - 1) (policy.steps.length - 1)]?.getD 0) (n + 1)
      else .deadLetter) := by
    have hnot : ¬ n < 1 := by omega
    simp [decideRetry, hpolicy, do_eq, hnot]
  simp only [assertPolicy, ok_iff] at hpolicy
  rw [hdecide]
  split_ifs with hlimit
  · have hlength : min (n - 1) (policy.steps.length - 1) < policy.steps.length := by
      have hsteps : policy.steps.length = policy.backoffStepsMs.length := List.length_map ..
      have := hpolicy.2.1
      omega
    refine ⟨policy.steps[min (n - 1) (policy.steps.length - 1)], List.getElem_mem hlength, ?_⟩
    rw [List.getElem?_eq_getElem hlength, Option.getD_some]
  · rfl

def statusAfter (policy : RetryPolicy) (attemptNo : ℕ) : ProviderOutcome → MessageStatus
  | .accepted _ => .sent
  | .rejected _ => if (attemptNo : ℤ) < policy.limit then .queued else .deadLettered

/-- **A punctual attempt is recorded**, with its number and the state that follows from the
answer. -/
lemma settleAttempt_of_punctual (hp : prepareAttempt c id policy clock = .ok p)
    (hreadings : clock.now 1 ≠ .invalid ∧ clock.now 2 ≠ .invalid)
    (hdelays : ∀ delayMs ∈ policy.steps, plusMs (clock.now 0) delayMs ≠ .invalid)
    (outcome : ProviderOutcome) :
    ∃ r m, settleAttempt c p policy clock outcome = .ok r ∧ withMessage c m = .ok r.conversation ∧
      m.id = p.message.id ∧ m.status = statusAfter policy p.attemptNo outcome ∧
      m.attempts.map (·.attemptNo) = p.message.attempts.map (·.attemptNo) ++ [p.attemptNo] := by
  obtain ⟨hm, hpolicy, -, -, hclock, hnumber, hat⟩ := prepareAttempt_eq_ok hp
  rw [← messageOf_id hm] at hm
  rw [← hat] at hclock hdelays
  obtain ⟨iso, hiso⟩ := Date.exists_toISOString.mpr hclock
  obtain ⟨first, hfirst⟩ := Date.exists_toISOString.mpr hreadings.1
  obtain ⟨second, hsecond⟩ := Date.exists_toISOString.mpr hreadings.2
  -- it is enough that the settlement stores a message that has the attempt
  have hstores (m : Message) (hid : m.id = p.message.id)
      (hstatus : m.status = statusAfter policy p.attemptNo outcome) (attempt : DeliveryAttempt)
      (hattempts : m.attempts = p.message.attempts ++ [attempt])
      (hno : attempt.attemptNo = p.attemptNo)
      (hsettles : ∀ updated, withMessage c m = .ok updated →
        ∃ r, settleAttempt c p policy clock outcome = .ok r ∧ r.conversation = updated) :
      ∃ r m, settleAttempt c p policy clock outcome = .ok r ∧ withMessage c m = .ok r.conversation ∧
        m.id = p.message.id ∧ m.status = statusAfter policy p.attemptNo outcome ∧
        m.attempts.map (·.attemptNo) = p.message.attempts.map (·.attemptNo) ++ [p.attemptNo] := by
    obtain ⟨updated, hupdated⟩ := exists_withMessage hm hid
    obtain ⟨r, hr, rfl⟩ := hsettles updated hupdated
    exact ⟨r, m, hr, hupdated, hid, hstatus, by rw [hattempts, List.map_append, ← hno]; rfl⟩
  cases outcome with
  | accepted providerRef =>
    refine hstores { p.message.attempted ⟨p.attemptNo, providerRef, .sent, none, iso⟩ .sent with
      sentAt := some p.attemptedAt } rfl rfl _ rfl rfl fun updated hupdated => ?_
    simp [settleAttempt, settleAccepted, emit, hiso, hupdated, hfirst, do_eq]
  | rejected failureReason =>
    have hdecision := decideRetry_of_policy hpolicy (show 1 ≤ p.attemptNo by omega)
    refine hstores (p.message.attempted ⟨p.attemptNo, "", .failed, some failureReason, iso⟩
      (statusAfter policy p.attemptNo (.rejected failureReason))) rfl rfl _ rfl rfl
      fun updated hupdated => ?_
    simp only [statusAfter] at hupdated
    split_ifs at hdecision hupdated with hlimit
    · obtain ⟨delayMs, hmem, hdecision⟩ := hdecision
      obtain ⟨retryAt, hretry⟩ := Date.exists_toISOString.mpr (hdelays delayMs hmem)
      simp [settleAttempt, settleRetry, emit, hiso, hdecision, hupdated, hretry, hfirst, do_eq]
    · simp [settleAttempt, settleDeadLetter, emit, hiso, hdecision, hupdated, hfirst, hsecond,
        do_eq]

lemma receipted_attemptNo (status : DeliveryStatus) (attempts : List DeliveryAttempt) :
    (receipted status attempts).map (·.attemptNo) = attempts.map (·.attemptNo) := by
  rw [receipted, List.map_map]
  refine List.map_congr_left fun a _ => ?_
  simp only [Function.comp]
  split_ifs <;> rfl

/-! ## What a command does to one message -/

def callsOf (s : Sending) (id : Uuid) : List ProviderCall := s.calls.filter (·.messageId = id)

def ProviderOutcome.isAccepted : ProviderOutcome → Bool
  | .accepted _ => true
  | .rejected _ => false

def acceptances (calls : List ProviderCall) : ℕ := calls.countP (·.outcome.isAccepted)

def rejections (calls : List ProviderCall) : ℕ := calls.countP fun call => !call.outcome.isAccepted

/-- Everything a punctual command can do to a message and the calls for it. -/
inductive MessageChange (policy : RetryPolicy) (m : Message) (calls : List ProviderCall) :
    Message → List ProviderCall → Prop where
  | same : MessageChange policy m calls m calls
  | attempt (m' : Message) (call : ProviderCall) (hqueued : m.status = .queued)
      (hlimit : (m.attempts.length : ℤ) < policy.limit)
      (hnumber : call.attemptNo = m.attempts.length + 1)
      (hattempts : m'.attempts.map (·.attemptNo) = m.attempts.map (·.attemptNo) ++ [call.attemptNo])
      (hstatus : m'.status = statusAfter policy call.attemptNo call.outcome) :
      MessageChange policy m calls m' (calls ++ [call])
  | receipt (m' : Message)
      (hstatus : m.status = .sent ∧ m'.status = .delivered ∨
        m.status = .delivered ∧ m'.status = .read)
      (hattempts : m'.attempts.map (·.attemptNo) = m.attempts.map (·.attemptNo)) :
      MessageChange policy m calls m' calls

section Commands

variable {policy : RetryPolicy} {s s' : Sending} {id : Uuid} {m : Message}

lemma messageChange_of_receipt {c' : Conversation} {messageId : Uuid} {old new : Message}
    (hm : messageOf s.conversation id = some m)
    (hold : messageOf s.conversation messageId = some old)
    (hnew : withMessage s.conversation new = .ok c')
    (hid : new.id = old.id)
    (hstatus : old.status = .sent ∧ new.status = .delivered ∨
      old.status = .delivered ∧ new.status = .read)
    (hattempts : new.attempts.map (·.attemptNo) = old.attempts.map (·.attemptNo)) :
    ∃ m', messageOf c' id = some m' ∧ MessageChange policy m (callsOf s id) m' (callsOf s id) := by
  rw [messageOf_withMessage hnew]
  by_cases hsame : new.id = id
  · obtain rfl : old = m := Option.some.inj (hold.symm.trans (by
      rw [← messageOf_id hold, ← hid, hsame, hm]))
    exact ⟨new, if_pos hsame, .receipt new hstatus hattempts⟩
  · exact ⟨m, by rw [if_neg hsame, hm], .same⟩

lemma sendingStep_change {command : SendingCommand} (hpunctual : Punctual policy s command)
    (hm : messageOf s.conversation id = some m) (h : sendingStep policy s command = some s') :
    ∃ m', messageOf s'.conversation id = some m' ∧
      MessageChange policy m (callsOf s id) m' (callsOf s' id) := by
  cases command with
  | attempt messageId provider cmd clock =>
    obtain ⟨p, hprepared, rfl⟩ := map_toOption_eq_some.mp h
    obtain ⟨hfound, -, hqueued, hlimit, hclock, hnumber, -⟩ := prepareAttempt_eq_ok hprepared
    obtain ⟨hfirst, hsecond, hdelays⟩ := hpunctual
    obtain ⟨r, new, hsettled, hnew, hid, hstatus, hattempts⟩ := settleAttempt_of_punctual hprepared
      ⟨hfirst, hsecond⟩ (fun delayMs hmem => hdelays delayMs hmem hclock)
      (p.call s.conversation provider cmd)
    simp only [toOption_eq_some.mpr hsettled, Option.map_some, Option.getD_some]
    rw [messageOf_withMessage hnew, hid, messageOf_id hfound]
    by_cases hsame : messageId = id
    · subst hsame
      obtain rfl : p.message = m := Option.some.inj (hfound.symm.trans hm)
      refine ⟨new, if_pos rfl, ?_⟩
      simp only [callsOf, List.filter_append, List.filter_singleton, decide_true, cond_true]
      exact .attempt new _ hqueued hlimit hnumber hattempts hstatus
    · refine ⟨m, by rw [if_neg hsame, hm], ?_⟩
      simp only [callsOf, List.filter_append, List.filter_singleton, hsame, decide_false,
        cond_false, List.append_nil]
      exact .same
  | delivered messageId clock | read messageId clock =>
    obtain ⟨r, hok, rfl⟩ := map_toOption_eq_some.mp h
    simp only [markDelivered, markRead, ok_iff, findMessage_eq_ok, not_not] at hok
    obtain ⟨old, hold, hstatus, updated, hupdated, _, -, rfl⟩ := hok
    exact messageChange_of_receipt hm hold hupdated rfl (by simp [hstatus])
      (receipted_attemptNo _ _)

end Commands

/-! ## The life of a message -/

def PhaseOf (policy : RetryPolicy) (calls : List ProviderCall) : MessageStatus → Prop
  | .queued => acceptances calls = 0 ∧ (rejections calls : ℤ) < policy.limit
  | .sent | .delivered | .read => acceptances calls = 1 ∧ (rejections calls : ℤ) < policy.limit
  | .deadLettered => acceptances calls = 0 ∧ (rejections calls : ℤ) = policy.limit
  | .failed => False

/-- **The law of a message**: its attempts and the calls for it are numbered from one on, at most as
many as the policy allows, at most one was accepted, and it is a dead letter exactly when as many as
the policy allows were rejected. -/
structure Delivery (policy : RetryPolicy) (m : Message) (calls : List ProviderCall) : Prop where
  attempts : m.attempts.map (·.attemptNo) = List.range' 1 calls.length
  numbers : calls.map (·.attemptNo) = List.range' 1 calls.length
  budget : (calls.length : ℤ) ≤ policy.limit
  acceptedOnce : acceptances calls ≤ 1
  deadLetter : m.status = .deadLettered ↔ (rejections calls : ℤ) = policy.limit

/-- The invariant of a message: its numbering, and the calls that its state tells. -/
structure MessageSound (policy : RetryPolicy) (m : Message) (calls : List ProviderCall) : Prop where
  attempts : m.attempts.map (·.attemptNo) = List.range' 1 calls.length
  numbers : calls.map (·.attemptNo) = List.range' 1 calls.length
  phase : PhaseOf policy calls m.status

lemma length_eq_answers (calls : List ProviderCall) :
    calls.length = acceptances calls + rejections calls := by
  simpa [acceptances, rejections] using
    List.length_eq_countP_add_countP (fun call : ProviderCall => call.outcome.isAccepted)
    (l := calls)

lemma acceptances_concat (calls : List ProviderCall) (call : ProviderCall) :
    acceptances (calls ++ [call]) = acceptances calls + if call.outcome.isAccepted then 1 else
    0 := by
  simp [acceptances, List.countP_append, List.countP_singleton]

lemma rejections_concat (calls : List ProviderCall) (call : ProviderCall) :
    rejections (calls ++ [call]) = rejections calls + if call.outcome.isAccepted then 0 else 1 := by
  simp [rejections, List.countP_append, List.countP_singleton]
  split_ifs <;> simp_all

lemma phaseOf_attempt {call : ProviderCall}
    (hphase : PhaseOf policy calls .queued) (hnumber : call.attemptNo = calls.length + 1) :
    PhaseOf policy (calls ++ [call]) (statusAfter policy call.attemptNo call.outcome) := by
  obtain ⟨hnone, hlimit⟩ := hphase
  have hlength := length_eq_answers calls
  cases houtcome : call.outcome with
  | accepted providerRef =>
    simp only [statusAfter, PhaseOf, acceptances_concat, rejections_concat, houtcome,
      ProviderOutcome.isAccepted, if_true]
    omega
  | rejected failureReason =>
    simp only [statusAfter]
    split_ifs with hmore <;>
    · simp only [PhaseOf, acceptances_concat, rejections_concat, houtcome,
        ProviderOutcome.isAccepted, Bool.false_eq_true, if_false]
      omega

lemma range'_succ_concat (n : ℕ) : List.range' 1 (n + 1) = List.range' 1 n ++ [n + 1] := by
  rw [List.range'_concat, Nat.one_mul, Nat.add_comm 1 n]

lemma MessageSound.step
    (hm : MessageSound policy m calls) (h : MessageChange policy m calls m' calls') :
    MessageSound policy m' calls' := by
  have hlength : m.attempts.length = calls.length := by
    simpa using congrArg List.length hm.attempts
  cases h with
  | same => exact hm
  | attempt m' call hqueued hlimit hnumber hattempts hstatus =>
    rw [hlength] at hnumber
    refine ⟨?_, ?_, ?_⟩
    · rw [hattempts, hm.attempts, hnumber, List.length_append, List.length_singleton,
        range'_succ_concat]
    · rw [List.map_append, List.map_singleton, hm.numbers, hnumber, List.length_append,
        List.length_singleton, range'_succ_concat]
    · rw [hstatus]
      exact phaseOf_attempt (hqueued ▸ hm.phase) hnumber
  | receipt m' hstatus hattempts =>
    refine ⟨hattempts.trans hm.attempts, hm.numbers, ?_⟩
    have hphase := hm.phase
    rcases hstatus with ⟨hold, hnew⟩ | ⟨hold, hnew⟩ <;>
    · rw [hold] at hphase
      rw [hnew]
      exact hphase

lemma MessageSound.delivery (hm : MessageSound policy m calls) : Delivery policy m calls := by
  have hphase := hm.phase
  have hlength := length_eq_answers calls
  have hbounds : (calls.length : ℤ) ≤ policy.limit ∧ acceptances calls ≤ 1 ∧
      (m.status = .deadLettered ↔ (rejections calls : ℤ) = policy.limit) := by
    cases hstatus : m.status <;> simp only [hstatus, PhaseOf] at hphase <;>
      refine ⟨by omega, by omega, ?_⟩ <;> simp only [reduceCtorEq, true_iff, false_iff] <;> omega
  exact ⟨hm.attempts, hm.numbers, hbounds.1, hbounds.2.1, hbounds.2.2⟩

def MessageStatus.progress : MessageStatus → Option ℕ
  | .sent => some 1
  | .delivered => some 2
  | .read => some 3
  | .queued | .failed | .deadLettered => none

/-- A message that was sent goes on through sent, delivered and read; a dead letter stays as it
is. -/
structure Advances (m m' : Message) : Prop where
  forward : ∀ n ∈ m.status.progress, ∃ n' ∈ m'.status.progress, n ≤ n'
  dead : m.status = .deadLettered → m' = m

lemma Advances.refl (m : Message) : Advances m m := ⟨fun n hn => ⟨n, hn, le_rfl⟩, fun _ => rfl⟩

lemma Advances.trans {m₁ m₂ m₃ : Message} (h : Advances m₁ m₂) (h' : Advances m₂ m₃) :
    Advances m₁ m₃ := by
  refine ⟨fun n hn => ?_, fun hdead => ?_⟩
  · obtain ⟨n', hn', hle⟩ := h.forward n hn
    obtain ⟨n'', hn'', hle'⟩ := h'.forward n' hn'
    exact ⟨n'', hn'', hle.trans hle'⟩
  · obtain rfl := h.dead hdead
    exact h'.dead hdead

lemma MessageChange.advances (h : MessageChange policy m calls m' calls') : Advances m m' := by
  cases h with
  | same => exact .refl m
  | attempt m' call hqueued => exact ⟨by simp [hqueued, MessageStatus.progress], by simp [hqueued]⟩
  | receipt m' hstatus =>
    rcases hstatus with ⟨hold, hnew⟩ | ⟨hold, hnew⟩ <;>
      exact ⟨by simp [hold, hnew, MessageStatus.progress], by simp [hold]⟩

/-- **Sending a message.** From a queued message without attempts and an accepted policy, at every
point of every punctual run of attempts and receipts, for this and for other messages, the law of
the message holds; a sent message only goes forward, and a dead letter does not change. -/
theorem message_delivery (policy : RetryPolicy) (hpolicy : assertPolicy policy = .ok ())
    (conversation : Conversation) (message : Message)
    (hmessage : messageOf conversation message.id = some message)
    (hqueued : message.status = .queued)
    (hattempts : message.attempts = []) (earlier later : List SendingCommand)
    (hpunctual : Meets (sendingStep policy) (Punctual policy) ⟨conversation,
      []⟩ (earlier ++ later)) :
    let s := run (sendingStep policy) ⟨conversation, []⟩ earlier
    let s' := run (sendingStep policy) ⟨conversation, []⟩ (earlier ++ later)
    ∃ m m', messageOf s.conversation message.id = some m ∧
      messageOf s'.conversation message.id = some m' ∧
      Delivery policy m (callsOf s message.id) ∧ Advances m m' := by
  intro s s'
  have hlimit : 1 ≤ policy.limit := by
    simp only [assertPolicy, seq_eq_ok, throwIf_eq_ok, not_or, not_lt] at hpolicy
    exact hpolicy.1.2
  obtain ⟨hearlier, hlater⟩ := (meets_append _ _ _).mp hpunctual
  -- the message is there with its invariant at every point
  let Sound (s : Sending) : Prop := ∃ m, messageOf s.conversation message.id = some m ∧
    MessageSound policy m (callsOf s message.id)
  have hstart : Sound ⟨conversation, []⟩ := by
    refine ⟨message, hmessage, by simp [hattempts, callsOf], by simp [callsOf], ?_⟩
    rw [hqueued]
    exact ⟨rfl, by simp [callsOf, rejections]; omega⟩
  have hstep (s : Sending) (command : SendingCommand) (s' : Sending)
      (hC : Punctual policy s command) (hs : Sound s) (h : sendingStep policy s command = some s') :
      Sound s' := by
    obtain ⟨m, hm, hsound⟩ := hs
    obtain ⟨m', hm', hchange⟩ := sendingStep_change hC hm h
    exact ⟨m', hm', hsound.step hchange⟩
  obtain ⟨m, hm, hsound⟩ : Sound s := run_invariant hstep earlier _ hstart hearlier
  -- and it advances from one point to the next
  have hadvances : ∃ m', messageOf (run (sendingStep policy) s later).conversation message.id =
      some m' ∧ Advances m m' := by
    refine run_invariant (I := fun s => ∃ m', messageOf s.conversation message.id = some m' ∧
      Advances m m') ?_ later s ⟨m, hm, .refl m⟩ hlater
    rintro s command s' hC ⟨m', hm', hadvances⟩ h
    obtain ⟨m'', hm'', hchange⟩ := sendingStep_change hC hm' h
    exact ⟨m'', hm'', hadvances.trans hchange.advances⟩
  obtain ⟨m', hm', hadvances⟩ := hadvances
  refine ⟨m, m', hm, ?_, hsound.delivery, hadvances⟩
  rw [show s' = run (sendingStep policy) s later from run_append _ earlier later]
  exact hm'

def wholeNumber (n : ℕ) : JsNumber := ⟨some n, toString n⟩

def twoAttempts (delayMs : ℕ) : RetryPolicy := ⟨wholeNumber 2, [wholeNumber delayMs]⟩

def reminder : Message :=
  ⟨"m1", "t1", .outbound, "body", none, ⟨"c1", none, none, none⟩, none, none, .queued, []⟩

def reminderThread : Conversation := ⟨"t1", "o1", "c1", .sms, .ofTime 0, [reminder], []⟩

def rejectedAttempt : SendingCommand :=
  .attempt "m1" ⟨"gateway", fun _ _ => .rejected "unreachable"⟩ ⟨"body", "254700000001"⟩
    (pinnedClock (.ofTime 1))

/-- Rejected twice under a policy of two attempts: a dead letter, also after a third command. -/
theorem message_delivery_deadLetter :
    let start : Sending := ⟨reminderThread, []⟩
    let commands := [rejectedAttempt, rejectedAttempt, rejectedAttempt]
    Meets (sendingStep (twoAttempts 5000)) (Punctual (twoAttempts 5000)) start commands ∧
      (callsOf (run (sendingStep (twoAttempts 5000)) start commands) "m1").length = 2 ∧
      ∃ m, messageOf (run (sendingStep (twoAttempts 5000)) start commands).conversation "m1" =
        some m ∧ Delivery (twoAttempts 5000) m
          (callsOf (run (sendingStep (twoAttempts 5000)) start commands) "m1") := by
  intro start commands
  have hpunctual : Meets (sendingStep (twoAttempts 5000)) (Punctual (twoAttempts 5000)) start
      commands := by decide +kernel
  obtain ⟨m, -, hm, -, hdelivery, -⟩ := message_delivery (twoAttempts 5000) (by decide +kernel)
    reminderThread reminder (by decide +kernel) rfl rfl commands []
    (by rwa [List.append_nil])
  exact ⟨hpunctual, by decide +kernel, m, hm, hdelivery⟩

/-- An accepted policy whose retry lies out of the range of dates: three rejections under a limit of
two, no attempt recorded, and no dead letter. -/
theorem unpunctual_attempts_unbounded :
    let policy := twoAttempts 8640000000000000
    let s := run (sendingStep policy) ⟨reminderThread, []⟩
      [rejectedAttempt, rejectedAttempt, rejectedAttempt]
    (assertPolicy policy).toOption = some () ∧ policy.limit = 2 ∧
      rejections (callsOf s "m1") = 3 ∧ messageOf s.conversation "m1" = some reminder := by
  decide +kernel

end Fuatilia.Communications
