import Fuatilia.Crossborder.Quote

/-!
# Transfer intents

The commands that move a cross-border transfer intent through its lifecycle.

## Main definitions

* `TransferIntent`, `intentTransitions` — an intent, and the table of its statuses.
* `draftIntent`, `attachQuote`, `authorizeIntent`, `submitIntent`, `settleIntent` — to its end.
* `cancelIntent`, `failIntent`, `expireIfDue` — and away from it.

## Implementation notes

A command takes the readings of its clock in the order of the source: the one compared with the
expiry, the one that stamps the intent, the one that stamps the event.
-/

namespace Fuatilia.Crossborder

open Fallible

/-! ## The aggregate -/
/-- The statuses of an intent. -/
inductive IntentStatus where
  | drafted
  | quoted
  | authorized
  | submitted
  | settled
  | cancelled
  | expired
  | failed
  deriving DecidableEq

namespace IntentStatus
/-- The name on the wire. -/
def text : IntentStatus → String
  | drafted => "drafted"
  | quoted => "quoted"
  | authorized => "authorized"
  | submitted => "submitted"
  | settled => "settled"
  | cancelled => "cancelled"
  | expired => "expired"
  | failed => "failed"

instance : ToString IntentStatus := ⟨text⟩

end IntentStatus
/-- The table of moves; the last four are final. -/
def intentTransitions : IntentStatus → List IntentStatus
  | .drafted => [.quoted, .cancelled]
  | .quoted => [.authorized, .cancelled, .expired]
  | .authorized => [.submitted, .cancelled, .expired]
  | .submitted => [.settled, .failed, .cancelled]
  | .settled | .cancelled | .expired | .failed => []
/-- A move of the table. -/
def canTransition (source target : IntentStatus) : Bool :=
  (intentTransitions source).contains target
/-- What an intent keeps of its quote. -/
structure FrozenQuote where
  quoteId : Uuid
  fee : FeeBreakdown
  sourceDebitMinor : ℤ
  destinationCreditMinor : ℤ
  rate : AppliedRate
  issuedAt : String
  expiresAt : String
  ttlSeconds : ℤ
/-- A transfer across a corridor. -/
structure TransferIntent where
  intentId : Uuid
  orgId : Uuid
  corridorId : Uuid
  sourceCurrency : Currency
  destinationCurrency : Currency
  sourceAmountMinor : ℤ
  status : IntentStatus
  quote : Option FrozenQuote
  rail : Option String
  authorizedBy : Option String
  createdAt : String
  quotedAt : Option String
  authorizedAt : Option String
  submittedAt : Option String
  settledAt : Option String
  cancelledAt : Option String
  failedAt : Option String
  expiredAt : Option String
  settlementRef : Option String

/-! ## Facts -/
/-- Fees, as numbers. -/
structure FeeBreakdownPayload where
  flatMinor : ℤ
  bpsMinor : ℤ
  totalMinor : ℤ
  bps : ℤ
/-- A rate, as texts. -/
structure AppliedRatePayload where
  rowId : Uuid
  source : String
  ratio : String
  appliedRatio : String
  effectiveFrom : String
  effectiveTo : Option String
/-- The facts about an intent. -/
inductive IntentPayload where
  | authorized (intentId orgId corridorId quoteId : Uuid) (sourceAmountMinor : ℤ)
      (sourceCurrency destinationCurrency : Currency) (fee : FeeBreakdownPayload)
      (sourceDebitMinor destinationCreditMinor : ℤ) (rate : AppliedRatePayload)
      (authorizedBy authorizedAt : String)
  | submitted (intentId orgId corridorId quoteId : Uuid) (rail idempotencyKey : String)
      (sourceDebitMinor destinationCreditMinor : ℤ) (submittedAt : String)
  | settled (intentId corridorId quoteId : Uuid) (sourceCurrency destinationCurrency : Currency)
      (sourceDebitMinor destinationCreditMinor : ℤ) (settlementRef : Option String)
      (settledAt : String)
  | cancelled (intentId corridorId : Uuid) (reason actorId cancelledAt : String)
  | failed (intentId corridorId : Uuid) (reason failedAt : String)
  | replayObserved (intentId : Uuid) (idempotencyKey : String) (quoteId : Uuid) (seenAt : String)
/-- A fact with its stamp. -/
structure CrossborderEvent where
  name : String
  version : ℕ
  aggregateId : Uuid
  occurredAt : String
  payload : IntentPayload
/-- Stamp a fact. -/
def domainEvent (name : String) (aggregateId : Uuid) (payload : IntentPayload) (now : Date) :
    Except Thrown CrossborderEvent := do
  let occurredAt ← now.toISOString
  pure { name, version := 1, aggregateId, occurredAt, payload }
/-- An amount as a number, if that is exact. -/
def minorToNumber (amountMinor : ℤ) : Except Thrown ℤ :=
  if amountMinor.natAbs ≤ maxSafeInteger then .ok amountMinor
  else .error (DomainError "EVENT_AMOUNT_NOT_SAFE_INTEGER"
    s!"amount {amountMinor} exceeds the safe-integer range for event payloads")
/-- The fees of a fact. -/
def feeBreakdownPayload (fee : FeeBreakdown) : Except Thrown FeeBreakdownPayload := do
  let flatMinor ← minorToNumber fee.flatMinor
  let bpsMinor ← minorToNumber fee.bpsMinor
  let totalMinor ← minorToNumber fee.totalMinor
  pure { flatMinor, bpsMinor, totalMinor, bps := fee.bps }
/-- The rate of a fact. -/
def appliedRatePayload (rate : AppliedRate) : AppliedRatePayload where
  rowId := rate.rowId
  source := rate.source
  ratio := s!"{rate.numerator}/{rate.denominator}"
  appliedRatio := s!"{rate.appliedNumerator}/{rate.appliedDenominator}"
  effectiveFrom := rate.effectiveFrom
  effectiveTo := rate.effectiveTo
/-- The intent after a command. -/
structure IntentResult where
  intent : TransferIntent
  events : List CrossborderEvent
/-- The refusal of a command in a status. -/
def stateInvalid (intent : TransferIntent) (message : String) : Thrown :=
  .domainError "INTENT_STATE_INVALID" message
    [("intentId", intent.intentId), ("status", intent.status.text)]
/-- The quote, which must be there. -/
def frozenQuote (intent : TransferIntent) (consequence : String) : Except Thrown FrozenQuote :=
  match intent.quote with
  | some quote => .ok quote
  | none => .error (.domainError "INTENT_STATE_INVALID"
      s!"intent {intent.intentId} has no frozen quote — {consequence} is impossible"
      [("intentId", intent.intentId)])

/-! ## Draft -/
/-- What a draft is made from. -/
structure DraftIntentCommand where
  orgId : Uuid
  sourceCurrency : String
  destinationCurrency : String
  sourceAmountMinor : MoneyInput
  intentId : Option Uuid
/-- The currencies are those of the corridor. -/
def assertCorridorPair (corridor : Corridor) (source destination : String) :
    Except Thrown (Currency × Currency) :=
  match asCurrency source, asCurrency destination with
  | some s, some d => do
    let pair := s!"{corridor.sourceCurrency}/{corridor.destinationCurrency}"
    throwIf (s ≠ corridor.sourceCurrency ∨ d ≠ corridor.destinationCurrency)
      (.domainError "CURRENCY_MISMATCH"
        s!"intent pair {source}/{destination} does not match corridor pair {pair}"
        [("sourceCurrency", source), ("destinationCurrency", destination)])
    pure (s, d)
  | _, _ => .error (.domainError "CURRENCY_UNSUPPORTED"
      s!"unsupported currency in pair {source}/{destination}"
      [("sourceCurrency", source), ("destinationCurrency", destination)])
/-- Open an intent on a live corridor. -/
def draftIntent (corridors : List Corridor) (corridorId : Uuid) (cmd : DraftIntentCommand)
    (clock : Clock) : Except Thrown IntentResult := do
  let corridor ← resolveCorridor corridors corridorId
  assertCorridorLive corridor
  assertUuidShape cmd.orgId "orgId" "INTENT_ID_MALFORMED"
  assertUuidShape corridorId "corridorId" "INTENT_ID_MALFORMED"
  let (sourceCurrency, destinationCurrency) ←
    assertCorridorPair corridor cmd.sourceCurrency cmd.destinationCurrency
  let amount ← assertAmountWithinCorridor corridor cmd.sourceAmountMinor
  let intentId := cmd.intentId.getD (uuidFromSeed s!"intent:{cmd.orgId}:{corridorId}:{amount}")
  let createdAt ← (clock.now 0).toISOString
  pure {
    intent := {
      intentId, orgId := cmd.orgId, corridorId, sourceCurrency, destinationCurrency,
      sourceAmountMinor := amount, status := .drafted, quote := none, rail := none,
      authorizedBy := none, createdAt, quotedAt := none, authorizedAt := none, submittedAt := none,
      settledAt := none, cancelledAt := none, failedAt := none, expiredAt := none,
      settlementRef := none },
    events := [] }

/-! ## Attach a quote -/
/-- Freeze a quote. -/
def frozenQuoteOf (quote : FxQuote) : FrozenQuote where
  quoteId := quote.quoteId
  fee := quote.fee
  sourceDebitMinor := quote.sourceDebitMinor
  destinationCreditMinor := quote.destinationCreditMinor
  rate := quote.rate
  issuedAt := quote.issuedAt
  expiresAt := quote.expiresAt
  ttlSeconds := quote.ttlSeconds
/-- Attach a usable quote for the same transfer to a draft. -/
def attachQuote (intent : TransferIntent) (quote : FxQuote) (clock : Clock) :
    Except Thrown IntentResult := do
  throwIf (intent.status ≠ .drafted) (stateInvalid intent
    (s!"cannot attach a quote to an intent in status {intent.status}; " ++
      "only drafted intents accept quotes"))
  throwIf (quote.orgId ≠ intent.orgId) (DomainError "QUOTE_ORG_MISMATCH"
    s!"quote {quote.quoteId} belongs to org {quote.orgId}, intent to {intent.orgId}")
  throwIf (quote.corridorId ≠ intent.corridorId) (.domainError "QUOTE_CORRIDOR_MISMATCH"
    (s!"quote {quote.quoteId} was issued against corridor {quote.corridorId}, " ++
      s!"intent targets {intent.corridorId}")
    [("quoteId", quote.quoteId), ("corridorId", intent.corridorId)])
  throwIf (quote.sourceAmountMinor ≠ intent.sourceAmountMinor) (.domainError "QUOTE_AMOUNT_MISMATCH"
    (s!"quote {quote.quoteId} covers {quote.sourceAmountMinor}, " ++
      s!"intent moves {intent.sourceAmountMinor}")
    [("quoteId", quote.quoteId)])
  throwIf (quote.sourceCurrency ≠ intent.sourceCurrency ∨
      quote.destinationCurrency ≠ intent.destinationCurrency) (DomainError "CURRENCY_MISMATCH"
    (s!"quote pair {quote.sourceCurrency}/{quote.destinationCurrency} does not match intent pair " ++
      s!"{intent.sourceCurrency}/{intent.destinationCurrency}"))
  assertQuoteUsable quote.quoteId quote.expiresAt (clock.now 0)
  let quotedAt ← (clock.now 1).toISOString
  pure { intent := { intent with status := .quoted, quote := frozenQuoteOf quote, quotedAt },
         events := [] }

/-! ## Authorize -/
/-- Authorize a quoted intent before the quote expires. -/
def authorizeIntent (intent : TransferIntent) (authorizedBy : String) (clock : Clock) :
    Except Thrown IntentResult := do
  throwIf (intent.status ≠ .quoted) (stateInvalid intent
    (s!"cannot authorize an intent in status {intent.status}; " ++
      "only quoted intents can be authorized"))
  let actor := trim authorizedBy
  throwIf (actor = "") (DomainError "INTENT_ACTOR_REQUIRED"
    "authorizing a transfer intent requires an explicit actor (R3)")
  let quote ← frozenQuote intent "authorization"
  assertQuoteUsable quote.quoteId quote.expiresAt (clock.now 0)
  let now ← (clock.now 1).toISOString
  let sourceAmountMinor ← minorToNumber intent.sourceAmountMinor
  let fee ← feeBreakdownPayload quote.fee
  let sourceDebitMinor ← minorToNumber quote.sourceDebitMinor
  let destinationCreditMinor ← minorToNumber quote.destinationCreditMinor
  let event ← domainEvent "crossborder.intentAuthorized" intent.intentId
    (.authorized intent.intentId intent.orgId intent.corridorId quote.quoteId sourceAmountMinor
      intent.sourceCurrency intent.destinationCurrency fee sourceDebitMinor destinationCreditMinor
      (appliedRatePayload quote.rate) actor now) (clock.now 2)
  pure { intent :=
           { intent with status := .authorized, authorizedBy := actor, authorizedAt := now },
         events := [event] }

/-! ## Submit -/
/-- A submission, as stored. -/
structure SubmissionRecord where
  intentId : Uuid
  idempotencyKey : String
  rail : String
  quoteId : Uuid
  sourceDebitMinor : ℤ
  destinationCreditMinor : ℤ
  submittedAt : String
/-- What a submit asks for. -/
structure SubmitCommand where
  idempotencyKey : String
  rail : String
/-- What a submit reads. -/
structure SubmitContext where
  clock : Clock
  corridor : Corridor
  submissions : List SubmissionRecord
/-- What a submit returns. -/
structure SubmitResult where
  intent : TransferIntent
  submission : SubmissionRecord
  duplicate : Bool
  events : List CrossborderEvent
/-- The rail and the quote of an earlier submission. -/
def isIdenticalSubmit (prior : SubmissionRecord) (rail : String) (quote : Option FrozenQuote) :
    Bool :=
  match quote with
  | some quote => prior.rail = rail ∧ prior.quoteId = quote.quoteId ∧
      prior.sourceDebitMinor = quote.sourceDebitMinor ∧
      prior.destinationCreditMinor = quote.destinationCreditMinor
  | none => false
/-- A repeated key: the same submit is observed, another refused. -/
def replaySubmit (intent : TransferIntent) (idempotencyKey rail : String) (prior : SubmissionRecord)
    (clock : Clock) : Except Thrown SubmitResult := do
  throwIf (!isIdenticalSubmit prior rail intent.quote) (.domainError "INTENT_DUPLICATE_SUBMIT"
    (s!"idempotency key \"{idempotencyKey}\" was already used for intent {intent.intentId} " ++
      "with a different payload — conflicting submits are refused")
    [("intentId", intent.intentId), ("idempotencyKey", idempotencyKey)])
  let seenAt ← (clock.now 0).toISOString
  let event ← domainEvent "crossborder.intentReplayObserved" intent.intentId
    (.replayObserved intent.intentId idempotencyKey prior.quoteId seenAt) (clock.now 1)
  pure { intent, submission := prior, duplicate := true, events := [event] }
/-- A new key: submit before the quote expires. -/
def dispatchSubmit (intent : TransferIntent) (idempotencyKey : String) (cmd : SubmitCommand)
    (ctx : SubmitContext) : Except Thrown SubmitResult := do
  throwIf (intent.status ≠ .authorized) (stateInvalid intent
    (s!"cannot submit an intent in status {intent.status}; " ++
      "only authorized intents can be submitted"))
  assertCorridorLive ctx.corridor
  let rail := trim cmd.rail
  let allowed := ", ".intercalate ctx.corridor.rails
  throwIf (rail ∉ ctx.corridor.rails) (.domainError "INTENT_RAIL_INVALID"
    (s!"rail \"{rail}\" is not allowed on corridor {ctx.corridor.corridorId} " ++
      s!"(allowed: {allowed})")
    [("corridorId", ctx.corridor.corridorId), ("rail", rail)])
  let quote ← frozenQuote intent "submission"
  assertQuoteUsable quote.quoteId quote.expiresAt (ctx.clock.now 0)
  let submittedAt ← (ctx.clock.now 1).toISOString
  let sourceDebitMinor ← minorToNumber quote.sourceDebitMinor
  let destinationCreditMinor ← minorToNumber quote.destinationCreditMinor
  let event ← domainEvent "crossborder.intentSubmitted" intent.intentId
    (.submitted intent.intentId intent.orgId intent.corridorId quote.quoteId rail idempotencyKey
      sourceDebitMinor destinationCreditMinor submittedAt) (ctx.clock.now 2)
  pure {
    intent := { intent with status := .submitted, rail, submittedAt }
    submission := {
      intentId := intent.intentId, idempotencyKey, rail, quoteId := quote.quoteId,
      sourceDebitMinor := quote.sourceDebitMinor,
      destinationCreditMinor := quote.destinationCreditMinor, submittedAt }
    duplicate := false
    events := [event] }
/-- The key decides. A replay is compared with the rail as written. -/
def submitIntent (intent : TransferIntent) (cmd : SubmitCommand) (ctx : SubmitContext) :
    Except Thrown SubmitResult := do
  let idempotencyKey := trim cmd.idempotencyKey
  throwIf (idempotencyKey = "") (DomainError "INTENT_IDEMPOTENCY_KEY_REQUIRED"
    "idempotencyKey is required for submission (R9)")
  match ctx.submissions.find? fun s =>
      s.intentId = intent.intentId ∧ s.idempotencyKey = idempotencyKey with
  | some prior => replaySubmit intent idempotencyKey cmd.rail prior ctx.clock
  | none => dispatchSubmit intent idempotencyKey cmd ctx

/-! ## Settle -/
/-- What a settlement reads. -/
structure SettleContext where
  clock : Clock
  corridor : Option Corridor
  realizedSourceDebitMinor : Option MoneyInput
  realizedDestinationCreditMinor : Option MoneyInput
  settlementRef : Option String
/-- The corridor still has the frozen fees. -/
def assertFeesUnchanged (intent : TransferIntent) (frozen : FeeBreakdown) (corridor : Corridor) :
    Except Thrown Unit := do
  let current ← computeFeeBreakdown corridor.feeSchedule (.bigint intent.sourceAmountMinor)
  throwIf (current.flatMinor ≠ frozen.flatMinor ∨ current.bpsMinor ≠ frozen.bpsMinor ∨
      current.totalMinor ≠ frozen.totalMinor ∨ current.bps ≠ frozen.bps)
    (.domainError "FEE_SCHEDULE_CHANGED"
      (s!"corridor {corridor.corridorId} fee schedule changed since authorization " ++
        s!"(frozen total {frozen.totalMinor}, current {current.totalMinor}) — " ++
        "the frozen quote governs; requote to move at new fees")
      [("intentId", intent.intentId), ("corridorId", corridor.corridorId)])
/-- A realized leg is the frozen one. -/
def assertRealizedLeg (intent : TransferIntent) (realized : MoneyInput) (frozen : ℤ)
    (field leg : String) : Except Thrown Unit := do
  let amount ← toMinorUnits realized field
  throwIf (amount ≠ frozen) (.domainError "INTENT_SETTLEMENT_MISMATCH"
    s!"realized {leg} {amount} does not reconcile with the frozen quote ({frozen})"
    [("intentId", intent.intentId)])
/-- Settle a submitted intent on its frozen quote. -/
def settleIntent (intent : TransferIntent) (ctx : SettleContext) : Except Thrown IntentResult := do
  throwIf (intent.status ≠ .submitted) (stateInvalid intent
    s!"cannot settle an intent in status {intent.status}; only submitted intents settle")
  let quote ← frozenQuote intent "settlement"
  ctx.corridor.forM (assertFeesUnchanged intent quote.fee)
  ctx.realizedSourceDebitMinor.forM fun realized => assertRealizedLeg intent realized
    quote.sourceDebitMinor "realizedSourceDebitMinor" "source debit"
  ctx.realizedDestinationCreditMinor.forM fun realized => assertRealizedLeg intent realized
    quote.destinationCreditMinor "realizedDestinationCreditMinor" "destination credit"
  let settledAt ← (ctx.clock.now 0).toISOString
  let sourceDebitMinor ← minorToNumber quote.sourceDebitMinor
  let destinationCreditMinor ← minorToNumber quote.destinationCreditMinor
  let event ← domainEvent "crossborder.intentSettled" intent.intentId
    (.settled intent.intentId intent.corridorId quote.quoteId intent.sourceCurrency
      intent.destinationCurrency sourceDebitMinor destinationCreditMinor ctx.settlementRef
      settledAt)
    (ctx.clock.now 1)
  pure {
    intent := { intent with status := .settled, settledAt, settlementRef := ctx.settlementRef }
    events := [event] }

/-! ## Cancel, fail and expire -/
/-- A reason is given. -/
def assertReason (reason op : String) : Except Thrown String := do
  let why := trim reason
  throwIf (why = "") (DomainError "INTENT_REASON_REQUIRED"
    s!"{op} an intent requires an explicit reason (R3)")
  pure why
/-- An actor is named. -/
def assertActor (actorId op : String) : Except Thrown String := do
  let actor := trim actorId
  throwIf (actor = "") (DomainError "INTENT_ACTOR_REQUIRED"
    s!"{op} an intent requires an explicit actor (R3)")
  pure actor
/-- Cancel wherever the table allows it. -/
def cancelIntent (intent : TransferIntent) (reason actorId : String) (clock : Clock) :
    Except Thrown IntentResult := do
  throwIf (!canTransition intent.status .cancelled) (stateInvalid intent
    s!"cannot cancel an intent in status {intent.status}")
  let why ← assertReason reason "cancelling"
  let actor ← assertActor actorId "cancelling"
  let cancelledAt ← (clock.now 0).toISOString
  let event ← domainEvent "crossborder.intentCancelled" intent.intentId
    (.cancelled intent.intentId intent.corridorId why actor cancelledAt) (clock.now 1)
  pure { intent := { intent with status := .cancelled, cancelledAt }, events := [event] }
/-- Fail at the rail. -/
def failIntent (intent : TransferIntent) (reason : String) (clock : Clock) :
    Except Thrown IntentResult := do
  throwIf (!canTransition intent.status .failed) (stateInvalid intent
    (s!"cannot fail an intent in status {intent.status}; " ++
      "only submitted intents can fail at the rail"))
  let why ← assertReason reason "failing"
  let failedAt ← (clock.now 0).toISOString
  let event ← domainEvent "crossborder.intentFailed" intent.intentId
    (.failed intent.intentId intent.corridorId why failedAt) (clock.now 1)
  pure { intent := { intent with status := .failed, failedAt }, events := [event] }
/-- Expire once the quote has, and leave any other intent. -/
def expireIfDue (intent : TransferIntent) (clock : Clock) : Except Thrown IntentResult :=
  match intent.quote with
  | none => .ok { intent, events := [] }
  | some quote =>
    if !canTransition intent.status .expired then .ok { intent, events := [] }
    else if millisLt (clock.now 0).getTime (toMillis quote.expiresAt) then
      .ok { intent, events := [] }
    else do
      let expiredAt ← (clock.now 0).toISOString
      pure { intent := { intent with status := .expired, expiredAt }, events := [] }

end Fuatilia.Crossborder
