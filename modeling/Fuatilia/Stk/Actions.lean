import Fuatilia.Payments.Intake
import Fuatilia.Shared.Formats
import Fuatilia.Stk.Wire

/-!
# The collect-now attempt

One attempt to collect by STK push. A command returns the attempt after it with its facts, or
throws.

## Main definitions

* `proposeStkPush`, `applyStkPolicyDecision`, `approveStkPush` — up to the clearance.
* `initiateStkPush` — on the rail.
* `reconcileStkCallback`, `expireStkPushIfDue` — resolve it, by a result callback, which goes
  through the intake of the payments module under the key of its checkout, or by its deadline.

## Implementation notes

The checks that a value has the type it is declared with have no case here. The score of the
economics is an integer: the source rounds it to a double only where it is refused anyway. Of a
policy decision the fields that no command reads are left out. `Date.parse` is modelled on ISO
spellings; any other one gives an invalid date.
-/

namespace Fuatilia.Stk

open Fallible Payments

/-! ## Vocabulary -/

def STK_PUSH_ACTION_TYPE : String := "collect_now_stk_push"
def STK_CONSENT_CHANNEL : String := "sms"
def DEFAULT_STK_PUSH_TTL_MS : ℤ := 120000

inductive ActorType where
  | human | aiAgent | integration
  deriving DecidableEq

inductive RiskClass where
  | low | elevated | high

inductive Decision where
  | allow | deny | requiresApproval
  deriving DecidableEq

instance : ToString Decision where
  toString
    | .allow => "allow"
    | .deny => "deny"
    | .requiresApproval => "requires_approval"

inductive StkPushActionState where
  | proposed | awaitingApproval | approved | refused | initiated | reconciled | failed | timedOut
  deriving DecidableEq

instance : ToString StkPushActionState where
  toString
    | .proposed => "proposed"
    | .awaitingApproval => "awaiting_approval"
    | .approved => "approved"
    | .refused => "refused"
    | .initiated => "initiated"
    | .reconciled => "reconciled"
    | .failed => "failed"
    | .timedOut => "timed_out"

def STK_PUSH_TERMINAL_STATES : List StkPushActionState := [.refused, .reconciled, .failed]

structure PolicyActor where
  type : ActorType
  actorId : String

structure DecisionConditions where
  maxAmountMinor : Option JsNumber
  allowedChannels : Option (List String)
  expiresAt : Option String
  deriving DecidableEq

structure PolicyDecision where
  decision : Decision
  reasonCode : String
  explanation : String
  matchedRuleIds : List String
  conditions : Option DecisionConditions
  orgId : Uuid
  ruleSetVersion : JsNumber

/-! ## The aggregate -/

structure StkPushEconomics where
  expectedRecoveryMinor : JsNumber
  costMinor : JsNumber
  fatiguePenaltyMinor : JsNumber
  channelFitPermill : JsNumber
  scoreMinor : JsNumber
  reasons : List String

structure StkPushPolicyRef where
  reasonCode : String
  matchedRuleIds : List String
  ruleSetVersion : JsNumber
  deriving DecidableEq

inductive RefusalStage where
  | consent | policy

structure StkPushRefusal where
  stage : RefusalStage
  reasonCode : String
  detail : String

structure StkPushApproval where
  ref : String
  approverId : String
  approvedAt : Date

structure StkPushInitiation where
  merchantRequestId : String
  checkoutRequestId : String
  idempotencyKey : String
  initiatedAt : Date
  expiresAt : Date

structure StkPushAction where
  actionId : Uuid
  orgId : Uuid
  customerId : Uuid
  receivableId : Option Uuid
  caseId : Option Uuid
  state : StkPushActionState
  amount : Money
  msisdn : String
  riskClass : RiskClass
  actor : PolicyActor
  autonomous : Bool
  economics : StkPushEconomics
  accountReference : String
  transactionDesc : String
  proposedAt : Date
  policyRef : Option StkPushPolicyRef
  refusal : Option StkPushRefusal
  approval : Option StkPushApproval
  initiation : Option StkPushInitiation
  paymentId : Option Uuid
  resolvedAt : Option Date
  resolvedLate : Option Bool
  failureCode : Option String
  failureReason : Option String
  timedOutAt : Option Date

/-! ## Events -/

/-- The payloads of the lane's events. The amount of a payload is in KES. -/
inductive StkPushPayload where
  | proposed (actionId orgId customerId : Uuid) (receivableId caseId : Option Uuid)
      (amountMinor : ℕ) (actorType : ActorType) (autonomous : Bool) (riskClass : RiskClass)
      (economics : StkPushEconomics) (proposedAt : String)
  | refused (actionId orgId customerId : Uuid) (receivableId caseId : Option Uuid)
      (stage : RefusalStage) (reasonCode detail refusedAt : String)
  | awaitingApproval (actionId orgId customerId : Uuid) (reasonCode : String)
      (matchedRuleIds : List String) (ruleSetVersion : JsNumber) (awaitingAt : String)
  | approved (actionId orgId : Uuid) (approvalRef approverId approvedAt : String)
  | initiated (actionId orgId customerId : Uuid) (merchantRequestId checkoutRequestId : String)
      (idempotencyKey : String) (amountMinor : ℕ) (ttlMs : ℤ) (expiresAt initiatedAt : String)
  | notInitiated (actionId orgId : Uuid) (reason attemptedAt : String)
  | confirmed (actionId orgId customerId paymentId : Uuid)
      (checkoutRequestId receiptNumber : String) (amountMinor : ℕ) (late : Bool)
      (reconciledAt : String)
  | failed (actionId orgId paymentId : Uuid) (checkoutRequestId : String) (resultCode : JsNumber)
      (failureCode resultDesc : String) (late : Bool) (failedAt : String)
  | timedOut (actionId orgId : Uuid) (checkoutRequestId expiresAt timedOutAt : String)

structure StkPushEvent where
  name : String
  version : ℕ
  aggregateId : Uuid
  occurredAt : String
  payload : StkPushPayload

def assertClockDate (date : Date) (code : String) : Except Thrown Date := do
  throwIf (date = .invalid) (DomainError code "clock returned an invalid Date")
  return date

def domainEvent (name : String) (aggregateId : Uuid) (payload : StkPushPayload) (clock : Clock) :
    Except Thrown StkPushEvent := do
  let now ← assertClockDate (clock.now 0) "STK_CLOCK_INVALID"
  let occurredAt ← now.toISOString
  return ⟨name, 1, aggregateId, occurredAt, payload⟩

/-! ## Shared guards -/

def assertNonBlank (raw code label : String) (max : ℕ) : Except Thrown String := do
  let value := trim raw
  throwIf (value = "") (DomainError code s!"a non-blank {label} is required")
  throwIf (max < (codeUnits value).length) (DomainError code s!"{label} exceeds {max} characters")
  return value

def assertSafeNonNegativeInt (raw : JsNumber) (code label : String) : Except Thrown ℤ :=
  match raw.safeInteger.filter (0 ≤ ·) with
  | some n => .ok n
  | none => .error (DomainError code
      s!"{label} must be a non-negative safe integer, got {raw.text}")

def subjectRef (raw : Option Uuid) (code : String) : Except Thrown (Option Uuid) :=
  match raw with
  | none => .ok none
  | some raw => (assertNonBlank raw code "subject id" 256).map some

structure ActionResult where
  action : StkPushAction
  events : List StkPushEvent

/-! ## Proposing -/

structure ProposeStkPushArgs where
  id : Option Uuid
  orgId : Uuid
  customerId : Uuid
  receivableId : Option Uuid
  caseId : Option Uuid
  actor : PolicyActor
  amount : Money
  msisdn : String
  riskClass : RiskClass
  autonomous : Bool
  economics : StkPushEconomics
  accountReference : String
  transactionDesc : String

/-- `floor(recovery × fit / 1000) − cost − fatigue`. -/
def stkPushScoreMinor (expectedRecoveryMinor channelFitPermill costMinor fatiguePenaltyMinor : ℤ) :
    ℤ :=
  (expectedRecoveryMinor * channelFitPermill).tdiv 1000 - costMinor - fatiguePenaltyMinor

/-- `/^[A-Za-z0-9]{1,12}$/`. -/
def isAccountReference (s : String) : Bool :=
  1 ≤ s.length && s.length ≤ 12 && s.toList.all Char.isAlphanum

def TRANSACTION_DESC_MAX : ℕ := 26

def assertAmount (amount : Money) : Except Thrown Unit := do
  throwIf (amount.currency ≠ .KES) (.domainError "STK_CURRENCY_UNSUPPORTED"
    s!"STK push collects on the M-Pesa rail (KES only), got {amount.currency} (R10)"
    [("currency", toString amount.currency)])
  throwIf (amount.amount ≤ 0)
    (DomainError "STK_AMOUNT_INVALID" "the collection amount must be > 0")
  throwIf (maxSafeInteger < amount.amount) (DomainError "STK_AMOUNT_INVALID"
    "the collection amount exceeds the safe-integer ceiling (cannot be carried losslessly)")

def assertPayer (raw : String) : Except Thrown String :=
  match normalizeMsisdn raw with
  | .ok msisdn => .ok msisdn
  | .error (.domainError _ message details) =>
    .error (.domainError "STK_MSISDN_INVALID" message details)
  | .error thrown => .error thrown

def assertEconomics (economics : StkPushEconomics) : Except Thrown Unit := do
  let recovery ← assertSafeNonNegativeInt economics.expectedRecoveryMinor "STK_ECONOMICS_INVALID"
    "expectedRecoveryMinor"
  let cost ← assertSafeNonNegativeInt economics.costMinor "STK_ECONOMICS_INVALID" "costMinor"
  let fatigue ← assertSafeNonNegativeInt economics.fatiguePenaltyMinor "STK_ECONOMICS_INVALID"
    "fatiguePenaltyMinor"
  let fit := economics.channelFitPermill.safeInteger
  throwIf (fit.all fun fit => fit < 0 ∨ 1000 < fit) (DomainError "STK_ECONOMICS_INVALID"
    s!"channelFitPermill must be a safe integer in 0..1000, got {economics.channelFitPermill.text}")
  throwIf (economics.reasons = [] ∨ ∃ reason ∈ economics.reasons, trim reason = "")
    (DomainError "STK_ECONOMICS_INVALID"
      ("a recommendation requires at least one non-blank reason (explainability is a hard " ++
        "requirement)"))
  let recomputed := stkPushScoreMinor recovery (fit.getD 0) cost fatigue
  throwIf (maxSafeInteger < recomputed ∨ recomputed < -maxSafeInteger)
    (DomainError "STK_ECONOMICS_INVALID" "scoreMinor exceeds the safe-integer ceiling")
  throwIf (economics.scoreMinor.value ≠ some (recomputed : ℚ)) (DomainError "STK_ECONOMICS_INVALID"
    (s!"scoreMinor {economics.scoreMinor.text} disagrees with the recomputed net benefit " ++
      s!"{recomputed} — the economics bundle is inconsistent"))

def assertAccountReference (raw : String) : Except Thrown String := do
  let accountReference ← assertNonBlank raw "STK_REFERENCE_INVALID" "accountReference" 12
  throwIf (!isAccountReference accountReference) (.domainError "STK_REFERENCE_INVALID"
    "accountReference must be 1-12 alphanumerics (the customer sees it on the prompt)"
    [("value", accountReference)])
  return accountReference

def proposeStkPush (args : ProposeStkPushArgs) (clock : Clock) : Except Thrown ActionResult := do
  let proposedAt ← assertClockDate (clock.now 0) "STK_CLOCK_INVALID"
  let orgId ← assertNonBlank args.orgId "STK_ORG_REQUIRED" "orgId" 256
  let customerId ← assertNonBlank args.customerId "STK_CUSTOMER_REQUIRED" "customerId" 256
  let receivableId ← subjectRef args.receivableId "STK_SUBJECT_INVALID"
  let caseId ← subjectRef args.caseId "STK_SUBJECT_INVALID"
  let actorId ← assertNonBlank args.actor.actorId "STK_ACTOR_INVALID" "actor id" 256
  throwIf (args.actor.type = .human ∧ args.autonomous = true) (DomainError "STK_AUTONOMY_MISMATCH"
    ("a human actor cannot claim an autonomous push — autonomous means no human in the loop"))
  assertAmount args.amount
  let msisdn ← assertPayer args.msisdn
  assertEconomics args.economics
  let accountReference ← assertAccountReference args.accountReference
  let transactionDesc ← assertNonBlank args.transactionDesc "STK_REFERENCE_INVALID"
    "transactionDesc" TRANSACTION_DESC_MAX
  let iso ← proposedAt.toISOString
  let actionId := args.id.getD
    (uuidFromSeed s!"stkpush:{orgId}:{customerId}:{msisdn}:{args.amount.amount}:{iso}")
  let action : StkPushAction := {
    actionId, orgId, customerId, receivableId, caseId, state := .proposed, amount := args.amount,
    msisdn, riskClass := args.riskClass, actor := ⟨args.actor.type, actorId⟩,
    autonomous := args.autonomous, economics := args.economics, accountReference, transactionDesc,
    proposedAt, policyRef := none, refusal := none, approval := none, initiation := none,
    paymentId := none, resolvedAt := none, resolvedLate := none, failureCode := none,
    failureReason := none, timedOutAt := none }
  let event ← domainEvent "stk.pushProposed" actionId
    (.proposed actionId orgId customerId receivableId caseId args.amount.amount args.actor.type
      args.autonomous args.riskClass args.economics iso) (pinnedClock proposedAt)
  return ⟨action, [event]⟩

/-! ## The policy decision -/

def wrongState (action : StkPushAction) (message : String) : Thrown :=
  .domainError "STK_STATE_INVALID" (message ++ s!", got {action.state}")
    [("actionId", action.actionId), ("state", toString action.state)]

def applyStkPolicyDecision (action : StkPushAction) (decision : PolicyDecision) (clock : Clock) :
    Except Thrown ActionResult := do
  throwIf (action.state ≠ .proposed)
    (wrongState action "the policy decision applies to proposed attempts")
  throwIf (decision.orgId ≠ action.orgId) (.domainError "STK_DECISION_MISMATCH"
    "the decision belongs to another org — refusing to apply it"
    [("decisionOrgId", decision.orgId), ("actionOrgId", action.orgId)])
  let reasonCode ← assertNonBlank decision.reasonCode "STK_DECISION_MISMATCH"
    "decision reasonCode" 256
  let now ← assertClockDate (clock.now 0) "STK_CLOCK_INVALID"
  let policyRef : StkPushPolicyRef := ⟨reasonCode, decision.matchedRuleIds, decision.ruleSetVersion⟩
  match decision.decision with
  | .deny =>
    let detail ← assertNonBlank decision.explanation "STK_DECISION_MISMATCH"
      "decision explanation" 256
    let iso ← now.toISOString
    let event ← domainEvent "stk.pushRefused" action.actionId
      (.refused action.actionId action.orgId action.customerId action.receivableId action.caseId
        .policy reasonCode detail iso) (pinnedClock now)
    return ⟨{ action with
        state := .refused, policyRef := some policyRef,
        refusal := some ⟨.policy, reasonCode, detail⟩ }, [event]⟩
  | .requiresApproval =>
    let iso ← now.toISOString
    let event ← domainEvent "stk.pushAwaitingApproval" action.actionId
      (.awaitingApproval action.actionId action.orgId action.customerId reasonCode
        decision.matchedRuleIds decision.ruleSetVersion iso) (pinnedClock now)
    return ⟨{ action with state := .awaitingApproval, policyRef := some policyRef }, [event]⟩
  | .allow => return ⟨{ action with policyRef := some policyRef }, []⟩

/-! ## The human approval -/

structure ApproveStkPushArgs where
  approvalRef : String
  approverId : String

def approveStkPush (action : StkPushAction) (args : ApproveStkPushArgs) (clock : Clock) :
    Except Thrown ActionResult := do
  throwIf (action.state ≠ .awaitingApproval)
    (wrongState action "only attempts awaiting approval can be approved")
  let approvalRef ← assertNonBlank args.approvalRef "STK_APPROVAL_INVALID" "approval reference" 256
  let approverId ← assertNonBlank args.approverId "STK_APPROVAL_INVALID" "approver id" 256
  let approvedAt ← assertClockDate (clock.now 0) "STK_CLOCK_INVALID"
  let iso ← approvedAt.toISOString
  let event ← domainEvent "stk.pushApproved" action.actionId
    (.approved action.actionId action.orgId approvalRef approverId iso) (pinnedClock approvedAt)
  return ⟨{ action with
      state := .approved, approval := some ⟨approvalRef, approverId, approvedAt⟩ }, [event]⟩

/-! ## Initiating -/

structure InitiateStkPushArgs where
  clearance : Option PolicyDecision
  ttlMs : Option JsNumber

inductive InitiateStkPushResult where
  | accepted (attempt : StkPushAction) (events : List StkPushEvent)
  | wireRejected (reason : String) (attempt : StkPushAction) (events : List StkPushEvent)

/-- `amount > bound` on numbers: no amount exceeds `NaN` or `Infinity`. -/
def exceeds (amount : ℕ) (bound : JsNumber) : Bool :=
  match bound.value with
  | some b => b < amount
  | none => bound.text == "-Infinity"

def isAtOrAfter : Date → Date → Bool
  | .ofTime a, .ofTime b => b ≤ a
  | _, _ => false

def assertConditions (action : StkPushAction) (conditions : DecisionConditions) (now : Date) :
    Except Thrown Unit := do
  let amountMinor := action.amount.amount
  let granted := (conditions.maxAmountMinor.map (·.text)).getD ""
  throwIf (conditions.maxAmountMinor.any (exceeds amountMinor ·))
    (.domainError "STK_CLEARANCE_AMOUNT_EXCEEDED"
      s!"the collection amount {amountMinor} exceeds the granted maxAmountMinor {granted}"
      [("amountMinor", toString amountMinor), ("maxAmountMinor", granted)])
  let channels := conditions.allowedChannels.getD []
  throwIf (conditions.allowedChannels.any fun channels => !channels.contains STK_CONSENT_CHANNEL)
    (.domainError "STK_CLEARANCE_CHANNEL_FORBIDDEN"
      ("the grant allows channels [" ++ ", ".intercalate channels ++
      s!"], not {STK_CONSENT_CHANNEL}") [("allowedChannels", ",".intercalate channels)])
  let lapsed := conditions.expiresAt.getD ""
  throwIf (conditions.expiresAt.any fun expiresAt => isAtOrAfter now (Date.parseIso expiresAt))
    (.domainError "STK_CLEARANCE_EXPIRED"
      s!"the grant lapsed at {lapsed} — a lapsed clearance never initiates"
      [("expiresAt", lapsed)])

def assertClearance (action : StkPushAction) (decision : PolicyDecision) (now : Date) :
    Except Thrown Unit := do
  throwIf (decision.decision ≠ .allow) (.domainError "STK_CLEARANCE_INVALID"
    s!"initiation requires an allow decision, got {decision.decision} (a refusal grants nothing)"
    [("decision", toString decision.decision), ("reasonCode", decision.reasonCode)])
  throwIf (decision.orgId ≠ action.orgId) (.domainError "STK_DECISION_MISMATCH"
    "the clearance belongs to another org"
    [("decisionOrgId", decision.orgId), ("actionOrgId", action.orgId)])
  match decision.conditions with
  | none => return
  | some conditions => assertConditions action conditions now

def clearAttempt (action : StkPushAction) (clearance : Option PolicyDecision) (clock : Clock) :
    Except Thrown Clock :=
  match clearance with
  | none => .ok clock
  | some decision => do
    let now ← assertClockDate (clock.now 0) "STK_CLOCK_INVALID"
    assertClearance action decision now
    return clock.after 1

def assertTtl (ttlMs : Option JsNumber) : Except Thrown ℤ :=
  match ttlMs with
  | none => .ok DEFAULT_STK_PUSH_TTL_MS
  | some raw => match raw.safeInteger.filter (0 < ·) with
    | some ttl => .ok ttl
    | none => .error (DomainError "STK_TTL_INVALID"
        s!"ttlMs must be a safe positive integer, got {raw.text}")

def assertEchoedCheckout (raw : String) : Except Thrown String := do
  let checkoutRequestId ← assertNonBlank raw "STK_WIRE_ECHO_INVALID" "checkoutRequestId" 256
  throwIf (!isCheckoutId checkoutRequestId) (.domainError "STK_WIRE_ECHO_INVALID"
    (s!"checkoutRequestId \"{checkoutRequestId}\" must match ws_CO_<alphanumerics> " ++
      "(conformance mirror)")
    [("value", checkoutRequestId)])
  return checkoutRequestId

def addMs : Date → ℤ → Date
  | .invalid, _ => .invalid
  | .ofTime t, ms => Date.ofMs (t + ms)

def recordOutcome (action : StkPushAction) (idempotencyKey : String) (initiatedAt : Date)
    (ttlMs : ℤ) (outcome : StkPushInitiationOutcome) : Except Thrown InitiateStkPushResult := do
  let iso ← initiatedAt.toISOString
  match outcome with
  | .rejected failureReason =>
    let reason ← assertNonBlank failureReason "STK_WIRE_ECHO_INVALID" "wire rejection reason" 256
    let event ← domainEvent "stk.pushNotInitiated" action.actionId
      (.notInitiated action.actionId action.orgId reason iso) (pinnedClock initiatedAt)
    return .wireRejected reason action [event]
  | .accepted merchant checkout _ =>
    let merchantRequestId ← assertNonBlank merchant "STK_WIRE_ECHO_INVALID" "merchantRequestId" 256
    let checkoutRequestId ← assertEchoedCheckout checkout
    let expiresAt := addMs initiatedAt ttlMs
    let expiresIso ← expiresAt.toISOString
    let event ← domainEvent "stk.pushInitiated" action.actionId
      (.initiated action.actionId action.orgId action.customerId merchantRequestId checkoutRequestId
        idempotencyKey action.amount.amount ttlMs expiresIso iso) (pinnedClock initiatedAt)
    return .accepted { action with
      state := .initiated
      initiation := some
        ⟨merchantRequestId, checkoutRequestId, idempotencyKey, initiatedAt, expiresAt⟩ } [event]

def initiateStkPush (action : StkPushAction) (args : InitiateStkPushArgs) (wire : StkPushWire)
    (clock : Clock) : Except Thrown InitiateStkPushResult := do
  throwIf (action.state ≠ .proposed ∧ action.state ≠ .approved)
    (wrongState action "only proposed or approved attempts can be initiated")
  throwIf (action.state = .proposed ∧ args.clearance = none) (DomainError "STK_CLEARANCE_INVALID"
    "a proposed attempt requires the engine allow decision as its clearance")
  let clock ← clearAttempt action args.clearance clock
  let initiatedAt ← assertClockDate (clock.now 0) "STK_CLOCK_INVALID"
  let ttlMs ← assertTtl args.ttlMs
  let msisdn ← toDarajaMsisdn action.msisdn
  let idempotencyKey := initiationIdempotencyKey action.actionId
  recordOutcome action idempotencyKey initiatedAt ttlMs (wire {
    actionId := action.actionId, orgId := action.orgId, customerId := action.customerId,
    amountMinor := action.amount.amount, msisdn, accountReference := action.accountReference,
    transactionDesc := action.transactionDesc, idempotencyKey })

/-! ## Reconciling -/

structure ReconcileStkCallbackResult where
  attempt : StkPushAction
  payment : Payment
  duplicate : Bool
  paymentEvents : List PaymentEvent
  stkEvents : List StkPushEvent

/-- The callback behind the boundary, when it belongs to the checkout of the attempt and reports the
amount that was asked for. -/
def acceptCallback (action : StkPushAction) (raw : StkPushResultCallbackInput) :
    Except Thrown StkPushResultCallback := do
  let callback ← assertStkResultCallback raw
  match action.initiation with
  | none => throw (wrongState action "a result callback reconciles an initiated attempt")
  | some initiation =>
    throwIf (action.state ∉ [.initiated, .reconciled, .failed, .timedOut])
      (wrongState action "a result callback reconciles an initiated attempt")
    throwIf (callback.checkoutRequestId ≠ initiation.checkoutRequestId)
      (.domainError "STK_CALLBACK_UNKNOWN"
        (s!"callback checkout {callback.checkoutRequestId} does not belong to attempt " ++
          s!"{action.actionId} (opened {initiation.checkoutRequestId})")
        [("checkoutRequestId", callback.checkoutRequestId),
          ("expected", initiation.checkoutRequestId)])
    let paid := (callback.paidMinor.map toString).getD "undefined"
    throwIf (callback.success = true ∧ callback.paidMinor ≠ some (action.amount.amount : ℤ))
      (.domainError "STK_AMOUNT_MISMATCH"
        (s!"success metadata carries {paid} minor but the attempt initiated " ++
          s!"{action.amount.amount} — refusing to confirm untrusted money (K1)")
        [("paidMinor", paid), ("initiatedMinor", toString action.amount.amount)])
    return callback

def intakeCommand (action : StkPushAction) (callback : StkPushResultCallback) : IntakeCommand where
  channel := .stk
  externalRef := callback.reference
  idempotencyKey := paymentIdempotencyKey callback.checkoutRequestId
  amount := action.amount
  customerId := some action.customerId
  declaredRefs := []
  paymentId := none

def confirmAttempt (action : StkPushAction) (callback : StkPushResultCallback)
    (intake : IntakeResult) (now : Date) (clock : Clock) :
    Except Thrown ReconcileStkCallbackResult := do
  let late := action.state == .timedOut
  let awaited ← awaitConfirmation intake.payment
  let confirmed ← confirmPayment awaited.payment action.amount clock
  let iso ← now.toISOString
  let event ← domainEvent "stk.pushConfirmed" action.actionId
    (.confirmed action.actionId action.orgId action.customerId confirmed.payment.id
      callback.checkoutRequestId (callback.receiptNumber.getD "") action.amount.amount late iso)
    (pinnedClock now)
  return {
    attempt := { action with
      state := .reconciled, paymentId := some confirmed.payment.id, resolvedAt := some now,
      resolvedLate := some late }
    payment := confirmed.payment
    duplicate := false
    paymentEvents := intake.events ++ confirmed.events
    stkEvents := [event] }

def failAttempt (action : StkPushAction) (callback : StkPushResultCallback) (intake : IntakeResult)
    (now : Date) (clock : Clock) : Except Thrown ReconcileStkCallbackResult := do
  let late := action.state == .timedOut
  let failureCode := "STK_RESULT_" ++ callback.resultCode.text
  let failed ← failPayment intake.payment failureCode clock
  let iso ← now.toISOString
  let event ← domainEvent "stk.pushFailed" action.actionId
    (.failed action.actionId action.orgId failed.payment.id callback.checkoutRequestId
      callback.resultCode failureCode callback.resultDesc late iso) (pinnedClock now)
  return {
    attempt := { action with
      state := .failed, paymentId := some failed.payment.id, resolvedAt := some now,
      resolvedLate := some late, failureCode := some failureCode,
      failureReason := some callback.resultDesc }
    payment := failed.payment
    duplicate := false
    paymentEvents := intake.events ++ failed.events
    stkEvents := [event] }

/-- Reconcile a result callback through the intake; `existing` are the payments already known. -/
def reconcileStkCallback (action : StkPushAction) (raw : StkPushResultCallbackInput) (clock : Clock)
    (existing : List Payment) : Except Thrown ReconcileStkCallbackResult := do
  let callback ← acceptCallback action raw
  let intake ← intakePayment (intakeCommand action callback) ⟨clock, existing⟩
  if intake.duplicate then
    return ⟨action, intake.payment, true, intake.events, []⟩
  else
    -- the intake of a new payment reads the clock twice
    let now ← assertClockDate (clock.now 2) "STK_CLOCK_INVALID"
    if callback.success then confirmAttempt action callback intake now (clock.after 3)
    else failAttempt action callback intake now (clock.after 3)

/-! ## The deadline -/

def isStkPushDue (action : StkPushAction) (now : Date) : Bool :=
  action.state == .initiated &&
    action.initiation.any fun initiation => isAtOrAfter now initiation.expiresAt

def expireStkPushIfDue (action : StkPushAction) (clock : Clock) : Except Thrown ActionResult := do
  let now ← assertClockDate (clock.now 0) "STK_CLOCK_INVALID"
  match action.initiation.filter fun _ => isStkPushDue action now with
  | none => return ⟨action, []⟩
  | some initiation =>
    let expiresIso ← initiation.expiresAt.toISOString
    let iso ← now.toISOString
    let event ← domainEvent "stk.pushTimedOut" action.actionId
      (.timedOut action.actionId action.orgId initiation.checkoutRequestId expiresIso iso)
      (pinnedClock now)
    return ⟨{ action with state := .timedOut, timedOutAt := some now }, [event]⟩

end Fuatilia.Stk
