import Fuatilia.Approvals.Policy

/-!
# Approval requests

The commands of the maker-checker workflow. A malformed call throws; a refusal by the rules of
governance is a value with the unchanged request and the fact of the refusal.

## Main definitions

* `ApprovalRequest`, `OperationResult` — a request, and the answer to a command.
* `openApprovalRequest` — the only command that reads its clock twice.
* `submitApprovalRequest`, `approve`, `reject`, `expireApprovalRequest`, `cancelApprovalRequest`,
  `markApplied` — the others.
-/

namespace Fuatilia.Approvals

open Fallible

/-! ## The aggregate -/

inductive ApprovalStatus where
  | drafted
  | pending
  | approved
  | rejected
  | expired
  | cancelled
  | applied
  deriving DecidableEq

namespace ApprovalStatus

def text : ApprovalStatus → String
  | drafted => "drafted"
  | pending => "pending"
  | approved => "approved"
  | rejected => "rejected"
  | expired => "expired"
  | cancelled => "cancelled"
  | applied => "applied"

instance : ToString ApprovalStatus := ⟨text⟩

end ApprovalStatus
/-- The table of moves. -/
def approvalTransitions : ApprovalStatus → List ApprovalStatus
  | .drafted => [.pending]
  | .pending => [.approved, .rejected, .expired, .cancelled]
  | .approved => [.applied]
  | .rejected | .expired | .cancelled | .applied => []

structure PayloadSnapshotInput where
  amountMinor : Option JsNumber
  currency : Option String
  summary : String

structure PayloadSnapshot where
  amountMinor : Option ℤ
  currency : Option Currency
  summary : String

structure ApprovalDecisionRecord where
  approverId : String
  matchedRoles : List String
  decidedAt : Date

structure ApprovalRequest where
  approvalRequestId : Uuid
  orgId : Uuid
  operationType : OperationType
  policyId : Uuid
  subjectRefs : List Uuid
  payloadSnapshot : PayloadSnapshot
  requesterId : String
  state : ApprovalStatus
  requiredApproverRoles : List String
  quorum : ℤ
  createdAt : Date
  expiresAt : Date
  submittedAt : Option Date
  approvedAt : Option Date
  rejectedAt : Option Date
  rejectedReason : Option String
  expiredAt : Option Date
  cancelledAt : Option Date
  cancelledBy : Option String
  appliedAt : Option Date
  decisions : List ApprovalDecisionRecord

/-! ## Facts and outcomes -/

inductive RefusalOperation where
  | submit
  | approve
  | reject
  | expire
  | cancel
  | apply

inductive ApprovalPayload where
  | requestCreated (orgId approvalRequestId : Uuid) (operationType : OperationType)
      (policyId : Uuid) (subjectRefs : List Uuid) (payloadSnapshot : PayloadSnapshot)
      (requesterId : String)
      (requiredApproverRoles : List String) (quorum ttlDays : ℤ) (expiresAt createdAt : String)
  | quorumMet (orgId approvalRequestId : Uuid) (operationType : OperationType)
      (quorum distinctApproverCount : ℤ) (metAt : String)
  | approved (orgId approvalRequestId : Uuid) (operationType : OperationType)
      (quorum distinctApproverCount : ℤ) (approvedAt : String)
  | rejected (orgId approvalRequestId : Uuid) (operationType : OperationType)
      (rejectedBy reason rejectedAt : String)
  | expired (orgId approvalRequestId : Uuid) (operationType : OperationType)
      (expiresAt expiredAt : String)
  | cancelled (orgId approvalRequestId : Uuid) (operationType : OperationType)
      (cancelledBy cancelledAt : String)
  | applied (orgId approvalRequestId : Uuid) (operationType : OperationType) (appliedAt : String)
  | decisionRefused (orgId approvalRequestId : Uuid) (operationType : OperationType)
      (attempted : RefusalOperation) (attemptedBy : Option String) (reasonCode detail : String)

structure ApprovalEvent where
  name : String
  version : ℕ
  aggregateId : Uuid
  occurredAt : String
  payload : ApprovalPayload

structure ApprovalRefusal where
  operation : RefusalOperation
  reasonCode : String
  detail : String
  attemptedBy : Option String

structure ApprovalEvidence where
  approvalRequestId : Uuid
  orgId : Uuid
  operationType : OperationType
  policyId : Uuid
  subjectRefs : List Uuid
  payloadSnapshot : PayloadSnapshot
  requesterId : String
  requiredApproverRoles : List String
  quorum : ℤ
  distinctApproverCount : ℕ
  decisions : List (String × List String × String)
  createdAt : String
  expiresAt : String
  approvedAt : String
  appliedAt : String

/-- The outcome of a command: the new request and its facts (and, when it was marked applied, the
evidence), or the unchanged request with the refusal and its fact. -/
inductive OperationResult where
  | accepted (request : ApprovalRequest) (events : List ApprovalEvent)
      (evidence : Option ApprovalEvidence)
  | refused (request : ApprovalRequest) (refusal : ApprovalRefusal) (event : ApprovalEvent)

def domainEvent (name : String) (aggregateId : Uuid) (payload : ApprovalPayload) (now : Date) :
    Except Thrown ApprovalEvent :=
  match now with
  | .invalid => .error (DomainError "APPROVAL_CLOCK_INVALID"
      "clock.now() must return a valid Date, got Invalid Date")
  | .ofTime t => do
    let occurredAt ← (Date.ofTime t).toISOString
    pure { name, version := 1, aggregateId, occurredAt, payload }

def assertClockDate (now : Date) : Except Thrown Date :=
  match now with
  | .invalid => .error (DomainError "APPROVAL_CLOCK_INVALID" "clock returned an invalid Date")
  | .ofTime t => .ok (.ofTime t)

def isPast (now limit : Date) : Bool := millisLt limit.getTime now.getTime
/-- A refusal leaves the request and is a fact. -/
def refuse (request : ApprovalRequest) (operation : RefusalOperation) (attemptedBy : Option String)
    (code detail : String) (now : Date) : Except Thrown OperationResult := do
  let event ← domainEvent "approvals.decisionRefused" request.approvalRequestId
    (.decisionRefused request.orgId request.approvalRequestId request.operationType operation
      attemptedBy code detail) now
  pure (.refused request { operation, reasonCode := code, detail, attemptedBy } event)

def stateRefusalFor (request : ApprovalRequest) (now : Date) (fallbackCode : String) :
    Except Thrown (Option (String × String)) :=
  match request.state with
  | .pending =>
    if isPast now request.expiresAt then do
      let iso ← request.expiresAt.toISOString
      pure (some ("APPROVAL_REQUEST_EXPIRED",
        s!"request expired at {iso} — the TTL sweep owns the transition"))
    else pure none
  | .expired => pure (some ("APPROVAL_REQUEST_EXPIRED", "the request has expired"))
  | .cancelled =>
    pure (some ("APPROVAL_REQUEST_CANCELLED", "the request was cancelled by its requester"))
  | state => pure (some (fallbackCode, s!"the request is {state}, not pending"))

/-! ## Open -/

structure OpenApprovalRequestArgs where
  approvalRequestId : Uuid
  orgId : Uuid
  operationType : String
  subjectRefs : List Uuid
  payloadSnapshot : PayloadSnapshotInput
  requesterId : String

def validateSnapshotAmount (amountMinor : Option JsNumber) (currency : Option String) :
    Except Thrown (Option ℤ × Option Currency) :=
  match amountMinor, currency with
  | none, none => .ok (none, none)
  | some amount, some code =>
    match safeIntegerFrom amount 0 with
    | none => .error (DomainError "APPROVAL_AMOUNT_INVALID"
        s!"snapshot amountMinor must be a non-negative safe integer, got {amount.text}")
    | some n =>
      match parseCurrency code with
      | none =>
        .error (.domainError "APPROVAL_CURRENCY_INVALID" s!"unknown snapshot currency: {code}"
            [("allowed", allowedCurrencies)])
      | some currency => .ok (some n, some currency)
  | _, _ => .error (DomainError "APPROVAL_AMOUNT_INVALID"
      "snapshot amountMinor and currency must be supplied together (both or neither)")

def summaryMaxChars : ℕ := 512

def validateSnapshot (snapshot : PayloadSnapshotInput) : Except Thrown PayloadSnapshot := do
  throwIf (!isNonBlank snapshot.summary) (DomainError "APPROVAL_SUMMARY_REQUIRED"
    "a payload snapshot requires a non-blank (redacted) summary")
  throwIf ((codeUnits snapshot.summary).length > summaryMaxChars)
    (DomainError "APPROVAL_SUMMARY_TOO_LONG"
      s!"snapshot summary exceeds {summaryMaxChars} chars (keep it redacted and small)")
  let (amountMinor, currency) ← validateSnapshotAmount snapshot.amountMinor snapshot.currency
  pure { amountMinor, currency, summary := snapshot.summary }

def assertRequestOperation (operationType : String) (policy : ApprovalPolicy) :
    Except Thrown OperationType :=
  match OperationType.parse operationType with
  | none =>
    .error (.domainError "APPROVAL_OPERATION_INVALID" s!"unknown operation type: {operationType}"
        [("allowed", allowedOperations)])
  | some op => do
    throwIf (op ≠ policy.operationType) (DomainError "APPROVAL_OPERATION_MISMATCH"
      s!"request operationType {operationType} does not match policy {policy.operationType}")
    pure op

def assertSubjects (subjects : List Uuid) : Except Thrown Unit := do
  throwIf (subjects = []) (DomainError "APPROVAL_SUBJECTS_REQUIRED"
    "an approval request must reference at least one subject")
  forM subjects fun subject => throwIf (!isNonBlank subject) (DomainError "APPROVAL_SUBJECT_INVALID"
    s!"subject refs must be non-blank ids, got {subject}")
  throwIf (subjects.eraseDups.length ≠ subjects.length) (DomainError "APPROVAL_SUBJECT_DUPLICATE"
    "an approval request references the same subject twice")

/-- `new Date(createdAt.getTime() + ttlDays * 86_400_000)`. -/
def addDays (createdAt : Date) (ttlDays : ℤ) : Date :=
  match createdAt with
  | .ofTime t => Date.ofMs (t + ttlDays * 86400000)
  | .invalid => .invalid
/-- Draft a request under a policy that covers it. -/
def openApprovalRequest (args : OpenApprovalRequestArgs) (policyInput : ApprovalPolicyInput)
    (clock : Clock) : Except Thrown (ApprovalRequest × ApprovalEvent) := do
  let createdAt ← assertClockDate (clock.now 0)
  throwIf (!isNonBlank args.approvalRequestId) (DomainError "APPROVAL_ID_REQUIRED"
    "an approval request requires an approvalRequestId")
  throwIf (!isNonBlank args.orgId) (DomainError "APPROVAL_ORG_REQUIRED"
    "an approval request requires an orgId")
  let policy ← assertApprovalPolicy policyInput
  throwIf (policy.orgId ≠ args.orgId) (DomainError "APPROVAL_POLICY_ORG_MISMATCH"
    (s!"policy {policy.policyId} belongs to org {policy.orgId}, " ++
      s!"but the request targets org {args.orgId}"))
  let operationType ← assertRequestOperation args.operationType policy
  assertSubjects args.subjectRefs
  let payloadSnapshot ← validateSnapshot args.payloadSnapshot
  throwIf (operationType.requiresAmount ∧ payloadSnapshot.amountMinor = none)
    (DomainError "APPROVAL_AMOUNT_REQUIRED"
      s!"{operationType} requires a quantified amount in the snapshot — fail-closed")
  throwIf (!isNonBlank args.requesterId) (DomainError "APPROVAL_REQUESTER_REQUIRED"
    "an approval request requires a requesterId")
  let expiresAt := addDays createdAt policy.ttlDays
  let request : ApprovalRequest := {
    approvalRequestId := args.approvalRequestId, orgId := args.orgId, operationType,
    policyId := policy.policyId, subjectRefs := args.subjectRefs, payloadSnapshot,
    requesterId := args.requesterId, state := .drafted,
    requiredApproverRoles := policy.requiredApproverRoles, quorum := policy.quorum, createdAt,
    expiresAt, submittedAt := none, approvedAt := none, rejectedAt := none, rejectedReason := none,
    expiredAt := none, cancelledAt := none, cancelledBy := none, appliedAt := none,
    decisions := [] }
  let expiresText ← expiresAt.toISOString
  let createdText ← createdAt.toISOString
  let event ← domainEvent "approvals.requestCreated" request.approvalRequestId
    (.requestCreated request.orgId request.approvalRequestId request.operationType request.policyId
      request.subjectRefs request.payloadSnapshot request.requesterId request.requiredApproverRoles
      request.quorum policy.ttlDays expiresText createdText) (clock.now 1)
  pure (request, event)

/-! ## Submit -/
/-- Put a draft before its checkers. -/
def submitApprovalRequest (request : ApprovalRequest) (clock : Clock) :
    Except Thrown OperationResult := do
  let now ← assertClockDate (clock.now 0)
  match request.state with
  | .drafted =>
    if isPast now request.expiresAt then
      refuse request .submit none "APPROVAL_REQUEST_EXPIRED"
        "the draft rotted past its TTL — open a fresh request" now
    else pure (.accepted { request with state := .pending, submittedAt := some now } [] none)
  | .expired => refuse request .submit none "APPROVAL_REQUEST_EXPIRED" "the request has expired" now
  | .cancelled =>
    refuse request .submit none "APPROVAL_REQUEST_CANCELLED" "the request was cancelled" now
  | state =>
    refuse request .submit none "APPROVAL_NOT_DRAFTED" s!"the request is {state}, not drafted" now

/-! ## Approve -/

structure ApproveArgs where
  approverId : String
  roleIds : List String

def matchedRoles (required presented : List String) : List String :=
  jsSort compareText (required.filter (· ∈ presented)).eraseDups
/-- One more approval; the last one of the quorum approves. -/
def recordApproval (request : ApprovalRequest) (record : ApprovalDecisionRecord) :
    Except Thrown OperationResult := do
  let decisions := request.decisions ++ [record]
  let count : ℤ := decisions.length
  if count < request.quorum then pure (.accepted { request with decisions } [] none)
  else do
    let approvedText ← record.decidedAt.toISOString
    let quorumMet ← domainEvent "approvals.quorumMet" request.approvalRequestId
      (.quorumMet request.orgId request.approvalRequestId request.operationType request.quorum count
        approvedText) record.decidedAt
    let approved ← domainEvent "approvals.approved" request.approvalRequestId
      (.approved request.orgId request.approvalRequestId request.operationType request.quorum count
        approvedText) record.decidedAt
    pure (.accepted
      { request with decisions, state := .approved, approvedAt := some record.decidedAt }
      [quorumMet, approved] none)
/-- Approve as another person with a required role, on time. -/
def approve (request : ApprovalRequest) (args : ApproveArgs) (clock : Clock) :
    Except Thrown OperationResult := do
  let decidedAt ← assertClockDate (clock.now 0)
  throwIf (!isNonBlank args.approverId) (DomainError "APPROVAL_APPROVER_REQUIRED"
    "an approval requires a non-blank approverId")
  forM args.roleIds fun role => throwIf (!isNonBlank role)
    (DomainError "APPROVAL_APPROVER_ROLES_INVALID" s!"held role ids must be non-blank, got {role}")
  let refusal ← stateRefusalFor request decidedAt "APPROVAL_NOT_PENDING"
  match refusal with
  | some (code, detail) => refuse request .approve (some args.approverId) code detail decidedAt
  | none =>
    let roles := matchedRoles request.requiredApproverRoles args.roleIds
    let required := ", ".intercalate request.requiredApproverRoles
    if args.approverId = request.requesterId then
      refuse request .approve (some args.approverId) "APPROVAL_SELF_APPROVAL_REFUSED"
        "the requester of an operation can never approve it (maker-checker)" decidedAt
    else if roles = [] then
      refuse request .approve (some args.approverId) "APPROVAL_ROLE_NOT_HELD"
        s!"approver holds none of the required roles [{required}]" decidedAt
    else if args.approverId ∈ request.decisions.map ApprovalDecisionRecord.approverId then
      refuse request .approve (some args.approverId) "APPROVAL_APPROVER_DUPLICATE"
        (s!"{args.approverId} has already approved this request — " ++
          "quorum counts DISTINCT approvers") decidedAt
    else recordApproval request { approverId := args.approverId, matchedRoles := roles, decidedAt }

/-! ## Reject -/

structure RejectArgs where
  rejectedBy : String
  reason : String
/-- One rejection rejects the request. -/
def reject (request : ApprovalRequest) (args : RejectArgs) (clock : Clock) :
    Except Thrown OperationResult := do
  let rejectedAt ← assertClockDate (clock.now 0)
  throwIf (!isNonBlank args.rejectedBy) (DomainError "APPROVAL_ACTOR_REQUIRED"
    "a rejection requires a non-blank rejectedBy")
  throwIf (!isNonBlank args.reason) (DomainError "APPROVAL_REASON_REQUIRED"
    "a rejection requires a non-blank reason")
  let refusal ← stateRefusalFor request rejectedAt "APPROVAL_NOT_PENDING"
  match refusal with
  | some (code, detail) => refuse request .reject (some args.rejectedBy) code detail rejectedAt
  | none =>
    let reason := trim args.reason
    let rejectedText ← rejectedAt.toISOString
    let event ← domainEvent "approvals.rejected" request.approvalRequestId
      (.rejected request.orgId request.approvalRequestId request.operationType args.rejectedBy
        reason rejectedText) rejectedAt
    pure (.accepted { request with state := .rejected, rejectedAt := some rejectedAt,
                                   rejectedReason := some reason } [event] none)

/-! ## Expire -/
/-- The sweep of requests past their days to live. -/
def expireApprovalRequest (request : ApprovalRequest) (clock : Clock) :
    Except Thrown OperationResult := do
  let expiredAt ← assertClockDate (clock.now 0)
  if request.state ≠ .pending then
    refuse request .expire none "APPROVAL_NOT_PENDING"
      s!"the request is {request.state}, not pending — only live requests expire" expiredAt
  else do
    let expiredText ← expiredAt.toISOString
    let expiresText ← request.expiresAt.toISOString
    if millisLe expiredAt.getTime request.expiresAt.getTime then
      refuse request .expire none "APPROVAL_EXPIRY_NOT_DUE"
        s!"the Clock ({expiredText}) is not past expiresAt ({expiresText})" expiredAt
    else do
      let event ← domainEvent "approvals.expired" request.approvalRequestId
        (.expired request.orgId request.approvalRequestId request.operationType expiresText
          expiredText)
        expiredAt
      pure (.accepted { request with state := .expired, expiredAt := some expiredAt } [event] none)

/-! ## Cancel -/

def transitionApproval (request : ApprovalRequest) (target : ApprovalStatus) (actorId : String)
    (clock : Clock) : Except Thrown OperationResult := do
  throwIf (target ≠ .cancelled) (.domainError "APPROVAL_TRANSITION_NOT_AUTOMATIC"
    (s!"{target} is not the manual transition — " ++
      "use openApprovalRequest/submit/approve/reject/expire/markApplied")
    [("from", request.state.text), ("to", target.text)])
  throwIf (!isNonBlank actorId) (DomainError "APPROVAL_ACTOR_REQUIRED"
    "a cancellation requires a non-blank actorId")
  let cancelledAt ← assertClockDate (clock.now 0)
  let refusal ← stateRefusalFor request cancelledAt "APPROVAL_NOT_PENDING"
  -- a second end of a request that has ended is a refusal; every other illegal source throws
  throwIf (request.state ∉ [.expired, .cancelled] ∧ target ∉ approvalTransitions request.state)
    (.domainError "APPROVAL_TRANSITION_INVALID"
      s!"cannot move an approval request from {request.state} to {target}"
      [("from", request.state.text), ("to", target.text)])
  match refusal with
  | some (code, detail) => refuse request .cancel (some actorId) code detail cancelledAt
  | none =>
    if actorId ≠ request.requesterId then
      refuse request .cancel (some actorId) "APPROVAL_CANCEL_NOT_REQUESTER"
        "only the requester may cancel an approval request" cancelledAt
    else do
      let cancelledText ← cancelledAt.toISOString
      let event ← domainEvent "approvals.cancelled" request.approvalRequestId
        (.cancelled request.orgId request.approvalRequestId request.operationType actorId
          cancelledText)
        cancelledAt
      pure (.accepted { request with state := .cancelled, cancelledAt := some cancelledAt,
                                     cancelledBy := some actorId } [event] none)

def cancelApprovalRequest (request : ApprovalRequest) (clock : Clock) :
    Except Thrown OperationResult :=
  transitionApproval request .cancelled request.requesterId clock

/-! ## Apply -/

def decisionEvidence (decision : ApprovalDecisionRecord) :
    Except Thrown (String × List String × String) := do
  let decidedAt ← decision.decidedAt.toISOString
  pure (decision.approverId, decision.matchedRoles, decidedAt)

def approvedText (request : ApprovalRequest) : Except Thrown String :=
  match request.approvedAt with
  | some approvedAt => approvedAt.toISOString
  | none => .error (.typeError "Cannot read properties of null (reading 'toISOString')")

def approvalEvidence (request : ApprovalRequest) (appliedText : String) :
    Except Thrown ApprovalEvidence := do
  let decisions ← request.decisions.mapM decisionEvidence
  let createdAt ← request.createdAt.toISOString
  let expiresAt ← request.expiresAt.toISOString
  let approvedAt ← approvedText request
  pure { approvalRequestId := request.approvalRequestId, orgId := request.orgId,
         operationType := request.operationType, policyId := request.policyId,
         subjectRefs := request.subjectRefs, payloadSnapshot := request.payloadSnapshot,
         requesterId := request.requesterId, requiredApproverRoles := request.requiredApproverRoles,
         quorum := request.quorum, distinctApproverCount := request.decisions.length, decisions,
         createdAt, expiresAt, approvedAt, appliedAt := appliedText }
/-- Record that the operation was carried out, once. -/
def markApplied (request : ApprovalRequest) (clock : Clock) : Except Thrown OperationResult := do
  let appliedAt ← assertClockDate (clock.now 0)
  let count := request.decisions.length
  match request.state with
  | .pending =>
    refuse request .apply none "APPROVAL_QUORUM_NOT_MET"
      s!"{count} of {request.quorum} required approval(s) recorded — the panel is not done"
      appliedAt
  | .applied =>
    refuse request .apply none "APPROVAL_ALREADY_APPLIED" "the request is already applied" appliedAt
  | .approved =>
    let appliedText ← appliedAt.toISOString
    let event ← domainEvent "approvals.applied" request.approvalRequestId
      (.applied request.orgId request.approvalRequestId request.operationType appliedText) appliedAt
    let evidence ← approvalEvidence request appliedText
    pure (.accepted { request with state := .applied, appliedAt := some appliedAt } [event]
      (some evidence))
  | state =>
    refuse request .apply none "APPROVAL_NOT_APPROVED"
      s!"the request is {state} — only an approved request can be marked applied" appliedAt

end Fuatilia.Approvals
