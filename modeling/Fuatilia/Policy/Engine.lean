import Fuatilia.Stk.Actions

/-!
# The policy engine

A request for an action is governed by the rule set of its organisation.

## Main definitions

* `ActionRequest`, `PolicyRuleSet` — the requests and the rules.
* `evaluate` — a decision with its audit event: the guards, the first matching rule, or a denial.

## Implementation notes

The vocabulary of decisions (`Stk.Decision`, `Stk.PolicyDecision`, `Stk.ActorType` and so on) is
declared with the attempts that read it; here a decision comes with two more fields. The checks that
a value has the type it is declared with have no case. A rule passed the validation of its set: its
priority is a natural number, and an operand is a text, a finite number, a boolean or a list of
these.
-/

namespace Fuatilia.Policy

open Fallible Stk

/-! ## Requests -/

def ACTION_TYPES : List String :=
  ["send_reminder", "send_whatsapp", "send_sms", "offer_payment_plan", "issue_payment_link",
    "escalate", "write_off", "refund", "collect_now_stk_push"]

def AMOUNT_REQUIRED_ACTION_TYPES : List String := ["write_off", "refund"]

def actionRequiresAmount (actionType : String) : Bool :=
  AMOUNT_REQUIRED_ACTION_TYPES.contains actionType

inductive Channel where
  | email | sms | whatsapp
  deriving DecidableEq

instance : ToString Channel where
  toString
    | .email => "email"
    | .sms => "sms"
    | .whatsapp => "whatsapp"

def IMPLIED_CHANNEL (actionType : String) : Option Channel :=
  if actionType = "send_whatsapp" then some .whatsapp
  else if actionType = "send_sms" then some .sms
  else none

structure ActionRequest where
  orgId : Uuid
  customerId : Uuid
  receivableId : Option Uuid
  caseId : Option Uuid
  actor : PolicyActor
  actionType : String
  amountMinor : Option JsNumber
  currency : Option Currency
  riskClass : RiskClass
  channel : Option Channel
  consentPresent : Bool
  disputeOpen : Bool
  promisePending : Bool
  autonomous : Bool

def effectiveChannel (request : ActionRequest) : Option Channel :=
  request.channel.or (IMPLIED_CHANNEL request.actionType)

def assertAmountMinor (amountMinor : Option JsNumber) : Except Thrown Unit :=
  match amountMinor with
  | none => .ok ()
  | some amount => throwIf (amount.safeInteger.all (· < 0)) (DomainError "POLICY_AMOUNT_INVALID"
      s!"amountMinor must be a non-negative safe integer, got {amount.text}")

def assertActionRequest (request : ActionRequest) : Except Thrown Unit := do
  throwIf (trim request.orgId = "")
    (DomainError "POLICY_ORG_REQUIRED" "an action request requires an orgId")
  throwIf (trim request.customerId = "")
    (DomainError "POLICY_CUSTOMER_REQUIRED" "an action request requires a customerId")
  throwIf (request.receivableId.any (trim · = "") ∨ request.caseId.any (trim · = ""))
    (DomainError "POLICY_SUBJECT_INVALID" "receivableId/caseId must be non-blank ids or null")
  throwIf (trim request.actor.actorId = "")
    (DomainError "POLICY_ACTOR_REQUIRED" "an actor requires a non-blank actorId")
  throwIf (request.actor.type = .human ∧ request.autonomous = true)
    (DomainError "POLICY_AUTONOMY_MISMATCH" ("a human actor cannot claim an autonomous action — " ++
      "autonomous means no human in the loop"))
  throwIf (request.amountMinor.isSome ≠ request.currency.isSome)
    (DomainError "POLICY_AMOUNT_INVALID"
      "amountMinor and currency must be supplied together (both or neither)")
  assertAmountMinor request.amountMinor

/-! ## Rules -/

inductive PolicyField where
  | actionType | actorType | riskClass | channel | amountMinor | minuteOfDayUtc | dayOfWeekUtc
  | consentPresent | disputeOpen | promisePending | autonomous
  deriving DecidableEq

inductive PolicyOperator where
  | eq | ne | in | notIn | gt | gte | lt | lte | isTrue | isFalse | present | absent
  deriving DecidableEq

inductive Fact where
  | text (s : String)
  | number (q : ℚ)
  | flag (b : Bool)
  deriving DecidableEq

inductive Operand where
  | one (value : Fact)
  | many (values : List Fact)
  deriving DecidableEq

structure PolicyCondition where
  field : PolicyField
  op : PolicyOperator
  value : Option Operand
  deriving DecidableEq

structure PolicyRule where
  id : String
  priority : ℕ
  /-- The action type of the rule; `none` stands for `any`. -/
  actionType : Option String
  decision : Decision
  conditions : List PolicyCondition
  reasonCode : String
  explanation : String
  grants : Option DecisionConditions
  deriving DecidableEq

structure PolicyRuleSet where
  orgId : Uuid
  version : JsNumber
  rules : List PolicyRule

def actorTypeText : ActorType → String
  | .human => "human"
  | .aiAgent => "ai_agent"
  | .integration => "integration"

def riskClassText : RiskClass → String
  | .low => "low"
  | .elevated => "elevated"
  | .high => "high"

def factOf (field : PolicyField) (request : ActionRequest) (now : ℤ) : Option Fact :=
  match field with
  | .actionType => some (.text request.actionType)
  | .actorType => some (.text (actorTypeText request.actor.type))
  | .riskClass => some (.text (riskClassText request.riskClass))
  | .channel => (effectiveChannel request).map fun channel => .text (toString channel)
  | .amountMinor => request.amountMinor.bind fun amount => amount.value.map .number
  | .minuteOfDayUtc => some (.number ((now % 86400000) / 60000 : ℤ))
  | .dayOfWeekUtc => some (.number ((now / 86400000 + 4) % 7 : ℤ))
  | .consentPresent => some (.flag request.consentPresent)
  | .disputeOpen => some (.flag request.disputeOpen)
  | .promisePending => some (.flag request.promisePending)
  | .autonomous => some (.flag request.autonomous)

def ordered (compare : ℚ → ℚ → Bool) (actual : Fact) (value : Option Operand) : Bool :=
  match actual, value with
  | .number a, some (.one (.number b)) => compare a b
  | _, _ => false

def operatorMatches (op : PolicyOperator) (actual : Fact) (value : Option Operand) : Bool :=
  match op with
  | .isTrue => actual = .flag true
  | .isFalse => actual = .flag false
  | .present => true
  | .absent => false
  | .eq => value = some (.one actual)
  | .ne => value ≠ some (.one actual)
  | .in => match value with
    | some (.many values) => values.contains actual
    | _ => false
  | .notIn => match value with
    | some (.many values) => !values.contains actual
    | _ => false
  | .gt => ordered (fun a b => b < a) actual value
  | .gte => ordered (fun a b => b ≤ a) actual value
  | .lt => ordered (fun a b => a < b) actual value
  | .lte => ordered (fun a b => a ≤ b) actual value

/-- A missing fact matches `absent` only. -/
def conditionMatches (condition : PolicyCondition) (request : ActionRequest) (now : ℤ) : Bool :=
  match factOf condition.field request now with
  | none => condition.op = .absent
  | some actual => operatorMatches condition.op actual condition.value

def ruleMatches (rule : PolicyRule) (request : ActionRequest) (now : ℤ) : Bool :=
  rule.actionType.all (· = request.actionType) &&
    rule.conditions.all fun condition => conditionMatches condition request now

def assertRuleSetReference (ruleSet : PolicyRuleSet) : Except Thrown Unit := do
  throwIf (trim ruleSet.orgId = "")
    (DomainError "POLICY_RULESET_ORG_REQUIRED" "a rule set requires an orgId")
  throwIf (ruleSet.version.safeInteger.all (· < 1)) (DomainError "POLICY_RULESET_VERSION_INVALID"
    s!"rule set version must be a safe integer ≥ 1, got {ruleSet.version.text}")

/-! ## Decisions -/

structure DecisionRecordedPayload where
  orgId : Uuid
  customerId : Uuid
  receivableId : Option Uuid
  caseId : Option Uuid
  actionType : String
  actorType : ActorType
  autonomous : Bool
  riskClass : RiskClass
  amountMinor : Option JsNumber
  currency : Option Currency
  channel : Option Channel
  decision : Decision
  reasonCode : String
  matchedRuleIds : List String
  ruleSetVersion : JsNumber
  requestedAt : String

structure DecisionRecordedEvent where
  name : String
  version : ℕ
  aggregateId : Uuid
  occurredAt : String
  payload : DecisionRecordedPayload

structure Evaluation where
  decision : PolicyDecision
  requestedAt : String
  event : DecisionRecordedEvent

structure Verdict where
  decision : Decision
  reasonCode : String
  explanation : String
  matchedRuleIds : List String
  conditions : Option DecisionConditions

def denial (reasonCode explanation : String) : Verdict := ⟨.deny, reasonCode, explanation, [], none⟩

def channelMismatch (request : ActionRequest) : Option (Channel × Channel) :=
  match IMPLIED_CHANNEL request.actionType, request.channel with
  | some required, some asked => if asked ≠ required then some (required, asked) else none
  | _, _ => none

def verdictOn (request : ActionRequest) (ruleSet : PolicyRuleSet) (now : ℤ) : Verdict :=
  if !ACTION_TYPES.contains request.actionType then
    denial "POLICY_ACTION_UNKNOWN"
      s!"action type \"{request.actionType}\" is not recognized — denied (safe by default)"
  else if actionRequiresAmount request.actionType ∧ request.amountMinor = none then
    denial "POLICY_AMOUNT_REQUIRED" (s!"{request.actionType} requires an amount — denied " ++
      "(fail-closed: an unquantified loss is never approved)")
  else match channelMismatch request with
  | some (required, asked) => denial "POLICY_CHANNEL_ACTION_MISMATCH"
      s!"{request.actionType} operates on {required}, but the request asked for {asked}"
  | none =>
    let inOrder := jsSort (fun a b => compare a.priority b.priority) ruleSet.rules
    match inOrder.find? fun rule => ruleMatches rule request now with
    | none => denial "POLICY_NO_RULE_MATCHED" (s!"no rule in rule set v{ruleSet.version.text} " ++
        "matched — denied (fail-closed: silence never widens permissions)")
    | some rule => ⟨rule.decision, rule.reasonCode, rule.explanation, [rule.id],
        if rule.decision = .deny then none else rule.grants⟩

/-- The decision and its audit event; the amount of the event was checked with the request. -/
def recordVerdict (request : ActionRequest) (ruleSet : PolicyRuleSet) (requestedAt : String)
    (verdict : Verdict) : Evaluation where
  decision :=
    { decision := verdict.decision, reasonCode := verdict.reasonCode,
      explanation := verdict.explanation, matchedRuleIds := verdict.matchedRuleIds,
      conditions := verdict.conditions, orgId := request.orgId, ruleSetVersion := ruleSet.version }
  requestedAt := requestedAt
  event :=
    { name := "policy.decisionRecorded", version := 1, aggregateId := request.orgId,
      occurredAt := requestedAt
      payload :=
        { orgId := request.orgId, customerId := request.customerId,
          receivableId := request.receivableId, caseId := request.caseId,
          actionType := request.actionType, actorType := request.actor.type,
          autonomous := request.autonomous, riskClass := request.riskClass,
          amountMinor := request.amountMinor, currency := request.currency,
          channel := effectiveChannel request, decision := verdict.decision,
          reasonCode := verdict.reasonCode, matchedRuleIds := verdict.matchedRuleIds,
          ruleSetVersion := ruleSet.version, requestedAt } }

def evaluate (request : ActionRequest) (ruleSet : PolicyRuleSet) (clock : Clock) :
    Except Thrown Evaluation :=
  match clock.now 0 with
  | .invalid => .error (DomainError "POLICY_CLOCK_INVALID" "clock returned an invalid Date")
  | .ofTime now => do
    assertActionRequest request
    assertRuleSetReference ruleSet
    throwIf (ruleSet.orgId ≠ request.orgId) (.domainError "POLICY_RULESET_ORG_MISMATCH"
      (s!"rule set belongs to org {ruleSet.orgId}, but the request targets org " ++ request.orgId)
      [("ruleSetOrgId", ruleSet.orgId), ("requestOrgId", request.orgId)])
    let requestedAt ← (Date.ofTime now).toISOString
    return recordVerdict request ruleSet requestedAt (verdictOn request ruleSet now)

lemma evaluate_eq_ok {request : ActionRequest} {ruleSet : PolicyRuleSet} {clock : Clock}
    {evaluation : Evaluation} (h : evaluate request ruleSet clock = .ok evaluation) :
    evaluation.decision.orgId = request.orgId ∧
      evaluation.event.payload.customerId = request.customerId ∧
      evaluation.event.payload.amountMinor = request.amountMinor := by
  rw [evaluate] at h
  split at h
  · cases h
  · simp only [ok_iff] at h
    obtain ⟨_, -, _, -, _, -, requestedAt, -, rfl⟩ := h
    exact ⟨rfl, rfl, rfl⟩

end Fuatilia.Policy
