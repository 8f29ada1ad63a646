import Fuatilia.Shared.Money
import Fuatilia.Shared.Formats

/-!
# Approval policies

Which sensitive operations of an organisation need a second pair of eyes.

## Main definitions

* `ApprovalPolicy` — who may check, how many must, and how long a request stays decidable.
* `assertApprovalPolicy` — the validator. The source's returns nothing, and its callers go on with
  the same object; here it returns that object at its checked types.

## Main results

* `assertApprovalPolicy_quorum` — the quorum can be reached.
-/

namespace Fuatilia.Approvals

open Fallible
/-- The operations that may need an approval. -/
inductive OperationType where
  | refund
  | writeOff
  | creditNote
  | bankDestinationChange
  | manualAdjustment
  deriving DecidableEq

namespace OperationType
/-- The name on the wire. -/
def text : OperationType → String
  | refund => "refund"
  | writeOff => "write_off"
  | creditNote => "credit_note"
  | bankDestinationChange => "bank_destination_change"
  | manualAdjustment => "manual_adjustment"

instance : ToString OperationType := ⟨text⟩
/-- Every operation. -/
def all : List OperationType :=
  [refund, writeOff, creditNote, bankDestinationChange, manualAdjustment]
/-- The operation of a name. -/
def parse (value : String) : Option OperationType := all.find? (·.text = value)
/-- Operations that move an amount. -/
def requiresAmount (op : OperationType) : Bool := op ∈ [refund, writeOff]

end OperationType
/-- The names, for messages. -/
def allowedOperations : String := ",".intercalate (OperationType.all.map OperationType.text)
/-- Every currency. -/
def currencies : List Currency := [.KES, .USD, .GBP, .EUR, .TZS, .UGX]
/-- The currency of a code. -/
def parseCurrency (value : String) : Option Currency := currencies.find? (·.code = value)
/-- The codes, for messages. -/
def allowedCurrencies : String := ",".intercalate (currencies.map Currency.code)
/-- More than spaces. -/
def isNonBlank (value : String) : Bool := trim value ≠ ""
/-- A threshold before its check. -/
structure ThresholdInput where
  amountMinor : JsNumber
  currency : String
/-- A policy before its check. -/
structure ApprovalPolicyInput where
  policyId : Uuid
  orgId : Uuid
  operationType : String
  threshold : Option ThresholdInput
  requiredApproverRoles : List String
  quorum : JsNumber
  ttlDays : JsNumber
/-- An amount from which a policy applies. -/
structure ApprovalThreshold where
  amountMinor : ℤ
  currency : Currency
/-- A checked policy. -/
structure ApprovalPolicy where
  policyId : Uuid
  orgId : Uuid
  operationType : OperationType
  threshold : Option ApprovalThreshold
  requiredApproverRoles : List String
  quorum : ℤ
  ttlDays : ℤ
/-- A safe integer that is not below a bound. -/
def safeIntegerFrom (x : JsNumber) (least : ℤ) : Option ℤ := x.safeInteger.filter fun n => least ≤ n
/-- The check of a threshold. -/
def assertThreshold (threshold : ThresholdInput) : Except Thrown ApprovalThreshold :=
  match safeIntegerFrom threshold.amountMinor 0 with
  | none => .error (DomainError "APPROVAL_POLICY_THRESHOLD_INVALID"
      ("threshold amountMinor must be a non-negative safe integer, got " ++
        threshold.amountMinor.text))
  | some amountMinor =>
    match parseCurrency threshold.currency with
    | none => .error (.domainError "APPROVAL_POLICY_CURRENCY_INVALID"
        s!"unknown threshold currency: {threshold.currency}" [("allowed", allowedCurrencies)])
    | some currency => .ok { amountMinor, currency }
/-- The operation is known. -/
def assertPolicyOperation (operationType : String) : Except Thrown OperationType :=
  match OperationType.parse operationType with
  | some op => .ok op
  | none => .error (.domainError "APPROVAL_POLICY_OPERATION_INVALID"
      s!"unknown operation type: {operationType}" [("allowed", allowedOperations)])
/-- Some roles, none blank, none twice. -/
def assertApproverRoles (roles : List String) : Except Thrown Unit := do
  throwIf (roles = []) (DomainError "APPROVAL_POLICY_ROLES_REQUIRED"
    "an approval policy requires at least one approver role")
  forM roles fun role => throwIf (!isNonBlank role) (DomainError "APPROVAL_POLICY_ROLE_INVALID"
    s!"approver roles must be non-blank ids, got {role}")
  throwIf (roles.eraseDups.length ≠ roles.length) (DomainError "APPROVAL_POLICY_ROLE_DUPLICATE"
    "an approval policy lists the same approver role twice")
/-- The check of the quorum and of the days to live. -/
def assertPositive (x : JsNumber) (code field : String) : Except Thrown ℤ :=
  match safeIntegerFrom x 1 with
  | some n => .ok n
  | none => .error (DomainError code s!"{field} must be a safe integer >= 1, got {x.text}")
/-- The check of a policy. The quorum is at most the number of roles. -/
def assertApprovalPolicy (policy : ApprovalPolicyInput) : Except Thrown ApprovalPolicy := do
  throwIf (!isNonBlank policy.orgId) (DomainError "APPROVAL_POLICY_ORG_REQUIRED"
    "an approval policy requires an orgId")
  throwIf (!isNonBlank policy.policyId) (DomainError "APPROVAL_POLICY_ID_REQUIRED"
    "an approval policy requires a policyId")
  let operationType ← assertPolicyOperation policy.operationType
  let threshold ← policy.threshold.mapM assertThreshold
  assertApproverRoles policy.requiredApproverRoles
  let quorum ← assertPositive policy.quorum "APPROVAL_POLICY_QUORUM_INVALID" "quorum"
  let roleCount := policy.requiredApproverRoles.length
  throwIf (quorum > roleCount) (DomainError "APPROVAL_POLICY_QUORUM_EXCEEDS_ROLES"
    s!"quorum {quorum} cannot exceed the {roleCount} required role(s)")
  let ttlDays ← assertPositive policy.ttlDays "APPROVAL_POLICY_TTL_INVALID" "ttlDays"
  pure { policyId := policy.policyId, orgId := policy.orgId, operationType, threshold,
         requiredApproverRoles := policy.requiredApproverRoles, quorum, ttlDays }
/-- What passes is positive. -/
lemma assertPositive_eq_ok {x : JsNumber} {code field : String} {n : ℤ}
    (h : assertPositive x code field = .ok n) : 1 ≤ n := by
  unfold assertPositive at h
  split at h
  · next m hm =>
    cases h
    rw [safeIntegerFrom, Option.filter_eq_some_iff] at hm
    simpa using hm.2
  · cases h
/-- **The quorum can be reached**: it is between 1 and the number of roles. -/
lemma assertApprovalPolicy_quorum {input : ApprovalPolicyInput} {policy : ApprovalPolicy}
    (h : assertApprovalPolicy input = .ok policy) :
    1 ≤ policy.quorum ∧ policy.quorum ≤ policy.requiredApproverRoles.length := by
  simp only [assertApprovalPolicy, ok_iff] at h
  obtain ⟨-, -, _, -, _, -, _, -, quorum, hquorum, hroles, _, -, rfl⟩ := h
  exact ⟨assertPositive_eq_ok hquorum, not_lt.mp hroles⟩

end Fuatilia.Approvals
