import Fuatilia.Audit.Redact
import Fuatilia.Shared.Formats

/-!
# Audit records

One record for every important action: who did what to which entity, when, on which request, with
the redacted state before and after.

## Main definitions

* `buildAuditDraft` — a record from an append command.
* `assertRecordShape`, `sinkAppend` — the gate, and the store in memory, which redacts once more and
  refuses records from the future and repeated identifiers.

## Main results

* `buildAuditDraft_snapshots`, `assertRecordShape_snapshots` — snapshots are redacted, and plain.

## Implementation notes

A snapshot is a `JsValue`, with `null` where it does not apply. Fields of a closed vocabulary have
that type here, so that the guards for other types are absent.
-/

namespace Fuatilia.Audit

open Fallible

/-! ## Vocabulary -/

inductive AuditActorKind where
  | user | apiKey | agent | system
  deriving DecidableEq

instance : ToString AuditActorKind where
  toString
    | .user => "user"
    | .apiKey => "apiKey"
    | .agent => "agent"
    | .system => "system"

inductive AuditAction where
  | create | update | transition | cancel | reverse | writeOff | refund | issue | revoke | approve
  | send | ingest | settle | redeem | access | login
  deriving DecidableEq

instance : ToString AuditAction where
  toString
    | .create => "create"
    | .update => "update"
    | .transition => "transition"
    | .cancel => "cancel"
    | .reverse => "reverse"
    | .writeOff => "write_off"
    | .refund => "refund"
    | .issue => "issue"
    | .revoke => "revoke"
    | .approve => "approve"
    | .send => "send"
    | .ingest => "ingest"
    | .settle => "settle"
    | .redeem => "redeem"
    | .access => "access"
    | .login => "login"

structure AuditActor where
  kind : AuditActorKind
  id : String
  orgId : Option Uuid

structure AuditApproval where
  ref : String
  approverId : Option String
  decidedAt : Option String

structure AuditAiContext where
  agentKind : String
  evidenceRefs : List String

def MAX_ID_LENGTH : ℕ := 256
def MAX_REQUEST_ID_LENGTH : ℕ := 256
def MAX_ENTITY_TYPE_LENGTH : ℕ := 64
def MAX_IP_LENGTH : ℕ := 64
def MAX_USER_AGENT_LENGTH : ℕ := 512
def MAX_REASON_LENGTH : ℕ := 1024
def MAX_HASH_LENGTH : ℕ := 256
def MAX_REF_LENGTH : ℕ := 256
def MAX_AGENT_KIND_LENGTH : ℕ := 64

/-! ## Records -/

structure AuditDraft where
  auditId : Uuid
  orgId : Uuid
  actor : AuditActor
  action : AuditAction
  entityType : String
  entityId : String
  occurredAt : String
  requestId : String
  correlationId : Option String
  ip : Option String
  userAgent : Option String
  previousState : JsValue
  newState : JsValue
  reason : Option String
  approval : Option AuditApproval
  aiContext : Option AuditAiContext

structure AuditRecord extends AuditDraft where
  prevRecordHash : Option String
  recordHash : String

/-- The append command. A snapshot that is absent is `undefined`. -/
structure AppendAuditInput where
  auditId : Uuid
  orgId : Uuid
  actor : AuditActor
  action : AuditAction
  entityType : String
  entityId : String
  requestId : String
  occurredAt : Option String
  correlationId : Option String
  ip : Option String
  userAgent : Option String
  previousState : JsValue
  newState : JsValue
  reason : Option String
  approval : Option AuditApproval
  aiContext : Option AuditAiContext

/-! ## Guards -/

def textLength (text : String) : ℕ := (codeUnits text).length

def isIsoInstant (raw : String) : Bool := isIso8601 raw

def assertNonBlank (raw code label : String) (max : ℕ) : Except Thrown String := do
  let value := trim raw
  throwIf (value = "") (DomainError code s!"a non-blank {label} is required")
  throwIf (max < textLength value)
    (DomainError code s!"{label} exceeds {max} characters (got {textLength value})")
  return value

def assertAuditClock (now : Date) : Except Thrown Date := do
  throwIf (now = .invalid) (DomainError "AUDIT_CLOCK_INVALID"
    "clock.now() must return a valid Date, got Invalid Date")
  return now

def optionalString (raw : Option String) (code label : String) (max : ℕ) :
    Except Thrown (Option String) :=
  match raw with
  | none => .ok none
  | some raw => (assertNonBlank raw code label max).map some

def assertActor (actor : AuditActor) : Except Thrown AuditActor := do
  let id ← assertNonBlank actor.id "AUDIT_ACTOR_INVALID" "actor.id" MAX_ID_LENGTH
  match actor.kind, actor.orgId with
  | .system, none => return ⟨.system, id, none⟩
  | .system, some _ => throw (DomainError "AUDIT_ACTOR_INVALID"
      "a system actor has no org — pass null (orgId belongs on the record)")
  | _, none => throw (DomainError "AUDIT_ACTOR_INVALID" "actor.orgId must be a string, got object")
  | kind, some orgId =>
    let orgId ← assertNonBlank orgId "AUDIT_ACTOR_INVALID" "actor.orgId" MAX_ID_LENGTH
    return ⟨kind, id, some orgId⟩

def assertDecidedAt : Option String → Except Thrown (Option String)
  | none => .ok none
  | some raw =>
    if isIsoInstant raw then .ok (some raw)
    else .error (DomainError "AUDIT_APPROVAL_INVALID"
      s!"approval.decidedAt must be ISO-8601, got {raw}")

def assertApproval (approval : AuditApproval) : Except Thrown AuditApproval := do
  let ref ← assertNonBlank approval.ref "AUDIT_APPROVAL_INVALID" "approval.ref" MAX_REF_LENGTH
  let approverId ← optionalString approval.approverId "AUDIT_APPROVAL_INVALID"
    "approval.approverId" MAX_ID_LENGTH
  let decidedAt ← assertDecidedAt approval.decidedAt
  return { ref, approverId, decidedAt }

def assertAiContext (ai : AuditAiContext) : Except Thrown AuditAiContext := do
  let agentKind ← assertNonBlank ai.agentKind "AUDIT_AI_CONTEXT_INVALID" "aiContext.agentKind"
    MAX_AGENT_KIND_LENGTH
  let evidenceRefs ← ai.evidenceRefs.mapM fun ref =>
    assertNonBlank ref "AUDIT_AI_CONTEXT_INVALID" "aiContext.evidenceRefs entry" MAX_ID_LENGTH
  return { agentKind, evidenceRefs }

def assertSnapshot (raw : JsValue) (label : String) : Except Thrown JsValue := do
  match raw with
  | .null => throw (DomainError "AUDIT_SNAPSHOT_INVALID"
      s!"{label} must be a plain object (use null for \"not applicable\") — got null")
  | .other .undefined => throw (DomainError "AUDIT_SNAPSHOT_INVALID"
      s!"{label} must be a plain object (use null for \"not applicable\") — got undefined")
  | .array _ => throw (DomainError "AUDIT_SNAPSHOT_INVALID"
      s!"{label} must be a plain object, got array")
  | .object _ _ | .circular =>
    validateSnapshotShape raw label
    return raw
  | _ => throw (DomainError "AUDIT_SNAPSHOT_INVALID"
      s!"{label} must be a plain object, got {raw.typeOf}")

def assertNullableSnapshot (raw : JsValue) (label : String) : Except Thrown Unit :=
  match raw with
  | .null => .ok ()
  | raw => (assertSnapshot raw label).map fun _ => ()

def assertHashString (raw : Option String) (field : String) : Except Thrown Unit :=
  match raw with
  | none => .ok ()
  | some raw => throwIf (trim raw = "" ∨ MAX_HASH_LENGTH < textLength raw)
      (DomainError "AUDIT_HASH_MALFORMED"
        s!"{field} must be a non-empty string of at most {MAX_HASH_LENGTH} chars")

def assertRecordShape (record : AuditRecord) : Except Thrown Unit := do
  let _ ← assertNonBlank record.auditId "AUDIT_RECORD_MALFORMED" "auditId" MAX_ID_LENGTH
  let _ ← assertNonBlank record.orgId "AUDIT_ORG_REQUIRED" "orgId" MAX_ID_LENGTH
  let _ ← assertActor record.actor
  let _ ← assertNonBlank record.entityType "AUDIT_ENTITY_TYPE_REQUIRED" "entityType"
    MAX_ENTITY_TYPE_LENGTH
  let _ ← assertNonBlank record.entityId "AUDIT_ENTITY_ID_REQUIRED" "entityId" MAX_ID_LENGTH
  throwIf (!isIsoInstant record.occurredAt) (DomainError "AUDIT_OCCURRED_AT_INVALID"
    s!"occurredAt must be an ISO-8601 instant, got {record.occurredAt}")
  let _ ← assertNonBlank record.requestId "AUDIT_REQUEST_ID_REQUIRED" "requestId"
    MAX_REQUEST_ID_LENGTH
  let _ ← optionalString record.correlationId "AUDIT_CORRELATION_ID_INVALID" "correlationId"
    MAX_ID_LENGTH
  let _ ← optionalString record.ip "AUDIT_IP_MALFORMED" "ip" MAX_IP_LENGTH
  let _ ← optionalString record.userAgent "AUDIT_USER_AGENT_MALFORMED" "userAgent"
    MAX_USER_AGENT_LENGTH
  let _ ← optionalString record.reason "AUDIT_REASON_MALFORMED" "reason" MAX_REASON_LENGTH
  assertNullableSnapshot record.previousState "previousState"
  assertNullableSnapshot record.newState "newState"
  let _ ← record.approval.mapM assertApproval
  let _ ← record.aiContext.mapM assertAiContext
  assertHashString (some record.recordHash) "recordHash"
  assertHashString record.prevRecordHash "prevRecordHash"

/-! ## The builder -/

def draftInstant (pinned : Option String) (now : Date) : Except Thrown String :=
  match pinned with
  | some raw =>
    if isIsoInstant raw then .ok raw
    else .error (DomainError "AUDIT_OCCURRED_AT_INVALID"
      s!"pinned occurredAt must be ISO-8601, got {raw}")
  | none => do
    let now ← assertAuditClock now
    now.toISOString

def draftSnapshot (raw : JsValue) (label : String) : Except Thrown JsValue :=
  match raw with
  | .null | .other .undefined => .ok .null
  | raw => do
    let snapshot ← assertSnapshot raw label
    redactSnapshot snapshot

def buildAuditDraft (input : AppendAuditInput) (now : Date) : Except Thrown AuditDraft := do
  let occurredAt ← draftInstant input.occurredAt now
  let previousState ← draftSnapshot input.previousState "previousState"
  let newState ← draftSnapshot input.newState "newState"
  let auditId ← assertNonBlank input.auditId "AUDIT_RECORD_MALFORMED" "auditId" MAX_ID_LENGTH
  let orgId ← assertNonBlank input.orgId "AUDIT_ORG_REQUIRED" "orgId" MAX_ID_LENGTH
  let actor ← assertActor input.actor
  let entityType ← assertNonBlank input.entityType "AUDIT_ENTITY_TYPE_REQUIRED" "entityType"
    MAX_ENTITY_TYPE_LENGTH
  let entityId ← assertNonBlank input.entityId "AUDIT_ENTITY_ID_REQUIRED" "entityId" MAX_ID_LENGTH
  let requestId ← assertNonBlank input.requestId "AUDIT_REQUEST_ID_REQUIRED" "requestId"
    MAX_REQUEST_ID_LENGTH
  let correlationId ← optionalString input.correlationId "AUDIT_CORRELATION_ID_INVALID"
    "correlationId" MAX_ID_LENGTH
  let ip ← optionalString input.ip "AUDIT_IP_MALFORMED" "ip" MAX_IP_LENGTH
  let userAgent ← optionalString input.userAgent "AUDIT_USER_AGENT_MALFORMED" "userAgent"
    MAX_USER_AGENT_LENGTH
  let reason ← optionalString input.reason "AUDIT_REASON_MALFORMED" "reason" MAX_REASON_LENGTH
  let approval ← input.approval.mapM assertApproval
  let aiContext ← input.aiContext.mapM assertAiContext
  return {
    auditId, orgId, actor, action := input.action, entityType, entityId, occurredAt, requestId,
    correlationId, ip, userAgent, previousState, newState, reason, approval, aiContext }

/-! ## The store in memory -/

def isAfter : Date → Date → Bool
  | .ofTime a, .ofTime b => decide (b < a)
  | _, _ => false

def sinkSnapshot (raw : JsValue) (label : String) : Except Thrown JsValue :=
  match raw with
  | .null => .ok .null
  | raw => do
    let snapshot ← assertSnapshot raw label
    redactSnapshot snapshot

/-- Append a record to a trail: the trail and the record as stored. `now` is the reading of the
store's own clock. -/
def sinkAppend (trail : List AuditRecord) (record : AuditRecord) (now : Date) :
    Except Thrown (List AuditRecord × AuditRecord) := do
  assertRecordShape record
  let now ← assertAuditClock now
  throwIf (isAfter (Date.parseIso record.occurredAt) now)
    (.domainError "AUDIT_OCCURRED_AT_FUTURE"
      (s!"record {record.auditId} claims occurredAt {record.occurredAt}, which is after the sink's " ++
        "clock — the trail never records the future")
      [("auditId", record.auditId), ("occurredAt", record.occurredAt)])
  throwIf (record.auditId ∈ trail.map (·.auditId)) (.domainError "AUDIT_AUDIT_ID_TAKEN"
    s!"audit record {record.auditId} already exists in this trail" [("auditId", record.auditId)])
  let previousState ← sinkSnapshot record.previousState "previousState"
  let newState ← sinkSnapshot record.newState "newState"
  let stored := { record with previousState, newState }
  return (trail ++ [stored], stored)

/-! ## What the gates guarantee -/

/-- A snapshot that the gates admit: `null`, or a plain object that is not nested too deep. -/
def Admitted (value : JsValue) : Prop := value.Plain ∧ value.nesting ≤ MAX_SNAPSHOT_DEPTH

variable {label : String} {raw value : JsValue}

lemma assertSnapshot_eq_ok (h : assertSnapshot raw label = .ok value) :
    value = raw ∧ Admitted raw := by
  cases raw with
  | object kind members | circular =>
    simp only [assertSnapshot, seq_eq_ok, validateSnapshotShape_eq_ok, pure_eq_ok] at h
    exact ⟨h.2, h.1⟩
  | other type => cases type <;> cases h
  | _ => cases h

lemma admitted_null : Admitted .null := ⟨trivial, by decide⟩

lemma assertNullableSnapshot_eq_ok (h : assertNullableSnapshot raw label = .ok ()) :
    Admitted raw := by
  unfold assertNullableSnapshot at h
  split at h
  · exact admitted_null
  · cases hraw : assertSnapshot raw label with
    | error e =>
      rw [hraw] at h
      cases h
    | ok value => exact (assertSnapshot_eq_ok hraw).2

lemma assertRecordShape_snapshots {record : AuditRecord}
    (h : assertRecordShape record = .ok ()) :
    Admitted record.previousState ∧ Admitted record.newState := by
  simp only [assertRecordShape, bind_eq_ok] at h
  obtain ⟨_, -, _, -, _, -, _, -, _, -, _, -, _, -, _, -, _, -, _, -, _, -, ⟨⟩, hprevious,
    ⟨⟩, hnew, -⟩ := h
  exact ⟨assertNullableSnapshot_eq_ok hprevious, assertNullableSnapshot_eq_ok hnew⟩

lemma sinkSnapshot_eq_ok (h : sinkSnapshot raw label = .ok value) : value = redact raw := by
  unfold sinkSnapshot at h
  split at h
  · exact (Except.ok.inj h).symm
  · obtain ⟨snapshot, hsnapshot, hredact⟩ := bind_eq_ok.mp h
    rw [(redactSnapshot_eq_ok.mp hredact).2, (assertSnapshot_eq_ok hsnapshot).1]

lemma draftSnapshot_eq_ok (h : draftSnapshot raw label = .ok value) : ∃ v, value = redact v := by
  unfold draftSnapshot at h
  split at h
  · exact ⟨.null, (Except.ok.inj h).symm⟩
  · exact ⟨.null, (Except.ok.inj h).symm⟩
  · obtain ⟨snapshot, -, hredact⟩ := bind_eq_ok.mp h
    exact ⟨snapshot, (redactSnapshot_eq_ok.mp hredact).2⟩

lemma buildAuditDraft_snapshots {input : AppendAuditInput} {now : Date} {draft : AuditDraft}
    (h : buildAuditDraft input now = .ok draft) :
    (∃ v, draft.previousState = redact v) ∧ ∃ v, draft.newState = redact v := by
  simp only [buildAuditDraft, ok_iff] at h
  obtain ⟨_, -, previousState, hprevious, newState, hnew, _, -, _, -, _, -, _, -, _, -, _, -, _, -,
    _, -, _, -, _, -, _, -, _, -, rfl⟩ := h
  exact ⟨draftSnapshot_eq_ok hprevious, draftSnapshot_eq_ok hnew⟩

/-- **What the store does**: it checks the record and keeps it with its snapshots redacted. -/
theorem sinkAppend_eq_ok {trail trail' : List AuditRecord} {record stored : AuditRecord}
    {now : Date} (h : sinkAppend trail record now = .ok (trail', stored)) :
    Admitted record.previousState ∧ Admitted record.newState ∧ trail' = trail ++ [stored] ∧
      stored = { record with
        previousState := redact record.previousState, newState := redact record.newState } := by
  simp only [sinkAppend, ok_iff, Prod.mk.injEq] at h
  obtain ⟨⟨⟩, hshape, _, -, -, -, previousState, hprevious, newState, hnew, rfl, rfl⟩ := h
  obtain ⟨hadmitted, hadmitted'⟩ := assertRecordShape_snapshots hshape
  rw [← sinkSnapshot_eq_ok hprevious, ← sinkSnapshot_eq_ok hnew]
  exact ⟨hadmitted, hadmitted', rfl, rfl⟩

end Fuatilia.Audit
