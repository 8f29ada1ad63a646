import Fuatilia.Shared.Primitives

/-!
# Collections cases

A case covers its receivables while it is open, and a further case on any of them is refused. It
moves along a fixed table of statuses and its priority may only be raised; both are logged.

## Main definitions

* `openCase`, `transitionCase`, `escalateCase` — the commands.

## Main results

* `openCase_eq_ok`, `openCase_of_uncovered` — what an opened case is, and that only the coverage of
  its receivables counts.
* `transitionCase_eq_ok`, `escalateCase_eq_ok` — what the other commands do.

## Implementation notes

Statuses and priorities are texts in the commands, checked against the vocabulary. A call reads the
clock once for its own instant and once for its event.
-/

namespace Fuatilia.Collections

open Fallible

/-! ## Vocabulary -/

inductive CasePriority where
  | low | normal | high | urgent
  deriving DecidableEq

def CasePriority.text : CasePriority → String
  | low => "low"
  | normal => "normal"
  | high => "high"
  | urgent => "urgent"

instance : ToString CasePriority := ⟨CasePriority.text⟩

def CASE_PRIORITIES : List CasePriority := [.low, .normal, .high, .urgent]

def CASE_PRIORITY_RANK : CasePriority → ℕ
  | .low => 0
  | .normal => 1
  | .high => 2
  | .urgent => 3

inductive CaseStatus where
  | open | in_progress | resolved | closed_inactive
  deriving DecidableEq

def CaseStatus.text : CaseStatus → String
  | .open => "open"
  | .in_progress => "in_progress"
  | .resolved => "resolved"
  | .closed_inactive => "closed_inactive"

instance : ToString CaseStatus := ⟨CaseStatus.text⟩

def CASE_STATUSES : List CaseStatus := [.open, .in_progress, .resolved, .closed_inactive]

def OPEN_CASE_STATUSES : List CaseStatus := [.open, .in_progress]

def isCaseOpen (status : CaseStatus) : Bool := status ∈ OPEN_CASE_STATUSES

def CASE_TRANSITIONS : CaseStatus → List CaseStatus
  | .open => [.in_progress]
  | .in_progress => [.resolved, .closed_inactive]
  | .resolved => []
  | .closed_inactive => []

def joined {α : Type} [ToString α] (values : List α) : String :=
  String.intercalate "," (values.map toString)

def assertPriority (priority : String) : Except Thrown CasePriority :=
  match CASE_PRIORITIES.find? (·.text = priority) with
  | some p => .ok p
  | none => .error (.domainError "CASE_PRIORITY_INVALID" s!"unknown case priority: {priority}"
      [("priority", priority), ("allowed", joined CASE_PRIORITIES)])

/-! ## The aggregate -/

inductive CaseActionType where
  | call | sms | whatsapp | letter | fieldVisit | escalation
  deriving DecidableEq

inductive ActionSource where
  | automated | manual
  deriving DecidableEq

structure CaseAction where
  id : String
  type : CaseActionType
  scheduledFor : Date
  outcome : Option String
  completedAt : Option Date
  completedBy : Option String
  consentRef : Option String
  source : ActionSource
  actorId : String
  recordedAt : Date

structure CaseTransitionRecord where
  fromStatus : CaseStatus
  toStatus : CaseStatus
  reason : String
  actorId : String
  recordedAt : Date

structure CasePriorityChangeRecord where
  fromPriority : CasePriority
  toPriority : CasePriority
  reason : String
  actorId : String
  recordedAt : Date

structure CollectionsCase where
  id : Uuid
  caseNumber : String
  sequence : ℤ
  orgId : Uuid
  receivableIds : List Uuid
  collectorId : Uuid
  priority : CasePriority
  status : CaseStatus
  openedAt : Date
  openedBy : String
  closedAt : Option Date
  closedBy : Option String
  actions : List CaseAction
  history : List CaseTransitionRecord
  priorityChanges : List CasePriorityChangeRecord

/-! ## Facts -/

inductive CasePayload where
  | opened (caseId : Uuid) (caseNumber : String) (orgId : Uuid) (receivableIds : List Uuid)
      (collectorId : Uuid) (priority : CasePriority) (openedBy openedAt : String)
  | escalated (caseId : Uuid) (caseNumber : String) (orgId : Uuid) (fromPriority : CasePriority)
      (toPriority : CasePriority) (reason actorId escalatedAt : String)
  | resolved (caseId : Uuid) (caseNumber : String) (orgId : Uuid) (receivableIds : List Uuid)
      (reason actorId resolvedAt : String)
  | closed (caseId : Uuid) (caseNumber : String) (orgId : Uuid) (releasedReceivableIds : List Uuid)
      (reason actorId closedAt : String)

structure CollectionsEvent where
  name : String
  version : ℕ
  aggregateId : Uuid
  occurredAt : String
  payload : CasePayload

def domainEvent (name : String) (aggregateId : Uuid) (payload : CasePayload) (now : Date) :
    Except Thrown CollectionsEvent := do
  let occurredAt ← now.toISOString
  return { name, version := 1, aggregateId, occurredAt, payload }

structure CaseResult where
  case : CollectionsCase
  events : List CollectionsEvent

/-! ## Guards -/

def assertClockDate (reading : Date) (code : String) : Except Thrown Date := do
  throwIf (reading = .invalid) (DomainError code "clock returned an invalid Date")
  return reading

def assertNonBlank (raw code label : String) : Except Thrown String := do
  let value := trim raw
  throwIf (value = "") (DomainError code s!"a collections case requires a non-blank {label}")
  return value

def assertActor (actorId : String) : Except Thrown String :=
  assertNonBlank actorId "CASE_ACTOR_REQUIRED" "actor id (every step has an owner)"

/-! ## Coverage -/

structure OpenCaseCoverage where
  receivableId : Uuid
  caseId : Uuid

def openCaseCoverageOf (cases : List CollectionsCase) : List OpenCaseCoverage :=
  (cases.filter fun c => isCaseOpen c.status).flatMap fun c =>
    c.receivableIds.map fun receivableId => ⟨receivableId, c.id⟩

/-! ## Opening -/

/-- `CASE-` and the sequence number with at least six digits. -/
def formatCaseNumber (sequenceNo : ℤ) : String := "CASE-" ++ padStart (toString sequenceNo) 6 '0'

structure OpenCaseArgs where
  id : Uuid
  orgId : Uuid
  receivableIds : List Uuid
  collectorId : Uuid
  priority : Option String
  openedBy : String
  sequenceNo : JsNumber
  formatNumber : Option (ℤ → String)

def assertReceivable (receivableId : Uuid) : Except Thrown Unit :=
  throwIf (trim receivableId = "") (.domainError "CASE_RECEIVABLE_INVALID"
    "receivable ids must be non-blank opaque ids" [("receivableId", receivableId)])

def findDuplicate (receivableIds : List Uuid) : Option Uuid :=
  (receivableIds.zipIdx.find? fun p => receivableIds.idxOf p.1 ≠ p.2).map Prod.fst

def assertNoDuplicate (receivableIds : List Uuid) : Except Thrown Unit :=
  match findDuplicate receivableIds with
  | some duplicate => .error (.domainError "CASE_RECEIVABLE_DUPLICATE"
      s!"receivable {duplicate} appears more than once in the same case"
      [("receivableId", duplicate)])
  | none => .ok ()

def assertSequence (sequenceNo : JsNumber) : Except Thrown ℤ :=
  match sequenceNo.safeInteger.filter (1 ≤ ·) with
  | some n => .ok n
  | none => .error (.domainError "CASE_SEQUENCE_INVALID"
      s!"sequenceNo must be a safe integer ≥ 1, got {sequenceNo.text}"
      [("sequenceNo", sequenceNo.text)])

def priorityOrNormal : Option String → Except Thrown CasePriority
  | none => .ok .normal
  | some priority => assertPriority priority

def assertUncovered (coverage : List OpenCaseCoverage) (receivableId : Uuid) : Except Thrown Unit :=
  match coverage.find? (·.receivableId = receivableId) with
  | some covering => .error (.domainError "CASE_ALREADY_OPEN"
      (s!"receivable {receivableId} is already covered by open case {covering.caseId} — " ++
        "close that case first (R8: at most one open case per receivable)")
      [("receivableId", receivableId), ("caseId", covering.caseId)])
  | none => .ok ()

def openCase (args : OpenCaseArgs) (openCaseCoverage : List OpenCaseCoverage) (clock : Clock) :
    Except Thrown CaseResult := do
  let openedAt ← assertClockDate (clock.now 0) "CASE_CLOCK_INVALID"
  let openedBy ← assertActor args.openedBy
  let collectorId ← assertNonBlank args.collectorId "CASE_COLLECTOR_REQUIRED"
    "collector id (every case has an owner)"
  throwIf (args.receivableIds.length = 0) (DomainError "CASE_RECEIVABLES_REQUIRED"
    "a collections case must cover at least one receivable (R8 is defined per receivable)")
  forM args.receivableIds assertReceivable
  assertNoDuplicate args.receivableIds
  let priority ← priorityOrNormal args.priority
  let sequence ← assertSequence args.sequenceNo
  let caseNumber ← assertNonBlank ((args.formatNumber.getD formatCaseNumber) sequence)
    "CASE_NUMBER_INVALID" "caseNumber (the formatter returned a blank value)"
  forM args.receivableIds (assertUncovered openCaseCoverage)
  let case : CollectionsCase := {
    id := args.id, caseNumber, sequence, orgId := args.orgId, receivableIds := args.receivableIds
    collectorId, priority, status := .open, openedAt, openedBy, closedAt := none, closedBy := none
    actions := [], history := [], priorityChanges := [] }
  let openedAtText ← openedAt.toISOString
  let event ← domainEvent "case.opened" case.id
    (.opened case.id caseNumber case.orgId case.receivableIds collectorId priority openedBy
      openedAtText) (clock.now 1)
  return ⟨case, [event]⟩

/-! ## Transitions -/

structure TransitionCaseArgs where
  reason : String
  actorId : String

def assertStatus (status : String) : Except Thrown CaseStatus :=
  match CASE_STATUSES.find? (·.text = status) with
  | some s => .ok s
  | none => .error (.domainError "CASE_STATUS_INVALID" s!"unknown case status: {status}"
      [("to", status), ("allowed", joined CASE_STATUSES)])

def transitionEvents (case : CollectionsCase) (target : CaseStatus) (reason actorId : String)
    (now occurredAt : Date) : Except Thrown (List CollectionsEvent) :=
  match target with
  | .resolved => do
    let text ← now.toISOString
    let event ← domainEvent "case.resolved" case.id (.resolved case.id case.caseNumber case.orgId
      case.receivableIds reason actorId text) occurredAt
    return [event]
  | .closed_inactive => do
    let text ← now.toISOString
    let event ← domainEvent "case.closed" case.id (.closed case.id case.caseNumber case.orgId
      case.receivableIds reason actorId text) occurredAt
    return [event]
  | _ => .ok []

def transitionCase (case : CollectionsCase) (target : String) (args : TransitionCaseArgs)
    (clock : Clock) : Except Thrown CaseResult := do
  let target ← assertStatus target
  let source := case.status
  throwIf (target ∉ CASE_TRANSITIONS source) (.domainError "CASE_TRANSITION_INVALID"
    s!"cannot move a case from {source} to {target}" [("from", source.text), ("to", target.text)])
  let reason ← assertNonBlank args.reason "CASE_REASON_REQUIRED"
    "reason (every transition is a recorded decision)"
  let actorId ← assertActor args.actorId
  let now ← assertClockDate (clock.now 0) "CASE_CLOCK_INVALID"
  let terminal := (CASE_TRANSITIONS target).length = 0
  let next : CollectionsCase := { case with
    status := target
    closedAt := if terminal then some now else case.closedAt
    closedBy := if terminal then some actorId else case.closedBy
    history := case.history ++ [⟨source, target, reason, actorId, now⟩] }
  let events ← transitionEvents case target reason actorId now (clock.now 1)
  return ⟨next, events⟩

/-! ## Escalation -/

structure EscalateCaseArgs where
  target : String
  reason : String
  actorId : String

def escalateCase (case : CollectionsCase) (args : EscalateCaseArgs) (clock : Clock) :
    Except Thrown CaseResult := do
  throwIf (!isCaseOpen case.status) (.domainError "CASE_CLOSED"
    s!"case {case.caseNumber} is {case.status} — nothing to escalate"
    [("caseId", case.id), ("status", case.status.text)])
  let target ← assertPriority args.target
  let source := case.priority
  throwIf (CASE_PRIORITY_RANK target ≤ CASE_PRIORITY_RANK source)
    (.domainError "CASE_ESCALATION_INVALID"
      s!"escalation must strictly raise the priority; {source} → {target} does not"
      [("from", source.text), ("to", target.text)])
  let reason ← assertNonBlank args.reason "CASE_REASON_REQUIRED"
    "reason (every escalation is a recorded decision)"
  let actorId ← assertActor args.actorId
  let now ← assertClockDate (clock.now 0) "CASE_CLOCK_INVALID"
  let next : CollectionsCase := { case with
    priority := target
    priorityChanges := case.priorityChanges ++ [⟨source, target, reason, actorId, now⟩] }
  let text ← now.toISOString
  let event ← domainEvent "case.escalated" case.id (.escalated case.id case.caseNumber case.orgId
    source target reason actorId text) (clock.now 1)
  return ⟨next, [event]⟩

/-! ## What the commands do -/

variable {coverage : List OpenCaseCoverage} {clock : Clock} {result : CaseResult}

lemma assertUncovered_eq_ok {receivableId : Uuid} :
    assertUncovered coverage receivableId = .ok () ↔
      ∀ entry ∈ coverage, entry.receivableId ≠ receivableId := by
  unfold assertUncovered
  cases hfind : coverage.find? (·.receivableId = receivableId) with
  | none =>
    refine iff_of_true rfl fun entry hentry hsame => ?_
    have hnot := List.find?_eq_none.mp hfind entry hentry
    simp [hsame] at hnot
  | some covering =>
    refine iff_of_false (by simp) fun hall => ?_
    exact hall covering (List.mem_of_find?_eq_some hfind) (by simpa using List.find?_some hfind)

structure Opened (args : OpenCaseArgs) (coverage : List OpenCaseCoverage) (c : CollectionsCase) :
    Prop where
  receivables : c.receivableIds = args.receivableIds
  status : c.status = .open
  history : c.history = []
  priorityChanges : c.priorityChanges = []
  uncovered : ∀ receivableId ∈ c.receivableIds, ∀ entry ∈ coverage,
    entry.receivableId ≠ receivableId

variable {args : OpenCaseArgs} {c : CollectionsCase}

lemma openCase_eq_ok (h : openCase args coverage clock = .ok result) :
    Opened args coverage result.case := by
  simp only [openCase, ok_iff, forM_eq_ok, assertUncovered_eq_ok] at h
  obtain ⟨_, -, _, -, _, -, -, _, -, _, -, _, -, _, -, _, -, _, huncovered, _, -, _, -, rfl⟩ := h
  exact ⟨rfl, rfl, rfl, rfl, huncovered⟩

/-- **Only the coverage of its own receivables counts for a new case.** -/
lemma openCase_of_uncovered (clock : Clock)
    (h : ∀ receivableId ∈ args.receivableIds, ∀ entry ∈ coverage,
    entry.receivableId ≠ receivableId) : openCase args coverage clock = openCase args [] clock := by
  have hfree : forM args.receivableIds (assertUncovered coverage) =
      forM args.receivableIds (assertUncovered []) := by
    have hok : ∀ others : List OpenCaseCoverage, (∀ receivableId ∈ args.receivableIds,
        ∀ entry ∈ others, entry.receivableId ≠ receivableId) →
        forM args.receivableIds (assertUncovered others) = .ok () := fun others hothers =>
      forM_eq_ok.mpr fun receivableId hmem => assertUncovered_eq_ok.mpr (hothers receivableId hmem)
    rw [hok coverage h, hok [] (by simp)]
  unfold openCase
  rw [hfree]

lemma transitionCase_eq_ok {target : String} {args : TransitionCaseArgs}
    (h : transitionCase c target args clock = .ok result) :
    ∃ status reason actorId now closedAt closedBy, status ∈ CASE_TRANSITIONS c.status ∧
      result.case = { c with
        status, closedAt, closedBy
        history := c.history ++ [⟨c.status, status, reason, actorId, now⟩] } := by
  simp only [transitionCase, ok_iff, not_not] at h
  obtain ⟨status, -, hlegal, reason, -, actorId, -, now, -, events, -, rfl⟩ := h
  exact ⟨status, reason, actorId, now, _, _, hlegal, rfl⟩

lemma escalateCase_eq_ok {args : EscalateCaseArgs} (h : escalateCase c args clock = .ok result) :
    ∃ priority reason actorId now, CASE_PRIORITY_RANK c.priority < CASE_PRIORITY_RANK priority ∧
      result.case = { c with
        priority
        priorityChanges := c.priorityChanges ++ [⟨c.priority, priority, reason, actorId, now⟩]
        } := by
  simp only [escalateCase, ok_iff, not_le] at h
  obtain ⟨-, priority, -, hraised, reason, -, actorId, -, now, -, _, -, _, -, rfl⟩ := h
  exact ⟨priority, reason, actorId, now, hraised, rfl⟩

end Fuatilia.Collections
