import Fuatilia.Backend.Service
import Fuatilia.Collections.Case
import Fuatilia.Foundations.Trails
import Fuatilia.Foundations.Transactions

/-!
# Concurrent commands on a collections case

`Transition`, `Escalate` and `RecordAction` load the row of a case, take its lock, decide on the
row, update it and append to the log. The row is loaded before the lock is taken and not checked
again, so it may be stale.

## Main definitions

* `transition`, `escalate`, `recordAction` — the commands.
* `system`, `Checked.fresh` — them as transactions, and a commit that decides on the stored row.
* `Orderly` — the law of the log.

## Main results

* `log_orderly` — the law, in every interleaving whose commits are fresh.

## Implementation notes

A command holds the lock until its commit, and its statements after the lock see what was committed
before, so they are one step with the commit. A command that fails is rolled back. The rows of one
case are modelled; the number of receivables is arbitrary.
-/

namespace Fuatilia.Backend.Cases

open Machine Transactions Trails Fallible
open Collections (CasePriority CaseStatus CaseActionType ActionSource)

/-! ## Rows -/

structure CaseRow where
  id : Uuid
  orgID : Uuid
  caseNumber : String
  sequenceNo : ℤ
  priority : CasePriority
  status : CaseStatus
  ownerID : Uuid
  openedAt : ℤ
  closedAt : Option ℤ
  closedReason : Option String

inductive LogAction where
  | opened (actorID : String) (openedAt : ℤ)
  | transition (source target : CaseStatus) (reason actorID : String) (performedAt : ℤ)
  | escalation (source target : CasePriority) (reason actorID : String) (performedAt : ℤ)
  | dunningHold (type : CaseActionType) (scheduledFor : ℤ) (reason : String) (blockedAt : ℤ)
  | action (type : CaseActionType) (scheduledFor : ℤ) (source : ActionSource) (actorID : String)
      (consentRef outcome : Option String) (completedAt : Option ℤ) (completedBy : Option String)

structure LogRow where
  id : Uuid
  actorID : String
  action : LogAction
  performedAt : ℤ
  sequenceNo : ℕ

inductive CaseFact where
  | opened (receivableIDs : List Uuid) (collectorID : Uuid) (priority : CasePriority)
      (openedBy : String) (openedAt : ℤ)
  | resolved (receivableIDs : List Uuid) (reason actorID : String) (resolvedAt : ℤ)
  | closed (releasedReceivableIDs : List Uuid) (reason actorID : String) (closedAt : ℤ)
  | escalated (source target : CasePriority) (reason actorID : String) (escalatedAt : ℤ)
  | dunningBlockedNoConsent (receivableIDs : List Uuid) (type : CaseActionType) (scheduledFor : ℤ)
      (actorID reason : String) (blockedAt : ℤ)
  | actionRecorded (actionID : Uuid) (type : CaseActionType) (scheduledFor : ℤ)
      (outcome : Option String) (completedAt : Option ℤ) (consentRef : Option String)
      (actorID : String) (recordedAt : ℤ)

structure OutboxRow where
  caseID : Uuid
  caseNumber : String
  orgID : Uuid
  fact : CaseFact

structure CaseDb where
  row : CaseRow
  receivableIDs : List Uuid
  log : List LogRow
  outbox : List OutboxRow

/-- What a command answers after its commit: the case, the case with the recorded action, or the
refusal of a message for which there is no consent. -/
inductive Reply where
  | case (row : CaseRow)
  | recorded (row : CaseRow) (actionID : Uuid) (action : LogAction) (recordedAt : ℤ)
  | refused (refusal : Refusal)

/-! ## The vocabulary of the service -/

def casePriorities : CasePriority → ℕ
  | .low => 0
  | .normal => 1
  | .high => 2
  | .urgent => 3

def caseTransitions : CaseStatus → List CaseStatus
  | .open => [.in_progress]
  | .in_progress => [.resolved, .closed_inactive]
  | .resolved => []
  | .closed_inactive => []

def caseIsOpen (status : CaseStatus) : Bool := status = .open ∨ status = .in_progress

def statusNamed (text : String) : Option CaseStatus :=
  Collections.CASE_STATUSES.find? (·.text = text)

def priorityNamed (text : String) : Option CasePriority :=
  Collections.CASE_PRIORITIES.find? (·.text = text)

def actionTypeNamed : String → Option CaseActionType
  | "call" => some .call
  | "sms" => some .sms
  | "whatsapp" => some .whatsapp
  | "letter" => some .letter
  | "fieldVisit" => some .fieldVisit
  | "escalation" => some .escalation
  | _ => none

def actionTypeText : CaseActionType → String
  | .call => "call"
  | .sms => "sms"
  | .whatsapp => "whatsapp"
  | .letter => "letter"
  | .fieldVisit => "fieldVisit"
  | .escalation => "escalation"

def isOutbound (type : CaseActionType) : Bool := type = .sms ∨ type = .whatsapp

/-- The source that a text names; none given means automated for messages and manual otherwise. -/
def sourceNamed (text : String) (type : CaseActionType) : Option ActionSource :=
  if text = "" then some (if isOutbound type then .automated else .manual)
  else if text = "automated" then some .automated
  else if text = "manual" then some .manual
  else none

/-! ## Statements -/

def CaseDb.updateCaseStatus (db : CaseDb) (status : CaseStatus) (closedAt : Option ℤ)
    (closedReason : Option String) : CaseDb :=
  { db with row := { db.row with status, closedAt, closedReason } }

def CaseDb.updateCasePriority (db : CaseDb) (priority : CasePriority) : CaseDb :=
  { db with row := { db.row with priority } }

def CaseDb.nextCaseActionSequence (db : CaseDb) : ℕ :=
  (db.log.map (·.sequenceNo)).foldr max 0 + 1

def CaseDb.appendCaseAction (db : CaseDb) (id : Uuid) (actorID : String) (action : LogAction)
    (performedAt : ℤ) : CaseDb :=
  { db with log := db.log ++ [⟨id, actorID, action, performedAt, db.nextCaseActionSequence⟩] }

def CaseDb.appendOutbox (db : CaseDb) (loaded : CaseRow) (facts : List CaseFact) : CaseDb :=
  { db with outbox := db.outbox ++
      facts.map fun fact => ⟨loaded.id, loaded.caseNumber, loaded.orgID, fact⟩ }

/-! ## Transition -/

structure TransitionCommand where
  target : String
  reason : String

def assertReason (reason message : String) : Except Refusal Unit :=
  throwIf (trim reason = "") (.domainError "CASE_REASON_REQUIRED" message)

def assertActor (actorID message : String) : Except Refusal Unit :=
  throwIf (trim actorID = "") (.domainError "CASE_ACTOR_REQUIRED" message)

def checkTransition (actorID : String) (cmd : TransitionCommand) : Except Refusal Unit := do
  throwIf (statusNamed cmd.target = none)
    (.domainError "CASE_STATUS_INVALID" ("unknown case status: " ++ cmd.target))
  assertReason cmd.reason
    "a collections case requires a non-blank reason (every transition is a recorded decision)"
  assertActor actorID "a collections case requires a non-blank actor id"

def transitionFacts (db : CaseDb) (target : CaseStatus) (reason actorID : String) (now : ℤ) :
    List CaseFact :=
  match target with
  | .resolved => [.resolved db.receivableIDs reason actorID now]
  | .closed_inactive => [.closed db.receivableIDs reason actorID now]
  | _ => []

/-- `Transition` from the lock on; it decides on the row that it loaded before. -/
def transition (db : CaseDb) (loaded : CaseRow) (actorID : String) (cmd : TransitionCommand)
    (rowID : Uuid) (now : ℤ) : Except Refusal (CaseDb × Reply) :=
  match statusNamed cmd.target with
  | none => .error (.domainError "CASE_STATUS_INVALID" ("unknown case status: " ++ cmd.target))
  | some target => do
    throwIf (target ∉ caseTransitions loaded.status) (.domainError "CASE_TRANSITION_INVALID"
      s!"cannot move a case from {loaded.status} to {target}")
    let terminal := (caseTransitions target).length = 0
    let reason := trim cmd.reason
    let closedAt := if terminal then some now else none
    let closedReason := if terminal then some reason else none
    let updated := db.updateCaseStatus target closedAt closedReason
    let logged := updated.appendCaseAction rowID actorID
      (.transition loaded.status target reason actorID now) now
    return (logged.appendOutbox loaded (transitionFacts db target reason actorID now),
      .case { loaded with status := target, closedAt, closedReason })

/-! ## Escalate -/

structure EscalationCommand where
  target : String
  reason : String

def checkEscalation (actorID : String) (cmd : EscalationCommand) : Except Refusal Unit := do
  assertReason cmd.reason
    "a collections case requires a non-blank reason (every escalation is a recorded decision)"
  assertActor actorID "a collections case requires a non-blank actor id"

/-- `Escalate` from the lock on; it decides on the row that it loaded before. -/
def escalate (db : CaseDb) (loaded : CaseRow) (actorID : String) (cmd : EscalationCommand)
    (rowID : Uuid) (now : ℤ) : Except Refusal (CaseDb × Reply) := do
  throwIf (!caseIsOpen loaded.status) (.domainError "CASE_CLOSED"
    s!"case {loaded.caseNumber} is {loaded.status} — nothing to escalate")
  match priorityNamed cmd.target with
  | none => .error (.domainError "CASE_PRIORITY_INVALID" ("unknown case priority: " ++ cmd.target))
  | some target => do
    throwIf (casePriorities target ≤ casePriorities loaded.priority)
      (.domainError "CASE_ESCALATION_INVALID"
        s!"escalation must strictly raise the priority; {loaded.priority} → {target} does not")
    let reason := trim cmd.reason
    let updated := db.updateCasePriority target
    let logged := updated.appendCaseAction rowID actorID
      (.escalation loaded.priority target reason actorID now) now
    return (logged.appendOutbox loaded [.escalated loaded.priority target reason actorID now],
      .case { loaded with priority := target })

/-! ## RecordAction -/

structure RecordActionCommand where
  type : String
  /-- `none` is the zero time. -/
  scheduledFor : Option ℤ
  outcome : String
  source : String
  consentRef : String

structure ActionToRecord where
  type : CaseActionType
  scheduledFor : ℤ
  source : ActionSource
  outcome : Option String
  consentRef : Option String

def nullable (s : String) : Option String := if s = "" then none else some s

def checkRecordAction (actorID : String) (cmd : RecordActionCommand) :
    Except Refusal ActionToRecord := do
  assertActor actorID "a case action requires a non-blank actor id"
  match actionTypeNamed cmd.type with
  | none => .error (.domainError "CASE_ACTION_TYPE_INVALID"
      ("unknown case action type: " ++ cmd.type))
  | some type =>
    match cmd.scheduledFor with
    | none => .error (.domainError "CASE_SCHEDULED_FOR_INVALID"
        "scheduledFor must be a valid timestamp")
    | some scheduledFor =>
      match sourceNamed cmd.source type with
      | none => .error (.domainError "CASE_ACTION_SOURCE_INVALID"
          ("unknown action source: " ++ cmd.source))
      | some source => do
        throwIf (cmd.outcome ≠ "" ∧ trim cmd.outcome = "") (.domainError "CASE_OUTCOME_REQUIRED"
          "a case action requires a non-blank outcome (blank when completing)")
        return ⟨type, scheduledFor, source, nullable (trim cmd.outcome),
          nullable (trim cmd.consentRef)⟩

def consentMissing (type : CaseActionType) (caseNumber : String) : String :=
  "automated " ++ actionTypeText type ++ " dunning on case " ++ caseNumber ++
    " requires an active dunning consent reference (K2) — nothing was sent"

/-- `RecordAction` from the lock on; it decides on the row that it loaded before. The refusal of an
automated message without a consent leaves a hold marker in the log. -/
def recordAction (db : CaseDb) (loaded : CaseRow) (actorID : String) (cmd : ActionToRecord)
    (rowID : Uuid) (now : ℤ) : Except Refusal (CaseDb × Reply) := do
  throwIf (!caseIsOpen loaded.status) (.domainError "CASE_CLOSED"
    s!"case {loaded.caseNumber} is {loaded.status} — its action log is sealed")
  if isOutbound cmd.type ∧ cmd.source = .automated ∧ cmd.consentRef = none then
    let reason := consentMissing cmd.type loaded.caseNumber
    let logged := db.appendCaseAction rowID actorID
      (.dunningHold cmd.type cmd.scheduledFor reason now) now
    return (logged.appendOutbox loaded [.dunningBlockedNoConsent db.receivableIDs cmd.type
        cmd.scheduledFor actorID ("automated " ++ actionTypeText cmd.type ++
          " dunning requires an active dunning consent reference (K2) — nothing was sent") now],
      .refused (.domainError "DUNNING_CONSENT_REQUIRED" reason))
  else
    let completedAt := cmd.outcome.map fun _ => now
    let action := LogAction.action cmd.type cmd.scheduledFor cmd.source actorID cmd.consentRef
      cmd.outcome completedAt (cmd.outcome.map fun _ => actorID)
    let logged := db.appendCaseAction rowID actorID action now
    return (logged.appendOutbox loaded [.actionRecorded rowID cmd.type cmd.scheduledFor cmd.outcome
        completedAt cmd.consentRef actorID now],
      .recorded loaded rowID action now)

/-! ## The transactions -/

inductive Command where
  | transition (cmd : TransitionCommand)
  | escalate (cmd : EscalationCommand)
  | recordAction (cmd : RecordActionCommand)

structure Request where
  actorID : String
  command : Command
  rowID : Uuid
  now : ℤ

inductive Checked where
  | transition (cmd : TransitionCommand)
  | escalate (cmd : EscalationCommand)
  | recordAction (cmd : ActionToRecord)

def Request.check (r : Request) : Except Refusal Checked :=
  match r.command with
  | .transition cmd => do
    checkTransition r.actorID cmd
    return .transition cmd
  | .escalate cmd => do
    checkEscalation r.actorID cmd
    return .escalate cmd
  | .recordAction cmd => do
    let checked ← checkRecordAction r.actorID cmd
    return .recordAction checked

def execute (db : CaseDb) (loaded : CaseRow) (r : Request) :
    Checked → Except Refusal (CaseDb × Reply)
  | .transition cmd => transition db loaded r.actorID cmd r.rowID r.now
  | .escalate cmd => escalate db loaded r.actorID cmd r.rowID r.now
  | .recordAction cmd => recordAction db loaded r.actorID cmd r.rowID r.now

/-- An open transaction: before its first statement, or waiting for the lock with the row that it
loaded. -/
inductive Tx where
  | started (r : Request)
  | loaded (r : Request) (checked : Checked) (row : CaseRow)

def Tx.advance (db : CaseDb) : Tx → Option Tx
  | .started r => r.check.toOption.map fun checked => .loaded r checked db.row
  | .loaded _ _ _ => none

def Tx.commit (db : CaseDb) : Tx → Option CaseDb
  | .started _ => none
  | .loaded r checked row => (execute db row r checked).toOption.map Prod.fst

def system : System CaseDb Request Tx := ⟨.started, Tx.advance, Tx.commit⟩

/-- What the command decides on is still what is stored: the status, and for an escalation the
priority. -/
def Checked.fresh (db : CaseDb) (row : CaseRow) : Checked → Bool
  | .escalate _ => row.status = db.row.status ∧ row.priority = db.row.priority
  | _ => row.status = db.row.status

/-- The condition on a commit: no other command has changed what this one decides on since it loaded
the row. -/
def current (s : State CaseDb Tx) : Event Request → Bool
  | .commit i =>
    match s.inFlight[i]? with
    | some (.loaded _ checked row) => checked.fresh s.db row
    | _ => true
  | _ => true

/-! ## The law -/

def LogAction.move : LogAction → Option (CaseStatus × CaseStatus)
  | .transition source target _ _ _ => some (source, target)
  | _ => none

def LogRow.Closes (row : LogRow) : Prop := ∃ move ∈ row.action.move, caseTransitions move.2 = []

def Legal (source target : CaseStatus) : Prop := target ∈ caseTransitions source
  deriving Decidable

def moves (log : List LogRow) : List (CaseStatus × CaseStatus) := log.filterMap (·.action.move)

/-- **The law of the log.** It is in the order of its numbers, its moves lead from open to the
stored status along the table, and no row follows one that closes the case. -/
structure Orderly (db : CaseDb) : Prop where
  numbered : (db.log.map (·.sequenceNo)).Pairwise (· < ·)
  leads : Leads Legal .open (moves db.log) db.row.status
  closed : db.log.Pairwise fun row _ => ¬ row.Closes

/-- **The law of time.** A closed case keeps its status, and the priority never falls. -/
structure Follows (db db' : CaseDb) : Prop where
  status : caseTransitions db.row.status = [] → db'.row.status = db.row.status
  priority : casePriorities db.row.priority ≤ casePriorities db'.row.priority

lemma follows_refl (db : CaseDb) : Follows db db := ⟨fun _ => rfl, le_rfl⟩

variable {db db' : CaseDb} {actorID : String} {loaded : CaseRow} {now : ℤ} {reply : Reply}
  {rowID : Uuid}

lemma follows_trans {db'' : CaseDb} (h : Follows db db') (h' : Follows db' db'') :
    Follows db db'' := by
  refine ⟨fun hclosed => ?_, h.priority.trans h'.priority⟩
  have heq := h.status hclosed
  rw [h'.status (heq ▸ hclosed), heq]

/-! ## What one command can do -/

def Appends (db db' : CaseDb) (action : LogAction) : Prop :=
  ∃ row : LogRow, row.action = action ∧ row.sequenceNo = db.nextCaseActionSequence ∧
    db'.log = db.log ++ [row]

lemma transition_eq_ok {cmd : TransitionCommand}
    (h : transition db loaded actorID cmd rowID now = .ok (db', reply)) :
    ∃ target, Legal loaded.status target ∧ db'.row.status = target ∧
      db'.row.priority = db.row.priority ∧
      ∃ action : LogAction, action.move = some (loaded.status, target) ∧ Appends db db' action := by
  unfold transition at h
  split at h
  · cases h
  · rename_i target _
    simp only [ok_iff, not_not] at h
    obtain ⟨hlegal, heq⟩ := h
    cases heq
    exact ⟨target, hlegal, rfl, rfl, _, rfl, _, rfl, rfl, rfl⟩

lemma escalate_eq_ok {cmd : EscalationCommand}
    (h : escalate db loaded actorID cmd rowID now = .ok (db', reply)) :
    caseIsOpen loaded.status = true ∧
      casePriorities loaded.priority < casePriorities db'.row.priority ∧
      db'.row.status = db.row.status ∧
      ∃ action : LogAction, action.move = none ∧ Appends db db' action := by
  simp only [escalate, ok_iff] at h
  obtain ⟨hopen, h⟩ := h
  split at h
  · cases h
  · rename_i target _
    simp only [ok_iff, not_le] at h
    obtain ⟨hrank, heq⟩ := h
    cases heq
    exact ⟨by simpa using hopen, hrank, rfl, _, rfl, _, rfl, rfl, rfl⟩

lemma recordAction_eq_ok {cmd : ActionToRecord}
    (h : recordAction db loaded actorID cmd rowID now = .ok (db', reply)) :
    caseIsOpen loaded.status = true ∧ db'.row = db.row ∧
      ∃ action : LogAction, action.move = none ∧ Appends db db' action := by
  simp only [recordAction, ok_iff] at h
  obtain ⟨hopen, h⟩ := h
  split_ifs at h with hheld
  all_goals
    simp only [pure_eq_ok] at h
    cases h
    exact ⟨by simpa using hopen, rfl, _, rfl, _, rfl, rfl, rfl⟩

/-- What a command does that decides on the stored row: the case is not closed, its priority does
not fall, and one row is logged, which records the move if there is one. -/
structure Advances (db db' : CaseDb) : Prop where
  unfinished : caseTransitions db.row.status ≠ []
  priority : casePriorities db.row.priority ≤ casePriorities db'.row.priority
  logged : ∃ action : LogAction, Appends db db' action ∧
    (action.move = none ∧ db'.row.status = db.row.status ∨
      action.move = some (db.row.status, db'.row.status) ∧ Legal db.row.status db'.row.status)

lemma unfinished_of_caseIsOpen {status : CaseStatus} (h : caseIsOpen status = true) :
    caseTransitions status ≠ [] := by
  cases status with
  | «open» | in_progress => exact List.cons_ne_nil _ _
  | resolved | closed_inactive => simp [caseIsOpen] at h

/-- **What one command can do**, if it decides on the stored row. -/
lemma commit_cases {row : CaseRow} {r : Request} {checked : Checked}
    (hfresh : checked.fresh db row = true) (h : Tx.commit db (.loaded r checked row) = some db') :
    Advances db db' := by
  obtain ⟨⟨_, reply⟩, hexecute, rfl⟩ := Option.map_eq_some_iff.mp h
  rw [toOption_eq_some] at hexecute
  cases checked with
  | transition cmd =>
    have hstatus : row.status = db.row.status := by simpa [Checked.fresh] using hfresh
    obtain ⟨target, hlegal, htarget, hpriority, action, hmove, happends⟩ :=
      transition_eq_ok hexecute
    rw [hstatus, ← htarget] at hlegal hmove
    exact ⟨List.ne_nil_of_mem hlegal, hpriority.symm ▸ le_rfl, action, happends,
      .inr ⟨hmove, hlegal⟩⟩
  | escalate cmd =>
    have hfresh : row.status = db.row.status ∧ row.priority = db.row.priority := by
      simpa [Checked.fresh] using hfresh
    obtain ⟨hopen, hrank, hstatus, action, hmove, happends⟩ := escalate_eq_ok hexecute
    rw [hfresh.1] at hopen
    rw [hfresh.2] at hrank
    exact ⟨unfinished_of_caseIsOpen hopen, hrank.le, action, happends, .inl ⟨hmove, hstatus⟩⟩
  | recordAction cmd =>
    have hstatus : row.status = db.row.status := by simpa [Checked.fresh] using hfresh
    obtain ⟨hopen, hrow, action, hmove, happends⟩ := recordAction_eq_ok hexecute
    rw [hstatus] at hopen
    exact ⟨unfinished_of_caseIsOpen hopen, hrow ▸ le_rfl, action, happends,
      .inl ⟨hmove, hrow ▸ rfl⟩⟩

/-! ## The law along an interleaving -/

lemma lt_nextCaseActionSequence {row : LogRow} (hrow : row ∈ db.log) :
    row.sequenceNo < db.nextCaseActionSequence :=
  Nat.lt_succ_of_le (List.le_max_of_le' 0 (List.mem_map_of_mem hrow) le_rfl)

lemma moves_concat (log : List LogRow) (row : LogRow) :
    moves (log ++ [row]) = moves log ++ row.action.move.toList := by
  cases hmove : row.action.move <;> simp [moves, hmove]

lemma Orderly.not_closes (h : Orderly db) (hopen : caseTransitions db.row.status ≠ [])
    {row : LogRow} (hrow : row ∈ db.log) : ¬ row.Closes := by
  rintro ⟨move, hmove, hclosed⟩
  have hmem : move ∈ moves db.log := List.mem_filterMap.mpr ⟨row, hrow, hmove⟩
  have hstuck : ∀ status, ¬ Legal move.2 status := by
    intro status hlegal
    rw [Legal, hclosed] at hlegal
    exact List.not_mem_nil hlegal
  exact hopen (h.leads.stuck hmem hstuck ▸ hclosed)

lemma Orderly.advances (h : Orderly db) (ha : Advances db db') : Orderly db' := by
  obtain ⟨hopen, -, action, ⟨row, rfl, hnumber, hlog⟩, hmove⟩ := ha
  constructor
  · rw [hlog, List.map_append]
    refine Lists.pairwise_concat h.numbered fun n hn => ?_
    obtain ⟨old, hold, rfl⟩ := List.mem_map.mp hn
    exact (lt_nextCaseActionSequence hold).trans_eq hnumber.symm
  · rw [hlog, moves_concat]
    rcases hmove with ⟨hnone, hstatus⟩ | ⟨hsome, hlegal⟩
    · rw [hnone, hstatus, Option.toList_none, List.append_nil]
      exact h.leads
    · rw [hsome]
      exact h.leads.concat hlegal
  · rw [hlog]
    exact Lists.pairwise_concat h.closed fun old hold => h.not_closes hopen hold

lemma Advances.follows (h : Advances db db') : Follows db db' :=
  ⟨fun hclosed => absurd hclosed h.unfinished, h.priority⟩

lemma step_advances {s s' : State CaseDb Tx} {e : Event Request} (hcurrent : current s e = true)
    (h : Transactions.step system s e = some s') : s'.db = s.db ∨ Advances s.db s'.db := by
  rcases Transactions.step_cases h with ⟨hdb, -⟩ | ⟨i, t, rfl, ht, hcommit, -⟩
  · exact .inl hdb
  · cases t with
    | started r => cases hcommit
    | loaded r checked row =>
      have hfresh : checked.fresh s.db row = true := by simpa [current, ht] using hcurrent
      exact .inr (commit_cases hfresh hcommit)

/-- **Concurrent commands on a case.** From an orderly log, along every interleaving whose commits
all decide on the stored row, the log is orderly at every point, a closed case keeps its status, and
the priority never falls. -/
theorem log_orderly (db : CaseDb) (hdb : Orderly db) (earlier later : List (Event Request))
    (hcurrent : Meets (Transactions.step system) (fun s e => current s e = true) ⟨db, []⟩
      (earlier ++ later)) :
    Orderly (run (Transactions.step system) ⟨db, []⟩ (earlier ++ later)).db ∧
      Follows (run (Transactions.step system) ⟨db, []⟩ earlier).db
        (run (Transactions.step system) ⟨db, []⟩ (earlier ++ later)).db := by
  have hkeep : ∀ (s : State CaseDb Tx) e s', current s e = true → Orderly s.db →
      Transactions.step system s e = some s' → Orderly s'.db := by
    intro s e s' hcurrent hs h
    rcases step_advances hcurrent h with hdb | hadvances
    · exact hdb ▸ hs
    · exact hs.advances hadvances
  have hfollows : ∀ (s : State CaseDb Tx) e s', current s e = true → Orderly s.db →
      Transactions.step system s e = some s' → Follows s.db s'.db := by
    intro s e s' hcurrent _ h
    rcases step_advances hcurrent h with hdb | hadvances
    · exact hdb ▸ follows_refl s.db
    · exact hadvances.follows
  obtain ⟨hearlier, hlater⟩ := (meets_append _ _ _).mp hcurrent
  refine ⟨run_invariant hkeep _ _ hdb hcurrent, ?_⟩
  rw [run_append]
  have htrans : ∀ s t u : State CaseDb Tx, Follows s.db t.db → Follows t.db u.db →
      Follows s.db u.db := fun _ _ _ => follows_trans
  exact run_rel (fun s => follows_refl s.db) htrans hkeep hfollows later _
    (run_invariant hkeep earlier _ hdb hearlier) hlater

/-! ## A case as it is opened -/

def openedCase (id orgID : Uuid) (caseNumber : String) (sequenceNo : ℤ) (priority : CasePriority)
    (collectorID : Uuid) (receivableIDs : List Uuid) (rowID : Uuid) (openedBy : String) (now : ℤ) :
    CaseDb where
  row := ⟨id, orgID, caseNumber, sequenceNo, priority, .open, collectorID, now, none, none⟩
  receivableIDs := receivableIDs
  log := [⟨rowID, openedBy, .opened openedBy now, now, 1⟩]
  outbox := [⟨id, caseNumber, orgID, .opened receivableIDs collectorID priority openedBy now⟩]

lemma orderly_openedCase (id orgID : Uuid) (caseNumber : String) (sequenceNo : ℤ)
    (priority : CasePriority) (collectorID : Uuid) (receivableIDs : List Uuid) (rowID : Uuid)
    (openedBy : String) (now : ℤ) :
    Orderly (openedCase id orgID caseNumber sequenceNo priority collectorID receivableIDs rowID
      openedBy now) :=
  ⟨List.pairwise_singleton _ _, rfl, List.pairwise_singleton _ _⟩

def normalCase : CaseDb :=
  openedCase "c1" "org" "CASE-000001" 1 .normal "col" ["r1", "r2"] "l1" "ann" 0

def moveTo (target rowID : String) : Request :=
  ⟨"ann", .transition ⟨target, "agreed with the customer"⟩, rowID, 1⟩

def raiseTo (target rowID : String) : Request :=
  ⟨"bob", .escalate ⟨target, "large balance"⟩, rowID, 1⟩

def call (rowID : String) : Request :=
  ⟨"cyd", .recordAction ⟨"call", some 2, "", "", ""⟩, rowID, 1⟩

def alone (r : Request) : List (Event Request) := [.begin r, .advance 0, .commit 0]

def inTurn : List (Event Request) :=
  alone (moveTo "in_progress" "l2") ++ alone (raiseTo "urgent" "l3") ++ alone (call "l4") ++
    alone (moveTo "resolved" "l5") ++ alone (call "l6")

def overlapping : List (Event Request) :=
  alone (moveTo "in_progress" "l2") ++
    [.begin (raiseTo "urgent" "l3"), .begin (raiseTo "high" "l4"), .begin (moveTo "resolved" "l5"),
      .begin (call "l6"), .begin (moveTo "closed_inactive" "l7"),
      .advance 0, .advance 1, .advance 2, .advance 3, .advance 4,
      .commit 0, .commit 0, .commit 0, .commit 0, .commit 0]

theorem log_orderly_inTurn :
    Orderly (run (Transactions.step system) ⟨normalCase, []⟩ (inTurn ++ [])).db ∧
      (run (Transactions.step system) ⟨normalCase, []⟩ inTurn).db.log.length = 5 :=
  ⟨(log_orderly normalCase (orderly_openedCase _ _ _ _ _ _ _ _ _ _) inTurn []
    (by decide +kernel)).1, by decide +kernel⟩

/-- Commands that decide on a stale row lower the priority, append to a closed case and move it from
one closed status to the other. -/
theorem overlapping_not_orderly :
    (let at' := fun k => (run (Transactions.step system) ⟨normalCase, []⟩ (overlapping.take k)).db
    ((at' 14).row.priority, (at' 15).row.priority) = (.urgent, .high) ∧
      ((at' 16).row.status, (at' 18).row.status) = (.resolved, .closed_inactive) ∧
      (at' 17).log.length = (at' 16).log.length + 1 ∧
      moves (at' 18).log = [(.open, .in_progress), (.in_progress, .resolved),
        (.in_progress, .closed_inactive)]) ∧
      ¬ Orderly (run (Transactions.step system) ⟨normalCase, []⟩ overlapping).db := by
  refine ⟨by decide +kernel, fun h => ?_⟩
  exact absurd h.leads (by decide +kernel)

end Fuatilia.Backend.Cases
