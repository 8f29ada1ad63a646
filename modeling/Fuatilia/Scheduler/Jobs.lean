import Fuatilia.Foundations.Jobs
import Fuatilia.Foundations.Scans
import Fuatilia.Scheduler.LateFee

/-!
# The dunning job and the late-fee job

The two jobs scan a batch of receivables, decide for each of them what is due, and commit every
effect as a claim in `idempotency_keys` together with its event in `outbox_events`.

## Main definitions

* `claimAndEmit` — the transaction of one effect.
* `runDunning`, `runLateFee`, `scheduler` — the jobs, and all runs as processes.

## Implementation notes

Every call of the store is one atomic statement. Its parameters are stored with the precision of the
column, microseconds. The identifiers of events are random in the source; here they are numbers, and
none is drawn twice. The lookup of a consent is an error of the database for a channel that the type
of the column does not have. Payloads hold instants where the source writes their ISO texts. A
consultation also remembers the table that it read, and the world which consultation a sent event
rests on; the code keeps neither.
-/

namespace Fuatilia.Scheduler

open Jobs Fallible

/-! ## The tables -/

/-- A row of `receivables`: the identifier is a UUID, and no more is applied than is owed. -/
structure ReceivableRow where
  id : Uuid
  orgID : Uuid
  customerID : Uuid
  currency : Currency
  dueDate : Instant
  overdue : Bool
  originalMinor : ℕ
  appliedMinor : ℕ
  state : ReceivableState
  uuid : ':' ∉ id.toList
  covered : appliedMinor ≤ originalMinor
  deriving DecidableEq

def ReceivableRow.balanceMinor (r : ReceivableRow) : ℕ := r.originalMinor - r.appliedMinor

def ReceivableRow.order (r : ReceivableRow) : Lex (Instant × Uuid) := toLex (r.dueDate, r.id)

inductive ConsentChannel where
  | whatsapp
  | sms
  | email
  deriving DecidableEq

inductive ConsentPurpose where
  | dunning
  | marketing
  deriving DecidableEq

def Channel.consent : Channel → Option ConsentChannel
  | .email => some .email
  | .sms => some .sms
  | .whatsapp => some .whatsapp
  | .task => none

structure ConsentGrant where
  id : Uuid
  orgID : Uuid
  customerID : Uuid
  channel : ConsentChannel
  purpose : ConsentPurpose
  grantedAt : Instant
  revokedAt : Option Instant
  expiresAt : Option Instant

structure Claim where
  orgID : Uuid
  scope : String
  key : String
  outcomeRef : ℕ

def Claim.unique (c : Claim) : Uuid × String × String := (c.orgID, c.scope, c.key)

structure DunningStepDuePayload where
  orgID : Uuid
  subjectID : Uuid
  stepKey : String
  dayOffset : ℤ
  kind : StepKind
  channel : Channel
  requiresConsent : Bool
  dueDate : Instant

structure DunningBlockedNoConsentPayload where
  orgID : Uuid
  subjectID : Uuid
  stepKey : String
  channel : Channel
  blockedAt : Instant

inductive Payload where
  | stepDue (payload : DunningStepDuePayload)
  | blockedNoConsent (payload : DunningBlockedNoConsentPayload)
  | lateFeeAccrued (payload : LateFeeAccruedPayload)
  | other (eventType json : String)

def Payload.eventType : Payload → String
  | .stepDue _ => "dunning.stepDue"
  | .blockedNoConsent _ => "collections.dunningBlockedNoConsent"
  | .lateFeeAccrued _ => "receivable.lateFeeAccrued"
  | .other eventType _ => eventType

structure OutboxRow where
  orgID : Uuid
  eventID : ℕ
  eventType : String
  version : ℕ
  payload : Payload
  createdAt : Instant

/-- The tables, under their unique keys, and the number of event identifiers drawn so far. -/
structure Db where
  receivables : List ReceivableRow
  grants : List ConsentGrant
  claims : List Claim
  outbox : List OutboxRow
  drawn : ℕ
  receivableKey : (receivables.map ReceivableRow.id).Nodup
  claimKey : (claims.map Claim.unique).Nodup

structure DunningSubject where
  receivableID : Uuid
  orgID : Uuid
  customerID : Uuid
  dueDate : Instant

structure Consultation where
  subject : DunningSubject
  channel : Channel
  now : Instant
  ref : String
  grants : List ConsentGrant

structure World where
  db : Db
  evaluations : List (ℕ × Consultation)

/-! ## The statements of the store -/

structure Stats where
  scanned : ℕ := 0
  emitted : ℕ := 0
  claimed : ℕ := 0
  skipped : ℕ := 0

/-- A job of the scheduler; an error is returned together with the counts so far. -/
abbrev Run (α : Type) : Type := Job World (Failure × Stats) α

def timestamptz (t : Instant) : Instant := t - t % 1000

def orFail {α : Type} (stats : Stats) (x : Except Failure α) : Run α :=
  .attempt (x.mapError fun e => (e, stats))

def claimScopeDun : String := "scheduler.dunning"

def claimScopeFee : String := "scheduler.late_fee"

def ReceivableRow.subject (r : ReceivableRow) : DunningSubject :=
  ⟨r.id, r.orgID, r.customerID, r.dueDate⟩

/-- The rows of `dunningSubjectsSQL`. -/
def ReceivableRow.inWindow (horizon : Instant) (r : ReceivableRow) : Bool :=
  r.state.isLive && decide (r.dueDate ≤ timestamptz horizon)

def dunningSubjects (horizon : Instant) (limit : ℕ) : Run (List DunningSubject) :=
  .query fun w => (Scans.select ReceivableRow.order (ReceivableRow.inWindow horizon) limit
    w.db.receivables).map ReceivableRow.subject

/-- An active dunning grant of the customer on the channel: the rows of `consentRefSQL`. -/
def ConsentGrant.isActive (subject : DunningSubject) (channel : ConsentChannel) (now : Instant)
    (g : ConsentGrant) : Bool :=
  g.orgID = subject.orgID && g.customerID = subject.customerID && g.channel = channel &&
    g.purpose = .dunning && g.revokedAt = none && g.grantedAt ≤ timestamptz now &&
    g.expiresAt.all fun expiresAt => timestamptz now < expiresAt

def ConsentGrant.order (g : ConsentGrant) : Lex (Instant × Uuid) := toLex (-g.grantedAt, g.id)

def consentRef (stats : Stats) (subject : DunningSubject) (channel : Channel) (now : Instant) :
    Run Consultation :=
  .call fun w => (w, match channel.consent with
    | none => .error (.store ("scheduler: consent lookup " ++ subject.orgID ++ "/" ++
        subject.customerID ++ "/" ++ channel.text ++ ": ERROR: invalid input value for enum " ++
        "consent_channel: \"" ++ channel.text ++ "\" (SQLSTATE 22P02)"), stats)
    | some consentChannel =>
      let rows := Scans.select ConsentGrant.order
        (ConsentGrant.isActive subject consentChannel now) 1 w.db.grants
      .ok ⟨subject, channel, now, (rows.head?.map ConsentGrant.id).getD "", w.db.grants⟩)

def sentSteps (orgID : Uuid) (sendKeys : List String) : Run (List String) :=
  .query fun w => (w.db.claims.filter fun c =>
    c.orgID = orgID ∧ c.scope = claimScopeDun ∧ c.key ∈ sendKeys).map Claim.key

/-- The rows of `overdueSQL`. -/
def ReceivableRow.isOverdueAt (now : Instant) (r : ReceivableRow) : Bool :=
  r.state.isLive && decide (0 < r.balanceMinor) &&
    (r.overdue || decide (r.dueDate < timestamptz now))

def ReceivableRow.like (r : ReceivableRow) : LateFeeReceivableLike where
  id := r.id
  currency := r.currency
  dueDate := r.dueDate
  overdue := r.overdue
  original := ⟨r.originalMinor, r.currency⟩
  applied := ⟨r.appliedMinor, r.currency⟩
  state := some r.state

def overdueReceivables (now : Instant) (limit : ℕ) : Run (List ReceivableRow) :=
  .query fun w => Scans.select ReceivableRow.order (ReceivableRow.isOverdueAt now) limit
    w.db.receivables

def Db.Claimed (db : Db) (orgID : Uuid) (scope key : String) : Prop :=
  (orgID, scope, key) ∈ db.claims.map Claim.unique
  deriving Decidable

def Db.commit (db : Db) (orgID : Uuid) (scope key : String) (payload : Payload)
    (occurredAt : Instant) (h : ¬ db.Claimed orgID scope key) : Db where
  receivables := db.receivables
  grants := db.grants
  claims := db.claims ++ [⟨orgID, scope, key, db.drawn⟩]
  outbox := db.outbox ++ [⟨orgID, db.drawn, payload.eventType, 1, payload, occurredAt⟩]
  drawn := db.drawn + 1
  receivableKey := db.receivableKey
  claimKey := Lists.nodup_map_concat db.claimKey (by exact h)

/-- `ClaimAndEmit`: the claim is first-write-wins, and its loser emits nothing. The event, and with
it its identifier, is made before the claim. -/
def claimAndEmit (orgID : Uuid) (scope key : String) (payload : Payload) (occurredAt : Instant)
    (basis : Option Consultation) : Run Bool :=
  .call fun w =>
    if h : w.db.Claimed orgID scope key then
      ({ w with db := { w.db with drawn := w.db.drawn + 1 } }, .ok false)
    else
      (⟨w.db.commit orgID scope key payload occurredAt h,
        w.evaluations ++ basis.toList.map fun c => (w.db.drawn, c)⟩, .ok true)

/-! ## The dunning job -/

def dunningSendKey (subjectID stepKey : String) : String := subjectID ++ ":" ++ stepKey

def dunningBlockedKey (subjectID stepKey : String) : String := subjectID ++ ":blocked:" ++ stepKey

/-- `dunningHorizon`: a duration wraps at 64 bits. -/
def dunningHorizon (ladder : List DunningStep) : ℤ :=
  let mostNegative := ladder.foldl (fun m s => if s.dayOffset < m then s.dayOffset else m) 0
  Backend.int64 ((-mostNegative + 1) * dayNanos)

structure DunningRun where
  clock : ℕ → Instant
  now : Instant
  ladder : List DunningStep

structure Progress where
  stats : Stats
  reads : ℕ

def Progress.sent (p : Progress) (claimed : Bool) : Progress where
  stats := if claimed then { p.stats with claimed := p.stats.claimed + 1,
                                          emitted := p.stats.emitted + 1 } else p.stats
  reads := p.reads + 1

def Progress.blocked (p : Progress) (claimed : Bool) : Progress where
  stats := if claimed then { p.stats with claimed := p.stats.claimed + 1,
                                          emitted := p.stats.emitted + 1 }
    else { p.stats with skipped := p.stats.skipped + 1 }
  reads := p.reads + 2

/-- `consentFor`: a channel is looked up once for each subject. -/
def consentFor (stats : Stats) (subject : DunningSubject) (now : Instant)
    (consent : List Consultation) (channel : Channel) : Run (Consultation × List Consultation) :=
  match consent.find? fun c => c.channel = channel with
  | some consultation => pure (consultation, consent)
  | none => do
    let consultation ← consentRef stats subject channel now
    pure (consultation, consent ++ [consultation])

def dunningSendPayload (step : DunningStep) (facts : DunningFacts) : Payload :=
  .stepDue { orgID := facts.orgID, subjectID := facts.subjectID, stepKey := step.key,
             dayOffset := step.dayOffset, kind := step.kind, channel := step.channel,
             requiresConsent := step.requiresConsent, dueDate := facts.dueDate }

def dunningBlockedPayload (step : DunningStep) (facts : DunningFacts) (blockedAt : Instant) :
    Payload :=
  .blockedNoConsent { orgID := facts.orgID, subjectID := facts.subjectID, stepKey := step.key,
                      channel := step.channel, blockedAt }

def dunningTurn (run : DunningRun) (subject : DunningSubject) (facts : DunningFacts)
    (state : Progress × List Consultation) (step : DunningStep) :
    Run (Progress × List Consultation) := do
  let (progress, consent) := state
  let (consultation, consent) ←
    consentFor progress.stats subject run.now consent step.channel
  if (evaluateDunningSend step consultation.ref).allowed then
    let claimed ← claimAndEmit subject.orgID claimScopeDun
      (dunningSendKey subject.receivableID step.key) (dunningSendPayload step facts)
      (run.clock progress.reads) (some consultation)
    pure (progress.sent claimed, consent)
  else
    let claimed ← claimAndEmit subject.orgID claimScopeDun
      (dunningBlockedKey subject.receivableID step.key)
      (dunningBlockedPayload step facts (run.clock (progress.reads + 1)))
      (run.clock progress.reads) none
    pure (progress.blocked claimed, consent)

def dunningFacts (subject : DunningSubject) (sentKeys : List String) : DunningFacts where
  dueDate := subject.dueDate
  sentSteps := sentKeys.map fun key => trimStart key (subject.receivableID ++ ":")
  subjectID := subject.receivableID
  orgID := subject.orgID

def dunningSubject (run : DunningRun) (progress : Progress) (subject : DunningSubject) :
    Run Progress := do
  let sentKeys ← sentSteps subject.orgID
    (run.ladder.map fun step => dunningSendKey subject.receivableID step.key)
  let facts := dunningFacts subject sentKeys
  let due ← orFail progress.stats (dueSteps run.now facts run.ladder)
  let (progress, _) ← due.foldlM (dunningTurn run subject facts) (progress, [])
  pure progress

def requireBatch (batch : ℤ) : Except Failure Unit :=
  throwIf (batch < 1)
    (.scheduler "SCHED_CONFIG_INVALID" ("batch must be >= 1, got " ++ toString batch))

def runDunning (clock : ℕ → Instant) (ladder : List DunningStep) (batch : ℤ) : Run Stats := do
  orFail {} (validateLadder ladder)
  orFail {} (requireBatch batch)
  let now := clock 0
  let subjects ← dunningSubjects (now + dunningHorizon ladder) batch.toNat
  let progress ← subjects.foldlM (dunningSubject ⟨clock, now, ladder⟩)
    ⟨{ scanned := subjects.length }, 1⟩
  pure progress.stats

/-! ## The late-fee job -/

def calendarMonth (t : Instant) : ℤ × ℕ :=
  let (year, month, _) := civilFromDays (t / dayNanos)
  (year, month)

def monthText (month : ℤ × ℕ) : String :=
  (if month.1 < 0 then "-" else "") ++ padStart (toString month.1.natAbs) 4 '0' ++ "-" ++
    padStart (toString month.2) 2 '0'

def periodKeyFor (now : Instant) : String := monthText (calendarMonth now)

lemma isSpace_of_isDigit {c : Char} (h : c.isDigit = true) : isSpace c = false := by
  have hrange : 48 ≤ c.toNat ∧ c.toNat ≤ 57 := by
    simpa [Char.isDigit, UInt32.le_iff_toNat_le] using h
  simp only [isSpace, List.mem_cons, List.not_mem_nil, or_false, Bool.or_eq_false_iff,
    decide_eq_false_iff_not, Bool.and_eq_false_iff]
  omega

lemma isDigit_of_mem_padded {n width : ℕ} {c : Char}
    (h : c ∈ (padStart (toString n) width '0').toList) : c.isDigit = true := by
  rw [padStart, String.toList_append, String.toList_ofList, List.mem_append] at h
  rcases h with hfill | hdigit
  · rw [List.eq_of_mem_replicate hfill]
    rfl
  · rw [show (toString n).toList = Nat.toDigits 10 n from String.toList_ofList] at hdigit
    exact Nat.isDigit_of_mem_toDigits (by decide) (by decide) hdigit

lemma trimSpace_monthText (month : ℤ × ℕ) : trimSpace (monthText month) = monthText month := by
  refine trimSpace_eq_self fun c hc => ?_
  rw [monthText] at hc
  simp only [String.toList_append, List.mem_append] at hc
  obtain ((hsign | hyear) | hdash) | hmonth := hc
  · split_ifs at hsign
    · obtain rfl := List.mem_singleton.mp hsign
      decide
    · cases hsign
  · exact isSpace_of_isDigit (isDigit_of_mem_padded hyear)
  · obtain rfl := List.mem_singleton.mp hdash
    decide
  · exact isSpace_of_isDigit (isDigit_of_mem_padded hmonth)

def lateFeeTurn (policy : LateFeePolicy) (now : Instant) (periodKey : String) (stats : Stats)
    (row : ReceivableRow) : Run Stats :=
  match accrueLateFee row.like policy { periodKey, now } with
  | .error e =>
    if e.isSkippable then pure { stats with skipped := stats.skipped + 1 } else .fail (e, stats)
  | .ok (.alreadyAccrued _) => pure { stats with skipped := stats.skipped + 1 }
  | .ok (.accrued _ event) => do
    let claimed ← claimAndEmit row.orgID claimScopeFee (row.id ++ ":" ++ periodKey)
      (.lateFeeAccrued event) now none
    if claimed then
      pure { stats with claimed := stats.claimed + 1, emitted := stats.emitted + 1 }
    else pure { stats with skipped := stats.skipped + 1 }

def runLateFee (clock : ℕ → Instant) (policy : LateFeePolicy) (batch : ℤ) : Run Stats := do
  let _ ← orFail {} (validateLateFeePolicy policy)
  orFail {} (requireBatch batch)
  let now := clock 0
  let rows ← overdueReceivables now batch.toNat
  rows.foldlM (lateFeeTurn policy now (periodKeyFor now)) { scanned := rows.length }

/-! ## The scheduler among other services -/

def ReceivableRow.amend (state : ReceivableState) (overdue : Bool) (appliedMinor : ℕ)
    (r : ReceivableRow) : ReceivableRow :=
  if h : appliedMinor ≤ r.originalMinor then
    { r with state, overdue, appliedMinor, covered := h }
  else r

@[simp]
lemma ReceivableRow.amend_id (state : ReceivableState) (overdue : Bool) (appliedMinor : ℕ)
    (r : ReceivableRow) : (r.amend state overdue appliedMinor).id = r.id := by
  unfold amend
  split_ifs <;> rfl

@[simp]
lemma ReceivableRow.amend_orgID (state : ReceivableState) (overdue : Bool) (appliedMinor : ℕ)
    (r : ReceivableRow) : (r.amend state overdue appliedMinor).orgID = r.orgID := by
  unfold amend
  split_ifs <;> rfl

/-- What other services do to the tables that the jobs read: they open and amend receivables, and
grant and revoke consents. -/
inductive Outside where
  | openReceivable (row : ReceivableRow)
  | amendReceivable (id : Uuid) (state : ReceivableState) (overdue : Bool) (appliedMinor : ℕ)
  | grantConsent (grant : ConsentGrant)
  | revokeConsent (id : Uuid) (revokedAt : Instant)

def Db.openReceivable (db : Db) (row : ReceivableRow) : Db :=
  if h : row.id ∈ db.receivables.map ReceivableRow.id then db
  else { db with
    receivables := db.receivables ++ [row]
    receivableKey := Lists.nodup_map_concat db.receivableKey h }

def Db.amendReceivable (db : Db) (id : Uuid) (state : ReceivableState) (overdue : Bool)
    (appliedMinor : ℕ) : Db where
  receivables := db.receivables.map fun r =>
    if r.id = id then r.amend state overdue appliedMinor else r
  grants := db.grants
  claims := db.claims
  outbox := db.outbox
  drawn := db.drawn
  receivableKey := by
    have hids : (db.receivables.map fun r =>
        if r.id = id then r.amend state overdue appliedMinor else r).map ReceivableRow.id =
        db.receivables.map ReceivableRow.id := by
      rw [List.map_map]
      refine List.map_congr_left fun r _ => ?_
      by_cases h : r.id = id <;> simp [h]
    rw [hids]
    exact db.receivableKey
  claimKey := db.claimKey

def Db.outside (db : Db) : Outside → Db
  | .openReceivable row => db.openReceivable row
  | .amendReceivable id state overdue appliedMinor =>
    db.amendReceivable id state overdue appliedMinor
  | .grantConsent grant => { db with grants := db.grants ++ [grant] }
  | .revokeConsent id revokedAt => { db with grants := db.grants.map fun g =>
      if g.id = id ∧ g.revokedAt = none then { g with revokedAt := some revokedAt } else g }

/-- What begins: a run of one of the jobs, by any process, or a transaction of another service. -/
inductive Request where
  | dunning (clock : ℕ → Instant) (ladder : List DunningStep) (batch : ℤ)
  | lateFee (clock : ℕ → Instant) (policy : LateFeePolicy) (batch : ℤ)
  | outside (change : Outside)

def start : Request → Run Stats
  | .dunning clock ladder batch => runDunning clock ladder batch
  | .lateFee clock policy batch => runLateFee clock policy batch
  | .outside change => .call fun w => ({ w with db := w.db.outside change }, .ok {})

/-- Any number of job runs, interleaved statement by statement and killed anywhere. -/
def scheduler : Processes.System World Request (Run Stats) := system start

end Fuatilia.Scheduler
