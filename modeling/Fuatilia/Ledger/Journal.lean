import Fuatilia.Ledger.Accounts
import Fuatilia.Shared.Formats

/-!
# Journal entries and posting

The append-only journal. A source event that was posted before in an organisation is answered with
the entry already posted.

## Main definitions

* `post`, `postEntry` — one balanced entry by the posting matrix, or of explicit lines.
* `reverseEntry` — mark the original, and flip its lines in a reversing entry.

## Implementation notes

A `Date` is parsed from an ISO string with the ranges the engine's parser checks: months 1 to 12,
days 1 to 31 in every month, hour 24 only as midnight.
-/

namespace Fuatilia.Ledger

open Fallible

/-! ## Entries -/

inductive JournalEntryStatus where
  | POSTED | REVERSED
  deriving DecidableEq

def JournalEntryStatus.name : JournalEntryStatus → String
  | POSTED => "POSTED"
  | REVERSED => "REVERSED"

instance : ToString JournalEntryStatus := ⟨JournalEntryStatus.name⟩

/-- A journal entry. `reversalOf` marks a correcting entry, `reversedBy` a corrected one. -/
structure JournalEntry where
  entryId : Uuid
  orgId : String
  occurredAt : String
  postedAt : String
  sourceEventName : String
  sourceEventId : Uuid
  reference : String
  actor : String
  status : JournalEntryStatus
  lines : List JournalLine
  reversalOf : Option Uuid
  reason : Option String
  reversedBy : Option Uuid
  deriving DecidableEq

abbrev Journal := List JournalEntry

/-! ## Events -/

inductive LedgerPayload where
  | entryPosted (entryId : Uuid) (orgId sourceEventName : String) (sourceEventId : Uuid)
      (amountMinor : ℕ) (currency : Currency) (status : JournalEntryStatus)
      (reversalOf : Option Uuid)
  | entryReversed (entryId reversalEntryId : Uuid) (reason actor reversedAt : String)
  deriving DecidableEq

structure LedgerEvent where
  name : String
  version : ℕ
  aggregateId : Uuid
  occurredAt : String
  payload : LedgerPayload
  deriving DecidableEq

def emit (name : String) (aggregateId : Uuid) (payload : LedgerPayload) (now : Date) :
    Except Thrown LedgerEvent := do
  let occurredAt ← now.toISOString
  return ⟨name, 1, aggregateId, occurredAt, payload⟩

def minorUnits (amount : ℕ) : Except Thrown ℕ := do
  throwIf (maxSafeInteger < amount) (.domainError "LEDGER_AMOUNT_NOT_SAFE_INTEGER"
    s!"amount {amount} exceeds the safe-integer range for event payloads"
    [("amount", toString amount)])
  return amount

/-- The event of a posted entry; the amount and the currency are those of its first line. -/
def entryPostedEvent (entry : JournalEntry) (now : Date) : Except Thrown LedgerEvent :=
  match entry.lines with
  | [] => .error (.typeError "Cannot read properties of undefined")
  | line :: _ => do
    let amountMinor ← minorUnits line.amountMinor
    emit "ledger.entryPosted" entry.entryId
      (.entryPosted entry.entryId entry.orgId entry.sourceEventName entry.sourceEventId amountMinor
        line.currency entry.status entry.reversalOf) now

def entryReversedEvent (entryId reversalEntryId : Uuid) (reason actor : String)
    (reversedAt now : Date) : Except Thrown LedgerEvent := do
  let reversedAt ← reversedAt.toISOString
  emit "ledger.entryReversed" entryId
    (.entryReversed entryId reversalEntryId reason actor reversedAt) now

/-! ## Validation -/

def assertEntryId (value : Uuid) (field : String) : Except Thrown Unit :=
  throwIf (!isCanonicalUuid value) (.domainError "LEDGER_ID_INVALID"
    s!"{field} must be a canonical UUID, got {value}" [("field", field), ("value", value)])

def assertIso (value field : String) : Except Thrown Unit :=
  throwIf (!isIso8601 value) (.domainError "LEDGER_OCCURRED_AT_INVALID"
    s!"{field} must be an ISO-8601 timestamp, got {value}" [("field", field), ("value", value)])

def assertNonBlank (value code field : String) : Except Thrown String := do
  let trimmed := trim value
  throwIf (trimmed = "") (DomainError code s!"a journal entry requires a non-blank {field}")
  return trimmed

def movementInteger : MoneyInput → Except Thrown ℤ
  | .bigint n => .ok n
  | .number x =>
    match x.safeInteger with
    | some n => .ok n
    | none => .error (.domainError "LEDGER_AMOUNT_NOT_INTEGER"
        s!"movement amount must be an integer minor unit, got {x.text}" [("amountMinor", x.text)])

def movementMinor (amount : MoneyInput) : Except Thrown ℕ := do
  let minor ← movementInteger amount
  throwIf (minor ≤ 0) (.domainError "LEDGER_AMOUNT_INVALID"
    s!"movement amount must be positive (a negative movement is a different event, not a negative amount), got {minor}"
    [("amountMinor", toString minor)])
  return minor.toNat

def findPostedEntry (journal : Journal) (orgId : String) (sourceEventId : Uuid) :
    Option JournalEntry :=
  journal.find? fun e => e.orgId == orgId && e.sourceEventId == sourceEventId

/-! ## Posting -/

structure MatrixRow where
  debit : Account
  credit : Account

def POSTING_MATRIX : String → Option MatrixRow
  | "invoicing.invoiceIssued" => some ⟨.AR_CONTROL, .REVENUE⟩
  | "payments.paymentCompleted" => some ⟨.CASH, .AR_CONTROL⟩
  | "adjustments.creditNoteApplied" => some ⟨.REVENUE_CONTRA, .AR_CONTROL⟩
  | "adjustments.refundCompleted" => some ⟨.SALES_REFUNDS, .CASH⟩
  | "receivables.writeOffApproved" => some ⟨.BAD_DEBT_EXPENSE, .AR_CONTROL⟩
  | "receivables.lateFeeAssessed" => some ⟨.AR_CONTROL, .OTHER_INCOME⟩
  | _ => none

structure MoneyMovementEvent where
  name : String
  sourceEventId : Uuid
  orgId : String
  occurredAt : String
  amountMinor : MoneyInput
  currency : Currency
  reference : String
  actor : String

inductive PostOutcome where
  | posted | already_posted
  deriving DecidableEq

structure PostResult where
  outcome : PostOutcome
  entry : JournalEntry
  events : List LedgerEvent
  deriving DecidableEq

def movementDrifts (existing : JournalEntry) (event : MoneyMovementEvent) (amountMinor : ℕ) :
    Bool :=
  existing.sourceEventName != event.name || existing.occurredAt != event.occurredAt ||
    match existing.lines with
    | [first, _] => first.amountMinor != amountMinor || first.currency != event.currency
    | _ => true

/-- A repeated source event must describe the movement it described the first time. -/
def assertSameMovement (existing : JournalEntry) (event : MoneyMovementEvent) (amountMinor : ℕ) :
    Except Thrown Unit :=
  throwIf (movementDrifts existing event amountMinor) (.domainError "LEDGER_IDEMPOTENCY_CONFLICT"
    s!"sourceEventId {event.sourceEventId} was already posted with different movement details — refusing to treat it as a replay"
    [("sourceEventId", event.sourceEventId), ("entryId", existing.entryId)])

/-- The identifier of a new entry: the caller's, or the one derived from its source event. -/
def postingId (supplied : Option Uuid) (orgId : String) (sourceEventId : Uuid) : Uuid :=
  supplied.getD (uuidFromSeed s!"ledger.entry:{orgId}:{sourceEventId}")

def newEntry (entryId : Uuid) (orgId occurredAt sourceEventName : String) (sourceEventId : Uuid)
    (reference actor : String) (lines : List JournalLine) (clock : Clock) :
    Except Thrown PostResult := do
  let postedAt ← (clock.now 0).toISOString
  let entry : JournalEntry :=
    { entryId, orgId, occurredAt, postedAt
      sourceEventName, sourceEventId, reference
      actor, status := .POSTED, lines
      reversalOf := none, reason := none, reversedBy := none }
  let event ← entryPostedEvent entry (clock.now 1)
  return ⟨.posted, entry, [event]⟩

/-- The posting matrix applied. The currency is of its closed type, so the guard of the source
against another has no case here. -/
def post (event : MoneyMovementEvent) (journal : Journal) (clock : Clock)
    (entryId : Option Uuid) : Except Thrown PostResult :=
  match POSTING_MATRIX event.name with
  | none => .error (.domainError "LEDGER_EVENT_NOT_POSTABLE"
      ("event \"" ++ event.name ++
        "\" has no posting-matrix row — either it moves no money (e.g. allocation.executed is memo-only) or the matrix is missing a reviewed row")
      [("sourceEventName", event.name)])
  | some row => do
    assertEntryId event.sourceEventId "sourceEventId"
    let orgId ← assertNonBlank event.orgId "LEDGER_ORG_REQUIRED" "orgId"
    let reference ← assertNonBlank event.reference "LEDGER_REFERENCE_REQUIRED" "reference"
    let actor ← assertNonBlank event.actor "LEDGER_ACTOR_REQUIRED" "actor"
    assertIso event.occurredAt "occurredAt"
    let amountMinor ← movementMinor event.amountMinor
    match findPostedEntry journal orgId event.sourceEventId with
    | some existing => do
      assertSameMovement existing event amountMinor
      return ⟨.already_posted, existing, []⟩
    | none => do
      let debit ← toJournalLine ⟨row.debit, .DEBIT, .bigint amountMinor, event.currency⟩
      let credit ← toJournalLine ⟨row.credit, .CREDIT, .bigint amountMinor, event.currency⟩
      assertBalanced [debit, credit]
      newEntry (postingId entryId orgId event.sourceEventId) orgId event.occurredAt event.name
        event.sourceEventId reference actor [debit, credit] clock

structure PostEntryInput where
  entryId : Option Uuid
  orgId : String
  occurredAt : String
  sourceEventName : String
  sourceEventId : Uuid
  reference : String
  actor : String
  lines : List JournalLineInput

def postEntry (input : PostEntryInput) (journal : Journal) (clock : Clock) :
    Except Thrown PostResult := do
  assertEntryId input.sourceEventId "sourceEventId"
  let orgId ← assertNonBlank input.orgId "LEDGER_ORG_REQUIRED" "orgId"
  let reference ← assertNonBlank input.reference "LEDGER_REFERENCE_REQUIRED" "reference"
  let actor ← assertNonBlank input.actor "LEDGER_ACTOR_REQUIRED" "actor"
  assertIso input.occurredAt "occurredAt"
  throwIf (trim input.sourceEventName = "")
    (DomainError "LEDGER_SOURCE_EVENT_REQUIRED" "a journal entry requires a sourceEventName")
  let lines ← input.lines.mapM toJournalLine
  assertBalanced lines
  match findPostedEntry journal orgId input.sourceEventId with
  | some existing => do
    throwIf (¬ (existing.sourceEventName = input.sourceEventName ∧
        existing.occurredAt = input.occurredAt ∧ existing.lines = lines))
      (.domainError "LEDGER_IDEMPOTENCY_CONFLICT"
        s!"sourceEventId {input.sourceEventId} was already posted with different lines — refusing to treat it as a replay"
        [("sourceEventId", input.sourceEventId), ("entryId", existing.entryId)])
    return ⟨.already_posted, existing, []⟩
  | none =>
    newEntry (postingId input.entryId orgId input.sourceEventId) orgId input.occurredAt
      input.sourceEventName input.sourceEventId reference actor lines clock

/-! ## Reversal -/

structure ReverseEntryInput where
  entryId : Option Uuid
  reason : String
  actor : String
  reference : Option String

structure ReversalResult where
  original : JournalEntry
  reversal : JournalEntry
  events : List LedgerEvent

def reversalId (supplied : Option Uuid) (original : Uuid) : Uuid :=
  supplied.getD (uuidFromSeed s!"ledger.reversal:{original}")

def reversalReference (supplied : Option String) (original : String) : String :=
  match supplied with
  | none => original
  | some text => if trim text = "" then original else trim text

def reverseEntry (original : JournalEntry) (input : ReverseEntryInput) (clock : Clock) :
    Except Thrown ReversalResult := do
  let reason ← assertNonBlank input.reason "REVERSAL_REASON_REQUIRED" "reversal reason"
  let actor ← assertNonBlank input.actor "LEDGER_ACTOR_REQUIRED" "actor"
  throwIf (original.reversalOf ≠ none) (.domainError "LEDGER_REVERSAL_OF_REVERSAL"
    (s!"entry {original.entryId} is itself a reversal of " ++ original.reversalOf.getD
      "undefined" ++ " — reversals are never reversed; correct the original entry instead (K6)")
    [("entryId", original.entryId), ("reversalOf", original.reversalOf.getD "undefined")])
  throwIf (original.status ≠ .POSTED) (.domainError "LEDGER_ENTRY_NOT_REVERSIBLE"
    (s!"entry {original.entryId} is {original.status} and has already been reversed by " ++
      original.reversedBy.getD "undefined")
    [("entryId", original.entryId), ("status", original.status.name),
      ("reversedBy", original.reversedBy.getD "undefined")])
  let id := reversalId input.entryId original.entryId
  let lines := original.lines.map JournalLine.flip
  assertBalanced lines
  let occurredAt ← (clock.now 0).toISOString
  let postedAt ← (clock.now 1).toISOString
  let reversal : JournalEntry :=
    { entryId := id, orgId := original.orgId, occurredAt, postedAt
      sourceEventName := "ledger.entryReversed", sourceEventId := id
      reference := reversalReference input.reference original.reference
      actor, status := .POSTED, lines
      reversalOf := some original.entryId, reason := some reason, reversedBy := none }
  let marked : JournalEntry := { original with status := .REVERSED, reversedBy := some id }
  let posted ← entryPostedEvent reversal (clock.now 2)
  let corrected ← entryReversedEvent original.entryId id reason actor (clock.now 3) (clock.now 4)
  return ⟨marked, reversal, [posted, corrected]⟩

end Fuatilia.Ledger
