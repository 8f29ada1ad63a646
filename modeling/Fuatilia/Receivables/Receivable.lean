import Fuatilia.Shared.Money

/-!
# Receivables

The legal debt position behind an issued invoice. A command returns the receivable after it, with
its event, or throws.

## Main definitions

* `openReceivable` — open a receivable with the frozen total of its invoice.
* `applyAllocation` — settle it, or recover it once it is written off.
* `writeOff`, `markUncollectible`, `voidReceivable` — close it.

## Implementation notes

Of an invoice only the fields that opening reads are kept. `minorToNumber` converts to a double and
refuses what is not a safe integer; on naturals that is the bound `2^53 - 1`, since every larger one
rounds to at least `2^53`. Days late are computed by an exact floor.
-/

namespace Fuatilia.Receivables

open Fallible

/-! ## Invoices and receivables -/

inductive InvoiceStatus where
  | draft | issued | sent | voided
  deriving DecidableEq

def InvoiceStatus.name : InvoiceStatus → String
  | draft => "draft"
  | issued => "issued"
  | sent => "sent"
  | voided => "voided"

instance : ToString InvoiceStatus := ⟨InvoiceStatus.name⟩

structure Invoice where
  id : Uuid
  customerId : Uuid
  status : InvoiceStatus
  currency : Currency
  total : Money
  dueDate : Date
  receivableId : Option Uuid
  deriving DecidableEq

inductive ReceivableState where
  | draft | opened | partiallyPaid | settled | writtenOff | recovered | uncollectible | voided
  deriving DecidableEq

def ReceivableState.name : ReceivableState → String
  | draft => "draft"
  | opened => "open"
  | partiallyPaid => "partially_paid"
  | settled => "settled"
  | writtenOff => "written_off"
  | recovered => "recovered"
  | uncollectible => "uncollectible"
  | voided => "voided"

instance : ToString ReceivableState := ⟨ReceivableState.name⟩

structure ReceivableWriteOff where
  reason : String
  approvedBy : String
  writtenOffAt : Date
  deriving DecidableEq

structure Receivable where
  id : Uuid
  invoiceId : Uuid
  customerId : Uuid
  currency : Currency
  original : Money
  applied : Money
  state : ReceivableState
  overdue : Bool
  openedAt : Option Date
  dueDate : Date
  settledAt : Option Date
  voidedAt : Option Date
  writeOff : Option ReceivableWriteOff
  uncollectibleReason : Option String
  uncollectibleAt : Option Date
  recoveredAt : Option Date
  deriving DecidableEq

def balanceOf (receivable : Receivable) : Except Thrown Money :=
  receivable.original.subtract receivable.applied

/-! ## Events -/

inductive AgingBucket where
  | upTo30 | upTo60 | upTo90 | over90
  deriving DecidableEq

/-- The payloads of the receivable events. Days late may be `NaN`. -/
inductive ReceivablePayload where
  | opened (receivableId invoiceId : Uuid) (originalMinor : ℕ) (dueDate : String)
  | partiallySettled (receivableId : Uuid) (amountMinor remainingMinor : ℕ)
  | settled (receivableId : Uuid) (settledAt : String)
  | overdue (receivableId : Uuid) (daysLate : Option ℕ) (agingBucket : AgingBucket)
  | writtenOff (receivableId : Uuid) (reason approvedBy : String)
  | recovered (receivableId : Uuid) (amountMinor : ℕ)
  deriving DecidableEq

structure ReceivableEvent where
  name : String
  version : ℕ
  aggregateId : Uuid
  occurredAt : String
  payload : ReceivablePayload
  deriving DecidableEq

def domainEvent (name : String) (aggregateId : Uuid) (payload : ReceivablePayload) (now : Date) :
    Except Thrown ReceivableEvent := do
  let occurredAt ← now.toISOString
  return ⟨name, 1, aggregateId, occurredAt, payload⟩

def minorToNumber (amount : Money) : Except Thrown ℕ := do
  throwIf (maxSafeInteger < amount.amount) (DomainError "EVENT_AMOUNT_NOT_SAFE_INTEGER"
    s!"amount {amount.amount} {amount.currency} exceeds the safe-integer range for event payloads")
  return amount.amount

/-! ## Aging -/

/-- Whole days past the due date, at least zero; `none` (`NaN`) when a date is invalid. -/
def daysPastDue (receivable : Receivable) (now : Date) : Option ℕ :=
  match now, receivable.dueDate with
  | .ofTime n, .ofTime d => some ((n - d) / 86400000).toNat
  | _, _ => none

/-- The aging bucket; refused for a settled receivable. A `NaN` fails every bound. -/
def agingBucket (receivable : Receivable) (now : Date) : Except Thrown AgingBucket := do
  throwIf (receivable.state = .settled) (DomainError "AGING_NOT_APPLICABLE"
    s!"receivable {receivable.id} is settled — nothing left to age")
  return match daysPastDue receivable now with
    | none => .over90
    | some days =>
      if days ≤ 30 then .upTo30 else if days ≤ 60 then .upTo60
      else if days ≤ 90 then .upTo90 else .over90

/-! ## Opening -/

def buildReceivable (id : Uuid) (invoice : Invoice) (state : ReceivableState) : Receivable where
  id := id
  invoiceId := invoice.id
  customerId := invoice.customerId
  currency := invoice.currency
  original := invoice.total
  applied := Money.zero invoice.currency
  state := state
  overdue := false
  openedAt := none
  dueDate := invoice.dueDate
  settledAt := none
  voidedAt := none
  writeOff := none
  uncollectibleReason := none
  uncollectibleAt := none
  recoveredAt := none

def alreadyOpen (invoice : Invoice) : Thrown :=
  DomainError "RECEIVABLE_ALREADY_OPEN"
    (s!"invoice {invoice.id} already has receivable " ++ invoice.receivableId.getD "null" ++
      " — exactly one per invoice")

def draftReceivableFor (invoice : Invoice) (receivableId : Uuid) :
    Except Thrown (Invoice × Receivable) := do
  throwIf (invoice.status ≠ .draft) (.domainError "INVOICE_NOT_DRAFT"
    s!"receivables are drafted alongside draft invoices, not {invoice.status} ones"
    [("status", invoice.status.name)])
  throwIf (invoice.receivableId ≠ none) (alreadyOpen invoice)
  return ({ invoice with receivableId := some receivableId },
    buildReceivable receivableId invoice .draft)

/-- `a.getTime() !== b.getTime()`: two invalid dates differ. -/
def timesDiffer : Date → Date → Bool
  | .ofTime a, .ofTime b => a != b
  | _, _ => true

/-- The paired draft still describes its invoice; the amounts are compared only when the
currencies agree. -/
def draftDiffers (draft : Receivable) (invoice : Invoice) : Except Thrown Bool :=
  if draft.currency ≠ invoice.currency then return true
  else do
    let same ← draft.original.equals invoice.total
    return !same || draft.customerId != invoice.customerId ||
      timesDiffer draft.dueDate invoice.dueDate

def openDraft (invoice : Invoice) (receivableId : Uuid) (draft : Receivable) (openedAt : Date) :
    Except Thrown Receivable := do
  throwIf (draft.id ≠ receivableId) (DomainError "RECEIVABLE_INVOICE_MISMATCH"
    s!"receivableId {receivableId} does not match the paired draft {draft.id}")
  throwIf (draft.invoiceId ≠ invoice.id) (DomainError "RECEIVABLE_INVOICE_MISMATCH"
    s!"receivable {draft.id} is paired with invoice {draft.invoiceId}, not {invoice.id}")
  throwIf (draft.state ≠ .draft) (DomainError "RECEIVABLE_ALREADY_OPEN"
    s!"receivable {draft.id} is already {draft.state} — exactly one open per invoice")
  let differs ← draftDiffers draft invoice
  throwIf differs (DomainError "RECEIVABLE_INVOICE_MISMATCH"
    s!"paired draft {draft.id} no longer matches invoice {invoice.id} (currency/original/customer/dueDate)")
  throwIf (invoice.receivableId ≠ none ∧ invoice.receivableId ≠ some draft.id) (alreadyOpen invoice)
  return { draft with state := .opened, openedAt := some openedAt }

def openFresh (invoice : Invoice) (receivableId : Uuid) (openedAt : Date) :
    Except Thrown Receivable := do
  throwIf (invoice.receivableId ≠ none) (alreadyOpen invoice)
  return { buildReceivable receivableId invoice .opened with openedAt := some openedAt }

structure OpenResult where
  invoice : Invoice
  receivable : Receivable
  event : ReceivableEvent
  deriving DecidableEq

def openReceivable (invoice : Invoice) (receivableId : Uuid) (clock : Clock)
    (draft : Option Receivable) : Except Thrown OpenResult := do
  throwIf (invoice.status ≠ .issued) (.domainError "INVOICE_NOT_ISSUED"
    s!"receivables open from issued invoices only, got {invoice.status}"
    [("status", invoice.status.name)])
  throwIf (!invoice.total.isPositive) (DomainError "INVOICE_TOTAL_ZERO"
    s!"invoice {invoice.id} totals zero — no debt, no receivable")
  let opened ← draft.elim (openFresh invoice receivableId (clock.now 0))
    fun draft => openDraft invoice receivableId draft (clock.now 0)
  let originalMinor ← minorToNumber invoice.total
  let dueDate ← invoice.dueDate.toISOString
  let event ← domainEvent "receivable.opened" opened.id
    (.opened opened.id invoice.id originalMinor dueDate) (clock.now 1)
  return ⟨if invoice.receivableId = some opened.id then invoice
    else { invoice with receivableId := some opened.id }, opened, event⟩

/-! ## Commands -/

structure CommandResult where
  receivable : Receivable
  event : Option ReceivableEvent

def isLive (receivable : Receivable) : Bool :=
  receivable.state == .opened || receivable.state == .partiallyPaid

def invalidTransition (receivable : Receivable) (message via : String) : Thrown :=
  .domainError "INVALID_RECEIVABLE_TRANSITION" message
    [("from", receivable.state.name), ("via", via)]

def assertWithinBalance (amount balance : Money) : Except Thrown Unit := do
  let c ← amount.compareTo balance
  throwIf (c > 0) (.domainError "ALLOCATION_EXCEEDS_BALANCE"
    s!"allocation {amount.amount} exceeds balance {balance.amount}"
    [("balanceMinor", toString balance.amount), ("requestedMinor", toString amount.amount)])

def recover (receivable : Receivable) (amount balance : Money) (clock : Clock) :
    Except Thrown CommandResult := do
  assertWithinBalance amount balance
  let applied ← receivable.applied.add amount
  let recoveredAt := clock.now 0
  let amountMinor ← minorToNumber amount
  let event ← domainEvent "receivable.recovered" receivable.id
    (.recovered receivable.id amountMinor) (clock.now 1)
  return ⟨{ receivable with
    applied, state := .recovered, recoveredAt := some recoveredAt }, some event⟩

def pay (receivable : Receivable) (amount balance : Money) (clock : Clock) :
    Except Thrown CommandResult := do
  assertWithinBalance amount balance
  let applied ← receivable.applied.add amount
  let settledNow ← applied.equals receivable.original
  if settledNow then
    let settledAt := clock.now 0
    let settledText ← settledAt.toISOString
    let event ← domainEvent "receivable.settled" receivable.id
      (.settled receivable.id settledText) (clock.now 1)
    return ⟨{ receivable with
      applied, state := .settled, overdue := false, settledAt := some settledAt },
      some event⟩
  else
    let amountMinor ← minorToNumber amount
    let remaining ← receivable.original.subtract applied
    let remainingMinor ← minorToNumber remaining
    let event ← domainEvent "receivable.partiallySettled" receivable.id
      (.partiallySettled receivable.id amountMinor remainingMinor) (clock.now 0)
    return ⟨{ receivable with applied, state := .partiallyPaid }, some event⟩

def applyAllocation (receivable : Receivable) (amount : Money) (clock : Clock) :
    Except Thrown CommandResult := do
  throwIf (amount.currency ≠ receivable.currency) (DomainError "CURRENCY_MISMATCH"
    s!"allocation is {amount.currency} but receivable is {receivable.currency}")
  throwIf (!amount.isPositive) (.domainError "ALLOCATION_AMOUNT_INVALID"
    "an allocation must be a positive amount" [("amount", toString amount.amount)])
  let balance ← balanceOf receivable
  if receivable.state = .writtenOff then recover receivable amount balance clock
  else
    throwIf (!isLive receivable) (invalidTransition receivable
      s!"cannot apply an allocation to a {receivable.state} receivable" "applyAllocation")
    pay receivable amount balance clock

/-- `a.getTime() <= b.getTime()`: false when a date is invalid. -/
def notAfter : Date → Date → Bool
  | .ofTime a, .ofTime b => decide (a ≤ b)
  | _, _ => false

def markOverdue (receivable : Receivable) (clock : Clock) : Except Thrown CommandResult := do
  throwIf (!isLive receivable) (invalidTransition receivable
    s!"a {receivable.state} receivable cannot become overdue" "markOverdue")
  throwIf receivable.overdue (DomainError "OVERDUE_ALREADY_MARKED"
    s!"receivable {receivable.id} is already flagged overdue")
  throwIf (notAfter (clock.now 0) receivable.dueDate) (DomainError "RECEIVABLE_NOT_DUE"
    s!"receivable {receivable.id} is not past its due date yet")
  let bucket ← agingBucket receivable (clock.now 2)
  let event ← domainEvent "receivable.overdue" receivable.id
    (.overdue receivable.id (daysPastDue receivable (clock.now 1)) bucket) (clock.now 3)
  return ⟨{ receivable with overdue := true }, some event⟩

def writeOff (receivable : Receivable) (reason approvedBy : String) (clock : Clock) :
    Except Thrown CommandResult := do
  let reason := trim reason
  let approvedBy := trim approvedBy
  throwIf (reason = "")
    (DomainError "WRITE_OFF_REASON_REQUIRED" "a write-off decision requires a reason")
  throwIf (approvedBy = "") (DomainError "WRITE_OFF_APPROVER_REQUIRED"
    "a write-off decision requires an approver (H1: bad debt must have an owner)")
  throwIf (!isLive receivable)
    (invalidTransition receivable s!"cannot write off from {receivable.state}" "writeOff")
  throwIf (!receivable.overdue) (DomainError "WRITE_OFF_REQUIRES_OVERDUE"
    s!"receivable {receivable.id} is not overdue — write-off is reached from Overdue only (docs/03)")
  let event ← domainEvent "receivable.writtenOff" receivable.id
    (.writtenOff receivable.id reason approvedBy) (clock.now 1)
  return ⟨{ receivable with
    state := .writtenOff, writeOff := some ⟨reason, approvedBy, clock.now 0⟩ }, some event⟩

def markUncollectible (receivable : Receivable) (reason : String) (clock : Clock) :
    Except Thrown CommandResult := do
  let reason := trim reason
  throwIf (reason = "") (DomainError "UNCOLLECTIBLE_REASON_REQUIRED"
    "an uncollectible verdict requires a recorded reason")
  throwIf (!isLive receivable) (invalidTransition receivable
    s!"cannot mark uncollectible from {receivable.state}" "markUncollectible")
  throwIf (!receivable.overdue) (DomainError "UNCOLLECTIBLE_REQUIRES_OVERDUE"
    s!"receivable {receivable.id} is not overdue — the verdict is reached from Overdue only (docs/03)")
  return ⟨{ receivable with
    state := .uncollectible
    uncollectibleReason := some reason
    uncollectibleAt := some (clock.now 0) }, none⟩

def voidRequiresZero (receivable : Receivable) : Thrown :=
  DomainError "RECEIVABLE_VOID_REQUIRES_ZERO_APPLIED"
    s!"receivable {receivable.id} has applied funds ({receivable.applied.amount}) — void only when appliedMinor === 0"

def voidReceivable (receivable : Receivable) (clock : Clock) : Except Thrown CommandResult := do
  throwIf (receivable.state = .partiallyPaid) (voidRequiresZero receivable)
  throwIf (receivable.state ≠ .opened)
    (invalidTransition receivable s!"cannot void from {receivable.state}" "voidReceivable")
  throwIf (!receivable.applied.isZero) (voidRequiresZero receivable)
  return ⟨{ receivable with
    state := .voided, overdue := false, voidedAt := some (clock.now 0) }, none⟩

end Fuatilia.Receivables
