import Fuatilia.Shared.Money

/-!
# The payment aggregate

The fund truth for inflows. A command returns the payment after it with its events, or throws.

## Main definitions

* `Payment` — a payment with its append-only allocation and refund rows.
* `confirmPayment`, `failPayment`, `reversePayment` — its transitions.
* `recordAllocationReservation`, `recordRefundReservation` — reserve its confirmed funds.
-/

namespace Fuatilia.Payments

open Fallible

inductive PaymentChannel where
  | c2b | stk
  deriving DecidableEq

def PaymentChannel.name : PaymentChannel → String
  | c2b => "c2b"
  | stk => "stk"

instance : ToString PaymentChannel := ⟨PaymentChannel.name⟩

inductive PaymentState where
  | initiated | pendingConfirmation | confirmed | partiallyAllocated | allocated | unapplied
  | failed | reversed | partiallyRefunded | refunded
  deriving DecidableEq

def PaymentState.name : PaymentState → String
  | initiated => "initiated"
  | pendingConfirmation => "pending_confirmation"
  | confirmed => "confirmed"
  | partiallyAllocated => "partially_allocated"
  | allocated => "allocated"
  | unapplied => "unapplied"
  | failed => "failed"
  | reversed => "reversed"
  | partiallyRefunded => "partially_refunded"
  | refunded => "refunded"

instance : ToString PaymentState := ⟨PaymentState.name⟩

def TERMINAL_STATES : List PaymentState := [.failed, .reversed, .refunded]

def CONFIRMED_FAMILY : List PaymentState :=
  [.confirmed, .partiallyAllocated, .allocated, .unapplied, .partiallyRefunded, .refunded]

structure PaymentAllocationRow where
  id : Uuid
  paymentId : Uuid
  receivableId : Uuid
  amount : Money
  recordedAt : Date
  deriving DecidableEq

structure PaymentRefundRow where
  id : Uuid
  paymentId : Uuid
  amount : Money
  reason : String
  recordedAt : Date
  deriving DecidableEq

structure Payment where
  id : Uuid
  channel : PaymentChannel
  externalRef : String
  idempotencyKey : String
  customerId : Option Uuid
  state : PaymentState
  currency : Currency
  requestedMinor : Money
  declaredRefs : List String
  confirmedMinor : Option Money
  initiatedAt : Date
  confirmedAt : Option Date
  failedAt : Option Date
  failureCode : Option String
  reversedAt : Option Date
  reversalReason : Option String
  allocations : List PaymentAllocationRow
  refunds : List PaymentRefundRow
  deriving DecidableEq

/-! ## Events -/

inductive PaymentPayload where
  | initiated (paymentId : Uuid) (channel : PaymentChannel) (requestedMinor : ℕ)
  | confirmed (paymentId : Uuid) (confirmedMinor : ℕ) (externalRef : String) (confirmedAt : Date)
  | failed (paymentId : Uuid) (failureCode : String)
  | reversed (paymentId : Uuid) (reason : String) (reversalOf : Uuid)
  | duplicateCallbackObserved (paymentId : Uuid) (externalRef : String) (seenAt : Date)
  deriving DecidableEq

structure PaymentEvent where
  name : String
  version : ℕ
  aggregateId : Uuid
  payload : PaymentPayload
  occurredAt : Date
  deriving DecidableEq

def paymentInitiatedEvent (paymentId : Uuid) (channel : PaymentChannel) (requestedMinor : Money)
    (occurredAt : Date) : PaymentEvent :=
  ⟨"payment.initiated", 1, paymentId, .initiated paymentId channel requestedMinor.amount,
    occurredAt⟩

def paymentConfirmedEvent (paymentId : Uuid) (confirmedMinor : Money) (externalRef : String)
    (confirmedAt occurredAt : Date) : PaymentEvent :=
  ⟨"payment.confirmed", 1, paymentId,
    .confirmed paymentId confirmedMinor.amount externalRef confirmedAt, occurredAt⟩

def paymentFailedEvent (paymentId : Uuid) (failureCode : String) (occurredAt : Date) :
    PaymentEvent :=
  ⟨"payment.failed", 1, paymentId, .failed paymentId failureCode, occurredAt⟩

def paymentReversedEvent (paymentId : Uuid) (reason : String) (reversalOf : Uuid)
    (occurredAt : Date) : PaymentEvent :=
  ⟨"payment.reversed", 1, paymentId, .reversed paymentId reason reversalOf, occurredAt⟩

def duplicateCallbackObservedEvent (paymentId : Uuid) (externalRef : String)
    (seenAt occurredAt : Date) : PaymentEvent :=
  ⟨"payments.duplicateCallbackObserved", 1, paymentId,
    .duplicateCallbackObserved paymentId externalRef seenAt, occurredAt⟩

structure TransitionResult where
  payment : Payment
  events : List PaymentEvent
  deriving DecidableEq

/-! ## Derived balances and guards -/

def Payment.rowAmounts (payment : Payment) : List Money :=
  payment.allocations.map (·.amount) ++ payment.refunds.map (·.amount)

def committedOf (payment : Payment) : Except Thrown Money :=
  Money.sumOf payment.currency payment.rowAmounts

def unappliedMinorOf (payment : Payment) : Except Thrown Money :=
  match payment.confirmedMinor with
  | none => .ok (Money.zero payment.currency)
  | some confirmed => do
    let committed ← committedOf payment
    let c ← committed.compareTo confirmed
    if c ≥ 0 then return Money.zero payment.currency
    else confirmed.subtract committed

def assertSameCurrency (payment : Payment) (amount : Money) (op : String) : Except Thrown Unit :=
  throwIf (amount.currency ≠ payment.currency) (DomainError "CURRENCY_MISMATCH"
    s!"cannot {op} {amount.currency} against a {payment.currency} payment (R10)")

def assertPositive (amount : Money) (op : String) : Except Thrown Unit :=
  throwIf (amount.amount ≤ 0) (DomainError "AMOUNT_MUST_BE_POSITIVE" s!"{op} amounts must be > 0")

def isTerminal (payment : Payment) : Bool := TERMINAL_STATES.contains payment.state

def isConfirmedFamily (payment : Payment) : Bool := CONFIRMED_FAMILY.contains payment.state

def assertNotTerminal (payment : Payment) (attempt : String) : Except Thrown Unit :=
  throwIf (isTerminal payment) (DomainError "PAYMENT_TERMINAL"
    s!"payment {payment.id} is {payment.state} (terminal); {attempt} is not allowed")

def assertConfirmedMinor (payment : Payment) : Except Thrown Money :=
  match payment.confirmedMinor with
  | none => .error (DomainError "PAYMENT_STATE_CORRUPT"
      s!"payment {payment.id} is {payment.state} but has no confirmedMinor")
  | some confirmed => .ok confirmed

/-! ## Commands -/

def awaitConfirmation (payment : Payment) : Except Thrown TransitionResult := do
  assertNotTerminal payment "awaiting confirmation"
  throwIf (payment.state ≠ .initiated) (DomainError "INVALID_TRANSITION"
    s!"awaitConfirmation applies to initiated payments, got {payment.state}")
  return ⟨{ payment with state := .pendingConfirmation }, []⟩

/-- PendingConfirmation → Confirmed; a replay with the same amount is a no-op, one with another
amount is an error. -/
def confirmPayment (payment : Payment) (amount : Money) (clock : Clock) :
    Except Thrown TransitionResult := do
  assertSameCurrency payment amount "confirm"
  assertNotTerminal payment "confirmation"
  if payment.state = .confirmed then
    let confirmed ← assertConfirmedMinor payment
    let same ← confirmed.equals amount
    throwIf (!same) (DomainError "CONFIRMED_AMOUNT_MISMATCH"
      s!"payment {payment.id} already confirmed for {confirmed}, cannot re-confirm for {amount}")
    return ⟨payment, []⟩
  else
    throwIf (payment.state ≠ .pendingConfirmation) (DomainError "INVALID_TRANSITION"
      s!"confirmation applies to pending_confirmation payments, got {payment.state}")
    let confirmedAt := clock.now 0
    return ⟨{ payment with
        state := .confirmed, confirmedMinor := some amount, confirmedAt := some confirmedAt },
      [paymentConfirmedEvent payment.id amount payment.externalRef confirmedAt (clock.now 1)]⟩

/-- Initiated or PendingConfirmation → Failed; a duplicate failure callback is a no-op. -/
def failPayment (payment : Payment) (failureCode : String) (clock : Clock) :
    Except Thrown TransitionResult := do
  let code := trim failureCode
  throwIf (code = "")
    (DomainError "FAILURE_CODE_REQUIRED" "a failure transition requires a failure code")
  if payment.state = .failed then return ⟨payment, []⟩
  else
    assertNotTerminal payment "failure"
    throwIf (payment.state ≠ .initiated ∧ payment.state ≠ .pendingConfirmation)
      (DomainError "INVALID_TRANSITION"
        s!"failure applies to initiated/pending_confirmation payments, got {payment.state}")
    return ⟨{ payment with
        state := .failed, failedAt := some (clock.now 0), failureCode := some code },
      [paymentFailedEvent payment.id code (clock.now 1)]⟩

/-- Confirmed → Reversed, with an explicit reason; recorded rows stay. -/
def reversePayment (payment : Payment) (reason : String) (clock : Clock) :
    Except Thrown TransitionResult := do
  let why := trim reason
  throwIf (why = "")
    (DomainError "REVERSAL_REASON_REQUIRED" "a reversal requires an explicit reason (R3)")
  assertNotTerminal payment "reversal"
  throwIf (payment.state ≠ .confirmed) (DomainError "INVALID_TRANSITION"
    s!"docs/03 allows reversal only from confirmed, got {payment.state} (reverse allocations first — wave 2)")
  return ⟨{ payment with
      state := .reversed, reversedAt := some (clock.now 0), reversalReason := some why },
    [paymentReversedEvent payment.id why payment.id (clock.now 1)]⟩

/-- Confirmed → Unapplied, parked on a customer; parking it there again is a no-op. -/
def identifyPayment (payment : Payment) (customerId : Uuid) : Except Thrown TransitionResult := do
  assertNotTerminal payment "unapplied parking"
  if payment.state = .unapplied then
    throwIf (payment.customerId ≠ some customerId) (DomainError "PAYMENT_ALREADY_IDENTIFIED"
      (s!"unapplied payment {payment.id} already parks on customer " ++
        payment.customerId.getD "∅"))
    return ⟨payment, []⟩
  else
    throwIf (payment.state ≠ .confirmed) (DomainError "INVALID_TRANSITION"
      s!"unapplied parking applies to confirmed money, got {payment.state}")
    return ⟨{ payment with state := .unapplied, customerId := some customerId }, []⟩

/-- The confirmed amount, and the committed sum with the new amount, refused above the confirmed
amount. The two reservations differ in their texts. -/
def reserveFunds (payment : Payment) (amount : Money) (notConfirmed exceedsCode rule : String) :
    Except Thrown (Money × Money) := do
  throwIf (!isConfirmedFamily payment) (DomainError "PAYMENT_NOT_CONFIRMED"
    s!"{notConfirmed} draw on confirmed funds; payment {payment.id} is {payment.state} ({rule})")
  let confirmed ← assertConfirmedMinor payment
  let committed ← committedOf payment
  let next ← committed.add amount
  let c ← next.compareTo confirmed
  throwIf (c > 0) (DomainError exceedsCode
    s!"Σ allocations+refunds {next} would exceed confirmed {confirmed} ({rule})")
  return (confirmed, next)

structure AllocationReservation where
  receivableId : Uuid
  amount : Money
  allocationId : Option Uuid

def recordAllocationReservation (payment : Payment) (cmd : AllocationReservation) (clock : Clock) :
    Except Thrown TransitionResult := do
  assertSameCurrency payment cmd.amount "allocate"
  assertPositive cmd.amount "allocation"
  assertNotTerminal payment "allocation"
  let (confirmed, next) ←
    reserveFunds payment cmd.amount "allocations" "ALLOCATION_EXCEEDS_CONFIRMED" "R2"
  let recordedAt := clock.now 0
  let id ← suppliedOr cmd.allocationId do
    let iso ← recordedAt.toISOString
    return uuidFromSeed s!"allocation:{payment.id}:{cmd.receivableId}:{cmd.amount.amount}:{iso}"
  let row : PaymentAllocationRow := ⟨id, payment.id, cmd.receivableId, cmd.amount, recordedAt⟩
  let remaining ← confirmed.subtract next
  return ⟨{ payment with
      allocations := payment.allocations ++ [row]
      state := if remaining.isZero then .allocated else .partiallyAllocated }, []⟩

structure RefundReservation where
  amount : Money
  reason : String
  refundId : Option Uuid

def recordRefundReservation (payment : Payment) (cmd : RefundReservation) (clock : Clock) :
    Except Thrown TransitionResult := do
  let why := trim cmd.reason
  throwIf (why = "") (DomainError "REFUND_REASON_REQUIRED" "a refund reservation requires a reason")
  assertSameCurrency payment cmd.amount "refund"
  assertPositive cmd.amount "refund"
  assertNotTerminal payment "refund"
  let _ ← reserveFunds payment cmd.amount "refunds" "REFUND_EXCEEDS_AVAILABLE" "R6"
  let recordedAt := clock.now 0
  let id ← suppliedOr cmd.refundId do
    let iso ← recordedAt.toISOString
    return uuidFromSeed s!"refund:{payment.id}:{cmd.amount.amount}:{iso}"
  let row : PaymentRefundRow := ⟨id, payment.id, cmd.amount, why, recordedAt⟩
  return ⟨{ payment with refunds := payment.refunds ++ [row] }, []⟩

end Fuatilia.Payments
