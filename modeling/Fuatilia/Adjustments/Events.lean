import Fuatilia.Shared.Money

/-!
# The facts of the adjustments

An event is stamped with a reading of the clock, so a clock that is out of the range of dates makes
the operation throw.

## Main definitions

* `AdjustmentPayload`, `emit` — the facts of refunds, credit notes and credit balances.
-/

namespace Fuatilia.Adjustments

open Fallible

inductive AdjustmentPayload where
  | refundRequested (refundId paymentId : Uuid) (totalMinor : ℕ) (reason : String)
  | refundCompleted (refundId : Uuid) (completedAt : String)
  | creditNoteIssued (creditNoteId customerId : Uuid) (totalMinor : ℕ)
  | creditNoteApplied (applicationId creditNoteId receivableId : Uuid) (amountMinor : ℕ)
  | creditBalanceApplied (customerId : Uuid) (amountMinor : ℕ) (receivableId : Option Uuid)

structure AdjustmentEvent where
  name : String
  version : ℕ
  aggregateId : Uuid
  payload : AdjustmentPayload
  occurredAt : String

def emit (name : String) (aggregateId : Uuid) (payload : AdjustmentPayload) (now : Date) :
    Except Thrown AdjustmentEvent := do
  let occurredAt ← now.toISOString
  return ⟨name, 1, aggregateId, payload, occurredAt⟩

def refundRequestedEvent (refundId paymentId : Uuid) (totalMinor : ℕ) (reason : String)
    (clock : Clock) : Except Thrown AdjustmentEvent :=
  emit "adjustment.refundRequested" refundId (.refundRequested refundId paymentId totalMinor reason)
    (clock.now 0)

/-- The completion is read from the clock before the stamp of the envelope. -/
def refundCompletedEvent (refundId : Uuid) (clock : Clock) : Except Thrown AdjustmentEvent := do
  let completedAt ← (clock.now 0).toISOString
  emit "adjustment.refundCompleted" refundId (.refundCompleted refundId completedAt) (clock.now 1)

def creditNoteIssuedEvent (creditNoteId customerId : Uuid) (totalMinor : ℕ) (clock : Clock) :
    Except Thrown AdjustmentEvent :=
  emit "adjustment.creditNoteIssued" creditNoteId
    (.creditNoteIssued creditNoteId customerId totalMinor) (clock.now 0)

def creditNoteAppliedEvent (applicationId creditNoteId receivableId : Uuid) (amountMinor : ℕ)
    (clock : Clock) : Except Thrown AdjustmentEvent :=
  emit "adjustment.creditNoteApplied" creditNoteId
    (.creditNoteApplied applicationId creditNoteId receivableId amountMinor) (clock.now 0)

def creditBalanceAppliedEvent (customerId : Uuid) (amountMinor : ℕ) (receivableId : Option Uuid)
    (clock : Clock) : Except Thrown AdjustmentEvent :=
  emit "adjustment.creditBalanceApplied" customerId
    (.creditBalanceApplied customerId amountMinor receivableId) (clock.now 0)

end Fuatilia.Adjustments
