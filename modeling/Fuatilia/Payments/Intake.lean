import Fuatilia.Payments.Payment

/-!
# Intake

The one creation funnel for both payment channels. Callbacks are delivered at least once.

## Main definitions

* `intakePayment` — a command that repeats a known (channel, external reference) or idempotency key
  returns the existing payment; every other one creates an initiated payment.

## Main results

* `intakePayment_created` — an intake that answers no duplicate creates a payment.
-/

namespace Fuatilia.Payments

open Fallible

structure IntakeCommand where
  channel : PaymentChannel
  externalRef : String
  idempotencyKey : String
  amount : Money
  customerId : Option Uuid
  declaredRefs : List String
  paymentId : Option Uuid

structure IntakeContext where
  clock : Clock
  existing : List Payment

structure IntakeResult where
  payment : Payment
  duplicate : Bool
  events : List PaymentEvent
  deriving DecidableEq

/-- One round of the loop over the declared references: blank ones throw, repeats are dropped. -/
def pushDeclaredRef (out : List String) (raw : String) : Except Thrown (List String) := do
  let ref := trim raw
  throwIf (ref = "")
    (DomainError "INTAKE_DECLARED_REF_BLANK" "declared references cannot be blank")
  return if out.contains ref then out else out ++ [ref]

def normalizeDeclaredRefs (refs : List String) : Except Thrown (List String) :=
  refs.foldlM pushDeclaredRef []

def priorPayment (cmd : IntakeCommand) (externalRef idempotencyKey : String)
    (existing : List Payment) : Option Payment :=
  existing.find? fun p =>
    (p.channel == cmd.channel && p.externalRef == externalRef) ||
      p.idempotencyKey == idempotencyKey

def observeDuplicate (prior : Payment) (amount : Money) (clock : Clock) :
    Except Thrown IntakeResult := do
  throwIf (prior.currency ≠ amount.currency) (DomainError "CURRENCY_MISMATCH"
    s!"payment {prior.id} is {prior.currency}; duplicate callback arrived as {amount.currency} (R10)")
  let same ← prior.requestedMinor.equals amount
  throwIf (!same) (DomainError "DUPLICATE_AMOUNT_MISMATCH"
    s!"duplicate callback for {prior.externalRef} carries {amount} but the payment was initiated for {prior.requestedMinor}")
  return ⟨prior, true,
    [duplicateCallbackObservedEvent prior.id prior.externalRef (clock.now 0) (clock.now 1)]⟩

def createPayment (cmd : IntakeCommand) (externalRef idempotencyKey : String)
    (declaredRefs : List String) (clock : Clock) : IntakeResult :=
  let id := cmd.paymentId.getD (uuidFromSeed s!"payment:{cmd.channel}:{idempotencyKey}")
  ⟨{ id
     channel := cmd.channel
     externalRef := externalRef
     idempotencyKey := idempotencyKey
     customerId := cmd.customerId
     state := .initiated
     currency := cmd.amount.currency
     requestedMinor := cmd.amount
     declaredRefs := declaredRefs
     confirmedMinor := none
     initiatedAt := clock.now 0
     confirmedAt := none
     failedAt := none
     failureCode := none
     reversedAt := none
     reversalReason := none
     allocations := []
     refunds := [] },
    false, [paymentInitiatedEvent id cmd.channel cmd.amount (clock.now 1)]⟩

/-- The intake funnel. The channel is one of the two of its type, so the guard of the source
against another channel has no case here. -/
def intakePayment (cmd : IntakeCommand) (ctx : IntakeContext) : Except Thrown IntakeResult := do
  let externalRef := trim cmd.externalRef
  throwIf (externalRef = "") (DomainError "INTAKE_EXTERNAL_REF_REQUIRED"
    "externalRef (Daraja transaction id) is required")
  let idempotencyKey := trim cmd.idempotencyKey
  throwIf (idempotencyKey = "")
    (DomainError "INTAKE_IDEMPOTENCY_KEY_REQUIRED" "idempotencyKey is required (R9)")
  throwIf (cmd.amount.amount ≤ 0)
    (DomainError "AMOUNT_MUST_BE_POSITIVE" "intake amounts must be > 0")
  let declaredRefs ← normalizeDeclaredRefs cmd.declaredRefs
  match priorPayment cmd externalRef idempotencyKey ctx.existing with
  | some prior => observeDuplicate prior cmd.amount ctx.clock
  | none => return createPayment cmd externalRef idempotencyKey declaredRefs ctx.clock

lemma observeDuplicate_duplicate {prior : Payment} {amount : Money} {clock : Clock}
    {r : IntakeResult} (h : observeDuplicate prior amount clock = .ok r) : r.duplicate = true := by
  simp only [observeDuplicate, ok_iff] at h
  obtain ⟨-, _, -, -, rfl⟩ := h
  rfl

lemma intakePayment_created {cmd : IntakeCommand} {ctx : IntakeContext} {r : IntakeResult}
    (h : intakePayment cmd ctx = .ok r) (hnew : r.duplicate = false) :
    ∃ refs, r = createPayment cmd (trim cmd.externalRef) (trim cmd.idempotencyKey)
    refs ctx.clock := by
  simp only [intakePayment, ok_iff] at h
  obtain ⟨-, -, -, refs, -, h⟩ := h
  split at h
  · rw [observeDuplicate_duplicate h] at hnew
    cases hnew
  · exact ⟨refs, pure_eq_ok.mp h⟩

end Fuatilia.Payments
