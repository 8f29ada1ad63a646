import Fuatilia.Adjustments.Events

/-!
# Credit balances

What a customer holds in one currency, as a log of movements that is only extended.

## Main definitions

* `availableOf` — the fold over the log, which throws for a foreign currency or a debt.
* `appendMovement`, `recordOverpayment`, `applyCreditBalance` — what extends the log.

## Main results

* `availableOf_eq_ok`, `appendMovement_eq_ok` — what is available, and what is appended.
-/

namespace Fuatilia.Adjustments

open Fallible

inductive CreditBalanceMovementKind where
  | overpayment | creditNoteExcess | appliedToReceivable

instance : ToString CreditBalanceMovementKind where
  toString
    | .overpayment => "overpayment"
    | .creditNoteExcess => "credit_note_excess"
    | .appliedToReceivable => "applied_to_receivable"

inductive CreditBalanceDirection where
  | increase | decrease
  deriving DecidableEq

instance : ToString CreditBalanceDirection where
  toString
    | .increase => "increase"
    | .decrease => "decrease"

structure CreditBalanceMovement where
  id : Uuid
  customerId : Uuid
  kind : CreditBalanceMovementKind
  direction : CreditBalanceDirection
  amount : Money
  currency : Currency
  paymentRef : Option String
  receivableId : Option Uuid
  sourceId : Option Uuid
  occurredAt : Date

structure CustomerCreditBalance where
  customerId : Uuid
  currency : Currency
  movements : List CreditBalanceMovement

inductive RequiredReference where
  | paymentRef | sourceId | receivableId

instance : ToString RequiredReference where
  toString
    | .paymentRef => "paymentRef"
    | .sourceId => "sourceId"
    | .receivableId => "receivableId"

/-- `MOVEMENT_CONTRACT`: the direction of each kind of movement and the reference it carries. -/
def movementContract :
    CreditBalanceMovementKind → CreditBalanceDirection × RequiredReference
  | .overpayment => (.increase, .paymentRef)
  | .creditNoteExcess => (.increase, .sourceId)
  | .appliedToReceivable => (.decrease, .receivableId)

def CreditBalanceMovement.reference (movement : CreditBalanceMovement) :
    RequiredReference → Option String
  | .paymentRef => movement.paymentRef
  | .sourceId => movement.sourceId
  | .receivableId => movement.receivableId

def openCreditBalance (customerId : Uuid) (currency : Currency) : CustomerCreditBalance :=
  ⟨customerId, currency, []⟩

def addMovement (currency : Currency) (minor : ℤ) (movement : CreditBalanceMovement) :
    Except Thrown ℤ := do
  throwIf (movement.currency ≠ currency) (DomainError "CURRENCY_MISMATCH"
    s!"movement {movement.id} is {movement.currency} but balance is {currency}")
  return minor + if movement.direction = .increase then (movement.amount.amount : ℤ)
    else -movement.amount.amount

def availableOf (balance : CustomerCreditBalance) : Except Thrown Money := do
  let minor ← balance.movements.foldlM (addMovement balance.currency) 0
  throwIf (minor < 0) (DomainError "CREDIT_BALANCE_CORRUPT"
    ("movement log sums to a negative balance — an applied movement was never covered " ++
      "(R3 violation)"))
  Money.ofMinor (.bigint minor) balance.currency

/-- A movement appended to the log. The reference is missing when it is absent or empty. -/
def appendMovement (balance : CustomerCreditBalance) (movement : CreditBalanceMovement) :
    Except Thrown CustomerCreditBalance := do
  throwIf (movement.customerId ≠ balance.customerId) (DomainError "CREDIT_BALANCE_CUSTOMER_MISMATCH"
    s!"movement belongs to customer {movement.customerId}, balance to {balance.customerId}")
  throwIf (movement.currency ≠ balance.currency) (DomainError "CURRENCY_MISMATCH"
    s!"movement {movement.amount} does not match balance currency {balance.currency}")
  throwIf (!movement.amount.isPositive)
    (DomainError "CREDIT_BALANCE_AMOUNT_INVALID" "movement amount must be positive")
  let contract := movementContract movement.kind
  throwIf (movement.direction ≠ contract.1 ∨ (movement.reference contract.2).getD "" = "")
    (.domainError "CREDIT_BALANCE_MOVEMENT_INCONSISTENT"
      (s!"movement of kind '{movement.kind}' must be direction '{contract.1}' and carry " ++
        s!"'{contract.2}'")
      [("movementId", movement.id), ("kind", toString movement.kind),
        ("direction", toString movement.direction)])
  return { balance with movements := balance.movements ++ [movement] }

structure OverpaymentRecorded where
  balance : CustomerCreditBalance
  movement : CreditBalanceMovement

def recordOverpayment (balance : CustomerCreditBalance) (paymentRef : String) (amount : Money)
    (clock : Clock) (movementId : Uuid) : Except Thrown OverpaymentRecorded := do
  throwIf (trim paymentRef = "") (DomainError "CREDIT_BALANCE_PAYMENT_REF_REQUIRED"
    "an overpayment movement requires a source payment reference (C4 traceability)")
  throwIf (!amount.isPositive)
    (DomainError "CREDIT_BALANCE_AMOUNT_INVALID" "overpayment amount must be positive")
  throwIf (amount.currency ≠ balance.currency) (DomainError "CURRENCY_MISMATCH"
    s!"overpayment {amount} does not match balance currency {balance.currency}")
  let movement : CreditBalanceMovement := ⟨movementId, balance.customerId, .overpayment, .increase,
    amount, balance.currency, some paymentRef, none, none, clock.now 0⟩
  let appended ← appendMovement balance movement
  return ⟨appended, movement⟩

structure ApplyCreditBalanceOptions where
  consent : Option Bool
  movementId : Uuid

structure CreditBalanceApplied where
  balance : CustomerCreditBalance
  movement : CreditBalanceMovement
  event : AdjustmentEvent

def applyCreditBalance (balance : CustomerCreditBalance) (receivableId : Uuid) (amount : Money)
    (clock : Clock) (options : ApplyCreditBalanceOptions) : Except Thrown CreditBalanceApplied := do
  throwIf (!options.consent.getD true) (.domainError "CONSENT_REQUIRED"
    "applying customer credit balance to a receivable requires explicit consent (R7 / DPA 2019)"
    [("customerId", balance.customerId)])
  throwIf (!amount.isPositive)
    (DomainError "CREDIT_BALANCE_AMOUNT_INVALID" "applied amount must be positive")
  throwIf (amount.currency ≠ balance.currency) (DomainError "CURRENCY_MISMATCH"
    s!"application {amount} does not match balance currency {balance.currency}")
  let available ← availableOf balance
  let order ← amount.compareTo available
  throwIf (order > 0) (.domainError "INSUFFICIENT_CREDIT_BALANCE"
    s!"requested {amount} exceeds available {available} — balance can never go negative"
    [("requestedMinor", toString amount.amount), ("availableMinor", toString available.amount),
      ("customerId", balance.customerId)])
  let movement : CreditBalanceMovement := ⟨options.movementId, balance.customerId,
    .appliedToReceivable, .decrease, amount, balance.currency, none, some receivableId, none,
    clock.now 0⟩
  let appended ← appendMovement balance movement
  let event ← creditBalanceAppliedEvent balance.customerId amount.amount (some receivableId)
    (clock.after 1)
  return ⟨appended, movement, event⟩

/-! ## The sums of the log -/

def moved (direction : CreditBalanceDirection) (movements : List CreditBalanceMovement) : ℕ :=
  ((movements.filter (·.direction = direction)).map (·.amount.amount)).sum

lemma moved_concat (direction : CreditBalanceDirection) (movements : List CreditBalanceMovement)
    (m : CreditBalanceMovement) :
    moved direction (movements ++ [m]) =
      moved direction movements + if m.direction = direction then m.amount.amount else 0 := by
  by_cases h : m.direction = direction <;> simp [moved, h]

lemma foldlM_addMovement_eq_ok {currency : Currency} {movements : List CreditBalanceMovement}
    {minor total : ℤ} :
    movements.foldlM (addMovement currency) minor = .ok total ↔
      (∀ m ∈ movements, m.currency = currency) ∧
        total = minor + moved .increase movements - moved .decrease movements := by
  induction movements generalizing minor with
  | nil => simp [moved, pure_eq_ok]
  | cons m movements ih =>
    simp only [List.foldlM_cons, ok_iff, addMovement, not_not, List.forall_mem_cons]
    constructor
    · rintro ⟨_, ⟨hcurrency, rfl⟩, hrest⟩
      obtain ⟨hall, rfl⟩ := ih.mp hrest
      refine ⟨⟨hcurrency, hall⟩, ?_⟩
      cases hdirection : m.direction <;> simp [moved, hdirection] <;> ring
    · rintro ⟨⟨hcurrency, hrest⟩, rfl⟩
      refine ⟨_, ⟨hcurrency, rfl⟩, ih.mpr ⟨hrest, ?_⟩⟩
      cases hdirection : m.direction <;> simp [moved, hdirection] <;> ring

variable {balance : CustomerCreditBalance}

/-- **The available amount** is defined exactly when the log is in the currency of the balance and
the increases cover the decreases, and then it is their difference. -/
lemma availableOf_eq_ok {available : Money} :
    availableOf balance = .ok available ↔
      (∀ m ∈ balance.movements, m.currency = balance.currency) ∧
        moved .decrease balance.movements ≤ moved .increase balance.movements ∧
        available = ⟨moved .increase balance.movements - moved .decrease balance.movements,
          balance.currency⟩ := by
  simp only [availableOf, ok_iff, foldlM_addMovement_eq_ok, not_lt, zero_add]
  constructor
  · rintro ⟨_, ⟨hcurrency, rfl⟩, hcovered, hmoney⟩
    have hle : moved .decrease balance.movements ≤ moved .increase balance.movements := by omega
    rw [← Nat.cast_sub hle, Money.ofMinor_natCast] at hmoney
    exact ⟨hcurrency, hle, (Except.ok.inj hmoney).symm⟩
  · rintro ⟨hcurrency, hle, rfl⟩
    refine ⟨_, ⟨hcurrency, rfl⟩, by omega, ?_⟩
    rw [← Nat.cast_sub hle, Money.ofMinor_natCast]

/-! ## What an accepted operation appended -/

/-- What `appendMovement` asks of a movement: its customer, its currency field, a positive amount,
and the direction and the reference of its kind. -/
structure Fits (balance : CustomerCreditBalance) (movement : CreditBalanceMovement) : Prop where
  customer : movement.customerId = balance.customerId
  currency : movement.currency = balance.currency
  positive : 0 < movement.amount.amount
  direction : movement.direction = (movementContract movement.kind).1
  reference : (movement.reference (movementContract movement.kind).2).getD "" ≠ ""

lemma appendMovement_eq_ok {appended : CustomerCreditBalance} {movement : CreditBalanceMovement} :
    appendMovement balance movement = .ok appended ↔
      Fits balance movement ∧
        appended = { balance with movements := balance.movements ++ [movement] } := by
  simp only [appendMovement, ok_iff, not_not, not_or, Money.isPositive, Bool.not_eq_eq_eq_not,
    Bool.not_true, decide_eq_false_iff_not]
  constructor
  · rintro ⟨hcustomer, hcurrency, hpositive, ⟨hdirection, hreference⟩, happended⟩
    exact ⟨⟨hcustomer, hcurrency, hpositive, hdirection, hreference⟩, happended⟩
  · rintro ⟨hfits, happended⟩
    exact ⟨hfits.customer, hfits.currency, hfits.positive, ⟨hfits.direction, hfits.reference⟩,
      happended⟩

lemma recordOverpayment_eq_ok {paymentRef : String} {amount : Money} {clock : Clock}
    {movementId : Uuid} {recorded : OverpaymentRecorded}
    (h : recordOverpayment balance paymentRef amount clock movementId = .ok recorded) :
    appendMovement balance recorded.movement = .ok recorded.balance ∧
      recorded.movement.amount.currency = balance.currency ∧
      recorded.movement.direction = .increase := by
  simp only [recordOverpayment, ok_iff, not_not] at h
  obtain ⟨-, -, hcurrency, appended, happended, rfl⟩ := h
  exact ⟨happended, hcurrency, rfl⟩

lemma applyCreditBalance_eq_ok {receivableId : Uuid} {amount : Money} {clock : Clock}
    {options : ApplyCreditBalanceOptions} {applied : CreditBalanceApplied}
    (h : applyCreditBalance balance receivableId amount clock options = .ok applied) :
    appendMovement balance applied.movement = .ok applied.balance ∧
      applied.movement.amount.currency = balance.currency ∧
      moved .decrease balance.movements + applied.movement.amount.amount ≤
        moved .increase balance.movements := by
  simp only [applyCreditBalance, ok_iff, not_not] at h
  obtain ⟨-, -, hcurrency, available, havailable, order, horder, hle, appended, happended, event, -,
    rfl⟩ := h
  obtain ⟨-, hcovered, rfl⟩ := availableOf_eq_ok.mp havailable
  have hwithin : amount.amount ≤
      moved .increase balance.movements - moved .decrease balance.movements :=
    Nat.not_lt.mp (mt (Money.compareTo_pos horder).mpr hle)
  refine ⟨happended, hcurrency, ?_⟩
  show _ + amount.amount ≤ _
  omega

end Fuatilia.Adjustments
