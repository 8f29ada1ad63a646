import Fuatilia.Backend.Service

/-!
# Intake and confirmation of payments

The one funnel through which money enters the backend. Each command is one transaction.

## Main definitions

* `intake` — record a payment once, under its external reference and its idempotency key.
* `confirm` — set the confirmed amount once.

## Main results

* `intake_cases`, `confirm_cases` — what each of them can do.

## Implementation notes

The facts of the outbox and the ledger entry of a confirmation are read by nothing here and left
out. The cache is trimmed by its own rules, which change nothing of a key that is trimmed already.
-/

namespace Fuatilia.Backend

open Fallible

/-! ## The tables -/

inductive PaymentState where
  | initiated | pending_confirmation | confirmed | partially_allocated | allocated | unapplied
  | failed | reversed | partially_refunded | refunded
  deriving DecidableEq

instance : ToString PaymentState where
  toString
    | .initiated => "initiated"
    | .pending_confirmation => "pending_confirmation"
    | .confirmed => "confirmed"
    | .partially_allocated => "partially_allocated"
    | .allocated => "allocated"
    | .unapplied => "unapplied"
    | .failed => "failed"
    | .reversed => "reversed"
    | .partially_refunded => "partially_refunded"
    | .refunded => "refunded"

def terminalPaymentStates : List PaymentState := [.failed, .reversed, .refunded]

def confirmedFamilyStates : List PaymentState :=
  [.confirmed, .partially_allocated, .allocated, .unapplied, .partially_refunded, .refunded]

/-- A payment. Exactly the confirmed family, and a reversed payment, has a confirmed amount. -/
structure PaymentRow where
  id : Uuid
  orgID : Uuid
  customerID : Option Uuid
  channel : String
  externalRef : String
  idempotencyKey : String
  state : PaymentState
  currency : String
  requestedMinor : ℤ
  confirmedMinor : Option ℤ
  declaredRefs : List String
  shape : (state ∈ confirmedFamilyStates ∨ state = .reversed) ↔ confirmedMinor.isSome

structure KeyRow where
  orgID : Uuid
  key : String
  outcomeRef : Uuid

structure JourneyRow where
  journeyKey : String
  orgID : Uuid
  amountMinor : ℤ

inductive StkState where
  | initiated | reconciled | failed
  deriving DecidableEq

instance : ToString StkState where
  toString
    | .initiated => "initiated"
    | .reconciled => "reconciled"
    | .failed => "failed"

structure StkInitiationRow where
  orgID : Uuid
  checkoutRequestID : String
  customerID : Option Uuid
  requestedMinor : ℤ
  currency : String
  state : StkState
  deriving DecidableEq

structure World where
  payments : List PaymentRow
  keys : List KeyRow
  replays : List KeyRow
  journeys : List JourneyRow
  initiations : List StkInitiationRow

structure Origin where
  id : Uuid
  orgID : Uuid
  channel : String
  externalRef : String
  idempotencyKey : String
  currency : String
  requestedMinor : ℤ

def PaymentRow.origin (p : PaymentRow) : Origin :=
  ⟨p.id, p.orgID, p.channel, p.externalRef, p.idempotencyKey, p.currency, p.requestedMinor⟩

def World.origins (w : World) : List Origin := w.payments.map PaymentRow.origin

lemma map_origin_of_eq {ps : List PaymentRow} {f : PaymentRow → PaymentRow}
    (h : ∀ p, (f p).origin = p.origin) :
    (ps.map f).map PaymentRow.origin = ps.map PaymentRow.origin := by
  rw [List.map_map]
  exact List.map_congr_left fun p _ => h p

/-! ## Queries -/

def paymentByID (w : World) (orgID id : Uuid) : Option PaymentRow :=
  w.payments.find? fun p => p.orgID = orgID ∧ p.id = id

/-- The outcome of a key: the one the process remembers, or the one of the table. -/
def lookupIdempotencyKey (w : World) (orgID : Uuid) (key : String) : Option Uuid :=
  ((w.replays.find? fun r => r.orgID = orgID ∧ r.key = key).or
    (w.keys.find? fun r => r.orgID = orgID ∧ r.key = key)).map KeyRow.outcomeRef

def keyedPayment (w : World) (orgID : Uuid) (key : String) : Option PaymentRow :=
  (lookupIdempotencyKey w orgID key).bind (paymentByID w orgID)

def findPriorPayment (w : World) (orgID : Uuid) (channel externalRef idempotencyKey : String) :
    Option PaymentRow :=
  (w.payments.find? fun p => p.orgID = orgID ∧ p.channel = channel ∧ p.externalRef = externalRef).or
    (w.payments.find? fun p => p.orgID = orgID ∧ p.idempotencyKey = idempotencyKey)

def bindKey (rows : List KeyRow) (row : KeyRow) : List KeyRow :=
  if ∃ r ∈ rows, r.orgID = row.orgID ∧ r.key = row.key then rows else rows ++ [row]

def World.claimKey (w : World) (row : KeyRow) : World :=
  { w with keys := bindKey w.keys row, replays := bindKey w.replays row }

/-! ## Intake -/

structure IntakeCommand where
  channel : String
  externalRef : String
  idempotencyKey : String
  amountMinor : ℤ
  currency : String
  customerID : Option Uuid
  declaredRefs : List String

structure IntakeResult where
  payment : PaymentRow
  duplicate : Bool

def assertDuplicateMoney (prior : PaymentRow) (amountMinor : ℤ) (currency : String) :
    Except Refusal Unit := do
  throwIf (prior.currency ≠ currency) (.domainError "CURRENCY_MISMATCH"
    ("payment " ++ prior.id ++ " is " ++ prior.currency ++ "; duplicate callback arrived as " ++
      currency ++ " (R10)"))
  throwIf (prior.requestedMinor ≠ amountMinor) (.domainError "DUPLICATE_AMOUNT_MISMATCH"
    ("duplicate callback for " ++ prior.externalRef ++ " carries " ++
      moneyString amountMinor currency ++ " but the payment was initiated for " ++
      moneyString prior.requestedMinor prior.currency))

/-- The outcome on a payment that was found: the key is bound to it too. -/
def replayPrior (w : World) (orgID : Uuid) (idempotencyKey : String) (prior : PaymentRow)
    (amountMinor : ℤ) (currency : String) : Except Refusal (World × IntakeResult) := do
  assertDuplicateMoney prior amountMinor currency
  pure (w.claimKey ⟨orgID, idempotencyKey, prior.id⟩, ⟨prior, true⟩)

def replayAfterRace (w : World) (orgID : Uuid) (channel externalRef idempotencyKey : String)
    (amountMinor : ℤ) (currency : String) : Except Refusal (World × IntakeResult) :=
  match findPriorPayment w orgID channel externalRef idempotencyKey with
  | none =>
    .error (.domainError "HTTP_INTERNAL_ERROR" "intake race resolved without a committed payment")
  | some prior => replayPrior w orgID idempotencyKey prior amountMinor currency

def IntakeCommand.row (cmd : IntakeCommand) (orgID id : Uuid) : PaymentRow :=
  { id
    orgID := orgID
    customerID := cmd.customerID
    channel := cmd.channel
    externalRef := trim cmd.externalRef
    idempotencyKey := trim cmd.idempotencyKey
    state := .initiated
    currency := cmd.currency
    requestedMinor := cmd.amountMinor
    confirmedMinor := none
    declaredRefs := (cmd.declaredRefs.map trim).eraseDups
    shape := by decide }

/-- The unique indexes of `payments` that a new row would violate. -/
def UniqueViolation (w : World) (row : PaymentRow) : Prop :=
  ∃ p ∈ w.payments, p.id = row.id ∨ p.orgID = row.orgID ∧
    (p.externalRef = row.externalRef ∨ p.idempotencyKey = row.idempotencyKey)
  deriving Decidable

/-- The transaction of the intake, after its validations: the payment that the key names, else the
one with the same reference or key, else a new one. -/
def intakeTx (w : World) (orgID : Uuid) (cmd : IntakeCommand) (id : Uuid) :
    Except Refusal (World × IntakeResult) :=
  let row := cmd.row orgID id
  match keyedPayment w orgID row.idempotencyKey with
  | some prior => do
    assertDuplicateMoney prior cmd.amountMinor cmd.currency
    pure (w, ⟨prior, true⟩)
  | none =>
    match findPriorPayment w orgID cmd.channel row.externalRef row.idempotencyKey with
    | some prior => replayPrior w orgID row.idempotencyKey prior cmd.amountMinor cmd.currency
    | none =>
      if UniqueViolation w row then
        replayAfterRace w orgID cmd.channel row.externalRef row.idempotencyKey cmd.amountMinor
          cmd.currency
      else
        .ok ({ w.claimKey ⟨orgID, row.idempotencyKey, id⟩ with payments := w.payments ++ [row] },
          ⟨row, false⟩)

/-- The intake funnel; `id` is the identifier it mints for a new payment. -/
def intake (w : World) (orgID : Uuid) (cmd : IntakeCommand) (id : Uuid) :
    Except Refusal (World × IntakeResult) := do
  throwIf (cmd.channel ≠ "c2b" ∧ cmd.channel ≠ "stk")
    (.domainError "INTAKE_CHANNEL_INVALID" ("unknown channel: " ++ cmd.channel))
  throwIf (trim cmd.externalRef = "") (.domainError "INTAKE_EXTERNAL_REF_REQUIRED"
    "externalRef (Daraja transaction id) is required")
  throwIf (trim cmd.idempotencyKey = "") (.domainError "INTAKE_IDEMPOTENCY_KEY_REQUIRED"
    "idempotencyKey is required (R9)")
  throwIf (cmd.amountMinor ≤ 0)
    (.domainError "AMOUNT_MUST_BE_POSITIVE" "intake amounts must be > 0")
  throwIf (∃ ref ∈ cmd.declaredRefs, trim ref = "")
    (.domainError "INTAKE_DECLARED_REF_BLANK" "declared references cannot be blank")
  intakeTx w orgID cmd id

variable {cmd : IntakeCommand} {id orgID : Uuid} {w w' : World} {amountMinor : ℤ}
  {currency : String} {p : PaymentRow}

variable {r : IntakeResult} {paymentID : Uuid}

lemma intake_eq_ok (h : intake w orgID cmd id = .ok (w', r)) :
    0 < cmd.amountMinor ∧ intakeTx w orgID cmd id = .ok (w', r) := by
  simp only [intake, ok_iff] at h
  obtain ⟨-, -, -, hpos, -, h⟩ := h
  exact ⟨not_le.mp hpos, h⟩

lemma assertDuplicateMoney_eq_ok {prior : PaymentRow} {u : Unit} :
    assertDuplicateMoney prior amountMinor currency = .ok u ↔
      prior.currency = currency ∧ prior.requestedMinor = amountMinor := by
  simp [assertDuplicateMoney, bind_eq_ok, throwIf_eq_ok, exists_const]

lemma paymentByID_eq_some (h : paymentByID w orgID id = some p) :
    p ∈ w.payments ∧ p.orgID = orgID ∧ p.id = id := by
  exact of_find h

lemma findPriorPayment_eq_some {channel ref key : String}
    (h : findPriorPayment w orgID channel ref key = some p) :
    p ∈ w.payments ∧ p.orgID = orgID ∧
      (p.channel = channel ∧ p.externalRef = ref ∨ p.idempotencyKey = key) := by
  simp only [findPriorPayment, Option.or_eq_some_iff] at h
  rcases h with h | ⟨-, h⟩
  · obtain ⟨hmem, horg, href⟩ := of_find h
    exact ⟨hmem, horg, .inl href⟩
  · obtain ⟨hmem, horg, hkey⟩ := of_find h
    exact ⟨hmem, horg, .inr hkey⟩

/-- Where an accepted intake found a payment: under the key, or by the reference or the key. -/
def FoundPrior (w : World) (orgID : Uuid) (cmd : IntakeCommand) (p : PaymentRow) : Prop :=
  keyedPayment w orgID (trim cmd.idempotencyKey) = some p ∨
    findPriorPayment w orgID cmd.channel (trim cmd.externalRef) (trim cmd.idempotencyKey) = some p

/-- **What an accepted intake does.** It appends a new payment, and binds the key to it, when no
payment of the org has its reference or its key; or it finds a payment of the same money. -/
theorem intake_cases (h : intake w orgID cmd id = .ok (w', r)) :
    (r = ⟨cmd.row orgID id, false⟩ ∧ ¬ UniqueViolation w (cmd.row orgID id) ∧
        w' = { w.claimKey ⟨orgID, trim cmd.idempotencyKey, id⟩ with
          payments := w.payments ++ [cmd.row orgID id] }) ∨
      ∃ prior, r = ⟨prior, true⟩ ∧ FoundPrior w orgID cmd prior ∧
        prior.currency = cmd.currency ∧ prior.requestedMinor = cmd.amountMinor ∧
        (w' = w ∨ w' = w.claimKey ⟨orgID, trim cmd.idempotencyKey, prior.id⟩) := by
  obtain ⟨-, h⟩ := intake_eq_ok h
  simp only [intakeTx] at h
  split at h
  · rename_i prior hkeyed
    simp only [ok_iff, assertDuplicateMoney_eq_ok, exists_const, Prod.mk.injEq] at h
    obtain ⟨⟨hcur, hamt⟩, rfl, rfl⟩ := h
    exact .inr ⟨prior, rfl, .inl hkeyed, hcur, hamt, .inl rfl⟩
  · split at h
    · rename_i prior hprior
      simp only [replayPrior, ok_iff, assertDuplicateMoney_eq_ok, exists_const, Prod.mk.injEq] at h
      obtain ⟨⟨hcur, hamt⟩, rfl, rfl⟩ := h
      exact .inr ⟨prior, rfl, .inr hprior, hcur, hamt, .inr rfl⟩
    · rename_i hprior
      split_ifs at h with hunique
      · simp only [replayAfterRace, hprior] at h
        cases h
      · obtain ⟨rfl, rfl⟩ := Prod.mk.inj (Except.ok.inj h)
        exact .inl ⟨rfl, hunique, rfl⟩

lemma intake_frame (h : intake w orgID cmd id = .ok (w', r)) :
    w'.journeys = w.journeys ∧ w'.initiations = w.initiations := by
  rcases intake_cases h with ⟨-, -, rfl⟩ | ⟨prior, -, -, -, -, rfl | rfl⟩ <;> exact ⟨rfl, rfl⟩

lemma intake_origins (h : intake w orgID cmd id = .ok (w', r)) : w'.origins = w.origins ∨
      r = ⟨cmd.row orgID id, false⟩ ∧ w'.origins = w.origins ++ [(cmd.row orgID id).origin] := by
  rcases intake_cases h with ⟨rfl, -, rfl⟩ | ⟨prior, -, -, -, -, rfl | rfl⟩
  · exact .inr ⟨rfl, by simp [World.origins]⟩
  · exact .inl rfl
  · exact .inl rfl

/-! ## Confirmation -/

def PaymentRow.confirmedFor (p : PaymentRow) (amountMinor : ℤ) : PaymentRow :=
  { p with
    state := .confirmed
    confirmedMinor := some amountMinor
    shape := by simp [confirmedFamilyStates] }

def World.confirmPayment (w : World) (orgID id : Uuid) (amountMinor : ℤ) : World :=
  { w with
    payments := w.payments.map fun p =>
      if p.orgID = orgID ∧ p.id = id then p.confirmedFor amountMinor else p }

structure ConfirmResult where
  payment : PaymentRow
  alreadyConfirmed : Bool

/-- The confirmation of a payment by the success callback. An initiated payment is advanced to
`pending_confirmation` first. -/
def confirm (w : World) (orgID paymentID : Uuid) (amountMinor : ℤ) (currency : String) :
    Except Refusal (World × ConfirmResult) := do
  throwIf (amountMinor ≤ 0)
    (.domainError "AMOUNT_MUST_BE_POSITIVE" "confirmation amounts must be > 0")
  match paymentByID w orgID paymentID with
  | none =>
    throw (.domainError "HTTP_PAYMENT_NOT_FOUND" ("payment " ++ paymentID ++ " does not exist"))
  | some p =>
    throwIf (p.currency ≠ currency) (.domainError "CURRENCY_MISMATCH"
      ("cannot confirm " ++ currency ++ " against a " ++ p.currency ++ " payment (R10)"))
    throwIf (p.state ∈ terminalPaymentStates) (.domainError "PAYMENT_TERMINAL"
      ("payment " ++ p.id ++ " is " ++ toString p.state ++
        " (terminal); confirmation is not allowed"))
    if p.state = .confirmed then
      match p.confirmedMinor with
      | none => throw (.domainError "HTTP_INTERNAL_ERROR"
          ("payment " ++ p.id ++ " is confirmed but has no confirmed amount"))
      | some confirmed =>
        throwIf (confirmed ≠ amountMinor) (.domainError "CONFIRMED_AMOUNT_MISMATCH"
          ("payment " ++ p.id ++ " already confirmed for " ++ moneyString confirmed p.currency ++
            ", cannot re-confirm for " ++ moneyString amountMinor p.currency))
        pure (w, ⟨p, true⟩)
    else
      throwIf (p.state ≠ .initiated ∧ p.state ≠ .pending_confirmation)
        (.domainError "INVALID_TRANSITION"
          ("confirmation applies to pending_confirmation payments, got " ++ toString p.state))
      pure (w.confirmPayment orgID paymentID amountMinor, ⟨p.confirmedFor amountMinor, false⟩)

/-- **What an accepted confirmation does.** It finds the payment confirmed for the same amount and
changes nothing, or it confirms a payment that waits for it. -/
theorem confirm_cases {r : ConfirmResult}
    (h : confirm w orgID paymentID amountMinor currency = .ok (w', r)) :
    ∃ p, paymentByID w orgID paymentID = some p ∧ p.currency = currency ∧
      ((p.state = .confirmed ∧ p.confirmedMinor = some amountMinor ∧ w' = w ∧ r = ⟨p, true⟩) ∨
        ((p.state = .initiated ∨ p.state = .pending_confirmation) ∧
          w' = w.confirmPayment orgID paymentID amountMinor ∧
          r = ⟨p.confirmedFor amountMinor, false⟩)) := by
  simp only [confirm, ok_iff] at h
  obtain ⟨-, h⟩ := h
  split at h
  · cases h
  · rename_i p hp
    simp only [ok_iff, not_not] at h
    obtain ⟨hcur, -, h⟩ := h
    refine ⟨p, hp, hcur, ?_⟩
    split_ifs at h with hconfirmed
    · split at h
      · cases h
      · rename_i confirmed hamount
        simp only [ok_iff, not_not, Prod.mk.injEq] at h
        obtain ⟨rfl, rfl, rfl⟩ := h
        exact .inl ⟨hconfirmed, hamount, rfl, rfl⟩
    · simp only [ok_iff, Prod.mk.injEq] at h
      obtain ⟨hstate, rfl, rfl⟩ := h
      exact .inr ⟨by tauto, rfl, rfl⟩

lemma confirm_frame {r : ConfirmResult}
    (h : confirm w orgID paymentID amountMinor currency = .ok (w', r)) :
    w'.origins = w.origins ∧ w'.journeys = w.journeys ∧ w'.initiations = w.initiations ∧
      w'.keys = w.keys ∧ w'.replays = w.replays := by
  obtain ⟨p, -, -, ⟨-, -, rfl, -⟩ | ⟨-, rfl, -⟩⟩ := confirm_cases h
  · exact ⟨rfl, rfl, rfl, rfl, rfl⟩
  · refine ⟨map_origin_of_eq fun q => ?_, rfl, rfl, rfl, rfl⟩
    split_ifs <;> rfl

lemma confirm_of_waiting (hp : paymentByID w orgID p.id = some p) (hpos : 0 < amountMinor)
    (hcur : p.currency = currency)
    (hstate : p.state = .initiated ∨ p.state = .pending_confirmation) :
    confirm w orgID p.id amountMinor currency =
      .ok (w.confirmPayment orgID p.id amountMinor, ⟨p.confirmedFor amountMinor, false⟩) := by
  have hpos : ¬ amountMinor ≤ 0 := not_le.mpr hpos
  rcases hstate with hstate | hstate <;>
    simp [confirm, do_eq, hpos, hp, hcur, hstate, terminalPaymentStates]

lemma confirm_of_confirmed (hp : paymentByID w orgID p.id = some p) (hpos : 0 < amountMinor)
    (hcur : p.currency = currency) (hstate : p.state = .confirmed)
    (hminor : p.confirmedMinor = some amountMinor) :
    confirm w orgID p.id amountMinor currency = .ok (w, ⟨p, true⟩) := by
  have hpos : ¬ amountMinor ≤ 0 := not_le.mpr hpos
  simp [confirm, do_eq, hpos, hp, hcur, hstate, hminor, terminalPaymentStates]

end Fuatilia.Backend
