import Fuatilia.Backend.Payments
import Fuatilia.Foundations.Processes

/-!
# The callbacks of the payment rail

The rail reports money by callbacks, at least once each: a confirmation of a customer's own payment
(C2B) at the URL of an organisation, and the result of a push to a customer's phone (STK) at one URL
for all. Every call to the database commits on its own, other deliveries run in between, and a
delivery may die between any two calls.

## Main definitions

* `intakeCallback` — claim the journey in a ledger that all organisations share.
* `Delivery`, `advance`, `rail` — a delivery call by call, and all of them as processes.

## Main results

* `intakeCallback_cases`, `advance_cases` — what a claim and a call can do.

## Implementation notes

A read that nothing else can change in between is taken together with the call after it. The codes
and times of failures are read by nothing here and left out, and so is the read that only fills the
answer of a failure. An acknowledgement is noted under the journey it answers.
-/

namespace Fuatilia.Backend

open Fallible

/-! ## What the parser lets through -/

/-- `^[A-Z0-9]{10,22}$`. -/
def transIDPattern (s : String) : Bool :=
  10 ≤ s.length && s.length ≤ 22 && s.toList.all fun c => c.isUpper || c.isDigit

/-- `^ws_CO_[A-Za-z0-9]{6,24}$`. -/
def checkoutIDPattern (s : String) : Bool :=
  startsWith s "ws_CO_" && 12 ≤ s.length && s.length ≤ 30 &&
    (s.toList.drop 6).all Char.isAlphanum

structure C2bCallback where
  transID : String
  amountMinor : ℤ
  declaredRefs : List String
  transID_shape : transIDPattern transID = true
  deriving DecidableEq

/-- An STK result. A success carries a receipt and the amount that was paid. -/
structure StkCallback where
  checkoutRequestID : String
  success : Bool
  receiptNumber : String
  paidMinor : ℤ
  checkout_shape : checkoutIDPattern checkoutRequestID = true
  receipt_shape : if success then transIDPattern receiptNumber = true else receiptNumber = ""
  deriving DecidableEq

def C2bCallback.journeyKey (cb : C2bCallback) : String := "c2b:" ++ cb.transID

def StkCallback.journeyKey (cb : StkCallback) : String := "stk:" ++ cb.checkoutRequestID

def c2bPaymentKey (transID : String) : String := "daraja:c2b:" ++ transID

def paymentIdempotencyKey (checkoutRequestID : String) : String :=
  "daraja:stk:" ++ checkoutRequestID

def StkCallback.receiptNumberOrCheckout (cb : StkCallback) : String :=
  if cb.receiptNumber ≠ "" then cb.receiptNumber else cb.checkoutRequestID

/-! ## The ledger of journeys -/

inductive Outcome where
  | accepted | duplicate

/-- Claim a journey: the amount recorded by an earlier claim, if there is one. The key is unique
over all organisations. -/
def claimJourney (w : World) (orgID : Uuid) (journeyKey : String) (amountMinor : ℤ) :
    Except Refusal (World × Option ℤ) := do
  throwIf (amountMinor ≤ 0) (.sqlError "ck_daraja_journey_amount_pos")
  match w.journeys.find? fun row => row.journeyKey = journeyKey with
  | some row => pure (w, some row.amountMinor)
  | none => pure ({ w with journeys := w.journeys ++ [⟨journeyKey, orgID, amountMinor⟩] }, none)

def intakeCallback (w : World) (orgID : Uuid) (journeyKey : String) (amountMinor : ℤ) :
    Except Refusal (World × Outcome) :=
  match claimJourney w orgID journeyKey amountMinor with
  | .error _ => .error (.domainError "DARAJA_LEDGER_UNAVAILABLE"
      "journey ledger unavailable — refusing to process blind (fail closed)")
  | .ok (w', none) => .ok (w', .accepted)
  | .ok (w', some prior) =>
    if prior = amountMinor then .ok (w', .duplicate)
    else .error (.domainError "DARAJA_DUPLICATE_AMOUNT_MISMATCH"
      "journey replayed with different money — tampering, not a retry")

/-- **What an accepted claim does.** The journey was free and is recorded for the organisation, or
it is on record with the same money, for whatever organisation, and nothing changes. -/
theorem intakeCallback_cases {w w' : World} {orgID : Uuid} {journeyKey : String} {amountMinor : ℤ}
    {outcome : Outcome} (h : intakeCallback w orgID journeyKey amountMinor = .ok (w', outcome)) :
    (outcome = .accepted ∧ (∀ row ∈ w.journeys, row.journeyKey ≠ journeyKey) ∧
        w' = { w with journeys := w.journeys ++ [⟨journeyKey, orgID, amountMinor⟩] }) ∨
      (outcome = .duplicate ∧ w' = w ∧
        ∃ row ∈ w.journeys, row.journeyKey = journeyKey ∧ row.amountMinor = amountMinor) := by
  simp only [intakeCallback] at h
  split at h
  · cases h
  · rename_i hclaim
    simp only [claimJourney, ok_iff] at hclaim
    obtain ⟨-, hclaim⟩ := hclaim
    split at hclaim
    · simp [pure_eq_ok] at hclaim
    · rename_i hnone
      simp only [pure_eq_ok, Prod.mk.injEq, and_true] at hclaim
      simp only [Except.ok.injEq, Prod.mk.injEq] at h
      obtain ⟨rfl, rfl⟩ := h
      refine .inl ⟨rfl, fun row hrow => ?_, hclaim⟩
      simpa using List.find?_eq_none.mp hnone row hrow
  · rename_i prior hclaim
    simp only [claimJourney, ok_iff] at hclaim
    obtain ⟨-, hclaim⟩ := hclaim
    split at hclaim
    · rename_i row hrow
      simp only [pure_eq_ok, Prod.mk.injEq, Option.some.injEq] at hclaim
      obtain ⟨rfl, rfl⟩ := hclaim
      split_ifs at h with hsame
      simp only [Except.ok.injEq, Prod.mk.injEq] at h
      obtain ⟨rfl, rfl⟩ := h
      obtain ⟨hmem, hkey⟩ := of_find hrow
      exact .inr ⟨rfl, rfl, row, hmem, hkey, hsame⟩
    · simp [pure_eq_ok] at hclaim

/-! ## The parts of the settlement of an STK result -/

def stkInitiationByCheckout (w : World) (checkoutRequestID : String) : Option StkInitiationRow :=
  w.initiations.find? fun row => row.checkoutRequestID = checkoutRequestID

def routeStkResult (w : World) (cb : StkCallback) : Except Refusal StkInitiationRow :=
  match stkInitiationByCheckout w cb.checkoutRequestID with
  | none => .error (.domainError "STK_STATE_INVALID" ("checkout " ++ cb.checkoutRequestID ++
      " has no initiation record — the callback routes to nothing"))
  | some row => .ok row

def checkStkResult (w : World) (orgID : Uuid) (cb : StkCallback) :
    Except Refusal StkInitiationRow :=
  match stkInitiationByCheckout w cb.checkoutRequestID with
  | none => .error (.domainError "STK_STATE_INVALID" ("no initiation record for checkout " ++
      cb.checkoutRequestID ++ " — the callback routes to nothing"))
  | some initiation => do
    throwIf (initiation.orgID ≠ orgID) (.domainError "STK_STATE_INVALID"
      ("checkout " ++ cb.checkoutRequestID ++ " does not belong to this org"))
    throwIf (cb.success ∧ cb.paidMinor ≠ initiation.requestedMinor)
      (.domainError "STK_AMOUNT_MISMATCH" ("success metadata carries different money than the " ++
        "attempt initiated — refusing to confirm untrusted money (K1)"))
    throwIf (initiation.state ≠ .initiated) (.domainError "STK_STATE_INVALID"
      ("initiation for checkout " ++ cb.checkoutRequestID ++ " is already " ++
        toString initiation.state))
    pure initiation

/-- The intake of an STK result: the money is that of the push. -/
def stkIntakeCommand (cb : StkCallback) (initiation : StkInitiationRow) : IntakeCommand :=
  { channel := "stk"
    externalRef := cb.receiptNumberOrCheckout
    idempotencyKey := paymentIdempotencyKey cb.checkoutRequestID
    amountMinor := initiation.requestedMinor
    currency := initiation.currency
    customerID := initiation.customerID
    declaredRefs := [] }

def c2bIntakeCommand (cb : C2bCallback) : IntakeCommand :=
  { channel := "c2b"
    externalRef := cb.transID
    idempotencyKey := c2bPaymentKey cb.transID
    amountMinor := cb.amountMinor
    currency := "KES"
    customerID := none
    declaredRefs := cb.declaredRefs }

def PaymentRow.asFailed (p : PaymentRow) : PaymentRow :=
  { p with
    state := .failed
    confirmedMinor := none
    shape := by simp [confirmedFamilyStates] }

def failPayment (w : World) (orgID paymentID : Uuid) : World :=
  { w with
    payments := w.payments.map fun p =>
      if p.orgID = orgID ∧ p.id = paymentID ∧
        (p.state = .initiated ∨ p.state = .pending_confirmation) then p.asFailed else p }

def resolveStkInitiation (w : World) (orgID : Uuid) (checkoutRequestID : String)
    (state : StkState) : World :=
  { w with
    initiations := w.initiations.map fun row =>
      if row.orgID = orgID ∧ row.checkoutRequestID = checkoutRequestID ∧ row.state = .initiated
      then { row with state } else row }

/-! ## The deliveries -/

/-- What the deliveries share: the tables, the organisations, and the journeys whose callbacks were
acknowledged. -/
structure Rail where
  tables : World
  orgs : List Uuid
  acks : List String

/-- A request: a callback is posted, or the process restarts and forgets what it remembered. A
delivery that makes a payment gives it the identifier `id`. -/
inductive RailRequest where
  | c2b (orgID : Uuid) (cb : C2bCallback) (id : Uuid)
  | stk (cb : StkCallback) (id : Uuid)
  | restart

inductive Delivery where
  /-- C2B: the claim of the journey. -/
  | c2bPosted (orgID : Uuid) (cb : C2bCallback) (id : Uuid)
  /-- C2B: the intake. -/
  | c2bClaimed (orgID : Uuid) (cb : C2bCallback) (id : Uuid)
  /-- C2B: the confirmation. -/
  | c2bIntaken (orgID : Uuid) (cb : C2bCallback) (paymentID : Uuid)
  /-- STK: the read that finds the organisation. -/
  | stkPosted (cb : StkCallback) (id : Uuid)
  /-- STK: the claim of the journey. -/
  | stkRouted (cb : StkCallback) (id : Uuid) (initiation : StkInitiationRow)
  /-- STK: the second read of the push, for a journey that was claimed before. -/
  | stkDuplicate (cb : StkCallback) (id : Uuid) (initiation : StkInitiationRow)
  /-- STK: the checks of the settlement. -/
  | stkClaimed (cb : StkCallback) (id : Uuid) (initiation : StkInitiationRow)
  /-- STK: the intake. -/
  | stkChecked (cb : StkCallback) (id : Uuid) (initiation : StkInitiationRow)
  /-- STK: the confirmation of a success, or the failure of the payment. -/
  | stkIntaken (cb : StkCallback) (initiation : StkInitiationRow) (paymentID : Uuid)
  /-- STK: the resolution of the push. -/
  | stkSettled (cb : StkCallback) (initiation : StkInitiationRow) (paymentID : Uuid)
  | restarting
  deriving DecidableEq

def Rail.proceed {α : Type} (s : Rail) (result : Except Refusal α)
    (next : α → Rail × Option Delivery) : Rail × Option Delivery :=
  match result with
  | .error _ => (s, none)
  | .ok a => next a

def Rail.ack (s : Rail) (w : World) (journeyKey : String) : Rail × Option Delivery :=
  ({ s with tables := w, acks := s.acks ++ [journeyKey] }, none)

def Rail.resume (s : Rail) (w : World) (d : Delivery) : Rail × Option Delivery :=
  ({ s with tables := w }, some d)

def callbackOrg (s : Rail) (orgID : Uuid) : Except Refusal Unit :=
  throwIf (orgID ∉ s.orgs) (.domainError "DARAJA_CALLBACK_ORG_UNKNOWN"
    ("org " ++ orgID ++ " does not exist — the callback routes to nothing"))

def advance (s : Rail) : Delivery → Rail × Option Delivery
  | .c2bPosted orgID cb id =>
    s.proceed (callbackOrg s orgID) fun _ =>
    s.proceed (intakeCallback s.tables orgID cb.journeyKey cb.amountMinor) fun (w, _) =>
    s.resume w (.c2bClaimed orgID cb id)
  -- settled whether the journey is new or not, and whoever claimed it
  | .c2bClaimed orgID cb id =>
    s.proceed (intake s.tables orgID (c2bIntakeCommand cb) id) fun (w, r) =>
    s.resume w (.c2bIntaken orgID cb r.payment.id)
  | .c2bIntaken orgID cb paymentID =>
    s.proceed (confirm s.tables orgID paymentID cb.amountMinor "KES") fun (w, _) =>
    s.ack w cb.journeyKey
  | .stkPosted cb id =>
    s.proceed (routeStkResult s.tables cb) fun row =>
    s.resume s.tables (.stkRouted cb id row)
  | .stkRouted cb id row =>
    s.proceed (intakeCallback s.tables row.orgID cb.journeyKey row.requestedMinor) fun (w, o) =>
    match o with
    | .accepted => s.resume w (.stkClaimed cb id row)
    | .duplicate => s.resume w (.stkDuplicate cb id row)
  | .stkDuplicate cb id row =>
    s.proceed (routeStkResult s.tables cb) fun fresh =>
    if fresh.state ≠ .initiated then s.ack s.tables cb.journeyKey
    else s.resume s.tables (.stkClaimed cb id row)
  | .stkClaimed cb id row =>
    s.proceed (checkStkResult s.tables row.orgID cb) fun initiation =>
    s.resume s.tables (.stkChecked cb id initiation)
  -- a duplicate of the intake ends the delivery, whatever became of the payment
  | .stkChecked cb id initiation =>
    s.proceed (intake s.tables initiation.orgID (stkIntakeCommand cb initiation) id) fun (w, r) =>
    if r.duplicate then s.ack w cb.journeyKey
    else s.resume w (.stkIntaken cb initiation r.payment.id)
  | .stkIntaken cb initiation paymentID =>
    if cb.success then
      s.proceed (confirm s.tables initiation.orgID paymentID initiation.requestedMinor
        initiation.currency) fun (w, _) =>
      s.resume w (.stkSettled cb initiation paymentID)
    else s.resume (failPayment s.tables initiation.orgID paymentID)
      (.stkSettled cb initiation paymentID)
  | .stkSettled cb initiation _ =>
    s.ack (resolveStkInitiation s.tables initiation.orgID cb.checkoutRequestID
      (if cb.success then .reconciled else .failed)) cb.journeyKey
  | .restarting => ({ s with tables := { s.tables with replays := [] } }, none)

def rail : Processes.System Rail RailRequest Delivery where
  start
    | .c2b orgID cb id => .c2bPosted orgID cb id
    | .stk cb id => .stkPosted cb id
    | .restart => .restarting
  advance := advance

/-! ## What one call does -/

inductive Call (s : Rail) : Delivery → Rail × Option Delivery → Prop where
  | c2bClaim {orgID : Uuid} {cb : C2bCallback} {id : Uuid} {w : World} {o : Outcome}
      (h : intakeCallback s.tables orgID cb.journeyKey cb.amountMinor = .ok (w, o)) :
      Call s (.c2bPosted orgID cb id) (s.resume w (.c2bClaimed orgID cb id))
  | c2bIntake {orgID : Uuid} {cb : C2bCallback} {id : Uuid} {w : World} {r : IntakeResult}
      (h : intake s.tables orgID (c2bIntakeCommand cb) id = .ok (w, r)) :
      Call s (.c2bClaimed orgID cb id) (s.resume w (.c2bIntaken orgID cb r.payment.id))
  | c2bConfirm {orgID : Uuid} {cb : C2bCallback} {paymentID : Uuid} {w : World}
      {r : ConfirmResult} (h : confirm s.tables orgID paymentID cb.amountMinor "KES" = .ok (w, r)) :
      Call s (.c2bIntaken orgID cb paymentID) (s.ack w cb.journeyKey)
  | stkRoute {cb : StkCallback} {id : Uuid} {row : StkInitiationRow}
      (h : stkInitiationByCheckout s.tables cb.checkoutRequestID = some row) :
      Call s (.stkPosted cb id) (s.resume s.tables (.stkRouted cb id row))
  | stkClaim {cb : StkCallback} {id : Uuid} {row : StkInitiationRow} {w : World} {d : Delivery}
      {o : Outcome}
      (h : intakeCallback s.tables row.orgID cb.journeyKey row.requestedMinor = .ok (w, o))
      (hd : d = .stkClaimed cb id row ∨ d = .stkDuplicate cb id row) :
      Call s (.stkRouted cb id row) (s.resume w d)
  | stkAckSettled {cb : StkCallback} {id : Uuid} {row fresh : StkInitiationRow}
      (h : stkInitiationByCheckout s.tables cb.checkoutRequestID = some fresh)
      (hstate : fresh.state ≠ .initiated) :
      Call s (.stkDuplicate cb id row) (s.ack s.tables cb.journeyKey)
  | stkRecover {cb : StkCallback} {id : Uuid} {row : StkInitiationRow} :
      Call s (.stkDuplicate cb id row) (s.resume s.tables (.stkClaimed cb id row))
  | stkCheck {cb : StkCallback} {id : Uuid} {row initiation : StkInitiationRow}
      (h : checkStkResult s.tables row.orgID cb = .ok initiation) :
      Call s (.stkClaimed cb id row) (s.resume s.tables (.stkChecked cb id initiation))
  | stkAckDuplicate {cb : StkCallback} {id : Uuid} {row : StkInitiationRow} {w : World}
      {r : IntakeResult} (h : intake s.tables row.orgID (stkIntakeCommand cb row) id = .ok (w, r))
      (hdup : r.duplicate = true) : Call s (.stkChecked cb id row) (s.ack w cb.journeyKey)
  | stkIntake {cb : StkCallback} {id : Uuid} {row : StkInitiationRow} {w : World}
      {r : IntakeResult} (h : intake s.tables row.orgID (stkIntakeCommand cb row) id = .ok (w, r))
      (hfresh : r.duplicate = false) :
      Call s (.stkChecked cb id row) (s.resume w (.stkIntaken cb row r.payment.id))
  | stkConfirm {cb : StkCallback} {row : StkInitiationRow} {paymentID : Uuid} {w : World}
      {r : ConfirmResult} (hsuccess : cb.success = true)
      (h : confirm s.tables row.orgID paymentID row.requestedMinor row.currency = .ok (w, r)) :
      Call s (.stkIntaken cb row paymentID) (s.resume w (.stkSettled cb row paymentID))
  | stkFail {cb : StkCallback} {row : StkInitiationRow} {paymentID : Uuid}
      (hfailure : cb.success = false) :
      Call s (.stkIntaken cb row paymentID)
        (s.resume (failPayment s.tables row.orgID paymentID) (.stkSettled cb row paymentID))
  | stkResolve {cb : StkCallback} {row : StkInitiationRow} {paymentID : Uuid} :
      Call s (.stkSettled cb row paymentID)
        (s.ack (resolveStkInitiation s.tables row.orgID cb.checkoutRequestID
          (if cb.success then .reconciled else .failed)) cb.journeyKey)
  | restart : Call s .restarting ({ s with tables := { s.tables with replays := [] } }, none)

lemma routeStkResult_eq_ok {w : World} {cb : StkCallback} {row : StkInitiationRow} :
    routeStkResult w cb = .ok row ↔ stkInitiationByCheckout w cb.checkoutRequestID = some row := by
  cases h : stkInitiationByCheckout w cb.checkoutRequestID <;> simp [routeStkResult, h]

lemma Rail.proceed_cases {α : Type} {s : Rail} {d : Delivery} {result : Except Refusal α}
    {next : α → Rail × Option Delivery}
    (h : ∀ a, result = .ok a → next a = (s, none) ∨ Call s d (next a)) :
    s.proceed result next = (s, none) ∨ Call s d (s.proceed result next) := by
  cases result with
  | error _ => exact .inl rfl
  | ok a => exact h a rfl

theorem advance_cases (s : Rail) (d : Delivery) :
    advance s d = (s, none) ∨ Call s d (advance s d) := by
  cases d with simp only [advance]
  | c2bPosted orgID cb id =>
    exact Rail.proceed_cases fun _ _ => Rail.proceed_cases fun _ h => .inr (.c2bClaim h)
  | c2bClaimed orgID cb id => exact Rail.proceed_cases fun _ h => .inr (.c2bIntake h)
  | c2bIntaken orgID cb paymentID => exact Rail.proceed_cases fun _ h => .inr (.c2bConfirm h)
  | stkPosted cb id =>
    exact Rail.proceed_cases fun _ h => .inr (.stkRoute (routeStkResult_eq_ok.mp h))
  | stkRouted cb id row =>
    refine Rail.proceed_cases fun a h => ?_
    obtain ⟨w, o⟩ := a
    cases o with
    | accepted => exact .inr (.stkClaim h (.inl rfl))
    | duplicate => exact .inr (.stkClaim h (.inr rfl))
  | stkDuplicate cb id row =>
    refine Rail.proceed_cases fun fresh h => ?_
    by_cases hstate : fresh.state ≠ .initiated
    · rw [if_pos hstate]
      exact .inr (.stkAckSettled (routeStkResult_eq_ok.mp h) hstate)
    · rw [if_neg hstate]
      exact .inr .stkRecover
  | stkClaimed cb id row => exact Rail.proceed_cases fun _ h => .inr (.stkCheck h)
  | stkChecked cb id row =>
    refine Rail.proceed_cases fun a h => ?_
    obtain ⟨w, r⟩ := a
    by_cases hdup : r.duplicate = true
    · simp only [hdup, if_true]
      exact .inr (.stkAckDuplicate h hdup)
    · simp only [hdup, Bool.false_eq_true, if_false]
      exact .inr (.stkIntake h (Bool.eq_false_iff.mpr hdup))
  | stkIntaken cb row paymentID =>
    by_cases hsuccess : cb.success = true
    · rw [if_pos hsuccess]
      exact Rail.proceed_cases fun _ h => .inr (.stkConfirm hsuccess h)
    · rw [if_neg hsuccess]
      exact .inr (.stkFail (Bool.eq_false_iff.mpr hsuccess))
  | stkSettled cb row paymentID => exact .inr .stkResolve
  | restarting => exact .inr .restart

lemma origins_failPayment (w : World) (orgID paymentID : Uuid) :
    (failPayment w orgID paymentID).origins = w.origins := by
  refine map_origin_of_eq fun p => ?_
  split_ifs <;> rfl

variable {s : Rail} {d : Delivery} {x : Rail × Option Delivery}

/-- **The ledger over one call.** It stays, or gets one journey more, which was free. -/
theorem Call.journeys (h : Call s d x) :
    x.1.tables.journeys = s.tables.journeys ∨
      ∃ row : JourneyRow, (∀ j ∈ s.tables.journeys, j.journeyKey ≠ row.journeyKey) ∧
        x.1.tables.journeys = s.tables.journeys ++ [row] := by
  cases h with
  | c2bClaim h | stkClaim h =>
    rcases intakeCallback_cases h with ⟨-, hfree, rfl⟩ | ⟨-, rfl, -⟩
    · exact .inr ⟨_, hfree, rfl⟩
    · exact .inl rfl
  | c2bIntake h | stkAckDuplicate h | stkIntake h => exact .inl (intake_frame h).1
  | c2bConfirm h | stkConfirm _ h => exact .inl (confirm_frame h).2.1
  | stkRoute | stkAckSettled | stkRecover | stkCheck | stkFail | stkResolve | restart =>
    exact .inl rfl

/-- **The payments over one call.** They stay, whatever becomes of their states, or an intake adds
one. -/
theorem Call.origins (h : Call s d x) :
    x.1.tables.origins = s.tables.origins ∨
      (∃ orgID cb id, d = .c2bClaimed orgID cb id ∧ x.1.tables.origins =
        s.tables.origins ++ [((c2bIntakeCommand cb).row orgID id).origin]) ∨
      ∃ cb id row, d = .stkChecked cb id row ∧ x.1.tables.origins =
        s.tables.origins ++ [((stkIntakeCommand cb row).row row.orgID id).origin] := by
  cases h with
  | c2bClaim h | stkClaim h =>
    rcases intakeCallback_cases h with ⟨-, -, rfl⟩ | ⟨-, rfl, -⟩ <;> exact .inl rfl
  | @c2bIntake orgID cb id _ _ h =>
    rcases intake_origins h with hsame | ⟨-, hnew⟩
    · exact .inl hsame
    · exact .inr (.inl ⟨orgID, cb, id, rfl, hnew⟩)
  | @stkAckDuplicate cb id row _ _ h | @stkIntake cb id row _ _ h =>
    rcases intake_origins h with hsame | ⟨-, hnew⟩
    · exact .inl hsame
    · exact .inr (.inr ⟨cb, id, row, rfl, hnew⟩)
  | c2bConfirm h | stkConfirm _ h => exact .inl (confirm_frame h).1
  | stkFail => exact .inl (origins_failPayment _ _ _)
  | stkRoute | stkAckSettled | stkRecover | stkCheck | stkResolve | restart => exact .inl rfl

/-! ## Texts of the rail -/

lemma isBlank_of_isAlphanum {c : Char} (h : c.isAlphanum = true) : isBlank c = false := by
  by_contra hblank
  simp only [isBlank, Bool.not_eq_false, Bool.or_eq_true, beq_iff_eq] at hblank
  rcases hblank with ((rfl | rfl) | rfl) | rfl <;> revert h <;> decide

lemma isBlank_of_transIDPattern {s : String} (h : transIDPattern s = true) :
    ∀ c ∈ s.toList, isBlank c = false := by
  simp only [transIDPattern, Bool.and_eq_true, List.all_eq_true, Bool.or_eq_true] at h
  intro c hc
  refine isBlank_of_isAlphanum ?_
  rcases h.2 c hc with hupper | hdigit <;> simp [Char.isAlphanum, Char.isAlpha, *]

lemma isBlank_of_checkoutIDPattern {s : String} (h : checkoutIDPattern s = true) :
    ∀ c ∈ s.toList, isBlank c = false := by
  simp only [checkoutIDPattern, Bool.and_eq_true, List.all_eq_true] at h
  obtain ⟨⟨⟨hstart, -⟩, -⟩, hrest⟩ := h
  exact forall_of_startsWith hstart (by decide) fun c hc => isBlank_of_isAlphanum (hrest c hc)

lemma trim_append_eq_self {mark s : String} (hmark : mark.toList.any isBlank = false)
    (hs : ∀ c ∈ s.toList, isBlank c = false) : trim (mark ++ s) = mark ++ s := by
  refine trim_eq_self fun c hc => ?_
  rw [String.toList_append] at hc
  rcases List.mem_append.mp hc with hfirst | hlater
  · simpa using List.any_eq_false.mp hmark c hfirst
  · exact hs c hlater

/-! The texts that the callbacks hand to the intake are trimmed. -/

lemma C2bCallback.trim_transID (cb : C2bCallback) : trim cb.transID = cb.transID :=
  trim_eq_self (isBlank_of_transIDPattern cb.transID_shape)

lemma C2bCallback.trim_paymentKey (cb : C2bCallback) :
    trim (c2bPaymentKey cb.transID) = c2bPaymentKey cb.transID :=
  trim_append_eq_self (by decide) (isBlank_of_transIDPattern cb.transID_shape)

lemma StkCallback.trim_paymentKey (cb : StkCallback) :
    trim (paymentIdempotencyKey cb.checkoutRequestID) =
      paymentIdempotencyKey cb.checkoutRequestID :=
  trim_append_eq_self (by decide) (isBlank_of_checkoutIDPattern cb.checkout_shape)

lemma StkCallback.trim_reference (cb : StkCallback) :
    trim cb.receiptNumberOrCheckout = cb.receiptNumberOrCheckout := by
  rw [StkCallback.receiptNumberOrCheckout]
  split_ifs with hreceipt
  · have hshape := cb.receipt_shape
    split_ifs at hshape with hsuccess
    · exact trim_eq_self (isBlank_of_transIDPattern hshape)
    · exact absurd hshape hreceipt
  · exact trim_eq_self (isBlank_of_checkoutIDPattern cb.checkout_shape)

lemma StkCallback.receiptNumberOrCheckout_ne (cb : StkCallback) :
    cb.receiptNumberOrCheckout ≠ "" := by
  rw [StkCallback.receiptNumberOrCheckout]
  split_ifs with hreceipt
  · exact hreceipt
  · intro hcheckout
    have hshape := cb.checkout_shape
    simp [hcheckout, checkoutIDPattern] at hshape

/-! The two kinds of callbacks never share a key, and an STK result shares its key with results of
the same checkout only. -/

lemma paymentIdempotencyKey_injective {a b : String}
    (h : paymentIdempotencyKey a = paymentIdempotencyKey b) : a = b :=
  (String.append_right_inj "daraja:stk:").mp h

lemma c2bPaymentKey_ne (a b : String) : c2bPaymentKey a ≠ paymentIdempotencyKey b := by
  intro h
  have hlist := congrArg String.toList h
  simp [c2bPaymentKey, paymentIdempotencyKey] at hlist

lemma StkCallback.journeyKey_injective {a b : StkCallback} (h : a.journeyKey = b.journeyKey) :
    a.checkoutRequestID = b.checkoutRequestID :=
  (String.append_right_inj "stk:").mp h

lemma C2bCallback.journeyKey_ne (a : C2bCallback) (b : StkCallback) :
    a.journeyKey ≠ b.journeyKey := by
  intro h
  have hlist := congrArg String.toList h
  simp [C2bCallback.journeyKey, StkCallback.journeyKey] at hlist

end Fuatilia.Backend
