import Fuatilia.Scheduler.Dunning
import Fuatilia.Shared.Money

/-!
# Late fees

## Main definitions

* `feeAmountOf`, `accrueLateFee` — the fee of a receivable for a period, and the accrual.

## Implementation notes

Machine integers wrap where the source multiplies them, and the difference of two instants saturates
as a `time.Duration` does. An event is given by its payload; its identifier is drawn when it is
stored. Currencies are those that the money library and the column accept.
-/

namespace Fuatilia.Scheduler

open Backend Fallible

/-! ## Policies -/

/-- The kind of a policy; the configuration may hold any text. -/
inductive LateFeePolicyKind where
  | flat
  | percent
  | other (text : String)
  deriving DecidableEq

def LateFeePolicyKind.text : LateFeePolicyKind → String
  | .flat => "flat"
  | .percent => "percent"
  | .other text => text

structure LateFeePolicy where
  kind : LateFeePolicyKind
  flatMinor : Option ℤ
  percentBps : Option ℤ
  capMinor : Option ℤ
  graceDays : ℤ

structure ResolvedLateFeePolicy where
  kind : LateFeePolicyKind
  flatMinor : Option ℤ
  percentBps : Option ℤ
  capMinor : Option ℤ
  graceDays : ℤ
  deriving DecidableEq

def requireNonNegative (value : ℤ) (code field : String) : Except Failure Unit :=
  throwIf (value < 0)
    (.scheduler code (field ++ " must be a non-negative safe integer, got " ++ toString value))

def validateFormula (policy : LateFeePolicy) : Except Failure Unit :=
  if policy.kind = .flat then
    match policy.flatMinor with
    | none => throw (.scheduler "LATE_FEE_POLICY_FLAT_REQUIRED"
        "a 'flat' late fee policy requires flatMinor")
    | some flat => requireNonNegative flat "LATE_FEE_POLICY_FLAT_INVALID" "flatMinor"
  else
    match policy.percentBps with
    | none => throw (.scheduler "LATE_FEE_POLICY_PERCENT_REQUIRED"
        "a 'percent' late fee policy requires percentBps")
    | some bps => requireNonNegative bps "LATE_FEE_POLICY_BPS_INVALID" "percentBps"

def validateCap (policy : LateFeePolicy) : Except Failure Unit :=
  match policy.capMinor with
  | none => pure ()
  | some cap => requireNonNegative cap "LATE_FEE_POLICY_CAP_INVALID" "capMinor"

def validateLateFeePolicy (policy : LateFeePolicy) : Except Failure ResolvedLateFeePolicy := do
  throwIf (policy.kind ≠ .flat ∧ policy.kind ≠ .percent)
    (.scheduler "LATE_FEE_POLICY_KIND_INVALID"
      ("late fee policy kind must be 'flat' or 'percent', got \"" ++ policy.kind.text ++ "\""))
  throwIf (policy.flatMinor.isSome ∧ policy.percentBps.isSome)
    (.scheduler "LATE_FEE_POLICY_FLAT_AND_PERCENT"
      "a late fee policy is flat OR percent — both formulas supplied")
  validateFormula policy
  validateCap policy
  requireNonNegative policy.graceDays "LATE_FEE_POLICY_GRACE_INVALID" "graceDays"
  -- the formula that the kind does not use is absent by the second check
  pure { kind := policy.kind, flatMinor := policy.flatMinor, percentBps := policy.percentBps,
         capMinor := policy.capMinor, graceDays := policy.graceDays }

variable {policy : LateFeePolicy} {resolved : ResolvedLateFeePolicy}

lemma validateLateFeePolicy_eq_ok (h : validateLateFeePolicy policy = .ok resolved) :
    resolved = ⟨policy.kind, policy.flatMinor, policy.percentBps, policy.capMinor,
      policy.graceDays⟩ ∧ 0 ≤ policy.graceDays := by
  simp only [validateLateFeePolicy, ok_iff, requireNonNegative] at h
  obtain ⟨-, -, _, -, _, -, hgrace, rfl⟩ := h
  exact ⟨rfl, not_lt.mp hgrace⟩

/-! ## Amounts and days -/

def newMoney (amount : ℤ) (currency : Currency) : Except Failure Money :=
  if amount < 0 then
    .error (.money "MONEY_NEGATIVE" ("money cannot be negative, got " ++ toString amount))
  else .ok ⟨amount.toNat, currency⟩

def subtractMoney (m other : Money) : Except Failure Money := do
  throwIf (m.currency ≠ other.currency) (.money "CURRENCY_MISMATCH"
    ("cannot subtract " ++ m.currency.code ++ " with " ++ other.currency.code))
  throwIf (other.amount > m.amount) (.money "UNDERFLOW"
    (toString other.amount ++ " exceeds available " ++ toString m.amount))
  pure ⟨m.amount - other.amount, m.currency⟩

/-- `Time.Sub`: the difference, held within the range of a duration. -/
def timeSub (t u : Instant) : ℤ := max (-2 ^ 63) (min (2 ^ 63 - 1) (t - u))

def wholeDaysLate (dueDate now : Instant) : ℤ := max 0 ((timeSub now dueDate).fdiv dayNanos)

/-- `feeAmountOf`: the product wraps, the division truncates. -/
def feeAmountOf (resolved : ResolvedLateFeePolicy) (balanceMinor : ℤ) : ℤ :=
  let uncapped := if resolved.kind = .flat then resolved.flatMinor.getD 0
    else (int64 (balanceMinor * resolved.percentBps.getD 0)).tdiv 10000
  match resolved.capMinor with
  | some cap => if uncapped > cap then cap else uncapped
  | none => uncapped

def safeInt (amountMinor : ℤ) : Except Failure ℤ :=
  if amountMinor > maxSafeInteger ∨ amountMinor < -maxSafeInteger then
    .error (.scheduler "EVENT_AMOUNT_NOT_SAFE_INTEGER"
      ("amount " ++ toString amountMinor ++ " exceeds the safe-integer range for event payloads"))
  else .ok amountMinor

/-! ## Accruals -/

inductive ReceivableState where
  | draft
  | open
  | partiallyPaid
  | settled
  | writtenOff
  | recovered
  | uncollectible
  | voided
  deriving DecidableEq

def ReceivableState.text : ReceivableState → String
  | .draft => "draft"
  | .open => "open"
  | .partiallyPaid => "partially_paid"
  | .settled => "settled"
  | .writtenOff => "written_off"
  | .recovered => "recovered"
  | .uncollectible => "uncollectible"
  | .voided => "voided"

def ReceivableState.isLive (state : ReceivableState) : Bool :=
  state = .open || state = .partiallyPaid

structure LateFeeReceivableLike where
  id : Uuid
  currency : Currency
  dueDate : Instant
  overdue : Bool
  original : Money
  applied : Money
  state : Option ReceivableState

structure LateFeePosting where
  debit : String
  credit : String

def feePosting : LateFeePosting := ⟨"ar_control", "fee_income"⟩

structure LateFee where
  receivableID : Uuid
  periodKey : String
  amount : Money
  currency : Currency
  policyKind : LateFeePolicyKind
  percentBps : Option ℤ
  flatMinor : Option ℤ
  capMinor : Option ℤ
  balanceMinor : ℤ
  daysLate : ℤ
  graceDays : ℤ
  accruedAt : Instant
  posting : LateFeePosting

structure LateFeeAccrualOptions where
  periodKey : String
  now : Instant
  previouslyAccruedPeriodKeys : List String := []
  previouslyAccruedFees : List LateFee := []

structure LateFeeAccruedPayload where
  receivableID : Uuid
  periodKey : String
  amountMinor : ℤ
  currency : Currency
  policyKind : LateFeePolicyKind
  percentBps : Option ℤ
  flatMinor : Option ℤ
  balanceMinor : ℤ
  daysLate : ℤ
  graceDays : ℤ
  posting : LateFeePosting

inductive LateFeeAccrual where
  | accrued (fee : LateFee) (event : LateFeeAccruedPayload)
  | alreadyAccrued (fee : LateFee)

def LateFeeReceivableLike.mayBeLive (receivable : LateFeeReceivableLike) : Bool :=
  receivable.state.all ReceivableState.isLive

def LateFeeReceivableLike.isOverdue (receivable : LateFeeReceivableLike) (now : Instant) : Bool :=
  receivable.overdue || decide (receivable.dueDate < now)

/-- `chargeableBalance`: zero where nothing can be charged. -/
def chargeableBalance (receivable : LateFeeReceivableLike) (resolved : ResolvedLateFeePolicy)
    (now : Instant) : ℤ :=
  if !receivable.mayBeLive then 0
  else if !receivable.isOverdue now then 0
  else if wholeDaysLate receivable.dueDate now ≤ resolved.graceDays then 0
  else match subtractMoney receivable.original receivable.applied with
    | .ok balance => balance.amount
    | .error _ => 0

def buildFeeRow (receivable : LateFeeReceivableLike) (resolved : ResolvedLateFeePolicy)
    (periodKey : String) (amountMinor balanceMinor daysLate : ℤ) (accruedAt : Instant) :
    Except Failure LateFee := do
  let amount ← newMoney amountMinor receivable.currency
  pure { receivableID := receivable.id, periodKey, amount,
         currency := receivable.currency, policyKind := resolved.kind,
         percentBps := resolved.percentBps, flatMinor := resolved.flatMinor,
         capMinor := resolved.capMinor, balanceMinor, daysLate,
         graceDays := resolved.graceDays, accruedAt, posting := feePosting }

/-- A period that has been charged: the row itself, or a marker computed again. -/
def chargedBefore (receivable : LateFeeReceivableLike) (resolved : ResolvedLateFeePolicy)
    (periodKey : String) (options : LateFeeAccrualOptions) : Option (Except Failure LateFee) :=
  match options.previouslyAccruedFees.find? fun fee => fee.periodKey = periodKey with
  | some fee => some (.ok fee)
  | none =>
    if periodKey ∈ options.previouslyAccruedPeriodKeys then
      let balance := chargeableBalance receivable resolved options.now
      let amount := if 0 < balance then feeAmountOf resolved balance else 0
      some (buildFeeRow receivable resolved periodKey amount balance
        (wholeDaysLate receivable.dueDate options.now) options.now)
    else none

def chargeFresh (receivable : LateFeeReceivableLike) (resolved : ResolvedLateFeePolicy)
    (periodKey : String) (now : Instant) : Except Failure LateFeeAccrual := do
  throwIf (receivable.mayBeLive = false) (.scheduler "LATE_FEE_RECEIVABLE_NOT_LIVE"
    ("late fees accrue on live debts only (open | partially_paid), got " ++
      (receivable.state.map ReceivableState.text).getD ""))
  throwIf (receivable.isOverdue now = false) (.scheduler "LATE_FEE_NOT_OVERDUE"
    ("receivable " ++ receivable.id ++ " is not overdue — no fee accrues"))
  let daysLate := wholeDaysLate receivable.dueDate now
  throwIf (daysLate ≤ resolved.graceDays) (.scheduler "LATE_FEE_WITHIN_GRACE"
    ("receivable " ++ receivable.id ++ " is " ++ toString daysLate ++
      " day(s) late — inside the " ++ toString resolved.graceDays ++ "-day grace window"))
  let balance ← subtractMoney receivable.original receivable.applied
  throwIf (balance.amount = 0) (.scheduler "LATE_FEE_ZERO_BALANCE"
    ("receivable " ++ receivable.id ++ " has no outstanding balance to fee"))
  let fee ← buildFeeRow receivable resolved periodKey (feeAmountOf resolved balance.amount)
    balance.amount daysLate now
  let amountMinor ← safeInt fee.amount.amount
  let balanceMinor ← safeInt balance.amount
  pure (.accrued fee
    { receivableID := receivable.id, periodKey, amountMinor,
      currency := receivable.currency, policyKind := resolved.kind,
      percentBps := resolved.percentBps, flatMinor := resolved.flatMinor,
      balanceMinor, daysLate, graceDays := resolved.graceDays,
      posting := feePosting })

def accrueLateFee (receivable : LateFeeReceivableLike) (policy : LateFeePolicy)
    (options : LateFeeAccrualOptions) : Except Failure LateFeeAccrual := do
  let resolved ← validateLateFeePolicy policy
  let periodKey := trimSpace options.periodKey
  throwIf (periodKey = "") (.scheduler "LATE_FEE_PERIOD_KEY_REQUIRED"
    "a late fee accrual requires a non-blank periodKey (idempotency scope)")
  match chargedBefore receivable resolved periodKey options with
  | some fee => fee.map .alreadyAccrued
  | none => chargeFresh receivable resolved periodKey options.now

variable {receivable : LateFeeReceivableLike}

lemma accrueLateFee_fresh {periodKey : String} {now : Instant}
    (hpolicy : validateLateFeePolicy policy = .ok resolved)
    (htrim : trimSpace periodKey = periodKey) (hkey : periodKey ≠ "") :
    accrueLateFee receivable policy { periodKey, now } =
      chargeFresh receivable resolved periodKey now := by
  have hrequired : throwIf (periodKey = "") (Failure.scheduler "LATE_FEE_PERIOD_KEY_REQUIRED"
      "a late fee accrual requires a non-blank periodKey (idempotency scope)") = .ok () :=
    throwIf_eq_ok.mpr hkey
  simp only [accrueLateFee, hpolicy, htrim, hrequired, chargedBefore, List.find?_nil,
    List.not_mem_nil, if_false]
  rfl

lemma accrueLateFee_accrued {options : LateFeeAccrualOptions} {fee : LateFee}
    {event : LateFeeAccruedPayload}
    (h : accrueLateFee receivable policy options = .ok (.accrued fee event)) :
    event.receivableID = receivable.id ∧ event.periodKey = trimSpace options.periodKey := by
  obtain ⟨resolved, -, h⟩ := bind_eq_ok.mp h
  obtain ⟨-, h⟩ := seq_eq_ok.mp h
  split at h
  · obtain ⟨_, -, hfee⟩ := map_eq_ok.mp h
    cases hfee
  · simp only [chargeFresh, ok_iff, LateFeeAccrual.accrued.injEq] at h
    obtain ⟨_, -, _, -, _, -, balance, -, _, -, row, -, amountMinor, -, balanceMinor, -, -, rfl⟩ :=
      h
    exact ⟨rfl, rfl⟩

end Fuatilia.Scheduler
