import Fuatilia.Crossborder.RateTable

/-!
# Corridors, fees and quotes

A corridor says how money may move between two currencies.

## Main definitions

* `Corridor`, `computeFeeBreakdown` — a corridor and its fees.
* `quote`, `assertQuoteUsable` — an offer at a frozen rate and fee, and its expiry.

## Main results

* `Crossborder.assertQuoteUsable_eq_ok` — a quote with an expiry is usable strictly before it.
-/

namespace Fuatilia.Crossborder

open Fallible

/-! ## Fees -/

structure FeeSchedule where
  flatMinor : ℤ
  bps : ℤ

structure FeeBreakdown where
  amountMinor : ℤ
  flatMinor : ℤ
  bpsMinor : ℤ
  totalMinor : ℤ
  bps : ℤ

/-- Round `p / q` to the nearest integer, exact halves to the even neighbour; `bigint` division
truncates. -/
def divideBankers (p q : ℤ) : ℤ :=
  let whole := p.tdiv q
  let twice := p.tmod q * 2
  if twice > q then whole + 1
  else if twice < q then whole
  else if whole.tmod 2 = 0 then whole
  else whole + 1

def toMinorUnits (value : MoneyInput) (field : String) : Except Thrown ℤ :=
  match value with
  | .number x =>
    match x.safeInteger with
    | none => .error (.domainError "MONEY_NOT_INTEGER"
        s!"{field} must be an integer minor unit, got {x.text}" [("field", field),
          ("value", x.text)])
    | some n =>
      if n < 0 then .error (.domainError "MONEY_NEGATIVE"
        s!"{field} cannot be negative, got {x.text}" [("field", field), ("value", x.text)])
      else .ok n
  | .bigint n =>
    if n < 0 then .error (.domainError "MONEY_NEGATIVE"
      s!"{field} cannot be negative, got {n}" [("field", field), ("value", toString n)])
    else .ok n

def computeFeeBreakdown (schedule : FeeSchedule) (amountMinor : MoneyInput) :
    Except Thrown FeeBreakdown := do
  let amount ← toMinorUnits amountMinor "amountMinor"
  let bpsMinor := divideBankers (amount * schedule.bps) 10000
  pure { amountMinor := amount, flatMinor := schedule.flatMinor, bpsMinor,
         totalMinor := schedule.flatMinor + bpsMinor, bps := schedule.bps }

/-! ## Corridors -/

inductive CorridorStatus where
  | active
  | suspended
  deriving DecidableEq

structure Corridor where
  corridorId : Uuid
  orgId : Uuid
  sourceCurrency : Currency
  destinationCurrency : Currency
  minAmountMinor : ℤ
  maxAmountMinor : ℤ
  rails : List String
  feeSchedule : FeeSchedule
  status : CorridorStatus
  registeredAt : String
  suspendedAt : Option String

def assertUuidShape (value : Uuid) (field code : String) : Except Thrown Unit :=
  throwIf (!isCanonicalUuid value)
    (.domainError code s!"{field} must be a canonical UUID, got {value}" [("field", field),
      ("value", value)])

def resolveCorridor (corridors : List Corridor) (corridorId : Uuid) : Except Thrown Corridor :=
  match corridors.find? (·.corridorId = corridorId) with
  | some corridor => .ok corridor
  | none => .error (.domainError "CORRIDOR_UNKNOWN" s!"no corridor registered with id {corridorId}"
      [("corridorId", corridorId)])

def assertCorridorLive (corridor : Corridor) : Except Thrown Unit :=
  let pair := s!"{corridor.sourceCurrency}→{corridor.destinationCurrency}"
  throwIf (corridor.status ≠ .active) (.domainError "CORRIDOR_SUSPENDED"
    s!"corridor {corridor.corridorId} ({pair}) is suspended" [("corridorId", corridor.corridorId)])

def assertAmountWithinCorridor (corridor : Corridor) (amountMinor : MoneyInput) :
    Except Thrown ℤ := do
  let amount ← toMinorUnits amountMinor "sourceAmountMinor"
  let bounds := s!"[{corridor.minAmountMinor}, {corridor.maxAmountMinor}]"
  throwIf (amount < corridor.minAmountMinor ∨ amount > corridor.maxAmountMinor)
    (.domainError "AMOUNT_OUT_OF_BOUNDS"
      s!"amount {amount} is outside corridor {corridor.corridorId} bounds {bounds}"
      [("corridorId", corridor.corridorId), ("amountMinor", toString amount),
        ("minAmountMinor", toString corridor.minAmountMinor),
        ("maxAmountMinor", toString corridor.maxAmountMinor)])
  pure amount

/-! ## Quotes -/

structure AppliedRate where
  rowId : Uuid
  source : String
  numerator : ℤ
  denominator : ℤ
  appliedNumerator : ℤ
  appliedDenominator : ℤ
  scaleSource : ℤ
  scaleDest : ℤ
  effectiveFrom : String
  effectiveTo : Option String

structure FxQuote where
  quoteId : Uuid
  orgId : Uuid
  corridorId : Uuid
  sourceCurrency : Currency
  destinationCurrency : Currency
  sourceAmountMinor : ℤ
  fee : FeeBreakdown
  sourceDebitMinor : ℤ
  destinationCreditMinor : ℤ
  rate : AppliedRate
  issuedAt : String
  expiresAt : String
  ttlSeconds : ℤ

/-- The exact ratio of minor units: the gap between the scales is folded into it. -/
def appliedRatio (row : RateRow) : ℤ × ℤ :=
  let gap := row.scaleDest - row.scaleSource
  if gap ≥ 0 then (row.numerator * 10 ^ gap.toNat, row.denominator)
  else (row.numerator, row.denominator * 10 ^ (-gap).toNat)

def convertWithRatio (amountMinor num den : ℤ) : ℤ := divideBankers (amountMinor * num) den

def defaultQuoteTtlSeconds : ℤ := 120

def quoteTtl (ttlSeconds : Option JsNumber) : Except Thrown ℤ :=
  match ttlSeconds with
  | none => .ok defaultQuoteTtlSeconds
  | some x =>
    match x.safeInteger.filter fun n => 1 ≤ n with
    | some n => .ok n
    | none => .error (.domainError "QUOTE_TTL_INVALID"
        s!"ttlSeconds must be a positive safe integer, got {x.text}" [("ttlSeconds", x.text)])

def addMillis (now : Date) (ms : ℤ) : Date :=
  match now with
  | .ofTime t => Date.ofMs (t + ms)
  | .invalid => .invalid

def quote (localeCompare : String → String → Ordering) (corridors : List Corridor)
    (corridorId : Uuid) (amountMinor : MoneyInput) (rateTable : List RateRowInput) (clock : Clock)
    (ttlSeconds : Option JsNumber) (quoteId : Option Uuid) : Except Thrown FxQuote := do
  let corridor ← resolveCorridor corridors corridorId
  assertCorridorLive corridor
  let amount ← toMinorUnits amountMinor "sourceAmountMinor"
  let _ ← assertAmountWithinCorridor corridor (.bigint amount)
  let ttl ← quoteTtl ttlSeconds
  let rows ← validateRateTable localeCompare rateTable
  let now := clock.now 0
  let row ← findActiveRateRow rows corridor.sourceCurrency corridor.destinationCurrency now
  let fee ← computeFeeBreakdown corridor.feeSchedule (.bigint amount)
  let (num, den) := appliedRatio row
  let issuedAt ← now.toISOString
  let expiresAt ← (addMillis now (ttl * 1000)).toISOString
  let id := quoteId.getD (uuidFromSeed s!"quote:{corridorId}:{amount}:{issuedAt}")
  -- the event that announces the quote reads the clock once more
  let _ ← (clock.now 1).toISOString
  pure { quoteId := id, orgId := corridor.orgId, corridorId := corridor.corridorId,
         sourceCurrency := corridor.sourceCurrency,
         destinationCurrency := corridor.destinationCurrency,
         sourceAmountMinor := amount, fee, sourceDebitMinor := amount + fee.totalMinor,
         destinationCreditMinor := convertWithRatio amount num den,
         rate := { rowId := row.rowId, source := row.source, numerator := row.numerator,
                   denominator := row.denominator, appliedNumerator := num,
                   appliedDenominator := den, scaleSource := row.scaleSource,
                   scaleDest := row.scaleDest, effectiveFrom := row.effectiveFrom,
                   effectiveTo := row.effectiveTo },
         issuedAt, expiresAt, ttlSeconds := ttl }

/-! ## Expiry -/

def isQuoteExpired (expiresAt : String) (now : Date) : Bool :=
  millisLe (toMillis expiresAt) now.getTime

def assertQuoteUsable (quoteId : Uuid) (expiresAt : String) (now : Date) : Except Thrown Unit :=
  if isQuoteExpired expiresAt now then do
    let iso ← now.toISOString
    throw (.domainError "QUOTE_EXPIRED" s!"quote {quoteId} expired at {expiresAt} (now {iso})"
      [("quoteId", quoteId), ("expiresAt", expiresAt)])
  else pure ()

/-- A reading that is an instant is strictly before the expiry. -/
def BeforeExpiry (expiresAt : String) (now : Date) : Prop :=
  ∀ t e, now = .ofTime t → toMillis expiresAt = some e → t < e

lemma assertQuoteUsable_eq_ok {quoteId : Uuid} {expiresAt : String} {now : Date} {u : Unit}
    (h : assertQuoteUsable quoteId expiresAt now = .ok u) : BeforeExpiry expiresAt now := by
  rintro t e rfl he
  by_contra hlate
  have hexpired : isQuoteExpired expiresAt (.ofTime t) = true := by
    simp [isQuoteExpired, he, Date.getTime, millisLe]
    omega
  simp only [assertQuoteUsable, hexpired, if_true, bind_eq_ok] at h
  obtain ⟨_, -, hthrow⟩ := h
  exact throw_eq_ok.mp hthrow

end Fuatilia.Crossborder
