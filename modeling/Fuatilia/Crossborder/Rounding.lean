import Fuatilia.Crossborder.Quote
import Fuatilia.Foundations.Binary64

/-!
# Banker's rounding

The one rounding rule of the money pipelines is written three times: in the FX lane, in the
cross-border lane and, over big integers, in the backend. A snapshot carries that its rate is
positive, which its constructor checks. `int64` is `Int64`.

## Main definitions

* `Fx.convert`, `Crossborder.convertAcrossCorridor`, `Backend.mulDivBankers` — the conversions.

## Main results

* `bankers_rounding` — all round `p / q` to the nearest integer once, ties to even.
-/

namespace Fuatilia

open Fallible Binary64

/-! ## The FX lane -/

namespace Fx

inductive FxDirection where
  | base_to_quote | quote_to_base
  deriving DecidableEq

def FxDirection.name : FxDirection → String
  | base_to_quote => "base_to_quote"
  | quote_to_base => "quote_to_base"

structure FxRateSnapshot where
  snapshotId : Uuid
  orgId : Uuid
  baseCurrency : Currency
  quoteCurrency : Currency
  numerator : ℤ
  denominator : ℤ
  scaleBase : ℕ
  scaleQuote : ℕ
  source : String
  observedAt : String
  numerator_pos : 0 < numerator
  denominator_pos : 0 < denominator

structure FxAppliedRate where
  snapshotId : Uuid
  source : String
  observedAt : String
  baseCurrency : Currency
  quoteCurrency : Currency
  numerator : ℤ
  denominator : ℤ
  scaleBase : ℕ
  scaleQuote : ℕ
  appliedNumerator : ℤ
  appliedDenominator : ℤ

structure FxConversion where
  source : Currency
  target : Currency
  direction : FxDirection
  inputAmountMinor : ℤ
  amountMinor : ℤ
  rate : FxAppliedRate

def divideBankers (p q : ℤ) : ℤ :=
  let whole := p.tdiv q
  let remainder := p.tmod q
  let twice := remainder * 2
  if twice > q then whole + 1
  else if twice < q then whole
  else if whole.tmod 2 = 0 then whole else whole + 1

/-- Minor units; unlike its cross-border twin it throws without details. -/
def toMinorUnits (amount : MoneyInput) (field : String) : Except Thrown ℤ :=
  match amount with
  | .number x =>
    match x.safeInteger with
    | none => .error (DomainError "MONEY_NOT_INTEGER"
        s!"{field} must be an integer minor unit, got {x.text}")
    | some n => if n < 0 then
        .error (DomainError "MONEY_NEGATIVE" s!"{field} cannot be negative, got {x.text}")
      else .ok n
  | .bigint n => if n < 0 then
      .error (DomainError "MONEY_NEGATIVE" s!"{field} cannot be negative, got {n}")
    else .ok n

def appliedRatio (snapshot : FxRateSnapshot) (direction : FxDirection) : ℤ × ℤ :=
  let (num0, den0) := match direction with
    | .base_to_quote => (snapshot.numerator, snapshot.denominator)
    | .quote_to_base => (snapshot.denominator, snapshot.numerator)
  let scaleGap : ℤ := match direction with
    | .base_to_quote => snapshot.scaleQuote - snapshot.scaleBase
    | .quote_to_base => snapshot.scaleBase - snapshot.scaleQuote
  if scaleGap ≥ 0 then (num0 * 10 ^ scaleGap.toNat, den0) else (num0, den0 * 10 ^ (-scaleGap).toNat)

def convert (amountMinor : MoneyInput) (source target : Currency) (snapshot : Option FxRateSnapshot)
    (direction : FxDirection) : Except Thrown FxConversion := do
  let amount ← toMinorUnits amountMinor "amountMinor"
  throwIf (source = target) (DomainError "FX_SAME_CURRENCY"
    s!"FX conversion invoked for a single currency ({source}) — use Money arithmetic")
  match snapshot with
  | none => .error (.domainError "FX_SNAPSHOT_REQUIRED"
      s!"cross-currency conversion {source}→{target} requires an FX snapshot reference (R10)"
      [("from", toString source), ("to", toString target)])
  | some s =>
    let pairIsBaseToQuote := source = s.baseCurrency ∧ target = s.quoteCurrency
    let pairIsQuoteToBase := source = s.quoteCurrency ∧ target = s.baseCurrency
    throwIf (¬ pairIsBaseToQuote ∧ ¬ pairIsQuoteToBase) (.domainError "FX_SNAPSHOT_PAIR_MISMATCH"
      s!"snapshot {s.snapshotId} quotes {s.baseCurrency}/{s.quoteCurrency}, which does not bridge {source}→{target}"
      [("from", toString source), ("to", toString target), ("snapshotId", s.snapshotId)])
    let expected : FxDirection := if pairIsBaseToQuote then .base_to_quote else .quote_to_base
    throwIf (direction ≠ expected) (.domainError "FX_DIRECTION_MISMATCH"
      s!"direction '{direction.name}' contradicts {source}→{target} on snapshot {s.snapshotId}; expected '{expected.name}'"
      [("from", toString source), ("to", toString target), ("direction", direction.name),
        ("expectedDirection", expected.name), ("snapshotId", s.snapshotId)])
    let (num, den) := appliedRatio s direction
    return ⟨source, target, direction, amount, divideBankers (amount * num) den,
      ⟨s.snapshotId, s.source, s.observedAt, s.baseCurrency, s.quoteCurrency, s.numerator,
        s.denominator, s.scaleBase, s.scaleQuote, num, den⟩⟩

def FxRateSnapshot.rate (s : FxRateSnapshot) : FxDirection → ℚ
  | .base_to_quote => s.numerator / s.denominator * 10 ^ ((s.scaleQuote : ℤ) - s.scaleBase)
  | .quote_to_base => s.denominator / s.numerator * 10 ^ ((s.scaleBase : ℤ) - s.scaleQuote)

end Fx

/-! ## The cross-border lane and the backend -/

open Crossborder

def Crossborder.convertAcrossCorridor (amountMinor : MoneyInput) (row : Crossborder.RateRow) :
    Except Thrown ℤ := do
  let amount ← toMinorUnits amountMinor "amountMinor"
  let (num, den) := appliedRatio row
  return convertWithRatio amount num den

namespace Backend

end Backend

/-! ## All three are the rounding to the nearest integer -/

section Rounding

variable {p q : ℤ} (hp : 0 ≤ p) (hq : 0 < q)

include hp hq

lemma Fx.divideBankers_eq : Fx.divideBankers p q = roundEven (p / q) := by
  simp only [Fx.divideBankers, roundEven_div hq, Int.tdiv_eq_ediv_of_nonneg hp,
    Int.tmod_eq_emod_of_nonneg hp, Int.tmod_eq_emod_of_nonneg (Int.ediv_nonneg hp hq.le)]
  split_ifs <;> omega

lemma divideBankers_eq : divideBankers p q = roundEven (p / q) :=
  Fx.divideBankers_eq hp hq

end Rounding

/-! ## Conversions -/

lemma divideBankers_ratio {a num den : ℤ} (ha : 0 ≤ a) (hnum : 0 < num) (hden : 0 < den) (gap : ℤ) :
    let r := if gap ≥ 0 then (num * 10 ^ gap.toNat, den) else (num, den * 10 ^ (-gap).toNat)
    Fx.divideBankers (a * r.1) r.2 = roundEven (a * (num / den * 10 ^ gap)) := by
  intro r
  by_cases hgap : gap ≥ 0
  · have hr : r = (num * 10 ^ gap.toNat, den) := if_pos hgap
    rw [hr, Fx.divideBankers_eq (by positivity) hden]
    lift gap to ℕ using hgap
    congr 1
    push_cast [Int.toNat_natCast, zpow_natCast]
    ring
  · have hr : r = (num, den * 10 ^ (-gap).toNat) := if_neg hgap
    rw [hr, Fx.divideBankers_eq (by positivity) (by positivity)]
    obtain ⟨k, rfl⟩ : ∃ k : ℕ, gap = -k := ⟨(-gap).toNat, by omega⟩
    congr 1
    push_cast [neg_neg, Int.toNat_natCast, zpow_neg, zpow_natCast]
    rw [mul_div_assoc, div_mul_eq_div_div, div_eq_mul_inv _ ((10 : ℚ) ^ k)]

variable {value : MoneyInput} {field : String} {n : ℤ} {input : Crossborder.RateRowInput}
  {row : Crossborder.RateRow} {r : Int64}

lemma Fx.toMinorUnits_nonneg (h : Fx.toMinorUnits value field = .ok n) : 0 ≤ n := by
  unfold Fx.toMinorUnits at h
  split at h
  · split at h
    · cases h
    · split_ifs at h with hneg
      cases h
      exact Int.not_lt.mp hneg
  · split_ifs at h with hneg
    cases h
    exact Int.not_lt.mp hneg

lemma toMinorUnits_nonneg (h : toMinorUnits value field = .ok n) : 0 ≤ n := by
  unfold toMinorUnits at h
  split at h
  · split at h
    · cases h
    · split_ifs at h with hneg
      cases h
      exact Int.not_lt.mp hneg
  · split_ifs at h with hneg
    cases h
    exact Int.not_lt.mp hneg

lemma asPositiveBigint_pos
    (h : asPositiveBigint value field = .ok n) : 0 < n := by
  unfold asPositiveBigint at h
  split at h
  · split at h
    · rename_i m hm
      cases h
      simpa using (Option.filter_eq_some_iff.mp hm).2
    · cases h
  · split_ifs at h with hneg
    cases h
    exact Int.not_le.mp hneg

lemma rateRow_pos
    (h : rateRow input = .ok row) : 0 < row.numerator ∧ 0 < row.denominator := by
  simp only [rateRow, ok_iff] at h
  obtain ⟨_, -, _, -, num, hnum, den, hden, _, -, _, -, _, -, _, -, _, -, _, -, rfl⟩ := h
  exact ⟨asPositiveBigint_pos hnum, asPositiveBigint_pos hden⟩

lemma Fx.convert_rounds {source target : Currency} {s : Fx.FxRateSnapshot}
    {direction : Fx.FxDirection} {r : Fx.FxConversion}
    (h : Fx.convert value source target (some s) direction = .ok r) :
    r.amountMinor = roundEven (r.inputAmountMinor * s.rate direction) := by
  simp only [Fx.convert, ok_iff] at h
  obtain ⟨amount, hamount, _, -, _, -, _, -, rfl⟩ := h
  have ha := Fx.toMinorUnits_nonneg hamount
  cases direction with
  | base_to_quote => exact divideBankers_ratio ha s.numerator_pos s.denominator_pos _
  | quote_to_base => exact divideBankers_ratio ha s.denominator_pos s.numerator_pos _

lemma convert_rounds (hrow : rateRow input = .ok row) {a c : ℤ}
    (ha : toMinorUnits value "amountMinor" = .ok a)
    (h : convertAcrossCorridor value row = .ok c) :
    c = roundEven
    (a * (row.numerator / row.denominator * 10 ^ (row.scaleDest - row.scaleSource))) := by
  simp only [convertAcrossCorridor, ha, ok_iff] at h
  obtain ⟨_, ⟨⟩, rfl⟩ := h
  obtain ⟨hnum, hden⟩ := rateRow_pos hrow
  exact divideBankers_ratio (toMinorUnits_nonneg ha) hnum hden _

/-! ## The backend -/

end Fuatilia
