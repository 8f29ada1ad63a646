import Fuatilia.Crossborder.Rounding
import Fuatilia.Foundations.DoubleEntry

/-!
# Realised gains and losses

A receivable is settled in another currency. The settlement is converted once, and what it differs
from the carrying amount is a gain or a loss.

## Main definitions

* `postRealizedGainLoss` — debit the converted amount, credit the carrying amount, and close.

## Main results

* `realized_gain_loss` — the sign, the amount and the balance of the posting.
-/

namespace Fuatilia.Fx

open Fallible Binary64

inductive FxGainLossDirection where
  | gain | loss

structure RealizedGainLoss where
  direction : FxGainLossDirection
  amountMinor : ℤ
  currency : Currency

structure FxRealizedGainLossPostedPayload where
  receivableId : Uuid
  paymentId : Option Uuid
  direction : FxGainLossDirection
  amountMinor : ℤ
  carryingAmountMinor : ℤ
  settlementConvertedMinor : ℤ
  settlementAmountMinor : ℤ
  receivableCurrency : Currency
  settlementCurrency : Currency
  snapshotId : Uuid

/-- The event `fx.realizedGainLossPosted`. -/
structure FxRealizedGainLossEvent where
  aggregateId : Uuid
  occurredAt : String
  payload : FxRealizedGainLossPostedPayload

structure FxRealizedGainLossInput where
  receivableId : Uuid
  paymentId : Option Uuid
  carryingAmountMinor : MoneyInput
  receivableCurrency : Currency
  settlementAmountMinor : MoneyInput
  settlementCurrency : Currency
  snapshot : Option FxRateSnapshot
  clock : Clock
  aggregateId : Option Uuid

structure FxSettlementPosting where
  receivableId : Uuid
  carryingAmountMinor : ℤ
  settlementAmountMinor : ℤ
  settlementConvertedMinor : ℤ
  receivableCurrency : Currency
  settlementCurrency : Currency
  conversion : FxConversion
  realizedGainLoss : Option RealizedGainLoss
  event : Option FxRealizedGainLossEvent

def requireFxSnapshot (source target : Currency) (snapshot : Option FxRateSnapshot) :
    Except Thrown FxRateSnapshot := do
  throwIf (source = target) (DomainError "FX_SAME_CURRENCY"
    s!"FX gate invoked for a single currency ({source}) — single-currency settlement needs no snapshot")
  match snapshot with
  | none => .error (.domainError "FX_SNAPSHOT_REQUIRED"
      s!"cross-currency settlement {source}→{target} requires an FX snapshot reference (R10)"
      [("from", toString source), ("to", toString target)])
  | some s =>
    throwIf (¬ ((s.baseCurrency = source ∧ s.quoteCurrency = target) ∨
        (s.baseCurrency = target ∧ s.quoteCurrency = source)))
      (.domainError "FX_SNAPSHOT_PAIR_MISMATCH"
        s!"snapshot {s.snapshotId} quotes {s.baseCurrency}/{s.quoteCurrency}, which does not bridge {source}→{target}"
        [("from", toString source), ("to", toString target), ("snapshotId", s.snapshotId)])
    return s

def postRealizedGainLoss (input : FxRealizedGainLossInput) : Except Thrown FxSettlementPosting := do
  let check := fun id field => Crossborder.assertUuidShape id field "FX_ID_MALFORMED"
  check input.receivableId "receivableId"
  input.paymentId.forM (check · "paymentId")
  input.aggregateId.forM (check · "aggregateId")
  let carrying ← toMinorUnits input.carryingAmountMinor "carryingAmountMinor"
  let settlement ← toMinorUnits input.settlementAmountMinor "settlementAmountMinor"
  throwIf (input.receivableCurrency = input.settlementCurrency) (DomainError "FX_SAME_CURRENCY"
    (s!"settlement currency {input.settlementCurrency} equals the receivable currency — " ++
      "single-currency settlement needs no FX posting"))
  let authoritative ← requireFxSnapshot input.settlementCurrency input.receivableCurrency
    input.snapshot
  let direction : FxDirection :=
    if authoritative.baseCurrency = input.settlementCurrency then .base_to_quote else .quote_to_base
  let conversion ← convert (.bigint settlement) input.settlementCurrency input.receivableCurrency
    (some authoritative) direction
  let converted := conversion.amountMinor
  let posting := fun gainLoss event => FxSettlementPosting.mk input.receivableId carrying settlement
    converted input.receivableCurrency input.settlementCurrency conversion gainLoss event
  if converted = carrying then return posting none none
  let gainLoss : RealizedGainLoss :=
    ⟨if converted > carrying then .gain else .loss,
      if converted > carrying then converted - carrying else carrying - converted,
      input.receivableCurrency⟩
  let occurredAt ← (input.clock.now 0).toISOString
  return posting (some gainLoss) (some ⟨input.aggregateId.getD input.receivableId, occurredAt,
    ⟨input.receivableId, input.paymentId, gainLoss.direction, gainLoss.amountMinor, carrying,
      converted, settlement, input.receivableCurrency, input.settlementCurrency,
      authoritative.snapshotId⟩⟩)

/-- The gain, negative for a loss. -/
def RealizedGainLoss.signed (r : RealizedGainLoss) : ℤ :=
  match r.direction with
  | .gain => r.amountMinor
  | .loss => -r.amountMinor

inductive PostingSide where
  | settlement | receivable | gainLoss

/-- The amounts of a posting as postings in the currency of the receivable. -/
def FxSettlementPosting.lines (p : FxSettlementPosting) : List (PostingSide × ℤ) :=
  [(.settlement, p.settlementConvertedMinor), (.receivable, -p.carryingAmountMinor)] ++
    p.realizedGainLoss.toList.map fun r => (.gainLoss, -r.signed)

lemma FxSettlementPosting.total_lines {p : FxSettlementPosting}
    (h : p.settlementConvertedMinor - p.carryingAmountMinor =
      p.realizedGainLoss.elim 0 RealizedGainLoss.signed) : DoubleEntry.total p.lines = 0 := by
  cases hr : p.realizedGainLoss <;> simp [lines, DoubleEntry.total, hr] at h ⊢ <;> omega

lemma appliedRatio_mul (s : FxRateSnapshot) :
    (appliedRatio s .base_to_quote).1 * (appliedRatio s .quote_to_base).1 =
      (appliedRatio s .base_to_quote).2 * (appliedRatio s .quote_to_base).2 := by
  simp only [appliedRatio]
  rcases lt_trichotomy s.scaleBase s.scaleQuote with h | h | h
  · rw [if_pos (by omega), if_neg (by omega), neg_sub]
    ring
  · simp only [h, sub_self, ge_iff_le, le_refl, if_true, Int.toNat_zero, pow_zero, mul_one]
    ring
  · rw [if_neg (by omega), if_pos (by omega), neg_sub]
    ring

variable {source target : Currency} {s : FxRateSnapshot}

lemma requireFxSnapshot_eq_ok {snapshot : Option FxRateSnapshot}
    (h : requireFxSnapshot source target snapshot = .ok s) : snapshot = some s := by
  obtain ⟨-, h⟩ := seq_eq_ok.mp h
  cases snapshot with
  | none => cases h
  | some t =>
    obtain ⟨-, h⟩ := seq_eq_ok.mp h
    exact congrArg some (pure_eq_ok.mp h).symm

/-- A conversion of minor units is the exact value, rounded once. -/
lemma convert_nearest {n : ℤ} {direction : FxDirection} {r : FxConversion}
    (h : convert (.bigint n) source target (some s) direction = .ok r) :
    NearestEven (n * s.rate direction) r.amountMinor := by
  have hinput : r.inputAmountMinor = n := by
    simp only [convert, ok_iff] at h
    obtain ⟨amount, hamount, _, -, _, -, _, -, rfl⟩ := h
    simp only [toMinorUnits] at hamount
    split_ifs at hamount
    exact (Except.ok.inj hamount).symm
  rw [convert_rounds h, hinput]
  exact nearestEven_roundEven _

/-- **Realised gains and losses.** A settlement is the settled amount at the exact rate of the
snapshot, rounded once. What is posted is the converted amount less the carrying amount: a positive
gain or loss, or nothing. The lines balance, and the event tells the same. The ratios of a snapshot
in its two directions are reciprocal. -/
theorem realized_gain_loss (input : FxRealizedGainLossInput) (posting : FxSettlementPosting)
    (h : postRealizedGainLoss input = .ok posting) :
    toMinorUnits input.carryingAmountMinor "carryingAmountMinor" = .ok posting.carryingAmountMinor ∧
    toMinorUnits input.settlementAmountMinor "settlementAmountMinor" =
      .ok posting.settlementAmountMinor ∧
    (∃ s ∈ input.snapshot, NearestEven
      (posting.settlementAmountMinor * s.rate (if s.baseCurrency = input.settlementCurrency
        then .base_to_quote else .quote_to_base)) posting.settlementConvertedMinor) ∧
    posting.settlementConvertedMinor - posting.carryingAmountMinor =
      posting.realizedGainLoss.elim 0 RealizedGainLoss.signed ∧
    (∀ r ∈ posting.realizedGainLoss, 0 < r.amountMinor ∧ r.currency = input.receivableCurrency) ∧
    DoubleEntry.total posting.lines = 0 ∧
    posting.event.map (fun e => (e.payload.direction, e.payload.amountMinor)) =
      posting.realizedGainLoss.map (fun r => (r.direction, r.amountMinor)) ∧
    ∀ s : FxRateSnapshot, (appliedRatio s .base_to_quote).1 * (appliedRatio s .quote_to_base).1 =
      (appliedRatio s .base_to_quote).2 * (appliedRatio s .quote_to_base).2 := by
  simp only [postRealizedGainLoss, bind_eq_ok] at h
  obtain ⟨_, -, _, -, _, -, carrying, hcarrying, settlement, hsettlement, _, -, s, hs, conversion,
    hconversion, h⟩ := h
  have hround := convert_nearest hconversion
  have hsnapshot := requireFxSnapshot_eq_ok hs
  split_ifs at h with heq hgain
  · obtain rfl := pure_eq_ok.mp h
    exact ⟨hcarrying, hsettlement, ⟨s, hsnapshot, hround⟩, sub_eq_zero.mpr heq, by simp,
      FxSettlementPosting.total_lines (sub_eq_zero.mpr heq), rfl, appliedRatio_mul⟩
  all_goals
    obtain ⟨_, -, h⟩ := bind_eq_ok.mp h
    obtain rfl := pure_eq_ok.mp h
    refine ⟨hcarrying, hsettlement, ⟨s, hsnapshot, hround⟩, ?_, ?_, ?_, rfl, appliedRatio_mul⟩
    · simp [RealizedGainLoss.signed]
    · simp only [Option.mem_some_iff, forall_eq', and_true]
      omega
    · exact FxSettlementPosting.total_lines (by simp [RealizedGainLoss.signed])

def dollarSnapshot : FxRateSnapshot where
  snapshotId := "00000000-0000-4000-8000-000000000002"
  orgId := "00000000-0000-4000-8000-000000000003"
  baseCurrency := .USD
  quoteCurrency := .KES
  numerator := 258
  denominator := 2
  scaleBase := 2
  scaleQuote := 2
  source := "bank"
  observedAt := "2026-01-01T00:00:00.000Z"
  numerator_pos := by decide
  denominator_pos := by decide

def dollarSettlement : FxRealizedGainLossInput :=
  ⟨"00000000-0000-4000-8000-000000000001", none, .bigint 12800, .KES, .bigint 100, .USD,
    some dollarSnapshot, pinnedClock (.ofTime 0), none⟩

/-- One dollar, received for a receivable of 128 shillings, is a gain of one shilling. -/
theorem realized_gain_loss_dollar : ∃ posting, postRealizedGainLoss dollarSettlement = .ok posting ∧
    posting.settlementConvertedMinor = 12900 ∧ DoubleEntry.total posting.lines = 0 := by
  refine ⟨_, rfl, rfl, ?_⟩
  exact (realized_gain_loss dollarSettlement _ rfl).2.2.2.2.2.1

end Fuatilia.Fx
