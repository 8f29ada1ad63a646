import Fuatilia.Foundations.Lists
import Fuatilia.Shared.Money

/-!
# Allocation rows

One row moves value from a source of funds to a receivable. A correction appends a compensating row
and stamps the original; rows that are neither are *active*.

## Main definitions

* `Row`, `isActive` — a row, and whether it counts towards a balance.
* `balanceAfter`, `unappliedRemainder` — what is left of a receivable and of the funds.

## Main results

* `balanceAfter_eq_ok`, `unappliedRemainder_eq_ok` — their values.
* `activeMinor_reverse`, `allocatedMinorTo_reverse` — a reversal takes back one amount.
-/

namespace Fuatilia.Allocation

open Fallible

inductive AllocationSourceType where
  | payment | credit_balance
  deriving DecidableEq

instance : ToString AllocationSourceType where
  toString
    | .payment => "payment"
    | .credit_balance => "credit_balance"

inductive AllocationStrategy where
  | fifo | explicit | pro_rata
  deriving DecidableEq

instance : ToString AllocationStrategy where
  toString
    | .fifo => "fifo"
    | .explicit => "explicit"
    | .pro_rata => "pro_rata"

structure Row where
  id : Uuid
  sourceType : AllocationSourceType
  sourceId : Uuid
  receivableId : Uuid
  amountMinor : Money
  strategy : AllocationStrategy
  sequenceNo : ℤ
  allocatedAt : Date
  reversedAt : Option Date
  reversalOf : Option Uuid

inductive BalanceInput where
  | minor (amount : MoneyInput)
  | money (amount : Money)
  deriving DecidableEq

structure AllocatableReceivable where
  receivableId : Uuid
  currency : Currency
  balanceMinor : BalanceInput
  dueDate : Option Date
  deriving DecidableEq

structure AllocationSource where
  sourceType : AllocationSourceType
  sourceId : Uuid
  currency : Currency
  available : Money

/-! ## Building a row -/

def allocationOf (id : Uuid) (sourceType : AllocationSourceType) (sourceId receivableId : Uuid)
    (amount : Money) (strategy : AllocationStrategy) (sequenceNo : ℤ) (allocatedAt : Date)
    (reversalOf : Option Uuid) : Except Thrown Row := do
  throwIf (!amount.isPositive) (DomainError "ALLOCATION_AMOUNT_NOT_POSITIVE"
    s!"allocation amount must be > 0, got {amount.amount}")
  throwIf (sequenceNo < 1) (DomainError "ALLOCATION_SEQUENCE_INVALID"
    s!"sequenceNo must be >= 1, got {sequenceNo}")
  return {
    id, sourceType, sourceId, receivableId, strategy, sequenceNo, allocatedAt, reversalOf
    amountMinor := amount
    reversedAt := none }

def balanceOf (receivable : AllocatableReceivable) : Except Thrown Money :=
  match receivable.balanceMinor with
  | .money balance => do
    throwIf (balance.currency ≠ receivable.currency) (DomainError "CURRENCY_MISMATCH"
      (s!"receivable {receivable.receivableId} declares {receivable.currency} " ++
        s!"but its balance is {balance.currency}"))
    return balance
  | .minor amount => Money.ofMinor amount receivable.currency

/-! ## Sums over rows -/

/-- A row counts while it is neither reversed nor compensating. -/
def isActive (row : Row) : Bool := row.reversedAt.isNone && row.reversalOf.isNone

def activeAllocations (rows : List Row) : List Row := rows.filter isActive

def activeMinor (rows : List Row) : ℕ := ((activeAllocations rows).map (·.amountMinor.amount)).sum

def allocatedMinorTo (rows : List Row) (receivableId : Uuid) : ℕ :=
  (((activeAllocations rows).filter (·.receivableId = receivableId)).map (·.amountMinor.amount)).sum

def balanceAfter (receivable : AllocatableReceivable) (rows : List Row) : Except Thrown Money := do
  let applied := allocatedMinorTo rows receivable.receivableId
  let balance ← balanceOf receivable
  throwIf (applied > balance.amount) (DomainError "BALANCE_OVER_ALLOCATED"
    (s!"allocations of {applied} exceed outstanding {balance.amount} " ++
      s!"on {receivable.receivableId}"))
  Money.ofMinor (.bigint (balance.amount - applied)) receivable.currency

def unappliedRemainder (sourceAvailable : Money) (rows : List Row) : Except Thrown Money := do
  let allocated := activeMinor rows
  throwIf (allocated > sourceAvailable.amount) (DomainError "ALLOCATION_EXCEEDS_AVAILABLE"
    s!"allocations of {allocated} exceed available {sourceAvailable.amount}")
  Money.ofMinor (.bigint (sourceAvailable.amount - allocated)) sourceAvailable.currency

def validateRow (first : Option Row) (sourceAvailable : Money) (row : Row) :
    Except Thrown Unit := do
  throwIf (first.any fun f => row.sourceType ≠ f.sourceType ∨ row.sourceId ≠ f.sourceId)
    (DomainError "ALLOCATION_SOURCE_MISMATCH"
      "rows span multiple sources; validate one source at a time")
  throwIf (row.amountMinor.currency ≠ sourceAvailable.currency) (DomainError "CURRENCY_MISMATCH"
    (s!"allocation row {row.id} is {row.amountMinor.currency}, " ++
      s!"source funds are {sourceAvailable.currency}"))
  throwIf (!row.amountMinor.isPositive) (DomainError "ALLOCATION_AMOUNT_NOT_POSITIVE"
    s!"allocation row {row.id} amount must be > 0")

def validateAllocations (rows : List Row) (sourceAvailable : Money) : Except Thrown Unit := do
  forM rows (validateRow rows.head? sourceAvailable)
  let _ ← unappliedRemainder sourceAvailable rows

/-! ## What the checks compute -/

variable {row : Row} {rows : List Row} {available : Money}

lemma allocationOf_eq_ok {id : Uuid} {sourceType : AllocationSourceType}
    {sourceId receivableId : Uuid} {amount : Money} {strategy : AllocationStrategy} {sequenceNo : ℤ}
    {allocatedAt : Date} {reversalOf : Option Uuid} :
    allocationOf id sourceType sourceId receivableId amount strategy sequenceNo allocatedAt
        reversalOf = .ok row ↔
      0 < amount.amount ∧ 1 ≤ sequenceNo ∧ row = ⟨id, sourceType, sourceId, receivableId, amount,
        strategy, sequenceNo, allocatedAt, none, reversalOf⟩ := by
  simp only [allocationOf, ok_iff, Money.isPositive, gt_iff_lt, Bool.not_eq_true',
    decide_eq_false_iff_not, not_not, Int.not_lt]

variable {r : Money} {stamped compensating : Row}

lemma balanceAfter_eq_ok {receivable : AllocatableReceivable} :
    balanceAfter receivable rows = .ok r ↔ ∃ balance, balanceOf receivable = .ok balance ∧
      allocatedMinorTo rows receivable.receivableId ≤ balance.amount ∧
      r = ⟨balance.amount - allocatedMinorTo rows receivable.receivableId,
        receivable.currency⟩ := by
  simp only [balanceAfter, ok_iff, gt_iff_lt, not_lt]
  refine exists_congr fun balance => and_congr_right fun _ => and_congr_right fun hle => ?_
  rw [← Int.ofNat_sub hle, Money.ofMinor_natCast]
  simp [eq_comm]

lemma unappliedRemainder_eq_ok : unappliedRemainder available rows = .ok r ↔
      activeMinor rows ≤ available.amount ∧
        r = ⟨available.amount - activeMinor rows, available.currency⟩ := by
  simp only [unappliedRemainder, ok_iff, gt_iff_lt, not_lt]
  refine and_congr_right fun hle => ?_
  rw [← Int.ofNat_sub hle, Money.ofMinor_natCast]
  simp [eq_comm]

lemma validateRow_eq_ok {first : Option Row} {u : Unit} :
    validateRow first available row = .ok u ↔
      (∀ f ∈ first, row.sourceType = f.sourceType ∧ row.sourceId = f.sourceId) ∧
        row.amountMinor.currency = available.currency ∧ 0 < row.amountMinor.amount := by
  simp only [validateRow, bind_eq_ok, throwIf_eq_ok, exists_const, Money.isPositive, gt_iff_lt,
    Bool.not_eq_true', decide_eq_false_iff_not, not_not]
  refine and_congr_left fun _ => ?_
  cases first with
  | none => simp
  | some f => simp [not_or]

lemma validateAllocations_eq_ok {u : Unit} :
    validateAllocations rows available = .ok u ↔
      (∀ row ∈ rows, (∀ f ∈ rows.head?, row.sourceType = f.sourceType ∧ row.sourceId = f.sourceId) ∧
        row.amountMinor.currency = available.currency ∧ 0 < row.amountMinor.amount) ∧
      activeMinor rows ≤ available.amount := by
  simp only [validateAllocations, bind_eq_ok, forM_eq_ok, validateRow_eq_ok, exists_const,
    unappliedRemainder_eq_ok]
  refine and_congr_right fun _ => ?_
  simp [pure, Except.pure]

/-! ## Sums after appending and replacing -/

def activeAmount (row : Row) : ℕ := if isActive row then row.amountMinor.amount else 0

def amountTo (receivableId : Uuid) (row : Row) : ℕ :=
  if row.receivableId = receivableId then activeAmount row else 0

lemma activeMinor_eq_sum (rows : List Row) : activeMinor rows = (rows.map activeAmount).sum :=
  Lists.sum_map_filter rows isActive _

lemma allocatedMinorTo_eq_sum (rows : List Row) (id : Uuid) :
    allocatedMinorTo rows id = (rows.map (amountTo id)).sum := by
  unfold allocatedMinorTo activeAllocations
  rw [List.filter_filter, Lists.sum_map_filter]
  congr 2
  funext row
  by_cases hid : row.receivableId = id <;> simp [amountTo, activeAmount, hid]

lemma activeMinor_append (rows rows' : List Row) :
    activeMinor (rows ++ rows') = activeMinor rows + activeMinor rows' := by
  simp [activeMinor, activeAllocations]

lemma allocatedMinorTo_append (rows rows' : List Row) (id : Uuid) :
    allocatedMinorTo (rows ++ rows') id = allocatedMinorTo rows id + allocatedMinorTo rows' id := by
  simp [allocatedMinorTo, activeAllocations]

lemma sum_reverse {i : ℕ} {f : Row → ℕ} (h : rows[i]? = some row) (hstamped : f stamped = 0)
    (hcomp : f compensating = 0) :
    ((rows.set i stamped ++ [compensating]).map f).sum + f row = (rows.map f).sum := by
  have hset := Lists.sum_map_set (b := stamped) f h
  simp only [List.map_append, List.sum_append, List.map_cons, List.map_nil, List.sum_singleton]
  omega

lemma activeMinor_reverse {i : ℕ} (h : rows[i]? = some row)
    (hstamped : isActive stamped = false) (hcomp : isActive compensating = false) :
    activeMinor (rows.set i stamped ++ [compensating]) + activeAmount row = activeMinor rows := by
  simp only [activeMinor_eq_sum]
  exact sum_reverse h (by simp [activeAmount, hstamped]) (by simp [activeAmount, hcomp])

lemma allocatedMinorTo_reverse {i : ℕ} (h : rows[i]? = some row)
    (hstamped : isActive stamped = false) (hcomp : isActive compensating = false) (id : Uuid) :
    allocatedMinorTo (rows.set i stamped ++ [compensating]) id + amountTo id row =
      allocatedMinorTo rows id := by
  simp only [allocatedMinorTo_eq_sum]
  exact sum_reverse h (by simp [amountTo, activeAmount, hstamped])
    (by simp [amountTo, activeAmount, hcomp])

end Fuatilia.Allocation
