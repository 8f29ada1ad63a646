import Fuatilia.Allocation.Strategies

/-!
# The allocation engine

A source of funds and a strategy become append-only rows.

## Main definitions

* `executeAllocation` — plan, number and announce the rows.
* `reverseAllocation` — a compensating row, and a stamp on the original.

## Main results

* `executeAllocation_inversion`, `reverseAllocation_inversion` — what a success has done.
-/

namespace Fuatilia.Allocation

open Fallible

/-! ## Events -/
/-- A fact about an allocation row. -/
structure AllocationEvent (π : Type) where
  name : String
  version : ℕ
  aggregateId : Uuid
  payload : π
  occurredAt : String
/-- A row was posted. -/
structure AllocationExecutedPayload where
  allocationId : Uuid
  sourceType : AllocationSourceType
  sourceId : Uuid
  receivableId : Uuid
  amountMinor : ℕ
  strategy : AllocationStrategy
/-- A row was reversed. -/
structure AllocationReversedPayload where
  allocationId : Uuid
  reason : String
  compensatingId : Uuid
/-- Stamp a fact. -/
def emit {π : Type} (name : String) (aggregateId : Uuid) (payload : π) (now : Date) :
    Except Thrown (AllocationEvent π) := do
  let occurredAt ← now.toISOString
  return ⟨name, 1, aggregateId, payload, occurredAt⟩
/-- The fact of a posted row. -/
def allocationExecutedEvent (payload : AllocationExecutedPayload) (now : Date) :
    Except Thrown (AllocationEvent AllocationExecutedPayload) :=
  emit "allocation.executed" payload.allocationId payload now
/-- The fact of a reversal. -/
def allocationReversedEvent (payload : AllocationReversedPayload) (now : Date) :
    Except Thrown (AllocationEvent AllocationReversedPayload) :=
  emit "allocation.reversed" payload.allocationId payload now

/-! ## Execution -/
/-- What an execution is given. -/
structure ExecuteAllocationArgs where
  source : AllocationSource
  receivables : List AllocatableReceivable
  strategy : AllocationStrategy
  clock : Clock
  declared : Option Declared
  existingAllocations : List Row
/-- What an execution returns. -/
structure AllocationExecution where
  allocations : List Row
  events : List (AllocationEvent AllocationExecutedPayload)
  unapplied : Money
/-- The plan of a strategy; only `explicit` reads the declared split. -/
def planWithStrategy (strategy : AllocationStrategy) (funds : Money)
    (receivables : List AllocatableReceivable) (declared : Option Declared) :
    Except Thrown (List StrategyPlan) :=
  match strategy with
  | .fifo => allocateOldestFirst funds receivables
  | .pro_rata => allocateProRata funds receivables
  | .explicit =>
    match declared with
    | none => .error (DomainError "ALLOCATION_DECLARATION_REQUIRED"
        "strategy 'explicit' requires a declared split")
    | some declared => allocateExplicit funds receivables declared
/-- One above all numbers of the source, which start at 1. -/
def nextSequenceNo (rows : List Row) (sourceId : Uuid) (sourceType : AllocationSourceType) : ℤ :=
  (rows.filter fun row => row.sourceId = sourceId ∧ row.sourceType = sourceType).foldl
    (fun max row => if row.sequenceNo > max then row.sequenceNo else max) 0 + 1
/-- The seed of a row's identifier. -/
def rowSeed (source : AllocationSource) (strategy : AllocationStrategy) (sequenceNo : ℤ)
    (plan : StrategyPlan) : String :=
  s!"allocation:{source.sourceType}:{source.sourceId}:{strategy}:{sequenceNo}:" ++
    s!"{plan.receivableId}:{plan.amount.amount}"
/-- The row of the leg at an index of the plan. -/
def buildRow (source : AllocationSource) (strategy : AllocationStrategy) (base : ℤ)
    (allocatedAt : Date) (p : StrategyPlan × ℕ) : Except Thrown Row :=
  let sequenceNo := base + p.2
  allocationOf (uuidFromSeed (rowSeed source strategy sequenceNo p.1)) source.sourceType
    source.sourceId p.1.receivableId p.1.amount strategy sequenceNo allocatedAt none
/-- The fact of the row at an index, each with its own reading. -/
def buildEvent (clock : Clock) (p : Row × ℕ) :
    Except Thrown (AllocationEvent AllocationExecutedPayload) :=
  allocationExecutedEvent
    { allocationId := p.1.id
      sourceType := p.1.sourceType
      sourceId := p.1.sourceId
      receivableId := p.1.receivableId
      amountMinor := p.1.amountMinor.amount
      strategy := p.1.strategy } (clock.now (p.2 + 1))
/-- Plan, check the sum against the funds, and post the rows. -/
def executeAllocation (args : ExecuteAllocationArgs) : Except Thrown AllocationExecution := do
  let source := args.source
  throwIf (args.strategy ≠ .explicit ∧ args.declared.isSome)
    (DomainError "ALLOCATION_DECLARATION_NOT_ALLOWED"
      s!"strategy '{args.strategy}' takes no declared split")
  throwIf (source.available.currency ≠ source.currency) (DomainError "CURRENCY_MISMATCH"
    s!"source funds are {source.available.currency}, source declares {source.currency}")
  let plans ← planWithStrategy args.strategy source.available args.receivables args.declared
  let allocated := (plans.map (·.amount.amount)).sum
  throwIf (allocated > source.available.amount) (DomainError "ALLOCATION_EXCEEDS_AVAILABLE"
    s!"plan of {allocated} exceeds available {source.available.amount}")
  let base := nextSequenceNo args.existingAllocations source.sourceId source.sourceType
  let allocations ← plans.zipIdx.mapM (buildRow source args.strategy base (args.clock.now 0))
  let events ← allocations.zipIdx.mapM (buildEvent args.clock)
  let unapplied ← unappliedRemainder source.available allocations
  return ⟨allocations, events, unapplied⟩

/-! ## Reversal -/
/-- What a reversal returns. -/
structure AllocationReversal where
  original : Row
  compensating : Row
  events : List (AllocationEvent AllocationReversedPayload)
/-- A reason is given, and the row is active. -/
def assertReversible (original : Row) (trimmed : String) : Except Thrown Unit := do
  throwIf (trimmed = "")
    (DomainError "REVERSAL_REASON_REQUIRED" "a reversal reason is required (R3)")
  match original.reversedAt with
  | some at_ => do
    let text ← at_.toISOString
    throw (DomainError "ALLOCATION_ALREADY_REVERSED"
      s!"allocation {original.id} was already reversed at {text}")
  | none =>
    throwIf (original.reversalOf ≠ none) (DomainError "ALLOCATION_REVERSAL_NOT_ALLOWED"
      s!"allocation {original.id} is itself a compensating row and cannot be reversed")
/-- Stamp the original, and compensate it. -/
def reverseAllocation (original : Row) (reason : String) (clock : Clock)
    (sequenceNo : Option ℤ) : Except Thrown AllocationReversal := do
  let trimmed := trim reason
  assertReversible original trimmed
  let reversedAt := clock.now 0
  let compensating ← allocationOf (uuidFromSeed s!"allocation-reversal:{original.id}")
    original.sourceType original.sourceId original.receivableId original.amountMinor
    original.strategy (sequenceNo.getD original.sequenceNo) reversedAt (some original.id)
  let event ← allocationReversedEvent ⟨original.id, trimmed, compensating.id⟩ (clock.now 1)
  return ⟨{ original with reversedAt := some reversedAt }, compensating, [event]⟩

/-! ## What the operations return -/
/-- The row that an accepted execution posts for a leg. -/
def postedRow (source : AllocationSource) (strategy : AllocationStrategy) (base : ℤ)
    (allocatedAt : Date) (p : StrategyPlan × ℕ) : Row where
  id := uuidFromSeed (rowSeed source strategy (base + p.2) p.1)
  sourceType := source.sourceType
  sourceId := source.sourceId
  receivableId := p.1.receivableId
  amountMinor := p.1.amount
  strategy := strategy
  sequenceNo := base + p.2
  allocatedAt := allocatedAt
  reversedAt := none
  reversalOf := none

variable {declared : Option Declared} {funds : Money} {plans : List StrategyPlan}
  {receivables : List AllocatableReceivable} {strategy : AllocationStrategy}
/-- Every plan is within the funds. -/
lemma planWithStrategy_lawful
    (h : planWithStrategy strategy funds receivables declared = .ok plans) :
    Lawful funds plans := by
  unfold planWithStrategy at h
  split at h
  · exact (allocateOldestFirst_spec h).1
  · exact allocateProRata_lawful h
  · split at h
    · cases h
    · exact (allocateExplicit_spec h).1
/-- A plan is within the balances where its proportion is exact. -/
lemma planWithStrategy_capped
    (hexact : strategy = .pro_rata → exactProportion funds receivables = true)
    (h : planWithStrategy strategy funds receivables declared = .ok plans) :
    Capped receivables plans := by
  unfold planWithStrategy at h
  split at h
  · exact (allocateOldestFirst_spec h).2
  · exact allocateProRata_capped (hexact rfl) h
  · split at h
    · cases h
    · exact (allocateExplicit_spec h).2
/-- Receivables of a plan are distinct. -/
lemma planWithStrategy_nodup
    (h : planWithStrategy strategy funds receivables declared = .ok plans) :
    (receivables.map (·.receivableId)).Nodup := by
  cases strategy <;> cases declared
  case explicit.none => cases h
  all_goals
    simp only [planWithStrategy, allocateOldestFirst, allocateProRata, allocateExplicit, bind_eq_ok,
      assertNoDuplicates_eq_ok] at h
    obtain ⟨_, -, _, hnodup, -⟩ := h
    exact hnodup
/-- **What an execution posts**: the legs of its plan, in order. -/
lemma executeAllocation_inversion {args : ExecuteAllocationArgs} {e : AllocationExecution}
    (h : executeAllocation args = .ok e) :
    ∃ plans,
      planWithStrategy args.strategy args.source.available args.receivables args.declared =
        .ok plans ∧
      (plans.map (·.amount.amount)).sum ≤ args.source.available.amount ∧
      (∀ p ∈ plans, 0 < p.amount.amount) ∧
      e.allocations = plans.zipIdx.map (postedRow args.source args.strategy
        (nextSequenceNo args.existingAllocations args.source.sourceId args.source.sourceType)
        (args.clock.now 0)) := by
  simp only [executeAllocation, ok_iff, gt_iff_lt, not_lt] at h
  obtain ⟨-, -, plans, hplans, hfits, rows, hrows, events, -, unapplied, -, rfl⟩ := h
  rw [mapM_eq_ok_iff (P := fun p => 0 < p.1.amount.amount ∧ _) fun p _ row => by
    rw [buildRow, allocationOf_eq_ok, ← and_assoc]] at hrows
  refine ⟨plans, hplans, hfits, fun p hp => ?_, hrows.2⟩
  obtain ⟨k, hk⟩ := List.mem_iff_getElem?.mp hp
  exact (hrows.1 (p, k) (List.mem_zipIdx_iff_getElem?.mpr hk)).1
/-- **What a reversal does**: an active row is stamped and compensated. -/
lemma reverseAllocation_inversion {original : Row} {reason : String} {clock : Clock}
    {sequenceNo : Option ℤ} {r : AllocationReversal}
    (h : reverseAllocation original reason clock sequenceNo = .ok r) :
    original.reversedAt = none ∧ original.reversalOf = none ∧
      r.original = { original with reversedAt := some (clock.now 0) } ∧
      r.compensating.sourceType = original.sourceType ∧
      r.compensating.sourceId = original.sourceId ∧
      r.compensating.amountMinor = original.amountMinor ∧
      r.compensating.reversalOf = some original.id := by
  simp only [reverseAllocation, ok_iff, allocationOf_eq_ok] at h
  obtain ⟨_, hguard, _, ⟨-, -, rfl⟩, _, -, rfl⟩ := h
  simp only [assertReversible, bind_eq_ok] at hguard
  obtain ⟨_, -, hguard⟩ := hguard
  split at hguard
  · simp only [bind_eq_ok, throw_eq_ok] at hguard
    obtain ⟨_, -, hfalse⟩ := hguard
    exact hfalse.elim
  · rename_i hnone
    rw [throwIf_eq_ok, not_not] at hguard
    exact ⟨hnone, hguard, rfl, rfl, rfl, rfl, rfl⟩

/-! ## Sequence numbers -/
/-- The fold is the maximum. -/
lemma le_foldl_max (rows : List Row) (start : ℤ) :
    start ≤ rows.foldl (fun max row => if row.sequenceNo > max then row.sequenceNo else max) start ∧
      ∀ row ∈ rows, row.sequenceNo ≤
        rows.foldl (fun max row => if row.sequenceNo > max then row.sequenceNo else max) start := by
  induction rows generalizing start with
  | nil => simp
  | cons row rows ih =>
    rw [List.foldl_cons, List.forall_mem_cons]
    obtain ⟨hstart, hrows⟩ := ih (if row.sequenceNo > start then row.sequenceNo else start)
    refine ⟨?_, ?_, hrows⟩ <;> split_ifs at hstart ⊢ <;> omega
/-- The next number is new. -/
lemma lt_nextSequenceNo {rows : List Row} {row : Row} (hrow : row ∈ rows) :
    row.sequenceNo < nextSequenceNo rows row.sourceId row.sourceType := by
  have hmem : row ∈ rows.filter fun x => x.sourceId = row.sourceId ∧
      x.sourceType = row.sourceType := by
    simpa using hrow
  have hle := (le_foldl_max _ 0).2 row hmem
  unfold nextSequenceNo
  omega

end Fuatilia.Allocation
