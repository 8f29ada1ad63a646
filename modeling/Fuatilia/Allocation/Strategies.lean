import Fuatilia.Allocation.Row
import Fuatilia.Shared.Allocate

/-!
# Allocation strategies

How funds are split over receivables. A strategy returns a plan of legs, or throws.

## Main definitions

* `allocateOldestFirst`, `allocateExplicit`, `allocateProRata` — the strategies.
* `Lawful`, `Capped` — plans within the funds, and within the balances.

## Main results

* `allocateOldestFirst_spec`, `allocateExplicit_spec` — plans that are lawful and capped.
* `allocateProRata_lawful`, `allocateProRata_capped` — the proportional plan is lawful, and capped
  where the proportion is exact.
-/

namespace Fuatilia.Allocation

open Fallible

structure StrategyPlan where
  receivableId : Uuid
  amount : Money
  deriving DecidableEq

/-- A declared split: a map from receivables to amounts, in insertion order. -/
structure Declared where
  entries : List (Uuid × Money)
  keys_nodup : (entries.map Prod.fst).Nodup

/-! ## Guards -/

def assertSingleCurrency (funds : Money) (receivables : List AllocatableReceivable) :
    Except Thrown Unit :=
  forM receivables fun receivable =>
    throwIf (receivable.currency ≠ funds.currency) (DomainError "CURRENCY_MISMATCH"
      (s!"receivable {receivable.receivableId} is {receivable.currency}, " ++
        s!"funds are {funds.currency}"))

def firstDuplicate (seen : List Uuid) : List Uuid → Option Uuid
  | [] => none
  | id :: ids => if id ∈ seen then some id else firstDuplicate (id :: seen) ids

def assertNoDuplicates (receivables : List AllocatableReceivable) : Except Thrown Unit :=
  match firstDuplicate [] (receivables.map (·.receivableId)) with
  | some id =>
    .error (DomainError "ALLOCATION_DUPLICATE_RECEIVABLE"
      s!"receivable {id} appears more than once")
  | none => .ok ()

/-! ## Oldest first -/

/-- The time a receivable is due, as a number: an invalid date has no time, an undated receivable is
due at infinity. -/
inductive DueTime where
  | nan
  | time (ms : ℤ)
  | infinity

/-- `dueDate?.getTime() ?? Number.POSITIVE_INFINITY`. -/
def dueTime (receivable : AllocatableReceivable) : DueTime :=
  match receivable.dueDate with
  | none => .infinity
  | some .invalid => .nan
  | some (.ofTime ms) => .time ms

def compareDue (a b : AllocatableReceivable) : Ordering :=
  match dueTime a, dueTime b with
  -- a difference with an invalid date is `NaN`, which the sort reads as equal
  | .nan, _ => .eq
  | _, .nan => .eq
  | .infinity, .infinity => compareText a.receivableId b.receivableId
  | .time _, .infinity => .lt
  | .infinity, .time _ => .gt
  | .time s, .time t => if s ≠ t then compare s t else compareText a.receivableId b.receivableId

def taken (balance remaining : ℕ) : ℕ := if balance < remaining then balance else remaining

/-- The walk along the queue: each receivable takes what remains, up to its balance. -/
def takeInTurn (currency : Currency) :
    ℕ → List AllocatableReceivable → Except Thrown (List StrategyPlan)
  | _, [] => return []
  | remaining, receivable :: queue => do
    if remaining = 0 then
      return []
    let balance ← balanceOf receivable
    if balance.isPositive then
      let take := taken balance.amount remaining
      let amount ← Money.ofMinor (.bigint take) currency
      let plans ← takeInTurn currency (remaining - take) queue
      return ⟨receivable.receivableId, amount⟩ :: plans
    else
      takeInTurn currency remaining queue

def allocateOldestFirst (funds : Money) (receivables : List AllocatableReceivable) :
    Except Thrown (List StrategyPlan) := do
  assertSingleCurrency funds receivables
  assertNoDuplicates receivables
  takeInTurn funds.currency funds.amount (jsSort compareDue receivables)

/-! ## Declared -/

/-- The checks of one declared entry; the sum of the declarations so far grows by its amount. -/
def checkDeclared (funds : Money) (receivables : List AllocatableReceivable) (declaredTotal : ℕ)
    (entry : Uuid × Money) : Except Thrown ℕ :=
  -- the identifiers are distinct here, so the entry of the map is the first one
  match receivables.find? (·.receivableId = entry.1) with
  | none => .error (DomainError "ALLOCATION_UNKNOWN_RECEIVABLE"
      s!"declared receivable {entry.1} is not in the allocatable set")
  | some receivable => do
    throwIf (entry.2.currency ≠ funds.currency) (DomainError "CURRENCY_MISMATCH"
      s!"declaration for {entry.1} is {entry.2.currency}, funds are {funds.currency}")
    let balance ← balanceOf receivable
    throwIf (entry.2.amount > balance.amount) (DomainError "ALLOCATION_EXCEEDS_BALANCE"
      s!"declared {entry.2.amount} exceeds outstanding {balance.amount} on {entry.1}")
    return declaredTotal + entry.2.amount

def allocateExplicit (funds : Money) (receivables : List AllocatableReceivable)
    (declared : Declared) : Except Thrown (List StrategyPlan) := do
  assertSingleCurrency funds receivables
  assertNoDuplicates receivables
  let declaredTotal ← declared.entries.foldlM (checkDeclared funds receivables) 0
  throwIf (declaredTotal > funds.amount) (DomainError "ALLOCATION_EXCEEDS_AVAILABLE"
    s!"declared {declaredTotal} exceeds available {funds.amount}")
  return (jsSort (fun a b => compareText a.1 b.1)
    (declared.entries.filter (·.2.isPositive))).map fun entry => ⟨entry.1, entry.2⟩

/-! ## In proportion -/

def positiveBalances (receivables : List AllocatableReceivable) :
    Except Thrown (List (AllocatableReceivable × Money)) := do
  let balances ← receivables.mapM fun receivable => do
    let balance ← balanceOf receivable
    return (receivable, balance)
  return jsSort (fun a b => compareText a.1.receivableId b.1.receivableId)
    (balances.filter (·.2.isPositive))

def outstanding (positive : List (AllocatableReceivable × Money)) : ℕ :=
  (positive.map (·.2.amount)).sum

def proportionalLegs (funds : Money) (positive : List (AllocatableReceivable × Money))
    (parts : List Money) : List StrategyPlan :=
  (positive.zipIdx.map fun p =>
    ⟨p.1.1.receivableId, parts[p.2]?.getD (Money.zero funds.currency)⟩).filter (·.amount.isPositive)

def allocateProRata (funds : Money) (receivables : List AllocatableReceivable) :
    Except Thrown (List StrategyPlan) := do
  assertSingleCurrency funds receivables
  assertNoDuplicates receivables
  let positive ← positiveBalances receivables
  if positive.length = 0 then
    return []
  if outstanding positive ≤ funds.amount then
    return positive.map fun p => ⟨p.1.receivableId, p.2⟩
  let weights := positive.map fun p => numberOf p.2.amount
  let parts ← funds.allocate weights
  return proportionalLegs funds positive parts

/-- The split is not proportional, or the balances it is proportional to sum to at most `2 ^ 53`. -/
def exactProportion (funds : Money) (receivables : List AllocatableReceivable) : Bool :=
  match positiveBalances receivables with
  | .ok positive => outstanding positive ≤ funds.amount || outstanding positive ≤ 2 ^ 53
  | .error _ => true

/-! ## What a plan satisfies -/

/-- A plan pays each receivable at most once, and in the currency of the funds. -/
structure Lawful (funds : Money) (plans : List StrategyPlan) : Prop where
  distinct : (plans.map (·.receivableId)).Nodup
  currency : ∀ p ∈ plans, p.amount.currency = funds.currency

def Within (receivables : List AllocatableReceivable) (p : StrategyPlan) : Prop :=
  ∃ r ∈ receivables, r.receivableId = p.receivableId ∧
    ∃ balance, balanceOf r = .ok balance ∧ p.amount.amount ≤ balance.amount

def Capped (receivables : List AllocatableReceivable) (plans : List StrategyPlan) : Prop :=
  ∀ p ∈ plans, Within receivables p

variable {funds : Money} {receivables : List AllocatableReceivable} {plans : List StrategyPlan}

lemma assertSingleCurrency_eq_ok {u : Unit} :
    assertSingleCurrency funds receivables = .ok u ↔
      ∀ r ∈ receivables, r.currency = funds.currency := by
  simp [assertSingleCurrency, forM_eq_ok, throwIf_eq_ok]

lemma firstDuplicate_eq_none {seen ids : List Uuid} :
    firstDuplicate seen ids = none ↔ ids.Nodup ∧ ∀ id ∈ ids, id ∉ seen := by
  induction ids generalizing seen with
  | nil => simp [firstDuplicate]
  | cons id ids ih =>
    unfold firstDuplicate
    split_ifs with hseen
    · simp [hseen]
    · rw [ih]
      rw [List.forall_mem_cons, List.nodup_cons]
      simp only [List.mem_cons, not_or]
      constructor
      · rintro ⟨hnodup, hids⟩
        exact ⟨⟨fun hmem => (hids id hmem).1 rfl, hnodup⟩, hseen, fun x hx => (hids x hx).2⟩
      · rintro ⟨⟨hid, hnodup⟩, -, hids⟩
        exact ⟨hnodup, fun x hx => ⟨fun hx' => hid (hx' ▸ hx), hids x hx⟩⟩

lemma assertNoDuplicates_eq_ok {u : Unit} :
    assertNoDuplicates receivables = .ok u ↔ (receivables.map (·.receivableId)).Nodup := by
  unfold assertNoDuplicates
  have hnone : firstDuplicate [] (receivables.map (·.receivableId)) = none ↔ _ :=
    firstDuplicate_eq_none
  cases h : firstDuplicate [] (receivables.map (·.receivableId)) with
  | none => simpa using (hnone.mp h).1
  | some id =>
    rw [h] at hnone
    simpa using hnone

lemma currency_of_balanceOf {r : AllocatableReceivable} {balance : Money}
    (h : balanceOf r = .ok balance) : balance.currency = r.currency := by
  unfold balanceOf at h
  split at h
  · simp only [ok_iff, not_not] at h
    rw [h.2]
    exact h.1
  · simp only [Money.ofMinor, ok_iff] at h
    obtain ⟨_, -, _, -, rfl⟩ := h
    rfl

/-! ### Oldest first -/

lemma taken_le (balance remaining : ℕ) : taken balance remaining ≤ balance := by
  unfold taken
  split_ifs <;> omega

lemma takeInTurn_spec {currency : Currency} {remaining : ℕ} {queue : List AllocatableReceivable}
    (h : takeInTurn currency remaining queue = .ok plans) :
    (plans.map (·.receivableId)).Sublist (queue.map (·.receivableId)) ∧
      (∀ p ∈ plans, p.amount.currency = currency) ∧ Capped queue plans := by
  induction queue generalizing remaining plans with
  | nil =>
    obtain rfl := pure_eq_ok.mp h
    simp [Capped]
  | cons r queue ih =>
    -- a plan of the rest of the queue is one of the queue
    have hskip : ∀ {n ps}, takeInTurn currency n queue = .ok ps →
        (ps.map (·.receivableId)).Sublist (queue.map (·.receivableId)) ∧
          (∀ p ∈ ps, p.amount.currency = currency) ∧ Capped (r :: queue) ps := by
      intro n ps hps
      obtain ⟨hsub, hcur, hcap⟩ := ih hps
      refine ⟨hsub, hcur, fun p hp => ?_⟩
      obtain ⟨x, hx, hrest⟩ := hcap p hp
      exact ⟨x, List.mem_cons_of_mem _ hx, hrest⟩
    unfold takeInTurn at h
    split_ifs at h with hzero
    · obtain rfl := pure_eq_ok.mp h
      simp [Capped]
    · obtain ⟨balance, hbalance, h⟩ := bind_eq_ok.mp h
      split_ifs at h with hpos
      · simp only [Money.ofMinor_natCast, ok_iff, Except.ok.injEq] at h
        obtain ⟨_, rfl, ps, hps, rfl⟩ := h
        obtain ⟨hsub, hcur, hcap⟩ := hskip hps
        refine ⟨hsub.cons_cons _, ?_, ?_⟩
        · simpa using hcur
        · intro p hp
          rcases List.mem_cons.mp hp with rfl | hp
          · refine ⟨r, List.mem_cons_self, rfl, balance, hbalance, ?_⟩
            exact taken_le _ _
          · exact hcap p hp
      · obtain ⟨hsub, hcur, hcap⟩ := hskip h
        exact ⟨hsub.cons _, hcur, hcap⟩

lemma Capped.of_perm {rs rs' : List AllocatableReceivable} (hperm : rs.Perm rs')
    (h : Capped rs plans) : Capped rs' plans := by
  intro p hp
  obtain ⟨r, hr, hrest⟩ := h p hp
  exact ⟨r, hperm.mem_iff.mp hr, hrest⟩

lemma allocateOldestFirst_spec (h : allocateOldestFirst funds receivables = .ok plans) :
    Lawful funds plans ∧ Capped receivables plans := by
  simp only [allocateOldestFirst, bind_eq_ok, exists_const, assertNoDuplicates_eq_ok] at h
  obtain ⟨_, -, hnodup, h⟩ := h
  have hperm := jsSort_perm compareDue receivables
  obtain ⟨hsub, hcur, hcap⟩ := takeInTurn_spec h
  have hsorted := (hperm.map (·.receivableId)).nodup_iff.mpr hnodup
  exact ⟨⟨hsorted.sublist hsub, hcur⟩, hcap.of_perm hperm⟩

/-! ### Declared -/

lemma checkDeclared_spec {total total' : ℕ} {entry : Uuid × Money}
    (h : checkDeclared funds receivables total entry = .ok total') :
    entry.2.currency = funds.currency ∧ Within receivables ⟨entry.1, entry.2⟩ := by
  unfold checkDeclared at h
  split at h
  · cases h
  · rename_i r hfind
    simp only [ok_iff, not_not, gt_iff_lt, not_lt] at h
    obtain ⟨hcur, balance, hbalance, hle, -⟩ := h
    obtain ⟨hmem, hid⟩ := of_find hfind
    exact ⟨hcur, r, hmem, hid, balance, hbalance, hle⟩

lemma foldlM_checkDeclared_spec {entries : List (Uuid × Money)} {total total' : ℕ}
    (h : entries.foldlM (checkDeclared funds receivables) total = .ok total') :
    ∀ entry ∈ entries,
      entry.2.currency = funds.currency ∧ Within receivables ⟨entry.1, entry.2⟩ := by
  induction entries generalizing total with
  | nil => simp
  | cons entry entries ih =>
    rw [List.foldlM_cons, bind_eq_ok] at h
    obtain ⟨next, hnext, h⟩ := h
    exact List.forall_mem_cons.mpr ⟨checkDeclared_spec hnext, ih h⟩

lemma allocateExplicit_spec {declared : Declared}
    (h : allocateExplicit funds receivables declared = .ok plans) :
    Lawful funds plans ∧ Capped receivables plans := by
  simp only [allocateExplicit, ok_iff] at h
  obtain ⟨_, -, _, -, total, htotal, _, -, rfl⟩ := h
  have hspec := foldlM_checkDeclared_spec htotal
  have hperm := jsSort_perm (fun a b : Uuid × Money => compareText a.1 b.1)
    (declared.entries.filter (·.2.isPositive))
  have hentry : ∀ p ∈ (jsSort (fun a b : Uuid × Money => compareText a.1 b.1)
      (declared.entries.filter (·.2.isPositive))).map fun e => (⟨e.1, e.2⟩ : StrategyPlan),
      p.amount.currency = funds.currency ∧ Within receivables p := by
    intro p hp
    obtain ⟨e, he, rfl⟩ := List.mem_map.mp hp
    exact hspec e (List.mem_of_mem_filter (hperm.mem_iff.mp he))
  refine ⟨⟨?_, fun p hp => (hentry p hp).1⟩, fun p hp => (hentry p hp).2⟩
  rw [List.map_map]
  refine (hperm.map Prod.fst).nodup_iff.mpr ?_
  exact declared.keys_nodup.sublist (List.filter_sublist.map _)

/-! ### In proportion -/

variable {positive : List (AllocatableReceivable × Money)}

lemma positiveBalances_spec (h : positiveBalances receivables = .ok positive) :
    (∀ p ∈ positive, p.1 ∈ receivables ∧ balanceOf p.1 = .ok p.2 ∧ 0 < p.2.amount) ∧
      ((receivables.map (·.receivableId)).Nodup →
        (positive.map (·.1.receivableId)).Nodup) := by
  simp only [positiveBalances, ok_iff, mapM_eq_ok] at h
  obtain ⟨balances, hbalances, rfl⟩ := h
  have hfst : balances.map Prod.fst = receivables ∧ ∀ p ∈ balances, balanceOf p.1 = .ok p.2 := by
    induction hbalances with
    | nil => simp
    | cons hhead _ ih =>
      obtain ⟨balance, hbalance, rfl⟩ := hhead
      exact ⟨by rw [List.map_cons, ih.1], List.forall_mem_cons.mpr ⟨hbalance, ih.2⟩⟩
  have hperm := jsSort_perm
    (fun a b : AllocatableReceivable × Money => compareText a.1.receivableId b.1.receivableId)
    (balances.filter (·.2.isPositive))
  constructor
  · intro p hp
    obtain ⟨hmem, hpos⟩ := List.mem_filter.mp (hperm.mem_iff.mp hp)
    refine ⟨?_, hfst.2 p hmem, by simpa [Money.isPositive] using hpos⟩
    rw [← hfst.1]
    exact List.mem_map_of_mem hmem
  · intro hnodup
    refine (hperm.map (·.1.receivableId)).nodup_iff.mpr ?_
    rw [← hfst.1, List.map_map] at hnodup
    exact hnodup.sublist (List.filter_sublist.map _)

lemma mem_proportionalLegs {parts : List Money} {p : StrategyPlan}
    (h : p ∈ proportionalLegs funds positive parts) :
    ∃ x ∈ positive.zipIdx,
    p = ⟨x.1.1.receivableId, parts[x.2]?.getD (Money.zero funds.currency)⟩ := by
  obtain ⟨x, hx, rfl⟩ := List.mem_map.mp (List.mem_of_mem_filter h)
  exact ⟨x, hx, rfl⟩

lemma proportionalLegs_sublist (parts : List Money) :
    ((proportionalLegs funds positive parts).map (·.receivableId)).Sublist
      (positive.map (·.1.receivableId)) := by
  have hids : (positive.zipIdx.map fun p => (⟨p.1.1.receivableId,
      parts[p.2]?.getD (Money.zero funds.currency)⟩ : StrategyPlan)).map (·.receivableId) =
      positive.map (·.1.receivableId) := by
    conv_rhs => rw [← List.zipIdx_map_fst 0 positive]
    simp only [List.map_map, Function.comp_def]
  rw [← hids]
  exact List.filter_sublist.map _

lemma allocateProRata_lawful (h : allocateProRata funds receivables = .ok plans) :
    Lawful funds plans := by
  simp only [allocateProRata, bind_eq_ok, assertSingleCurrency_eq_ok, assertNoDuplicates_eq_ok,
    exists_const] at h
  obtain ⟨hcur, hnodup, positive, hpositive, h⟩ := h
  obtain ⟨hspec, hdistinct⟩ := positiveBalances_spec hpositive
  split_ifs at h
  · obtain rfl := pure_eq_ok.mp h
    exact ⟨List.nodup_nil, by simp⟩
  · obtain rfl := pure_eq_ok.mp h
    refine ⟨by simpa [Function.comp_def] using hdistinct hnodup, fun p hp => ?_⟩
    obtain ⟨x, hx, rfl⟩ := List.mem_map.mp hp
    obtain ⟨hmem, hbalance, -⟩ := hspec x hx
    exact (currency_of_balanceOf hbalance).trans (hcur x.1 hmem)
  · obtain ⟨parts, hparts, h⟩ := bind_eq_ok.mp h
    obtain rfl := pure_eq_ok.mp h
    refine ⟨(hdistinct hnodup).sublist (proportionalLegs_sublist parts), fun p hp => ?_⟩
    obtain ⟨x, -, rfl⟩ := mem_proportionalLegs hp
    cases hpart : parts[x.2]? with
    | none => rfl
    | some part => exact Money.currency_of_allocate hparts (List.mem_of_getElem? hpart)

lemma allocateProRata_capped (hexact : exactProportion funds receivables = true)
    (h : allocateProRata funds receivables = .ok plans) : Capped receivables plans := by
  simp only [allocateProRata, bind_eq_ok] at h
  obtain ⟨_, -, _, -, positive, hpositive, h⟩ := h
  obtain ⟨hspec, -⟩ := positiveBalances_spec hpositive
  simp only [exactProportion, hpositive, Bool.or_eq_true, decide_eq_true_eq] at hexact
  split_ifs at h with hempty hfull
  · obtain rfl := pure_eq_ok.mp h
    simp [Capped]
  · obtain rfl := pure_eq_ok.mp h
    intro p hp
    obtain ⟨x, hx, rfl⟩ := List.mem_map.mp hp
    exact ⟨x.1, (hspec x hx).1, rfl, x.2, (hspec x hx).2.1, le_rfl⟩
  · obtain ⟨parts, hparts, h⟩ := bind_eq_ok.mp h
    obtain rfl := pure_eq_ok.mp h
    have hweights : positive.map (fun p => numberOf p.2.amount) =
        (positive.map (·.2.amount)).map numberOf := by simp
    rw [hweights] at hparts
    have hpos : ∀ b ∈ positive.map (·.2.amount), 0 < b := by
      intro b hb
      obtain ⟨x, hx, rfl⟩ := List.mem_map.mp hb
      exact (hspec x hx).2.2
    have hcap := Money.allocate_le_weight (by simpa using hempty) hpos (hexact.resolve_left hfull)
      (Nat.lt_of_not_le hfull) hparts
    rw [List.forall₂_map_right_iff, List.forall₂_iff_get] at hcap
    intro p hp
    obtain ⟨⟨x, k⟩, hx, rfl⟩ := mem_proportionalLegs hp
    have hmem := List.fst_mem_of_mem_zipIdx hx
    refine ⟨x.1, (hspec x hmem).1, rfl, x.2, (hspec x hmem).2.1, ?_⟩
    obtain ⟨hk, hget⟩ := List.getElem?_eq_some_iff.mp (List.mem_zipIdx_iff_getElem?.mp hx)
    have hk' : k < parts.length := by rw [hcap.1]; exact hk
    have hle := hcap.2 k hk' hk
    rw [List.get_eq_getElem, List.get_eq_getElem, show positive[k] = x from hget] at hle
    simpa [List.getElem?_eq_getElem hk'] using hle

end Fuatilia.Allocation
