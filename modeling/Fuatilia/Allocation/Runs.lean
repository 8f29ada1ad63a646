import Fuatilia.Foundations.Keyed
import Fuatilia.Foundations.Machine
import Fuatilia.Allocation.Engine

/-!
# Runs of allocation and reversal

One source of funds, a set of receivables and the rows of executions and reversals. The balances
come out right as long as no proportional split works on balances that sum above `2 ^ 53`: there the
weights lose precision, and a part can exceed its balance.

## Main definitions

* `Setting`, `step` — the source with its receivables, and the rows after a command.
* `InOrder`, `exactSplit` — the law of the rows, and the condition on a split.

## Main results

* `rows_in_order` — the law holds along every run whose splits meet the condition.
* `balance_exceeded_by_split` — a split that does not.
-/

namespace Fuatilia.Allocation

open Fallible Machine Lists

/-! ## The machine -/

structure Setting where
  sourceType : AllocationSourceType
  sourceId : Uuid
  currency : Currency
  amount : Money
  receivables : List AllocatableReceivable

/-- The commands on the rows; a reversal names its row by its position. -/
inductive Command where
  | execute (strategy : AllocationStrategy) (declared : Option Declared) (clock : Clock)
  | reverse (index : ℕ) (reason : String) (clock : Clock) (sequenceNo : Option ℤ)

namespace Setting

def current (S : Setting) (rows : List Row) : Except Thrown (List AllocatableReceivable) :=
  S.receivables.mapM fun r => do
    let balance ← balanceAfter r rows
    return { r with balanceMinor := .money balance }

def execute (S : Setting) (rows : List Row) (strategy : AllocationStrategy)
    (declared : Option Declared) (clock : Clock) : Except Thrown AllocationExecution := do
  let available ← unappliedRemainder S.amount rows
  let receivables ← S.current rows
  executeAllocation {
    source := ⟨S.sourceType, S.sourceId, S.currency, available⟩
    receivables, strategy, clock, declared
    existingAllocations := rows }

end Setting

def step (S : Setting) (rows : List Row) : Command → Option (List Row)
  | .execute strategy declared clock => do
    let e ← (S.execute rows strategy declared clock).toOption
    return rows ++ e.allocations
  | .reverse index reason clock sequenceNo => do
    let original ← rows[index]?
    let r ← (reverseAllocation original reason clock sequenceNo).toOption
    return rows.set index r.original ++ [r.compensating]

/-! ## The rows in order -/

def executedRows (rows : List Row) : List Row := rows.filter fun row => row.reversalOf.isNone

/-- An accepted reversal gives back exactly the amount of its row: to the source, and to every
receivable that the row was allocated to. -/
def GivesBack (S : Setting) (rows : List Row) : Prop :=
  ∀ index reason clock sequenceNo rows',
    step S rows (.reverse index reason clock sequenceNo) = some rows' →
    ∃ original, rows[index]? = some original ∧
      (∃ rest rest', unappliedRemainder S.amount rows = .ok rest ∧
        unappliedRemainder S.amount rows' = .ok rest' ∧
        rest'.amount = rest.amount + original.amountMinor.amount) ∧
      ∀ r ∈ S.receivables, r.receivableId = original.receivableId →
        ∀ balance, balanceOf r = .ok balance →
        ∃ left left', balanceAfter r rows = .ok left ∧ balanceAfter r rows' = .ok left' ∧
          left'.amount = left.amount + original.amountMinor.amount

structure InOrder (S : Setting) (rows : List Row) : Prop where
  balances : ∀ r ∈ S.receivables, ∀ balance, balanceOf r = .ok balance →
    allocatedMinorTo rows r.receivableId ≤ balance.amount
  funds : activeMinor rows ≤ S.amount.amount
  /-- The amount of the source is the active rows and the remainder. -/
  conserved : ∃ rest, unappliedRemainder S.amount rows = .ok rest ∧
    S.amount.amount = activeMinor rows + rest.amount
  /-- A reversal gives back exactly what it reverses. -/
  givesBack : GivesBack S rows
  valid : validateAllocations rows S.amount = .ok ()
  /-- The sequence numbers of the executed rows increase, so they are distinct. -/
  sequence : ((executedRows rows).map (·.sequenceNo)).Pairwise (· < ·)

/-- The condition on a step: a proportional split of funds below the current balances works on
balances that sum to at most `2 ^ 53`. -/
def exactSplit (S : Setting) (rows : List Row) : Command → Bool
  | .execute .pro_rata _ _ =>
    match unappliedRemainder S.amount rows, S.current rows with
    | .ok available, .ok receivables => exactProportion available receivables
    | _, _ => true
  | _ => true

/-! ## What an accepted command does -/

variable {S : Setting} {rows rows' : List Row}

structure Posted (S : Setting) (rows new : List Row) : Prop where
  source : ∀ row ∈ new, row.sourceType = S.sourceType ∧ row.sourceId = S.sourceId
  money : ∀ row ∈ new, row.amountMinor.currency = S.amount.currency ∧ 0 < row.amountMinor.amount
  executed : ∀ row ∈ new, row.reversalOf = none
  fits : activeMinor rows + activeMinor new ≤ S.amount.amount
  increasing : (new.map (·.sequenceNo)).Pairwise (· < ·)
  above : ∀ row ∈ new, nextSequenceNo rows S.sourceId S.sourceType ≤ row.sequenceNo

variable {receivables : List AllocatableReceivable}

lemma mem_current (h : S.current rows = .ok receivables) {x : AllocatableReceivable}
    (hx : x ∈ receivables) :
    ∃ r ∈ S.receivables, r.receivableId = x.receivableId ∧
      ∃ left, balanceAfter r rows = .ok left ∧
        ∀ balance, balanceOf x = .ok balance → balance = left := by
  obtain ⟨r, hr, hview⟩ := (mem_of_mapM_eq_ok h).1 x hx
  simp only [ok_iff] at hview
  obtain ⟨left, hleft, rfl⟩ := hview
  refine ⟨r, hr, rfl, left, hleft, fun balance hbalance => ?_⟩
  simp only [balanceOf, ok_iff] at hbalance
  exact hbalance.2

variable {r : AllocatableReceivable} {plans : List StrategyPlan} {clock : Clock} {index : ℕ}

lemma exists_balanceAfter (h : S.current rows = .ok receivables) (hr : r ∈ S.receivables) :
    ∃ left, balanceAfter r rows = .ok left := by
  obtain ⟨x, -, hview⟩ := (mem_of_mapM_eq_ok h).2 r hr
  obtain ⟨left, hleft, -⟩ := bind_eq_ok.mp hview
  exact ⟨left, hleft⟩

lemma current_ids (h : S.current rows = .ok receivables) :
    receivables.map (·.receivableId) = S.receivables.map (·.receivableId) := by
  rw [Setting.current, mapM_eq_ok] at h
  generalize S.receivables = views at h
  induction h with
  | nil => rfl
  | cons hhead _ ih =>
    simp only [ok_iff] at hhead
    obtain ⟨_, -, rfl⟩ := hhead
    rw [List.map_cons, List.map_cons, ih]

section PostedRows

variable {plans : List StrategyPlan} (source : AllocationSource) (strategy : AllocationStrategy)
  (base : ℤ) (allocatedAt : Date)

lemma map_postedRow {β : Type} (f : Row → β) (g : StrategyPlan → β)
    (hfg : ∀ p k, f (postedRow source strategy base allocatedAt (p, k)) = g p) :
    (plans.zipIdx.map (postedRow source strategy base allocatedAt)).map f = plans.map g := by
  conv_rhs => rw [← List.zipIdx_map_fst 0 plans]
  rw [List.map_map, List.map_map]
  exact List.map_congr_left fun p _ => hfg p.1 p.2

lemma activeMinor_posted :
    activeMinor (plans.zipIdx.map (postedRow source strategy base allocatedAt)) =
      (plans.map (·.amount.amount)).sum := by
  rw [activeMinor_eq_sum, map_postedRow source strategy base allocatedAt activeAmount
    (·.amount.amount) fun _ _ => rfl]

lemma allocatedMinorTo_posted (id : Uuid) :
    allocatedMinorTo (plans.zipIdx.map (postedRow source strategy base allocatedAt)) id =
      (plans.map fun p => if p.receivableId = id then p.amount.amount else 0).sum := by
  rw [allocatedMinorTo_eq_sum, map_postedRow source strategy base allocatedAt (amountTo id)
    (fun p => if p.receivableId = id then p.amount.amount else 0) fun _ _ => rfl]

lemma increasing_posted :
    ((plans.zipIdx.map (postedRow source strategy base allocatedAt)).map
      (·.sequenceNo)).Pairwise (· < ·) := by
  rw [List.map_map, List.pairwise_map]
  have hsnd : (plans.zipIdx.map Prod.snd).Pairwise (· < ·) := by
    rw [List.zipIdx_map_snd]
    exact List.pairwise_lt_range'
  rw [List.pairwise_map] at hsnd
  refine hsnd.imp fun {a b} hlt => ?_
  simp only [Function.comp_apply, postedRow]
  omega

end PostedRows

lemma sum_legs_le (hnodup : (plans.map (·.receivableId)).Nodup)
    (id : Uuid) (bound : ℕ) (hle : ∀ p ∈ plans, p.receivableId = id → p.amount.amount ≤ bound) :
    (plans.map fun p => if p.receivableId = id then p.amount.amount else 0).sum ≤ bound := by
  have hsum := Lists.sum_map_filter plans (·.receivableId = id) (·.amount.amount)
  simp only [decide_eq_true_eq] at hsum
  rw [← hsum]
  by_cases hpaid : ∃ p ∈ plans, p.receivableId = id
  · obtain ⟨p, hp, rfl⟩ := hpaid
    rw [Keyed.filter_key hnodup hp]
    simpa using hle p hp rfl
  · rw [List.filter_eq_nil_iff.mpr fun p hp => by simpa using fun hid => hpaid ⟨p, hp, hid⟩]
    exact Nat.zero_le bound

lemma allocated_le_of_capped
    (hcurrent : S.current rows = .ok receivables) (hids : (receivables.map (·.receivableId)).Nodup)
    (hplans : (plans.map (·.receivableId)).Nodup) (hcapped : Capped receivables plans)
    (hr : r ∈ S.receivables) {balance : Money} (hbalance : balanceOf r = .ok balance) :
    allocatedMinorTo rows r.receivableId + (plans.map fun p =>
      if p.receivableId = r.receivableId then p.amount.amount else 0).sum ≤ balance.amount := by
  obtain ⟨left, hleft⟩ := exists_balanceAfter hcurrent hr
  obtain ⟨balance', hbalance', hle, hleft'⟩ := balanceAfter_eq_ok.mp hleft
  obtain rfl : balance' = balance := by simpa [hbalance] using hbalance'.symm
  have hlegs := sum_legs_le hplans r.receivableId left.amount ?_
  · rw [hleft'] at hlegs
    dsimp only at hlegs
    omega
  · intro p hp hid
    obtain ⟨x, hx, hxid, xbalance, hxbalance, hpx⟩ := hcapped p hp
    obtain ⟨r', hr', hr'id, left', hleft', hview⟩ := mem_current hcurrent hx
    -- the identifiers are distinct, so the leg's receivable is this one
    rw [current_ids hcurrent] at hids
    have hrr' : r' = r :=
      List.inj_on_of_nodup_map hids hr' hr (hr'id.trans (hxid.trans hid))
    rw [hrr', hleft] at hleft'
    rw [hview xbalance hxbalance, ← Except.ok.inj hleft'] at hpx
    exact hpx

lemma execute_effect {strategy : AllocationStrategy} {declared : Option Declared}
    (h : step S rows (.execute strategy declared clock) = some rows') :
    ∃ new, rows' = rows ++ new ∧ Posted S rows new ∧
      (exactSplit S rows (.execute strategy declared clock) = true →
        ∀ r ∈ S.receivables, ∀ balance, balanceOf r = .ok balance →
          allocatedMinorTo rows r.receivableId + allocatedMinorTo new r.receivableId ≤
            balance.amount) := by
  simp only [step, Option.bind_eq_bind, Option.bind_eq_some_iff, toOption_eq_some,
    Option.pure_def, Option.some.injEq] at h
  obtain ⟨e, he, rfl⟩ := h
  simp only [Setting.execute, bind_eq_ok] at he
  obtain ⟨available, havailable, receivables, hcurrent, he⟩ := he
  obtain ⟨plans, hplans, hsum, hpos, hrows⟩ := executeAllocation_inversion he
  obtain ⟨hwithin, havail⟩ := unappliedRemainder_eq_ok.mp havailable
  have hlawful := planWithStrategy_lawful hplans
  refine ⟨e.allocations, rfl, ?_, ?_⟩
  · rw [hrows]
    refine ⟨List.forall_mem_map.mpr fun _ _ => ⟨rfl, rfl⟩, List.forall_mem_map.mpr fun p hp => ?_,
      List.forall_mem_map.mpr fun _ _ => rfl, ?_, increasing_posted _ _ _ _,
      List.forall_mem_map.mpr fun p _ => ?_⟩
    · have hp := List.fst_mem_of_mem_zipIdx hp
      refine ⟨(hlawful.currency p.1 hp).trans ?_, hpos p.1 hp⟩
      rw [havail]
    · rw [activeMinor_posted]
      rw [havail] at hsum
      dsimp only at hsum
      omega
    · simp only [postedRow]
      omega
  · intro hexact r hr balance hbalance
    rw [hrows, allocatedMinorTo_posted]
    refine allocated_le_of_capped hcurrent (planWithStrategy_nodup hplans) hlawful.distinct
      (planWithStrategy_capped (fun hstrategy => ?_) hplans) hr hbalance
    dsimp only at hstrategy
    subst hstrategy
    simpa only [exactSplit, havailable, hcurrent] using hexact

/-- The rows after an accepted reversal: an active row replaced by an inactive copy, and an inactive
row of the same source and amount appended. -/
structure Reversed (rows : List Row) (index : ℕ) (original : Row) (rows' : List Row) : Prop where
  found : rows[index]? = some original
  active : isActive original = true
  stamped : ∃ copy compensating, rows' = rows.set index copy ++ [compensating] ∧
    isActive copy = false ∧ isActive compensating = false ∧
    (∀ row ∈ [copy, compensating], row.sourceType = original.sourceType ∧
      row.sourceId = original.sourceId ∧ row.amountMinor = original.amountMinor) ∧
    copy.sequenceNo = original.sequenceNo ∧ copy.reversalOf = original.reversalOf ∧
    compensating.reversalOf ≠ none

lemma reverse_effect {reason : String} {sequenceNo : Option ℤ}
    (h : step S rows (.reverse index reason clock sequenceNo) = some rows') :
    ∃ original, Reversed rows index original rows' := by
  obtain ⟨original, hfound, r, hr, rfl⟩ := lookup_eq_some.mp h
  obtain ⟨hreversed, hreversal, horiginal, htype, hid, hamount, hof⟩ :=
    reverseAllocation_inversion hr
  refine ⟨original, hfound, by simp [isActive, hreversed, hreversal], r.original, r.compensating,
    rfl, ?_, ?_, ?_, ?_, ?_, ?_⟩
  · simp [isActive, horiginal]
  · simp [isActive, hof]
  · simp [horiginal, htype, hid, hamount]
  · rw [horiginal]
  · rw [horiginal]
  · simp [hof]

namespace Reversed

variable {index : ℕ} {original : Row}

lemma activeMinor_add (h : Reversed rows index original rows') :
    activeMinor rows' + original.amountMinor.amount = activeMinor rows := by
  obtain ⟨copy, compensating, rfl, hcopy, hcomp, -⟩ := h.stamped
  have := activeMinor_reverse h.found hcopy hcomp
  rwa [activeAmount, if_pos h.active] at this

lemma allocatedMinorTo_add (h : Reversed rows index original rows') (id : Uuid) :
    allocatedMinorTo rows' id +
        (if original.receivableId = id then original.amountMinor.amount else 0) =
      allocatedMinorTo rows id := by
  obtain ⟨copy, compensating, rfl, hcopy, hcomp, -⟩ := h.stamped
  have := allocatedMinorTo_reverse h.found hcopy hcomp id
  rwa [amountTo, activeAmount, if_pos h.active] at this

lemma executed_sequence (h : Reversed rows index original rows') :
    (executedRows rows').map (·.sequenceNo) = (executedRows rows).map (·.sequenceNo) := by
  obtain ⟨copy, compensating, rfl, -, -, -, hseq, hof, hcomp⟩ := h.stamped
  have hview : ∀ rs : List Row, (executedRows rs).map (·.sequenceNo) =
      ((rs.map fun row => (row.reversalOf.isNone, row.sequenceNo)).filter Prod.fst).map
        Prod.snd := by
    intro rs
    simp [executedRows, List.filter_map, Function.comp_def]
  have hcomp' : compensating.reversalOf.isNone = false := by
    simpa [Option.isNone_eq_false_iff, Option.isSome_iff_ne_none] using hcomp
  rw [hview, hview, List.map_append, map_set_of_eq _ h.found (by rw [hseq, hof])]
  simp [hcomp']

end Reversed

/-! ## The invariant -/

structure Kept (S : Setting) (rows : List Row) : Prop where
  balances : ∀ r ∈ S.receivables, ∀ balance, balanceOf r = .ok balance →
    allocatedMinorTo rows r.receivableId ≤ balance.amount
  funds : activeMinor rows ≤ S.amount.amount
  sourced : ∀ row ∈ rows, (row.sourceType = S.sourceType ∧ row.sourceId = S.sourceId) ∧
    row.amountMinor.currency = S.amount.currency ∧ 0 < row.amountMinor.amount
  sequence : ((executedRows rows).map (·.sequenceNo)).Pairwise (· < ·)

lemma kept_nil : Kept S [] where
  balances := by simp [allocatedMinorTo, activeAllocations]
  funds := by simp [activeMinor, activeAllocations]
  sourced := by simp
  sequence := by simp [executedRows]

lemma kept_execute {new : List Row} (hkept : Kept S rows) (hposted : Posted S rows new)
    (hcap : ∀ r ∈ S.receivables, ∀ balance, balanceOf r = .ok balance →
      allocatedMinorTo rows r.receivableId + allocatedMinorTo new r.receivableId ≤
        balance.amount) : Kept S (rows ++ new) where
  balances r hr balance hbalance := by
    rw [allocatedMinorTo_append]
    exact hcap r hr balance hbalance
  funds := by
    rw [activeMinor_append]
    exact hposted.fits
  sourced row hrow := by
    rcases List.mem_append.mp hrow with hrow | hrow
    · exact hkept.sourced row hrow
    · exact ⟨hposted.source row hrow, hposted.money row hrow⟩
  sequence := by
    have hnew : executedRows new = new :=
      List.filter_eq_self.mpr fun row hrow => by simp [hposted.executed row hrow]
    have hsplit : executedRows (rows ++ new) = executedRows rows ++ new := by
      rw [executedRows, List.filter_append]
      exact congrArg _ hnew
    rw [hsplit, List.map_append, List.pairwise_append]
    refine ⟨hkept.sequence, hposted.increasing, ?_⟩
    intro a ha b hb
    obtain ⟨old, hold, rfl⟩ := List.mem_map.mp ha
    obtain ⟨row, hrow, rfl⟩ := List.mem_map.mp hb
    have hmem := List.mem_of_mem_filter hold
    have hlt := lt_nextSequenceNo hmem
    obtain ⟨⟨htype, hid⟩, -⟩ := hkept.sourced old hmem
    rw [htype, hid] at hlt
    exact hlt.trans_le (hposted.above row hrow)

lemma kept_reverse {original : Row} (hkept : Kept S rows)
    (h : Reversed rows index original rows') : Kept S rows' where
  balances r hr balance hbalance := by
    have := hkept.balances r hr balance hbalance
    have := h.allocatedMinorTo_add r.receivableId
    omega
  funds := by
    have := h.activeMinor_add
    have := hkept.funds
    omega
  sourced := by
    obtain ⟨copy, compensating, rfl, -, -, hsame, -⟩ := h.stamped
    have horiginal := hkept.sourced original (List.mem_of_getElem? h.found)
    have hnew : ∀ row ∈ [copy, compensating],
        (row.sourceType = S.sourceType ∧ row.sourceId = S.sourceId) ∧
          row.amountMinor.currency = S.amount.currency ∧ 0 < row.amountMinor.amount := by
      intro row hrow
      obtain ⟨htype, hid, hamount⟩ := hsame row hrow
      rw [htype, hid, hamount]
      exact horiginal
    intro row hrow
    rcases List.mem_append.mp hrow with hrow | hrow
    · rcases mem_set_cases hrow with rfl | ⟨k, -, hk⟩
      · exact hnew row (by simp)
      · exact hkept.sourced row (List.mem_of_getElem? hk)
    · exact hnew row (by simp_all)
  sequence := by
    rw [h.executed_sequence]
    exact hkept.sequence

lemma kept_of_step {c : Command} (hkept : Kept S rows) (hexact : exactSplit S rows c = true)
    (h : step S rows c = some rows') : Kept S rows' := by
  cases c with
  | execute strategy declared clock =>
    obtain ⟨new, rfl, hposted, hcap⟩ := execute_effect h
    exact kept_execute hkept hposted (hcap hexact)
  | reverse index reason clock sequenceNo =>
    obtain ⟨original, hreversed⟩ := reverse_effect h
    exact kept_reverse hkept hreversed

lemma Kept.givesBack (hkept : Kept S rows) : GivesBack S rows := by
  intro index reason clock sequenceNo rows' h
  obtain ⟨original, hreversed⟩ := reverse_effect h
  have hkept' := kept_reverse hkept hreversed
  refine ⟨original, hreversed.found, ⟨_, _, unappliedRemainder_eq_ok.mpr ⟨hkept.funds, rfl⟩,
    unappliedRemainder_eq_ok.mpr ⟨hkept'.funds, rfl⟩, ?_⟩, ?_⟩
  · have := hreversed.activeMinor_add
    have := hkept.funds
    dsimp only
    omega
  · intro r hr hid balance hbalance
    have hle := hkept.balances r hr balance hbalance
    refine ⟨_, _, balanceAfter_eq_ok.mpr ⟨balance, hbalance, hle, rfl⟩,
      balanceAfter_eq_ok.mpr ⟨balance, hbalance, hkept'.balances r hr balance hbalance, rfl⟩, ?_⟩
    have := hreversed.allocatedMinorTo_add r.receivableId
    rw [if_pos hid.symm] at this
    dsimp only
    omega

lemma Kept.inOrder (hkept : Kept S rows) : InOrder S rows where
  balances := hkept.balances
  funds := hkept.funds
  conserved := ⟨_, unappliedRemainder_eq_ok.mpr ⟨hkept.funds, rfl⟩, by
    have := hkept.funds
    dsimp only
    omega⟩
  givesBack := hkept.givesBack
  valid := by
    refine validateAllocations_eq_ok.mpr ⟨fun row hrow => ⟨fun first hfirst => ?_, ?_⟩, hkept.funds⟩
    · obtain ⟨⟨htype, hid⟩, -⟩ := hkept.sourced row hrow
      obtain ⟨⟨htype', hid'⟩, -⟩ := hkept.sourced first (List.mem_of_mem_head? hfirst)
      exact ⟨htype.trans htype'.symm, hid.trans hid'.symm⟩
    · exact (hkept.sourced row hrow).2
  sequence := hkept.sequence

/-! ## Runs -/

/-- **Allocation and reversal keep the rows in order.** Along every run whose proportional splits
work on balances that sum to at most `2 ^ 53`: the active rows stay within the balances and the
funds, the remainder is what they leave, a reversal gives back its amount, the rows pass their
check, and the sequence numbers of the executed rows increase. -/
theorem rows_in_order (S : Setting) (cs : List Command)
    (hexact : Meets (step S) (fun rows c => exactSplit S rows c = true) [] cs) (k : ℕ) :
    InOrder S (run (step S) [] (cs.take k)) := by
  have hkept : Kept S (run (step S) [] (cs.take k)) :=
    invariant_at (fun _ _ _ hc hkept hstep => kept_of_step hkept hc hstep) kept_nil hexact k
  exact hkept.inOrder

def twoInvoices : Setting where
  sourceType := .payment
  sourceId := "payment-1"
  currency := .KES
  amount := ⟨100, .KES⟩
  receivables := [⟨"invoice-a", .KES, .minor (.bigint 60), some (.ofTime 0)⟩,
    ⟨"invoice-b", .KES, .minor (.bigint 70), none⟩]

def splitReverseSettle : List Command :=
  [.execute .pro_rata none ⟨fun _ => .ofTime 0⟩,
    .reverse 0 "wrong invoice" ⟨fun _ => .ofTime 1⟩ none, .execute .fifo none ⟨fun _ => .ofTime 2⟩]

/-- The run posts two rows, reverses the first and posts it again, in order at every point. -/
theorem rows_in_order_settled :
    (run (step twoInvoices) [] splitReverseSettle).map
        (fun row => (row.receivableId, row.amountMinor.amount, isActive row, row.sequenceNo)) =
      [("invoice-a", 46, false, 1), ("invoice-b", 54, true, 2), ("invoice-a", 46, false, 1),
        ("invoice-a", 46, true, 3)] ∧
    ∀ k, InOrder twoInvoices (run (step twoInvoices) [] (splitReverseSettle.take k)) :=
  ⟨by decide +kernel, rows_in_order twoInvoices splitReverseSettle (by decide +kernel)⟩

/-- Three invoices whose balances sum above `2 ^ 53`, and a payment one unit below the sum. -/
def largeInvoices : Setting where
  sourceType := .payment
  sourceId := "payment-1"
  currency := .KES
  amount := ⟨9009014635370524, .KES⟩
  receivables := [⟨"invoice-a", .KES, .minor (.bigint 9009014635370291), none⟩,
    ⟨"invoice-b", .KES, .minor (.bigint 161), none⟩,
    ⟨"invoice-c", .KES, .minor (.bigint 73), none⟩]

/-- The proportional split of a payment below the balances over-allocates the first invoice by one
unit, and its balance cannot be computed any more. -/
theorem balance_exceeded_by_split :
    let rows := run (step largeInvoices) [] [.execute .pro_rata none ⟨fun _ => .ofTime 0⟩]
    allocatedMinorTo rows "invoice-a" = 9009014635370292 ∧
      balanceAfter ⟨"invoice-a", .KES, .minor (.bigint 9009014635370291), none⟩ rows =
        .error (DomainError "BALANCE_OVER_ALLOCATED"
          "allocations of 9009014635370292 exceed outstanding 9009014635370291 on invoice-a") ∧
      ¬ InOrder largeInvoices rows := by
  intro rows
  have hover : allocatedMinorTo rows "invoice-a" = 9009014635370292 := by decide +kernel
  refine ⟨hover, by decide +kernel, fun hinOrder => ?_⟩
  have hle := hinOrder.balances ⟨"invoice-a", .KES, .minor (.bigint 9009014635370291), none⟩
    (by decide) ⟨9009014635370291, .KES⟩ (by decide)
  rw [hover] at hle
  exact absurd hle (by decide)

end Fuatilia.Allocation
