import Fuatilia.Allocation.Strategies
import Fuatilia.Foundations.Scans
import Fuatilia.Shared.TextOrder

/-!
# Oldest first, completely

The queue is in the order of due date and identifier, undated receivables last. Its comparator
answers `NaN` for an invalid due date: then the order of the input decides.

## Main definitions

* `queueKey`, `given` — the order of the queue, and what a plan gives to a receivable.

## Main results

* `allocateOldestFirst_complete` — a receivable gets its balance, up to what those before it leave.
* `invalid_date_order` — an order that the input decides.
-/

namespace Fuatilia.Allocation

open Fallible

/-! ## The queue -/

/-- Due date and identifier; an undated receivable is due last. -/
def queueKey (r : AllocatableReceivable) : Lex (WithTop ℤ × List ℕ) :=
  toLex (match r.dueDate with
    | some (.ofTime ms) => (ms : WithTop ℤ)
    | _ => ⊤, codeUnits r.receivableId)

def given (plans : List StrategyPlan) (id : Uuid) : ℕ :=
  ((plans.filter (·.receivableId = id)).map (·.amount.amount)).sum

variable {receivables : List AllocatableReceivable}

lemma compareDue_ne_gt {a b : AllocatableReceivable} (ha : a.dueDate ≠ some .invalid)
    (hb : b.dueDate ≠ some .invalid) : compareDue a b ≠ .gt ↔ queueKey a ≤ queueKey b := by
  rw [queueKey, queueKey, Prod.Lex.toLex_le_toLex]
  unfold compareDue dueTime
  rcases hda : a.dueDate with _ | _ | s <;> rcases hdb : b.dueDate with _ | _ | t
  · simpa using compareText_ne_gt
  · exact absurd hdb hb
  · simp
  · exact absurd hda ha
  · exact absurd hda ha
  · exact absurd hda ha
  · simp
  · exact absurd hdb hb
  · by_cases hst : s = t
    · subst hst
      simpa using compareText_ne_gt
    · simp only [hst, not_false_eq_true, if_true, ne_eq, compare_gt_iff_gt, WithTop.coe_lt_coe,
        WithTop.coe_inj, false_and, or_false]
      omega

lemma compareDue_order (hvalid : ∀ r ∈ receivables, r.dueDate ≠ some .invalid) :
    ∀ a ∈ receivables, ∀ b ∈ receivables, compareDue a b ≠ .gt ↔ queueKey a ≤ queueKey b :=
  fun a ha b hb => compareDue_ne_gt (hvalid a ha) (hvalid b hb)

/-! ## The walk -/

lemma given_eq_zero {plans : List StrategyPlan} {id : Uuid}
    (h : id ∉ plans.map (·.receivableId)) : given plans id = 0 := by
  have hnone : plans.filter (·.receivableId = id) = [] := by
    refine List.filter_eq_nil_iff.mpr fun p hp => ?_
    simp only [decide_eq_true_eq]
    rintro rfl
    exact h (List.mem_map_of_mem hp)
  rw [given, hnone]
  rfl

/-- **The walk along a queue.** It never throws, gives out all that the balances can take, and each
receivable gets its balance up to what the ones before it leave. -/
lemma takeInTurn_complete (currency : Currency) (balance : AllocatableReceivable → ℕ)
    {queue : List AllocatableReceivable}
    (hbalance : ∀ r ∈ queue, ∃ m, balanceOf r = .ok m ∧ m.amount = balance r)
    (hnodup : (queue.map (·.receivableId)).Nodup) (remaining : ℕ) :
    ∃ plans, takeInTurn currency remaining queue = .ok plans ∧
      (plans.map (·.amount.amount)).sum = min remaining (queue.map balance).sum ∧
      ∀ before r after, queue = before ++ r :: after →
        given plans r.receivableId = min (balance r) (remaining - (before.map balance).sum) := by
  induction queue generalizing remaining with
  | nil => exact ⟨[], rfl, by simp, by simp⟩
  | cons r queue ih =>
    by_cases hzero : remaining = 0
    · subst hzero
      exact ⟨[], by simp [takeInTurn, pure, Except.pure], by simp, by simp [given]⟩
    obtain ⟨m, hm, hamount⟩ := hbalance r List.mem_cons_self
    rw [List.map_cons, List.nodup_cons] at hnodup
    obtain ⟨plans, hplans, hsum, hgiven⟩ := ih (fun x hx => hbalance x (List.mem_cons_of_mem _ hx))
      hnodup.2 (remaining - taken m.amount remaining)
    have hfresh : given plans r.receivableId = 0 :=
      given_eq_zero fun hid => hnodup.1 ((takeInTurn_spec hplans).1.subset hid)
    have htaken : taken m.amount remaining = min (balance r) remaining := by
      rw [taken, ← hamount]
      split_ifs <;> omega
    -- the legs of the queue are those of the rest, with one in front unless the balance is zero
    obtain ⟨all, hall, hallSum, hallGiven⟩ : ∃ all,
        takeInTurn currency remaining (r :: queue) = .ok all ∧
        (all.map (·.amount.amount)).sum =
          taken m.amount remaining + (plans.map (·.amount.amount)).sum ∧
        ∀ id, given all id = (if r.receivableId = id then taken m.amount remaining else 0) +
          given plans id := by
      by_cases hpos : m.isPositive = true
      · refine ⟨⟨r.receivableId, ⟨taken m.amount remaining, currency⟩⟩ :: plans, ?_, by simp, ?_⟩
        · simp [takeInTurn, hzero, hm, hpos, hplans, Money.ofMinor_natCast, do_eq]
        · intro id
          by_cases hid : r.receivableId = id <;> simp [given, hid]
      · have hnone : taken m.amount remaining = 0 := by
          have : m.amount = 0 := by simpa [Money.isPositive] using hpos
          rw [htaken]
          omega
        refine ⟨plans, ?_, by simp [hnone], by simp [hnone]⟩
        rw [hnone, Nat.sub_zero] at hplans
        simp [takeInTurn, hzero, hm, hpos, hplans, do_eq]
    refine ⟨all, hall, ?_, fun before x after hsplit => ?_⟩
    · rw [hallSum, hsum, htaken, List.map_cons, List.sum_cons]
      omega
    · rw [hallGiven]
      rcases before with _ | ⟨y, before⟩
      · cases hsplit
        simp [hfresh, htaken]
      · obtain ⟨rfl, hrest⟩ := List.cons.inj hsplit
        have hne : r.receivableId ≠ x.receivableId := fun hid => hnodup.1 (by rw [hid, hrest]; simp)
        rw [if_neg hne, hgiven before x after hrest, htaken, List.map_cons, List.sum_cons]
        omega

/-- **Oldest first.** For receivables with distinct identifiers and balances in the currency of the
funds: the strategy gives out all that the balances can take, and never more than a balance. If no
due date is invalid, a receivable gets money only if every one before it in the queue is paid in
full, and every permutation of the input gives the same plan.

**Proof sketch.** Each receivable gets its balance up to what those before it leave. With valid due
dates the comparator is the order of `queueKey`, so the queue is the same for every permutation. -/
theorem allocateOldestFirst_complete (funds : Money) (receivables : List AllocatableReceivable)
    (balance : AllocatableReceivable → ℕ)
    (hcurrency : ∀ r ∈ receivables, r.currency = funds.currency)
    (hbalance : ∀ r ∈ receivables, ∃ m, balanceOf r = .ok m ∧ m.amount = balance r)
    (hnodup : (receivables.map (·.receivableId)).Nodup) :
    ∃ plans, allocateOldestFirst funds receivables = .ok plans ∧
      (plans.map (·.amount.amount)).sum = min funds.amount (receivables.map balance).sum ∧
      (∀ r ∈ receivables, given plans r.receivableId ≤ balance r) ∧
      ((∀ r ∈ receivables, r.dueDate ≠ some .invalid) →
        (∀ r ∈ receivables, ∀ r' ∈ receivables, queueKey r' < queueKey r →
          0 < given plans r.receivableId → given plans r'.receivableId = balance r') ∧
        ∀ permuted, receivables.Perm permuted →
        allocateOldestFirst funds permuted = .ok plans) := by
  have hqueue := jsSort_perm compareDue receivables
  obtain ⟨plans, hplans, hsum, hgiven⟩ := takeInTurn_complete funds.currency balance
    (fun r hr => hbalance r (hqueue.mem_iff.mp hr))
    ((hqueue.map (·.receivableId)).nodup_iff.mpr hnodup) funds.amount
  have hrun : ∀ rs, receivables.Perm rs → jsSort compareDue rs = jsSort compareDue receivables →
      allocateOldestFirst funds rs = .ok plans := by
    intro rs hperm hsame
    have hsingle : assertSingleCurrency funds rs = .ok () :=
      assertSingleCurrency_eq_ok.mpr fun r hr => hcurrency r (hperm.mem_iff.mpr hr)
    have hdistinct : assertNoDuplicates rs = .ok () :=
      assertNoDuplicates_eq_ok.mpr ((hperm.map (·.receivableId)).nodup_iff.mp hnodup)
    rw [allocateOldestFirst, hsingle, hdistinct, hsame]
    exact hplans
  refine ⟨plans, hrun _ (List.Perm.refl _) rfl, ?_, fun r hr => ?_, fun hvalid => ⟨?_, ?_⟩⟩
  · rw [hsum, (hqueue.map balance).sum_eq]
  · obtain ⟨before, after, hsplit⟩ := List.append_of_mem (hqueue.mem_iff.mpr hr)
    rw [hgiven before r after hsplit]
    exact min_le_left _ _
  · intro r hr r' hr' hkey hpaid
    have hsorted : (jsSort compareDue receivables).Pairwise fun a b => queueKey a < queueKey b :=
      Scans.pairwise_insertionSort (compareDue_order hvalid) (nodup_map_codeUnits _ hnodup)
    obtain ⟨before, after, hsplit⟩ := List.append_of_mem (hqueue.mem_iff.mpr hr)
    have hbefore : r' ∈ before := by
      rw [hsplit] at hsorted
      refine (Scans.mem_before_iff_lt hsorted).mpr ⟨?_, hkey⟩
      rw [← hsplit]
      exact hqueue.mem_iff.mpr hr'
    obtain ⟨first, rest, rfl⟩ := List.append_of_mem hbefore
    rw [hgiven _ r after hsplit] at hpaid
    rw [hgiven first r' (rest ++ r :: after) (by rw [hsplit]; simp)]
    simp only [List.map_append, List.map_cons, List.sum_append, List.sum_cons] at hpaid
    omega
  · intro permuted hperm
    exact hrun permuted hperm
      (Scans.insertionSort_eq_of_perm (compareDue_order hvalid) (nodup_map_codeUnits _ hnodup)
        hperm)

def owing (id : Uuid) (dueDate : Option Date) : AllocatableReceivable :=
  ⟨id, .KES, .money ⟨100, .KES⟩, dueDate⟩

/-- 1.50 KES over two dated receivables: the older one is paid first, in either order. -/
theorem allocateOldestFirst_complete_dated :
    let receivables := [owing "b" (some (.ofTime 1)), owing "a" (some (.ofTime 0))]
    ∃ plans, allocateOldestFirst ⟨150, .KES⟩ receivables = .ok plans ∧
      (plans.map (·.amount.amount)).sum = 150 ∧
      allocateOldestFirst ⟨150, .KES⟩ receivables.reverse = .ok plans := by
  intro receivables
  obtain ⟨plans, hplans, hsum, -, hvalid⟩ := allocateOldestFirst_complete ⟨150, .KES⟩ receivables
    (fun _ => 100) (by decide)
    (by simp [receivables, owing, balanceOf, throwIf, bind, Except.bind, pure, Except.pure])
    (by decide)
  exact ⟨plans, hplans, hsum,
    (hvalid (by decide)).2 _ (List.reverse_perm receivables).symm⟩

/-- **An invalid due date.** It compares as equal to every date, so 1.00 KES goes to whichever of
the two receivables comes first in the input. -/
theorem invalid_date_order :
    let a := owing "a" (some .invalid)
    let b := owing "b" (some (.ofTime 0))
    allocateOldestFirst ⟨100, .KES⟩ [a, b] = .ok [⟨"a", ⟨100, .KES⟩⟩] ∧
      allocateOldestFirst ⟨100, .KES⟩ [b, a] = .ok [⟨"b", ⟨100, .KES⟩⟩] := by
  decide

end Fuatilia.Allocation
