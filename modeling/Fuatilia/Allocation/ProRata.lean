import Fuatilia.Allocation.OldestFirst
import Fuatilia.Foundations.Keyed

/-!
# In proportion, completely

Balances are rounded to doubles before they are divided, so a part may be more than one unit away
from its exact share: by the relative error of the two roundings.

## Main definitions

* `NearShare` — the distance to the exact share.

## Main results

* `allocateProRata_near` — every receivable gets an amount near its share.
-/

namespace Fuatilia.Allocation

open Fallible Apportion

def exactShare (available total balance : ℕ) : ℚ := (min available total : ℕ) * balance / total

/-- Within one unit of the exact share, and a relative error of two roundings of a double. -/
def NearShare (available total balance amount : ℕ) : Prop :=
  |(amount : ℚ) - exactShare available total balance| ≤
    1 + 2 / (2 ^ 53 - 1) * exactShare available total balance

lemma nearShare_of_near {available total balance amount : ℕ} (hle : available ≤ total)
    (hpos : 0 < total) (h : |(amount : ℤ) * total - available * balance| * ((2 ^ 53 : ℕ) - 1) ≤
      total * ((2 ^ 53 : ℕ) - 1) + 2 * (available * balance)) :
    NearShare available total balance amount := by
  have htotal : (0 : ℚ) < total := by exact_mod_cast hpos
  have h' : |(amount : ℚ) * total - available * balance| * (2 ^ 53 - 1) ≤
      total * (2 ^ 53 - 1) + 2 * (available * balance) := by exact_mod_cast h
  have hbound : (1 + 2 / (2 ^ 53 - 1) * ((available : ℚ) * balance / total)) * total =
      (total * (2 ^ 53 - 1) + 2 * (available * balance)) / (2 ^ 53 - 1) := by
    field_simp
  rw [NearShare, exactShare, min_eq_left hle, sub_div' htotal.ne', abs_div, abs_of_pos htotal,
    div_le_iff₀ htotal, hbound, le_div_iff₀ (by norm_num)]
  exact h'

/-! ## Legs -/

def legs {α : Type} (id : α → Uuid) (amount : α → Money) (l : List α) : List StrategyPlan :=
  (l.map fun x => ⟨id x, amount x⟩).filter (·.amount.isPositive)

variable {α : Type} {id : α → Uuid} {amount : α → Money}

lemma sum_legs (l : List α) :
    ((legs id amount l).map (·.amount.amount)).sum = (l.map fun x => (amount x).amount).sum := by
  rw [legs, Lists.sum_map_filter, List.map_map]
  refine congrArg List.sum (List.map_congr_left fun x _ => ?_)
  simp only [Function.comp_apply, Money.isPositive, decide_eq_true_eq]
  split_ifs <;> omega

lemma given_legs {l : List α} (hnodup : (l.map id).Nodup) {x : α} (hx : x ∈ l) :
    given (legs id amount l) (id x) = (amount x).amount := by
  have hcomm : given (legs id amount l) (id x) =
      ((legs id amount (l.filter fun y => id y = id x)).map (·.amount.amount)).sum := by
    simp [given, legs, List.filter_map, Function.comp_def, Bool.and_comm]
  rw [hcomm, sum_legs, Keyed.filter_key hnodup hx]
  simp

/-! ## The split -/

variable {funds : Money} {receivables : List AllocatableReceivable}
  {positive : List (AllocatableReceivable × Money)}

lemma positiveBalances_perm {balance : AllocatableReceivable → ℕ}
    (hcurrency : ∀ r ∈ receivables, r.currency = funds.currency)
    (hbalance : ∀ r ∈ receivables, ∃ m, balanceOf r = .ok m ∧ m.amount = balance r)
    (hpos : ∀ r ∈ receivables, 0 < balance r) :
    ∃ positive, positiveBalances receivables = .ok positive ∧
      positive.Perm (receivables.map fun r => (r, ⟨balance r, funds.currency⟩)) := by
  have hmapM : (receivables.mapM fun r => do
      let balance ← balanceOf r
      return (r, balance)) = .ok (receivables.map fun r => (r, ⟨balance r, funds.currency⟩)) := by
    refine mapM_eq_ok_map fun r hr => ?_
    obtain ⟨m, hm, hamount⟩ := hbalance r hr
    have hm' : m = ⟨balance r, funds.currency⟩ := by
      rw [← hamount, ← hcurrency r hr, ← currency_of_balanceOf hm]
    rw [hm, hm']
    rfl
  have hall : (receivables.map fun r => (r, (⟨balance r, funds.currency⟩ : Money))).filter
      (·.2.isPositive) = receivables.map fun r => (r, ⟨balance r, funds.currency⟩) := by
    refine List.filter_eq_self.mpr fun p hp => ?_
    obtain ⟨r, hr, rfl⟩ := List.mem_map.mp hp
    simpa [Money.isPositive] using hpos r hr
  refine ⟨_, by rw [positiveBalances, hmapM]; rfl, ?_⟩
  rw [hall]
  exact jsSort_perm _ _

/-- **The split of less than the outstanding debt.** It succeeds and gives out the funds; each
balance gets a part that is at most the balance and near its share. -/
lemma split_near (hids : (positive.map (·.1.receivableId)).Nodup)
    (hpos : ∀ p ∈ positive, 0 < p.2.amount) (hsum : outstanding positive < 2 ^ 52)
    (hlt : funds.amount < outstanding positive) :
    ∃ parts, funds.allocate (positive.map fun p => numberOf p.2.amount) = .ok parts ∧
      ((proportionalLegs funds positive parts).map (·.amount.amount)).sum = funds.amount ∧
      ∀ p ∈ positive,
        given (proportionalLegs funds positive parts) p.1.receivableId ≤ p.2.amount ∧
        NearShare funds.amount (outstanding positive) p.2.amount
          (given (proportionalLegs funds positive parts) p.1.receivableId) := by
  set bs := positive.map (·.2.amount) with hbs
  have hposb : ∀ b ∈ bs, 0 < b := by
    intro b hb
    obtain ⟨p, hp, rfl⟩ := List.mem_map.mp hb
    exact hpos p hp
  have hS : bs.sum = outstanding positive := rfl
  have hne : bs ≠ [] := by
    rintro hnil
    rw [← hS, hnil] at hlt
    simp at hlt
  have hscale := Money.scaling_scale (S := bs.sum) (by omega)
  have hallocate := funds.allocate_natCast hne hposb (by omega)
  rw [hbs, List.map_map] at hallocate
  -- the leg at a position is the part of its balance
  set part : (AllocatableReceivable × Money) × ℕ → ℕ := fun x =>
    part funds.amount (scaledShares Money.scale funds.amount bs)
      (scaledShare Money.scale funds.amount bs (x.1.2.amount, x.2)) with hpart
  have hparts : parts funds.amount (scaledShares Money.scale funds.amount bs) =
      positive.zipIdx.map part := by
    rw [parts_scaledShares]
    nth_rewrite 3 [hbs]
    rw [List.zipIdx_map, List.map_map]
    rfl
  rw [hparts, List.map_map] at hallocate
  have hlegs : proportionalLegs funds positive
      (positive.zipIdx.map ((fun part => (⟨part, funds.currency⟩ : Money)) ∘ part)) =
      legs (·.1.1.receivableId) (fun x => ⟨part x, funds.currency⟩) positive.zipIdx := by
    refine congrArg (List.filter _) (List.map_congr_left fun x hx => ?_)
    have hget : positive.zipIdx[x.2]? = some x := by
      rw [List.getElem?_zipIdx, List.mem_zipIdx_iff_getElem?.mp hx]
      simp
    simp [hget]
  refine ⟨_, hallocate, ?_, fun p hp => ?_⟩
  · rw [hlegs, sum_legs, ← hparts]
    exact sum_parts_scaledShares hscale (by norm_num) (by omega) (by omega)
  · obtain ⟨k, hk⟩ := List.mem_iff_getElem?.mp hp
    have hx : (p, k) ∈ positive.zipIdx := List.mem_zipIdx_iff_getElem?.mpr hk
    have hb : (p.2.amount, k) ∈ bs.zipIdx :=
      List.mem_zipIdx_iff_getElem?.mpr (by simp [bs, hk])
    have hids' : (positive.zipIdx.map (·.1.1.receivableId)).Nodup := by
      rw [← List.zipIdx_map_fst 0 positive, List.map_map] at hids
      exact hids
    rw [hlegs, given_legs hids' hx]
    refine ⟨part_le_weight hscale (by norm_num) (by norm_num) (by omega) hposb hlt hb,
      nearShare_of_near hlt.le (by omega) ?_⟩
    exact part_near hscale (by norm_num) (by norm_num) hposb funds.amount hb

/-- **In proportion.** For receivables with distinct identifiers and positive balances in the
currency of the funds that sum to less than `2 ^ 52`: the strategy gives out all that the balances
can take, and each receivable gets at most its balance and an amount near its exact share. -/
theorem allocateProRata_near (funds : Money) (receivables : List AllocatableReceivable)
    (balance : AllocatableReceivable → ℕ)
    (hcurrency : ∀ r ∈ receivables, r.currency = funds.currency)
    (hbalance : ∀ r ∈ receivables, ∃ m, balanceOf r = .ok m ∧ m.amount = balance r)
    (hnodup : (receivables.map (·.receivableId)).Nodup)
    (hpos : ∀ r ∈ receivables, 0 < balance r) (hsum : (receivables.map balance).sum < 2 ^ 52) :
    ∃ plans, allocateProRata funds receivables = .ok plans ∧
      (plans.map (·.amount.amount)).sum = min funds.amount (receivables.map balance).sum ∧
      ∀ r ∈ receivables, given plans r.receivableId ≤ balance r ∧
        NearShare funds.amount (receivables.map balance).sum (balance r)
          (given plans r.receivableId) := by
  obtain ⟨positive, hpositive, hperm⟩ := positiveBalances_perm hcurrency hbalance hpos
  have hS : outstanding positive = (receivables.map balance).sum := by
    rw [outstanding, (hperm.map (·.2.amount)).sum_eq, List.map_map]
    rfl
  obtain ⟨hspec, hids⟩ := positiveBalances_spec hpositive
  have hmem : ∀ r ∈ receivables, (r, ⟨balance r, funds.currency⟩) ∈ positive :=
    fun r hr => hperm.mem_iff.mpr (List.mem_map_of_mem hr)
  have hrun : allocateProRata funds receivables = if positive.length = 0 then .ok [] else
      if outstanding positive ≤ funds.amount then
        .ok (positive.map fun p => ⟨p.1.receivableId, p.2⟩)
      else do
        let parts ← funds.allocate (positive.map fun p => numberOf p.2.amount)
        return proportionalLegs funds positive parts := by
    have hsingle : assertSingleCurrency funds receivables = .ok () :=
      assertSingleCurrency_eq_ok.mpr hcurrency
    have hdistinct : assertNoDuplicates receivables = .ok () := assertNoDuplicates_eq_ok.mpr hnodup
    rw [allocateProRata, hsingle, hdistinct, hpositive]
    rfl
  by_cases hfull : outstanding positive ≤ funds.amount
  · -- the debt is absorbed: every receivable gets its balance
    have hlegs : positive.map (fun p => (⟨p.1.receivableId, p.2⟩ : StrategyPlan)) =
        legs (·.1.receivableId) (·.2) positive := by
      refine (List.filter_eq_self.mpr fun p hp => ?_).symm
      obtain ⟨x, hx, rfl⟩ := List.mem_map.mp hp
      simpa [Money.isPositive] using (hspec x hx).2.2
    refine ⟨legs (·.1.receivableId) (·.2) positive, ?_, ?_, fun r hr => ?_⟩
    · rw [hrun, if_pos hfull, hlegs]
      split_ifs with hempty
      · rw [List.length_eq_zero_iff.mp hempty]
        rfl
      · rfl
    · rw [sum_legs, min_eq_right (hS ▸ hfull)]
      exact hS
    · rw [given_legs (hids hnodup) (hmem r hr)]
      have hle : balance r ≤ (receivables.map balance).sum :=
        List.le_sum_of_mem (List.mem_map_of_mem hr)
      have hne : ((receivables.map balance).sum : ℚ) ≠ 0 := by
        have := hpos r hr
        exact_mod_cast (by omega : (receivables.map balance).sum ≠ 0)
      refine ⟨le_rfl, ?_⟩
      rw [NearShare, exactShare, min_eq_right (hS ▸ hfull), mul_div_cancel_left₀ _ hne, sub_self,
        abs_zero]
      positivity
  · obtain ⟨parts, hparts, htotal, hnear⟩ := split_near (hids hnodup) (fun p hp => (hspec p hp).2.2)
      (hS ▸ hsum) (not_le.mp hfull)
    have hempty : positive.length ≠ 0 := by
      intro hempty
      simp [List.length_eq_zero_iff.mp hempty, outstanding] at hfull
    refine ⟨_, by rw [hrun, if_neg hempty, if_neg hfull, hparts]; rfl, by omega, fun r hr => ?_⟩
    rw [← hS]
    exact hnear _ (hmem r hr)

def owed (id : Uuid) (balance : ℕ) : AllocatableReceivable :=
  ⟨id, .KES, .money ⟨balance, .KES⟩, none⟩

/-- 1.01 KES over two balances of 1.00 KES. -/
theorem allocateProRata_near_halves :
    let receivables := [owed "b" 100, owed "a" 100]
    ∃ plans, allocateProRata ⟨101, .KES⟩ receivables = .ok plans ∧
      (plans.map (·.amount.amount)).sum = 101 ∧
      ∀ r ∈ receivables, NearShare 101 200 100 (given plans r.receivableId) := by
  intro receivables
  obtain ⟨plans, hplans, hsum, hnear⟩ := allocateProRata_near ⟨101, .KES⟩ receivables (fun _ => 100)
    (by decide)
    (by simp [receivables, owed, balanceOf, throwIf, bind, Except.bind, pure, Except.pure])
    (by decide) (by decide) (by decide)
  exact ⟨plans, hplans, hsum, fun r hr => (hnear r hr).2⟩

/-- **More than one unit above the share.** The weight of the large balance is rounded up when it is
scaled. -/
theorem large_balance_overpaid :
    allocateProRata ⟨3694663728046291, .KES⟩
        [owed "a" 3949099999999970, owed "b" 10, owed "c" 10, owed "d" 10] =
      .ok [⟨"a", ⟨3694663728046264, .KES⟩⟩, ⟨"b", ⟨9, .KES⟩⟩, ⟨"c", ⟨9, .KES⟩⟩, ⟨"d", ⟨9, .KES⟩⟩] ∧
    1 < 3694663728046264 - exactShare 3694663728046291 3949100000000000 3949099999999970 := by
  decide +kernel

end Fuatilia.Allocation
