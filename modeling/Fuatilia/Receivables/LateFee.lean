import Fuatilia.Scheduler.LateFee

/-!
# The amount of a late fee

The domain core computes on unbounded integers and the scheduler on machine integers. A resolved
policy has the same fields in both.

## Main definitions

* `feeAmountOf` — the amount in the domain core.

## Main results

* `feeAmountOf_agree_iff` — where it is the one that the scheduler charges.
-/

namespace Fuatilia.Receivables

open Fallible
open Scheduler (ResolvedLateFeePolicy)

def feeAmountOf (resolved : ResolvedLateFeePolicy) (balanceMinor : ℤ) : ℤ :=
  let uncapped := if resolved.kind = .flat then resolved.flatMinor.getD 0
    else (balanceMinor * resolved.percentBps.getD 0).tdiv 10000
  match resolved.capMinor with
  | some cap => if uncapped > cap then cap else uncapped
  | none => uncapped

/-- A fee limited by the cap of the policy. -/
def limited (cap : Option ℤ) (fee : ℤ) : ℤ := cap.elim fee (min fee)

lemma feeAmountOf_eq_limited (resolved : ResolvedLateFeePolicy) (balance : ℤ) :
    feeAmountOf resolved balance = limited resolved.capMinor
        (if resolved.kind = .flat then resolved.flatMinor.getD 0
          else (balance * resolved.percentBps.getD 0).tdiv 10000) ∧
      Scheduler.feeAmountOf resolved balance = limited resolved.capMinor
        (if resolved.kind = .flat then resolved.flatMinor.getD 0
          else (Backend.int64 (balance * resolved.percentBps.getD 0)).tdiv 10000) := by
  have hcap : ∀ fee c : ℤ, (if fee > c then c else fee) = min fee c := by
    intro fee c
    split_ifs <;> omega
  cases hc : resolved.capMinor <;>
    simp [feeAmountOf, Scheduler.feeAmountOf, hc, limited, ← hcap]

lemma limited_eq_iff {cap : Option ℤ} {a b : ℤ} :
    limited cap a = limited cap b ↔ a = b ∨ ∃ c ∈ cap, c ≤ a ∧ c ≤ b := by
  cases cap with
  | none => simp [limited]
  | some c =>
    simp only [limited, Option.elim, Option.mem_some_iff, exists_eq_left']
    omega

/-- A product that leaves the range loses a multiple of `2 ^ 64`, more than the division forgets. -/
lemma int64_tdiv_eq_iff (x : ℤ) :
    (Backend.int64 x).tdiv 10000 = x.tdiv 10000 ↔ -2 ^ 63 ≤ x ∧ x < 2 ^ 63 := by
  rw [Backend.int64, Int.tdiv_eq_ediv, Int.tdiv_eq_ediv, show Int.sign 10000 = 1 from rfl]
  omega

lemma percentBps_nonneg {policy : Scheduler.LateFeePolicy} {resolved : ResolvedLateFeePolicy}
    (h : Scheduler.validateLateFeePolicy policy = .ok resolved) (hkind : resolved.kind ≠ .flat) :
    0 ≤ resolved.percentBps.getD 0 := by
  obtain ⟨rfl, -⟩ := Scheduler.validateLateFeePolicy_eq_ok h
  simp only [Scheduler.validateLateFeePolicy, seq_eq_ok] at h
  have hformula := h.2.2.1
  rw [Scheduler.validateFormula, if_neg hkind] at hformula
  cases hbps : policy.percentBps with
  | none => rfl
  | some bps =>
    simp only [hbps, Scheduler.requireNonNegative, throwIf_eq_ok] at hformula
    exact not_lt.mp hformula

/-- **Fees of the two implementations.** The scheduler's fee is that of the domain core exactly when
the policy is flat, the product of balance and rate is a machine integer, or the cap limits both;
the fee of the domain core is the floor of the rate's share, within the cap. -/
theorem feeAmountOf_agree_iff (policy : Scheduler.LateFeePolicy) (resolved : ResolvedLateFeePolicy)
    (balance : ℤ) (hpolicy : Scheduler.validateLateFeePolicy policy = .ok resolved) :
    (Scheduler.feeAmountOf resolved balance = feeAmountOf resolved balance ↔
      resolved.kind = .flat ∨
      (-2 ^ 63 ≤ balance * resolved.percentBps.getD 0 ∧
        balance * resolved.percentBps.getD 0 < 2 ^ 63) ∨
      ∃ cap ∈ resolved.capMinor,
        cap ≤ (Backend.int64 (balance * resolved.percentBps.getD 0)).tdiv 10000 ∧
          cap ≤ (balance * resolved.percentBps.getD 0).tdiv 10000) ∧
    (0 ≤ balance → feeAmountOf resolved balance = limited resolved.capMinor
      (if resolved.kind = .flat then resolved.flatMinor.getD 0
        else balance * resolved.percentBps.getD 0 / 10000)) := by
  rw [(feeAmountOf_eq_limited resolved balance).1, (feeAmountOf_eq_limited resolved balance).2]
  by_cases hkind : resolved.kind = .flat
  · simp [hkind]
  · rw [if_neg hkind, if_neg hkind, limited_eq_iff, int64_tdiv_eq_iff, if_neg hkind]
    refine ⟨by simp [hkind, false_or], fun hbalance => ?_⟩
    rw [Int.tdiv_eq_ediv_of_nonneg (mul_nonneg hbalance (percentBps_nonneg hpolicy hkind))]

theorem feeAmountOf_agree_iff_whole :
    Scheduler.validateLateFeePolicy ⟨.percent, none, some 10000, none, 0⟩ =
        .ok ⟨.percent, none, some 10000, none, 0⟩ ∧
      Scheduler.feeAmountOf ⟨.percent, none, some 10000, none, 0⟩ 250 = 250 := by
  have hpolicy : Scheduler.validateLateFeePolicy ⟨.percent, none, some 10000, none, 0⟩ =
    .ok ⟨.percent, none, some 10000, none, 0⟩ := by decide
  exact ⟨hpolicy, (feeAmountOf_agree_iff _ _ 250 hpolicy).1.mpr (.inr (.inl (by decide)))⟩

/-- At a balance of `10 ^ 15` the scheduler's product wraps, and its fee is negative. -/
theorem feeAmountOf_wraps :
    Scheduler.validateLateFeePolicy ⟨.percent, none, some 10000, none, 0⟩ =
        .ok ⟨.percent, none, some 10000, none, 0⟩ ∧
      feeAmountOf ⟨.percent, none, some 10000, none, 0⟩ (10 ^ 15) = 10 ^ 15 ∧
      Scheduler.feeAmountOf ⟨.percent, none, some 10000, none, 0⟩ (10 ^ 15) = -844674407370955 := by
  decide

end Fuatilia.Receivables
