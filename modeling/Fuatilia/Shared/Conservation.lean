import Fuatilia.Shared.Allocate

/-!
# Conservation of the split

The weights of a split are scaled and rounded one by one, and their sum is scaled and rounded
separately. So the scaled weights need not sum to the scaled sum, and the leftover that this leaves
need not fit into one unit for each weight: the parts then sum to more or to less than the amount.
The backend's twin computes the same split.

## Main definitions

* `Backend.allocate` — the backend's split.
* `ScaledWeights` — admitted weights with their rounded values and their rounded sum.

## Main results

* `allocate_conserves` — how near the rounded weights must sum to the rounded sum.
-/

namespace Fuatilia

open Fallible Binary64 Apportion

/-! ## The backend's split -/

namespace Backend

/-- `math.Round(f * 1e9)` of a weight that is not negative, as a big integer. -/
def scaledWeight (w : Double) : Except Thrown ℕ :=
  match Money.scaledWeight w with
  | .ok scaled => .ok scaled
  | .error _ => .error (DomainError "ALLOCATION_WEIGHT_INVALID"
      s!"weight {notIntegerText w} scales out of representable range")

/-- `m.Allocate(weights)` of a non-negative `int64` amount. The order of the leftover units and the
loop that gives them out are those of the other implementation. -/
def allocate (amount : ℕ) (weights : List Double) : Except Thrown (List ℕ) := do
  throwIf (weights.length = 0) (DomainError "ALLOCATION_EMPTY" "at least one weight is required")
  throwIf (weights.any fun w => !w.isFinite || w.isNegative)
    (DomainError "ALLOCATION_WEIGHT_INVALID" "weights must be finite and >= 0")
  let total := weights.foldl Binary64.add (.fin 0)
  throwIf total.isNonpos (DomainError "ALLOCATION_WEIGHTS_SUM_ZERO" "sum of weights must be > 0")
  let sumW ← scaledWeight total
  throwIf (sumW = 0) (DomainError "ALLOCATION_WEIGHTS_SUM_ZERO" "sum of weights must be > 0")
  let raw ← weights.zipIdx.mapM fun p => do
    let scaled ← scaledWeight p.1
    return share amount sumW scaled p.2
  let leftover := leftover amount raw
  throwIf (leftover < -2 ^ 63 ∨ 2 ^ 63 ≤ leftover)
    (DomainError "MONEY_OVERFLOW" "allocation leftover overflows int64 minor units")
  let parts := parts amount raw
  throwIf (∃ part ∈ parts, 2 ^ 63 ≤ part)
    (DomainError "MONEY_OVERFLOW" "allocation part overflows int64 minor units")
  return parts

lemma scaledWeight_eq_ok {w : Double} {scaled : ℕ} :
    scaledWeight w = .ok scaled ↔ Money.scaledWeight w = .ok scaled := by
  unfold scaledWeight
  cases Money.scaledWeight w <;> simp

end Backend

/-! ## When the parts sum to the amount -/

/-- Weights that a split admits (at least one, finite, not negative, with a positive sum), with
`round(w * 1e9)` of their sum and of each of them. -/
structure ScaledWeights (weights : List Double) (sumW : ℕ) (scaled : List ℕ) : Prop where
  nonempty : weights.length ≠ 0
  valid : ¬ (weights.any fun w => !w.isFinite || w.isNegative) = true
  positive : ¬ (weights.foldl Binary64.add (.fin 0)).isNonpos = true
  total : Money.scaledWeight (weights.foldl Binary64.add (.fin 0)) = .ok sumW
  each : weights.mapM Money.scaledWeight = .ok scaled

variable {amount sumW : ℕ} {weights : List Double} {scaled : List ℕ}

lemma mapM_shares {f : Double → ℕ → Except Thrown Apportion.Share}
    (hf : ∀ w i s, Money.scaledWeight w = .ok s → f w i = .ok (share amount sumW s i)) {n : ℕ}
    (h : weights.mapM Money.scaledWeight = .ok scaled) :
    (weights.zipIdx n).mapM (fun p => f p.1 p.2) =
      .ok ((scaled.zipIdx n).map fun p => share amount sumW p.1 p.2) := by
  induction weights generalizing n scaled with
  | nil =>
    obtain rfl := pure_eq_ok.mp h
    rfl
  | cons w weights ih =>
    simp only [List.mapM_cons, ok_iff] at h
    obtain ⟨s, hs, rest, hrest, rfl⟩ := h
    simp [hf w n s hs, ih hrest, do_eq]

lemma Money.allocate_eq (hweights : ScaledWeights weights sumW scaled) (hpos : 0 < sumW)
    (m : Money) : m.allocate weights =
      .ok ((parts m.amount (shares m.amount sumW scaled)).map fun part => ⟨part, m.currency⟩) := by
  have hraw : weights.zipIdx.mapM (fun p => m.rawShare sumW p.1 p.2) =
      .ok (shares m.amount sumW scaled) :=
    mapM_shares (fun w i s hs => by simp [Money.rawShare, hs, do_eq, hpos.ne']) hweights.each
  simp only [Money.allocate, do_eq, hweights.nonempty, hweights.valid, hweights.positive,
    hweights.total, hraw, Bool.false_eq_true, if_false]

lemma Backend.allocate_eq_ok (hweights : ScaledWeights weights sumW scaled) (hpos : 0 < sumW)
    {ps : List ℕ} : Backend.allocate amount weights = .ok ps ↔
    ¬ (leftover amount (shares amount sumW scaled) < -2 ^ 63 ∨
        2 ^ 63 ≤ leftover amount (shares amount sumW scaled)) ∧
      (¬ ∃ part ∈ parts amount (shares amount sumW scaled), 2 ^ 63 ≤ part) ∧
      ps = parts amount (shares amount sumW scaled) := by
  have hraw : weights.zipIdx.mapM (fun p => do
      let scaled ← Backend.scaledWeight p.1
      return share amount sumW scaled p.2) = .ok (shares amount sumW scaled) :=
    mapM_shares (f := fun w i => do
      let scaled ← Backend.scaledWeight w
      return share amount sumW scaled i)
      (fun w i s hs => by simp [Backend.scaledWeight_eq_ok.mpr hs, do_eq]) hweights.each
  simp only [Backend.allocate, ok_iff, hweights.nonempty, hweights.valid, hweights.positive,
    Backend.scaledWeight_eq_ok.mpr hweights.total, hpos.ne', not_false_eq_true, true_and,
    Except.ok.injEq, exists_eq_left', hraw, Bool.false_eq_true]

/-- **How near the rounded weights must sum to the rounded sum.** Where the rounded sum is positive
and the amount's share of the difference is less than one unit, the parts sum to the amount. Where
it is more than one unit for each weight, they do not. -/
theorem allocate_conserves (m : Money) (weights : List Double) (sumW : ℕ) (scaled : List ℕ)
    (hweights : ScaledWeights weights sumW scaled) (hpos : 0 < sumW) :
    (m.amount * |(scaled.sum : ℤ) - sumW| < sumW →
      (∃ parts, m.allocate weights = .ok parts ∧ (parts.map Money.amount).sum = m.amount) ∧
        (m.amount < 2 ^ 63 → ∃ parts, Backend.allocate m.amount weights = .ok parts ∧
          parts.sum = m.amount)) ∧
    ((sumW * weights.length : ℤ) < m.amount * |(scaled.sum : ℤ) - sumW| →
      (∀ parts, m.allocate weights = .ok parts → (parts.map Money.amount).sum ≠ m.amount) ∧
        ∀ parts, Backend.allocate m.amount weights = .ok parts → parts.sum ≠ m.amount) := by
  have hamounts : ∀ ps : List ℕ,
      (ps.map fun part => (⟨part, m.currency⟩ : Money)).map Money.amount = ps := by
    intro ps
    rw [List.map_map]
    exact List.map_id ps
  rw [Money.allocate_eq hweights hpos m]
  constructor
  · intro hnear
    have hsum := sum_parts_of_near hpos hnear
    refine ⟨⟨_, rfl, by rw [hamounts, hsum]⟩, fun hbound => ⟨_,
      (Backend.allocate_eq_ok hweights hpos).mpr ⟨?_, ?_, rfl⟩, hsum⟩⟩
    · obtain ⟨hle, -⟩ := (sum_parts_eq_iff m.amount (nodup_index_shares _ _ _)).mp hsum
      rw [leftover]
      omega
    · rintro ⟨part, hpart, hbig⟩
      have hle := List.le_sum_of_mem hpart
      omega
  · intro hfar
    rw [← (mapM_eq_ok.mp hweights.each).length_eq.symm] at hfar
    have hsum := sum_parts_of_far hpos hfar
    refine ⟨fun ps hps => ?_, fun ps hps => ?_⟩
    · rw [← Except.ok.inj hps, hamounts]
      exact hsum
    · rw [((Backend.allocate_eq_ok hweights hpos).mp hps).2.2]
      exact hsum

/-- One hundred in the ratio of one to two. -/
theorem allocate_conserves_thirds : ∃ parts,
    Money.allocate ⟨100, .KES⟩ [.fin 1, .fin 2] = .ok parts ∧
      (parts.map Money.amount).sum = 100 := by
  have hweights : ScaledWeights [.fin 1, .fin 2] 3000000000 [1000000000, 2000000000] := by
    constructor <;> decide +kernel
  exact ((allocate_conserves ⟨100, .KES⟩ _ _ _ hweights (by decide)).1 (by decide)).1

/-- **Ninety-seven cents are lost.** Three weights of `2 ^ (-31)` are scaled to zero each, and their
sum to one: each of the three parts of 1.00 is one cent. -/
theorem tiny_weights_lose_money :
    let weights := List.replicate 3 (Double.fin (1 / 2 ^ 31))
    Money.allocate ⟨100, .KES⟩ weights = .ok (List.replicate 3 ⟨1, .KES⟩) ∧
      Backend.allocate 100 weights = .ok [1, 1, 1] := by
  decide +kernel

end Fuatilia
