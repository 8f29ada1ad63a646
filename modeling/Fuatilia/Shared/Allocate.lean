import Fuatilia.Foundations.Apportion
import Fuatilia.Foundations.Binary64
import Fuatilia.Shared.Money

/-!
# Splitting money by weights

The weights and their sum are scaled by `1e9` and rounded one by one, in double precision; the split
itself is exact.

## Main definitions

* `Fuatilia.Money.allocate` — split an amount by the largest-remainder method.

## Main results

* `Fuatilia.Money.scaling_scale` — the scaling has a relative error of at most `2 ^ (-53)`.
-/

namespace Fuatilia

open Fallible Binary64

/-- `Number(n)` of a big integer. -/
def numberOf (n : ℕ) : Double := Binary64.round n

/-- The text of a number that is not an integer, in the error of `BigInt`. -/
def notIntegerText : Double → String
  | .nan => "NaN"
  | .inf negative => if negative then "-Infinity" else "Infinity"
  | .fin x => toString x

def bigIntOf (x : Double) : Except Thrown ℤ :=
  match x with
  | .fin q => if q.den = 1 then .ok q.num else .error (notInteger x)
  | _ => .error (notInteger x)
where
  notInteger (x : Double) : Thrown := .rangeError
    s!"The number {notIntegerText x} cannot be converted to a BigInt because it is not an integer"

lemma bigIntOf_natCast (n : ℕ) : bigIntOf (.fin n) = .ok (n : ℤ) := by
  simp [bigIntOf]

namespace Money

/-- `BigInt(Math.round(w * 1e9))`, of a weight that is not negative. -/
def scaledWeight (w : Double) : Except Thrown ℕ := do
  let n ← bigIntOf (mathRound (mul w (.fin 1000000000)))
  return n.toNat

def rawShare (m : Money) (sumW : ℕ) (w : Double) (index : ℕ) : Except Thrown Apportion.Share := do
  let scaled ← scaledWeight w
  throwIf (sumW = 0) (.rangeError "Division by zero")
  return Apportion.share m.amount sumW scaled index

def allocate (m : Money) (weights : List Double) : Except Thrown (List Money) := do
  throwIf (weights.length = 0) (DomainError "ALLOCATION_EMPTY" "at least one weight is required")
  throwIf (weights.any fun w => !w.isFinite || w.isNegative)
    (DomainError "ALLOCATION_WEIGHT_INVALID" "weights must be finite and >= 0")
  let total := weights.foldl Binary64.add (.fin 0)
  throwIf total.isNonpos (DomainError "ALLOCATION_WEIGHTS_SUM_ZERO" "sum of weights must be > 0")
  let sumW ← scaledWeight total
  let raw ← weights.zipIdx.mapM fun p => rawShare m sumW p.1 p.2
  return (Apportion.parts m.amount raw).map fun part => ⟨part, m.currency⟩

variable {m : Money} {parts : List Money} {bs : List ℕ}

lemma currency_of_allocate {part : Money} {weights : List Double}
    (h : allocate m weights = .ok parts) (hpart : part ∈ parts) : part.currency = m.currency := by
  simp only [allocate, ok_iff] at h
  obtain ⟨-, -, -, _, -, _, -, rfl⟩ := h
  obtain ⟨_, -, rfl⟩ := List.mem_map.mp hpart
  rfl

/-! ## The scaling -/

def scale (b : ℕ) : ℕ := ((scaledWeight (numberOf b)).toOption).getD 0

lemma scaledWeight_natCast {b : ℕ} (hb : b ≤ 2 ^ 53) :
    scaledWeight (.fin b) = .ok (scale b) ∧
      |(scale b : ℤ) - b * (1000000000 : ℕ)| * (2 ^ 53 : ℕ) ≤ b * (1000000000 : ℕ) := by
  obtain ⟨m, hm, herr⟩ := exists_round_eq (n := b * 1000000000) (by
    calc b * 1000000000 ≤ 2 ^ 53 * 1000000000 := Nat.mul_le_mul_right _ hb
      _ ≤ 2 ^ 200 := by norm_num)
  have hscaled : scaledWeight (.fin b) = .ok m := by
    push_cast at hm
    rw [scaledWeight, mul, hm, mathRound_natCast, bigIntOf_natCast]
    rfl
  have hscale : scale b = m := by
    unfold scale numberOf
    rw [round_of_le hb, hscaled]
    rfl
  rw [hscale]
  exact ⟨hscaled, by exact_mod_cast herr⟩

lemma scaling_scale {S : ℕ} (hS : S ≤ 2 ^ 53) :
    Apportion.Scaling scale 1000000000 (2 ^ 53) S :=
  fun _ hb => (scaledWeight_natCast (hb.trans hS)).2

/-! ## Natural weights -/

lemma foldl_add_natCast (bs : List ℕ) (acc : ℕ) (h : acc + bs.sum ≤ 2 ^ 53) :
    (bs.map numberOf).foldl Binary64.add (.fin acc) = .fin ((acc + bs.sum : ℕ) : ℚ) := by
  induction bs generalizing acc with
  | nil => simp
  | cons b bs ih =>
    rw [List.sum_cons] at h
    have hstep : Binary64.add (.fin acc) (numberOf b) = .fin ((acc + b : ℕ) : ℚ) := by
      rw [numberOf, round_of_le (by omega), Binary64.add, ← Nat.cast_add, round_of_le (by omega)]
    rw [List.map_cons, List.foldl_cons, hstep, ih _ (by omega), List.sum_cons, add_assoc]

lemma rawShare_natCast (m : Money) {S b : ℕ} (hW : 0 < scale S) (hb : b ≤ 2 ^ 53) (index : ℕ) :
    rawShare m (scale S) (numberOf b) index =
      .ok (Apportion.share m.amount (scale S) (scale b) index) := by
  rw [rawShare, numberOf, round_of_le hb, (scaledWeight_natCast hb).1]
  simp [do_eq, hW.ne']

lemma allocate_natCast (m : Money) (hne : bs ≠ []) (hpos : ∀ b ∈ bs, 0 < b)
    (hsum : bs.sum ≤ 2 ^ 53) : allocate m (bs.map numberOf) = .ok
      ((Apportion.parts m.amount (Apportion.scaledShares scale m.amount bs)).map
        fun part => ⟨part, m.currency⟩) := by
  have hle : ∀ b ∈ bs, b ≤ 2 ^ 53 := fun b hb => (List.le_sum_of_mem hb).trans hsum
  have hvalid : ((bs.map numberOf).any fun w => !w.isFinite || w.isNegative) = false := by
    rw [List.any_eq_false]
    intro w hw
    obtain ⟨b, hb, rfl⟩ := List.mem_map.mp hw
    simp [numberOf, round_of_le (hle b hb), Double.isFinite, Double.isNegative]
  have hS : 0 < bs.sum := by
    obtain ⟨b, hb⟩ := List.exists_mem_of_ne_nil bs hne
    exact (hpos b hb).trans_le (List.le_sum_of_mem hb)
  have htotal : (bs.map numberOf).foldl Binary64.add (.fin 0) = .fin (bs.sum : ℕ) := by
    have := foldl_add_natCast bs 0 (by omega)
    simpa using this
  have hW : 0 < scale bs.sum := by
    have := Apportion.total_pos (by norm_num) (by norm_num) (by exact_mod_cast hS)
      (scaledWeight_natCast hsum).2
    exact_mod_cast this
  have hraw : (bs.map numberOf).zipIdx.mapM (fun p => rawShare m (scale bs.sum) p.1 p.2) =
      .ok (Apportion.scaledShares scale m.amount bs) := by
    rw [Apportion.scaledShares_eq, List.zipIdx_map, List.mapM_map]
    refine mapM_eq_ok_map fun p hp => ?_
    exact rawShare_natCast m hW (hle p.1 (List.fst_mem_of_mem_zipIdx hp)) p.2
  have hlen : (bs.map numberOf).length ≠ 0 := by simpa using hne
  have hnonpos : (Double.fin (bs.sum : ℕ)).isNonpos = false := by
    have : (0 : ℚ) < (bs.sum : ℕ) := by exact_mod_cast hS
    simp only [Double.isNonpos, decide_eq_false_iff_not, not_le, this]
  unfold allocate
  simp only [htotal, (scaledWeight_natCast hsum).1, do_eq, hlen, hvalid, hnonpos, if_false,
    Bool.false_eq_true, hraw]

lemma allocate_le_weight (hne : bs ≠ [])
    (hpos : ∀ b ∈ bs, 0 < b) (hsum : bs.sum ≤ 2 ^ 53) (hlt : m.amount < bs.sum)
    (h : allocate m (bs.map numberOf) = .ok parts) :
    List.Forall₂ (fun part b => part.amount ≤ b) parts bs := by
  rw [allocate_natCast m hne hpos hsum] at h
  cases h
  rw [Apportion.parts_scaledShares]
  nth_rewrite 4 [← List.zipIdx_map_fst 0 bs]
  rw [List.map_map, List.forall₂_map_left_iff, List.forall₂_map_right_iff, List.forall₂_same]
  intro p hp
  exact Apportion.part_le_weight (scaling_scale hsum) (by norm_num) (by norm_num) hsum hpos hlt hp

end Money

end Fuatilia
