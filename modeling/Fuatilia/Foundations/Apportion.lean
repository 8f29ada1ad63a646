import Fuatilia.Foundations.Scans

/-!
# Largest-remainder apportionment over inexact weights

An amount is split over weights out of a total: every share gets the whole part of its quotient, and
what is left over goes, one unit each, to the shares with the largest remainders. Total and weights
may come out of an inexact scaling of exact weights `b`. If these sum to more than the amount, does
a share never get more than its weight (the *cap*)? It does not for every scaling. It does for a
relative error of at most `1/q`, as long as the weights sum to at most `q`.

## Main definitions

* `Apportion.Share`, `Apportion.shares`, `Apportion.parts`, `Apportion.Scaling`.

## Main results

* `Apportion.sum_parts_of_near`, `Apportion.sum_parts_of_far` — when the parts sum to the amount.
* `Apportion.rank_lt_of_bumped`, `Apportion.part_le_weight` — the cap.
* `Apportion.sum_parts_scaledShares`, `Apportion.part_near` — the split under a scaling.
-/

namespace Apportion

/-! ## The split -/

structure Share where
  index : ℕ
  base : ℕ
  rem : ℕ

def share (amount total weight index : ℕ) : Share :=
  ⟨index, amount * weight / total, amount * weight % total⟩

def shares (amount total : ℕ) (weights : List ℕ) : List Share :=
  weights.zipIdx.map fun p => share amount total p.1 p.2

/-- A share comes before another in the order of the leftover units: its remainder is larger, or
the same at an earlier position. -/
def Before (a b : Share) : Prop := b.rem < a.rem ∨ (b.rem = a.rem ∧ a.index < b.index)
  deriving Decidable

def order (ss : List Share) : List Share := ss.insertionSort fun a b => ¬ Before b a

/-- What the whole parts leave over of the amount; negative when they exceed it. -/
def leftover (amount : ℕ) (ss : List Share) : ℤ := amount - ((ss.map Share.base).sum : ℕ)

def bumped (amount : ℕ) (ss : List Share) : List ℕ :=
  ((order ss).take (leftover amount ss).toNat).map Share.index

def part (amount : ℕ) (ss : List Share) (s : Share) : ℕ :=
  if s.index ∈ bumped amount ss then s.base + 1 else s.base

def parts (amount : ℕ) (ss : List Share) : List ℕ := ss.map (part amount ss)

/-! ## Ranks -/

lemma before_irrefl (a : Share) : ¬ Before a a := by
  simp [Before]

/-- The order of the leftover units as the order of a key. -/
def orderKey (s : Share) : ℕᵒᵈ ×ₗ ℕ := toLex (OrderDual.toDual s.rem, s.index)

lemma orderKey_lt_iff (a b : Share) : orderKey a < orderKey b ↔ Before a b := by
  simp [orderKey, Before, Prod.Lex.toLex_lt_toLex, eq_comm]

variable {l ss : List Share} {c t r : ℤ} {β : Type*}

/-- A share that gets a leftover unit has fewer shares before it than there are leftover units. -/
lemma rank_lt_of_bumped {amount : ℕ} {s : Share} (hnodup : (ss.map Share.index).Nodup) (hs : s ∈ ss)
    (h : s.index ∈ bumped amount ss) :
    (ss.countP (fun y => Before y s) : ℤ) < leftover amount ss := by
  have hperm : (order ss).Perm ss := List.perm_insertionSort _ _
  have hkeys : (ss.map orderKey).Nodup := by
    refine List.Nodup.of_map (fun key => (ofLex key).2) ?_
    rw [List.map_map]
    exact hnodup
  have hsorted : (order ss).Pairwise fun a b => orderKey a < orderKey b :=
    Scans.pairwise_insertionSort (fun a _ b _ => by rw [← orderKey_lt_iff, not_lt]) hkeys
  obtain ⟨t, ht, hts⟩ := List.mem_map.mp h
  obtain rfl : t = s :=
    List.inj_on_of_nodup_map hnodup (hperm.mem_iff.mp (List.mem_of_mem_take ht)) hs hts
  obtain ⟨before, after, hsplit⟩ := List.append_of_mem (hperm.mem_iff.mpr hs)
  rw [hsplit] at hsorted hperm ht
  have hnot : t ∉ before := fun hmem => lt_irrefl _ ((Scans.mem_before_iff_lt hsorted).mp hmem).2
  have hcount := Scans.length_before hsorted
  simp only [orderKey_lt_iff] at hcount
  rw [hperm.countP_eq] at hcount
  have := (Scans.mem_take_iff hnot).mp ht
  omega

/-! ## The sum of the parts -/

/-- Of shares at distinct positions, exactly the first `k` are at a position of the first `k`. -/
lemma countP_index_mem_take (hnodup : (l.map Share.index).Nodup) (k : ℕ) :
    l.countP (fun s => s.index ∈ (l.take k).map Share.index) = min k l.length := by
  have htake : (l.take k).countP (fun s => s.index ∈ (l.take k).map Share.index) =
      (l.take k).length :=
    List.countP_eq_length.mpr fun s hs => decide_eq_true (List.mem_map_of_mem hs)
  have hdrop : (l.drop k).countP (fun s => s.index ∈ (l.take k).map Share.index) = 0 := by
    refine List.countP_eq_zero.mpr fun s hs hmem => ?_
    rw [← List.take_append_drop k l, List.map_append] at hnodup
    exact List.disjoint_of_nodup_append hnodup (of_decide_eq_true hmem) (List.mem_map_of_mem hs)
  have hsplit : (l.take k ++ l.drop k).countP
      (fun s => s.index ∈ (l.take k).map Share.index) = _ := List.countP_append
  rw [List.take_append_drop, htake, hdrop, List.length_take, add_zero] at hsplit
  exact hsplit

/-- **The sum of the parts.** The leftover units are given out, as far as there are shares. -/
lemma sum_parts (amount : ℕ) (hnodup : (ss.map Share.index).Nodup) : (parts amount ss).sum =
      (ss.map Share.base).sum + min (leftover amount ss).toNat ss.length := by
  have hperm : (order ss).Perm ss := List.perm_insertionSort _ _
  have hcount : ss.countP (fun s => s.index ∈ bumped amount ss) =
      min (leftover amount ss).toNat ss.length := by
    rw [← hperm.countP_eq, ← hperm.length_eq]
    exact countP_index_mem_take ((hperm.map Share.index).nodup_iff.mpr hnodup) _
  have hsplit : ∀ l : List Share, (l.map (part amount ss)).sum =
      (l.map Share.base).sum + l.countP fun s => s.index ∈ bumped amount ss := by
    intro l
    induction l with
    | nil => rfl
    | cons s l ih =>
      by_cases hs : s.index ∈ bumped amount ss <;> simp [part, hs, ih] <;> omega
  rw [parts, hsplit, hcount]

/-- The parts sum to the amount exactly when the whole parts do not exceed it and fall short of it
by at most one unit for each share. -/
lemma sum_parts_eq_iff (amount : ℕ) (hnodup : (ss.map Share.index).Nodup) :
    (parts amount ss).sum = amount ↔
      (ss.map Share.base).sum ≤ amount ∧ amount ≤ (ss.map Share.base).sum + ss.length := by
  rw [sum_parts amount hnodup, leftover]
  omega

lemma nodup_index_shares (amount total : ℕ) (weights : List ℕ) :
    ((shares amount total weights).map Share.index).Nodup := by
  have hindex : (shares amount total weights).map Share.index = weights.zipIdx.map Prod.snd := by
    simp [shares, share, Function.comp_def]
  rw [hindex, List.zipIdx_map_snd]
  exact List.nodup_range'

lemma map_base_shares (amount total : ℕ) (ws : List ℕ) :
    (shares amount total ws).map Share.base = ws.map fun w => amount * w / total := by
  nth_rewrite 2 [← List.zipIdx_map_fst 0 ws]
  rw [shares, List.map_map, List.map_map]
  rfl

/-! ## Conservation -/

lemma sum_whole_bounds (amount : ℕ) {total : ℕ} (htotal : 0 < total) (ws : List ℕ) :
    total * (ws.map fun w => amount * w / total).sum ≤ amount * ws.sum ∧
      amount * ws.sum ≤ total * ((ws.map fun w => amount * w / total).sum + ws.length) := by
  induction ws with
  | nil => simp
  | cons w ws ih =>
    have hle := Nat.mul_div_le (amount * w) total
    have hlt := Nat.lt_mul_div_succ (amount * w) htotal
    simp only [List.map_cons, List.sum_cons, List.length_cons, Nat.mul_add, Nat.mul_one] at *
    omega

variable {amount total : ℕ} {ws : List ℕ}

/-- **Conservation.** The parts sum to the amount if the weights sum to the total so nearly that the
amount's share of the difference is less than one unit. -/
theorem sum_parts_of_near (htotal : 0 < total) (hnear : amount * |(ws.sum : ℤ) - total| < total) :
    (parts amount (shares amount total ws)).sum = amount := by
  obtain ⟨hle, hge⟩ := sum_whole_bounds amount htotal ws
  rw [sum_parts_eq_iff amount (nodup_index_shares _ _ _), map_base_shares]
  simp only [shares, List.length_map, List.length_zipIdx]
  generalize (ws.map fun w => amount * w / total).sum = whole at hle hge ⊢
  generalize ws.sum = weight at hle hge hnear
  zify at hle hge htotal ⊢
  have hup := mul_le_mul_of_nonneg_left (le_abs_self ((weight : ℤ) - total))
    (Int.natCast_nonneg amount)
  have hdown := mul_le_mul_of_nonneg_left (neg_abs_le ((weight : ℤ) - total))
    (Int.natCast_nonneg amount)
  constructor
  · refine Int.lt_add_one_iff.mp (lt_of_mul_lt_mul_left (a := (total : ℤ)) ?_ htotal.le)
    linarith
  · refine Int.lt_add_one_iff.mp (lt_of_mul_lt_mul_left (a := (total : ℤ)) ?_ htotal.le)
    linarith

/-- The parts do not sum to the amount if its share of the difference is more than one unit for each
weight. -/
theorem sum_parts_of_far (htotal : 0 < total)
    (hfar : (total * ws.length : ℤ) < amount * |(ws.sum : ℤ) - total|) :
    (parts amount (shares amount total ws)).sum ≠ amount := by
  obtain ⟨hle, hge⟩ := sum_whole_bounds amount htotal ws
  rw [Ne, sum_parts_eq_iff amount (nodup_index_shares _ _ _), map_base_shares]
  simp only [shares, List.length_map, List.length_zipIdx]
  generalize (ws.map fun w => amount * w / total).sum = whole at hle hge ⊢
  generalize ws.sum = weight at hle hge hfar
  rintro ⟨hfits, hreaches⟩
  have hfits := Nat.mul_le_mul_left total hfits
  have hreaches := Nat.mul_le_mul_left total hreaches
  zify at hle hge hfits hreaches
  rcases abs_cases ((weight : ℤ) - total) with ⟨habs, -⟩ | ⟨habs, -⟩ <;> rw [habs] at hfar <;>
    linarith

/-! ## Scalings -/

/-- A scaling by the factor `G` whose relative error on the weights up to `S` is at most `1/q`. -/
def Scaling (scale : ℕ → ℕ) (G q S : ℕ) : Prop :=
  ∀ b ≤ S, |(scale b : ℤ) - b * G| * q ≤ b * G

variable {G q S A b s W : ℤ}

lemma scaled_bounds (hq : 0 ≤ q) (hs : |s - b * G| * q ≤ b * G) :
    b * G * (q - 1) ≤ s * q ∧ s * q ≤ b * G * (q + 1) := by
  have hlow := mul_le_mul_of_nonneg_right (neg_abs_le (s - b * G)) hq
  have hup := mul_le_mul_of_nonneg_right (le_abs_self (s - b * G)) hq
  constructor <;> linarith

/-- A comparison of exact weights with room for both relative errors carries over to the scaled
ones. -/
lemma scaled_lt_of_cross (hG : 0 < G) (hq : 0 < q) (hA : 0 ≤ A) (hc : 0 ≤ c)
    (hs : |s - b * G| * q ≤ b * G) (hW : |W - S * G| * q ≤ S * G)
    (hcross : A * (b * (q + 1)) < c * (S * (q - 1))) : A * s < c * W := by
  have hmul : A * s * q < c * W * q := by
    calc A * s * q = A * (s * q) := by ring
      _ ≤ A * (b * G * (q + 1)) := mul_le_mul_of_nonneg_left (scaled_bounds hq.le hs).2 hA
      _ = A * (b * (q + 1)) * G := by ring
      _ < c * (S * (q - 1)) * G := mul_lt_mul_of_pos_right hcross hG
      _ = c * (S * G * (q - 1)) := by ring
      _ ≤ c * (W * q) := mul_le_mul_of_nonneg_left (scaled_bounds hq.le hW).1 hc
      _ = c * W * q := by ring
  exact lt_of_mul_lt_mul_right hmul hq.le

lemma quotient_lt_of_add_two_le (hG : 0 < G) (hq : 0 < q) (hSq : S ≤ q) (hA : 0 ≤ A)
    (hAS : A + 2 ≤ S) (hb : 0 < b) (hs : |s - b * G| * q ≤ b * G) (hW : |W - S * G| * q ≤ S * G) :
    A * s < b * W := by
  have hcross : A * (q + 1) < S * (q - 1) := by nlinarith
  exact scaled_lt_of_cross hG hq hA hb.le hs hW (by nlinarith)

lemma slack_nonneg (hG : 0 < G) (hq : 0 < q) (hSq : S ≤ q) (hW : |W - S * G| * q ≤ S * G) :
    0 ≤ W - (S - 1) * G := by
  have hW' := (scaled_bounds hq.le hW).1
  have hmul : 0 ≤ (W - (S - 1) * G) * q := by nlinarith
  exact nonneg_of_mul_nonneg_left hmul hq

lemma slack_le_of_reaches (hq : 0 < q) (hS : 1 ≤ S) (hb : 0 < b) (hs : |s - b * G| * q ≤ b * G)
    (hreach : b * W ≤ (S - 1) * s) : q * (W - (S - 1) * G) ≤ (S - 1) * G := by
  have hD' : (s - b * G) * q ≤ b * G := by linarith [(scaled_bounds hq.le hs).2]
  have hmul : b * (q * (W - (S - 1) * G)) ≤ b * ((S - 1) * G) := by
    calc b * (q * (W - (S - 1) * G)) = q * (b * W) - q * (b * ((S - 1) * G)) := by ring
      _ ≤ q * ((S - 1) * s) - q * (b * ((S - 1) * G)) := by
        have := mul_le_mul_of_nonneg_left hreach hq.le
        linarith
      _ = (S - 1) * ((s - b * G) * q) := by ring
      _ ≤ (S - 1) * (b * G) := mul_le_mul_of_nonneg_left hD' (by omega)
      _ = b * ((S - 1) * G) := by ring
  exact le_of_mul_le_mul_left hmul hb

/-- What a share falls short of its weight, in units of the scaled total: the slack's part and the
scaling error. -/
lemma shortfall_eq (b s W : ℤ) :
    b * W - (S - 1) * s = b * (W - (S - 1) * G) - (S - 1) * (s - b * G) := by
  ring

section Slack

variable (hG : 0 < G) (hq : 0 < q) (hS : 1 < S) (hslack : 0 ≤ W - (S - 1) * G)

include hG hq hS hslack

/-- A multiple of the scaled total that is below `2 (S - 1) G` over `q` is bounded by the weight. -/
lemma bound_of_scaled_lt (hc : 0 ≤ c) (h : q * (c * W) < t * ((S - 1) * G)) : q * c < t := by
  have hG' : 0 < (S - 1) * G := mul_pos (by omega) hG
  have hcW : q * c * ((S - 1) * G) < t * ((S - 1) * G) := by
    have := mul_le_mul_of_nonneg_left (mul_le_mul_of_nonneg_left hslack hc) hq.le
    nlinarith
  exact lt_of_mul_lt_mul_right hcW hG'.le

lemma bound_of_scaled (hc : 0 ≤ c) (h : q * (c * W) ≤ t * ((S - 1) * G)) : q * c ≤ t := by
  have hG' : 0 < (S - 1) * G := mul_pos (by omega) hG
  exact Int.lt_add_one_iff.mp (bound_of_scaled_lt hG hq hS hslack hc (by linarith))

/-- A share that comes before one that reaches its weight: what it falls short beyond one unit is
bounded by twice its weight over `q`. -/
lemma shortfall_before (hb : 0 < b) (hs : |s - b * G| * q ≤ b * G)
    (hsmall : q * (W - (S - 1) * G) ≤ (S - 1) * G) (hc : 0 ≤ c) (hr : r < W)
    (hshare : (S - 1) * s = (b - c - 1) * W + r) : q * c < 2 * b := by
  refine bound_of_scaled_lt hG hq hS hslack hc ?_
  have hD := (scaled_bounds hq.le hs).1
  have herror : (S - 1) * (-(s - b * G) * q) ≤ (S - 1) * (b * G) :=
    mul_le_mul_of_nonneg_left (by linarith) (by omega)
  have hcW : c * W < b * W - (S - 1) * s := by linarith
  calc q * (c * W) < q * (b * W - (S - 1) * s) := mul_lt_mul_of_pos_left hcW hq
    _ = b * (q * (W - (S - 1) * G)) + (S - 1) * (-(s - b * G) * q) := by
      rw [shortfall_eq (G := G)]; ring
    _ ≤ b * ((S - 1) * G) + (S - 1) * (b * G) :=
      add_le_add (mul_le_mul_of_nonneg_left hsmall hb.le) herror
    _ = 2 * b * ((S - 1) * G) := by ring

/-- A share that comes after one that reaches its weight `b'` has the smaller remainder, so it falls
short by at most twice the larger of the weights over `q`, or by both over `q`. -/
lemma shortfall_after {b' s' d r' : ℤ} (hs : |s - b * G| * q ≤ b * G)
    (hs' : |s' - b' * G| * q ≤ b' * G) (hsmall : q * (W - (S - 1) * G) ≤ (S - 1) * G) (hd : 0 ≤ d)
    (hr : r ≤ r') (hshare : (S - 1) * s = (b - d) * W + r) (hreach : (S - 1) * s' = b' * W + r') :
    q * d ≤ 2 * b ∨ q * d ≤ b + b' := by
  have hD := (scaled_bounds hq.le hs).1
  have hD' := (scaled_bounds hq.le hs').2
  have herror : (S - 1) * (-(s - b * G) * q) ≤ (S - 1) * (b * G) :=
    mul_le_mul_of_nonneg_left (by linarith) (by omega)
  have herror' : (S - 1) * ((s' - b' * G) * q) ≤ (S - 1) * (b' * G) :=
    mul_le_mul_of_nonneg_left (by linarith) (by omega)
  have hdW : d * W ≤ (b * W - (S - 1) * s) - (b' * W - (S - 1) * s') := by linarith
  have hscaled : q * (d * W) ≤
      (b - b') * (q * (W - (S - 1) * G)) + (S - 1) * (b * G) + (S - 1) * (b' * G) := by
    calc q * (d * W) ≤ q * ((b * W - (S - 1) * s) - (b' * W - (S - 1) * s')) :=
          mul_le_mul_of_nonneg_left hdW hq.le
      _ = (b - b') * (q * (W - (S - 1) * G)) + (S - 1) * (-(s - b * G) * q) +
          (S - 1) * ((s' - b' * G) * q) := by
        rw [shortfall_eq (G := G) b s, shortfall_eq (G := G) b' s']; ring
      _ ≤ _ := add_le_add (add_le_add le_rfl herror) herror'
  -- the slack counts for the larger weight and against the smaller one
  rcases le_total b' b with hle | hle
  · left
    refine bound_of_scaled hG hq hS hslack hd (hscaled.trans ?_)
    have := mul_le_mul_of_nonneg_left hsmall (sub_nonneg.mpr hle)
    linarith
  · right
    refine bound_of_scaled hG hq hS hslack hd (hscaled.trans ?_)
    have hqslack : 0 ≤ q * (W - (S - 1) * G) := mul_nonneg hq.le hslack
    have := mul_nonneg (sub_nonneg.mpr hle) hqslack
    linarith

end Slack

/-! ## The sum of the excesses -/

/-- Integers `c`, each at most one, sum to at most one when those that are one carry weights `w`
above half of what all of them together may carry. -/
lemma sum_le_one_of_heavy {M : ℤ} (l : List β) (w c : β → ℤ) (hone : ∀ x ∈ l, c x ≤ 1)
    (hheavy : ∀ x ∈ l, 1 ≤ c x → M < 2 * w x) (hM : 0 ≤ M)
    (hsum : ((l.filter fun x => 1 ≤ c x).map w).sum ≤ M) : (l.map c).sum ≤ 1 := by
  -- every heavy one takes more than half of the room
  have hcount : (l.map c).sum ≤ l.countP (fun x => 1 ≤ c x) ∧
      l.countP (fun x => 1 ≤ c x) * (M + 1) ≤ 2 * ((l.filter fun x => 1 ≤ c x).map w).sum := by
    clear hsum
    induction l with
    | nil => simp
    | cons p l ih =>
      obtain ⟨hle, hroom⟩ := ih (fun x hx => hone x (List.mem_cons_of_mem _ hx))
        fun x hx => hheavy x (List.mem_cons_of_mem _ hx)
      have hp := hone p List.mem_cons_self
      by_cases hp1 : 1 ≤ c p
      · have := hheavy p List.mem_cons_self hp1
        simp [hp1]
        constructor <;> linarith
      · simp [hp1]
        exact ⟨by omega, hroom⟩
  nlinarith

lemma le_sum_of_mem {l : List β} {f : β → ℤ} (hpos : ∀ x ∈ l, 0 ≤ f x) {x : β} (hx : x ∈ l) :
    f x ≤ (l.map f).sum :=
  List.single_le_sum (List.forall_mem_map.mpr hpos) _ (List.mem_map_of_mem hx)

/-- Leaving out by a filter a member of weight `w` leaves at least that much out of the sum. -/
lemma sum_filter_add_le (l : List β) (f : β → ℤ) (keep : β → Bool)
    (hpos : ∀ x ∈ l, 0 ≤ f x) {x : β} (hx : x ∈ l) (hout : keep x = false) :
    ((l.filter keep).map f).sum + f x ≤ (l.map f).sum := by
  have hsplit := ((List.filter_append_perm keep l).map f).sum_eq
  rw [List.map_append, List.sum_append] at hsplit
  rw [← hsplit]
  refine add_le_add le_rfl (le_sum_of_mem ?_ (by simp [hx, hout]))
  exact fun y hy => hpos y (List.mem_of_mem_filter hy)

/-! ## The cap -/

lemma quotient_lt_add_one (hG : 0 < G) (hq : 1 < q) (hSq : S ≤ q) (hb : 0 < b) (hbS : b ≤ S)
    (hs : |s - b * G| * q ≤ b * G) (hW : |W - S * G| * q ≤ S * G) (hWpos : 0 < W)
    (hwhole : b = S → s = W) : (S - 1) * s < (b + 1) * W := by
  rcases lt_or_ge b q with hbq | hbq
  · have h1 : S * 1 ≤ S * (q - b) := mul_le_mul_of_nonneg_left (by omega) (by omega)
    have h2 : 0 ≤ b * (q - S) := mul_nonneg hb.le (by omega)
    exact scaled_lt_of_cross hG (by omega) (by omega) (by omega) hs hW (by linarith)
  · -- a weight of `q` is the whole sum, so its share is the amount
    have hbS' : b = S := by omega
    rw [hwhole hbS', hbS']
    exact mul_lt_mul_of_pos_right (by omega) hWpos

/-- What another share falls short of its weight, less one if it comes before the share that
reaches its own weight `b'`: at most one, and one only for a weight above half of the others'. -/
lemma excess_le {b' s' base r' : ℤ} (hG : 0 < G) (hq : 0 < q) (hSq : S ≤ q) (hb : 0 < b)
    (hb' : 0 < b') (hpair : b' + b ≤ S) (hs : |s - b * G| * q ≤ b * G)
    (hs' : |s' - b' * G| * q ≤ b' * G) (hslack : 0 ≤ W - (S - 1) * G)
    (hsmall : q * (W - (S - 1) * G) ≤ (S - 1) * G) (hr : r < W)
    (hshare : (S - 1) * s = base * W + r) (hreach : (S - 1) * s' = b' * W + r') {first : Prop}
    [Decidable first] (hfirst : ¬ first → r ≤ r') : (b - base - if first then 1 else 0) ≤ 1 ∧
      (1 ≤ (b - base - if first then 1 else 0) → S - b' < 2 * b) := by
  have hS : 1 < S := by omega
  by_cases hlow : (b - base - if first then 1 else 0) < 1
  · exact ⟨by omega, by omega⟩
  generalize hd : (b - base - if first then 1 else 0) = d at hlow ⊢
  have hbound : q * d ≤ 2 * b ∨ q * d ≤ b + b' := by
    split_ifs at hd with hf
    · have hshare' : (S - 1) * s = (b - d - 1) * W + r := by rw [hshare, ← hd]; ring
      exact .inl (shortfall_before hG hq hS hslack hb hs hsmall (by omega) hr hshare').le
    · have hshare' : (S - 1) * s = (b - d) * W + r := by rw [hshare, ← hd]; ring
      exact shortfall_after hG hq hS hslack hs hs' hsmall (by omega) (hfirst hf) hshare' hreach
  have hq1 : q * 1 ≤ q * d := mul_le_mul_of_nonneg_left (by omega) hq.le
  refine ⟨?_, by omega⟩
  by_contra htwo
  have : q * 2 ≤ q * d := mul_le_mul_of_nonneg_left (by omega) hq.le
  omega

/-! ## Nearness -/

/-- If `t` is within one of `A * s / W`, and `s` and `W` have relative error `1/q` over `b` and `S`,
then `t` is within one and `2/(q-1)` of the proportion of `A * b / S`. -/
lemma proportion_near (hS : 0 ≤ S) (hA : 0 ≤ A) (hb : 0 ≤ b) (hWpos : 0 < W)
    (hq : 1 < q) (ht : |t * W - A * s| ≤ W) (hs : |s - b * G| * q ≤ b * G)
    (hW : |W - S * G| * q ≤ S * G) : |t * S - A * b| * (q - 1) ≤ S * (q - 1) + 2 * (A * b) := by
  have hq0 : 0 ≤ q := by omega
  have hWq : 0 < W * q := mul_pos hWpos (by omega)
  have hsplit : |t * S - A * b| * (W * q) ≤ S * (W * q) + 2 * (A * b) * (S * G) := by
    calc |t * S - A * b| * (W * q) = |(t * S - A * b) * (W * q)| := by
          rw [abs_mul, abs_of_pos hWq]
      _ = |S * q * (t * W - A * s) + A * S * q * (s - b * G) - A * b * q * (W - S * G)| := by
          ring_nf
      _ ≤ |S * q * (t * W - A * s)| + |A * S * q * (s - b * G)| + |A * b * q * (W - S * G)| :=
          (abs_sub _ _).trans (add_le_add_left (abs_add_le _ _) _)
      _ = S * q * |t * W - A * s| + A * S * (|s - b * G| * q) + A * b * (|W - S * G| * q) := by
          simp only [abs_mul, abs_of_nonneg hS, abs_of_nonneg hA, abs_of_nonneg hb,
            abs_of_nonneg hq0]
          ring
      _ ≤ S * q * W + A * S * (b * G) + A * b * (S * G) := by gcongr
      _ = S * (W * q) + 2 * (A * b) * (S * G) := by ring
  have hSG : 2 * (A * b) * (S * G * (q - 1)) ≤ 2 * (A * b) * (W * q) :=
    mul_le_mul_of_nonneg_left (scaled_bounds hq0 hW).1 (by positivity)
  refine le_of_mul_le_mul_right (a := W * q) ?_ hWq
  linarith [mul_le_mul_of_nonneg_right hsplit (by omega : 0 ≤ q - 1)]

section Cap

variable {scale : ℕ → ℕ} {G q amount : ℕ} {bs : List ℕ}

def scaledShare (scale : ℕ → ℕ) (amount : ℕ) (bs : List ℕ) (p : ℕ × ℕ) : Share :=
  share amount (scale bs.sum) (scale p.1) p.2

def scaledShares (scale : ℕ → ℕ) (amount : ℕ) (bs : List ℕ) : List Share :=
  shares amount (scale bs.sum) (bs.map scale)

lemma scaledShares_eq :
    scaledShares scale amount bs = bs.zipIdx.map (scaledShare scale amount bs) := by
  simp [scaledShares, shares, scaledShare, List.zipIdx_map, Function.comp_def]

lemma parts_scaledShares (scale : ℕ → ℕ) (amount : ℕ) (bs : List ℕ) :
    parts amount (scaledShares scale amount bs) = bs.zipIdx.map fun p =>
      part amount (scaledShares scale amount bs) (scaledShare scale amount bs p) := by
  unfold parts
  nth_rewrite 2 [scaledShares_eq]
  rw [List.map_map]
  rfl

lemma sum_zipIdx_fst : (bs.zipIdx.map fun p => (p.1 : ℤ)).sum = (bs.sum : ℕ) := by
  rw [Nat.cast_list_sum, ← List.zipIdx_map_fst 0 bs, List.map_map]
  simp [Function.comp_def]

variable {p p' : ℕ × ℕ}

lemma add_le_sum_of_ne (hp : p ∈ bs.zipIdx) (hp' : p' ∈ bs.zipIdx) (hne : p ≠ p') :
    (p'.1 : ℤ) + p.1 ≤ (bs.sum : ℕ) := by
  have hsum := sum_filter_add_le bs.zipIdx (fun x => (x.1 : ℤ)) (fun x => x ≠ p')
    (fun _ _ => Int.natCast_nonneg _) hp' (by simp)
  have hle := le_sum_of_mem (l := bs.zipIdx.filter fun x => x ≠ p') (f := fun x => (x.1 : ℤ))
    (fun _ _ => Int.natCast_nonneg _) (x := p) (by simpa using ⟨hp, hne⟩)
  rw [sum_zipIdx_fst] at hsum
  omega

lemma share_spec (amount total weight index : ℕ) :
    (amount : ℤ) * weight = (share amount total weight index).base * total +
      (share amount total weight index).rem := by
  have := Nat.div_add_mod' (amount * weight) total
  simp only [share]
  exact_mod_cast this.symm

lemma part_le_base_add_one (amount : ℕ) (ss : List Share) (s : Share) :
    part amount ss s ≤ s.base + 1 := by
  unfold part
  split_ifs <;> omega

/-- The excesses of the shares one below the sum add up to the leftover units beyond those that the
shares before position `i` take. -/
lemma sum_excess (scale : ℕ → ℕ) (hS : amount + 1 = bs.sum) (i : Share) :
    (bs.zipIdx.map fun p => (p.1 : ℤ) - (scaledShare scale amount bs p).base -
      if Before (scaledShare scale amount bs p) i then 1 else 0).sum =
    leftover amount (scaledShares scale amount bs) + 1 -
      ((scaledShares scale amount bs).countP fun y => Before y i) := by
  have hsplit : ∀ l : List (ℕ × ℕ), (l.map fun p => (p.1 : ℤ) -
      (scaledShare scale amount bs p).base -
      if Before (scaledShare scale amount bs p) i then 1 else 0).sum =
      (l.map fun p => (p.1 : ℤ)).sum -
        (((l.map (scaledShare scale amount bs)).map Share.base).sum : ℕ) -
        ((l.map (scaledShare scale amount bs)).countP fun y => Before y i) := by
    intro l
    induction l with
    | nil => simp
    | cons p l ih =>
      rw [List.map_cons, List.sum_cons, ih]
      by_cases hp : Before (scaledShare scale amount bs p) i <;>
        simp [hp] <;> ring
  rw [hsplit, sum_zipIdx_fst, ← scaledShares_eq, leftover, ← hS]
  push_cast
  ring

lemma total_pos {G q : ℤ} (hG : 0 < G) (hq : 1 < q) (hS : 0 < S)
    (hW : |W - S * G| * q ≤ S * G) : 0 < W := by
  have hpos : 0 < S * G * (q - 1) := mul_pos (mul_pos hS hG) (by omega)
  have hmul : 0 < W * q := hpos.trans_le (scaled_bounds (by omega) hW).1
  exact pos_of_mul_pos_left hmul (by omega)

variable (hscale : Scaling scale G q bs.sum) (hG : 0 < G) (hq : 1 < q) (hSq : bs.sum ≤ q)
  (hpos : ∀ b ∈ bs, 0 < b)

include hpos in
lemma weight_bounds (hp : p ∈ bs.zipIdx) : 0 < p.1 ∧ p.1 ≤ bs.sum := by
  have hmem : p.1 ∈ bs := List.fst_mem_of_mem_zipIdx hp
  exact ⟨hpos _ hmem, List.le_sum_of_mem hmem⟩

include hscale hG hq hpos in
lemma scaledShare_spec (amount : ℕ) (hp : p ∈ bs.zipIdx) :
    (amount : ℤ) * scale p.1 = (scaledShare scale amount bs p).base * scale bs.sum +
        (scaledShare scale amount bs p).rem ∧
      ((scaledShare scale amount bs p).rem : ℤ) < scale bs.sum := by
  have hS : 0 < bs.sum := by have := weight_bounds hpos hp; omega
  have hW : (0 : ℤ) < scale bs.sum :=
    total_pos (by exact_mod_cast hG) (by exact_mod_cast hq) (by exact_mod_cast hS)
      (hscale bs.sum le_rfl)
  have hmod := Nat.mod_lt (amount * scale p.1) (by exact_mod_cast hW : 0 < scale bs.sum)
  exact ⟨share_spec amount (scale bs.sum) (scale p.1) p.2, by exact_mod_cast hmod⟩

include hscale hG hq hSq hpos in
/-- One below the sum, a share whose whole part is its weight gets no leftover unit. -/
lemma not_bumped_of_reaches (hS : amount + 1 = bs.sum) (hp : p ∈ bs.zipIdx)
    (hbase : (scaledShare scale amount bs p).base = p.1) :
    p.2 ∉ bumped amount (scaledShares scale amount bs) := by
  intro hbumped
  have hmem : scaledShare scale amount bs p ∈ scaledShares scale amount bs := by
    rw [scaledShares_eq]
    exact List.mem_map_of_mem hp
  have hnodup : ((scaledShares scale amount bs).map Share.index).Nodup := nodup_index_shares _ _ _
  have hrank := rank_lt_of_bumped hnodup hmem hbumped
  have hsum := sum_excess scale hS (scaledShare scale amount bs p)
  set excess : ℕ × ℕ → ℤ := fun x => (x.1 : ℤ) - (scaledShare scale amount bs x).base -
    if Before (scaledShare scale amount bs x) (scaledShare scale amount bs p) then 1 else 0
  have hself : excess p = 0 := by simp [excess, hbase, before_irrefl]
  have hAz : (amount : ℤ) = (bs.sum : ℕ) - 1 := by omega
  have hGz : (0 : ℤ) < G := by exact_mod_cast hG
  have hqz : (0 : ℤ) < q := by omega
  have hSqz : ((bs.sum : ℕ) : ℤ) ≤ q := by exact_mod_cast hSq
  have hreach := (scaledShare_spec hscale hG hq hpos amount hp).1
  rw [hbase, hAz] at hreach
  have hslack := slack_nonneg hGz hqz hSqz (hscale bs.sum le_rfl)
  have hb := weight_bounds hpos hp
  have hsmall := slack_le_of_reaches (W := scale bs.sum) (S := (bs.sum : ℕ)) hqz (by omega)
    (by omega) (hscale p.1 hb.2) (by rw [hreach]; omega)
  -- each other share's excess is at most one, and one only for a heavy weight
  have hexcess : ∀ x ∈ bs.zipIdx,
      excess x ≤ 1 ∧ (1 ≤ excess x → ((bs.sum : ℕ) : ℤ) - p.1 < 2 * x.1) := by
    intro x hx
    rcases eq_or_ne x p with rfl | hne
    · exact ⟨by omega, by omega⟩
    · have hbx := weight_bounds hpos hx
      obtain ⟨hshare, hr⟩ := scaledShare_spec hscale hG hq hpos amount hx
      rw [hAz] at hshare
      refine excess_le hGz hqz hSqz (by omega) (by omega) (add_le_sum_of_ne hx hp hne)
        (hscale x.1 hbx.2) (hscale p.1 hb.2) hslack hsmall hr hshare hreach ?_
      intro hnot
      simp only [Before, not_or, not_lt] at hnot
      exact_mod_cast hnot.1
  have hle : (bs.zipIdx.map excess).sum ≤ 1 := by
    refine sum_le_one_of_heavy (M := ((bs.sum : ℕ) : ℤ) - p.1) bs.zipIdx (fun x => (x.1 : ℤ)) excess
      (fun x hx => (hexcess x hx).1) (fun x hx => (hexcess x hx).2) (by omega) ?_
    have hfilter := sum_filter_add_le bs.zipIdx (fun x => (x.1 : ℤ)) (fun x => 1 ≤ excess x)
      (fun _ _ => Int.natCast_nonneg _) hp (by simp [hself])
    rw [sum_zipIdx_fst] at hfilter
    omega
  omega

include hscale hG hq hSq hpos in
/-- **The cap.** Under a scaling with relative error `1/q`, an amount below the sum of the weights
is split so that no share exceeds its weight, as long as the weights sum to at most `q`.

**Proof sketch.** Two or more below the sum, every whole part is below its weight. One below the
sum, a whole part may reach its weight `b`. If that share then got a leftover unit, the excesses
(what the others fall short, less one for each share before it) would sum to two or more. But each
excess is at most one, and one only for a weight above half of what the others carry together. -/
theorem part_le_weight (hA : amount < bs.sum) (hp : p ∈ bs.zipIdx) :
    part amount (scaledShares scale amount bs) (scaledShare scale amount bs p) ≤ p.1 := by
  have hW := hscale bs.sum le_rfl
  have hGz : (0 : ℤ) < G := by exact_mod_cast hG
  have hqz : (1 : ℤ) < q := by exact_mod_cast hq
  have hSqz : ((bs.sum : ℕ) : ℤ) ≤ q := by exact_mod_cast hSq
  have hb := weight_bounds hpos hp
  have hWpos : (0 : ℤ) < scale bs.sum := total_pos hGz hqz (by omega) hW
  obtain ⟨hspec, hrem⟩ := scaledShare_spec hscale hG hq hpos amount hp
  have hone := part_le_base_add_one amount (scaledShares scale amount bs)
    (scaledShare scale amount bs p)
  rcases Nat.lt_or_ge (scaledShare scale amount bs p).base p.1 with hlt | hreach
  · omega
  -- the whole part reaches the weight, so the amount is one below the sum
  have hS : amount + 1 = bs.sum := by
    by_contra hne
    have hlt := quotient_lt_of_add_two_le (A := amount) hGz (by omega) hSqz (by omega) (by omega)
      (by omega) (hscale p.1 hb.2) hW
    have hreachz : (p.1 : ℤ) ≤ (scaledShare scale amount bs p).base := by exact_mod_cast hreach
    have := mul_le_mul_of_nonneg_right hreachz hWpos.le
    omega
  have hbase : (scaledShare scale amount bs p).base = p.1 := by
    have hlt := quotient_lt_add_one hGz hqz hSqz (by omega) (by omega) (hscale p.1 hb.2) hW hWpos
      (fun h => by rw [show p.1 = bs.sum by exact_mod_cast h])
    rw [show (amount : ℤ) = (bs.sum : ℕ) - 1 by omega] at hspec
    have hmul : ((scaledShare scale amount bs p).base : ℤ) * scale bs.sum <
        ((p.1 : ℤ) + 1) * scale bs.sum := by omega
    have := lt_of_mul_lt_mul_right hmul hWpos.le
    omega
  have hnot := not_bumped_of_reaches hscale hG hq hSq hpos hS hp hbase
  unfold part
  rw [if_neg (show (scaledShare scale amount bs p).index ∉ _ from hnot), hbase]

include hscale in
lemma sum_scale_near :
    |((bs.map scale).sum : ℤ) - scale bs.sum| * q ≤ 2 * (bs.sum * G) := by
  have hterms : ∀ l : List ℕ, (∀ b ∈ l, b ≤ bs.sum) →
      |((l.map scale).sum : ℤ) - l.sum * G| * q ≤ l.sum * G := by
    intro l hl
    induction l with
    | nil => simp
    | cons b l ih =>
      have hb := hscale b (hl b List.mem_cons_self)
      have hrest := ih fun b' hb' => hl b' (List.mem_cons_of_mem _ hb')
      have habs := abs_add_le ((scale b : ℤ) - b * G) ((l.map scale).sum - l.sum * G)
      have := mul_le_mul_of_nonneg_right habs (Int.natCast_nonneg q)
      simp only [List.map_cons, List.sum_cons, Nat.cast_add]
      calc _ = |((scale b : ℤ) - b * G) + ((l.map scale).sum - l.sum * G)| * q := by ring_nf
        _ ≤ _ := by linarith
  have hsum := hterms bs fun b hb => List.le_sum_of_mem hb
  have habs := abs_sub_le ((bs.map scale).sum : ℤ) (bs.sum * G) (scale bs.sum)
  rw [abs_sub_comm ((bs.sum : ℤ) * G)] at habs
  have := mul_le_mul_of_nonneg_right habs (Int.natCast_nonneg q)
  linarith [hscale bs.sum le_rfl]

include hscale hG in
/-- Under a scaling with relative error `1/q`, the parts of an amount that is less
than half of `q` sum to the amount. -/
lemma sum_parts_scaledShares (hS : 0 < bs.sum) (hsmall : 2 * amount + 1 < q) :
    (parts amount (scaledShares scale amount bs)).sum = amount := by
  have hWpos : (0 : ℤ) < scale bs.sum :=
    total_pos (by exact_mod_cast hG) (by omega) (by exact_mod_cast hS) (hscale bs.sum le_rfl)
  -- the scaled weights are so near the scaled sum that the amount's shares of them are too
  have hdiff : |((bs.map scale).sum : ℤ) - scale bs.sum| * amount < scale bs.sum := by
    have hlow := (scaled_bounds (Int.natCast_nonneg q) (hscale bs.sum le_rfl)).1
    have hnear := mul_le_mul_of_nonneg_right (sum_scale_near hscale) (Int.natCast_nonneg amount)
    have hSG : (0 : ℤ) < bs.sum * G := by positivity
    have hq : (bs.sum * G : ℤ) * (2 * amount + 1) < bs.sum * G * q :=
      mul_lt_mul_of_pos_left (by exact_mod_cast hsmall) hSG
    refine lt_of_mul_lt_mul_right (a := (q : ℤ)) ?_ (Int.natCast_nonneg q)
    linarith
  exact sum_parts_of_near (by exact_mod_cast hWpos) (by rwa [mul_comm] at hdiff)

include hscale hG hq hpos in
/-- **A part is near its proportion**, under a scaling with relative error `1/q`. -/
lemma part_near (amount : ℕ) (hp : p ∈ bs.zipIdx) :
    |(part amount (scaledShares scale amount bs) (scaledShare scale amount bs p) : ℤ) *
      (bs.sum : ℕ) - amount * p.1| * (q - 1) ≤ (bs.sum : ℕ) * (q - 1) + 2 * (amount * p.1) := by
  obtain ⟨hspec, hrem⟩ := scaledShare_spec hscale hG hq hpos amount hp
  refine proportion_near (Int.natCast_nonneg _) (Int.natCast_nonneg _) (Int.natCast_nonneg _)
    (lt_of_le_of_lt (Int.natCast_nonneg _) hrem) (by exact_mod_cast hq) ?_
    (hscale p.1 (weight_bounds hpos hp).2) (hscale bs.sum le_rfl)
  -- the part is the whole part of the quotient, or one more
  rw [hspec, abs_le]
  unfold part
  split_ifs <;> push_cast <;> constructor <;> linarith

end Cap

end Apportion
