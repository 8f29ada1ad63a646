import Mathlib

/-!
# Double-entry postings

A posting is a signed amount on an account: debits are positive, credits negative. A list of
postings has a net on every account and a total over all of them; when the total is zero the list
is balanced.

## Main definitions

* `DoubleEntry.net`, `DoubleEntry.total`, `DoubleEntry.flip`.

## Main results

* `DoubleEntry.sum_net`.
* `DoubleEntry.net_append_flip` — postings and their flipped copy net to zero on every account.
-/

namespace DoubleEntry

variable {A : Type*} [DecidableEq A]

def net (ps : List (A × ℤ)) (a : A) : ℤ := (ps.map fun p => if p.1 = a then p.2 else 0).sum

def total (ps : List (A × ℤ)) : ℤ := (ps.map Prod.snd).sum

def flip (ps : List (A × ℤ)) : List (A × ℤ) := ps.map fun p => (p.1, -p.2)

@[simp] lemma net_nil (a : A) : net [] a = 0 := rfl

lemma net_cons (p : A × ℤ) (ps : List (A × ℤ)) (a : A) :
    net (p :: ps) a = (if p.1 = a then p.2 else 0) + net ps a := by
  simp [net]

lemma net_append (ps qs : List (A × ℤ)) (a : A) : net (ps ++ qs) a = net ps a + net qs a := by
  simp [net]

omit [DecidableEq A] in
lemma total_append (ps qs : List (A × ℤ)) : total (ps ++ qs) = total ps + total qs := by
  simp [total]

lemma net_flip (ps : List (A × ℤ)) (a : A) : net (flip ps) a = -net ps a := by
  induction ps with
  | nil => rfl
  | cons p ps ih =>
    have hcons : flip (p :: ps) = (p.1, -p.2) :: flip ps := rfl
    rw [hcons, net_cons, net_cons, ih]
    split_ifs <;> ring

lemma net_append_flip (ps : List (A × ℤ)) (a : A) : net (ps ++ flip ps) a = 0 := by
  rw [net_append, net_flip, add_neg_cancel]

/-- Over distinct accounts, one posting contributes its amount exactly when its account is
among them. -/
lemma sum_ite_account (accounts : List A) (hnodup : accounts.Nodup) (p : A × ℤ) :
    (accounts.map fun a => if p.1 = a then p.2 else 0).sum =
      if p.1 ∈ accounts then p.2 else 0 := by
  induction accounts with
  | nil => simp
  | cons a as ih =>
    obtain ⟨hnot, hrest⟩ := List.nodup_cons.mp hnodup
    rw [List.map_cons, List.sum_cons, ih hrest]
    by_cases ha : p.1 = a
    · subst ha
      simp [hnot]
    · simp [ha]

/-- **The trial balance.** Over a complete chart of distinct accounts the nets sum to the total. -/
theorem sum_net (accounts : List A) (hnodup : accounts.Nodup) (hall : ∀ a, a ∈ accounts)
    (ps : List (A × ℤ)) : (accounts.map (net ps)).sum = total ps := by
  induction ps with
  | nil =>
    have hzero : accounts.map (net []) = accounts.map fun _ => (0 : ℤ) := rfl
    rw [hzero]
    simp [total]
  | cons p ps ih =>
    have hsplit : (accounts.map (net (p :: ps))).sum =
        (accounts.map fun a => if p.1 = a then p.2 else 0).sum + (accounts.map (net ps)).sum := by
      rw [← List.sum_map_add]
      exact congrArg List.sum (List.map_congr_left fun a _ => net_cons p ps a)
    rw [hsplit, sum_ite_account accounts hnodup, ih, if_pos (hall p.1)]
    simp [total]

end DoubleEntry
