import Mathlib

/-!
# Lists of versioned records

A list of records that is extended by further records and in which a record is replaced by a later
version of it at its place. Which versions count as later is a relation, given as a parameter.

## Main definitions

* `Versions.Later`.

## Main results

* `Versions.pairwise_of_later`, `Versions.rel_of_pairwise_ne`.
* `Versions.later_set`, `Versions.later_append` — a replacement and an extension.
* `Versions.later_refl`, `Versions.later_trans` — lists become later step by step.
-/

namespace Versions

variable {α : Type*} {R P : α → α → Prop} {l l' l'' : List α} {i j : ℕ} {a a' b : α}

/-- Every record of `l` stands at its place in `l'`, in a later version. -/
def Later (R : α → α → Prop) (l l' : List α) : Prop :=
  ∀ (i : ℕ) a, l[i]? = some a → ∃ a', l'[i]? = some a' ∧ R a a'

lemma later_refl (hrefl : ∀ a, R a a) (l : List α) : Later R l l :=
  fun _ a ha => ⟨a, ha, hrefl a⟩

lemma later_trans (htrans : ∀ a b c, R a b → R b c → R a c) (h : Later R l l')
    (h' : Later R l' l'') : Later R l l'' := by
  intro i a ha
  obtain ⟨a', ha', haa'⟩ := h i a ha
  obtain ⟨a'', ha'', haa''⟩ := h' i a' ha'
  exact ⟨a'', ha'', htrans a a' a'' haa' haa''⟩

lemma later_set (hrefl : ∀ a, R a a) (ha : l[i]? = some a) (h : R a a') :
    Later R l (l.set i a') := by
  intro j b hb
  by_cases hj : i = j
  · subst hj
    obtain rfl : a = b := Option.some.inj (ha.symm.trans hb)
    exact ⟨a', by rw [List.getElem?_set_self (List.getElem?_eq_some_iff.mp ha).1], h⟩
  · exact ⟨b, by rw [List.getElem?_set_ne hj, hb], hrefl b⟩

lemma later_append (hrefl : ∀ a, R a a) (l others : List α) : Later R l (l ++ others) :=
  fun _ a ha =>
  ⟨a, by rw [List.getElem?_append_left (List.getElem?_eq_some_iff.mp ha).1, ha], hrefl a⟩

/-- What holds between the records of a list holds between later versions of them, if it passes from
versions to later ones and there are no further records. -/
lemma pairwise_of_later (hP : ∀ a a' b b', R a a' → R b b' → P a b → P a' b') (hl : l.Pairwise P)
    (h : Later R l l') (hlength : l'.length = l.length) : l'.Pairwise P := by
  rw [List.pairwise_iff_getElem] at hl ⊢
  intro i j hi hj hij
  obtain ⟨a', ha', ha⟩ := h i _ (List.getElem?_eq_getElem (hlength ▸ hi))
  obtain ⟨b', hb', hb⟩ := h j _ (List.getElem?_eq_getElem (hlength ▸ hj))
  obtain rfl : l'[i] = a' := Option.some.inj ((List.getElem?_eq_getElem hi).symm.trans ha')
  obtain rfl : l'[j] = b' := Option.some.inj ((List.getElem?_eq_getElem hj).symm.trans hb')
  exact hP _ _ _ _ ha hb (hl i j _ _ hij)

lemma rel_of_pairwise_ne (hsymm : ∀ a b, P a b → P b a) (hl : l.Pairwise P) (ha : l[i]? = some a)
    (hb : l[j]? = some b) (hij : i ≠ j) : P a b := by
  rw [List.pairwise_iff_getElem] at hl
  obtain ⟨hi, rfl⟩ := List.getElem?_eq_some_iff.mp ha
  obtain ⟨hj, rfl⟩ := List.getElem?_eq_some_iff.mp hb
  rcases Nat.lt_or_gt_of_ne hij with hlt | hlt
  · exact hl i j hi hj hlt
  · exact hsymm _ _ (hl j i hj hi hlt)

end Versions
