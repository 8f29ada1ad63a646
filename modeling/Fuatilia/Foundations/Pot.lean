import Mathlib

/-!
# Pots of funds

A pot has a capacity, fixed when it is opened, and an amount drawn from it that never exceeds the
capacity: the bound is a field, so an overdrawn pot cannot be built. Draws raise the drawn amount.

## Main definitions

* `Pot`, `Pot.opened`, `Pot.draw`, `Pot.Step`.

## Main results

* `Pot.capacity_of_steps`.
-/

/-- A pot of funds: its capacity, and what has been drawn of it. -/
@[ext]
structure Pot where
  capacity : ℕ
  drawn : ℕ
  drawn_le : drawn ≤ capacity

namespace Pot

def opened (capacity : ℕ) : Pot := ⟨capacity, 0, Nat.zero_le _⟩

def draw (p : Pot) (n : ℕ) (h : p.drawn + n ≤ p.capacity) : Pot := ⟨p.capacity, p.drawn + n, h⟩

/-- What may happen to a pot that may not be open yet: nothing, it is opened, or a draw. -/
inductive Step : Option Pot → Option Pot → Prop
  | stay (p : Option Pot) : Step p p
  | opens (capacity : ℕ) : Step none (some (opened capacity))
  | draws (p : Pot) (n : ℕ) (h : p.drawn + n ≤ p.capacity) : Step (some p) (some (p.draw n h))

/-- One step keeps an open pot open, with the same capacity and at least as much drawn. -/
lemma Step.keeps {p : Pot} {q : Option Pot} (h : Step (some p) q) :
    ∃ p', q = some p' ∧ p'.capacity = p.capacity ∧ p.drawn ≤ p'.drawn := by
  cases h with
  | stay => exact ⟨p, rfl, rfl, Nat.le_refl _⟩
  | draws _ n hn => exact ⟨p.draw n hn, rfl, rfl, Nat.le_add_right _ _⟩

/-- Along any number of steps an open pot stays open, its capacity never changes and nothing
drawn is given back. -/
theorem capacity_of_steps {p : Pot} {q : Option Pot}
    (h : Relation.ReflTransGen Step (some p) q) :
    ∃ p', q = some p' ∧ p'.capacity = p.capacity ∧ p.drawn ≤ p'.drawn := by
  induction h with
  | refl => exact ⟨p, rfl, rfl, Nat.le_refl _⟩
  | tail _ hlast ih =>
    obtain ⟨p₁, rfl, hcap, hdrawn⟩ := ih
    obtain ⟨p₂, rfl, hcap', hdrawn'⟩ := hlast.keeps
    exact ⟨p₂, rfl, hcap'.trans hcap, Nat.le_trans hdrawn hdrawn'⟩

end Pot
