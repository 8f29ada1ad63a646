import Mathlib

/-!
# Trails of recorded moves

A trail is a list of recorded moves, each from one state to another. It leads from a first state to
a last one if the moves join, and each of them is legal.

## Main definitions

* `Trails.Leads`.

## Main results

* `Trails.leads_append` — trails join at a state.
* `Trails.Leads.concat` — a legal move at the end of a trail.
* `Trails.Leads.last` — a trail leads to the target of its last move.
* `Trails.Leads.stuck` — a trail that passes a state without legal moves ends there.
-/

namespace Trails

variable {σ : Type*} {legal : σ → σ → Prop} {s t u : σ} {moves others : List (σ × σ)}

/-- The moves join, each is legal, and they lead from `s` to `t`. -/
def Leads (legal : σ → σ → Prop) (s : σ) (moves : List (σ × σ)) (t : σ) : Prop :=
  match moves with
  | [] => s = t
  | move :: moves => move.1 = s ∧ legal move.1 move.2 ∧ Leads legal move.2 moves t

instance decidableLeads [DecidableEq σ] [∀ a b, Decidable (legal a b)] (s : σ)
    (moves : List (σ × σ)) (t : σ) : Decidable (Leads legal s moves t) :=
  match moves with
  | [] => inferInstanceAs (Decidable (s = t))
  | move :: moves =>
    have : Decidable (Leads legal move.2 moves t) := decidableLeads move.2 moves t
    inferInstanceAs (Decidable (move.1 = s ∧ legal move.1 move.2 ∧ Leads legal move.2 moves t))

lemma leads_append : Leads legal s (moves ++ others) u ↔
    ∃ t, Leads legal s moves t ∧ Leads legal t others u := by
  induction moves generalizing s with
  | nil =>
    constructor
    · exact fun h => ⟨s, rfl, h⟩
    · rintro ⟨_, rfl, h⟩
      exact h
  | cons move moves ih =>
    simp only [List.cons_append, Leads, ih]
    constructor
    · rintro ⟨hfrom, hlegal, t, hmoves, hothers⟩
      exact ⟨t, ⟨hfrom, hlegal, hmoves⟩, hothers⟩
    · rintro ⟨t, ⟨hfrom, hlegal, hmoves⟩, hothers⟩
      exact ⟨hfrom, hlegal, t, hmoves, hothers⟩

lemma Leads.concat (h : Leads legal s moves t) (hlegal : legal t u) :
    Leads legal s (moves ++ [(t, u)]) u :=
  leads_append.mpr ⟨t, h, rfl, hlegal, rfl⟩

lemma Leads.last (h : Leads legal s moves t) {move : σ × σ} (hlast : moves.getLast? = some move) :
    move.2 = t := by
  obtain ⟨before, rfl⟩ := List.getLast?_eq_some_iff.mp hlast
  obtain ⟨_, -, -, -, hend⟩ := leads_append.mp h
  exact hend

lemma Leads.stuck (h : Leads legal s moves t) {move : σ × σ} (hmem : move ∈ moves)
    (hstuck : ∀ u, ¬ legal move.2 u) : t = move.2 := by
  induction moves generalizing s with
  | nil => cases hmem
  | cons first moves ih =>
    obtain ⟨-, -, hrest⟩ := h
    rcases List.mem_cons.mp hmem with rfl | hmem
    · cases moves with
      | nil => exact hrest.symm
      | cons next moves => exact absurd (hrest.1 ▸ hrest.2.1) (hstuck next.2)
    · exact ih hrest hmem

end Trails
