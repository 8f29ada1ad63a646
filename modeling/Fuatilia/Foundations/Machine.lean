import Mathlib

/-!
# Machines whose commands may be refused

A machine `step : σ → α → Option σ` accepts a command, giving the state after it, or refuses it. A
refused command leaves the state as it was, so a *run* is total. Concurrent systems are machines
too, with one command for every atomic step of every participant: a list of commands is an
interleaving.

## Main definitions

* `Machine.next`, `Machine.run`, `Machine.Meets`, `Machine.accepted`.

## Main results

* `Machine.run_invariant`, `Machine.run_rel`, `Machine.run_measure`, `Machine.forall_run_iff_meets`,
  `Machine.meets_congr`, `Machine.traced`.
* `Machine.meets_append` — the condition over a run splits at every point of it, so a fact proved of
  the last state of every run holds at every point of a run.
-/

namespace Machine

variable {σ α : Type*} (step : σ → α → Option σ)

/-! ## Steps and runs -/

/-- The state after a command: the accepted one, or the old state when the command is refused. -/
def next (s : σ) (a : α) : σ := (step s a).getD s

def run (s : σ) (as : List α) : σ := as.foldl (next step) s

/-- Every command of the run from `s` meets the condition `C` in the state it is given to. -/
def Meets (C : σ → α → Prop) : σ → List α → Prop
  | _, [] => True
  | s, a :: as => C s a ∧ Meets C (next step s a) as

/-- The commands of the run from `s` that the machine accepted, in order. -/
def accepted : σ → List α → List α
  | _, [] => []
  | s, a :: as =>
    if (step s a).isSome then a :: accepted (next step s a) as else accepted (next step s a) as

instance decidableMeets (C : σ → α → Prop) [∀ s a, Decidable (C s a)] (s : σ) (as : List α) :
    Decidable (Meets step C s as) :=
  match as with
  | [] => inferInstanceAs (Decidable True)
  | a :: as =>
    have : Decidable (Meets step C (next step s a) as) := decidableMeets C _ as
    inferInstanceAs (Decidable (C s a ∧ Meets step C (next step s a) as))

variable {step}

variable {s : σ} {C : σ → α → Prop} {I : σ → Prop} {R : σ → σ → Prop}

lemma next_of_some {s' : σ} {a : α} (h : step s a = some s') : next step s a = s' := by
  simp [next, h]

lemma next_of_none {a : α} (h : step s a = none) : next step s a = s := by
  simp [next, h]

/-- What holds of a state and of what an accepted command makes of it holds after the command. -/
lemma holds_next {a : α} (hs : I s) (h : ∀ s', step s a = some s' → I s') : I (next step s a) := by
  cases ha : step s a with
  | none => rwa [next_of_none ha]
  | some s' => rw [next_of_some ha]; exact h s' ha

@[simp] lemma run_nil (s : σ) : run step s [] = s := rfl

@[simp] lemma run_cons (s : σ) (a : α) (as : List α) :
    run step s (a :: as) = run step (next step s a) as := rfl

lemma run_append (s : σ) (as bs : List α) :
    run step s (as ++ bs) = run step (run step s as) bs := by
  simp [run, List.foldl_append]

lemma meets_append (s : σ) (as bs : List α) :
    Meets step C s (as ++ bs) ↔ Meets step C s as ∧ Meets step C (run step s as) bs := by
  induction as generalizing s with
  | nil => simp [Meets]
  | cons a as ih => simp [List.cons_append, Meets, run_cons, ih, and_assoc]

/-! ## Rules -/

/-- **The invariant rule.** If an accepted step that meets the condition `C` preserves `I`, then `I`
holds at the end of every run from a state with `I` whose steps all meet `C`. -/
theorem run_invariant (hstep : ∀ s a s', C s a → I s → step s a = some s' → I s') :
    ∀ (as : List α) (s : σ), I s → Meets step C s as → I (run step s as) := by
  intro as
  induction as with
  | nil => intro s hs _; exact hs
  | cons a as ih =>
    intro s hs hC
    exact ih _ (holds_next hs fun s' => hstep s a s' hC.1 hs) hC.2

theorem invariant_at
    (hstep : ∀ s a s', C s a → I s → step s a = some s' → I s') {as : List α} (hs : I s)
    (hC : Meets step C s as) (k : ℕ) : I (run step s (as.take k)) := by
  have hsplit := (meets_append s (as.take k) (as.drop k)).mp (by rwa [List.take_append_drop])
  exact run_invariant hstep (as.take k) s hs hsplit.1

/-- **The rule for relations.** A preorder that every accepted step of a run respects, from a
state with the invariant `I`, relates the first state of the run to the last. -/
theorem run_rel (hrefl : ∀ s, R s s) (htrans : ∀ s t u, R s t → R t u → R s u)
    (hinv : ∀ s a s', C s a → I s → step s a = some s' → I s')
    (hstep : ∀ s a s', C s a → I s → step s a = some s' → R s s') :
    ∀ (as : List α) (s : σ), I s → Meets step C s as → R s (run step s as) := by
  intro as
  induction as with
  | nil => intro s _ _; exact hrefl s
  | cons a as ih =>
    intro s hs hC
    have hfirst : R s (next step s a) := holds_next (hrefl s) fun s' => hstep s a s' hC.1 hs
    exact htrans s _ _ hfirst (ih _ (holds_next hs fun s' => hinv s a s' hC.1 hs) hC.2)

/-- **The rule for measures.** A quantity that every accepted step of a run raises by what the
command contributes has risen over the run by the sum of what the accepted commands contribute. -/
theorem run_measure {f : σ → ℕ} {g : α → ℕ} (hinv : ∀ s a s', I s → step s a = some s' → I s')
    (hstep : ∀ s a s', I s → step s a = some s' → f s' = f s + g a) :
    ∀ (as : List α) (s : σ), I s → f (run step s as) = f s + ((accepted step s as).map g).sum := by
  intro as
  induction as with
  | nil => intro s _; simp [accepted]
  | cons a as ih =>
    intro s hs
    cases ha : step s a with
    | none =>
      have hrest := ih s hs
      simpa [accepted, ha, next_of_none ha] using hrest
    | some s' =>
      have hrest := ih s' (hinv s a s' hs ha)
      have hone := hstep s a s' hs ha
      rw [run_cons, next_of_some ha, hrest, hone]
      simp [accepted, ha, next_of_some ha, Nat.add_assoc]

lemma run_of_refuses (h : ∀ a, step s a = none) (as : List α) :
    run step s as = s ∧ accepted step s as = [] := by
  induction as with
  | nil => exact ⟨rfl, rfl⟩
  | cons a as ih =>
    rw [run_cons, next_of_none (h a)]
    exact ⟨ih.1, by simp [accepted, h a, next_of_none (h a), ih.2]⟩

/-- **The rule for exact conditions.** Let the invariant `I` give the property `P`. If an accepted
step keeps `I` under the condition `C`, if a state with `P` after it shows that it met `C`, and if
refused steps meet `C`, then `P` holds at every point of a run exactly when all its steps meet
`C`. -/
theorem forall_run_iff_meets {P : σ → Prop} (hP : ∀ s, I s → P s)
    (hkeep : ∀ s a s', I s → step s a = some s' → C s a → I s')
    (hexact : ∀ s a s', I s → step s a = some s' → P s' → C s a)
    (hrefused : ∀ s a, step s a = none → C s a) : ∀ (as : List α) (s : σ), I s →
      ((∀ k, P (run step s (as.take k))) ↔ Meets step C s as) := by
  intro as
  induction as with
  | nil => intro s hs; simpa [Meets] using hP s hs
  | cons a as ih =>
    intro s hs
    have hfirst : I (next step s a) → ((∀ k, P (run step s ((a :: as).take k))) ↔
        Meets step C (next step s a) as) := by
      intro hnext
      rw [← ih _ hnext]
      constructor
      · intro h k; exact h (k + 1)
      · intro h k
        cases k with
        | zero => exact hP s hs
        | succ k => exact h k
    cases ha : step s a with
    | none =>
      have hnext := next_of_none ha
      rw [hfirst (by rwa [hnext])]
      exact ⟨fun h => ⟨hrefused s a ha, h⟩, fun h => h.2⟩
    | some s' =>
      have hnext := next_of_some ha
      constructor
      · intro h
        have hC : C s a := hexact s a s' hs ha (by simpa [hnext] using h 1)
        exact ⟨hC, (hfirst (hnext ▸ hkeep s a s' hs ha hC)).mp h⟩
      · intro h
        exact (hfirst (hnext ▸ hkeep s a s' hs ha h.1)).mpr h.2

/-- **The rule for equivalent conditions.** Two conditions on the steps that agree wherever the
invariant `I` holds, which the second one keeps, hold along the same runs. -/
theorem meets_congr {D : σ → α → Prop} (hkeep : ∀ s a s', D s a → I s → step s a = some s' → I s')
    (h : ∀ s a, I s → (C s a ↔ D s a)) :
    ∀ (as : List α) (s : σ), I s → (Meets step C s as ↔ Meets step D s as) := by
  intro as
  induction as with
  | nil => intro s _; rfl
  | cons a as ih =>
    intro s hs
    simp only [Meets, h s a hs]
    exact and_congr_right fun hD => ih _ (holds_next hs fun s' => hkeep s a s' hD hs)

/-! ## Authority that is handed on -/

/-- **The tracing rule.** Let accepted steps that meet the condition `C` keep every recorded
handover, and let a subject hold after such a step only what the subject, or one who has handed
something to it, held before. Then every authority held at the end of a run was held at its
beginning by the first subject of a chain of handovers. -/
theorem traced {S A : Type*} {holds : σ → S → A → Prop} {handed : σ → S → S → Prop}
    (hkept : ∀ s a s', C s a → step s a = some s' → ∀ u v, handed s u v → handed s' u v)
    (hstep : ∀ s a s', C s a → step s a = some s' → ∀ u x, holds s' u x →
      holds s u x ∨ ∃ w, handed s' w u ∧ holds s w x)
    (as : List α) (s : σ) (hC : Meets step C s as) (u : S) (x : A)
    (hu : holds (run step s as) u x) :
    ∃ v, Relation.ReflTransGen (handed (run step s as)) v u ∧ holds s v x := by
  refine run_invariant (I := fun t => ∀ u x, holds t u x →
    ∃ v, Relation.ReflTransGen (handed t) v u ∧ holds s v x) ?_ as s ?_ hC u x hu
  · intro t a t' hCa hI ha u x hu
    have hmono := hkept t a t' hCa ha
    rcases hstep t a t' hCa ha u x hu with hbefore | ⟨w, hwu, hw⟩
    · obtain ⟨v, hchain, hv⟩ := hI u x hbefore
      exact ⟨v, Relation.ReflTransGen.mono hmono _ _ hchain, hv⟩
    · obtain ⟨v, hchain, hv⟩ := hI w x hw
      exact ⟨v, (Relation.ReflTransGen.mono hmono _ _ hchain).tail hwu, hv⟩
  · intro u x hu
    exact ⟨u, .refl, hu⟩

/-! ## Unconditional runs -/

lemma meets_of_mem {P : α → Prop} (s : σ) {as : List α} (h : ∀ a ∈ as, P a) :
    Meets step (fun _ a => P a) s as := by
  induction as generalizing s with
  | nil => trivial
  | cons a as ih => exact ⟨h a (by simp), ih _ fun b hb => h b (by simp [hb])⟩

theorem run_invariant_all (hstep : ∀ s a s', I s → step s a = some s' → I s')
    (as : List α) (s : σ) (hs : I s) : I (run step s as) :=
  run_invariant (fun s a s' _ => hstep s a s') as s hs (meets_of_mem s fun _ _ => trivial)

theorem run_rel_all (hrefl : ∀ s, R s s) (htrans : ∀ s t u, R s t → R t u → R s u)
    (hinv : ∀ s a s', I s → step s a = some s' → I s')
    (hstep : ∀ s a s', I s → step s a = some s' → R s s')
    (as : List α) (s : σ) (hs : I s) : R s (run step s as) :=
  run_rel hrefl htrans (fun s a s' _ => hinv s a s') (fun s a s' _ => hstep s a s') as s hs
    (meets_of_mem s fun _ _ => trivial)

end Machine
