import Fuatilia.Foundations.Lists
import Fuatilia.Foundations.Machine

/-!
# Processes that share a world and may be killed

Any number of processes work on one world. A step of a process changes the world and leaves the
process at its next step, or ends it. Between two steps others take theirs, and a process may be
killed at any time: what it has done to the world stays.

## Main definitions

* `Processes.System`, `Processes.State`, `Processes.Event`, `Processes.step`, `Processes.Attended`.

## Main results

* `Processes.step_cases`, `Processes.holds_of_step`, `Processes.invariant_at`,
  `Processes.pairwise_replace`, `Processes.attended_of_step`.
-/

namespace Processes

open Machine

variable {W R P : Type*}

/-- A kind of processes over a world `W`: `start` gives the process of a request, `advance` the
world and the process after its next step (`none`: it has ended). -/
structure System (W R P : Type*) where
  start : R → P
  advance : W → P → W × Option P

structure State (W P : Type*) where
  world : W
  alive : List P

/-- An event: a process begins, takes its next step or is killed. The processes are numbered
from 0. -/
inductive Event (R : Type*) where
  | begin (request : R)
  | advance (i : ℕ)
  | kill (i : ℕ)

/-- The processes after the step of process `i`. -/
def replace (alive : List P) (i : ℕ) : Option P → List P
  | some p => alive.set i p
  | none => alive.eraseIdx i

def step (S : System W R P) (s : State W P) : Event R → Option (State W P)
  | .begin request => some { s with alive := s.alive ++ [S.start request] }
  | .advance i => s.alive[i]?.map fun p =>
    ⟨(S.advance s.world p).1, replace s.alive i (S.advance s.world p).2⟩
  | .kill i => some { s with alive := s.alive.eraseIdx i }

variable {S : System W R P} {s s' : State W P} {e : Event R}

/-- **What one event can do.** -/
theorem step_cases (h : step S s e = some s') :
    (∃ r, e = .begin r ∧ s' = ⟨s.world, s.alive ++ [S.start r]⟩) ∨
      (∃ i p, e = .advance i ∧ s.alive[i]? = some p ∧
        s' = ⟨(S.advance s.world p).1, replace s.alive i (S.advance s.world p).2⟩) ∨
      ∃ i, e = .kill i ∧ s' = ⟨s.world, s.alive.eraseIdx i⟩ := by
  cases e with
  | begin r => exact .inl ⟨r, rfl, (Option.some.inj h).symm⟩
  | advance i =>
    obtain ⟨p, hp, rfl⟩ := Option.map_eq_some_iff.mp h
    exact .inr (.inl ⟨i, p, rfl, hp, rfl⟩)
  | kill i => exact .inr (.inr ⟨i, rfl, (Option.some.inj h).symm⟩)

variable {alive : List P} {i : ℕ} {next : Option P} {q p : P}

lemma mem_replace (h : q ∈ replace alive i next) : q ∈ alive ∨ next = some q := by
  cases next with
  | none => exact .inl (List.mem_of_mem_eraseIdx h)
  | some p =>
    rcases List.mem_or_eq_of_mem_set h with hold | rfl
    · exact .inl hold
    · exact .inr rfl

lemma mem_eraseIdx_of_ne {j : ℕ} (hq : alive[j]? = some q) (hne : j ≠ i) : q ∈ alive.eraseIdx i :=
  List.mem_eraseIdx_iff_getElem?.mpr ⟨j, hne, hq⟩

lemma mem_replace_of_ne {j : ℕ} (hq : alive[j]? = some q) (hne : j ≠ i) :
    q ∈ replace alive i next := by
  cases next with
  | none => exact mem_eraseIdx_of_ne hq hne
  | some p =>
    have hset : (alive.set i p)[j]? = some q := by
      rw [List.getElem?_set_ne (Ne.symm hne), hq]
    exact List.mem_of_getElem? hset

lemma mem_of_replace (hp : alive[i]? = some p) (hq : q ∈ alive) :
    q = p ∨ q ∈ replace alive i next := by
  obtain ⟨j, hj⟩ := List.mem_iff_getElem?.mp hq
  rcases eq_or_ne j i with rfl | hne
  · exact .inl (Option.some.inj (hj.symm.trans hp))
  · exact .inr (mem_replace_of_ne hj hne)

/-- A symmetric relation between any two processes holds after the step of process `i`, if it holds
between what became of `i` and the others. -/
lemma pairwise_replace {Q : P → P → Prop} (hsymm : ∀ p q, Q p q → Q q p) (h : alive.Pairwise Q)
    (hnew : ∀ p ∈ next, ∀ q ∈ alive.eraseIdx i, Q p q) : (replace alive i next).Pairwise Q := by
  have hrest := h.sublist (List.eraseIdx_sublist alive i)
  cases next with
  | none => exact hrest
  | some p =>
    by_cases hlt : i < alive.length
    · have hothers := hnew p rfl
      rw [List.eraseIdx_eq_take_drop_succ] at hrest hothers
      obtain ⟨hbefore, hafter, hcross⟩ := List.pairwise_append.mp hrest
      rw [replace, List.set_eq_take_append_cons_drop, if_pos hlt]
      refine List.pairwise_append.mpr ⟨hbefore, List.pairwise_cons.mpr ⟨fun q hq => ?_, hafter⟩, ?_⟩
      · exact hothers q (List.mem_append_right _ hq)
      · intro q hq r hr
        rcases List.mem_cons.mp hr with rfl | hr
        · exact hsymm _ _ (hothers q (List.mem_append_left _ hq))
        · exact hcross q hq r hr
    · rw [replace, List.set_eq_of_length_le (not_lt.mp hlt)]
      exact h

lemma rel_of_pairwise {Q : P → P → Prop} (hsymm : ∀ p q, Q p q → Q q p) (h : alive.Pairwise Q)
    (hp : alive[i]? = some p) (hq : q ∈ alive.eraseIdx i) :
    Q p q := by
  obtain ⟨j, hne, hj⟩ := List.mem_eraseIdx_iff_getElem?.mp hq
  obtain ⟨hi, rfl⟩ := List.getElem?_eq_some_iff.mp hp
  obtain ⟨hlen, rfl⟩ := List.getElem?_eq_some_iff.mp hj
  rcases lt_or_gt_of_ne hne with hlt | hlt
  · exact hsymm _ _ (List.pairwise_iff_getElem.mp h j i hlen hi hlt)
  · exact List.pairwise_iff_getElem.mp h i j hi hlen hlt

/-! ## Invariants -/

/-- The world satisfies `I` and every process satisfies `J` in it. -/
structure Holds (I : W → Prop) (J : W → P → Prop) (s : State W P) : Prop where
  world : I s.world
  alive : ∀ p ∈ s.alive, J s.world p

variable {I : W → Prop} {J : W → P → Prop} {C : State W P → Event R → Prop}

section

variable (hstart : ∀ s r, C s (.begin r) → J s.world (S.start r))
  (hadvance : ∀ s i p, C s (.advance i) → s.alive[i]? = some p → I s.world → J s.world p →
    I (S.advance s.world p).1 ∧ ∀ q, (S.advance s.world p).2 = some q → J (S.advance s.world p).1 q)
  (hframe : ∀ w p q, I w → J w p → J w q → J (S.advance w p).1 q)

include hstart hadvance hframe

theorem holds_of_step (hC : C s e) (hs : Holds I J s) (h : step S s e = some s') :
    Holds I J s' := by
  rcases step_cases h with ⟨r, rfl, rfl⟩ | ⟨i, p, rfl, hp, rfl⟩ | ⟨i, rfl, rfl⟩
  · exact ⟨hs.world, Lists.forall_mem_concat hs.alive (hstart s r hC)⟩
  · have hJ := hs.alive p (List.mem_of_getElem? hp)
    obtain ⟨hI', hJ'⟩ := hadvance s i p hC hp hs.world hJ
    refine ⟨hI', fun q hq => ?_⟩
    rcases mem_replace hq with hold | hnew
    · exact hframe s.world p q hs.world hJ (hs.alive q hold)
    · exact hJ' q hnew
  · exact ⟨hs.world, fun q hq => hs.alive q (List.mem_of_mem_eraseIdx hq)⟩

/-- **The invariant rule.** Let every process start with `J`, let the step of a process keep `I` and
leave it with `J`, and let it keep `J` of the other processes. Then both hold at every point of an
interleaving whose events all meet the condition. -/
theorem invariant_at {events : List (Event R)} (hs : Holds I J s) (hC : Meets (step S) C s events)
    (k : ℕ) : Holds I J (run (step S) s (events.take k)) :=
  Machine.invariant_at (fun _ _ _ hC hs h => holds_of_step hstart hadvance hframe hC hs h) hs hC k

end

/-! ## Duties -/

/-- While the world owes something, a process that bears the duty is alive. -/
def Attended (owes : W → Prop) (bears : P → Prop) (s : State W P) : Prop :=
  owes s.world → ∃ p ∈ s.alive, bears p

variable {owes : W → Prop} {bears : P → Prop}

/-- **The rule for duties.** Let a step after which the world owes something be that of a process
without the duty while the world owed it before, or leave its process with the duty. Then a duty
stays attended as long as no process that bears it is killed. -/
theorem attended_of_step
    (hduty : ∀ p ∈ s.alive, owes (S.advance s.world p).1 →
      (owes s.world ∧ ¬ bears p) ∨ ∃ q, (S.advance s.world p).2 = some q ∧ bears q)
    (hkill : ∀ (i : ℕ) p, e = .kill i → s.alive[i]? = some p → ¬ bears p)
    (hs : Attended owes bears s) (h : step S s e = some s') : Attended owes bears s' := by
  -- a bearer whose position is not the one of the event
  have hother : ∀ i : ℕ, owes s.world → (∀ p, s.alive[i]? = some p → ¬ bears p) →
      ∃ j q, s.alive[j]? = some q ∧ j ≠ i ∧ bears q := by
    intro i howes hi
    obtain ⟨q, hq, hbears⟩ := hs howes
    obtain ⟨j, hj⟩ := List.mem_iff_getElem?.mp hq
    exact ⟨j, q, hj, fun hji => hi q (hji ▸ hj) hbears, hbears⟩
  intro howes
  rcases step_cases h with ⟨r, rfl, rfl⟩ | ⟨i, p, rfl, hp, rfl⟩ | ⟨i, rfl, rfl⟩
  · obtain ⟨q, hq, hbears⟩ := hs howes
    exact ⟨q, List.mem_append_left _ hq, hbears⟩
  · rcases hduty p (List.mem_of_getElem? hp) howes with ⟨howed, hnot⟩ | ⟨q, hnext, hbears⟩
    · obtain ⟨j, q, hj, hne, hbears⟩ := hother i howed fun p' hp' =>
        Option.some.inj (hp.symm.trans hp') ▸ hnot
      exact ⟨q, mem_replace_of_ne hj hne, hbears⟩
    · refine ⟨q, ?_, hbears⟩
      show q ∈ replace s.alive i _
      rw [hnext]
      exact Lists.mem_set_self hp
  · obtain ⟨j, q, hj, hne, hbears⟩ := hother i howes fun p hp => hkill i p rfl hp
    exact ⟨q, mem_eraseIdx_of_ne hj hne, hbears⟩

end Processes
