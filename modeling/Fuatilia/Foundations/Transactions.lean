import Fuatilia.Foundations.Lists
import Fuatilia.Foundations.Machine

/-!
# Transactions under READ COMMITTED

Each statement of a transaction sees the data committed when it runs, and what the transaction
writes becomes visible in one step, its commit. In between other transactions may commit. A
statement that fails rolls its transaction back, and so may anything at any time.

## Main definitions

* `Transactions.System`, `Transactions.State`, `Transactions.Event`, `Transactions.step`.

## Main results

* `Transactions.step_cases`, `Transactions.invariant_at`.
-/

namespace Transactions

open Machine

variable {D R T : Type*}

/-- A kind of transactions over data `D`: `start` opens one for a request, `advance` runs its next
statement over the committed data (`none`: it fails), `commit` gives the data after its commit
(`none`: it is not ready, or its commit fails). -/
structure System (D R T : Type*) where
  start : R → T
  advance : D → T → Option T
  commit : D → T → Option D

structure State (D T : Type*) where
  db : D
  inFlight : List T

/-- An event: a transaction begins, runs a statement, commits or is rolled back. The open
transactions are numbered from 0. -/
inductive Event (R : Type*) where
  | begin (request : R)
  | advance (i : ℕ)
  | commit (i : ℕ)
  | abort (i : ℕ)

def step (S : System D R T) (s : State D T) : Event R → Option (State D T)
  | .begin request => some { s with inFlight := s.inFlight ++ [S.start request] }
  | .advance i => s.inFlight[i]?.map fun t =>
    match S.advance s.db t with
    | some t' => { s with inFlight := s.inFlight.set i t' }
    | none => { s with inFlight := s.inFlight.eraseIdx i }
  | .commit i => s.inFlight[i]?.bind fun t =>
    (S.commit s.db t).map fun db => ⟨db, s.inFlight.eraseIdx i⟩
  | .abort i => some { s with inFlight := s.inFlight.eraseIdx i }

variable {S : System D R T} {s s' : State D T} {e : Event R}

/-- **What one event can do.** It leaves the data as it is and starts, advances or drops a
transaction, or it commits one. -/
theorem step_cases (h : step S s e = some s') :
    (s'.db = s.db ∧ ((∃ r, e = .begin r ∧ s'.inFlight = s.inFlight ++ [S.start r]) ∨
        (∃ i t t', s.inFlight[i]? = some t ∧ S.advance s.db t = some t' ∧
          s'.inFlight = s.inFlight.set i t') ∨
        ∃ i, s'.inFlight = s.inFlight.eraseIdx i)) ∨
      ∃ i t, e = .commit i ∧ s.inFlight[i]? = some t ∧ S.commit s.db t = some s'.db ∧
        s'.inFlight = s.inFlight.eraseIdx i := by
  cases e with
  | begin r =>
    cases h
    exact .inl ⟨rfl, .inl ⟨r, rfl, rfl⟩⟩
  | advance i =>
    obtain ⟨t, ht, rfl⟩ := Option.map_eq_some_iff.mp h
    cases hadv : S.advance s.db t with
    | some t' => exact .inl ⟨rfl, .inr (.inl ⟨i, t, t', ht, hadv, rfl⟩)⟩
    | none => exact .inl ⟨rfl, .inr (.inr ⟨i, rfl⟩)⟩
  | commit i =>
    obtain ⟨t, ht, hcommit⟩ := Option.bind_eq_some_iff.mp h
    obtain ⟨db, hdb, rfl⟩ := Option.map_eq_some_iff.mp hcommit
    exact .inr ⟨i, t, rfl, ht, hdb, rfl⟩
  | abort i =>
    cases h
    exact .inl ⟨rfl, .inr (.inr ⟨i, rfl⟩)⟩

/-- The data satisfy `I` and every open transaction satisfies `J` over them. -/
structure Holds (I : D → Prop) (J : D → T → Prop) (s : State D T) : Prop where
  data : I s.db
  open' : ∀ t ∈ s.inFlight, J s.db t

variable {I : D → Prop} {J : D → T → Prop} {C : State D T → Event R → Prop}

variable (hstart : ∀ s r, C s (.begin r) → J s.db (S.start r))
  (hadvance : ∀ db t t', I db → J db t → S.advance db t = some t' → J db t')
  (hcommit : ∀ s i t db, C s (.commit i) → s.inFlight[i]? = some t → I s.db → J s.db t →
    S.commit s.db t = some db → I db)
  (hframe : ∀ db t db' u, J db t → S.commit db t = some db' → J db u → J db' u)

include hstart hadvance hcommit hframe

theorem holds_of_step (hC : C s e) (hs : Holds I J s) (h : step S s e = some s') :
    Holds I J s' := by
  rcases step_cases h with ⟨hdb, hopen⟩ | ⟨i, t, rfl, ht, hdb, hopen⟩
  · refine ⟨hdb ▸ hs.data, fun u hu => ?_⟩
    rw [hdb]
    rcases hopen with ⟨r, rfl, heq⟩ | ⟨i, t, t', ht, hadv, heq⟩ | ⟨i, heq⟩ <;> rw [heq] at hu
    · exact Lists.forall_mem_concat hs.open' (hstart s r hC) u hu
    · rcases List.mem_or_eq_of_mem_set hu with hold | rfl
      · exact hs.open' u hold
      · exact hadvance s.db t _ hs.data (hs.open' t (List.mem_of_getElem? ht)) hadv
    · exact hs.open' u (List.mem_of_mem_eraseIdx hu)
  · have hJ := hs.open' t (List.mem_of_getElem? ht)
    refine ⟨hcommit s i t _ hC ht hs.data hJ hdb, fun u hu => ?_⟩
    rw [hopen] at hu
    exact hframe s.db t _ u hJ hdb (hs.open' u (List.mem_of_mem_eraseIdx hu))

/-- **The invariant rule.** Under the condition, let every fresh transaction satisfy `J` and let
every commit keep `I`; let statements keep `J`, and let commits keep `J` of the other transactions.
Then both hold at every point of an interleaving whose events all meet the condition. -/
theorem invariant_at {events : List (Event R)} (hs : Holds I J s) (hC : Meets (step S) C s events)
    (k : ℕ) : Holds I J (run (step S) s (events.take k)) :=
  Machine.invariant_at
    (fun _ _ _ hC hs h => holds_of_step hstart hadvance hcommit hframe hC hs h) hs hC k

end Transactions
