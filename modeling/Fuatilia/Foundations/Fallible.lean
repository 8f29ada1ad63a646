import Mathlib

/-!
# Fallible computations

Computations that return a value or throw, as `Except ε`, with the guard `throwIf` and the laws
that take a successful computation apart: a `do` block that succeeded had every one of its guards
pass and every one of its steps succeed.

## Main definitions

* `Fallible.throwIf`.

## Main results

* `Fallible.bind_eq_ok`, `Fallible.throwIf_eq_ok`, `Fallible.pure_eq_ok` — the inversion laws.
-/

namespace Fallible

variable {ε α β : Type}

def throwIf (c : Prop) [Decidable c] (e : ε) : Except ε Unit :=
  if c then .error e else .ok ()

lemma throwIf_eq_ok {c : Prop} [Decidable c] {e : ε} {u : Unit} :
    throwIf c e = .ok u ↔ ¬ c := by
  by_cases hc : c <;> simp [throwIf, hc]

/-- A guard with the rest of a computation after it. -/
lemma guard_eq_ok {c : Prop} [Decidable c] {e : ε} {p : Unit → Prop} :
    (∃ u, throwIf c e = .ok u ∧ p u) ↔ ¬ c ∧ p () := by
  simp only [throwIf_eq_ok]
  exact ⟨fun ⟨_, h⟩ => h, fun h => ⟨(), h⟩⟩

variable {x : Except ε α} {f : α → Except ε β} {b : β} {g : α → β}

lemma bind_eq_ok : (x >>= f) = .ok b ↔ ∃ a, x = .ok a ∧ f a = .ok b := by
  cases x <;> simp [bind, Except.bind]

lemma seq_eq_ok {x : Except ε Unit} {y : Except ε β} : (do x; y) = .ok b ↔
    x = .ok () ∧ y = .ok b := by
  rw [bind_eq_ok]
  exact ⟨fun ⟨(), hx, hy⟩ => ⟨hx, hy⟩, fun ⟨hx, hy⟩ => ⟨(), hx, hy⟩⟩

lemma pure_eq_ok {a b : α} : (pure a : Except ε α) = .ok b ↔ b = a := by
  simp [pure, Except.pure, eq_comm]

/-- The inversion laws together. A guard is taken apart with what follows it. -/
lemma ok_iff :
    (∀ {ε α β : Type} {x : Except ε α} {f : α → Except ε β} {b},
      (x >>= f) = .ok b ↔ ∃ a, x = .ok a ∧ f a = .ok b) ∧
    (∀ {ε : Type} {c : Prop} [Decidable c] {e : ε} {p : Unit → Prop},
      (∃ u, throwIf c e = .ok u ∧ p u) ↔ ¬ c ∧ p ()) ∧
    (∀ {ε : Type} {c : Prop} [Decidable c] {e : ε}, throwIf c e = .ok () ↔ ¬ c) ∧
    ∀ {ε α : Type} {a b : α}, (pure a : Except ε α) = .ok b ↔ b = a :=
  ⟨bind_eq_ok, guard_eq_ok, throwIf_eq_ok, pure_eq_ok⟩

/-- The laws that run a computation. -/
lemma do_eq :
    (∀ {ε α β : Type} {a : α} {f : α → Except ε β}, (.ok a >>= f) = f a) ∧
    (∀ {ε α β : Type} {e : ε} {f : α → Except ε β}, (.error e >>= f) = .error e) ∧
    (∀ {ε α : Type} {a : α}, (pure a : Except ε α) = .ok a) ∧
    ∀ {ε : Type} {c : Prop} [Decidable c] {e : ε},
      throwIf c e = if c then .error e else .ok () :=
  ⟨rfl, rfl, rfl, rfl⟩

lemma throw_eq_ok {e : ε} {b : α} : ((throw e : Except ε α) = .ok b) ↔ False := by
  simp [throw, throwThe, MonadExceptOf.throw]

lemma map_eq_ok {f : α → β} : x.map f = .ok b ↔ ∃ a, x = .ok a ∧ f a = b := by
  cases x <;> simp [Except.map]

lemma toOption_eq_some {a : α} : x.toOption = some a ↔ x = .ok a := by
  cases x <;> simp [Except.toOption]

/-- A step that runs an operation. -/
lemma map_toOption_eq_some {f : α → β} {b : β} :
    x.toOption.map f = some b ↔ ∃ a, x = .ok a ∧ f a = b := by
  simp [Option.map_eq_some_iff, toOption_eq_some]

/-- A step that looks a record up and runs an operation on it. -/
lemma lookup_eq_some {γ : Type} {o : Option α} {g : α → β → γ} {c : γ} :
    (do let a ← o; let b ← (f a).toOption; some (g a b)) = some c ↔
      ∃ a, o = some a ∧ ∃ b, f a = .ok b ∧ g a b = c := by
  simp [Option.bind_eq_bind, Option.bind_eq_some_iff, toOption_eq_some, Option.some.injEq]

variable {l : List α} {r : List β}

/-- What a search found. -/
lemma of_find {p : α → Prop} [DecidablePred p] {a : α} (h : l.find? (p ·) = some a) : a ∈ l ∧ p a :=
  ⟨List.mem_of_find?_eq_some h, of_decide_eq_true (List.find?_some h :)⟩

lemma forM_eq_ok {f : α → Except ε Unit} {u : Unit} :
    forM l f = .ok u ↔ ∀ a ∈ l, f a = .ok () := by
  induction l with
  | nil => simp [pure_eq_ok]
  | cons a l ih =>
    rw [List.forM_cons, bind_eq_ok, List.forall_mem_cons, ← ih]
    exact ⟨fun ⟨_, ha, hl⟩ => ⟨ha, hl⟩, fun ⟨ha, hl⟩ => ⟨(), ha, hl⟩⟩

/-- A map succeeds exactly with the values of its calls, one for each element. -/
lemma mapM_eq_ok : l.mapM f = .ok r ↔ List.Forall₂ (fun a b => f a = .ok b) l r := by
  induction l generalizing r with
  | nil => simp [pure_eq_ok]
  | cons a l ih =>
    simp only [List.mapM_cons, bind_eq_ok, pure_eq_ok, ih, List.forall₂_cons_left_iff]
    constructor
    · rintro ⟨b, hb, bs, hbs, rfl⟩
      exact ⟨b, bs, hb, hbs, rfl⟩
    · rintro ⟨b, bs, hb, hbs, rfl⟩
      exact ⟨b, hb, bs, hbs, rfl⟩

lemma mem_of_mapM_eq_ok (h : l.mapM f = .ok r) :
    (∀ b ∈ r, ∃ a ∈ l, f a = .ok b) ∧ ∀ a ∈ l, ∃ b ∈ r, f a = .ok b := by
  rw [mapM_eq_ok] at h
  induction h with
  | nil => simp
  | @cons a b l r hab _ ih =>
    constructor
    · refine List.forall_mem_cons.mpr ⟨⟨a, List.mem_cons_self, hab⟩, fun y hy => ?_⟩
      obtain ⟨x, hx, hxy⟩ := ih.1 y hy
      exact ⟨x, List.mem_cons_of_mem _ hx, hxy⟩
    · refine List.forall_mem_cons.mpr ⟨⟨b, List.mem_cons_self, hab⟩, fun x hx => ?_⟩
      obtain ⟨y, hy, hxy⟩ := ih.2 x hx
      exact ⟨y, List.mem_cons_of_mem _ hy, hxy⟩

lemma mapM_eq_ok_iff {P : α → Prop} (hf : ∀ a ∈ l, ∀ b, f a = .ok b ↔ P a ∧ b = g a) :
    l.mapM f = .ok r ↔ (∀ a ∈ l, P a) ∧ r = l.map g := by
  induction l generalizing r with
  | nil => simp [pure_eq_ok]
  | cons a l ih =>
    have hrest := fun {r} => ih (r := r) fun x hx => hf x (List.mem_cons_of_mem _ hx)
    simp only [List.mapM_cons, bind_eq_ok, pure_eq_ok, hf a List.mem_cons_self, hrest,
      List.forall_mem_cons, List.map_cons]
    constructor
    · rintro ⟨_, ⟨ha, rfl⟩, _, ⟨hl, rfl⟩, rfl⟩
      exact ⟨⟨ha, hl⟩, rfl⟩
    · rintro ⟨⟨ha, hl⟩, rfl⟩
      exact ⟨_, ⟨ha, rfl⟩, _, ⟨hl, rfl⟩, rfl⟩

lemma mapM_eq_ok_map (h : ∀ a ∈ l, f a = .ok (g a)) : l.mapM f = .ok (l.map g) := by
  rw [mapM_eq_ok, List.forall₂_map_right_iff, List.forall₂_same]
  exact h

end Fallible
