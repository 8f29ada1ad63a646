import Mathlib

/-!
# Procedures that keep their effects when they throw

A procedure reads and writes a state and may throw; what it wrote before it threw stays written.
Such procedures are `EStateM ε σ`, and `Triple P x Q E` is their specification: from a state with
`P`, the procedure `x` returns a value and a state with `Q`, or throws and leaves a state with `E`.

## Main definitions

* `Procedure.Triple`, `Procedure.attempt`.

## Main results

* `Procedure.Triple.bind` and the rules for the primitive procedures.
-/

namespace Procedure

variable {ε σ α β : Type}

def attempt (x : Except ε α) : EStateM ε σ α := fun s =>
  match x with
  | .ok a => .ok a s
  | .error e => .error e s

/-- From a state with `P`, a return ends in `Q` and a throw ends in `E`. -/
def Triple (P : σ → Prop) (x : EStateM ε σ α) (Q : α → σ → Prop) (E : σ → Prop) : Prop :=
  ∀ s, P s → match x s with
    | .ok a s' => Q a s'
    | .error _ s' => E s'

namespace Triple

variable {P : σ → Prop} {Q : α → σ → Prop} {E : σ → Prop}

variable {x : EStateM ε σ α}

lemma of_ok (h : Triple P x Q E) {s s' : σ} {a : α} (hx : x s = .ok a s') (hs : P s) : Q a s' := by
  have hxs := h s hs
  rwa [hx] at hxs

lemma of_error (h : Triple P x Q E) {s s' : σ} {e : ε} (hx : x s = .error e s') (hs : P s) :
    E s' := by
  have hxs := h s hs
  rwa [hx] at hxs

lemma of_fact {p : Prop} (h : p → Triple P x Q E) : Triple (fun s => P s ∧ p) x Q E :=
  fun s hs => h hs.2 s hs.1

lemma post {Q' : α → σ → Prop} {E' : σ → Prop} (h : Triple P x Q' E')
    (hQ : ∀ a s, Q' a s → Q a s) (hE : ∀ s, E' s → E s) : Triple P x Q E := by
  intro s hs
  cases hx : x s with
  | ok a s' => exact hQ a s' (h.of_ok hx hs)
  | error e s' => exact hE s' (h.of_error hx hs)

lemma bind {f : α → EStateM ε σ β} {R : β → σ → Prop}
    (hx : Triple P x Q E) (hf : ∀ a, Triple (Q a) (f a) R E) : Triple P (x >>= f) R E := by
  intro s hs
  change match EStateM.bind x f s with
    | .ok b s' => R b s'
    | .error _ s' => E s'
  unfold EStateM.bind
  cases hrun : x s with
  | ok a s' => exact hf a s' (hx.of_ok hrun hs)
  | error e s' => exact hx.of_error hrun hs

lemma pure {a : α} (h : ∀ s, P s → Q a s) : Triple P (pure a : EStateM ε σ α) Q E := h

lemma throw {e : ε} (h : ∀ s, P s → E s) : Triple P (throw e : EStateM ε σ α) Q E := h

lemma get {Q : σ → σ → Prop} (h : ∀ s, P s → Q s s) :
    Triple P (get : EStateM ε σ σ) Q E := h

lemma modify {f : σ → σ} {Q : Unit → σ → Prop} (h : ∀ s, P s → Q () (f s)) :
    Triple P (modify f : EStateM ε σ Unit) Q E := h

lemma attempt {x : Except ε α} (hok : ∀ a, x = .ok a → ∀ s, P s → Q a s)
    (herror : ∀ e, x = .error e → ∀ s, P s → E s) :
    Triple P (attempt x : EStateM ε σ α) Q E := by
  intro s hs
  cases x with
  | ok a => exact hok a rfl s hs
  | error e => exact herror e rfl s hs

lemma forM {γ : Type} {f : γ → EStateM ε σ Unit} (h : ∀ c, Triple P (f c) (fun _ => P) E) :
    ∀ l : List γ, Triple P (forM l f) (fun _ => P) E
  | [] => pure fun _ hs => hs
  | c :: l => (h c).bind fun _ => forM h l

lemma ite {c : Prop} [Decidable c] {y : EStateM ε σ α} (hx : c → Triple P x Q E)
    (hy : ¬ c → Triple P y Q E) : Triple P (if c then x else y) Q E := by
  split_ifs with hc
  · exact hx hc
  · exact hy hc

end Triple

end Procedure
