import Mathlib

/-!
# Appending and replacing one element of a list, and reading a list from a position

Facts about `l ++ [a]` and about `List.set` at a position that holds a known element, for models
that keep their records in a list, add one and replace one by a changed copy, and about a list
without repetitions that is read in overlapping pieces.

## Main definitions

* `Lists.upTo` — the elements up to the first that does not pass.

## Main results

* `Lists.forall_mem_concat`, `Lists.pairwise_concat`, `Lists.nodup_map_concat` — what holds of a
  list and of one more element.
* `Lists.mem_set_cases`, `Lists.sum_map_set`, `Lists.length_filter_le_one`,
  `Lists.eraseDups_append_drop`.
* `Lists.map_set_of_eq` — a view that does not see the change is unchanged.
-/

namespace Lists

variable {α β : Type*}

variable {i : ℕ} {l : List α}

/-! ## One more element -/

section Concat

variable {a : α}

lemma mem_concat {x : α} (h : x ∈ l ++ [a]) : x ∈ l ∨ x = a := by
  simpa using h

lemma forall_mem_concat {p : α → Prop} (h : ∀ x ∈ l, p x) (ha : p a) : ∀ x ∈ l ++ [a], p x :=
  List.forall_mem_append.mpr ⟨h, List.forall_mem_singleton.mpr ha⟩

lemma pairwise_concat {r : α → α → Prop} (h : l.Pairwise r) (ha : ∀ x ∈ l, r x a) :
    (l ++ [a]).Pairwise r := by
  refine List.pairwise_append.mpr ⟨h, List.pairwise_singleton _ _, fun x hx b hb => ?_⟩
  rw [List.mem_singleton.mp hb]
  exact ha x hx

lemma nodup_map_concat {f : α → β} (h : (l.map f).Nodup) (ha : f a ∉ l.map f) :
    ((l ++ [a]).map f).Nodup := by
  rw [List.map_append]
  refine pairwise_concat h fun x hx heq => ?_
  exact ha (heq ▸ hx)

end Concat

/-! ## Up to the first element that fails -/

section UpTo

variable (p : α → Prop) [DecidablePred p]

/-- The elements up to the first that does not pass, and that one: what a loop visits that ends at
its first failure. -/
def upTo : List α → List α
  | [] => []
  | a :: l => a :: if p a then upTo l else []

variable {p}

lemma upTo_append (h : ∀ x ∈ l, p x) (l' : List α) : upTo p (l ++ l') = l ++ upTo p l' := by
  induction l with
  | nil => rfl
  | cons a l ih =>
    obtain ⟨ha, hl⟩ := List.forall_mem_cons.mp h
    rw [List.cons_append, upTo, if_pos ha, ih hl, List.cons_append]

lemma upTo_cons_of_not {a : α} (h : ¬ p a) : upTo p (a :: l) = [a] := by
  rw [upTo, if_neg h]

end UpTo

/-! ## A changed element -/

lemma map_set_of_eq {a b : α} (f : α → β) (h : l[i]? = some a) (hf : f b = f a) :
    (l.set i b).map f = l.map f := by
  apply List.ext_getElem?
  intro k
  rw [List.getElem?_map, List.getElem?_map, List.getElem?_set]
  split_ifs with hk hlt
  · subst hk
    simp [h, hf]
  · subst hk
    rw [List.getElem?_eq_none (by omega)]
  · rfl

/-- A member of the changed list is the copy, or a member at another position. -/
lemma mem_set_cases {b x : α} (h : x ∈ l.set i b) :
    x = b ∨ ∃ k, k ≠ i ∧ l[k]? = some x := by
  obtain ⟨k, hk⟩ := List.mem_iff_getElem?.mp h
  rw [List.getElem?_set] at hk
  split_ifs at hk with hik hlt
  · exact .inl (Option.some.inj hk).symm
  · exact .inr ⟨k, fun h => hik h.symm, hk⟩

lemma mem_set_self {a b : α} (h : l[i]? = some a) : b ∈ l.set i b := by
  have hlt : i < l.length := (List.getElem?_eq_some_iff.mp h).1
  exact List.mem_iff_getElem?.mpr ⟨i, by rw [List.getElem?_set_self hlt]⟩

/-- Two lists that agree under a view agree under everything that the view determines. -/
lemma map_eq_of_map_eq {γ : Type*} {f : α → β} {g : α → γ} (hfg : ∀ a b, f a = f b → g a = g b)
    {l' : List α} (h : l.map f = l'.map f) : l.map g = l'.map g := by
  induction l generalizing l' with
  | nil =>
    obtain rfl : l' = [] := by simpa using h.symm
    rfl
  | cons a l ih =>
    cases l' with
    | nil => cases h
    | cons b l' =>
      obtain ⟨hab, hrest⟩ := List.cons.inj h
      rw [List.map_cons, List.map_cons, hfg a b hab, ih hrest]

/-- At most one position of a list passes a test exactly when no two positions do. -/
lemma length_filter_le_one {p : α → Bool} :
    (l.filter p).length ≤ 1 ↔ l.Pairwise fun a b => ¬ (p a = true ∧ p b = true) := by
  rw [List.pairwise_iff_forall_sublist]
  constructor
  · rintro hle a b hsub ⟨ha, hb⟩
    have hboth := (hsub.filter p).length_le
    rw [List.filter_cons_of_pos ha, List.filter_cons_of_pos hb] at hboth
    simp only [List.length_cons] at hboth
    omega
  · intro hnone
    by_contra hmore
    obtain ⟨a, b, rest, hfilter⟩ : ∃ a b rest, l.filter p = a :: b :: rest := by
      match hfilter : l.filter p with
      | [] => simp [hfilter] at hmore
      | [a] => simp [hfilter] at hmore
      | a :: b :: rest => exact ⟨a, b, rest, rfl⟩
    have hmem : ∀ x ∈ [a, b], p x = true := by
      intro x hx
      have hfiltered : x ∈ l.filter p := by
        rw [hfilter]
        exact List.mem_append_left rest hx
      exact (List.mem_filter.mp hfiltered).2
    have hsub : [a, b].Sublist (l.filter p) := by
      rw [hfilter]
      exact List.sublist_append_left [a, b] rest
    exact hnone (hsub.trans List.filter_sublist) ⟨hmem a (by simp), hmem b (by simp)⟩

lemma sum_map_set {a b : α} (f : α → ℕ) (h : l[i]? = some a) :
    ((l.set i b).map f).sum + f a = (l.map f).sum + f b := by
  induction l generalizing i with
  | nil => simp at h
  | cons x l ih =>
    cases i with
    | zero =>
      obtain rfl : x = a := by simpa using h
      simp only [List.set_cons_zero, List.map_cons, List.sum_cons]
      omega
    | succ i =>
      have hrest := ih (by simpa using h)
      simp only [List.set_cons_succ, List.map_cons, List.sum_cons]
      omega

lemma sum_map_filter (l : List α) (p : α → Bool) (f : α → ℕ) :
    ((l.filter p).map f).sum = (l.map fun a => if p a then f a else 0).sum := by
  induction l with
  | nil => rfl
  | cons x l ih =>
    cases hx : p x <;> simp [hx, ih]

/-! ## Reading a list in pieces -/

section Reading

variable [DecidableEq α]

lemma eraseDups_of_nodup (h : l.Nodup) : l.eraseDups = l := by
  induction l with
  | nil => rfl
  | cons a l ih =>
    rw [List.nodup_cons] at h
    have hfilter : l.filter (fun b => !b == a) = l := by
      rw [List.filter_eq_self]
      intro b hb
      have hne : b ≠ a := fun hba => h.1 (hba ▸ hb)
      simp [hne]
    rw [List.eraseDups_cons, hfilter, ih h.2]

lemma filter_drop_of_nodup (h : l.Nodup) {a b : ℕ} (hab : a ≤ b) :
    (l.drop a).filter (fun x => x ∉ l.take b) = l.drop b := by
  have hsplit : l.drop a = (l.drop a).take (b - a) ++ l.drop b := by
    conv_lhs => rw [← List.take_append_drop (b - a) (l.drop a), List.drop_drop]
    rw [Nat.add_sub_cancel' hab]
  have hseen : ∀ x ∈ (l.drop a).take (b - a), x ∈ l.take b := by
    intro x hx
    rw [← List.drop_take] at hx
    exact List.mem_of_mem_drop hx
  have hfresh : ∀ x ∈ l.drop b, x ∉ l.take b := by
    intro x hx hx'
    exact List.disjoint_take_drop h le_rfl hx' hx
  rw [hsplit, List.filter_append, List.filter_eq_nil_iff.mpr, List.filter_eq_self.mpr]
  · rfl
  · simpa using hfresh
  · simpa using hseen

/-- **Reading on from a position already reached**: when the first readings so far are the elements
before `b`, those after reading on from `a ≤ b` are the whole list. -/
theorem eraseDups_append_drop {seen : List α} (h : l.Nodup) {a b : ℕ} (hab : a ≤ b)
    (hseen : seen.eraseDups = l.take b) : (seen ++ l.drop a).eraseDups = l := by
  have hmem : ∀ x, x ∈ seen ↔ x ∈ l.take b := by
    intro x
    rw [← hseen, List.mem_eraseDups]
  have hrest : (l.drop a).removeAll seen = l.drop b := by
    rw [← filter_drop_of_nodup h hab, List.removeAll]
    apply List.filter_congr
    intro x _
    simp [hmem]
  rw [List.eraseDups_append, hseen, hrest, eraseDups_of_nodup (h.sublist (List.drop_sublist b l)),
    List.take_append_drop]

end Reading

end Lists
