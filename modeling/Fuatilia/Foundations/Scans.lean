import Fuatilia.Foundations.Lists

/-!
# The first rows of an ordered query

`SELECT … WHERE … ORDER BY … LIMIT n` as a list: the rows that pass a test, in the order of a key,
cut off after `n`. Where the key is unique, a row is among them exactly when fewer than `n` of the
rows that pass come before it.

## Main definitions

* `Scans.select`, `Scans.rank`.

## Main results

* `Scans.mem_select_iff`, `Scans.mem_upTo_select_iff`, `Scans.insertionSort_eq_of_perm`,
  `Scans.find?_eq_some_iff`.
-/

namespace Scans

variable {α β : Type*} [LinearOrder β]

/-- `WHERE p ORDER BY key LIMIT limit`. -/
def select (key : α → β) (p : α → Bool) (limit : ℕ) (rows : List α) : List α :=
  ((rows.filter p).insertionSort fun a b => key a ≤ key b).take limit

/-- The number of rows that pass and come before `a`. -/
def rank (key : α → β) (p : α → Bool) (rows : List α) (a : α) : ℕ :=
  rows.countP fun b => p b && decide (key b < key a)

variable {key : α → β} {p : α → Bool} {limit : ℕ} {rows : List α} {a b : α}

lemma of_mem_select (h : a ∈ select key p limit rows) : a ∈ rows ∧ p a = true :=
  List.mem_filter.mp ((List.mem_insertionSort _).mp (List.mem_of_mem_take h))

lemma nodup_map_select {γ : Type*} {f : α → γ} (h : (rows.map f).Nodup) :
    ((select key p limit rows).map f).Nodup := by
  have hperm := (List.perm_insertionSort (fun a b => key a ≤ key b) (rows.filter p)).map f
  have hsorted := hperm.nodup_iff.mpr (h.sublist (List.filter_sublist.map f))
  exact hsorted.sublist ((List.take_sublist _ _).map f)

lemma pairwise_sorted (hkeys : (rows.map key).Nodup) :
    ((rows.filter p).insertionSort fun a b => key a ≤ key b).Pairwise fun a b => key a < key b := by
  have : IsTrans α fun a b => key a ≤ key b := ⟨fun _ _ _ => le_trans⟩
  have : Std.Total fun a b : α => key a ≤ key b := ⟨fun a b => le_total (key a) (key b)⟩
  have hsorted := List.pairwise_insertionSort (fun a b => key a ≤ key b) (rows.filter p)
  have hdistinct : ((rows.filter p).insertionSort fun a b => key a ≤ key b).Pairwise
      fun a b => key a ≠ key b := by
    rw [← List.pairwise_map (f := key)]
    have hperm := (List.perm_insertionSort (fun a b => key a ≤ key b) (rows.filter p)).map key
    exact hperm.nodup_iff.mpr (hkeys.sublist (List.filter_sublist.map key))
  exact (hsorted.and hdistinct).imp fun h => lt_of_le_of_ne h.1 h.2

/-! ## Sorting by a comparator -/

section Comparator

variable {r : α → α → Prop} [DecidableRel r] {l l' : List α}

/-- A comparator that is the order of a key on the list sorts the list by that key. -/
lemma pairwise_insertionSort (hr : ∀ a ∈ l, ∀ b ∈ l, r a b ↔ key a ≤ key b)
    (hkeys : (l.map key).Nodup) : (l.insertionSort r).Pairwise fun a b => key a < key b := by
  have hsort : l.insertionSort r = l.insertionSort fun a b => key a ≤ key b := by
    simpa using List.map_insertionSort r (fun a b => key a ≤ key b) id l hr
  rw [hsort]
  simpa using pairwise_sorted (p := fun _ => true) hkeys

lemma insertionSort_eq_of_perm (hr : ∀ a ∈ l, ∀ b ∈ l, r a b ↔ key a ≤ key b)
    (hkeys : (l.map key).Nodup) (hperm : l.Perm l') : l'.insertionSort r = l.insertionSort r := by
  refine List.Perm.eq_of_pairwise (fun a b _ _ hab hba => absurd hba (lt_asymm hab))
    (pairwise_insertionSort (fun a ha b hb => ?_) ((hperm.map key).nodup_iff.mp hkeys))
    (pairwise_insertionSort hr hkeys)
    ((List.perm_insertionSort r l').trans (hperm.symm.trans (List.perm_insertionSort r l).symm))
  exact hr a (hperm.mem_iff.mpr ha) b (hperm.mem_iff.mpr hb)

end Comparator

variable {after before : List α}

/-- In a strictly ordered list the elements before one are those with a smaller key. -/
lemma mem_before_iff_lt (h : (before ++ a :: after).Pairwise fun a b => key a < key b) :
    b ∈ before ↔ b ∈ before ++ a :: after ∧ key b < key a := by
  obtain ⟨-, hafter, hcross⟩ := List.pairwise_append.mp h
  constructor
  · exact fun hb => ⟨List.mem_append_left _ hb, hcross b hb a List.mem_cons_self⟩
  · rintro ⟨hb, hlt⟩
    rcases List.mem_append.mp hb with hb | hb
    · exact hb
    · rcases List.mem_cons.mp hb with rfl | hb
      · exact absurd hlt (lt_irrefl _)
      · exact absurd hlt (not_lt_of_gt (List.rel_of_pairwise_cons hafter hb))

lemma length_before (h : (before ++ a :: after).Pairwise fun a b => key a < key b) :
    before.length = (before ++ a :: after).countP fun b => decide (key b < key a) := by
  obtain ⟨-, hafter, hcross⟩ := List.pairwise_append.mp h
  have hbefore : before.countP (fun b => decide (key b < key a)) = before.length :=
    List.countP_eq_length.mpr fun b hb => decide_eq_true (hcross b hb a List.mem_cons_self)
  have hrest : (a :: after).countP (fun b => decide (key b < key a)) = 0 := by
    refine List.countP_eq_zero.mpr fun b hb => ?_
    rcases List.mem_cons.mp hb with rfl | hb
    · simp
    · simpa using (List.rel_of_pairwise_cons hafter hb).le
  rw [List.countP_append, hbefore, hrest, Nat.add_zero]

/-- An element that occurs once is among the first `n` exactly when fewer than `n` stand before. -/
lemma mem_take_iff {n : ℕ} (h : a ∉ before) :
    a ∈ (before ++ a :: after).take n ↔ before.length < n := by
  constructor
  · intro hmem
    by_contra hle
    rw [List.take_append_of_le_length (by omega)] at hmem
    exact h (List.mem_of_mem_take hmem)
  · intro hlt
    obtain ⟨k, hk⟩ : ∃ k, n - before.length = k + 1 := ⟨n - before.length - 1, by omega⟩
    rw [List.take_append, hk, List.take_succ_cons]
    exact List.mem_append_cons_self

/-- **A row is selected exactly when it passes and its rank is below the limit.** -/
theorem mem_select_iff (hkeys : (rows.map key).Nodup) :
    a ∈ select key p limit rows ↔ a ∈ rows ∧ p a = true ∧ rank key p rows a < limit := by
  have hperm := List.perm_insertionSort (fun a b => key a ≤ key b) (rows.filter p)
  have hpairwise := pairwise_sorted (p := p) hkeys
  have hrank : ∀ before after, (rows.filter p).insertionSort (fun a b => key a ≤ key b) =
      before ++ a :: after → (a ∈ select key p limit rows ↔ rank key p rows a < limit) := by
    intro before after hsplit
    rw [hsplit] at hpairwise hperm
    have hnot : a ∉ before := fun h => lt_irrefl _ (mem_before_iff_lt hpairwise |>.mp h).2
    rw [select, hsplit, mem_take_iff hnot, length_before hpairwise, hperm.countP_eq, rank,
      List.countP_filter]
    simp [Bool.and_comm]
  constructor
  · intro h
    have hsorted := List.mem_of_mem_take h
    obtain ⟨before, after, hsplit⟩ := List.append_of_mem hsorted
    obtain ⟨hrows, hp⟩ := List.mem_filter.mp (hperm.mem_iff.mp hsorted)
    exact ⟨hrows, hp, (hrank before after hsplit).mp h⟩
  · rintro ⟨hrows, hp, hlt⟩
    have hsorted := hperm.mem_iff.mpr (List.mem_filter.mpr ⟨hrows, hp⟩)
    obtain ⟨before, after, hsplit⟩ := List.append_of_mem hsorted
    exact (hrank before after hsplit).mpr hlt

lemma rank_mono (h : key a ≤ key b) : rank key p rows a ≤ rank key p rows b := by
  refine List.countP_mono_left fun c _ hc => ?_
  simp only [Bool.and_eq_true, decide_eq_true_eq] at hc ⊢
  exact ⟨hc.1, hc.2.trans_le h⟩

section Visited

open Lists (upTo)

variable {q : α → Prop} [DecidablePred q]

/-- In a strictly ordered list a loop reaches an element exactly when all smaller ones pass. -/
lemma mem_upTo_iff {l : List α} (h : l.Pairwise fun a b => key a < key b) :
    a ∈ upTo q l ↔ a ∈ l ∧ ∀ b ∈ l, key b < key a → q b := by
  induction l with
  | nil => simp [upTo]
  | cons c l ih =>
    obtain ⟨hc, hl⟩ := List.pairwise_cons.mp h
    rw [upTo, List.mem_cons, List.mem_cons, List.forall_mem_cons]
    constructor
    · rintro (rfl | hmem)
      · exact ⟨.inl rfl, fun hlt => absurd hlt (lt_irrefl _),
          fun b hb hlt => absurd hlt (hc b hb).not_gt⟩
      · split at hmem
        · next hq =>
          obtain ⟨ha, hsmaller⟩ := (ih hl).mp hmem
          exact ⟨.inr ha, fun _ => hq, hsmaller⟩
        · cases hmem
    · rintro ⟨rfl | ha, hfirst, hsmaller⟩
      · exact .inl rfl
      · rw [if_pos (hfirst (hc a ha))]
        exact .inr ((ih hl).mpr ⟨ha, hsmaller⟩)

/-- **A loop over the selected rows** reaches a row exactly when it is selected and all rows that
pass the test and have a smaller key let the loop go on. -/
theorem mem_upTo_select_iff (hkeys : (rows.map key).Nodup) :
    a ∈ upTo q (select key p limit rows) ↔ a ∈ rows ∧ p a = true ∧ rank key p rows a < limit ∧
      ∀ b ∈ rows, p b = true → key b < key a → q b := by
  have hpairwise := (pairwise_sorted (p := p) hkeys).sublist (List.take_sublist limit _)
  refine (mem_upTo_iff hpairwise).trans ?_
  rw [← select, mem_select_iff hkeys, and_assoc, and_assoc]
  refine and_congr_right fun _ => and_congr_right fun _ => and_congr_right fun hlimit => ⟨?_, ?_⟩
  · intro h b hb hp hlt
    exact h b ((mem_select_iff hkeys).mpr ⟨hb, hp, (rank_mono hlt.le).trans_lt hlimit⟩) hlt
  · intro h b hb hlt
    exact h b (of_mem_select hb).1 (of_mem_select hb).2 hlt

end Visited

end Scans
