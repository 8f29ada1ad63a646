import Mathlib

/-!
# Lists with a key

A store of records is a list in which no two records have the same key. A record is looked up by its
key and replaced by a new version of it.

## Main definitions

* `Keyed.put`.

## Main results

* `Keyed.map_put` — a replacement keeps what the old and the new record agree on.
* `Keyed.mem_put` — the records after a replacement.
* `Keyed.find?_key` — a record is found under its key.
-/

namespace Keyed

variable {α β κ : Type*} [DecidableEq κ] (key : α → κ) {a x : α} {l : List α}

/-- The list with `a` in place of the record of its key. -/
def put (a : α) (l : List α) : List α := l.map fun x => if key x = key a then a else x

variable {key}

lemma map_put {f : α → β} (h : ∀ x ∈ l, key x = key a → f a = f x) :
    (put key a l).map f = l.map f := by
  rw [put, List.map_map]
  refine List.map_congr_left fun x hx => ?_
  simp only [Function.comp_apply]
  split_ifs with hkey
  · exact h x hx hkey
  · rfl

lemma map_key_put : (put key a l).map key = l.map key := map_put fun _ _ h => h.symm

lemma mem_put (h : x ∈ put key a l) : x = a ∨ x ∈ l ∧ key x ≠ key a := by
  obtain ⟨y, hy, rfl⟩ := List.mem_map.mp h
  split_ifs with hkey
  · exact .inl rfl
  · exact .inr ⟨hy, hkey⟩

lemma mem_put_of_ne (hx : x ∈ l) (hkey : key x ≠ key a) : x ∈ put key a l :=
  List.mem_map.mpr ⟨x, hx, if_neg hkey⟩

variable (hnodup : (l.map key).Nodup)

include hnodup

omit [DecidableEq κ] in
lemma eq_of_key (hx : x ∈ l) (ha : a ∈ l) (h : key x = key a) : x = a :=
  List.inj_on_of_nodup_map hnodup hx ha h

lemma put_self (ha : a ∈ l) : put key a l = l := by
  rw [put]
  conv_rhs => rw [← List.map_id l]
  refine List.map_congr_left fun x hx => ?_
  split_ifs with hkey
  · exact (eq_of_key hnodup hx ha hkey).symm
  · rfl

lemma find?_key (ha : a ∈ l) : l.find? (fun x => key x = key a) = some a := by
  obtain ⟨y, hy⟩ := Option.isSome_iff_exists.mp
    (List.find?_isSome.mpr ⟨a, ha, by simp⟩ : (l.find? fun x => key x = key a).isSome)
  rw [hy, eq_of_key hnodup (List.mem_of_find?_eq_some hy) ha (by simpa using List.find?_some hy)]

lemma filter_key (ha : a ∈ l) : l.filter (fun x => key x = key a) = [a] := by
  refine List.perm_singleton.mp ((List.perm_ext_iff_of_nodup
    ((List.Nodup.of_map key hnodup).filter _) (List.nodup_singleton a)).mpr fun x => ?_)
  rw [List.mem_filter, List.mem_singleton, decide_eq_true_iff]
  constructor
  · exact fun ⟨hx, hkey⟩ => eq_of_key hnodup hx ha hkey
  · rintro rfl
    exact ⟨ha, rfl⟩

end Keyed
