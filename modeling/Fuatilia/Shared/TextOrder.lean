import Fuatilia.Shared.Primitives

/-!
# The order of texts

Texts are compared by their code units.

## Main results

* `codeUnits_injective`, `compareText_ne_gt` — the code units determine the text, so the order is
  total.
-/

namespace Fuatilia

lemma utf16Units_append_inj {c d : Char} {xs ys : List ℕ}
    (h : utf16Units c ++ xs = utf16Units d ++ ys) : c = d ∧ xs = ys := by
  have hc : c.toNat < 0xd800 ∨ 0xdfff < c.toNat ∧ c.toNat < 0x110000 := c.valid
  have hd : d.toNat < 0xd800 ∨ 0xdfff < d.toNat ∧ d.toNat < 0x110000 := d.valid
  have hchar : c.toNat = d.toNat → c = d := fun h => Char.ext (UInt32.toNat_inj.mp h)
  unfold utf16Units at h
  -- a high surrogate is no character, so the first unit tells the two forms apart
  split_ifs at h <;>
    simp only [List.cons_append, List.nil_append, List.cons.injEq] at h
  · exact ⟨hchar h.1, h.2⟩
  · omega
  · omega
  · exact ⟨hchar (by omega), h.2.2⟩

lemma utf16Units_ne_nil (c : Char) : utf16Units c ≠ [] := by
  unfold utf16Units
  split_ifs <;> simp

lemma codeUnits_injective : Function.Injective codeUnits := by
  have hlists : ∀ xs ys : List Char, xs.flatMap utf16Units = ys.flatMap utf16Units → xs = ys := by
    intro xs
    induction xs with
    | nil =>
      rintro (_ | ⟨d, ys⟩) h
      · rfl
      · exact absurd (List.append_eq_nil_iff.mp h.symm).1 (utf16Units_ne_nil d)
    | cons c xs ih =>
      rintro (_ | ⟨d, ys⟩) h
      · exact absurd (List.append_eq_nil_iff.mp h).1 (utf16Units_ne_nil c)
      · obtain ⟨rfl, hrest⟩ := utf16Units_append_inj h
        rw [ih ys hrest]
  exact fun a b h => String.toList_injective (hlists _ _ h)

lemma compareText_ne_gt {a b : String} : compareText a b ≠ .gt ↔ codeUnits a ≤ codeUnits b := by
  unfold compareText
  split_ifs with h1 h2
  · simpa using h1.le
  · simpa using h2
  · simpa using not_lt.mp h2

/-- Pairs that end with the code units of distinct texts are distinct. -/
lemma nodup_map_codeUnits {α β : Type} {l : List α} {text : α → String} (f : α → β)
    (h : (l.map text).Nodup) : (l.map fun a => toLex (f a, codeUnits (text a))).Nodup := by
  refine List.Nodup.of_map (fun k => (ofLex k).2) ?_
  have hunits := h.map codeUnits_injective
  rw [List.map_map] at hunits ⊢
  exact hunits

end Fuatilia
