import Mathlib

/-!
# Hash chains

Each record of a chain links to the digest of the record before it and has a digest of its own, the
hash of a text made from the record.

## Main definitions

* `HashChain.Chained`, `HashChain.headDigest`.

## Main results

* `HashChain.chained_concat` — one more record.
* `HashChain.map_content_eq` — length and last digest tell a chain from every other one.
-/

namespace HashChain

variable {R H I C : Type*} (hash : I → H) (input : R → I) (link : R → Option H) (digest : R → H)

/-- Every record carries the hash of its text and links to the record before it; the first one links
to `previous`. -/
def Chained (previous : Option H) : List R → Prop
  | [] => True
  | r :: rs => link r = previous ∧ digest r = hash (input r) ∧ Chained (some (digest r)) rs

def headDigest (previous : Option H) : List R → Option H
  | [] => previous
  | r :: rs => headDigest (some (digest r)) rs

variable {hash input link digest}

lemma headDigest_concat (previous : Option H) (rs : List R) (r : R) :
    headDigest digest previous (rs ++ [r]) = some (digest r) := by
  induction rs generalizing previous with
  | nil => rfl
  | cons s rs ih => exact ih (some (digest s))

variable {previous : Option H} {rs rs' : List R}

theorem chained_concat {r : R} : Chained hash input link digest previous (rs ++ [r]) ↔
      Chained hash input link digest previous rs ∧ link r = headDigest digest previous rs ∧
        digest r = hash (input r) := by
  induction rs generalizing previous with
  | nil => simp [Chained, headDigest]
  | cons s rs ih =>
    simp only [List.cons_append, Chained, headDigest, ih]
    tauto

lemma digest_eq_of_mem {r : R}
    (h : Chained hash input link digest previous rs) (hr : r ∈ rs) : digest r = hash (input r) := by
  induction rs generalizing previous with
  | nil => cases hr
  | cons s rs ih =>
    rcases List.mem_cons.mp hr with rfl | hr
    · exact h.2.1
    · exact ih h.2.2 hr

lemma chained_congr (h : rs.map (fun r => (input r, link r, digest r)) =
      rs'.map fun r => (input r, link r, digest r)) :
    Chained hash input link digest previous rs ↔ Chained hash input link digest previous rs' := by
  induction rs generalizing previous rs' with
  | nil =>
    obtain rfl : rs' = [] := by simpa using h.symm
    rfl
  | cons r rs ih =>
    cases rs' with
    | nil => cases h
    | cons r' rs' =>
      simp only [List.map_cons, List.cons.injEq, Prod.mk.injEq] at h
      obtain ⟨⟨hinput, hlink, hdigest⟩, hrest⟩ := h
      simp [Chained, hinput, hlink, hdigest, ih hrest]

/-- **A chain is determined by its length and its head.** Let the hash give different digests to
different texts of the two chains, and let a text determine the content and the link of its record.
Then two chains of the same length and with the same head have the same contents.

**Proof sketch.** Induction from the head backwards: equal digests come from equal texts, so the
last records have equal contents, and equal links, which are the heads of the shorter chains. -/
theorem map_content_eq {content : R → C}
    (hfree : ∀ r ∈ rs, ∀ r' ∈ rs', hash (input r) = hash (input r') → input r = input r')
    (hcontent : ∀ r ∈ rs, ∀ r' ∈ rs', input r = input r' → content r = content r' ∧
      link r = link r')
    (h : Chained hash input link digest none rs) (h' : Chained hash input link digest none rs')
    (hlength : rs.length = rs'.length)
    (hhead : headDigest digest none rs = headDigest digest none rs') :
    rs.map content = rs'.map content := by
  induction rs using List.reverseRecOn generalizing rs' with
  | nil =>
    obtain rfl : rs' = [] := List.eq_nil_of_length_eq_zero hlength.symm
    rfl
  | append_singleton rs r ih =>
    rcases List.eq_nil_or_concat rs' with rfl | ⟨rs', r', rfl⟩
    · simp at hlength
    rw [List.concat_eq_append] at *
    rw [chained_concat] at h h'
    have hr : r ∈ rs ++ [r] := by simp
    have hr' : r' ∈ rs' ++ [r'] := by simp
    have hdigest : digest r = digest r' := by
      rw [headDigest_concat, headDigest_concat] at hhead
      exact Option.some.inj hhead
    have hinput : input r = input r' := by
      apply hfree r hr r' hr'
      rw [← h.2.2, ← h'.2.2, hdigest]
    obtain ⟨hsame, hlink⟩ := hcontent r hr r' hr' hinput
    have hrest : rs.map content = rs'.map content := by
      refine ih (fun s hs s' hs' => hfree s (by simp [hs]) s' (by simp [hs']))
        (fun s hs s' hs' => hcontent s (by simp [hs]) s' (by simp [hs'])) h.1 h'.1 ?_ ?_
      · simpa using hlength
      · rw [← h.2.1, ← h'.2.1, hlink]
    rw [List.map_append, List.map_append, hrest, List.map_singleton, List.map_singleton, hsame]

end HashChain
