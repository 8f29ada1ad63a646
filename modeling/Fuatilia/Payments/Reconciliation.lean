import Fuatilia.Foundations.Scans
import Fuatilia.Payments.Payment
import Fuatilia.Shared.TextOrder

/-!
# Reconciliation

What a confirmed payment explains: the open invoices whose number is the external reference of the
payment, or else those that the references of the payer cite. The candidates are in the order of due
date and receivable, so the decision does not depend on the order of the invoices, as long as no two
of them have both in common.

## Main definitions

* `matchDecision` — the tiers of the search and the order of the candidates.

## Main results

* `matchDecision_complete` — what a decision lists, and for which lists the order is no matter.
-/

namespace Fuatilia.Payments

open Fallible

structure OpenInvoiceRef where
  receivableId : Uuid
  invoiceNumber : String
  dueDate : Date
  deriving DecidableEq

inductive MatchBasis where
  | exact | fuzzy
  deriving DecidableEq

inductive MatchDecision where
  | matched (basis : MatchBasis) (paymentId : Uuid) (candidates : List OpenInvoiceRef)
  | unapplied (paymentId : Uuid)
  deriving DecidableEq

def assertMatchablePayment (payment : Payment) : Except Thrown Unit := do
  throwIf (isTerminal payment) (DomainError "PAYMENT_TERMINAL"
    s!"payment {payment.id} is {payment.state} (terminal); it cannot be matched")
  throwIf (!isConfirmedFamily payment) (DomainError "PAYMENT_NOT_CONFIRMED"
    s!"matching applies to confirmed money; payment {payment.id} is {payment.state}")

def normalizeRef (value : String) : List Char :=
  (value.toList.filter Char.isAlphanum).map Char.toUpper

/-- Equal references, or one of three characters or more that ends the other. -/
def fuzzyRefMatch (declared invoiceNumber : String) : Bool :=
  let ref := normalizeRef declared
  let inv := normalizeRef invoiceNumber
  ref ≠ [] ∧ inv ≠ [] ∧
    (ref = inv ∨ 3 ≤ ref.length ∧ ref.isSuffixOf inv ∨ 3 ≤ inv.length ∧ inv.isSuffixOf ref)

def byDueDate (a b : OpenInvoiceRef) : Ordering :=
  match a.dueDate, b.dueDate with
  | .ofTime s, .ofTime t =>
    if s ≠ t then compare s t else compareText a.receivableId b.receivableId
  -- a difference with an invalid date is `NaN`, which counts as no difference
  | _, _ => compareText a.receivableId b.receivableId

/-- The tests of the two filters; the exact one finds nothing under an empty reference. -/
def MatchBasis.explains (basis : MatchBasis) (payment : Payment) (inv : OpenInvoiceRef) : Bool :=
  match basis with
  | .exact => normalizeRef payment.externalRef ≠ [] ∧
      normalizeRef inv.invoiceNumber = normalizeRef payment.externalRef
  | .fuzzy => payment.declaredRefs.any fun ref => fuzzyRefMatch ref inv.invoiceNumber

def matchDecision (payment : Payment) (openInvoices : List OpenInvoiceRef) :
    Except Thrown MatchDecision := do
  assertMatchablePayment payment
  let exact := jsSort byDueDate (openInvoices.filter (MatchBasis.exact.explains payment))
  if exact.length > 0 then
    return .matched .exact payment.id exact
  let fuzzy := jsSort byDueDate (openInvoices.filter (MatchBasis.fuzzy.explains payment))
  if fuzzy.length > 0 then
    return .matched .fuzzy payment.id fuzzy
  return .unapplied payment.id

/-! ## What a decision lists -/

/-- The decision lists the invoices that match at its level, each as often as the input does; there
is one, and none at a better level. -/
def MatchDecision.Lists (payment : Payment) (invoices : List OpenInvoiceRef) : MatchDecision → Prop
  | .matched basis id candidates => id = payment.id ∧ candidates ≠ [] ∧
      candidates.Perm (invoices.filter (basis.explains payment)) ∧
      (basis = .fuzzy → ∀ inv ∈ invoices, MatchBasis.exact.explains payment inv = false)
  | .unapplied id => id = payment.id ∧
      ∀ basis : MatchBasis, ∀ inv ∈ invoices, basis.explains payment inv = false

variable {payment : Payment} {invoices : List OpenInvoiceRef}

lemma length_jsSort_filter (basis : MatchBasis) :
    ¬ (jsSort byDueDate (invoices.filter (basis.explains payment))).length > 0 ↔
      ∀ inv ∈ invoices, basis.explains payment inv = false := by
  rw [(jsSort_perm byDueDate _).length_eq, gt_iff_lt, List.length_pos_iff, not_not,
    List.filter_eq_nil_iff]
  simp [Bool.not_eq_true]

lemma lists_of_matchDecision {decision : MatchDecision}
    (h : matchDecision payment invoices = .ok decision) : decision.Lists payment invoices := by
  simp only [matchDecision, bind_eq_ok] at h
  obtain ⟨_, -, h⟩ := h
  split_ifs at h with hexact hfuzzy
  · obtain rfl := pure_eq_ok.mp h
    exact ⟨rfl, List.length_pos_iff.mp hexact, jsSort_perm _ _, nofun⟩
  · obtain rfl := pure_eq_ok.mp h
    exact ⟨rfl, List.length_pos_iff.mp hfuzzy, jsSort_perm _ _,
      fun _ => (length_jsSort_filter .exact).mp hexact⟩
  · obtain rfl := pure_eq_ok.mp h
    refine ⟨rfl, fun basis => ?_⟩
    cases basis with
    | exact => exact (length_jsSort_filter .exact).mp hexact
    | fuzzy => exact (length_jsSort_filter .fuzzy).mp hfuzzy

/-! ## The order of the candidates -/

/-- Due date and receivable; an invalid date is none. -/
def dueKey (inv : OpenInvoiceRef) : Lex (ℤ × List ℕ) :=
  toLex (match inv.dueDate with
    | .ofTime t => t
    | .invalid => 0, codeUnits inv.receivableId)

lemma byDueDate_ne_gt {a b : OpenInvoiceRef}
    (hdates : a.dueDate = .invalid ↔ b.dueDate = .invalid) :
    byDueDate a b ≠ .gt ↔ dueKey a ≤ dueKey b := by
  rw [dueKey, dueKey, Prod.Lex.toLex_le_toLex]
  unfold byDueDate
  rcases hda : a.dueDate with _ | s <;> rcases hdb : b.dueDate with _ | t
  · simpa using compareText_ne_gt
  · simp [hda, hdb] at hdates
  · simp [hda, hdb] at hdates
  · by_cases hst : s = t
    · subst hst
      simpa using compareText_ne_gt
    · simp only [hst, not_false_eq_true, if_true, ne_eq, compare_gt_iff_gt, false_and, or_false]
      omega

lemma nodup_map_dueKey
    (hdates : ∀ a ∈ invoices, ∀ b ∈ invoices, a.dueDate = .invalid ↔ b.dueDate = .invalid)
    (hkeys : (invoices.map fun inv => (inv.dueDate, inv.receivableId)).Nodup) :
    (invoices.map dueKey).Nodup := by
  refine (List.nodup_map_iff_inj_on (hkeys.of_map _)).mpr fun a ha b hb hab => ?_
  refine List.inj_on_of_nodup_map hkeys ha hb ?_
  obtain ⟨hdate, hid⟩ := Prod.mk.inj (toLex_inj.mp hab)
  have hvalid := hdates a ha b hb
  refine Prod.ext ?_ (codeUnits_injective hid)
  rcases hda : a.dueDate with _ | s <;> rcases hdb : b.dueDate with _ | t <;>
    simp_all

/-- **Matching.** A decision lists exactly the invoices that match at the best level, an exact match
before a fuzzy one. It is the same for every permutation of invoices of which no two have one due
date and one receivable, and whose due dates are all dates or all invalid.

**Proof sketch.** On such invoices the comparison is the order of distinct keys. -/
theorem matchDecision_complete (payment : Payment) (invoices : List OpenInvoiceRef) :
    (∀ decision, matchDecision payment invoices = .ok decision → decision.Lists payment invoices) ∧
    ((∀ a ∈ invoices, ∀ b ∈ invoices, a.dueDate = .invalid ↔ b.dueDate = .invalid) →
      (invoices.map fun inv => (inv.dueDate, inv.receivableId)).Nodup →
      ∀ permuted, invoices.Perm permuted →
        matchDecision payment permuted = matchDecision payment invoices) := by
  refine ⟨fun _ => lists_of_matchDecision, fun hdates hkeys permuted hperm => ?_⟩
  have hsame : ∀ p : OpenInvoiceRef → Bool,
      jsSort byDueDate (permuted.filter p) = jsSort byDueDate (invoices.filter p) := by
    intro p
    have hmem : ∀ inv ∈ invoices.filter p, inv ∈ invoices := fun _ => List.mem_of_mem_filter
    have hnodup : ((invoices.filter p).map dueKey).Nodup :=
      (nodup_map_dueKey hdates hkeys).sublist (List.filter_sublist.map _)
    refine Scans.insertionSort_eq_of_perm (fun a ha b hb => ?_) hnodup (hperm.filter p)
    exact byDueDate_ne_gt (hdates a (hmem a ha) b (hmem b hb))
  simp [matchDecision, hsame]

def invOnePayment : Payment :=
  ⟨"p", .c2b, "INV1", "key", none, .confirmed, .KES, ⟨100, .KES⟩, [], some ⟨100, .KES⟩, .ofTime 0,
    some (.ofTime 0), none, none, none, none, [], []⟩

theorem matchDecision_complete_two :
    matchDecision invOnePayment [⟨"b", "inv-1", .ofTime 0⟩, ⟨"a", "INV 1", .ofTime 0⟩] =
      .ok (.matched .exact "p" [⟨"a", "INV 1", .ofTime 0⟩, ⟨"b", "inv-1", .ofTime 0⟩]) := by
  rw [(matchDecision_complete invOnePayment
    [⟨"a", "INV 1", .ofTime 0⟩, ⟨"b", "inv-1", .ofTime 0⟩]).2 (by decide) (by decide) _
      (List.Perm.swap _ _ _)]
  decide

/-- **Lists whose order matters.** Two invoices with one receivable and one due date stay in the
order of the input. With an invoice without a date, compared by its receivable alone, three may
compare in a circle. -/
theorem one_receivable_order :
    matchDecision invOnePayment [⟨"a", "inv-1", .ofTime 0⟩, ⟨"a", "INV 1", .ofTime 0⟩] ≠
        matchDecision invOnePayment [⟨"a", "INV 1", .ofTime 0⟩, ⟨"a", "inv-1", .ofTime 0⟩] ∧
      matchDecision invOnePayment
          [⟨"a", "INV1", .ofTime 5⟩, ⟨"b", "INV1", .invalid⟩, ⟨"c", "INV1", .ofTime 0⟩] ≠
        matchDecision invOnePayment
          [⟨"b", "INV1", .invalid⟩, ⟨"c", "INV1", .ofTime 0⟩, ⟨"a", "INV1", .ofTime 5⟩] := by
  decide

end Fuatilia.Payments
