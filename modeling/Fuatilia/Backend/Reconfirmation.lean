import Fuatilia.Backend.Payments
import Fuatilia.Payments.Lifecycle

/-!
# A success callback that comes again

Callbacks are delivered at least once, so a confirmed payment is confirmed again, at any later time.
The replay is recognised by the state `confirmed`, which an allocation reservation changes and a
refund reservation keeps. The backend looks at the state in the same way.

## Main results

* `reconfirm_unchanged_iff` — the replay changes nothing exactly when no allocation was reserved.
-/

namespace Fuatilia

open Fallible Machine

namespace Payments

def Command.isAllocation : Command → Bool
  | .allocate .. => true
  | .awaitConfirmation | .confirm .. | .fail .. | .reverse .. | .identify .. | .refund .. => false

def Command.isReservation : Command → Bool
  | .allocate .. | .refund .. => true
  | .awaitConfirmation | .confirm .. | .fail .. | .reverse .. | .identify .. => false

lemma confirmed_of_confirmPayment {p : Payment} {amount : Money} {clock : Clock}
    {r : TransitionResult} (h : confirmPayment p amount clock = .ok r) :
    r.payment.state = .confirmed ∧ r.payment.confirmedMinor = some amount ∧
      amount.currency = r.payment.currency := by
  simp only [confirmPayment, bind_eq_ok, assertSameCurrency_eq_ok, exists_const] at h
  obtain ⟨hcurrency, -, -, h⟩ := h
  split at h
  · rename_i hstate
    simp only [ok_iff, assertConfirmedMinor_eq_ok, Money.equals_eq_ok] at h
    obtain ⟨confirmed, hconfirmed, same, ⟨hsame, rfl⟩, hequal, rfl⟩ := h
    have hamount : confirmed = amount := Money.ext (by simpa using hequal) hsame
    exact ⟨hstate, hamount ▸ hconfirmed, hcurrency⟩
  · simp only [ok_iff] at h
    obtain ⟨-, rfl⟩ := h
    exact ⟨rfl, rfl, hcurrency⟩

lemma confirmPayment_again {p : Payment} {amount : Money} (clock : Clock)
    (hconfirmed : p.confirmedMinor = some amount) (hcurrency : amount.currency = p.currency)
    (hfamily : p.state = .confirmed ∨ p.state = .partiallyAllocated ∨ p.state = .allocated) :
    confirmPayment p amount clock = .ok ⟨p, []⟩ ↔ p.state = .confirmed := by
  have hopen : isTerminal p = false := by
    rcases hfamily with h | h | h <;> simp [isTerminal, TERMINAL_STATES, h]
  simp only [confirmPayment, bind_eq_ok, assertSameCurrency_eq_ok, assertNotTerminal_eq_ok, hopen,
    hcurrency, exists_const, true_and]
  constructor
  · intro h
    by_contra hstate
    rw [if_neg hstate] at h
    simp only [ok_iff, not_not] at h
    rcases hfamily with h' | h' | h' <;> simp [h'] at h hstate
  · intro hstate
    rw [if_pos hstate]
    simp only [ok_iff, assertConfirmedMinor_eq_ok, Money.equals_eq_ok]
    exact ⟨amount, hconfirmed, true, ⟨rfl, by simp⟩, by simp, trivial⟩

lemma reservation_step {p p' : Payment} {c : Command} (hc : c.isReservation = true)
    (h : step p c = some p') :
    p'.confirmedMinor = p.confirmedMinor ∧ p'.currency = p.currency ∧
      if c.isAllocation then p'.state = .partiallyAllocated ∨ p'.state = .allocated
      else p'.state = p.state := by
  obtain ⟨r, hr, rfl⟩ := map_toOption_eq_some.mp h
  cases c with
  | allocate cmd clock =>
    simp only [apply, recordAllocationReservation, ok_iff] at hr
    obtain ⟨-, -, -, -, -, -, _, -, _, -, _, -, rfl⟩ := hr
    refine ⟨rfl, rfl, ?_⟩
    simp only [Command.isAllocation, if_true]
    split_ifs
    · exact .inr rfl
    · exact .inl rfl
  | refund cmd clock =>
    simp only [apply, recordRefundReservation, ok_iff] at hr
    obtain ⟨-, -, -, -, -, -, -, _, -, _, -, rfl⟩ := hr
    exact ⟨rfl, rfl, rfl⟩
  | _ => cases hc

/-- **A run of accepted reservations.** The confirmed amount stays, and the state is what it was,
or, as soon as one of them is an allocation, one of the two allocated states. -/
lemma reservations_run (cmds : List Command) : ∀ p : Payment,
    (∀ c ∈ cmds, c.isReservation = true) →
    Meets step (fun p c => (step p c).isSome) p cmds →
    (run step p cmds).confirmedMinor = p.confirmedMinor ∧
      (run step p cmds).currency = p.currency ∧
      if cmds.any Command.isAllocation then
        (run step p cmds).state = .partiallyAllocated ∨ (run step p cmds).state = .allocated
      else (run step p cmds).state = p.state := by
  induction cmds with
  | nil => intro p _ _; exact ⟨rfl, rfl, rfl⟩
  | cons c cmds ih =>
    intro p hres hacc
    obtain ⟨p', hstep⟩ := Option.isSome_iff_exists.mp hacc.1
    obtain ⟨hconf, hcur, hstate⟩ := reservation_step (hres c List.mem_cons_self) hstep
    have hrest := hacc.2
    rw [next_of_some hstep] at hrest
    obtain ⟨hconf', hcur', hstate'⟩ :=
      ih p' (fun c' hc' => hres c' (List.mem_cons_of_mem _ hc')) hrest
    rw [run_cons, next_of_some hstep]
    refine ⟨hconf'.trans hconf, hcur'.trans hcur, ?_⟩
    rw [List.any_cons]
    -- the state after the first command decides when none of the others is an allocation
    cases hany : cmds.any Command.isAllocation with
    | true =>
      rw [hany] at hstate'
      simpa using hstate'
    | false =>
      rw [hany, if_neg (by simp)] at hstate'
      rw [Bool.or_false, hstate']
      exact hstate

end Payments

namespace Backend

lemma confirm_again {w : World} {orgID : Uuid} {p : PaymentRow} {amountMinor : ℤ}
    (hp : paymentByID w orgID p.id = some p) (hpos : 0 < amountMinor)
    (hfamily : p.state ∈ confirmedFamilyStates) (hconfirmed : p.confirmedMinor = some amountMinor) :
    confirm w orgID p.id amountMinor p.currency = .ok (w, ⟨p, true⟩) ↔ p.state = .confirmed := by
  constructor
  · intro h
    obtain ⟨p', hp', -, hcases⟩ := confirm_cases h
    obtain rfl := Option.some.inj (hp'.symm.trans hp)
    rcases hcases with ⟨hstate, -⟩ | ⟨hstate, -⟩
    · exact hstate
    · -- the states before the confirmation are not in the family
      rcases hstate with hstate | hstate <;> rw [hstate] at hfamily <;>
        exact absurd hfamily (by decide)
  · intro hstate
    have hpos : ¬ amountMinor ≤ 0 := not_le.mpr hpos
    simp [confirm, do_eq, hpos, hp, hstate, hconfirmed, terminalPaymentStates]

end Backend

open Payments in
/-- **When a confirmation can come again.** Let allocation and refund reservations be accepted on a
confirmed payment. The same confirmation then returns the payment unchanged exactly when none of
them is an allocation. In the backend, a payment of the confirmed family takes its confirmation
again exactly in the state `confirmed`. -/
theorem reconfirm_unchanged_iff (p : Payment) (amount : Money) (clock₀ clock : Clock)
    (r : TransitionResult) (hconfirmed : confirmPayment p amount clock₀ = .ok r)
    (cmds : List Command) (hreservations : ∀ c ∈ cmds, c.isReservation = true)
    (haccepted : Meets step (fun p c => (step p c).isSome) r.payment cmds) :
    (confirmPayment (run step r.payment cmds) amount clock =
        .ok ⟨run step r.payment cmds, []⟩ ↔ ∀ c ∈ cmds, c.isAllocation = false) ∧
      ∀ (w : Backend.World) (orgID : Uuid) (row : Backend.PaymentRow) (amountMinor : ℤ),
        Backend.paymentByID w orgID row.id = some row → 0 < amountMinor →
        row.state ∈ Backend.confirmedFamilyStates → row.confirmedMinor = some amountMinor →
        (Backend.confirm w orgID row.id amountMinor row.currency = .ok (w, ⟨row, true⟩) ↔
          row.state = .confirmed) := by
  refine ⟨?_, fun w orgID row amountMinor hrow hpos hfamily hminor =>
    Backend.confirm_again hrow hpos hfamily hminor⟩
  obtain ⟨hstate, hminor, hcurrency⟩ := confirmed_of_confirmPayment hconfirmed
  obtain ⟨hminor', hcurrency', hrun⟩ :=
    reservations_run cmds r.payment hreservations haccepted
  have hnone : (∀ c ∈ cmds, c.isAllocation = false) ↔ cmds.any Command.isAllocation = false := by
    simp
  rw [hnone]
  cases hany : cmds.any Command.isAllocation with
  | true =>
    rw [hany, if_pos rfl] at hrun
    rw [confirmPayment_again clock (hminor'.trans hminor) (hcurrency.trans hcurrency'.symm)
      (.inr hrun)]
    rcases hrun with h | h <;> simp [h]
  | false =>
    rw [hany, if_neg (by simp), hstate] at hrun
    rw [confirmPayment_again clock (hminor'.trans hminor) (hcurrency.trans hcurrency'.symm)
      (.inl hrun)]
    simp [hrun]

def Payments.waitingPayment : Payments.Payment :=
  { id := "p-1", channel := .c2b, externalRef := "QGR7TI9", idempotencyKey := "till-1",
    customerId := none, state := .pendingConfirmation, currency := .KES,
    requestedMinor := ⟨10000, .KES⟩, declaredRefs := [], confirmedMinor := none,
    initiatedAt := .ofTime 0, confirmedAt := none, failedAt := none, failureCode := none,
    reversedAt := none, reversalReason := none, allocations := [], refunds := [] }

def Payments.confirmedPayment : Payments.Payment :=
  { Payments.waitingPayment with
    state := .confirmed, confirmedMinor := some ⟨10000, .KES⟩, confirmedAt := some (.ofTime 0) }

open Payments in
/-- After a refund reservation of 25.00 the confirmation of 100.00 comes again, and changes
nothing. -/
theorem reconfirm_unchanged_iff_refunded :
    let clock : Clock := ⟨fun _ => .ofTime 0⟩
    let q := run step confirmedPayment [.refund ⟨⟨2500, .KES⟩, "overpaid", some "r-1"⟩ clock]
    q.refunds.length = 1 ∧ confirmPayment q ⟨10000, .KES⟩ clock = .ok ⟨q, []⟩ := by
  intro clock q
  have hreplayed : confirmPayment confirmedPayment ⟨10000, .KES⟩ clock =
      .ok ⟨confirmedPayment, []⟩ := by decide +kernel
  exact ⟨by decide +kernel, (reconfirm_unchanged_iff confirmedPayment ⟨10000, .KES⟩ clock clock _
    hreplayed [.refund ⟨⟨2500, .KES⟩, "overpaid", some "r-1"⟩ clock]
    (by simp [Command.isReservation]) (by decide +kernel)).1.mpr (by simp [Command.isAllocation])⟩

open Payments in
/-- **A replay that is refused.** A payment of 100.00 is confirmed, 40.00 of it are allocated, and
the same success callback comes again. -/
theorem reconfirm_refused :
    let clock : Clock := ⟨fun _ => .ofTime 0⟩
    let q := run step confirmedPayment [.allocate ⟨"inv-1", ⟨4000, .KES⟩, some "a-1"⟩ clock]
    (∃ events, confirmPayment waitingPayment ⟨10000, .KES⟩ clock = .ok ⟨confirmedPayment, events⟩) ∧
      (step confirmedPayment (.allocate ⟨"inv-1", ⟨4000, .KES⟩, some "a-1"⟩ clock)).isSome ∧
      q.state = .partiallyAllocated ∧
      confirmPayment q ⟨10000, .KES⟩ clock = .error (DomainError "INVALID_TRANSITION"
        "confirmation applies to pending_confirmation payments, got partially_allocated") := by
  intro clock q
  exact ⟨⟨_, rfl⟩, by decide +kernel, by decide +kernel, by decide +kernel⟩

end Fuatilia
