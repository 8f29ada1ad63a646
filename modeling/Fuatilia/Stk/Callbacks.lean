import Fuatilia.Stk.Runs

/-!
# Result callbacks in any order

The payment of a checkout is decided by the first callback that lands: one that passes the boundary,
belongs to the attempt, reports the right amount and repeats no known payment. So a failure that
arrives before the success leaves the payment failed, although the money was received.

## Main definitions

* `landing`, `ConfirmedUnder` — whether a callback lands, and a confirmed payment.

## Main results

* `payment_confirmed_iff` — a new payment is confirmed exactly when that one is a success.
-/

namespace Fuatilia.Stk

open Fallible Machine Payments

/-- A callback that would be processed with these payments known: whether it reports a success. -/
def landing (a : StkPushAction) (payments : List Payment) (c : StkPushResultCallbackInput × Clock) :
    Option Bool :=
  match acceptCallback a c.1 with
  | .ok callback =>
    if priorOf a callback payments = none ∧
      c.2.now 2 ≠ .invalid then some callback.success else none
  | .error _ => none

def callbacks (cs : List (StkPushResultCallbackInput × Clock)) : List Command :=
  cs.map fun c => .callback c.1 c.2

def ConfirmedUnder (key : String) (payments : List Payment) : Prop :=
  ∃ p ∈ payments, p.idempotencyKey = key ∧ p.state = .confirmed

variable {b : Books} {c : StkPushResultCallbackInput × Clock} {i : StkPushInitiation}

lemma next_of_landing_none (h : landing b.attempt b.payments c = none) :
    (next step b (.callback c.1 c.2)).attempt = b.attempt ∧
      (next step b (.callback c.1 c.2)).payments = b.payments := by
  cases hstep : step b (.callback c.1 c.2) with
  | none =>
    rw [next_of_none hstep]
    exact ⟨rfl, rfl⟩
  | some b' =>
    rw [next_of_some hstep]
    obtain ⟨r, hr, rfl⟩ := map_toOption_eq_some.mp hstep
    obtain ⟨callback, hcallback, ⟨-, hattempt, hduplicate, -⟩ | ⟨hnew, -⟩⟩ :=
      reconcileStkCallback_cases hr
    · exact ⟨hattempt, by simp [Books.recordCallback, hduplicate]⟩
    · -- the callback is new, so that only a stopped clock keeps it from landing
      simp only [landing, hcallback, hnew, true_and] at h
      have hclock : c.2.now 2 = .invalid := by
        by_contra hrunning
        simp [hrunning] at h
      simp only [reconcileStkCallback, bind_eq_ok] at hr
      obtain ⟨callback', hcallback', intake, hintake, hr⟩ := hr
      obtain rfl := Except.ok.inj (hcallback.symm.trans hcallback')
      have hvalid := assertStkResultCallback_eq_ok (acceptCallback_eq_ok.mp hcallback).1
      have hcreated := ((intake_callback hvalid).mp hintake).2
      rw [hnew] at hcreated
      obtain rfl : intake = newPayment b.attempt callback c.2 := hcreated
      rw [if_neg (show ¬ (newPayment b.attempt callback c.2).duplicate = true from
        Bool.false_ne_true)] at hr
      simp [assertClockDate, do_eq, hclock] at hr

lemma next_of_landing_some {success : Bool} (hopened : b.attempt.initiation = some i)
    (hamount : 0 < b.attempt.amount.amount) (h : landing b.attempt b.payments c = some success) :
    ∃ p, (next step b (.callback c.1 c.2)).payments = b.payments ++ [p] ∧
      p.idempotencyKey = paymentIdempotencyKey i.checkoutRequestId ∧
      (p.state = .confirmed ↔ success = true) ∧
      (next step b (.callback c.1 c.2)).attempt.initiation = some i := by
  cases hcallback : acceptCallback b.attempt c.1 with
  | error thrown =>
    rw [landing, hcallback] at h
    cases h
  | ok callback =>
    simp only [landing, hcallback] at h
    split_ifs at h with hlands
    cases h
    obtain ⟨r, hr, hresolves⟩ := reconcileStkCallback_of_new hcallback hamount hlands.1 hlands.2
    have hstep : step b (.callback c.1 c.2) = some (b.recordCallback r) := by
      rw [step, hr]
      rfl
    obtain ⟨-, ⟨j, hj, hcheckout⟩, -⟩ := acceptCallback_eq_ok.mp hcallback
    obtain rfl := Option.some.inj (hopened.symm.trans hj)
    rw [next_of_some hstep]
    refine ⟨r.payment, by simp [Books.recordCallback, hresolves.created], ?_, ?_, ?_⟩
    · rw [hresolves.key, hcheckout]
    · have houtcome := hresolves.outcome
      split_ifs at houtcome with hsuccess
      · exact ⟨fun _ => hsuccess, fun _ => houtcome.2.1⟩
      · rw [houtcome.2]
        exact ⟨fun hstate => (by cases hstate), fun hnot => absurd hnot hsuccess⟩
    · exact hresolves.initiation.trans hopened

lemma landing_eq_none_of_known {payments : List Payment} {a : StkPushAction} {p : Payment}
    (hopened : a.initiation = some i) (hp : p ∈ payments)
    (hkey : p.idempotencyKey = paymentIdempotencyKey i.checkoutRequestId) :
    landing a payments c = none := by
  cases hcallback : acceptCallback a c.1 with
  | error thrown => rw [landing, hcallback]
  | ok callback =>
    obtain ⟨-, ⟨j, hj, hcheckout⟩, -⟩ := acceptCallback_eq_ok.mp hcallback
    obtain rfl := Option.some.inj (hopened.symm.trans hj)
    simp only [landing, hcallback]
    rw [if_neg]
    rintro ⟨hnew, -⟩
    exact key_ne_of_priorOf hnew p hp (by rw [hkey, hcheckout])

lemma payments_of_known {p : Payment} (cs : List (StkPushResultCallbackInput × Clock))
    (hopened : b.attempt.initiation = some i) (hp : p ∈ b.payments)
    (hkey : p.idempotencyKey = paymentIdempotencyKey i.checkoutRequestId) :
    (run step b (callbacks cs)).payments = b.payments := by
  induction cs generalizing b with
  | nil => rfl
  | cons c cs ih =>
    obtain ⟨hattempt, hpayments⟩ :=
      next_of_landing_none (landing_eq_none_of_known (c := c) hopened hp hkey)
    show (run step (next step b (.callback c.1 c.2)) (callbacks cs)).payments = _
    rw [ih (by rw [hattempt, hopened]) (hpayments ▸ hp), hpayments]

/-- **The first callback that lands decides.** -/
lemma confirmedUnder_of_unknown (cs : List (StkPushResultCallbackInput × Clock))
    (hopened : b.attempt.initiation = some i) (hamount : 0 < b.attempt.amount.amount)
    (hunknown : ∀ p ∈ b.payments, p.idempotencyKey ≠ paymentIdempotencyKey i.checkoutRequestId) :
    ConfirmedUnder (paymentIdempotencyKey i.checkoutRequestId)
      (run step b (callbacks cs)).payments ↔
      cs.findSome? (landing b.attempt b.payments) = some true := by
  induction cs generalizing b with
  | nil =>
    refine ⟨?_, nofun⟩
    rintro ⟨p, hp, hkey, -⟩
    exact absurd hkey (hunknown p hp)
  | cons c cs ih =>
    show ConfirmedUnder _ (run step (next step b (.callback c.1 c.2)) (callbacks cs)).payments ↔ _
    rw [List.findSome?_cons]
    cases hlanding : landing b.attempt b.payments c with
    | none =>
      obtain ⟨hattempt, hpayments⟩ := next_of_landing_none hlanding
      rw [ih (by rw [hattempt, hopened]) (by rw [hattempt]; exact hamount)
        (by rw [hpayments]; exact hunknown), hattempt, hpayments]
    | some success =>
      obtain ⟨p, hpayments, hkey, hconfirmed, hstill⟩ :=
        next_of_landing_some hopened hamount hlanding
      have hlast : p ∈ (next step b (.callback c.1 c.2)).payments := by
        rw [hpayments]
        exact List.mem_concat_self
      rw [payments_of_known cs hstill hlast hkey, hpayments, Option.some.injEq, ← hconfirmed]
      constructor
      · rintro ⟨q, hq, hqkey, hqconfirmed⟩
        rcases Lists.mem_concat hq with hold | rfl
        · exact absurd hqkey (hunknown q hold)
        · exact hqconfirmed
      · exact fun h => ⟨p, List.mem_concat_self, hkey, h⟩

/-- **When the received money is confirmed.** After any callbacks for an attempt that went live, a
payment of its checkout is confirmed exactly when one was before, or when none was known and the
first callback that lands is a success. -/
theorem payment_confirmed_iff (args : ProposeStkPushArgs) (clock : Clock) (proposal : ActionResult)
    (hproposal : proposeStkPush args clock = .ok proposal) (known : List Payment)
    (commands : List Command) (i : StkPushInitiation)
    (hopened : (run step (Books.propose proposal known) commands).attempt.initiation = some i)
    (cs : List (StkPushResultCallbackInput × Clock)) :
    let books := run step (Books.propose proposal known) commands
    let key := paymentIdempotencyKey i.checkoutRequestId
    ConfirmedUnder key (run step books (callbacks cs)).payments ↔
      ConfirmedUnder key books.payments ∨
        ((∀ p ∈ books.payments, p.idempotencyKey ≠ key) ∧
          cs.findSome? (landing books.attempt books.payments) = some true) := by
  intro books key
  have hamount : 0 < books.attempt.amount.amount := by
    rw [(sound_run hproposal known commands).amount_eq]
    exact (proposeStkPush_eq_ok hproposal).2.2.2.1
  by_cases hunknown : ∀ p ∈ books.payments, p.idempotencyKey ≠ key
  · rw [confirmedUnder_of_unknown cs hopened hamount hunknown]
    refine ⟨fun h => .inr ⟨hunknown, h⟩, ?_⟩
    rintro (⟨p, hp, hkey, -⟩ | ⟨-, h⟩)
    · exact absurd hkey (hunknown p hp)
    · exact h
  · obtain ⟨p, hp, hkey⟩ : ∃ p ∈ books.payments, p.idempotencyKey = key := by
      simpa using hunknown
    rw [payments_of_known cs hopened hp hkey]
    exact ⟨.inl, fun h => h.resolve_right fun hnot => hunknown hnot.1⟩

/-- The success arrives before a failure. -/
theorem payment_confirmed_iff_paid :
    ∃ proposal i, proposeStkPush collectArgs noon = .ok proposal ∧
      let books := run step (Books.propose proposal []) [pushed]
      books.attempt.initiation = some i ∧
        ConfirmedUnder (paymentIdempotencyKey i.checkoutRequestId)
          (run step books (callbacks [(result 0, noon), (result 1032, noon)])).payments := by
  have hopen : (proposeStkPush collectArgs noon).toOption.map (fun proposal =>
      ((run step (Books.propose proposal []) [pushed]).attempt.initiation.isSome,
        (run step (Books.propose proposal []) [pushed]).payments,
        [(result 0, noon), (result 1032, noon)].findSome? (landing
          (run step (Books.propose proposal []) [pushed]).attempt
          (run step (Books.propose proposal []) [pushed]).payments))) =
      some (true, [], some true) := by decide +kernel
  obtain ⟨proposal, hproposal, hfacts⟩ := map_toOption_eq_some.mp hopen
  simp only [Prod.mk.injEq] at hfacts
  obtain ⟨hsome, hpayments, hlanding⟩ := hfacts
  obtain ⟨i, hi⟩ := Option.isSome_iff_exists.mp hsome
  refine ⟨proposal, i, hproposal, hi, ?_⟩
  refine (payment_confirmed_iff collectArgs noon proposal hproposal [] [pushed] i hi _).mpr
    (.inr ?_)
  refine ⟨fun p hp => ?_, hlanding⟩
  rw [hpayments] at hp
  cases hp

/-- A failure arrives before the success: the success is accepted as a repetition, and the only
payment of the checkout stays failed. -/
theorem failure_before_success :
    ∃ proposal, proposeStkPush collectArgs noon = .ok proposal ∧
      let books := run step (Books.propose proposal []) [pushed, .callback (result 1032) noon]
      ∃ after, step books (.callback (result 0) noon) = some after ∧
        after.payments.map (·.state) = [.failed] ∧
        after.payments.map (·.idempotencyKey) = [paymentIdempotencyKey "ws_CO_120920251"] := by
  have hrun : (proposeStkPush collectArgs noon).toOption.map (fun proposal =>
      (step (run step (Books.propose proposal []) [pushed, .callback (result 1032) noon])
        (.callback (result 0) noon)).map fun after =>
          (after.payments.map (·.state), after.payments.map (·.idempotencyKey))) =
      some (some ([.failed], [paymentIdempotencyKey "ws_CO_120920251"])) := by decide +kernel
  obtain ⟨proposal, hproposal, hstep⟩ := map_toOption_eq_some.mp hrun
  obtain ⟨after, hafter, hfacts⟩ := Option.map_eq_some_iff.mp hstep
  obtain ⟨hstates, hkeys⟩ := Prod.mk.inj hfacts
  exact ⟨proposal, hproposal, after, hafter, hstates, hkeys⟩

end Fuatilia.Stk
