import Fuatilia.Foundations.Machine
import Fuatilia.Adjustments.Events

/-!
# Refunds

A refund is requested under a ceiling, approved, and paid out under an external reference. It keeps
only the last reference, so a retry is compared with the attempt before it and no other.

## Main definitions

* `requestRefund`, `startRefundProcessing`, `completeRefund`, `failRefund` — the commands.
* `refundStep`, `RetriesFresh` — a refund with its history, and the condition on retries.

## Main results

* `refund_attempts_distinct_iff` — references are used once exactly under the condition.
-/

namespace Fuatilia.Adjustments

open Fallible Machine

/-! ## The refund -/

inductive RefundState where
  | requested | approved | rejected | processing | completed | failed
  deriving DecidableEq

instance : ToString RefundState where
  toString
    | .requested => "requested"
    | .approved => "approved"
    | .rejected => "rejected"
    | .processing => "processing"
    | .completed => "completed"
    | .failed => "failed"

structure Refund where
  id : Uuid
  paymentId : Uuid
  requestedBy : String
  reason : String
  state : RefundState
  total : Money
  externalRef : Option String
  rejectedReason : Option String
  failedReason : Option String

structure RequestRefundInput where
  id : Uuid
  paymentId : Uuid
  amount : Money
  reason : String
  requestedBy : String

structure RefundResult where
  refund : Refund
  event : AdjustmentEvent

def assertState (refund : Refund) (expected : RefundState) (action : String) :
    Except Thrown Unit :=
  throwIf (refund.state ≠ expected) (.domainError "REFUND_INVALID_TRANSITION"
    s!"cannot {action} refund in state '{refund.state}' (expected '{expected}')"
    [("refundId", refund.id), ("state", toString refund.state), ("expected", toString expected)])

def requestRefund (input : RequestRefundInput) (ceiling : Money) (clock : Clock) :
    Except Thrown RefundResult := do
  throwIf (trim input.reason = "")
    (DomainError "REFUND_REASON_REQUIRED" "a refund requires a reason (audit trail)")
  throwIf (trim input.requestedBy = "")
    (DomainError "REFUND_REQUESTER_REQUIRED" "a refund requires a requester")
  throwIf (!input.amount.isPositive)
    (DomainError "REFUND_AMOUNT_INVALID" "refund amount must be positive")
  let order ← input.amount.compareTo ceiling
  throwIf (order > 0) (.domainError "REFUND_EXCEEDS_CEILING"
    s!"refund {input.amount} exceeds ceiling {ceiling}"
    [("requestedMinor", toString input.amount.amount), ("ceilingMinor", toString ceiling.amount),
      ("paymentId", input.paymentId)])
  let event ← refundRequestedEvent input.id input.paymentId input.amount.amount input.reason clock
  return ⟨⟨input.id, input.paymentId, input.requestedBy, input.reason, .requested, input.amount,
    none, none, none⟩, event⟩

def approveRefund (refund : Refund) : Except Thrown Refund := do
  assertState refund .requested "approve"
  return { refund with state := .approved }

def rejectRefund (refund : Refund) (rejectedReason : Option String) : Except Thrown Refund := do
  assertState refund .requested "reject"
  return { refund with state := .rejected, rejectedReason }

/-- The payout is started under an external reference: for the first time, or again after a failure
under another reference than the last one. -/
def startRefundProcessing (refund : Refund) (b2cRef : String) : Except Thrown Refund := do
  throwIf (trim b2cRef = "")
    (DomainError "REFUND_EXTERNAL_REF_REQUIRED" "a Daraja B2C external ref is required")
  match refund.state with
  | .approved => return { refund with state := .processing, externalRef := some b2cRef }
  | .failed =>
    throwIf (refund.externalRef = some b2cRef) (.domainError "REFUND_EXTERNAL_REF_REUSED"
      "a retry must use a NEW external ref (docs/03 Refund machine)"
      [("refundId", refund.id), ("previousRef", b2cRef)])
    return { refund with state := .processing, externalRef := some b2cRef }
  | state => throw (.domainError "REFUND_INVALID_TRANSITION"
      s!"cannot start processing from state '{state}' (entry states: approved, failed)"
      [("refundId", refund.id), ("state", toString state)])

def completeRefund (refund : Refund) (clock : Clock) : Except Thrown RefundResult := do
  assertState refund .processing "complete"
  let event ← refundCompletedEvent refund.id clock
  return ⟨{ refund with state := .completed }, event⟩

def failRefund (refund : Refund) (failedReason : Option String) : Except Thrown Refund := do
  assertState refund .processing "fail"
  return { refund with state := .failed, failedReason }

/-! ## What an accepted operation did -/

variable {refund : Refund}

lemma assertState_eq_ok {expected : RefundState} {action : String} {u : Unit} :
    assertState refund expected action = .ok u ↔ refund.state = expected := by
  simp only [assertState, throwIf_eq_ok, not_not]

lemma requestRefund_refund {input : RequestRefundInput} {ceiling : Money} {clock : Clock}
    {requested : RefundResult} (h : requestRefund input ceiling clock = .ok requested) :
    requested.refund.state = .requested := by
  simp only [requestRefund, ok_iff] at h
  obtain ⟨-, -, -, _, -, -, _, -, rfl⟩ := h
  rfl

lemma startRefundProcessing_eq_ok {started : Refund} {b2cRef : String} :
    startRefundProcessing refund b2cRef = .ok started ↔
      trim b2cRef ≠ "" ∧
        (refund.state = .approved ∨ refund.state = .failed ∧ refund.externalRef ≠ some b2cRef) ∧
        started = { refund with state := .processing, externalRef := some b2cRef } := by
  simp only [startRefundProcessing, ok_iff]
  refine and_congr_right fun _ => ?_
  cases hstate : refund.state with
  | approved => simp [pure_eq_ok]
  | failed => simp only [ok_iff, reduceCtorEq, false_or, true_and, ne_eq]
  | _ => simp [throw_eq_ok]

lemma completeRefund_eq_ok {clock : Clock} {completed : RefundResult}
    (h : completeRefund refund clock = .ok completed) :
    refund.state = .processing ∧ completed.refund = { refund with state := .completed } := by
  simp only [completeRefund, ok_iff, assertState_eq_ok, exists_const] at h
  obtain ⟨hstate, _, -, rfl⟩ := h
  exact ⟨hstate, rfl⟩

/-! ## Runs -/

structure RefundBooks where
  refund : Refund
  attempts : List String
  completions : List AdjustmentEvent

def RefundBooks.of (refund : Refund) : RefundBooks := ⟨refund, [], []⟩

inductive RefundCommand where
  | approve
  | reject (rejectedReason : Option String)
  | start (b2cRef : String)
  | complete (clock : Clock)
  | fail (failedReason : Option String)

def refundStep (books : RefundBooks) : RefundCommand → Option RefundBooks
  | .approve => (approveRefund books.refund).toOption.map fun r => { books with refund := r }
  | .reject reason => (rejectRefund books.refund reason).toOption.map fun r =>
      { books with refund := r }
  | .start b2cRef => (startRefundProcessing books.refund b2cRef).toOption.map fun r =>
      { books with refund := r, attempts := books.attempts ++ [b2cRef] }
  | .complete clock => (completeRefund books.refund clock).toOption.map fun r =>
      { books with refund := r.refund, completions := books.completions ++ [r.event] }
  | .fail reason => (failRefund books.refund reason).toOption.map fun r =>
    { books with refund := r }

/-- The condition: a retry under a reference of an earlier attempt repeats the last one, which is
the one that the refund still knows. -/
def RetriesFresh (books : RefundBooks) : RefundCommand → Prop
  | .start b2cRef => books.refund.state = .failed → trim b2cRef ≠ "" → b2cRef ∈ books.attempts →
      books.refund.externalRef = some b2cRef
  | _ => True

instance (books : RefundBooks) (command : RefundCommand) : Decidable (RetriesFresh books command) :=
  match command with
  | .start _ => inferInstanceAs (Decidable (_ → _ → _ → _))
  | .approve | .reject _ | .complete _ | .fail _ => inferInstanceAs (Decidable True)

inductive RefundTransition (b : RefundBooks) : RefundCommand → RefundBooks → Prop where
  | decide (command : RefundCommand) (r : Refund) (hcommand : ∀ ref, command ≠ .start ref)
      (hstate : b.refund.state = .requested)
      (hstate' : r.state = .approved ∨ r.state = .rejected) :
      RefundTransition b command { b with refund := r }
  | start (b2cRef : String) (r : Refund) (hstate : b.refund.state = .approved ∨
      b.refund.state = .failed ∧ b.refund.externalRef ≠ some b2cRef)
      (hstate' : r.state = .processing) :
      RefundTransition b (.start b2cRef) { b with refund := r, attempts := b.attempts ++ [b2cRef] }
  | complete (clock : Clock) (r : Refund) (event : AdjustmentEvent)
      (hstate : b.refund.state = .processing) (hstate' : r.state = .completed) :
      RefundTransition b (.complete clock)
        { b with refund := r, completions := b.completions ++ [event] }
  | fail (reason : Option String) (r : Refund) (hstate : b.refund.state = .processing)
      (hstate' : r.state = .failed) :
      RefundTransition b (.fail reason) { b with refund := r }

variable {b b' : RefundBooks} {command : RefundCommand}

lemma refundStep_transition (h : refundStep b command = some b') :
    RefundTransition b command b' := by
  cases command with
  | approve | reject reason =>
    simp only [refundStep, map_toOption_eq_some, approveRefund, rejectRefund, ok_iff,
      assertState_eq_ok, exists_const] at h
    obtain ⟨_, ⟨hstate, rfl⟩, rfl⟩ := h
    exact .decide _ _ (fun _ => nofun) hstate (by simp)
  | start b2cRef =>
    simp only [refundStep, map_toOption_eq_some, startRefundProcessing_eq_ok] at h
    obtain ⟨_, ⟨-, hstate, rfl⟩, rfl⟩ := h
    exact .start b2cRef _ hstate rfl
  | complete clock =>
    obtain ⟨r, hr, rfl⟩ := map_toOption_eq_some.mp h
    obtain ⟨hstate, hrefund⟩ := completeRefund_eq_ok hr
    exact .complete clock _ _ hstate (by rw [hrefund])
  | fail reason =>
    simp only [refundStep, map_toOption_eq_some, failRefund, ok_iff, assertState_eq_ok,
      exists_const] at h
    obtain ⟨_, ⟨hstate, rfl⟩, rfl⟩ := h
    exact .fail reason _ hstate rfl

/-! ## The attempts -/

def CompletedOnce (b : RefundBooks) : Prop :=
  b.completions.length = if b.refund.state = .completed then 1 else 0

/-- The references are distinct, and there is none before the refund is started. -/
structure AttemptsDistinct (b : RefundBooks) : Prop where
  nodup : b.attempts.Nodup
  unstarted : b.refund.state = .requested ∨ b.refund.state = .approved → b.attempts = []

lemma CompletedOnce.step (hb : CompletedOnce b) (h : refundStep b command = some b') :
    CompletedOnce b' := by
  unfold CompletedOnce at hb ⊢
  cases refundStep_transition h with
  | decide _ r _ hstate hstate' => rcases hstate' with hr | hr <;> simpa [hstate, hr] using hb
  | start _ r hstate hstate' => rcases hstate with hr | ⟨hr, -⟩ <;> simpa [hr, hstate'] using hb
  | complete _ r event hstate hstate' | fail _ r hstate hstate' => simpa [hstate, hstate'] using hb

lemma AttemptsDistinct.step (hb : AttemptsDistinct b) (h : refundStep b command = some b')
    (hfresh : ∀ ref, command = .start ref → ref ∉ b.attempts) :
    AttemptsDistinct b' := by
  cases refundStep_transition h with
  | decide _ r _ hstate _ => exact ⟨hb.nodup, fun _ => hb.unstarted (.inl hstate)⟩
  | start ref r _ hstate' =>
    refine ⟨List.nodup_append.mpr ⟨hb.nodup, List.nodup_singleton ref, ?_⟩, by simp [hstate']⟩
    rintro a ha _ hlast rfl
    exact hfresh a (by rw [List.mem_singleton.mp hlast]) ha
  | complete _ r event _ hstate' | fail _ r _ hstate' => exact ⟨hb.nodup, by simp [hstate']⟩

/-- An accepted start meets the condition exactly when its reference is new: a first attempt always
does, and an accepted retry does not repeat the last reference. -/
lemma retriesFresh_iff {ref : String} (hb : AttemptsDistinct b)
    (h : refundStep b (.start ref) = some b') : RetriesFresh b (.start ref) ↔ ref ∉ b.attempts := by
  simp only [refundStep, map_toOption_eq_some, startRefundProcessing_eq_ok] at h
  obtain ⟨_, ⟨hnonblank, hstate, -⟩, -⟩ := h
  rcases hstate with hstate | ⟨hstate, hother⟩
  · simp [RetriesFresh, hstate, hb.unstarted (.inr hstate)]
  · simp [RetriesFresh, hstate, hnonblank, hother]

lemma retriesFresh_of_refused (h : refundStep b command = none) : RetriesFresh b command := by
  cases command with
  | start ref =>
    intro hstate hnonblank _
    by_contra hother
    have hok := startRefundProcessing_eq_ok.mpr ⟨hnonblank, .inr ⟨hstate, hother⟩, rfl⟩
    rw [refundStep, toOption_eq_some.mpr hok] at h
    cases h
  | _ => trivial

/-- **The attempts of a refund.** From a request on, the references of the attempts are distinct at
every point exactly when every retry meets the condition, and at most one attempt completes. -/
theorem refund_attempts_distinct_iff (input : RequestRefundInput) (ceiling : Money) (clock : Clock)
    (requested : RefundResult) (h : requestRefund input ceiling clock = .ok requested)
    (commands : List RefundCommand) :
    ((∀ k, (run refundStep (.of requested.refund) (commands.take k)).attempts.Nodup) ↔
        Meets refundStep RetriesFresh (.of requested.refund) commands) ∧
      ∀ k, (run refundStep (.of requested.refund) (commands.take k)).completions.length ≤ 1 := by
  have hstate := requestRefund_refund h
  constructor
  · refine forall_run_iff_meets (I := AttemptsDistinct) (P := fun b => b.attempts.Nodup)
      (fun _ hb => hb.nodup) ?_ ?_ (fun _ _ => retriesFresh_of_refused) commands _
      ⟨List.nodup_nil, fun _ => rfl⟩
    · rintro b command b' hb hstep hfresh
      exact hb.step hstep fun ref hstart =>
        (retriesFresh_iff hb (hstart ▸ hstep)).mp (hstart ▸ hfresh)
    · rintro b command b' hb hstep hnodup
      cases refundStep_transition hstep with
      | start ref r =>
        refine (retriesFresh_iff hb hstep).mpr fun hmem => ?_
        exact (List.nodup_append.mp hnodup).2.2 ref hmem ref (List.mem_singleton_self ref) rfl
      | decide _ _ hcommand =>
        cases command with
        | start ref => exact absurd rfl (hcommand ref)
        | _ => trivial
      | _ => trivial
  · intro k
    have honce : CompletedOnce (run refundStep (.of requested.refund) (commands.take k)) :=
      run_invariant_all (fun _ _ _ hb hstep => hb.step hstep) _ _ (by simp [CompletedOnce, hstate,
        RefundBooks.of])
    rw [honce]
    split <;> omega

def retried : List RefundCommand :=
  [.approve, .start "B2C-A", .fail none, .start "B2C-A", .start "B2C-B",
    .complete (pinnedClock (.ofTime 0)), .complete (pinnedClock (.ofTime 0))]

def tenShillings : RequestRefundInput := ⟨"rf1", "p1", ⟨1000, .KES⟩, "overpaid", "ops"⟩

/-- The repeated reference and the second completion are refused. -/
theorem refund_attempts_distinct_retried :
    ∃ requested, requestRefund tenShillings ⟨5000, .KES⟩ (pinnedClock (.ofTime 0)) = .ok requested ∧
      Meets refundStep RetriesFresh (.of requested.refund) retried ∧
      (run refundStep (.of requested.refund) retried).attempts = ["B2C-A", "B2C-B"] ∧
      ∀ k, (run refundStep (.of requested.refund) (retried.take k)).attempts.Nodup := by
  have hmade : ∃ requested ∈
      (requestRefund tenShillings ⟨5000, .KES⟩ (pinnedClock (.ofTime 0))).toOption,
      Meets refundStep RetriesFresh (.of requested.refund) retried ∧
        (run refundStep (.of requested.refund) retried).attempts = ["B2C-A", "B2C-B"] := by
    decide +kernel
  obtain ⟨requested, hmem, hmeets, hattempts⟩ := hmade
  have hok := toOption_eq_some.mp hmem
  have hiff := refund_attempts_distinct_iff _ _ _ requested hok retried
  exact ⟨requested, hok, hmeets, hattempts, hiff.1.mpr hmeets⟩

/-- Two references used in turn are all accepted: the third attempt reuses that of the first. -/
theorem alternating_references_accepted :
    ∃ requested ∈ (requestRefund tenShillings ⟨5000, .KES⟩ (pinnedClock (.ofTime 0))).toOption,
      let books := run refundStep (.of requested.refund)
        [.approve, .start "B2C-A", .fail none, .start "B2C-B", .fail none, .start "B2C-A"]
      books.attempts = ["B2C-A", "B2C-B", "B2C-A"] ∧ ¬ books.attempts.Nodup := by
  decide +kernel

end Fuatilia.Adjustments
