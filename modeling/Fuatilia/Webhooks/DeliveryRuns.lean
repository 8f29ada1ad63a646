import Fuatilia.Foundations.Lists
import Fuatilia.Foundations.Machine
import Fuatilia.Webhooks.Deliveries

/-!
# Runs of the delivery machine

Endpoints change status while plans are made from snapshots of them. A plan is a value: a caller may
enqueue it later, more than once, or never. `forget` is the caller that lets a plan go.

## Main definitions

* `Books`, `step` — endpoints, plans and deliveries, and the commands on them.
* `Sound`, `Orderly` — the invariant, and plans that no revocation overtakes.

## Main results

* `delivery_lifecycle` — the law of a delivery, in every run.
* `no_work_after_revocation` — in orderly runs nothing is queued for a revoked endpoint.
-/

namespace Fuatilia.Webhooks

open Fallible Machine Lists

structure Books where
  registry : Uuid → Option WebhookEndpoint
  plans : List DeliveryPlan
  deliveries : List Delivery

def Books.start (registry : Uuid → Option WebhookEndpoint) : Books := ⟨registry, [], []⟩

/-- The commands. A plan is made from any snapshot of an endpoint. -/
inductive Command where
  | plan (event : OutboundEvent) (snapshot : WebhookEndpoint) (maxPayloadBytes : Option JsNumber)
      (clock : Clock)
  | forget (k : ℕ)
  | enqueue (k : ℕ) (deliveryId : Uuid) (clock : Clock)
  | attempt (i : ℕ) (clock : Clock)
  | outcome (i : ℕ) (result : AttemptOutcome) (clock : Clock)
  | pause (endpointId : Uuid) (reason : String) (clock : Clock)
  | resume (endpointId : Uuid) (clock : Clock)
  | revoke (endpointId : Uuid) (reason : String) (clock : Clock)
  | subscribe (endpointId : Uuid) (pattern : String) (clock : Clock)

def Books.onEndpoint (books : Books) (endpointId : Uuid)
    (command : WebhookEndpoint → Except Thrown WebhookEndpoint) : Option Books := do
  let endpoint ← books.registry endpointId
  let after ← (command endpoint).toOption
  some { books with registry := Function.update books.registry endpointId (some after) }

def Books.onDelivery (books : Books) (i : ℕ) (command : Delivery → Except Thrown Delivery) :
    Option Books := do
  let delivery ← books.deliveries[i]?
  let after ← (command delivery).toOption
  some { books with deliveries := books.deliveries.set i after }

def step (ladder : List JsNumber) (books : Books) : Command → Option Books
  | .plan event snapshot maxPayloadBytes clock =>
    match planDelivery event snapshot clock maxPayloadBytes with
    | .ok (.planned plan) => some { books with plans := books.plans ++ [plan] }
    | _ => none
  | .forget k => some { books with plans := books.plans.eraseIdx k }
  | .enqueue k deliveryId clock => do
    let plan ← books.plans[k]?
    let result ← (enqueueDelivery books.deliveries plan deliveryId clock).toOption
    some { books with deliveries := books.deliveries ++ [result.1] }
  | .attempt i clock => books.onDelivery i fun d => beginAttempt d clock
  | .outcome i result clock => books.onDelivery i fun d =>
      (recordAttemptOutcome d result ladder clock).map AttemptResult.delivery
  | .pause endpointId reason clock => books.onEndpoint endpointId fun e =>
      (pauseEndpoint e reason clock).map EndpointTransitionResult.endpoint
  | .resume endpointId clock => books.onEndpoint endpointId fun e =>
      (resumeEndpoint e clock).map EndpointTransitionResult.endpoint
  | .revoke endpointId reason clock => books.onEndpoint endpointId fun e =>
      (revokeEndpoint e reason clock).map EndpointTransitionResult.endpoint
  | .subscribe endpointId pattern clock => books.onEndpoint endpointId fun e =>
      (addSubscription e pattern clock).map Prod.fst

/-! ## What one command can do -/

/-- Everything an accepted command can do to the books, under a ladder of `n` delays. -/
inductive Transition (n : ℕ) (books : Books) : Command → Books → Prop
  | plan {event : OutboundEvent} {snapshot : WebhookEndpoint} {maxPayloadBytes : Option JsNumber}
      {clock : Clock} {plan : DeliveryPlan} (hactive : snapshot.status = .active)
      (hplan : plan.endpointId = snapshot.endpointId) :
      Transition n books (.plan event snapshot maxPayloadBytes clock)
        { books with plans := books.plans ++ [plan] }
  | forget {k : ℕ} :
      Transition n books (.forget k) { books with plans := books.plans.eraseIdx k }
  | enqueue {k : ℕ} {deliveryId : Uuid} {clock : Clock} {plan : DeliveryPlan} {delivery : Delivery}
      (hplan : plan ∈ books.plans)
      (hnone : ∀ d ∈ books.deliveries, ¬ isActiveFor plan.endpointId plan.eventId d)
      (hfresh : Enqueued plan deliveryId delivery) :
      Transition n books (.enqueue k deliveryId clock)
        { books with deliveries := books.deliveries ++ [delivery] }
  | attempt {i : ℕ} {clock : Clock} {delivery : Delivery}
      (hdelivery : books.deliveries[i]? = some delivery) (hqueued : delivery.status = .queued) :
      Transition n books (.attempt i clock)
        { books with deliveries := books.deliveries.set i { delivery with status := .delivering } }
  | outcome {i : ℕ} {result : AttemptOutcome} {clock : Clock} {delivery after : Delivery}
      (hdelivery : books.deliveries[i]? = some delivery)
      (hdelivering : delivery.status = .delivering) (hafter : Attempted n delivery after) :
      Transition n books (.outcome i result clock)
        { books with deliveries := books.deliveries.set i after }
  | touch {command : Command} {endpointId : Uuid} {endpoint after : WebhookEndpoint}
      (hendpoint : books.registry endpointId = some endpoint)
      (hsame : after.status = .revoked ↔ endpoint.status = .revoked) :
      Transition n books command
        { books with registry := Function.update books.registry endpointId (some after) }
  | revoke {endpointId : Uuid} {reason : String} {clock : Clock} {after : WebhookEndpoint}
      (hrevoked : after.status = .revoked) :
      Transition n books (.revoke endpointId reason clock)
        { books with registry := Function.update books.registry endpointId (some after) }

variable {books : Books} {endpointId : Uuid} {i n : ℕ} {clock : Clock} {ladder : List JsNumber}

variable {deliveryId : Uuid} {delivery changed : Delivery}

lemma enqueue_transition {after : Books} {k : ℕ}
    (h : step ladder books (.enqueue k deliveryId clock) = some after) :
    Transition ladder.length books (.enqueue k deliveryId clock) after := by
  obtain ⟨plan, hplan, result, hresult, rfl⟩ := lookup_eq_some.mp h
  obtain ⟨-, hnone, hfresh⟩ := enqueueDelivery_eq_ok hresult
  exact .enqueue (List.mem_of_getElem? hplan) hnone hfresh

lemma plan_transition {after : Books} {event : OutboundEvent} {snapshot : WebhookEndpoint}
    {maxPayloadBytes : Option JsNumber}
    (h : step ladder books (.plan event snapshot maxPayloadBytes clock) = some after) :
    Transition ladder.length books (.plan event snapshot maxPayloadBytes clock) after := by
  simp only [step] at h
  split at h
  · rename_i plan hplan
    obtain ⟨hactive, hendpoint⟩ := planDelivery_eq_planned hplan
    cases h
    exact .plan hactive hendpoint
  · cases h

theorem step_transition {after : Books} {command : Command}
    (h : step ladder books command = some after) :
    Transition ladder.length books command after := by
  cases command with
  | plan event snapshot maxPayloadBytes clock => exact plan_transition h
  | forget k =>
    cases h
    exact .forget
  | enqueue k deliveryId clock => exact enqueue_transition h
  | attempt i clock =>
    obtain ⟨delivery, hdelivery, changed, hchanged, rfl⟩ := lookup_eq_some.mp h
    obtain ⟨hqueued, rfl⟩ := beginAttempt_eq_ok hchanged
    exact .attempt hdelivery hqueued
  | outcome i result clock =>
    obtain ⟨delivery, hdelivery, changed, hchanged, rfl⟩ := lookup_eq_some.mp h
    obtain ⟨recorded, hrecorded, rfl⟩ := map_eq_ok.mp hchanged
    obtain ⟨hdelivering, hafter⟩ := recordAttemptOutcome_eq_ok hrecorded
    exact .outcome hdelivery hdelivering hafter
  | pause endpointId reason clock =>
    obtain ⟨endpoint, hendpoint, changed, hchanged, rfl⟩ := lookup_eq_some.mp h
    obtain ⟨result, hresult, rfl⟩ := map_eq_ok.mp hchanged
    obtain ⟨hactive, hpaused⟩ := pauseEndpoint_eq_ok hresult
    exact .touch hendpoint (by simp [hactive, hpaused])
  | resume endpointId clock =>
    obtain ⟨endpoint, hendpoint, changed, hchanged, rfl⟩ := lookup_eq_some.mp h
    obtain ⟨result, hresult, rfl⟩ := map_eq_ok.mp hchanged
    obtain ⟨hpaused, hactive⟩ := resumeEndpoint_eq_ok hresult
    exact .touch hendpoint (by simp [hactive, hpaused])
  | revoke endpointId reason clock =>
    obtain ⟨endpoint, hendpoint, changed, hchanged, rfl⟩ := lookup_eq_some.mp h
    obtain ⟨result, hresult, rfl⟩ := map_eq_ok.mp hchanged
    exact .revoke (revokeEndpoint_eq_ok hresult).2
  | subscribe endpointId pattern clock =>
    obtain ⟨endpoint, hendpoint, changed, hchanged, rfl⟩ := lookup_eq_some.mp h
    obtain ⟨result, hresult, rfl⟩ := map_eq_ok.mp hchanged
    exact .touch hendpoint (by rw [addSubscription_eq_ok hresult])

/-! ## The invariant of the deliveries -/

def Delivery.failures (delivery : Delivery) : ℕ :=
  delivery.attemptLog.countP fun record => record.outcome = .failure

def Delivery.successes (delivery : Delivery) : ℕ :=
  delivery.attemptLog.countP fun record => record.outcome = .success

/-- The status, the counter and the log of a delivery tell the same history, under a ladder of `n`
delays. -/
structure Delivery.Consistent (n : ℕ) (delivery : Delivery) : Prop where
  counter : delivery.attempts = delivery.attemptLog.length
  split : delivery.failures + delivery.successes = delivery.attempts
  open_failures : delivery.status = .queued ∨ delivery.status = .delivering →
    delivery.failures ≤ n ∧ delivery.successes = 0
  delivered : delivery.status = .delivered → delivery.failures ≤ n ∧ delivery.successes = 1
  deadLettered : delivery.status = .deadLettered →
    delivery.failures = n + 1 ∧ delivery.successes = 0

/-- One active delivery for an endpoint and an event at most, and each delivery consistent. -/
structure Sound (n : ℕ) (books : Books) : Prop where
  active_le_one : ∀ endpointId eventId,
    books.deliveries.countP (isActiveFor endpointId eventId) ≤ 1
  consistent : ∀ delivery ∈ books.deliveries, delivery.Consistent n

lemma Enqueued.consistent {plan : DeliveryPlan}
    (h : Enqueued plan deliveryId delivery) : delivery.Consistent n where
  counter := by rw [h.attempts_eq, h.attemptLog_eq, List.length_nil]
  split := by simp [Delivery.failures, Delivery.successes, h.attemptLog_eq, h.attempts_eq]
  open_failures := fun _ => by simp [Delivery.failures, Delivery.successes, h.attemptLog_eq]
  delivered := fun hstatus => by rw [h.status_eq] at hstatus; cases hstatus
  deadLettered := fun hstatus => by rw [h.status_eq] at hstatus; cases hstatus

lemma Delivery.Consistent.begin (h : delivery.Consistent n) (hqueued : delivery.status = .queued) :
    ({ delivery with status := .delivering } : Delivery).Consistent n where
  counter := h.counter
  split := h.split
  open_failures := fun _ => h.open_failures (.inl hqueued)
  delivered := fun hstatus => by cases hstatus
  deadLettered := fun hstatus => by cases hstatus

section Logged

variable {delivery after : Delivery} {outcome : Outcome} (h : Logged delivery outcome after)
include h

lemma Logged.length_eq : after.attemptLog.length = delivery.attemptLog.length + 1 := by
  obtain ⟨date, reason, hlog⟩ := h.attemptLog_eq
  rw [hlog, List.length_append, List.length_singleton]

lemma Logged.failures_eq :
    after.failures = delivery.failures + if outcome = .failure then 1 else 0 := by
  obtain ⟨date, reason, hlog⟩ := h.attemptLog_eq
  simp [Delivery.failures, hlog, List.countP_append, List.countP_singleton]

lemma Logged.successes_eq :
    after.successes = delivery.successes + if outcome = .success then 1 else 0 := by
  obtain ⟨date, reason, hlog⟩ := h.attemptLog_eq
  simp [Delivery.successes, hlog, List.countP_append, List.countP_singleton]

lemma Logged.counter_split (hd : delivery.Consistent n) :
    after.attempts = after.attemptLog.length ∧
      after.failures + after.successes = after.attempts := by
  have hcounter := hd.counter
  have hsplit := hd.split
  rw [h.attempts_eq, h.length_eq, h.failures_eq, h.successes_eq]
  cases outcome <;> simp only [reduceCtorEq, if_true, if_false] <;> omega

end Logged

variable {after : Books} {command : Command}

lemma Attempted.consistent {after : Delivery} (h : Attempted n delivery after)
    (hdelivering : delivery.status = .delivering) (hd : delivery.Consistent n) :
    after.Consistent n := by
  obtain ⟨hle, hnone⟩ := hd.open_failures (.inr hdelivering)
  have hsplit := hd.split
  cases h with
  | delivered hlog hstatus | retried hlog hleft hstatus | deadLettered hlog hspent hstatus =>
    obtain ⟨hcounter', hsplit'⟩ := hlog.counter_split hd
    have hfailures := hlog.failures_eq
    have hsuccesses := hlog.successes_eq
    simp only [reduceCtorEq, if_true, if_false] at hfailures hsuccesses
    -- only the statement about the new status is not vacuous
    refine ⟨hcounter', hsplit', ?_, ?_, ?_⟩ <;> simp [hstatus]
    omega

lemma countP_set_le {p : Delivery → Bool} {deliveries : List Delivery} {after : Delivery}
    (hdelivery : deliveries[i]? = some delivery) (hkeeps : p after = true → p delivery = true) :
    (deliveries.set i after).countP p ≤ deliveries.countP p := by
  obtain ⟨hi, hget⟩ := List.getElem?_eq_some_iff.mp hdelivery
  have hpos : p delivery = true → 0 < deliveries.countP p := fun hp =>
    List.countP_pos_iff.mpr ⟨delivery, List.mem_of_getElem? hdelivery, hp⟩
  rw [List.countP_set hi, hget]
  by_cases hafter : p after = true
  · have hbefore := hkeeps hafter
    have := hpos hbefore
    simp only [hafter, hbefore, if_true]
    omega
  · rw [if_neg hafter]
    omega

lemma Sound.set (hsound : Sound n books) {after : Delivery}
    (hdelivery : books.deliveries[i]? = some delivery)
    (hactive : isTerminalDelivery delivery = false)
    (hendpoint : after.endpointId = delivery.endpointId) (hevent : after.eventId = delivery.eventId)
    (hafter : after.Consistent n) :
    Sound n { books with deliveries := books.deliveries.set i after } where
  active_le_one := by
    intro endpointId eventId
    refine le_trans (countP_set_le hdelivery ?_) (hsound.active_le_one endpointId eventId)
    intro h
    simp only [isActiveFor, hendpoint, hevent, decide_eq_true_eq] at h
    simp [isActiveFor, hactive, h.2.1, h.2.2]
  consistent := by
    intro d hd
    rcases List.mem_or_eq_of_mem_set hd with hold | rfl
    · exact hsound.consistent d hold
    · exact hafter

lemma Attempted.logged {after : Delivery} (h : Attempted n delivery after) :
    ∃ outcome, Logged delivery outcome after := by
  cases h with
  | delivered hlog _ | retried hlog _ _ | deadLettered hlog _ _ => exact ⟨_, hlog⟩

lemma sound_step (hsound : Sound ladder.length books)
    (h : step ladder books command = some after) :
    Sound ladder.length after := by
  cases step_transition h with
  | plan | forget | touch | revoke => exact ⟨hsound.active_le_one, hsound.consistent⟩
  | @enqueue _ _ _ plan delivery _ hnone hfresh =>
    constructor
    · intro endpointId eventId
      have hbefore := hsound.active_le_one endpointId eventId
      rw [List.countP_append, List.countP_singleton]
      by_cases hnew : isActiveFor endpointId eventId delivery = true
      · -- the new delivery is the active one of this pair: there was none before
        have hpair : plan.endpointId = endpointId ∧ plan.eventId = eventId := by
          simp only [isActiveFor, decide_eq_true_eq] at hnew
          rw [← hfresh.endpointId_eq, ← hfresh.eventId_eq]
          exact hnew.2
        have hzero : books.deliveries.countP (isActiveFor endpointId eventId) = 0 := by
          rw [List.countP_eq_zero, ← hpair.1, ← hpair.2]
          exact hnone
        rw [hzero, if_pos hnew]
      · rw [if_neg hnew]
        exact hbefore
    · exact forall_mem_concat hsound.consistent hfresh.consistent
  | @attempt i clock delivery hdelivery hqueued =>
    have hd := hsound.consistent delivery (List.mem_of_getElem? hdelivery)
    exact hsound.set hdelivery (by simp [isTerminalDelivery, hqueued]) rfl rfl (hd.begin hqueued)
  | @outcome i result clock delivery changed hdelivery hdelivering hafter =>
    have hd := hsound.consistent delivery (List.mem_of_getElem? hdelivery)
    obtain ⟨outcome, hlog⟩ := hafter.logged
    exact hsound.set hdelivery (by simp [isTerminalDelivery, hdelivering]) hlog.endpointId_eq
      hlog.eventId_eq (hafter.consistent hdelivering hd)

lemma sound_start (n : ℕ) (registry : Uuid → Option WebhookEndpoint) :
    Sound n (Books.start registry) where
  active_le_one := by intro _ _; simp [Books.start]
  consistent := by intro d hd; cases hd

theorem sound_run (ladder : List JsNumber) (registry : Uuid → Option WebhookEndpoint)
    (commands : List Command) :
    Sound ladder.length (run (step ladder) (Books.start registry) commands) :=
  run_invariant_all (fun _ _ _ => sound_step) commands _ (sound_start _ registry)

/-! ## The history of a delivery -/

/-- A later state of the same delivery: the log only grows, and an end is final. -/
structure Continues (delivery after : Delivery) : Prop where
  deliveryId_eq : after.deliveryId = delivery.deliveryId
  endpointId_eq : after.endpointId = delivery.endpointId
  eventId_eq : after.eventId = delivery.eventId
  log_prefix : delivery.attemptLog <+: after.attemptLog
  final : isTerminalDelivery delivery = true → after = delivery

lemma Continues.refl (delivery : Delivery) : Continues delivery delivery :=
  ⟨rfl, rfl, rfl, List.prefix_rfl, fun _ => rfl⟩

lemma Continues.trans {a b c : Delivery} (hab : Continues a b) (hbc : Continues b c) :
    Continues a c where
  deliveryId_eq := hbc.deliveryId_eq.trans hab.deliveryId_eq
  endpointId_eq := hbc.endpointId_eq.trans hab.endpointId_eq
  eventId_eq := hbc.eventId_eq.trans hab.eventId_eq
  log_prefix := hab.log_prefix.trans hbc.log_prefix
  final := by
    intro hterminal
    have hb := hab.final hterminal
    rw [← hb] at hterminal
    rw [hbc.final hterminal, hb]

def History (books after : Books) : Prop :=
  ∀ (i : ℕ) (delivery : Delivery), books.deliveries[i]? = some delivery →
    ∃ later, after.deliveries[i]? = some later ∧ Continues delivery later

lemma history_set (hdelivery : books.deliveries[i]? = some delivery)
    (hchanged : Continues delivery changed) :
    History books { books with deliveries := books.deliveries.set i changed } := by
  intro j d hd
  obtain ⟨hi, -⟩ := List.getElem?_eq_some_iff.mp hdelivery
  by_cases hij : i = j
  · subst hij
    rw [hdelivery] at hd
    cases hd
    exact ⟨changed, by simp [hi], hchanged⟩
  · exact ⟨d, by simp [List.getElem?_set_ne hij, hd], .refl d⟩

lemma continues_begin (hqueued : delivery.status = .queued) :
    Continues delivery { delivery with status := .delivering } where
  deliveryId_eq := rfl
  endpointId_eq := rfl
  eventId_eq := rfl
  log_prefix := List.prefix_rfl
  final := fun hterminal => by simp [isTerminalDelivery, hqueued] at hterminal

lemma Attempted.continues {after : Delivery} (h : Attempted n delivery after)
    (hdelivering : delivery.status = .delivering) : Continues delivery after := by
  obtain ⟨outcome, hlog⟩ := h.logged
  refine ⟨hlog.deliveryId_eq, hlog.endpointId_eq, hlog.eventId_eq, ?_, ?_⟩
  · obtain ⟨date, reason, hgrown⟩ := hlog.attemptLog_eq
    exact hgrown ▸ List.prefix_append _ _
  · intro hterminal
    simp [isTerminalDelivery, hdelivering] at hterminal

lemma history_refl (books : Books) : History books books :=
  fun _ delivery hd => ⟨delivery, hd, .refl delivery⟩

lemma history_trans (a b c : Books) (hab : History a b) (hbc : History b c) : History a c := by
  intro i delivery hd
  obtain ⟨between, hbetween, hfirst⟩ := hab i delivery hd
  obtain ⟨later, hlater, hsecond⟩ := hbc i between hbetween
  exact ⟨later, hlater, hfirst.trans hsecond⟩

lemma history_step (h : step ladder books command = some after) :
    History books after := by
  cases step_transition h with
  | plan | forget | touch | revoke => exact history_refl books
  | enqueue =>
    intro i d hd
    exact ⟨d, by rw [List.getElem?_append_left (List.getElem?_eq_some_iff.mp hd).1, hd], .refl d⟩
  | attempt hdelivery hqueued => exact history_set hdelivery (continues_begin hqueued)
  | outcome hdelivery hdelivering hafter =>
    exact history_set hdelivery (hafter.continues hdelivering)

/-- Over any run no delivery goes away, its log only grows, and an end is final. -/
theorem history_run (ladder : List JsNumber) (books : Books) (commands : List Command) :
    History books (run (step ladder) books commands) :=
  have hall : ∀ s a s', True → step ladder s a = some s' → True := fun _ _ _ _ _ => trivial
  run_rel_all history_refl history_trans hall (fun _ _ _ _ => history_step) commands books trivial

/-- **The lifecycle of deliveries.** Under a ladder that passes, at every point of every run: an
endpoint and an event have at most one delivery that has not ended; the counter of a delivery is the
length of its log; it is dead-lettered exactly when it has failed once more than the ladder has
delays; and it succeeded at most once. Later its log is extended only, and an ended delivery is as
it was.

**Proof sketch.** Before its end a delivery has failed at most as often as the ladder has delays
(`sound_run`), and the next failure finds no delay. The history comes from `history_run`. -/
theorem delivery_lifecycle {ladder : List JsNumber} {steps : List ℤ}
    (hladder : assertRetryLadder ladder = .ok steps) (registry : Uuid → Option WebhookEndpoint)
    (commands later : List Command) :
    let books := run (step ladder) (Books.start registry) commands
    let after := run (step ladder) books later
    (∀ endpointId eventId, books.deliveries.countP (isActiveFor endpointId eventId) ≤ 1) ∧
    (∀ delivery ∈ books.deliveries,
      delivery.attempts = delivery.attemptLog.length ∧
      delivery.failures ≤ steps.length + 1 ∧
      (delivery.status = .deadLettered ↔ delivery.failures = steps.length + 1) ∧
      delivery.successes ≤ 1) ∧
    History books after := by
  intro books after
  have hsound : Sound ladder.length books := sound_run ladder registry commands
  rw [length_of_assertRetryLadder hladder]
  refine ⟨hsound.active_le_one, ?_, history_run ladder books later⟩
  intro delivery hd
  have hc := hsound.consistent delivery hd
  cases hstatus : delivery.status with
  | queued | delivering =>
    obtain ⟨hle, hnone⟩ := hc.open_failures (by simp [hstatus])
    exact ⟨hc.counter, by omega, by simp; omega, by omega⟩
  | delivered =>
    obtain ⟨hle, hone⟩ := hc.delivered hstatus
    exact ⟨hc.counter, by omega, by simp; omega, by omega⟩
  | deadLettered =>
    obtain ⟨hfailures, hnone⟩ := hc.deadLettered hstatus
    exact ⟨hc.counter, by omega, by simp [hfailures], by omega⟩

/-! ## A run -/

def shortLadder : List JsNumber := [⟨some 1000, "1000"⟩, ⟨some 5000, "5000"⟩]

def tillEndpoint : WebhookEndpoint where
  endpointId := "endpoint-1"
  orgId := "org-1"
  url := "https://hooks.example.co.ke/fuatilia"
  label := "till"
  description := none
  status := .active
  secretRef := "ref_12345678"
  subscriptions := [⟨"payment.*", .wildcard, .ofTime 0⟩]
  createdAt := .ofTime 0
  pausedAt := none
  resumedAt := none
  revokedAt := none

def tillRegistry : Uuid → Option WebhookEndpoint :=
  fun id => if id = "endpoint-1" then some tillEndpoint else none

def confirmedEvent : OutboundEvent := ⟨"event-1", "payment.confirmed", some .null⟩

def queueCommands : List Command :=
  [.plan confirmedEvent tillEndpoint none (pinnedClock (.ofTime 0)),
    .enqueue 0 "delivery-1" (pinnedClock (.ofTime 1))]

def failedAttempt (time : ℤ) : List Command :=
  [.attempt 0 (pinnedClock (.ofTime time)),
    .outcome 0 (.failure "timeout") (pinnedClock (.ofTime time))]

theorem delivery_lifecycle_dead_lettered :
    (run (step shortLadder) (Books.start tillRegistry)
        (queueCommands ++ failedAttempt 10 ++ failedAttempt 2000 ++
          failedAttempt 9000)).deliveries.map
      (fun d => (d.status, d.failures)) = [(.deadLettered, 3)] ∧
    ∀ commands later : List Command,
      let books := run (step shortLadder) (Books.start tillRegistry) commands
      let after := run (step shortLadder) books later
      (∀ endpointId eventId, books.deliveries.countP (isActiveFor endpointId eventId) ≤ 1) ∧
      (∀ delivery ∈ books.deliveries,
        delivery.attempts = delivery.attemptLog.length ∧ delivery.failures ≤ 3 ∧
        (delivery.status = .deadLettered ↔ delivery.failures = 3) ∧ delivery.successes ≤ 1) ∧
      History books after := by
  refine ⟨by decide +kernel, ?_⟩
  have hladder : assertRetryLadder shortLadder = .ok [1000, 5000] := by decide +kernel
  exact delivery_lifecycle hladder tillRegistry

/-! ## Revoked endpoints -/

def Books.queuedFor (books : Books) (endpointId : Uuid) : List Uuid :=
  (books.deliveries.filter fun d => d.endpointId = endpointId).map Delivery.deliveryId

def Books.IsRevoked (books : Books) (endpointId : Uuid) : Prop :=
  ∃ endpoint, books.registry endpointId = some endpoint ∧ endpoint.status = .revoked

/-- A plan is made from the endpoint as it is now, and an endpoint is revoked only when no plan for
it is held. -/
def Orderly (books : Books) : Command → Prop
  | .plan _ snapshot _ _ => books.registry snapshot.endpointId = some snapshot
  | .revoke endpointId _ _ => ∀ plan ∈ books.plans, plan.endpointId ≠ endpointId
  | _ => True

instance decidableOrderly (books : Books) (command : Command) : Decidable (Orderly books command) :=
  match command with
  | .plan _ snapshot _ _ =>
    inferInstanceAs (Decidable (books.registry snapshot.endpointId = some snapshot))
  | .revoke endpointId _ _ =>
    inferInstanceAs (Decidable (∀ plan ∈ books.plans, plan.endpointId ≠ endpointId))
  | .forget _ | .enqueue _ _ _ | .attempt _ _ | .outcome _ _ _ | .pause _ _ _ | .resume _ _
  | .subscribe _ _ _ => inferInstanceAs (Decidable True)

/-- Every held plan is for an endpoint that is not revoked. -/
def PlansLive (books : Books) : Prop :=
  ∀ plan ∈ books.plans, ∃ endpoint, books.registry plan.endpointId = some endpoint ∧
    endpoint.status ≠ .revoked

lemma queuedFor_set (hdelivery : books.deliveries[i]? = some delivery)
    (hchanged : Continues delivery changed) (endpointId : Uuid) :
    ({ books with deliveries := books.deliveries.set i changed } : Books).queuedFor endpointId =
      books.queuedFor endpointId := by
  have hkeys : ∀ deliveries : List Delivery,
      (deliveries.filter fun d => d.endpointId = endpointId).map Delivery.deliveryId =
        ((deliveries.map fun d => (d.endpointId, d.deliveryId)).filter
          fun key => key.1 = endpointId).map Prod.snd := by
    intro deliveries
    simp [List.filter_map, Function.comp_def]
  rw [Books.queuedFor, Books.queuedFor, hkeys, hkeys]
  rw [map_set_of_eq _ hdelivery (by rw [hchanged.endpointId_eq, hchanged.deliveryId_eq])]

lemma plansLive_step (horderly : Orderly books command)
    (hlive : PlansLive books) (h : step ladder books command = some after) : PlansLive after := by
  cases step_transition h with
  | enqueue | attempt | outcome => exact hlive
  | @plan event snapshot cap clock plan hactive hplan =>
    exact forall_mem_concat hlive (hplan ▸ ⟨snapshot, horderly, by simp [hactive]⟩)
  | forget => exact fun p hp => hlive p (List.mem_of_mem_eraseIdx hp)
  | @touch _ id endpoint changed hendpoint hsame =>
    intro p hp
    obtain ⟨held, hheld, hstatus⟩ := hlive p hp
    by_cases hid : p.endpointId = id
    · rw [hid, hendpoint] at hheld
      cases hheld
      exact ⟨changed, by simp [hid], fun hrevoked => hstatus (hsame.mp hrevoked)⟩
    · exact ⟨held, by simp [Function.update_of_ne hid, hheld], hstatus⟩
  | revoke =>
    intro p hp
    obtain ⟨held, hheld, hstatus⟩ := hlive p hp
    exact ⟨held, by simp [Function.update_of_ne (horderly p hp), hheld], hstatus⟩

lemma isRevoked_step (hrevoked : books.IsRevoked endpointId)
    (h : step ladder books command = some after) : after.IsRevoked endpointId := by
  obtain ⟨endpoint, hendpoint, hstatus⟩ := hrevoked
  cases step_transition h with
  | plan | forget | enqueue | attempt | outcome => exact ⟨endpoint, hendpoint, hstatus⟩
  | @touch _ id touched changed htouched hsame =>
    by_cases hid : endpointId = id
    · rw [← hid, hendpoint] at htouched
      cases htouched
      exact ⟨changed, by simp [hid], hsame.mpr hstatus⟩
    · exact ⟨endpoint, by simp [Function.update_of_ne hid, hendpoint], hstatus⟩
  | @revoke id _ _ changed hchanged =>
    by_cases hid : endpointId = id
    · exact ⟨changed, by simp [hid], hchanged⟩
    · exact ⟨endpoint, by simp [Function.update_of_ne hid, hendpoint], hstatus⟩

lemma queuedFor_step (hlive : PlansLive books)
    (hrevoked : books.IsRevoked endpointId) (h : step ladder books command = some after) :
    after.queuedFor endpointId = books.queuedFor endpointId := by
  cases step_transition h with
  | plan | forget | touch | revoke => rfl
  | @enqueue _ _ _ plan delivery hplan _ hfresh =>
    have hne : delivery.endpointId ≠ endpointId := by
      intro heq
      obtain ⟨endpoint, hendpoint, hstatus⟩ := hrevoked
      obtain ⟨held, hheld, hactive⟩ := hlive plan hplan
      rw [← hfresh.endpointId_eq, heq, hendpoint] at hheld
      cases hheld
      exact hactive hstatus
    simp [Books.queuedFor, List.filter_append, hne]
  | attempt hdelivery hqueued => exact queuedFor_set hdelivery (continues_begin hqueued) endpointId
  | outcome hdelivery hdelivering hafter =>
    exact queuedFor_set hdelivery (hafter.continues hdelivering) endpointId

/-- **A revoked endpoint gets no new work in orderly runs.** Where plans are made from the endpoint
as it is at that moment, and an endpoint is revoked only when no plan for it is held, no delivery is
queued for an endpoint after it was revoked.

**Proof sketch.** By the invariant `PlansLive` the plan of an `enqueue` is never for a revoked
endpoint. -/
theorem no_work_after_revocation (ladder : List JsNumber) (registry : Uuid → Option WebhookEndpoint)
    (earlier later : List Command) (endpointId : Uuid)
    (horderly : Meets (step ladder) Orderly (Books.start registry) (earlier ++ later))
    (hrevoked : (run (step ladder) (Books.start registry) earlier).IsRevoked endpointId) :
    (run (step ladder) (Books.start registry) (earlier ++ later)).queuedFor endpointId =
      (run (step ladder) (Books.start registry) earlier).queuedFor endpointId := by
  obtain ⟨hearlier, hlater⟩ := (meets_append _ _ _).mp horderly
  have hstart : PlansLive (Books.start registry) := by
    intro plan hplan
    cases hplan
  have hlive := run_invariant (fun _ _ _ => plansLive_step) earlier _ hstart hearlier
  rw [run_append]
  generalize run (step ladder) (Books.start registry) earlier = middle at *
  have hkeep : ∀ books command after, Orderly books command →
      (PlansLive books ∧ books.IsRevoked endpointId ∧
        books.queuedFor endpointId = middle.queuedFor endpointId) →
      step ladder books command = some after →
      (PlansLive after ∧ after.IsRevoked endpointId ∧
        after.queuedFor endpointId = middle.queuedFor endpointId) := by
    rintro books command after horder ⟨hplans, hgone, hqueued⟩ hstep
    exact ⟨plansLive_step horder hplans hstep, isRevoked_step hgone hstep,
      (queuedFor_step hplans hgone hstep).trans hqueued⟩
  exact (run_invariant hkeep later middle ⟨hlive, hrevoked, rfl⟩ hlater).2.2

def revokeCommand : Command := .revoke "endpoint-1" "compromised" (pinnedClock (.ofTime 1))

/-- The endpoint is revoked between a plan and its enqueueing, which queues a delivery all the same:
`enqueueDelivery` reads the plan and the deliveries, never the endpoint. -/
theorem queued_after_revocation :
    let earlier : List Command :=
      [.plan confirmedEvent tillEndpoint none (pinnedClock (.ofTime 0)), revokeCommand]
    let books := run (step shortLadder) (Books.start tillRegistry) earlier
    let after := run (step shortLadder) (Books.start tillRegistry)
      (earlier ++ [.enqueue 0 "delivery-1" (pinnedClock (.ofTime 2))])
    (books.registry "endpoint-1").map WebhookEndpoint.status = some .revoked ∧
      books.queuedFor "endpoint-1" = [] ∧ after.queuedFor "endpoint-1" = ["delivery-1"] := by
  decide +kernel

def revokedEndpoint : WebhookEndpoint :=
  { tillEndpoint with status := .revoked, revokedAt := some (.ofTime 1) }

/-- The plan is enqueued and let go before the endpoint is revoked; planning for it and enqueueing
again are then refused. -/
theorem no_work_after_orderly_revocation :
    let earlier : List Command := queueCommands ++ [.forget 0, revokeCommand]
    let later : List Command :=
      [.plan confirmedEvent revokedEndpoint none (pinnedClock (.ofTime 3)),
        .enqueue 0 "delivery-2" (pinnedClock (.ofTime 4))]
    (run (step shortLadder) (Books.start tillRegistry) earlier).queuedFor "endpoint-1" =
      ["delivery-1"] ∧
    (run (step shortLadder) (Books.start tillRegistry) (earlier ++ later)).queuedFor "endpoint-1" =
      (run (step shortLadder) (Books.start tillRegistry) earlier).queuedFor "endpoint-1" := by
  intro earlier later
  have horderly : Meets (step shortLadder) Orderly (Books.start tillRegistry)
      (earlier ++ later) := by
    decide +kernel
  have hrevoked : (run (step shortLadder) (Books.start tillRegistry) earlier).IsRevoked
      "endpoint-1" := ⟨revokedEndpoint, by decide +kernel, rfl⟩
  exact ⟨by decide +kernel,
    no_work_after_revocation shortLadder tillRegistry earlier later "endpoint-1" horderly hrevoked⟩

end Fuatilia.Webhooks
