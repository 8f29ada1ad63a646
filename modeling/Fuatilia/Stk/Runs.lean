import Fuatilia.Payments.IntakeRuns
import Fuatilia.Stk.Actions

/-!
# Runs of a collect-now attempt

An attempt and the payments that the process knows change together. Other callbacks go through the
same intake in between.

## Main definitions

* `Books`, `step` — an attempt with the payments and its facts, and the commands.
* `Transition`, `Sound` — what a command can do, and the invariant.

## Main results

* `sound_run`, `attempt_lifecycle` — the invariant and the law of an attempt, in every run.
-/

namespace Fuatilia.Stk

open Fallible Machine Payments

structure Books where
  attempt : StkPushAction
  payments : List Payment
  stkEvents : List StkPushEvent

/-- The commands of a run. `intake` stands for the other callbacks of the process. -/
inductive Command where
  | decide (decision : PolicyDecision) (clock : Clock)
  | approve (args : ApproveStkPushArgs) (clock : Clock)
  | initiate (args : InitiateStkPushArgs) (wire : StkPushWire) (clock : Clock)
  | callback (raw : StkPushResultCallbackInput) (clock : Clock)
  | intake (cmd : IntakeCommand) (clock : Clock)
  | expire (clock : Clock)

def Books.record (books : Books) (result : ActionResult) : Books :=
  { books with attempt := result.action, stkEvents := books.stkEvents ++ result.events }

def Books.recordInitiation (books : Books) : InitiateStkPushResult → Books
  | .accepted attempt events | .wireRejected _ attempt events =>
    { books with attempt, stkEvents := books.stkEvents ++ events }

/-- The books after a result callback: a payment that is not a repetition joins the known ones. -/
def Books.recordCallback (books : Books) (result : ReconcileStkCallbackResult) : Books where
  attempt := result.attempt
  payments := if result.duplicate then books.payments else books.payments ++ [result.payment]
  stkEvents := books.stkEvents ++ result.stkEvents

def Books.recordIntake (books : Books) (result : IntakeResult) : Books :=
  { books with
    payments := if result.duplicate then books.payments else books.payments ++ [result.payment] }

def step (books : Books) : Command → Option Books
  | .decide decision clock =>
    (applyStkPolicyDecision books.attempt decision clock).toOption.map books.record
  | .approve args clock => (approveStkPush books.attempt args clock).toOption.map books.record
  | .initiate args wire clock =>
    (initiateStkPush books.attempt args wire clock).toOption.map books.recordInitiation
  | .callback raw clock =>
    (reconcileStkCallback books.attempt raw clock books.payments).toOption.map books.recordCallback
  | .intake cmd clock => (intakePayment cmd ⟨clock, books.payments⟩).toOption.map books.recordIntake
  | .expire clock => (expireStkPushIfDue books.attempt clock).toOption.map books.record

/-! ## What the commands of the attempt do -/

def StkPushEvent.isInitiated (event : StkPushEvent) : Bool :=
  match event.payload with
  | .initiated .. => true
  | _ => false

def Books.initiations (books : Books) : ℕ := books.stkEvents.countP StkPushEvent.isInitiated

variable {clock : Clock} {a : StkPushAction} {callback : StkPushResultCallback}
  {existing : List Payment} {p : Payment} {c : Command}

lemma domainEvent_eq_ok {name : String} {id : Uuid} {payload : StkPushPayload}
    {event : StkPushEvent} (h : domainEvent name id payload clock = .ok event) :
    event.payload = payload := by
  simp only [domainEvent, ok_iff] at h
  obtain ⟨_, -, _, -, rfl⟩ := h
  rfl

variable {r proposal : ActionResult} {raw : StkPushResultCallbackInput} {args : ProposeStkPushArgs}

lemma applyStkPolicyDecision_eq_ok {decision : PolicyDecision}
    (h : applyStkPolicyDecision a decision clock = .ok r) :
    a.state = .proposed ∧ r.action.state ∈ [.proposed, .refused, .awaitingApproval] ∧
      r.action.initiation = a.initiation ∧ r.action.amount = a.amount ∧
      r.events.countP StkPushEvent.isInitiated = 0 := by
  simp only [applyStkPolicyDecision, ok_iff, not_not] at h
  obtain ⟨hstate, -, reason, -, now, -, h⟩ := h
  refine ⟨hstate, ?_⟩
  split at h
  · simp only [ok_iff] at h
    obtain ⟨_, -, _, -, event, hevent, rfl⟩ := h
    simp [StkPushEvent.isInitiated, domainEvent_eq_ok hevent]
  · simp only [ok_iff] at h
    obtain ⟨_, -, event, hevent, rfl⟩ := h
    simp [StkPushEvent.isInitiated, domainEvent_eq_ok hevent]
  · obtain rfl := pure_eq_ok.mp h
    simp [hstate]

lemma approveStkPush_eq_ok {args : ApproveStkPushArgs} (h : approveStkPush a args clock = .ok r) :
    a.state = .awaitingApproval ∧ r.action.state = .approved ∧
      r.action.initiation = a.initiation ∧ r.action.amount = a.amount ∧
      r.events.countP StkPushEvent.isInitiated = 0 := by
  simp only [approveStkPush, ok_iff, not_not] at h
  obtain ⟨hstate, _, -, _, -, _, -, _, -, event, hevent, rfl⟩ := h
  refine ⟨hstate, rfl, rfl, rfl, ?_⟩
  simp [StkPushEvent.isInitiated, domainEvent_eq_ok hevent]

lemma assertEchoedCheckout_eq_ok {raw checkout : String}
    (h : assertEchoedCheckout raw = .ok checkout) : isCheckoutId checkout = true := by
  simp only [assertEchoedCheckout, ok_iff] at h
  obtain ⟨_, -, hshape, rfl⟩ := h
  simpa using hshape

lemma recordOutcome_eq_ok {key : String} {date : Date} {ttl : ℤ}
    {outcome : StkPushInitiationOutcome} {r : InitiateStkPushResult}
    (h : recordOutcome a key date ttl outcome = .ok r) :
    (∃ i event, r = .accepted { a with state := .initiated, initiation := some i } [event] ∧
      isCheckoutId i.checkoutRequestId = true ∧ event.isInitiated = true) ∨
    ∃ reason event, r = .wireRejected reason a [event] ∧ event.isInitiated = false := by
  simp only [recordOutcome, bind_eq_ok] at h
  obtain ⟨iso, -, h⟩ := h
  cases outcome with
  | rejected reason =>
    simp only [ok_iff] at h
    obtain ⟨reason, -, event, hevent, rfl⟩ := h
    refine .inr ⟨reason, event, rfl, ?_⟩
    simp [StkPushEvent.isInitiated, domainEvent_eq_ok hevent]
  | accepted merchant checkout message =>
    simp only [ok_iff] at h
    obtain ⟨_, -, checkout, hcheckout, _, -, event, hevent, rfl⟩ := h
    refine .inl ⟨_, event, rfl, assertEchoedCheckout_eq_ok hcheckout, ?_⟩
    simp [StkPushEvent.isInitiated, domainEvent_eq_ok hevent]

lemma initiateStkPush_eq_ok {args : InitiateStkPushArgs} {wire : StkPushWire}
    {r : InitiateStkPushResult} (h : initiateStkPush a args wire clock = .ok r) :
    (a.state = .proposed ∨ a.state = .approved) ∧
    ((∃ i event, r = .accepted { a with state := .initiated, initiation := some i } [event] ∧
      isCheckoutId i.checkoutRequestId = true ∧ event.isInitiated = true) ∨
    ∃ reason event, r = .wireRejected reason a [event] ∧ event.isInitiated = false) := by
  simp only [initiateStkPush, ok_iff] at h
  obtain ⟨hstate, -, _, -, _, -, _, -, _, -, h⟩ := h
  refine ⟨?_, recordOutcome_eq_ok h⟩
  by_contra hnot
  exact hstate (not_or.mp hnot)

lemma expireStkPushIfDue_eq_ok (h : expireStkPushIfDue a clock = .ok r) :
    r = ⟨a, []⟩ ∨ (a.state = .initiated ∧ ∃ date event,
      r = ⟨{ a with state := .timedOut, timedOutAt := some date }, [event]⟩ ∧
      event.isInitiated = false) := by
  simp only [expireStkPushIfDue, bind_eq_ok] at h
  obtain ⟨now, -, h⟩ := h
  split at h
  · exact .inl (pure_eq_ok.mp h)
  · next initiation hdue =>
    simp only [ok_iff] at h
    obtain ⟨_, -, _, -, event, hevent, rfl⟩ := h
    have hstate : a.state = .initiated := by
      have hdue := (Option.filter_eq_some_iff.mp hdue).2
      simp only [isStkPushDue, Bool.and_eq_true, beq_iff_eq] at hdue
      exact hdue.1
    refine .inr ⟨hstate, now, event, rfl, ?_⟩
    simp [StkPushEvent.isInitiated, domainEvent_eq_ok hevent]

/-! ## What a result callback does -/

lemma acceptCallback_eq_ok : acceptCallback a raw = .ok callback ↔
      assertStkResultCallback raw = .ok callback ∧
      (∃ i, a.initiation = some i ∧ callback.checkoutRequestId = i.checkoutRequestId) ∧
      a.state ∈ [StkPushActionState.initiated, .reconciled, .failed, .timedOut] ∧
      (callback.success = true → callback.paidMinor = some (a.amount.amount : ℤ)) := by
  simp only [acceptCallback, bind_eq_ok]
  cases hinitiation : a.initiation with
  | none => simp [throw_eq_ok]
  | some i =>
    simp only [ok_iff, not_not, not_and, Option.some.injEq, exists_eq_left']
    constructor
    · rintro ⟨_, hraw, hstate, hcheckout, hpaid, rfl⟩
      exact ⟨hraw, hcheckout, hstate, hpaid⟩
    · rintro ⟨hraw, hcheckout, hstate, hpaid⟩
      exact ⟨callback, hraw, hstate, hcheckout, hpaid, rfl⟩

structure Resolves (a : StkPushAction) (callback : StkPushResultCallback)
    (r : ReconcileStkCallbackResult) : Prop where
  created : r.duplicate = false
  key : r.payment.idempotencyKey = paymentIdempotencyKey callback.checkoutRequestId
  paymentId : r.attempt.paymentId = some r.payment.id
  initiation : r.attempt.initiation = a.initiation
  amount : r.attempt.amount = a.amount
  outcome : if callback.success = true then
      r.attempt.state = .reconciled ∧ r.payment.state = .confirmed ∧
        r.payment.confirmedMinor = some a.amount
    else r.attempt.state = .failed ∧ r.payment.state = .failed
  quiet : r.stkEvents.countP StkPushEvent.isInitiated = 0

def priorOf (a : StkPushAction) (callback : StkPushResultCallback) (existing : List Payment) :
    Option Payment :=
  priorPayment (intakeCommand a callback) callback.reference
    (paymentIdempotencyKey callback.checkoutRequestId) existing

lemma key_ne_of_priorOf (h : priorOf a callback existing = none) :
    ∀ p ∈ existing, p.idempotencyKey ≠ paymentIdempotencyKey callback.checkoutRequestId := by
  intro p hp hkey
  have hnot := List.find?_eq_none.mp h p hp
  simp [hkey] at hnot

def newPayment (a : StkPushAction) (callback : StkPushResultCallback) (clock : Clock) :
    IntakeResult :=
  createPayment (intakeCommand a callback) callback.reference
    (paymentIdempotencyKey callback.checkoutRequestId) [] clock

lemma intake_callback (hvalid : callback.Valid) {r : IntakeResult} :
    intakePayment (intakeCommand a callback) ⟨clock, existing⟩ = .ok r ↔
      0 < a.amount.amount ∧ (match priorOf a callback existing with
        | some prior => observeDuplicate prior a.amount clock = .ok r
        | none => r = newPayment a callback clock) := by
  have href : trim (intakeCommand a callback).externalRef = callback.reference :=
    hvalid.reference_trimmed
  have hkey : trim (intakeCommand a callback).idempotencyKey =
      paymentIdempotencyKey callback.checkoutRequestId := trim_paymentIdempotencyKey hvalid.checkout
  have hkeyNe : paymentIdempotencyKey callback.checkoutRequestId ≠ "" := by
    intro h
    have hlength := congrArg String.length h
    simp [paymentIdempotencyKey, String.length_append] at hlength
  have hrefs : normalizeDeclaredRefs (intakeCommand a callback).declaredRefs = .ok [] := rfl
  simp only [intakePayment, href, hkey, hrefs, seq_eq_ok, throwIf_eq_ok, hvalid.reference_ne,
    hkeyNe, not_false_eq_true, true_and, not_le]
  refine and_congr Iff.rfl ?_
  cases hprior : priorOf a callback existing with
  | none =>
    rw [priorOf] at hprior
    simp only [hprior]
    exact pure_eq_ok
  | some prior =>
    rw [priorOf] at hprior
    simp only [hprior]
    exact Iff.rfl

lemma awaitConfirmation_of_initiated (h : p.state = .initiated) :
    awaitConfirmation p = .ok ⟨{ p with state := .pendingConfirmation }, []⟩ := by
  simp [awaitConfirmation, assertNotTerminal, isTerminal, TERMINAL_STATES, do_eq, h]

lemma confirmPayment_of_pending {amount : Money} (clock : Clock)
    (hstate : p.state = .pendingConfirmation) (hcurrency : amount.currency = p.currency) :
    confirmPayment p amount clock = .ok ⟨{ p with
      state := .confirmed, confirmedMinor := some amount, confirmedAt := some (clock.now 0) },
      [paymentConfirmedEvent p.id amount p.externalRef (clock.now 0) (clock.now 1)]⟩ := by
  simp [confirmPayment, assertSameCurrency, assertNotTerminal, isTerminal, TERMINAL_STATES, do_eq,
    hstate, hcurrency]

lemma failPayment_of_initiated {code : String} (clock : Clock) (hcode : trim code ≠ "")
    (hstate : p.state = .initiated) :
    failPayment p code clock = .ok ⟨{ p with
      state := .failed, failedAt := some (clock.now 0), failureCode := some (trim code) },
      [paymentFailedEvent p.id (trim code) (clock.now 1)]⟩ := by
  simp [failPayment, assertNotTerminal, isTerminal, TERMINAL_STATES, do_eq, hcode, hstate]

lemma confirmAttempt_newPayment (a : StkPushAction) (callback : StkPushResultCallback) (t : ℤ)
    (clock later : Clock) (hsuccess : callback.success = true) :
    ∃ r, confirmAttempt a callback (newPayment a callback clock) (.ofTime t) later = .ok r ∧
      Resolves a callback r := by
  have hstate : (newPayment a callback clock).payment.state = .initiated := rfl
  simp only [confirmAttempt, awaitConfirmation_of_initiated hstate, do_eq]
  rw [confirmPayment_of_pending later rfl rfl]
  refine ⟨_, rfl, rfl, rfl, rfl, rfl, rfl, ?_, rfl⟩
  rw [if_pos hsuccess]
  exact ⟨rfl, rfl, rfl⟩

lemma trim_failureCode_ne (text : String) : trim ("STK_RESULT_" ++ text) ≠ "" := by
  have hfirst : 'S' ∈ ("STK_RESULT_" ++ text).toList := by
    rw [String.toList_append]
    exact List.mem_append_left _ (by decide)
  exact trim_ne_empty hfirst (by decide)

lemma failAttempt_newPayment (a : StkPushAction) (callback : StkPushResultCallback) (t : ℤ)
    (clock later : Clock) (hfailure : callback.success = false) :
    ∃ r, failAttempt a callback (newPayment a callback clock) (.ofTime t) later = .ok r ∧
      Resolves a callback r := by
  have hstate : (newPayment a callback clock).payment.state = .initiated := rfl
  simp only [failAttempt, failPayment_of_initiated later (trim_failureCode_ne _) hstate, do_eq]
  refine ⟨_, rfl, rfl, rfl, rfl, rfl, rfl, ?_, rfl⟩
  rw [if_neg (by rw [hfailure]; decide)]
  exact ⟨rfl, rfl⟩

lemma reconcileStkCallback_of_new
    (hcallback : acceptCallback a raw = .ok callback) (hamount : 0 < a.amount.amount)
    (hnew : priorOf a callback existing = none) (hclock : clock.now 2 ≠ .invalid) :
    ∃ r, reconcileStkCallback a raw clock existing = .ok r ∧ Resolves a callback r := by
  have hvalid := assertStkResultCallback_eq_ok (acceptCallback_eq_ok.mp hcallback).1
  have hintake : intakePayment (intakeCommand a callback) ⟨clock, existing⟩ =
      .ok (newPayment a callback clock) := by
    rw [intake_callback hvalid, hnew]
    exact ⟨hamount, rfl⟩
  obtain ⟨t, ht⟩ : ∃ t, clock.now 2 = .ofTime t := by
    cases hnow : clock.now 2 with
    | invalid => exact absurd hnow hclock
    | ofTime t => exact ⟨t, rfl⟩
  have hrest : reconcileStkCallback a raw clock existing = if callback.success then
      confirmAttempt a callback (newPayment a callback clock) (.ofTime t) (clock.after 3)
      else failAttempt a callback (newPayment a callback clock) (.ofTime t) (clock.after 3) := by
    have hnow : assertClockDate (clock.now 2) "STK_CLOCK_INVALID" = .ok (.ofTime t) := by
      rw [ht]
      rfl
    have hcreated : (newPayment a callback clock).duplicate = false := rfl
    simp [reconcileStkCallback, hcallback, hintake, hcreated, hnow, do_eq, Bool.false_eq_true]
  rw [hrest]
  cases hsuccess : callback.success with
  | true => exact confirmAttempt_newPayment a callback t clock (clock.after 3) hsuccess
  | false => exact failAttempt_newPayment a callback t clock (clock.after 3) hsuccess

/-- **What a result callback does**: it repeats a known payment and changes nothing, or it creates a
payment and resolves the attempt. -/
lemma reconcileStkCallback_cases {r : ReconcileStkCallbackResult}
    (hok : reconcileStkCallback a raw clock existing = .ok r) :
    ∃ callback, acceptCallback a raw = .ok callback ∧
      ((priorOf a callback existing ≠ none ∧ r.attempt = a ∧ r.duplicate = true ∧
        r.stkEvents = []) ∨ (priorOf a callback existing = none ∧ Resolves a callback r)) := by
  obtain ⟨callback, hcallback, h⟩ := bind_eq_ok.mp hok
  obtain ⟨intake, hintake, h⟩ := bind_eq_ok.mp h
  refine ⟨callback, hcallback, ?_⟩
  have hvalid := assertStkResultCallback_eq_ok (acceptCallback_eq_ok.mp hcallback).1
  obtain ⟨hamount, hprior⟩ := (intake_callback hvalid).mp hintake
  cases hfound : priorOf a callback existing with
  | some prior =>
    rw [hfound] at hprior
    rw [if_pos (observeDuplicate_duplicate hprior)] at h
    obtain rfl := pure_eq_ok.mp h
    exact .inl ⟨nofun, rfl, rfl, rfl⟩
  | none =>
    rw [hfound] at hprior
    obtain rfl : intake = newPayment a callback clock := hprior
    rw [if_neg (show ¬ (newPayment a callback clock).duplicate = true from Bool.false_ne_true)] at h
    simp only [bind_eq_ok, assertClockDate, throwIf_eq_ok] at h
    obtain ⟨_, ⟨_, hclock, -⟩, -⟩ := h
    obtain ⟨r', hr', hresolves⟩ := reconcileStkCallback_of_new hcallback hamount hfound hclock
    obtain rfl := Except.ok.inj (hr'.symm.trans hok)
    exact .inr ⟨rfl, hresolves⟩

/-! ## What a command can do -/

def StkPushActionState.beforeRail : StkPushActionState → Bool
  | .proposed | .awaitingApproval | .approved | .refused => true
  | _ => false

inductive Transition (b b' : Books) : Prop where
  /-- Nothing but facts other than an initiation. -/
  | idle (attempt : b'.attempt = b.attempt) (payments : b'.payments = b.payments)
      (initiations : b'.initiations = b.initiations)
  /-- A decision or an approval. -/
  | governed (before : b.attempt.state = .proposed ∨ b.attempt.state = .awaitingApproval)
      (after : b'.attempt.state.beforeRail = true)
      (initiation : b'.attempt.initiation = b.attempt.initiation)
      (amount : b'.attempt.amount = b.attempt.amount) (payments : b'.payments = b.payments)
      (initiations : b'.initiations = b.initiations)
  /-- The attempt goes live. -/
  | initiated (before : b.attempt.state = .proposed ∨ b.attempt.state = .approved)
      (i : StkPushInitiation)
      (attempt : b'.attempt = { b.attempt with state := .initiated, initiation := some i })
      (checkout : isCheckoutId i.checkoutRequestId = true) (payments : b'.payments = b.payments)
      (initiations : b'.initiations = b.initiations + 1)
  /-- A callback creates a payment and resolves the attempt. -/
  | resolved (callback : StkPushResultCallback) (r : ReconcileStkCallbackResult)
      (i : StkPushInitiation) (opened : b.attempt.initiation = some i)
      (checkout : callback.checkoutRequestId = i.checkoutRequestId)
      (new : priorOf b.attempt callback b.payments = none)
      (resolves : Resolves b.attempt callback r)
      (attempt : b'.attempt = r.attempt) (payments : b'.payments = b.payments ++ [r.payment])
      (initiations : b'.initiations = b.initiations)
  /-- Another intake creates a payment. -/
  | created (p : Payment) (attempt : b'.attempt = b.attempt)
      (payments : b'.payments = b.payments ++ [p])
      (new : ∀ q ∈ b.payments, q.idempotencyKey ≠ p.idempotencyKey)
      (initiations : b'.initiations = b.initiations)
  /-- The deadline closes the attempt. -/
  | timedOut (before : b.attempt.state = .initiated) (date : Date)
      (attempt : b'.attempt = { b.attempt with state := .timedOut, timedOutAt := some date })
      (payments : b'.payments = b.payments) (initiations : b'.initiations = b.initiations)

lemma initiations_append {b b' : Books} (events : List StkPushEvent)
    (h : b'.stkEvents = b.stkEvents ++ events) :
    b'.initiations = b.initiations + events.countP StkPushEvent.isInitiated := by
  rw [Books.initiations, h, List.countP_append, Books.initiations]

theorem step_transition {b b' : Books} (h : step b c = some b') : Transition b b' := by
  cases c with
  | decide decision clock =>
    obtain ⟨r, hr, rfl⟩ := map_toOption_eq_some.mp h
    obtain ⟨hstate, hafter, hinitiation, hamount, hquiet⟩ :=
      applyStkPolicyDecision_eq_ok hr
    refine .governed (.inl hstate) ?_ hinitiation hamount rfl ?_
    · show r.action.state.beforeRail = true
      simp only [List.mem_cons, List.not_mem_nil, or_false] at hafter
      rcases hafter with hafter | hafter | hafter <;> rw [hafter] <;> rfl
    · rw [initiations_append r.events rfl, hquiet, Nat.add_zero]
  | approve args clock =>
    obtain ⟨r, hr, rfl⟩ := map_toOption_eq_some.mp h
    obtain ⟨hstate, hafter, hinitiation, hamount, hquiet⟩ :=
      approveStkPush_eq_ok hr
    refine .governed (.inr hstate) ?_ hinitiation hamount rfl ?_
    · show r.action.state.beforeRail = true
      rw [hafter]
      rfl
    · rw [initiations_append r.events rfl, hquiet, Nat.add_zero]
  | initiate args wire clock =>
    obtain ⟨r, hr, rfl⟩ := map_toOption_eq_some.mp h
    obtain ⟨hstate, ⟨i, event, rfl, hcheckout, hevent⟩ | ⟨reason, event, rfl, hevent⟩⟩ :=
      initiateStkPush_eq_ok hr
    · refine .initiated hstate i rfl hcheckout rfl ?_
      rw [initiations_append [event] rfl]
      simp [hevent]
    · refine .idle rfl rfl ?_
      rw [initiations_append [event] rfl]
      simp [hevent]
  | callback raw clock =>
    obtain ⟨r, hr, rfl⟩ := map_toOption_eq_some.mp h
    obtain ⟨callback, hcallback, ⟨-, hattempt, hduplicate, hevents⟩ | ⟨hnew, hresolves⟩⟩ :=
      reconcileStkCallback_cases hr
    · refine .idle hattempt ?_ ?_
      · simp [Books.recordCallback, hduplicate]
      · rw [initiations_append r.stkEvents rfl, hevents]
        rfl
    · obtain ⟨-, ⟨i, hopened, hcheckout⟩, -⟩ := acceptCallback_eq_ok.mp hcallback
      refine .resolved callback r i hopened hcheckout hnew hresolves rfl ?_ ?_
      · simp [Books.recordCallback, hresolves.created]
      · rw [initiations_append r.stkEvents rfl, hresolves.quiet, Nat.add_zero]
  | intake cmd clock =>
    obtain ⟨r, hr, rfl⟩ := map_toOption_eq_some.mp h
    rcases intakePayment_cases hr with
      ⟨hduplicate, -⟩ | ⟨hcreated, hnone, -, -, hkey⟩
    · exact .idle rfl (by simp [Books.recordIntake, hduplicate]) rfl
    · exact .created r.payment rfl (by simp [Books.recordIntake, hcreated])
        (fun q hq heq => hnone q hq (.inr (heq.trans hkey))) rfl
  | expire clock =>
    obtain ⟨r, hr, rfl⟩ := map_toOption_eq_some.mp h
    rcases expireStkPushIfDue_eq_ok hr with rfl | ⟨hstate, date, event, rfl, hevent⟩
    · exact .idle rfl rfl (initiations_append [] rfl)
    · refine .timedOut hstate date rfl rfl ?_
      rw [initiations_append [event] rfl]
      simp [hevent]

/-! ## The invariant -/

/-- The payment that resolved an attempt: it stands under the key of the checkout, and a reconciled
attempt has it confirmed for exactly its amount. -/
def Settled (b : Books) : Prop :=
  ∃ i p, b.attempt.initiation = some i ∧ p ∈ b.payments ∧
    p.idempotencyKey = paymentIdempotencyKey i.checkoutRequestId ∧ b.attempt.paymentId = some p.id ∧
    (b.attempt.state = .reconciled →
      p.state = .confirmed ∧ p.confirmedMinor = some b.attempt.amount)

/-- The payments created since the process knew `known`: each under a key of its own. -/
def Created (known : List Payment) (payments : List Payment) : Prop :=
  ∃ created, payments = known ++ created ∧ (created.map (·.idempotencyKey)).Nodup ∧
    ∀ p ∈ created, ∀ q ∈ known, q.idempotencyKey ≠ p.idempotencyKey

/-- The invariant of a run that began with an attempt for `amount` and the payments `known`. -/
structure Sound (amount : Money) (known : List Payment) (b : Books) : Prop where
  amount_eq : b.attempt.amount = amount
  opened : ∀ i, b.attempt.initiation = some i → isCheckoutId i.checkoutRequestId = true
  before : b.attempt.state.beforeRail = true ↔ b.attempt.initiation = none
  once : b.initiations = b.attempt.initiation.toList.length
  created : Created known b.payments
  settled : b.attempt.state = .reconciled ∨ b.attempt.state = .failed → Settled b

lemma Created.append {known payments : List Payment} (h : Created known payments)
    (hnew : ∀ q ∈ payments, q.idempotencyKey ≠ p.idempotencyKey) :
    Created known (payments ++ [p]) := by
  obtain ⟨created, rfl, hnodup, hfresh⟩ := h
  refine ⟨created ++ [p], by rw [List.append_assoc], ?_, ?_⟩
  · refine Lists.nodup_map_concat hnodup fun hkey => ?_
    obtain ⟨q, hq, hqkey⟩ := List.mem_map.mp hkey
    exact hnew q (List.mem_append_right _ hq) hqkey
  · exact Lists.forall_mem_concat hfresh fun r hr => hnew r (List.mem_append_left _ hr)

variable {amount : Money} {known : List Payment} {b b' : Books}

lemma Settled.mono (h : Settled b) (hattempt : b'.attempt = b.attempt)
    (hpayments : ∀ p ∈ b.payments, p ∈ b'.payments) : Settled b' := by
  obtain ⟨i, p, hi, hp, hkey, hid, hconfirmed⟩ := h
  exact ⟨i, p, hattempt ▸ hi, hpayments p hp, hkey, hattempt ▸ hid, hattempt ▸ hconfirmed⟩

lemma Sound.frame (h : Sound amount known b) (hattempt : b'.attempt = b.attempt)
    (hinitiations : b'.initiations = b.initiations) (hcreated : Created known b'.payments)
    (hpayments : ∀ p ∈ b.payments, p ∈ b'.payments) : Sound amount known b' := by
  refine ⟨?_, ?_, ?_, ?_, hcreated, ?_⟩
  · rw [hattempt, h.amount_eq]
  · rw [hattempt]
    exact h.opened
  · rw [hattempt]
    exact h.before
  · rw [hattempt, hinitiations, h.once]
  · rw [hattempt]
    exact fun hstate => (h.settled hstate).mono hattempt hpayments

lemma settled_of_resolves {r : ReconcileStkCallbackResult} {i : StkPushInitiation}
    (hopened : b.attempt.initiation = some i)
    (hcheckout : callback.checkoutRequestId = i.checkoutRequestId)
    (hresolves : Resolves b.attempt callback r) (hattempt : b'.attempt = r.attempt)
    (hpayments : b'.payments = b.payments ++ [r.payment]) : Settled b' := by
  refine ⟨i, r.payment, ?_, ?_, ?_, ?_, ?_⟩
  · rw [hattempt, hresolves.initiation, hopened]
  · rw [hpayments]
    exact List.mem_concat_self
  · rw [hresolves.key, hcheckout]
  · rw [hattempt, hresolves.paymentId]
  · intro hstate
    have houtcome := hresolves.outcome
    rw [hattempt] at hstate
    split_ifs at houtcome
    · rw [hattempt, hresolves.amount]
      exact houtcome.2
    · rw [hstate] at houtcome
      cases houtcome.1

theorem sound_step (h : Sound amount known b) (hstep : step b c = some b') :
    Sound amount known b' := by
  cases step_transition hstep with
  | idle hattempt hpayments hinitiations =>
    exact h.frame hattempt hinitiations (hpayments ▸ h.created) fun p hp => hpayments ▸ hp
  | governed hbefore hafter hinitiation hamount hpayments hinitiations =>
    have hnone : b.attempt.initiation = none := by
      rw [← h.before]
      rcases hbefore with hbefore | hbefore <;> rw [hbefore] <;> rfl
    refine ⟨?_, ?_, ?_, ?_, ?_, ?_⟩
    · rw [hamount, h.amount_eq]
    · rw [hinitiation]
      exact h.opened
    · rw [hinitiation, hnone]
      exact ⟨fun _ => rfl, fun _ => hafter⟩
    · rw [hinitiation, hinitiations, h.once]
    · rw [hpayments]
      exact h.created
    · rintro (hstate | hstate) <;> rw [hstate] at hafter <;> cases hafter
  | initiated hbefore i hattempt hcheckout hpayments hinitiations =>
    have hnone : b.attempt.initiation = none := by
      rw [← h.before]
      rcases hbefore with hbefore | hbefore <;> rw [hbefore] <;> rfl
    refine ⟨?_, ?_, ?_, ?_, ?_, ?_⟩
    · rw [hattempt]
      exact h.amount_eq
    · rw [hattempt]
      rintro j hj
      exact Option.some.inj hj ▸ hcheckout
    · rw [hattempt]
      exact ⟨nofun, nofun⟩
    · rw [hattempt, hinitiations, h.once, hnone]
      rfl
    · rw [hpayments]
      exact h.created
    · rw [hattempt]
      rintro (hstate | hstate) <;> cases hstate
  | resolved callback r i hopened hcheckout hnew hresolves hattempt hpayments hinitiations =>
    have hsome : r.attempt.initiation = some i := hresolves.initiation.trans hopened
    refine ⟨?_, ?_, ?_, ?_, ?_, ?_⟩
    · rw [hattempt, hresolves.amount, h.amount_eq]
    · rw [hattempt, hresolves.initiation]
      exact h.opened
    · have houtcome := hresolves.outcome
      rw [hattempt, hsome]
      refine ⟨fun hstate => ?_, nofun⟩
      split_ifs at houtcome <;> rw [houtcome.1] at hstate <;> cases hstate
    · rw [hattempt, hinitiations, h.once, hresolves.initiation]
    · rw [hpayments]
      refine h.created.append fun q hq => ?_
      rw [hresolves.key]
      exact key_ne_of_priorOf hnew q hq
    · exact fun _ => settled_of_resolves hopened hcheckout hresolves hattempt hpayments
  | created p hattempt hpayments hnew hinitiations =>
    refine h.frame hattempt hinitiations (hpayments ▸ h.created.append hnew) fun q hq => ?_
    rw [hpayments]
    exact List.mem_append_left _ hq
  | timedOut hbefore date hattempt hpayments hinitiations =>
    refine ⟨?_, ?_, ?_, ?_, ?_, ?_⟩
    · rw [hattempt]
      exact h.amount_eq
    · rw [hattempt]
      exact h.opened
    · have hlive := h.before
      rw [hbefore] at hlive
      rw [hattempt]
      exact hlive
    · rw [hattempt, hinitiations, h.once]
    · rw [hpayments]
      exact h.created
    · rw [hattempt]
      rintro (hstate | hstate) <;> cases hstate

lemma proposeStkPush_eq_ok (h : proposeStkPush args clock = .ok r) :
    r.action.state = .proposed ∧ r.action.initiation = none ∧ r.action.amount = args.amount ∧
      0 < args.amount.amount ∧ r.events.countP StkPushEvent.isInitiated = 0 := by
  simp only [proposeStkPush, assertAmount, ok_iff] at h
  obtain ⟨_, -, _, -, _, -, _, -, _, -, _, -, -, _, ⟨-, hpositive, -⟩, _, -, _, -, _, -, _, -, _, -,
    event, hevent, rfl⟩ := h
  refine ⟨rfl, rfl, rfl, Nat.pos_of_ne_zero (by omega), ?_⟩
  simp [StkPushEvent.isInitiated, domainEvent_eq_ok hevent]

def Books.propose (proposal : ActionResult) (known : List Payment) : Books :=
  ⟨proposal.action, known, proposal.events⟩

lemma sound_propose (h : proposeStkPush args clock = .ok proposal) (known : List Payment) :
    Sound args.amount known (Books.propose proposal known) := by
  obtain ⟨hstate, hinitiation, hamount, -, hquiet⟩ := proposeStkPush_eq_ok h
  have hnone : Created known known :=
    ⟨[], (List.append_nil known).symm, List.nodup_nil, fun _ hp => absurd hp List.not_mem_nil⟩
  refine ⟨hamount, fun i hi => ?_, ?_, ?_, hnone, fun hresolved => ?_⟩
  · exact absurd (hinitiation.symm.trans hi) nofun
  · show proposal.action.state.beforeRail = true ↔ proposal.action.initiation = none
    rw [hstate, hinitiation]
    exact ⟨fun _ => rfl, fun _ => rfl⟩
  · show proposal.events.countP _ = proposal.action.initiation.toList.length
    rw [hinitiation, hquiet]
    rfl
  · change proposal.action.state = .reconciled ∨ proposal.action.state = .failed at hresolved
    rw [hstate] at hresolved
    rcases hresolved with hnot | hnot <;> cases hnot

theorem sound_run
    (h : proposeStkPush args clock = .ok proposal) (known : List Payment)
    (commands : List Command) :
    Sound args.amount known (run step (Books.propose proposal known) commands) :=
  run_invariant_all (fun _ _ _ hb hstep => sound_step hb hstep) commands _ (sound_propose h known)

/-! ## The life of an attempt -/

/-- In a terminal state no command changes the attempt: a callback finds the payment of the
checkout, which a resolved attempt always has, and the others ask for another state. -/
lemma attempt_of_terminal (h : Sound amount known b)
    (hterminal : b.attempt.state ∈ STK_PUSH_TERMINAL_STATES) (hstep : step b c = some b') :
    b'.attempt = b.attempt := by
  simp only [STK_PUSH_TERMINAL_STATES, List.mem_cons, List.not_mem_nil, or_false] at hterminal
  cases step_transition hstep with
  | idle hattempt | created p hattempt => exact hattempt
  | governed hbefore | initiated hbefore =>
    rcases hterminal with hstate | hstate | hstate <;> rw [hstate] at hbefore <;>
      rcases hbefore with hbefore | hbefore <;> cases hbefore
  | timedOut hbefore =>
    rcases hterminal with hstate | hstate | hstate <;> rw [hstate] at hbefore <;> cases hbefore
  | resolved callback r i hopened hcheckout hnew =>
    rcases hterminal with hstate | hstate
    · have hnone := h.before.mp (by rw [hstate]; rfl)
      rw [hopened] at hnone
      cases hnone
    · obtain ⟨j, p, hj, hp, hkey, -⟩ := h.settled hstate
      obtain rfl := Option.some.inj (hopened.symm.trans hj)
      exact absurd (hkey.trans (by rw [hcheckout])) (key_ne_of_priorOf hnew p hp)

lemma attempt_run_of_terminal (h : Sound amount known b)
    (hterminal : b.attempt.state ∈ STK_PUSH_TERMINAL_STATES) (commands : List Command) :
    (run step b commands).attempt = b.attempt := by
  have hkeep : Sound amount known (run step b commands) ∧
      (run step b commands).attempt = b.attempt := by
    refine run_invariant_all (I := fun t => Sound amount known t ∧ t.attempt = b.attempt)
      (fun s c s' hs hstep => ?_) commands b ⟨h, rfl⟩
    have hsame := attempt_of_terminal hs.1 (hs.2 ▸ hterminal) hstep
    exact ⟨sound_step hs.1 hstep, hsame.trans hs.2⟩
  exact hkeep.2

/-- **The life of an attempt.** In every run from a proposal, with other callbacks of the process in
between: every payment created stands under a key of its own; a reconciled attempt has a payment
under the key of its checkout, confirmed for exactly its amount; an attempt in a terminal state is
never changed again; and an attempt goes live at most once. -/
theorem attempt_lifecycle (args : ProposeStkPushArgs) (clock : Clock) (proposal : ActionResult)
    (hproposal : proposeStkPush args clock = .ok proposal) (known : List Payment)
    (commands later : List Command) :
    let start := Books.propose proposal known
    let books := run step start commands
    (∃ created, books.payments = known ++ created ∧
      (∀ p ∈ created, ∀ q ∈ known, q.idempotencyKey ≠ p.idempotencyKey) ∧
      ∀ checkout, (created.filter fun p =>
        p.idempotencyKey = paymentIdempotencyKey checkout).length ≤ 1) ∧
    (books.attempt.state = .reconciled → ∃ i, ∃ p ∈ books.payments,
      books.attempt.initiation = some i ∧
      p.idempotencyKey = paymentIdempotencyKey i.checkoutRequestId ∧
      books.attempt.paymentId = some p.id ∧ p.state = .confirmed ∧
      p.confirmedMinor = some books.attempt.amount ∧ books.attempt.amount = args.amount) ∧
    (books.attempt.state ∈ STK_PUSH_TERMINAL_STATES →
      (run step start (commands ++ later)).attempt = books.attempt) ∧
    books.initiations ≤ 1 := by
  intro start books
  have hsound : Sound args.amount known books := sound_run hproposal known commands
  refine ⟨?_, ?_, ?_, ?_⟩
  · obtain ⟨created, hpayments, hnodup, hfresh⟩ := hsound.created
    refine ⟨created, hpayments, hfresh, fun checkout => ?_⟩
    -- two payments under one key would be two occurrences of it
    have hcount :
      (created.filter fun p => p.idempotencyKey = paymentIdempotencyKey checkout).length =
        (created.map (·.idempotencyKey)).count (paymentIdempotencyKey checkout) := by
      rw [List.count, List.countP_map, ← List.countP_eq_length_filter]
      exact List.countP_congr fun p _ => by simp
    rw [hcount]
    exact List.nodup_iff_count_le_one.mp hnodup _
  · intro hstate
    obtain ⟨i, p, hi, hp, hkey, hid, hconfirmed⟩ := hsound.settled (.inl hstate)
    obtain ⟨hstate, hminor⟩ := hconfirmed hstate
    exact ⟨i, p, hp, hi, hkey, hid, hstate, hminor, hsound.amount_eq⟩
  · intro hterminal
    rw [run_append]
    exact attempt_run_of_terminal hsound hterminal later
  · rw [hsound.once]
    cases books.attempt.initiation with
    | none => exact Nat.zero_le 1
    | some i => exact le_rfl

/-! ### A push that is paid -/

def wholeNumber (n : ℤ) : JsNumber := ⟨some n, toString n⟩

def noon : Clock := ⟨fun _ => .ofTime 1748779200000⟩

def collectArgs : ProposeStkPushArgs where
  id := some "push-1"
  orgId := "org-1"
  customerId := "customer-1"
  receivableId := none
  caseId := none
  actor := ⟨.human, "collector-1"⟩
  amount := ⟨150000, .KES⟩
  msisdn := "0712345678"
  riskClass := .low
  autonomous := false
  economics := ⟨wholeNumber 1000, wholeNumber 10, wholeNumber 0, wholeNumber 1000, wholeNumber 990,
    ["overdue"]⟩
  accountReference := "INV1"
  transactionDesc := "Invoice 1"

def clearance : PolicyDecision :=
  ⟨.allow, "POLICY_ALLOW", "allowed", [], none, "org-1", wholeNumber 1⟩

def pushed : Command :=
  .initiate ⟨some clearance, none⟩ (fun _ => .accepted "58234-1" "ws_CO_120920251" none) noon

def result (code : ℤ) : StkPushResultCallbackInput where
  checkoutRequestId := "ws_CO_120920251"
  merchantRequestId := "58234-1"
  resultCode := wholeNumber code
  resultDesc := "result"
  receiptNumber := if code = 0 then some "SFF4QWERTY" else none
  paidMinor := if code = 0 then some (.bigint 150000) else none
  msisdn := none

/-- A push that is paid, and the success delivered twice. -/
theorem attempt_lifecycle_paid :
    ∃ proposal, proposeStkPush collectArgs noon = .ok proposal ∧
      let books := run step (Books.propose proposal [])
        [pushed, .callback (result 0) noon, .callback (result 0) noon]
      books.attempt.state = .reconciled ∧ books.initiations ≤ 1 ∧
        ∃ p ∈ books.payments, p.state = .confirmed ∧ p.confirmedMinor = some ⟨150000, .KES⟩ := by
  have hrun : (proposeStkPush collectArgs noon).toOption.map (fun proposal =>
      (run step (Books.propose proposal [])
        [pushed, .callback (result 0) noon, .callback (result 0) noon]).attempt.state) =
      some .reconciled := by decide +kernel
  obtain ⟨proposal, hproposal, hstate⟩ := map_toOption_eq_some.mp hrun
  obtain ⟨-, hreconciled, -, honce⟩ := attempt_lifecycle collectArgs noon proposal hproposal []
    [pushed, .callback (result 0) noon, .callback (result 0) noon] []
  obtain ⟨i, p, hp, -, -, -, hconfirmed, hminor, hamount⟩ := hreconciled hstate
  exact ⟨proposal, hproposal, hstate, honce, p, hp, hconfirmed,
    hminor.trans (congrArg some hamount)⟩

end Fuatilia.Stk
