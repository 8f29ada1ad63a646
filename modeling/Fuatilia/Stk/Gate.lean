import Fuatilia.Consent.Guard
import Fuatilia.Policy.Engine
import Fuatilia.Stk.Runs

/-!
# The gate before a push

The consent guard comes first and refuses without a look at the state of the attempt; the engine's
decision applies to proposed attempts only. The amount of a request is that of the attempt as a
number; a proposed attempt holds one that a number carries without loss.

## Main definitions

* `gateStkPush` — the guard, then the policy engine.

## Main results

* `gate_keeps_history_iff` — when the gate changes the state of a proposed attempt only.
-/

namespace Fuatilia.Stk

open Fallible Consent Policy

structure StkPushGateFacts where
  grants : List ConsentGrant
  ruleSet : PolicyRuleSet
  disputeOpen : Bool
  promisePending : Bool

inductive StkPushGateOutcome where
  | allowed (evaluation : Evaluation)
  | approvalRequired (evaluation : Evaluation)
  | refusedByPolicy (reasonCode detail : String) (evaluation : Evaluation)
  | refusedByConsent (reason : RefusalReason) (detail : String)

inductive GateEvent where
  | stk (event : StkPushEvent)
  | decisionRecorded (event : DecisionRecordedEvent)

structure StkPushGateResult where
  action : StkPushAction
  outcome : StkPushGateOutcome
  events : List GateEvent

def buildStkPushActionRequest (action : StkPushAction) (disputeOpen promisePending : Bool) :
    ActionRequest where
  orgId := action.orgId
  customerId := action.customerId
  receivableId := action.receivableId
  caseId := action.caseId
  actor := action.actor
  actionType := STK_PUSH_ACTION_TYPE
  amountMinor := some (wholeNumber action.amount.amount)
  currency := some .KES
  riskClass := action.riskClass
  channel := some .sms
  consentPresent := true
  disputeOpen := disputeOpen
  promisePending := promisePending
  autonomous := action.autonomous

def refuseContact (action : StkPushAction) (reason : RefusalReason) (detail : String)
    (clock : Clock) : Except Thrown StkPushGateResult := do
  let iso ← (clock.now 0).toISOString
  let event ← domainEvent "stk.pushRefused" action.actionId
    (.refused action.actionId action.orgId action.customerId action.receivableId action.caseId
      .consent (toString reason) detail iso) (clock.after 1)
  return {
    action := { action with
      state := .refused, refusal := some ⟨.consent, toString reason, detail⟩ }
    outcome := .refusedByConsent reason detail
    events := [.stk event] }

def gateResult (evaluation : Evaluation) (applied : ActionResult) : StkPushGateResult :=
  let recorded := GateEvent.decisionRecorded evaluation.event
  match evaluation.decision.decision with
  | .deny => ⟨applied.action, .refusedByPolicy evaluation.decision.reasonCode
      evaluation.decision.explanation evaluation, recorded :: applied.events.map .stk⟩
  | .requiresApproval =>
    ⟨applied.action, .approvalRequired evaluation, recorded :: applied.events.map .stk⟩
  | .allow => ⟨applied.action, .allowed evaluation, [recorded]⟩

def gateStkPush (action : StkPushAction) (facts : StkPushGateFacts) (clock : Clock) :
    Except Thrown StkPushGateResult := do
  let consent ← assertCanContact facts.grants ⟨action.customerId, .sms, .dunning⟩ clock
  match consent with
  | .refused reason detail => refuseContact action reason detail (clock.after 1)
  | .allowed _ =>
    let evaluation ← evaluate
      (buildStkPushActionRequest action facts.disputeOpen facts.promisePending) facts.ruleSet
      (clock.after 1)
    let applied ← applyStkPolicyDecision action evaluation.decision (clock.after 2)
    return gateResult evaluation applied

/-! ## What the gate does -/

lemma refuseContact_cases (action : StkPushAction) (reason : RefusalReason) (detail : String)
    (clock : Clock) :
    (clock.now 0 ≠ .invalid ∧ clock.now 1 ≠ .invalid ∧
      ∃ result, refuseContact action reason detail clock = .ok result ∧
        result.action.state = .refused) ∨
    ((clock.now 0 = .invalid ∨ clock.now 1 = .invalid) ∧
      ∃ thrown, refuseContact action reason detail clock = .error thrown) := by
  cases hfirst : clock.now 0 with
  | invalid =>
    refine .inr ⟨.inl rfl, ?_⟩
    simp [refuseContact, hfirst, Date.toISOString, do_eq]
  | ofTime now =>
    cases hsecond : clock.now 1 with
    | invalid =>
      refine .inr ⟨.inr rfl, ?_⟩
      simp [refuseContact, hfirst, hsecond, Date.toISOString, domainEvent, assertClockDate, do_eq,
        Clock.after]
    | ofTime later =>
      refine .inl ⟨by simp, by simp, ?_⟩
      simp [refuseContact, hfirst, hsecond, Date.toISOString, domainEvent, assertClockDate, do_eq,
        Clock.after]

lemma gateResult_action (evaluation : Evaluation) (applied : ActionResult) :
    (gateResult evaluation applied).action = applied.action := by
  unfold gateResult
  split <;> rfl

def contactDecision (action : StkPushAction) (facts : StkPushGateFacts) (clock : Clock) :
    Except Thrown ContactDecision :=
  assertCanContact facts.grants ⟨action.customerId, .sms, .dunning⟩ clock

variable {action : StkPushAction} {facts : StkPushGateFacts} {clock : Clock}

lemma gateStkPush_of_allowed {grant : ConsentGrant} {result : StkPushGateResult}
    (hconsent : contactDecision action facts clock = .ok (.allowed grant))
    (h : gateStkPush action facts clock = .ok result) : ∃ evaluation applied,
      evaluate (buildStkPushActionRequest action facts.disputeOpen facts.promisePending)
        facts.ruleSet (clock.after 1) = .ok evaluation ∧
      applyStkPolicyDecision action evaluation.decision (clock.after 2) = .ok applied ∧
      result = gateResult evaluation applied := by
  rw [contactDecision] at hconsent
  rw [gateStkPush, hconsent] at h
  obtain ⟨_, hallowed, h⟩ := bind_eq_ok.mp h
  cases hallowed
  obtain ⟨evaluation, hevaluate, h⟩ := bind_eq_ok.mp h
  obtain ⟨applied, happlied, h⟩ := bind_eq_ok.mp h
  exact ⟨evaluation, applied, hevaluate, happlied, pure_eq_ok.mp h⟩

lemma gateStkPush_of_refused {reason : RefusalReason} {detail : String}
    (hconsent : contactDecision action facts clock = .ok (.refused reason detail)) :
    gateStkPush action facts clock = refuseContact action reason detail (clock.after 1) := by
  rw [contactDecision] at hconsent
  rw [gateStkPush, hconsent]
  rfl

/-- **When the gate respects the state of an attempt.** The gate changes the state of a proposed
attempt only, exactly when the attempt is proposed, or is refused already, or the consent guard does
not refuse the contact, or the clock breaks while the refusal is written.

**Proof sketch.** The engine's decision throws unless the attempt is proposed; the guard overwrites
the state. -/
theorem gate_keeps_history_iff (action : StkPushAction) (facts : StkPushGateFacts) (clock : Clock) :
    (∀ result, gateStkPush action facts clock = .ok result →
      result.action.state ≠ action.state → action.state = .proposed) ↔
    action.state = .proposed ∨ action.state = .refused ∨
      (∀ reason detail, contactDecision action facts clock ≠ .ok (.refused reason detail)) ∨
      clock.now 1 = .invalid ∨ clock.now 2 = .invalid := by
  match hconsent : contactDecision action facts clock with
  | .error thrown =>
    have hthrows : gateStkPush action facts clock = .error thrown := by
      rw [contactDecision] at hconsent
      rw [gateStkPush, hconsent]
      rfl
    simp [hthrows]
  | .ok (.allowed grant) =>
    refine ⟨fun _ => .inr (.inr (.inl (by simp))), fun _ result hresult _ => ?_⟩
    obtain ⟨evaluation, applied, -, happlied, -⟩ := gateStkPush_of_allowed hconsent hresult
    exact (applyStkPolicyDecision_eq_ok happlied).1
  | .ok (.refused reason detail) =>
    rw [gateStkPush_of_refused hconsent]
    rcases refuseContact_cases action reason detail (clock.after 1) with
      ⟨hfirst, hsecond, result, hresult, hstate⟩ | ⟨hbroken, thrown, hthrows⟩
    · have hfirst : clock.now 1 ≠ .invalid := hfirst
      have hsecond : clock.now 2 ≠ .invalid := hsecond
      rw [hresult]
      simp only [Except.ok.injEq, forall_eq', hstate, hfirst, hsecond, or_false, ne_eq]
      constructor
      · intro hkeeps
        by_cases hrefused : action.state = .refused
        · exact .inr (.inl hrefused)
        · exact .inl (hkeeps fun h => hrefused h.symm)
      · rintro (hproposed | hrefused | hnot) hne
        · exact hproposed
        · exact absurd hrefused.symm hne
        · exact absurd rfl (hnot reason detail)
    · have hbroken : clock.now 1 = .invalid ∨ clock.now 2 = .invalid := hbroken
      rw [hthrows]
      exact ⟨fun _ => .inr (.inr (.inr hbroken)), fun _ result hresult _ => (nomatch hresult)⟩

def nothingOnFile : StkPushGateFacts := ⟨[], ⟨"org-1", wholeNumber 1, []⟩, false, false⟩

/-- An attempt is proposed, pushed and paid; then the gate is asked about it again, after the
consent has gone, and the paid attempt is a refused one. -/
theorem gate_refuses_reconciled :
    ∃ proposal, proposeStkPush collectArgs noon = .ok proposal ∧
      let books := Machine.run step (Books.propose proposal []) [pushed, .callback (result 0) noon]
      books.attempt.state = .reconciled ∧
        ∃ gated, gateStkPush books.attempt nothingOnFile noon = .ok gated ∧
          gated.action.state = .refused ∧ gated.action.paymentId = books.attempt.paymentId := by
  have hrun : (proposeStkPush collectArgs noon).toOption.map (fun proposal =>
      let attempt := (Machine.run step (Books.propose proposal [])
        [pushed, .callback (result 0) noon]).attempt
      (attempt.state, (gateStkPush attempt nothingOnFile noon).toOption.map fun gated =>
        (gated.action.state, decide (gated.action.paymentId = attempt.paymentId)))) =
      some (.reconciled, some (.refused, true)) := by decide +kernel
  obtain ⟨proposal, hproposal, hattempt⟩ := map_toOption_eq_some.mp hrun
  obtain ⟨hstate, hgate⟩ := Prod.mk.inj hattempt
  obtain ⟨gated, hgated, hresult⟩ := map_toOption_eq_some.mp hgate
  obtain ⟨hrefused, hpayment⟩ := Prod.mk.inj hresult
  exact ⟨proposal, hproposal, hstate, gated, hgated, hrefused,
    of_decide_eq_true hpayment⟩

end Fuatilia.Stk
