import Fuatilia.Stk.Gate

/-!
# Which decision clears an attempt

An attempt that is still proposed goes live on an allow decision that the caller presents. The check
of a clearance compares the organisation and the bounds of the grant: which decision was recorded on
the attempt is left to the caller.

## Main definitions

* `Desk`, `deskStep` — several attempts side by side, and the commands on them.
* `Authorised`, `Careful` — the law of the attempts, and the condition on callers.

## Main results

* `authorised_of_careful` — the law, in every careful run.
* `borrowed_clearance` — a push on the decision about another attempt.
-/

namespace Fuatilia.Stk

open Fallible Machine Consent Policy Payments

/-! ## The desk -/

structure Issued where
  attemptId : Uuid
  evaluation : Evaluation

def PolicyDecision.handle (decision : PolicyDecision) : StkPushPolicyRef :=
  ⟨trim decision.reasonCode, decision.matchedRuleIds, decision.ruleSetVersion⟩

/-- The attempts, the payments that the process knows, the decisions in the order in which they were
issued, and, beside the code's state, which of them was recorded on which attempt. -/
structure Desk where
  attempts : List StkPushAction
  payments : List Payment
  issued : List Issued
  recorded : List (Uuid × ℕ)

/-- The commands of the lane. A decision is given by its number. -/
inductive DeskCommand where
  | propose (args : ProposeStkPushArgs) (clock : Clock)
  | consult (id : Uuid) (facts : StkPushGateFacts) (clock : Clock)
  | decide (id : Uuid) (decision : ℕ) (clock : Clock)
  | gate (id : Uuid) (facts : StkPushGateFacts) (clock : Clock)
  | approve (id : Uuid) (args : ApproveStkPushArgs) (clock : Clock)
  | initiate (id : Uuid) (clearance : Option ℕ) (ttlMs : Option JsNumber) (wire : StkPushWire)
      (clock : Clock)
  | callback (id : Uuid) (raw : StkPushResultCallbackInput) (clock : Clock)
  | expire (id : Uuid) (clock : Clock)

namespace Desk

def find (desk : Desk) (id : Uuid) : Option StkPushAction :=
  desk.attempts.find? fun a => a.actionId = id

def put (desk : Desk) (action : StkPushAction) : Desk :=
  { desk with
    attempts := desk.attempts.map fun a => if a.actionId = action.actionId then action else a }

def recordedOn (desk : Desk) (id : Uuid) : Option ℕ :=
  (desk.recorded.reverse.find? fun entry => entry.1 = id).map Prod.snd

def decisionAt (desk : Desk) (k : ℕ) : Option PolicyDecision :=
  desk.issued[k]?.map fun entry => entry.evaluation.decision

end Desk

def StkPushGateOutcome.evaluation : StkPushGateOutcome → Option Evaluation
  | .allowed evaluation | .approvalRequired evaluation | .refusedByPolicy _ _ evaluation =>
    some evaluation
  | .refusedByConsent _ _ => none

def Desk.recordGate (desk : Desk) (id : Uuid) (result : StkPushGateResult) : Desk :=
  match result.outcome.evaluation with
  | none => desk.put result.action
  | some evaluation =>
    { desk.put result.action with
      issued := desk.issued ++ [⟨id, evaluation⟩]
      recorded := desk.recorded ++ [(id, desk.issued.length)] }

def Desk.recordCallback (desk : Desk) (result : ReconcileStkCallbackResult) : Desk :=
  { desk.put result.attempt with
    payments := if result.duplicate then desk.payments else desk.payments ++ [result.payment] }

def InitiateStkPushResult.attempt : InitiateStkPushResult → StkPushAction
  | .accepted attempt _ | .wireRejected _ attempt _ => attempt

def deskStep (desk : Desk) : DeskCommand → Option Desk
  | .propose args clock => do
    let proposal ← (proposeStkPush args clock).toOption
    if (desk.find proposal.action.actionId).isSome then none
    else some { desk with attempts := desk.attempts ++ [proposal.action] }
  | .consult id facts clock => do
    let action ← desk.find id
    let evaluation ← (evaluate (buildStkPushActionRequest action facts.disputeOpen
      facts.promisePending) facts.ruleSet clock).toOption
    some { desk with issued := desk.issued ++ [⟨id, evaluation⟩] }
  | .decide id decision clock => do
    let action ← desk.find id
    let presented ← desk.decisionAt decision
    let applied ← (applyStkPolicyDecision action presented clock).toOption
    some { desk.put applied.action with recorded := desk.recorded ++ [(id, decision)] }
  | .gate id facts clock => do
    let action ← desk.find id
    let result ← (gateStkPush action facts clock).toOption
    some (desk.recordGate id result)
  | .approve id args clock => do
    let action ← desk.find id
    let approved ← (approveStkPush action args clock).toOption
    some (desk.put approved.action)
  | .initiate id clearance ttlMs wire clock => do
    let action ← desk.find id
    let result ← (initiateStkPush action ⟨clearance.bind desk.decisionAt,
      ttlMs⟩ wire clock).toOption
    some (desk.put result.attempt)
  | .callback id raw clock => do
    let action ← desk.find id
    let result ← (reconcileStkCallback action raw clock desk.payments).toOption
    some (desk.recordCallback result)
  | .expire id clock => do
    let action ← desk.find id
    let expired ← (expireStkPushIfDue action clock).toOption
    some (desk.put expired.action)

/-! ## Authorisation -/

/-- The decision `k` was issued for this attempt, customer and amount, allows, and is the one
recorded on the attempt. -/
structure ClearedBy (desk : Desk) (a : StkPushAction) (k : ℕ) : Prop where
  recorded : desk.recordedOn a.actionId = some k
  entry : ∃ entry, desk.issued[k]? = some entry ∧ entry.attemptId = a.actionId ∧
    entry.evaluation.decision.decision = .allow ∧
    a.policyRef = some entry.evaluation.decision.handle ∧
    entry.evaluation.event.payload.customerId = a.customerId ∧
    entry.evaluation.event.payload.amountMinor = some (wholeNumber a.amount.amount)

/-- If the command takes a proposed attempt live, it does so on the decision recorded on it. -/
def Authorised (desk : Desk) : DeskCommand → Prop
  | .initiate id clearance ttlMs wire clock =>
    ∀ a attempt events, desk.find id = some a → a.state = .proposed →
      initiateStkPush a ⟨clearance.bind desk.decisionAt, ttlMs⟩ wire clock =
        .ok (.accepted attempt events) →
      ∃ k, clearance = some k ∧ ClearedBy desk a k
  | _ => True

/-- A careful caller records decisions only on the attempt that they were issued for, and takes a
proposed attempt live only with a decision issued for it, and only if the engine was asked about it
once. -/
def Careful (desk : Desk) : DeskCommand → Prop
  | .decide id decision _ => ∀ entry ∈ desk.issued[decision]?, entry.attemptId = id
  | .initiate id clearance _ _ _ =>
    ∀ a ∈ desk.find id, a.state = .proposed → a.policyRef ≠ none ∧
      (∀ k ∈ clearance, ∀ entry ∈ desk.issued[k]?, entry.attemptId = id) ∧
      (desk.issued.countP fun entry => entry.attemptId = id) ≤ 1
  | _ => True

instance (desk : Desk) (c : DeskCommand) : Decidable (Careful desk c) :=
  match c with
  | .decide .. => inferInstanceAs (Decidable (∀ _ ∈ _, _))
  | .initiate .. => inferInstanceAs (Decidable (∀ _ ∈ _, _ → _ ∧ _ ∧ _))
  | .propose .. | .consult .. | .gate .. | .approve .. | .callback .. | .expire .. =>
    inferInstanceAs (Decidable True)

/-! ## What the commands keep -/

/-- The attempt is the same in what decisions are about, and the same decision is recorded on it. -/
structure Kept (a a' : StkPushAction) : Prop where
  actionId : a'.actionId = a.actionId
  customerId : a'.customerId = a.customerId
  amount : a'.amount = a.amount
  policyRef : a'.policyRef = a.policyRef

lemma Kept.refl (a : StkPushAction) : Kept a a := ⟨rfl, rfl, rfl, rfl⟩

variable {clock : Clock}

variable {a : StkPushAction} {r : ActionResult} {args : InitiateStkPushArgs} {wire : StkPushWire}

lemma approveStkPush_kept {args : ApproveStkPushArgs}
    (h : approveStkPush a args clock = .ok r) : Kept a r.action := by
  simp only [approveStkPush, ok_iff] at h
  obtain ⟨_, -, _, -, _, -, _, -, _, -, event, -, rfl⟩ := h
  exact ⟨rfl, rfl, rfl, rfl⟩

lemma initiateStkPush_kept
    {r : InitiateStkPushResult} (h : initiateStkPush a args wire clock = .ok r) :
    Kept a r.attempt := by
  obtain ⟨-, ⟨i, event, rfl, -, -⟩ | ⟨reason, event, rfl, -⟩⟩ := initiateStkPush_eq_ok h
  · exact ⟨rfl, rfl, rfl, rfl⟩
  · exact Kept.refl a

lemma expireStkPushIfDue_kept (h : expireStkPushIfDue a clock = .ok r) : Kept a r.action := by
  rcases expireStkPushIfDue_eq_ok h with rfl | ⟨-, date, event, rfl, -⟩
  · exact Kept.refl a
  · exact ⟨rfl, rfl, rfl, rfl⟩

lemma reconcileStkCallback_kept {raw : StkPushResultCallbackInput}
    {existing : List Payment} {r : ReconcileStkCallbackResult}
    (h : reconcileStkCallback a raw clock existing = .ok r) : Kept a r.attempt := by
  simp only [reconcileStkCallback, bind_eq_ok] at h
  obtain ⟨callback, -, intake, -, h⟩ := h
  split at h
  · obtain rfl := pure_eq_ok.mp h
    exact Kept.refl a
  · obtain ⟨now, -, h⟩ := bind_eq_ok.mp h
    split at h
    · simp only [confirmAttempt, ok_iff] at h
      obtain ⟨_, -, _, -, _, -, _, -, rfl⟩ := h
      exact ⟨rfl, rfl, rfl, rfl⟩
    · simp only [failAttempt, ok_iff] at h
      obtain ⟨_, -, _, -, _, -, rfl⟩ := h
      exact ⟨rfl, rfl, rfl, rfl⟩

lemma refuseContact_kept {reason : RefusalReason} {detail : String}
    {r : StkPushGateResult} (h : refuseContact a reason detail clock = .ok r) :
    Kept a r.action ∧ r.outcome = .refusedByConsent reason detail := by
  simp only [refuseContact, ok_iff] at h
  obtain ⟨_, -, _, -, rfl⟩ := h
  exact ⟨⟨rfl, rfl, rfl, rfl⟩, rfl⟩

lemma assertNonBlank_eq_ok {raw code label value : String} {max : ℕ}
    (h : assertNonBlank raw code label max = .ok value) : value = trim raw := by
  simp only [assertNonBlank, ok_iff] at h
  obtain ⟨_, -, _, -, rfl⟩ := h
  rfl

lemma applyStkPolicyDecision_recorded {decision : PolicyDecision}
    (h : applyStkPolicyDecision a decision clock = .ok r) :
    r.action.actionId = a.actionId ∧ r.action.customerId = a.customerId ∧
      r.action.amount = a.amount ∧ r.action.policyRef = some decision.handle := by
  simp only [applyStkPolicyDecision, ok_iff] at h
  obtain ⟨-, -, reason, hreason, now, -, h⟩ := h
  obtain rfl := assertNonBlank_eq_ok hreason
  split at h
  · simp only [ok_iff] at h
    obtain ⟨_, -, _, -, event, -, rfl⟩ := h
    exact ⟨rfl, rfl, rfl, rfl⟩
  · simp only [ok_iff] at h
    obtain ⟨_, -, event, -, rfl⟩ := h
    exact ⟨rfl, rfl, rfl, rfl⟩
  · obtain rfl := pure_eq_ok.mp h
    exact ⟨rfl, rfl, rfl, rfl⟩

/-- **What the gate does to the desk**: it refuses the contact and obtains no decision, or it
records the decision that it obtains. -/
lemma gateStkPush_cases {facts : StkPushGateFacts} {result : StkPushGateResult}
    (h : gateStkPush a facts clock = .ok result) :
    (result.outcome.evaluation = none ∧ Kept a result.action) ∨ ∃ evaluation applied,
      evaluate (buildStkPushActionRequest a facts.disputeOpen facts.promisePending) facts.ruleSet
        (clock.after 1) = .ok evaluation ∧
      applyStkPolicyDecision a evaluation.decision (clock.after 2) = .ok applied ∧
      result.outcome.evaluation = some evaluation ∧ result.action = applied.action := by
  match hconsent : contactDecision a facts clock with
  | .error thrown =>
    rw [contactDecision] at hconsent
    rw [gateStkPush, hconsent] at h
    cases h
  | .ok (.refused reason detail) =>
    rw [gateStkPush_of_refused hconsent] at h
    obtain ⟨hkept, houtcome⟩ := refuseContact_kept h
    exact .inl ⟨by rw [houtcome]; rfl, hkept⟩
  | .ok (.allowed grant) =>
    obtain ⟨evaluation, applied, hevaluate, happlied, rfl⟩ := gateStkPush_of_allowed hconsent h
    refine .inr ⟨evaluation, applied, hevaluate, happlied, ?_, gateResult_action evaluation applied⟩
    unfold gateResult
    split <;> rfl

lemma proposeStkPush_policyRef {args : ProposeStkPushArgs}
    (h : proposeStkPush args clock = .ok r) : r.action.policyRef = none := by
  simp only [proposeStkPush, ok_iff] at h
  obtain ⟨_, -, _, -, _, -, _, -, _, -, _, -, _, -, _, -, _, -, _, -, _, -, _, -, _, -, event, -,
    rfl⟩ := h
  rfl

lemma initiateStkPush_clearance
    {r : InitiateStkPushResult} (h : initiateStkPush a args wire clock = .ok r)
    (hstate : a.state = .proposed) :
    ∃ decision, args.clearance = some decision ∧ decision.decision = .allow := by
  simp only [initiateStkPush, ok_iff, not_and] at h
  obtain ⟨-, hpresented, _, hclear, -⟩ := h
  cases hclearance : args.clearance with
  | none => exact absurd hclearance (hpresented hstate)
  | some decision =>
    refine ⟨decision, rfl, ?_⟩
    simp only [clearAttempt, hclearance, bind_eq_ok, assertClearance, throwIf_eq_ok,
      not_not] at hclear
    obtain ⟨_, -, _, ⟨_, hallow, -⟩, -⟩ := hclear
    exact hallow

/-! ## The invariant of the desk -/

lemma eq_of_countP_le_one {α : Type} {p : α → Bool} {l : List α} (h : l.countP p ≤ 1) {i j : ℕ}
    {x y : α} (hi : l[i]? = some x) (hj : l[j]? = some y) (hx : p x = true) (hy : p y = true) :
    i = j := by
  induction l generalizing i j with
  | nil => cases hi
  | cons z l ih =>
    have hnone : p z = true → ∀ {k : ℕ} {u : α}, l[k]? = some u → p u = true → False := by
      intro hz k u hk hu
      rw [List.countP_cons_of_pos hz] at h
      have hpos := List.countP_pos_iff.mpr ⟨u, List.mem_of_getElem? hk, hu⟩
      omega
    have hrest : l.countP p ≤ 1 := le_trans ((List.sublist_cons_self z l).countP_le) h
    match i, j with
    | 0, 0 => rfl
    | 0, j + 1 =>
      cases hi
      exact (hnone hx hj hy).elim
    | i + 1, 0 =>
      cases hj
      exact (hnone hy hi hx).elim
    | i + 1, j + 1 => exact congrArg (· + 1) (ih hrest hi hj)

namespace Desk

variable {desk desk' : Desk} {id : Uuid} {a a' : StkPushAction}

/-- Attempts have their own identifiers; decisions were issued for an attempt, its customer and its
amount, and recorded on it; and the handle on an attempt is that of the decision recorded last. -/
structure Sound (desk : Desk) : Prop where
  ids : (desk.attempts.map StkPushAction.actionId).Nodup
  issued : ∀ entry ∈ desk.issued, ∃ a ∈ desk.attempts, a.actionId = entry.attemptId ∧
    entry.evaluation.event.payload.customerId = a.customerId ∧
    entry.evaluation.event.payload.amountMinor = some (wholeNumber a.amount.amount)
  recorded : ∀ r ∈ desk.recorded, ∃ entry, desk.issued[r.2]? = some entry ∧ entry.attemptId = r.1
  refs : ∀ a ∈ desk.attempts, a.policyRef =
    (desk.recordedOn a.actionId).bind fun k => (desk.decisionAt k).map PolicyDecision.handle

lemma of_find (h : desk.find id = some a) : a ∈ desk.attempts ∧ a.actionId = id :=
  Fallible.of_find h

lemma of_recordedOn {k : ℕ} (h : desk.recordedOn id = some k) : (id, k) ∈ desk.recorded := by
  obtain ⟨⟨id', k'⟩, hfind, rfl⟩ := Option.map_eq_some_iff.mp h
  obtain ⟨hmem, rfl⟩ := Fallible.of_find hfind
  exact List.mem_reverse.mp hmem

lemma recordedOn_append (recorded : List (Uuid × ℕ)) (id id' : Uuid) (k : ℕ) :
    (⟨desk.attempts, desk.payments, desk.issued, recorded ++ [(id', k)]⟩ : Desk).recordedOn id =
      if id' = id then some k
      else (⟨desk.attempts, desk.payments, desk.issued, recorded⟩ : Desk).recordedOn id := by
  by_cases hid : id' = id <;> simp [recordedOn, hid]

variable {b : StkPushAction}

lemma mem_put (hb : b ∈ (desk.put a').attempts) :
    b = a' ∨ (b ∈ desk.attempts ∧ b.actionId ≠ a'.actionId) := by
  obtain ⟨b₀, hb₀, rfl⟩ := List.mem_map.mp hb
  by_cases hid : b₀.actionId = a'.actionId
  · exact .inl (if_pos hid)
  · rw [if_neg hid]
    exact .inr ⟨hb₀, hid⟩

lemma nodup_put (h : (desk.attempts.map StkPushAction.actionId).Nodup) (a' : StkPushAction) :
    ((desk.put a').attempts.map StkPushAction.actionId).Nodup := by
  have hids : (desk.put a').attempts.map StkPushAction.actionId =
      desk.attempts.map StkPushAction.actionId := by
    rw [put, List.map_map]
    refine List.map_congr_left fun b _ => ?_
    by_cases hid : b.actionId = a'.actionId <;> simp [hid]
  rw [hids]
  exact h

lemma exists_mem_put (ha : a ∈ desk.attempts) (hid : a'.actionId = a.actionId)
    (hnodup : (desk.attempts.map StkPushAction.actionId).Nodup) (hb : b ∈ desk.attempts) :
    (b = a ∧ a' ∈ (desk.put a').attempts) ∨ b ∈ (desk.put a').attempts := by
  by_cases hbid : b.actionId = a'.actionId
  · obtain rfl := List.inj_on_of_nodup_map hnodup hb ha (hbid.trans hid)
    exact .inl ⟨rfl, List.mem_map.mpr ⟨b, hb, if_pos hbid⟩⟩
  · exact .inr (List.mem_map.mpr ⟨b, hb, if_neg hbid⟩)

namespace Sound

lemma issued_put (h : Sound desk) (ha : a ∈ desk.attempts) (hid : a'.actionId = a.actionId)
    (hcustomer : a'.customerId = a.customerId) (hamount : a'.amount = a.amount) :
    ∀ entry ∈ desk.issued, ∃ b ∈ (desk.put a').attempts, b.actionId = entry.attemptId ∧
      entry.evaluation.event.payload.customerId = b.customerId ∧
      entry.evaluation.event.payload.amountMinor = some (wholeNumber b.amount.amount) := by
  intro entry hentry
  obtain ⟨b, hb, hbid, hbcustomer, hbamount⟩ := h.issued entry hentry
  rcases exists_mem_put ha hid h.ids hb with ⟨rfl, hnew⟩ | hold
  · exact ⟨a', hnew, hid.trans hbid, hbcustomer.trans hcustomer.symm, by rw [hbamount, hamount]⟩
  · exact ⟨b, hold, hbid, hbcustomer, hbamount⟩

lemma put (h : Sound desk) (ha : a ∈ desk.attempts) (hkept : Kept a a') : Sound (desk.put a') where
  ids := nodup_put h.ids a'
  issued := h.issued_put ha hkept.actionId hkept.customerId hkept.amount
  recorded := h.recorded
  refs b hb := by
    rcases mem_put hb with rfl | ⟨hold, -⟩
    · rw [hkept.policyRef, hkept.actionId]
      exact h.refs a ha
    · exact h.refs b hold

lemma issue (h : Sound desk) (ha : a ∈ desk.attempts) {evaluation : Evaluation}
    (hcustomer : evaluation.event.payload.customerId = a.customerId)
    (hamount : evaluation.event.payload.amountMinor = some (wholeNumber a.amount.amount)) :
    Sound { desk with issued := desk.issued ++ [⟨a.actionId, evaluation⟩] } where
  ids := h.ids
  issued := Lists.forall_mem_concat h.issued ⟨a, ha, rfl, hcustomer, hamount⟩
  recorded r hr := by
    obtain ⟨entry, hentry, hid⟩ := h.recorded r hr
    exact ⟨entry, List.getElem?_append_left (List.getElem?_eq_some_iff.mp hentry).1 ▸ hentry, hid⟩
  refs b hb := by
    rw [h.refs b hb]
    -- the decision recorded on the attempt was issued before
    change (desk.recordedOn b.actionId).bind _ = (desk.recordedOn b.actionId).bind _
    cases hrecorded : desk.recordedOn b.actionId with
    | none => rfl
    | some k =>
      obtain ⟨entry, hentry, -⟩ := h.recorded _ (of_recordedOn hrecorded)
      have hlt : k < desk.issued.length := (List.getElem?_eq_some_iff.mp hentry).1
      simp [Option.bind_some, decisionAt, List.getElem?_append_left hlt]

lemma record (h : Sound desk) (ha : a ∈ desk.attempts) {k : ℕ} {entry : Issued}
    (hentry : desk.issued[k]? = some entry) (hfor : entry.attemptId = a.actionId)
    (hid : a'.actionId = a.actionId) (hcustomer : a'.customerId = a.customerId)
    (hamount : a'.amount = a.amount)
    (href : a'.policyRef = some entry.evaluation.decision.handle) :
    Sound { desk.put a' with recorded := desk.recorded ++ [(a.actionId, k)] } where
  ids := nodup_put h.ids a'
  issued := h.issued_put ha hid hcustomer hamount
  recorded := Lists.forall_mem_concat h.recorded ⟨entry, hentry, hfor⟩
  refs b hb := by
    change _ = Option.bind (Desk.recordedOn ⟨_, _, _, _⟩ _) _
    rw [recordedOn_append]
    rcases mem_put hb with rfl | ⟨hold, hne⟩
    · rw [if_pos hid.symm, href]
      simp [decisionAt, Desk.put, hentry]
    · rw [if_neg fun heq => hne (heq.symm.trans hid.symm)]
      exact h.refs b hold

lemma propose (h : Sound desk) (hfresh : desk.find a.actionId = none) (href : a.policyRef = none) :
    Sound { desk with attempts := desk.attempts ++ [a] } where
  ids := by
    refine Lists.nodup_map_concat h.ids fun hid => ?_
    obtain ⟨b, hb, heq⟩ := List.mem_map.mp hid
    have hnot := List.find?_eq_none.mp hfresh b hb
    simp [heq] at hnot
  issued entry hentry := by
    obtain ⟨b, hb, hrest⟩ := h.issued entry hentry
    exact ⟨b, List.mem_append_left _ hb, hrest⟩
  recorded := h.recorded
  refs b hb := by
    rcases Lists.mem_concat hb with hold | rfl
    · exact h.refs b hold
    · rw [href]
      change none = (desk.recordedOn b.actionId).bind _
      cases hrecorded : desk.recordedOn b.actionId with
      | none => rfl
      | some k =>
        -- a decision on it would have been issued for an attempt of that identifier
        obtain ⟨entry, hentry, hfor⟩ := h.recorded _ (of_recordedOn hrecorded)
        obtain ⟨c, hc, hcid, -⟩ := h.issued entry (List.mem_of_getElem? hentry)
        have hnot := List.find?_eq_none.mp hfresh c hc
        simp [hcid, hfor] at hnot

theorem step {c : DeskCommand} (h : Sound desk) (hcareful : Careful desk c)
    (hstep : deskStep desk c = some desk') : Sound desk' := by
  cases c with
  | propose args clock =>
    simp only [deskStep, Option.bind_eq_bind, Option.bind_eq_some_iff] at hstep
    obtain ⟨proposal, hproposal, hstep⟩ := hstep
    split at hstep
    · cases hstep
    · next hfresh =>
      cases hstep
      have href := proposeStkPush_policyRef (toOption_eq_some.mp hproposal)
      exact h.propose (by simpa using hfresh) href
  | consult id facts clock =>
    obtain ⟨a, hfind, evaluation, hevaluate, rfl⟩ := lookup_eq_some.mp hstep
    obtain ⟨ha, rfl⟩ := of_find hfind
    obtain ⟨-, hcustomer, hamount⟩ := evaluate_eq_ok hevaluate
    exact h.issue ha hcustomer hamount
  | decide id k clock =>
    simp only [deskStep, Option.bind_eq_bind, Option.bind_eq_some_iff, Option.some.injEq,
      toOption_eq_some] at hstep
    obtain ⟨a, hfind, decision, hdecision, applied, happlied, rfl⟩ := hstep
    obtain ⟨ha, rfl⟩ := of_find hfind
    obtain ⟨entry, hentry, rfl⟩ := Option.map_eq_some_iff.mp hdecision
    obtain ⟨hid, hcustomer, hamount, href⟩ := applyStkPolicyDecision_recorded happlied
    exact h.record ha hentry (hcareful entry hentry) hid hcustomer hamount href
  | gate id facts clock =>
    obtain ⟨a, hfind, result, hgate, rfl⟩ := lookup_eq_some.mp hstep
    obtain ⟨ha, rfl⟩ := of_find hfind
    rcases gateStkPush_cases hgate with
      ⟨hnone, hkept⟩ | ⟨evaluation, applied, hevaluate, happlied, hsome, haction⟩
    · rw [recordGate, hnone]
      exact h.put ha hkept
    · obtain ⟨-, hcustomer, hamount⟩ := evaluate_eq_ok hevaluate
      obtain ⟨hid, hcustomer', hamount', href⟩ := applyStkPolicyDecision_recorded happlied
      rw [recordGate, hsome, haction]
      exact (h.issue ha hcustomer hamount).record ha List.getElem?_concat_length rfl hid hcustomer'
        hamount' href
  | approve id args clock =>
    obtain ⟨a, hfind, approved, happroved, rfl⟩ := lookup_eq_some.mp hstep
    exact h.put (of_find hfind).1 (approveStkPush_kept happroved)
  | initiate id clearance ttlMs wire clock =>
    obtain ⟨a, hfind, result, hresult, rfl⟩ := lookup_eq_some.mp hstep
    exact h.put (of_find hfind).1 (initiateStkPush_kept hresult)
  | callback id raw clock =>
    obtain ⟨a, hfind, result, hresult, rfl⟩ := lookup_eq_some.mp hstep
    have hput := h.put (of_find hfind).1 (reconcileStkCallback_kept hresult)
    exact ⟨hput.ids, hput.issued, hput.recorded, hput.refs⟩
  | expire id clock =>
    obtain ⟨a, hfind, expired, hexpired, rfl⟩ := lookup_eq_some.mp hstep
    exact h.put (of_find hfind).1 (expireStkPushIfDue_kept hexpired)

end Sound

end Desk

/-! ## Careful callers -/

lemma Desk.Sound.authorised {desk : Desk} (h : desk.Sound) {c : DeskCommand}
    (hcareful : Careful desk c) : Authorised desk c := by
  cases c with
  | initiate id clearance ttlMs wire clock =>
    intro a attempt events hfind hstate haccepted
    obtain ⟨hgoverned, hown, honce⟩ := hcareful a hfind hstate
    obtain ⟨ha, rfl⟩ := Desk.of_find hfind
    obtain ⟨decision, hclearance, hallow⟩ := initiateStkPush_clearance haccepted hstate
    obtain ⟨k, rfl, hdecision⟩ := Option.bind_eq_some_iff.mp hclearance
    obtain ⟨entry, hentry, rfl⟩ := Option.map_eq_some_iff.mp hdecision
    have hfor : entry.attemptId = a.actionId := hown k rfl entry hentry
    -- the decision recorded on the attempt was issued for it too, and only one was
    have href := h.refs a ha
    obtain ⟨k', hrecorded⟩ : ∃ k', desk.recordedOn a.actionId = some k' := by
      cases hrecorded : desk.recordedOn a.actionId with
      | none => exact absurd (href.trans (by rw [hrecorded]; rfl)) hgoverned
      | some k' => exact ⟨k', rfl⟩
    obtain ⟨entry', hentry', hfor'⟩ := h.recorded _ (Desk.of_recordedOn hrecorded)
    have hsame : k' = k := eq_of_countP_le_one honce hentry' hentry (by simpa using hfor')
      (by simpa using hfor)
    subst hsame
    obtain rfl := Option.some.inj (hentry'.symm.trans hentry)
    obtain ⟨b, hb, hbid, hcustomer, hamount⟩ := h.issued entry' (List.mem_of_getElem? hentry)
    obtain rfl := List.inj_on_of_nodup_map h.ids hb ha (hbid.trans hfor)
    refine ⟨k', rfl, hrecorded, entry', hentry, hfor, hallow, ?_, hcustomer, hamount⟩
    rw [href, hrecorded]
    simp [Desk.decisionAt, hentry]
  | propose args clock | consult id facts clock | decide id k clock | gate id facts clock
  | approve id args clock | callback id raw clock | expire id clock => trivial

def Desk.empty (payments : List Payment) : Desk := ⟨[], payments, [], []⟩

lemma Desk.sound_empty (payments : List Payment) : (Desk.empty payments).Sound :=
  ⟨List.nodup_nil, fun _ h => (nomatch h), fun _ h => (nomatch h), fun _ h => (nomatch h)⟩

/-- **Careful callers push with authority.** In every run of careful commands, an attempt goes live
from proposed only on the allow decision that was recorded on it, which was issued for it, for its
customer and for its amount.

**Proof sketch.** The decision recorded on an attempt was issued for it; a careful caller presents
such a one, and there is one only. -/
theorem authorised_of_careful (payments : List Payment) (before after : List DeskCommand)
    (c : DeskCommand) (h : Meets deskStep Careful (Desk.empty payments) (before ++ c :: after)) :
    Authorised (run deskStep (Desk.empty payments) before) c := by
  obtain ⟨hbefore, hcareful, -⟩ := (meets_append _ _ _).mp h
  have hsound := run_invariant (fun _ _ _ hC hI hstep => Desk.Sound.step hI hC hstep) before _
    (Desk.sound_empty payments) hbefore
  exact hsound.authorised hcareful

/-! ### Two attempts of one organisation -/

def otherArgs : ProposeStkPushArgs :=
  { collectArgs with id := some "push-2", customerId := "customer-2", amount := ⟨900000, .KES⟩ }

def supervisedAllowed : StkPushGateFacts where
  grants := [⟨"grant-1", "customer-1", .sms, .dunning, .ofTime 0, none⟩]
  ruleSet := ⟨"org-1", wholeNumber 1, [⟨"default-allow-supervised", 900, none, .allow,
    [⟨.autonomous, .isFalse, none⟩], "POLICY_SUPERVISED_ACTION", "human-supervised action", none⟩]⟩
  disputeOpen := false
  promisePending := false

def firstGated : List DeskCommand :=
  [.propose collectArgs noon, .propose otherArgs noon, .gate "push-1" supervisedAllowed noon]

def pushWithFirst (id : Uuid) : DeskCommand :=
  .initiate id (some 0) none (fun _ => .accepted "58234-1" "ws_CO_120920251" none) noon

/-- The first attempt goes live on its own decision. -/
theorem authorised_of_careful_first :
    Meets deskStep Careful (Desk.empty []) (firstGated ++ [pushWithFirst "push-1"]) ∧
      Authorised (run deskStep (Desk.empty []) firstGated) (pushWithFirst "push-1") ∧
      (((run deskStep (Desk.empty []) (firstGated ++ [pushWithFirst "push-1"])).find "push-1").map
        StkPushAction.state) = some .initiated := by
  have hcareful :
      Meets deskStep Careful (Desk.empty []) (firstGated ++ [pushWithFirst "push-1"]) := by
    decide +kernel
  exact ⟨hcareful, authorised_of_careful [] firstGated [] (pushWithFirst "push-1") hcareful,
    by decide +kernel⟩

/-- **A borrowed clearance.** Nothing is recorded on the second attempt, and its customer has not
consented. It goes live on the decision that was issued for the first attempt. -/
theorem borrowed_clearance :
    ¬ Authorised (run deskStep (Desk.empty []) firstGated) (pushWithFirst "push-2") ∧
      (((run deskStep (Desk.empty []) (firstGated ++ [pushWithFirst "push-2"])).find "push-2").map
        fun a => (a.state, a.customerId, a.amount, a.policyRef)) =
        some (.initiated, "customer-2", ⟨900000, .KES⟩, none) ∧
      (run deskStep (Desk.empty []) firstGated).issued.map (fun entry =>
        (entry.attemptId, entry.evaluation.event.payload.customerId)) =
        [("push-1", "customer-1")] := by
  refine ⟨fun hauthorised => ?_, by decide +kernel, by decide +kernel⟩
  have hrun : ((run deskStep (Desk.empty []) firstGated).find "push-2").map (fun a =>
      (a.actionId, a.state, (initiateStkPush a ⟨(some 0).bind
        (run deskStep (Desk.empty []) firstGated).decisionAt, none⟩
        (fun _ => .accepted "58234-1" "ws_CO_120920251" none) noon).toOption.map fun r =>
          r.attempt.state)) = some ("push-2", .proposed, some .initiated) := by decide +kernel
  obtain ⟨a, hfind, heq⟩ := Option.map_eq_some_iff.mp hrun
  simp only [Prod.mk.injEq] at heq
  obtain ⟨hid, hstate, hpush⟩ := heq
  obtain ⟨r, hr, hlive⟩ := map_toOption_eq_some.mp hpush
  obtain ⟨-, ⟨i, event, rfl, -, -⟩ | ⟨reason, event, rfl, -⟩⟩ := initiateStkPush_eq_ok hr
  · obtain ⟨k, -, hcleared⟩ := hauthorised a _ _ hfind hstate hr
    -- nothing is recorded on the second attempt
    have hrecorded := hcleared.recorded
    rw [hid] at hrecorded
    have hnone : (run deskStep (Desk.empty []) firstGated).recordedOn "push-2" = none := by
      decide +kernel
    rw [hnone] at hrecorded
    cases hrecorded
  · rw [InitiateStkPushResult.attempt, hstate] at hlive
    cases hlive

end Fuatilia.Stk
