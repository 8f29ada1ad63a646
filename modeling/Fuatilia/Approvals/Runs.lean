import Fuatilia.Foundations.Lists
import Fuatilia.Foundations.Machine
import Fuatilia.Approvals.Request

/-!
# Runs of an approval request

Any actors at any instants submit, approve, reject, expire, cancel and apply a request.

## Main definitions

* `Books`, `step` — a request with its accepted approvals and its facts, and a command on it.
* `Transition`, `Sound` — what a command can do, and the invariant.

## Main results

* `sound_run`, `approval_lifecycle` — the invariant, and the law of approvals, in every run.
-/

namespace Fuatilia.Approvals

open Fallible Machine

/-! ## Runs -/

/-- The request, the accepted approvals with their instants, and the facts so far. -/
structure Books where
  request : ApprovalRequest
  approvals : List (ApproveArgs × Date)
  log : List ApprovalEvent

inductive Command where
  | submit (now : Date)
  | approve (args : ApproveArgs) (now : Date)
  | reject (args : RejectArgs) (now : Date)
  | expire (now : Date)
  | transition (target : ApprovalStatus) (actorId : String) (now : Date)
  | apply (now : Date)

def Command.now : Command → Date
  | .submit now | .approve _ now | .reject _ now | .expire now | .transition _ _ now | .apply now =>
    now

def Books.opened (request : ApprovalRequest) (event : ApprovalEvent) : Books :=
  ⟨request, [], [event]⟩

def Books.record (books : Books) : OperationResult → Books
  | .accepted request events _ => { books with request, log := books.log ++ events }
  | .refused request _ event => { books with request, log := books.log ++ [event] }

def Books.recordApprove (books : Books) (args : ApproveArgs) (now : Date)
    (result : OperationResult) : Books :=
  match result with
  | .accepted .. => { books.record result with approvals := books.approvals ++ [(args, now)] }
  | .refused .. => books.record result

def step (books : Books) : Command → Option Books
  | .submit now => (submitApprovalRequest books.request (pinnedClock now)).toOption.map books.record
  | .approve args now =>
    (approve books.request args (pinnedClock now)).toOption.map (books.recordApprove args now)
  | .reject args now => (reject books.request args (pinnedClock now)).toOption.map books.record
  | .expire now => (expireApprovalRequest books.request (pinnedClock now)).toOption.map books.record
  | .transition target actorId now =>
    (transitionApproval books.request target actorId (pinnedClock now)).toOption.map books.record
  | .apply now => (markApplied books.request (pinnedClock now)).toOption.map books.record

/-! ## What a command can do -/

def OnTime (now limit : Date) : Prop := ∃ t e, now = .ofTime t ∧ limit = .ofTime e ∧ t ≤ e

def decisionOf (required : List String) (approval : ApproveArgs × Date) :
    ApprovalDecisionRecord where
  approverId := approval.1.approverId
  matchedRoles := matchedRoles required approval.1.roleIds
  decidedAt := approval.2

def ApprovalEvent.isApproved (event : ApprovalEvent) : Bool :=
  match event.payload with
  | .approved .. => true
  | _ => false

def ApprovalEvent.isApplied (event : ApprovalEvent) : Bool :=
  match event.payload with
  | .applied .. => true
  | _ => false

structure SameTerms (r r' : ApprovalRequest) : Prop where
  requesterId : r'.requesterId = r.requesterId
  requiredApproverRoles : r'.requiredApproverRoles = r.requiredApproverRoles
  quorum : r'.quorum = r.quorum
  expiresAt : r'.expiresAt = r.expiresAt

/-- The request moved to a state, its decisions and the accepted approvals unchanged, and the facts
were logged. -/
structure Moved (b b' : Books) (state : ApprovalStatus) (events : List ApprovalEvent) : Prop where
  state : b'.request.state = state
  terms : SameTerms b.request b'.request
  decisions : b'.request.decisions = b.request.decisions
  approvals : b'.approvals = b.approvals
  log : b'.log = b.log ++ events

def Neutral (events : List ApprovalEvent) : Prop :=
  ∀ event ∈ events, event.isApproved = false ∧ event.isApplied = false

inductive Transition (now : Date) (b b' : Books) : Prop where
  | submit (hstate : b.request.state = .drafted) (hmoved : Moved b b' .pending [])
  | approve (args : ApproveArgs) (events : List ApprovalEvent) (hstate : b.request.state = .pending)
      (hvalid : ∃ t, now = .ofTime t) (htime : isPast now b.request.expiresAt = false)
      (hother : args.approverId ≠ b.request.requesterId)
      (hroles : matchedRoles b.request.requiredApproverRoles args.roleIds ≠ [])
      (hnew : args.approverId ∉ b.request.decisions.map ApprovalDecisionRecord.approverId)
      (hterms : SameTerms b.request b'.request)
      (hdecisions : b'.request.decisions =
        b.request.decisions ++ [decisionOf b.request.requiredApproverRoles (args, now)])
      (happrovals : b'.approvals = b.approvals ++ [(args, now)]) (hlog : b'.log = b.log ++ events)
      (hcount : if (b'.request.decisions.length : ℤ) < b.request.quorum
        then b'.request.state = .pending ∧ events = []
        else b'.request.state = .approved ∧ events.countP ApprovalEvent.isApproved = 1 ∧
          events.countP ApprovalEvent.isApplied = 0)
  | reject (events : List ApprovalEvent) (hstate : b.request.state = .pending)
      (hvalid : ∃ t, now = .ofTime t) (htime : isPast now b.request.expiresAt = false)
      (hevents : Neutral events) (hmoved : Moved b b' .rejected events)
  | stop (state : ApprovalStatus) (events : List ApprovalEvent)
      (hstate : b.request.state = .pending) (hstop : state = .expired ∨ state = .cancelled)
      (hevents : Neutral events) (hmoved : Moved b b' state events)
  | apply (event : ApprovalEvent) (hstate : b.request.state = .approved)
      (hevent : event.isApplied = true ∧ event.isApproved = false)
      (hmoved : Moved b b' .applied [event])
  | keep (event : ApprovalEvent) (hevents : Neutral [event]) (hrequest : b'.request = b.request)
      (happrovals : b'.approvals = b.approvals) (hlog : b'.log = b.log ++ [event])

variable {event : ApprovalEvent} {request : ApprovalRequest}

variable {name code : String} {id : Uuid} {payload : ApprovalPayload} {date : Date} {b : Books}
  {args : OpenApprovalRequestArgs} {input : ApprovalPolicyInput} {clock : Clock}

lemma domainEvent_payload {now : Date} (h : domainEvent name id payload now = .ok event) :
    event.payload = payload := by
  unfold domainEvent at h
  split at h
  · cases h
  · simp only [ok_iff] at h
    obtain ⟨_, -, rfl⟩ := h
    rfl

lemma neutral_singleton {now : Date} (h : domainEvent name id payload now = .ok event)
    (happroved : ApprovalEvent.isApproved { event with payload } = false)
    (happlied : ApprovalEvent.isApplied { event with payload } = false) : Neutral [event] := by
  obtain rfl := domainEvent_payload h
  intro e he
  rw [List.mem_singleton.mp he]
  exact ⟨happroved, happlied⟩

lemma assertClockDate_eq_ok {now : Date} (h : assertClockDate now = .ok date) :
    date = now ∧ ∃ t, now = .ofTime t := by
  cases now with
  | invalid => cases h
  | ofTime t => exact ⟨(Except.ok.inj h).symm, t, rfl⟩

lemma refuse_transition {now : Date} {operation : RefusalOperation}
    {attemptedBy : Option String} {detail : String} {result : OperationResult}
    (h : refuse b.request operation attemptedBy code detail date = .ok result) :
    Transition now b (b.record result) := by
  simp only [refuse, ok_iff] at h
  obtain ⟨event, hevent, rfl⟩ := h
  exact .keep event (neutral_singleton hevent rfl rfl) rfl rfl rfl

lemma stateRefusalFor_eq_none {now : Date} (h : stateRefusalFor request now code = .ok none) :
    request.state = .pending ∧ isPast now request.expiresAt = false := by
  unfold stateRefusalFor at h
  split at h
  · next hstate =>
    split at h
    · simp only [ok_iff] at h
      obtain ⟨_, -, hnone⟩ := h
      cases hnone
    · next hpast => exact ⟨hstate, by simpa using hpast⟩
  all_goals simp [pure_eq_ok] at h

section Commands

variable {b : Books} {now : Date} {result : OperationResult}

lemma submit_transition (h : submitApprovalRequest b.request (pinnedClock now) = .ok result) :
    Transition now b (b.record result) := by
  simp only [submitApprovalRequest, bind_eq_ok] at h
  obtain ⟨_, -, h⟩ := h
  split at h
  · next hstate =>
    split at h
    · exact refuse_transition h
    · obtain rfl := pure_eq_ok.mp h
      exact .submit hstate ⟨rfl, ⟨rfl, rfl, rfl, rfl⟩, rfl, rfl, rfl⟩
  all_goals exact refuse_transition h

lemma recordApproval_eq_ok {record : ApprovalDecisionRecord}
    (h : recordApproval request record = .ok result) :
    ∃ request' events, result = .accepted request' events none ∧ SameTerms request request' ∧
      request'.decisions = request.decisions ++ [record] ∧
      if (request'.decisions.length : ℤ) < request.quorum
      then request'.state = request.state ∧ events = []
      else request'.state = .approved ∧ events.countP ApprovalEvent.isApproved = 1 ∧
        events.countP ApprovalEvent.isApplied = 0 := by
  unfold recordApproval at h
  simp only at h
  split at h
  · next hbelow =>
    obtain rfl := pure_eq_ok.mp h
    refine ⟨_, [], rfl, ⟨rfl, rfl, rfl, rfl⟩, rfl, ?_⟩
    rw [if_pos hbelow]
    exact ⟨rfl, rfl⟩
  · next hreached =>
    simp only [ok_iff] at h
    obtain ⟨_, -, quorumMet, hmet, approved, happroved, rfl⟩ := h
    have hmet' := domainEvent_payload hmet
    have happroved' := domainEvent_payload happroved
    refine ⟨_, [quorumMet, approved], rfl, ⟨rfl, rfl, rfl, rfl⟩, rfl, ?_⟩
    rw [if_neg hreached]
    refine ⟨rfl, ?_, ?_⟩
    · simp [ApprovalEvent.isApproved, hmet', happroved']
    · simp [ApprovalEvent.isApplied, hmet', happroved']

lemma approve_transition {args : ApproveArgs}
    (h : approve b.request args (pinnedClock now) = .ok result) :
    Transition now b (b.recordApprove args now result) := by
  have hrefused : ∀ {code detail : String} {date : Date},
      refuse b.request .approve (some args.approverId) code detail date = .ok result →
      Transition now b (b.recordApprove args now result) := by
    intro code detail date hrefuse
    have hkeep : Transition now b (b.record result) := refuse_transition hrefuse
    simp only [refuse, ok_iff] at hrefuse
    obtain ⟨event, -, rfl⟩ := hrefuse
    exact hkeep
  simp only [approve, bind_eq_ok] at h
  obtain ⟨date, hclock, _, -, _, -, refusal, hrefusal, h⟩ := h
  obtain ⟨rfl, hvalid⟩ := assertClockDate_eq_ok hclock
  split at h
  · exact hrefused h
  · obtain ⟨hstate, htime⟩ := stateRefusalFor_eq_none hrefusal
    split at h
    · exact hrefused h
    · next hother =>
      split at h
      · exact hrefused h
      · next hroles =>
        split at h
        · exact hrefused h
        · next hnew =>
          obtain ⟨request', events, rfl, hterms, hdecisions, hcount⟩ := recordApproval_eq_ok h
          rw [hstate] at hcount
          exact .approve args events hstate hvalid htime hother hroles hnew hterms hdecisions rfl
            rfl hcount

lemma reject_transition {args : RejectArgs}
    (h : reject b.request args (pinnedClock now) = .ok result) :
    Transition now b (b.record result) := by
  simp only [reject, bind_eq_ok] at h
  obtain ⟨date, hclock, _, -, _, -, refusal, hrefusal, h⟩ := h
  obtain ⟨rfl, hvalid⟩ := assertClockDate_eq_ok hclock
  split at h
  · exact refuse_transition h
  · obtain ⟨hstate, htime⟩ := stateRefusalFor_eq_none hrefusal
    simp only [ok_iff] at h
    obtain ⟨_, -, event, hevent, rfl⟩ := h
    exact .reject [event] hstate hvalid htime (neutral_singleton hevent rfl rfl)
      ⟨rfl, ⟨rfl, rfl, rfl, rfl⟩, rfl, rfl, rfl⟩

lemma expire_transition (h : expireApprovalRequest b.request (pinnedClock now) = .ok result) :
    Transition now b (b.record result) := by
  simp only [expireApprovalRequest, bind_eq_ok] at h
  obtain ⟨date, -, h⟩ := h
  split at h
  · exact refuse_transition h
  · next hstate =>
    simp only [bind_eq_ok] at h
    obtain ⟨_, -, _, -, h⟩ := h
    split at h
    · exact refuse_transition h
    · simp only [ok_iff] at h
      obtain ⟨event, hevent, rfl⟩ := h
      exact .stop .expired [event] (not_not.mp hstate) (.inl rfl) (neutral_singleton hevent rfl rfl)
        ⟨rfl, ⟨rfl, rfl, rfl, rfl⟩, rfl, rfl, rfl⟩

lemma transition_transition {target : ApprovalStatus} {actorId : String}
    (h : transitionApproval b.request target actorId (pinnedClock now) = .ok result) :
    Transition now b (b.record result) := by
  simp only [transitionApproval, bind_eq_ok] at h
  obtain ⟨_, -, _, -, date, -, refusal, hrefusal, _, -, h⟩ := h
  split at h
  · exact refuse_transition h
  · obtain ⟨hstate, -⟩ := stateRefusalFor_eq_none hrefusal
    split at h
    · exact refuse_transition h
    · simp only [ok_iff] at h
      obtain ⟨_, -, event, hevent, rfl⟩ := h
      exact .stop .cancelled [event] hstate (.inr rfl) (neutral_singleton hevent rfl rfl)
        ⟨rfl, ⟨rfl, rfl, rfl, rfl⟩, rfl, rfl, rfl⟩

lemma apply_transition (h : markApplied b.request (pinnedClock now) = .ok result) :
    Transition now b (b.record result) := by
  simp only [markApplied, bind_eq_ok] at h
  obtain ⟨date, -, h⟩ := h
  split at h
  case h_3 hstate =>
    simp only [ok_iff] at h
    obtain ⟨_, -, event, hevent, _, -, rfl⟩ := h
    refine .apply event hstate ?_ ⟨rfl, ⟨rfl, rfl, rfl, rfl⟩, rfl, rfl, rfl⟩
    rw [ApprovalEvent.isApproved, ApprovalEvent.isApplied, domainEvent_payload hevent]
    exact ⟨rfl, rfl⟩
  all_goals exact refuse_transition h

end Commands

theorem step_transition {b' : Books} {c : Command} (h : step b c = some b') :
    Transition c.now b b' := by
  cases c <;> simp only [step, map_toOption_eq_some] at h <;>
    obtain ⟨result, hresult, rfl⟩ := h
  case submit => exact submit_transition hresult
  case approve => exact approve_transition hresult
  case reject => exact reject_transition hresult
  case expire => exact expire_transition hresult
  case transition => exact transition_transition hresult
  case apply => exact apply_transition hresult

/-! ## The invariant -/

def QuorumIn (count quorum : ℤ) : ApprovalStatus → Prop
  | .drafted => count = 0
  | .pending | .rejected | .expired | .cancelled => count < quorum
  | .approved | .applied => count = quorum

def Announced (approved applied : ℕ) : ApprovalStatus → Prop
  | .approved => approved = 1 ∧ applied = 0
  | .applied => approved = 1 ∧ applied = 1
  | .drafted | .pending | .rejected | .expired | .cancelled => approved = 0 ∧ applied = 0

structure Sound (b : Books) : Prop where
  quorumPos : 1 ≤ b.request.quorum
  expiry : ∃ e, b.request.expiresAt = .ofTime e
  decisions : b.request.decisions = b.approvals.map (decisionOf b.request.requiredApproverRoles)
  distinct : (b.request.decisions.map ApprovalDecisionRecord.approverId).Nodup
  approvers : ∀ a ∈ b.approvals, a.1.approverId ≠ b.request.requesterId ∧
    (∃ role ∈ a.1.roleIds, role ∈ b.request.requiredApproverRoles) ∧ OnTime a.2 b.request.expiresAt
  quorum : QuorumIn b.request.decisions.length b.request.quorum b.request.state
  announced : Announced (b.log.countP ApprovalEvent.isApproved)
    (b.log.countP ApprovalEvent.isApplied) b.request.state

section Invariant

variable {b b' : Books} {now : Date}

variable {events : List ApprovalEvent} {state : ApprovalStatus}

lemma countP_neutral (h : Neutral events) :
    events.countP ApprovalEvent.isApproved = 0 ∧ events.countP ApprovalEvent.isApplied = 0 :=
  ⟨List.countP_eq_zero.mpr fun e he => by simp [(h e he).1],
    List.countP_eq_zero.mpr fun e he => by simp [(h e he).2]⟩

lemma exists_role_of_matchedRoles {required presented : List String}
    (h : matchedRoles required presented ≠ []) : ∃ role ∈ presented, role ∈ required := by
  obtain ⟨role, hrole⟩ := List.exists_mem_of_ne_nil _ h
  rw [matchedRoles, mem_jsSort, List.mem_eraseDups, List.mem_filter] at hrole
  exact ⟨role, of_decide_eq_true hrole.2, hrole.1⟩

lemma onTime_of_not_isPast {limit : Date} (hvalid : ∃ t, now = .ofTime t)
    (hlimit : ∃ e, limit = .ofTime e) (h : isPast now limit = false) : OnTime now limit := by
  obtain ⟨t, rfl⟩ := hvalid
  obtain ⟨e, rfl⟩ := hlimit
  refine ⟨t, e, rfl, rfl, ?_⟩
  simpa [isPast, millisLt, Date.getTime] using h

lemma Sound.moved (h : Sound b) (hmoved : Moved b b' state events)
    (hquorum : QuorumIn b.request.decisions.length b.request.quorum state) (hannounced : Announced
      (b.log.countP ApprovalEvent.isApproved + events.countP ApprovalEvent.isApproved)
      (b.log.countP ApprovalEvent.isApplied + events.countP ApprovalEvent.isApplied) state) :
    Sound b' where
  quorumPos := by rw [hmoved.terms.quorum]; exact h.quorumPos
  expiry := by rw [hmoved.terms.expiresAt]; exact h.expiry
  decisions := by
    rw [hmoved.decisions, hmoved.approvals, hmoved.terms.requiredApproverRoles]
    exact h.decisions
  distinct := by rw [hmoved.decisions]; exact h.distinct
  approvers := by
    rw [hmoved.approvals, hmoved.terms.requesterId, hmoved.terms.requiredApproverRoles,
      hmoved.terms.expiresAt]
    exact h.approvers
  quorum := by rw [hmoved.state, hmoved.decisions, hmoved.terms.quorum]; exact hquorum
  announced := by
    rw [hmoved.state, hmoved.log, List.countP_append, List.countP_append]
    exact hannounced

lemma Sound.neutral (h : Sound b) (hmoved : Moved b b' state events) (hevents : Neutral events)
    (hquorum : QuorumIn b.request.decisions.length b.request.quorum state)
    (hannounced : Announced (b.log.countP ApprovalEvent.isApproved)
      (b.log.countP ApprovalEvent.isApplied) state) : Sound b' := by
  obtain ⟨happroved, happlied⟩ := countP_neutral hevents
  refine h.moved hmoved hquorum ?_
  rw [happroved, happlied]
  exact hannounced

theorem sound_step (h : Sound b) (hstep : Transition now b b') : Sound b' := by
  have hquorum := h.quorum
  have hannounced := h.announced
  cases hstep with
  | submit hstate hmoved =>
    rw [hstate] at hquorum hannounced
    refine h.moved hmoved ?_ hannounced
    have := h.quorumPos
    simp only [QuorumIn] at hquorum ⊢
    omega
  | approve args events hstate hvalid htime hother hroles hnew hterms hdecisions happrovals hlog
      hcount =>
    rw [hstate] at hquorum hannounced
    refine ⟨by rw [hterms.quorum]; exact h.quorumPos, by rw [hterms.expiresAt]; exact h.expiry, ?_,
      ?_, ?_, ?_, ?_⟩
    · rw [hdecisions, happrovals, hterms.requiredApproverRoles, List.map_append, ← h.decisions]
      rfl
    · rw [hdecisions]
      exact Lists.nodup_map_concat h.distinct hnew
    · rw [happrovals, hterms.requesterId, hterms.requiredApproverRoles, hterms.expiresAt]
      exact Lists.forall_mem_concat h.approvers ⟨hother, exists_role_of_matchedRoles hroles,
        onTime_of_not_isPast hvalid h.expiry htime⟩
    · -- the count rises by one, and the quorum is reached exactly when it is
      have hlength : (b'.request.decisions.length : ℤ) = b.request.decisions.length + 1 := by
        rw [hdecisions, List.length_append]
        simp
      simp only [QuorumIn] at hquorum
      split at hcount
      · next hbelow =>
        rw [hcount.1, hterms.quorum]
        exact hbelow
      · next hreached =>
        rw [hcount.1, hterms.quorum]
        simp only [QuorumIn]
        omega
    · rw [hlog, List.countP_append, List.countP_append]
      split at hcount
      · rw [hcount.1, hcount.2]
        exact hannounced
      · obtain ⟨hstate', happroved, happlied⟩ := hcount
        rw [hstate', happroved, happlied]
        simp only [Announced] at hannounced ⊢
        omega
  | reject events hstate hvalid htime hevents hmoved =>
    rw [hstate] at hquorum hannounced
    exact h.neutral hmoved hevents hquorum hannounced
  | stop state events hstate hstop hevents hmoved =>
    rw [hstate] at hquorum hannounced
    rcases hstop with rfl | rfl
    · exact h.neutral hmoved hevents hquorum hannounced
    · exact h.neutral hmoved hevents hquorum hannounced
  | apply event hstate hevent hmoved =>
    rw [hstate] at hquorum hannounced
    refine h.moved hmoved hquorum ?_
    rw [List.countP_singleton, List.countP_singleton, hevent.1, hevent.2]
    simp only [Announced] at hannounced ⊢
    simp [hannounced]
  | keep event hevents hrequest happrovals hlog =>
    have hmoved : Moved b b' b.request.state [event] := by
      refine ⟨by rw [hrequest], ?_, by rw [hrequest], happrovals, hlog⟩
      rw [hrequest]
      exact ⟨rfl, rfl, rfl, rfl⟩
    exact h.neutral hmoved hevents hquorum hannounced

lemma decisions_step (hstep : Transition now b b') :
    b.request.decisions <+: b'.request.decisions ∧ SameTerms b.request b'.request := by
  cases hstep with
  | submit _ hmoved | reject _ _ _ _ _ hmoved | stop _ _ _ _ _ hmoved | apply _ _ _ hmoved =>
    exact ⟨hmoved.decisions ▸ List.prefix_rfl, hmoved.terms⟩
  | approve _ _ _ _ _ _ _ _ hterms hdecisions =>
    exact ⟨hdecisions ▸ List.prefix_append _ _, hterms⟩
  | keep _ _ hrequest =>
    rw [hrequest]
    exact ⟨List.prefix_rfl, rfl, rfl, rfl, rfl⟩

def ApprovalStatus.isFinal (state : ApprovalStatus) : Bool := (approvalTransitions state).isEmpty

lemma final_step (hfinal : b.request.state.isFinal = true) (hstep : Transition now b b') :
    b'.request = b.request := by
  cases hstep with
  | submit hstate | approve _ _ hstate | reject _ hstate | stop _ _ hstate | apply _ hstate =>
    rw [hstate] at hfinal; cases hfinal
  | keep _ _ hrequest => exact hrequest

lemma decided_on_time (h : Sound b) (hstep : Transition now b b')
    (hpending : b.request.state = .pending)
    (hdecided : b'.request.state = .approved ∨ b'.request.state = .rejected) :
    OnTime now b.request.expiresAt := by
  cases hstep with
  | submit hstate | apply _ hstate => rw [hstate] at hpending; cases hpending
  | approve _ _ _ hvalid htime | reject _ _ hvalid htime =>
    exact onTime_of_not_isPast hvalid h.expiry htime
  | stop state _ _ hstop _ hmoved =>
    rw [hmoved.state] at hdecided
    rcases hstop with rfl | rfl <;> simp at hdecided
  | keep _ _ hrequest =>
    rw [hrequest, hpending] at hdecided
    simp at hdecided

end Invariant

/-! ## Whole runs -/

lemma openApprovalRequest_eq_ok (h : openApprovalRequest args input clock = .ok (request, event)) :
    ∃ policy, assertApprovalPolicy input = .ok policy ∧ request.quorum = policy.quorum ∧
      request.requiredApproverRoles = policy.requiredApproverRoles ∧
      request.requesterId = args.requesterId ∧
      request.expiresAt = addDays (clock.now 0) policy.ttlDays ∧ request.state = .drafted ∧
      request.decisions = [] ∧ (∃ e, request.expiresAt = .ofTime e) ∧ Neutral [event] := by
  simp only [openApprovalRequest, ok_iff] at h
  obtain ⟨createdAt, hclock, -, -, policy, hpolicy, -, _, -, _, -, _, -, -, -, _, hexpires, _, -, _,
    hevent, heq⟩ := h
  cases heq
  obtain ⟨rfl, -⟩ := assertClockDate_eq_ok hclock
  refine ⟨policy, hpolicy, rfl, rfl, rfl, rfl, rfl, rfl, ?_, ?_⟩
  · change ∃ e, addDays (clock.now 0) policy.ttlDays = .ofTime e
    cases hdate : addDays (clock.now 0) policy.ttlDays with
    | invalid => rw [hdate] at hexpires; cases hexpires
    | ofTime e => exact ⟨e, rfl⟩
  · exact neutral_singleton hevent rfl rfl

lemma sound_opened (h : openApprovalRequest args input clock = .ok (request, event)) :
    Sound (.opened request event) := by
  obtain ⟨policy, hpolicy, hquorum, -, -, -, hstate, hdecisions, hexpiry, hneutral⟩ :=
    openApprovalRequest_eq_ok h
  have hpos := (assertApprovalPolicy_quorum hpolicy).1
  obtain ⟨happroved, happlied⟩ := countP_neutral hneutral
  refine ⟨by rw [← hquorum] at hpos; exact hpos, hexpiry, hdecisions, ?_, by simp [Books.opened],
    ?_, ?_⟩
  · simp [Books.opened, hdecisions]
  · simp [Books.opened, hdecisions, hstate, QuorumIn]
  · simp only [Books.opened, hstate, Announced]
    exact ⟨happroved, happlied⟩

theorem sound_run (h : Sound b) (commands : List Command) : Sound (run step b commands) :=
  run_invariant_all (fun _ _ _ hs hstep => sound_step hs (step_transition hstep)) commands b h

lemma decisions_run (b : Books) (commands : List Command) :
    b.request.decisions <+: (run step b commands).request.decisions ∧
      SameTerms b.request (run step b commands).request := by
  refine run_invariant_all (I := fun s => b.request.decisions <+: s.request.decisions ∧
    SameTerms b.request s.request) (fun s _ s' hs hstep => ?_) commands b
      ⟨List.prefix_rfl, rfl, rfl, rfl, rfl⟩
  obtain ⟨hinitial, hterms⟩ := decisions_step (step_transition hstep)
  exact ⟨hs.1.trans hinitial, hterms.requesterId.trans hs.2.requesterId,
    hterms.requiredApproverRoles.trans hs.2.requiredApproverRoles, hterms.quorum.trans hs.2.quorum,
    hterms.expiresAt.trans hs.2.expiresAt⟩

lemma final_run (hfinal : b.request.state.isFinal = true) (commands : List Command) :
    (run step b commands).request = b.request := by
  refine run_invariant_all (I := fun s => s.request = b.request) (fun s _ s' hs hstep => ?_)
    commands b rfl
  exact (final_step (by rw [hs]; exact hfinal) (step_transition hstep)).trans hs

lemma Sound.approved_iff (h : Sound b) : b.request.state = .approved ∨ b.request.state = .applied ↔
      (b.request.decisions.length : ℤ) = b.request.quorum := by
  have hquorum := h.quorum
  have hpos := h.quorumPos
  cases hs : b.request.state <;> simp only [hs, QuorumIn] at hquorum <;> simp <;> omega

/-- In every run from an opened request: it is approved exactly when as many approvals are recorded
as the quorum asks for, by distinct approvers other than the requester, each with a required role
and on time; decisions are only appended; the request is announced as applied at most once, and only
after it was announced as approved; it leaves pending by a decision only on time; and a final state
is kept.

**Proof sketch.** Each part is a field of `Sound` (`sound_run`) or the step lemma of the same
name. -/
theorem approval_lifecycle (args : OpenApprovalRequestArgs) (input : ApprovalPolicyInput)
    (clock : Clock) (request : ApprovalRequest) (event : ApprovalEvent)
    (hopen : openApprovalRequest args input clock = .ok (request, event))
    (commands later : List Command) :
    let books := run step (.opened request event) commands
    let after := run step (.opened request event) (commands ++ later)
    (∃ policy, assertApprovalPolicy input = .ok policy ∧
      books.request.requiredApproverRoles = policy.requiredApproverRoles ∧
      books.request.requesterId = args.requesterId ∧
      books.request.expiresAt = addDays (clock.now 0) policy.ttlDays ∧
      (books.request.state = .approved ∨ books.request.state = .applied ↔
        (books.request.decisions.length : ℤ) = policy.quorum)) ∧
    (books.request.decisions.map ApprovalDecisionRecord.approverId).Nodup ∧
    books.request.decisions = books.approvals.map (decisionOf books.request.requiredApproverRoles) ∧
    (∀ approval ∈ books.approvals, approval.1.approverId ≠ books.request.requesterId ∧
      (∃ role ∈ approval.1.roleIds, role ∈ books.request.requiredApproverRoles) ∧
      OnTime approval.2 books.request.expiresAt) ∧
    books.request.decisions <+: after.request.decisions ∧
    books.log.countP ApprovalEvent.isApplied ≤ books.log.countP ApprovalEvent.isApproved ∧
    books.log.countP ApprovalEvent.isApproved ≤ 1 ∧
    (books.request.state = .applied ↔ books.log.countP ApprovalEvent.isApplied = 1) ∧
    (∀ c next, step books c = some next → books.request.state = .pending →
      next.request.state = .approved ∨ next.request.state = .rejected →
        OnTime c.now books.request.expiresAt) ∧
    (books.request.state = .rejected ∨ books.request.state = .expired ∨
      books.request.state = .cancelled ∨ books.request.state = .applied →
        after.request = books.request) := by
  intro books after
  have hsound : Sound books := sound_run (sound_opened hopen) commands
  have hafter : after = run step books later := run_append _ _ _
  have hterms : SameTerms request books.request :=
    (decisions_run (.opened request event) commands).2
  obtain ⟨policy, hpolicy, hquorum, hroles, hrequester, hexpires, -, -, -, -⟩ :=
    openApprovalRequest_eq_ok hopen
  have hannounced := hsound.announced
  refine ⟨⟨policy, hpolicy, hterms.requiredApproverRoles.trans hroles,
    hterms.requesterId.trans hrequester, hterms.expiresAt.trans hexpires, ?_⟩, hsound.distinct,
    hsound.decisions, hsound.approvers, ?_, ?_, ?_, ?_, ?_, ?_⟩
  · rw [hsound.approved_iff, hterms.quorum, hquorum]
  · rw [hafter]
    exact (decisions_run books later).1
  · cases hs : books.request.state <;> simp only [hs, Announced] at hannounced <;> omega
  · cases hs : books.request.state <;> simp only [hs, Announced] at hannounced <;> omega
  · cases hs : books.request.state <;> simp only [hs, Announced] at hannounced <;> simp <;> omega
  · intro c next hstep hpending hdecided
    exact decided_on_time hsound (step_transition hstep) hpending hdecided
  · intro hfinal
    rw [hafter]
    refine final_run ?_ later
    rcases hfinal with hs | hs | hs | hs <;> rw [hs] <;> rfl

/-! ## An applied request -/

def wholeNumber (n : ℤ) : JsNumber := ⟨some n, toString n⟩

def refundPolicy : ApprovalPolicyInput where
  policyId := "policy-1"
  orgId := "org-1"
  operationType := "refund"
  threshold := none
  requiredApproverRoles := ["finance", "risk", "audit"]
  quorum := wholeNumber 2
  ttlDays := wholeNumber 7

def refundArgs : OpenApprovalRequestArgs where
  approvalRequestId := "approval-1"
  orgId := "org-1"
  operationType := "refund"
  subjectRefs := ["payment-1"]
  payloadSnapshot := ⟨some (wholeNumber 5000), some "KES", "refund of payment-1"⟩
  requesterId := "maker"

def twoCheckers : List Command :=
  [.submit (.ofTime 1000), .approve ⟨"maker", ["finance"]⟩ (.ofTime 2000),
    .approve ⟨"first", ["finance"]⟩ (.ofTime 3000), .approve ⟨"first", ["risk"]⟩ (.ofTime 4000),
    .approve ⟨"second", ["audit", "risk"]⟩ (.ofTime 604800000), .apply (.ofTime 604800001)]

theorem approval_lifecycle_applied : ∃ request event,
    openApprovalRequest refundArgs refundPolicy (pinnedClock (.ofTime 0)) = .ok (request, event) ∧
    (run step (.opened request event) twoCheckers).request.state = .applied ∧
    (run step (.opened request event) twoCheckers).request.decisions.length = 2 ∧
    (run step (.opened request event) twoCheckers).log.countP ApprovalEvent.isApplied = 1 := by
  have hrun : ((openApprovalRequest refundArgs refundPolicy (pinnedClock (.ofTime 0))).toOption.map
      fun opened =>
        let books := run step (.opened opened.1 opened.2) twoCheckers
        (books.request.state, books.request.decisions.length)) = some (.applied,
        2) := by decide +kernel
  obtain ⟨⟨request, event⟩, hopen, hfacts⟩ := map_toOption_eq_some.mp hrun
  obtain ⟨hstate, hcount⟩ := Prod.mk.inj hfacts
  obtain ⟨-, -, -, -, -, -, -, happlied, -⟩ :=
    approval_lifecycle refundArgs refundPolicy _ request event hopen twoCheckers []
  exact ⟨request, event, hopen, hstate, hcount, happlied.mp hstate⟩

end Fuatilia.Approvals
