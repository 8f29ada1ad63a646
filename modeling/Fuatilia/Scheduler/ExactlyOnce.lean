import Fuatilia.Scheduler.Jobs

/-!
# Every effect of the scheduler happens at most once

Any number of job runs interleave, statement by statement, and may be killed between any two. The
claims of the two jobs and their events are the same list at every moment, and the unique key of the
claims bounds the events.

## Main definitions

* `ExactlyOnce`, `Sound` — the law of the events, and the invariant.

## Main results

* `runDunning_spec`, `runLateFee_spec` — every statement of a job keeps the invariant.
* `exactly_once` — the law, in every interleaving.
-/

namespace Fuatilia.Scheduler

open Jobs Fallible Machine Job.Spec

/-! ## Events and their claims -/

/-- The subject of an event of the two jobs, and the scope and key of its effect. -/
def Payload.effect : Payload → Option (Uuid × String × String)
  | .stepDue p => some (p.subjectID, claimScopeDun, dunningSendKey p.subjectID p.stepKey)
  | .blockedNoConsent p =>
    some (p.subjectID, claimScopeDun, dunningBlockedKey p.subjectID p.stepKey)
  | .lateFeeAccrued p => some (p.receivableID, claimScopeFee, p.receivableID ++ ":" ++ p.periodKey)
  | .other _ _ => none

def OutboxRow.claim (e : OutboxRow) : Option Claim :=
  e.payload.effect.map fun effect => ⟨e.orgID, effect.2.1, effect.2.2, e.eventID⟩

def Claim.isOurs (c : Claim) : Bool := c.scope = claimScopeDun || c.scope = claimScopeFee

def OutboxRow.isStepDue (subjectID : Uuid) (stepKey : String) (e : OutboxRow) : Bool :=
  match e.payload with
  | .stepDue p => p.subjectID = subjectID && p.stepKey = stepKey
  | _ => false

def OutboxRow.isBlocked (subjectID : Uuid) (stepKey : String) (e : OutboxRow) : Bool :=
  match e.payload with
  | .blockedNoConsent p => p.subjectID = subjectID && p.stepKey = stepKey
  | _ => false

def OutboxRow.isLateFee (receivableID : Uuid) (month : ℤ × ℕ) (e : OutboxRow) : Bool :=
  match e.payload with
  | .lateFeeAccrued p => p.receivableID = receivableID && calendarMonth e.createdAt = month
  | _ => false

def Consultation.Granted (c : Consultation) : Prop :=
  ∃ channel ∈ c.channel.consent, ∃ g ∈ c.grants, g.isActive c.subject channel c.now = true

/-- A send that requires consent rests on a consultation for its subject and channel that found an
active grant. -/
def Consented (evaluations : List (ℕ × Consultation)) (e : OutboxRow) : Prop :=
  ∀ p, e.payload = .stepDue p → p.requiresConsent = true →
    ∃ c, (e.eventID, c) ∈ evaluations ∧ c.subject.receivableID = p.subjectID ∧
      c.subject.orgID = e.orgID ∧ c.channel = p.channel ∧ c.Granted

/-- Every effect happens at most once, with its claim, and no send lacks a consent it requires. -/
structure ExactlyOnce (w : World) : Prop where
  stepDue : ∀ subjectID stepKey, (w.db.outbox.filter (·.isStepDue subjectID stepKey)).length ≤ 1
  blocked : ∀ subjectID stepKey, (w.db.outbox.filter (·.isBlocked subjectID stepKey)).length ≤ 1
  lateFee : ∀ receivableID month, (w.db.outbox.filter (·.isLateFee receivableID month)).length ≤ 1
  claims : ∀ c : Claim, c ∈ w.db.claims ∧ c.isOurs = true ↔ ∃ e ∈ w.db.outbox, e.claim = some c
  consent : ∀ e ∈ w.db.outbox, Consented w.evaluations e

/-! ## The invariant -/

def World.Knows (w : World) (id orgID : Uuid) : Prop :=
  ∃ r ∈ w.db.receivables, r.id = id ∧ r.orgID = orgID

/-- The claims of the jobs are those of their events, in the same order; every event is about a
receivable of its organisation, and a fee is for the month in which it accrued. -/
structure Sound (w : World) : Prop where
  paired : w.db.claims.filter Claim.isOurs = w.db.outbox.filterMap OutboxRow.claim
  known : ∀ e ∈ w.db.outbox, ∀ effect ∈ e.payload.effect, w.Knows effect.1 e.orgID
  period : ∀ e ∈ w.db.outbox, ∀ p, e.payload = .lateFeeAccrued p →
    p.periodKey = periodKeyFor e.createdAt
  consent : ∀ e ∈ w.db.outbox, Consented w.evaluations e

def Later (w w' : World) : Prop := ∀ id orgID, w.Knows id orgID → w'.Knows id orgID

instance : IsPreorder World Later where
  refl _ _ _ h := h
  trans _ _ _ huv hvw id orgID h := hvw id orgID (huv id orgID h)

variable {w w' : World}

variable {orgID : Uuid} {key scope : String} {payload : Payload} {now : Instant} {stats : Stats}
  {subject : DunningSubject}

variable {id : Uuid} {basis : Option Consultation} {occurredAt : Instant} {channel : Channel}

lemma World.Knows.org_eq {orgID' : Uuid} (h : w.Knows id orgID) (h' : w.Knows id orgID') :
    orgID = orgID' := by
  obtain ⟨r, hr, hid, rfl⟩ := h
  obtain ⟨r', hr', hid', rfl⟩ := h'
  rw [List.inj_on_of_nodup_map w.db.receivableKey hr hr' (hid.trans hid'.symm)]

namespace Sound

lemma pairwise_unique (h : Sound w) : w.db.outbox.Pairwise fun a b =>
    ∀ c, a.claim = some c → ∀ c', b.claim = some c' → c.unique ≠ c'.unique := by
  have hnodup : ((w.db.outbox.filterMap OutboxRow.claim).map Claim.unique).Nodup := by
    rw [← h.paired]
    exact w.db.claimKey.sublist (List.filter_sublist.map _)
  exact List.pairwise_filterMap.mp (List.pairwise_map.mp hnodup)

lemma length_filter_effect (h : Sound w) (effect : Uuid × String × String) (test : OutboxRow → Bool)
    (htest : ∀ e ∈ w.db.outbox, test e = true → e.payload.effect = some effect) :
    (w.db.outbox.filter test).length ≤ 1 := by
  rw [Lists.length_filter_le_one]
  refine h.pairwise_unique.imp_of_mem fun {a b} ha hb hne => ?_
  rintro ⟨hta, htb⟩
  have hea := htest a ha hta
  have heb := htest b hb htb
  have horg : a.orgID = b.orgID := (h.known a ha effect hea).org_eq (h.known b hb effect heb)
  refine hne _ (congrArg _ hea) _ (congrArg _ heb) ?_
  simp [Claim.unique, horg]

theorem exactlyOnce (h : Sound w) : ExactlyOnce w where
  stepDue subjectID stepKey := by
    refine h.length_filter_effect (subjectID, claimScopeDun, dunningSendKey subjectID stepKey) _ ?_
    intro e _ he
    unfold OutboxRow.isStepDue at he
    split at he
    · next p hp =>
      obtain ⟨rfl, rfl⟩ : p.subjectID = subjectID ∧ p.stepKey = stepKey := by simpa using he
      rw [hp, Payload.effect]
    · cases he
  blocked subjectID stepKey := by
    refine h.length_filter_effect (subjectID, claimScopeDun, dunningBlockedKey subjectID stepKey)
      _ ?_
    intro e _ he
    unfold OutboxRow.isBlocked at he
    split at he
    · next p hp =>
      obtain ⟨rfl, rfl⟩ : p.subjectID = subjectID ∧ p.stepKey = stepKey := by simpa using he
      rw [hp, Payload.effect]
    · cases he
  lateFee receivableID month := by
    refine h.length_filter_effect
      (receivableID, claimScopeFee, receivableID ++ ":" ++ monthText month) _ ?_
    intro e hmem he
    unfold OutboxRow.isLateFee at he
    split at he
    · next p hp =>
      obtain ⟨rfl, rfl⟩ : p.receivableID = receivableID ∧ calendarMonth e.createdAt = month := by
        simpa using he
      rw [hp, Payload.effect, h.period e hmem p hp, periodKeyFor]
    · cases he
  claims c := by
    rw [← List.mem_filter, h.paired, List.mem_filterMap]
  consent := h.consent

end Sound

/-! ## Transactions -/

structure Fits (w : World) (orgID : Uuid) (scope key : String) (payload : Payload)
    (occurredAt : Instant) (basis : Option Consultation) : Prop where
  effect : ∃ id, payload.effect = some (id, scope, key) ∧ w.Knows id orgID
  period : ∀ p, payload = .lateFeeAccrued p → p.periodKey = periodKeyFor occurredAt
  consent : ∀ p, payload = .stepDue p → p.requiresConsent = true →
    ∃ c ∈ basis, c.subject.receivableID = p.subjectID ∧ c.subject.orgID = orgID ∧
      c.channel = p.channel ∧ c.Granted

lemma scope_of_effect (h : payload.effect = some (id, scope, key)) :
    scope = claimScopeDun ∨ scope = claimScopeFee := by
  cases payload <;> simp_all [Payload.effect]

lemma Sound.commit (h : Sound w) (hfree : ¬ w.db.Claimed orgID scope key)
    (hfits : Fits w orgID scope key payload occurredAt basis) :
    Sound ⟨w.db.commit orgID scope key payload occurredAt hfree,
      w.evaluations ++ basis.toList.map fun c => (w.db.drawn, c)⟩ := by
  obtain ⟨id, heffect, hknows⟩ := hfits.effect
  have hours : Claim.isOurs ⟨orgID, scope, key, w.db.drawn⟩ = true := by
    simpa [Claim.isOurs] using scope_of_effect heffect
  constructor
  case paired =>
    simp [Db.commit, List.filter_append, List.filterMap_append, h.paired, hours, List.filter_nil,
      List.filterMap_nil, OutboxRow.claim, heffect, Option.map_some]
  case known =>
    intro e he effect heff
    rcases Lists.mem_concat he with hold | rfl
    · exact h.known e hold effect heff
    · obtain rfl : (id, scope, key) = effect := Option.some.inj (heffect.symm.trans heff)
      exact hknows
  case period => exact Lists.forall_mem_concat h.period hfits.period
  case consent =>
    intro e he p hp hrequired
    rcases Lists.mem_concat he with hold | rfl
    · obtain ⟨c, hc, hrest⟩ := h.consent e hold p hp hrequired
      exact ⟨c, List.mem_append_left _ hc, hrest⟩
    · obtain ⟨c, hc, hrest⟩ := hfits.consent p hp hrequired
      refine ⟨c, List.mem_append_right _ (List.mem_map_of_mem ?_), hrest⟩
      exact Option.mem_toList.mpr hc

theorem claimAndEmit_spec
    (hfits : ∀ w', Later w w' → Fits w' orgID scope key payload occurredAt basis) :
    (claimAndEmit orgID scope key payload occurredAt basis).Spec Sound Later (fun _ _ => True)
    w := by
  refine call fun w' hlater hsound => ?_
  by_cases hclaimed : w'.db.Claimed orgID scope key
  · rw [dif_pos hclaimed]
    exact ⟨⟨hsound.paired, hsound.known, hsound.period, hsound.consent⟩, fun _ _ h => h,
      fun _ _ => trivial⟩
  · rw [dif_neg hclaimed]
    exact ⟨hsound.commit hclaimed (hfits w' hlater), fun _ _ h => h, fun _ _ => trivial⟩

/-! ## The dunning job -/

/-- The consultation was for the subject, and a reference that is not blank is that of an active
grant. -/
structure Genuine (subject : DunningSubject) (c : Consultation) : Prop where
  subject_eq : c.subject = subject
  granted : trimSpace c.ref ≠ "" → c.Granted

lemma consentRef_spec :
    (consentRef stats subject channel now).Spec Sound Later
      (fun c _ => Genuine subject c ∧ c.channel = channel) w := by
  refine call fun w' _ hsound => ⟨hsound, refl_of Later w', fun c hc => ?_⟩
  match hchannel : channel.consent with
  | none =>
    simp only [hchannel] at hc
    cases hc
  | some consentChannel =>
    simp only [hchannel] at hc
    obtain rfl := (Except.ok.inj hc).symm
    refine ⟨⟨rfl, fun href => ?_⟩, rfl⟩
    -- a reference that is not blank is the identifier of a selected row
    match hhead : (Scans.select ConsentGrant.order
        (ConsentGrant.isActive subject consentChannel now) 1 w'.db.grants).head? with
    | none =>
      simp only [hhead] at href
      exact absurd rfl href
    | some g =>
      obtain ⟨hmem, hactive⟩ := Scans.of_mem_select (List.mem_of_mem_head? hhead)
      exact ⟨consentChannel, hchannel, g, hmem, hactive⟩

lemma consentFor_spec {consent : List Consultation} (hconsent : ∀ c ∈ consent, Genuine subject c) :
    (consentFor stats subject now consent channel).Spec Sound Later
      (fun result _ => Genuine subject result.1 ∧ result.1.channel = channel ∧
        ∀ c ∈ result.2, Genuine subject c) w := by
  unfold consentFor
  split
  · next c hfind =>
    obtain ⟨hmem, hchannel⟩ := of_find hfind
    exact pure ⟨hconsent c hmem, hchannel, hconsent⟩
  · refine bind consentRef_spec fun c w' _ hc => ?_
    exact pure ⟨hc.1, hc.2, Lists.forall_mem_concat hconsent hc.1⟩

lemma dunningTurn_spec {run : DunningRun} {facts : DunningFacts}
    {state : Progress × List Consultation} {step : DunningStep}
    (hknows : w.Knows subject.receivableID subject.orgID)
    (hfacts : facts.subjectID = subject.receivableID) (hstate : ∀ c ∈ state.2, Genuine subject c) :
    (dunningTurn run subject facts state step).Spec Sound Later
      (fun state _ => ∀ c ∈ state.2, Genuine subject c) w := by
  refine bind (consentFor_spec hstate) ?_
  rintro ⟨c, consent⟩ w₁ hlater ⟨hc, hchannel, hconsent⟩
  have hknows₁ := hlater _ _ hknows
  dsimp only
  split
  · next hallowed =>
    refine bind (claimAndEmit_spec fun w₂ hlater₂ => ?_)
      fun _ _ _ _ => pure hconsent
    refine ⟨⟨subject.receivableID, ?_, hlater₂ _ _ hknows₁⟩, fun p hp => (nomatch hp), ?_⟩
    · rw [dunningSendPayload, Payload.effect, hfacts]
    · intro p hp hrequired
      obtain rfl := (Payload.stepDue.inj hp).symm
      refine ⟨c, rfl, ?_, by rw [hc.subject_eq], hchannel, ?_⟩
      · rw [hc.subject_eq, hfacts]
      · exact hc.granted (evaluateDunningSend_allowed.mp hallowed hrequired)
  · refine bind (claimAndEmit_spec fun w₂ hlater₂ => ?_)
      fun _ _ _ _ => pure hconsent
    refine ⟨⟨subject.receivableID, ?_, hlater₂ _ _ hknows₁⟩, fun p hp => (nomatch hp),
      fun p hp => (nomatch hp)⟩
    rw [dunningBlockedPayload, Payload.effect, hfacts]

lemma dunningSubject_spec {run : DunningRun} {progress : Progress}
    (hknows : w.Knows subject.receivableID subject.orgID) :
    (dunningSubject run progress subject).Spec Sound Later (fun _ _ => True) w := by
  refine bind (Q := fun _ _ => True) (query fun _ _ _ => trivial)
    fun sentKeys w₁ hlater₁ _ => attempt_bind fun due => ?_
  refine bind (Q := fun state _ => ∀ c ∈ state.2, Genuine subject c) ?_
    fun _ _ _ _ => pure trivial
  refine foldlM (fun state step _ w₃ hlater₃ hstate => ?_)
    fun c hc => (nomatch hc)
  exact dunningTurn_spec (hlater₃ _ _ (hlater₁ _ _ hknows)) rfl hstate

theorem runDunning_spec (clock : ℕ → Instant) (ladder : List DunningStep) (batch : ℤ) :
    (runDunning clock ladder batch).Spec Sound Later (fun _ _ => True) w := by
  refine attempt_bind fun _ => attempt_bind fun _ => ?_
  refine bind (Q := fun subjects w => ∀ s ∈ subjects, w.Knows s.receivableID s.orgID)
    (query fun w₃ _ _ => ?_) fun subjects w₃ _ hknown => ?_
  · intro s hs
    obtain ⟨r, hr, rfl⟩ := List.mem_map.mp hs
    exact ⟨r, (Scans.of_mem_select hr).1, rfl, rfl⟩
  · refine bind (Q := fun _ _ => True) ?_
      fun _ _ _ _ => pure trivial
    refine foldlM (fun progress s hs w₄ hlater _ => ?_) trivial
    exact dunningSubject_spec (hlater _ _ (hknown s hs))

/-! ## The late-fee job -/

lemma lateFeeTurn_spec {policy : LateFeePolicy} {row : ReceivableRow}
    (hknows : w.Knows row.id row.orgID) :
    (lateFeeTurn policy now (periodKeyFor now) stats row).Spec Sound Later (fun _ _ => True) w := by
  unfold lateFeeTurn
  split
  · split_ifs <;> trivial
  · trivial
  · next fee event haccrued =>
    obtain ⟨hid, hperiod⟩ := accrueLateFee_accrued haccrued
    have hkey : event.periodKey = periodKeyFor now := hperiod.trans (trimSpace_monthText _)
    refine bind (claimAndEmit_spec fun w₁ hlater => ?_)
      fun claimed _ _ _ => ?_
    · refine ⟨⟨row.id, ?_, hlater _ _ hknows⟩, fun p hp => ?_, fun p hp => (nomatch hp)⟩
      · rw [Payload.effect, hid, hkey]
        rfl
      · exact Payload.lateFeeAccrued.inj hp ▸ hkey
    · split_ifs <;> trivial

theorem runLateFee_spec (clock : ℕ → Instant) (policy : LateFeePolicy) (batch : ℤ) :
    (runLateFee clock policy batch).Spec Sound Later (fun _ _ => True) w := by
  refine attempt_bind fun _ => attempt_bind fun _ => ?_
  refine bind (Q := fun rows w => ∀ r ∈ rows, w.Knows r.id r.orgID)
    (query fun w₃ _ _ r hr => ?_) fun rows w₃ _ hknown => ?_
  · exact ⟨r, (Scans.of_mem_select hr).1, rfl, rfl⟩
  · refine foldlM (fun stats r hr w₄ hlater _ => ?_) trivial
    exact lateFeeTurn_spec (hlater _ _ (hknown r hr))

/-! ## Interleavings -/

lemma Sound.outside (h : Sound w) (change : Outside) :
    Sound { w with db := w.db.outside change } ∧ Later w { w with db := w.db.outside change } := by
  have hlater : Later w { w with db := w.db.outside change } := by
    rintro id orgID ⟨r, hr, rfl, rfl⟩
    cases change with
    | openReceivable row =>
      refine ⟨r, ?_, rfl, rfl⟩
      simp only [Db.outside, Db.openReceivable]
      split_ifs
      · exact hr
      · exact List.mem_append_left _ hr
    | amendReceivable id state overdue appliedMinor =>
      refine ⟨_, List.mem_map_of_mem hr, ?_⟩
      split_ifs <;> simp
    | grantConsent grant | revokeConsent id revokedAt => exact ⟨r, hr, rfl, rfl⟩
  obtain ⟨hclaims, houtbox⟩ : (w.db.outside change).claims = w.db.claims ∧
      (w.db.outside change).outbox = w.db.outbox := by
    cases change with
    | openReceivable row =>
      rw [Db.outside, Db.openReceivable]
      split_ifs <;> exact ⟨rfl, rfl⟩
    | _ => exact ⟨rfl, rfl⟩
  refine ⟨⟨?_, ?_, ?_, ?_⟩, hlater⟩
  · show (w.db.outside change).claims.filter _ = (w.db.outside change).outbox.filterMap _
    rw [hclaims, houtbox, h.paired]
  · intro e he effect heffect
    exact hlater _ _ (h.known e (houtbox ▸ he) effect heffect)
  · exact fun e he => h.period e (houtbox ▸ he)
  · exact fun e he => h.consent e (houtbox ▸ he)

lemma start_spec (request : Request) :
    (start request).Spec Sound Later (fun _ _ => True) w := by
  cases request with
  | dunning clock ladder batch => exact runDunning_spec clock ladder batch
  | lateFee clock policy batch => exact runLateFee_spec clock policy batch
  | outside change =>
    refine call fun w' _ hsound => ?_
    obtain ⟨hsound', hlater⟩ := hsound.outside change
    exact ⟨hsound', hlater, fun _ _ => trivial⟩

structure Untouched (w : World) : Prop where
  claims : ∀ c ∈ w.db.claims, c.isOurs = false
  outbox : ∀ e ∈ w.db.outbox, e.claim = none

lemma Untouched.sound (h : Untouched w) : Sound w := by
  have heffect : ∀ e ∈ w.db.outbox, e.payload.effect = none := by
    intro e he
    simpa [OutboxRow.claim] using h.outbox e he
  constructor
  case paired =>
    rw [List.filter_eq_nil_iff.mpr fun c hc => by simp [h.claims c hc],
      List.filterMap_eq_nil_iff.mpr h.outbox]
  case known => exact fun e he effect heff => (by rw [heffect e he] at heff; cases heff)
  case period => exact fun e he p hp => (by have := heffect e he; rw [hp] at this; cases this)
  case consent => exact fun e he p hp => (by have := heffect e he; rw [hp] at this; cases this)

/-- **Exactly-once effects.** However the statements of any runs of the two jobs interleave with
each other and with other services, and wherever they are killed: a step of a ladder is announced at
most once for a receivable, a refusal at most once, a late fee at most once in a calendar month; a
claim is in the table exactly when its event is; and a step that requires consent is announced only
after a lookup that found an active grant.

**Proof sketch.** Every statement of the jobs keeps `Sound`, provided that receivables stay in the
table with their organisation; only the transaction of a claim writes anything. -/
theorem exactly_once (w : World) (huntouched : Untouched w)
    (events : List (Processes.Event Request)) :
    ExactlyOnce (run (Processes.step scheduler) ⟨w, []⟩ events).world :=
  (invariant_run (fun r _ _ => start_spec r) huntouched.sound events).exactlyOnce

def marchReceivable : ReceivableRow where
  id := "7b1f0c1e-0000-4000-8000-000000000001"
  orgID := "org-a"
  customerID := "customer-a"
  currency := .KES
  dueDate := 20513 * dayNanos
  overdue := true
  originalMinor := 150000
  appliedMinor := 0
  state := .open
  uuid := by decide
  covered := by decide

def marchWorld : World where
  db := { receivables := [marchReceivable], grants := [], claims := [], outbox := [], drawn := 0,
          receivableKey := by decide, claimKey := by decide }
  evaluations := []

/-- Two dunning runs, four days late, that interleave; the first one is killed halfway. -/
def racingRuns : List (Processes.Event Request) :=
  let pass := Request.dunning (fun _ => 20517 * dayNanos) defaultDunningLadder 200
  [.begin pass, .begin pass] ++ (List.replicate 5 [.advance 0, .advance 1]).flatten ++ [.kill 0] ++
    List.replicate 6 (.advance 0)

/-- Three steps are due; each of them takes effect once. -/
theorem exactly_once_racing : Untouched marchWorld ∧
    ExactlyOnce (run (Processes.step scheduler) ⟨marchWorld, []⟩ racingRuns).world ∧
    (run (Processes.step scheduler) ⟨marchWorld, []⟩ racingRuns).world.db.outbox.map
      OutboxRow.eventType =
        ["dunning.stepDue", "dunning.stepDue", "collections.dunningBlockedNoConsent"] := by
  have huntouched : Untouched marchWorld := ⟨fun c hc => (nomatch hc), fun e he => (nomatch he)⟩
  exact ⟨huntouched, exactly_once marchWorld huntouched racingRuns, by decide +kernel⟩

end Fuatilia.Scheduler
