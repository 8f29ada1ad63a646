import Fuatilia.Foundations.Machine
import Fuatilia.Communications.Conversation

/-!
# Automated sends and the consent trail

An automated message leaves only under a consent reference whose last appended fact is a grant. The
operations that append facts find the current fact by its stamp instead.

## Main definitions

* `sendAutomatedMessage`, `trailStep` — a guarded send, and the commands on a conversation.
* `TrailLaw`, `InOrder` — the law of the trail, and stamps that do not run back.

## Main results

* `Agrees.step` — in order, the fact with the latest stamp is the last one appended.
* `trail_lawful` — the law, in every run in order.
-/

namespace Fuatilia.Communications

open Fallible Machine

/-! ## The guard -/

structure AutomatedSendInput where
  id : Uuid
  bodyRef : String
  templateRef : Option TemplateRef
  linkage : MessageLinkage
  consentRef : Option Uuid

inductive AutomatedSendResult where
  | accepted (conversation : Conversation) (message : Message)
  | blocked (code reason detail : String) (event : CommsEvent)

def blocked (conversation : Conversation) (clock : Clock) (reason detail : String)
    (consentRef : Option Uuid) : Except Thrown AutomatedSendResult := do
  let event ← emit "comms.sendBlockedNoConsent" conversation.id
    (.sendBlockedNoConsent conversation.id (toString conversation.channel) consentRef reason detail)
    (clock.now 0)
  return .blocked "COMMS_SEND_BLOCKED_NO_CONSENT" reason detail event

/-- One round of the loop over the facts: the type of the last fact of the reference, and the stamp
of its last revocation. -/
def lastOf (consentRef : Uuid) (found : Option FactType × Option String) (fact : ConversationFact) :
    Option FactType × Option String :=
  if fact.consentRef ≠ consentRef then found
  else (some fact.type, if fact.type = .consentRevoked then some fact.stamp else found.2)

/-- A send under a reference: it has to be granted, and its last fact not a revocation. -/
def sendUnder (conversation : Conversation) (input : AutomatedSendInput) (consentRef : Uuid)
    (clock : Clock) : Except Thrown AutomatedSendResult :=
  match conversation.facts.find? fun f =>
      f.type = .consentGranted && f.consentRef = consentRef with
  | none => blocked conversation clock "CONSENT_NOT_GRANTED"
      (s!"automated {conversation.channel} send refused: consent {consentRef} was never granted " ++
        s!"on conversation {conversation.id} (no implied consent)") (some consentRef)
  | some _ =>
    let found := conversation.facts.foldl (lastOf consentRef) (none, none)
    if found.1 = some .consentRevoked then
      blocked conversation clock "CONSENT_REVOKED"
        (s!"automated {conversation.channel} send refused: consent {consentRef} was revoked at " ++
          found.2.getD "null" ++ " — all subsequent automated sends are blocked") (some consentRef)
    else do
      let queued ← queueOutboundMessage conversation
        ⟨input.id, input.bodyRef, input.templateRef, input.linkage, some consentRef⟩
      return .accepted queued.conversation queued.message

def sendAutomatedMessage (conversation : Conversation) (input : AutomatedSendInput)
    (clock : Clock) : Except Thrown AutomatedSendResult := do
  throwIf (trim input.bodyRef = "")
    (DomainError "COMMS_BODY_REF_REQUIRED" "a message requires a bodyRef")
  match input.consentRef with
  | none =>
    blocked conversation clock "NO_CONSENT_REF"
      (s!"automated {conversation.channel} send refused: no consentRef supplied (K2 — automated " ++
        "sends require consent)") none
  | some consentRef => sendUnder conversation input consentRef clock

/-! ## Runs -/

inductive TrailCommand where
  | grant (consentRef : Uuid) (clock : Clock)
  | revoke (consentRef : Uuid) (clock : Clock)
  | send (input : AutomatedSendInput) (clock : Clock)

def AutomatedSendResult.conversationOr (before : Conversation) : AutomatedSendResult → Conversation
  | .accepted conversation _ => conversation
  | .blocked .. => before

def trailStep (c : Conversation) : TrailCommand → Option Conversation
  | .grant consentRef clock => (appendConsentGranted c consentRef clock).toOption
  | .revoke consentRef clock => (appendConsentRevoked c consentRef clock).toOption
  | .send input clock => (sendAutomatedMessage c input clock).toOption.map (·.conversationOr c)

def factsOf (c : Conversation) (ref : Uuid) : List ConversationFact :=
  c.facts.filter (·.consentRef = ref)

def lastType (c : Conversation) (ref : Uuid) : Option FactType :=
  (factsOf c ref).getLast?.map (·.type)

/-- Grants and revocations of a reference alternate, starting with a grant. -/
def Alternating (facts : List ConversationFact) : Prop :=
  (facts.map (·.type)).IsChain (· ≠ ·) ∧ ∀ f ∈ facts.head?, f.type = .consentGranted
  deriving Decidable

structure Sendable (c : Conversation) (ref : Uuid) (input : AutomatedSendInput) : Prop where
  body : trim input.bodyRef ≠ ""
  free : ∀ m ∈ c.messages, m.id ≠ input.id
  under : input.consentRef = some ref

def Blocked (c : Conversation) (input : AutomatedSendInput) (clock : Clock) : Prop :=
  ∃ code reason detail event,
    sendAutomatedMessage c input clock = .ok (.blocked code reason detail event)

def Accepted (c : Conversation) (input : AutomatedSendInput) (clock : Clock) : Prop :=
  ∃ c' message, sendAutomatedMessage c input clock = .ok (.accepted c' message)

/-- **The law of the trail** for one reference: its facts alternate; once it has a fact, a send is
refused exactly when the last one is a revocation and goes out exactly when it is a grant; and after
a revocation consent can be given again. -/
structure TrailLaw (c : Conversation) (ref : Uuid) : Prop where
  alternating : Alternating (factsOf c ref)
  sends : ∀ last, lastType c ref = some last → ∀ input clock, Sendable c ref input →
    clock.now 0 ≠ .invalid → (Blocked c input clock ↔ last = .consentRevoked) ∧
      (Accepted c input clock ↔ last = .consentGranted)
  reconsent : lastType c ref = some .consentRevoked → ∀ clock : Clock, clock.now 0 ≠ .invalid →
    ∃ c', appendConsentGranted c ref clock = .ok c'

/-- The stamp is not before the earlier stamps of its reference. -/
def NotBefore (c : Conversation) (ref : Uuid) (now : Date) : Prop :=
  ∀ f ∈ factsOf c ref, ∀ stamp ∈ now.toISOString.toOption, codeUnits f.stamp ≤ codeUnits stamp
  deriving Decidable

/-- The condition: a fact is appended with a stamp that is not before the earlier ones. -/
def InOrder (c : Conversation) : TrailCommand → Prop
  | .grant ref clock | .revoke ref clock => NotBefore c ref (clock.now 0)
  | .send _ _ => True

instance (c : Conversation) (command : TrailCommand) : Decidable (InOrder c command) :=
  match command with
  | .grant ref clock | .revoke ref clock =>
    inferInstanceAs (Decidable (NotBefore c ref (clock.now 0)))
  | .send _ _ => inferInstanceAs (Decidable True)

/-! ## The guard follows the trail -/

variable {clock : Clock} {c c' : Conversation} {input : AutomatedSendInput} {command : TrailCommand}

lemma exists_blocked (c : Conversation) (reason detail : String) (ref : Option Uuid)
    (hclock : clock.now 0 ≠ .invalid) :
    ∃ event, blocked c clock reason detail ref =
      .ok (.blocked "COMMS_SEND_BLOCKED_NO_CONSENT" reason detail event) := by
  obtain ⟨event, hevent⟩ := exists_emit "comms.sendBlockedNoConsent" c.id
    (.sendBlockedNoConsent c.id (toString c.channel) ref reason detail) hclock
  exact ⟨event, bind_eq_ok.mpr ⟨event, hevent, rfl⟩⟩

lemma foldl_lastOf (ref : Uuid) (facts : List ConversationFact)
    (found : Option FactType × Option String) :
    (facts.foldl (lastOf ref) found).1 =
      ((facts.filter (·.consentRef = ref)).getLast?.map (·.type)).or found.1 := by
  induction facts using List.reverseRecOn with
  | nil => simp
  | append_singleton facts f ih =>
    rw [List.foldl_append, List.foldl_cons, List.foldl_nil, lastOf]
    by_cases hf : f.consentRef = ref <;> simp [hf, ih]

variable {ref : Uuid} {r : AutomatedSendResult} {f : ConversationFact}

lemma find_granted_isSome (h : lastType c ref = some .consentGranted) :
    (c.facts.find? fun f => f.type = .consentGranted && f.consentRef = ref).isSome := by
  obtain ⟨f, hf, htype⟩ := Option.map_eq_some_iff.mp h
  have hmem := List.mem_filter.mp (List.mem_of_getLast? hf)
  rw [List.find?_isSome]
  exact ⟨f, hmem.1, by simpa using ⟨htype, of_decide_eq_true hmem.2⟩⟩

lemma sendAutomatedMessage_under (h : Sendable c ref input) (clock : Clock) :
    sendAutomatedMessage c input clock = sendUnder c input ref clock := by
  simp [sendAutomatedMessage, h.under, do_eq, h.body]

lemma blocked_of_revoked (hinput : Sendable c ref input)
    (hclock : clock.now 0 ≠ .invalid) (hlast : lastType c ref = some .consentRevoked) :
    Blocked c input clock := by
  rw [Blocked, sendAutomatedMessage_under hinput]
  unfold sendUnder
  split
  · exact ⟨_, _, _, exists_blocked c _ _ _ hclock⟩
  · have hfound : (c.facts.foldl (lastOf ref) (none, none)).1 = some .consentRevoked := by
      rw [foldl_lastOf]
      exact (Option.or_none).trans hlast
    simp only [hfound, if_true]
    exact ⟨_, _, _, exists_blocked c _ _ _ hclock⟩

lemma accepted_of_granted (hinput : Sendable c ref input)
    (hlast : lastType c ref = some .consentGranted) : Accepted c input clock := by
  rw [Accepted, sendAutomatedMessage_under hinput]
  unfold sendUnder
  split
  · rename_i hnone
    rw [← Option.not_isSome_iff_eq_none] at hnone
    exact absurd (find_granted_isSome hlast) hnone
  · have hfound : (c.facts.foldl (lastOf ref) (none, none)).1 = some .consentGranted := by
      rw [foldl_lastOf]
      exact (Option.or_none).trans hlast
    have htaken : (c.messages.any (·.id = input.id)) = false := by simpa using hinput.free
    simp [hfound, queueOutboundMessage, assertMessageInput, do_eq, hinput.body, htaken]

/-- **The guard follows the trail**: once a reference has a fact, the last one decides. -/
lemma sendAutomatedMessage_follows_trail {last : FactType}
    (hlast : lastType c ref = some last) (hinput : Sendable c ref input)
    (hclock : clock.now 0 ≠ .invalid) : (Blocked c input clock ↔ last = .consentRevoked) ∧
      (Accepted c input clock ↔ last = .consentGranted) := by
  have hexclusive : ¬ (Blocked c input clock ∧ Accepted c input clock) := by
    rintro ⟨⟨_, _, _, _, hblocked⟩, _, _, haccepted⟩
    cases hblocked.symm.trans haccepted
  cases last with
  | consentGranted =>
    have haccepted : Accepted c input clock := accepted_of_granted hinput hlast
    simpa [haccepted] using hexclusive
  | consentRevoked =>
    have hblocked := blocked_of_revoked hinput hclock hlast
    simpa [hblocked] using hexclusive

/-! ## The trail in order -/

/-- The fact with the latest stamp is the last one appended, for every reference. -/
def Agrees (c : Conversation) : Prop :=
  ∀ ref, latestConsentFact c ref = (factsOf c ref).getLast?

lemma blocked_conversationOr {reason detail : String} {ref : Option Uuid}
    (h : blocked c clock reason detail ref = .ok r) : r.conversationOr c = c := by
  simp only [blocked, ok_iff] at h
  obtain ⟨_, -, rfl⟩ := h
  rfl

lemma sendAutomatedMessage_facts (h : sendAutomatedMessage c input clock = .ok r) :
    (r.conversationOr c).facts = c.facts := by
  rw [sendAutomatedMessage, seq_eq_ok] at h
  obtain ⟨-, h⟩ := h
  split at h
  · rw [blocked_conversationOr h]
  · unfold sendUnder at h
    split at h
    · rw [blocked_conversationOr h]
    · simp only at h
      split_ifs at h
      · rw [blocked_conversationOr h]
      · simp only [queueOutboundMessage, ok_iff] at h
        obtain ⟨_, ⟨_, -, rfl⟩, rfl⟩ := h
        rfl

/-- **What a command does to the trail**: nothing, or it appends a fact of the type that the fact
with the latest stamp allows; in order, its stamp is not before the earlier ones. -/
lemma trailStep_facts (h : trailStep c command = some c') :
    c'.facts = c.facts ∨ ∃ f : ConversationFact, c'.facts = c.facts ++ [f] ∧
      (InOrder c command → ∀ g ∈ factsOf c f.consentRef, codeUnits g.stamp ≤ codeUnits f.stamp) ∧
      ((latestConsentFact c f.consentRef).map (·.type) = some .consentGranted ↔
        f.type = .consentRevoked) := by
  cases command with
  | grant ref clock =>
    obtain ⟨hlatest, stamp, hstamp, rfl⟩ := appendConsentGranted_eq_ok.mp (toOption_eq_some.mp h)
    refine .inr ⟨_, rfl, fun horder g hg => horder g hg stamp (toOption_eq_some.mpr hstamp), ?_⟩
    simpa using hlatest
  | revoke ref clock =>
    obtain ⟨hlatest, stamp, hstamp, rfl⟩ := appendConsentRevoked_eq_ok.mp (toOption_eq_some.mp h)
    refine .inr ⟨_, rfl, fun horder g hg => horder g hg stamp (toOption_eq_some.mpr hstamp), ?_⟩
    simpa using hlatest
  | send input clock =>
    obtain ⟨r, hr, rfl⟩ := map_toOption_eq_some.mp h
    exact .inl (sendAutomatedMessage_facts hr)

lemma factsOf_concat (h : c'.facts = c.facts ++ [f]) (ref : Uuid) :
    factsOf c' ref = if f.consentRef = ref then factsOf c ref ++ [f] else factsOf c ref := by
  by_cases hf : f.consentRef = ref <;> simp [factsOf, h, hf]

lemma Agrees.step (hc : Agrees c) (horder : InOrder c command) (h : trailStep c command = some c') :
    Agrees c' := by
  intro ref
  rcases trailStep_facts h with hsame | ⟨f, hfacts, hstamp, -⟩
  · rw [latestConsentFact, factsOf, hsame]
    exact hc ref
  · have hfold : latestConsentFact c' ref = newerFact ref (latestConsentFact c ref) f := by
      rw [latestConsentFact, hfacts, List.foldl_append]
      rfl
    rw [hfold, factsOf_concat hfacts, newerFact, hc ref]
    by_cases hf : f.consentRef = ref
    · subst hf
      have hnewer : ∀ current ∈ (factsOf c f.consentRef).getLast?,
          ¬ codeUnits f.stamp < codeUnits current.stamp :=
        fun current hcurrent => not_lt.mpr (hstamp horder current (List.mem_of_getLast? hcurrent))
      rw [if_pos ⟨rfl, hnewer⟩, if_pos rfl, List.getLast?_concat]
    · rw [if_neg (fun hboth => hf hboth.1), if_neg hf]

lemma Alternating.concat {facts : List ConversationFact} (hfacts : Alternating facts)
    (hnext : facts.getLast?.map (·.type) = some .consentGranted ↔ f.type = .consentRevoked) :
    Alternating (facts ++ [f]) := by
  obtain ⟨hchain, hhead⟩ := hfacts
  constructor
  · rw [List.map_append, List.isChain_append]
    refine ⟨hchain, List.isChain_singleton _, fun last hlast next hnew => ?_⟩
    obtain rfl : f.type = next := by simpa using hnew
    rw [List.getLast?_map] at hlast
    intro hsame
    rw [hlast, hsame, Option.some.injEq] at hnext
    cases htype : f.type with
    | consentGranted => exact absurd (hnext.mp htype) (by simp [htype])
    | consentRevoked => exact absurd (hnext.mpr htype) (by simp [htype])
  · cases facts with
    | nil =>
      have hgranted : f.type ≠ .consentRevoked := fun hrevoked => by simp [hrevoked] at hnext
      cases htype : f.type with
      | consentGranted => simpa using htype
      | consentRevoked => exact absurd htype hgranted
    | cons g facts => simpa using hhead

structure TrailSound (c : Conversation) : Prop where
  agrees : Agrees c
  alternating : ∀ ref, Alternating (factsOf c ref)

lemma TrailSound.step (hc : TrailSound c) (horder : InOrder c command)
    (h : trailStep c command = some c') : TrailSound c' := by
  refine ⟨hc.agrees.step horder h, fun ref => ?_⟩
  rcases trailStep_facts h with hsame | ⟨f, hfacts, -, hnext⟩
  · rw [factsOf, hsame]
    exact hc.alternating ref
  · rw [factsOf_concat hfacts]
    split_ifs with hf
    · subst hf
      rw [hc.agrees] at hnext
      exact (hc.alternating f.consentRef).concat hnext
    · exact hc.alternating ref

lemma TrailSound.law (hc : TrailSound c) (ref : Uuid) : TrailLaw c ref where
  alternating := hc.alternating ref
  sends _ hlast _ _ hinput hclock := sendAutomatedMessage_follows_trail hlast hinput hclock
  reconsent hlast clock hclock := by
    obtain ⟨stamp, hstamp⟩ := Date.exists_toISOString.mpr hclock
    have hlatest : (latestConsentFact c ref).map (·.type) = some .consentRevoked := by
      rw [hc.agrees]
      exact hlast
    exact ⟨_, appendConsentGranted_eq_ok.mpr ⟨by simp [hlatest], stamp, hstamp, rfl⟩⟩

/-- **The consent trail.** From the start of a conversation, at every point of every run whose
stamps do not run back, the law of the trail holds for every reference. -/
theorem trail_lawful (args : StartConversationArgs) (existing : List Conversation) (clock : Clock)
    (started : ConversationStarted) (h : startConversation args existing clock = .ok started)
    (commands : List TrailCommand)
    (horder : Meets trailStep InOrder started.conversation commands) (k : ℕ) (ref : Uuid) :
    TrailLaw (run trailStep started.conversation (commands.take k)) ref := by
  obtain ⟨-, hfacts⟩ := startConversation_eq_ok h
  have hstart : TrailSound started.conversation := by
    constructor
    · intro ref
      simp [latestConsentFact, factsOf, hfacts]
    · intro ref
      simp [factsOf, hfacts, Alternating]
  have hsound : TrailSound (run trailStep started.conversation (commands.take k)) :=
    invariant_at (fun _ _ _ hC hc hstep => hc.step hC hstep) hstart horder k
  exact hsound.law ref

def thread : Except Thrown ConversationStarted :=
  startConversation ⟨"t1", "o1", "c1", "whatsapp"⟩ [] (pinnedClock (.ofTime 0))

/-- A revocation after its grant by the clock: the law holds, and the customer consents again. -/
theorem trail_lawful_inOrder :
    let commands : List TrailCommand := [.grant "r" (pinnedClock (.ofTime 5)),
      .revoke "r" (pinnedClock (.ofTime 10)), .grant "r" (pinnedClock (.ofTime 10))]
    ∃ started, thread = .ok started ∧ Meets trailStep InOrder started.conversation commands ∧
      (run trailStep started.conversation commands).facts.length = 3 ∧
      TrailLaw (run trailStep started.conversation (commands.take 2)) "r" := by
  intro commands
  have hmade : ∃ started ∈ thread.toOption,
      Meets trailStep InOrder started.conversation commands ∧
        (run trailStep started.conversation commands).facts.length = 3 := by decide +kernel
  obtain ⟨started, hmem, horder, hlength⟩ := hmade
  have hok := toOption_eq_some.mp hmem
  exact ⟨started, hok, horder, hlength, trail_lawful _ _ _ started hok commands horder 2 "r"⟩

/-- A revocation whose stamp is before that of its grant: it can be appended a second time, and the
customer, whose sends are refused, cannot consent again. -/
theorem skewed_revocation :
    ∃ started ∈ thread.toOption,
      let skewed := run trailStep started.conversation [.grant "r" (pinnedClock (.ofTime 10)),
        .revoke "r" (pinnedClock (.ofTime 5)), .revoke "r" (pinnedClock (.ofTime 6))]
      (factsOf skewed "r").map (·.type) = [.consentGranted, .consentRevoked, .consentRevoked] ∧
        ¬ Alternating (factsOf skewed "r") ∧ lastType skewed "r" = some .consentRevoked ∧
        (appendConsentGranted skewed "r" (pinnedClock (.ofTime 20))).toOption = none := by
  decide +kernel

end Fuatilia.Communications
