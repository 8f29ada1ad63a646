import Fuatilia.Foundations.Machine
import Fuatilia.Crossborder.Intent

/-!
# Runs of a transfer intent

A run keeps, besides the intent, the quote that was attached to it, the submissions it created and
the facts it emitted, each with the first reading of its command's clock, which is the one compared
with the expiry.

## Main definitions

* `Crossborder.intentStep` — the commands, on the books of an intent.
* `Crossborder.IntentTransition` — what a command can do.
* `Crossborder.IntentSound` — the invariant of the books.

## Main results

* `Crossborder.intentStep_transition`, `Crossborder.intentSound_step` — one command.
* `Crossborder.intent_lifecycle` — whole runs.
* `Crossborder.submit_again_iff` — a submit that is sent again.

## Implementation notes

A clock may tick between its readings, so the stamps of a command can be later than the reading it
compared. A submit is given any list of earlier submissions, complete or not.
-/

namespace Fuatilia.Crossborder

open Fallible Machine

/-! ## Runs -/

/-- The intent, the quote attached to it, the submissions it created and its facts so far, each with
the compared reading of the command that emitted it. -/
structure IntentBooks where
  intent : TransferIntent
  attached : Option FxQuote
  submissions : List SubmissionRecord
  log : List (Date × CrossborderEvent)

inductive IntentCommand where
  | attach (quote : FxQuote) (clock : Clock)
  | authorize (authorizedBy : String) (clock : Clock)
  | submit (cmd : SubmitCommand) (ctx : SubmitContext)
  | settle (ctx : SettleContext)
  | cancel (reason actorId : String) (clock : Clock)
  | fail (reason : String) (clock : Clock)
  | expire (clock : Clock)

def IntentBooks.drafted (draft : IntentResult) : IntentBooks := ⟨draft.intent, none, [], []⟩

def IntentBooks.record (books : IntentBooks) (now : Date) (result : IntentResult) : IntentBooks :=
  { books with intent := result.intent, log := books.log ++ result.events.map (now, ·) }

def IntentBooks.recordSubmit (books : IntentBooks) (now : Date) (result : SubmitResult) :
    IntentBooks :=
  { books with
    intent := result.intent
    submissions := if result.duplicate then books.submissions
      else books.submissions ++ [result.submission]
    log := books.log ++ result.events.map (now, ·) }

def IntentCommand.now : IntentCommand → Date
  | .submit _ ctx => ctx.clock.now 0
  | .settle ctx => ctx.clock.now 0
  | .attach _ clock | .authorize _ clock | .cancel _ _ clock | .fail _ clock | .expire clock =>
    clock.now 0

def intentStep (books : IntentBooks) (command : IntentCommand) : Option IntentBooks :=
  match command with
  | .attach quote clock => (attachQuote books.intent quote clock).toOption.map fun result =>
      { books.record command.now result with attached := some quote }
  | .authorize authorizedBy clock =>
    (authorizeIntent books.intent authorizedBy clock).toOption.map (books.record command.now)
  | .submit cmd ctx =>
    (submitIntent books.intent cmd ctx).toOption.map (books.recordSubmit command.now)
  | .settle ctx => (settleIntent books.intent ctx).toOption.map (books.record command.now)
  | .cancel reason actorId clock =>
    (cancelIntent books.intent reason actorId clock).toOption.map (books.record command.now)
  | .fail reason clock =>
    (failIntent books.intent reason clock).toOption.map (books.record command.now)
  | .expire clock => (expireIfDue books.intent clock).toOption.map (books.record command.now)

/-! ## What a command can do -/

inductive Milestone where
  | authorized
  | submitted
  | settled
  deriving DecidableEq

def IntentPayload.milestone : IntentPayload → Option Milestone
  | .authorized .. => some .authorized
  | .submitted .. => some .submitted
  | .settled .. => some .settled
  | .cancelled .. | .failed .. | .replayObserved .. => none

def IntentPayload.legs : IntentPayload → Option (ℤ × ℤ)
  | .settled _ _ _ _ _ sourceDebitMinor destinationCreditMinor _ _ =>
    some (sourceDebitMinor, destinationCreditMinor)
  | _ => none

def IntentBooks.count (books : IntentBooks) (m : Milestone) : ℕ :=
  books.log.countP fun entry => entry.2.payload.milestone = some m

structure SameTransfer (i i' : TransferIntent) : Prop where
  orgId : i'.orgId = i.orgId
  corridorId : i'.corridorId = i.corridorId
  sourceCurrency : i'.sourceCurrency = i.sourceCurrency
  destinationCurrency : i'.destinationCurrency = i.destinationCurrency
  sourceAmountMinor : i'.sourceAmountMinor = i.sourceAmountMinor

structure Agrees (quote : FxQuote) (intent : TransferIntent) : Prop where
  orgId : quote.orgId = intent.orgId
  corridorId : quote.corridorId = intent.corridorId
  sourceCurrency : quote.sourceCurrency = intent.sourceCurrency
  destinationCurrency : quote.destinationCurrency = intent.destinationCurrency
  sourceAmountMinor : quote.sourceAmountMinor = intent.sourceAmountMinor

/-- Nothing but the status and the stamps of the intent changed, and the events were logged. -/
structure Moved (now : Date) (b b' : IntentBooks) (status : IntentStatus)
    (events : List CrossborderEvent) : Prop where
  status : b'.intent.status = status
  transfer : SameTransfer b.intent b'.intent
  quote : b'.intent.quote = b.intent.quote
  attached : b'.attached = b.attached
  log : b'.log = b.log ++ events.map (now, ·)

def IntentStatus.isFinal (status : IntentStatus) : Bool := (intentTransitions status).isEmpty

inductive IntentTransition (now : Date) (b b' : IntentBooks) : Prop where
  | attach (quote : FxQuote) (hstatus : b.intent.status = .drafted)
      (hagrees : Agrees quote b.intent) (hstatus' : b'.intent.status = .quoted)
      (htransfer : SameTransfer b.intent b'.intent)
      (hquote : b'.intent.quote = some (frozenQuoteOf quote)) (hattached : b'.attached = some quote)
      (hsubmissions : b'.submissions = b.submissions) (hlog : b'.log = b.log)
  | authorize (quote : FrozenQuote) (event : CrossborderEvent) (hstatus : b.intent.status = .quoted)
      (hquote : b.intent.quote = some quote) (hbefore : BeforeExpiry quote.expiresAt now)
      (hevent : event.payload.milestone = some .authorized) (hlegs : event.payload.legs = none)
      (hmoved : Moved now b b' .authorized [event]) (hsubmissions : b'.submissions = b.submissions)
  | submit (quote : FrozenQuote) (event : CrossborderEvent) (submission : SubmissionRecord)
      (hstatus : b.intent.status = .authorized) (hquote : b.intent.quote = some quote)
      (hbefore : BeforeExpiry quote.expiresAt now)
      (hevent : event.payload.milestone = some .submitted) (hlegs : event.payload.legs = none)
      (hmoved : Moved now b b' .submitted [event])
      (hsubmissions : b'.submissions = b.submissions ++ [submission])
  | settle (quote : FrozenQuote) (event : CrossborderEvent) (hstatus : b.intent.status = .submitted)
      (hquote : b.intent.quote = some quote) (hevent : event.payload.milestone = some .settled)
      (hlegs : event.payload.legs = some (quote.sourceDebitMinor, quote.destinationCreditMinor))
      (hmoved : Moved now b b' .settled [event]) (hsubmissions : b'.submissions = b.submissions)
  | stop (status : IntentStatus) (events : List CrossborderEvent)
      (hopen : b.intent.status.isFinal = false)
      (hstatus : status = .cancelled ∨ status = .failed ∨ status = .expired)
      (hevents : ∀ event ∈ events, event.payload.milestone = none ∧ event.payload.legs = none)
      (hmoved : Moved now b b' status events) (hsubmissions : b'.submissions = b.submissions)
  | keep (events : List CrossborderEvent)
      (hevents : ∀ event ∈ events, event.payload.milestone = none ∧ event.payload.legs = none)
      (hintent : b'.intent = b.intent) (hattached : b'.attached = b.attached)
      (hlog : b'.log = b.log ++ events.map (now, ·)) (hsubmissions : b'.submissions = b.submissions)

lemma domainEvent_payload {name : String} {id : Uuid} {payload : IntentPayload} {now : Date}
    {event : CrossborderEvent} (h : domainEvent name id payload now = .ok event) :
    event.payload = payload := by
  simp only [domainEvent, ok_iff] at h
  obtain ⟨_, -, rfl⟩ := h
  rfl

lemma minorToNumber_eq_ok {amount n : ℤ} (h : minorToNumber amount = .ok n) : n = amount := by
  unfold minorToNumber at h
  split at h
  · exact (Except.ok.inj h).symm
  · cases h

lemma frozenQuote_eq_ok {intent : TransferIntent} {consequence : String} {quote : FrozenQuote}
    (h : frozenQuote intent consequence = .ok quote) : intent.quote = some quote := by
  unfold frozenQuote at h
  split at h
  · next hquote => rw [hquote, Except.ok.inj h]
  · cases h

section Commands

variable {b : IntentBooks} {now : Date} {clock : Clock} {result : IntentResult} {reason : String}

lemma attachQuote_transition {quote : FxQuote} (h : attachQuote b.intent quote clock = .ok result) :
    IntentTransition now b { b.record now result with attached := some quote } := by
  simp only [attachQuote, ok_iff, not_not, not_or] at h
  obtain ⟨hstatus, horg, hcorridor, hamount, ⟨hsource, hdest⟩, _, -, _, -, rfl⟩ := h
  refine .attach quote hstatus ⟨horg, hcorridor, hsource, hdest, hamount⟩ rfl ⟨rfl, rfl, rfl, rfl,
    rfl⟩
    rfl rfl rfl ?_
  exact List.append_nil _

lemma authorizeIntent_transition {authorizedBy : String}
    (h : authorizeIntent b.intent authorizedBy clock = .ok result) :
    IntentTransition (clock.now 0) b (b.record (clock.now 0) result) := by
  simp only [authorizeIntent, ok_iff, not_not] at h
  obtain ⟨hstatus, -, quote, hquote, _, husable, _, -, _, -, _, -, _, -, _, -, event, hevent,
    rfl⟩ := h
  have hpayload := domainEvent_payload hevent
  exact .authorize quote event hstatus (frozenQuote_eq_ok hquote)
    (assertQuoteUsable_eq_ok husable) (by rw [hpayload]; rfl) (by rw [hpayload]; rfl)
    ⟨rfl, ⟨rfl, rfl, rfl, rfl, rfl⟩, rfl, rfl, rfl⟩ rfl

lemma submitIntent_transition {cmd : SubmitCommand} {ctx : SubmitContext} {result : SubmitResult}
    (h : submitIntent b.intent cmd ctx = .ok result) :
    IntentTransition (ctx.clock.now 0) b (b.recordSubmit (ctx.clock.now 0) result) := by
  simp only [submitIntent, ok_iff] at h
  obtain ⟨-, h⟩ := h
  split at h
  · -- the key was used: the original submission is returned
    simp only [replaySubmit, ok_iff] at h
    obtain ⟨-, _, -, event, hevent, rfl⟩ := h
    have hpayload := domainEvent_payload hevent
    refine .keep [event] (fun e he => ?_) rfl rfl rfl rfl
    rw [List.mem_singleton.mp he, hpayload]
    exact ⟨rfl, rfl⟩
  · simp only [dispatchSubmit, ok_iff, not_not] at h
    obtain ⟨hstatus, _, -, -, quote, hquote, _, husable, _, -, _, -, _, -, event, hevent, rfl⟩ := h
    have hpayload := domainEvent_payload hevent
    exact .submit quote event _ hstatus (frozenQuote_eq_ok hquote)
      (assertQuoteUsable_eq_ok husable) (by rw [hpayload]; rfl) (by rw [hpayload]; rfl)
      ⟨rfl, ⟨rfl, rfl, rfl, rfl, rfl⟩, rfl, rfl, rfl⟩ rfl

lemma settleIntent_transition {ctx : SettleContext}
    (h : settleIntent b.intent ctx = .ok result) :
    IntentTransition now b (b.record now result) := by
  simp only [settleIntent, ok_iff, not_not] at h
  obtain ⟨hstatus, quote, hquote, _, -, _, -, _, -, _, -, debit, hdebit, credit, hcredit, event,
    hevent, rfl⟩ := h
  have hpayload := domainEvent_payload hevent
  obtain rfl := minorToNumber_eq_ok hdebit
  obtain rfl := minorToNumber_eq_ok hcredit
  exact .settle quote event hstatus (frozenQuote_eq_ok hquote) (by rw [hpayload]; rfl)
    (by rw [hpayload]; rfl) ⟨rfl, ⟨rfl, rfl, rfl, rfl, rfl⟩, rfl, rfl, rfl⟩ rfl

lemma isFinal_of_canTransition {source target : IntentStatus}
    (h : canTransition source target = true) : source.isFinal = false := by
  cases source <;> first | rfl | cases h

lemma cancelIntent_transition {actorId : String}
    (h : cancelIntent b.intent reason actorId clock = .ok result) :
    IntentTransition now b (b.record now result) := by
  simp only [cancelIntent, ok_iff, Bool.not_eq_true, Bool.not_eq_false'] at h
  obtain ⟨hopen, _, -, _, -, _, -, event, hevent, rfl⟩ := h
  have hpayload := domainEvent_payload hevent
  refine .stop .cancelled [event] (isFinal_of_canTransition hopen) (.inl rfl) (fun e he => ?_)
    ⟨rfl, ⟨rfl, rfl, rfl, rfl, rfl⟩, rfl, rfl, rfl⟩ rfl
  rw [List.mem_singleton.mp he, hpayload]
  exact ⟨rfl, rfl⟩

lemma failIntent_transition (h : failIntent b.intent reason clock = .ok result) :
    IntentTransition now b (b.record now result) := by
  simp only [failIntent, ok_iff, Bool.not_eq_true, Bool.not_eq_false'] at h
  obtain ⟨hopen, _, -, _, -, event, hevent, rfl⟩ := h
  have hpayload := domainEvent_payload hevent
  refine .stop .failed [event] (isFinal_of_canTransition hopen) (.inr (.inl rfl)) (fun e he => ?_)
    ⟨rfl, ⟨rfl, rfl, rfl, rfl, rfl⟩, rfl, rfl, rfl⟩ rfl
  rw [List.mem_singleton.mp he, hpayload]
  exact ⟨rfl, rfl⟩

lemma expireIfDue_transition (h : expireIfDue b.intent clock = .ok result) :
    IntentTransition now b (b.record now result) := by
  have hkeep : result = { intent := b.intent, events := [] } →
      IntentTransition now b (b.record now result) := by
    rintro rfl
    exact .keep [] (by simp) rfl rfl rfl rfl
  unfold expireIfDue at h
  split at h
  · exact hkeep (Except.ok.inj h).symm
  · split at h
    · exact hkeep (Except.ok.inj h).symm
    · next hopen =>
      split at h
      · exact hkeep (Except.ok.inj h).symm
      · simp only [ok_iff] at h
        obtain ⟨_, -, rfl⟩ := h
        rw [Bool.not_eq_true, Bool.not_eq_false'] at hopen
        exact .stop .expired [] (isFinal_of_canTransition hopen) (.inr (.inr rfl)) (by simp)
          ⟨rfl, ⟨rfl, rfl, rfl, rfl, rfl⟩, rfl, rfl, rfl⟩ rfl

end Commands

variable {b : IntentBooks}

theorem intentStep_transition {b' : IntentBooks} {c : IntentCommand}
    (h : intentStep b c = some b') : IntentTransition c.now b b' := by
  cases c <;> simp only [intentStep, map_toOption_eq_some] at h <;>
    obtain ⟨result, hresult, rfl⟩ := h
  case attach => exact attachQuote_transition hresult
  case authorize => exact authorizeIntent_transition hresult
  case submit => exact submitIntent_transition hresult
  case settle => exact settleIntent_transition hresult
  case cancel => exact cancelIntent_transition hresult
  case fail => exact failIntent_transition hresult
  case expire => exact expireIfDue_transition hresult

/-! ## The invariant -/

def Progress (authorized submitted settled : ℕ) : IntentStatus → Prop
  | .drafted | .quoted => authorized = 0 ∧ submitted = 0 ∧ settled = 0
  | .authorized => authorized = 1 ∧ submitted = 0 ∧ settled = 0
  | .submitted => authorized = 1 ∧ submitted = 1 ∧ settled = 0
  | .settled => authorized = 1 ∧ submitted = 1 ∧ settled = 1
  | .cancelled | .expired | .failed => authorized ≤ 1 ∧ submitted ≤ authorized ∧ settled = 0

structure IntentSound (b : IntentBooks) : Prop where
  quote : b.intent.quote = b.attached.map frozenQuoteOf
  agrees : ∀ q ∈ b.attached, Agrees q b.intent
  drafted : b.intent.status = .drafted → b.attached = none
  before : ∀ entry ∈ b.log, entry.2.payload.milestone = some .authorized ∨
    entry.2.payload.milestone = some .submitted →
      ∃ q ∈ b.attached, BeforeExpiry q.expiresAt entry.1
  legs : ∀ entry ∈ b.log, ∀ legs, entry.2.payload.legs = some legs →
    ∃ q ∈ b.attached, legs = (q.sourceDebitMinor, q.destinationCreditMinor)
  progress : Progress (b.count .authorized) (b.count .submitted) (b.count .settled) b.intent.status
  submissions : b.submissions.length = b.count .submitted

section Invariant

variable {b b' : IntentBooks} {now : Date}

variable {q : FxQuote} {quote : FrozenQuote} {status : IntentStatus} {event : CrossborderEvent}
  {m : Milestone}

lemma Agrees.of_sameTransfer {i i' : TransferIntent} (h : Agrees q i)
    (hsame : SameTransfer i i') : Agrees q i' :=
  ⟨h.orgId.trans hsame.orgId.symm, h.corridorId.trans hsame.corridorId.symm,
    h.sourceCurrency.trans hsame.sourceCurrency.symm,
    h.destinationCurrency.trans hsame.destinationCurrency.symm,
    h.sourceAmountMinor.trans hsame.sourceAmountMinor.symm⟩

variable {events : List CrossborderEvent}

lemma count_append (hlog : b'.log = b.log ++ events.map (now, ·)) (m : Milestone) :
    b'.count m = b.count m + events.countP fun event => event.payload.milestone = some m := by
  rw [IntentBooks.count, hlog, List.countP_append, List.countP_map]
  rfl

lemma count_neutral (hlog : b'.log = b.log ++ events.map (now, ·))
    (hevents : ∀ event ∈ events, event.payload.milestone = none ∧ event.payload.legs = none)
    (m : Milestone) : b'.count m = b.count m := by
  rw [count_append hlog, List.countP_eq_zero.mpr, Nat.add_zero]
  intro event hevent
  simp [(hevents event hevent).1]

lemma IntentSound.attached_of_quote (h : IntentSound b)
    (hquote : b.intent.quote = some quote) :
    ∃ q, b.attached = some q ∧ quote = frozenQuoteOf q := by
  rw [h.quote, Option.map_eq_some_iff] at hquote
  obtain ⟨q, hq, rfl⟩ := hquote
  exact ⟨q, hq, rfl⟩

lemma IntentSound.moved (h : IntentSound b)
    (hmoved : Moved now b b' status events) (hdrafted : status = .drafted → b.attached = none)
    (hbefore : ∀ event ∈ events, event.payload.milestone = some .authorized ∨
      event.payload.milestone = some .submitted → ∃ q ∈ b.attached, BeforeExpiry q.expiresAt now)
    (hlegs : ∀ event ∈ events, ∀ legs, event.payload.legs = some legs →
      ∃ q ∈ b.attached, legs = (q.sourceDebitMinor, q.destinationCreditMinor))
    (hprogress : Progress (b'.count .authorized) (b'.count .submitted) (b'.count .settled) status)
    (hsubmissions : b'.submissions.length = b'.count .submitted) : IntentSound b' where
  quote := by rw [hmoved.quote, hmoved.attached, h.quote]
  agrees := by
    intro q hq
    rw [hmoved.attached] at hq
    exact (h.agrees q hq).of_sameTransfer hmoved.transfer
  drafted := by rw [hmoved.status, hmoved.attached]; exact hdrafted
  before := by
    rw [hmoved.attached, hmoved.log]
    intro entry hentry hmilestone
    rcases List.mem_append.mp hentry with hold | hnew
    · exact h.before entry hold hmilestone
    · obtain ⟨event, hevent, rfl⟩ := List.mem_map.mp hnew
      exact hbefore event hevent hmilestone
  legs := by
    rw [hmoved.attached, hmoved.log]
    intro entry hentry legs heq
    rcases List.mem_append.mp hentry with hold | hnew
    · exact h.legs entry hold legs heq
    · obtain ⟨event, hevent, rfl⟩ := List.mem_map.mp hnew
      exact hlegs event hevent legs heq
  progress := by rw [hmoved.status]; exact hprogress
  submissions := hsubmissions

lemma count_milestone
    (hlog : b'.log = b.log ++ [event].map (now, ·)) (hevent : event.payload.milestone = some m)
    (m' : Milestone) : b'.count m' = b.count m' + if m = m' then 1 else 0 := by
  rw [count_append hlog, List.countP_singleton, hevent]
  simp

/-- A move past a milestone, under the attached quote. -/
lemma IntentSound.reached (h : IntentSound b) (hquote : b.intent.quote = some quote)
    (hmoved : Moved now b b' status [event]) (hevent : event.payload.milestone = some m)
    (hbefore : m ≠ .settled → BeforeExpiry quote.expiresAt now)
    (hlegs : ∀ legs ∈ event.payload.legs,
      legs = (quote.sourceDebitMinor, quote.destinationCreditMinor))
    (hstep : (b.intent.status, m, status) ∈ [(.quoted, .authorized, .authorized),
      (.authorized, .submitted, .submitted), (.submitted, .settled, .settled)])
    (hsubmissions : b'.submissions.length = b.submissions.length + if m = .submitted then 1 else
    0) : IntentSound b' := by
  obtain ⟨q, hq, rfl⟩ := h.attached_of_quote hquote
  have hcount := count_milestone hmoved.log hevent
  refine h.moved hmoved ?_ ?_ ?_ ?_ (by rw [hsubmissions, h.submissions, hcount])
  · rintro rfl
    simp at hstep
  · intro e he hmilestone
    rw [List.mem_singleton.mp he, hevent] at hmilestone
    exact ⟨q, hq, hbefore (by rintro rfl; simp at hmilestone)⟩
  · intro e he legs heq
    rw [List.mem_singleton.mp he] at heq
    exact ⟨q, hq, hlegs legs heq⟩
  · have hprogress := h.progress
    simp only [List.mem_cons, List.not_mem_nil, or_false, Prod.mk.injEq] at hstep
    rcases hstep with ⟨hstatus, rfl, rfl⟩ | ⟨hstatus, rfl, rfl⟩ | ⟨hstatus, rfl, rfl⟩ <;>
    · rw [hstatus] at hprogress
      simp only [hcount, Progress] at hprogress ⊢
      simp [hprogress]

/-- A move whose events are no milestones. -/
lemma IntentSound.quiet (h : IntentSound b) (hmoved : Moved now b b' status events)
    (hevents : ∀ event ∈ events, event.payload.milestone = none ∧ event.payload.legs = none)
    (hdrafted : status = .drafted → b.attached = none)
    (hprogress : Progress (b.count .authorized) (b.count .submitted) (b.count .settled) status)
    (hsubmissions : b'.submissions = b.submissions) : IntentSound b' := by
  have hcount := count_neutral hmoved.log hevents
  refine h.moved hmoved hdrafted ?_ ?_ (by rwa [hcount, hcount, hcount])
    (by rw [hsubmissions, hcount, h.submissions])
  · intro e he hmilestone
    simp [(hevents e he).1] at hmilestone
  · intro e he legs heq
    simp [(hevents e he).2] at heq

theorem intentSound_step (h : IntentSound b) (hstep : IntentTransition now b b') :
    IntentSound b' := by
  cases hstep with
  | attach quote hstatus hagrees hstatus' htransfer hquote hattached hsubmissions hlog =>
    have hcount : ∀ m, b'.count m = b.count m := fun m => by rw [IntentBooks.count, hlog]; rfl
    have hprogress := h.progress
    rw [hstatus] at hprogress
    -- nothing was authorized, submitted or settled before the quote
    have hnone : ∀ m, b.count m = 0 := by
      intro m
      cases m
      · exact hprogress.1
      · exact hprogress.2.1
      · exact hprogress.2.2
    have hentries : ∀ entry ∈ b.log, entry.2.payload.milestone = none := by
      intro entry hentry
      cases hm : entry.2.payload.milestone with
      | none => rfl
      | some m => simpa [hm] using List.countP_eq_zero.mp (hnone m) entry hentry
    refine ⟨by rw [hquote, hattached]; rfl, ?_, by simp [hstatus'], ?_, ?_, ?_, ?_⟩
    · intro q hq
      obtain rfl : quote = q := by simpa [hattached] using hq
      exact hagrees.of_sameTransfer htransfer
    · rw [hlog]
      intro entry hentry hmilestone
      simp [hentries entry hentry] at hmilestone
    · rw [hlog]
      intro entry hentry legs hlegs
      have := hentries entry hentry
      cases hpayload :
        entry.2.payload <;> simp [hpayload, IntentPayload.legs, IntentPayload.milestone]
        at hlegs this
    · rw [hstatus', hcount, hcount, hcount]
      exact hprogress
    · rw [hsubmissions, hcount]
      exact h.submissions
  | authorize quote event hstatus hquote hbefore hevent hlegs hmoved hsubmissions
  | submit quote event submission hstatus hquote hbefore hevent hlegs hmoved hsubmissions =>
    exact h.reached hquote hmoved hevent (fun _ => hbefore) (by simp [hlegs]) (by simp [hstatus])
      (by simp [hsubmissions])
  | settle quote event hstatus hquote hevent hlegs hmoved hsubmissions =>
    exact h.reached hquote hmoved hevent (absurd rfl) (by simp [hlegs]) (by simp [hstatus])
      (by simp [hsubmissions])
  | stop status events hopen hstatus hevents hmoved hsubmissions =>
    have hprogress := h.progress
    have hstopped : b.count .authorized ≤ 1 ∧ b.count .submitted ≤ b.count .authorized ∧
        b.count .settled = 0 := by
      cases hs : b.intent.status <;> simp only [hs, Progress, IntentStatus.isFinal,
        intentTransitions, List.isEmpty] at hprogress hopen
      all_goals first | omega | simp at hopen
    refine h.quiet hmoved hevents ?_ ?_ hsubmissions
    · rintro rfl
      rcases hstatus with hstatus | hstatus | hstatus <;> cases hstatus
    · rcases hstatus with rfl | rfl | rfl <;> exact hstopped
  | keep events hevents hintent hattached hlog hsubmissions =>
    have hmoved : Moved now b b' b.intent.status events := by
      refine ⟨by rw [hintent], ?_, by rw [hintent], hattached, hlog⟩
      rw [hintent]
      exact ⟨rfl, rfl, rfl, rfl, rfl⟩
    exact h.quiet hmoved hevents h.drafted h.progress hsubmissions

lemma attached_step (h : IntentSound b) (hstep : IntentTransition now b b')
    (hq : b.attached = some q) : b'.attached = some q := by
  cases hstep with
  | attach quote hstatus => rw [h.drafted hstatus] at hq; cases hq
  | authorize _ _ _ _ _ _ _ hmoved | submit _ _ _ _ _ _ _ _ hmoved | settle _ _ _ _ _ _ hmoved
  | stop _ _ _ _ _ hmoved => rw [hmoved.attached, hq]
  | keep _ _ _ hattached => rw [hattached, hq]

lemma final_step (hfinal : b.intent.status.isFinal = true) (hstep : IntentTransition now b b') :
    b'.intent = b.intent ∧ b'.submissions = b.submissions ∧ ∀ m, b'.count m = b.count m := by
  cases hstep with
  | attach _ hstatus | authorize _ _ hstatus | submit _ _ _ hstatus | settle _ _ hstatus =>
    rw [hstatus] at hfinal; cases hfinal
  | stop _ _ hopen => rw [hopen] at hfinal; cases hfinal
  | keep events hevents hintent _ hlog hsubmissions =>
    exact ⟨hintent, hsubmissions, count_neutral hlog hevents⟩

end Invariant

/-! ## Whole runs -/

lemma intentSound_drafted {corridors : List Corridor} {corridorId : Uuid} {cmd : DraftIntentCommand}
    {clock : Clock} {draft : IntentResult}
    (h : draftIntent corridors corridorId cmd clock = .ok draft) :
    IntentSound (IntentBooks.drafted draft) := by
  simp only [draftIntent, ok_iff] at h
  obtain ⟨_, -, _, -, _, -, _, -, _, -, _, -, _, -, rfl⟩ := h
  refine ⟨rfl, ?_, fun _ => rfl, ?_, ?_, ⟨rfl, rfl, rfl⟩, rfl⟩
  · intro q hq
    cases hq
  · intro entry hentry
    cases hentry
  · intro entry hentry
    cases hentry

/-- The invariant holds along every run. -/
theorem intentSound_run (h : IntentSound b) (commands : List IntentCommand) :
    IntentSound (run intentStep b commands) :=
  run_invariant_all (fun _ _ _ hs hstep => intentSound_step hs (intentStep_transition hstep))
    commands b h

lemma attached_run (h : IntentSound b) (commands : List IntentCommand) {q : FxQuote}
    (hq : b.attached = some q) : (run intentStep b commands).attached = some q :=
  (run_invariant_all (I := fun s => IntentSound s ∧ s.attached = some q)
    (fun _ _ _ hs hstep => ⟨intentSound_step hs.1 (intentStep_transition hstep),
      attached_step hs.1 (intentStep_transition hstep) hs.2⟩) commands b ⟨h, hq⟩).2

lemma final_run (hfinal : b.intent.status.isFinal = true) (commands : List IntentCommand) :
    (run intentStep b commands).intent = b.intent ∧
      (run intentStep b commands).submissions = b.submissions ∧
      ∀ m, (run intentStep b commands).count m = b.count m := by
  refine run_invariant_all (I := fun s => s.intent = b.intent ∧ s.submissions = b.submissions ∧
    ∀ m, s.count m = b.count m) (fun s _ s' hs hstep => ?_) commands b ⟨rfl, rfl, fun _ => rfl⟩
  obtain ⟨hintent, hsubmissions, hcount⟩ := hs
  obtain ⟨hintent', hsubmissions', hcount'⟩ :=
    final_step (by rw [hintent]; exact hfinal) (intentStep_transition hstep)
  exact ⟨hintent'.trans hintent, hsubmissions'.trans hsubmissions,
    fun m => (hcount' m).trans (hcount m)⟩

lemma IntentSound.bounds (h : IntentSound b) :
    b.count .settled ≤ b.count .submitted ∧ b.count .submitted ≤ 1 := by
  have hprogress := h.progress
  cases hs : b.intent.status <;> simp only [hs, Progress] at hprogress <;> omega

/-- In every run from a draft: the attached quote stays and is for the intent's transfer; every
authorization and submission compares a reading strictly before its expiry; every settlement has its
legs; there is at most one submission and one settlement, never more settlements than submissions;
and a final state is kept.

**Proof sketch.** `IntentSound` (`intentSound_run`) counts the facts behind each status. The quote
is only attached to a draft (`attached_step`), and a final state has no way out (`final_step`). -/
theorem intent_lifecycle (corridors : List Corridor) (corridorId : Uuid) (cmd : DraftIntentCommand)
    (clock : Clock) (draft : IntentResult)
    (hdraft : draftIntent corridors corridorId cmd clock = .ok draft)
    (commands later : List IntentCommand) :
    let books := run intentStep (.drafted draft) commands
    let after := run intentStep (.drafted draft) (commands ++ later)
    (∀ q, books.attached = some q → Agrees q books.intent ∧
      books.intent.quote = some (frozenQuoteOf q) ∧ after.attached = some q ∧
      after.intent.quote = books.intent.quote) ∧
    (∀ entry ∈ books.log, entry.2.payload.milestone = some .authorized ∨
      entry.2.payload.milestone = some .submitted →
        ∃ q, books.attached = some q ∧ BeforeExpiry q.expiresAt entry.1) ∧
    (∀ entry ∈ books.log, ∀ legs, entry.2.payload.legs = some legs →
      ∃ q, books.attached = some q ∧ legs = (q.sourceDebitMinor, q.destinationCreditMinor)) ∧
    books.submissions.length = books.count .submitted ∧ books.submissions.length ≤ 1 ∧
    books.count .settled ≤ books.submissions.length ∧
    (books.intent.status.isFinal = true → after.intent = books.intent ∧
      after.submissions = books.submissions ∧ ∀ m, after.count m = books.count m) := by
  intro books after
  have hsound : IntentSound books := intentSound_run (intentSound_drafted hdraft) commands
  have hafter : after = run intentStep books later := run_append _ _ _
  have hsound' : IntentSound after := hafter ▸ intentSound_run hsound later
  obtain ⟨hsettled, hsubmitted⟩ := hsound.bounds
  refine ⟨fun q hq => ?_, hsound.before, hsound.legs, hsound.submissions,
    hsound.submissions ▸ hsubmitted, hsound.submissions ▸ hsettled, fun hfinal => ?_⟩
  · have hattached : after.attached = some q := hafter ▸ attached_run hsound later hq
    have hquote : books.intent.quote = some (frozenQuoteOf q) := by rw [hsound.quote, hq]; rfl
    refine ⟨hsound.agrees q hq, hquote, hattached, ?_⟩
    rw [hquote, hsound'.quote, hattached]
    rfl
  · rw [hafter]
    exact final_run hfinal later

/-! ## A settled transfer -/

def dollarCorridor : Corridor where
  corridorId := "00000000-0000-4000-8000-0000000000c1"
  orgId := "00000000-0000-4000-8000-0000000000a1"
  sourceCurrency := .KES
  destinationCurrency := .USD
  minAmountMinor := 100
  maxAmountMinor := 1000000
  rails := ["bank_swift"]
  feeSchedule := ⟨50, 150⟩
  status := .active
  registeredAt := "2026-01-01T00:00:00.000Z"
  suspendedAt := none

def dollarQuote : FxQuote where
  quoteId := "00000000-0000-4000-8000-0000000000d1"
  orgId := dollarCorridor.orgId
  corridorId := dollarCorridor.corridorId
  sourceCurrency := .KES
  destinationCurrency := .USD
  sourceAmountMinor := 10000
  fee := ⟨10000, 50, 150, 200, 150⟩
  sourceDebitMinor := 10200
  destinationCreditMinor := 77
  rate := ⟨januaryId, "CBK", 77, 10000, 77, 10000, 2, 2, "2026-01-01T00:00:00.000Z", none⟩
  issuedAt := "2026-03-01T09:00:00.000Z"
  expiresAt := "2026-03-01T09:02:00.000Z"
  ttlSeconds := 120

def nineAndSeconds (seconds : ℤ) : Date := .ofTime (1772355600000 + seconds * 1000)

/-- A clock that ticks once a second. -/
def tickingFrom (seconds : ℤ) : Clock := ⟨fun n => nineAndSeconds (seconds + n)⟩

def tenThousandShillings : DraftIntentCommand where
  orgId := dollarCorridor.orgId
  sourceCurrency := "KES"
  destinationCurrency := "USD"
  sourceAmountMinor := .bigint 10000
  intentId := none

/-- The transfer is quoted, authorized, submitted twice under one key in the last second of the
quote, and settled. -/
def settledTransfer : List IntentCommand :=
  [.attach dollarQuote (tickingFrom 1), .authorize "treasury" (tickingFrom 3),
    .submit ⟨"key-1", "bank_swift"⟩ ⟨tickingFrom 119, dollarCorridor, []⟩,
    .submit ⟨"key-1", "bank_swift"⟩ ⟨tickingFrom 119, dollarCorridor, []⟩,
    .settle ⟨tickingFrom 300, some dollarCorridor, none, none, some "SWIFT-1"⟩]

theorem intent_lifecycle_settled : ∃ draft,
    draftIntent [dollarCorridor] dollarCorridor.corridorId tenThousandShillings
      (pinnedClock (nineAndSeconds 0)) = .ok draft ∧
    (run intentStep (.drafted draft) settledTransfer).intent.status = .settled ∧
    (run intentStep (.drafted draft) settledTransfer).count .settled = 1 ∧
    (run intentStep (.drafted draft) settledTransfer).submissions.length ≤ 1 := by
  have hrun : ((draftIntent [dollarCorridor] dollarCorridor.corridorId tenThousandShillings
      (pinnedClock (nineAndSeconds 0))).toOption.map fun draft =>
        let books := run intentStep (.drafted draft) settledTransfer
        (books.intent.status, books.count .settled)) = some (.settled, 1) := by decide +kernel
  obtain ⟨draft, hdraft, hfacts⟩ := map_toOption_eq_some.mp hrun
  obtain ⟨hstatus, hsettled⟩ := Prod.mk.inj hfacts
  obtain ⟨-, -, -, -, honce, -⟩ := intent_lifecycle _ _ _ _ draft hdraft
    settledTransfer []
  exact ⟨draft, hdraft, hstatus, hsettled, honce⟩

/-! ## A submit that is sent again -/

lemma replaySubmit_eq_ok {intent : TransferIntent} {key rail : String} {prior : SubmissionRecord}
    {clock : Clock} : (∃ r, replaySubmit intent key rail prior clock = .ok r ∧ r.duplicate = true ∧
        r.intent = intent ∧ r.submission = prior) ↔
      isIdenticalSubmit prior rail intent.quote = true ∧ clock.now 0 ≠ .invalid ∧
        clock.now 1 ≠ .invalid := by
  simp only [← Date.exists_toISOString, replaySubmit, domainEvent, ok_iff]
  constructor
  · rintro ⟨_, ⟨hsame, _, hseen, _, ⟨_, hat, -⟩, -⟩, -⟩
    exact ⟨by simpa using hsame, ⟨_, hseen⟩, _, hat⟩
  · rintro ⟨hsame, ⟨_, hseen⟩, _, hat⟩
    exact ⟨_, ⟨by simp [hsame], _, hseen, _, ⟨_, hat, rfl⟩, rfl⟩, rfl, rfl, rfl⟩

/-- **A submit that is sent again.** The retry of an accepted submit returns the intent unchanged
exactly when the first call was a repetition already or wrote the rail without surrounding spaces,
and the retry's clock gives valid dates. The retry compares the trimmed rail with the one as
written. -/
theorem submit_again_iff (intent : TransferIntent) (cmd : SubmitCommand) (ctx : SubmitContext)
    (result : SubmitResult) (h : submitIntent intent cmd ctx = .ok result) (clock : Clock)
    (corridor : Corridor) :
    (∃ again, submitIntent result.intent cmd ⟨clock, corridor, if result.duplicate then
        ctx.submissions else ctx.submissions ++ [result.submission]⟩ = .ok again ∧
      again.duplicate = true ∧ again.intent = result.intent ∧
      again.submission = result.submission) ↔
    (result.duplicate = true ∨ trim cmd.rail = cmd.rail) ∧ clock.now 0 ≠ .invalid ∧
      clock.now 1 ≠ .invalid := by
  simp only [submitIntent, bind_eq_ok, guard_eq_ok] at h ⊢
  obtain ⟨hkey, h⟩ := h
  split at h
  · next prior hprior =>
    simp only [replaySubmit, bind_eq_ok, guard_eq_ok, pure_eq_ok] at h
    obtain ⟨hsame, _, -, _, -, rfl⟩ := h
    simp only [hkey, not_false_eq_true, true_and, if_true, hprior, replaySubmit_eq_ok]
    simpa using fun _ _ => hsame
  · next hnone =>
    simp only [dispatchSubmit, ok_iff] at h
    obtain ⟨-, _, -, -, quote, hquote, _, -, _, -, _, -, _, -, _, -, rfl⟩ := h
    -- the submission of the first call is the one that the retry finds
    simp only [hkey, not_false_eq_true, true_and, Bool.false_eq_true, if_false, List.find?_append,
      hnone, Option.none_or, List.find?_singleton, decide_true, and_self, if_true,
      replaySubmit_eq_ok]
    simp [isIdenticalSubmit, frozenQuote_eq_ok hquote]

def authorizedTransfer : Option TransferIntent :=
  (draftIntent [dollarCorridor] dollarCorridor.corridorId tenThousandShillings
    (pinnedClock (nineAndSeconds 0))).toOption.map fun draft =>
      (run intentStep (.drafted draft) (settledTransfer.take 2)).intent

def submitted (submissions : List SubmissionRecord) : SubmitContext :=
  ⟨pinnedClock (nineAndSeconds 119), dollarCorridor, submissions⟩

theorem submit_again_iff_unspaced : ∃ intent ∈ authorizedTransfer, ∃ result,
    submitIntent intent ⟨" key-1 ", "bank_swift"⟩ (submitted []) = .ok result ∧
      ∃ again, submitIntent result.intent ⟨" key-1 ", "bank_swift"⟩
        (submitted [result.submission]) = .ok again ∧ again.intent = result.intent := by
  have hmade : ∃ intent ∈ authorizedTransfer, ∃ result ∈ (submitIntent intent
      ⟨" key-1 ", "bank_swift"⟩ (submitted [])).toOption, result.duplicate = false := by
    decide +kernel
  obtain ⟨intent, hintent, result, hresult, hnew⟩ := hmade
  have h := toOption_eq_some.mp hresult
  obtain ⟨again, hagain, -, hsame, -⟩ := (submit_again_iff intent _ _ result h
    (pinnedClock (nineAndSeconds 119)) dollarCorridor).mpr ⟨.inr (by decide +kernel), nofun, nofun⟩
  rw [hnew] at hagain
  exact ⟨intent, hintent, result, h, again, hagain, hsame⟩

/-- **A spaced rail.** The submit is accepted, and the same command sent again is refused. -/
theorem spaced_rail_refused : ∃ intent ∈ authorizedTransfer, intent.status = .authorized ∧
    ∃ result ∈ (submitIntent intent ⟨"key-1", " bank_swift "⟩ (submitted [])).toOption,
      result.duplicate = false ∧ result.intent.status = .submitted ∧
        (submitIntent result.intent ⟨"key-1", " bank_swift "⟩
          (submitted [result.submission])).toOption = none := by
  decide +kernel

end Fuatilia.Crossborder
