import Fuatilia.Foundations.Lists
import Fuatilia.Foundations.Machine
import Fuatilia.Adjustments.CreditBalance

/-!
# Credit notes

A credit note has a fixed total, which is applied to receivables or routed to the credit balance of
the customer. What is left is recomputed from the rows.

## Main definitions

* `applyCreditNote`, `applyExcessToCreditBalance` — the two uses of a note.
* `noteStep`, `Conserved` — the commands on a note, and its conservation law.

## Main results

* `creditNote_conserved` — the law holds at every point of every run.
-/

namespace Fuatilia.Adjustments

open Fallible Machine

/-! ## The note -/

inductive CreditNoteState where
  | draft | issued | partiallyApplied | fullyApplied | voided
  deriving DecidableEq

instance : ToString CreditNoteState where
  toString
    | .draft => "draft"
    | .issued => "issued"
    | .partiallyApplied => "partially_applied"
    | .fullyApplied => "fully_applied"
    | .voided => "voided"

structure CreditNoteApplication where
  id : Uuid
  creditNoteId : Uuid
  receivableId : Uuid
  amount : Money
  appliedAt : Date

structure CreditBalanceRouting where
  movementId : Uuid
  amount : Money
  occurredAt : Date

structure CreditNote where
  id : Uuid
  customerId : Uuid
  invoiceId : Option Uuid
  reason : String
  total : Money
  state : CreditNoteState
  issuedAt : Option Date
  voidedAt : Option Date
  applications : List CreditNoteApplication
  creditBalanceRoutings : List CreditBalanceRouting

structure DraftCreditNoteInput where
  id : Uuid
  customerId : Uuid
  invoiceId : Option Uuid
  reason : String
  total : Money

def appliedOf (note : CreditNote) : Except Thrown Money :=
  Money.sumOf note.total.currency (note.applications.map (·.amount))

def creditedOf (note : CreditNote) : Except Thrown Money :=
  Money.sumOf note.total.currency (note.creditBalanceRoutings.map (·.amount))

def unappliedOf (note : CreditNote) : Except Thrown Money := do
  let applied ← appliedOf note
  let credited ← creditedOf note
  let used ← applied.add credited
  note.total.subtract used

def draftCreditNote (input : DraftCreditNoteInput) : Except Thrown CreditNote := do
  throwIf (trim input.reason = "")
    (DomainError "CREDIT_NOTE_REASON_REQUIRED" "a credit note requires a reason")
  throwIf (!input.total.isPositive)
    (DomainError "CREDIT_NOTE_TOTAL_INVALID" "credit note total must be positive")
  return ⟨input.id, input.customerId, input.invoiceId, input.reason, input.total, .draft, none,
    none, [], []⟩

structure CreditNoteIssued where
  note : CreditNote
  event : AdjustmentEvent

def issueCreditNote (note : CreditNote) (clock : Clock) : Except Thrown CreditNoteIssued := do
  throwIf (note.state ≠ .draft) (.domainError "CREDIT_NOTE_INVALID_TRANSITION"
    s!"cannot issue a credit note in state '{note.state}' (expected 'draft')"
    [("creditNoteId", note.id), ("state", toString note.state)])
  let event ← creditNoteIssuedEvent note.id note.customerId note.total.amount (clock.after 1)
  return ⟨{ note with state := .issued, issuedAt := some (clock.now 0) }, event⟩

def usedState (remaining : Money) : CreditNoteState :=
  if remaining.isZero then .fullyApplied else .partiallyApplied

structure CreditNoteApplied where
  note : CreditNote
  application : CreditNoteApplication
  event : AdjustmentEvent

/-- The first check compares the applications alone with the total; the subtraction from what is
left throws when the routings leave too little. -/
def applyCreditNote (note : CreditNote) (receivableId : Uuid) (amount : Money) (clock : Clock)
    (applicationId : Uuid) : Except Thrown CreditNoteApplied := do
  throwIf (note.state ≠ .issued ∧ note.state ≠ .partiallyApplied)
    (.domainError "CREDIT_NOTE_NOT_APPLICABLE"
      (s!"cannot apply a credit note in state '{note.state}' — drafts cannot be applied, and " ++
        "fully_applied/voided notes have nothing left")
      [("creditNoteId", note.id), ("state", toString note.state)])
  throwIf (!amount.isPositive)
    (DomainError "CREDIT_NOTE_AMOUNT_INVALID" "applied amount must be positive")
  throwIf (amount.currency ≠ note.total.currency) (DomainError "CURRENCY_MISMATCH"
    s!"application {amount} does not match note currency {note.total.currency}")
  let applied ← appliedOf note
  let newApplied ← applied.add amount
  let order ← newApplied.compareTo note.total
  throwIf (order > 0) (.domainError "CREDIT_NOTE_OVER_APPLIED"
    s!"applications would total {newApplied}, exceeding note total {note.total} (R7)"
    [("creditNoteId", note.id), ("noteTotalMinor", toString note.total.amount),
      ("alreadyAppliedMinor", toString applied.amount), ("requestedMinor", toString amount.amount)])
  let application : CreditNoteApplication := ⟨applicationId, note.id, receivableId, amount,
    clock.now 0⟩
  let unapplied ← unappliedOf note
  let remaining ← unapplied.subtract amount
  let event ← creditNoteAppliedEvent applicationId note.id receivableId amount.amount
    (clock.after 1)
  return ⟨{ note with applications := note.applications ++ [application],
                      state := usedState remaining }, application, event⟩

def voidCreditNote (note : CreditNote) (clock : Clock) : Except Thrown CreditNote := do
  throwIf (note.state ≠ .issued) (.domainError "CREDIT_NOTE_INVALID_TRANSITION"
    (s!"cannot void a credit note in state '{note.state}' — only issued notes with zero " ++
      "applications can be voided (docs/03)")
    [("creditNoteId", note.id), ("state", toString note.state)])
  throwIf (note.applications.length > 0) (.domainError "CREDIT_NOTE_HAS_APPLICATIONS"
    ("a credit note with applications cannot be voided (defensive guard — issued notes cannot " ++
      "carry applications)")
    [("creditNoteId", note.id)])
  return { note with state := .voided, voidedAt := some (clock.now 0) }

structure CreditNoteExcessRouted where
  note : CreditNote
  movement : CreditBalanceMovement
  event : AdjustmentEvent

def applyExcessToCreditBalance (note : CreditNote) (amount : Money) (consent : Bool) (clock : Clock)
    (movementId : Uuid) : Except Thrown CreditNoteExcessRouted := do
  throwIf (!consent) (.domainError "CONSENT_REQUIRED"
    ("routing credit-note excess to the customer credit balance requires explicit consent " ++
      "(R7 / DPA 2019)")
    [("creditNoteId", note.id)])
  throwIf (note.state = .draft ∨ note.state = .voided) (.domainError "CREDIT_NOTE_NOT_APPLICABLE"
    (s!"cannot route excess from a credit note in state '{note.state}' — drafts cannot be " ++
      "applied, voided notes are dead")
    [("creditNoteId", note.id), ("state", toString note.state)])
  throwIf (!amount.isPositive)
    (DomainError "CREDIT_NOTE_AMOUNT_INVALID" "routed amount must be positive")
  throwIf (amount.currency ≠ note.total.currency) (DomainError "CURRENCY_MISMATCH"
    s!"routing {amount} does not match note currency {note.total.currency}")
  let unapplied ← unappliedOf note
  throwIf unapplied.isZero (.domainError "CREDIT_NOTE_NO_UNAPPLIED_VALUE"
    s!"note {note.id} has no unapplied value left to route to credit balance"
    [("creditNoteId", note.id)])
  let order ← amount.compareTo unapplied
  throwIf (order > 0) (.domainError "CREDIT_NOTE_EXCESS_EXCEEDS_UNAPPLIED"
    s!"routed {amount} exceeds unapplied {unapplied}"
    [("creditNoteId", note.id), ("unappliedMinor", toString unapplied.amount),
      ("requestedMinor", toString amount.amount)])
  let occurredAt := clock.now 0
  let remaining ← unapplied.subtract amount
  let movement : CreditBalanceMovement :=
    ⟨movementId, note.customerId, .creditNoteExcess, .increase, amount, amount.currency, none, none,
      some note.id, occurredAt⟩
  let event ← creditBalanceAppliedEvent note.customerId amount.amount none (clock.after 1)
  return ⟨{ note with
      creditBalanceRoutings := note.creditBalanceRoutings ++ [⟨movementId, amount, occurredAt⟩]
      state := usedState remaining }, movement, event⟩

/-! ## What is left of a note -/

def CreditNote.appliedMinor (note : CreditNote) : ℕ :=
  ((note.applications.map (·.amount)).map Money.amount).sum

def CreditNote.creditedMinor (note : CreditNote) : ℕ :=
  ((note.creditBalanceRoutings.map (·.amount)).map Money.amount).sum

structure InCurrency (note : CreditNote) : Prop where
  applications : ∀ a ∈ note.applications, a.amount.currency = note.total.currency
  routings : ∀ r ∈ note.creditBalanceRoutings, r.amount.currency = note.total.currency

variable {note n n' : CreditNote}

lemma appliedOf_eq_ok {applied : Money} :
    appliedOf note = .ok applied ↔
      (∀ a ∈ note.applications, a.amount.currency = note.total.currency) ∧
        applied = ⟨note.appliedMinor, note.total.currency⟩ := by
  simp [appliedOf, Money.sumOf_eq_ok, CreditNote.appliedMinor]

lemma creditedOf_eq_ok {credited : Money} :
    creditedOf note = .ok credited ↔
      (∀ r ∈ note.creditBalanceRoutings, r.amount.currency = note.total.currency) ∧
        credited = ⟨note.creditedMinor, note.total.currency⟩ := by
  simp [creditedOf, Money.sumOf_eq_ok, CreditNote.creditedMinor]

variable {unapplied amount : Money} {clock : Clock}

/-- **The unapplied value** is defined exactly when the rows are in the currency of the note and do
not exceed its total, and then it is the rest. -/
lemma unappliedOf_eq_ok : unappliedOf note = .ok unapplied ↔
      InCurrency note ∧ note.appliedMinor + note.creditedMinor ≤ note.total.amount ∧
        unapplied = ⟨note.total.amount - (note.appliedMinor + note.creditedMinor),
          note.total.currency⟩ := by
  simp only [unappliedOf, bind_eq_ok, appliedOf_eq_ok, creditedOf_eq_ok, Money.add_eq_ok,
    Money.subtract_eq_ok]
  constructor
  · rintro ⟨_, ⟨happlied, rfl⟩, _, ⟨hcredited, rfl⟩, _, ⟨-, rfl⟩, -, hle, rfl⟩
    exact ⟨⟨happlied, hcredited⟩, hle, rfl⟩
  · rintro ⟨hcurrency, hle, rfl⟩
    exact ⟨_, ⟨hcurrency.applications, rfl⟩, _, ⟨hcurrency.routings, rfl⟩, _, ⟨rfl, rfl⟩, rfl, hle,
      rfl⟩

lemma draftCreditNote_eq_ok {input : DraftCreditNoteInput} (h : draftCreditNote input = .ok note) :
    0 < note.total.amount ∧ note.total = input.total ∧ note.state = .draft ∧
      note.applications = [] ∧ note.creditBalanceRoutings = [] := by
  simp only [draftCreditNote, ok_iff, Money.isPositive, Bool.not_eq_eq_eq_not, Bool.not_true,
    decide_eq_false_iff_not, not_not] at h
  obtain ⟨-, hpositive, rfl⟩ := h
  exact ⟨hpositive, rfl, rfl, rfl, rfl⟩

/-! ## Runs -/

inductive NoteCommand where
  | issue (clock : Clock)
  | apply (receivableId : Uuid) (amount : Money) (clock : Clock) (applicationId : Uuid)
  | routeExcess (amount : Money) (consent : Bool) (clock : Clock) (movementId : Uuid)
  | void (clock : Clock)

def noteStep (note : CreditNote) : NoteCommand → Option CreditNote
  | .issue clock => (issueCreditNote note clock).toOption.map (·.note)
  | .apply receivableId amount clock applicationId =>
    (applyCreditNote note receivableId amount clock applicationId).toOption.map (·.note)
  | .routeExcess amount consent clock movementId =>
    (applyExcessToCreditBalance note amount consent clock movementId).toOption.map (·.note)
  | .void clock => (voidCreditNote note clock).toOption

/-- Everything an accepted command can do. An application or a routing is a row of at most the
unapplied value, and the state says whether something is left after it. -/
inductive NoteTransition (n : CreditNote) : CreditNote → Prop where
  | issue (issuedAt : Date) (hstate : n.state = .draft) :
      NoteTransition n { n with state := .issued, issuedAt := some issuedAt }
  | apply (a : CreditNoteApplication) (unapplied : Money)
      (hstate : n.state = .issued ∨ n.state = .partiallyApplied) (hpositive : 0 < a.amount.amount)
      (hcurrency : a.amount.currency = n.total.currency)
      (hunapplied : unappliedOf n = .ok unapplied)
      (hle : a.amount.amount ≤ unapplied.amount) :
      NoteTransition n { n with
        applications := n.applications ++ [a]
        state := usedState ⟨unapplied.amount - a.amount.amount, unapplied.currency⟩ }
  | route (r : CreditBalanceRouting) (unapplied : Money)
      (hstate : n.state ≠ .draft ∧ n.state ≠ .voided) (hpositive : 0 < r.amount.amount)
      (hcurrency : r.amount.currency = n.total.currency)
      (hunapplied : unappliedOf n = .ok unapplied)
      (hle : r.amount.amount ≤ unapplied.amount) :
      NoteTransition n { n with
        creditBalanceRoutings := n.creditBalanceRoutings ++ [r]
        state := usedState ⟨unapplied.amount - r.amount.amount, unapplied.currency⟩ }
  | void (voidedAt : Date) (hstate : n.state = .issued) :
      NoteTransition n { n with state := .voided, voidedAt := some voidedAt }

lemma applyCreditNote_transition {receivableId : Uuid}
    {applicationId : Uuid} {applied : CreditNoteApplied}
    (h : applyCreditNote note receivableId amount clock applicationId = .ok applied) :
    NoteTransition note applied.note := by
  simp only [applyCreditNote, ok_iff, Money.isPositive, Bool.not_eq_eq_eq_not, Bool.not_true,
    decide_eq_false_iff_not, not_not, not_and, Money.subtract_eq_ok] at h
  obtain ⟨hstate, hpositive, hcurrency, _, -, _, -, _, -, -, unapplied, hunapplied, _,
    ⟨-, hle, rfl⟩, _, -, rfl⟩ := h
  exact .apply ⟨applicationId, note.id, receivableId, amount, clock.now 0⟩ unapplied
    (or_iff_not_imp_left.mpr hstate) hpositive hcurrency hunapplied hle

lemma applyExcess_transition {consent : Bool} {movementId : Uuid} {routed : CreditNoteExcessRouted}
    (h : applyExcessToCreditBalance note amount consent clock movementId = .ok routed) :
    NoteTransition note routed.note := by
  simp only [applyExcessToCreditBalance, ok_iff, Money.isPositive, Bool.not_eq_eq_eq_not,
    Bool.not_true, decide_eq_false_iff_not, not_not, not_or, Money.subtract_eq_ok] at h
  obtain ⟨-, hstate, hpositive, hcurrency, unapplied, hunapplied, -, _, -, -, _, ⟨-, hle, rfl⟩, _,
    -, rfl⟩ := h
  exact .route ⟨movementId, amount, clock.now 0⟩ unapplied hstate hpositive hcurrency hunapplied hle

lemma noteStep_transition {command : NoteCommand} (h : noteStep n command = some n') :
    NoteTransition n n' := by
  cases command with
  | issue clock =>
    simp only [noteStep, map_toOption_eq_some, issueCreditNote, ok_iff, not_not] at h
    obtain ⟨_, ⟨hstate, _, -, rfl⟩, rfl⟩ := h
    exact .issue _ hstate
  | apply receivableId amount clock applicationId =>
    obtain ⟨applied, happlied, rfl⟩ := map_toOption_eq_some.mp h
    exact applyCreditNote_transition happlied
  | routeExcess amount consent clock movementId =>
    obtain ⟨routed, hrouted, rfl⟩ := map_toOption_eq_some.mp h
    exact applyExcess_transition hrouted
  | void clock =>
    simp only [noteStep, toOption_eq_some, voidCreditNote, ok_iff, not_not] at h
    obtain ⟨hstate, -, rfl⟩ := h
    exact .void _ hstate

/-! ## Conservation -/

/-- The rows are in the note's currency and within its positive total; they make it up exactly when
the note is fully applied; and before the first use and after a void there are none. -/
structure NoteSound (n : CreditNote) : Prop where
  positive : 0 < n.total.amount
  currency : InCurrency n
  within : n.appliedMinor + n.creditedMinor ≤ n.total.amount
  full : n.state = .fullyApplied ↔ n.appliedMinor + n.creditedMinor = n.total.amount
  unused : n.state = .draft ∨ n.state = .issued ∨ n.state = .voided →
    n.applications = [] ∧ n.creditBalanceRoutings = []

/-- The rows that were there are still there, in their order and before any new ones. -/
structure Extends (n n' : CreditNote) : Prop where
  total : n'.total = n.total
  applications : n.applications <+: n'.applications
  routings : n.creditBalanceRoutings <+: n'.creditBalanceRoutings

lemma NoteTransition.extends (h : NoteTransition n n') : Extends n n' := by
  cases h with
  | issue | void => exact ⟨rfl, List.prefix_rfl, List.prefix_rfl⟩
  | apply a => exact ⟨rfl, List.prefix_append _ _, List.prefix_rfl⟩
  | route r => exact ⟨rfl, List.prefix_rfl, List.prefix_append _ _⟩

lemma noteSound_of_unused (hpositive : 0 < n.total.amount) (happlications : n.applications = [])
    (hroutings : n.creditBalanceRoutings = []) (hopen : n.state ≠ .fullyApplied) : NoteSound n := by
  refine ⟨hpositive, ⟨by simp [happlications], by simp [hroutings]⟩, ?_, ?_,
    fun _ => ⟨happlications, hroutings⟩⟩
  · simp [CreditNote.appliedMinor, CreditNote.creditedMinor, happlications, hroutings]
  · simp only [CreditNote.appliedMinor, CreditNote.creditedMinor, happlications, hroutings, hopen,
      List.map_nil, List.sum_nil, false_iff]
    omega

lemma NoteSound.unusedState (hn : NoteSound n) (hstate : n.state = .draft ∨ n.state = .issued)
    (hstate' : n'.state = .issued ∨ n'.state = .voided) (htotal : n'.total = n.total)
    (happlications : n'.applications = n.applications)
    (hroutings : n'.creditBalanceRoutings = n.creditBalanceRoutings) : NoteSound n' := by
  obtain ⟨hnone, hnone'⟩ := hn.unused (by tauto)
  have hopen : n'.state ≠ .fullyApplied := by rcases hstate' with h | h <;> simp [h]
  exact noteSound_of_unused (htotal ▸ hn.positive) (happlications.trans hnone)
    (hroutings.trans hnone') hopen

lemma NoteSound.used {amount : ℕ} (hn : NoteSound n)
    (hunapplied : unappliedOf n = .ok unapplied) (hle : amount ≤ unapplied.amount)
    (htotal : n'.total = n.total) (hcurrency : InCurrency n')
    (hsum : n'.appliedMinor + n'.creditedMinor = n.appliedMinor + n.creditedMinor + amount)
    (hstate : n'.state = usedState ⟨unapplied.amount - amount, unapplied.currency⟩) :
    NoteSound n' := by
  obtain ⟨-, hwithin, rfl⟩ := unappliedOf_eq_ok.mp hunapplied
  have hrest : amount ≤ n.total.amount - (n.appliedMinor + n.creditedMinor) := hle
  refine ⟨htotal ▸ hn.positive, hcurrency, ?_, ?_, ?_⟩
  · rw [hsum, htotal]
    omega
  · rw [hstate, hsum, htotal, usedState]
    simp only [Money.isZero, beq_iff_eq]
    split_ifs with hzero <;> simp only [true_iff, false_iff] <;> omega
  · rw [hstate, usedState]
    split_ifs <;> simp

lemma NoteSound.step (hn : NoteSound n) (h : NoteTransition n n') :
    NoteSound n' := by
  cases h with
  | issue issuedAt hstate => exact hn.unusedState (.inl hstate) (.inl rfl) rfl rfl rfl
  | void voidedAt hstate => exact hn.unusedState (.inr hstate) (.inr rfl) rfl rfl rfl
  | apply a unapplied hstate hpositive hcurrency hunapplied hle =>
    refine hn.used hunapplied hle rfl
      ⟨Lists.forall_mem_concat hn.currency.applications hcurrency, hn.currency.routings⟩ ?_ rfl
    simp +arith [CreditNote.appliedMinor, CreditNote.creditedMinor]
  | route r unapplied hstate hpositive hcurrency hunapplied hle =>
    refine hn.used hunapplied hle rfl
      ⟨hn.currency.applications, Lists.forall_mem_concat hn.currency.routings hcurrency⟩ ?_ rfl
    simp +arith [CreditNote.appliedMinor, CreditNote.creditedMinor]

/-- **The conservation law of a note**: the sums of its rows and what is left are defined and make
up its total, nothing is left exactly when it is fully applied, and a voided note has no rows. -/
def Conserved (n : CreditNote) : Prop :=
  ∃ applied credited unapplied, appliedOf n = .ok applied ∧ creditedOf n = .ok credited ∧
    unappliedOf n = .ok unapplied ∧ applied.amount + credited.amount ≤ n.total.amount ∧
    unapplied.amount = n.total.amount - applied.amount - credited.amount ∧
    (n.state = .fullyApplied ↔ unapplied.amount = 0) ∧
    (n.state = .voided → n.applications = [] ∧ n.creditBalanceRoutings = [])

lemma NoteSound.conserved (hn : NoteSound n) : Conserved n := by
  have hwithin := hn.within
  refine ⟨_, _, _, appliedOf_eq_ok.mpr ⟨hn.currency.applications, rfl⟩,
    creditedOf_eq_ok.mpr ⟨hn.currency.routings, rfl⟩,
    unappliedOf_eq_ok.mpr ⟨hn.currency, hwithin, rfl⟩, hwithin, Nat.sub_add_eq .., ?_,
    fun hvoided => hn.unused (.inr (.inr hvoided))⟩
  rw [hn.full]
  show _ ↔ n.total.amount - (n.appliedMinor + n.creditedMinor) = 0
  omega

/-- **Conservation of credit notes.** At every point of every run from a draft, the note has the
total it was drafted with and satisfies the conservation law, and its rows are only appended to. -/
theorem creditNote_conserved (input : DraftCreditNoteInput) (drafted : CreditNote)
    (h : draftCreditNote input = .ok drafted) (earlier later : List NoteCommand) :
    let note := run noteStep drafted earlier
    let note' := run noteStep drafted (earlier ++ later)
    note.total = input.total ∧ Conserved note ∧ Extends note note' := by
  intro note note'
  obtain ⟨hpositive, htotal, hstate, happlications, hroutings⟩ := draftCreditNote_eq_ok h
  have hstart := noteSound_of_unused hpositive happlications hroutings (by simp [hstate])
  have hsound : NoteSound note :=
    run_invariant_all (fun _ _ _ hn hstep => hn.step (noteStep_transition hstep))
      earlier drafted hstart
  have hrefl (n : CreditNote) : Extends n n := ⟨rfl, List.prefix_rfl, List.prefix_rfl⟩
  have htrans (a b c : CreditNote) (hab : Extends a b) (hbc : Extends b c) : Extends a c :=
    ⟨hbc.total.trans hab.total, hab.applications.trans hbc.applications,
      hab.routings.trans hbc.routings⟩
  have hextends (commands : List NoteCommand) (n : CreditNote) :
      Extends n (run noteStep n commands) :=
    run_rel_all (I := fun _ => True) hrefl htrans (fun _ _ _ _ _ => trivial)
      (fun _ _ _ _ hstep => (noteStep_transition hstep).extends) commands n trivial
  refine ⟨(hextends earlier drafted).total.trans htotal, hsound.conserved, ?_⟩
  rw [show note' = run noteStep note later from run_append drafted earlier later]
  exact hextends later note

/-- A note of 100 of which 40 is applied and 60 routed. -/
theorem creditNote_conserved_usedUp :
    let input : DraftCreditNoteInput := ⟨"n1", "c1", none, "returned goods", ⟨100, .KES⟩⟩
    let clock := pinnedClock (.ofTime 0)
    let commands : List NoteCommand := [.issue clock, .apply "r1" ⟨40, .KES⟩ clock "a1",
      .routeExcess ⟨60, .KES⟩ true clock "m1", .void clock]
    ∃ drafted, draftCreditNote input = .ok drafted ∧
      (run noteStep drafted commands).state = .fullyApplied ∧
      Conserved (run noteStep drafted commands) := by
  intro input clock commands
  have hmade : ∃ drafted ∈ (draftCreditNote input).toOption,
      (run noteStep drafted commands).state = .fullyApplied := by decide +kernel
  obtain ⟨drafted, hmem, hstate⟩ := hmade
  have hok := toOption_eq_some.mp hmem
  exact ⟨drafted, hok, hstate, (creditNote_conserved input drafted hok commands []).2.1⟩

end Fuatilia.Adjustments
