import Fuatilia.Receivables.Lifecycle

/-!
# Invoices and their drafted receivables

A draft invoice may be paired with a draft receivable, which copies its total and opens once the
invoice is issued with that total. But a line may be added after the pairing, an invoice may be
issued without lines, and a sent invoice opens no receivable: then the pair is stuck.

## Main definitions

* `Desk`, `Desk.step` — an invoice with its receivable, and the commands on them.
* `Desk.Alive`, `Ready` — a pair that is not stuck, and the condition on commands.

## Main results

* `drafted_opens_iff` — no pair is stuck along a run exactly under the condition.
-/

namespace Fuatilia.Receivables

open Fallible Machine

/-! ## The invoice -/

structure InvoiceLine where
  description : String
  amount : Money

/-- The invoice as a document. Voiding is left out. -/
structure InvoiceDocument extends Invoice where
  lines : List InvoiceLine
  invoiceNumber : Option String
  issuedAt : Option Date
  sentAt : Option Date
  sentChannel : Option String

inductive InvoicePayload where
  | issued (invoiceId customerId : Uuid) (totalMinor : ℕ) (currency : Currency) (dueDate : String)
  | sent (invoiceId : Uuid) (channel sentAt : String)

structure InvoiceEvent where
  name : String
  version : ℕ
  aggregateId : Uuid
  occurredAt : String
  payload : InvoicePayload

def createInvoice (id customerId : Uuid) (currency : Currency) (dueDate : Date) :
    InvoiceDocument where
  id := id
  customerId := customerId
  status := .draft
  currency := currency
  lines := []
  total := Money.zero currency
  invoiceNumber := none
  issuedAt := none
  dueDate := dueDate
  sentAt := none
  sentChannel := none
  receivableId := none

def addInvoiceLine (invoice : InvoiceDocument) (line : InvoiceLine) :
    Except Thrown InvoiceDocument := do
  throwIf (invoice.status ≠ .draft) (.domainError "INVOICE_LINES_FROZEN"
    s!"invoice {invoice.id} is {invoice.status} — totals are frozen; use a credit note"
    [("status", invoice.status.name)])
  throwIf ((trim line.description).length = 0 ∨ !line.amount.isPositive)
    (DomainError "INVOICE_LINE_INVALID"
      "a line needs a non-blank description and a positive amount")
  throwIf (line.amount.currency ≠ invoice.currency) (DomainError "CURRENCY_MISMATCH"
    s!"line is {line.amount.currency} but invoice is {invoice.currency}")
  let total ← invoice.total.add line.amount
  return { invoice with
    lines := invoice.lines ++ [⟨trim line.description, line.amount⟩], total }

def invalidInvoiceTransition (invoice : InvoiceDocument) (message code : String)
    (target : InvoiceStatus) : Thrown :=
  .domainError code message [("from", invoice.status.name), ("to", target.name)]

def issueInvoice (invoice : InvoiceDocument) (sequenceNo : JsNumber) (reserveNumber : ℤ → String)
    (clock : Clock) : Except Thrown (InvoiceDocument × InvoiceEvent) := do
  throwIf (invoice.status = .issued) (DomainError "INVOICE_ALREADY_ISSUED"
    (s!"invoice {invoice.id} is already issued as " ++ invoice.invoiceNumber.getD "null"))
  throwIf (invoice.status ≠ .draft) (invalidInvoiceTransition invoice
    s!"cannot issue from {invoice.status}" "INVALID_INVOICE_TRANSITION" .issued)
  match sequenceNo.safeInteger.filter fun n => 1 ≤ n with
  | none => .error (DomainError "INVOICE_SEQUENCE_INVALID"
      s!"sequenceNo must be a safe integer ≥ 1, got {sequenceNo.text}")
  | some n =>
    let invoiceNumber := trim (reserveNumber n)
    throwIf (invoiceNumber.length = 0) (DomainError "INVOICE_NUMBER_INVALID"
      "reserveNumber returned a blank invoice number")
    let totalMinor ← minorToNumber invoice.total
    let dueDate ← invoice.dueDate.toISOString
    let occurredAt ← (clock.now 1).toISOString
    return ({ invoice with
        status := .issued, invoiceNumber := some invoiceNumber, issuedAt := some (clock.now 0) },
      ⟨"invoicing.invoiceIssued", 1, invoice.id, occurredAt,
        .issued invoice.id invoice.customerId totalMinor invoice.currency dueDate⟩)

def markInvoiceSent (invoice : InvoiceDocument) (channel : String) (clock : Clock) :
    Except Thrown (InvoiceDocument × InvoiceEvent) := do
  throwIf ((trim channel).length = 0)
    (DomainError "INVOICE_CHANNEL_INVALID" "delivery channel must be non-blank")
  throwIf (invoice.status ≠ .issued) (invalidInvoiceTransition invoice
    s!"cannot mark sent from {invoice.status}" "INVOICE_NOT_ISSUED" .sent)
  let sentAt ← (clock.now 0).toISOString
  let occurredAt ← (clock.now 1).toISOString
  return ({ invoice with
      status := .sent, sentAt := some (clock.now 0), sentChannel := some (trim channel) },
    ⟨"invoicing.invoiceSent", 1, invoice.id, occurredAt, .sent invoice.id (trim channel) sentAt⟩)

/-! ## The machine -/

structure Desk where
  invoice : InvoiceDocument
  draft : Option Receivable

inductive InvoiceCommand where
  | draft (receivableId : Uuid)
  | addLine (line : InvoiceLine)
  | issue (sequenceNo : JsNumber) (reserveNumber : ℤ → String) (clock : Clock)
  | send (channel : String) (clock : Clock)

def Desk.apply (s : Desk) : InvoiceCommand → Except Thrown Desk
  | .draft receivableId =>
    (draftReceivableFor s.invoice.toInvoice receivableId).map fun p =>
      ⟨{ s.invoice with toInvoice := p.1 }, some p.2⟩
  | .addLine line => (addInvoiceLine s.invoice line).map fun i => { s with invoice := i }
  | .issue n reserveNumber clock =>
    (issueInvoice s.invoice n reserveNumber clock).map fun p => { s with invoice := p.1 }
  | .send channel clock =>
    (markInvoiceSent s.invoice channel clock).map fun p => { s with invoice := p.1 }

def Desk.step (s : Desk) (c : InvoiceCommand) : Option Desk := (s.apply c).toOption

def Desk.Opens (s : Desk) (r : Receivable) : Prop :=
  ∀ clock : Clock, clock.now 1 ≠ .invalid →
    ∃ res, openReceivable s.invoice.toInvoice r.id clock (some r) = .ok res ∧
      res.receivable.state = .opened ∧ res.receivable.original = s.invoice.total

/-- No dead end: once the invoice is issued, its drafted receivable can be opened. -/
def Desk.Alive (s : Desk) : Prop :=
  s.invoice.status = .issued ∨ s.invoice.status = .sent → ∀ r ∈ s.draft, s.Opens r

/-- The condition: an invoice with a drafted receivable is issued with the total that the receivable
copied, which is positive, and it is not sent. -/
def Ready (s : Desk) (c : InvoiceCommand) : Prop :=
  (s.step c).isSome → match c with
    | .issue _ _ _ => ∀ r ∈ s.draft,
        r.original.amount = s.invoice.total.amount ∧ 0 < s.invoice.total.amount
    | .send _ _ => s.draft = none
    | _ => True

/-- A drafted receivable describes its invoice, apart from the total. -/
structure Paired (invoice : Invoice) (r : Receivable) : Prop where
  id : invoice.receivableId = some r.id
  invoiceId : r.invoiceId = invoice.id
  state : r.state = .draft
  currency : r.currency = invoice.currency
  money : r.original.currency = invoice.currency
  customerId : r.customerId = invoice.customerId
  dueDate : r.dueDate = invoice.dueDate

structure Desk.Sound (s : Desk) : Prop where
  currency : s.invoice.total.currency = s.invoice.currency
  paired : ∀ r ∈ s.draft, Paired s.invoice.toInvoice r
  issued : s.invoice.status = .issued →
    s.invoice.total.amount ≤ maxSafeInteger ∧ s.invoice.dueDate ≠ .invalid ∧ ∀ r ∈ s.draft,
      r.original.amount = s.invoice.total.amount ∧ 0 < s.invoice.total.amount
  sent : s.invoice.status = .sent → s.draft = none

variable {s s' : Desk} {c : InvoiceCommand} {r : Receivable} {clock : Clock}

/-! ## One step -/

lemma minorToNumber_eq_ok {amount : Money} {n : ℕ} :
    minorToNumber amount = .ok n ↔ amount.amount ≤ maxSafeInteger ∧ n = amount.amount := by
  simp only [minorToNumber, ok_iff, not_lt]

lemma Desk.Sound.opens (hs : s.Sound) (hstatus : s.invoice.status = .issued) (hr : r ∈ s.draft) :
    s.Opens r := by
  obtain ⟨hsafe, hdue, hdraft⟩ := hs.issued hstatus
  obtain ⟨hamount, hpos⟩ := hdraft r hr
  have hp := hs.paired r hr
  intro clock hclock
  obtain ⟨dueText, hdueText⟩ := Date.exists_toISOString.mpr hdue
  obtain ⟨occurredAt, hoccurred⟩ := Date.exists_toISOString.mpr hclock
  have htimes : timesDiffer r.dueDate s.invoice.dueDate = false := by
    rw [hp.dueDate]
    cases hd : s.invoice.dueDate with
    | invalid => exact absurd hd hdue
    | ofTime ms => simp [timesDiffer]
  have hdiffers : draftDiffers r s.invoice.toInvoice = .ok false := by
    have hsame := (Money.equals_eq_ok (a := r.original) (b := s.invoice.total)).mpr
      ⟨hp.money.trans hs.currency.symm, rfl⟩
    simp [draftDiffers, hp.currency, hsame, hamount, hp.customerId, htimes, do_eq]
  have hopen : openDraft s.invoice.toInvoice r.id r (clock.now 0) =
      .ok { r with state := .opened, openedAt := some (clock.now 0) } := by
    simp [openDraft, do_eq, hp.invoiceId, hp.state, hdiffers, hp.id]
  have hminor : minorToNumber s.invoice.total = .ok s.invoice.total.amount :=
    minorToNumber_eq_ok.mpr ⟨hsafe, rfl⟩
  have hok : ∃ res, openReceivable s.invoice.toInvoice r.id clock (some r) = .ok res ∧
      res.receivable = { r with state := .opened, openedAt := some (clock.now 0) } := by
    simp [openReceivable, do_eq, hstatus, Money.isPositive, hpos, hopen, hminor, hdueText,
      domainEvent, hoccurred]
  obtain ⟨res, hres, hr'⟩ := hok
  refine ⟨res, hres, by rw [hr'], ?_⟩
  rw [hr']
  exact Money.ext hamount (hp.money.trans hs.currency.symm)

lemma Desk.Opens.ready (h : s.Opens r) : s.invoice.status = .issued ∧
    r.original.amount = s.invoice.total.amount ∧ 0 < s.invoice.total.amount := by
  obtain ⟨res, hres, -⟩ := h (pinnedClock (.ofTime 0)) (by simp [pinnedClock])
  simp only [openReceivable, ok_iff, not_not] at hres
  obtain ⟨hstatus, hpos, r', hr', -⟩ := hres
  exact ⟨hstatus, (openDraft_original hr').2, by simpa [Money.isPositive,
    Nat.pos_iff_ne_zero] using hpos⟩

lemma Desk.sound_of_step (hs : s.Sound) (h : s.step c = some s') (hc : Ready s c) : s'.Sound := by
  have haccepted : (s.step c).isSome := by rw [h]; rfl
  have hready := hc haccepted
  rw [Desk.step, toOption_eq_some] at h
  cases c with
  | draft receivableId =>
    simp only [Desk.apply, map_eq_ok, draftReceivableFor, ok_iff, not_not] at h
    obtain ⟨_, ⟨hstatus, -, rfl⟩, rfl⟩ := h
    refine ⟨hs.currency, ?_, fun hissued => ?_, fun hsent => ?_⟩
    · rintro _ ⟨⟩
      exact ⟨rfl, rfl, rfl, rfl, hs.currency, rfl, rfl⟩
    · cases hstatus.symm.trans hissued
    · cases hstatus.symm.trans hsent
  | addLine line =>
    simp only [Desk.apply, map_eq_ok, addInvoiceLine, ok_iff, not_not, Money.add_eq_ok] at h
    obtain ⟨_, ⟨hstatus, -, -, _, ⟨-, rfl⟩, rfl⟩, rfl⟩ := h
    refine ⟨hs.currency, fun r hr => { hs.paired r hr with }, fun hissued => ?_, fun hsent => ?_⟩
    · cases hstatus.symm.trans hissued
    · cases hstatus.symm.trans hsent
  | issue n reserveNumber clock =>
    simp only [Desk.apply, map_eq_ok, issueInvoice, bind_eq_ok] at h
    obtain ⟨_, ⟨_, -, _, -, h⟩, rfl⟩ := h
    split at h
    · cases h
    · simp only [ok_iff, minorToNumber_eq_ok] at h
      obtain ⟨-, _, ⟨hsafe, -⟩, due, hdue, _, -, rfl⟩ := h
      refine ⟨hs.currency, fun r hr => { hs.paired r hr with }, fun _ => ?_, (by cases ·)⟩
      exact ⟨hsafe, Date.exists_toISOString.mp ⟨_, hdue⟩, hready⟩
  | send channel clock =>
    simp only [Desk.apply, map_eq_ok, markInvoiceSent, ok_iff] at h
    obtain ⟨_, ⟨_, -, _, -, _, -, _, -, rfl⟩, rfl⟩ := h
    refine ⟨hs.currency, fun r hr => ?_, fun hissued => (by cases hissued), fun _ => hready⟩
    rw [show s.draft = none from hready] at hr
    cases hr

/-! ## Runs -/

/-- **No dead end in invoicing, exactly under the condition.** Along every run from a created
invoice, at every point the drafted receivable of an issued invoice can be opened, with the
invoice's total, if and only if every accepted command meets the condition.

**Proof sketch.** Under the condition the draft describes the invoice from its issue on. Conversely
an opening compares the totals and the status. -/
theorem drafted_opens_iff (id customerId : Uuid) (currency : Currency) (dueDate : Date)
    (cmds : List InvoiceCommand) :
    (∀ k, (run Desk.step ⟨createInvoice id customerId currency dueDate,
      none⟩ (cmds.take k)).Alive) ↔
      Meets Desk.step Ready ⟨createInvoice id customerId currency dueDate, none⟩ cmds := by
  refine forall_run_iff_meets (I := Desk.Sound) ?_
    (fun s c s' hs h hc => Desk.sound_of_step hs h hc)
    ?_ (fun s c h haccepted => by rw [h] at haccepted; cases haccepted) cmds _ ?_
  · rintro s hs (hissued | hsent) r hr
    · exact hs.opens hissued hr
    · rw [hs.sent hsent] at hr
      cases hr
  · intro s c s' hs h halive haccepted
    rw [Desk.step, toOption_eq_some] at h
    cases c with
    | draft receivableId => trivial
    | addLine line => trivial
    | issue n reserveNumber clock =>
      simp only [Desk.apply, map_eq_ok, issueInvoice, bind_eq_ok] at h
      obtain ⟨_, ⟨_, -, _, -, h⟩, rfl⟩ := h
      split at h
      · cases h
      · simp only [ok_iff] at h
        obtain ⟨-, _, -, _, -, _, -, rfl⟩ := h
        exact fun r hr => (halive (.inl rfl) r hr).ready.2
    | send channel clock =>
      simp only [Desk.apply, map_eq_ok, markInvoiceSent, ok_iff] at h
      obtain ⟨_, ⟨-, -, _, -, _, -, rfl⟩, rfl⟩ := h
      refine Option.eq_none_iff_forall_ne_some.mpr fun r hr => ?_
      have hissued := (halive (.inr rfl) r hr).ready.1
      cases hissued
  · constructor <;> simp [createInvoice, Money.zero]

/-- **The receivable that no longer opens.** It is drafted at 10.00, a line of 5.00 follows and the
invoice is issued. Then opening is refused, with the draft and without it. -/
theorem drafted_then_line_added :
    let line := fun n : ℕ => InvoiceCommand.addLine ⟨"rent", ⟨n, .KES⟩⟩
    let s := run Desk.step ⟨createInvoice "i-1" "c-1" .KES (.ofTime 0), none⟩
      [line 1000, .draft "r-1", line 500,
        .issue ⟨some 1, "1"⟩ (fun _ => "INV-1") (pinnedClock (.ofTime 0))]
    s.invoice.status = .issued ∧ s.draft.isSome ∧ (∀ r ∈ s.draft, ¬ s.Opens r) ∧
      ∀ id clock, (openReceivable s.invoice.toInvoice id clock none).toOption = none := by
  intro line s
  have htotal : s.invoice.total.amount = 1500 := by decide
  have hdraft : ∀ r ∈ s.draft, r.original.amount = 1000 := by decide
  have hslot : s.invoice.receivableId ≠ none := by decide
  refine ⟨by decide, by decide, fun r hr h => ?_, fun id clock => ?_⟩
  · have hsame := h.ready.2.1
    rw [htotal, hdraft r hr] at hsame
    cases hsame
  · refine Option.eq_none_iff_forall_ne_some.mpr fun res hres => ?_
    rw [toOption_eq_some] at hres
    simp only [openReceivable, openFresh, Option.elim, bind_eq_ok, throwIf_eq_ok, not_not] at hres
    obtain ⟨_, -, _, -, _, ⟨_, hnone, -⟩, -⟩ := hres
    exact hslot hnone

end Fuatilia.Receivables
