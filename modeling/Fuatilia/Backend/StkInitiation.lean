import Fuatilia.Backend.Callbacks

/-!
# The execution of a push

`ExecuteStkPush` asks the rail to prompt a customer for money, and stores the checkout that the rail
accepted, so that the callback finds its organisation and amount. The call lies between two
transactions: a process that dies after it, or that another execution of the same action overtakes,
leaves a checkout that is stored nowhere.

## Main definitions

* `checkStkPush`, `advanceExecution` — the checks of a command, and an execution step by step.
* `Reconcilable`, `Careful` — the law of the checkouts, and the condition on a run.

## Main results

* `checkouts_reconcilable` — the law, in every careful run.

## Implementation notes

The answer of the rail and the readings of the clock are part of the request, so that every answer
occurs. Rows of keys and pushes are never deleted, so a replayed push is read together with its key.
The refusals of the client's in-flight guard are answers of the rail here. The checks of the columns
follow from those of the command.
-/

namespace Fuatilia.Backend.Push

open Fallible Machine Processes

/-! ## The command and its checks -/

structure StkClearance where
  decision : String
  orgID : Uuid
  maxAmountMinor : ℤ
  allowedChannels : List String
  expiresAt : Option ℤ

structure StkApproval where
  ref : String
  approverID : String

/-- One attempt to collect; instants and durations are nanoseconds. -/
structure StkPushCommand where
  actionID : String
  customerID : String
  amountMinor : ℤ
  currency : String
  msisdn : String
  accountReference : String
  transactionDesc : String
  actorID : String
  autonomous : Bool
  consentRef : String
  approval : Option StkApproval
  clearance : Option StkClearance
  ttl : ℤ

def StkConsentChannel : String := "sms"

def DefaultStkPushTTL : ℤ := 2 * 60 * 10 ^ 9

def maxSafeJSONInteger : ℤ := 2 ^ 53 - 1

/-- `^[A-Za-z0-9]{1,12}$`. -/
def accountReferencePattern (s : String) : Bool :=
  1 ≤ s.length && s.length ≤ 12 && s.toList.all Char.isAlphanum

/-- `^ws_CO_[A-Za-z0-9]{6,24}$`. -/
def checkoutEchoPattern (s : String) : Bool := checkoutIDPattern s

/-- The text without the first of the dialling codes that it properly extends. -/
def dropDialling (s : String) : String :=
  match ["+254", "00254", "254", "0"].find? fun code =>
    code.length < s.length && startsWith s code with
  | some code => String.ofList (s.toList.drop code.length)
  | none => s

def darajaWireMSISDN (raw : String) : Except Refusal String := do
  let s := dropDialling (String.ofList
    (raw.toList.filter fun c => c ∉ [' ', '-', '(', ')', '.']))
  throwIf (s.utf8ByteSize ≠ 9 ∨ s.toList.head? ≠ some '7' ∧ s.toList.head? ≠ some '1')
    (.domainError "STK_MSISDN_INVALID"
      ("msisdn is not a normalizable Kenyan number (expected +254 " ++
      "/ 254 / 0 / local shapes, subscriber 9 digits starting 7 or 1)"))
  throwIf (!s.toList.all Char.isDigit)
    (.domainError "STK_MSISDN_INVALID" "msisdn must be digits only")
  return "254" ++ s

def assertStkClearance (now : ℤ) (orgID : Uuid) (amountMinor : ℤ) (clearance : StkClearance) :
    Except Refusal Unit := do
  throwIf (clearance.decision ≠ "allow") (.domainError "STK_CLEARANCE_INVALID"
    ("initiation requires an allow decision, got " ++ clearance.decision ++
      " (a refusal grants nothing)"))
  throwIf (clearance.orgID ≠ orgID)
    (.domainError "STK_DECISION_MISMATCH" "the clearance belongs to another org")
  throwIf (0 < clearance.maxAmountMinor ∧ clearance.maxAmountMinor < amountMinor)
    (.domainError "STK_CLEARANCE_AMOUNT_EXCEEDED"
      "the collection amount exceeds the granted maxAmountMinor")
  throwIf (clearance.allowedChannels ≠ [] ∧ StkConsentChannel ∉ clearance.allowedChannels)
    (.domainError "STK_CLEARANCE_CHANNEL_FORBIDDEN" ("the grant allows channels other than " ++
      StkConsentChannel ++ " — the STK push rides " ++ StkConsentChannel))
  throwIf (∃ expiresAt ∈ clearance.expiresAt, expiresAt ≤ now)
    (.domainError "STK_CLEARANCE_EXPIRED" "the grant lapsed — a lapsed clearance never initiates")

def assertPermission (now : ℤ) (orgID : Uuid) (cmd : StkPushCommand) : Except Refusal Unit :=
  match cmd.approval, cmd.clearance with
  | some approval, _ =>
    throwIf (trim approval.ref = "" ∨ trim approval.approverID = "")
      (.domainError "STK_APPROVAL_INVALID"
        "an approval requires a non-blank reference and approver")
  | none, some clearance => assertStkClearance now orgID cmd.amountMinor clearance
  | none, none => .error (.domainError "STK_CLEARANCE_INVALID"
      "execution requires the policy engine's allow clearance or a human approval")

def initiationIdempotencyKey (actionID : String) : String := "stkpush:" ++ actionID

structure CheckedPush where
  orgID : Uuid
  actionID : String
  actorID : String
  autonomous : Bool
  customerID : Option Uuid
  amountMinor : ℤ
  msisdn : String
  accountReference : String
  transactionDesc : String
  ttl : ℤ
  consentRef : String

def CheckedPush.idempotencyKey (push : CheckedPush) : String :=
  initiationIdempotencyKey push.actionID

def checkStkPush (now : ℤ) (orgID : Uuid) (cmd : StkPushCommand) : Except Refusal CheckedPush := do
  throwIf (trim orgID = "")
    (.domainError "STK_ORG_REQUIRED" "an org is required to execute an STK push")
  let actionID := trim cmd.actionID
  throwIf (actionID = "") (.domainError "STK_ACTION_REQUIRED" "an execution action id is required")
  let actorID := trim cmd.actorID
  throwIf (actorID = "") (.domainError "STK_ACTOR_INVALID" "an execution requires an actor")
  throwIf (cmd.autonomous ∧ cmd.approval ≠ none) (.domainError "STK_AUTONOMY_MISMATCH"
    "autonomous means no human in the loop — an approval contradicts an autonomous push")
  throwIf (cmd.currency ≠ "KES") (.domainError "STK_CURRENCY_UNSUPPORTED"
    ("STK push collects on the M-Pesa rail (KES only), got " ++ cmd.currency ++ " (R10)"))
  throwIf (cmd.amountMinor ≤ 0)
    (.domainError "STK_AMOUNT_INVALID" "the collection amount must be > 0")
  throwIf (maxSafeJSONInteger < cmd.amountMinor) (.domainError "STK_AMOUNT_INVALID"
    "the collection amount exceeds the safe-integer ceiling (cannot be carried losslessly)")
  let msisdn ← darajaWireMSISDN cmd.msisdn
  let reference := trim cmd.accountReference
  throwIf (!accountReferencePattern reference) (.domainError "STK_REFERENCE_INVALID"
    ("accountReference \"" ++ reference ++
      "\" must be 1–12 alphanumerics (the SIM prompt reference)"))
  let description := trim cmd.transactionDesc
  throwIf (description = "" ∨ 26 < description.utf8ByteSize) (.domainError "STK_REFERENCE_INVALID"
    "transactionDesc must be 1–26 characters (the SIM prompt description)")
  let ttl := if cmd.ttl = 0 then DefaultStkPushTTL else cmd.ttl
  throwIf (ttl ≤ 0) (.domainError "STK_TTL_INVALID" "ttl must be a positive duration")
  assertPermission now orgID cmd
  return ⟨orgID, actionID, actorID, cmd.autonomous,
    if trim cmd.customerID = "" then none else some (trim cmd.customerID), cmd.amountMinor, msisdn,
    reference, description, ttl, trim cmd.consentRef⟩

/-! ## What the executions share -/

structure StkPushReceipt where
  merchantRequestID : String
  checkoutRequestID : String
  customerMessage : String

structure InitiationRow extends StkInitiationRow where
  id : Uuid
  actionID : String
  merchantRequestID : String
  idempotencyKey : String
  initiatedAt : ℤ

inductive StkFact where
  | stkPushRefused (actionID stage reasonCode detail : String) (refusedAt : ℤ)
  | stkPushNotInitiated (actionID reason detail : String) (attemptedAt : ℤ)
  | stkPushInitiated (row : InitiationRow) (actorID : String) (autonomous : Bool)
      (ttlMs expiresAt : ℤ)

structure StkPushExecution where
  accepted : Bool
  replayed : Bool
  initiationID : Uuid
  idempotencyKey : String
  receipt : StkPushReceipt
  rejectionReason : String
  expiresAt : Option ℤ

/-- What the executions share: the tables, what each host remembers of the registry of keys, whether
a rail is bound, the accepted checkouts, and the answers given. -/
structure Desk where
  initiations : List InitiationRow
  keys : List KeyRow
  replays : List (ℕ × KeyRow)
  orgs : List Uuid
  customers : List (Uuid × Uuid)
  wireBound : Bool
  outbox : List StkFact
  acceptedCheckouts : List String
  answers : List (Except Refusal StkPushExecution)

def Desk.tables (d : Desk) : World :=
  ⟨[], d.keys, [], [], d.initiations.map InitiationRow.toStkInitiationRow⟩

def Desk.lookupIdempotencyKey (d : Desk) (host : ℕ) (orgID : Uuid) (key : String) : Option Uuid :=
  (((d.replays.filter (·.1 = host)).map Prod.snd |>.find? fun r => r.orgID = orgID ∧ r.key = key).or
    (d.keys.find? fun r => r.orgID = orgID ∧ r.key = key)).map KeyRow.outcomeRef

def Desk.stkInitiationByID (d : Desk) (orgID id : Uuid) : Option InitiationRow :=
  d.initiations.find? fun row => row.orgID = orgID ∧ row.id = id

def Desk.stkInitiationByIdempotencyKey (d : Desk) (orgID : Uuid) (key : String) :
    Option InitiationRow :=
  d.initiations.find? fun row => row.orgID = orgID ∧ row.idempotencyKey = key

/-- The row violates a unique index: of the ids, of the checkouts of all organisations, or of the
keys of an organisation. -/
def InitiationTaken (d : Desk) (row : InitiationRow) : Prop :=
  ∃ r ∈ d.initiations, r.id = row.id ∨ r.checkoutRequestID = row.checkoutRequestID ∨
    r.orgID = row.orgID ∧ r.idempotencyKey = row.idempotencyKey
  deriving Decidable

def PartiesKnown (d : Desk) (orgID : Uuid) (customerID : Option Uuid) : Prop :=
  orgID ∈ d.orgs ∧ ∀ customer ∈ customerID, (orgID, customer) ∈ d.customers
  deriving Decidable

inductive Insertion where
  | inserted (d : Desk)
  | uniqueViolation
  | foreignKeyViolation

def insertStkInitiation (d : Desk) (row : InitiationRow) : Insertion :=
  if InitiationTaken d row then .uniqueViolation
  else if PartiesKnown d row.orgID row.customerID then
    .inserted { d with
      initiations := d.initiations ++ [row]
      keys := bindKey d.keys ⟨row.orgID, row.idempotencyKey, row.id⟩ }
  else .foreignKeyViolation

/-- `ResolveStkInitiation`: only a push that is still open. -/
def Desk.resolveStkInitiation (d : Desk) (orgID : Uuid) (checkoutRequestID : String)
    (state : StkState) : Desk :=
  { d with
    initiations := d.initiations.map fun row =>
      if row.orgID = orgID ∧ row.checkoutRequestID = checkoutRequestID ∧ row.state = .initiated
      then { row with state } else row }

/-! ## The executions -/

/-- An error of the call to the rail; the code is that of the rail, if it has one. -/
structure WireError where
  code : Option String
  text : String

/-- An execution with what its surroundings give it: the host it runs on, the answer of the rail,
the identifier of the stored push, and the readings of the clock. -/
structure Attempt where
  host : ℕ
  orgID : Uuid
  cmd : StkPushCommand
  wire : Except WireError StkPushReceipt
  id : Uuid
  now : ℤ
  attemptedAt : ℤ

inductive StkRequest where
  | execute (attempt : Attempt)
  | settle (orgID : Uuid) (checkoutRequestID : String) (state : StkState)
  | restart (host : ℕ)

inductive Execution where
  /-- The checks and the lookup of the key. -/
  | started (a : Attempt)
  /-- The call to the rail. -/
  | probed (a : Attempt) (push : CheckedPush)
  /-- The record of the refusal. -/
  | rejected (a : Attempt) (push : CheckedPush) (error : WireError)
  /-- The checks of the echo and the transaction. -/
  | accepted (a : Attempt) (push : CheckedPush) (receipt : StkPushReceipt)
  /-- The read of the push that was stored first. -/
  | overtaken (a : Attempt) (push : CheckedPush)
  /-- The note in the memory of the host. -/
  | committed (a : Attempt) (push : CheckedPush) (receipt : StkPushReceipt)
  | settling (orgID : Uuid) (checkoutRequestID : String) (state : StkState)
  | restarting (host : ℕ)

def Execution.start : StkRequest → Execution
  | .execute a => .started a
  | .settle orgID checkoutRequestID state => .settling orgID checkoutRequestID state
  | .restart host => .restarting host

def stkReplay (row : InitiationRow) : StkPushExecution :=
  ⟨true, true, row.id, row.idempotencyKey, ⟨row.merchantRequestID, row.checkoutRequestID, ""⟩, "",
    some (row.initiatedAt + DefaultStkPushTTL)⟩

def Desk.answer (d : Desk) (answer : Except Refusal StkPushExecution) : Desk × Option Execution :=
  ({ d with answers := d.answers ++ [answer] }, none)

def initiationRow (a : Attempt) (push : CheckedPush) (receipt : StkPushReceipt) :
    InitiationRow where
  orgID := push.orgID
  checkoutRequestID := receipt.checkoutRequestID
  customerID := push.customerID
  requestedMinor := push.amountMinor
  currency := "KES"
  state := .initiated
  id := a.id
  actionID := push.actionID
  merchantRequestID := receipt.merchantRequestID
  idempotencyKey := push.idempotencyKey
  initiatedAt := a.attemptedAt

def consentRequired : String :=
  "an autonomous STK push requires an active dunning consent reference (K2) — nothing was sent"

/-- The lookup of the key: a push that was stored is replayed, and a key without its push is
refused; with a free key the rail is called next. -/
def probe (d : Desk) (a : Attempt) (push : CheckedPush) : Desk × Option Execution :=
  match d.lookupIdempotencyKey a.host push.orgID push.idempotencyKey with
  | some ref =>
    match d.stkInitiationByID push.orgID ref with
    | some row => d.answer (.ok (stkReplay row))
    | none => d.answer (.error (.domainError "STK_STATE_INVALID" ("initiation key " ++
        push.idempotencyKey ++ " is claimed but its record is gone — resolve the stuck attempt " ++
        "before re-prompting")))
  | none =>
    if d.wireBound then (d, some (.probed a push))
    else d.answer (.error (.domainError "STK_WIRE_UNAVAILABLE"
      "no STK wire adapter is bound — the Daraja client is not configured in this deployment"))

def store (d : Desk) (a : Attempt) (push : CheckedPush) (receipt : StkPushReceipt) :
    Desk × Option Execution :=
  let row := initiationRow a push receipt
  match insertStkInitiation d row with
  | .uniqueViolation => (d, some (.overtaken a push))
  | .foreignKeyViolation => d.answer (.error (.sqlError "foreign key violation"))
  | .inserted d' =>
    ({ d' with outbox := d'.outbox ++ [.stkPushInitiated row push.actorID push.autonomous
        (push.ttl / 10 ^ 6) (a.attemptedAt + push.ttl)] }, some (.committed a push receipt))

def advanceExecution (d : Desk) : Execution → Desk × Option Execution
  | .started a =>
    match checkStkPush a.now a.orgID a.cmd with
    | .error refusal => d.answer (.error refusal)
    | .ok push =>
      if push.autonomous ∧ push.consentRef = "" then
        Desk.answer { d with outbox := d.outbox ++ [.stkPushRefused push.actionID "consent"
            "STK_CONSENT_REQUIRED" consentRequired a.now] }
          (.error (.domainError "STK_CONSENT_REQUIRED" consentRequired))
      else probe d a push
  | .probed a push =>
    match a.wire with
    | .error error => (d, some (.rejected a push error))
    | .ok receipt =>
      ({ d with acceptedCheckouts := d.acceptedCheckouts ++ [receipt.checkoutRequestID] },
        some (.accepted a push receipt))
  | .rejected a push error =>
    let reason := error.code.getD "STK_WIRE_ECHO_INVALID"
    Desk.answer { d with outbox := d.outbox ++
        [.stkPushNotInitiated push.actionID reason error.text a.attemptedAt] }
      (.ok ⟨false, false, "", push.idempotencyKey, ⟨"", "", ""⟩, reason, none⟩)
  | .accepted a push receipt =>
    if ¬ checkoutEchoPattern receipt.checkoutRequestID then
      d.answer (.error (.domainError "STK_WIRE_ECHO_INVALID" ("rail echo checkoutRequestId \"" ++
        receipt.checkoutRequestID ++ "\" must match ws_CO_<alphanumerics> — dead attempt")))
    else if trim receipt.merchantRequestID = "" then
      d.answer (.error (.domainError "STK_WIRE_ECHO_INVALID"
        "rail echo merchantRequestId is required — dead attempt"))
    else store d a push receipt
  | .overtaken _ push =>
    match d.stkInitiationByIdempotencyKey push.orgID push.idempotencyKey with
    | none => d.answer (.error (.sqlError "stk initiation scan: no rows"))
    | some row => d.answer (.ok (stkReplay row))
  | .committed a push receipt =>
    Desk.answer { d with replays := d.replays ++ [(a.host, ⟨push.orgID, push.idempotencyKey, a.id⟩)]
      } (.ok ⟨true, false, a.id, push.idempotencyKey, receipt, "", some (a.attemptedAt + push.ttl)⟩)
  | .settling orgID checkoutRequestID state =>
    (d.resolveStkInitiation orgID checkoutRequestID state, none)
  | .restarting host => ({ d with replays := d.replays.filter (·.1 ≠ host) }, none)

def desk : Processes.System Desk StkRequest Execution := ⟨Execution.start, advanceExecution⟩

/-! ## The law and the condition -/

/-- The callback with the result of the checkout finds its push. -/
def Stored (d : Desk) (checkout : String) : Prop :=
  (stkInitiationByCheckout d.tables checkout).isSome = true
  deriving Decidable

def Execution.checkout : Execution → Option String
  | .accepted _ _ receipt => some receipt.checkoutRequestID
  | _ => none

/-- **The law.** Every checkout that the rail returned as accepted is stored, except while an
execution that has it from the rail is about to store it. -/
def Reconcilable (s : Processes.State Desk Execution) : Prop :=
  ∀ checkout ∈ s.world.acceptedCheckouts, (∀ p ∈ s.alive, p.checkout ≠ some checkout) →
    Stored s.world checkout

/-- What a stored push occupies: its identifier, and its key within the organisation. -/
structure Slot where
  id : Uuid
  orgID : Uuid
  idempotencyKey : String

def Slot.Clear (slot slot' : Slot) : Prop :=
  slot.id ≠ slot'.id ∧ ¬ (slot.orgID = slot'.orgID ∧ slot.idempotencyKey = slot'.idempotencyKey)
  deriving Decidable

def InitiationRow.slot (row : InitiationRow) : Slot := ⟨row.id, row.orgID, row.idempotencyKey⟩

def Execution.slot : Execution → Option Slot
  | .accepted a push _ => some ⟨a.id, push.orgID, push.idempotencyKey⟩
  | _ => none

/-- The two executions are not about to store pushes of which only one can be stored. -/
def Apart (p q : Execution) : Prop := ∀ slot ∈ p.slot, ∀ slot' ∈ q.slot, slot.Clear slot'
  deriving Decidable

def SlotFree (d : Desk) (slot : Slot) : Prop := ∀ row ∈ d.initiations, slot.Clear row.slot
  deriving Decidable

def EchoValid (receipt : StkPushReceipt) : Prop :=
  checkoutEchoPattern receipt.checkoutRequestID = true ∧ trim receipt.merchantRequestID ≠ ""
  deriving Decidable

/-- The transaction on an accepted push goes through, unless its checkout is stored already. -/
def Storable (d : Desk) : Execution → Prop
  | .accepted a push receipt => EchoValid receipt ∧ PartiesKnown d push.orgID push.customerID ∧
      SlotFree d ⟨a.id, push.orgID, push.idempotencyKey⟩
  | _ => True

instance (d : Desk) : (p : Execution) → Decidable (Storable d p)
  | .accepted .. => inferInstanceAs (Decidable (_ ∧ _ ∧ _))
  | .started .. | .probed .. | .rejected .. | .overtaken .. | .committed .. | .settling ..
  | .restarting .. => inferInstanceAs (Decidable True)

def Execution.afterCall : Execution → Option Execution
  | .probed a push => a.wire.toOption.map (.accepted a push)
  | _ => none

/-- No execution is killed between the acceptance of the rail and its transaction. The rail accepts
with a well-formed echo for known parties, and when it is called no push is stored under the
identifier or the key of the execution, nor is another execution about to store one. -/
def Careful (s : Processes.State Desk Execution) : Processes.Event StkRequest → Prop
  | .begin _ => True
  | .kill i => ∀ p ∈ s.alive[i]?, p.checkout = none
  | .advance i => ∀ p ∈ s.alive[i]?, ∀ p' ∈ p.afterCall, Storable s.world p' ∧
      ∀ q ∈ s.alive.eraseIdx i, Apart p' q

instance (s : Processes.State Desk Execution) :
    (e : Processes.Event StkRequest) → Decidable (Careful s e)
  | .begin _ => inferInstanceAs (Decidable True)
  | .kill i => inferInstanceAs (Decidable (∀ p ∈ s.alive[i]?, _))
  | .advance i => inferInstanceAs (Decidable (∀ p ∈ s.alive[i]?, ∀ p' ∈ p.afterCall, _))

/-! ## What one call can do -/

variable {checkout : String} {d d' : Desk} {p : Execution} {a : Attempt} {push : CheckedPush}
  {receipt : StkPushReceipt} {result : Desk × Option Execution} {i : ℕ}
  {s : Processes.State Desk Execution}

lemma stored_iff :
    Stored d checkout ↔ ∃ row ∈ d.initiations, row.checkoutRequestID = checkout := by
  simp [Stored, stkInitiationByCheckout, Desk.tables]

/-- The call leaves what the law and the condition read. -/
structure Keeps (d d' : Desk) : Prop where
  acceptedCheckouts : d'.acceptedCheckouts = d.acceptedCheckouts
  orgs : d'.orgs = d.orgs
  customers : d'.customers = d.customers
  checkouts : d'.initiations.map (·.checkoutRequestID) = d.initiations.map (·.checkoutRequestID)
  slots : d'.initiations.map (·.slot) = d.initiations.map (·.slot)

/-- The call leaves the pushes, and the execution is not left with a checkout to store. -/
def Idle (d : Desk) (result : Desk × Option Execution) : Prop :=
  Keeps d result.1 ∧ ∀ q ∈ result.2, q.checkout = none

lemma keeps_refl (d : Desk) : Keeps d d := ⟨rfl, rfl, rfl, rfl, rfl⟩

lemma idle_answer (d : Desk) (answer : Except Refusal StkPushExecution) :
    Idle d (d.answer answer) :=
  ⟨⟨rfl, rfl, rfl, rfl, rfl⟩, by simp [Desk.answer]⟩

lemma idle_probe (d : Desk) (a : Attempt) (push : CheckedPush) : Idle d (probe d a push) := by
  unfold probe
  split
  · split <;> exact idle_answer d _
  · split_ifs
    · exact ⟨keeps_refl d, by simp [Execution.checkout]⟩
    · exact idle_answer d _

lemma idle_resolve (d : Desk) (orgID : Uuid) (checkout : String) (state : StkState) :
    Idle d (d.resolveStkInitiation orgID checkout state, none) := by
  refine ⟨⟨rfl, rfl, rfl, ?_, ?_⟩, by simp⟩
  all_goals
    rw [Desk.resolveStkInitiation, List.map_map]
    refine List.map_congr_left fun row _ => ?_
    rw [Function.comp_apply]
    split_ifs <;> rfl

lemma idle_of_checkout_eq_none (d : Desk) (h : p.checkout = none) (hcall : p.afterCall = none) :
    Idle d (advanceExecution d p) := by
  cases p with
  | started a =>
    simp only [advanceExecution]
    split
    · exact idle_answer d _
    · split_ifs
      · exact ⟨⟨rfl, rfl, rfl, rfl, rfl⟩, by simp [Desk.answer]⟩
      · exact idle_probe d a _
  | probed a push =>
    cases hwire : a.wire with
    | error error =>
      simp only [advanceExecution, hwire]
      exact ⟨keeps_refl d, by simp [Execution.checkout]⟩
    | ok receipt => simp [Execution.afterCall, hwire, Except.toOption] at hcall
  | rejected a push error =>
    exact ⟨⟨rfl, rfl, rfl, rfl, rfl⟩, by simp [advanceExecution, Desk.answer]⟩
  | accepted a push receipt => cases h
  | overtaken a push =>
    simp only [advanceExecution]
    split <;> exact idle_answer d _
  | committed a push receipt =>
    exact ⟨⟨rfl, rfl, rfl, rfl, rfl⟩, by simp [advanceExecution, Desk.answer]⟩
  | settling orgID checkout state => exact idle_resolve d orgID checkout state
  | restarting host => exact ⟨⟨rfl, rfl, rfl, rfl, rfl⟩, by simp [advanceExecution]⟩

/-- The push is stored and the execution is left without a checkout. -/
structure Stores (d : Desk) (row : InitiationRow) (result : Desk × Option Execution) : Prop where
  acceptedCheckouts : result.1.acceptedCheckouts = d.acceptedCheckouts
  orgs : result.1.orgs = d.orgs
  customers : result.1.customers = d.customers
  initiations : result.1.initiations = d.initiations ++ [row]
  next : ∀ q ∈ result.2, q.checkout = none

lemma advance_accepted (h : Storable d (.accepted a push receipt)) :
    Stores d (initiationRow a push receipt) (advanceExecution d (.accepted a push receipt)) ∨
      Stored d receipt.checkoutRequestID ∧
      Idle d (advanceExecution d (.accepted a push receipt)) := by
  obtain ⟨⟨hcheckout, hmerchant⟩, hparties, hfree⟩ := h
  simp only [advanceExecution, hcheckout, not_true_eq_false, if_false, hmerchant, store,
    insertStkInitiation]
  by_cases htaken : InitiationTaken d (initiationRow a push receipt)
  · right
    rw [if_pos htaken]
    refine ⟨stored_iff.mpr ?_, keeps_refl d, by simp [Execution.checkout]⟩
    -- the slot is free, so it is the checkout that is taken
    obtain ⟨row, hrow, hid | hsame | hkey⟩ := htaken
    · exact absurd hid.symm (hfree row hrow).1
    · exact ⟨row, hrow, hsame⟩
    · exact absurd ⟨hkey.1.symm, hkey.2.symm⟩ (hfree row hrow).2
  · left
    have hparties : PartiesKnown d (initiationRow a push receipt).orgID
        (initiationRow a push receipt).customerID := hparties
    rw [if_neg htaken, if_pos hparties]
    exact ⟨rfl, rfl, rfl, rfl, by simp [Execution.checkout]⟩

/-! ## The law along an interleaving -/

lemma Keeps.stored (h : Keeps d d') :
    Stored d' checkout ↔ Stored d checkout := by
  have hmem : ∀ d : Desk, Stored d checkout ↔
      checkout ∈ d.initiations.map (·.checkoutRequestID) := by
    intro d
    rw [stored_iff, List.mem_map]
  rw [hmem, hmem, h.checkouts]

lemma slotFree_iff {slot : Slot} :
    SlotFree d slot ↔ ∀ slot' ∈ d.initiations.map (·.slot), slot.Clear slot' := by
  simp [SlotFree]

lemma partiesKnown_congr (horgs : d'.orgs = d.orgs) (hcustomers : d'.customers = d.customers)
    {orgID : Uuid} {customerID : Option Uuid} (h : PartiesKnown d orgID customerID) :
    PartiesKnown d' orgID customerID := by
  rw [PartiesKnown, horgs, hcustomers]
  exact h

lemma Keeps.storable (h : Keeps d d') (hp : Storable d p) :
    Storable d' p := by
  cases p with
  | accepted a push receipt =>
    obtain ⟨hecho, hparties, hfree⟩ := hp
    refine ⟨hecho, partiesKnown_congr h.orgs h.customers hparties, ?_⟩
    rw [slotFree_iff, h.slots]
    exact slotFree_iff.mp hfree
  | _ => trivial

lemma Stores.storable (h : Stores d (initiationRow a push receipt) result) {q : Execution}
    (hq : Storable d q) (hapart : Apart q (.accepted a push receipt)) :
    Storable result.1 q := by
  cases q with
  | accepted a' push' receipt' =>
    obtain ⟨hecho, hparties, hfree⟩ := hq
    refine ⟨hecho, partiesKnown_congr h.orgs h.customers hparties, fun row hrow => ?_⟩
    rw [h.initiations] at hrow
    rcases Lists.mem_concat hrow with hold | rfl
    · exact hfree row hold
    · exact hapart _ rfl _ rfl
  | _ => trivial

lemma Stores.stored {row : InitiationRow} (h : Stores d row result)
    (hstored : Stored d checkout ∨ row.checkoutRequestID = checkout) :
    Stored result.1 checkout := by
  rw [stored_iff, h.initiations]
  rcases hstored with hstored | hsame
  · obtain ⟨old, hold, hcheckout⟩ := stored_iff.mp hstored
    exact ⟨old, List.mem_append_left _ hold, hcheckout⟩
  · exact ⟨row, List.mem_concat_self, hsame⟩

lemma Slot.Clear.symm {slot slot' : Slot} (h : slot.Clear slot') : slot'.Clear slot :=
  ⟨h.1.symm, fun heq => h.2 ⟨heq.1.symm, heq.2.symm⟩⟩

lemma Apart.symm {q : Execution} (h : Apart p q) : Apart q p :=
  fun slot hslot slot' hslot' => (h slot' hslot' slot hslot).symm

lemma apart_of_checkout_eq_none (h : p.checkout = none) (q : Execution) :
    Apart p q := by
  intro slot hslot
  cases p with
  | accepted a push receipt => cases h
  | _ => cases hslot

structure Sound (s : Processes.State Desk Execution) : Prop where
  reconcilable : Reconcilable s
  storable : ∀ p ∈ s.alive, Storable s.world p
  apart : s.alive.Pairwise Apart

lemma storable_of_checkout_eq_none (h : p.checkout = none) :
    Storable d p := by
  cases p with
  | accepted a push receipt => cases h
  | _ => trivial

lemma start_checkout (r : StkRequest) : (Execution.start r).checkout = none := by
  cases r <;> rfl

lemma Sound.idle (hs : Sound s) (hp : s.alive[i]? = some p)
    (hidle : Idle s.world (advanceExecution s.world p))
    (hcheckout : ∀ checkout ∈ p.checkout, Stored s.world checkout) :
    Sound ⟨(advanceExecution s.world p).1,
      replace s.alive i (advanceExecution s.world p).2⟩ := by
  obtain ⟨hkeeps, hnext⟩ := hidle
  refine ⟨fun checkout hmem hfree => ?_, fun q hq => ?_, ?_⟩
  · rw [hkeeps.acceptedCheckouts] at hmem
    rw [hkeeps.stored]
    by_cases hown : p.checkout = some checkout
    · exact hcheckout checkout hown
    · refine hs.reconcilable checkout hmem fun q hq => ?_
      rcases mem_of_replace hp hq with rfl | hq
      · exact hown
      · exact hfree q hq
  · rcases mem_replace hq with hold | hnew
    · exact hkeeps.storable (hs.storable q hold)
    · exact storable_of_checkout_eq_none (hnext q hnew)
  · exact pairwise_replace (fun _ _ => Apart.symm) hs.apart fun q hq _ _ =>
      apart_of_checkout_eq_none (hnext q hq) _

lemma Sound.stores (hs : Sound s) (hp : s.alive[i]? = some (.accepted a push receipt))
    (hstores : Stores s.world (initiationRow a push receipt) result) :
    Sound ⟨result.1, replace s.alive i result.2⟩ := by
  refine ⟨fun checkout hmem hfree => hstores.stored ?_, fun q hq => ?_, ?_⟩
  · rw [hstores.acceptedCheckouts] at hmem
    by_cases hown : receipt.checkoutRequestID = checkout
    · exact .inr hown
    · refine .inl (hs.reconcilable checkout hmem fun q hq => ?_)
      rcases mem_of_replace hp hq with rfl | hq
      · exact fun heq => hown (Option.some.inj heq)
      · exact hfree q hq
  · by_cases hchecked : q.checkout = none
    · exact storable_of_checkout_eq_none hchecked
    · -- an execution with a checkout to store is another one, which is apart from this
      have hother : q ∈ s.alive.eraseIdx i := by
        cases hnext : result.2 with
        | none => rwa [hnext] at hq
        | some p' =>
          rw [hnext] at hq
          rcases Lists.mem_set_cases hq with rfl | ⟨j, hne, hj⟩
          · exact absurd (hstores.next q hnext) hchecked
          · exact mem_eraseIdx_of_ne hj hne
      exact hstores.storable (hs.storable q (List.mem_of_mem_eraseIdx hother))
        (rel_of_pairwise (fun _ _ => Apart.symm) hs.apart hp hother).symm
  · exact pairwise_replace (fun _ _ => Apart.symm) hs.apart fun q hq _ _ =>
      apart_of_checkout_eq_none (hstores.next q hq) _

lemma Sound.accepts (hs : Sound s) (hp : s.alive[i]? = some (.probed a push))
    (hstorable : Storable s.world (.accepted a push receipt))
    (hapart : ∀ q ∈ s.alive.eraseIdx i, Apart (.accepted a push receipt) q) :
    Sound ⟨{ s.world with
        acceptedCheckouts := s.world.acceptedCheckouts ++ [receipt.checkoutRequestID] },
      s.alive.set i (.accepted a push receipt)⟩ := by
  refine ⟨fun checkout hmem hfree => ?_, fun q hq => ?_, ?_⟩
  · have hnot := hfree _ (Lists.mem_set_self hp)
    rcases List.mem_append.mp hmem with hold | hnew
    · refine hs.reconcilable checkout hold fun q hq => ?_
      have hcases : q = .probed a push ∨
          q ∈ replace s.alive i (some (.accepted a push receipt)) :=
        mem_of_replace hp hq
      rcases hcases with rfl | hq
      · exact (nomatch ·)
      · exact hfree q hq
    · exact absurd (congrArg some (List.mem_singleton.mp hnew).symm) hnot
  · rcases List.mem_or_eq_of_mem_set hq with hold | rfl
    · exact hs.storable q hold
    · exact hstorable
  · show (replace s.alive i (some (.accepted a push receipt))).Pairwise Apart
    exact pairwise_replace (fun _ _ => Apart.symm) hs.apart fun q hq =>
      Option.mem_some.mp hq ▸ hapart

lemma Sound.step {s' : Processes.State Desk Execution} {e : Processes.Event StkRequest}
    (hcareful : Careful s e) (hs : Sound s) (h : Processes.step desk s e = some s') : Sound s' := by
  rcases step_cases h with ⟨r, rfl, rfl⟩ | ⟨i, p, rfl, hp, rfl⟩ | ⟨i, rfl, rfl⟩
  · have hstart : (desk.start r).checkout = none := start_checkout r
    refine ⟨fun checkout hmem hfree => ?_, ?_, ?_⟩
    · exact hs.reconcilable checkout hmem fun q hq => hfree q (List.mem_append_left _ hq)
    · exact Lists.forall_mem_concat hs.storable (storable_of_checkout_eq_none hstart)
    · exact Lists.pairwise_concat hs.apart fun q _ => (apart_of_checkout_eq_none hstart q).symm
  · cases hcheckout : p.checkout with
    | some checkout =>
      cases p with
      | accepted a push receipt =>
        have hstorable := hs.storable _ (List.mem_of_getElem? hp)
        rcases advance_accepted hstorable with hstores | ⟨hstored, hidle⟩
        · exact hs.stores hp hstores
        · exact hs.idle hp hidle fun c hc => Option.some.inj hc ▸ hstored
      | _ => cases hcheckout
    | none =>
      cases hcall : p.afterCall with
      | none =>
        refine hs.idle hp (idle_of_checkout_eq_none s.world hcheckout hcall) fun c hc => ?_
        rw [hcheckout] at hc
        cases hc
      | some p' =>
        obtain ⟨hstorable, hapart⟩ := hcareful p hp p' hcall
        cases p with
        | probed a push =>
          obtain ⟨receipt, hwire, rfl⟩ := map_toOption_eq_some.mp hcall
          have hadvance : advanceExecution s.world (.probed a push) = ({ s.world with
              acceptedCheckouts := s.world.acceptedCheckouts ++ [receipt.checkoutRequestID] },
              some (.accepted a push receipt)) := by
            simp [advanceExecution, hwire]
          show Sound ⟨(advanceExecution s.world _).1,
            replace s.alive i (advanceExecution s.world _).2⟩
          rw [hadvance]
          exact hs.accepts hp hstorable hapart
        | _ => cases hcall
  · refine ⟨fun checkout hmem hfree => ?_, fun q hq => ?_, ?_⟩
    · refine hs.reconcilable checkout hmem fun q hq => ?_
      obtain ⟨j, hj⟩ := List.mem_iff_getElem?.mp hq
      rcases eq_or_ne j i with rfl | hne
      · rw [hcareful q hj]
        exact (nomatch ·)
      · exact hfree q (mem_eraseIdx_of_ne hj hne)
    · exact hs.storable q (List.mem_of_mem_eraseIdx hq)
    · exact hs.apart.sublist (List.eraseIdx_sublist _ _)

/-- **Every accepted checkout can be reconciled.** From a desk on which every accepted checkout is
stored, along every careful interleaving of executions, settlements and restarts, every accepted
checkout is stored at every point at which no execution is about to store it. -/
theorem checkouts_reconcilable (d : Desk) (hd : ∀ checkout ∈ d.acceptedCheckouts, Stored d checkout)
    (events : List (Processes.Event StkRequest))
    (hcareful : Meets (Processes.step desk) Careful ⟨d, []⟩ events) (k : ℕ) :
    Reconcilable (run (Processes.step desk) ⟨d, []⟩ (events.take k)) := by
  have hstart : Sound ⟨d, []⟩ := by
    refine ⟨fun checkout hmem _ => hd checkout hmem, fun p hp => ?_, List.Pairwise.nil⟩
    exact absurd hp List.not_mem_nil
  exact (Machine.invariant_at (fun _ _ _ hC hs h => Sound.step hC hs h) hstart hcareful
    k).reconcilable

/-! ## Runs of one action -/

def emptyDesk : Desk := ⟨[], [], [], ["org"], [("org", "cus")], true, [], [], []⟩

def attempt (host : ℕ) (checkout id : String) : Attempt where
  host := host
  orgID := "org"
  cmd := ⟨"act1", "cus", 150000, "KES", "0712345678", "INV1", "Invoice 1", "ann", false, "",
    some ⟨"apr1", "bob"⟩, none, 0⟩
  wire := .ok ⟨"mr1", checkout, ""⟩
  id := id
  now := 0
  attemptedAt := 1

def first : Attempt := attempt 0 "ws_CO_aaaaaa" "i1"

def second : Attempt := attempt 1 "ws_CO_bbbbbb" "i2"

/-- The second execution begins when the first has ended. -/
def inTurn : List (Processes.Event StkRequest) :=
  [.begin (.execute first), .advance 0, .advance 0, .advance 0, .advance 0,
    .begin (.execute second), .advance 0]

/-- Both executions look up the key before either has stored its push. -/
def racing : List (Processes.Event StkRequest) :=
  [.begin (.execute first), .begin (.execute second), .advance 0, .advance 1, .advance 0,
    .advance 1, .advance 0, .advance 1, .advance 0, .advance 0]

/-- The execution is killed after the rail has accepted. -/
def crashing : List (Processes.Event StkRequest) :=
  [.begin (.execute first), .advance 0, .advance 0, .kill 0]

theorem checkouts_reconcilable_inTurn :
    Reconcilable (run (Processes.step desk) ⟨emptyDesk, []⟩ (inTurn.take 7)) ∧
      (run (Processes.step desk) ⟨emptyDesk, []⟩ inTurn).world.acceptedCheckouts =
        ["ws_CO_aaaaaa"] :=
  ⟨checkouts_reconcilable emptyDesk (fun _ h => absurd h List.not_mem_nil) inTurn
    (by decide +kernel) 7, by decide +kernel⟩

/-- The rail accepted the checkout, no execution is alive, and the checkout is not stored. -/
def Lost (checkout : String) (s : Processes.State Desk Execution) : Prop :=
  s.alive.length = 0 ∧ checkout ∈ s.world.acceptedCheckouts ∧ ¬ Stored s.world checkout
  deriving Decidable

/-- The checkout of the execution that is overtaken is lost, and so is that of one that is
killed. -/
theorem accepted_checkout_lost :
    Lost "ws_CO_bbbbbb" (run (Processes.step desk) ⟨emptyDesk, []⟩ racing) ∧
      Lost "ws_CO_aaaaaa" (run (Processes.step desk) ⟨emptyDesk, []⟩ crashing) := by
  decide +kernel

end Fuatilia.Backend.Push
