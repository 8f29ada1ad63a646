import Fuatilia.Shared.Money

/-!
# Payment links

A link has a secret token, a fixed target or open bounds, and may be single-use or expire.

## Main definitions

* `createLink`, `redeem` — make a link, and collect under its token.
* `expireIfDue`, `disableLink`, `cancelLink` — end it.

## Implementation notes

A call reads the clock once for its own instant and once for each event, so the readings are
counted. A comparison with an invalid date is false, whichever way it is asked.
-/

namespace Fuatilia.PaymentLinks

open Fallible

/-! ## The aggregate -/

inductive LinkStatus where
  | active | expired | completed | disabled | cancelled
  deriving DecidableEq

def LinkStatus.text : LinkStatus → String
  | active => "active"
  | expired => "expired"
  | completed => "completed"
  | disabled => "disabled"
  | cancelled => "cancelled"

instance : ToString LinkStatus := ⟨LinkStatus.text⟩

structure LinkConfig where
  singleUse : Bool
  allowPartial : Bool
  expiresAt : Option Date
  deriving DecidableEq

structure PaymentLink where
  linkId : Uuid
  orgId : Uuid
  token : String
  receivableIds : List Uuid
  currency : Currency
  targetAmountMinor : Option Money
  minAmountMinor : Option Money
  maxAmountMinor : Option Money
  config : LinkConfig
  status : LinkStatus
  redeemedTotalMinor : Money
  redemptionCount : ℕ
  createdAt : Date
  completedAt : Option Date
  expiredAt : Option Date
  disabledAt : Option Date
  cancelledAt : Option Date
  deriving DecidableEq

structure RedemptionRecord where
  redemptionId : Uuid
  linkId : Uuid
  intentId : Uuid
  amount : Money
  idempotencyKey : String
  redeemedAt : Date

/-! ## Facts -/

inductive LinkMode where
  | fixed | open
  deriving DecidableEq

inductive LinkPayload where
  | created (linkId orgId : Uuid) (receivableIds : List Uuid) (mode : LinkMode)
      (targetAmountMinor minAmountMinor maxAmountMinor : Option ℕ) (currency : Currency)
      (singleUse allowPartial : Bool) (expiresAt : Option Date)
  | redeemed (linkId intentId : Uuid) (amountMinor : ℕ) (currency : Currency) (redeemedAt : Date)
  | completed (linkId : Uuid) (collectedMinor : ℕ) (completedAt : Date)
  | expired (linkId : Uuid) (expiredAt : Date)
  | disabled (linkId : Uuid) (reason : String) (disabledAt : Date)
  | cancelled (linkId : Uuid) (reason : String) (cancelledAt : Date)
  | duplicateRedemptionObserved (linkId : Uuid) (idempotencyKey : String) (intentId : Uuid)
      (seenAt : Date)
  deriving DecidableEq

def LinkPayload.name : LinkPayload → String
  | created .. => "paymentlink.created"
  | redeemed .. => "paymentlink.redeemed"
  | completed .. => "paymentlink.completed"
  | expired .. => "paymentlink.expired"
  | disabled .. => "paymentlink.disabled"
  | cancelled .. => "paymentlink.cancelled"
  | duplicateRedemptionObserved .. => "paymentlink.duplicateRedemptionObserved"

structure PaymentLinkEvent where
  name : String
  version : ℕ
  aggregateId : Uuid
  payload : LinkPayload
  occurredAt : Date
  deriving DecidableEq

def linkEvent (linkId : Uuid) (payload : LinkPayload) (occurredAt : Date) : PaymentLinkEvent :=
  ⟨payload.name, 1, linkId, payload, occurredAt⟩

structure LinkResult where
  link : PaymentLink
  events : List PaymentLinkEvent
  deriving DecidableEq

/-! ## Time -/

def timeGe : Date → Date → Bool
  | .ofTime a, .ofTime b => b ≤ a
  | _, _ => false

def timeLt : Date → Date → Bool
  | .ofTime a, .ofTime b => a < b
  | _, _ => false

/-- The status of a link as time sees it: an active link at or after its expiry reads as expired. -/
def effectiveStatus (link : PaymentLink) (now : Date) : LinkStatus :=
  if link.status = .active ∧ (link.config.expiresAt.any fun expiry => timeGe now expiry) then
    .expired
  else link.status

/-! ## Creation -/

structure CreateLinkCommand where
  orgId : Uuid
  receivableIds : List Uuid
  currency : Currency
  targetAmountMinor : Option Money
  minAmountMinor : Option Money
  maxAmountMinor : Option Money
  config : LinkConfig
  linkId : Option Uuid

def isTokenChar (c : Char) : Bool :=
  c.isUpper || c.isLower || c.isDigit || c == '_' || c == '-'

def assertTokenShape (token : String) : Except Thrown Unit :=
  throwIf (!(16 ≤ token.length && token.length ≤ 128 && token.toList.all isTokenChar))
    (DomainError "LINK_TOKEN_MALFORMED"
      ("link token must be 16-128 URL-safe characters ([A-Za-z0-9_-]); " ++
        "structured or PII-shaped tokens are rejected"))

def checkBound (bound : Option Money) : Except Thrown Unit :=
  throwIf (bound.any fun b => b.amount ≤ 0)
    (DomainError "LINK_BOUNDS_INVALID" "open-amount bounds must be > 0")

def checkBoundsOrdered (min max : Option Money) : Except Thrown Unit :=
  match min, max with
  | some low, some high => do
    let c ← low.compareTo high
    throwIf (c > 0)
      (DomainError "LINK_BOUNDS_INVALID" "minAmountMinor cannot exceed maxAmountMinor")
  | _, _ => .ok ()

/-- Create a payment link; `token` is what the injected generator returns. -/
def createLink (cmd : CreateLinkCommand) (token : String) (clock : Clock) :
    Except Thrown LinkResult := do
  let receivableIds := cmd.receivableIds.eraseDups
  throwIf (receivableIds.length = 0) (DomainError "LINK_RECEIVABLE_REQUIRED"
    "a payment link must reference at least one receivable")
  let fixed := cmd.targetAmountMinor.isSome
  let bounded := cmd.minAmountMinor.isSome || cmd.maxAmountMinor.isSome
  throwIf (fixed && bounded) (DomainError "LINK_AMOUNT_MODE_CONFLICT"
    "a link is either fixed-target or open-amount with bounds — never both")
  throwIf (cmd.targetAmountMinor.any fun target => target.amount ≤ 0)
    (DomainError "LINK_TARGET_INVALID" "the fixed target must be > 0")
  checkBound cmd.minAmountMinor
  checkBound cmd.maxAmountMinor
  checkBoundsOrdered cmd.minAmountMinor cmd.maxAmountMinor
  let createdAt := clock.now 0
  throwIf (cmd.config.expiresAt.any fun expiry => timeGe createdAt expiry)
    (DomainError "LINK_EXPIRY_INVALID" "expiresAt must be strictly in the future")
  assertTokenShape token
  let link : PaymentLink := {
    linkId := cmd.linkId.getD (uuidFromSeed s!"paymentlink:{cmd.orgId}:{token}")
    orgId := cmd.orgId, token, receivableIds, currency := cmd.currency
    targetAmountMinor := cmd.targetAmountMinor
    minAmountMinor := cmd.minAmountMinor, maxAmountMinor := cmd.maxAmountMinor
    config := cmd.config, status := .active
    redeemedTotalMinor := Money.zero cmd.currency, redemptionCount := 0
    createdAt, completedAt := none, expiredAt := none, disabledAt := none, cancelledAt := none }
  return ⟨link, [linkEvent link.linkId
    (.created link.linkId link.orgId link.receivableIds (if fixed then .fixed else .open)
      (cmd.targetAmountMinor.map (·.amount)) (cmd.minAmountMinor.map (·.amount))
      (cmd.maxAmountMinor.map (·.amount)) link.currency link.config.singleUse
      link.config.allowPartial link.config.expiresAt) (clock.now 1)]⟩

/-! ## Lifecycle -/

def assertActive (link : PaymentLink) (op : String) : Except Thrown Unit :=
  throwIf (link.status ≠ .active) (DomainError "LINK_TRANSITION_INVALID"
    (s!"cannot {op} a payment link in status {link.status}; " ++
      s!"only active links can be {op}d"))

def assertReason (reason op : String) : Except Thrown String := do
  let why := trim reason
  throwIf (why = "") (DomainError "LINK_REASON_REQUIRED"
    s!"a {op} transition requires an explicit reason (R3)")
  return why

def expireIfDue (link : PaymentLink) (clock : Clock) : LinkResult :=
  let now := clock.now 0
  match link.config.expiresAt with
  | none => ⟨link, []⟩
  | some expiry =>
    if link.status ≠ .active ∨ timeLt now expiry then ⟨link, []⟩
    else ⟨{ link with status := .expired, expiredAt := some now },
      [linkEvent link.linkId (.expired link.linkId now) (clock.now 1)]⟩

def disableLink (link : PaymentLink) (reason : String) (clock : Clock) :
    Except Thrown LinkResult := do
  assertActive link "disable"
  let why ← assertReason reason "disable"
  let disabledAt := clock.now 0
  return ⟨{ link with status := .disabled, disabledAt := some disabledAt },
    [linkEvent link.linkId (.disabled link.linkId why disabledAt) (clock.now 1)]⟩

def cancelLink (link : PaymentLink) (reason : String) (clock : Clock) :
    Except Thrown LinkResult := do
  assertActive link "cancel"
  let why ← assertReason reason "cancel"
  let cancelledAt := clock.now 0
  return ⟨{ link with status := .cancelled, cancelledAt := some cancelledAt },
    [linkEvent link.linkId (.cancelled link.linkId why cancelledAt) (clock.now 1)]⟩

/-! ## Redemption -/

structure RedeemCommand where
  token : String
  idempotencyKey : String
  amount : Money
  intentId : Option Uuid

structure RedeemResult where
  link : PaymentLink
  redemption : RedemptionRecord
  duplicate : Bool
  events : List PaymentLinkEvent

def remainingTargetMinor (target total : Money) : Except Thrown Money := target.subtract total

def assertPositive (amount : Money) : Except Thrown Unit :=
  throwIf (amount.amount ≤ 0)
    (DomainError "AMOUNT_MUST_BE_POSITIVE" "redemption amounts must be > 0")

def assertSameCurrency (link : PaymentLink) (amount : Money) : Except Thrown Unit :=
  throwIf (amount.currency ≠ link.currency) (DomainError "CURRENCY_MISMATCH"
    s!"cannot redeem {amount.currency} against a {link.currency} link (R10)")

def rejectCode (link : PaymentLink) : LinkStatus → String
  | .expired => "LINK_EXPIRED"
  | .disabled => "LINK_DISABLED"
  | .cancelled => "LINK_CANCELLED"
  | .active | .completed =>
    if link.config.singleUse then "LINK_ALREADY_REDEEMED" else "LINK_COMPLETED"

def rejectStatus (link : PaymentLink) (status : LinkStatus) : Thrown :=
  DomainError (rejectCode link status)
    s!"payment link {link.linkId} is {status} and cannot be redeemed"

def assertAboveMin (amount min : Money) : Except Thrown Unit := do
  let c ← amount.compareTo min
  throwIf (c < 0) (DomainError "LINK_AMOUNT_BELOW_MIN"
    s!"redemption {amount} is below the link minimum {min}")

def assertBelowMax (amount max : Money) : Except Thrown Unit := do
  let c ← amount.compareTo max
  throwIf (c > 0) (DomainError "LINK_AMOUNT_ABOVE_MAX"
    s!"redemption {amount} is above the link maximum {max}")

def assertAmount (link : PaymentLink) (amount : Money) : Except Thrown Unit :=
  match link.targetAmountMinor with
  | some target => do
    let remaining ← remainingTargetMinor target link.redeemedTotalMinor
    if !link.config.allowPartial then do
      let exact ← amount.equals remaining
      throwIf (!exact) (DomainError "LINK_AMOUNT_EXACT_REQUIRED"
        s!"this link accepts only the exact target {remaining}; got {amount}")
    else do
      let c ← amount.compareTo remaining
      throwIf (c > 0) (DomainError "LINK_AMOUNT_EXCEEDS_TARGET"
        s!"partial redemption {amount} would overshoot the remaining target {remaining}")
  | none => do
    forM link.minAmountMinor.toList (assertAboveMin amount)
    forM link.maxAmountMinor.toList (assertBelowMax amount)

def isTargetMet (link : PaymentLink) (total : Money) : Except Thrown Bool :=
  match link.targetAmountMinor with
  | some target => total.equals target
  | none => .ok false

def repeatRedemption (link : PaymentLink) (prior : RedemptionRecord) (cmd : RedeemCommand)
    (idempotencyKey : String) (clock : Clock) : Except Thrown RedeemResult := do
  let same ← prior.amount.equals cmd.amount
  throwIf (!same) (DomainError "LINK_REDEMPTION_AMOUNT_MISMATCH"
    (s!"retry for key {idempotencyKey} carries {cmd.amount} but the original redemption was " ++
      s!"{prior.amount}"))
  return ⟨link, prior, true, [linkEvent link.linkId
    (.duplicateRedemptionObserved link.linkId idempotencyKey prior.intentId (clock.now 0))
    (clock.now 1)]⟩

def newRedemption (link : PaymentLink) (cmd : RedeemCommand) (idempotencyKey : String)
    (clock : Clock) : Except Thrown RedeemResult := do
  let now := clock.now 0
  let status := effectiveStatus link now
  throwIf (status ≠ .active) (rejectStatus link status)
  assertSameCurrency link cmd.amount
  assertAmount link cmd.amount
  let redeemedTotal ← link.redeemedTotalMinor.add cmd.amount
  let targetMet ← isTargetMet link redeemedTotal
  let completes := link.config.singleUse || targetMet
  let intentId := cmd.intentId.getD
    (uuidFromSeed s!"payment-intent:{link.linkId}:{idempotencyKey}")
  let redemption : RedemptionRecord := {
    redemptionId := uuidFromSeed s!"plink-redemption:{link.linkId}:{idempotencyKey}"
    linkId := link.linkId, intentId, amount := cmd.amount, idempotencyKey, redeemedAt := now }
  let nextLink : PaymentLink := { link with
    status := if completes then .completed else .active
    redeemedTotalMinor := redeemedTotal
    redemptionCount := link.redemptionCount + 1
    completedAt := if completes then some now else link.completedAt }
  let redeemed := linkEvent link.linkId
    (.redeemed link.linkId intentId cmd.amount.amount cmd.amount.currency now) (clock.now 1)
  let completed := linkEvent link.linkId
    (.completed link.linkId redeemedTotal.amount now) (clock.now 2)
  return ⟨nextLink, redemption, false, redeemed :: if completes then [completed] else []⟩

def redeem (cmd : RedeemCommand) (links : List PaymentLink) (redemptions : List RedemptionRecord)
    (clock : Clock) : Except Thrown RedeemResult := do
  let token := trim cmd.token
  throwIf (token = "")
    (DomainError "LINK_TOKEN_REQUIRED" "a link token is required to redeem")
  let idempotencyKey := trim cmd.idempotencyKey
  throwIf (idempotencyKey = "")
    (DomainError "LINK_IDEMPOTENCY_KEY_REQUIRED" "idempotencyKey is required (R9)")
  assertPositive cmd.amount
  match links.find? (·.token = token) with
  | none => .error (DomainError "LINK_NOT_FOUND" "no payment link matches the presented token")
  | some link =>
    match redemptions.find? fun r => r.linkId = link.linkId ∧ r.idempotencyKey = idempotencyKey with
    | some prior => repeatRedemption link prior cmd idempotencyKey clock
    | none => newRedemption link cmd idempotencyKey clock

/-! ## What the commands do -/

structure Fresh (link : PaymentLink) : Prop where
  active : link.status = .active
  total : link.redeemedTotalMinor = Money.zero link.currency
  count : link.redemptionCount = 0
  target : ∀ target ∈ link.targetAmountMinor, 0 < target.amount
  token : link.token ≠ ""

variable {clock : Clock} {link : PaymentLink}

variable {result : LinkResult} {reason : String} {cmd : RedeemCommand} {links : List PaymentLink}
  {redemptions : List RedemptionRecord}

lemma createLink_fresh {cmd : CreateLinkCommand} {token : String}
    (h : createLink cmd token clock = .ok result) : Fresh result.link := by
  simp only [createLink, ok_iff, assertTokenShape] at h
  obtain ⟨-, -, htarget, -, -, -, -, -, -, -, htoken, rfl⟩ := h
  refine ⟨rfl, rfl, rfl, ?_, ?_⟩
  · intro target hmem
    have hsome : cmd.targetAmountMinor = some target := hmem
    by_contra hzero
    exact htarget (by simp [hsome]; omega)
  · rintro hempty
    have hempty' : token = "" := hempty
    exact htoken (by simp [hempty'])

lemma expireIfDue_cases (link : PaymentLink) (clock : Clock) :
    (expireIfDue link clock).link = link ∨ link.status = .active ∧
      (expireIfDue link clock).link =
        { link with status := .expired, expiredAt := some (clock.now 0) } := by
  unfold expireIfDue
  cases link.config.expiresAt with
  | none => exact .inl rfl
  | some expiry =>
    dsimp only
    split_ifs with hkeep
    · exact .inl rfl
    · exact .inr ⟨not_not.mp (not_or.mp hkeep).1, rfl⟩

lemma disableLink_eq_ok (h : disableLink link reason clock = .ok result) : link.status = .active ∧
      result.link = { link with status := .disabled, disabledAt := some (clock.now 0) } := by
  simp only [disableLink, assertActive, ok_iff, not_not] at h
  obtain ⟨hactive, _, -, rfl⟩ := h
  exact ⟨hactive, rfl⟩

lemma cancelLink_eq_ok (h : cancelLink link reason clock = .ok result) : link.status = .active ∧
      result.link = { link with status := .cancelled, cancelledAt := some (clock.now 0) } := by
  simp only [cancelLink, assertActive, ok_iff, not_not] at h
  obtain ⟨hactive, _, -, rfl⟩ := h
  exact ⟨hactive, rfl⟩

lemma assertAmount_target {amount target : Money} {u : Unit} (h : assertAmount link amount = .ok u)
    (htarget : link.targetAmountMinor = some target) :
    target.currency = link.redeemedTotalMinor.currency ∧
      link.redeemedTotalMinor.amount + amount.amount ≤ target.amount := by
  simp only [assertAmount, htarget, remainingTargetMinor, bind_eq_ok, Money.subtract_eq_ok] at h
  obtain ⟨remaining, ⟨hcurrency, hle, rfl⟩, h⟩ := h
  refine ⟨hcurrency, ?_⟩
  split_ifs at h with hpartial
  · simp only [bind_eq_ok, Money.equals_eq_ok, throwIf_eq_ok] at h
    obtain ⟨same, ⟨-, rfl⟩, hexact⟩ := h
    simp only [Bool.not_eq_true', decide_eq_false_iff_not, not_not] at hexact
    omega
  · simp only [bind_eq_ok, throwIf_eq_ok] at h
    obtain ⟨c, hc, hle'⟩ := h
    have hover := (Money.compareTo_pos hc).not.mp hle'
    dsimp only at hover
    omega

structure NewRedemption (link : PaymentLink) (cmd : RedeemCommand) (key : String) (now : Date)
    (result : RedeemResult) : Prop where
  active : link.status = .active
  unexpired : ∀ expiry ∈ link.config.expiresAt, timeGe now expiry = false
  currency : cmd.amount.currency = link.currency ∧ link.redeemedTotalMinor.currency = link.currency
  target : ∀ target ∈ link.targetAmountMinor, target.currency = link.currency ∧
    link.redeemedTotalMinor.amount + cmd.amount.amount ≤ target.amount
  duplicate : result.duplicate = false
  redemption : ∃ redemptionId intentId, result.redemption =
    ⟨redemptionId, link.linkId, intentId, cmd.amount, key, now⟩
  next : ∃ completedAt, result.link = { link with
    status := if link.config.singleUse = true ∨ link.targetAmountMinor =
        some ⟨link.redeemedTotalMinor.amount + cmd.amount.amount, link.currency⟩ then .completed
      else .active
    redeemedTotalMinor := ⟨link.redeemedTotalMinor.amount + cmd.amount.amount, link.currency⟩
    redemptionCount := link.redemptionCount + 1
    completedAt }

lemma isTargetMet_eq_ok {total : Money} {met : Bool} (h : isTargetMet link total = .ok met) :
    met = true ↔ link.targetAmountMinor = some total := by
  unfold isTargetMet at h
  split at h
  · rename_i target htarget
    obtain ⟨hcurrency, rfl⟩ := Money.equals_eq_ok.mp h
    rw [htarget, Option.some.injEq, decide_eq_true_eq]
    constructor
    · intro hamount
      exact Money.ext hamount.symm hcurrency.symm
    · rintro rfl
      rfl
  · rename_i hnone
    cases h
    simp [hnone]

lemma newRedemption_eq_ok {key : String} {result : RedeemResult}
    (h : newRedemption link cmd key clock = .ok result) :
    NewRedemption link cmd key (clock.now 0) result := by
  simp only [newRedemption, ok_iff, not_not, assertSameCurrency, Money.add_eq_ok] at h
  obtain ⟨hstatus, hcurrency, _, hamount, total, ⟨hsame, rfl⟩, met, hmet, rfl⟩ := h
  have htotal : link.redeemedTotalMinor.currency = link.currency := hsame.trans hcurrency
  rw [htotal] at hmet ⊢
  have hactive : link.status = .active ∧ ∀ expiry ∈ link.config.expiresAt,
      timeGe (clock.now 0) expiry = false := by
    unfold effectiveStatus at hstatus
    split_ifs at hstatus with hdue
    refine ⟨hstatus, fun expiry hexpiry => ?_⟩
    have hsome : link.config.expiresAt = some expiry := hexpiry
    simpa [hstatus, hsome] using hdue
  refine ⟨hactive.1, hactive.2, ⟨hcurrency, htotal⟩, ?_, rfl, ⟨_, _, rfl⟩, ?_⟩
  · intro target htarget
    have hfits := assertAmount_target hamount htarget
    exact ⟨hfits.1.trans htotal, hfits.2⟩
  · refine ⟨if link.config.singleUse || met then some (clock.now 0) else link.completedAt, ?_⟩
    simp [Bool.or_eq_true, isTargetMet_eq_ok hmet]

/-- **What a redemption does.** It found the link of its token; under a key that the link has seen
it repeats the earlier redemption, and otherwise it is a new one. -/
lemma redeem_cases {result : RedeemResult} (h : redeem cmd links redemptions clock = .ok result) :
    ∃ link ∈ links, link.token = trim cmd.token ∧ trim cmd.idempotencyKey ≠ "" ∧
      0 < cmd.amount.amount ∧
      (result.duplicate = true ∧ result.link = link ∧ result.redemption ∈ redemptions ∨
        (∀ r ∈ redemptions, r.linkId = link.linkId → r.idempotencyKey ≠ trim cmd.idempotencyKey) ∧
          NewRedemption link cmd (trim cmd.idempotencyKey) (clock.now 0) result) := by
  simp only [redeem, ok_iff, assertPositive, not_le] at h
  obtain ⟨-, hkey, hpositive, h⟩ := h
  split at h
  · cases h
  · rename_i link hlink
    obtain ⟨hmem, htoken⟩ := of_find hlink
    refine ⟨link, hmem, htoken, hkey, hpositive, ?_⟩
    split at h
    · rename_i prior hprior
      simp only [repeatRedemption, ok_iff] at h
      obtain ⟨same, -, -, rfl⟩ := h
      exact .inl ⟨rfl, rfl, List.mem_of_find?_eq_some hprior⟩
    · rename_i hnone
      refine .inr ⟨fun r hr hid hkey => ?_, newRedemption_eq_ok h⟩
      have hnot := List.find?_eq_none.mp hnone r hr
      simp [hid, hkey] at hnot

/-- **A repetition returns the earlier redemption**, whatever the link's status is now. -/
lemma redeem_repeat {r : RedemptionRecord}
    (hlink : links.find? (·.token = trim cmd.token) = some link)
    (hr : redemptions.find? (fun r => r.linkId = link.linkId ∧
      r.idempotencyKey = trim cmd.idempotencyKey) = some r)
    (htoken : link.token ≠ "") (hkey : r.idempotencyKey ≠ "") (hpositive : 0 < r.amount.amount)
    (hamount : cmd.amount = r.amount) (clock : Clock) :
    ∃ events, redeem cmd links redemptions clock = .ok ⟨link, r, true, events⟩ := by
  have htoken' : trim cmd.token ≠ "" := (of_find hlink).2 ▸ htoken
  have hkey' : trim cmd.idempotencyKey ≠ "" := (of_find hr).2.2 ▸ hkey
  have hsame : r.amount.equals cmd.amount = .ok true := by
    rw [Money.equals_eq_ok, hamount]
    exact ⟨rfl, by simp⟩
  refine ⟨[linkEvent link.linkId (.duplicateRedemptionObserved link.linkId
    (trim cmd.idempotencyKey) r.intentId (clock.now 0)) (clock.now 1)], ?_⟩
  simp only [redeem, ok_iff, assertPositive, not_le, hlink, hr]
  refine ⟨htoken', hkey', hamount ▸ hpositive, ?_⟩
  simp only [repeatRedemption, hsame]
  rfl

end Fuatilia.PaymentLinks
