import Fuatilia.Payments.Payment

/-!
# The wire of the STK push

Whether a callback reports a success is derived from its result code, and a success carries the
amount that was paid and a receipt.

## Main definitions

* `StkPushWire` — the initiation port.
* `assertStkResultCallback` — the boundary of the result callbacks.

## Main results

* `assertStkResultCallback_eq_ok` — which callbacks pass.
-/

namespace Fuatilia.Stk

open Fallible

/-! ## The initiation port -/

structure StkPushInitiationCommand where
  actionId : Uuid
  orgId : Uuid
  customerId : Uuid
  amountMinor : ℕ
  msisdn : String
  accountReference : String
  transactionDesc : String
  idempotencyKey : String

inductive StkPushInitiationOutcome where
  | accepted (merchantRequestId checkoutRequestId : String) (customerMessage : Option String)
  | rejected (failureReason : String)

abbrev StkPushWire := StkPushInitiationCommand → StkPushInitiationOutcome

/-! ## The shapes of the rail's texts -/

/-- `/^ws_CO_[A-Za-z0-9]{6,24}$/`. -/
def isCheckoutId (s : String) : Bool :=
  startsWith s "ws_CO_" && 12 ≤ s.length && s.length ≤ 30 &&
    (s.toList.drop 6).all Char.isAlphanum

/-- `/^[A-Z0-9]{10,22}$/`. -/
def isTransId (s : String) : Bool :=
  10 ≤ s.length && s.length ≤ 22 && s.toList.all fun c => c.isUpper || c.isDigit

/-- `/^254[17]\d{8}$/`. -/
def isWireMsisdn (s : String) : Bool :=
  startsWith s "254" && s.length == 12 &&
    ((s.toList.drop 3).head?.any fun c => c == '1' || c == '7') &&
    (s.toList.drop 4).all Char.isDigit

/-! ## The result callback -/

structure StkPushResultCallbackInput where
  checkoutRequestId : String
  merchantRequestId : String
  resultCode : JsNumber
  resultDesc : String
  receiptNumber : Option String
  paidMinor : Option MoneyInput
  msisdn : Option String

structure StkPushResultCallback where
  checkoutRequestId : String
  merchantRequestId : String
  resultCode : JsNumber
  resultDesc : String
  success : Bool
  receiptNumber : Option String
  paidMinor : Option ℤ
  msisdn : Option String

def requireNonBlank (raw field : String) : Except Thrown String := do
  throwIf (trim raw = "") (DomainError "STK_CALLBACK_INVALID" s!"{field} is required (non-blank)")
  return trim raw

def assertCheckoutRequestId (raw : String) : Except Thrown String := do
  let checkoutRequestId ← requireNonBlank raw "checkoutRequestId"
  throwIf (!isCheckoutId checkoutRequestId) (.domainError "STK_CALLBACK_INVALID"
    s!"checkoutRequestId \"{checkoutRequestId}\" must match ws_CO_<alphanumerics>"
    [("value", checkoutRequestId)])
  return checkoutRequestId

def assertResultCode (raw : JsNumber) : Except Thrown Unit :=
  throwIf (raw.safeInteger.all (· < 0)) (.domainError "STK_CALLBACK_INVALID"
    s!"resultCode {raw.text} must be a non-negative safe integer" [("value", raw.text)])

def assertReceiptNumber : Option String → Except Thrown (Option String)
  | none => .ok none
  | some raw => do
    let receipt ← requireNonBlank raw "receiptNumber"
    throwIf (!isTransId receipt) (.domainError "STK_CALLBACK_INVALID"
      s!"receiptNumber \"{receipt}\" must be uppercase [A-Z0-9] (10–22 chars)" [("value", receipt)])
    return some receipt

def positiveMinor : MoneyInput → Option ℤ
  | .bigint n => if 0 < n then some n else none
  | .number x => x.safeInteger.filter (0 < ·)

def amountText : MoneyInput → String
  | .bigint n => toString n
  | .number x => x.text

def assertPaidMinor : Option MoneyInput → Except Thrown (Option ℤ)
  | none => .ok none
  | some raw => match positiveMinor raw with
    | some n => .ok (some n)
    | none => .error (DomainError "STK_CALLBACK_INVALID"
        s!"paidMinor {amountText raw} must be a positive integer (minor units, R10)")

def assertCallbackMsisdn : Option String → Except Thrown (Option String)
  | none => .ok none
  | some raw => do
    let value ← requireNonBlank raw "msisdn"
    throwIf (!isWireMsisdn value) (.domainError "STK_CALLBACK_INVALID"
      (s!"msisdn \"{value}\" must be a Safaricom number in 2547XXXXXXXX / 2541XXXXXXXX form")
      [("value", value)])
    return some value

def assertStkResultCallback (raw : StkPushResultCallbackInput) :
    Except Thrown StkPushResultCallback := do
  let checkoutRequestId ← assertCheckoutRequestId raw.checkoutRequestId
  let merchantRequestId ← requireNonBlank raw.merchantRequestId "merchantRequestId"
  let resultDesc ← requireNonBlank raw.resultDesc "resultDesc"
  assertResultCode raw.resultCode
  let success := raw.resultCode.value == some 0
  let receiptNumber ← assertReceiptNumber raw.receiptNumber
  let paidMinor ← assertPaidMinor raw.paidMinor
  let msisdn ← assertCallbackMsisdn raw.msisdn
  throwIf (success ∧ paidMinor = none) (DomainError "STK_CALLBACK_INVALID"
    "a successful STK result carries the CallbackMetadata Amount (paidMinor)")
  throwIf (success ∧ receiptNumber = none) (DomainError "STK_CALLBACK_INVALID"
    "a successful STK result carries an MpesaReceiptNumber")
  return {
    checkoutRequestId, merchantRequestId, resultCode := raw.resultCode, resultDesc, success,
    receiptNumber, paidMinor, msisdn }

/-! ## Keys -/

def initiationIdempotencyKey (actionId : Uuid) : String := "stkpush:" ++ actionId

def paymentIdempotencyKey (checkoutRequestId : String) : String :=
  "daraja:stk:" ++ checkoutRequestId

/-! ## The payer's number -/

/-- The characters that the normalisation strips: `[\s\-().]`. -/
def isSeparator (c : Char) : Bool := isTrimmed c || c == '-' || c == '(' || c == ')' || c == '.'

/-- The part of a Kenyan number after the country code or the trunk zero:
`/^(?:\+254|00254|254|0)?([71]\d{8})$/`. -/
def subscriberPart (stripped : List Char) : Option (List Char) :=
  let code := stripped.take (stripped.length - 9)
  let subscriber := stripped.drop (stripped.length - 9)
  if (["", "+254", "00254", "254", "0"].map String.toList).contains code && subscriber.length == 9
      && (subscriber.head?.any fun c => c == '7' || c == '1') && subscriber.all Char.isDigit then
    some subscriber
  else none

def normalizeMsisdn (raw : String) : Except Thrown String :=
  match subscriberPart (raw.toList.filter fun c => !isSeparator c) with
  | some subscriber => .ok ("+254" ++ String.ofList subscriber)
  | none => .error (.domainError "USSD_MSISDN_INVALID"
      ("not a normalizable Kenyan MSISDN (expected +254 / 254 / 0 / local shapes, subscriber 9 " ++
        "digits starting 7 or 1)")
      [("rawLength", toString (codeUnits raw).length)])

def toDarajaMsisdn (normalized : String) : Except Thrown String := do
  let wire := if startsWith normalized "+" then String.ofList (normalized.toList.drop 1)
    else normalized
  throwIf (!isWireMsisdn wire) (.domainError "STK_MSISDN_INVALID"
    (s!"msisdn \"{normalized}\" does not encode to Daraja wire form 2547XXXXXXXX / 2541XXXXXXXX")
    [("value", normalized)])
  return wire

/-! ## What the boundary lets through -/

variable {s checkout : String}

lemma trim_ne_empty {c : Char} (hc : c ∈ s.toList) (h : isTrimmed c = false) : trim s ≠ "" := by
  intro hblank
  have hnil : ((s.toList.dropWhile isTrimmed).reverse.dropWhile isTrimmed) = [] := by
    have hlist := congrArg String.toList hblank
    simpa [trim] using hlist
  have hall := List.dropWhile_eq_nil_iff.mp hnil
  rw [← List.takeWhile_append_dropWhile (p := isTrimmed) (l := s.toList)] at hc
  rcases List.mem_append.mp hc with htaken | hleft
  · have htrimmed := List.mem_takeWhile_imp htaken
    rw [h] at htrimmed
    cases htrimmed
  · have htrimmed := hall c (List.mem_reverse.mpr hleft)
    rw [h] at htrimmed
    cases htrimmed

lemma isTrimmed_of_isAlphanum {c : Char} (h : c.isAlphanum = true) : isTrimmed c = false := by
  have hrange : (65 ≤ c.toNat ∧ c.toNat ≤ 90 ∨ 97 ≤ c.toNat ∧ c.toNat ≤ 122) ∨
      48 ≤ c.toNat ∧ c.toNat ≤ 57 := by
    simpa [Char.isAlphanum, Char.isAlpha, Char.isUpper, Char.isLower, Char.isDigit,
      UInt32.le_iff_toNat_le] using h
  simp only [isTrimmed, Bool.or_eq_false_iff, Bool.and_eq_false_iff, beq_eq_false_iff_ne,
    decide_eq_false_iff_not]
  omega

lemma isTrimmed_of_isTransId (h : isTransId s = true) : ∀ c ∈ s.toList, isTrimmed c = false := by
  simp only [isTransId, Bool.and_eq_true, List.all_eq_true, Bool.or_eq_true] at h
  intro c hc
  refine isTrimmed_of_isAlphanum ?_
  rcases h.2 c hc with hupper | hdigit <;> simp [Char.isAlphanum, Char.isAlpha, *]

lemma isTrimmed_of_isCheckoutId (h : isCheckoutId s = true) :
    ∀ c ∈ s.toList, isTrimmed c = false := by
  simp only [isCheckoutId, Bool.and_eq_true, List.all_eq_true] at h
  obtain ⟨⟨⟨hstart, -⟩, -⟩, hrest⟩ := h
  exact forall_of_startsWith hstart (by decide) fun c hc => isTrimmed_of_isAlphanum (hrest c hc)

def StkPushResultCallback.reference (callback : StkPushResultCallback) : String :=
  callback.receiptNumber.getD callback.checkoutRequestId

structure StkPushResultCallback.Valid (callback : StkPushResultCallback) : Prop where
  checkout : isCheckoutId callback.checkoutRequestId = true
  reference_trimmed : trim callback.reference = callback.reference
  reference_ne : callback.reference ≠ ""
  paid : callback.success = true → callback.paidMinor ≠ none

lemma assertReceiptNumber_eq_ok {raw receipt : Option String}
    (h : assertReceiptNumber raw = .ok receipt) : ∀ r ∈ receipt, isTransId r = true := by
  cases raw with
  | none =>
    cases h
    simp
  | some raw =>
    simp only [assertReceiptNumber, ok_iff] at h
    obtain ⟨r, -, hshape, rfl⟩ := h
    simpa using hshape

lemma assertCheckoutRequestId_eq_ok {raw : String}
    (h : assertCheckoutRequestId raw = .ok checkout) : isCheckoutId checkout = true := by
  simp only [assertCheckoutRequestId, ok_iff] at h
  obtain ⟨_, -, hshape, rfl⟩ := h
  simpa using hshape

lemma ne_empty_of_isTransId (h : isTransId s = true) : s ≠ "" := by
  rintro rfl
  revert h
  decide

lemma ne_empty_of_isCheckoutId (h : isCheckoutId s = true) : s ≠ "" := by
  rintro rfl
  revert h
  decide

theorem assertStkResultCallback_eq_ok {raw : StkPushResultCallbackInput}
    {callback : StkPushResultCallback} (h : assertStkResultCallback raw = .ok callback) :
    callback.Valid := by
  simp only [assertStkResultCallback, ok_iff] at h
  obtain ⟨checkout, hcheckout, merchant, -, desc, -, _, -, receipt, hreceipt, paid, -, msisdn, -,
    hpaid, -, rfl⟩ := h
  have hshape := assertCheckoutRequestId_eq_ok hcheckout
  have hreceipts := assertReceiptNumber_eq_ok hreceipt
  cases receipt with
  | none =>
    exact ⟨hshape, trim_eq_self (isTrimmed_of_isCheckoutId hshape), ne_empty_of_isCheckoutId hshape,
      fun hsuccess hnone => hpaid ⟨hsuccess, hnone⟩⟩
  | some r =>
    have hr := hreceipts r rfl
    exact ⟨hshape, trim_eq_self (isTrimmed_of_isTransId hr), ne_empty_of_isTransId hr,
      fun hsuccess hnone => hpaid ⟨hsuccess, hnone⟩⟩

lemma trim_paymentIdempotencyKey (h : isCheckoutId checkout = true) :
    trim (paymentIdempotencyKey checkout) = paymentIdempotencyKey checkout := by
  have hmark : "daraja:stk:".toList.any isTrimmed = false := by decide
  refine trim_eq_self fun c hc => ?_
  rw [paymentIdempotencyKey, String.toList_append] at hc
  rcases List.mem_append.mp hc with hfirst | hlater
  · simpa using List.any_eq_false.mp hmark c hfirst
  · exact isTrimmed_of_isCheckoutId h c hlater

end Fuatilia.Stk
