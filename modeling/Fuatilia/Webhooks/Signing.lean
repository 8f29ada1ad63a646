import Fuatilia.Foundations.Binary64
import Fuatilia.Foundations.Hosts
import Fuatilia.Foundations.Machine
import Fuatilia.Webhooks.Endpoint

/-!
# Webhook signatures

The verification of a delivery keeps its first decision for each endpoint and delivery, and answers
later calls with it.

## Main definitions

* `sign` — the digest, an injected port, of `<unixMillis>.<payload>` under the endpoint's secret.
* `verifySignature`, `verifyDeliverySignature` — the check of a header, and of a delivery.

## Main results

* `Webhooks.verifySignature_verified` — a computed `VERIFIED` means that the header carries the
  digest.
* `Webhooks.decisions_sticky` — a first call is answered for itself, a later one as the first was.

## Implementation notes

A ledger is the list of its entries in the order of insertion. The difference of the clock and the
timestamp is that of the two doubles.
-/

namespace Fuatilia.Webhooks

open Fallible Machine

/-! ## Signing -/

abbrev DigestPort := String → String → String

structure WebhookSignature where
  timestampMs : ℕ
  signature : String
  deriving DecidableEq

def canonicalString (timestampMs : ℕ) (payload : String) : String := s!"{timestampMs}.{payload}"

def assertTimestamp (timestampMs : JsNumber) : Except Thrown ℕ :=
  match timestampMs.safeInteger with
  | some (.ofNat n) => .ok n
  | _ => .error (DomainError "WEBHOOK_TIMESTAMP_INVALID"
      ("signature timestamp must be a non-negative safe integer (unix millis), got " ++
        timestampMs.text))

def sign (payload secret : String) (timestampMs : JsNumber) (digest : DigestPort) :
    Except Thrown WebhookSignature := do
  let timestamp ← assertTimestamp timestampMs
  throwIf (payload = "")
    (DomainError "WEBHOOK_PAYLOAD_REQUIRED" "signing requires a non-empty payload")
  throwIf (secret = "")
    (DomainError "WEBHOOK_SECRET_REQUIRED" "signing requires the endpoint secret")
  pure ⟨timestamp, digest (canonicalString timestamp payload) secret⟩

/-- `t=<unixMillis>,v1=<lowercase-hex>`. -/
def formatSignatureHeader (sig : WebhookSignature) : String :=
  s!"t={sig.timestampMs},v1={sig.signature}"

def isLowerHex (c : Char) : Bool := c.isDigit || ('a' ≤ c && c ≤ 'f')

/-- `HEADER_PATTERN`: the digits of the timestamp and the signature. -/
def matchHeader (header : String) : Option (List Char × List Char) :=
  match header.toList with
  | 't' :: '=' :: rest =>
    let digits := rest.takeWhile Char.isDigit
    match rest.dropWhile Char.isDigit with
    | ',' :: 'v' :: '1' :: '=' :: signature =>
      if 1 ≤ digits.length ∧ digits.length ≤ 19 ∧ signature.all isLowerHex ∧
          16 ≤ signature.length ∧ signature.length ≤ 256 then
        some (digits, signature)
      else none
    | _ => none
  | _ => none

def parseSignatureHeader (header : String) : Except String WebhookSignature :=
  match matchHeader header with
  | none => .error "expected \"t=<unixMillis>,v1=<16-256 lowercase hex chars>\""
  | some (digits, signature) =>
    -- a decimal text above the safe integers is not read as one
    let timestampMs := Nat.ofDigitChars 10 digits 0
    if timestampMs ≤ maxSafeInteger then .ok ⟨timestampMs, String.ofList signature⟩
    else .error "timestamp is outside the safe integer range"

/-! ## Verification -/

inductive SignatureDecision where
  | verified
  | mismatch (detail : String)
  | staleTimestamp (detail : String)
  | malformed (detail : String)
  deriving DecidableEq

structure VerifySignatureArgs where
  header : String
  payload : String
  secret : String
  now : ℤ
  digest : DigestPort
  maxSkewMs : Option JsNumber

def SignatureDecision.rejection : SignatureDecision → Option (SignatureRejectReason × String)
  | .verified => none
  | .mismatch detail => some (.mismatch, detail)
  | .staleTimestamp detail => some (.staleTimestamp, detail)
  | .malformed detail => some (.malformed, detail)

def defaultMaxSkew : JsNumber := ⟨some 300000, "300000"⟩

def assertSkew (maxSkewMs : JsNumber) : Except Thrown ℕ :=
  match maxSkewMs.safeInteger with
  | some (.ofNat n) => .ok n
  | _ => .error (DomainError "WEBHOOK_SKEW_INVALID"
      s!"maxSkewMs must be a non-negative safe integer, got {maxSkewMs.text}")

def verifySignature (args : VerifySignatureArgs) : Except Thrown SignatureDecision := do
  let maxSkewMs ← assertSkew (args.maxSkewMs.getD defaultMaxSkew)
  match parseSignatureHeader args.header with
  | .error detail => pure (.malformed detail)
  | .ok received =>
    let skew := |Binary64.nearest (args.now - received.timestampMs : ℤ)|
    if skew > maxSkewMs then
      pure (.staleTimestamp
        (s!"signature timestamp {received.timestampMs} is {skew}ms outside the " ++
          s!"±{maxSkewMs}ms skew window (now {args.now})"))
    else
      let expected := args.digest (canonicalString received.timestampMs args.payload) args.secret
      if expected ≠ received.signature then
        pure (.mismatch "computed digest does not match the received signature")
      else pure .verified

/-! ## The ledger -/

abbrev VerificationLedger := List (String × SignatureDecision)

def verificationKey (endpointId deliveryId : Uuid) : String := s!"{endpointId}:{deliveryId}"

structure VerifyDeliveryArgs where
  endpointId : Uuid
  deliveryId : Uuid
  header : String
  payload : String
  secret : String
  digest : DigestPort
  maxSkewMs : Option JsNumber

structure DeliveryVerificationResult where
  decision : SignatureDecision
  replay : Bool
  ledger : VerificationLedger
  events : List WebhookEvent

def rejectionEvents (args : VerifyDeliveryArgs) (decision : SignatureDecision) (replay : Bool)
    (now : Date) : Except Thrown (List WebhookEvent) :=
  match decision.rejection with
  | none => pure []
  | some (reason, detail) => do
    let event ← emit "webhook.signatureRejected" args.deliveryId
      (.signatureRejected args.endpointId args.deliveryId reason detail replay) now
    pure [event]

def VerifyDeliveryArgs.key (args : VerifyDeliveryArgs) : String :=
  verificationKey args.endpointId args.deliveryId

/-- Verify the signature of a delivery. A key that was decided before keeps its decision. -/
def verifyDeliverySignature (ledger : VerificationLedger) (args : VerifyDeliveryArgs)
    (clock : Clock) : Except Thrown DeliveryVerificationResult :=
  match ledger.lookup args.key with
  | some previous => do
    let events ← rejectionEvents args previous true (clock.now 0)
    pure { decision := previous, replay := true, ledger, events }
  | none => do
    let date ← webhookNow (clock.now 0)
    match date.getTime with
    | none => throw (DomainError "WEBHOOK_CLOCK_INVALID" "clock returned an invalid Date")
    | some now =>
      let decision ← verifySignature
        { header := args.header, payload := args.payload, secret := args.secret, now,
          digest := args.digest, maxSkewMs := args.maxSkewMs }
      let events ← rejectionEvents args decision false (clock.now 1)
      pure { decision, replay := false, ledger := ledger ++ [(args.key, decision)], events }

/-! ## What a decision means -/

def VerifyDeliveryArgs.CarriesDigest (args : VerifyDeliveryArgs) : Prop :=
  ∃ received, parseSignatureHeader args.header = .ok received ∧
    args.digest (canonicalString received.timestampMs args.payload) args.secret =
      received.signature

lemma le_of_assert {x : JsNumber} {n : ℕ} (h : assertTimestamp x = .ok n ∨ assertSkew x = .ok n) :
    n ≤ maxSafeInteger := by
  unfold assertTimestamp assertSkew at h
  rcases h with h | h <;> split at h <;> cases h
  all_goals
    rename_i hsafe
    simpa using (Option.filter_eq_some_iff.mp hsafe).2

/-- A computed `VERIFIED`: the header carries the digest, and its timestamp is in the window. -/
lemma verifySignature_verified {args : VerifySignatureArgs} : verifySignature args = .ok .verified ↔
    ∃ received, parseSignatureHeader args.header = .ok received ∧
      args.digest (canonicalString received.timestampMs args.payload) args.secret =
        received.signature ∧
      ∃ skew, assertSkew (args.maxSkewMs.getD defaultMaxSkew) = .ok skew ∧
        |args.now - received.timestampMs| ≤ skew := by
  rw [verifySignature, bind_eq_ok]
  cases parseSignatureHeader args.header with
  | error detail => simp [pure_eq_ok]
  | ok received =>
    simp only [Except.ok.injEq, exists_eq_left']
    rw [← exists_and_left]
    refine exists_congr fun skew => ?_
    rw [and_left_comm]
    refine and_congr_right fun hskew => ?_
    have hm : skew < 2 ^ 53 := (le_of_assert (.inr hskew)).trans_lt (by decide)
    rw [← Binary64.abs_nearest_le_iff hm]
    split_ifs with hstale hmismatch
    · exact iff_of_false (by simp [pure_eq_ok]) fun h => absurd h.2 (not_le.mpr hstale)
    · exact iff_of_false (by simp [pure_eq_ok]) fun h => hmismatch h.1
    · exact iff_of_true rfl ⟨not_not.mp hmismatch, not_lt.mp hstale⟩

variable {ledger : VerificationLedger} {args : VerifyDeliveryArgs} {clock : Clock}
  {result : DeliveryVerificationResult}

lemma verifyDeliverySignature_replay {previous : SignatureDecision}
    (hprevious : ledger.lookup args.key = some previous)
    (h : verifyDeliverySignature ledger args clock = .ok result) :
    result.replay = true ∧ result.decision = previous ∧ result.ledger = ledger := by
  simp only [verifyDeliverySignature, hprevious, ok_iff] at h
  obtain ⟨events, -, rfl⟩ := h
  exact ⟨rfl, rfl, rfl⟩

lemma verifyDeliverySignature_first (hfirst : ledger.lookup args.key = none)
    (h : verifyDeliverySignature ledger args clock = .ok result) :
    result.replay = false ∧ result.ledger = ledger ++ [(args.key, result.decision)] ∧
      (result.decision = .verified → args.CarriesDigest) := by
  simp only [verifyDeliverySignature, hfirst, bind_eq_ok] at h
  obtain ⟨date, -, h⟩ := h
  split at h
  · exact absurd h (by simp [throw_eq_ok])
  · simp only [ok_iff] at h
    obtain ⟨decision, hdecision, events, -, rfl⟩ := h
    refine ⟨rfl, rfl, fun hverified => ?_⟩
    simp only at hverified
    rw [hverified] at hdecision
    obtain ⟨received, hparsed, hdigest, -⟩ := verifySignature_verified.mp hdecision
    exact ⟨received, hparsed, hdigest⟩

/-! ## Runs -/

structure Call where
  args : VerifyDeliveryArgs
  clock : Clock

def ledgerStep (ledger : VerificationLedger) (call : Call) : Option VerificationLedger :=
  (verifyDeliverySignature ledger call.args call.clock).toOption.map
    DeliveryVerificationResult.ledger

def ledgerOf (calls : List Call) : VerificationLedger := run ledgerStep [] calls

/-- Every recorded `VERIFIED` was computed for a call of the list under its key. -/
def Provenance (calls : List Call) (ledger : VerificationLedger) : Prop :=
  ∀ key, (key, SignatureDecision.verified) ∈ ledger →
    ∃ call ∈ calls, call.args.key = key ∧ call.args.CarriesDigest

lemma provenance_step {calls : List Call} {after : VerificationLedger} {call : Call}
    (hcall : call ∈ calls) (hledger : Provenance calls ledger)
    (h : ledgerStep ledger call = some after) : Provenance calls after := by
  rw [ledgerStep, Option.map_eq_some_iff] at h
  obtain ⟨result, hresult, rfl⟩ := h
  rw [toOption_eq_some] at hresult
  cases hlookup : ledger.lookup call.args.key with
  | some previous =>
    rw [(verifyDeliverySignature_replay hlookup hresult).2.2]
    exact hledger
  | none =>
    obtain ⟨-, hgrown, hcarries⟩ := verifyDeliverySignature_first hlookup hresult
    intro key hkey
    rw [hgrown, List.mem_append, List.mem_singleton, Prod.mk.injEq] at hkey
    rcases hkey with hold | ⟨rfl, hverified⟩
    · exact hledger key hold
    · exact ⟨call, hcall, rfl, hcarries hverified.symm⟩

/-- **Where a recorded `VERIFIED` comes from.** In a ledger built by calls, it was computed for one
of them, under the same key, whose header carried the digest of its own payload. -/
theorem verified_provenance (calls : List Call) : Provenance calls (ledgerOf calls) := by
  have hstart : Provenance calls [] := by
    intro key hkey
    cases hkey
  exact run_invariant (fun _ _ _ => provenance_step) calls [] hstart
    (meets_of_mem [] fun _ hc => hc)

/-- **Sticky decisions.** After any calls, the first one under a key is answered `VERIFIED` only
with a header that carries the digest of its payload. A later one is answered as the first was,
whatever it brings, and if that is `VERIFIED`, an earlier call under the key carried the digest of
its own payload.

**Proof sketch.** What is stored comes from a call (`provenance_step`). -/
theorem decisions_sticky (calls : List Call) (args : VerifyDeliveryArgs) (clock : Clock)
    (result : DeliveryVerificationResult)
    (h : verifyDeliverySignature (ledgerOf calls) args clock = .ok result) :
    match (ledgerOf calls).lookup args.key with
    | none => result.replay = false ∧ (result.decision = .verified → args.CarriesDigest)
    | some previous => result.replay = true ∧ result.decision = previous ∧
        result.ledger = ledgerOf calls ∧ (previous = .verified → ∃ call ∈ calls,
          call.args.key = args.key ∧ call.args.CarriesDigest) := by
  cases hlookup : (ledgerOf calls).lookup args.key with
  | none =>
    obtain ⟨hreplay, -, hcarries⟩ := verifyDeliverySignature_first hlookup h
    exact ⟨hreplay, hcarries⟩
  | some previous =>
    obtain ⟨hreplay, hdecision, hledger⟩ := verifyDeliverySignature_replay hlookup h
    refine ⟨hreplay, hdecision, hledger, ?_⟩
    rintro rfl
    have hprovenance : Provenance calls (ledgerOf calls) := run_invariant
      (fun _ _ _ => provenance_step) calls [] nofun (meets_of_mem [] fun _ hc => hc)
    obtain ⟨before, after, hsplit, -⟩ := List.lookup_eq_some_iff.mp hlookup
    exact hprovenance args.key (hsplit ▸ List.mem_append_cons_self)

def sumDigest : DigestPort := fun canonical secret =>
  padStart (toString ((canonical ++ secret).toList.map Char.toNat).sum) 16 '0'

def deliveryOf (payload : String) : VerifyDeliveryArgs where
  endpointId := "endpoint-1"
  deliveryId := "delivery-1"
  header := formatSignatureHeader ⟨0, sumDigest (canonicalString 0 "good") "key"⟩
  payload := payload
  secret := "key"
  digest := sumDigest
  maxSkewMs := none

/-- A second body under a delivery id that was verified is reported `VERIFIED`, although the header
does not carry its digest. -/
theorem second_body_verified :
    let ledger := ledgerOf [⟨deliveryOf "good", pinnedClock (.ofTime 0)⟩]
    ((verifyDeliverySignature ledger (deliveryOf "evil") (pinnedClock (.ofTime 1))).toOption.map
        fun result => (result.decision, result.replay)) = some (.verified, true) ∧
      ¬ (deliveryOf "evil").CarriesDigest := by
  refine ⟨by decide +kernel, ?_⟩
  rintro ⟨received, hparsed, hdigest⟩
  have hheader : parseSignatureHeader (deliveryOf "evil").header =
      .ok ⟨0, "0000000000000848"⟩ := by decide +kernel
  rw [hheader] at hparsed
  cases hparsed
  revert hdigest
  decide +kernel

/-- The first call is answered for what it carries. -/
theorem decisions_sticky_first : ∃ result,
    verifyDeliverySignature [] (deliveryOf "good") (pinnedClock (.ofTime 0)) = .ok result ∧
      result.decision = .verified ∧ (deliveryOf "good").CarriesDigest := by
  have hok : ((verifyDeliverySignature [] (deliveryOf "good")
      (pinnedClock (.ofTime 0))).toOption.map (·.decision)) = some .verified := by decide +kernel
  obtain ⟨result, hresult, hverified⟩ := Option.map_eq_some_iff.mp hok
  rw [toOption_eq_some] at hresult
  exact ⟨result, hresult, hverified,
    (decisions_sticky [] _ _ result hresult).2 hverified⟩

/-! ## From the signer to the verifier -/

def IsHexDigest (text : String) : Prop :=
  16 ≤ text.length ∧ text.length ≤ 256 ∧ text.toList.all isLowerHex
  deriving Decidable

lemma canonicalString_inj {t t' : ℕ} {p p' : String} :
    canonicalString t p = canonicalString t' p' ↔ t = t' ∧ p = p' := by
  have hcut : ∀ t p, (canonicalString t p).toList = Nat.toDigits 10 t ++ '.' :: p.toList := by
    intro t p
    rw [← Nat.toList_repr, canonicalString, String.toList_append, String.toList_append,
      List.append_assoc]
    rfl
  have hdot : ∀ n, '.' ∉ Nat.toDigits 10 n := fun n => Hosts.notMem_decimal (by decide)
  rw [← String.toList_inj, hcut, hcut, Hosts.cut_inj (hdot t) (hdot t'), Hosts.toDigits_ten_inj,
    String.toList_inj]

lemma parse_format (sig : WebhookSignature) (ht : sig.timestampMs ≤ maxSafeInteger)
    (hsig : IsHexDigest sig.signature) :
    parseSignatureHeader (formatSignatureHeader sig) = .ok sig := by
  obtain ⟨hmin, hmax, hhex⟩ := hsig
  have hdigits : ∀ c ∈ Nat.toDigits 10 sig.timestampMs, c.isDigit = true :=
    fun _ => Hosts.isDigit_of_mem_decimal
  have hlength : (Nat.toDigits 10 sig.timestampMs).length ≤ 19 :=
    (Nat.length_toDigits_le_iff (by norm_num) (by norm_num)).mpr (ht.trans_lt (by decide))
  have hheader : (formatSignatureHeader sig).toList = 't' :: '=' ::
      (Nat.toDigits 10 sig.timestampMs ++ ',' :: 'v' :: '1' :: '=' :: sig.signature.toList) := by
    simp only [← Nat.toList_repr, formatSignatureHeader, String.toList_append, List.append_assoc]
    rfl
  have hmatch : matchHeader (formatSignatureHeader sig) =
      some (Nat.toDigits 10 sig.timestampMs, sig.signature.toList) := by
    rw [matchHeader, hheader]
    simp [List.takeWhile_append_of_pos hdigits, List.dropWhile_append_of_pos hdigits, hlength, hhex,
      String.length_toList, hmin, hmax, Nat.succ_le_of_lt Nat.length_toDigits_pos]
  simp [parseSignatureHeader, hmatch, Nat.ofDigitChars_ten_toDigits, ht]

/-- **Signatures.** The header of a signature parses back to it and verifies exactly within the skew
window, both ends included. Where no other text has the digest, the signature verifies for no other
payload and no other timestamp. -/
theorem signature_roundTrip (payload secret : String) (timestampMs : JsNumber) (digest : DigestPort)
    (hdigest : ∀ text key, IsHexDigest (digest text key)) (sig : WebhookSignature)
    (hsign : sign payload secret timestampMs digest = .ok sig) :
    parseSignatureHeader (formatSignatureHeader sig) = .ok sig ∧
    (∀ now maxSkewMs skew, assertSkew (maxSkewMs.getD defaultMaxSkew) = .ok skew →
      (verifySignature ⟨formatSignatureHeader sig, payload, secret, now, digest, maxSkewMs⟩ =
        .ok .verified ↔ |now - sig.timestampMs| ≤ skew)) ∧
    (∀ t t' p p', canonicalString t p = canonicalString t' p' → t = t' ∧ p = p') ∧
    ((∀ text, digest text secret = sig.signature → text = canonicalString sig.timestampMs payload) →
      ∀ header received payload' now maxSkewMs, parseSignatureHeader header = .ok received →
        received.signature = sig.signature →
        verifySignature ⟨header, payload', secret, now, digest, maxSkewMs⟩ = .ok .verified →
        received = sig ∧ payload' = payload) := by
  simp only [sign, bind_eq_ok, guard_eq_ok, pure_eq_ok] at hsign
  obtain ⟨t, ht, -, -, rfl⟩ := hsign
  have hparsed :=
    parse_format ⟨t, _⟩ (le_of_assert (.inl ht)) (hdigest (canonicalString t payload) secret)
  refine ⟨hparsed, fun now maxSkewMs skew hskew => ?_, fun _ _ _ _ => canonicalString_inj.mp,
    fun hfree header received payload' now maxSkewMs hreceived hsame hverified => ?_⟩
  · simp [verifySignature_verified, hparsed, hskew]
  · obtain ⟨received', hreceived', hcarries, -⟩ := verifySignature_verified.mp hverified
    obtain rfl := Except.ok.inj (hreceived.symm.trans hreceived')
    obtain ⟨htime, hpayload⟩ := canonicalString_inj.mp (hfree _ (hcarries.trans hsame))
    exact ⟨congrArg₂ WebhookSignature.mk htime hsame, hpayload⟩

theorem signature_roundTrip_fixed :
    verifySignature ⟨formatSignatureHeader ⟨5, "00000000000000ff"⟩, "body", "key", 300005,
      fun _ _ => "00000000000000ff", none⟩ = .ok .verified :=
  ((signature_roundTrip "body" "key" ⟨some 5, "5"⟩ _ (fun _ _ => by decide)
    ⟨5, "00000000000000ff"⟩ (by decide +kernel)).2.1 _ none 300000 (by decide)).mpr (by decide)

end Fuatilia.Webhooks
