import Fuatilia.Foundations.Hosts
import Fuatilia.Shared.Primitives

/-!
# The target URL of a webhook endpoint

The validator reads the URL as text: it wants `https`, no user information, a host of plain
characters, a port in range, and refuses a list of local spellings. What the URL reaches is decided
by the host it denotes, and a host has many spellings.

## Main definitions

* `Webhooks.validateWebhookUrl`, `Webhooks.isForbiddenHost` — the validator and its list of texts.
* `Webhooks.nameOf`, `Webhooks.isPlain` — how the host of a URL is spelled.

## Main results

* `Webhooks.validateWebhookUrl_eq_ok` — the shape of an accepted URL.
* `Webhooks.isForbiddenHost_text` — on dotted decimals the refused texts are the local addresses.
* `Webhooks.not_local_of_plain` — a plainly spelled host of an accepted URL is not local.

## Implementation notes

Texts are lists of characters. `toLowerCase` is exact on the characters that a host may have after
it: no other character than the capital letters and the Kelvin sign becomes one of them.
-/

namespace Fuatilia.Webhooks

open Fallible Hosts

def toLowerCase (text : List Char) : List Char := text.map lowerChar

/-- Loopback, localhost, unspecified and link-local hosts, by their text. -/
def isForbiddenHost (host : List Char) : Bool :=
  host = "localhost".toList || ".localhost".toList.isSuffixOf host ||
    "127.".toList.isPrefixOf host || host = "0.0.0.0".toList ||
    "169.254.".toList.isPrefixOf host || host = "::1".toList || host = "0:0:0:0:0:0:0:1".toList

def isAsciiLetter (c : Char) : Bool := ('a' ≤ c && c ≤ 'z') || ('A' ≤ c && c ≤ 'Z')

def isSchemeChar (c : Char) : Bool :=
  isAsciiLetter c || c.isDigit || c = '+' || c = '.' || c = '-'

/-- `URL_SCHEME_PATTERN`: the scheme, and what follows `://`. -/
def matchScheme (raw : List Char) : Option (List Char × List Char) :=
  match raw with
  | [] => none
  | first :: _ =>
    match isAsciiLetter first, raw.dropWhile isSchemeChar with
    | true, ':' :: '/' :: '/' :: rest => some (raw.takeWhile isSchemeChar, rest)
    | _, _ => none

def isDnsChar (c : Char) : Bool := ('a' ≤ c && c ≤ 'z') || c.isDigit || c = '.' || c = '-'

def isPortText (text : List Char) : Bool :=
  text.all Char.isDigit && 1 ≤ text.length && text.length ≤ 5

def urlMalformed (message : String) : Thrown := DomainError "WEBHOOK_URL_MALFORMED" message

def splitLastColon : List Char → Option (List Char × List Char)
  | [] => none
  | c :: rest =>
    match splitLastColon rest with
    | some (host, port) => some (c :: host, port)
    | none => if c = ':' then some ([], rest) else none

/-- The text after a closing bracket is nothing, or some character and a port: the first character
is not looked at, but it is one code unit. -/
def isBracketEnd : List Char → Bool
  | [] => true
  | c :: port => c.toNat < 0x10000 && isPortText port

def bracketHost (inner : List Char) : Except Thrown (List Char) := do
  throwIf (']' ∉ inner) (urlMalformed "unterminated IPv6 host bracket")
  let host := toLowerCase (inner.takeWhile (· ≠ ']'))
  let after := (inner.dropWhile (· ≠ ']')).tail
  let afterText := String.ofList after
  let hostText := String.ofList host
  throwIf (isBracketEnd after = false)
    (urlMalformed s!"invalid port after IPv6 host: \"{afterText}\"")
  throwIf (host = [] ∨ ¬ host.all fun c => isLowerHexOrColon c)
    (urlMalformed s!"invalid IPv6 host \"{hostText}\"")
  pure host
where
  isLowerHexOrColon (c : Char) : Bool := c.isDigit || ('a' ≤ c && c ≤ 'f') || c = ':'

def dnsHost (authority : List Char) : Except Thrown (List Char) := do
  let colon := splitLastColon authority
  let host := toLowerCase ((colon.map Prod.fst).getD authority)
  let hostText := String.ofList host
  throwIf (host = []) (urlMalformed "webhook URL has an empty host")
  throwIf (¬ host.all isDnsChar)
    (urlMalformed s!"webhook host \"{hostText}\" contains characters outside [a-z0-9.-]")
  match colon with
  | none => pure host
  | some (_, port) =>
    let portText := String.ofList port
    let number := Nat.ofDigitChars 10 port 0
    throwIf (¬ isPortText port ∨ number < 1 ∨ 65535 < number)
      (urlMalformed s!"invalid port \"{portText}\" (expected 1-65535)")
    pure host

def authorityHost : List Char → Except Thrown (List Char)
  | '[' :: inner => bracketHost inner
  | authority => dnsHost authority

def endsRest (c : Char) : Bool := c = '/' || c = '?' || c = '#'

def maxUrlLength : ℕ := 2048

def validateWebhookUrl (raw : String) : Except Thrown String := do
  let length := (codeUnits raw).length
  throwIf (raw = "") (urlMalformed "a webhook endpoint requires a URL")
  throwIf (maxUrlLength < length) (DomainError "WEBHOOK_URL_TOO_LONG"
    s!"webhook URL must be at most {maxUrlLength} characters, got {length}")
  match matchScheme raw.toList with
  | none =>
    let start := slice raw 0 64
    throw (urlMalformed s!"webhook URL must be an absolute http(s) URL, got \"{start}\"")
  | some (scheme, rest) =>
    let schemeText := String.ofList (toLowerCase scheme)
    throwIf (toLowerCase scheme ≠ "https".toList)
      (DomainError "WEBHOOK_URL_INSECURE" s!"webhook endpoints require https, got {schemeText}://")
    let authority := rest.takeWhile fun c => !endsRest c
    throwIf ('@' ∈ authority)
      (urlMalformed "webhook URLs must not embed credentials (userinfo)")
    let host ← authorityHost authority
    let hostText := String.ofList host
    throwIf (isForbiddenHost host) (DomainError "WEBHOOK_URL_FORBIDDEN_HOST"
      (s!"webhook host \"{hostText}\" is a loopback/localhost/link-local target — " ++
        "delivery targets must be reachable remote hosts"))
    pure raw

/-! ## How a host is spelled -/

/-- The host of an authority as the validator compares it with its list, unless it is in
brackets. -/
def authorityName : List Char → Option (List Char)
  | '[' :: _ => none
  | authority => some (toLowerCase (((splitLastColon authority).map Prod.fst).getD authority))

def nameOf (raw : List Char) : Option (List Char) :=
  (matchScheme raw).bind fun (_, rest) => authorityName (rest.takeWhile fun c => !endsRest c)

/-- A name without a dot at its end, or an IPv4 address as four decimal numbers without leading
zeros. -/
def isPlain (text : List Char) : Bool :=
  if endsInNumber text then (parseIpv4 text).any fun address => address.text = text
  else text.getLast? ≠ some '.'

/-! ## The shape of an accepted URL -/

variable {c : Char} {authority scheme : List Char}

lemma toNat_of_isDnsChar (h : isDnsChar c = true) :
    c.toNat = 45 ∨ c.toNat = 46 ∨ (48 ≤ c.toNat ∧ c.toNat ≤ 57) ∨
      (97 ≤ c.toNat ∧ c.toNat ≤ 122) := by
  simp only [isDnsChar, Char.isDigit, Bool.or_eq_true, Bool.and_eq_true, decide_eq_true_eq,
    Char.le_def, ge_iff_le, UInt32.le_iff_toNat_le] at h
  rcases h with ((h | h) | rfl) | rfl
  · exact .inr (.inr (.inr h))
  · exact .inr (.inr (.inl h))
  · decide
  · decide

lemma toNat_of_isDnsChar_lower (h : isDnsChar (lowerChar c) = true) :
    c.toNat = 45 ∨ c.toNat = 46 ∨ (48 ≤ c.toNat ∧ c.toNat ≤ 57) ∨
      (65 ≤ c.toNat ∧ c.toNat ≤ 90) ∨ (97 ≤ c.toNat ∧ c.toNat ≤ 122) ∨ c.toNat = 0x212a := by
  rw [lowerChar] at h
  split_ifs at h with hupper hkelvin
  · simp only [Char.le_def, UInt32.le_iff_toNat_le] at hupper
    exact .inr (.inr (.inr (.inl hupper)))
  · rw [hkelvin]
    decide
  · have hcode := toNat_of_isDnsChar h
    omega

lemma plain_of_isDnsChar_lower (h : isDnsChar (lowerChar c) = true) :
    0x20 < c.toNat ∧ endsAuthority c = false ∧ c ≠ ':' ∧ c ≠ '[' ∧ c ≠ ']' ∧ c ≠ '@' := by
  have hcode := toNat_of_isDnsChar_lower h
  have hne : ∀ k ∈ [35, 47, 58, 63, 64, 91, 92, 93], c.toNat ≠ k := by
    intro k hk
    simp only [List.mem_cons, List.not_mem_nil, or_false] at hk
    omega
  refine ⟨by omega, endsAuthority_eq_false fun hk => hne _ ?_ rfl, ne_of_toNat (hne 58 (by decide)),
    ne_of_toNat (hne 91 (by decide)), ne_of_toNat (hne 93 (by decide)),
    ne_of_toNat (hne 64 (by decide))⟩
  simp only [List.mem_cons, List.not_mem_nil, or_false] at hk ⊢
  omega

variable {text host raw : List Char}

lemma splitLastColon_eq_some {port : List Char}
    (h : splitLastColon text = some (host, port)) : text = host ++ ':' :: port := by
  induction text generalizing host with
  | nil => cases h
  | cons c rest ih =>
    rw [splitLastColon] at h
    split at h
    · rename_i host' port' hrest
      obtain ⟨rfl, rfl⟩ := Prod.mk.inj (Option.some.inj h)
      rw [ih hrest, List.cons_append]
    · split_ifs at h with hc
      obtain ⟨rfl, rfl⟩ := Prod.mk.inj (Option.some.inj h)
      rw [hc, List.nil_append]

lemma dnsHost_eq_ok (h : dnsHost authority = .ok host) :
    host = toLowerCase (((splitLastColon authority).map Prod.fst).getD authority) ∧
    ∃ text, host = text.map lowerChar ∧ text ≠ [] ∧ (∀ c ∈ text, isDnsChar (lowerChar c) = true) ∧
      (authority = text ∨ ∃ port, authority = text ++ ':' :: port ∧ isPortText port = true) := by
  simp only [dnsHost, ok_iff, not_not] at h
  obtain ⟨hne, hall, h⟩ := h
  cases hcolon : splitLastColon authority with
  | none =>
    simp only [hcolon, pure_eq_ok, Option.map_none, Option.getD_none, toLowerCase] at h hne hall
    refine ⟨h, authority, h, by simpa using hne, ?_, .inl rfl⟩
    simpa using hall
  | some cut =>
    obtain ⟨text, port⟩ := cut
    simp only [hcolon, ok_iff, Option.map_some, Option.getD_some, toLowerCase] at h hne hall
    obtain ⟨hport, rfl⟩ := h
    refine ⟨rfl, text, rfl, by simpa using hne, by simpa using hall, .inr ⟨port, ?_, ?_⟩⟩
    · exact splitLastColon_eq_some hcolon
    · by_contra hbad
      exact hport (.inl hbad)

lemma matchScheme_eq_some {rest : List Char} (h : matchScheme raw = some (scheme, rest)) :
    raw = scheme ++ ':' :: '/' :: '/' :: rest ∧ ∀ c ∈ scheme, isSchemeChar c = true := by
  cases raw with
  | nil => cases h
  | cons first others =>
    simp only [matchScheme] at h
    split at h
    · rename_i rest' _ hdrop
      obtain ⟨rfl, rfl⟩ := Prod.mk.inj (Option.some.inj h)
      refine ⟨?_, fun c hc => List.mem_takeWhile_imp hc⟩
      rw [← hdrop, List.takeWhile_append_dropWhile]
    · cases h

/-- An accepted URL: an `https` scheme, an authority without user information, and a tail. -/
structure Accepted (raw scheme authority tail host : List Char) : Prop where
  raw_eq : raw = scheme ++ ':' :: '/' :: '/' :: (authority ++ tail)
  scheme_chars : ∀ c ∈ scheme, isSchemeChar c = true
  scheme_lower : scheme.map lowerChar = "https".toList
  tail : IsTail tail
  no_userinfo : '@' ∉ authority
  named : nameOf raw = authorityName authority
  host_eq : authorityHost authority = .ok host
  not_forbidden : isForbiddenHost host = false

lemma validateWebhookUrl_eq_ok {raw result : String} (h : validateWebhookUrl raw = .ok result) :
    ∃ scheme authority tail host, Accepted raw.toList scheme authority tail host := by
  simp only [validateWebhookUrl, ok_iff] at h
  obtain ⟨-, -, h⟩ := h
  split at h
  · exact absurd h (by simp [throw_eq_ok])
  · rename_i scheme rest hscheme
    simp only [ok_iff, not_not] at h
    obtain ⟨hlower, hat, host, hhost, hforbidden, -⟩ := h
    obtain ⟨hraw, hchars⟩ := matchScheme_eq_some hscheme
    refine ⟨scheme, rest.takeWhile fun c => !endsRest c, rest.dropWhile fun c => !endsRest c, host,
      ?_, hchars, hlower, ?_, hat, by simp [nameOf, hscheme], hhost,
      by simpa using hforbidden⟩
    · rw [List.takeWhile_append_dropWhile]
      exact hraw
    · cases htail : rest.dropWhile fun c => !endsRest c with
      | nil => exact .inl rfl
      | cons x others =>
        refine .inr ⟨x, others, rfl, ?_⟩
        have hx : (!endsRest x) = false := by
          have hhead := List.head?_dropWhile_not (fun c => !endsRest c) rest
          rw [htail] at hhead
          simpa using hhead
        simp only [endsRest, Bool.not_eq_false', Bool.or_eq_true] at hx
        simp only [endsAuthority, Bool.or_eq_true]
        tauto

lemma scheme_visible (h : ∀ c ∈ scheme, isSchemeChar c = true) :
    ∀ c ∈ scheme, 0x20 < c.toNat ∧ c ≠ ':' := by
  intro c hc
  have hchar := h c hc
  simp only [isSchemeChar, isAsciiLetter, Char.isDigit, Bool.or_eq_true, Bool.and_eq_true,
    decide_eq_true_eq, Char.le_def, ge_iff_le, UInt32.le_iff_toNat_le] at hchar
  have hcode : (97 ≤ c.toNat ∧ c.toNat ≤ 122) ∨ (65 ≤ c.toNat ∧ c.toNat ≤ 90) ∨
      (48 ≤ c.toNat ∧ c.toNat ≤ 57) ∨ c.toNat = 43 ∨ c.toNat = 45 ∨ c.toNat = 46 := by
    rcases hchar with ((((h | h) | h) | rfl) | rfl) | rfl
    · exact .inl h
    · exact .inr (.inl h)
    · exact .inr (.inr (.inl h))
    all_goals decide
  refine ⟨by omega, ?_⟩
  rintro rfl
  revert hcode
  decide

/-- The characters of a name with a port, or without one. -/
lemma plain_of_authority (hdns : ∀ c ∈ text, isDnsChar (lowerChar c) = true)
    (hauthority : authority = text ∨ ∃ port, authority = text ++ ':' :: port ∧
      isPortText port = true)
    (hc : c ∈ authority) : 0x20 < c.toNat ∧ endsAuthority c = false ∧ c ≠ '@' := by
  have htext : c ∈ text → 0x20 < c.toNat ∧ endsAuthority c = false ∧ c ≠ '@' := fun hc =>
    have hplain := plain_of_isDnsChar_lower (hdns c hc)
    ⟨hplain.1, hplain.2.1, hplain.2.2.2.2.2⟩
  rcases hauthority with rfl | ⟨port, rfl, hport⟩
  · exact htext hc
  · rcases List.mem_append.mp hc with hc | hc
    · exact htext hc
    · rcases List.mem_cons.mp hc with rfl | hc
      · decide
      · simp only [isPortText, Bool.and_eq_true] at hport
        have hdigit := digit_visible (List.all_eq_true.mp hport.1.1 c hc)
        exact ⟨hdigit.1, hdigit.2.1, hdigit.2.2.2.2.2⟩

lemma hostOfAuthority_dns (punycode : List Char → Bool) (hne : text ≠ [])
    (hdns : ∀ c ∈ text, isDnsChar (lowerChar c) = true)
    (hauthority : authority = text ∨ ∃ port, authority = text ++ ':' :: port ∧
      isPortText port = true)
    {host : Host} (h : hostOfAuthority punycode authority = some host) :
    parseHost punycode text = some host := by
  have hplain : ∀ c ∈ text, c ≠ ':' ∧ c ≠ '[' ∧ c ≠ ']' := fun c hc =>
    have hc := plain_of_isDnsChar_lower (hdns c hc)
    ⟨hc.2.2.1, hc.2.2.2.1, hc.2.2.2.2.1⟩
  have hat : ∀ c ∈ authority, decide (c ≠ '@') = true := fun c hc =>
    decide_eq_true (plain_of_authority hdns hauthority hc).2.2
  rw [hostOfAuthority, List.rtakeWhile_eq_self_iff.mpr hat] at h
  rcases hauthority with rfl | ⟨port, rfl, -⟩
  · rw [splitPort_none hplain] at h
    simpa [hne] using h
  · rw [splitPort_append hplain] at h
    simp only [hne, false_or] at h
    split_ifs at h
    exact h

/-- The host of an accepted URL that is not in brackets is what the text denotes that the validator
compared with its list. -/
lemma host_of_accepted (punycode : List Char → Bool) {tail : List Char} {denoted : Host}
    (haccepted : Accepted raw scheme authority tail host) (hname : nameOf raw = some text)
    (h : hostOfUrl punycode raw = some denoted) :
    text = host ∧ ((endsInNumber host = false ∧ denoted = .domain host) ∨
      (endsInNumber host = true ∧ ∃ address, parseIpv4 host = some address ∧
        denoted = .ipv4 address)) := by
  have hspecial : scheme.map lowerChar ∈ specialSchemes := by
    rw [haccepted.scheme_lower]
    decide
  have hscheme := scheme_visible haccepted.scheme_chars
  rw [haccepted.raw_eq] at h
  have hhost := haccepted.host_eq
  rw [haccepted.named] at hname
  unfold authorityName at hname
  split at hname
  · cases hname
  · rename_i hbracket
    unfold authorityHost at hhost
    split at hhost
    · exact (hbracket _ rfl).elim
    obtain ⟨hread, name, rfl, hne, hdns, hauthority⟩ := dnsHost_eq_ok hhost
    have hvisible : ∀ c ∈ authority, 0x20 < c.toNat ∧ endsAuthority c = false := fun c hc =>
      have hplain := plain_of_authority hdns hauthority hc
      ⟨hplain.1, hplain.2.1⟩
    have hauthority_ne : authority ≠ [] := by
      rcases hauthority with rfl | ⟨port, rfl, -⟩
      · exact hne
      · simp
    rw [hostOfUrl_visible punycode hspecial hscheme hauthority_ne hvisible haccepted.tail] at h
    refine ⟨by rw [hread, Option.some.inj hname], parseHost_name punycode ?_
      (hostOfAuthority_dns punycode hne hdns hauthority h)⟩
    rintro rest rfl
    exact (plain_of_isDnsChar_lower (hdns '[' (by simp))).2.2.2.1 rfl

/-! ## What the list refuses -/

/-- The list refuses exactly the local addresses among the dotted decimals. -/
lemma isForbiddenHost_text (address : Ipv4) :
    isForbiddenHost address.text = address.isLocal := by
  have hmem : ∀ c : Char, c.isDigit = false → c ≠ '.' → c ∉ address.text := by
    intro c hdigit hdot hc
    rcases address.mem_text hc with h | h
    · rw [hdigit] at h
      cases h
    · exact hdot h
  have hl : 'l' ∉ address.text := hmem 'l' (by decide) (by decide)
  have hcolon : ':' ∉ address.text := hmem ':' (by decide) (by decide)
  have hlocalhost : address.text ≠ "localhost".toList := fun h => hl (h ▸ by decide)
  have hunder : ¬ ".localhost".toList <:+ address.text := fun h => hl (h.subset (by decide))
  have hshort : address.text ≠ "::1".toList := fun h => hcolon (h ▸ by decide)
  have hlong : address.text ≠ "0:0:0:0:0:0:0:1".toList := fun h => hcolon (h ▸ by decide)
  have hloopback : "127.".toList <+: address.text ↔ address.a = 127 := address.first_prefix_iff 127
  have hlink : "169.254.".toList <+: address.text ↔ address.a = 169 ∧ address.b = 254 :=
    address.first_two_prefix_iff 169 254
  have hzero : address.text = "0.0.0.0".toList ↔ address = ⟨0, 0, 0, 0⟩ :=
    Ipv4.text_inj address ⟨0, 0, 0, 0⟩
  rw [Bool.eq_iff_iff]
  simp only [isForbiddenHost, Ipv4.isLocal, Bool.or_eq_true, Bool.and_eq_true, decide_eq_true_eq,
    List.isSuffixOf_iff_suffix, List.isPrefixOf_iff_prefix, hlocalhost, hunder, hshort, hlong,
    hloopback, hlink, hzero, false_or, or_false]

/-- The list refuses `localhost` and the names under it. -/
lemma isLocalhost_eq_false (hforbidden : isForbiddenHost host = false)
    (hdot : host.getLast? ≠ some '.') : isLocalhost host = false := by
  simp only [isForbiddenHost, Bool.or_eq_false_iff] at hforbidden
  rw [isLocalhost, withoutDot, if_neg hdot, hforbidden.1.1.1.1.1.1, hforbidden.1.1.1.1.1.2,
    Bool.or_false]

/-- **An accepted URL with a plainly spelled host does not reach the local machine**: the host that
it denotes is not a loopback, unspecified or link-local address and not `localhost`. Among the texts
of this spelling the list has all the local ones. -/
theorem not_local_of_plain (punycode : List Char → Bool) (raw : String)
    (haccepted : validateWebhookUrl raw = .ok raw)
    (hplain : (nameOf raw.toList).any isPlain = true) (host : Host)
    (hhost : hostOfUrl punycode raw.toList = some host) : host.isLocal = false := by
  obtain ⟨scheme, authority, tail, checked, hshape⟩ := validateWebhookUrl_eq_ok haccepted
  obtain ⟨text, hname, hplain⟩ := (Option.any_eq_true _ _).mp hplain
  obtain ⟨rfl, ⟨hnumber, rfl⟩ | ⟨hnumber, address, haddress, rfl⟩⟩ :=
    host_of_accepted punycode hshape hname hhost
  · rw [isPlain, if_neg (by simp [hnumber])] at hplain
    exact isLocalhost_eq_false hshape.not_forbidden (of_decide_eq_true hplain)
  · rw [isPlain, if_pos hnumber, haddress, Option.any_some, decide_eq_true_eq] at hplain
    have hforbidden := hshape.not_forbidden
    rwa [← hplain, isForbiddenHost_text] at hforbidden

/-- A remote host with a port and a path. -/
theorem not_local_remote :
    validateWebhookUrl "https://Hooks.example.co.ke:8443/in" =
      .ok "https://Hooks.example.co.ke:8443/in" ∧
    hostOfUrl (fun _ => true) "https://Hooks.example.co.ke:8443/in".toList =
      some (.domain "hooks.example.co.ke".toList) ∧
    (Host.domain "hooks.example.co.ke".toList).isLocal = false := by
  have haccepted : validateWebhookUrl "https://Hooks.example.co.ke:8443/in" =
      .ok "https://Hooks.example.co.ke:8443/in" := by decide +kernel
  have hhost : hostOfUrl (fun _ => true) "https://Hooks.example.co.ke:8443/in".toList =
      some (.domain "hooks.example.co.ke".toList) := by decide +kernel
  exact ⟨haccepted, hhost, not_local_of_plain _ _ haccepted (by decide +kernel) _ hhost⟩

/-- Accepted spellings of the local machine: a single number, fewer than four, octal and hexadecimal
numbers, a dot after four numbers and after a name, and IPv6 addresses: the unspecified, a mapped
loopback and a link-local one. -/
theorem local_spellings_accepted :
    ["https://2130706433/", "https://0.0/", "https://0177.0.0.1/", "https://0x7f.0.0.1/",
        "https://0.0.0.0./", "https://localhost./", "https://[::]/",
        "https://[0:0:0:0:0:ffff:7f00:1]/", "https://[fe80::1]/"].Forall fun raw =>
      validateWebhookUrl raw = .ok raw ∧ (nameOf raw.toList).any isPlain = false ∧
        (hostOfUrl (fun _ => true) raw.toList).map Host.isLocal = some true := by
  decide +kernel

end Fuatilia.Webhooks
