import Fuatilia.Foundations.Lists

/-!
# The host that a URL denotes

The WHATWG rules for the host of a URL with a special scheme: where it lies in the URL, and which
address it stands for. An IPv4 address has many spellings (one to four numbers, decimal, octal or
hexadecimal), and so has an IPv6 address.

## Main definitions

* `Hosts.Host`, `Hosts.parseIpv4`, `Hosts.parseIpv6`, `Hosts.parseHost`, `Hosts.hostOfUrl`,
  `Hosts.Host.isLocal`, `Hosts.Ipv4.text`.

## Main results

* `Hosts.hostOfUrl_visible` — the host of a URL whose authority has plain characters only.
* `Hosts.parseHost_name` — what a host text without a bracket denotes.
* `Hosts.Ipv4.text_inj` — the dotted decimal spelling determines the address.

## Implementation notes

The conversion of a name to ASCII is the identity or a failure on lower-case ASCII names; whether a
label in Punycode is valid is a parameter. Names with other characters or percent escapes are
refused, but for the Kelvin sign, whose lower case is the letter `k`.
-/

namespace Hosts

/-! ## Addresses -/

structure Ipv4 where
  a : Fin 256
  b : Fin 256
  c : Fin 256
  d : Fin 256
  deriving DecidableEq

def Ipv4.ofNat (n : ℕ) : Ipv4 :=
  ⟨Fin.ofNat 256 (n / 2 ^ 24), Fin.ofNat 256 (n / 2 ^ 16), Fin.ofNat 256 (n / 2 ^ 8),
    Fin.ofNat 256 n⟩

structure Ipv6 where
  pieces : List (Fin 65536)
  length_eq : pieces.length = 8
  deriving DecidableEq

def Ipv6.mapped (address : Ipv6) : Option Ipv4 :=
  match address.pieces with
  | [0, 0, 0, 0, 0, 65535, high, low] => some (Ipv4.ofNat (high.val * 2 ^ 16 + low.val))
  | _ => none

inductive Host where
  | domain (name : List Char)
  | ipv4 (address : Ipv4)
  | ipv6 (address : Ipv6)
  deriving DecidableEq

/-- Loopback 127.0.0.0/8, the unspecified address and link-local 169.254.0.0/16. -/
def Ipv4.isLocal (address : Ipv4) : Bool :=
  address.a = 127 || address = ⟨0, 0, 0, 0⟩ || (address.a = 169 && address.b = 254)

def Ipv6.isLinkLocal (address : Ipv6) : Bool :=
  match address.pieces with
  | first :: _ => 0xfe80 ≤ first.val && first.val ≤ 0xfebf
  | [] => false

def Ipv6.isUnspecified (address : Ipv6) : Bool := address.pieces = [0, 0, 0, 0, 0, 0, 0, 0]

def Ipv6.isLoopback (address : Ipv6) : Bool := address.pieces = [0, 0, 0, 0, 0, 0, 0, 1]

def Ipv6.isLocal (address : Ipv6) : Bool :=
  address.isLoopback || address.isUnspecified || address.isLinkLocal ||
    address.mapped.any Ipv4.isLocal

def withoutDot (name : List Char) : List Char :=
  if name.getLast? = some '.' then name.dropLast else name

def isLocalhost (name : List Char) : Bool :=
  withoutDot name = "localhost".toList || ".localhost".toList.isSuffixOf (withoutDot name)

def Host.isLocal : Host → Bool
  | .domain name => isLocalhost name
  | .ipv4 address => address.isLocal
  | .ipv6 address => address.isLocal

/-- The dotted decimal spelling: four numbers without leading zeros. -/
def Ipv4.text (address : Ipv4) : List Char :=
  ['.'].intercalate
    ([address.a, address.b, address.c, address.d].map fun n => Nat.toDigits 10 n.val)

/-! ## Parsers of host texts -/

def isRadixDigit (radix : ℕ) (c : Char) : Bool :=
  if radix = 16 then c.isDigit || ('a' ≤ c && c ≤ 'f') || ('A' ≤ c && c ≤ 'F')
  else '0' ≤ c && c.toNat < '0'.toNat + radix

def digitValue (c : Char) : ℕ :=
  if c.isDigit then c.toNat - '0'.toNat
  else if 'a' ≤ c then c.toNat - 'a'.toNat + 10 else c.toNat - 'A'.toNat + 10

def radixValue (radix : ℕ) (text : List Char) : Option ℕ :=
  if text.all (isRadixDigit radix) then
    some (text.foldl (fun value c => value * radix + digitValue c) 0)
  else none

/-- A number of an IPv4 spelling: hexadecimal after `0x`, octal after `0`, else decimal. -/
def parseIpv4Number : List Char → Option ℕ
  | [] => none
  | '0' :: 'x' :: rest => radixValue 16 rest
  | '0' :: 'X' :: rest => radixValue 16 rest
  | '0' :: c :: rest => radixValue 8 (c :: rest)
  | text => radixValue 10 text

/-- The parts between the dots, without an empty last one when there are others. -/
def dottedParts (text : List Char) : List (List Char) :=
  let parts := text.splitOn '.'
  if parts.getLast? = some [] ∧ 1 < parts.length then parts.dropLast else parts

/-- An IPv4 address: the last number fills the octets that the others leave. -/
def parseIpv4 (text : List Char) : Option Ipv4 := do
  let parts := dottedParts text
  if 4 < parts.length then none
  let numbers ← parts.mapM parseIpv4Number
  let last ← numbers.getLast?
  if numbers.dropLast.any (255 < ·) then none
  if 256 ^ (5 - numbers.length) ≤ last then none
  let high := (numbers.dropLast.zipIdx.map fun (n, i) => n * 256 ^ (3 - i)).sum
  some (Ipv4.ofNat (high + last))

/-- A text whose last part is a number can be an IPv4 address only. -/
def endsInNumber (text : List Char) : Bool :=
  match (dottedParts text).getLast? with
  | some last => (last ≠ [] && last.all Char.isDigit) || (parseIpv4Number last).isSome
  | none => false

def parseGroup (text : List Char) : Option (Fin 65536) :=
  if 1 ≤ text.length ∧ text.length ≤ 4 then (radixValue 16 text).map (Fin.ofNat 65536) else none

/-- A number of the dotted end of an IPv6 spelling: decimal, no leading zero, at most 255. -/
def parseOctet (text : List Char) : Option ℕ := do
  let value ← radixValue 10 text
  if text = [] ∨ (text.head? = some '0' ∧ 1 < text.length) ∨ 255 < value then none else some value

/-- The dotted end of an IPv6 spelling gives two pieces. -/
def parseDottedEnd (text : List Char) : Option (List (Fin 65536)) := do
  match ← (text.splitOn '.').mapM parseOctet with
  | [a, b, c, d] => some [Fin.ofNat 65536 (a * 256 + b), Fin.ofNat 65536 (c * 256 + d)]
  | _ => none

/-- The pieces of groups between colons; the last group may be dotted where `dotted` is set. -/
def parseGroups (dotted : Bool) (text : List Char) : Option (List (Fin 65536)) :=
  if text = [] then some []
  else
    let groups := text.splitOn ':'
    match groups.getLast? with
    | some last =>
      if dotted && last.contains '.' then do
        let front ← groups.dropLast.mapM parseGroup
        let tail ← parseDottedEnd last
        some (front ++ tail)
      else groups.mapM parseGroup
    | none => none

def cutDoubleColon : List Char → Option (List Char × List Char)
  | ':' :: ':' :: rest => some ([], rest)
  | c :: rest => (cutDoubleColon rest).map fun (left, right) => (c :: left, right)
  | [] => none

def Ipv6.ofPieces (pieces : List (Fin 65536)) : Option Ipv6 :=
  if h : pieces.length = 8 then some ⟨pieces, h⟩ else none

/-- An IPv6 address; a double colon stands for one zero piece or more. -/
def parseIpv6 (text : List Char) : Option Ipv6 :=
  match cutDoubleColon text with
  | none => do
    if text = [] then none
    Ipv6.ofPieces (← parseGroups true text)
  | some (left, right) => do
    let before ← parseGroups false left
    let after ← parseGroups true right
    if 7 < before.length + after.length then none
    Ipv6.ofPieces (before ++ List.replicate (8 - (before.length + after.length)) 0 ++ after)

def lowerChar (c : Char) : Char :=
  if 'A' ≤ c ∧ c ≤ 'Z' then Char.ofNat (c.toNat + 32) else if c = 'K' then 'k' else c

def isDomainChar (c : Char) : Bool :=
  0x20 < c.toNat && c.toNat < 0x7f && !("#/:<>?@[\\]^|%".toList.contains c)

def domainToAscii (punycode : List Char → Bool) (text : List Char) : Option (List Char) :=
  let name := text.map lowerChar
  if name ≠ [] ∧ name.all isDomainChar ∧
      (name.splitOn '.').all (fun label => !("xn--".toList.isPrefixOf label) || punycode label) then
    some name
  else none

def parseHost (punycode : List Char → Bool) (text : List Char) : Option Host :=
  match text with
  | '[' :: rest =>
    if rest.getLast? = some ']' then (parseIpv6 rest.dropLast).map .ipv6 else none
  | text => do
    let name ← domainToAscii punycode text
    if endsInNumber name then (parseIpv4 name).map .ipv4 else some (.domain name)

/-! ## The host of a URL -/

def isC0OrSpace (c : Char) : Bool := c.toNat ≤ 0x20

def isTabOrNewline (c : Char) : Bool := c = '\t' || c = '\n' || c = '\r'

def isSlash (c : Char) : Bool := c = '/' || c = '\\'

def endsAuthority (c : Char) : Bool := c = '/' || c = '\\' || c = '?' || c = '#'

/-- Cut the port off: what follows the first colon outside brackets. -/
def splitPort : Bool → List Char → List Char × Option (List Char)
  | _, [] => ([], none)
  | inside, c :: rest =>
    if c = ':' ∧ inside = false then ([], some rest)
    else
      let inside := if c = '[' then true else if c = ']' then false else inside
      let (host, port) := splitPort inside rest
      (c :: host, port)

def isPort (port : List Char) : Bool :=
  port.all Char.isDigit && (Nat.ofDigitChars 10 port 0 ≤ 65535)

def specialSchemes : List (List Char) :=
  ["ftp".toList, "http".toList, "https".toList, "ws".toList, "wss".toList]

/-- The host of an authority: what is after the user information and before the port. -/
def hostOfAuthority (punycode : List Char → Bool) (authority : List Char) : Option Host :=
  let (host, port) := splitPort false (authority.rtakeWhile (· ≠ '@'))
  if host = [] ∨ !port.all isPort then none else parseHost punycode host

def cleaned (url : List Char) : List Char :=
  ((url.dropWhile isC0OrSpace).rdropWhile isC0OrSpace).filter fun c => !isTabOrNewline c

def hostOfUrl (punycode : List Char → Bool) (url : List Char) : Option Host :=
  let input := cleaned url
  match input.dropWhile (· ≠ ':') with
  | [] => none
  | _ :: rest =>
    if (input.takeWhile (· ≠ ':')).map lowerChar ∈ specialSchemes then
      hostOfAuthority punycode
        ((rest.dropWhile isSlash).takeWhile fun c => !endsAuthority c)
    else none

/-! ## What a spelling determines -/

section Spelling

/-- Two texts that are cut at the first occurrence of a character are equal part by part. -/
lemma cut_inj {x : Char} {left left' right right' : List Char} (h : x ∉ left) (h' : x ∉ left') :
    left ++ x :: right = left' ++ x :: right' ↔ left = left' ∧ right = right' := by
  constructor
  · intro heq
    have hne : ∀ l : List Char, x ∉ l → ∀ c ∈ l, (c != x) = true := by
      intro l hl c hc
      exact bne_iff_ne.mpr fun hcx => hl (hcx ▸ hc)
    have htake := congrArg (List.takeWhile (· != x)) heq
    rw [List.takeWhile_append_of_pos (hne left h),
      List.takeWhile_append_of_pos (hne left' h')] at htake
    have hleft : left = left' := by simpa using htake
    rw [hleft] at heq
    exact ⟨hleft, List.cons.inj (List.append_cancel_left heq) |>.2⟩
  · rintro ⟨rfl, rfl⟩
    rfl

variable {n : ℕ}

lemma toDigits_ten_inj {m : ℕ} : Nat.toDigits 10 m = Nat.toDigits 10 n ↔ m = n := by
  constructor
  · intro h
    rw [← Nat.ofDigitChars_ten_toDigits (n := m), h, Nat.ofDigitChars_ten_toDigits]
  · rintro rfl
    rfl

lemma isDigit_of_mem_decimal {c : Char} (h : c ∈ Nat.toDigits 10 n) : c.isDigit = true :=
  Nat.isDigit_of_mem_toDigits (by decide) (by decide) h

lemma notMem_decimal {c : Char} (h : c.isDigit = false) : c ∉ Nat.toDigits 10 n := by
  intro hc
  rw [isDigit_of_mem_decimal hc] at h
  cases h

end Spelling

namespace Ipv4

variable (address : Ipv4)

lemma text_eq : address.text =
    Nat.toDigits 10 address.a ++ '.' :: (Nat.toDigits 10 address.b ++ '.' ::
      (Nat.toDigits 10 address.c ++ '.' :: Nat.toDigits 10 address.d)) := by
  simp [text, List.intercalate]

lemma mem_text {c : Char} (h : c ∈ address.text) : c.isDigit = true ∨ c = '.' := by
  rw [text_eq] at h
  simp only [List.mem_append, List.mem_cons] at h
  rcases h with h | h | h | h | h | h | h
  all_goals first
    | exact .inr h
    | exact .inl (isDigit_of_mem_decimal h)

lemma first_prefix_iff (n : Fin 256) :
    Nat.toDigits 10 n ++ ['.'] <+: address.text ↔ address.a = n := by
  have hdot : ∀ k : Fin 256, '.' ∉ Nat.toDigits 10 k := fun k => notMem_decimal (by decide)
  constructor
  · rintro ⟨rest, hrest⟩
    rw [text_eq, List.append_assoc, List.singleton_append, cut_inj (hdot n) (hdot _)] at hrest
    exact Fin.ext (toDigits_ten_inj.mp hrest.1).symm
  · rintro rfl
    rw [text_eq]
    exact ⟨_, by rw [List.append_assoc, List.singleton_append]⟩

lemma first_two_prefix_iff (m n : Fin 256) :
    Nat.toDigits 10 m ++ '.' :: (Nat.toDigits 10 n ++ ['.']) <+: address.text ↔
      address.a = m ∧ address.b = n := by
  have hdot : ∀ k : Fin 256, '.' ∉ Nat.toDigits 10 k := fun k => notMem_decimal (by decide)
  constructor
  · rintro ⟨rest, hrest⟩
    rw [text_eq, List.append_assoc, List.cons_append, List.append_assoc, List.singleton_append,
      cut_inj (hdot m) (hdot _), cut_inj (hdot n) (hdot _)] at hrest
    exact ⟨Fin.ext (toDigits_ten_inj.mp hrest.1).symm, Fin.ext (toDigits_ten_inj.mp hrest.2.1).symm⟩
  · rintro ⟨rfl, rfl⟩
    rw [text_eq]
    exact ⟨Nat.toDigits 10 address.c ++ '.' :: Nat.toDigits 10 address.d, by simp⟩

theorem text_inj (address other : Ipv4) : address.text = other.text ↔ address = other := by
  have hdot : ∀ k : Fin 256, '.' ∉ Nat.toDigits 10 k := fun k => notMem_decimal (by decide)
  constructor
  · intro h
    rw [text_eq, text_eq, cut_inj (hdot _) (hdot _), cut_inj (hdot _) (hdot _),
      cut_inj (hdot _) (hdot _)] at h
    simp only [toDigits_ten_inj, Fin.val_inj] at h
    cases address
    cases other
    simp_all
  · rintro rfl
    rfl

end Ipv4

/-! ## Where the host of a URL lies -/

section Cleaning

variable {α : Type*} {p : α → Bool}

lemma rdropWhile_append_cons {front back : List α} {x : α} (h : p x = false) :
    (front ++ x :: back).rdropWhile p = front ++ x :: back.rdropWhile p := by
  have hx : List.dropWhile p (x :: front.reverse) = x :: front.reverse := by simp [h]
  rw [List.rdropWhile, List.rdropWhile, List.reverse_append, List.reverse_cons, List.append_assoc,
    List.singleton_append, List.dropWhile_append, hx]
  split_ifs with hempty
  · rw [List.isEmpty_iff.mp hempty]
    simp
  · simp

def cleanedEnd (back : List Char) : List Char :=
  (back.rdropWhile isC0OrSpace).filter fun c => !isTabOrNewline c

lemma isC0OrSpace_of_lt {c : Char} (h : 0x20 < c.toNat) : isC0OrSpace c = false := by
  simpa [isC0OrSpace] using h

lemma isTabOrNewline_of_lt {c : Char} (h : 0x20 < c.toNat) : isTabOrNewline c = false := by
  simp only [isTabOrNewline, Bool.or_eq_false_iff, decide_eq_false_iff_not]
  refine ⟨⟨?_, ?_⟩, ?_⟩ <;> rintro rfl <;> exact absurd h (by decide)

lemma filter_of_visible {text : List Char} (h : ∀ c ∈ text, 0x20 < c.toNat) :
    text.filter (fun c => !isTabOrNewline c) = text := by
  rw [List.filter_eq_self]
  intro c hc
  rw [isTabOrNewline_of_lt (h c hc)]
  rfl

lemma cleanedEnd_append_cons {front : List Char} {x : Char} (back : List Char)
    (hfront : ∀ c ∈ front ++ [x], 0x20 < c.toNat) :
    cleanedEnd (front ++ x :: back) = front ++ x :: cleanedEnd back := by
  rw [cleanedEnd, rdropWhile_append_cons (isC0OrSpace_of_lt (hfront x (by simp))), cleanedEnd,
    List.append_cons, List.filter_append, filter_of_visible hfront, ← List.append_cons]

lemma cleaned_append {front : List Char} {x : Char} (back : List Char)
    (hfront : ∀ c ∈ front ++ [x], 0x20 < c.toNat) :
    cleaned (front ++ x :: back) = front ++ x :: cleanedEnd back := by
  have hdrop : (front ++ x :: back).dropWhile isC0OrSpace = front ++ x :: back := by
    cases front with
    | nil => simp [isC0OrSpace_of_lt (hfront x (by simp))]
    | cons c rest => simp [isC0OrSpace_of_lt (hfront c (by simp))]
  rw [cleaned, hdrop, ← cleanedEnd_append_cons back hfront, cleanedEnd]

/-- A tail is empty or begins with a character that ends the authority. -/
def IsTail (tail : List Char) : Prop :=
  tail = [] ∨ ∃ x rest, tail = x :: rest ∧ endsAuthority x = true

lemma endsAuthority_visible {x : Char} (h : endsAuthority x = true) : 0x20 < x.toNat := by
  simp only [endsAuthority, Bool.or_eq_true, decide_eq_true_eq] at h
  rcases h with ((rfl | rfl) | rfl) | rfl <;> decide

variable {tail : List Char}

lemma cleanedEnd_append {authority : List Char} (hvisible : ∀ c ∈ authority, 0x20 < c.toNat)
    (htail : IsTail tail) :
    ∃ tail', cleanedEnd (authority ++ tail) = authority ++ tail' ∧ IsTail tail' := by
  rcases htail with rfl | ⟨x, rest, rfl, hx⟩
  · have hself : authority.rdropWhile isC0OrSpace = authority := by
      rw [List.rdropWhile_eq_self_iff]
      intro hne
      simp [isC0OrSpace_of_lt (hvisible _ (List.getLast_mem hne))]
    refine ⟨[], ?_, .inl rfl⟩
    rw [List.append_nil, cleanedEnd, hself, filter_of_visible hvisible]
  · refine ⟨x :: cleanedEnd rest, cleanedEnd_append_cons rest fun c hc => ?_, .inr ⟨x, _, rfl, hx⟩⟩
    rcases Lists.mem_concat hc with hc | rfl
    · exact hvisible c hc
    · exact endsAuthority_visible hx

lemma takeWhile_authority {authority : List Char} (htail : IsTail tail) :
    (authority ++ tail).takeWhile (fun c => !endsAuthority c) =
      authority.takeWhile fun c => !endsAuthority c := by
  have hnone : tail.takeWhile (fun c => !endsAuthority c) = [] := by
    rcases htail with rfl | ⟨x, rest, rfl, hx⟩
    · rfl
    · simp [hx]
  rw [List.takeWhile_append, hnone, List.append_nil]
  split_ifs with hall
  · exact (List.takeWhile_prefix _).eq_of_length hall |>.symm
  · rfl

end Cleaning

section Urls

variable (punycode : List Char → Bool) {scheme : List Char}

lemma hostOfUrl_append (hspecial : scheme.map lowerChar ∈ specialSchemes)
    (hscheme : ∀ c ∈ scheme, 0x20 < c.toNat ∧ c ≠ ':') (rest : List Char) :
    hostOfUrl punycode (scheme ++ ':' :: '/' :: '/' :: rest) =
      hostOfAuthority punycode
        (((cleanedEnd rest).dropWhile isSlash).takeWhile fun c => !endsAuthority c) := by
  have hclean : cleaned (scheme ++ ':' :: '/' :: '/' :: rest) =
      scheme ++ ':' :: '/' :: '/' :: cleanedEnd rest := by
    have hvisible : ∀ c ∈ (scheme ++ [':', '/']) ++ ['/'], 0x20 < c.toNat := by
      intro c hc
      simp only [List.append_assoc, List.cons_append, List.nil_append, List.mem_append,
        List.mem_cons, List.not_mem_nil, or_false] at hc
      rcases hc with hc | rfl | rfl | rfl
      · exact (hscheme c hc).1
      all_goals decide
    simpa using cleaned_append rest hvisible
  have hcolon : ∀ c ∈ scheme, decide (c ≠ ':') = true :=
    fun c hc => decide_eq_true (hscheme c hc).2
  rw [hostOfUrl]
  simp only [hclean]
  rw [List.dropWhile_append_of_pos hcolon, List.takeWhile_append_of_pos hcolon]
  simp [hspecial, isSlash]

variable {tail host : List Char}

/-- The host of a URL whose authority is visible is the host of the authority. -/
theorem hostOfUrl_visible (hspecial : scheme.map lowerChar ∈ specialSchemes)
    (hscheme : ∀ c ∈ scheme, 0x20 < c.toNat ∧ c ≠ ':') {authority : List Char}
    (hne : authority ≠ [])
    (hauthority : ∀ c ∈ authority, 0x20 < c.toNat ∧ endsAuthority c = false) (htail : IsTail tail) :
    hostOfUrl punycode (scheme ++ ':' :: '/' :: '/' :: (authority ++ tail)) =
      hostOfAuthority punycode authority := by
  obtain ⟨tail', hend, htail'⟩ := cleanedEnd_append (fun c hc => (hauthority c hc).1) htail
  obtain ⟨first, others, rfl⟩ := List.exists_cons_of_ne_nil hne
  have hslash : isSlash first = false := by
    have := (hauthority first (by simp)).2
    simp only [endsAuthority, Bool.or_eq_false_iff] at this
    simp only [isSlash, Bool.or_eq_false_iff]
    exact this.1.1
  rw [hostOfUrl_append punycode hspecial hscheme, hend, List.cons_append,
    List.dropWhile_cons_of_neg (by simp [hslash]), ← List.cons_append, takeWhile_authority htail']
  rw [List.takeWhile_eq_self_iff.mpr fun c hc => by rw [(hauthority c hc).2]; rfl]

/-- The port is cut off at the colon after a host without colons and brackets. -/
lemma splitPort_append (hhost : ∀ c ∈ host, c ≠ ':' ∧ c ≠ '[' ∧ c ≠ ']')
    (port : List Char) : splitPort false (host ++ ':' :: port) = (host, some port) := by
  induction host with
  | nil => simp [splitPort]
  | cons c rest ih =>
    obtain ⟨hcolon, hopen, hclose⟩ := hhost c (by simp)
    have hrest := ih fun d hd => hhost d (by simp [hd])
    simp [splitPort, hcolon, hopen, hclose, hrest]

lemma splitPort_none (hhost : ∀ c ∈ host, c ≠ ':' ∧ c ≠ '[' ∧ c ≠ ']') :
    splitPort false host = (host, none) := by
  induction host with
  | nil => rfl
  | cons c rest ih =>
    obtain ⟨hcolon, hopen, hclose⟩ := hhost c (by simp)
    have hrest := ih fun d hd => hhost d (by simp [hd])
    simp [splitPort, hcolon, hopen, hclose, hrest]

lemma ne_of_toNat {c d : Char} (h : c.toNat ≠ d.toNat) : c ≠ d := fun hcd => h (hcd ▸ rfl)

lemma endsAuthority_eq_false {c : Char} (h : c.toNat ∉ [35, 47, 63, 92]) :
    endsAuthority c = false := by
  simp only [List.mem_cons, List.not_mem_nil, or_false, not_or] at h
  obtain ⟨hhash, hslash, hquestion, hback⟩ := h
  have h₁ : c ≠ '#' := ne_of_toNat hhash
  have h₂ : c ≠ '/' := ne_of_toNat hslash
  have h₃ : c ≠ '?' := ne_of_toNat hquestion
  have h₄ : c ≠ '\\' := ne_of_toNat hback
  simp [endsAuthority, h₁, h₂, h₃, h₄]

lemma digit_visible {c : Char} (h : c.isDigit = true) :
    0x20 < c.toNat ∧ endsAuthority c = false ∧ c ≠ ':' ∧ c ≠ '[' ∧ c ≠ ']' ∧ c ≠ '@' := by
  have hcode : 48 ≤ c.toNat ∧ c.toNat ≤ 57 := by
    simpa [Char.isDigit, UInt32.le_iff_toNat_le] using h
  refine ⟨by omega, endsAuthority_eq_false fun hk => ?_, ?_⟩
  · simp only [List.mem_cons, List.not_mem_nil, or_false] at hk
    omega
  · refine ⟨?_, ?_, ?_, ?_⟩ <;> rintro rfl <;> exact absurd hcode (by decide)

/-- A host text without a bracket denotes an IPv4 address when it ends in a number, and else itself
in lower case. -/
lemma parseHost_name {text : List Char} {host : Host} (htext : ∀ rest, text ≠ '[' :: rest)
    (h : parseHost punycode text = some host) :
    (endsInNumber (text.map lowerChar) = false ∧ host = .domain (text.map lowerChar)) ∨
      (endsInNumber (text.map lowerChar) = true ∧ ∃ address,
        parseIpv4 (text.map lowerChar) = some address ∧ host = .ipv4 address) := by
  unfold parseHost at h
  split at h
  · exact absurd rfl (htext _)
  · simp only [Option.bind_eq_bind, Option.bind_eq_some_iff] at h
    obtain ⟨ascii, hascii, h⟩ := h
    simp only [domainToAscii] at hascii
    split_ifs at hascii
    obtain rfl := Option.some.inj hascii
    split_ifs at h with hnumber
    · obtain ⟨address, haddress, rfl⟩ := Option.map_eq_some_iff.mp h
      exact .inr ⟨hnumber, address, haddress, rfl⟩
    · exact .inl ⟨Bool.eq_false_iff.mpr hnumber, (Option.some.inj h).symm⟩

end Urls

end Hosts
