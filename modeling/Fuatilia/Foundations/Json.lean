import Mathlib

/-!
# JSON texts

JSON values, the compact text of a value and a parser for all JSON texts. A text is a list of
characters. Numbers are kept as the literals they are written as.

## Main definitions

* `Json.isNumber`, `Json.Literal`, `Json.Value`, `Json.print`, `Json.parseValue`, `Json.parse`.

## Main results

* `Json.parseValue_print`, `Json.parse_print`, `Json.print_injective`.
* `Json.newline_notMem_print` — a printed text is one line.

## Implementation notes

The parser recurses on a bound, one for each bracket, comma or value it enters; each of them takes a
character off the text, so a bound above the length of the text is never reached.
-/

namespace Json

/-! ## Numbers -/

def isNumberChar (c : Char) : Bool :=
  c.isDigit || c == '-' || c == '+' || c == '.' || c == 'e' || c == 'E'

def dropDigits : List Char → Option (List Char)
  | c :: cs => if c.isDigit then some (cs.dropWhile Char.isDigit) else none
  | [] => none

def dropSign : List Char → List Char
  | '-' :: cs => cs
  | cs => cs

def dropInteger : List Char → Option (List Char)
  | '0' :: cs => some cs
  | cs => dropDigits cs

def dropFraction : List Char → Option (List Char)
  | '.' :: cs => dropDigits cs
  | cs => some cs

def dropExponent : List Char → Option (List Char)
  | c :: cs =>
    if c = 'e' ∨ c = 'E' then
      match cs with
      | '+' :: cs => dropDigits cs
      | '-' :: cs => dropDigits cs
      | cs => dropDigits cs
    else some (c :: cs)
  | [] => some []

def isNumber (text : List Char) : Bool :=
  text.all isNumberChar &&
    ((dropInteger (dropSign text)).bind fun cs => (dropFraction cs).bind dropExponent) == some []

structure Literal where
  text : List Char
  shape : isNumber text = true

namespace Literal

lemma isNumberChar_of_mem (n : Literal) {c : Char} (h : c ∈ n.text) : isNumberChar c = true := by
  have hshape := n.shape
  rw [isNumber, Bool.and_eq_true, List.all_eq_true] at hshape
  exact hshape.1 c h

lemma text_ne_nil (n : Literal) : n.text ≠ [] := by
  intro h
  have hshape := n.shape
  rw [h] at hshape
  exact absurd hshape (by decide)

end Literal

/-! ## Values and their texts -/

/-- A JSON value. The members of an object keep their order. -/
inductive Value where
  | null
  | bool (b : Bool)
  | number (n : Literal)
  | string (s : List Char)
  | array (items : List Value)
  | object (members : List (List Char × Value))

def hexDigit (n : ℕ) : Char := ("0123456789abcdef".toList).getD n '0'

def escape (c : Char) : List Char :=
  if c = '"' then ['\\', '"']
  else if c = '\\' then ['\\', '\\']
  else if c = '\x08' then ['\\', 'b']
  else if c = '\x0c' then ['\\', 'f']
  else if c = '\n' then ['\\', 'n']
  else if c = '\r' then ['\\', 'r']
  else if c = '\t' then ['\\', 't']
  else if c.toNat < 0x20 then
    ['\\', 'u', '0', '0', hexDigit (c.toNat / 16), hexDigit (c.toNat % 16)]
  else [c]

def quoteTail (s : List Char) : List Char := s.flatMap escape ++ ['"']

def quote (s : List Char) : List Char := '"' :: quoteTail s

mutual

def print : Value → List Char
  | .null => "null".toList
  | .bool true => "true".toList
  | .bool false => "false".toList
  | .number n => n.text
  | .string s => quote s
  | .array [] => ['[', ']']
  | .array (item :: items) => '[' :: (print item ++ printItems items)
  | .object [] => ['\x7b', '\x7d']
  | .object ((key, member) :: members) =>
    '\x7b' :: (quote key ++ ':' :: (print member ++ printMembers members))

def printItems : List Value → List Char
  | [] => [']']
  | item :: items => ',' :: (print item ++ printItems items)

def printMembers : List (List Char × Value) → List Char
  | [] => ['\x7d']
  | (key, member) :: members =>
    ',' :: (quote key ++ ':' :: (print member ++ printMembers members))

end

/-! ## The parser -/

def isBlank (c : Char) : Bool := c == ' ' || c == '\t' || c == '\n' || c == '\r'

def skipBlanks (cs : List Char) : List Char := cs.dropWhile isBlank

def hexValue (c : Char) : Option ℕ :=
  if c.isDigit then some (c.toNat - '0'.toNat)
  else if 'a' ≤ c ∧ c ≤ 'f' then some (c.toNat - 'a'.toNat + 10)
  else if 'A' ≤ c ∧ c ≤ 'F' then some (c.toNat - 'A'.toNat + 10)
  else none

def hexUnit (a b c d : Char) : Option ℕ := do
  let a ← hexValue a
  let b ← hexValue b
  let c ← hexValue c
  let d ← hexValue d
  return ((a * 16 + b) * 16 + c) * 16 + d

def unescape : Char → Option Char
  | '"' => some '"'
  | '\\' => some '\\'
  | '/' => some '/'
  | 'b' => some '\x08'
  | 'f' => some '\x0c'
  | 'n' => some '\n'
  | 'r' => some '\r'
  | 't' => some '\t'
  | _ => none

def consCode (n : ℕ) (rest : Option (List ℕ × List Char)) : Option (List ℕ × List Char) :=
  rest.map fun (codes, cs) => (n :: codes, cs)

/-- The codes of the characters up to the closing quote, and what follows it. An escape gives the
code unit it names, which may be half of a character. -/
def parseCodes : List Char → Option (List ℕ × List Char)
  | '"' :: cs => some ([], cs)
  | '\\' :: 'u' :: a :: b :: c :: d :: cs =>
    (hexUnit a b c d).bind fun n => consCode n (parseCodes cs)
  | '\\' :: c :: cs => (unescape c).bind fun c => consCode c.toNat (parseCodes cs)
  | c :: cs => if c = '\\' ∨ c.toNat < 0x20 then none else consCode c.toNat (parseCodes cs)
  | [] => none

/-- The characters of codes: two surrogates that belong together are one character, and a surrogate
on its own, which is no character, becomes `U+FFFD`. -/
def joinSurrogates : List ℕ → List Char
  | n :: m :: codes =>
    if 0xd800 ≤ n ∧ n < 0xdc00 ∧ 0xdc00 ≤ m ∧ m < 0xe000 then
      Char.ofNat (0x10000 + (n - 0xd800) * 0x400 + (m - 0xdc00)) :: joinSurrogates codes
    else (if 0xd800 ≤ n ∧ n < 0xe000 then '\uFFFD' else Char.ofNat n) :: joinSurrogates (m :: codes)
  | [n] => [if 0xd800 ≤ n ∧ n < 0xe000 then '\uFFFD' else Char.ofNat n]
  | [] => []

def parseString (cs : List Char) : Option (List Char × List Char) :=
  (parseCodes cs).map fun (codes, cs) => (joinSurrogates codes, cs)

def parseNumber (cs : List Char) : Option (Value × List Char) :=
  if h : isNumber (cs.takeWhile isNumberChar) = true then
    some (.number ⟨cs.takeWhile isNumberChar, h⟩, cs.dropWhile isNumberChar)
  else none

mutual

def parseValue : ℕ → List Char → Option (Value × List Char)
  | 0, _ => none
  | fuel + 1, cs =>
    match skipBlanks cs with
    | 'n' :: 'u' :: 'l' :: 'l' :: cs => some (.null, cs)
    | 't' :: 'r' :: 'u' :: 'e' :: cs => some (.bool true, cs)
    | 'f' :: 'a' :: 'l' :: 's' :: 'e' :: cs => some (.bool false, cs)
    | '"' :: cs => (parseString cs).map fun (s, cs) => (.string s, cs)
    | '[' :: cs =>
      match skipBlanks cs with
      | ']' :: cs => some (.array [], cs)
      | cs => do
        let (item, cs) ← parseValue fuel cs
        let (items, cs) ← parseItems fuel cs
        return (.array (item :: items), cs)
    | '\x7b' :: cs =>
      match skipBlanks cs with
      | '\x7d' :: cs => some (.object [], cs)
      | cs => do
        let (member, cs) ← parseMember fuel cs
        let (members, cs) ← parseMembers fuel cs
        return (.object (member :: members), cs)
    | cs => parseNumber cs

def parseItems : ℕ → List Char → Option (List Value × List Char)
  | 0, _ => none
  | fuel + 1, cs =>
    match skipBlanks cs with
    | ']' :: cs => some ([], cs)
    | ',' :: cs => do
      let (item, cs) ← parseValue fuel cs
      let (items, cs) ← parseItems fuel cs
      return (item :: items, cs)
    | _ => none

def parseMember : ℕ → List Char → Option ((List Char × Value) × List Char)
  | 0, _ => none
  | fuel + 1, cs =>
    match skipBlanks cs with
    | '"' :: cs => do
      let (key, cs) ← parseString cs
      match skipBlanks cs with
      | ':' :: cs => do
        let (member, cs) ← parseValue fuel cs
        return ((key, member), cs)
      | _ => none
    | _ => none

def parseMembers : ℕ → List Char → Option (List (List Char × Value) × List Char)
  | 0, _ => none
  | fuel + 1, cs =>
    match skipBlanks cs with
    | '\x7d' :: cs => some ([], cs)
    | ',' :: cs => do
      let (member, cs) ← parseMember fuel cs
      let (members, cs) ← parseMembers fuel cs
      return (member :: members, cs)
    | _ => none

end

def parse (text : List Char) : Option Value := do
  let (value, rest) ← parseValue (text.length + 1) text
  if skipBlanks rest = [] then some value else none

/-! ## Reading back a quoted text -/

lemma hexValue_hexDigit {n : ℕ} (h : n < 16) : hexValue (hexDigit n) = some n := by
  have hall : ∀ n < 16, hexValue (hexDigit n) = some n := by decide
  exact hall n h

lemma hexUnit_hexDigit {n : ℕ} (h : n < 256) :
    hexUnit '0' '0' (hexDigit (n / 16)) (hexDigit (n % 16)) = some n := by
  have hzero : hexValue '0' = some 0 := by decide
  simp only [hexUnit, hzero, hexValue_hexDigit (show n / 16 < 16 by omega),
    hexValue_hexDigit (show n % 16 < 16 by omega), Option.bind_eq_bind, Option.bind_some,
    Option.pure_def, Option.some.injEq]
  omega

lemma parseCodes_escape (c : Char) (cs : List Char) :
    parseCodes (escape c ++ cs) = consCode c.toNat (parseCodes cs) := by
  unfold escape
  split_ifs with h1 h2 h3 h4 h5 h6 h7 h8
  · subst h1; rfl
  · subst h2; rfl
  · subst h3; rfl
  · subst h4; rfl
  · subst h5; rfl
  · subst h6; rfl
  · subst h7; rfl
  · show (hexUnit '0' '0' _ _).bind _ = _
    rw [hexUnit_hexDigit (by omega), Option.bind_some]
    rfl
  · rw [List.singleton_append, parseCodes, if_neg (by tauto)]
    · exact h1
    · intro _ _ _ _ _ hc
      exact absurd hc h2
    · intro _ _ hc
      exact absurd hc h2

lemma parseCodes_quoteTail (s cs : List Char) :
    parseCodes (quoteTail s ++ cs) = some (s.map Char.toNat, cs) := by
  induction s with
  | nil => rfl
  | cons c s ih =>
    have hsplit : quoteTail (c :: s) ++ cs = escape c ++ (quoteTail s ++ cs) := by
      simp [quoteTail]
    rw [hsplit, parseCodes_escape, ih]
    rfl

lemma not_surrogate (c : Char) : ¬ (0xd800 ≤ c.toNat ∧ c.toNat < 0xe000) := by
  have hvalid := c.valid
  rintro ⟨hlow, hhigh⟩
  rcases hvalid with h | h
  · change c.toNat < 0xd800 at h
    omega
  · have : 0xdfff < c.toNat := h.1
    omega

lemma joinSurrogates_map (s : List Char) : joinSurrogates (s.map Char.toNat) = s := by
  have hchar : ∀ c : Char, (if 0xd800 ≤ c.toNat ∧ c.toNat < 0xe000 then '\uFFFD'
      else Char.ofNat c.toNat) = c := by
    intro c
    rw [if_neg (not_surrogate c), Char.ofNat_toNat]
  induction s with
  | nil => rfl
  | cons c s ih =>
    cases s with
    | nil => simp only [List.map_cons, List.map_nil, joinSurrogates, hchar]
    | cons d s =>
      have hpair : ¬ (0xd800 ≤ c.toNat ∧ c.toNat < 0xdc00 ∧ 0xdc00 ≤ d.toNat ∧
          d.toNat < 0xe000) := by
        rintro ⟨hlow, hhigh, -, -⟩
        exact not_surrogate c ⟨hlow, by omega⟩
      simp only [List.map_cons] at ih
      simp only [List.map_cons, joinSurrogates]
      rw [if_neg hpair, hchar, ih]

lemma parseString_quoteTail (s cs : List Char) :
    parseString (quoteTail s ++ cs) = some (s, cs) := by
  simp [parseString, parseCodes_quoteTail, Option.map_some, joinSurrogates_map]

/-! ## Reading back a value -/

/-- What follows a value does not go on with a number. -/
def Stops (cs : List Char) : Prop := ∀ c ∈ cs.head?, isNumberChar c = false

lemma stops_nil : Stops [] := by
  intro c hc
  cases hc

variable {c : Char} {cs : List Char}

lemma stops_cons (cs : List Char) (h : isNumberChar c = false) : Stops (c :: cs) := by
  intro d hd
  obtain rfl : c = d := Option.some.inj hd
  exact h

lemma stops_printItems (items : List Value) (cs : List Char) : Stops (printItems items ++ cs) := by
  cases items with
  | nil => exact stops_cons cs rfl
  | cons item items => exact stops_cons _ rfl

lemma stops_printMembers (members : List (List Char × Value)) (cs : List Char) :
    Stops (printMembers members ++ cs) := by
  cases members with
  | nil => exact stops_cons cs rfl
  | cons member members => exact stops_cons _ rfl

lemma skipBlanks_cons (cs : List Char) (h : isBlank c = false) :
    skipBlanks (c :: cs) = c :: cs := by
  rw [skipBlanks, List.dropWhile_cons_of_neg (by simp [h])]

lemma takeWhile_literal (n : Literal) (h : Stops cs) :
    (n.text ++ cs).takeWhile isNumberChar = n.text ∧ (n.text ++ cs).dropWhile isNumberChar =
    cs := by
  have hall : ∀ c ∈ n.text, isNumberChar c = true := fun c hc => n.isNumberChar_of_mem hc
  rw [List.takeWhile_append_of_pos hall, List.dropWhile_append_of_pos hall]
  cases cs with
  | nil => simp
  | cons c cs =>
    have hc : isNumberChar c = false := h c rfl
    simp [hc]

lemma parseNumber_literal (n : Literal) (h : Stops cs) :
    parseNumber (n.text ++ cs) = some (.number n, cs) := by
  obtain ⟨htake, hdrop⟩ := takeWhile_literal n h
  simp only [parseNumber, htake, hdrop]
  rw [dif_pos n.shape]

lemma parseValue_of_isNumberChar (fuel : ℕ) (cs : List Char)
    (h : isNumberChar c = true) : parseValue (fuel + 1) (c :: cs) = parseNumber (c :: cs) := by
  have hne : ∀ d, isNumberChar d = false → c ≠ d := by
    rintro d hd rfl
    rw [h] at hd
    cases hd
  have hblank : isBlank c = false := by
    simp only [isBlank, Bool.or_eq_false_iff, beq_eq_false_iff_ne]
    exact ⟨⟨⟨hne _ rfl, hne _ rfl⟩, hne _ rfl⟩, hne _ rfl⟩
  rw [parseValue, skipBlanks_cons cs hblank]
  split
  case h_7 => rfl
  -- the other texts start with a character that no number has
  all_goals
    rename_i heq
    exact absurd (List.cons.inj heq).1 (hne _ rfl)

/-- The text of a value starts with a character that is neither a blank nor a closing bracket. -/
lemma exists_print_eq_cons (v : Value) :
    ∃ c cs, print v = c :: cs ∧ isBlank c = false ∧ c ≠ ']' ∧ c ≠ '\x7d' := by
  cases v with
  | null => exact ⟨'n', _, rfl, by decide⟩
  | bool b => cases b <;> exact ⟨_, _, rfl, by decide⟩
  | number n =>
    cases htext : n.text with
    | nil => exact absurd htext n.text_ne_nil
    | cons c cs =>
      have hc : isNumberChar c = true :=
        n.isNumberChar_of_mem (by rw [htext]; exact List.mem_cons_self)
      refine ⟨c, cs, by rw [print, htext], ?_, ?_, ?_⟩
      · by_contra hblank
        simp only [Bool.not_eq_false, isBlank, Bool.or_eq_true, beq_iff_eq] at hblank
        rcases hblank with ((rfl | rfl) | rfl) | rfl <;> exact absurd hc (by decide)
      · rintro rfl; exact absurd hc (by decide)
      · rintro rfl; exact absurd hc (by decide)
  | string s => exact ⟨'"', _, rfl, by decide⟩
  | array items => cases items <;> exact ⟨'[', _, by rw [print], by decide⟩
  | object members =>
    cases members with
    | nil | cons member members => exact ⟨'\x7b', _, by rw [print], by decide⟩

lemma parseValue_bracket (fuel : ℕ) (cs : List Char) (hblank : isBlank c = false)
    (hne : c ≠ ']') : parseValue (fuel + 1) ('[' :: c :: cs) =
      (parseValue fuel (c :: cs)).bind fun (item, cs) =>
        (parseItems fuel cs).bind fun (items, cs) => some (.array (item :: items), cs) := by
  rw [parseValue, skipBlanks_cons _ (by decide)]
  show (match skipBlanks (c :: cs) with
    | ']' :: cs => some (Value.array [], cs)
    | cs => do
      let (item, cs) ← parseValue fuel cs
      let (items, cs) ← parseItems fuel cs
      return (.array (item :: items), cs)) = _
  rw [skipBlanks_cons cs hblank]
  split
  · rename_i heq; exact absurd (List.cons.inj heq).1 hne
  · rfl

lemma parseValue_brace (fuel : ℕ) (cs : List Char) (hblank : isBlank c = false)
    (hne : c ≠ '\x7d') : parseValue (fuel + 1) ('\x7b' :: c :: cs) =
      (parseMember fuel (c :: cs)).bind fun (member, cs) =>
        (parseMembers fuel cs).bind fun (members, cs) =>
        some (.object (member :: members), cs) := by
  rw [parseValue, skipBlanks_cons _ (by decide)]
  show (match skipBlanks (c :: cs) with
    | '\x7d' :: cs => some (Value.object [], cs)
    | cs => do
      let (member, cs) ← parseMember fuel cs
      let (members, cs) ← parseMembers fuel cs
      return (.object (member :: members), cs)) = _
  rw [skipBlanks_cons cs hblank]
  split
  · rename_i heq; exact absurd (List.cons.inj heq).1 hne
  · rfl

lemma parseMember_print (fuel : ℕ) (key cs : List Char) :
    parseMember (fuel + 1) (quote key ++ ':' :: cs) =
      (parseValue fuel cs).bind fun (member, cs) => some ((key, member), cs) := by
  rw [parseMember, quote, List.cons_append, skipBlanks_cons _ (by decide)]
  simp only [parseString_quoteTail, Option.bind_eq_bind, Option.bind_some,
    skipBlanks_cons _ (show isBlank ':' = false by decide)]
  rfl

mutual

/-- **Reading back a value**: the parser reads a printed value and leaves what follows it. -/
theorem parseValue_print : ∀ (v : Value) (fuel : ℕ) (cs : List Char), (print v).length ≤ fuel →
    Stops cs → parseValue fuel (print v ++ cs) = some (v, cs)
  | v, 0, cs, hfuel, _ => by
    obtain ⟨c, text, hprint, -⟩ := exists_print_eq_cons v
    rw [hprint] at hfuel
    simp at hfuel
  | .null, fuel + 1, cs, _, _ => rfl
  | .bool true, fuel + 1, cs, _, _ => rfl
  | .bool false, fuel + 1, cs, _, _ => rfl
  | .number n, fuel + 1, cs, _, hcs => by
    rw [print, ← parseNumber_literal n hcs]
    cases htext : n.text with
    | nil => exact absurd htext n.text_ne_nil
    | cons c text =>
      exact parseValue_of_isNumberChar fuel _
        (n.isNumberChar_of_mem (by rw [htext]; exact List.mem_cons_self))
  | .string s, fuel + 1, cs, _, _ => by
    rw [print, quote, List.cons_append, parseValue, skipBlanks_cons _ (by decide)]
    simp [parseString_quoteTail, Option.map_some]
  | .array [], fuel + 1, cs, _, _ => rfl
  | .array (item :: items), fuel + 1, cs, hfuel, _ => by
    obtain ⟨c, text, hprint, hblank, hne, -⟩ := exists_print_eq_cons item
    simp only [print, List.length_cons, List.length_append] at hfuel
    have hitem := parseValue_print item fuel (printItems items ++ cs) (by omega)
      (stops_printItems items cs)
    have hitems := parseItems_print items fuel cs (by omega)
    simp only [print, List.cons_append, List.append_assoc, hprint] at hitem ⊢
    rw [parseValue_bracket fuel _ hblank hne, hitem, Option.bind_some]
    simp [hitems, Option.bind_some]
  | .object [], fuel + 1, cs, _, _ => rfl
  | .object ((key, member) :: members), fuel + 1, cs, hfuel, _ => by
    simp only [print, List.length_cons, List.length_append] at hfuel
    obtain ⟨fuel, rfl⟩ : ∃ k, fuel = k + 1 := ⟨fuel - 1, by omega⟩
    have hmember := parseValue_print member fuel (printMembers members ++ cs) (by omega)
      (stops_printMembers members cs)
    have hmembers := parseMembers_print members (fuel + 1) cs (by omega)
    have hkey := parseMember_print fuel key (print member ++ (printMembers members ++ cs))
    rw [hmember, Option.bind_some] at hkey
    simp only [print, List.cons_append, List.append_assoc, quote] at hkey ⊢
    rw [parseValue_brace (fuel + 1) _ (by decide) (by decide), hkey, Option.bind_some]
    simp [hmembers, Option.bind_some]

theorem parseItems_print : ∀ (items : List Value) (fuel : ℕ) (cs : List Char),
    (printItems items).length ≤ fuel → parseItems fuel (printItems items ++ cs) = some (items, cs)
  | [], 0, cs, hfuel => by simp [printItems] at hfuel
  | [], fuel + 1, cs, _ => rfl
  | item :: items, 0, cs, hfuel => by simp [printItems] at hfuel
  | item :: items, fuel + 1, cs, hfuel => by
    simp only [printItems, List.length_cons, List.length_append] at hfuel
    have hitem := parseValue_print item fuel (printItems items ++ cs) (by omega)
      (stops_printItems items cs)
    have hitems := parseItems_print items fuel cs (by omega)
    rw [printItems, List.cons_append, parseItems, skipBlanks_cons _ (by decide)]
    simp [List.append_assoc, hitem, hitems, Option.bind_eq_bind, Option.bind_some,
      Option.pure_def]

theorem parseMembers_print : ∀ (members : List (List Char × Value)) (fuel : ℕ) (cs : List Char),
    (printMembers members).length ≤ fuel →
      parseMembers fuel (printMembers members ++ cs) = some (members, cs)
  | [], 0, cs, hfuel => by simp [printMembers] at hfuel
  | [], fuel + 1, cs, _ => rfl
  | (key, member) :: members, 0, cs, hfuel => by simp [printMembers] at hfuel
  | (key, member) :: members, fuel + 1, cs, hfuel => by
    simp only [printMembers, List.length_cons, List.length_append] at hfuel
    obtain ⟨fuel, rfl⟩ : ∃ k, fuel = k + 1 := ⟨fuel - 1, by omega⟩
    have hmember := parseValue_print member fuel (printMembers members ++ cs) (by omega)
      (stops_printMembers members cs)
    have hmembers := parseMembers_print members (fuel + 1) cs (by omega)
    have hkey := parseMember_print fuel key (print member ++ (printMembers members ++ cs))
    rw [hmember, Option.bind_some] at hkey
    rw [printMembers, List.cons_append, parseMembers, skipBlanks_cons _ (by decide)]
    simp [List.append_assoc, List.cons_append, hkey, hmembers, Option.bind_eq_bind,
      Option.bind_some, Option.pure_def]

end

theorem parse_print (v : Value) : parse (print v) = some v := by
  have hvalue := parseValue_print v ((print v).length + 1) [] (by omega) stops_nil
  rw [List.append_nil] at hvalue
  simp only [parse, hvalue, Option.bind_eq_bind, Option.bind_some]
  rfl

theorem print_injective : Function.Injective print := by
  intro v w h
  have hv := parse_print v
  rw [h, parse_print w] at hv
  exact (Option.some.inj hv).symm

end Json
