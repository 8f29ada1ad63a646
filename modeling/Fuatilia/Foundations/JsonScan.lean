import Fuatilia.Foundations.Json

/-!
# Where a JSON object starts

No object text ends with the text of another object that it is not equal to: reading an object from
the left, the brackets are closed only by its last character, and inside a quoted text the opening
of an object cannot be read as one. So a text of the form `prefix ++ object` determines both parts,
with no separator and no bound on the length of the prefix.

## Main definitions

* `Json.Mode`, `Json.advance`, `Json.scan`.

## Main results

* `Json.scan_print`, `Json.scan_object`, `Json.append_object_inj`.
-/

namespace Json

/-! ## The scanner -/

/-- Where a scanner of one object is: before it, in it outside a quoted text (with the further open
brackets, and whether a quoted text was just closed), in a quoted text, behind a backslash in one,
or at the end. -/
inductive Mode where
  | start
  | outside (depth : ℕ) (closed : Bool)
  | inside (depth : ℕ)
  | escaped (depth : ℕ)
  | done

def isDelimiter (c : Char) : Bool := c == ',' || c == ':' || c == ']' || c == '\x7d'

def isEscape (c : Char) : Bool := "\"\\/bfnrtu".toList.contains c

def Mode.close : ℕ → Mode
  | 0 => .done
  | depth + 1 => .outside depth false

def advanceOutside (depth : ℕ) (c : Char) : Mode :=
  if c = '"' then .inside depth
  else if c = '\x7b' ∨ c = '[' then .outside (depth + 1) false
  else if c = '\x7d' ∨ c = ']' then Mode.close depth
  else .outside depth false

def advance : Mode → Char → Option Mode
  | .start, c => if c = '\x7b' then some (.outside 0 false) else none
  | .outside depth closed, c =>
    if closed && !isDelimiter c then none else some (advanceOutside depth c)
  | .inside depth, c =>
    if c = '"' then some (.outside depth true)
    else if c = '\\' then some (.escaped depth)
    else some (.inside depth)
  | .escaped depth, c => if isEscape c then some (.inside depth) else none
  | .done, _ => none

def scan (mode : Mode) (cs : List Char) : Option Mode := cs.foldlM advance mode

@[simp] lemma scan_nil (mode : Mode) : scan mode [] = some mode := rfl

lemma scan_cons (mode : Mode) (c : Char) (cs : List Char) :
    scan mode (c :: cs) = (advance mode c).bind fun mode => scan mode cs := by
  rw [scan, List.foldlM_cons]
  rfl

variable {c : Char} {mode : Mode} {key rest : List Char} {member : Value}
  {members : List (List Char × Value)}

variable {mode' : Mode} {cs x : List Char} {members' : List (List Char × Value)}

lemma scan_cons_of_eq (cs : List Char) (h : advance mode c = some mode') :
    scan mode (c :: cs) = scan mode' cs := by
  rw [scan_cons, h, Option.bind_some]

lemma scan_append (mode : Mode) (cs ds : List Char) :
    scan mode (cs ++ ds) = (scan mode cs).bind fun mode => scan mode ds := by
  rw [scan, List.foldlM_append]
  rfl

lemma scan_append_of_eq (ds : List Char)
    (h : scan mode cs = some mode') : scan mode (cs ++ ds) = scan mode' ds := by
  rw [scan_append, h, Option.bind_some]

/-! ## The scanner over a value -/

lemma scan_escape (depth : ℕ) (c : Char) : scan (.inside depth)
    (escape c) = some (.inside depth) := by
  unfold escape
  split_ifs with h1 h2 h3 h4 h5 h6 h7 h8
  · rfl
  · rfl
  · rfl
  · rfl
  · rfl
  · rfl
  · rfl
  · have hhex : ∀ n < 16, advance (.inside depth) (hexDigit n) = some (.inside depth) := by
      intro n hn
      have hne : ∀ n < 16, hexDigit n ≠ '"' ∧ hexDigit n ≠ '\\' := by decide
      simp [advance, if_neg (hne n hn).1, if_neg (hne n hn).2]
    show scan (.inside depth) [hexDigit (c.toNat / 16), hexDigit (c.toNat % 16)] = _
    rw [scan_cons_of_eq _ (hhex _ (by omega)), scan_cons_of_eq _ (hhex _ (by omega)), scan_nil]
  · have hchar : advance (.inside depth) c = some (.inside depth) := by
      simp [advance, if_neg h1, if_neg h2]
    rw [scan_cons_of_eq [] hchar, scan_nil]

lemma scan_quote (depth : ℕ) (s : List Char) :
    scan (.outside depth false) (quote s) = some (.outside depth true) := by
  have htail : scan (.inside depth) (quoteTail s) = some (.outside depth true) := by
    induction s with
    | nil => rfl
    | cons c s ih =>
      have hsplit : quoteTail (c :: s) = escape c ++ quoteTail s := by simp [quoteTail]
      rw [hsplit, scan_append_of_eq _ (scan_escape depth c), ih]
  rw [quote, scan_cons_of_eq _ (show advance _ '"' = some (.inside depth) from rfl), htail]

lemma scan_number (depth : ℕ) (n : Literal) :
    scan (.outside depth false) n.text = some (.outside depth false) := by
  have hall : ∀ cs : List Char, (∀ c ∈ cs, isNumberChar c = true) →
      scan (.outside depth false) cs = some (.outside depth false) := by
    intro cs hcs
    induction cs with
    | nil => rfl
    | cons c cs ih =>
      have hc := hcs c List.mem_cons_self
      have hne : ∀ d, isNumberChar d = false → c ≠ d := by
        rintro d hd rfl
        rw [hc] at hd
        cases hd
      have hadvance : advance (.outside depth false) c = some (.outside depth false) := by
        simp [advance, advanceOutside, hne '"' rfl, hne '[' rfl, hne ']' rfl, hne '\x7b' rfl,
          hne '\x7d' rfl]
      rw [scan_cons_of_eq _ hadvance, ih fun d hd => hcs d (List.mem_cons_of_mem c hd)]
  exact hall n.text fun c hc => n.isNumberChar_of_mem hc

lemma advance_delimiter (depth : ℕ) (closed : Bool) (h : isDelimiter c = true) :
    advance (.outside depth closed) c = some (advanceOutside depth c) := by
  simp [advance, h]

mutual

/-- A value is scanned without touching the brackets around it. -/
theorem scan_print : ∀ (v : Value) (depth : ℕ),
    ∃ closed, scan (.outside depth false) (print v) = some (.outside depth closed)
  | .null, depth => ⟨false, rfl⟩
  | .bool true, depth => ⟨false, rfl⟩
  | .bool false, depth => ⟨false, rfl⟩
  | .number n, depth => ⟨false, scan_number depth n⟩
  | .string s, depth => ⟨true, scan_quote depth s⟩
  | .array [], depth => ⟨false, rfl⟩
  | .array (item :: items), depth => by
    obtain ⟨closed, hitem⟩ := scan_print item (depth + 1)
    refine ⟨false, ?_⟩
    rw [print, scan_cons_of_eq _ (show advance _ '[' = some (.outside (depth + 1) false) from rfl),
      scan_append_of_eq _ hitem, scan_printItems items (depth + 1) closed]
    rfl
  | .object [], depth => ⟨false, rfl⟩
  | .object ((key, member) :: members), depth => by
    obtain ⟨closed, hmember⟩ := scan_print member (depth + 1)
    refine ⟨false, ?_⟩
    rw [print, scan_cons_of_eq _
      (show advance _ '\x7b' = some (.outside (depth + 1) false) from rfl),
      scan_append_of_eq _ (scan_quote (depth + 1) key), scan_cons_of_eq _
      (advance_delimiter (depth + 1) true (by decide))]
    show scan (.outside (depth + 1) false) _ = _
    rw [scan_append_of_eq _ hmember, scan_printMembers members (depth + 1) closed]
    rfl

theorem scan_printItems : ∀ (items : List Value) (depth : ℕ) (closed : Bool),
    scan (.outside depth closed) (printItems items) = some (Mode.close depth)
  | [], depth, closed => by
    rw [printItems, scan_cons_of_eq _ (advance_delimiter depth closed (by decide)), scan_nil]
    rfl
  | item :: items, depth, closed => by
    obtain ⟨closed', hitem⟩ := scan_print item depth
    rw [printItems, scan_cons_of_eq _ (advance_delimiter depth closed (by decide))]
    show scan (.outside depth false) _ = _
    rw [scan_append_of_eq _ hitem, scan_printItems items depth closed']

theorem scan_printMembers : ∀ (members : List (List Char × Value)) (depth : ℕ) (closed : Bool),
    scan (.outside depth closed) (printMembers members) = some (Mode.close depth)
  | [], depth, closed => by
    rw [printMembers, scan_cons_of_eq _ (advance_delimiter depth closed (by decide)), scan_nil]
    rfl
  | (key, member) :: members, depth, closed => by
    obtain ⟨closed', hmember⟩ := scan_print member depth
    rw [printMembers, scan_cons_of_eq _ (advance_delimiter depth closed (by decide))]
    show scan (.outside depth false) _ = _
    rw [scan_append_of_eq _ (scan_quote depth key),
      scan_cons_of_eq _ (advance_delimiter depth true (by decide))]
    show scan (.outside depth false) _ = _
    rw [scan_append_of_eq _ hmember, scan_printMembers members depth closed']

end

/-- **The scanner over an object** is done at its end. -/
theorem scan_object (members : List (List Char × Value)) :
    scan .start (print (.object members)) = some .done := by
  cases members with
  | nil => rfl
  | cons member members =>
    obtain ⟨key, member⟩ := member
    obtain ⟨closed, hmember⟩ := scan_print member 0
    rw [print, scan_cons_of_eq _ (show advance .start '\x7b' = some (.outside 0 false) from rfl),
      scan_append_of_eq _ (scan_quote 0 key),
      scan_cons_of_eq _ (advance_delimiter 0 true (by decide))]
    show scan (.outside 0 false) _ = _
    rw [scan_append_of_eq _ hmember, scan_printMembers members 0 closed]
    rfl

/-! ## Splitting a prefix off -/

/-- Inside an object the scanner cannot read another object to the end of the text.

**Proof sketch.** Outside a quoted text the brackets around the object stay open; behind a quoted
text or a backslash its opening brace is refused; and in a quoted text the quote of the first key
closes it, so that the first character of the key is refused. -/
lemma scan_object_ne_done (hmode : mode ≠ .start) (hkey : quote key = '"' :: c :: rest)
    (hc : isDelimiter c = false) :
    scan mode (print (.object ((key, member) :: members))) ≠ some .done := by
  obtain ⟨tail, htail⟩ : ∃ tail, print (.object ((key, member) :: members)) =
      '\x7b' :: '"' :: c :: tail := by
    rw [print, hkey]
    exact ⟨_, rfl⟩
  cases mode with
  | start => exact absurd rfl hmode
  | done | escaped depth =>
    rw [htail, scan_cons]
    exact fun h => by cases h
  | inside depth =>
    rw [htail, scan_cons_of_eq _ (show advance _ '\x7b' = some (.inside depth) from rfl),
      scan_cons_of_eq _ (show advance _ '"' = some (.outside depth true) from rfl), scan_cons]
    simp [advance, hc]
  | outside depth closed =>
    cases closed with
    | true =>
      rw [htail, scan_cons]
      exact fun h => by cases h
    | false =>
      obtain ⟨closed, hscan⟩ := scan_print (.object ((key, member) :: members)) depth
      rw [hscan]
      simp

lemma scan_ne_start (h : scan .start (c :: cs) = some mode) : mode ≠ .start := by
  have hstep : ∀ m d m', advance m d = some m' → m' ≠ .start := by
    rintro m d m' hm rfl
    cases m with
    | start | escaped depth => simp only [advance] at hm; split_ifs at hm; cases hm
    | outside depth closed =>
      simp only [advance] at hm
      split_ifs at hm
      simp only [advanceOutside, Option.some.injEq] at hm
      split_ifs at hm
      cases depth <;> cases hm
    | inside depth => simp only [advance] at hm; split_ifs at hm <;> cases hm
    | done => cases hm
  have hall : ∀ (cs : List Char) (m : Mode), m ≠ .start → scan m cs = some mode →
      mode ≠ .start := by
    intro cs
    induction cs with
    | nil => rintro m hm ⟨⟩; exact hm
    | cons d cs ih =>
      intro m hm hscan
      rw [scan_cons, Option.bind_eq_some_iff] at hscan
      obtain ⟨m', hadvance, hrest⟩ := hscan
      exact ih m' (hstep m d m' hadvance) hrest
  rw [scan_cons, Option.bind_eq_some_iff] at h
  obtain ⟨m, hadvance, hrest⟩ := h
  exact hall cs m (hstep _ _ _ hadvance) hrest

lemma eq_nil_of_print_eq_append (hkey : quote key = '"' :: c :: rest) (hc : isDelimiter c = false)
    (h : print (.object members') = x ++ print (.object ((key, member) :: members))) : x = [] := by
  cases x with
  | nil => rfl
  | cons d x =>
    have hdone := scan_object members'
    rw [h, scan_append, Option.bind_eq_some_iff] at hdone
    obtain ⟨mode, hx, hrest⟩ := hdone
    exact absurd hrest (scan_object_ne_done (scan_ne_start hx) hkey hc)

/-- **A prefix and an object are determined by their concatenation**, when the first keys of the
objects start with plain characters. -/
theorem append_object_inj {y : List Char} {d : Char} {key' rest' : List Char} {member' : Value}
    (hkey : quote key = '"' :: c :: rest)
    (hc : isDelimiter c = false) (hkey' : quote key' = '"' :: d :: rest')
    (hd : isDelimiter d = false) (h : x ++ print (.object ((key, member) :: members)) =
      y ++ print (.object ((key', member') :: members'))) :
    x = y ∧ Value.object ((key, member) :: members) = .object ((key', member') :: members') := by
  rcases List.append_eq_append_iff.mp h with ⟨z, rfl, hz⟩ | ⟨z, rfl, hz⟩
  · obtain rfl := eq_nil_of_print_eq_append hkey' hd hz
    rw [List.append_nil, List.nil_append] at *
    exact ⟨rfl, print_injective hz⟩
  · obtain rfl := eq_nil_of_print_eq_append hkey hc hz
    rw [List.append_nil, List.nil_append] at *
    exact ⟨rfl, (print_injective hz).symm⟩

end Json
