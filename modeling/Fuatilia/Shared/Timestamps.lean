import Fuatilia.Shared.Formats

/-!
# Canonical timestamps

Between different spellings the order of texts is not that of the instants they denote.

## Main definitions

* `Civil.text` — the spelling that `toISOString` gives for the years 0 to 9999.

## Main results

* `text_lt_iff` — in this spelling the two orders agree.
-/

namespace Fuatilia

/-! ## The fields of a timestamp -/

structure Civil where
  year : ℕ
  month : ℕ
  day : ℕ
  hour : ℕ
  minute : ℕ
  second : ℕ
  milli : ℕ

def isLeapYear (year : ℕ) : Bool := year % 4 = 0 ∧ (year % 100 ≠ 0 ∨ year % 400 = 0)

def daysInMonth (year month : ℕ) : ℕ :=
  if month = 2 then (if isLeapYear year then 29 else 28)
  else if month = 4 ∨ month = 6 ∨ month = 9 ∨ month = 11 then 30
  else 31

namespace Civil

structure Valid (c : Civil) : Prop where
  year : c.year < 10000
  month : 1 ≤ c.month ∧ c.month ≤ 12
  day : 1 ≤ c.day ∧ c.day ≤ daysInMonth c.year c.month
  hour : c.hour < 24
  minute : c.minute < 60
  second : c.second < 60
  milli : c.milli < 1000

lemma valid_iff (c : Civil) : c.Valid ↔ c.year < 10000 ∧ (1 ≤ c.month ∧ c.month ≤ 12) ∧
    (1 ≤ c.day ∧ c.day ≤ daysInMonth c.year c.month) ∧ c.hour < 24 ∧ c.minute < 60 ∧ c.second < 60 ∧
    c.milli < 1000 :=
  ⟨fun h => ⟨h.year, h.month, h.day, h.hour, h.minute, h.second, h.milli⟩,
    fun ⟨hy, hmo, hd, hh, hmi, hs, hms⟩ => ⟨hy, hmo, hd, hh, hmi, hs, hms⟩⟩

instance (c : Civil) : Decidable c.Valid := decidable_of_iff' _ (valid_iff c)

def days (c : Civil) : ℤ := daysFromCivil c.year c.month c.day

def time (c : Civil) : ℤ :=
  (((c.days * 24 + c.hour) * 60 + c.minute) * 60 + c.second) * 1000 + c.milli

def digit (n : ℕ) : Char := Char.ofNat (48 + n)

def chars (c : Civil) : List Char :=
  [digit (c.year / 1000), digit (c.year / 100 % 10), digit (c.year / 10 % 10), digit (c.year % 10),
    '-', digit (c.month / 10), digit (c.month % 10), '-', digit (c.day / 10), digit (c.day % 10),
    'T', digit (c.hour / 10), digit (c.hour % 10), ':', digit (c.minute / 10),
    digit (c.minute % 10), ':', digit (c.second / 10), digit (c.second % 10), '.',
    digit (c.milli / 100), digit (c.milli / 10 % 10), digit (c.milli % 10), 'Z']

def text (c : Civil) : String := String.ofList c.chars

variable {n : ℕ}

lemma digit_spec (h : n < 10) : (digit n).isDigit = true ∧ (digit n).toNat = 48 + n := by
  interval_cases n <;> decide

lemma isDigit_digit (h : n < 10) : (digit n).isDigit = true := (digit_spec h).1

lemma toNat_digit (h : n < 10) : (digit n).toNat = 48 + n := (digit_spec h).2

variable {c c' : Civil}

lemma Valid.day_le (h : c.Valid) : c.day ≤ 31 := by
  have hday := h.day.2
  unfold daysInMonth at hday
  split_ifs at hday <;> omega

/-! ## Reading the canonical spelling -/

lemma takeDigits_digit {d acc : ℕ} {cs : List Char} (h : d < 10) :
    takeDigits (n + 1) (digit d :: cs) acc = takeDigits n cs (acc * 10 + d) := by
  have hvalue : (digit d).toNat - '0'.toNat = d := by
    rw [toNat_digit h, show '0'.toNat = 48 from rfl]
    omega
  rw [takeDigits, if_pos (isDigit_digit h), hvalue]

lemma takeDigits_two (h : n < 100) (cs : List Char) :
    takeDigits 2 (digit (n / 10) :: digit (n % 10) :: cs) 0 = some (n, cs) := by
  rw [takeDigits_digit (by omega), takeDigits_digit (by omega), takeDigits]
  congr 2
  omega

lemma takeDigits_four (h : n < 10000) (cs : List Char) :
    takeDigits 4 (digit (n / 1000) :: digit (n / 100 % 10) :: digit (n / 10 % 10) :: digit
      (n % 10) :: cs) 0 = some (n, cs) := by
  rw [takeDigits_digit (by omega), takeDigits_digit (by omega), takeDigits_digit (by omega),
    takeDigits_digit (by omega), takeDigits]
  congr 2
  omega

lemma takeWhile_milli (h : n < 1000) :
    [digit (n / 100), digit (n / 10 % 10), digit (n % 10), 'Z'].takeWhile Char.isDigit =
      [digit (n / 100), digit (n / 10 % 10), digit (n % 10)] := by
  have hlast : Char.isDigit 'Z' = false := by decide
  simp (disch := omega) only [List.takeWhile_cons, hlast, isDigit_digit, if_true,
    Bool.false_eq_true, if_false]

lemma dropFraction_milli (h : n < 1000) :
    dropFraction ['.', digit (n / 100), digit (n / 10 % 10), digit (n % 10), 'Z'] = some ['Z'] := by
  simp [dropFraction, takeWhile_milli h]

lemma isIso8601_text (h : c.Valid) : isIso8601 c.text = true := by
  have hday := h.day_le
  obtain ⟨hy, hmo, hd, hh, hmi, hs, hms⟩ := h
  simp (disch := omega) only [isIso8601, text, chars, String.toList_ofList, takeDigits_four,
    takeDigits_two, takeChar, bind, Option.bind, if_true, dropFraction_milli, isZone, Bool.and_true]
  simp only [decide_eq_true_eq]
  omega

lemma digitsAt_two (h : n < 100) (cs rest : List Char) :
    digitsAt (cs ++ digit (n / 10) :: digit (n % 10) :: rest) cs.length 2 = n := by
  simp (disch := omega) only [digitsAt, List.drop_left, List.take_succ_cons, List.take_zero,
    List.foldl_cons, List.foldl_nil, toNat_digit, show '0'.toNat = 48 from rfl]
  omega

theorem parseIso_text (h : c.Valid) : Date.parseIso c.text = .ofTime c.time := by
  have hiso := isIso8601_text h
  have hday := h.day_le
  obtain ⟨hy, hmo, hd, hh, hmi, hs, hms⟩ := h
  have hyear : digitsAt c.chars 0 4 = c.year := by
    simp (disch := omega) only [digitsAt, chars, List.drop_zero, List.take_succ_cons,
      List.take_zero, List.foldl_cons, List.foldl_nil, toNat_digit, show '0'.toNat = 48 from rfl]
    omega
  have hmonth : digitsAt c.chars 5 2 = c.month := digitsAt_two (by omega) (c.chars.take 5) _
  have hdays : digitsAt c.chars 8 2 = c.day := digitsAt_two (by omega) (c.chars.take 8) _
  have hhour : digitsAt c.chars 11 2 = c.hour := digitsAt_two (by omega) (c.chars.take 11) _
  have hminute : digitsAt c.chars 14 2 = c.minute := digitsAt_two (by omega) (c.chars.take 14) _
  have hsecond : digitsAt c.chars 17 2 = c.second := digitsAt_two (by omega) (c.chars.take 17) _
  have hfraction : ((c.chars.drop 19).drop 1).takeWhile Char.isDigit = _ := takeWhile_milli hms
  have hmilli : digitsAt [digit (c.milli / 100), digit (c.milli / 10 % 10), digit (c.milli % 10)]
      0 3 = c.milli := by
    simp (disch := omega) only [digitsAt, List.drop_zero, List.take_succ_cons, List.take_zero,
      List.foldl_cons, List.foldl_nil, toNat_digit, show '0'.toNat = 48 from rfl]
    omega
  have hpoint : (c.chars.drop 19).head? = some '.' := rfl
  have hzone : zoneMinutes ((c.chars.drop 19).drop 4) = 0 := rfl
  have hchars : c.text.toList = c.chars := String.toList_ofList
  rw [Date.parseIso, if_pos hiso]
  simp only [hchars, hpoint, if_true, hfraction, hyear, hmonth, hdays, hhour, hminute, hsecond,
    hmilli, List.length_cons, List.length_nil, hzone]
  simp [time, days]

lemma parse_text (h : c.Valid) : Date.parse c.text = .ofTime c.time := by
  have hyear := h.year
  have hdigit : digit (c.year / 1000) ≠ '+' ∧ digit (c.year / 1000) ≠ '-' := by
    have hspec := toNat_digit (show c.year / 1000 < 10 by omega)
    constructor
    · intro heq
      rw [heq, show '+'.toNat = 43 from rfl] at hspec
      omega
    · intro heq
      rw [heq, show '-'.toNat = 45 from rfl] at hspec
      omega
  have hchars : c.text.toList = c.chars := String.toList_ofList
  rw [Date.parse, hchars, chars]
  simp only [hdigit.1, hdigit.2, or_self, if_false]
  exact parseIso_text h

/-! ## The order of instants -/

/-- The day on which the `k`-th month since the year 0 starts. -/
def monthStart (k : ℕ) : ℤ := daysFromCivil (k / 12) (k % 12 + 1) 1

lemma monthStart_succ (k : ℕ) :
    monthStart (k + 1) = monthStart k + daysInMonth (k / 12) (k % 12 + 1) := by
  obtain ⟨y, m, hm, rfl⟩ : ∃ y m, m < 12 ∧ k = 12 * y + m := ⟨k / 12, k % 12, by omega, by omega⟩
  have hyear : (12 * y + m) / 12 = y := by omega
  have hmonth : (12 * y + m) % 12 = m := by omega
  simp only [monthStart, hyear, hmonth]
  rcases Nat.lt_or_ge m 11 with hin | hlast
  · have hyear' : (12 * y + m + 1) / 12 = y := by omega
    have hmonth' : (12 * y + m + 1) % 12 = m + 1 := by omega
    simp only [hyear', hmonth', daysFromCivil, daysInMonth, isLeapYear]
    -- February is the month whose length depends on the year
    by_cases hleap : y % 4 = 0 ∧ (y % 100 ≠ 0 ∨ y % 400 = 0)
    · interval_cases m <;> simp [hleap] <;> omega
    · interval_cases m <;> simp [hleap] <;> omega
  · obtain rfl : m = 11 := by omega
    have hyear' : (12 * y + 11 + 1) / 12 = y + 1 := by omega
    have hmonth' : (12 * y + 11 + 1) % 12 = 0 := by omega
    simp only [hyear', hmonth', daysFromCivil, daysInMonth]
    simp
    omega

lemma monthStart_strictMono : StrictMono monthStart := by
  apply strictMono_nat_of_lt_succ
  intro k
  have hlong : 0 < daysInMonth (k / 12) (k % 12 + 1) := by
    unfold daysInMonth
    split_ifs <;> decide
  rw [monthStart_succ]
  omega

def monthIndex (c : Civil) : ℕ := 12 * c.year + (c.month - 1)

lemma Valid.days_mem_month (h : c.Valid) :
    c.days = monthStart c.monthIndex + (c.day - 1) ∧ c.days < monthStart (c.monthIndex + 1) := by
  obtain ⟨-, hmo, hd, -⟩ := h
  have hyear : c.monthIndex / 12 = c.year := by simp only [monthIndex]; omega
  have hmonth : c.monthIndex % 12 + 1 = c.month := by simp only [monthIndex]; omega
  have hdays : c.days = monthStart c.monthIndex + (c.day - 1) := by
    simp only [days, monthStart, hyear, hmonth, daysFromCivil]
    omega
  refine ⟨hdays, ?_⟩
  rw [monthStart_succ, hyear, hmonth, hdays]
  omega

lemma monthIndex_lt_iff (h : c.Valid) (h' : c'.Valid) :
    c.monthIndex < c'.monthIndex ↔ c.year < c'.year ∨ c.year = c'.year ∧ c.month < c'.month := by
  simp only [monthIndex]
  have hmo := h.month
  have hmo' := h'.month
  omega

lemma days_lt_iff (h : c.Valid) (h' : c'.Valid) :
    c.days < c'.days ↔
      c.year < c'.year ∨ c.year = c'.year ∧
      (c.month < c'.month ∨ c.month = c'.month ∧ c.day < c'.day) := by
  have hindex := monthIndex_lt_iff h h'
  have hindex' := monthIndex_lt_iff h' h
  obtain ⟨hstart, hend⟩ := h.days_mem_month
  obtain ⟨hstart', hend'⟩ := h'.days_mem_month
  have hd := h.day
  have hd' := h'.day
  rcases Nat.lt_trichotomy c.monthIndex c'.monthIndex with hlt | heq | hgt
  · have hmono := monthStart_strictMono.monotone (Nat.succ_le_of_lt hlt)
    simp only [Nat.succ_eq_add_one] at hmono
    have := hindex.mp hlt
    omega
  · rw [heq] at hstart hindex hindex'
    omega
  · have hmono := monthStart_strictMono.monotone (Nat.succ_le_of_lt hgt)
    simp only [Nat.succ_eq_add_one] at hmono
    have := hindex'.mp hgt
    omega

/-! ## The order of texts -/

lemma utf16Units_digit (h : n < 10) : utf16Units (digit n) = [48 + n] := by
  rw [utf16Units, toNat_digit h, if_pos (by omega)]

def unitsTwo (n : ℕ) (rest : List ℕ) : List ℕ := (48 + n / 10) :: (48 + n % 10) :: rest

lemma unitsTwo_lt_iff {n' : ℕ} {rest rest' : List ℕ} :
    unitsTwo n rest < unitsTwo n' rest' ↔ n < n' ∨ n = n' ∧ rest < rest' := by
  simp only [unitsTwo, List.cons_lt_cons_iff]
  by_cases hrest : rest < rest'
  · simp only [hrest, and_true]
    omega
  · simp only [hrest, and_false, or_false]
    omega

lemma codeUnits_text (h : c.Valid) : codeUnits c.text =
    unitsTwo (c.year / 100) (unitsTwo (c.year % 100) (45 :: unitsTwo c.month (45 :: unitsTwo c.day
      (84 :: unitsTwo c.hour (58 :: unitsTwo c.minute (58 :: unitsTwo c.second
        (46 :: (48 + c.milli / 100) :: unitsTwo (c.milli % 100) [90]))))))) := by
  have hday := h.day_le
  obtain ⟨hy, hmo, -, hh, hmi, hs, hms⟩ := h
  have hascii : utf16Units '-' = [45] ∧ utf16Units 'T' = [84] ∧ utf16Units ':' = [58] ∧
      utf16Units '.' = [46] ∧ utf16Units 'Z' = [90] := by decide
  obtain ⟨hdash, ht, hcolon, hpoint, hz⟩ := hascii
  have hyear : c.year / 100 / 10 = c.year / 1000 ∧ c.year % 100 / 10 = c.year / 10 % 10 ∧
      c.year % 100 % 10 = c.year % 10 := by omega
  have hmilli : c.milli % 100 / 10 = c.milli / 10 % 10 ∧
    c.milli % 100 % 10 = c.milli % 10 := by omega
  simp (disch := omega) only [codeUnits, text, chars, String.toList_ofList, List.flatMap_cons,
    List.flatMap_nil, utf16Units_digit, hdash, ht, hcolon, hpoint, hz, unitsTwo, hyear, hmilli,
    List.cons_append, List.nil_append]

/-- In the canonical spelling the texts are ordered as the instants: both lexicographically by the
fields (`unitsTwo_lt_iff`, `days_lt_iff`). -/
theorem text_lt_iff (h : c.Valid) (h' : c'.Valid) :
    codeUnits c.text < codeUnits c'.text ↔ c.time < c'.time := by
  have hdays := days_lt_iff h h'
  have hdays' := days_lt_iff h' h
  rw [codeUnits_text h, codeUnits_text h']
  simp only [unitsTwo_lt_iff, List.cons_lt_cons_iff, lt_irrefl, false_or, true_and, and_false,
    or_false]
  obtain ⟨-, -, -, hh, hmi, hs, hms⟩ := h
  obtain ⟨-, -, -, hh', hmi', hs', hms'⟩ := h'
  simp only [time]
  rcases lt_trichotomy c.days c'.days with hlt | heq | hgt
  · have hfields := hdays.mp hlt
    clear hdays hdays'
    omega
  · have hnot := mt hdays.mpr heq.not_lt
    have hnot' := mt hdays'.mpr heq.symm.not_lt
    obtain ⟨hyear, hmonth, hday⟩ : c.year = c'.year ∧ c.month = c'.month ∧
      c.day = c'.day := by omega
    clear hdays hdays' hnot hnot'
    simp only [hyear, hmonth, hday, heq, lt_irrefl, false_or, true_and]
    omega
  · have hfields := hdays'.mp hgt
    clear hdays hdays'
    omega

def read (value : String) : Civil where
  year := digitsAt value.toList 0 4
  month := digitsAt value.toList 5 2
  day := digitsAt value.toList 8 2
  hour := digitsAt value.toList 11 2
  minute := digitsAt value.toList 14 2
  second := digitsAt value.toList 17 2
  milli := digitsAt value.toList 20 3

end Civil

def isCanonicalInstant (value : String) : Bool :=
  (Civil.read value).Valid ∧ (Civil.read value).text = value

lemma exists_civil_of_isCanonicalInstant {value : String} (h : isCanonicalInstant value = true) :
    ∃ c : Civil, c.Valid ∧ value = c.text := by
  obtain ⟨hvalid, htext⟩ := of_decide_eq_true h
  exact ⟨Civil.read value, hvalid, htext.symm⟩

end Fuatilia
