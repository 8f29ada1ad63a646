import Fuatilia.Shared.Primitives

/-!
# Formats of identifiers and timestamps

The regular expressions that several modules of the domain repeat, as decidable predicates.

## Main definitions

* `isCanonicalUuid`, `isIso8601` — the formats.
* `Date.parse` — the instant of a timestamp.
-/

namespace Fuatilia

def isHexDigit (c : Char) : Bool :=
  c.isDigit || ('a' ≤ c && c ≤ 'f') || ('A' ≤ c && c ≤ 'F')

def isCanonicalUuid (value : String) : Bool :=
  value.toList.length == 36 && value.toList.zipIdx.all fun (c, i) =>
    if i = 8 ∨ i = 13 ∨ i = 18 ∨ i = 23 then c == '-' else isHexDigit c

def takeDigits : ℕ → List Char → ℕ → Option (ℕ × List Char)
  | 0, cs, acc => some (acc, cs)
  | n + 1, c :: cs, acc =>
    if c.isDigit then takeDigits n cs (acc * 10 + (c.toNat - '0'.toNat)) else none
  | _ + 1, [], _ => none

def takeChar (expected : Char) : List Char → Option (List Char)
  | c :: cs => if c = expected then some cs else none
  | [] => none

/-- The zone of a timestamp: `Z`, or a sign with hours and minutes. -/
def isZone : List Char → Bool
  | ['Z'] => true
  | sign :: cs => (sign == '+' || sign == '-') &&
      match (do
        let (hh, cs) ← takeDigits 2 cs 0
        let cs ← takeChar ':' cs
        let (mm, cs) ← takeDigits 2 cs 0
        some (decide (hh ≤ 23) && decide (mm ≤ 59) && cs.isEmpty)) with
      | some ok => ok
      | none => false
  | [] => false

def dropFraction : List Char → Option (List Char)
  | '.' :: cs =>
    let digits := cs.takeWhile Char.isDigit
    if 1 ≤ digits.length ∧ digits.length ≤ 3 then some (cs.drop digits.length) else none
  | cs => some cs

def isZeroFraction : List Char → Bool
  | '.' :: cs => (cs.takeWhile Char.isDigit).all (· == '0')
  | _ => true

/-- The text has the shape of an ISO-8601 timestamp and `new Date` of it is a valid date. -/
def isIso8601 (value : String) : Bool :=
  match (do
    let (_, cs) ← takeDigits 4 value.toList 0
    let cs ← takeChar '-' cs
    let (month, cs) ← takeDigits 2 cs 0
    let cs ← takeChar '-' cs
    let (day, cs) ← takeDigits 2 cs 0
    let cs ← takeChar 'T' cs
    let (hour, cs) ← takeDigits 2 cs 0
    let cs ← takeChar ':' cs
    let (minute, cs) ← takeDigits 2 cs 0
    let cs ← takeChar ':' cs
    let (second, cs) ← takeDigits 2 cs 0
    let rest ← dropFraction cs
    let inRange := 1 ≤ month ∧ month ≤ 12 ∧ 1 ≤ day ∧ day ≤ 31 ∧ minute ≤ 59 ∧ second ≤ 59 ∧
      (hour ≤ 23 ∨ (hour = 24 ∧ minute = 0 ∧ second = 0 ∧ isZeroFraction cs))
    some (decide inRange && isZone rest)) with
  | some ok => ok
  | none => false

def digitsAt (cs : List Char) (start len : ℕ) : ℕ :=
  ((cs.drop start).take len).foldl (fun n c => n * 10 + (c.toNat - '0'.toNat)) 0

/-- The days from 1970-01-01 to a day of a month; a day beyond the end of the month counts on into
the next one. -/
def daysFromCivil (year month day : ℕ) : ℤ :=
  -- years start in March, so that a leap day ends its year
  let y : ℤ := if month ≤ 2 then year - 1 else year
  let era := y / 400
  let yoe := y - era * 400
  let mp : ℤ := if month ≤ 2 then month + 9 else month - 3
  let doe := yoe * 365 + yoe / 4 - yoe / 100 + (153 * mp + 2) / 5
  era * 146097 + doe - 719468 + (day - 1)

def zoneMinutes (zone : List Char) : ℤ :=
  let minutes : ℤ := digitsAt zone 1 2 * 60 + digitsAt zone 4 2
  match zone with
  | '+' :: _ => minutes
  | '-' :: _ => -minutes
  | _ => 0

/-- `Date.parse` of an ISO-8601 timestamp; a text that is none gives an invalid date. -/
def Date.parseIso (value : String) : Date :=
  if isIso8601 value then
    let cs := value.toList
    let rest := cs.drop 19
    let fraction := if rest.head? = some '.' then (rest.drop 1).takeWhile Char.isDigit else []
    let zone := if rest.head? = some '.' then rest.drop (fraction.length + 1) else rest
    let days := daysFromCivil (digitsAt cs 0 4) (digitsAt cs 5 2) (digitsAt cs 8 2)
    let minutes : ℤ := (days * 24 + digitsAt cs 11 2) * 60 + digitsAt cs 14 2 - zoneMinutes zone
    let milliseconds := digitsAt fraction 0 3 * 10 ^ (3 - fraction.length)
    .ofTime ((minutes * 60 + digitsAt cs 17 2) * 1000 + milliseconds)
  else .invalid

/-- `Date.parse` of what `toISOString` gives, where a year outside 0 to 9999 is a sign and six
digits, or of an ISO-8601 timestamp. -/
def Date.parse (value : String) : Date :=
  match value.toList with
  | sign :: cs =>
    if sign = '+' ∨ sign = '-' then
      match takeDigits 6 cs 0 with
      | some (digits, rest) =>
        let year : ℤ := if sign = '-' then -digits else digits
        -- the calendar repeats every 400 years
        let inCycle := padStart (toString (year % 400).toNat) 4 '0' ++ String.ofList rest
        match Date.parseIso inCycle with
        | .ofTime ms =>
          if sign = '-' ∧ digits = 0 then .invalid
          else Date.ofMs (ms + year / 400 * 146097 * 86400000)
        | .invalid => .invalid
      | none => .invalid
    else Date.parseIso value
  | [] => .invalid

def Date.getTime : Date → Option ℤ
  | .ofTime ms => some ms
  | .invalid => none

/-- The comparison `a <= b` of time values, false when one of them is `NaN`. -/
def millisLe (a b : Option ℤ) : Bool :=
  match a, b with
  | some a, some b => a ≤ b
  | _, _ => false

/-- The comparison `a < b` of time values, false when one of them is `NaN`. -/
def millisLt (a b : Option ℤ) : Bool :=
  match a, b with
  | some a, some b => a < b
  | _, _ => false

end Fuatilia
