import Fuatilia.Foundations.Fallible

/-!
# Shared primitives of the domain core

## Main definitions

* `Thrown` — what a refused call throws.
* `uuidFromSeed` — the identifier derived from a seed.
* `Date`, `Clock` — dates, and the dates that one call reads from the injected clock: two readings
  inside one call may differ, as they may in the source.
-/

namespace Fuatilia

/-! ## Errors -/

/-- What a call can throw: a domain error with its stable code, message and details record (the
values of the details rendered as text), or an error of the language itself. -/
inductive Thrown where
  | domainError (code message : String) (details : List (String × String))
  | rangeError (message : String)
  | typeError (message : String)
  deriving DecidableEq

def DomainError (code message : String) : Thrown := .domainError code message []

/-! ## Text -/

/-- The characters that `String.prototype.trim` removes: white space and line terminators. -/
def isTrimmed (c : Char) : Bool :=
  let n := c.toNat
  (9 ≤ n && n ≤ 13) || n == 0x20 || n == 0xa0 || n == 0x1680 || (0x2000 ≤ n && n ≤ 0x200a) ||
    n == 0x2028 || n == 0x2029 || n == 0x202f || n == 0x205f || n == 0x3000 || n == 0xfeff

def trim (s : String) : String :=
  String.ofList ((s.toList.dropWhile isTrimmed).reverse.dropWhile isTrimmed).reverse

lemma dropWhile_ends_eq_self {p : Char → Bool} {l : List Char} (h : ∀ c ∈ l, p c = false) :
    ((l.dropWhile p).reverse.dropWhile p).reverse = l := by
  have hkeep : ∀ l : List Char, (∀ c ∈ l, p c = false) → l.dropWhile p = l := by
    intro l hl
    cases l with
    | nil => rfl
    | cons c l => exact List.dropWhile_cons_of_neg (by simp [hl c List.mem_cons_self])
  rw [hkeep _ h, hkeep _ fun c hc => h c (List.mem_reverse.mp hc), List.reverse_reverse]

lemma trim_eq_self {s : String} (h : ∀ c ∈ s.toList, isTrimmed c = false) : trim s = s := by
  rw [trim, dropWhile_ends_eq_self h, String.ofList_toList]

/-- `String.prototype.padStart` with a one-character fill. -/
def padStart (s : String) (width : ℕ) (fill : Char) : String :=
  String.ofList (List.replicate (width - s.length) fill) ++ s

def startsWith (s start : String) : Bool := start.toList.isPrefixOf s.toList

lemma forall_of_startsWith {s start : String} {p : Char → Bool} (h : startsWith s start = true)
    (hstart : start.toList.any p = false)
    (hrest : ∀ c ∈ s.toList.drop start.toList.length, p c = false) :
    ∀ c ∈ s.toList, p c = false := by
  obtain ⟨rest, hs⟩ := List.isPrefixOf_iff_prefix.mp h
  rw [← hs, List.drop_left] at hrest
  rw [← hs]
  exact List.forall_mem_append.mpr ⟨by simpa using hstart, hrest⟩

def endsWith (s tail : String) : Bool := tail.toList.isSuffixOf s.toList

/-- `s.slice(0, -1)`. -/
def dropLast (s : String) : String := String.ofList s.toList.dropLast

/-! ## Numbers -/

/-- A JavaScript number: its value when it is finite, and its rendering `String(x)`. -/
structure JsNumber where
  value : Option ℚ
  text : String
  deriving DecidableEq

def maxSafeInteger : ℕ := 9007199254740991

namespace JsNumber

/-- The integer a number stands for, when `Number.isInteger` holds of it. -/
def integer (x : JsNumber) : Option ℤ :=
  x.value.bind fun q => if q.den = 1 then some q.num else none

/-- The integer a number stands for, when `Number.isSafeInteger` holds of it. -/
def safeInteger (x : JsNumber) : Option ℤ :=
  x.integer.filter fun n => -(maxSafeInteger : ℤ) ≤ n ∧ n ≤ maxSafeInteger

end JsNumber

/-! ## Identifiers -/

abbrev Uuid := String

/-- The UTF-16 code units of a character, as `charCodeAt` sees them. -/
def utf16Units (c : Char) : List ℕ :=
  if c.toNat < 0x10000 then [c.toNat]
  else [0xd800 + (c.toNat - 0x10000) / 0x400, 0xdc00 + (c.toNat - 0x10000) % 0x400]

def codeUnits (s : String) : List ℕ := s.toList.flatMap utf16Units

/-- The order of JavaScript strings, as `a < b ? -1 : a > b ? 1 : 0` computes it. -/
def compareText (a b : String) : Ordering :=
  if codeUnits a < codeUnits b then .lt else if codeUnits b < codeUnits a then .gt else .eq

/-- The 32-bit FNV-1a hash of the low bytes of a string, its offset mixed with the round. -/
def fnv1a32 (round : ℕ) (input : String) : ℕ :=
  (codeUnits input).foldl
    (fun hash unit => (hash ^^^ (unit % 0x100)) * 0x01000193 % 0x100000000) (0x811c9dc5 ^^^ round)

/-- `bigint.toString(16).padStart(8, '0')`. -/
def hexWord (n : ℕ) : String :=
  padStart (String.ofList (Nat.toDigits 16 n)) 8 '0'

def slice (s : String) (start stop : ℕ) : String :=
  String.ofList ((s.toList.take stop).drop start)

/-- The deterministic identifier (8-4-4-4-12 hexadecimal digits) derived from a seed. -/
def uuidFromSeed (seed : String) : Uuid :=
  let w := fun round => hexWord (fnv1a32 round seed)
  w 0 ++ "-" ++ slice (w 1) 0 4 ++ "-" ++ slice (w 1) 4 8 ++ "-" ++ slice (w 2) 0 4 ++ "-" ++
    slice (w 2) 4 8 ++ w 3

/-- `supplied ?? fallback`: the caller's identifier, or the derived one, computed only then. -/
def suppliedOr (supplied : Option Uuid) (fallback : Except Thrown Uuid) : Except Thrown Uuid :=
  match supplied with
  | some id => .ok id
  | none => fallback

/-! ## Sorting -/

/-- `Array.prototype.sort` with a comparator: a stable sort. Where a comparator is not an order the
language leaves the result open, up to a permutation. -/
def jsSort {α : Type} (compare : α → α → Ordering) (l : List α) : List α :=
  l.insertionSort fun a b => compare a b ≠ .gt

lemma jsSort_perm {α : Type} (compare : α → α → Ordering) (l : List α) :
    (jsSort compare l).Perm l :=
  List.perm_insertionSort _ l

@[simp] lemma mem_jsSort {α : Type} {compare : α → α → Ordering} {l : List α} {a : α} :
    a ∈ jsSort compare l ↔ a ∈ l :=
  (jsSort_perm compare l).mem_iff

/-! ## Dates -/

/-- A JavaScript `Date`: its time value in milliseconds since the epoch, or an invalid date. -/
inductive Date where
  | invalid
  | ofTime (ms : ℤ)
  deriving DecidableEq

/-- The readings one call takes from the injected clock, in order. -/
structure Clock where
  now : ℕ → Date

def Clock.after (clock : Clock) (k : ℕ) : Clock := ⟨fun n => clock.now (k + n)⟩

def pinnedClock (date : Date) : Clock := ⟨fun _ => date⟩

/-- The proleptic Gregorian date (year, month, day) of a count of days since 1970-01-01. -/
def civilFromDays (days : ℤ) : ℤ × ℕ × ℕ :=
  -- eras of 400 years counted from 0000-03-01, so that a leap day ends its year
  let z := days + 719468
  let era := z / 146097
  let doe := (z - era * 146097).toNat
  let yoe := (doe - doe / 1460 + doe / 36524 - doe / 146096) / 365
  let doy := doe - (365 * yoe + yoe / 4 - yoe / 100)
  let mp := (5 * doy + 2) / 153
  let day := doy - (153 * mp + 2) / 5 + 1
  let month := if mp < 10 then mp + 3 else mp - 9
  (yoe + era * 400 + (if month ≤ 2 then 1 else 0), month, day)

/-- The year part of an ISO string: four digits, or a sign and six digits outside 0 to 9999. -/
def isoYear (year : ℤ) : String :=
  if 0 ≤ year ∧ year ≤ 9999 then padStart (toString year.natAbs) 4 '0'
  else (if year < 0 then "-" else "+") ++ padStart (toString year.natAbs) 6 '0'

namespace Date

/-- `new Date(ms)`: a time value beyond the range of dates gives an invalid date. -/
def ofMs (ms : ℤ) : Date := if ms.natAbs ≤ 8640000000000000 then .ofTime ms else .invalid

/-- `Date.prototype.getUTCFullYear`; an invalid date has none (`NaN`). -/
def getUTCFullYear : Date → Option ℤ
  | invalid => none
  | ofTime ms => some (civilFromDays (ms / 86400000)).1

/-- `Date.prototype.toISOString`, which throws on an invalid date. -/
def toISOString : Date → Except Thrown String
  | invalid => .error (.rangeError "Invalid time value")
  | ofTime ms =>
    let (year, month, day) := civilFromDays (ms / 86400000)
    let inDay := (ms % 86400000).toNat
    let two := fun n : ℕ => padStart (toString n) 2 '0'
    .ok (isoYear year ++ "-" ++ two month ++ "-" ++ two day ++ "T" ++ two (inDay / 3600000) ++
      ":" ++ two (inDay / 60000 % 60) ++ ":" ++ two (inDay / 1000 % 60) ++ "." ++
      padStart (toString (inDay % 1000)) 3 '0' ++ "Z")

lemma exists_toISOString {date : Date} : (∃ iso, date.toISOString = .ok iso) ↔ date ≠ .invalid := by
  cases date <;> simp [toISOString]

end Date

end Fuatilia
