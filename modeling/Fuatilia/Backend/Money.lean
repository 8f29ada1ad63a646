import Fuatilia.Scheduler.Jobs
import Fuatilia.Stk.Wire

/-!
# Money in the two languages

The domain core computes amounts as unbounded integers, the backend as machine integers with a guard
before every result. Currencies are of their closed type, so a guard against another has no case.

## Main definitions

* `parse`, `add`, `mulInt`, `toText` — the operations of the backend.

## Main results

* `refines_domain` — they are those of the domain, for amounts that a machine integer holds.
-/

namespace Fuatilia

open Fallible Scheduler

/-- A match of `^(0|[1-9]\d*)(?:\.(\d{1,2}))?$`: the digits before the point, and those after it,
none if there is no point. -/
def matchDecimal (text : List Char) : Option (List Char × List Char) :=
  let whole := text.takeWhile Char.isDigit
  if whole = [] ∨ whole.head? = some '0' ∧ whole ≠ ['0'] then none
  else match text.dropWhile Char.isDigit with
    | [] => some (whole, [])
    | ['.', d] => if d.isDigit then some (whole, [d]) else none
    | ['.', d, e] => if d.isDigit && e.isDigit then some (whole, [d, e]) else none
    | _ => none

def Money.parse (text : String) (currency : Currency) : Except Thrown Money :=
  match matchDecimal (trim text).toList with
  | none => .error (DomainError "MONEY_UNPARSEABLE" s!"cannot parse money: {text}")
  | some (whole, frac) =>
    let cents := frac ++ List.replicate (2 - frac.length) '0'
    .ok ⟨Nat.ofDigitChars 10 whole 0 * 100 + Nat.ofDigitChars 10 cents 0, currency⟩

namespace Backend.Money

def centsOf : List Char → ℕ
  | [] => 0
  | [d] => (d.toNat - '0'.toNat) * 10
  | d :: e :: _ => (d.toNat - '0'.toNat) * 10 + (e.toNat - '0'.toNat)

/-- `Parse`. The first guard is that of `strconv.ParseUint`. -/
def parse (text : String) (currency : Currency) : Except Refusal Money :=
  match matchDecimal (trimSpace text).toList with
  | none => .error (.domainError "MONEY_UNPARSEABLE" s!"cannot parse money: {text}")
  | some (digits, frac) => do
    let overflow := Refusal.domainError "MONEY_OVERFLOW"
      s!"cannot parse money: {text} exceeds int64 minor units"
    let whole := Nat.ofDigitChars 10 digits 0
    throwIf (whole ≥ 2 ^ 64) overflow
    let cents := centsOf frac
    throwIf ((whole : ℤ) > (2 ^ 63 - 1 - cents) / 100) overflow
    return ⟨(whole * 100 + cents) % 2 ^ 64, currency⟩

def add (a b : Money) : Except Refusal Money := do
  throwIf (a.currency ≠ b.currency)
    (.domainError "CURRENCY_MISMATCH" s!"cannot add {a.currency} with {b.currency}")
  let carry := (a.amount + b.amount) / 2 ^ 64
  let lo := (a.amount + b.amount) % 2 ^ 64
  throwIf (carry ≠ 0 ∨ lo > 2 ^ 63 - 1) (.domainError "MONEY_OVERFLOW"
    s!"addition overflows int64 minor units: {a.amount} + {b.amount}")
  return ⟨lo, a.currency⟩

def mulInt (a : Money) (factor : ℤ) : Except Refusal Money := do
  throwIf (factor < 0) (.domainError "MONEY_NEGATIVE"
    s!"money cannot be negative: {a.amount} × {factor} would be negative")
  let hi := a.amount * factor.toNat / 2 ^ 64
  let lo := a.amount * factor.toNat % 2 ^ 64
  throwIf (hi ≠ 0 ∨ lo > 2 ^ 63 - 1) (.domainError "MONEY_OVERFLOW"
    s!"multiplication overflows int64 minor units: {a.amount} × {factor}")
  return ⟨lo, a.currency⟩

def fmtCents (c : ℕ) : String :=
  if (toString c).length = 1 then "0" ++ toString c else toString c

def toText (a : Money) : String :=
  toString (a.amount / 100) ++ "." ++ fmtCents (a.amount % 100) ++ " " ++ a.currency.code

/-! ## The guards are tight -/

lemma not_overflow_iff {x : ℕ} : ¬ (x / 2 ^ 64 ≠ 0 ∨ x % 2 ^ 64 > 2 ^ 63 - 1) ↔ x < 2 ^ 63 := by
  omega

variable {currency : Currency} {m a : Money} {n : ℕ}

lemma guarded_iff {x : ℕ} :
    x < 2 ^ 63 ∧ m = ⟨x % 2 ^ 64, currency⟩ ↔ m = ⟨x, currency⟩ ∧ m.amount < 2 ^ 63 := by
  constructor
  · rintro ⟨hfits, rfl⟩
    exact ⟨by congr 1; omega, by simp only; omega⟩
  · rintro ⟨rfl, hfits⟩
    simp only at hfits
    exact ⟨hfits, by congr 1; omega⟩

lemma add_eq_ok {b : Money} : add a b = .ok m ↔ Fuatilia.Money.add a b = .ok m ∧
    m.amount < 2 ^ 63 := by
  simp only [add, ok_iff, Fuatilia.Money.add_eq_ok, not_not, not_overflow_iff, guarded_iff,
    and_assoc]

lemma mulInt_eq_ok {factor : ℤ} (h : 0 ≤ factor) : mulInt a factor = .ok m ↔
    m = ⟨a.amount * factor.toNat, a.currency⟩ ∧ m.amount < 2 ^ 63 := by
  simp only [mulInt, ok_iff, not_lt, h, true_and, not_overflow_iff, guarded_iff]

lemma centsOf_of_matchDecimal {text whole frac : List Char}
    (h : matchDecimal text = some (whole, frac)) :
    Nat.ofDigitChars 10 (frac ++ List.replicate (2 - frac.length) '0') 0 = centsOf frac := by
  simp only [matchDecimal] at h
  split_ifs at h
  split at h
  · cases h
    rfl
  · split_ifs at h
    cases h
    simp [Nat.ofDigitChars, centsOf, Nat.mul_comm]
  · split_ifs at h
    cases h
    simp [Nat.ofDigitChars, centsOf, Nat.mul_comm]
  · cases h

lemma parse_eq_ok {text : String}
    (htrim : trimSpace text = Fuatilia.trim text) : parse text currency = .ok m ↔
      Fuatilia.Money.parse text currency = .ok m ∧ m.amount < 2 ^ 63 := by
  rw [parse, Fuatilia.Money.parse, htrim]
  cases hmatch : matchDecimal (Fuatilia.trim text).toList with
  | none => simp
  | some p =>
    simp only [ok_iff, Except.ok.injEq, centsOf_of_matchDecimal hmatch]
    generalize centsOf p.2 = cents
    generalize Nat.ofDigitChars 10 p.1 0 = whole
    have hguard : ¬ whole ≥ 2 ^ 64 ∧ ¬ (whole : ℤ) > (2 ^ 63 - 1 - cents) / 100 ↔
        whole * 100 + cents < 2 ^ 63 := by omega
    rw [← and_assoc, hguard, guarded_iff, @eq_comm _ m]

/-! ## Reading back what was written -/

lemma eq_zero_of_head?_toDigits (h : (Nat.toDigits 10 n).head? = some '0') : n = 0 := by
  induction n using Nat.strong_induction_on with
  | _ n ih =>
    rcases Nat.lt_or_ge n 10 with hlt | hge
    · revert h
      interval_cases n <;> decide
    · rw [Nat.toDigits_of_base_le (by decide) hge,
        List.head?_append_of_ne_nil _ Nat.toDigits_ne_nil] at h
      have := ih (n / 10) (by omega) h
      omega

lemma isDigit_of_mem : ∀ c ∈ Nat.toDigits 10 n, c.isDigit = true :=
  fun _ => Nat.isDigit_of_mem_toDigits (by decide) (by decide)

lemma matchDecimal_toDigits (n : ℕ) {d e : Char} (hd : d.isDigit = true) (he : e.isDigit = true) :
    matchDecimal (Nat.toDigits 10 n ++ ['.', d, e]) = some (Nat.toDigits 10 n, [d, e]) := by
  have hlead : (Nat.toDigits 10 n).head? = some '0' → Nat.toDigits 10 n = ['0'] := fun hzero => by
    rw [eq_zero_of_head?_toDigits hzero]
    rfl
  have hdot : Char.isDigit '.' = false := by decide
  simpa [matchDecimal, List.takeWhile_append_of_pos isDigit_of_mem,
    List.dropWhile_append_of_pos isDigit_of_mem, hdot, Nat.toDigits_ne_nil, hd, he] using hlead

lemma toList_fmtCents {c : ℕ} (h : c < 100) :
    (fmtCents c).toList = [Nat.digitChar (c / 10), Nat.digitChar (c % 10)] := by
  rw [fmtCents, ← String.length_toList, Nat.toString_eq_repr, Nat.toList_repr]
  rcases Nat.lt_or_ge c 10 with hlt | hge
  · simp [Nat.toDigits_of_lt_base hlt, Nat.div_eq_of_lt hlt, Nat.mod_eq_of_lt hlt, Nat.digitChar]
  · have hdigits : Nat.toDigits 10 c = [Nat.digitChar (c / 10), Nat.digitChar (c % 10)] := by
      rw [Nat.toDigits_of_base_le (by decide) hge, Nat.toDigits_of_lt_base (by omega)]
      rfl
    simp [hdigits]

lemma parse_written {c : ℕ} (currency : Currency) (hc : c < 100) (h : n * 100 + c < 2 ^ 63) :
    parse (toString n ++ "." ++ fmtCents c) currency = .ok ⟨n * 100 + c, currency⟩ := by
  have htens : c / 10 < 10 := by omega
  have hunits : c % 10 < 10 := by omega
  have hd : (Nat.digitChar (c / 10)).isDigit = true := by simp [Nat.isDigit_digitChar, htens]
  have he : (Nat.digitChar (c % 10)).isDigit = true := by simp [Nat.isDigit_digitChar, hunits]
  have htext : (toString n ++ "." ++ fmtCents c).toList =
      Nat.toDigits 10 n ++ ['.', Nat.digitChar (c / 10), Nat.digitChar (c % 10)] := by
    simp [toList_fmtCents hc]
  generalize toString n ++ "." ++ fmtCents c = text at htext ⊢
  have hchars : ∀ x ∈ text.toList, x.isDigit = true ∨ x = '.' := by
    rw [htext, List.forall_mem_append]
    exact ⟨fun x hx => .inl (isDigit_of_mem x hx), by simp [hd, he]⟩
  have hspace : trimSpace text = text := trimSpace_eq_self fun x hx =>
    (hchars x hx).elim isSpace_of_isDigit (by rintro rfl; decide)
  have htrim : Fuatilia.trim text = text := Fuatilia.trim_eq_self fun x hx => (hchars x hx).elim
    (fun hx => Stk.isTrimmed_of_isAlphanum (by simp [Char.isAlphanum, hx])) (by rintro rfl; decide)
  have hmatch := matchDecimal_toDigits n hd he
  have hcents := centsOf_of_matchDecimal hmatch
  rw [parse_eq_ok (hspace.trans htrim.symm), Fuatilia.Money.parse, htrim, htext, hmatch]
  refine ⟨congrArg Except.ok (Money.ext ?_ rfl), h⟩
  simp only [Nat.ofDigitChars_ten_toDigits, hcents, centsOf, Nat.toNat_digitChar_of_lt_ten htens,
    Nat.toNat_digitChar_of_lt_ten hunits, Char.reduceToNat]
  omega

/-- **The backend's money is the domain's, as far as a machine integer reaches.** Reading a text
that both trim alike, adding, and multiplying by a non-negative factor succeed exactly when the
exact result is representable, and return it; a written amount is read back. -/
theorem refines_domain :
    (∀ (text : String) (currency : Currency) (m : Money),
      trimSpace text = Fuatilia.trim text → (parse text currency = .ok m ↔
        Fuatilia.Money.parse text currency = .ok m ∧ m.amount < 2 ^ 63)) ∧
    (∀ a b m : Money, add a b = .ok m ↔ Fuatilia.Money.add a b = .ok m ∧ m.amount < 2 ^ 63) ∧
    (∀ (a m : Money) (factor : ℤ), 0 ≤ factor → (mulInt a factor = .ok m ↔
      m = ⟨a.amount * factor.toNat, a.currency⟩ ∧ m.amount < 2 ^ 63)) ∧
    ∀ a : Money, a.amount < 2 ^ 63 → ∃ text, toText a = text ++ " " ++ a.currency.code ∧
      parse text a.currency = .ok a := by
  refine ⟨fun _ _ _ htrim => parse_eq_ok htrim, fun _ _ _ => add_eq_ok,
    fun _ _ _ h => mulInt_eq_ok h, fun a h => ⟨_, rfl, ?_⟩⟩
  have hsplit : a.amount / 100 * 100 + a.amount % 100 = a.amount := by omega
  rw [parse_written a.currency (Nat.mod_lt _ (by decide)) (by omega), hsplit]

/-- The text of an amount is not read back, a product with a negative factor is refused even if it
is nothing, and a byte order mark is white space to the domain only. -/
theorem text_refused :
    (parse (toText ⟨125050, .KES⟩) .KES).toOption = none ∧
      (mulInt ⟨0, .KES⟩ (-1)).toOption = none ∧ (parse "\uFEFF1.00" .KES).toOption = none ∧
      (Fuatilia.Money.parse "\uFEFF1.00" .KES).toOption = some ⟨100, .KES⟩ := by
  decide +kernel

end Backend.Money

end Fuatilia
