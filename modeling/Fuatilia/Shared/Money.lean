import Fuatilia.Shared.Primitives

/-!
# Money

The amount is a natural number, so a negative `Money` cannot be built; arithmetic across currencies
throws.

## Main definitions

* `Fuatilia.Money` — an amount in integer minor units and its currency.

## Main results

* `Fuatilia.Money.sumOf_eq_ok` — the fold succeeds exactly when every amount has the currency of the
  sum, and is then the sum of the minor units.
-/

namespace Fuatilia

open Fallible

inductive Currency where
  | KES | USD | GBP | EUR | TZS | UGX
  deriving DecidableEq

namespace Currency

def code : Currency → String
  | KES => "KES"
  | USD => "USD"
  | GBP => "GBP"
  | EUR => "EUR"
  | TZS => "TZS"
  | UGX => "UGX"

instance : ToString Currency := ⟨code⟩

end Currency

@[ext]
structure Money where
  amount : ℕ
  currency : Currency
  deriving DecidableEq

inductive MoneyInput where
  | number (x : JsNumber)
  | bigint (n : ℤ)
  deriving DecidableEq

namespace Money

def zero (currency : Currency) : Money := ⟨0, currency⟩

def toMinor : MoneyInput → Except Thrown ℤ
  | .bigint n => .ok n
  | .number x =>
    match x.integer with
    | some n => .ok n
    | none =>
      .error (DomainError "MONEY_NOT_INTEGER" s!"minor units must be an integer, got {x.text}")

def ofMinor (amount : MoneyInput) (currency : Currency) : Except Thrown Money := do
  let minor ← toMinor amount
  throwIf (minor < 0) (DomainError "MONEY_NEGATIVE" s!"money cannot be negative, got {minor}")
  return ⟨minor.toNat, currency⟩

def currencyMismatch (a b : Money) (op : String) : Thrown :=
  DomainError "CURRENCY_MISMATCH" s!"cannot {op} {a.currency} with {b.currency}"

def assertSame (a b : Money) (op : String) : Except Thrown Unit :=
  throwIf (a.currency ≠ b.currency) (currencyMismatch a b op)

def add (a b : Money) : Except Thrown Money := do
  assertSame a b "add"
  return ⟨a.amount + b.amount, a.currency⟩

/-- `a.subtract(b)`, which throws instead of going below zero. -/
def subtract (a b : Money) : Except Thrown Money := do
  assertSame a b "subtract"
  throwIf (b.amount > a.amount)
    (DomainError "UNDERFLOW" s!"{b.amount} exceeds available {a.amount}")
  return ⟨a.amount - b.amount, a.currency⟩

def isZero (a : Money) : Bool := a.amount == 0

def isPositive (a : Money) : Bool := decide (a.amount > 0)

def compareTo (a b : Money) : Except Thrown ℤ := do
  assertSame a b "compare"
  return if a.amount = b.amount then 0 else if a.amount > b.amount then 1 else -1

def equals (a b : Money) : Except Thrown Bool := do
  let c ← compareTo a b
  return c == 0

/-- `a.toString()`: whole units, cents and the currency. -/
def toText (a : Money) : String :=
  s!"{a.amount / 100}." ++ padStart (toString (a.amount % 100)) 2 '0' ++ s!" {a.currency}"

instance : ToString Money := ⟨toText⟩

/-- The fold `amounts.reduce((acc, m) => acc.add(m), Money.zero(currency))`. -/
def sumOf (currency : Currency) (amounts : List Money) : Except Thrown Money :=
  amounts.foldlM add (zero currency)

/-! ## What a successful operation computed -/

lemma ofMinor_natCast (n : ℕ) (currency : Currency) :
    ofMinor (.bigint n) currency = .ok ⟨n, currency⟩ := by
  have : ¬ ((n : ℤ) < 0) := by omega
  simp [ofMinor, toMinor, do_eq, this]

variable {a b r : Money} {c : ℤ} {amounts : List Money}

lemma add_eq_ok {c : Money} :
    add a b = .ok c ↔ a.currency = b.currency ∧ c = ⟨a.amount + b.amount, a.currency⟩ := by
  simp only [add, assertSame, ok_iff, not_not]

lemma subtract_eq_ok {c : Money} : subtract a b = .ok c ↔
      a.currency = b.currency ∧ b.amount ≤ a.amount ∧ c = ⟨a.amount - b.amount, a.currency⟩ := by
  simp only [subtract, assertSame, ok_iff, not_not, Nat.not_lt, gt_iff_lt]

lemma compareTo_eq_ok : compareTo a b = .ok c ↔ a.currency = b.currency ∧
      c = if a.amount = b.amount then 0 else if a.amount > b.amount then 1 else -1 := by
  simp only [compareTo, assertSame, ok_iff, not_not]

lemma exists_compareTo (h : a.currency = b.currency) : ∃ c, compareTo a b = .ok c :=
  ⟨_, compareTo_eq_ok.mpr ⟨h, rfl⟩⟩

lemma compareTo_pos (h : compareTo a b = .ok c) : c > 0 ↔ b.amount < a.amount := by
  obtain ⟨-, rfl⟩ := compareTo_eq_ok.mp h
  split_ifs <;> omega

lemma compareTo_nonneg (h : compareTo a b = .ok c) : c ≥ 0 ↔ b.amount ≤ a.amount := by
  obtain ⟨-, rfl⟩ := compareTo_eq_ok.mp h
  split_ifs <;> omega

lemma equals_eq_ok {r : Bool} :
    equals a b = .ok r ↔ a.currency = b.currency ∧ r = decide (a.amount = b.amount) := by
  simp only [equals, ok_iff, compareTo_eq_ok]
  constructor
  · rintro ⟨c, ⟨hcur, rfl⟩, rfl⟩
    refine ⟨hcur, ?_⟩
    split_ifs <;> simp_all
  · rintro ⟨hcur, rfl⟩
    refine ⟨_, ⟨hcur, rfl⟩, ?_⟩
    split_ifs <;> simp_all

/-! ## Folds -/

lemma foldlM_add_eq_ok {acc : Money} : amounts.foldlM add acc = .ok r ↔
      (∀ m ∈ amounts, m.currency = acc.currency) ∧
        r = ⟨acc.amount + (amounts.map amount).sum, acc.currency⟩ := by
  induction amounts generalizing acc with
  | nil => simp [pure, Except.pure, eq_comm]
  | cons m ms ih =>
    simp only [List.foldlM_cons, bind_eq_ok, add_eq_ok, List.mem_cons, forall_eq_or_imp,
      List.map_cons, List.sum_cons]
    constructor
    · rintro ⟨x, ⟨hm, rfl⟩, hx⟩
      obtain ⟨hms, rfl⟩ := ih.mp hx
      exact ⟨⟨hm.symm, hms⟩, by simp [add_assoc]⟩
    · rintro ⟨⟨hm, hms⟩, rfl⟩
      exact ⟨_, ⟨hm.symm, rfl⟩, ih.mpr ⟨hms, by simp [add_assoc]⟩⟩

lemma sumOf_eq_ok {currency : Currency} : sumOf currency amounts = .ok r ↔
      (∀ m ∈ amounts, m.currency = currency) ∧ r = ⟨(amounts.map amount).sum, currency⟩ := by
  simp [sumOf, foldlM_add_eq_ok, zero]

end Money

end Fuatilia
