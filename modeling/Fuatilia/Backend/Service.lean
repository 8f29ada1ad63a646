import Fuatilia.Shared.Primitives

/-!
# What the backend's services share

## Main definitions

* `Refusal`, `moneyString` — how a call fails, and how it prints money.
-/

namespace Fuatilia.Backend

inductive Refusal where
  | domainError (code message : String)
  | sqlError (message : String)

def isBlank (c : Char) : Bool := c == ' ' || c == '\t' || c == '\n' || c == '\r'

def trim (raw : String) : String :=
  String.ofList ((raw.toList.dropWhile isBlank).reverse.dropWhile isBlank).reverse

lemma trim_eq_self {s : String} (h : ∀ c ∈ s.toList, isBlank c = false) : trim s = s := by
  rw [trim, dropWhile_ends_eq_self h, String.ofList_toList]

/-- An integer as a machine integer of 64 bits holds it. -/
def int64 (n : ℤ) : ℤ := (n + 2 ^ 63) % 2 ^ 64 - 2 ^ 63

def maxInt64 : ℤ := 2 ^ 63 - 1

def currencies : List String := ["KES", "USD", "GBP", "EUR", "TZS", "UGX"]

/-- An amount of minor units as text; an amount that is no money is shown as it is. -/
def moneyString (minor : ℤ) (currency : String) : String :=
  if minor < 0 ∨ currency ∉ currencies then toString minor ++ " " ++ currency
  else toString (minor / 100) ++ "." ++ padStart (toString (minor % 100)) 2 '0' ++ " " ++ currency

end Fuatilia.Backend
