import Fuatilia.Foundations.DoubleEntry
import Fuatilia.Shared.Money

/-!
# The chart of accounts and journal lines

A journal line is a positive magnitude on one account of a closed chart, with a direction that
carries the sign.

## Main definitions

* `JournalLine`, `accountBalanceMinor` — a line, and the balance of an account.
* `assertBalanced` — one currency, debits equal to credits, two accounts.

## Main results

* `assertBalanced_eq_ok` — what a set of lines that passed the check satisfies.
* `total_signed` — the signed total of lines is their debits less their credits.
-/

namespace Fuatilia.Ledger

open Fallible

inductive Account where
  | AR_CONTROL | CASH | REVENUE | REVENUE_CONTRA | SALES_REFUNDS | BAD_DEBT_EXPENSE | OTHER_INCOME
  deriving DecidableEq

def Account.name : Account → String
  | AR_CONTROL => "AR_CONTROL"
  | CASH => "CASH"
  | REVENUE => "REVENUE"
  | REVENUE_CONTRA => "REVENUE_CONTRA"
  | SALES_REFUNDS => "SALES_REFUNDS"
  | BAD_DEBT_EXPENSE => "BAD_DEBT_EXPENSE"
  | OTHER_INCOME => "OTHER_INCOME"

def ACCOUNTS : List Account :=
  [.AR_CONTROL, .CASH, .REVENUE, .REVENUE_CONTRA, .SALES_REFUNDS, .BAD_DEBT_EXPENSE, .OTHER_INCOME]

inductive PostingDirection where
  | DEBIT | CREDIT
  deriving DecidableEq

structure JournalLine where
  account : Account
  direction : PostingDirection
  amountMinor : ℕ
  currency : Currency
  moves : 0 < amountMinor
  deriving DecidableEq

/-- A line as the callers give it; account and direction are of their closed types, so the guards
of the source against others have no case here. -/
structure JournalLineInput where
  account : Account
  direction : PostingDirection
  amountMinor : MoneyInput
  currency : Currency

def lineAmount : MoneyInput → Except Thrown ℤ
  | .bigint n => .ok n
  | .number x =>
    match x.safeInteger with
    | some n => .ok n
    | none => .error (.domainError "LEDGER_AMOUNT_NOT_INTEGER"
        s!"line amount must be an integer minor unit, got {x.text}" [("amountMinor", x.text)])

def toJournalLine (input : JournalLineInput) : Except Thrown JournalLine := do
  let amount ← lineAmount input.amountMinor
  throwIf (amount < 0) (.domainError "LEDGER_AMOUNT_NEGATIVE"
    s!"line amount is a magnitude — encode the sign in 'direction', got {amount}"
    [("amountMinor", toString amount)])
  if h : 0 < amount.toNat then
    return ⟨input.account, input.direction, amount.toNat, input.currency, h⟩
  else
    throw (DomainError "LEDGER_AMOUNT_ZERO" "a journal line must carry a non-zero amount")

def sideTotal (direction : PostingDirection) (lines : List JournalLine) : ℕ :=
  ((lines.filter (·.direction = direction)).map (·.amountMinor)).sum

def firstMismatch (currency : Currency) (lines : List JournalLine) : Option JournalLine :=
  lines.find? fun line => line.currency ≠ currency

def assertBalanced (lines : List JournalLine) : Except Thrown Unit :=
  match lines with
  | [] => .error (DomainError "LEDGER_ENTRY_EMPTY" "a journal entry requires at least one line")
  | first :: _ => do
    let currency := first.currency
    match firstMismatch currency lines with
    | some line => .error (DomainError "CURRENCY_MISMATCH"
        s!"journal lines must be single-currency: {line.currency} vs {currency} (R10)")
    | none => do
      let debits := sideTotal .DEBIT lines
      let credits := sideTotal .CREDIT lines
      throwIf (debits ≠ credits) (.domainError "LEDGER_ENTRY_UNBALANCED"
        s!"unbalanced journal entry: debits {debits} != credits {credits} {currency}"
        [("debitsMinor", toString debits), ("creditsMinor", toString credits),
          ("currency", currency.code)])
      let distinctAccounts := (lines.map (·.account)).dedup
      throwIf (distinctAccounts.length < 2) (.domainError "LEDGER_ENTRY_SELF_CANCELING"
        "a journal entry must touch at least two distinct accounts — a balanced single-account entry nets to zero and moves nothing"
        [("accounts", ",".intercalate (distinctAccounts.map Account.name))])

/-- The signed amount of a line: debits count up, credits down. -/
def JournalLine.signed (line : JournalLine) : ℤ :=
  match line.direction with
  | .DEBIT => line.amountMinor
  | .CREDIT => -line.amountMinor

def accountBalanceMinor (entries : List (List JournalLine)) (account : Account) : ℤ :=
  entries.foldl (fun net lines => lines.foldl
    (fun lineNet line => if line.account ≠ account then lineNet else lineNet + line.signed) net) 0

def JournalLine.flip (line : JournalLine) : JournalLine :=
  match line.direction with
  | .DEBIT => { line with direction := .CREDIT }
  | .CREDIT => { line with direction := .DEBIT }

/-! ## Lines as postings -/

def postings (lines : List JournalLine) : List (Account × ℤ) :=
  lines.map fun line => (line.account, line.signed)

@[simp] lemma postings_nil : postings [] = [] := rfl

lemma postings_append (ls ms : List JournalLine) :
    postings (ls ++ ms) = postings ls ++ postings ms := by
  simp [postings]

lemma signed_flip (line : JournalLine) : line.flip.signed = -line.signed := by
  obtain ⟨account, direction, amountMinor, currency, moves⟩ := line
  cases direction <;> simp [JournalLine.flip, JournalLine.signed]

lemma account_flip (line : JournalLine) : line.flip.account = line.account := by
  obtain ⟨account, direction, amountMinor, currency, moves⟩ := line
  cases direction <;> rfl

lemma postings_flip (lines : List JournalLine) :
    postings (lines.map JournalLine.flip) = DoubleEntry.flip (postings lines) := by
  simp [postings, DoubleEntry.flip, Function.comp_def, signed_flip, account_flip]

lemma foldl_lines (lines : List JournalLine) (account : Account) (net : ℤ) :
    lines.foldl (fun lineNet line =>
        if line.account ≠ account then lineNet else lineNet + line.signed) net =
      net + DoubleEntry.net (postings lines) account := by
  induction lines generalizing net with
  | nil => simp
  | cons line lines ih =>
    have hcons : postings (line :: lines) = (line.account, line.signed) :: postings lines := rfl
    rw [List.foldl_cons, ih, hcons, DoubleEntry.net_cons]
    by_cases ha : line.account = account <;> simp [ha, add_assoc]

lemma accountBalanceMinor_eq_net (entries : List (List JournalLine)) (account : Account) :
    accountBalanceMinor entries account = DoubleEntry.net (postings entries.flatten) account := by
  have hfold : ∀ (start : ℤ), entries.foldl (fun net lines => lines.foldl
      (fun lineNet line => if line.account ≠ account then lineNet else lineNet + line.signed) net)
        start = start + DoubleEntry.net (postings entries.flatten) account := by
    induction entries with
    | nil => simp
    | cons lines entries ih =>
      intro start
      rw [List.foldl_cons, ih, foldl_lines, List.flatten_cons, postings_append,
        DoubleEntry.net_append, add_assoc]
  rw [accountBalanceMinor, hfold, zero_add]

lemma total_signed (lines : List JournalLine) :
    DoubleEntry.total (postings lines) =
      (sideTotal .DEBIT lines : ℤ) - (sideTotal .CREDIT lines : ℤ) := by
  induction lines with
  | nil => rfl
  | cons line lines ih =>
    have hcons : DoubleEntry.total (postings (line :: lines)) =
        line.signed + DoubleEntry.total (postings lines) := by
      simp [DoubleEntry.total, postings]
    rw [hcons, ih]
    cases hd : line.direction with
    | DEBIT | CREDIT =>
      simp [sideTotal, JournalLine.signed, hd]
      ring

lemma assertBalanced_eq_ok {lines : List JournalLine} {u : Unit}
    (h : assertBalanced lines = .ok u) :
    lines ≠ [] ∧ (∃ currency, ∀ line ∈ lines, line.currency = currency) ∧
      sideTotal .DEBIT lines = sideTotal .CREDIT lines := by
  unfold assertBalanced at h
  split at h
  · cases h
  · rename_i first rest
    simp only at h
    split at h
    · cases h
    · rename_i hfirst
      simp only [ok_iff, not_not] at h
      refine ⟨by simp, ⟨first.currency, fun line hline => ?_⟩, h.1⟩
      simpa using List.find?_eq_none.mp hfirst line hline

end Fuatilia.Ledger
