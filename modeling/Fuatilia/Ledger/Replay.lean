import Fuatilia.Ledger.Journal

/-!
# Replays of a posting

The check that a repeated source event describes the same movement reads the name, the instant, the
number of the lines and the first line's amount and currency. It reads no account, so an entry
posted with explicit lines under the name of a matrix event answers for the lines of the matrix.

## Main definitions

* `JournalEntry.FollowsMatrix` — an entry has the lines of the matrix.

## Main results

* `post_replay_prescribed_iff` — when a replay is answered with the prescribed lines.
-/

namespace Fuatilia.Ledger

open Fallible

/-- The lines are those that a row of the matrix prescribes for an amount. -/
def MatrixRow.Prescribes (row : MatrixRow) (amountMinor : ℕ) (currency : Currency)
    (lines : List JournalLine) : Prop :=
  lines.map (fun line => (line.account, line.direction, line.amountMinor, line.currency)) =
    [(row.debit, .DEBIT, amountMinor, currency), (row.credit, .CREDIT, amountMinor, currency)]

/-- The lines of the entry are those of the matrix under its own name, for some movement. -/
def JournalEntry.FollowsMatrix (e : JournalEntry) : Prop :=
  ∃ row amountMinor currency, POSTING_MATRIX e.sourceEventName = some row ∧
    row.Prescribes amountMinor currency e.lines

variable {event : MoneyMovementEvent} {existing : JournalEntry} {amountMinor : ℕ}

lemma movementDrifts_eq_false (h : movementDrifts existing event amountMinor = false) :
    existing.sourceEventName = event.name ∧ existing.occurredAt = event.occurredAt ∧
      ∃ first second, existing.lines = [first, second] ∧ first.amountMinor = amountMinor ∧
        first.currency = event.currency := by
  simp only [movementDrifts, Bool.or_eq_false_iff, bne_eq_false_iff_eq] at h
  obtain ⟨⟨hname, hat⟩, hlines⟩ := h
  refine ⟨hname, hat, ?_⟩
  split at hlines
  · rename_i first second heq
    simp only [Bool.or_eq_false_iff, bne_eq_false_iff_eq] at hlines
    exact ⟨first, second, heq, hlines⟩
  · cases hlines

/-- A movement that passed the check against an entry of the matrix has the lines of the entry. -/
lemma prescribes_of_followsMatrix (hfollows : existing.FollowsMatrix)
    (hsame : movementDrifts existing event amountMinor = false) {row : MatrixRow}
    (hrow : POSTING_MATRIX event.name = some row) :
    row.Prescribes amountMinor event.currency existing.lines := by
  obtain ⟨row', amount, currency, hrow', hlines⟩ := hfollows
  obtain ⟨hname, -, first, second, htwo, rfl, hcurrency⟩ := movementDrifts_eq_false hsame
  obtain rfl : row = row' := by
    rw [hname, hrow] at hrow'
    exact Option.some.inj hrow'
  -- the first line carries the amount and the currency that both lines were made with
  have hfirst : first.amountMinor = amount ∧ first.currency = currency := by
    simp only [MatrixRow.Prescribes, htwo, List.map_cons, List.cons.injEq, Prod.mk.injEq] at hlines
    exact hlines.1.2.2
  rw [hfirst.1, ← hcurrency, hfirst.2]
  exact hlines

/-- **Replays.** A posting of an event that was posted before in its organisation is refused or
returns the entry of the first posting, with the name and the instant of the event. The entry has
the lines that the matrix prescribes for the movement exactly when it follows the matrix. -/
theorem post_replay_prescribed_iff (event : MoneyMovementEvent) (journal : Journal) (clock : Clock)
    (entryId : Option Uuid) (existing : JournalEntry) (result : PostResult)
    (hfound : findPostedEntry journal (trim event.orgId) event.sourceEventId = some existing)
    (h : post event journal clock entryId = .ok result) :
    result = ⟨.already_posted, existing, []⟩ ∧ existing.sourceEventName = event.name ∧
      existing.occurredAt = event.occurredAt ∧
      ∃ row amountMinor, POSTING_MATRIX event.name = some row ∧
        movementMinor event.amountMinor = .ok amountMinor ∧
        (row.Prescribes amountMinor event.currency existing.lines ↔ existing.FollowsMatrix) := by
  unfold post at h
  split at h
  · cases h
  · rename_i row hrow
    simp only [assertNonBlank, bind_eq_ok, pure_eq_ok] at h
    obtain ⟨_, -, _, ⟨_, -, rfl⟩, _, -, _, -, _, -, amountMinor, hamount, h⟩ := h
    simp only [hfound, bind_eq_ok, assertSameMovement, throwIf_eq_ok, pure_eq_ok,
      Bool.not_eq_true] at h
    obtain ⟨_, hsame, rfl⟩ := h
    obtain ⟨hname, hat, -⟩ := movementDrifts_eq_false hsame
    refine ⟨rfl, hname, hat, row, amountMinor, hrow, hamount, fun hlines => ?_, fun hfollows => ?_⟩
    · exact ⟨row, amountMinor, event.currency, hname ▸ hrow, hlines⟩
    · exact prescribes_of_followsMatrix hfollows hsame hrow

def issuedMovement : MoneyMovementEvent :=
  ⟨"invoicing.invoiceIssued", "00000000-0000-4000-8000-000000000001", "org",
    "2026-03-01T09:00:00.000Z", .bigint 10000, .KES, "INV-1", "billing"⟩

def marchClock : Clock := ⟨fun _ => .ofTime 1772355600000⟩

def issuedEntry : JournalEntry :=
  ⟨"00000000-0000-4000-8000-000000000002", "org", issuedMovement.occurredAt,
    issuedMovement.occurredAt, issuedMovement.name, issuedMovement.sourceEventId, "INV-1",
    "billing", .POSTED, [⟨.AR_CONTROL, .DEBIT, 10000, .KES, by decide⟩,
    ⟨.REVENUE, .CREDIT, 10000, .KES, by decide⟩], none, none, none⟩

theorem post_replay_prescribed_iff_issued :
    ∃ result, post issuedMovement [issuedEntry] marchClock none = .ok result ∧
      result.entry.FollowsMatrix := by
  have hpost : post issuedMovement [issuedEntry] marchClock none =
      .ok ⟨.already_posted, issuedEntry, []⟩ := by decide +kernel
  obtain ⟨-, -, -, row, amountMinor, hrow, hamount, hiff⟩ := post_replay_prescribed_iff
    issuedMovement [issuedEntry] marchClock none issuedEntry _ (by decide +kernel) hpost
  cases hrow
  cases hamount
  exact ⟨_, hpost, hiff.mp rfl⟩

/-- **Lines that the matrix does not have.** Explicit lines on cash, posted under the name of the
invoice event, answer for its posting. -/
theorem explicit_lines_replayed :
    (do
      let first ← postEntry ⟨none, "org", issuedMovement.occurredAt, issuedMovement.name,
        issuedMovement.sourceEventId, "INV-1", "import",
        [⟨.CASH, .DEBIT, .bigint 10000, .KES⟩, ⟨.REVENUE, .CREDIT, .bigint 10000, .KES⟩]⟩ []
        marchClock
      let second ← post issuedMovement [first.entry] marchClock none
      return (second.outcome, second.entry.lines.map (·.account)) :
      Except Thrown (PostOutcome × List Account)) = .ok (.already_posted, [.CASH, .REVENUE]) := by
  decide +kernel

end Fuatilia.Ledger
