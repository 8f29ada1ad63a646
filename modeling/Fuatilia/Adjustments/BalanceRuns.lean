import Fuatilia.Adjustments.CreditNote

/-!
# Runs of a credit balance

Only an application of credit compares its amount with what is available: a movement appended
directly is checked for its form, and the currency compared is a field next to its amount.

## Main definitions

* `balanceStep` — a balance after an overpayment, an application, a routed excess or a direct
  movement.
* `Solvent`, `Covered` — the law of a balance, and the condition on direct movements.

## Main results

* `creditBalance_solvent_iff` — the law holds along a run exactly under the condition.
-/

namespace Fuatilia.Adjustments

open Fallible Machine

inductive BalanceCommand where
  | append (movement : CreditBalanceMovement)
  | overpayment (paymentRef : String) (amount : Money) (clock : Clock) (movementId : Uuid)
  | apply (receivableId : Uuid) (amount : Money) (clock : Clock)
      (options : ApplyCreditBalanceOptions)
  | routed (note : CreditNote) (amount : Money) (consent : Bool) (clock : Clock) (movementId : Uuid)

def appendRouted (balance : CustomerCreditBalance) (note : CreditNote) (amount : Money)
    (consent : Bool) (clock : Clock) (movementId : Uuid) : Except Thrown CustomerCreditBalance := do
  let routed ← applyExcessToCreditBalance note amount consent clock movementId
  appendMovement balance routed.movement

def balanceStep (balance : CustomerCreditBalance) : BalanceCommand → Option CustomerCreditBalance
  | .append movement => (appendMovement balance movement).toOption
  | .overpayment paymentRef amount clock movementId =>
    (recordOverpayment balance paymentRef amount clock movementId).toOption.map (·.balance)
  | .apply receivableId amount clock options =>
    (applyCreditBalance balance receivableId amount clock options).toOption.map (·.balance)
  | .routed note amount consent clock movementId =>
    (appendRouted balance note amount consent clock movementId).toOption

/-- **The law of a balance**: the available amount is defined, it is the increases less the
decreases, and every movement and its amount are in the currency of the balance. -/
def Solvent (balance : CustomerCreditBalance) : Prop :=
  ∃ available, availableOf balance = .ok available ∧
    (available.amount : ℤ) =
      moved .increase balance.movements - moved .decrease balance.movements ∧
    ∀ m ∈ balance.movements, m.currency = balance.currency ∧ m.amount.currency = balance.currency

def IsCovered (balance : CustomerCreditBalance) (movement : CreditBalanceMovement) : Prop :=
  movement.amount.currency = balance.currency ∧
    (movement.direction = .decrease → moved .decrease balance.movements + movement.amount.amount ≤
      moved .increase balance.movements)

/-- The condition: a movement of the right form that is appended directly is covered. -/
def Covered (balance : CustomerCreditBalance) : BalanceCommand → Prop
  | .append movement => Fits balance movement → IsCovered balance movement
  | _ => True

/-! ## One command -/

variable {balance b : CustomerCreditBalance} {command : BalanceCommand}

lemma solvent_iff :
    Solvent balance ↔ moved .decrease balance.movements ≤ moved .increase balance.movements ∧
      ∀ m ∈ balance.movements, m.currency = balance.currency ∧
      m.amount.currency = balance.currency := by
  constructor
  · rintro ⟨_, havailable, -, hcurrency⟩
    exact ⟨(availableOf_eq_ok.mp havailable).2.1, hcurrency⟩
  · rintro ⟨hle, hcurrency⟩
    exact ⟨_, availableOf_eq_ok.mpr ⟨fun m hm => (hcurrency m hm).1, hle, rfl⟩, Nat.cast_sub hle,
      hcurrency⟩

lemma solvent_append_iff {movement : CreditBalanceMovement}
    (hsolvent : Solvent balance) (hfits : Fits balance movement) :
    Solvent { balance with movements := balance.movements ++ [movement] } ↔
      IsCovered balance movement := by
  obtain ⟨hle, hcurrency⟩ := solvent_iff.mp hsolvent
  simp only [solvent_iff, moved_concat, IsCovered, List.forall_mem_append,
    List.forall_mem_singleton, hfits.currency, true_and]
  rw [and_iff_right hcurrency, and_comm]
  refine and_congr_right fun _ => ?_
  cases movement.direction with
  | increase =>
    simp
    omega
  | decrease => simp

lemma solvent_open (customerId : Uuid) (currency : Currency) :
    Solvent (openCreditBalance customerId currency) := by
  simp [solvent_iff, openCreditBalance, moved]

lemma applyExcess_movement {note : CreditNote} {amount : Money} {consent : Bool} {clock : Clock}
    {movementId : Uuid} {routed : CreditNoteExcessRouted}
    (h : applyExcessToCreditBalance note amount consent clock movementId = .ok routed) :
    routed.movement.amount.currency = routed.movement.currency ∧
      routed.movement.direction = .increase := by
  simp only [applyExcessToCreditBalance, ok_iff] at h
  obtain ⟨-, -, -, -, _, -, -, _, -, -, _, -, _, -, rfl⟩ := h
  exact ⟨rfl, rfl⟩

/-- **What a command does.** An accepted command appends one movement of the right form. It meets
the condition exactly when that movement is covered; all but the direct ones are. -/
lemma balanceStep_appends {b' : CustomerCreditBalance} (h : balanceStep b command = some b') :
    ∃ m, Fits b m ∧ b' = { b with movements := b.movements ++ [m] } ∧
      (Covered b command ↔ IsCovered b m) := by
  cases command with
  | append movement =>
    obtain ⟨hfits, rfl⟩ := appendMovement_eq_ok.mp (toOption_eq_some.mp h)
    exact ⟨movement, hfits, rfl, forall_prop_of_true hfits⟩
  | overpayment paymentRef amount clock movementId =>
    obtain ⟨recorded, hrecorded, rfl⟩ := map_toOption_eq_some.mp h
    obtain ⟨happend, hcurrency, hdirection⟩ :=
      recordOverpayment_eq_ok hrecorded
    obtain ⟨hfits, hbalance⟩ := appendMovement_eq_ok.mp happend
    exact ⟨_, hfits, hbalance, iff_of_true trivial ⟨hcurrency, by simp [hdirection]⟩⟩
  | apply receivableId amount clock options =>
    obtain ⟨applied, happlied, rfl⟩ := map_toOption_eq_some.mp h
    obtain ⟨happend, hcurrency, hcovered⟩ := applyCreditBalance_eq_ok happlied
    obtain ⟨hfits, hbalance⟩ := appendMovement_eq_ok.mp happend
    exact ⟨_, hfits, hbalance, iff_of_true trivial ⟨hcurrency, fun _ => hcovered⟩⟩
  | routed note amount consent clock movementId =>
    obtain ⟨routed, hrouted, happend⟩ := bind_eq_ok.mp (toOption_eq_some.mp h)
    obtain ⟨hcurrency, hdirection⟩ := applyExcess_movement hrouted
    obtain ⟨hfits, hbalance⟩ := appendMovement_eq_ok.mp happend
    exact ⟨_, hfits, hbalance,
      iff_of_true trivial ⟨hcurrency.trans hfits.currency, by simp [hdirection]⟩⟩

lemma covered_of_refused (h : balanceStep b command = none) : Covered b command := by
  cases command with
  | append movement =>
    intro hfits
    rw [balanceStep, toOption_eq_some.mpr (appendMovement_eq_ok.mpr ⟨hfits, rfl⟩)] at h
    cases h
  | _ => trivial

/-! ## Runs -/

/-- **When a balance is solvent.** From an open balance, the law holds at every point of a run
exactly when every movement that the run appends directly is covered. -/
theorem creditBalance_solvent_iff (customerId : Uuid) (currency : Currency)
    (commands : List BalanceCommand) :
    (∀ k, Solvent (run balanceStep (openCreditBalance customerId currency) (commands.take k))) ↔
      Meets balanceStep Covered (openCreditBalance customerId currency) commands := by
  refine forall_run_iff_meets (I := Solvent) (P := Solvent) (fun _ hb => hb) ?_ ?_
    (fun _ _ => covered_of_refused) commands _ (solvent_open customerId currency)
  · intro b command b' hsolvent hstep hcovered
    obtain ⟨m, hfits, rfl, hiff⟩ := balanceStep_appends hstep
    exact (solvent_append_iff hsolvent hfits).mpr (hiff.mp hcovered)
  · intro b command b' hsolvent hstep hsolvent'
    obtain ⟨m, hfits, rfl, hiff⟩ := balanceStep_appends hstep
    exact hiff.mpr ((solvent_append_iff hsolvent hfits).mp hsolvent')

def direct (kind : CreditBalanceMovementKind) (direction : CreditBalanceDirection)
    (amount : Money) : BalanceCommand :=
  .append ⟨"m1", "c1", kind, direction, amount, .KES, some "p1", some "r1", none, .ofTime 0⟩

/-- A decrease of an empty balance is appended, and then nothing is available; an amount of dollars
is appended to a balance of shillings and counted as shillings. -/
theorem direct_movement_unchecked :
    let overdrawn := run balanceStep (openCreditBalance "c1" .KES)
      [direct .appliedToReceivable .decrease ⟨500, .KES⟩]
    let mixed := run balanceStep (openCreditBalance "c1" .KES)
      [direct .overpayment .increase ⟨500, .USD⟩]
    (overdrawn.movements.length = 1 ∧ (availableOf overdrawn).toOption = none) ∧
      ((availableOf mixed).toOption = some ⟨500, .KES⟩ ∧
        mixed.movements.map (·.amount.currency) = [.USD]) ∧
      ¬ Solvent overdrawn ∧ ¬ Solvent mixed := by
  intro overdrawn mixed
  have hdecrease : moved .increase overdrawn.movements < moved .decrease overdrawn.movements := by
    decide +kernel
  have hdollars : ∃ m ∈ mixed.movements, m.amount.currency ≠ mixed.currency := by decide +kernel
  refine ⟨by decide +kernel, by decide +kernel, fun hsolvent => ?_, fun hsolvent => ?_⟩
  · exact absurd (solvent_iff.mp hsolvent).1 (Nat.not_le.mpr hdecrease)
  · obtain ⟨m, hm, hforeign⟩ := hdollars
    exact hforeign ((solvent_iff.mp hsolvent).2 m hm).2

end Fuatilia.Adjustments
