import Fuatilia.Foundations.Lists
import Fuatilia.Foundations.Machine
import Fuatilia.Payments.Intake

/-!
# Runs of intakes

An intake compares a command with the first payment that it repeats, by channel and external
reference or by idempotency key. So a command that repeats two stored payments, one in each way, is
compared with one of them only.

## Main definitions

* `accumulate` — intakes fed one after another.
* `Distinct`, `Unambiguous` — the law of the payments, and the condition on commands.

## Main results

* `intake_idempotent` — identities are not shared, and conflicting repeats are refused.
-/

namespace Fuatilia.Payments

open Fallible Machine

def accumulate (stored : List Payment) (c : IntakeCommand × Clock) : Option (List Payment) :=
  (intakePayment c.1 ⟨c.2, stored⟩).toOption.map fun r =>
    if r.duplicate then stored else stored ++ [r.payment]

/-- The command names the payment: by its channel and external reference, or by its key. -/
def Repeats (cmd : IntakeCommand) (p : Payment) : Prop :=
  (p.channel = cmd.channel ∧ p.externalRef = trim cmd.externalRef) ∨
    p.idempotencyKey = trim cmd.idempotencyKey
  deriving Decidable

def Conflicts (cmd : IntakeCommand) (p : Payment) : Prop :=
  p.currency ≠ cmd.amount.currency ∨ p.requestedMinor ≠ cmd.amount
  deriving Decidable

/-- No two payments share a key, or a channel and an external reference. -/
def Distinct (stored : List Payment) : Prop :=
  stored.Pairwise fun p q => p.idempotencyKey ≠ q.idempotencyKey ∧
    ¬ (p.channel = q.channel ∧ p.externalRef = q.externalRef)
  deriving Decidable

/-- An accepted duplicate returns a stored payment and changes nothing. -/
def Answers (stored : List Payment) (c : IntakeCommand × Clock) : Prop :=
  ∀ r, intakePayment c.1 ⟨c.2, stored⟩ = .ok r → r.duplicate = true →
    r.payment ∈ stored ∧ Repeats c.1 r.payment ∧ next accumulate stored c = stored

def RefusesConflicts (stored : List Payment) (c : IntakeCommand × Clock) : Prop :=
  ∀ p ∈ stored, Repeats c.1 p → Conflicts c.1 p →
    (∃ e, intakePayment c.1 ⟨c.2, stored⟩ = .error e) ∧ next accumulate stored c = stored

def Unambiguous (stored : List Payment) (c : IntakeCommand × Clock) : Prop :=
  ∀ p ∈ stored, ∀ q ∈ stored, Repeats c.1 p → Repeats c.1 q → p = q
  deriving Decidable

/-! ## One intake -/

variable {cmd : IntakeCommand} {stored : List Payment} {c : IntakeCommand × Clock}

lemma priorPayment_eq_some {p : Payment}
    (h : priorPayment cmd (trim cmd.externalRef) (trim cmd.idempotencyKey) stored = some p) :
    p ∈ stored ∧ Repeats cmd p := by
  have hp := List.find?_some h
  simp only [Bool.or_eq_true, Bool.and_eq_true, beq_iff_eq] at hp
  exact ⟨List.mem_of_find?_eq_some h, hp⟩

lemma priorPayment_eq_none :
    priorPayment cmd (trim cmd.externalRef) (trim cmd.idempotencyKey) stored = none ↔
      ∀ p ∈ stored, ¬ Repeats cmd p := by
  simp [priorPayment, List.find?_eq_none, Bool.or_eq_true, Bool.and_eq_true, beq_iff_eq, Repeats]

variable {clock : Clock} {r : IntakeResult} {stored' : List Payment}

lemma observeDuplicate_eq_ok {prior : Payment} {amount : Money}
    (h : observeDuplicate prior amount clock = .ok r) :
    r.payment = prior ∧ r.duplicate = true ∧ prior.currency = amount.currency ∧
      prior.requestedMinor = amount := by
  simp only [observeDuplicate, ok_iff, not_not, Money.equals_eq_ok] at h
  obtain ⟨hcurrency, same, ⟨hsame, rfl⟩, hequal, rfl⟩ := h
  exact ⟨rfl, rfl, hcurrency, Money.ext (by simpa using hequal) hsame⟩

/-- **What an accepted intake does.** It returns a stored payment that the command repeats, for the
same money, or it creates one, which repeats no stored payment. -/
lemma intakePayment_cases (h : intakePayment cmd ⟨clock, stored⟩ = .ok r) :
    (r.duplicate = true ∧ r.payment ∈ stored ∧ Repeats cmd r.payment ∧ ¬ Conflicts cmd r.payment) ∨
      r.duplicate = false ∧ (∀ p ∈ stored, ¬ Repeats cmd p) ∧ r.payment.channel = cmd.channel ∧
        r.payment.externalRef = trim cmd.externalRef ∧
        r.payment.idempotencyKey = trim cmd.idempotencyKey := by
  simp only [intakePayment, ok_iff] at h
  obtain ⟨-, -, -, refs, -, h⟩ := h
  split at h
  · rename_i prior hprior
    obtain ⟨hmem, hrepeats⟩ := priorPayment_eq_some hprior
    obtain ⟨rfl, hduplicate, hcurrency, hamount⟩ := observeDuplicate_eq_ok h
    exact .inl ⟨hduplicate, hmem, hrepeats, not_or.mpr ⟨not_not.mpr hcurrency, not_not.mpr hamount⟩⟩
  · rename_i hprior
    rw [pure_eq_ok.mp h]
    exact .inr ⟨rfl, priorPayment_eq_none.mp hprior, rfl, rfl, rfl⟩

lemma accumulate_cases (h : accumulate stored c = some stored') :
    stored' = stored ∨ ∃ p, stored' = stored ++ [p] ∧ ∀ q ∈ stored,
      q.idempotencyKey ≠ p.idempotencyKey ∧
        ¬ (q.channel = p.channel ∧ q.externalRef = p.externalRef) := by
  obtain ⟨r, hr, rfl⟩ := map_toOption_eq_some.mp h
  rcases intakePayment_cases hr with ⟨hdup, -⟩ | ⟨hnew, hnone, hch, href, hkey⟩
  · rw [if_pos hdup]
    exact .inl rfl
  · rw [if_neg (by simp [hnew])]
    refine .inr ⟨r.payment, rfl, fun q hq => ?_⟩
    have hnot := not_or.mp (hnone q hq)
    rw [hch, href, hkey]
    exact ⟨hnot.2, hnot.1⟩

lemma Distinct.accumulate (hs : Distinct stored)
    (h : Payments.accumulate stored c = some stored') : Distinct stored' := by
  rcases accumulate_cases h with rfl | ⟨p, rfl, hp⟩
  · exact hs
  · exact Lists.pairwise_concat hs hp

lemma answers (stored : List Payment) (c : IntakeCommand × Clock) : Answers stored c := by
  intro r hr hduplicate
  rcases intakePayment_cases hr with ⟨-, hmem, hrepeats, -⟩ | ⟨hnew, -⟩
  · refine ⟨hmem, hrepeats, next_of_some ?_⟩
    rw [accumulate, toOption_eq_some.mpr hr, Option.map_some, if_pos hduplicate]
  · rw [hnew] at hduplicate
    cases hduplicate

lemma refusesConflicts (hunique : Unambiguous stored c) : RefusesConflicts stored c := by
  intro p hp hrepeats hconflicts
  cases hintake : intakePayment c.1 ⟨c.2, stored⟩ with
  | error e =>
    refine ⟨⟨e, rfl⟩, next_of_none ?_⟩
    rw [accumulate, hintake]
    rfl
  | ok r =>
    rcases intakePayment_cases hintake with ⟨-, hmem, hsame, hagrees⟩ | ⟨-, hnone, -⟩
    · exact absurd (hunique p hp _ hmem hrepeats hsame ▸ hconflicts) hagrees
    · exact absurd hrepeats (hnone p hp)

/-! ## Runs -/

/-- **Idempotency of intakes.** From payments without a shared identity, along every run of
unambiguous commands, no two payments share an identity, every accepted duplicate returns a stored
payment unchanged, and every command that conflicts with a stored payment is refused without any
change. -/
theorem intake_idempotent (stored : List Payment) (hstored : Distinct stored)
    (commands : List (IntakeCommand × Clock))
    (hunique : Meets accumulate Unambiguous stored commands) (k : ℕ) :
    Distinct (run accumulate stored (commands.take k)) ∧ ∀ c ∈ commands[k]?,
      Answers (run accumulate stored (commands.take k)) c ∧
        RefusesConflicts (run accumulate stored (commands.take k)) c := by
  refine ⟨run_invariant_all (fun _ _ _ hs h => hs.accumulate h) _ stored hstored, fun c hc => ?_⟩
  refine ⟨answers _ c, refusesConflicts ?_⟩
  obtain ⟨hk, rfl⟩ := List.getElem?_eq_some_iff.mp hc
  have hsplit : commands = commands.take k ++ commands[k] :: commands.drop (k + 1) := by
    rw [List.cons_getElem_drop_succ, List.take_append_drop]
  rw [hsplit, meets_append] at hunique
  exact hunique.2.1

def paybill (reference key : String) (minor : ℕ) (id : Uuid) : IntakeCommand × Clock :=
  (⟨.c2b, reference, key, ⟨minor, .KES⟩, none, [], some id⟩, pinnedClock (.ofTime 0))

/-- Two payments, a redelivery of the first and a conflicting redelivery of the second. -/
def redeliveries : List (IntakeCommand × Clock) :=
  [paybill "R1" "K1" 100 "p1", paybill "R2" "K2" 200 "p2", paybill "R1" "K1" 100 "p3",
    paybill "R2" "K2" 250 "p4"]

/-- The conflicting redelivery is refused, and both payments stay as they are. -/
theorem intake_idempotent_redeliveries :
    Meets accumulate Unambiguous [] redeliveries ∧
      (run accumulate [] (redeliveries.take 3)).length = 2 ∧
      Distinct (run accumulate [] (redeliveries.take 3)) ∧ ∀ c ∈ redeliveries[3]?,
        Answers (run accumulate [] (redeliveries.take 3)) c ∧
          RefusesConflicts (run accumulate [] (redeliveries.take 3)) c :=
  ⟨by decide +kernel, by decide +kernel,
    intake_idempotent [] (by decide) redeliveries (by decide +kernel) 3⟩

/-- The reference of the first payment with the key of the second, which is of other money, is not
refused: it is answered as a duplicate of the first payment. -/
theorem twofold_duplicate_accepted :
    let stored := run accumulate [] [paybill "R1" "K1" 100 "p1", paybill "R2" "K2" 200 "p2"]
    let c := paybill "R1" "K2" 100 "p3"
    (∃ p ∈ stored, Repeats c.1 p ∧ Conflicts c.1 p) ∧
      (∃ r, intakePayment c.1 ⟨c.2, stored⟩ = .ok r ∧ r.duplicate = true ∧ r.payment.id = "p1") ∧
      ¬ RefusesConflicts stored c := by
  intro stored c
  have hconflict : ∃ p ∈ stored, Repeats c.1 p ∧ Conflicts c.1 p := by decide +kernel
  have hanswer : ∃ r ∈ (intakePayment c.1 ⟨c.2, stored⟩).toOption,
      r.duplicate = true ∧ r.payment.id = "p1" := by decide +kernel
  obtain ⟨r, hr, hduplicate⟩ := hanswer
  have hok := toOption_eq_some.mp hr
  refine ⟨hconflict, ⟨r, hok, hduplicate⟩, fun hrefuses => ?_⟩
  obtain ⟨p, hp, hrepeats, hconflicts⟩ := hconflict
  obtain ⟨⟨e, he⟩, -⟩ := hrefuses p hp hrepeats hconflicts
  rw [hok] at he
  cases he

end Fuatilia.Payments
