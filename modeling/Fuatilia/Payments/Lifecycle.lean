import Fuatilia.Foundations.Lists
import Fuatilia.Foundations.Machine
import Fuatilia.Foundations.Pot
import Fuatilia.Payments.Intake

/-!
# Runs of commands on a payment

The commands of the payment aggregate as a machine.

## Main definitions

* `Effect`, `Sound` — the five things a command can do to the funds, and the invariant.
* `Payment.fund` — the pot of funds, whose openings and draws a run is.

## Main results

* `run_conserves_funds` — the confirmed amount is fixed once, and covers what is committed.
* `reversed_uncommitted_iff` — when the rows of reversed payments sum to zero.
-/

namespace Fuatilia.Payments

open Fallible Machine

/-! ## The machine -/

inductive Command where
  | awaitConfirmation
  | confirm (amount : Money) (clock : Clock)
  | fail (failureCode : String) (clock : Clock)
  | reverse (reason : String) (clock : Clock)
  | identify (customerId : Uuid)
  | allocate (cmd : AllocationReservation) (clock : Clock)
  | refund (cmd : RefundReservation) (clock : Clock)

def apply (p : Payment) : Command → Except Thrown TransitionResult
  | .awaitConfirmation => Payments.awaitConfirmation p
  | .confirm amount clock => confirmPayment p amount clock
  | .fail failureCode clock => failPayment p failureCode clock
  | .reverse reason clock => reversePayment p reason clock
  | .identify customerId => identifyPayment p customerId
  | .allocate cmd clock => recordAllocationReservation p cmd clock
  | .refund cmd clock => recordRefundReservation p cmd clock

def step (p : Payment) (c : Command) : Option Payment := (apply p c).toOption.map (·.payment)

/-- The commands that move money: every command but the two that only await or record a failure
of the confirmation. -/
def Command.movesMoney : Command → Bool
  | .awaitConfirmation => false
  | .confirm _ _ => true
  | .fail _ _ => false
  | .reverse _ _ => true
  | .identify _ => true
  | .allocate _ _ => true
  | .refund _ _ => true

/-! ## What an accepted command does -/

def Payment.rowTotal (p : Payment) : ℕ := (p.rowAmounts.map Money.amount).sum

/-- The states in which the confirmed amount has been recorded. -/
def PaymentState.landed (s : PaymentState) : Bool := CONFIRMED_FAMILY.contains s || s == .reversed

structure SameFunds (p p' : Payment) : Prop where
  currency : p'.currency = p.currency
  confirmed : p'.confirmedMinor = p.confirmedMinor
  allocations : p'.allocations = p.allocations
  refunds : p'.refunds = p.refunds

structure Fits (p : Payment) (amount : Money) : Prop where
  currency : amount.currency = p.currency
  positive : 0 < amount.amount
  landed : isConfirmedFamily p = true
  ceiling : ∀ c, p.confirmedMinor = some c → p.rowTotal + amount.amount ≤ c.amount

/-- What an accepted command does to the funds of a payment: nothing at all, a change of state
that keeps them, the confirmation, or a row that fits them. -/
inductive Effect (p : Payment) : Payment → Prop
  | stays : Effect p p
  | moves {p' : Payment} (same : SameFunds p p') (landed : p'.state.landed = p.state.landed)
      (open_ : p'.state ≠ .allocated) : Effect p p'
  | lands (amount : Money) (at_ : Date) (currency : amount.currency = p.currency)
      (pending : p.state = .pendingConfirmation) :
      Effect p { p with
        state := .confirmed, confirmedMinor := some amount, confirmedAt := some at_ }
  | allocates (row : PaymentAllocationRow) (c : Money) (fits : Fits p row.amount)
      (confirmed : p.confirmedMinor = some c) :
      Effect p { p with
        allocations := p.allocations ++ [row]
        state := if c.amount - (p.rowTotal + row.amount.amount) = 0 then .allocated
          else .partiallyAllocated }
  | refunds (row : PaymentRefundRow) (fits : Fits p row.amount) :
      Effect p { p with refunds := p.refunds ++ [row] }

/-- The payment was not reversed, and if it is confirmed after it no allocation was recorded. -/
def Quiet (p p' : Payment) : Prop :=
  p' = p ∨ p'.state ≠ .reversed ∧ (p'.state = .confirmed →
    (p.state = .pendingConfirmation ∨ p.state = .confirmed) ∧ p'.allocations = p.allocations)

variable {p p' : Payment} {u : Unit} {amount : Money} {code : String} {clock : Clock}

lemma assertNotTerminal_eq_ok {attempt : String} :
    assertNotTerminal p attempt = .ok u ↔ isTerminal p = false := by
  simp [assertNotTerminal, throwIf_eq_ok]

variable {op text rule reason : String} {c next : Money} {r : TransitionResult}

lemma assertSameCurrency_eq_ok :
    assertSameCurrency p amount op = .ok u ↔ amount.currency = p.currency := by
  simp [assertSameCurrency, throwIf_eq_ok]

lemma assertPositive_eq_ok : assertPositive amount op = .ok u ↔ 0 < amount.amount := by
  simp [assertPositive, throwIf_eq_ok, Nat.pos_iff_ne_zero]

lemma assertConfirmedMinor_eq_ok : assertConfirmedMinor p = .ok c ↔ p.confirmedMinor = some c := by
  unfold assertConfirmedMinor
  split <;> simp_all

/-- The funds check of a reservation passes exactly when the payment is in the confirmed family
and the new sum, in the payment's currency, stays within the confirmed amount. -/
lemma reserveFunds_eq_ok (h : reserveFunds p amount text code rule = .ok (c, next)) :
    isConfirmedFamily p = true ∧ p.confirmedMinor = some c ∧
      next.amount = p.rowTotal + amount.amount ∧ next.amount ≤ c.amount := by
  simp only [reserveFunds, ok_iff, assertConfirmedMinor_eq_ok, Prod.mk.injEq] at h
  obtain ⟨hfam, _, hc, committed, hsum, _, hadd, d, hcmp, hd, rfl, rfl⟩ := h
  obtain ⟨-, rfl⟩ := Money.sumOf_eq_ok.mp hsum
  obtain ⟨-, rfl⟩ := Money.add_eq_ok.mp hadd
  rw [Money.compareTo_pos hcmp] at hd
  exact ⟨by simpa using hfam, hc, rfl, by omega⟩

lemma fits_of_reserveFunds
    (h : reserveFunds p amount text code rule = .ok (c, next)) (hcur : amount.currency = p.currency)
    (hpos : 0 < amount.amount) : Fits p amount := by
  obtain ⟨hfam, hc, hnext, hle⟩ := reserveFunds_eq_ok h
  refine ⟨hcur, hpos, hfam, fun c' hc' => ?_⟩
  obtain rfl : c' = c := Option.some.inj (hc'.symm.trans hc)
  omega

lemma awaitConfirmation_effect (h : awaitConfirmation p = .ok r) :
    Effect p r.payment ∧ Quiet p r.payment := by
  simp only [awaitConfirmation, ok_iff, not_not] at h
  obtain ⟨-, -, hstate, rfl⟩ := h
  exact ⟨.moves ⟨rfl, rfl, rfl, rfl⟩ (by rw [hstate]; rfl) (by simp), .inr ⟨by simp, by simp⟩⟩

lemma confirmPayment_effect (h : confirmPayment p amount clock = .ok r) :
    Effect p r.payment ∧ Quiet p r.payment := by
  simp only [confirmPayment, bind_eq_ok, assertSameCurrency_eq_ok, exists_const] at h
  obtain ⟨hcur, -, -, h⟩ := h
  split at h
  · simp only [ok_iff] at h
    obtain ⟨_, -, _, -, -, rfl⟩ := h
    exact ⟨.stays, .inl rfl⟩
  · simp only [ok_iff, not_not] at h
    obtain ⟨hstate, rfl⟩ := h
    exact ⟨.lands amount (clock.now 0) hcur hstate, .inr ⟨by simp, fun _ => ⟨.inl hstate, rfl⟩⟩⟩

lemma failPayment_effect (h : failPayment p code clock = .ok r) :
    Effect p r.payment ∧ Quiet p r.payment := by
  simp only [failPayment, ok_iff] at h
  obtain ⟨-, h⟩ := h
  split at h
  · rw [pure_eq_ok.mp h]
    exact ⟨.stays, .inl rfl⟩
  · simp only [ok_iff] at h
    obtain ⟨-, -, hstate, rfl⟩ := h
    refine ⟨.moves ⟨rfl, rfl, rfl, rfl⟩ ?_ (by simp), .inr ⟨by simp, by simp⟩⟩
    -- an unconfirmed payment fails into an unconfirmed state
    rcases not_and_or.mp hstate with hs | hs <;> rw [not_not.mp hs] <;> rfl

lemma reversePayment_effect (h : reversePayment p reason clock = .ok r) : Effect p r.payment := by
  simp only [reversePayment, ok_iff, not_not] at h
  obtain ⟨-, -, -, hstate, rfl⟩ := h
  exact .moves ⟨rfl, rfl, rfl, rfl⟩ (by rw [hstate]; rfl) (by simp)

lemma identifyPayment_effect {customerId : Uuid}
    (h : identifyPayment p customerId = .ok r) : Effect p r.payment ∧ Quiet p r.payment := by
  simp only [identifyPayment, bind_eq_ok] at h
  obtain ⟨-, -, h⟩ := h
  split at h
  · simp only [ok_iff] at h
    obtain ⟨-, rfl⟩ := h
    exact ⟨.stays, .inl rfl⟩
  · simp only [ok_iff, not_not] at h
    obtain ⟨hstate, rfl⟩ := h
    exact ⟨.moves ⟨rfl, rfl, rfl, rfl⟩ (by rw [hstate]; rfl) (by simp), .inr ⟨by simp, by simp⟩⟩

lemma recordAllocationReservation_effect {cmd : AllocationReservation}
    (h : recordAllocationReservation p cmd clock = .ok r) :
    Effect p r.payment ∧ Quiet p r.payment := by
  simp only [recordAllocationReservation, ok_iff, assertSameCurrency_eq_ok, assertPositive_eq_ok,
    exists_const, Money.subtract_eq_ok] at h
  obtain ⟨hcur, hpos, -, -, ⟨c, next⟩, hfunds, id, -, _, ⟨-, -, rfl⟩, rfl⟩ := h
  obtain ⟨-, hc, hnext, -⟩ := reserveFunds_eq_ok hfunds
  have heffect := Effect.allocates ⟨id, p.id, cmd.receivableId, cmd.amount, clock.now 0⟩ c
    (fits_of_reserveFunds hfunds hcur hpos) hc
  refine ⟨by simpa [Money.isZero, hnext] using heffect, .inr ⟨?_, ?_⟩⟩ <;> split_ifs <;> simp

lemma recordRefundReservation_effect {cmd : RefundReservation}
    (h : recordRefundReservation p cmd clock = .ok r) : Effect p r.payment ∧ Quiet p r.payment := by
  simp only [recordRefundReservation, ok_iff, assertSameCurrency_eq_ok, assertPositive_eq_ok,
    assertNotTerminal_eq_ok] at h
  obtain ⟨-, _, hcur, _, hpos, _, hterm, ⟨c, next⟩, hfunds, id, -, rfl⟩ := h
  refine ⟨.refunds ⟨id, p.id, cmd.amount, trim cmd.reason, clock.now 0⟩
    (fits_of_reserveFunds hfunds hcur hpos), .inr ⟨fun hrev => ?_, fun hconf => ⟨.inr hconf, rfl⟩⟩⟩
  simp [isTerminal, TERMINAL_STATES, show p.state = .reversed from hrev] at hterm

lemma step_cases {c : Command} (h : step p c = some p') :
    Effect p p' ∧ ((∃ reason clock, c = .reverse reason clock) ∨ Quiet p p') := by
  obtain ⟨r, hr, rfl⟩ := map_toOption_eq_some.mp h
  cases c with
  | awaitConfirmation => exact (awaitConfirmation_effect hr).imp_right .inr
  | confirm amount clock => exact (confirmPayment_effect hr).imp_right .inr
  | fail code clock => exact (failPayment_effect hr).imp_right .inr
  | reverse reason clock => exact ⟨reversePayment_effect hr, .inl ⟨reason, clock, rfl⟩⟩
  | identify customerId => exact (identifyPayment_effect hr).imp_right .inr
  | allocate cmd clock => exact (recordAllocationReservation_effect hr).imp_right .inr
  | refund cmd clock => exact (recordRefundReservation_effect hr).imp_right .inr

theorem effect_of_step {c : Command} (h : step p c = some p') : Effect p p' := (step_cases h).1

/-! ## The invariant -/

/-- The confirmed amount is recorded exactly in the landed states, everything is in the payment's
currency, no row precedes the confirmation, the rows stay within the confirmed amount, and an
allocated payment has all of it committed. -/
structure Sound (p : Payment) : Prop where
  landed : p.confirmedMinor.isSome = p.state.landed
  confirmedCurrency : ∀ c, p.confirmedMinor = some c → c.currency = p.currency
  rowCurrency : ∀ m ∈ p.rowAmounts, m.currency = p.currency
  unconfirmed : p.confirmedMinor = none → p.allocations = [] ∧ p.refunds = []
  ceiling : ∀ c, p.confirmedMinor = some c → p.rowTotal ≤ c.amount
  allocated : p.state = .allocated → ∀ c, p.confirmedMinor = some c → p.rowTotal = c.amount

@[simp] lemma rowTotal_allocate (p : Payment) (row : PaymentAllocationRow) (s : PaymentState) :
    Payment.rowTotal { p with allocations := p.allocations ++ [row], state := s } =
      p.rowTotal + row.amount.amount := by
  simp [Payment.rowTotal, Payment.rowAmounts]
  omega

@[simp] lemma rowTotal_refund (p : Payment) (row : PaymentRefundRow) :
    Payment.rowTotal { p with refunds := p.refunds ++ [row] } =
      p.rowTotal + row.amount.amount := by
  simp [Payment.rowTotal, Payment.rowAmounts]
  omega

lemma SameFunds.rowAmounts (h : SameFunds p p') :
    p'.rowAmounts = p.rowAmounts := by
  simp [Payment.rowAmounts, h.allocations, h.refunds]

lemma SameFunds.rowTotal (h : SameFunds p p') : p'.rowTotal = p.rowTotal := by
  simp [Payment.rowTotal, h.rowAmounts]

lemma Sound.exists_confirmed (hs : Sound p) (h : isConfirmedFamily p = true) :
    ∃ c, p.confirmedMinor = some c := by
  rw [← Option.isSome_iff_exists, hs.landed]
  simp only [isConfirmedFamily] at h
  simp only [PaymentState.landed, h, Bool.true_or]

lemma Sound.of_pending (hs : Sound p) (h : p.state = .pendingConfirmation) :
    p.confirmedMinor = none ∧ p.allocations = [] ∧ p.refunds = [] := by
  have hnone : p.confirmedMinor = none :=
    Option.not_isSome_iff_eq_none.mp (by rw [hs.landed, h]; decide)
  exact ⟨hnone, hs.unconfirmed hnone⟩

theorem sound_of_effect (hs : Sound p) (h : Effect p p') : Sound p' := by
  cases h with
  | stays => exact hs
  | moves same landed open_ =>
    constructor
    · rw [same.confirmed, hs.landed, landed]
    · rw [same.confirmed, same.currency]; exact hs.confirmedCurrency
    · rw [same.rowAmounts, same.currency]; exact hs.rowCurrency
    · rw [same.confirmed, same.allocations, same.refunds]; exact hs.unconfirmed
    · rw [same.confirmed, same.rowTotal]; exact hs.ceiling
    · intro hstate; exact absurd hstate open_
  | lands amount at_ currency pending =>
    obtain ⟨-, ha, hr⟩ := hs.of_pending pending
    constructor
    · rfl
    · rintro c ⟨⟩; exact currency
    · simp [Payment.rowAmounts, ha, hr]
    · simp
    · simp [Payment.rowTotal, Payment.rowAmounts, ha, hr]
    · simp
  | allocates row c fits confirmed =>
    have hle := fits.ceiling c confirmed
    constructor
    · simp only [confirmed, Option.isSome_some]
      split_ifs <;> rfl
    · exact hs.confirmedCurrency
    · obtain ⟨hallocations, hrefunds⟩ := List.forall_mem_append.mp hs.rowCurrency
      simp only [Payment.rowAmounts, List.map_append, List.map_cons, List.map_nil,
        List.forall_mem_append, List.forall_mem_singleton]
      exact ⟨⟨hallocations, fits.currency⟩, hrefunds⟩
    · intro hnone; rw [confirmed] at hnone; cases hnone
    · intro c' hc'
      rw [rowTotal_allocate]
      exact fits.ceiling c' hc'
    · intro hstate c' hc'
      rw [rowTotal_allocate]
      obtain rfl : c' = c := Option.some.inj (hc'.symm.trans confirmed)
      -- the state is allocated only in the branch where nothing remains
      split_ifs at hstate with h0
      omega
  | refunds row fits =>
    obtain ⟨c, hc⟩ := hs.exists_confirmed fits.landed
    have hle := fits.ceiling c hc
    constructor
    · exact hs.landed
    · exact hs.confirmedCurrency
    · obtain ⟨hallocations, hrefunds⟩ := List.forall_mem_append.mp hs.rowCurrency
      simp only [Payment.rowAmounts, List.map_append, List.map_cons, List.map_nil,
        List.forall_mem_append, List.forall_mem_singleton]
      exact ⟨hallocations, hrefunds, fits.currency⟩
    · intro hnone; rw [hc] at hnone; cases hnone
    · intro c' hc'
      rw [rowTotal_refund]
      exact fits.ceiling c' hc'
    · -- an allocated payment has nothing left for a positive refund
      intro hstate c' hc'
      have hfull := hs.allocated hstate c hc
      have := fits.positive
      omega

lemma sound_createPayment (cmd : IntakeCommand) (ref key : String) (refs : List String)
    (clock : Clock) : Sound (createPayment cmd ref key refs clock).payment := by
  constructor <;> simp [createPayment, Payment.rowAmounts, PaymentState.landed, CONFIRMED_FAMILY]

/-! ## The pot of funds -/

/-- The pot of funds a payment stands for: not open before the confirmation, then of the confirmed
capacity with the rows drawn. -/
def Payment.fund (p : Payment) : Option Pot :=
  p.confirmedMinor.bind fun c =>
    if h : p.rowTotal ≤ c.amount then some ⟨c.amount, p.rowTotal, h⟩ else none

lemma fund_of_none (h : p.confirmedMinor = none) : p.fund = none := by
  simp [Payment.fund, h]

lemma fund_of_some (hc : p.confirmedMinor = some c) (h : p.rowTotal ≤ c.amount) :
    p.fund = some ⟨c.amount, p.rowTotal, h⟩ := by
  simp [Payment.fund, hc, h]

/-- How a payment is related to its later versions: its pot has only been opened and drawn from,
its rows have only been appended to, and its currency is the same. -/
structure Grows (p p' : Payment) : Prop where
  fund : Relation.ReflTransGen Pot.Step p.fund p'.fund
  allocations : p.allocations <+: p'.allocations
  refunds : p.refunds <+: p'.refunds
  currency : p'.currency = p.currency

lemma Grows.refl (p : Payment) : Grows p p :=
  ⟨.refl, List.prefix_rfl, List.prefix_rfl, rfl⟩

lemma Grows.trans {q r : Payment} (h : Grows p q) (h' : Grows q r) : Grows p r :=
  ⟨h.fund.trans h'.fund, h.allocations.trans h'.allocations, h.refunds.trans h'.refunds,
    h'.currency.trans h.currency⟩

lemma pot_step_of_fits (hs : Sound p) (fits : Fits p amount)
    (hconf : p'.confirmedMinor = p.confirmedMinor)
    (htotal : p'.rowTotal = p.rowTotal + amount.amount) : Pot.Step p.fund p'.fund := by
  obtain ⟨c, hc⟩ := hs.exists_confirmed fits.landed
  have hle := fits.ceiling c hc
  have hle' : p'.rowTotal ≤ c.amount := by omega
  have hdraw : p'.fund =
      some (Pot.draw ⟨c.amount, p.rowTotal, hs.ceiling c hc⟩ amount.amount hle) := by
    rw [fund_of_some (hconf.trans hc) hle', Option.some.injEq]
    exact Pot.ext rfl htotal
  rw [fund_of_some hc (hs.ceiling c hc), hdraw]
  exact .draws _ _ _

/-- One step of the machine is at most one step of the pot. -/
theorem grows_of_effect (hs : Sound p) (h : Effect p p') : Grows p p' := by
  cases h with
  | stays => exact .refl p
  | moves same landed open_ =>
    have hfund : p'.fund = p.fund := by simp [Payment.fund, same.confirmed, same.rowTotal]
    refine ⟨by rw [hfund], ?_, ?_, same.currency⟩
    · simp [same.allocations, List.prefix_rfl]
    · simp [same.refunds, List.prefix_rfl]
  | lands amount at_ currency pending =>
    refine ⟨.single ?_, List.prefix_rfl, List.prefix_rfl, rfl⟩
    obtain ⟨hnone, ha, hr⟩ := hs.of_pending pending
    have hzero : Payment.rowTotal { p with
        state := .confirmed, confirmedMinor := some amount, confirmedAt := some at_ } = 0 := by
      simp [Payment.rowTotal, Payment.rowAmounts, ha, hr]
    have hopen : Payment.fund { p with
        state := .confirmed, confirmedMinor := some amount, confirmedAt := some at_ } =
          some (Pot.opened amount.amount) := by
      rw [fund_of_some rfl (hzero ▸ Nat.zero_le _), Option.some.injEq]
      exact Pot.ext rfl hzero
    rw [fund_of_none hnone, hopen]
    exact .opens amount.amount
  | allocates row c fits confirmed =>
    exact ⟨.single (pot_step_of_fits hs fits rfl (rowTotal_allocate ..)), List.prefix_append _ _,
      List.prefix_rfl, rfl⟩
  | refunds row fits =>
    exact ⟨.single (pot_step_of_fits hs fits rfl (rowTotal_refund ..)), List.prefix_rfl,
      List.prefix_append _ _, rfl⟩

/-! ## Runs -/

lemma sound_run (hs : Sound p) (cmds : List Command) : Sound (run step p cmds) :=
  run_invariant_all (fun _ _ _ hs h => sound_of_effect hs (effect_of_step h)) cmds p hs

lemma grows_run (hs : Sound p) (cmds : List Command) : Grows p (run step p cmds) :=
  run_rel_all Grows.refl (fun _ _ _ => Grows.trans)
    (fun _ _ _ hs h => sound_of_effect hs (effect_of_step h))
    (fun _ _ _ hs h => grows_of_effect hs (effect_of_step h)) cmds p hs

lemma Grows.confirmed (h : Grows p p') (hs : Sound p) (hs' : Sound p')
    (hc : p.confirmedMinor = some c) : p'.confirmedMinor = some c := by
  have hsteps := h.fund
  rw [fund_of_some hc (hs.ceiling c hc)] at hsteps
  obtain ⟨q, hq, hcap, -⟩ := Pot.capacity_of_steps hsteps
  cases hc' : p'.confirmedMinor with
  | none => rw [fund_of_none hc'] at hq; cases hq
  | some c' =>
    rw [fund_of_some hc' (hs'.ceiling c' hc'), Option.some.injEq] at hq
    have hamount : c'.amount = c.amount := by rw [← hq] at hcap; exact hcap
    have hcurrency : c'.currency = c.currency := by
      rw [hs'.confirmedCurrency c' hc', hs.confirmedCurrency c hc, h.currency]
    rw [Money.ext hamount hcurrency]

lemma Sound.committedOf (hs : Sound p) :
    committedOf p = .ok ⟨p.rowTotal, p.currency⟩ :=
  Money.sumOf_eq_ok.mpr ⟨hs.rowCurrency, rfl⟩

lemma Sound.unappliedMinorOf (hs : Sound p) (hc : p.confirmedMinor = some c) :
    unappliedMinorOf p = .ok ⟨c.amount - p.rowTotal, p.currency⟩ := by
  have hcur := hs.confirmedCurrency c hc
  have hle := hs.ceiling c hc
  obtain ⟨d, hcmp⟩ := Money.exists_compareTo (a := ⟨p.rowTotal, p.currency⟩) (b := c) hcur.symm
  simp only [Payments.unappliedMinorOf, hc, hs.committedOf, hcmp, bind, Except.bind]
  split_ifs with hnonneg
  · rw [Money.compareTo_nonneg hcmp] at hnonneg
    simp only at hnonneg
    rw [pure_eq_ok]
    exact Money.ext (by simp only [Money.zero]; omega) rfl
  · rw [Money.subtract_eq_ok]
    exact ⟨hcur, hle, by rw [hcur]⟩

lemma terminal_refuses (h : p.state = .failed ∨ p.state = .reversed) {c : Command}
    (hc : c.movesMoney = true) : step p c = none := by
  have hterm : isTerminal p = true := by
    rcases h with h | h <;> simp [isTerminal, TERMINAL_STATES, h]
  rw [Option.eq_none_iff_forall_ne_some]
  intro p' hstep
  obtain ⟨r, hr, -⟩ := map_toOption_eq_some.mp hstep
  cases c with
  | awaitConfirmation | fail code clock => cases hc
  | confirm _ _ | reverse _ _ | identify _ | allocate _ _ | refund _ _ =>
    simp [apply, confirmPayment, reversePayment, identifyPayment, recordAllocationReservation,
      recordRefundReservation, bind_eq_ok, assertNotTerminal_eq_ok, hterm] at hr

/-- **Funds are conserved along every run** from a payment that an intake created. The rows never
sum above the confirmed amount, which is the unapplied balance plus what is committed (both zero
before the confirmation), an allocated payment has nothing unapplied, and a failed or reversed
payment refuses every command that moves money. From any point to a later one the confirmed amount,
once set, has not changed and the rows have only been appended to.

**Proof sketch.** `Sound` holds at both points (`sound_run`), and the pot of the later one is the
same pot, drawn from (`grows_run`). -/
theorem run_conserves_funds (cmd : IntakeCommand) (ctx : IntakeContext) (created : IntakeResult)
    (hcreated : intakePayment cmd ctx = .ok created) (hnew : created.duplicate = false)
    (cmds later : List Command) :
    let p := run step created.payment cmds
    let q := run step p later
    (∀ c, p.confirmedMinor = some c → q.confirmedMinor = some c) ∧
      p.allocations <+: q.allocations ∧ p.refunds <+: q.refunds ∧
      (∃ committed unapplied,
        committedOf p = .ok committed ∧ unappliedMinorOf p = .ok unapplied ∧
        committed.amount = (p.allocations.map (·.amount.amount)).sum +
          (p.refunds.map (·.amount.amount)).sum ∧
        (p.confirmedMinor = none → committed.amount = 0 ∧ unapplied.amount = 0) ∧
        (∀ c, p.confirmedMinor = some c →
          committed.amount ≤ c.amount ∧ c.amount = unapplied.amount + committed.amount) ∧
        (p.state = .allocated → unapplied.amount = 0)) ∧
      (p.state = .failed ∨ p.state = .reversed →
        ∀ c : Command, c.movesMoney = true → step p c = none) := by
  intro p q
  obtain ⟨refs, rfl⟩ := intakePayment_created hcreated hnew
  have hp : Sound p := sound_run (sound_createPayment _ _ _ refs _) cmds
  have hq : Sound q := sound_run hp later
  have hgrows : Grows p q := grows_run hp later
  have htotal : p.rowTotal = (p.allocations.map (·.amount.amount)).sum +
      (p.refunds.map (·.amount.amount)).sum := by
    simp [Payment.rowTotal, Payment.rowAmounts, Function.comp_def]
  refine ⟨fun c hc => hgrows.confirmed hp hq hc, hgrows.allocations, hgrows.refunds, ?_,
    fun hterm c hc => terminal_refuses hterm hc⟩
  cases hconf : p.confirmedMinor with
  | none =>
    obtain ⟨ha, hr⟩ := hp.unconfirmed hconf
    refine ⟨_, Money.zero p.currency, hp.committedOf, by simp [unappliedMinorOf, hconf], htotal,
      ?_, by simp, fun _ => rfl⟩
    simp [Payment.rowTotal, Payment.rowAmounts, ha, hr, Money.zero]
  | some c =>
    have hle := hp.ceiling c hconf
    refine ⟨_, _, hp.committedOf, hp.unappliedMinorOf hconf, htotal, by simp, ?_, ?_⟩
    · rintro _ ⟨⟩
      exact ⟨hle, by simp only; omega⟩
    · intro hall
      have hfull := hp.allocated hall c hconf
      simp only
      omega

/-- A till payment of 100.00 KES, confirmed, drawn by one allocation and one refund. -/
theorem run_conserves_funds_drawn :
    let clock : Clock := ⟨fun _ => .ofTime 0⟩
    let cmd : IntakeCommand := ⟨.c2b, "QGR7TI9", "till-1", ⟨10000, .KES⟩, none, [], some "p-1"⟩
    let created := createPayment cmd "QGR7TI9" "till-1" [] clock
    let cmds : List Command :=
      [.awaitConfirmation, .confirm ⟨10000, .KES⟩ clock,
        .refund ⟨⟨2500, .KES⟩, "overpaid", some "r-1"⟩ clock,
        .allocate ⟨"inv-1", ⟨7500, .KES⟩, some "a-1"⟩ clock]
    let p := run step created.payment cmds
    intakePayment cmd ⟨clock, []⟩ = .ok created ∧ p.state = .allocated ∧
      p.confirmedMinor = some ⟨10000, .KES⟩ ∧
      ∃ committed unapplied, committedOf p = .ok committed ∧ unappliedMinorOf p = .ok unapplied ∧
        committed.amount ≤ 10000 ∧ unapplied.amount = 0 := by
  intro clock cmd created cmds p
  have hcreated : intakePayment cmd ⟨clock, []⟩ = .ok created := by decide
  have hstate : p.state = .allocated := by decide
  have hconf : p.confirmedMinor = some ⟨10000, .KES⟩ := by decide
  obtain ⟨-, -, -, ⟨committed, unapplied, hcommitted, hunapplied, -, -, hle, hfull⟩, -⟩ :=
    run_conserves_funds cmd ⟨clock, []⟩ created hcreated rfl cmds []
  exact ⟨hcreated, hstate, hconf, committed, unapplied, hcommitted, hunapplied,
    (hle _ hconf).1, hfull hstate⟩

/-! ## Reversals -/

/-- No reversal that passes its checks meets a payment with refund rows. -/
def Unrefunded (p : Payment) : Command → Prop
  | .reverse reason _ => trim reason ≠ "" → p.state = .confirmed → p.refunds = []
  | _ => True

/-- A payment that is confirmed or reversed has no allocations, and a refund row is never empty. -/
structure Backed (p : Payment) : Prop where
  sound : Sound p
  unallocated : p.state = .confirmed ∨ p.state = .reversed → p.allocations = []
  positive : ∀ row ∈ p.refunds, 0 < row.amount.amount

lemma reversePayment_eq_ok :
    reversePayment p reason clock = .ok r ↔ trim reason ≠ "" ∧ p.state = .confirmed ∧
      r = ⟨{ p with
          state := .reversed, reversedAt := some (clock.now 0), reversalReason := some (trim reason)
        }, [paymentReversedEvent p.id (trim reason) p.id (clock.now 1)]⟩ := by
  simp only [reversePayment, ok_iff, not_not, assertNotTerminal_eq_ok, exists_const]
  constructor
  · rintro ⟨hwhy, -, hstate, rfl⟩
    exact ⟨hwhy, hstate, rfl⟩
  · rintro ⟨hwhy, hstate, rfl⟩
    exact ⟨hwhy, by simp [isTerminal, TERMINAL_STATES, hstate], hstate, rfl⟩

lemma backed_of_step {c : Command} (hp : Backed p) (h : step p c = some p') : Backed p' := by
  refine ⟨sound_of_effect hp.sound (effect_of_step h), ?_, ?_⟩
  · rcases (step_cases h).2 with ⟨reason, clock, rfl⟩ | rfl | ⟨hrev, hconf⟩
    · simp only [step, apply, map_toOption_eq_some, reversePayment_eq_ok] at h
      obtain ⟨_, ⟨-, hstate, rfl⟩, rfl⟩ := h
      exact fun _ => hp.unallocated (.inl hstate)
    · exact hp.unallocated
    · intro hstate
      obtain ⟨hpending | hbefore, ha⟩ := hconf (hstate.resolve_right hrev)
      · rw [ha, (hp.sound.of_pending hpending).2.1]
      · rw [ha, hp.unallocated (.inl hbefore)]
  · cases effect_of_step h with
    | stays | lands _ _ _ _ | allocates _ _ _ _ => exact hp.positive
    | moves same _ _ => rw [same.refunds]; exact hp.positive
    | refunds row fits =>
      exact Lists.forall_mem_concat hp.positive fits.positive

lemma unrefunded_of_step {c : Command} (hp : p.state = .reversed → p.refunds = [])
    (h : step p c = some p') (hc : Unrefunded p c) : p'.state = .reversed → p'.refunds = [] := by
  rcases (step_cases h).2 with ⟨reason, clock, rfl⟩ | rfl | ⟨hrev, -⟩
  · simp only [step, apply, map_toOption_eq_some, reversePayment_eq_ok] at h
    obtain ⟨_, ⟨hwhy, hstate, rfl⟩, rfl⟩ := h
    exact fun _ => hc hwhy hstate
  · exact hp
  · exact fun hstate => absurd hstate hrev

/-- **What a reversed payment carries.** In every run from a payment that an intake created, a
reversed payment has no allocations. Its rows sum to zero whenever it is reversed exactly when no
reversal of the run meets a payment with refund rows.

**Proof sketch.** An allocation changes the confirmed state, a refund does not, so the payment that
a reversal meets has refunds at most. -/
theorem reversed_uncommitted_iff (cmd : IntakeCommand) (ctx : IntakeContext)
    (created : IntakeResult) (hcreated : intakePayment cmd ctx = .ok created)
    (hnew : created.duplicate = false) (cmds : List Command) :
    (∀ k, (run step created.payment (cmds.take k)).state = .reversed →
      (run step created.payment (cmds.take k)).allocations = []) ∧
    ((∀ k, (run step created.payment (cmds.take k)).state = .reversed →
      ((run step created.payment (cmds.take k)).allocations.map (·.amount.amount)).sum +
        ((run step created.payment (cmds.take k)).refunds.map (·.amount.amount)).sum = 0) ↔
      Meets step Unrefunded created.payment cmds) := by
  obtain ⟨refs, rfl⟩ := intakePayment_created hcreated hnew
  have hbacked : Backed (createPayment cmd (trim cmd.externalRef) (trim cmd.idempotencyKey) refs
      ctx.clock).payment := by
    refine ⟨sound_createPayment _ _ _ refs _, ?_, ?_⟩ <;> simp [createPayment]
  refine ⟨fun k hrev => ?_, ?_⟩
  · exact (run_invariant_all (fun _ _ _ hp h => backed_of_step hp h) (cmds.take k) _
      hbacked).unallocated (.inr hrev)
  refine forall_run_iff_meets (I := fun p => Backed p ∧ (p.state = .reversed → p.refunds = []))
    (P := fun p => p.state = .reversed →
      (p.allocations.map (·.amount.amount)).sum + (p.refunds.map (·.amount.amount)).sum = 0)
    ?_ (fun p c p' hp h hc => ⟨backed_of_step hp.1 h, unrefunded_of_step hp.2 h hc⟩) ?_ ?_ cmds _
    ⟨hbacked, by simp [createPayment]⟩
  · intro p hp hrev
    simp [hp.1.unallocated (.inr hrev), hp.2 hrev]
  · intro p c p' hp h hzero
    cases c with
    | reverse reason clock =>
      intro hwhy hstate
      simp only [step, apply, map_toOption_eq_some, reversePayment_eq_ok] at h
      obtain ⟨_, ⟨-, -, rfl⟩, rfl⟩ := h
      have hsum := (Nat.add_eq_zero_iff.mp (hzero rfl)).2
      rw [List.sum_eq_zero_iff] at hsum
      refine List.eq_nil_iff_forall_not_mem.mpr fun row hrow => ?_
      have hpos := hp.1.positive row hrow
      have := hsum _ (List.mem_map_of_mem hrow)
      omega
    | _ => trivial
  · intro p c h
    cases c with
    | reverse reason clock =>
      intro hwhy hstate
      have hok : reversePayment p reason clock = .ok _ :=
        reversePayment_eq_ok.mpr ⟨hwhy, hstate, rfl⟩
      rw [step, apply, hok] at h
      cases h
    | _ => trivial

/-- A payment of 100.00 KES is confirmed and reversed without a refund. -/
theorem reversed_uncommitted_plain :
    let clock : Clock := ⟨fun _ => .ofTime 0⟩
    let cmd : IntakeCommand := ⟨.c2b, "QGR7TI9", "till-1", ⟨10000, .KES⟩, none, [], some "p-1"⟩
    let created := createPayment cmd "QGR7TI9" "till-1" [] clock
    let cmds : List Command :=
      [.awaitConfirmation, .confirm ⟨10000, .KES⟩ clock, .reverse "duplicate" clock]
    intakePayment cmd ⟨clock, []⟩ = .ok created ∧
      (run step created.payment cmds).state = .reversed ∧
      Meets step Unrefunded created.payment cmds := by
  intro clock cmd created cmds
  have hcreated : intakePayment cmd ⟨clock, []⟩ = .ok created := by decide
  refine ⟨hcreated, by decide, ?_⟩
  refine (reversed_uncommitted_iff cmd ⟨clock, []⟩ created hcreated rfl cmds).2.mp fun k hrev => ?_
  rcases Nat.lt_or_ge k 3 with hk | hk
  · interval_cases k <;> revert hrev <;> decide
  · rw [List.take_of_length_le (by simpa [cmds] using hk)]
    decide

/-- A payment of 100.00 KES is confirmed, 25.00 of it are reserved for a refund, and it is reversed:
the refund row stands. -/
theorem reversed_with_refund :
    let clock : Clock := ⟨fun _ => .ofTime 0⟩
    let cmd : IntakeCommand := ⟨.c2b, "QGR7TI9", "till-1", ⟨10000, .KES⟩, none, [], some "p-1"⟩
    let created := createPayment cmd "QGR7TI9" "till-1" [] clock
    let p := run step created.payment
      [.awaitConfirmation, .confirm ⟨10000, .KES⟩ clock,
        .refund ⟨⟨2500, .KES⟩, "overpaid", some "r-1"⟩ clock, .reverse "duplicate" clock]
    intakePayment cmd ⟨clock, []⟩ = .ok created ∧ created.duplicate = false ∧ p.state = .reversed ∧
      (p.allocations.map (·.amount.amount)).sum + (p.refunds.map (·.amount.amount)).sum = 2500 := by
  decide

end Fuatilia.Payments
