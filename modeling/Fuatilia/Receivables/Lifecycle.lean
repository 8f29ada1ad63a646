import Fuatilia.Foundations.Machine
import Fuatilia.Receivables.Receivable

/-!
# Runs of commands on a receivable

The commands on an opened receivable as a machine.

## Main definitions

* `Effect`, `Sound` — the six things a command can do, and the invariant, which ties every state to
  an arithmetic fact about what has been applied.

## Main results

* `run_keeps_position`, `flagLive_run_iff` — the debt position and the overdue flag along every run.
-/

namespace Fuatilia.Receivables

open Fallible Machine

/-! ## The machine -/

inductive Command where
  | applyAllocation (amount : Money) (clock : Clock)
  | markOverdue (clock : Clock)
  | writeOff (reason approvedBy : String) (clock : Clock)
  | markUncollectible (reason : String) (clock : Clock)
  | voidReceivable (clock : Clock)

def apply (r : Receivable) : Command → Except Thrown CommandResult
  | .applyAllocation amount clock => Receivables.applyAllocation r amount clock
  | .markOverdue clock => Receivables.markOverdue r clock
  | .writeOff reason approvedBy clock => Receivables.writeOff r reason approvedBy clock
  | .markUncollectible reason clock => Receivables.markUncollectible r reason clock
  | .voidReceivable clock => Receivables.voidReceivable r clock

def step (r : Receivable) (c : Command) : Option Receivable :=
  (apply r c).toOption.map (·.receivable)

def Command.allocated : Command → ℕ
  | .applyAllocation amount _ => amount.amount
  | _ => 0

/-! ## What an accepted command does -/

/-- What an accepted command does to a receivable: it pays a part of a live debt, settles it or
recovers a written-off one, flags it, closes it without payment, or voids it untouched. -/
inductive Effect (r : Receivable) : Command → Receivable → Prop
  | pays (amount : Money) (clock : Clock) (live : isLive r = true) (positive : 0 < amount.amount)
      (part : r.applied.amount + amount.amount < r.original.amount) :
      Effect r (.applyAllocation amount clock) { r with
        applied := ⟨r.applied.amount + amount.amount, r.applied.currency⟩, state := .partiallyPaid }
  | settles (amount : Money) (clock : Clock) (live : isLive r = true)
      (full : r.applied.amount + amount.amount = r.original.amount)
      (currency : r.original.currency = r.applied.currency) :
      Effect r (.applyAllocation amount clock) { r with
        applied := ⟨r.applied.amount + amount.amount, r.applied.currency⟩
        state := .settled, overdue := false, settledAt := some (clock.now 0) }
  | recovers (amount : Money) (clock : Clock) (writtenOff : r.state = .writtenOff)
      (within : r.applied.amount + amount.amount ≤ r.original.amount) :
      Effect r (.applyAllocation amount clock) { r with
        applied := ⟨r.applied.amount + amount.amount, r.applied.currency⟩
        state := .recovered, recoveredAt := some (clock.now 0) }
  | flags (clock : Clock) (live : isLive r = true) :
      Effect r (.markOverdue clock) { r with overdue := true }
  | closes {c : Command} {r' : Receivable} (none : c.allocated = 0) (live : isLive r = true)
      (original : r'.original = r.original) (applied : r'.applied = r.applied)
      (state : r'.state = .writtenOff ∨ r'.state = .uncollectible) : Effect r c r'
  | voids (clock : Clock) (opened : r.state = .opened) :
      Effect r (.voidReceivable clock) { r with
        state := .voided, overdue := false, voidedAt := some (clock.now 0) }

variable {amount balance : Money} {r r' : Receivable} {clock : Clock} {c : Command} {id : Uuid}
  {invoice : Invoice}

lemma assertWithinBalance_eq_ok {u : Unit} :
    assertWithinBalance amount balance = .ok u ↔
      amount.currency = balance.currency ∧ amount.amount ≤ balance.amount := by
  simp only [assertWithinBalance, bind_eq_ok, throwIf_eq_ok]
  constructor
  · rintro ⟨c, hcmp, hc⟩
    rw [Money.compareTo_pos hcmp] at hc
    exact ⟨(Money.compareTo_eq_ok.mp hcmp).1, by omega⟩
  · rintro ⟨hcur, hle⟩
    obtain ⟨c, hcmp⟩ := Money.exists_compareTo hcur
    refine ⟨c, hcmp, ?_⟩
    rw [Money.compareTo_pos hcmp]
    omega

lemma balanceOf_eq_ok {b : Money} :
    balanceOf r = .ok b ↔ r.original.currency = r.applied.currency ∧
      r.applied.amount ≤ r.original.amount ∧
        b = ⟨r.original.amount - r.applied.amount, r.original.currency⟩ :=
  Money.subtract_eq_ok

variable {res : CommandResult} {reason : String} {draft : Receivable}

lemma recover_effect (hbal : balanceOf r = .ok balance)
    (hstate : r.state = .writtenOff) (h : recover r amount balance clock = .ok res) :
    Effect r (.applyAllocation amount clock) res.receivable := by
  obtain ⟨-, hle, rfl⟩ := balanceOf_eq_ok.mp hbal
  simp only [recover, ok_iff, assertWithinBalance_eq_ok, exists_const, Money.add_eq_ok] at h
  obtain ⟨⟨-, hwithin⟩, _, ⟨-, rfl⟩, _, -, _, -, rfl⟩ := h
  exact .recovers amount clock hstate (by omega)

lemma pay_effect (hpos : 0 < amount.amount) (hbal : balanceOf r = .ok balance)
    (hlive : isLive r = true) (h : pay r amount balance clock = .ok res) :
    Effect r (.applyAllocation amount clock) res.receivable := by
  obtain ⟨hcur, hle, rfl⟩ := balanceOf_eq_ok.mp hbal
  simp only [pay, bind_eq_ok, assertWithinBalance_eq_ok, exists_const, Money.add_eq_ok,
    Money.equals_eq_ok] at h
  obtain ⟨⟨-, hwithin⟩, _, ⟨-, rfl⟩, _, ⟨-, rfl⟩, h⟩ := h
  split at h
  · rename_i hfull
    simp only [ok_iff] at h
    obtain ⟨_, -, _, -, rfl⟩ := h
    exact .settles amount clock hlive (of_decide_eq_true hfull) hcur
  · rename_i hpart
    simp only [decide_eq_true_eq] at hpart
    simp only [ok_iff] at h
    obtain ⟨_, -, _, -, _, -, _, -, rfl⟩ := h
    exact .pays amount clock hlive hpos (by omega)

lemma applyAllocation_effect (h : applyAllocation r amount clock = .ok res) :
    Effect r (.applyAllocation amount clock) res.receivable := by
  simp only [applyAllocation, ok_iff] at h
  obtain ⟨-, hpos, balance, hbal, h⟩ := h
  split at h
  · rename_i hstate
    exact recover_effect hbal hstate h
  · simp only [ok_iff] at h
    exact pay_effect (by simpa [Money.isPositive, Nat.pos_iff_ne_zero] using hpos) hbal
      (by simpa using h.1) h.2

lemma markOverdue_effect (h : markOverdue r clock = .ok res) :
    Effect r (.markOverdue clock) res.receivable := by
  simp only [markOverdue, ok_iff] at h
  obtain ⟨hlive, -, -, _, -, _, -, rfl⟩ := h
  exact .flags clock (by simpa using hlive)

lemma writeOff_effect {approvedBy : String} (h : writeOff r reason approvedBy clock = .ok res) :
    Effect r (.writeOff reason approvedBy clock) res.receivable := by
  simp only [writeOff, ok_iff] at h
  obtain ⟨-, -, hlive, -, _, -, rfl⟩ := h
  exact .closes rfl (by simpa using hlive) rfl rfl (.inl rfl)

lemma markUncollectible_effect (h : markUncollectible r reason clock = .ok res) :
    Effect r (.markUncollectible reason clock) res.receivable := by
  simp only [markUncollectible, ok_iff] at h
  obtain ⟨-, hlive, -, rfl⟩ := h
  exact .closes rfl (by simpa using hlive) rfl rfl (.inr rfl)

lemma voidReceivable_effect (h : voidReceivable r clock = .ok res) :
    Effect r (.voidReceivable clock) res.receivable := by
  simp only [voidReceivable, ok_iff, not_not] at h
  obtain ⟨-, hstate, -, rfl⟩ := h
  exact .voids clock hstate

theorem effect_of_step (h : step r c = some r') :
    Effect r c r' := by
  obtain ⟨res, hres, rfl⟩ := map_toOption_eq_some.mp h
  cases c with
  | applyAllocation amount clock => exact applyAllocation_effect hres
  | markOverdue clock => exact markOverdue_effect hres
  | writeOff reason approvedBy clock => exact writeOff_effect hres
  | markUncollectible reason clock => exact markUncollectible_effect hres
  | voidReceivable clock => exact voidReceivable_effect hres

/-! ## The invariant -/

def ReceivableState.unpaid (s : ReceivableState) : Bool :=
  s == .opened || s == .partiallyPaid || s == .writtenOff || s == .uncollectible

/-- The invariant of an opened receivable: what each state says about the amount applied. -/
structure Sound (r : Receivable) : Prop where
  within : r.applied.amount ≤ r.original.amount
  notDraft : r.state ≠ .draft
  opened : r.state = .opened → r.applied.amount = 0
  partiallyPaid : r.state = .partiallyPaid → 0 < r.applied.amount
  unpaid : r.state.unpaid = true → r.applied.amount < r.original.amount
  settled : r.state = .settled →
    r.applied.amount = r.original.amount ∧ r.original.currency = r.applied.currency

lemma unpaid_of_live (h : isLive r = true) : r.state.unpaid = true := by
  simp only [isLive, Bool.or_eq_true] at h
  simp only [ReceivableState.unpaid, Bool.or_eq_true]
  exact .inl (.inl h)

theorem sound_of_effect (hs : Sound r) (h : Effect r c r') :
    Sound r' := by
  cases h with
  | pays amount clock live positive part =>
    constructor <;> simp [ReceivableState.unpaid] <;> omega
  | settles amount clock live full currency =>
    constructor <;> simp [ReceivableState.unpaid, full, currency]
  | recovers amount clock writtenOff within =>
    constructor <;> simp [ReceivableState.unpaid, within]
  | flags clock live => exact ⟨hs.within, hs.notDraft, hs.opened, hs.partiallyPaid, hs.unpaid,
      hs.settled⟩
  | closes none live original applied state =>
    have hlt := hs.unpaid (unpaid_of_live live)
    rw [← original, ← applied] at hlt
    rcases state with hstate | hstate <;>
      constructor <;> simp [hstate, hlt, Nat.le_of_lt hlt]
  | voids clock opened =>
    have hzero := hs.opened opened
    constructor <;> simp [ReceivableState.unpaid, hzero]

lemma applied_of_effect (h : Effect r c r') :
    r'.applied.amount = r.applied.amount + c.allocated ∧ r'.original = r.original := by
  cases h with
  | pays amount clock live positive part | settles amount clock live full currency
  | recovers amount clock writtenOff within | flags clock live | voids clock opened =>
    exact ⟨rfl, rfl⟩
  | closes none live original applied state => exact ⟨by rw [applied, none]; rfl, original⟩

/-! ## Opening -/

lemma draftReceivableFor_applied {invoice' : Invoice}
    (h : draftReceivableFor invoice id = .ok (invoice', draft)) : draft.applied.amount = 0 := by
  simp only [draftReceivableFor, ok_iff, Prod.mk.injEq] at h
  obtain ⟨-, -, -, rfl⟩ := h
  rfl

lemma openDraft_original {openedAt : Date} (h : openDraft invoice id draft openedAt = .ok r) :
    r = { draft with state := .opened, openedAt := some openedAt } ∧
      draft.original.amount = invoice.total.amount := by
  simp only [openDraft, ok_iff] at h
  obtain ⟨-, -, -, differs, hdiffers, hsame, -, rfl⟩ := h
  refine ⟨rfl, ?_⟩
  unfold draftDiffers at hdiffers
  split at hdiffers
  · rw [pure_eq_ok.mp hdiffers] at hsame
    exact absurd rfl hsame
  · simp only [ok_iff, Money.equals_eq_ok] at hdiffers
    obtain ⟨same, ⟨-, rfl⟩, rfl⟩ := hdiffers
    by_contra hne
    simp [hne] at hsame

lemma sound_of_open {draft : Option Receivable} {res : OpenResult}
    (h : openReceivable invoice id clock draft = .ok res)
    (hdraft : ∀ d, draft = some d → d.applied.amount = 0) :
    Sound res.receivable ∧ res.receivable.applied.amount = 0 := by
  simp only [openReceivable, ok_iff] at h
  obtain ⟨-, htotal, r, hr, _, -, _, -, _, -, rfl⟩ := h
  have hfacts : r.state = .opened ∧ r.applied.amount = 0 ∧
      r.original.amount = invoice.total.amount := by
    cases draft with
    | none =>
      simp only [Option.elim, openFresh, ok_iff] at hr
      obtain ⟨-, rfl⟩ := hr
      exact ⟨rfl, rfl, rfl⟩
    | some d =>
      obtain ⟨rfl, horig⟩ := openDraft_original hr
      exact ⟨rfl, hdraft d rfl, horig⟩
  obtain ⟨hstate, hzero, horig⟩ := hfacts
  have hpos : 0 < r.original.amount := by
    simpa [Money.isPositive, horig, Nat.pos_iff_ne_zero] using htotal
  refine ⟨?_, hzero⟩
  constructor <;> simp [hstate, hzero, hpos]

/-! ## Runs -/

lemma sound_run (hs : Sound r) (cmds : List Command) :
    Sound (run step r cmds) :=
  run_invariant_all (fun _ _ _ hs h => sound_of_effect hs (effect_of_step h)) cmds r hs

lemma applied_run (r : Receivable) (cmds : List Command) :
    (run step r cmds).applied.amount =
      r.applied.amount + ((accepted step r cmds).map Command.allocated).sum := by
  have hone : ∀ s c s', True → step s c = some s' →
      s'.applied.amount = s.applied.amount + c.allocated :=
    fun _ _ _ _ h => (applied_of_effect (effect_of_step h)).1
  exact run_measure (fun _ _ _ _ _ => trivial) hone cmds r trivial

lemma original_run (r : Receivable) (cmds : List Command) :
    (run step r cmds).original = r.original :=
  run_rel_all (I := fun _ => True) (R := fun a b : Receivable => b.original = a.original)
    (fun _ => rfl) (fun _ _ _ h h' => h'.trans h) (fun _ _ _ _ _ => trivial)
    (fun _ _ _ _ h => (applied_of_effect (effect_of_step h)).2) cmds r trivial

/-- A debt that is not live takes the recovery of a written-off one only. -/
lemma live_or_recovers (h : step r c = some r') : isLive r = true ∨ r.state = .writtenOff ∧
    (∃ amount clock, c = .applyAllocation amount clock) ∧ r'.state = .recovered := by
  cases effect_of_step h with
  | recovers amount clock writtenOff within => exact .inr ⟨writtenOff, ⟨amount, clock, rfl⟩, rfl⟩
  | voids clock opened => exact .inl (by simp [isLive, opened])
  | _ => exact .inl ‹_›

lemma recovers_of_writtenOff (hstate : r.state = .writtenOff) (h : step r c = some r') :
    (∃ amount clock, c = .applyAllocation amount clock) ∧ r'.state = .recovered := by
  rcases live_or_recovers h with hlive | ⟨-, hrecovers⟩
  · simp [isLive, hstate] at hlive
  · exact hrecovers

def ReceivableState.final (s : ReceivableState) : Bool :=
  s == .settled || s == .recovered || s == .uncollectible || s == .voided

lemma refuses_of_final (hfinal : r.state.final = true) (c : Command) :
    step r c = none := by
  rw [Option.eq_none_iff_forall_ne_some]
  intro r' h
  have hdead : ¬ isLive r = true ∧ r.state ≠ .writtenOff := by
    unfold isLive
    revert hfinal
    cases r.state <;> decide
  rcases live_or_recovers h with hlive | ⟨hoff, -⟩
  · exact hdead.1 hlive
  · exact hdead.2 hoff

lemma accepted_of_writtenOff (hstate : r.state = .writtenOff) (cmds : List Command) :
    (accepted step r cmds).length ≤ 1 := by
  induction cmds with
  | nil => simp [accepted]
  | cons c cmds ih =>
    cases hc : step r c with
    | none => simpa [accepted, hc, next_of_none hc] using ih
    | some r' =>
      have hrec := (recovers_of_writtenOff hstate hc).2
      have hstop := run_of_refuses (refuses_of_final (r := r') (by rw [hrec]; rfl)) cmds
      simp [accepted, hc, next_of_some hc, hstop.2]

/-- **The debt position along every run** from a receivable opened from an issued invoice, fresh or
drafted. What is applied is the sum of the accepted allocations and stays within the original, which
never changes; a settled receivable has a zero balance, and a zero balance outside draft and voided
means settled or recovered; an open one has nothing applied and a partially paid one a part; a
written-off one accepts at most one further command, the allocation that recovers it; and a settled,
recovered, uncollectible or voided one never changes again.

**Proof sketch.** `Sound` holds throughout (`sound_run`); the sum is the rule for measures applied
to `applied_of_effect`; the last two facts are the guards of the final states. -/
theorem run_keeps_position (invoice : Invoice) (receivableId : Uuid) (clock : Clock)
    (draft : Option Receivable) (res : OpenResult)
    (hopen : openReceivable invoice receivableId clock draft = .ok res)
    (hdraft : ∀ d, draft = some d →
      ∃ drafted paired id, draftReceivableFor drafted id = .ok (paired, d))
    (cmds later : List Command) :
    let r := run step res.receivable cmds
    r.applied.amount ≤ r.original.amount ∧ r.original = res.receivable.original ∧
      r.applied.amount = ((accepted step res.receivable cmds).map Command.allocated).sum ∧
      (r.state = .settled → ∃ b, balanceOf r = .ok b ∧ b.amount = 0) ∧
      (∀ b, balanceOf r = .ok b → b.amount = 0 → r.state ≠ .draft → r.state ≠ .voided →
        r.state = .settled ∨ r.state = .recovered) ∧
      (r.state = .opened → r.applied.amount = 0) ∧
      (r.state = .partiallyPaid →
        0 < r.applied.amount ∧ r.applied.amount < r.original.amount) ∧
      (r.state = .writtenOff → (accepted step r later).length ≤ 1 ∧
        ∀ c r', step r c = some r' →
          (∃ amount now, c = .applyAllocation amount now) ∧ r'.state = .recovered) ∧
      (r.state = .settled ∨ r.state = .recovered ∨ r.state = .uncollectible ∨ r.state = .voided →
        run step r later = r) := by
  intro r
  obtain ⟨hstart, hzero⟩ := sound_of_open hopen fun d hd => by
    obtain ⟨drafted, paired, id, hpaired⟩ := hdraft d hd
    exact draftReceivableFor_applied hpaired
  have hs : Sound r := sound_run hstart cmds
  refine ⟨hs.within, original_run _ _, by rw [applied_run, hzero, Nat.zero_add], ?_, ?_, hs.opened,
    ?_, ?_, ?_⟩
  · intro hsettled
    obtain ⟨hfull, hcur⟩ := hs.settled hsettled
    exact ⟨_, balanceOf_eq_ok.mpr ⟨hcur, hs.within, rfl⟩, by simp only; omega⟩
  · intro b hb hbzero hdraftState hvoided
    obtain ⟨-, -, rfl⟩ := balanceOf_eq_ok.mp hb
    have hpaid : ¬ r.state.unpaid = true := by
      intro hunpaid
      have hlt := hs.unpaid hunpaid
      simp only at hbzero
      omega
    revert hpaid hdraftState hvoided
    cases r.state <;> decide
  · intro hpart
    exact ⟨hs.partiallyPaid hpart, hs.unpaid (by rw [hpart]; rfl)⟩
  · intro hoff
    exact ⟨accepted_of_writtenOff hoff later, fun c r' h => recovers_of_writtenOff hoff h⟩
  · intro hfinal
    refine (run_of_refuses (refuses_of_final ?_) later).1
    rcases hfinal with h | h | h | h <;> rw [h] <;> rfl

/-- A debt of 100.00 KES opened from its paired draft, paid in part, written off when overdue and
then recovered in part. -/
theorem run_keeps_position_recovered :
    let drafted : Invoice := ⟨"i-1", "c-1", .draft, .KES, ⟨10000, .KES⟩, .ofTime 0, none⟩
    let draft := buildReceivable "r-1" drafted .draft
    let paired : Invoice := { drafted with receivableId := some "r-1" }
    let invoice : Invoice := { paired with status := .issued }
    let late : Clock := ⟨fun _ => .ofTime 86400000⟩
    let cmds : List Command :=
      [.applyAllocation ⟨4000, .KES⟩ late, .markOverdue late, .writeOff "gone" "cfo" late,
        .applyAllocation ⟨1000, .KES⟩ late]
    let res : OpenResult :=
      ⟨invoice, { draft with state := .opened, openedAt := some (.ofTime 86400000) },
        ⟨"receivable.opened", 1, "r-1", "1970-01-02T00:00:00.000Z",
          .opened "r-1" "i-1" 10000 "1970-01-01T00:00:00.000Z"⟩⟩
    openReceivable invoice "r-1" late (some draft) = .ok res ∧
      draftReceivableFor drafted "r-1" = .ok (paired, draft) ∧
      (run step res.receivable cmds).state = .recovered ∧
      (run step res.receivable cmds).applied.amount ≤
        (run step res.receivable cmds).original.amount ∧
      run step (run step res.receivable cmds) cmds = run step res.receivable cmds := by
  intro drafted draft paired invoice late cmds res
  have hpaired : draftReceivableFor drafted "r-1" = .ok (paired, draft) := by decide
  have hopen : openReceivable invoice "r-1" late (some draft) = .ok res := by decide
  have hstate : (run step res.receivable cmds).state = .recovered := by decide
  have hrun := run_keeps_position invoice "r-1" late (some draft) res hopen
    (fun d hd => ⟨drafted, paired, "r-1", by rw [hpaired, Option.some.inj hd]⟩) cmds cmds
  exact ⟨hopen, hpaired, hstate, hrun.1, hrun.2.2.2.2.2.2.2.2 (.inr (.inl hstate))⟩

/-! ## The overdue flag -/

def FlagLive (r : Receivable) : Prop := r.overdue = true → isLive r = true
  deriving Decidable

def Command.closes : Command → Bool
  | .writeOff .. | .markUncollectible .. => true
  | _ => false

/-- A write-off and an uncollectible verdict ask for the flag and leave it set; every other command
leaves it to live receivables. -/
lemma flag_of_step (hs : FlagLive r) (h : step r c = some r') :
    FlagLive r' ↔ c.closes = false := by
  obtain ⟨res, hres, rfl⟩ := map_toOption_eq_some.mp h
  cases c with
  | applyAllocation amount clock =>
    simp only [apply, applyAllocation, ok_iff] at hres
    obtain ⟨-, -, balance, -, hres⟩ := hres
    refine iff_of_true ?_ rfl
    split at hres
    · simp only [recover, ok_iff] at hres
      obtain ⟨_, -, _, -, _, -, _, -, rfl⟩ := hres
      simp_all [FlagLive, isLive]
    · simp only [ok_iff, pay] at hres
      obtain ⟨-, _, -, _, -, _, -, hres⟩ := hres
      split at hres <;> simp only [ok_iff] at hres
      · obtain ⟨_, -, _, -, rfl⟩ := hres
        simp [FlagLive]
      · obtain ⟨_, -, _, -, _, -, _, -, rfl⟩ := hres
        simp [FlagLive, isLive]
  | markOverdue clock =>
    simp only [apply, markOverdue, ok_iff] at hres
    obtain ⟨hlive, -, -, _, -, _, -, rfl⟩ := hres
    have hlive : isLive r = true := by simpa using hlive
    exact iff_of_true (fun _ => hlive) rfl
  | writeOff reason approvedBy clock =>
    simp only [apply, writeOff, ok_iff] at hres
    obtain ⟨-, -, -, hflag, _, -, rfl⟩ := hres
    exact iff_of_false (by simpa [FlagLive, isLive] using hflag) (by simp [Command.closes])
  | markUncollectible reason clock =>
    simp only [apply, markUncollectible, ok_iff] at hres
    obtain ⟨-, -, hflag, rfl⟩ := hres
    exact iff_of_false (by simpa [FlagLive, isLive] using hflag) (by simp [Command.closes])
  | voidReceivable clock =>
    simp only [apply, voidReceivable, ok_iff] at hres
    obtain ⟨-, -, -, rfl⟩ := hres
    exact iff_of_true (by simp [FlagLive]) rfl

/-- **The overdue flag.** Along a run from a receivable that has the flag only while it is live,
this stays so exactly when no write-off and no uncollectible verdict is accepted. -/
theorem flagLive_run_iff (hr : FlagLive r) (cmds : List Command) :
    (∀ k, FlagLive (run step r (cmds.take k))) ↔
      Meets step (fun r c => step r c = none ∨ c.closes = false) r cmds := by
  refine forall_run_iff_meets (I := FlagLive) (fun _ h => h) ?_ ?_ (fun _ _ => .inl) cmds r hr
  · rintro s c s' hs h (hnone | hopen)
    · rw [hnone] at h
      cases h
    · exact (flag_of_step hs h).mpr hopen
  · intro s c s' hs h hP
    exact .inr ((flag_of_step hs h).mp hP)

theorem flagLive_run_iff_paid :
    let r := buildReceivable "r-1" ⟨"i-1", "c-1", .issued, .KES, ⟨100, .KES⟩, .ofTime 0, none⟩
      .opened
    let late : Clock := ⟨fun _ => .ofTime 86400000⟩
    FlagLive r ∧ ∀ k, FlagLive (run step r
      ([.markOverdue late, .applyAllocation ⟨40, .KES⟩ late].take k)) :=
  ⟨by decide, (flagLive_run_iff (by decide) _).mpr (by decide)⟩

/-- A write-off and an uncollectible verdict leave the flag set. -/
theorem closed_overdue :
    let r := buildReceivable "r-1" ⟨"i-1", "c-1", .issued, .KES, ⟨100, .KES⟩, .ofTime 0, none⟩
      .opened
    let late : Clock := ⟨fun _ => .ofTime 86400000⟩
    let closed c := run step r [.markOverdue late, c]
    (closed (.writeOff "gone" "cfo" late)).overdue = true ∧
      (closed (.writeOff "gone" "cfo" late)).state = .writtenOff ∧
      ¬ FlagLive (closed (.markUncollectible "gone" late)) := by
  decide

end Fuatilia.Receivables
