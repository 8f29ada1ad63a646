import Fuatilia.Scheduler.DunningRuns

/-!
# One run of the late-fee job

A run alone takes the first overdue receivables. Those within the window of grace are passed over,
and an amount that does not fit an event ends the run.

## Main definitions

* `Charged`, `FeeDue`, `FeeReached` — a fee charged, due, and reached by a run.

## Main results

* `runLateFee_charged_iff` — a run charges the late receivables before the first such amount.
-/

namespace Fuatilia.Scheduler

open Jobs Fallible Lists Scans

variable {w w' : World} {resolved : ResolvedLateFeePolicy} {now : Instant} {r r' : ReceivableRow}

/-! ## What the engine says of a row -/

def ReceivableRow.isOwing (r : ReceivableRow) : Bool :=
  r.state.isLive && decide (0 < r.balanceMinor)

def Late (resolved : ResolvedLateFeePolicy) (now : Instant) (r : ReceivableRow) : Prop :=
  resolved.graceDays < wholeDaysLate r.dueDate now
  deriving Decidable

def Chargeable (resolved : ResolvedLateFeePolicy) (r : ReceivableRow) : Prop :=
  0 ≤ feeAmountOf resolved r.balanceMinor ∧ feeAmountOf resolved r.balanceMinor ≤ maxSafeInteger ∧
    (r.balanceMinor : ℤ) ≤ maxSafeInteger
  deriving Decidable

lemma Late.dueDate_le (hgrace : 0 ≤ resolved.graceDays) (h : Late resolved now r) :
    r.dueDate + dayNanos ≤ now := by
  have harith : ∀ grace due now : ℤ, 0 ≤ grace →
      grace < max 0 ((max (-2 ^ 63) (min (2 ^ 63 - 1) (now - due))).fdiv 86400000000000) →
      due + 86400000000000 ≤ now := by
    intro grace due now hgrace hlate
    rw [Int.fdiv_eq_ediv_of_nonneg _ (by norm_num)] at hlate
    omega
  exact harith _ _ _ hgrace h

lemma Late.of_le (h : Late resolved now r) (hle : r'.dueDate ≤ r.dueDate) :
    Late resolved now r' := by
  have harith : ∀ due due' now : ℤ, due' ≤ due →
      max 0 ((max (-2 ^ 63) (min (2 ^ 63 - 1) (now - due))).fdiv 86400000000000) ≤
        max 0 ((max (-2 ^ 63) (min (2 ^ 63 - 1) (now - due'))).fdiv 86400000000000) := by
    intro due due' now hle
    rw [Int.fdiv_eq_ediv_of_nonneg _ (by norm_num), Int.fdiv_eq_ediv_of_nonneg _ (by norm_num)]
    omega
  exact lt_of_lt_of_le h (harith _ _ _ hle)

lemma ReceivableRow.isOwing_eq_true : r.isOwing = true ↔ r.state.isLive = true ∧
    0 < r.balanceMinor := by
  rw [isOwing, Bool.and_eq_true, decide_eq_true_iff]

lemma subtractMoney_like (r : ReceivableRow) :
    subtractMoney r.like.original r.like.applied = .ok ⟨r.balanceMinor, r.currency⟩ := by
  have hcovered : ¬ r.appliedMinor > r.originalMinor := not_lt.mpr r.covered
  simp only [subtractMoney, ReceivableRow.like, throwIf, ne_eq, not_true_eq_false, if_false,
    hcovered]
  rfl

lemma safeInt_cases (n : ℤ) (hn : 0 ≤ n) :
    (n ≤ maxSafeInteger ∧ safeInt n = .ok n) ∨
      ((maxSafeInteger : ℤ) < n ∧ ∃ e, safeInt n = .error e ∧ e.isSkippable = false) := by
  by_cases hlarge : n > maxSafeInteger
  · refine .inr ⟨hlarge, ?_⟩
    rw [safeInt, if_pos (.inl hlarge)]
    exact ⟨_, rfl, rfl⟩
  · refine .inl ⟨not_lt.mp hlarge, if_neg ?_⟩
    rintro (h | h)
    · exact hlarge h
    · have : -(maxSafeInteger : ℤ) ≤ 0 := by decide
      omega

variable {periodKey : String} {rows : List ReceivableRow} {policy : LateFeePolicy}

lemma chargeFresh_of_late (hgrace : 0 ≤ resolved.graceDays) (howing : r.isOwing = true)
    (hlate : Late resolved now r) :
    chargeFresh r.like resolved periodKey now =
      (buildFeeRow r.like resolved periodKey (feeAmountOf resolved r.balanceMinor) r.balanceMinor
        (wholeDaysLate r.like.dueDate now) now >>= fun fee =>
      safeInt fee.amount.amount >>= fun amountMinor =>
        safeInt r.balanceMinor >>= fun balanceMinor =>
      pure (.accrued fee
        { receivableID := r.like.id, periodKey, amountMinor,
          currency := r.like.currency, policyKind := resolved.kind,
          percentBps := resolved.percentBps, flatMinor := resolved.flatMinor,
          balanceMinor, daysLate := wholeDaysLate r.like.dueDate now,
          graceDays := resolved.graceDays, posting := feePosting })) := by
  obtain ⟨hlive, hbalance⟩ := ReceivableRow.isOwing_eq_true.mp howing
  have hmay : r.like.mayBeLive = true := by simpa [LateFeeReceivableLike.mayBeLive,
    ReceivableRow.like]
  have hlt : r.dueDate < now :=
    lt_of_lt_of_le (Int.lt_add_of_pos_right r.dueDate (by decide)) (hlate.dueDate_le hgrace)
  have hoverdue : r.like.isOverdue now = true := by
    simp [LateFeeReceivableLike.isOverdue, ReceivableRow.like, hlt]
  have hdays : ¬ wholeDaysLate r.like.dueDate now ≤ resolved.graceDays := not_le.mpr hlate
  have hne : ¬ r.balanceMinor = 0 := by omega
  simp only [chargeFresh, throwIf, hmay, hoverdue, hdays, Bool.true_eq_false, if_false,
    subtractMoney_like]
  simp [do_eq, hne]

/-- **What the engine says of an owing receivable**: within the window of grace it is passed over,
beyond it it is charged, unless its amounts do not fit. -/
lemma chargeFresh_cases (hgrace : 0 ≤ resolved.graceDays) (howing : r.isOwing = true) :
    (¬ Late resolved now r ∧
      ∃ e, chargeFresh r.like resolved periodKey now = .error e ∧ e.isSkippable = true) ∨
    (Late resolved now r ∧ Chargeable resolved r ∧
      ∃ fee event, chargeFresh r.like resolved periodKey now = .ok (.accrued fee event)) ∨
    (Late resolved now r ∧ ¬ Chargeable resolved r ∧
      ∃ e, chargeFresh r.like resolved periodKey now = .error e ∧ e.isSkippable = false) := by
  by_cases hlate : Late resolved now r
  · rw [chargeFresh_of_late hgrace howing hlate]
    by_cases hnegative : feeAmountOf resolved r.balanceMinor < 0
    · refine .inr (.inr ⟨hlate, fun h => absurd h.1 (not_le.mpr hnegative), ?_⟩)
      rw [buildFeeRow, newMoney, if_pos hnegative]
      exact ⟨_, rfl, rfl⟩
    · have hamount := Int.toNat_of_nonneg (not_lt.mp hnegative)
      rw [buildFeeRow, newMoney, if_neg hnegative]
      rcases safeInt_cases (feeAmountOf resolved r.balanceMinor) (not_lt.mp hnegative) with
        ⟨hfits, hfee⟩ | ⟨hlarge, e, hfee, hskip⟩
      · rcases safeInt_cases r.balanceMinor (Int.natCast_nonneg _) with
          ⟨hfits', hbalance⟩ | ⟨hlarge, e, hbalance, hskip⟩
        · refine .inr (.inl ⟨hlate, ⟨not_lt.mp hnegative, hfits, hfits'⟩, ?_⟩)
          simp only [do_eq, hamount, hfee, hbalance]
          exact ⟨_, _, rfl⟩
        · refine .inr (.inr ⟨hlate, fun h => absurd h.2.2 (not_le.mpr hlarge), e, ?_, hskip⟩)
          simp [do_eq, hamount, hfee, hbalance]
      · refine .inr (.inr ⟨hlate, fun h => absurd h.2.1 (not_le.mpr hlarge), e, ?_, hskip⟩)
        simp [do_eq, hamount, hfee]
  · refine .inl ⟨hlate, ?_⟩
    have hmay : r.like.mayBeLive = true := by
      simpa [LateFeeReceivableLike.mayBeLive, ReceivableRow.like] using
        (ReceivableRow.isOwing_eq_true.mp howing).1
    have hdays : wholeDaysLate r.like.dueDate now ≤ resolved.graceDays := not_lt.mp hlate
    cases hoverdue : r.like.isOverdue now with
    | true | false =>
      simp only [chargeFresh, throwIf, hmay, hoverdue, hdays, Bool.true_eq_false, if_false, if_true]
      exact ⟨_, rfl, rfl⟩

/-! ## The loop -/

def feeKey (id : Uuid) (periodKey : String) : String := id ++ ":" ++ periodKey

def FeeCharged (w : World) (r : ReceivableRow) (periodKey : String) : Prop :=
  w.db.Claimed r.orgID claimScopeFee (feeKey r.id periodKey)
  deriving Decidable

/-- From `w` to `w'` the job has charged these receivables, and claimed nothing else. -/
structure Charged (periodKey : String) (rows : List ReceivableRow) (w w' : World) : Prop where
  receivables : w'.db.receivables = w.db.receivables
  claims : ∀ orgID scope key, w'.db.Claimed orgID scope key ↔ w.db.Claimed orgID scope key ∨
    ∃ r ∈ rows, (orgID, scope, key) = (r.orgID, claimScopeFee, feeKey r.id periodKey)

lemma Charged.refl (periodKey : String) (w : World) : Charged periodKey [] w w where
  receivables := rfl
  claims _ _ _ := by simp

lemma Charged.append {rows' : List ReceivableRow} {w'' : World} (h : Charged periodKey rows w w')
    (h' : Charged periodKey rows' w' w'') :
    Charged periodKey (rows ++ rows') w w'' where
  receivables := h'.receivables.trans h.receivables
  claims orgID scope key := by
    rw [h'.claims, h.claims, or_assoc]
    simp [List.mem_append, or_and_right, exists_or]

lemma Charged.feeCharged_iff {periodKey' : String} (h : Charged periodKey rows w w')
    (hrows : ∀ r ∈ rows, r ∈ w.db.receivables) (hrow : r ∈ w.db.receivables)
    (hopen : ¬ FeeCharged w r periodKey') :
    FeeCharged w' r periodKey' ↔ periodKey = periodKey' ∧ r ∈ rows := by
  rw [FeeCharged, h.claims]
  constructor
  · rintro (hbefore | ⟨r', hr', heq⟩)
    · exact absurd hbefore hopen
    · have hkey :
        feeKey r.id periodKey' = feeKey r'.id periodKey := by simpa using (Prod.mk.inj heq).2
      have hid : r.id = r'.id := eq_of_append_colon hkey r.uuid r'.uuid
      obtain rfl := List.inj_on_of_nodup_map w.db.receivableKey hrow (hrows r' hr') hid
      exact ⟨((String.append_right_inj _).mp hkey).symm, hr'⟩
  · rintro ⟨rfl, hr⟩
    exact .inr ⟨r, hr, rfl⟩

lemma periodKeyFor_ne_empty (now : Instant) : periodKeyFor now ≠ "" := by
  intro h
  have hdash : '-' ∈ (periodKeyFor now).toList := by
    simp [periodKeyFor, monthText, String.toList_append]
  rw [h] at hdash
  cases hdash

lemma finish_lateFeeTurn {stats : Stats} (hpolicy : validateLateFeePolicy policy = .ok resolved)
    (howing : r.isOwing = true) :
    Job.Ends (fun _ w' => (Late resolved now r → Chargeable resolved r) ∧ Charged (periodKeyFor now)
        ([r].filter fun r => Late resolved now r ∧ Chargeable resolved r) w w')
      (fun w' => ¬ (Late resolved now r → Chargeable resolved r) ∧ Charged (periodKeyFor now)
        ([r].filter fun r => Late resolved now r ∧ Chargeable resolved r) w w')
      ((lateFeeTurn policy now (periodKeyFor now) stats r).finish w) := by
  have hgrace : 0 ≤ resolved.graceDays := by
    obtain ⟨rfl, hgrace⟩ := validateLateFeePolicy_eq_ok hpolicy
    exact hgrace
  have htrim : trimSpace (periodKeyFor now) = periodKeyFor now := trimSpace_monthText _
  rw [lateFeeTurn, accrueLateFee_fresh hpolicy htrim (periodKeyFor_ne_empty now)]
  rcases chargeFresh_cases hgrace howing with
    ⟨hlate, e, heq, hskip⟩ | ⟨hlate, hchargeable, fee, event, heq⟩ | ⟨hlate, hnot, e, heq, hskip⟩
  · rw [heq, List.filter_cons_of_neg (by simp [hlate]), List.filter_nil]
    simp only [hskip, if_true]
    exact ⟨fun h => absurd h hlate, Charged.refl _ w⟩
  · rw [heq, List.filter_cons_of_pos (by simp [hlate, hchargeable]), List.filter_nil]
    obtain ⟨claimed, w₁, hcommit, hrows, hclaims⟩ := finish_claimAndEmit r.orgID claimScopeFee
      (r.id ++ ":" ++ periodKeyFor now) (.lateFeeAccrued event) now none w
    have hcharged : Charged (periodKeyFor now) [r] w w₁ :=
      ⟨hrows, fun orgID scope key => by simp [hclaims, feeKey]⟩
    rw [Job.finish_bind, hcommit, Job.andThen_ok]
    cases claimed <;> exact ⟨fun _ => hchargeable, hcharged⟩
  · rw [heq, List.filter_cons_of_neg (by simp [hnot]), List.filter_nil]
    simp only [hskip]
    exact ⟨fun h => hnot (h hlate), Charged.refl _ w⟩

/-- **The loop over the overdue receivables**: it charges the late ones, all of them or those before
the first whose amounts do not fit. -/
lemma finish_lateFeeTurns (now : Instant) (stats : Stats)
    (hpolicy : validateLateFeePolicy policy = .ok resolved)
    (howing : ∀ r ∈ rows, r.isOwing = true) : Charged (periodKeyFor now)
      ((upTo (fun r => Late resolved now r → Chargeable resolved r) rows).filter fun r =>
        Late resolved now r ∧ Chargeable resolved r) w
      ((rows.foldlM (lateFeeTurn policy now (periodKeyFor now)) stats).finish w).1 := by
  have hloop := (Job.finish_foldlM (q := fun r => Late resolved now r → Chargeable resolved r)
    (P := fun passed _ w' => Charged (periodKeyFor now)
      (passed.filter fun r => Late resolved now r ∧ Chargeable resolved r) w w')
    (F := fun passed w' => Charged (periodKeyFor now)
      (passed.filter fun r => Late resolved now r ∧ Chargeable resolved r) w w')
    ?_ (Charged.refl _ w) : Job.Ends _ _
      ((rows.foldlM (lateFeeTurn policy now (periodKeyFor now)) stats).finish w))
  · exact hloop.world.elim And.right And.right
  rintro passed r rest stats w₁ rfl hcharged
  rw [List.filter_append]
  exact (finish_lateFeeTurn hpolicy (howing r List.mem_append_cons_self)).mono
    (fun _ _ h => ⟨h.1, hcharged.append h.2⟩) fun _ h => ⟨h.1, hcharged.append h.2⟩

/-! ## One run -/

structure FeeDue (w : World) (resolved : ResolvedLateFeePolicy) (now : Instant)
    (r : ReceivableRow) : Prop where
  row : r ∈ w.db.receivables
  owing : r.isOwing = true
  late : Late resolved now r

/-- Fewer owing receivables than a batch come before this one, and the amounts of all of them and
its own fit. -/
structure FeeReached (w : World) (resolved : ResolvedLateFeePolicy) (batch : ℤ)
    (r : ReceivableRow) : Prop where
  rank : rank ReceivableRow.order ReceivableRow.isOwing w.db.receivables r < batch
  chargeable : ∀ r' ∈ w.db.receivables, r'.isOwing = true → r'.order ≤ r.order →
    Chargeable resolved r'

lemma Late.isOverdueAt (hgrace : 0 ≤ resolved.graceDays) (h : Late resolved now r) :
    r.isOverdueAt now = r.isOwing := by
  have harith : ∀ due now : ℤ, due + 86400000000000 ≤ now → due < now - now % 1000 := by omega
  have hpast : r.dueDate < timestamptz now := harith _ _ (h.dueDate_le hgrace)
  simp [ReceivableRow.isOverdueAt, ReceivableRow.isOwing, hpast]

lemma Late.rank_isOverdueAt (hgrace : 0 ≤ resolved.graceDays) (h : Late resolved now r) :
    rank ReceivableRow.order (ReceivableRow.isOverdueAt now) rows r =
      rank ReceivableRow.order ReceivableRow.isOwing rows r := by
  refine List.countP_congr fun r' _ => ?_
  by_cases hlt : r'.order < r.order
  · rw [(h.of_le (dueDate_le_of_order_le hlt.le)).isOverdueAt hgrace]
  · simp [hlt]

lemma isOwing_of_isOverdueAt (h : r.isOverdueAt now = true) : r.isOwing = true := by
  rw [ReceivableRow.isOverdueAt, Bool.and_eq_true] at h
  exact h.1

variable {clock : ℕ → Instant} {batch : ℤ}

lemma finish_runLateFee
    (hpolicy : validateLateFeePolicy policy = .ok resolved) (hbatch : 1 ≤ batch) :
    (runLateFee clock policy batch).finish w =
      ((select ReceivableRow.order (ReceivableRow.isOverdueAt (clock 0)) batch.toNat
        w.db.receivables).foldlM (lateFeeTurn policy (clock 0) (periodKeyFor (clock 0)))
        { scanned := (select ReceivableRow.order (ReceivableRow.isOverdueAt (clock 0)) batch.toNat
          w.db.receivables).length }).finish w := by
  have hrequire : requireBatch batch = .ok () := throwIf_eq_ok.mpr (by omega)
  simp [runLateFee, orFail, hpolicy, hrequire, Except.mapError, overdueReceivables,
    Job.finish_bind, Job.finish_attempt, Job.finish_query, Job.andThen_ok]

/-- **What one run charges.** A fee that is open is charged by a run exactly when it is due in the
month of the run and the run reaches it. -/
theorem runLateFee_charged_iff
    (hpolicy : validateLateFeePolicy policy = .ok resolved) (hbatch : 1 ≤ batch)
    (hrow : r ∈ w.db.receivables) (hopen : ¬ FeeCharged w r periodKey) :
    FeeCharged ((runLateFee clock policy batch).finish w).1 r periodKey ↔
      periodKeyFor (clock 0) = periodKey ∧ FeeDue w resolved (clock 0) r ∧
        FeeReached w resolved batch r := by
  have hgrace : 0 ≤ resolved.graceDays := by
    obtain ⟨rfl, hgrace⟩ := validateLateFeePolicy_eq_ok hpolicy
    exact hgrace
  have hkeys := nodup_order w.db
  have howing : ∀ r ∈ select ReceivableRow.order (ReceivableRow.isOverdueAt (clock 0)) batch.toNat
      w.db.receivables, r.isOwing = true := fun r hr => isOwing_of_isOverdueAt (of_mem_select hr).2
  rw [finish_runLateFee hpolicy hbatch, (finish_lateFeeTurns _ _ hpolicy howing).feeCharged_iff
    (fun b hb => ((mem_upTo_select_iff hkeys).mp (List.mem_of_mem_filter hb)).1) hrow hopen,
    List.mem_filter, mem_upTo_select_iff hkeys, decide_eq_true_iff]
  refine and_congr_right fun _ => ⟨?_, ?_⟩
  · rintro ⟨⟨-, hscan, hlimit, hbefore⟩, hlate, hchargeable⟩
    rw [hlate.rank_isOverdueAt hgrace] at hlimit
    refine ⟨⟨hrow, isOwing_of_isOverdueAt hscan, hlate⟩, by omega, fun b hb hbowing hle => ?_⟩
    have hblate : Late resolved (clock 0) b := hlate.of_le (dueDate_le_of_order_le hle)
    rcases hle.eq_or_lt with heq | hlt
    · exact List.inj_on_of_nodup_map hkeys hb hrow heq ▸ hchargeable
    · exact hbefore b hb ((hblate.isOverdueAt hgrace).trans hbowing) hlt hblate
  · rintro ⟨hdue, hreached⟩
    have hlimit := hreached.rank
    rw [← hdue.late.rank_isOverdueAt hgrace] at hlimit
    refine ⟨⟨hrow, (hdue.late.isOverdueAt hgrace).trans hdue.owing, by omega,
      fun b hb hscan hlt _ => ?_⟩, hdue.late, hreached.chargeable r hrow hdue.owing le_rfl⟩
    exact hreached.chargeable b hb (isOwing_of_isOverdueAt hscan) hlt.le

end Fuatilia.Scheduler
