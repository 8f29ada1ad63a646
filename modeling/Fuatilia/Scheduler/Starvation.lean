import Fuatilia.Scheduler.LateFeeRuns

/-!
# Which receivables the scheduler reaches

The jobs run again and again, while customers grant and revoke consents. A scan never leaves out
what earlier runs have dealt with, so every run starts from the same rows.

## Main definitions

* `worldAfter`, `atStart` — the tables after the first runs, and in front of one.

## Main results

* `eventually_processed_iff` — what is ever processed is what some run reaches in its first batch.
* `crowded_out` — a receivable behind a full batch is never reached.
-/

namespace Fuatilia.Scheduler

open Jobs Machine Scans

variable {w w' w'' : World} {batch : ℤ} {r : ReceivableRow} {step : DunningStep}

/-! ## Runs -/

inductive ConsentChange where
  | grant (consent : ConsentGrant)
  | revoke (id : Uuid) (revokedAt : Instant)

def ConsentChange.request : ConsentChange → Request
  | .grant consent => .outside (.grantConsent consent)
  | .revoke id revokedAt => .outside (.revokeConsent id revokedAt)

structure Tick where
  consents : List ConsentChange
  clock : ℕ → Instant

def Tick.now (tick : Tick) : Instant := tick.clock 0

/-- The tables after the first `n` runs of a job, in which no receivable has arrived. -/
def worldAfter (job : Tick → Request) (ticks : ℕ → Tick) (w : World) : ℕ → World
  | 0 => w
  | n + 1 => serial start ((ticks n).consents.map ConsentChange.request ++ [job (ticks n)])
      (worldAfter job ticks w n)

def dunningJob (batch : ℤ) (tick : Tick) : Request := .dunning tick.clock defaultDunningLadder batch

def lateFeeJob (policy : LateFeePolicy) (batch : ℤ) (tick : Tick) : Request :=
  .lateFee tick.clock policy batch

def atStart (tick : Tick) (w : World) : World :=
  serial start (tick.consents.map ConsentChange.request) w

lemma worldAfter_succ (job : Tick → Request) (ticks : ℕ → Tick) (w : World) (n : ℕ) :
    worldAfter job ticks w (n + 1) =
      ((start (job (ticks n))).finish (atStart (ticks n) (worldAfter job ticks w n))).1 := by
  rw [worldAfter, serial, List.foldl_append]
  rfl

lemma atStart_db (tick : Tick) (w : World) :
    (atStart tick w).db.receivables = w.db.receivables ∧ (atStart tick w).db.claims =
    w.db.claims := by
  rw [atStart]
  induction tick.consents generalizing w with
  | nil => exact ⟨rfl, rfl⟩
  | cons change changes ih =>
    obtain ⟨hrows, hclaims⟩ := ih ((start change.request).finish w).1
    have hone : ((start change.request).finish w).1.db.receivables = w.db.receivables ∧
        ((start change.request).finish w).1.db.claims = w.db.claims := by
      cases change <;> exact ⟨rfl, rfl⟩
    exact ⟨hrows.trans hone.1, hclaims.trans hone.2⟩

lemma claimed_atStart (tick : Tick) (w : World) (orgID : Uuid) (scope key : String) :
    (atStart tick w).db.Claimed orgID scope key ↔ w.db.Claimed orgID scope key := by
  rw [Db.Claimed, Db.Claimed, (atStart_db tick w).2]

lemma exists_iff_of_succ_iff {P C : ℕ → Prop} (hzero : ¬ P 0)
    (hsucc : ∀ n, ¬ P n → (P (n + 1) ↔ C n)) : (∃ n, P n) ↔ ∃ m, C m := by
  constructor
  · rintro ⟨n, hn⟩
    induction n with
    | zero => exact absurd hn hzero
    | succ n ih =>
      by_cases hbefore : P n
      · exact ih hbefore
      · exact ⟨n, (hsucc n hbefore).mp hn⟩
  · rintro ⟨m, hm⟩
    by_cases hbefore : P m
    · exact ⟨m, hbefore⟩
    · exact ⟨m + 1, (hsucc m hbefore).mpr hm⟩

/-! ## The dunning job -/

/-- The worlds have the same receivables, and the same announcements of the steps by hand: a run
reaches the same rows in both. -/
structure Agree (w w' : World) : Prop where
  receivables : w'.db.receivables = w.db.receivables
  byHand : ∀ r ∈ w.db.receivables, ∀ s ∈ defaultDunningLadder, s.channel = .task →
    (w'.db.Claimed r.orgID claimScopeDun (dunningSendKey r.id s.key) ↔
      w.db.Claimed r.orgID claimScopeDun (dunningSendKey r.id s.key))

namespace Agree

lemma refl (w : World) : Agree w w := ⟨rfl, fun _ _ _ _ _ => Iff.rfl⟩

lemma symm (h : Agree w w') : Agree w' w where
  receivables := h.receivables.symm
  byHand r hr s hs hchannel := (h.byHand r (h.receivables ▸ hr) s hs hchannel).symm

lemma trans (h : Agree w w') (h' : Agree w' w'') : Agree w w'' where
  receivables := h'.receivables.trans h.receivables
  byHand r hr s hs hchannel :=
    (h'.byHand r (h.receivables ▸ hr) s hs hchannel).trans (h.byHand r hr s hs hchannel)

lemma atStart (tick : Tick) (w : World) : Agree w (atStart tick w) where
  receivables := (atStart_db tick w).1
  byHand _ _ _ _ _ := claimed_atStart tick w _ _ _

lemma forall_dueOf (h : Agree w w') (hr : r ∈ w.db.receivables) {now : Instant}
    {p : DunningStep → Prop} (hall : ∀ s ∈ dueOf w now r, p s → s.channel ≠ .task) :
    ∀ s ∈ dueOf w' now r, p s → s.channel ≠ .task := by
  intro s hs hp hchannel
  obtain ⟨hladder, hfree, hdays⟩ := mem_dueOf_iff.mp hs
  refine hall s (mem_dueOf_iff.mpr ⟨hladder, ?_, hdays⟩) hp hchannel
  exact mt (h.byHand r hr s hladder hchannel).mpr hfree

lemma clear (h : Agree w w') (hr : r ∈ w.db.receivables) {now : Instant} (hclear : Clear w now r) :
    Clear w' now r := by
  refine ⟨hclear.1, hclear.2.1, ?_⟩
  simpa using h.forall_dueOf hr (p := fun _ => True) (by simpa using hclear.2.2)

lemma reached (h : Agree w w') (hr : r ∈ w.db.receivables) {now : Instant}
    (hreached : Reached w now batch r step) : Reached w' now batch r step where
  rank := h.receivables ▸ hreached.rank
  before b hb hlive hlt := by
    rw [h.receivables] at hb
    exact h.clear hb (hreached.before b hb hlive hlt)
  own := h.forall_dueOf hr hreached.own

lemma due (h : Agree w w') {now : Instant} (hopen : ¬ HandledFor w' r.subject step)
    (hdue : Due w now r step) : Due w' now r step := by
  obtain ⟨hladder, -, hdays⟩ := mem_dueOf_iff.mp hdue.step
  refine { hdue with
    row := h.receivables ▸ hdue.row
    step := mem_dueOf_iff.mpr ⟨hladder, ?_, hdays⟩ }
  exact fun hclaimed => hopen ⟨_, .inl rfl, hclaimed⟩

lemma of_worked {now : Instant} {rows : List ReceivableRow}
    (hrows : ∀ b ∈ rows, b ∈ w.db.receivables) (h : Worked (rows.flatMap (itemsOf w now)) w w') :
    Agree w w' where
  receivables := h.receivables
  byHand r hr s hs hchannel := by
    refine ⟨fun hclaimed => ?_, h.grows _ _ _⟩
    rcases h.only _ _ hclaimed with hbefore | ⟨item, hitem, -, hkey⟩
    · exact hbefore
    · obtain ⟨b, hb, s', hs', rfl⟩ := mem_flatMap_itemsOf.mp hitem
      obtain ⟨-, -, hdue, hown⟩ := mem_stepsOf_iff.mp hs'
      have hid : r.id = b.id := IsKeyOf.id_eq (.inl rfl) hkey r.uuid b.uuid
      obtain rfl := List.inj_on_of_nodup_map w.db.receivableKey hr (hrows b hb) hid
      obtain rfl := IsKeyOf.step_eq (.inl rfl) hkey hs (mem_dueOf_iff.mp hdue).1
      exact absurd hchannel (hown s hdue le_rfl)

lemma runDunning (clock : ℕ → Instant) (hbatch : 1 ≤ batch) (w : World) :
    Agree w ((runDunning clock defaultDunningLadder batch).finish w).1 := by
  rw [finish_runDunning hbatch]
  refine of_worked (fun b hb => ?_)
    (finish_dunningSubjects clock (clock 0) _ (nodup_map_select w.db.receivableKey))
  exact ((mem_upTo_select_iff (nodup_order w.db)).mp hb).1

lemma worldAfter (ticks : ℕ → Tick) (hbatch : 1 ≤ batch) (w : World) (n : ℕ) :
    Agree w (worldAfter (dunningJob batch) ticks w n) := by
  induction n with
  | zero => exact refl w
  | succ n ih =>
    rw [worldAfter_succ]
    exact (ih.trans (atStart _ _)).trans (runDunning _ hbatch _)

end Agree

lemma handledFor_atStart (tick : Tick) {subject : DunningSubject} :
    HandledFor (atStart tick w) subject step ↔ HandledFor w subject step :=
  exists_congr fun _ => and_congr_right fun _ => claimed_atStart tick w _ _ _

/-- **One more run**: an open step is dealt with exactly when it is due and the run reaches it, both
in terms of the first tables. -/
lemma handled_succ_iff {ticks : ℕ → Tick} (hbatch : 1 ≤ batch) (hrow : r ∈ w.db.receivables)
    (hstep : step ∈ defaultDunningLadder) (hopen : ¬ HandledFor w r.subject step) {n : ℕ}
    (hn : ¬ HandledFor (worldAfter (dunningJob batch) ticks w n) r.subject step) :
    HandledFor (worldAfter (dunningJob batch) ticks w (n + 1)) r.subject step ↔
      Due w (ticks n).now r step ∧ Reached w (ticks n).now batch r step := by
  have hagree := (Agree.worldAfter ticks hbatch w n).trans (Agree.atStart (ticks n) _)
  have hn' := mt (handledFor_atStart (ticks n)).mp hn
  rw [worldAfter_succ]
  refine (runDunning_handled_iff hbatch (hagree.receivables ▸ hrow) hstep hn').trans ?_
  constructor
  · rintro ⟨hdue, hreached⟩
    exact ⟨hagree.symm.due hopen hdue, hagree.symm.reached (hagree.receivables ▸ hrow) hreached⟩
  · rintro ⟨hdue, hreached⟩
    exact ⟨hagree.due hn' hdue, hagree.reached hrow hreached⟩

theorem dunning_processed_iff (ticks : ℕ → Tick) (hbatch : 1 ≤ batch) (hrow : r ∈ w.db.receivables)
    (hstep : step ∈ defaultDunningLadder) (hopen : ¬ HandledFor w r.subject step) :
    (∃ n, HandledFor (worldAfter (dunningJob batch) ticks w n) r.subject step) ↔
      ∃ m, Due w (ticks m).now r step ∧ Reached w (ticks m).now batch r step :=
  exists_iff_of_succ_iff hopen fun _ hn => handled_succ_iff hbatch hrow hstep hopen hn

/-! ## The late-fee job -/

section LateFee

variable {policy : LateFeePolicy} {resolved : ResolvedLateFeePolicy}

lemma receivables_runLateFee (clock : ℕ → Instant)
    (hpolicy : validateLateFeePolicy policy = .ok resolved) (hbatch : 1 ≤ batch) (w : World) :
    ((runLateFee clock policy batch).finish w).1.db.receivables = w.db.receivables := by
  rw [finish_runLateFee hpolicy hbatch]
  exact (finish_lateFeeTurns (clock 0) _ hpolicy fun r hr =>
    isOwing_of_isOverdueAt (of_mem_select hr).2).receivables

lemma receivables_lateFee (ticks : ℕ → Tick) (hpolicy : validateLateFeePolicy policy = .ok resolved)
    (hbatch : 1 ≤ batch) (w : World) (n : ℕ) :
    (worldAfter (lateFeeJob policy batch) ticks w n).db.receivables = w.db.receivables := by
  induction n with
  | zero => rfl
  | succ n ih =>
    rw [worldAfter_succ]
    exact (receivables_runLateFee _ hpolicy hbatch _).trans ((atStart_db _ _).1.trans ih)

lemma charged_succ_iff {ticks : ℕ → Tick} (hpolicy : validateLateFeePolicy policy = .ok resolved)
    (hbatch : 1 ≤ batch) (hrow : r ∈ w.db.receivables) {periodKey : String} {n : ℕ}
    (hn : ¬ FeeCharged (worldAfter (lateFeeJob policy batch) ticks w n) r periodKey) :
    FeeCharged (worldAfter (lateFeeJob policy batch) ticks w (n + 1)) r periodKey ↔
      periodKeyFor (ticks n).now = periodKey ∧ FeeDue w resolved (ticks n).now r ∧
        FeeReached w resolved batch r := by
  have hrows : (atStart (ticks n) (worldAfter (lateFeeJob policy batch) ticks w n)).db.receivables =
      w.db.receivables := (atStart_db _ _).1.trans (receivables_lateFee ticks hpolicy hbatch w n)
  have hn' := mt (claimed_atStart (ticks n) _ _ _ _).mp hn
  rw [worldAfter_succ]
  refine (runLateFee_charged_iff hpolicy hbatch (hrows ▸ hrow) hn').trans ?_
  refine and_congr_right fun _ => and_congr ⟨?_, ?_⟩ ⟨?_, ?_⟩
  · exact fun h => ⟨hrow, h.owing, h.late⟩
  · exact fun h => ⟨hrows.symm ▸ hrow, h.owing, h.late⟩
  · rintro ⟨hrank, hchargeable⟩
    exact ⟨hrows ▸ hrank, hrows ▸ hchargeable⟩
  · rintro ⟨hrank, hchargeable⟩
    exact ⟨hrows.symm ▸ hrank, hrows.symm ▸ hchargeable⟩

theorem lateFee_processed_iff (ticks : ℕ → Tick)
    (hpolicy : validateLateFeePolicy policy = .ok resolved)
    (hbatch : 1 ≤ batch) (hrow : r ∈ w.db.receivables) {periodKey : String}
    (hopen : ¬ FeeCharged w r periodKey) :
    (∃ n, FeeCharged (worldAfter (lateFeeJob policy batch) ticks w n) r periodKey) ↔
      ∃ m, periodKeyFor (ticks m).now = periodKey ∧ FeeDue w resolved (ticks m).now r ∧
        FeeReached w resolved batch r :=
  exists_iff_of_succ_iff hopen fun _ hn => charged_succ_iff hpolicy hbatch hrow hn

end LateFee

/-! ## Both jobs -/

/-- **What the scheduler ever deals with.** Take any batch of at least one row, and any runs between
which no receivable arrives. An open step is announced or refused by some run exactly when at the
time of some run it is due and reached: fewer live receivables than a batch are due earlier, none of
them has a due step for a collector or lacks a date, and none of its own steps up to this one is for
a collector. An open fee is charged exactly when at the time of some run of its month it is due and
reached: fewer owing receivables than a batch are due earlier, and all their amounts and its own fit
an event. -/
theorem eventually_processed_iff (w : World) (ticks : ℕ → Tick) (batch : ℤ) (hbatch : 1 ≤ batch)
    (policy : LateFeePolicy) (resolved : ResolvedLateFeePolicy)
    (hpolicy : validateLateFeePolicy policy = .ok resolved) :
    (∀ r ∈ w.db.receivables, ∀ step ∈ defaultDunningLadder, ¬ HandledFor w r.subject step →
      ((∃ n, HandledFor (worldAfter (dunningJob batch) ticks w n) r.subject step) ↔
        ∃ m, Due w (ticks m).now r step ∧ Reached w (ticks m).now batch r step)) ∧
    (∀ r ∈ w.db.receivables, ∀ periodKey, ¬ FeeCharged w r periodKey →
      ((∃ n, FeeCharged (worldAfter (lateFeeJob policy batch) ticks w n) r periodKey) ↔
        ∃ m, periodKeyFor (ticks m).now = periodKey ∧ FeeDue w resolved (ticks m).now r ∧
          FeeReached w resolved batch r)) :=
  ⟨fun _ hrow _ hstep hopen => dunning_processed_iff ticks hbatch hrow hstep hopen,
    fun _ hrow _ hopen => lateFee_processed_iff ticks hpolicy hbatch hrow hopen⟩

lemma unpaid_covered : 0 ≤ 150000 := by decide

def dueInMarch (id : Uuid) (uuid : ':' ∉ id.toList) : ReceivableRow where
  id := id
  orgID := "org-a"
  customerID := "customer-a"
  currency := .KES
  dueDate := 20513 * dayNanos
  overdue := true
  originalMinor := 150000
  appliedMinor := 0
  state := .open
  uuid := uuid
  covered := unpaid_covered

lemma firstDue_uuid : ':' ∉ "7b1f0c1e-0000-4000-8000-000000000001".toList := by decide

def firstDue : ReceivableRow := dueInMarch "7b1f0c1e-0000-4000-8000-000000000001" firstDue_uuid

def secondDue : ReceivableRow := dueInMarch "7b1f0c1e-0000-4000-8000-000000000002" (by decide)

lemma noClaims_nodup : (([] : List Claim).map Claim.unique).Nodup := List.nodup_nil

def marchTables : World where
  db := { receivables := [firstDue, secondDue], grants := [], claims := [], outbox := [],
          drawn := 0, receivableKey := by decide, claimKey := noClaims_nodup }
  evaluations := []

def marchTick : Tick := ⟨[], fun _ => 20517 * dayNanos⟩

def fivePercent : LateFeePolicy := ⟨.percent, none, some 500, none, 2⟩

def dayThree : DunningStep := ⟨"overdue_day_3", 3, .whatsapp, .whatsapp, true⟩

lemma not_handledFor_marchTables (subject : DunningSubject) (step : DunningStep) :
    ¬ HandledFor marchTables subject step := by
  rintro ⟨key, -, hclaimed⟩
  cases hclaimed

lemma due_marchTables (hr : r = firstDue ∨ r = secondDue) :
    Due marchTables marchTick.now r dayThree ∧
      FeeDue marchTables ⟨.percent, none, some 500, none, 2⟩ marchTick.now r := by
  rcases hr with rfl | rfl <;>
    exact ⟨⟨by decide, by decide, by decide, by decide, by decide +kernel⟩,
      ⟨by decide, by decide, by decide⟩⟩

/-- With batches of two both are dealt with. -/
theorem eventually_processed_march :
    (∃ n, HandledFor (worldAfter (dunningJob 2) (fun _ => marchTick) marchTables n)
      secondDue.subject dayThree) ∧
    ∃ n, FeeCharged (worldAfter (lateFeeJob fivePercent 2) (fun _ => marchTick) marchTables n)
      secondDue "2026-03" := by
  obtain ⟨hdunning, hlateFee⟩ := eventually_processed_iff marchTables (fun _ => marchTick) 2
    (by decide) fivePercent ⟨.percent, none, some 500, none, 2⟩ (by decide)
  have hrow : secondDue ∈ marchTables.db.receivables := by decide
  obtain ⟨hdue, hfee⟩ := due_marchTables (.inr rfl)
  refine ⟨(hdunning secondDue hrow dayThree (by decide) (not_handledFor_marchTables _ _)).mpr ?_,
    (hlateFee secondDue hrow "2026-03" (by decide)).mpr ?_⟩
  · exact ⟨0, hdue, by decide +kernel, by decide +kernel, by decide +kernel⟩
  · exact ⟨0, by decide +kernel, hfee, by decide +kernel, by decide +kernel⟩

/-- **The second receivable starves.** The steps of both receivables and the fees of both are due,
but with batches of one every run of either job begins and ends with the first. -/
theorem crowded_out :
    Due marchTables marchTick.now secondDue dayThree ∧
    FeeDue marchTables ⟨.percent, none, some 500, none, 2⟩ marchTick.now secondDue ∧
    ∀ (ticks : ℕ → Tick) (n : ℕ),
      ¬ HandledFor (worldAfter (dunningJob 1) ticks marchTables n) secondDue.subject dayThree ∧
      ¬ FeeCharged (worldAfter (lateFeeJob fivePercent 1) ticks marchTables n)
      secondDue "2026-03" := by
  obtain ⟨hdue, hfee⟩ := due_marchTables (.inr rfl)
  refine ⟨hdue, hfee, fun ticks n => ⟨fun hhandled => ?_, fun hcharged => ?_⟩⟩
  · obtain ⟨m, -, hreached⟩ := (dunning_processed_iff ticks (by decide) hdue.row (by decide)
      (not_handledFor_marchTables _ _)).mp ⟨n, hhandled⟩
    exact absurd hreached.rank (by decide +kernel)
  · have hpolicy : validateLateFeePolicy fivePercent = .ok ⟨.percent, none, some 500, none, 2⟩ := by
      decide
    obtain ⟨m, -, -, hreached⟩ := (lateFee_processed_iff ticks hpolicy (by decide) hfee.row
      (by decide)).mp ⟨n, hcharged⟩
    exact absurd hreached.rank (by decide +kernel)

end Fuatilia.Scheduler
