import Fuatilia.Foundations.Transactions
import Fuatilia.Backend.Payments

/-!
# The refund ceiling in the database

The active allocations and the live refunds of a confirmed payment are to stay within the confirmed
amount. `RefundReservation` computes their sum before it inserts a refund, a deferred trigger on
`refunds` (R6) computes it again at commit, and one on `allocations` (R2) compares the active
allocations with the confirmed amount.

R2 does not look at the refunds, so an allocation after a refund overdraws the payment. And two
transactions whose triggers both run before either commits overdraw it together.

## Main definitions

* `Funds.refundReservation`, `Funds.checkR2`, `Funds.checkR6` — the three checks.
* `Funds.system` — the two kinds of transactions, statement by statement.
* `Funds.fenced` — the condition on a commit, which excludes the two.

## Main results

* `Funds.ceiling_kept` — the ceiling along every interleaving whose commits are fenced.

## Implementation notes

The trigger that compares allocations with the receivable (R1) is not modelled: it refuses more
batches and changes no row of the payment. No statement reads `commits`.
-/

namespace Fuatilia.Backend.Funds

open Machine Transactions Fallible

/-! ## The rows of one payment -/

inductive RefundState where
  | requested | approved | rejected | processing | completed | failed
  deriving DecidableEq

structure RefundRow where
  id : Uuid
  state : RefundState
  totalMinor : ℤ
  currency : String
  reason : String
  total_pos : 0 < totalMinor

structure AllocationRow where
  id : Uuid
  amountMinor : ℤ
  sequenceNo : ℤ
  reversedAt : Option ℤ
  reversalOf : Option Uuid
  amount_pos : 0 < amountMinor

def RefundRow.live (r : RefundRow) : Bool := r.state ≠ .rejected ∧ r.state ≠ .failed

def AllocationRow.active (a : AllocationRow) : Bool := a.reversedAt.isNone && a.reversalOf.isNone

structure FundsDb where
  payment : PaymentRow
  allocations : List AllocationRow
  refunds : List RefundRow
  commits : ℕ

def activeTotal (as : List AllocationRow) : ℤ :=
  ((as.filter AllocationRow.active).map AllocationRow.amountMinor).sum

def liveTotal (rs : List RefundRow) : ℤ := ((rs.filter RefundRow.live).map RefundRow.totalMinor).sum

/-- **The law.** The active allocations and the live refunds stay within the confirmed amount. -/
def Ceiling (db : FundsDb) : Prop :=
  ∀ confirmed ∈ db.payment.confirmedMinor,
    activeTotal db.allocations + liveTotal db.refunds ≤ confirmed
  deriving Decidable

/-! ## The checks -/

def bigint (n : ℤ) : Except Refusal ℤ := do
  throwIf (n < -2 ^ 63 ∨ maxInt64 < n) (.sqlError "bigint out of range")
  pure n

structure RefundArgs where
  requestedBy : String
  amountMinor : ℤ
  currency : String
  reason : String

def exceedsMessage (committed confirmed : ℤ) (currency : String) : String :=
  "Σ allocations+refunds " ++ moneyString committed currency ++ " would exceed confirmed " ++
    moneyString confirmed currency ++ " (R6)"

/-- `RefundReservation` up to its insertion; the sum is computed in machine integers. -/
def refundReservation (db : FundsDb) (args : RefundArgs) (id : Uuid) :
    Except Refusal RefundRow := do
  throwIf (trim args.reason = "")
    (.domainError "REFUND_REASON_REQUIRED" "a refund reservation requires a reason")
  if hpos : 0 < args.amountMinor then
    throwIf (db.payment.currency ≠ args.currency) (.domainError "CURRENCY_MISMATCH"
      ("cannot refund " ++ args.currency ++ " against a " ++ db.payment.currency ++
        " payment (R10)"))
    throwIf (db.payment.state ∈ terminalPaymentStates) (.domainError "PAYMENT_TERMINAL"
      ("payment " ++ db.payment.id ++ " is " ++ toString db.payment.state ++
        " (terminal); refund is not allowed"))
    throwIf (db.payment.state ∉ confirmedFamilyStates) (.domainError "PAYMENT_NOT_CONFIRMED"
      ("refunds draw on confirmed funds; payment " ++ db.payment.id ++ " is " ++
        toString db.payment.state ++ " (R6)"))
    match db.payment.confirmedMinor with
    | none => throw (.domainError "HTTP_INTERNAL_ERROR"
        ("payment " ++ db.payment.id ++ " is confirmed but has no confirmed amount"))
    | some confirmed =>
      let allocations ← bigint (activeTotal db.allocations)
      let refunds ← bigint (liveTotal db.refunds)
      let committed := int64 (int64 (allocations + refunds) + args.amountMinor)
      throwIf (confirmed < committed) (.domainError "REFUND_EXCEEDS_AVAILABLE"
        (exceedsMessage committed confirmed args.currency))
      pure ⟨id, .requested, args.amountMinor, args.currency, trim args.reason, hpos⟩
  else throw (.domainError "AMOUNT_MUST_BE_POSITIVE" "refund amounts must be > 0")

/-- The deferred trigger on `allocations`, over the committed rows and the transaction's own. -/
def checkR2 (payment : PaymentRow) (allocations : List AllocationRow) : Except Refusal Unit := do
  let sum ← bigint (activeTotal allocations)
  match payment.confirmedMinor with
  | none => throw (.sqlError ("ALLOCATION_SOURCE_UNKNOWN: payment " ++ payment.id ++
      " missing or not confirmed in org " ++ payment.orgID))
  | some confirmed =>
    throwIf (confirmed < sum)
      (.sqlError ("ALLOCATION_EXCEEDS_CONFIRMED: Σ(active allocations) " ++ toString sum ++
        " > confirmed_minor " ++ toString confirmed ++ " on payment " ++ payment.id ++ " — R2"))

def otherRefunds (refunds : List RefundRow) (id : Uuid) : List RefundRow :=
  refunds.filter fun r => r.id ≠ id

/-- The deferred trigger on `refunds`, for one row, over the committed rows and the transaction's
own. -/
def checkR6 (payment : PaymentRow) (allocations : List AllocationRow) (refunds : List RefundRow)
    (self : RefundRow) : Except Refusal Unit := do
  match payment.confirmedMinor with
  | none => throw (.sqlError ("REFUND_SOURCE_UNKNOWN: payment " ++ payment.id ++
      " missing or unconfirmed in org " ++ payment.orgID))
  | some confirmed =>
    let alloc ← bigint (activeTotal allocations)
    let other ← bigint (liveTotal (otherRefunds refunds self.id))
    let rest ← bigint (confirmed - alloc)
    let available ← bigint (rest - other)
    throwIf (available < self.totalMinor)
      (.sqlError ("REFUND_EXCEEDS_CEILING: refund " ++ toString self.totalMinor ++
        " > available " ++ toString available ++ " (confirmed " ++ toString confirmed ++
        " − allocated " ++ toString alloc ++ " − refunded " ++ toString other ++ ") on payment " ++
        payment.id ++ " — R6"))

/-! ## The transactions -/

inductive Request where
  | refund (args : RefundArgs) (id : Uuid)
  | allocate (rows : List AllocationRow)

/-- An open transaction, by the statement it has reached. A transaction whose triggers have passed
keeps the number of commits that they saw. -/
inductive Tx where
  | refundStarted (args : RefundArgs) (id : Uuid)
  | refundChecked (row : RefundRow)
  | refundInserted (row : RefundRow)
  | refundProven (row : RefundRow) (seen : ℕ)
  | allocStarted (rows : List AllocationRow)
  | allocInserted (rows : List AllocationRow)
  | allocProven (rows : List AllocationRow) (seen : ℕ)

def Tx.start : Request → Tx
  | .refund args id => .refundStarted args id
  | .allocate rows => .allocStarted rows

/-- The keys of new allocations are free: their ids and their sequence numbers. -/
def KeysFree (old new : List AllocationRow) : Prop :=
  (new.map AllocationRow.id).Nodup ∧ (new.map AllocationRow.sequenceNo).Nodup ∧
    ∀ a ∈ new, ∀ b ∈ old, b.id ≠ a.id ∧ b.sequenceNo ≠ a.sequenceNo
  deriving Decidable

/-- The next statement of a transaction, over the committed data; the triggers are the last one. -/
def Tx.advance (db : FundsDb) : Tx → Option Tx
  | .refundStarted args id => (refundReservation db args id).toOption.map .refundChecked
  | .refundChecked row =>
    if ∃ r ∈ db.refunds, r.id = row.id then none else some (.refundInserted row)
  | .refundInserted row =>
    (checkR6 db.payment db.allocations (db.refunds ++ [row]) row).toOption.map fun _ =>
      .refundProven row db.commits
  | .allocStarted rows => if KeysFree db.allocations rows then some (.allocInserted rows) else none
  | .allocInserted rows =>
    (forM rows fun _ => checkR2 db.payment (db.allocations ++ rows)).toOption.map fun _ =>
      .allocProven rows db.commits
  -- nothing is left to run
  | .refundProven _ _ | .allocProven _ _ => none

/-- The commit of a transaction whose triggers have passed makes its rows visible, subject to the
keys of the tables. -/
def Tx.commit (db : FundsDb) : Tx → Option FundsDb
  | .refundProven row _ =>
    if ∃ r ∈ db.refunds, r.id = row.id then none
    else some { db with refunds := db.refunds ++ [row], commits := db.commits + 1 }
  | .allocProven rows _ =>
    if KeysFree db.allocations rows then
      some { db with allocations := db.allocations ++ rows, commits := db.commits + 1 }
    else none
  | _ => none

def system : System FundsDb Request Tx := ⟨Tx.start, Tx.advance, Tx.commit⟩

/-- The condition on a commit: nothing was committed since the triggers of the transaction ran, and
allocations are committed only while the payment has no live refund. -/
def fenced (s : State FundsDb Tx) : Event Request → Bool
  | .commit i =>
    match s.inFlight[i]? with
    | some (.refundProven _ seen) => seen == s.db.commits
    | some (.allocProven _ seen) => seen == s.db.commits && s.db.refunds.all fun r => !r.live
    | _ => true
  | _ => true

/-! ## Sums -/

@[simp] lemma liveTotal_append (rs ts : List RefundRow) :
    liveTotal (rs ++ ts) = liveTotal rs + liveTotal ts := by
  simp [liveTotal]

lemma liveTotal_singleton_le (r : RefundRow) : liveTotal [r] ≤ r.totalMinor := by
  by_cases hlive : r.live = true
  · simp [liveTotal, hlive]
  · simpa [liveTotal, hlive] using r.total_pos.le

variable {refunds : List RefundRow} {db db' : FundsDb} {t : Tx} {u : Unit} {payment : PaymentRow}
  {allocations : List AllocationRow}

lemma liveTotal_eq_zero (h : (refunds.all fun r => !r.live) = true) : liveTotal refunds = 0 := by
  have hnone : refunds.filter RefundRow.live = [] :=
    List.filter_eq_nil_iff.mpr fun r hr => by simpa using List.all_eq_true.mp h r hr
  rw [liveTotal, hnone]
  rfl

lemma otherRefunds_of_free {row : RefundRow}
    (hfree : ¬ ∃ r ∈ refunds, r.id = row.id) : otherRefunds refunds row.id = refunds := by
  refine List.filter_eq_self.mpr fun r hr => ?_
  simpa using fun heq => hfree ⟨r, hr, heq⟩

lemma otherRefunds_append_self (refunds : List RefundRow) (row : RefundRow) :
    otherRefunds (refunds ++ [row]) row.id = otherRefunds refunds row.id := by
  simp [otherRefunds]

/-! ## What the triggers have seen -/

lemma bigint_eq_ok {n m : ℤ} (h : bigint n = .ok m) : m = n := by
  simp only [bigint, ok_iff] at h
  exact h.2

lemma checkR2_eq_ok (h : checkR2 payment allocations = .ok u) :
    ∀ confirmed ∈ payment.confirmedMinor, activeTotal allocations ≤ confirmed := by
  intro confirmed hconfirmed
  simp only [checkR2, Option.mem_def.mp hconfirmed, bind_eq_ok, throwIf_eq_ok] at h
  obtain ⟨sum, hsum, hfits⟩ := h
  rw [bigint_eq_ok hsum] at hfits
  omega

lemma checkR6_eq_ok {self : RefundRow} (h : checkR6 payment allocations refunds self = .ok u) :
    ∀ confirmed ∈ payment.confirmedMinor, activeTotal allocations +
      liveTotal (otherRefunds refunds self.id) + self.totalMinor ≤ confirmed := by
  intro confirmed hconfirmed
  simp only [checkR6, Option.mem_def.mp hconfirmed, bind_eq_ok, throwIf_eq_ok] at h
  obtain ⟨alloc, halloc, other, hother, rest, hrest, left, hleft, hfits⟩ := h
  rw [bigint_eq_ok hleft, bigint_eq_ok hrest, bigint_eq_ok hother, bigint_eq_ok halloc] at hfits
  omega

/-- As long as nothing was committed since its triggers ran, a refund fits into what the allocations
and the other refunds leave, and allocations fit into what the other allocations leave. -/
def Tx.Fits (db : FundsDb) : Tx → Prop
  | .refundProven row seen => seen ≤ db.commits ∧ (seen = db.commits →
      ∀ confirmed ∈ db.payment.confirmedMinor, activeTotal db.allocations +
        liveTotal (otherRefunds db.refunds row.id) + row.totalMinor ≤ confirmed)
  | .allocProven rows seen => seen ≤ db.commits ∧ (seen = db.commits → rows ≠ [] →
      ∀ confirmed ∈ db.payment.confirmedMinor, activeTotal (db.allocations ++ rows) ≤ confirmed)
  | _ => True

lemma Tx.Fits.advance {t' : Tx} (h : Tx.advance db t = some t') : t'.Fits db := by
  cases t with
  | refundStarted args id =>
    obtain ⟨_, -, rfl⟩ := map_toOption_eq_some.mp h
    trivial
  | refundChecked row =>
    simp only [Tx.advance] at h
    split_ifs at h
    cases h
    trivial
  | refundInserted row =>
    obtain ⟨_, hcheck, rfl⟩ := map_toOption_eq_some.mp h
    refine ⟨le_rfl, fun _ confirmed hconfirmed => ?_⟩
    have hfits := checkR6_eq_ok hcheck confirmed hconfirmed
    rwa [otherRefunds_append_self] at hfits
  | allocStarted rows =>
    simp only [Tx.advance] at h
    split_ifs at h
    cases h
    trivial
  | allocInserted rows =>
    obtain ⟨_, hcheck, rfl⟩ := map_toOption_eq_some.mp h
    refine ⟨le_rfl, fun _ hne => ?_⟩
    obtain ⟨row, hrow⟩ := List.exists_mem_of_ne_nil rows hne
    exact checkR2_eq_ok (forM_eq_ok.mp hcheck row hrow)
  | refundProven row seen | allocProven rows seen => cases h

lemma commits_of_commit (h : Tx.commit db t = some db') : db'.commits = db.commits + 1 := by
  unfold Tx.commit at h
  split at h
  · split_ifs at h
    rw [← Option.some.inj h]
  · split_ifs at h
    rw [← Option.some.inj h]
  · cases h

lemma Tx.Fits.frame {u : Tx} (h : Tx.commit db t = some db') (hu : u.Fits db) : u.Fits db' := by
  have hcommits := commits_of_commit h
  cases u with
  | refundProven row seen | allocProven rows seen =>
    obtain ⟨hle, -⟩ := hu
    exact ⟨by omega, fun heq => by omega⟩
  | _ => trivial

lemma Ceiling.commit {s : State FundsDb Tx} {i : ℕ} (hdb : Ceiling s.db)
    (hfenced : fenced s (.commit i) = true) (ht : s.inFlight[i]? = some t) (hfits : t.Fits s.db)
    (h : Tx.commit s.db t = some db) : Ceiling db := by
  unfold Tx.commit at h
  split at h
  · rename_i row seen
    split_ifs at h with hfree
    cases h
    have hseen : seen = s.db.commits := by simpa [fenced, ht] using hfenced
    intro confirmed hconfirmed
    have hroom := hfits.2 hseen confirmed hconfirmed
    have hown := liveTotal_singleton_le row
    rw [otherRefunds_of_free hfree] at hroom
    show activeTotal s.db.allocations + liveTotal (s.db.refunds ++ [row]) ≤ confirmed
    rw [liveTotal_append]
    omega
  · rename_i rows seen
    split_ifs at h with hfree
    cases h
    obtain ⟨hseen, hnone⟩ : seen = s.db.commits ∧ (s.db.refunds.all fun r => !r.live) = true := by
      simpa [fenced, ht] using hfenced
    intro confirmed hconfirmed
    show activeTotal (s.db.allocations ++ rows) + liveTotal s.db.refunds ≤ confirmed
    -- a batch without rows has no trigger, and changes nothing
    rcases eq_or_ne rows [] with rfl | hne
    · rw [List.append_nil]
      exact hdb confirmed hconfirmed
    · rw [liveTotal_eq_zero hnone, add_zero]
      exact hfits.2 hseen hne confirmed hconfirmed
  · cases h

/-- **The refund ceiling.** From data within the ceiling, the active allocations and the live
refunds stay within the confirmed amount at every point of every fenced interleaving.

**Proof sketch.** Nothing changes between the triggers of a transaction and its commit, so a refund
still fits then (R6), and so do allocations (R2) when no refund is live. -/
theorem ceiling_kept (db : FundsDb) (hdb : Ceiling db) (events : List (Event Request))
    (hfenced : Meets (Transactions.step system) (fun s e => fenced s e = true) ⟨db, []⟩ events)
    (k : ℕ) : Ceiling (run (Transactions.step system) ⟨db, []⟩ (events.take k)).db := by
  have hholds : Holds Ceiling (fun db (t : Tx) => t.Fits db) (⟨db, []⟩ : State FundsDb Tx) :=
    ⟨hdb, fun t ht => absurd ht List.not_mem_nil⟩
  refine (Transactions.invariant_at ?_ ?_ ?_ ?_ hholds hfenced k).data
  · intro s r _
    cases r <;> trivial
  · intro db t t' _ _ hadvance
    exact Tx.Fits.advance hadvance
  · intro s i t db hC ht hdb hfits hcommit
    exact Ceiling.commit hdb hC ht hfits hcommit
  · intro db t db' u _ hcommit hu
    exact hu.frame hcommit

/-! ## Runs on one payment -/

def hundred : FundsDb where
  payment := ⟨"p1", "org", none, "c2b", "QWE1234567", "key", .confirmed, "KES", 10000, some 10000,
    [], by decide⟩
  allocations := []
  refunds := []
  commits := 0

def beginRefund (id : Uuid) (amountMinor : ℤ) : Event Request :=
  .begin (.refund ⟨"clerk", amountMinor, "KES", "returned goods"⟩ id)

def beginAllocation (id : Uuid) (amountMinor sequenceNo : ℤ) (hpos : 0 < amountMinor) :
    Event Request :=
  .begin (.allocate [⟨id, amountMinor, sequenceNo, none, none, hpos⟩])

/-- An allocation and then a refund of what it leaves. -/
def inTurn : List (Event Request) :=
  [beginAllocation "a1" 4000 1 (by decide), .advance 0, .advance 0, .commit 0,
    beginRefund "r1" 6000, .advance 0, .advance 0, .advance 0, .commit 0]

/-- The whole payment is drawn, and nothing more. -/
theorem ceiling_kept_in_turn :
    Ceiling hundred ∧
      Meets (Transactions.step system) (fun s e => fenced s e = true) ⟨hundred, []⟩ inTurn ∧
      (run (Transactions.step system) ⟨hundred, []⟩ inTurn).db.commits = 2 ∧
      Ceiling (run (Transactions.step system) ⟨hundred, []⟩ inTurn).db :=
  ⟨by decide +kernel, by decide +kernel, by decide +kernel,
    ceiling_kept hundred (by decide +kernel) inTurn (by decide +kernel) 9⟩

/-- Two commits for each clause of the condition: an allocation after a refund, two refunds, two
allocations, and a refund beside an allocation, where all triggers run before the first commit. -/
def unfenced : List (List (Event Request)) :=
  [[beginRefund "r1" 6000, .advance 0, .advance 0, .advance 0, .commit 0,
      beginAllocation "a1" 8000 1 (by decide), .advance 0, .advance 0, .commit 0],
    [beginRefund "r1" 6000, beginRefund "r2" 6000, .advance 0, .advance 0, .advance 1, .advance 1,
      .advance 0, .advance 1, .commit 0, .commit 0],
    [beginAllocation "a1" 6000 1 (by decide), beginAllocation "a2" 6000 2 (by decide), .advance 0,
      .advance 0, .advance 1, .advance 1, .commit 0, .commit 0],
    [beginRefund "r1" 6000, beginAllocation "a1" 8000 1 (by decide), .advance 0, .advance 0,
      .advance 0, .advance 1, .advance 1, .commit 1, .commit 0]]

/-- **The ceiling is broken** in each of these runs: more than the 100.00 of the payment is
drawn. -/
theorem ceiling_broken :
    (unfenced.map fun events => (run (Transactions.step system) ⟨hundred, []⟩ events).db.commits) =
        [2, 2, 2, 2] ∧
      ∀ events ∈ unfenced, ¬ Ceiling (run (Transactions.step system) ⟨hundred, []⟩ events).db := by
  decide +kernel

end Fuatilia.Backend.Funds
