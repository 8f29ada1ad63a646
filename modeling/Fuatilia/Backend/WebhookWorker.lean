import Fuatilia.Foundations.Keyed
import Fuatilia.Foundations.Lists
import Fuatilia.Foundations.Machine
import Fuatilia.Shared.Primitives

/-!
# The webhook delivery workers

Any number of workers share the table `webhook_deliveries`. A claim is a lease: when it has expired,
another worker may claim the same delivery, and the first one may still report.

## Main definitions

* `Worker.claimDue`, `Worker.recordSuccess`, `Worker.recordFailure` — the transactions of a worker.
* `Worker.Safe`, `Worker.ReportsInTime` — the law of the table, and the condition on reports.

## Main results

* `Worker.record_of_admits`, `Worker.record_of_not_admits` — when a record lands and what it does.
* `Worker.safe_iff` — the law holds along a run exactly under the condition.

## Implementation notes

Timestamps, the clock of the table and the rows that others hold locked are inputs of a step. The
trigger that freezes ended rows is left out, since no statement here reaches such a row. A worker
that dies, or whose call to the store fails, is one that never reports.
-/

namespace Fuatilia.Backend.Worker

open Machine

/-! ## The table -/

inductive WebhookState where
  | queued
  | delivering
  | delivered
  | failed
  | deadLettered
  deriving DecidableEq

def WebhookState.isTerminal : WebhookState → Bool
  | .delivered | .deadLettered => true
  | _ => false

structure DeliveryRow where
  id : Uuid
  orgID : Uuid
  endpointID : Uuid
  eventID : Uuid
  eventType : String
  payload : String
  state : WebhookState
  attemptCount : ℕ
  nextAttemptAt : Option ℤ
  deliveredAt : Option ℤ
  deadLetteredAt : Option ℤ
  lastError : Option String
  createdAt : ℤ
  updatedAt : ℤ

structure EndpointRow where
  orgID : Uuid
  id : Uuid
  url : String
  active : Bool

structure Db where
  endpoints : List EndpointRow
  deliveries : List DeliveryRow
  primaryKey : (deliveries.map DeliveryRow.id).Nodup

structure Patch where
  apply : DeliveryRow → DeliveryRow
  id_eq : ∀ row, (apply row).id = row.id

def Db.patch (db : Db) (id : Uuid) (change : Patch) : Db where
  endpoints := db.endpoints
  deliveries := db.deliveries.map fun row => if row.id = id then change.apply row else row
  primaryKey := by
    have hids : (db.deliveries.map fun row => if row.id = id then change.apply row else row).map
        DeliveryRow.id = db.deliveries.map DeliveryRow.id := by
      rw [List.map_map]
      refine List.map_congr_left fun row _ => ?_
      by_cases h : row.id = id
      · simp [h, change.id_eq]
      · simp [h]
    rw [hids]
    exact db.primaryKey

def Db.insert (db : Db) (row : DeliveryRow) (h : row.id ∉ db.deliveries.map DeliveryRow.id) :
    Db where
  endpoints := db.endpoints
  deliveries := db.deliveries ++ [row]
  primaryKey := Lists.nodup_map_concat db.primaryKey h

/-! ## The calls of the store -/

def DeliveryRow.dueAt (row : DeliveryRow) : ℤ := row.nextAttemptAt.getD row.createdAt

/-- The rows that `claimDueSQL` selects: due ones of active endpoints, and claimed ones whose lease
has expired. -/
def isDue (db : Db) (now lease : ℤ) (row : DeliveryRow) : Bool :=
  (db.endpoints.any fun e => e.orgID = row.orgID ∧ e.id = row.endpointID ∧ e.active) &&
    (decide ((row.state = .queued ∨ row.state = .failed) ∧ row.dueAt ≤ now) ||
      decide (row.state = .delivering ∧ row.updatedAt ≤ now - lease))

/-- `ORDER BY COALESCE(next_attempt_at, created_at), created_at, id`. -/
def precedes (a b : DeliveryRow) : Bool :=
  a.dueAt < b.dueAt || (a.dueAt = b.dueAt && (a.createdAt < b.createdAt ||
    (a.createdAt = b.createdAt && a.id ≤ b.id)))

def earliest : List DeliveryRow → Option DeliveryRow
  | [] => none
  | row :: rows =>
    match earliest rows with
    | none => some row
    | some best => if precedes row best then some row else some best

structure Claimed where
  id : Uuid
  orgID : Uuid
  endpointID : Uuid
  eventID : Uuid
  eventType : String
  endpointURL : String
  payload : String
  attemptCount : ℕ
  attemptNo : ℕ
  createdAt : ℤ

/-- The claim stamps the state; the touch trigger restarts the lease. -/
def claimPatch (dbNow : ℤ) : Patch where
  apply row := { row with state := .delivering, updatedAt := dbNow }
  id_eq _ := rfl

/-- `ClaimDue`: the next due delivery that no other transaction holds locked. -/
def claimDue (db : Db) (now lease : ℤ) (locked : List Uuid) (dbNow : ℤ) :
    Option (Claimed × Db) := do
  let row ← earliest (db.deliveries.filter fun row => isDue db now lease row && row.id ∉ locked)
  let endpoint ← db.endpoints.find? fun e => e.orgID = row.orgID ∧ e.id = row.endpointID ∧ e.active
  some ({ id := row.id, orgID := row.orgID, endpointID := row.endpointID, eventID := row.eventID,
          eventType := row.eventType, endpointURL := endpoint.url, payload := row.payload,
          attemptCount := row.attemptCount, attemptNo := row.attemptCount + 1,
          createdAt := row.createdAt },
    db.patch row.id (claimPatch dbNow))

def successPatch (attemptNo : ℕ) (time dbNow : ℤ) : Patch where
  apply row :=
    if row.state = .delivering then
      { row with state := .delivered, deliveredAt := some time, attemptCount := attemptNo,
                 nextAttemptAt := none, lastError := none, updatedAt := dbNow }
    else row
  id_eq row := by split <;> rfl

def recordSuccess (db : Db) (deliveryID : Uuid) (attemptNo : ℕ) (time dbNow : ℤ) : Db :=
  db.patch deliveryID (successPatch attemptNo time dbNow)

def willRetry (attemptNo : ℕ) (ladder : List ℤ) : Bool := attemptNo ≤ ladder.length

def backoffFor (attemptNo : ℕ) (ladder : List ℤ) : Option ℤ :=
  if attemptNo < 1 then none else ladder[attemptNo - 1]?

def failurePatch (attemptNo : ℕ) (reason : String) (next : Option ℤ) (time dbNow : ℤ) : Patch where
  apply row :=
    if row.state = .delivering then
      { row with attemptCount := attemptNo, lastError := some reason,
                 state := if next.isSome then .failed else .deadLettered, nextAttemptAt := next,
                 deadLetteredAt := if next.isSome then none else some time, updatedAt := dbNow }
    else row
  id_eq row := by split <;> rfl

/-- `RecordFailure`: the row is locked and compared with the claim, and the ladder decides. -/
def recordFailure (db : Db) (deliveryID : Uuid) (attemptNo : ℕ) (reason : String) (time : ℤ)
    (ladder : List ℤ) (dbNow : ℤ) : Db :=
  match db.deliveries.find? fun row => row.id = deliveryID with
  | none => db
  | some row =>
    if row.state ≠ .delivering ∨ row.attemptCount + 1 ≠ attemptNo then db
    else if willRetry attemptNo ladder then
      match backoffFor attemptNo ladder with
      | none => db
      | some backoff =>
        db.patch deliveryID (failurePatch attemptNo reason (some (time + backoff)) time dbNow)
    else db.patch deliveryID (failurePatch attemptNo reason none time dbNow)

/-! ## The workers -/

/-- What an attempt came to: no key, no signature, no answer, or a status. -/
inductive WireResult where
  | keyUnavailable (err : String)
  | signingFailed (err : String)
  | timedOut
  | transportError (err : String)
  | status (code : ℤ)

/-- The outcome of an attempt: nothing for a success, or the reason of the failure. -/
def classifyAttempt : WireResult → Option String
  | .keyUnavailable err => some s!"signing key unavailable: {err}"
  | .signingFailed err => some s!"signing failed: {err}"
  | .timedOut => some "delivery timed out"
  | .transportError err => some s!"transport error: {err}"
  | .status code =>
    if 200 ≤ code ∧ code ≤ 299 then none else some s!"endpoint returned http {code}"

structure Holding where
  claimed : Claimed
  reported : Bool

structure World where
  db : Db
  claims : List Holding

inductive Event where
  | enqueue (row : DeliveryRow)
  | setActive (orgID endpointID : Uuid) (active : Bool)
  | claim (now lease : ℤ) (locked : List Uuid) (dbNow : ℤ)
  | report (i : ℕ) (result : WireResult) (ladder : List ℤ) (time dbNow : ℤ)

def record (db : Db) (claimed : Claimed) (result : WireResult) (ladder : List ℤ) (time dbNow : ℤ) :
    Db :=
  match classifyAttempt result with
  | none => recordSuccess db claimed.id claimed.attemptNo time dbNow
  | some reason => recordFailure db claimed.id claimed.attemptNo reason time ladder dbNow

def step (world : World) : Event → Option World
  | .enqueue row =>
    if h : row.id ∉ world.db.deliveries.map DeliveryRow.id then
      some { world with db := world.db.insert row h }
    else none
  | .setActive orgID endpointID active =>
    some { world with db := { world.db with
      endpoints := world.db.endpoints.map fun e =>
        if e.orgID = orgID ∧ e.id = endpointID then { e with active } else e } }
  | .claim now lease locked dbNow =>
    (claimDue world.db now lease locked dbNow).map fun (claimed, db) =>
      { db, claims := world.claims ++ [⟨claimed, false⟩] }
  | .report i result ladder time dbNow =>
    match world.claims[i]? with
    | some ⟨claimed, false⟩ =>
      some { db := record world.db claimed result ladder time dbNow
             claims := world.claims.set i ⟨claimed, true⟩ }
    | _ => none

/-- The delivery of claim `i` has been claimed again since. -/
def lost (world : World) (i : ℕ) : Bool :=
  match world.claims[i]? with
  | some holding => (world.claims.drop (i + 1)).any fun h => h.claimed.id = holding.claimed.id
  | none => false

/-! ## What should hold -/

def Grows (db after : Db) : Prop :=
  ∀ row ∈ db.deliveries, ∃ row' ∈ after.deliveries, row'.id = row.id ∧
    row.attemptCount ≤ row'.attemptCount ∧ (row.state.isTerminal = true → row' = row)

/-- A step is safe: an outcome reported under a lost claim is discarded, no attempt count falls, and
ended deliveries do not change. -/
structure Safe (world : World) (event : Event) : Prop where
  discarded : ∀ i result ladder time dbNow, event = .report i result ladder time dbNow →
    lost world i = true → (next step world event).db = world.db
  grows : Grows world.db (next step world event).db

/-- The delivery is claimed, and for a failure at the attempt of this claim. -/
def Admits (db : Db) (claimed : Claimed) (result : WireResult) : Prop :=
  ∃ row ∈ db.deliveries, row.id = claimed.id ∧ row.state = .delivering ∧
    ((classifyAttempt result).isSome → row.attemptCount + 1 = claimed.attemptNo)

/-- A worker that has lost its claim reports only while nobody holds the delivery, or, for a
failure, while it is held for another attempt. -/
def ReportsInTime (world : World) : Event → Prop
  | .report i result _ _ _ => lost world i = true → ∀ claimed,
      world.claims[i]? = some ⟨claimed, false⟩ → ¬ Admits world.db claimed result
  | _ => True

/-! ## What the calls of the store do -/

section Calls

variable {db : Db} {id : Uuid} {change : Patch}

variable {after : Db} {row : DeliveryRow}

lemma Db.ext_rows (hendpoints : db.endpoints = after.endpoints)
    (hrows : db.deliveries = after.deliveries) : db = after := by
  cases db
  cases after
  simp_all

lemma eq_of_id_eq {row' : DeliveryRow} (h : row ∈ db.deliveries) (h' : row' ∈ db.deliveries)
    (hid : row.id = row'.id) : row = row' :=
  List.inj_on_of_nodup_map db.primaryKey h h' hid

lemma mem_patch (h : row ∈ db.deliveries) :
    (if row.id = id then change.apply row else row) ∈ (db.patch id change).deliveries :=
  List.mem_map_of_mem h

lemma patch_eq_self (h : ∀ row ∈ db.deliveries, row.id = id → change.apply row = row) :
    db.patch id change = db := by
  refine Db.ext_rows rfl ?_
  change db.deliveries.map _ = db.deliveries
  conv_rhs => rw [← List.map_id db.deliveries]
  refine List.map_congr_left fun row hrow => ?_
  by_cases hid : row.id = id
  · rw [if_pos hid, h row hrow hid]
    rfl
  · rw [if_neg hid]
    rfl

lemma grows_patch (hcount : ∀ row ∈ db.deliveries, row.id = id →
      row.attemptCount ≤ (change.apply row).attemptCount ∧
      (row.state.isTerminal = true → change.apply row = row)) :
    Grows db (db.patch id change) := by
  intro row hrow
  refine ⟨_, mem_patch hrow, ?_⟩
  by_cases hid : row.id = id
  · rw [if_pos hid]
    exact ⟨change.id_eq row, hcount row hrow hid⟩
  · rw [if_neg hid]
    exact ⟨rfl, le_refl _, fun _ => rfl⟩

lemma Grows.refl (db : Db) : Grows db db := fun row hrow =>
    ⟨row, hrow, rfl, le_refl _, fun _ => rfl⟩

structure EndsAttempt (change : Patch) (attemptNo : ℕ) : Prop where
  running : ∀ row, row.state = .delivering →
    (change.apply row).state ≠ .delivering ∧ (change.apply row).attemptCount = attemptNo
  other : ∀ row, row.state ≠ .delivering → change.apply row = row

lemma successPatch_endsAttempt (attemptNo : ℕ) (time dbNow : ℤ) :
    EndsAttempt (successPatch attemptNo time dbNow) attemptNo where
  running row h := by simp [successPatch, h]
  other row h := by simp [successPatch, h]

lemma failurePatch_endsAttempt (attemptNo : ℕ) (reason : String) (next : Option ℤ)
    (time dbNow : ℤ) : EndsAttempt (failurePatch attemptNo reason next time dbNow) attemptNo where
  running row h := by cases next <;> simp [failurePatch, h]
  other row h := by simp [failurePatch, h]

lemma recordFailure_of_admits {deliveryID : Uuid} {attemptNo : ℕ}
    (hrow : row ∈ db.deliveries) (hid : row.id = deliveryID) (hstate : row.state = .delivering)
    (hcount : row.attemptCount + 1 = attemptNo) (reason : String) (time : ℤ) (ladder : List ℤ)
    (dbNow : ℤ) : ∃ next, recordFailure db deliveryID attemptNo reason time ladder dbNow =
      db.patch deliveryID (failurePatch attemptNo reason next time dbNow) := by
  have hfind : (db.deliveries.find? fun r => r.id = deliveryID) = some row :=
    hid ▸ Keyed.find?_key db.primaryKey hrow
  simp only [recordFailure, hfind, hstate, hcount, ne_eq, not_true_eq_false, or_self, if_false]
  by_cases hretry : willRetry attemptNo ladder = true
  · have hlt : attemptNo - 1 < ladder.length := by
      simp only [willRetry, decide_eq_true_eq] at hretry
      omega
    have hbackoff : backoffFor attemptNo ladder = some ladder[attemptNo - 1] := by
      rw [backoffFor, if_neg (by omega), List.getElem?_eq_getElem hlt]
    rw [if_pos hretry, hbackoff]
    exact ⟨_, rfl⟩
  · rw [if_neg hretry]
    exact ⟨none, rfl⟩

variable {claimed : Claimed} {result : WireResult}

lemma record_of_admits (h : Admits db claimed result) (ladder : List ℤ) (time dbNow : ℤ) :
    ∃ change, record db claimed result ladder time dbNow = db.patch claimed.id change ∧
      EndsAttempt change claimed.attemptNo := by
  obtain ⟨row, hrow, hid, hstate, hfailure⟩ := h
  rw [record]
  cases houtcome : classifyAttempt result with
  | none => exact ⟨_, rfl, successPatch_endsAttempt _ _ _⟩
  | some reason =>
    have hcount := hfailure (by rw [houtcome]; rfl)
    obtain ⟨next, hnext⟩ :=
      recordFailure_of_admits hrow hid hstate hcount reason time ladder dbNow
    exact ⟨_, hnext, failurePatch_endsAttempt _ _ _ _ _⟩

lemma record_of_not_admits (h : ¬ Admits db claimed result) (ladder : List ℤ) (time dbNow : ℤ) :
    record db claimed result ladder time dbNow = db := by
  rw [record]
  cases houtcome : classifyAttempt result with
  | none =>
    refine patch_eq_self fun row hrow hid => ?_
    refine (successPatch_endsAttempt _ _ _).other row fun hstate => h ?_
    exact ⟨row, hrow, hid, hstate, by simp [houtcome]⟩
  | some reason =>
    simp only [recordFailure]
    split
    · rfl
    · rename_i row hfound
      have hguard : row.state ≠ .delivering ∨ row.attemptCount + 1 ≠ claimed.attemptNo := by
        by_contra hpass
        simp only [ne_eq, not_or, not_not] at hpass
        obtain ⟨hmem, hid⟩ := Fallible.of_find hfound
        exact h ⟨row, hmem, hid, hpass.1, fun _ => hpass.2⟩
      rw [if_pos hguard]

lemma earliest_mem {rows : List DeliveryRow} (h : earliest rows = some row) : row ∈ rows := by
  induction rows generalizing row with
  | nil => cases h
  | cons first rest ih =>
    rw [earliest] at h
    split at h
    · cases h
      exact List.mem_cons_self
    · rename_i best hbest
      split_ifs at h
      · cases h
        exact List.mem_cons_self
      · cases h
        exact List.mem_cons_of_mem _ (ih hbest)

lemma claimDue_eq_some {now lease : ℤ} {locked : List Uuid} {dbNow : ℤ}
    (h : claimDue db now lease locked dbNow = some (claimed, after)) :
    ∃ row ∈ db.deliveries, row.id = claimed.id ∧ row.state.isTerminal = false ∧
      claimed.attemptNo = row.attemptCount + 1 ∧ after = db.patch row.id (claimPatch dbNow) := by
  simp only [claimDue, Option.bind_eq_bind, Option.bind_eq_some_iff, Option.some.injEq,
    Prod.mk.injEq] at h
  obtain ⟨row, hrow, endpoint, -, rfl, rfl⟩ := h
  obtain ⟨hmem, hdue⟩ := List.mem_filter.mp (earliest_mem hrow)
  refine ⟨row, hmem, rfl, ?_, rfl, rfl⟩
  simp only [isDue, Bool.and_eq_true, Bool.or_eq_true, decide_eq_true_eq] at hdue
  rcases hdue.1.2 with ⟨hstate | hstate, -⟩ | ⟨hstate, -⟩ <;> rw [hstate] <;> rfl

end Calls

/-! ## The invariant -/

def World.targets (world : World) : List Uuid := world.claims.map fun h => h.claimed.id

variable {i : ℕ} {world : World} {event : Event}

lemma lost_iff :
    lost world i = true ↔ ∃ j, i < j ∧ ∃ id, world.targets[i]? = some id ∧
      world.targets[j]? = some id := by
  simp only [lost, World.targets, List.getElem?_map]
  cases world.claims[i]? with
  | none => simp
  | some holding =>
    simp only [List.any_eq_true, decide_eq_true_eq, Option.map_some, Option.some.injEq,
      exists_eq_left']
    constructor
    · rintro ⟨later, hlater, hid⟩
      obtain ⟨k, hk⟩ := List.mem_iff_getElem?.mp hlater
      rw [List.getElem?_drop] at hk
      exact ⟨i + 1 + k, by omega, by rw [hk, Option.map_some, hid]⟩
    · rintro ⟨j, hj, hid⟩
      obtain ⟨later, hlater, hid⟩ := Option.map_eq_some_iff.mp hid
      refine ⟨later, List.mem_iff_getElem?.mpr ⟨j - (i + 1), ?_⟩, hid⟩
      rw [List.getElem?_drop, ← hlater]
      congr 1
      omega

/-- Claims are for known deliveries, and a claim that is not lost and not yet reported is for the
next attempt of its delivery. -/
structure Inv (world : World) : Prop where
  known : ∀ id ∈ world.targets, ∃ row ∈ world.db.deliveries, row.id = id
  current : ∀ (i : ℕ) (claimed : Claimed), world.claims[i]? = some ⟨claimed, false⟩ →
    lost world i = false → ∀ row ∈ world.db.deliveries, row.id = claimed.id →
      row.attemptCount + 1 = claimed.attemptNo

variable {claimed : Claimed} {id : Uuid} {change : Patch} {db : Db} {row : DeliveryRow}
  {now lease dbNow : ℤ} {locked : List Uuid} {after : World}

lemma targets_set {reported : Bool} (h : world.claims[i]? = some ⟨claimed, reported⟩) (db : Db) :
    (World.mk db (world.claims.set i ⟨claimed, true⟩)).targets = world.targets :=
  Lists.map_set_of_eq _ h rfl

lemma target_of_claim {holding : Holding} (h : world.claims[i]? = some holding) :
    world.targets[i]? = some holding.claimed.id := by
  rw [World.targets, List.getElem?_map, h]
  rfl

lemma known_patch
    (hknown : ∀ target ∈ world.targets, ∃ row ∈ world.db.deliveries, row.id = target) :
    ∀ target ∈ world.targets, ∃ row ∈ (world.db.patch id change).deliveries, row.id = target := by
  intro target htarget
  obtain ⟨row, hrow, hid⟩ := hknown target htarget
  refine ⟨_, mem_patch hrow, ?_⟩
  split
  · rw [change.id_eq, hid]
  · exact hid

lemma of_mem_patch (h : row ∈ (db.patch id change).deliveries) :
    ∃ before ∈ db.deliveries, before.id = row.id ∧
      row = if before.id = id then change.apply before else before := by
  obtain ⟨before, hbefore, rfl⟩ := List.mem_map.mp h
  refine ⟨before, hbefore, ?_, rfl⟩
  split
  · rw [change.id_eq]
  · rfl

lemma Inv.claim (hinv : Inv world)
    (h : claimDue world.db now lease locked dbNow = some (claimed, db)) :
    Inv ⟨db, world.claims ++ [⟨claimed, false⟩]⟩ := by
  obtain ⟨row, hrow, hid, -, hattempt, rfl⟩ := claimDue_eq_some h
  have htargets : (World.mk (world.db.patch row.id (claimPatch dbNow))
      (world.claims ++ [⟨claimed, false⟩])).targets = world.targets ++ [claimed.id] := by
    simp [World.targets]
  have hcounts : ∀ after ∈ (world.db.patch row.id (claimPatch dbNow)).deliveries,
      ∃ before ∈ world.db.deliveries, before.id = after.id ∧
        after.attemptCount = before.attemptCount := by
    intro after hafter
    obtain ⟨before, hbefore, hsame, rfl⟩ := of_mem_patch hafter
    refine ⟨before, hbefore, hsame, ?_⟩
    split <;> rfl
  constructor
  · rw [htargets]
    refine Lists.forall_mem_concat (known_patch hinv.known) ⟨_, mem_patch hrow, ?_⟩
    rw [if_pos rfl]
    exact hid
  · intro i other hother hkept after hafter hsame
    obtain ⟨before, hbefore, hbeforeId, hcount⟩ := hcounts after hafter
    rw [hcount]
    rcases lt_or_ge i world.claims.length with hlt | hge
    · rw [List.getElem?_append_left hlt] at hother
      -- the claim was not lost before, and it is for another delivery
      refine hinv.current i other hother ?_ before hbefore (hbeforeId.trans hsame)
      by_contra hlost
      rw [Bool.not_eq_false, lost_iff] at hlost
      obtain ⟨j, hj, target, hi, hj'⟩ := hlost
      rw [← Bool.not_eq_true, lost_iff] at hkept
      refine hkept ⟨j, hj, target, ?_, ?_⟩
      · rw [htargets, List.getElem?_append_left (by simpa [World.targets] using hlt), hi]
      · rw [htargets, List.getElem?_append_left (List.getElem?_eq_some_iff.mp hj').1, hj']
    · have hi : i = world.claims.length := by
        have hbound := (List.getElem?_eq_some_iff.mp hother).1
        rw [List.length_append, List.length_singleton] at hbound
        omega
      subst hi
      simp only [List.getElem?_concat_length, Option.some.injEq, Holding.mk.injEq, and_true]
        at hother
      subst hother
      rw [eq_of_id_eq hbefore hrow (hbeforeId.trans (hsame.trans hid.symm)), hattempt]

lemma lost_congr (h : after.targets = world.targets) (i : ℕ) : lost after i = lost world i := by
  rw [Bool.eq_iff_iff, lost_iff, lost_iff, h]

lemma lost_of_same_target {j : ℕ} (hij : i ≠ j) (hi : world.targets[i]? = some id)
    (hj : world.targets[j]? = some id) : lost world i = true ∨ lost world j = true := by
  rcases Nat.lt_or_gt_of_ne hij with hlt | hgt
  · exact .inl (lost_iff.mpr ⟨j, hlt, id, hi, hj⟩)
  · exact .inr (lost_iff.mpr ⟨i, hgt, id, hj, hi⟩)

lemma Inv.report (hinv : Inv world) {result : WireResult}
    (hclaim : world.claims[i]? = some ⟨claimed, false⟩)
    (hcond : lost world i = true → ¬ Admits world.db claimed result) (ladder : List ℤ)
    (time dbNow : ℤ) :
    Inv ⟨record world.db claimed result ladder time dbNow, world.claims.set i ⟨claimed, true⟩⟩ := by
  have htargets := targets_set hclaim (record world.db claimed result ladder time dbNow)
  have hothers : ∀ (j : ℕ) (other : Claimed),
      (world.claims.set i ⟨claimed, true⟩)[j]? = some ⟨other, false⟩ →
      j ≠ i ∧ world.claims[j]? = some ⟨other, false⟩ := by
    intro j other hother
    have hji : j ≠ i := by
      rintro rfl
      rw [List.getElem?_set_self (List.getElem?_eq_some_iff.mp hclaim).1] at hother
      cases hother
    rw [List.getElem?_set_ne hji.symm] at hother
    exact ⟨hji, hother⟩
  by_cases hadmits : Admits world.db claimed result
  · have hkept : lost world i = false := Bool.eq_false_iff.mpr fun hlost => hcond hlost hadmits
    obtain ⟨change, hrecord, -⟩ := record_of_admits hadmits ladder time dbNow
    constructor
    · rw [htargets]
      change ∀ id ∈ world.targets, ∃ row ∈ (record _ _ _ _ _ _).deliveries, row.id = id
      rw [hrecord]
      exact known_patch hinv.known
    · intro j other hother hjkept row hrow hid
      obtain ⟨hji, hother⟩ := hothers j other hother
      rw [lost_congr htargets] at hjkept
      change row ∈ (record _ _ _ _ _ _).deliveries at hrow
      rw [hrecord] at hrow
      obtain ⟨before, hbefore, hbeforeId, rfl⟩ := of_mem_patch hrow
      have hne : before.id ≠ claimed.id := by
        intro hsame
        have htarget : world.targets[j]? = some claimed.id := by
          rw [target_of_claim hother, ← hsame, hbeforeId, hid]
        rcases lost_of_same_target hji htarget (target_of_claim hclaim) with h | h
        · rw [hjkept] at h
          cases h
        · rw [hkept] at h
          cases h
      rw [if_neg hne] at hid ⊢
      exact hinv.current j other hother hjkept before hbefore hid
  · have hrecord := record_of_not_admits hadmits ladder time dbNow
    rw [hrecord] at htargets ⊢
    constructor
    · rw [htargets]
      exact hinv.known
    · intro j other hother hjkept
      rw [lost_congr htargets] at hjkept
      exact hinv.current j other (hothers j other hother).2 hjkept

lemma Inv.enqueue (hinv : Inv world) (hfresh : row.id ∉ world.db.deliveries.map DeliveryRow.id) :
    Inv { world with db := world.db.insert row hfresh } := by
  constructor
  · intro id hid
    obtain ⟨known, hknown, hsame⟩ := hinv.known id hid
    exact ⟨known, List.mem_append_left _ hknown, hsame⟩
  · intro i claimed hclaim hkept r hr hid
    rcases Lists.mem_concat hr with hold | rfl
    · exact hinv.current i claimed hclaim hkept r hold hid
    · have htarget : claimed.id ∈ world.targets := List.mem_of_getElem? (target_of_claim hclaim)
      obtain ⟨known, hknown, hsame⟩ := hinv.known claimed.id htarget
      exact absurd (List.mem_map.mpr ⟨known, hknown, hsame.trans hid.symm⟩) hfresh

lemma inv_step (hcond : ReportsInTime world event) (hinv : Inv world)
    (h : step world event = some after) : Inv after := by
  cases event with
  | enqueue row =>
    simp only [step] at h
    split_ifs at h with hfresh
    cases h
    exact hinv.enqueue hfresh
  | setActive orgID endpointID active =>
    cases h
    exact ⟨hinv.known, hinv.current⟩
  | claim now lease locked dbNow =>
    simp only [step, Option.map_eq_some_iff] at h
    obtain ⟨⟨claimed, db⟩, hclaim, rfl⟩ := h
    exact hinv.claim hclaim
  | report i result ladder time dbNow =>
    simp only [step] at h
    split at h
    · rename_i claimed hclaim
      cases h
      exact hinv.report hclaim (fun hlost => hcond hlost claimed hclaim) ladder time dbNow
    · cases h

/-! ## Safe steps -/

lemma grows_claim {after : Db} (h : claimDue db now lease locked dbNow = some (claimed, after)) :
    Grows db after := by
  obtain ⟨row, hrow, -, hopen, -, rfl⟩ := claimDue_eq_some h
  refine grows_patch fun other hother hid => ⟨le_refl _, fun hterminal => ?_⟩
  rw [eq_of_id_eq hother hrow hid, hopen] at hterminal
  cases hterminal

lemma grows_record (result : WireResult) (ladder : List ℤ)
    (time dbNow : ℤ) (hcurrent : Admits db claimed result → ∀ row ∈ db.deliveries,
      row.id = claimed.id → row.attemptCount + 1 = claimed.attemptNo) :
    Grows db (record db claimed result ladder time dbNow) := by
  by_cases hadmits : Admits db claimed result
  · obtain ⟨change, hrecord, hends⟩ := record_of_admits hadmits ladder time dbNow
    rw [hrecord]
    refine grows_patch fun row hrow hid => ?_
    by_cases hstate : row.state = .delivering
    · have hnext := hcurrent hadmits row hrow hid
      refine ⟨by rw [(hends.running row hstate).2]; omega, fun hterminal => ?_⟩
      rw [hstate] at hterminal
      cases hterminal
    · rw [hends.other row hstate]
      exact ⟨le_refl _, fun _ => rfl⟩
  · rw [record_of_not_admits hadmits]
    exact Grows.refl db

lemma reportsInTime_of_safe (hsafe : Safe world event) :
    ReportsInTime world event := by
  cases event with
  | enqueue | setActive | claim => trivial
  | report i result ladder time dbNow =>
    intro hlost claimed hclaim hadmits
    have hsame := hsafe.discarded i result ladder time dbNow rfl hlost
    have hnext : (next step world (.report i result ladder time dbNow)).db =
        record world.db claimed result ladder time dbNow := by
      have hstep : step world (.report i result ladder time dbNow) =
          some ⟨record world.db claimed result ladder time dbNow,
            world.claims.set i ⟨claimed, true⟩⟩ := by
        simp [step, hclaim]
      rw [next_of_some hstep]
    obtain ⟨change, hrecord, hends⟩ := record_of_admits hadmits ladder time dbNow
    rw [hnext, hrecord] at hsame
    obtain ⟨row, hrow, hid, hstate, -⟩ := hadmits
    have hchanged : (if row.id = claimed.id then change.apply row else row) ∈
        (world.db.patch claimed.id change).deliveries := mem_patch hrow
    rw [hsame, if_pos hid] at hchanged
    have heq := eq_of_id_eq hchanged hrow (change.id_eq row)
    have hends' := (hends.running row hstate).1
    rw [heq] at hends'
    exact hends' hstate

lemma safe_of_reportsInTime (hinv : Inv world) (hcond : ReportsInTime world event) :
    Safe world event := by
  cases hstep : step world event with
  | none =>
    have hnext := next_of_none hstep
    exact ⟨fun _ _ _ _ _ _ _ => by rw [hnext], by rw [hnext]; exact Grows.refl _⟩
  | some after =>
    have hnext := next_of_some hstep
    cases event with
    | enqueue row =>
      refine ⟨fun _ _ _ _ _ hevent => (nomatch hevent), ?_⟩
      rw [hnext]
      simp only [step] at hstep
      split_ifs at hstep
      cases hstep
      exact fun r hr => ⟨r, List.mem_append_left _ hr, rfl, le_refl _, fun _ => rfl⟩
    | setActive orgID endpointID active =>
      refine ⟨fun _ _ _ _ _ hevent => (nomatch hevent), ?_⟩
      rw [hnext]
      cases hstep
      exact fun r hr => ⟨r, hr, rfl, le_refl _, fun _ => rfl⟩
    | claim now lease locked dbNow =>
      refine ⟨fun _ _ _ _ _ hevent => (nomatch hevent), ?_⟩
      rw [hnext]
      simp only [step, Option.map_eq_some_iff] at hstep
      obtain ⟨⟨claimed, db⟩, hclaim, rfl⟩ := hstep
      exact grows_claim hclaim
    | report i result ladder time dbNow =>
      simp only [step] at hstep
      split at hstep
      · rename_i claimed hclaim
        cases hstep
        constructor
        · intro j _ _ _ _ hevent hlost
          cases hevent
          rw [hnext]
          exact record_of_not_admits (hcond hlost claimed hclaim) ladder time dbNow
        · rw [hnext]
          refine grows_record result ladder time dbNow fun hadmits => ?_
          refine hinv.current i claimed hclaim (Bool.eq_false_iff.mpr fun hlost => ?_)
          exact hcond hlost claimed hclaim hadmits
      · cases hstep

/-- **When the records of the workers are safe.** In every run from a table without claims: each
outcome reported under a lost claim is discarded, no attempt count ever falls and ended deliveries
never change, exactly when no worker that has lost its claim reports a success while the delivery is
claimed, or a failure while it is claimed for the same attempt.

**Proof sketch.** As long as no lost claim passes the guard of the records, a claim that is not lost
is for the next attempt of its delivery, so that a record raises the count by one. -/
theorem safe_iff (db : Db) (events : List Event) :
    Meets step Safe ⟨db, []⟩ events ↔ Meets step ReportsInTime ⟨db, []⟩ events := by
  have hstart : Inv ⟨db, []⟩ := ⟨fun _ h => (nomatch h), fun _ _ h => (nomatch h)⟩
  have hagree : ∀ world event, Inv world → (Safe world event ↔ ReportsInTime world event) :=
    fun _ _ hinv => ⟨reportsInTime_of_safe, safe_of_reportsInTime hinv⟩
  exact meets_congr (fun _ _ _ => inv_step) hagree events _ hstart

/-! ## A late success -/

def queuedRow : DeliveryRow where
  id := "delivery-1"
  orgID := "org-1"
  endpointID := "endpoint-1"
  eventID := "event-1"
  eventType := "payment.confirmed"
  payload := "null"
  state := .queued
  attemptCount := 0
  nextAttemptAt := none
  deliveredAt := none
  deadLetteredAt := none
  lastError := none
  createdAt := 0
  updatedAt := 0

def oneDelivery : Db where
  endpoints := [⟨"org-1", "endpoint-1", "https://hooks.example.co.ke/in", true⟩]
  deliveries := [queuedRow]
  primaryKey := by decide

def claimAt (time : ℤ) : Event := .claim time 120 [] time

def reportAt (i : ℕ) (code time : ℤ) : Event := .report i (.status code) [30, 120] time time

/-- The first worker's lease expires, a second one fails twice and claims again; then the first one
reports its success. -/
def lateSuccess : List Event :=
  [claimAt 0, claimAt 200, reportAt 1 500 210, claimAt 300, reportAt 2 500 310, claimAt 500]

/-- **A late success lands.** The first worker has lost its claim three times over, its success is
recorded all the same, and the attempt count falls from two to one. -/
theorem late_success_lands :
    let world := run step ⟨oneDelivery, []⟩ lateSuccess
    let after := next step world (reportAt 0 200 510)
    lost world 0 = true ∧
      world.db.deliveries.map (fun row => (row.state, row.attemptCount)) = [(.delivering, 2)] ∧
      after.db.deliveries.map (fun row => (row.state, row.attemptCount)) = [(.delivered, 1)] := by
  decide +kernel

end Fuatilia.Backend.Worker
