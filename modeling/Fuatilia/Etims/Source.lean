import Fuatilia.Etims.Checkpoint
import Fuatilia.Foundations.Procedure

/-!
# The sequence source

The local half of invoice numbering. A refill awaits an answer, and other calls run in between.

## Main definitions

* `reserve` — hand out sequences from the granted stock.
* `refillStart`, `refillResume` — a refill up to its registration call, and from the answer on.

## Main results

* `reserve_spec`, `refillResume_spec` — what the procedures do to the checkpoint.

## Implementation notes

A procedure that throws keeps what it wrote: a reservation whose audit entry is refused has already
moved the checkpoint. The audit trail may refuse any entry (`Audit`). The request of a refill passes
the client's own guards for every valid configuration, so they have no case here.
-/

namespace Fuatilia.Etims

open Procedure Triple Fallible

structure EtimsConfig where
  bandSize : ℕ
  lowWatermark : ℕ
  maxReservation : ℕ

/-- An entry of the reservation audit trail; `instant` is its ISO time. -/
inductive ReservationAuditEvent where
  | bandRegistered (instant requestId bandId : String) (year fromSeq toSeq : ℤ)
  | bandRegisterFailed (instant requestId code : String) (retryable : Bool) (requestedCount : ℕ)
  | reserved (instant bandId : String) (fromSeq toSeq count : ℤ)
  | burned (instant bandId : String) (fromSeq toSeq count : ℤ) (reason : String)
  | refillQueued (instant : String) (requestedCount : ℤ) (reason : String)

def ReservationAuditEvent.kind : ReservationAuditEvent → String
  | bandRegistered .. => "band-registered"
  | bandRegisterFailed .. => "band-register-failed"
  | reserved .. => "reserved"
  | burned .. => "burned"
  | refillQueued .. => "refill-queued"

/-- The injected audit trail during one call: which entries it refuses, and the text of the
error. -/
structure Audit where
  refuses : List ReservationAuditEvent → ReservationAuditEvent → Option String

structure World where
  store : Stored
  trail : List ReservationAuditEvent
  /-- How many request ids were minted; `none` until the minter is built. -/
  minted : Option ℕ

abbrev Call (α : Type) := EStateM Thrown World α

/-! ## Primitives -/

def save (next : SequenceCheckpoint) : Call Unit := modify fun w =>
    { w with store := .checkpoint next }

def loadCheckpoint : Call SequenceCheckpoint := do
  let w ← get
  attempt (validateCheckpoint w.store)

def appendOrThrow (audit : Audit) (event : ReservationAuditEvent) (context : String) :
    Call Unit := do
  let w ← get
  match audit.refuses w.trail event with
  | some message => throw (.domainError "ETIMS_AUDIT_WRITE_FAILED"
      (s!"{context}: the reservation audit trail refused the entry ({message}) — " ++
        "the reservation is refused and its sequences stay burned") [("eventKind", event.kind)])
  | none => modify fun w => { w with trail := w.trail ++ [event] }

def assertEtimsClock (now : Date) : Except Thrown Date :=
  match now with
  | .invalid => .error (DomainError "ETIMS_CLOCK_INVALID"
      "clock.now() must return a valid Date, got Invalid Date")
  | .ofTime _ => .ok now

def assertClockYear (clock : Clock) : Except Thrown (Date × ℤ) := do
  let now ← assertEtimsClock (clock.now 0)
  let year := now.getUTCFullYear.getD 0
  throwIf (year < 1000 ∨ year > 9999) (.domainError "ETIMS_CLOCK_INVALID"
    s!"clock year must be a 4-digit year, got {year}" [("year", toString year)])
  return (now, year)

def staleBands (cursor : ℤ) : List SequenceBand → List SequenceBand
  | [] => []
  | band :: bands =>
    let start := max cursor band.fromSeq
    (if start ≤ band.toSeq then [⟨band.bandId, start, band.toSeq⟩] else []) ++
      staleBands (band.toSeq + 1) bands

/-- Burn all stock of another year: one save, then one audit entry for each band. -/
def burnStaleYear (audit : Audit) (checkpoint : SequenceCheckpoint) (now : Date) :
    Call SequenceCheckpoint := do
  save EMPTY_CHECKPOINT
  forM (staleBands checkpoint.next checkpoint.bands) fun band => do
    let instant ← attempt now.toISOString
    let count := band.toSeq - band.fromSeq + 1
    appendOrThrow audit
      (.burned instant band.bandId band.fromSeq band.toSeq count "YEAR_ROLLOVER")
      s!"burning {count} stale-{checkpoint.year} sequence(s) on {band.bandId}"
  return EMPTY_CHECKPOINT

/-- The checkpoint a call works on: the loaded one, or the empty one after burning stale stock. -/
def currentCheckpoint (audit : Audit) (now : Date) (year : ℤ) : Call SequenceCheckpoint := do
  let checkpoint ← loadCheckpoint
  if checkpoint.year ≠ 0 ∧ checkpoint.year ≠ year then
    burnStaleYear audit checkpoint now
  else
    return checkpoint

/-! ## Reservation -/

def checkCount (config : EtimsConfig) (count : JsNumber) : Except Thrown ℤ :=
  match count.integer.filter (1 ≤ ·) with
  | none => .error (.domainError "ETIMS_COUNT_INVALID"
      s!"count must be a positive integer, got {count.text}" [("count", count.text)])
  | some n => do
    throwIf (n > config.maxReservation) (.domainError "ETIMS_COUNT_TOO_LARGE"
      s!"count {n} exceeds the configured maximum reservation {config.maxReservation}"
      [("count", toString n), ("maxReservation", toString config.maxReservation)])
    return n

/-- The checkpoint after a reservation up to `newNext - 1`; a drained stack keeps its last band. -/
def consume (checkpoint : SequenceCheckpoint) (newNext : ℤ) : SequenceCheckpoint :=
  match checkpoint.bands.filter (·.toSeq ≥ newNext) with
  | [] => ⟨checkpoint.year, newNext, checkpoint.bands.getLast?.toList⟩
  | remaining => ⟨checkpoint.year, newNext, remaining⟩

def sequences (start count : ℤ) : List ℤ := (List.range count.toNat).map fun i : ℕ => start + i

def refuseReservation (audit : Audit) (now : Date) (count : ℤ) (reason context : String)
    (e : Thrown) : Call (List ℤ) := do
  let instant ← attempt now.toISOString
  appendOrThrow audit (.refillQueued instant count reason) context
  throw e

/-- Carve `count` sequences off the stock: save first, then audit, then hand out. -/
def takeSequences (audit : Audit) (now : Date) (checkpoint : SequenceCheckpoint) (count : ℤ) :
    Call (List ℤ) := do
  let start := checkpoint.next
  let last := start + (count - 1)
  save (consume checkpoint (last + 1))
  let instant ← attempt now.toISOString
  appendOrThrow audit
    (.reserved instant ((checkpoint.bands.head?.map (·.bandId)).getD "") start last count)
    s!"reserving [{start}, {last}]"
  return sequences start count

def reserve (config : EtimsConfig) (audit : Audit) (clock : Clock) (count : JsNumber) :
    Call (List ℤ) := do
  let count ← attempt (checkCount config count)
  let (now, year) ← attempt (assertClockYear clock)
  let checkpoint ← currentCheckpoint audit now year
  if checkpoint.bands.length = 0 ∨ checkpoint.year ≠ year then
    refuseReservation audit now count "YEAR_ROLLOVER" "no active band for the clock year"
      (.domainError "ETIMS_YEAR_ROLLOVER"
        (s!"no sequence band is active for {year} — a new-year band must be granted via " ++
          "refill() before numbering resumes")
        [("clockYear", toString year), ("bandYear", toString checkpoint.year)])
  else if stockOf checkpoint < count then
    refuseReservation audit now count "STOCK_EXHAUSTED"
      s!"stock {stockOf checkpoint} below requested {count}"
      (.domainError "ETIMS_STOCK_EXHAUSTED"
        (s!"band stack has {stockOf checkpoint} sequence(s) left, {count} requested — " ++
          "a refill intent is queued; retry after refill() succeeds")
        [("stock", toString (stockOf checkpoint)), ("count", toString count)])
  else
    takeSequences audit now checkpoint count

/-! ## Refill -/

/-- A band as the client's gate lets it through: an ordered range inside the sequence field. -/
structure VsdcBandGrant where
  grantId : String
  fromSeq : ℤ
  toSeq : ℤ
  ordered : 1 ≤ fromSeq ∧ fromSeq ≤ toSeq ∧ toSeq ≤ ETIMS_MAX_SEQUENCE

inductive VsdcBandResult where
  | granted (grant : VsdcBandGrant) (resultCd : String)
  | refused (code : String) (retryable : Bool) (resultCd : Option String)

inductive RefillOutcome where
  | alreadyStocked
  | bandActivated (bandId : String) (fromSeq toSeq : ℤ)
  | alreadyActive (bandId : String) (fromSeq toSeq : ℤ)
  | refused (code : String) (retryable : Bool) (resultCd : Option String)

/-- A refill suspended at the registration call: the values it computed before. -/
structure Suspended where
  now : Date
  year : ℤ
  checkpoint : SequenceCheckpoint
  requestId : String

namespace Suspended

def yearAligned (r : Suspended) : Bool := r.checkpoint.year = r.year ∧ r.checkpoint.bands ≠ []

def expectedFrom (r : Suspended) : ℤ :=
  match r.yearAligned, r.checkpoint.bands.getLast? with
  | true, some last => last.toSeq + 1
  | _, _ => 1

def activated (r : Suspended) (grant : VsdcBandGrant) : SequenceCheckpoint :=
  let newBand : SequenceBand := ⟨grant.grantId, grant.fromSeq, grant.toSeq⟩
  if r.yearAligned then
    ⟨r.year, r.checkpoint.next,
      r.checkpoint.bands.filter (·.toSeq ≥ r.checkpoint.next) ++ [newBand]⟩
  else
    ⟨r.year, grant.fromSeq, [newBand]⟩

def replays (r : Suspended) (grant : VsdcBandGrant) : Bool :=
  r.yearAligned && r.checkpoint.bands.any (·.bandId = grant.grantId)

def activates (r : Suspended) (grant : VsdcBandGrant) : Bool :=
  !r.replays grant && grant.fromSeq = r.expectedFrom

end Suspended

/-- The next request id; the minter is built on the first refill, with a clock reading of its
own. -/
def mintRequestId (clock : Clock) : Call String := do
  let w ← get
  let built := w.minted.isSome
  attempt (if built then .ok () else (assertEtimsClock (clock.now 1)).map fun _ => ())
  let counter := w.minted.getD 0 + 1
  modify fun w => { w with minted := some counter }
  let now ← attempt (assertEtimsClock (clock.now (if built then 1 else 2)))
  let text ← attempt now.toISOString
  let digits := String.ofList ((text.toList.filter Char.isDigit).take 14)
  return "etims-band-" ++ digits ++ "-" ++ padStart (toString counter) 4 '0'

/-- A refill up to its registration call: the values it goes on with, or `none` when the stock
suffices. -/
def refillStart (config : EtimsConfig) (audit : Audit) (clock : Clock) :
    Call (Option Suspended) := do
  let (now, year) ← attempt (assertClockYear clock)
  let checkpoint ← currentCheckpoint audit now year
  if checkpoint.year = year ∧ checkpoint.bands ≠ [] ∧ stockOf checkpoint > config.lowWatermark then
    return none
  else do
    let requestId ← mintRequestId clock
    return some ⟨now, year, checkpoint, requestId⟩

def refuseRefill (config : EtimsConfig) (audit : Audit) (r : Suspended) (code : String)
    (retryable : Bool) (resultCd : Option String) (context : String) : Call RefillOutcome := do
  let instant ← attempt r.now.toISOString
  appendOrThrow audit (.bandRegisterFailed instant r.requestId code retryable config.bandSize)
    context
  return .refused code retryable resultCd

/-- A refill from the answer of its registration call on. -/
def refillResume (config : EtimsConfig) (audit : Audit) (r : Suspended) :
    VsdcBandResult → Call RefillOutcome
  | .refused code retryable resultCd =>
    refuseRefill config audit r code retryable resultCd s!"band registration refused ({code})"
  | .granted grant resultCd =>
    if r.replays grant then
      return .alreadyActive grant.grantId grant.fromSeq grant.toSeq
    else if grant.fromSeq ≠ r.expectedFrom then
      refuseRefill config audit r "ETIMS_VSDC_BAND_NONCONTIGUOUS" false (some resultCd)
        (s!"grant [{grant.fromSeq}, {grant.toSeq}] breaks gapless contiguity " ++
          s!"(expected from={r.expectedFrom})")
    else do
      save (r.activated grant)
      let instant ← attempt r.now.toISOString
      appendOrThrow audit
        (.bandRegistered instant r.requestId grant.grantId r.year grant.fromSeq grant.toSeq)
        s!"activating band {grant.grantId}"
      return .bandActivated grant.grantId grant.fromSeq grant.toSeq

/-! ## What the operations do to the store -/

variable {config : EtimsConfig} {audit : Audit} {clock : Clock} {S : Stored}

def Settled (year : ℤ) (S S' : Stored) : Prop :=
  S' = S ∨ S' = .checkpoint EMPTY_CHECKPOINT ∧ S.position.1 ≠ 0 ∧ S.position.1 ≠ year

def Advanced (year n : ℤ) (S S' : Stored) : Prop :=
  S.position.1 = year ∧ 1000 ≤ year ∧ 1 ≤ n ∧ S'.position = (year, S.position.2 + n)

def Audit.Refuses (audit : Audit) : Prop := ∃ trail event, audit.refuses trail event ≠ none

lemma appendOrThrow_spec (event : ReservationAuditEvent) (context : String) :
    Triple (fun w => w.store = S) (appendOrThrow audit event context)
      (fun _ w => w.store = S) (fun w => w.store = S ∧ audit.Refuses) := by
  intro w hw
  unfold appendOrThrow
  refine bind (Q := fun _ w => w.store = S) (get fun _ h => h) (fun w' => ?_) w hw
  split
  · rename_i message hmessage
    exact throw fun _ h => ⟨h, w'.trail, event, by simp [hmessage]⟩
  · exact modify fun _ h => h

lemma appendOrThrow_keeps (event : ReservationAuditEvent) (context : String) :
    Triple (fun w => w.store = S) (appendOrThrow audit event context)
      (fun _ w => w.store = S) (fun w => w.store = S) :=
  (appendOrThrow_spec event context).post (fun _ _ h => h) fun _ h => h.1

lemma instant_keeps (x : Except Thrown String) :
    Triple (fun w : World => w.store = S) (attempt x) (fun _ w => w.store = S)
      (fun w => w.store = S) :=
  attempt (fun _ _ _ h => h) fun _ _ _ h => h

lemma save_spec (c : SequenceCheckpoint) (E : World → Prop) :
    Triple (fun w => w.store = S) (save c) (fun _ w => w.store = .checkpoint c) E :=
  modify fun _ _ => rfl

lemma burnStaleYear_spec (c : SequenceCheckpoint) (now : Date) :
    Triple (fun w => w.store = S) (burnStaleYear audit c now)
      (fun c' w => c' = EMPTY_CHECKPOINT ∧ w.store = .checkpoint EMPTY_CHECKPOINT)
      (fun w => w.store = .checkpoint EMPTY_CHECKPOINT) := by
  refine (save_spec EMPTY_CHECKPOINT _).bind fun _ => ?_
  refine (forM (fun band => ?_) _).bind fun _ => pure fun _ h => ⟨rfl, h⟩
  exact (instant_keeps _).bind fun _ => appendOrThrow_keeps _ _

lemma currentCheckpoint_spec (now : Date) (year : ℤ) :
    Triple (fun w => w.store = S) (currentCheckpoint audit now year)
      (fun c w => Settled year S w.store ∧ validateCheckpoint w.store = .ok c ∧
        (c.year = 0 ∧ c.bands = [] ∨ c.year = year ∧ 1000 ≤ year ∧ c.bands ≠ []))
      (fun w => Settled year S w.store) := by
  have hload : Triple (fun w => w.store = S) loadCheckpoint
      (fun c w => w.store = S ∧ validateCheckpoint S = .ok c)
      (fun w => Settled year S w.store) := by
    refine bind (Q := fun w' w => w.store = S ∧ w'.store = S) (get fun _ h => ⟨h, h⟩)
      fun w' => attempt (fun c hc w hw => ?_) fun _ _ w hw => .inl hw.1
    rw [hw.2] at hc
    exact ⟨hw.1, hc⟩
  refine hload.bind fun c => of_fact fun hc => ?_
  obtain ⟨hposition, hkind⟩ := validateCheckpoint_eq_ok hc
  refine ite (fun hstale => ?_) fun hfresh => pure fun w hw => ?_
  · have hyear : S.position.1 = c.year := by rw [← hposition]
    have hsettled : Settled year S (.checkpoint EMPTY_CHECKPOINT) :=
      .inr ⟨rfl, by rw [hyear]; exact hstale.1, by rw [hyear]; exact hstale.2⟩
    refine (burnStaleYear_spec c now).post ?_ ?_
    · rintro c' w ⟨rfl, hstore⟩
      exact ⟨hstore ▸ hsettled, hstore ▸ rfl, .inl ⟨rfl, rfl⟩⟩
    · intro w hstore
      exact hstore ▸ hsettled
  · refine ⟨.inl hw, hw ▸ hc, ?_⟩
    rcases hkind with hempty | ⟨hyear, hbands⟩
    · exact .inl hempty
    · have : c.year = year := by
        by_contra hne
        exact hfresh ⟨by omega, hne⟩
      exact .inr ⟨this, by omega, hbands⟩

lemma clock_keeps :
    Triple (fun w : World => w.store = S) (attempt (assertClockYear clock))
      (fun p w => w.store = S ∧ assertClockYear clock = .ok p) (fun w => w.store = S) :=
  attempt (fun _ hp _ hw => ⟨hw, hp⟩) fun _ _ _ hw => hw

/-- The store held a checkpoint of the year with at least `n` sequences, and they were drawn from
it. -/
structure Drew (year n : ℤ) (c : SequenceCheckpoint) (S S' : Stored) : Prop where
  loaded : validateCheckpoint S = .ok c
  year_eq : c.year = year
  bands : c.bands ≠ []
  pos : 1 ≤ n
  stock : n ≤ stockOf c
  saved : S' = .checkpoint (consume c (c.next + (n - 1) + 1))

variable {year : ℤ} {c : SequenceCheckpoint} {now : Date}

lemma Drew.advanced {n : ℤ} {S' : Stored} (h : Drew year n c S S') : Advanced year n S S' := by
  obtain ⟨hposition, hkind⟩ := validateCheckpoint_eq_ok h.loaded
  have hfour : 1000 ≤ year := by
    rcases hkind with ⟨-, hnil⟩ | ⟨hfour, -⟩
    · exact absurd hnil h.bands
    · exact h.year_eq ▸ hfour
  have hposition' : S'.position = (c.year, c.next + n) := by
    rw [h.saved]
    unfold consume
    split <;> simp only [Stored.position, Prod.mk.injEq, true_and] <;> omega
  refine ⟨by rw [← hposition, h.year_eq], hfour, h.pos, ?_⟩
  rw [hposition', ← hposition, h.year_eq]

lemma assertClockYear_eq_ok (h : assertClockYear clock = .ok (now, year)) :
    (∃ ms, now = .ofTime ms) ∧ 1000 ≤ year ∧ year ≤ 9999 := by
  simp only [assertClockYear, ok_iff] at h
  obtain ⟨date, hdate, hrange, hpair⟩ := h
  simp only [Prod.mk.injEq] at hpair
  obtain ⟨rfl, rfl⟩ := hpair
  refine ⟨?_, by omega⟩
  unfold assertEtimsClock at hdate
  split at hdate
  · cases hdate
  · rename_i ms hms
    exact ⟨ms, (Except.ok.inj hdate).symm.trans hms⟩

lemma takeSequences_spec (hnow : ∃ ms, now = .ofTime ms) {n : ℤ}
    (hloaded : validateCheckpoint S = .ok c) (hbands : c.bands ≠ []) (hn : 1 ≤ n)
    (hstock : n ≤ stockOf c) : Triple (fun w => w.store = S) (takeSequences audit now c n)
      (fun numbers w => Drew c.year n c S w.store ∧ numbers = sequences S.position.2 n)
      (fun w => Drew c.year n c S w.store ∧ audit.Refuses) := by
  obtain ⟨ms, rfl⟩ := hnow
  have hdrew : ∀ w : World, w.store = .checkpoint (consume c (c.next + (n - 1) + 1)) →
      Drew c.year n c S w.store := fun w hw => ⟨hloaded, rfl, hbands, hn, hstock, hw⟩
  refine (save_spec _ _).bind fun _ => ?_
  refine bind (attempt (fun _ _ _ h => h) fun _ h => (nomatch h)) fun _ => ?_
  refine ((appendOrThrow_spec _ _).post (fun _ _ h => h) fun w h => ⟨hdrew w h.1, h.2⟩).bind
    fun _ => ?_
  refine pure fun w hw => ⟨hdrew w hw, ?_⟩
  rw [← (validateCheckpoint_eq_ok hloaded).1]

lemma refuseReservation_keeps (now : Date) (count : ℤ) (reason context : String) (e : Thrown) :
    Triple (fun w => w.store = S) (refuseReservation audit now count reason context e)
      (fun _ _ => False) (fun w => w.store = S) :=
  (instant_keeps _).bind fun _ => (appendOrThrow_keeps _ _).bind fun _ => throw fun _ h => h

/-- A reservation handed out sequences: from where the store stands in the clock's year, and the
store moved past them. -/
def Handed (clock : Clock) (S : Stored) (numbers : List ℤ) (S' : Stored) : Prop :=
  ∃ now year n, assertClockYear clock = .ok (now, year) ∧ Advanced year n S S' ∧
    numbers = sequences S.position.2 n

/-- A reservation was refused: it left the store, burned stale stock, or moved the store past
sequences that it did not hand out. -/
def Refused (clock : Clock) (S S' : Stored) : Prop :=
  S' = S ∨ ∃ now year, assertClockYear clock = .ok (now, year) ∧
    (Settled year S S' ∨ ∃ n, Advanced year n S S')

/-- What a reservation that throws leaves: the store, the empty one after stale stock was burned, or
the checkpoint after sequences were drawn, when the trail refuses entries. -/
def Dropped (clock : Clock) (audit : Audit) (S S' : Stored) : Prop :=
  S' = S ∨ ∃ now year, assertClockYear clock = .ok (now, year) ∧
    (Settled year S S' ∨ audit.Refuses ∧ ∃ n c, Drew year n c S S')

lemma checkCount_keeps (count : JsNumber) :
    Triple (fun w : World => w.store = S) (attempt (checkCount config count))
      (fun n w => w.store = S ∧ 1 ≤ n) (fun w => Dropped clock audit S w.store) := by
  refine attempt (fun n hn w hw => ⟨hw, ?_⟩) fun _ _ _ h => .inl h
  unfold checkCount at hn
  split at hn
  · cases hn
  · rename_i m hm
    simp only [ok_iff] at hn
    obtain ⟨_, -, rfl⟩ := hn
    simpa using (Option.filter_eq_some_iff.mp hm).2

/-- **What a reservation does to the store.** It returns the sequences that it drew; if it throws it
may have drawn sequences too. -/
theorem reserve_draws (config : EtimsConfig) (audit : Audit) (clock : Clock) (count : JsNumber) :
    Triple (fun w => w.store = S) (reserve config audit clock count)
      (fun numbers w => ∃ now year n c, assertClockYear clock = .ok (now, year) ∧
        Drew year n c S w.store ∧ numbers = sequences S.position.2 n)
      (fun w => Dropped clock audit S w.store) := by
  refine (checkCount_keeps count).bind fun n => of_fact fun hn => ?_
  refine (clock_keeps.post (fun _ _ h => h) fun _ h => .inl h).bind fun p => of_fact fun hp => ?_
  obtain ⟨now, year⟩ := p
  refine ((currentCheckpoint_spec now year).post (fun _ _ h => h) fun w h =>
    .inr ⟨now, year, hp, .inl h⟩).bind fun c => ?_
  intro w hw
  obtain ⟨hsettled, hloaded, hkind⟩ := hw
  have hrefuse : ∀ reason context e, Triple (fun w' => w'.store = w.store)
      (refuseReservation audit now n reason context e)
      (fun numbers w => ∃ now year n c, assertClockYear clock = .ok (now, year) ∧
        Drew year n c S w.store ∧ numbers = sequences S.position.2 n)
      (fun w => Dropped clock audit S w.store) :=
    fun reason context e => (refuseReservation_keeps now n reason context e).post
      (fun _ _ h => h.elim) fun w' hw' => .inr ⟨now, year, hp, .inl (hw' ▸ hsettled)⟩
  refine ite (P := fun w' => w'.store = w.store) (fun _ => hrefuse _ _ _)
    (fun hactive => ite (fun _ => hrefuse _ _ _) fun hstock => ?_) w rfl
  -- the checkpoint has bands of the clock's year, so nothing was burned
  obtain ⟨rfl, hfour, hbands⟩ : c.year = year ∧ 1000 ≤ year ∧ c.bands ≠ [] := by
    rcases hkind with ⟨-, hbands⟩ | hyear
    · exact absurd (.inl (by rw [hbands]; rfl)) hactive
    · exact hyear
  have hstore : w.store = S := by
    rcases hsettled with hsame | ⟨hempty, -⟩
    · exact hsame
    · rw [hempty] at hloaded
      cases hloaded
      exact absurd rfl hbands
  rw [hstore] at hloaded ⊢
  refine (takeSequences_spec (assertClockYear_eq_ok hp).1 hloaded hbands hn
    (not_lt.mp hstock)).post ?_ ?_
  · rintro numbers w' ⟨hdrew, rfl⟩
    exact ⟨now, c.year, n, c, hp, hdrew, rfl⟩
  · rintro w' ⟨hdrew, hrefuses⟩
    exact .inr ⟨now, c.year, hp, .inr ⟨hrefuses, n, c, hdrew⟩⟩

theorem reserve_spec (config : EtimsConfig) (audit : Audit) (clock : Clock) (count : JsNumber) :
    Triple (fun w => w.store = S) (reserve config audit clock count)
      (fun numbers w => Handed clock S numbers w.store) (fun w => Refused clock S w.store) := by
  refine (reserve_draws config audit clock count).post ?_ ?_
  · rintro numbers w ⟨now, year, n, c, hp, hdrew, rfl⟩
    exact ⟨now, year, n, hp, hdrew.advanced, rfl⟩
  · rintro w (hsame | ⟨now, year, hp, hsettled | ⟨-, n, c, hdrew⟩⟩)
    · exact .inl hsame
    · exact .inr ⟨now, year, hp, .inl hsettled⟩
    · exact .inr ⟨now, year, hp, .inr ⟨n, hdrew.advanced⟩⟩

lemma mintRequestId_keeps :
    Triple (fun w => w.store = S) (mintRequestId clock) (fun _ w => w.store = S)
      (fun w => w.store = S) := by
  refine bind (Q := fun _ w => w.store = S) (get fun _ h => h) fun w' => ?_
  refine bind (Q := fun _ w => w.store = S)
    (attempt (fun _ _ _ h => h) fun _ _ _ h => h) fun _ => ?_
  refine bind (Q := fun _ w => w.store = S) (modify fun _ h => h) fun _ => ?_
  refine bind (Q := fun _ w => w.store = S)
    (attempt (fun _ _ _ h => h) fun _ _ _ h => h) fun _ => ?_
  exact (instant_keeps _).bind fun _ => pure fun _ h => h

/-- The values a suspended refill goes on with: the clock's year and the position of the store,
which is of that year exactly when the refill is aligned. -/
def Suspended.Stands (r : Suspended) (year : ℤ) (S : Stored) : Prop :=
  r.year = year ∧ 1000 ≤ year ∧ (r.yearAligned = true → (year, r.checkpoint.next) = S.position) ∧
    (r.yearAligned = false → S.position.1 = 0)

/-- The values a suspended refill goes on with: the clock's year and the checkpoint that the store
holds, with no bands or with bands of that year. -/
structure Suspended.Loaded (r : Suspended) (year : ℤ) (S : Stored) : Prop where
  year_eq : r.year = year
  four : 1000 ≤ year ∧ year ≤ 9999
  loaded : validateCheckpoint S = .ok r.checkpoint
  kind : r.checkpoint.year = 0 ∧ r.checkpoint.bands = [] ∨
    r.checkpoint.year = year ∧ r.checkpoint.bands ≠ []

lemma Suspended.Loaded.stands {r : Suspended} (h : r.Loaded year S) : r.Stands year S := by
  have hposition := (validateCheckpoint_eq_ok h.loaded).1
  refine ⟨h.year_eq, h.four.1, fun haligned => ?_, fun hnot => ?_⟩
  · simp only [Suspended.yearAligned, decide_eq_true_eq] at haligned
    rw [← hposition, haligned.1, h.year_eq]
  · rw [← hposition]
    rcases h.kind with ⟨hzero, -⟩ | ⟨hsame, hbands⟩
    · exact hzero
    · simp [Suspended.yearAligned, hsame, hbands, h.year_eq] at hnot

/-- **What a refill does before its registration call**: at most it burns stale stock. -/
theorem refillStart_loads (config : EtimsConfig) (audit : Audit) (clock : Clock) :
    Triple (fun w => w.store = S) (refillStart config audit clock)
      (fun r w => ∃ now year, assertClockYear clock = .ok (now, year) ∧ Settled year S w.store ∧
        ∀ call ∈ r, call.Loaded year w.store)
      (fun w => w.store = S ∨ ∃ now year, assertClockYear clock = .ok (now, year) ∧
        Settled year S w.store) := by
  refine (clock_keeps.post (fun _ _ h => h) fun _ h => .inl h).bind fun p => of_fact fun hp => ?_
  obtain ⟨now, year⟩ := p
  refine ((currentCheckpoint_spec now year).post (fun _ _ h => h) fun w h =>
    .inr ⟨now, year, hp, h⟩).bind fun c => ?_
  intro w hw
  obtain ⟨hsettled, hloaded, hkind⟩ := hw
  refine ite (P := fun w' => w'.store = w.store)
    (fun _ => pure fun w' hw' => ⟨now, year, hp, hw' ▸ hsettled, by simp⟩)
    (fun _ => ?_) w rfl
  refine (mintRequestId_keeps.post (fun _ _ h => h) fun w' hw' =>
    .inr ⟨now, year, hp, hw' ▸ hsettled⟩).bind fun requestId => ?_
  refine pure fun w' hw' => ⟨now, year, hp, hw' ▸ hsettled, ?_⟩
  intro call hcall
  obtain rfl : _ = call := Option.some.inj hcall
  exact ⟨rfl, (assertClockYear_eq_ok hp).2, hw' ▸ hloaded, hkind.imp_right fun h => ⟨h.1, h.2.2⟩⟩

lemma refuseRefill_keeps (r : Suspended) (code : String) (retryable : Bool)
    (resultCd : Option String) (context : String) :
    Triple (fun w => w.store = S) (refuseRefill config audit r code retryable resultCd context)
      (fun _ w => w.store = S) (fun w => w.store = S) :=
  (instant_keeps _).bind fun _ => (appendOrThrow_keeps _ _).bind fun _ => pure fun _ h => h

/-- What a resumed refill leaves: the store, or the checkpoint that a grant activates. -/
def Resumed (r : Suspended) (result : VsdcBandResult) (S S' : Stored) : Prop :=
  S' = S ∨ ∃ grant resultCd, result = .granted grant resultCd ∧ r.activates grant = true ∧
    S' = .checkpoint (r.activated grant)

/-- What a refill does from the answer on: it leaves the store, or saves the checkpoint that the
grant activates, whether its audit entry is then accepted or not. -/
theorem refillResume_spec (config : EtimsConfig) (audit : Audit) (r : Suspended)
    (result : VsdcBandResult) :
    Triple (fun w => w.store = S) (refillResume config audit r result)
      (fun _ w => Resumed r result S w.store) (fun w => Resumed r result S w.store) := by
  cases result with
  | refused code retryable resultCd =>
    exact (refuseRefill_keeps r _ _ _ _).post (fun _ _ h => .inl h) fun _ h => .inl h
  | granted grant resultCd =>
    refine ite (fun _ => pure fun _ h => .inl h) fun hreplay =>
      ite (fun _ => ?_) fun hcontiguous => ?_
    · exact (refuseRefill_keeps r _ _ _ _).post (fun _ _ h => .inl h) fun _ h => .inl h
    · have hactivates : r.activates grant = true := by
        rw [not_not] at hcontiguous
        simp [Suspended.activates, hcontiguous, Bool.eq_false_iff.mpr hreplay]
      have hactivated : ∀ w : World, w.store = .checkpoint (r.activated grant) →
          Resumed r (.granted grant resultCd) S w.store :=
        fun w hw => .inr ⟨grant, resultCd, rfl, hactivates, hw⟩
      refine (save_spec _ _).bind fun _ => ?_
      refine ((instant_keeps _).post (fun _ _ h => h) hactivated).bind fun _ => ?_
      refine ((appendOrThrow_keeps _ _).post (fun _ _ h => h) hactivated).bind fun _ => ?_
      exact pure hactivated

end Fuatilia.Etims
