import Fuatilia.Etims.Source
import Fuatilia.Foundations.Lists
import Fuatilia.Foundations.Machine

/-!
# Interleavings of reservations and refills

A refill is suspended at its registration call and resumes with any answer at any later point, or
never. It then saves a checkpoint built from what it loaded before, so a reservation in between is
forgotten, and its sequences are issued again.

## Main definitions

* `step` — reservations and refills in any order, with a log of the sequences handed out.
* `NoDoubleIssue`, `onTime` — the law of the log, and a resumption that forgets nothing.

## Main results

* `no_double_issue` — the law, in every interleaving on time.
* `sequence_issued_twice` — one that is not.
-/

namespace Fuatilia.Etims

open Machine Procedure

/-! ## The machine -/

structure Issue where
  year : ℤ
  numbers : List ℤ
  deriving DecidableEq

/-- A suspended refill, and how many reservations had handed out sequences when it loaded. -/
structure InFlight where
  call : Suspended
  issuedAtLoad : ℕ

/-- The source with its suspended refills, the log of what was handed out and the latest year that
a call read from the clock. -/
structure State where
  world : World
  inFlight : List InFlight
  issued : List Issue
  lastYear : ℤ

def State.start (world : World) : State := ⟨world, [], [], 0⟩

inductive Event where
  | reserve (count : JsNumber) (clock : Clock) (audit : Audit)
  | refill (clock : Clock) (audit : Audit)
  | resume (index : ℕ) (result : VsdcBandResult) (audit : Audit)

def clockYear (clock : Clock) : Option ℤ := (assertClockYear clock).toOption.map Prod.snd

def State.yearAfter (s : State) (clock : Clock) : ℤ :=
  max s.lastYear ((clockYear clock).getD s.lastYear)

def step (config : EtimsConfig) (s : State) : Event → Option State
  | .reserve count clock audit =>
    match reserve config audit clock count s.world with
    | .ok numbers w => some { s with
        world := w
        issued := s.issued ++ [⟨(clockYear clock).getD 0, numbers⟩]
        lastYear := s.yearAfter clock }
    | .error _ w => some { s with world := w, lastYear := s.yearAfter clock }
  | .refill clock audit =>
    match refillStart config audit clock s.world with
    | .ok (some call) w => some { s with
        world := w
        inFlight := s.inFlight ++ [⟨call, s.issued.length⟩]
        lastYear := s.yearAfter clock }
    | .ok none w => some { s with world := w, lastYear := s.yearAfter clock }
    | .error _ w => some { s with world := w, lastYear := s.yearAfter clock }
  | .resume index result audit => do
    let p ← s.inFlight[index]?
    match refillResume config audit p.call result s.world with
    | .ok _ w => some { s with world := w, inFlight := s.inFlight.eraseIdx index }
    | .error _ w => some { s with world := w, inFlight := s.inFlight.eraseIdx index }

/-- No sequence was issued twice within one year: not by one reservation, and not by two. -/
def NoDoubleIssue (issued : List Issue) : Prop :=
  (∀ i ∈ issued, i.numbers.Nodup) ∧
    issued.Pairwise fun a b => a.year = b.year → ∀ n ∈ a.numbers, n ∉ b.numbers
  deriving Decidable

def onTime (s : State) : Event → Bool
  | .reserve _ clock _ => (clockYear clock).all (s.lastYear ≤ ·)
  | .refill clock _ => (clockYear clock).all (s.lastYear ≤ ·)
  | .resume index (.granted grant _) _ => s.inFlight[index]?.all fun p =>
      !p.call.activates grant || s.issued.length = p.issuedAtLoad
  | .resume _ (.refused _ _ _) _ => true

/-! ## The invariant -/

/-- What a suspended refill would overwrite is behind it: at its load nothing was issued in a later
year, and in its own year nothing at or above where its checkpoint stands. -/
def InFlight.Covers (p : InFlight) (issued : List Issue) : Prop :=
  p.issuedAtLoad ≤ issued.length ∧ ∀ i ∈ issued.take p.issuedAtLoad,
    i.year ≤ p.call.year ∧ (i.year = p.call.year →
      p.call.yearAligned = true ∧ ∀ n ∈ i.numbers, n < p.call.checkpoint.next)

structure Inv (s : State) : Prop where
  years : ∀ i ∈ s.issued, 1000 ≤ i.year ∧ i.year ≤ s.lastYear
  /-- In the year of the store, everything issued is below where it stands. -/
  below : ∀ i ∈ s.issued, i.year = s.world.store.position.1 →
    ∀ n ∈ i.numbers, n < s.world.store.position.2
  /-- What was issued in the latest year is of the store's year. -/
  current : ∀ i ∈ s.issued, i.year = s.lastYear → i.year = s.world.store.position.1
  inFlight : ∀ p ∈ s.inFlight, p.call.year ≤ s.lastYear ∧ p.Covers s.issued
  issued : NoDoubleIssue s.issued

lemma inv_start (world : World) : Inv (State.start world) where
  years := by simp [State.start]
  below := by simp [State.start]
  current := by simp [State.start]
  inFlight := by simp [State.start]
  issued := by simp [State.start, NoDoubleIssue]

variable {config : EtimsConfig} {s : State}

variable {w : World} {year n : ℤ} {clock : Clock} {audit : Audit} {s' : State}

lemma Inv.settle (hinv : Inv s) (hyear : s.lastYear ≤ year)
    (h : Settled year s.world.store w.store) : Inv { s with world := w, lastYear := year } where
  years i hi := ⟨(hinv.years i hi).1, (hinv.years i hi).2.trans hyear⟩
  below i hi hiyear := by
    rcases h with hsame | ⟨hempty, -⟩
    · dsimp only at hiyear ⊢
      rw [hsame] at hiyear ⊢
      exact hinv.below i hi hiyear
    · -- nothing was issued in the year zero
      dsimp only at hiyear
      rw [hempty] at hiyear
      have hzero : i.year = 0 := hiyear
      have := (hinv.years i hi).1
      omega
  current i hi hiyear := by
    dsimp only at hiyear ⊢
    have hlast : i.year = s.lastYear := by
      have := (hinv.years i hi).2
      omega
    have hcurrent := hinv.current i hi hlast
    rcases h with hsame | ⟨-, -, hstale⟩
    · rw [hsame]
      exact hcurrent
    · exact absurd (by omega) hstale
  inFlight p hp := ⟨(hinv.inFlight p hp).1.trans hyear, (hinv.inFlight p hp).2⟩
  issued := hinv.issued

lemma Inv.advance (hinv : Inv s) (hyear : s.lastYear ≤ year)
    (h : Advanced year n s.world.store w.store) : Inv { s with world := w, lastYear := year } where
  years i hi := ⟨(hinv.years i hi).1, (hinv.years i hi).2.trans hyear⟩
  below i hi hiyear m hm := by
    obtain ⟨hstore, -, hn, hposition⟩ := h
    dsimp only at hiyear ⊢
    rw [hposition] at hiyear ⊢
    have := hinv.below i hi (hiyear.trans hstore.symm) m hm
    dsimp only
    omega
  current i hi hiyear := by
    dsimp only at hiyear ⊢
    rw [h.2.2.2]
    exact hiyear
  inFlight p hp := ⟨(hinv.inFlight p hp).1.trans hyear, (hinv.inFlight p hp).2⟩
  issued := hinv.issued

lemma mem_sequences {start count : ℤ} (h : n ∈ sequences start count) :
    start ≤ n ∧ n < start + count := by
  obtain ⟨k, hk, rfl⟩ := List.mem_map.mp h
  rw [List.mem_range] at hk
  omega

lemma sequences_nodup (start count : ℤ) : (sequences start count).Nodup := by
  refine List.Nodup.map (fun a b h => ?_) List.nodup_range
  have hab : start + (a : ℤ) = start + b := h
  omega

lemma InFlight.Covers.append {p : InFlight} {issued : List Issue} (h : p.Covers issued)
    (new : List Issue) : p.Covers (issued ++ new) := by
  refine ⟨h.1.trans (by rw [List.length_append]; omega), ?_⟩
  rw [List.take_append_of_le_length h.1]
  exact h.2

lemma Inv.hand (hinv : Inv s) (hyear : s.lastYear ≤ year)
    (h : Advanced year n s.world.store w.store) :
    Inv { s with
      world := w
      issued := s.issued ++ [⟨year, sequences s.world.store.position.2 n⟩]
      lastYear := year } := by
  have hadvance := hinv.advance hyear h
  obtain ⟨hstore, hfour, -, hposition⟩ := h
  refine ⟨?_, ?_, ?_, ?_, ?_, ?_⟩
  · exact Lists.forall_mem_concat hadvance.years ⟨hfour, le_rfl⟩
  · refine Lists.forall_mem_concat hadvance.below fun _ m hm => ?_
    rw [hposition]
    exact (mem_sequences hm).2
  · refine Lists.forall_mem_concat hadvance.current fun _ => ?_
    rw [hposition]
  · intro p hp
    exact ⟨(hadvance.inFlight p hp).1, (hadvance.inFlight p hp).2.append _⟩
  · exact Lists.forall_mem_concat hinv.issued.1 (sequences_nodup _ _)
  · refine Lists.pairwise_concat hinv.issued.2 fun i hi hsame m hm hmem => ?_
    have hlt := hinv.below i hi (hsame.trans hstore.symm) m hm
    have hge := (mem_sequences hmem).1
    omega

lemma Inv.suspend (hinv : Inv s) {call : Suspended} (h : call.Stands s.lastYear s.world.store) :
    Inv { s with inFlight := s.inFlight ++ [⟨call, s.issued.length⟩] } where
  years := hinv.years
  below := hinv.below
  current := hinv.current
  inFlight p hp := by
    rcases Lists.mem_concat hp with hp | rfl
    · exact hinv.inFlight p hp
    · obtain ⟨hyear, hfour, haligned, hnot⟩ := h
      refine ⟨hyear.le, le_rfl, fun i hi => ?_⟩
      rw [List.take_length] at hi
      dsimp only
      rw [hyear]
      refine ⟨(hinv.years i hi).2, fun hiyear => ?_⟩
      have hcurrent := hinv.current i hi hiyear
      have halign : call.yearAligned = true := by
        by_contra hfalse
        have := hnot (Bool.eq_false_iff.mpr hfalse)
        omega
      refine ⟨halign, fun n hn => ?_⟩
      have hlt := hinv.below i hi hcurrent n hn
      rw [← haligned halign] at hlt
      exact hlt
  issued := hinv.issued

lemma Inv.activate (hinv : Inv s) {p : InFlight} (hp : p ∈ s.inFlight)
    (hload : s.issued.length = p.issuedAtLoad) {grant : VsdcBandGrant}
    (hstore : w.store = .checkpoint (p.call.activated grant)) : Inv { s with world := w } := by
  obtain ⟨hyear, -, hcovers⟩ := hinv.inFlight p hp
  rw [← hload, List.take_length] at hcovers
  have hfst : w.store.position.1 = p.call.year := by
    rw [hstore]
    simp only [Stored.position, Suspended.activated]
    split_ifs <;> rfl
  refine ⟨hinv.years, ?_, ?_, hinv.inFlight, hinv.issued⟩
  · intro i hi hiyear n hn
    obtain ⟨halign, hlt⟩ := (hcovers i hi).2 (hiyear.trans hfst)
    dsimp only
    rw [hstore, Suspended.activated, if_pos halign]
    exact hlt n hn
  · intro i hi hiyear
    have hle := (hcovers i hi).1
    dsimp only at hiyear ⊢
    omega

lemma Inv.forget (hinv : Inv s) (index : ℕ) :
    Inv { s with inFlight := s.inFlight.eraseIdx index } where
  years := hinv.years
  below := hinv.below
  current := hinv.current
  inFlight p hp := hinv.inFlight p (List.mem_of_mem_eraseIdx hp)
  issued := hinv.issued

/-! ## Events keep the invariant -/

lemma clockYear_of_ok {now : Date} (h : assertClockYear clock = .ok (now, year)) :
    clockYear clock = some year := by
  rw [clockYear, h]
  rfl

lemma yearAfter_of_ok (hclock : clockYear clock = some year)
    (hontime : (clockYear clock).all (s.lastYear ≤ ·) = true) :
    s.yearAfter clock = year ∧ s.lastYear ≤ year := by
  rw [hclock] at hontime
  have hle : s.lastYear ≤ year := by simpa using hontime
  rw [State.yearAfter, hclock]
  exact ⟨max_eq_right hle, hle⟩

lemma Inv.read (hinv : Inv s) (hontime : (clockYear clock).all (s.lastYear ≤ ·) = true)
    (h : w.store = s.world.store) :
    Inv { s with world := w, lastYear := s.yearAfter clock } := by
  cases hclock : clockYear clock with
  | none =>
    have hyear : s.yearAfter clock = s.lastYear := by simp [State.yearAfter, hclock]
    rw [hyear]
    exact hinv.settle le_rfl (.inl h)
  | some year =>
    obtain ⟨hyear, hle⟩ := yearAfter_of_ok hclock hontime
    rw [hyear]
    exact hinv.settle hle (.inl h)

lemma Inv.refused (hinv : Inv s) (hontime : (clockYear clock).all (s.lastYear ≤ ·) = true)
    (h : Refused clock s.world.store w.store) :
    Inv { s with world := w, lastYear := s.yearAfter clock } := by
  rcases h with hsame | ⟨now, year, hok, heffect⟩
  · exact hinv.read hontime hsame
  · obtain ⟨hyear, hle⟩ := yearAfter_of_ok (clockYear_of_ok hok) hontime
    rw [hyear]
    rcases heffect with hsettled | ⟨n, hadvanced⟩
    · exact hinv.settle hle hsettled
    · exact hinv.advance hle hadvanced

lemma inv_reserve {count : JsNumber} (hontime : (clockYear clock).all (s.lastYear ≤ ·) = true)
    (hinv : Inv s) (h : step config s (.reserve count clock audit) = some s') : Inv s' := by
  have hspec := reserve_spec (S := s.world.store) config audit clock count
  simp only [step] at h
  split at h
  · rename_i numbers w hrun
    obtain ⟨now, year, n, hok, hadvanced, rfl⟩ := hspec.of_ok hrun rfl
    obtain ⟨hyear, hle⟩ := yearAfter_of_ok (clockYear_of_ok hok) hontime
    cases h
    rw [hyear, clockYear_of_ok hok]
    exact hinv.hand hle hadvanced
  · rename_i e w hrun
    cases h
    exact hinv.refused hontime (hspec.of_error hrun rfl)

lemma inv_refill (hontime : (clockYear clock).all (s.lastYear ≤ ·) = true) (hinv : Inv s)
    (h : step config s (.refill clock audit) = some s') : Inv s' := by
  have hspec := refillStart_loads (S := s.world.store) config audit clock
  simp only [step] at h
  split at h
  · rename_i call w hrun
    obtain ⟨now, year, hok, hsettled, hcall⟩ := hspec.of_ok hrun rfl
    have hstarted := hinv.refused hontime (.inr ⟨now, year, hok, .inl hsettled⟩)
    obtain ⟨hyear, -⟩ := yearAfter_of_ok (clockYear_of_ok hok) hontime
    cases h
    refine Inv.suspend hstarted ?_
    dsimp only
    rw [hyear]
    exact (hcall call rfl).stands
  · rename_i w hrun
    obtain ⟨now, year, hok, hsettled, -⟩ := hspec.of_ok hrun rfl
    cases h
    exact hinv.refused hontime (.inr ⟨now, year, hok, .inl hsettled⟩)
  · rename_i e w hrun
    cases h
    refine hinv.refused hontime ((hspec.of_error hrun rfl).imp_right ?_)
    exact fun ⟨now, year, hok, hsettled⟩ => ⟨now, year, hok, .inl hsettled⟩

lemma inv_resume {index : ℕ} {result : VsdcBandResult}
    (hontime : onTime s (.resume index result audit) = true) (hinv : Inv s)
    (h : step config s (.resume index result audit) = some s') : Inv s' := by
  simp only [step, Option.bind_eq_bind, Option.bind_eq_some_iff] at h
  obtain ⟨p, hp, h⟩ := h
  have hspec := refillResume_spec (S := s.world.store) config audit p.call result
  have hresumed : ∀ w : World, Resumed p.call result s.world.store w.store →
      Inv { s with world := w, inFlight := s.inFlight.eraseIdx index } := by
    rintro w (hsame | ⟨grant, resultCd, rfl, hactivates, hstore⟩)
    · exact (hinv.settle le_rfl (.inl hsame)).forget index
    · have hload : s.issued.length = p.issuedAtLoad := by
        simpa [onTime, hp, hactivates] using hontime
      exact (hinv.activate (List.mem_of_getElem? hp) hload hstore).forget index
  split at h
  · rename_i outcome w hrun
    cases h
    exact hresumed w (hspec.of_ok hrun rfl)
  · rename_i e w hrun
    cases h
    exact hresumed w (hspec.of_error hrun rfl)

lemma inv_of_step {e : Event} (hontime : onTime s e = true) (hinv : Inv s)
    (h : step config s e = some s') : Inv s' := by
  cases e with
  | reserve count clock audit => exact inv_reserve hontime hinv h
  | refill clock audit => exact inv_refill hontime hinv h
  | resume index result audit => exact inv_resume hontime hinv h

/-! ## Interleavings -/

/-- **No sequence is issued twice within a year**, along every interleaving over any store and with
any answers, as long as its events are on time: the clock's year does not go back, and a refill that
activates a band resumes with nothing handed out since it loaded the checkpoint. -/
theorem no_double_issue (config : EtimsConfig) (world : World) (events : List Event)
    (hontime : Meets (step config) (fun s e => onTime s e = true) (State.start world) events)
    (k : ℕ) :
    NoDoubleIssue (run (step config) (State.start world) (events.take k)).issued := by
  have hinv : Inv (run (step config) (State.start world) (events.take k)) :=
    invariant_at (fun _ _ _ hontime hinv h => inv_of_step hontime hinv h) (inv_start world)
      hontime k
  exact hinv.issued


def smallBands : EtimsConfig := ⟨3, 3, 3⟩

def june2026 : Clock := ⟨fun _ => .ofTime 1781517600000⟩

def acceptAll : Audit := ⟨fun _ _ => none⟩

def reserveInJune (n : ℕ) : Event := .reserve ⟨some n, toString n⟩ june2026 acceptAll

def refillInJune : Event := .refill june2026 acceptAll

def firstGrant : Event := .resume 0 (.granted ⟨"GRANT-0001", 1, 3, by decide⟩ "000") acceptAll

def secondGrant : Event := .resume 0 (.granted ⟨"GRANT-0002", 4, 6, by decide⟩ "000") acceptAll

/-- With a reservation before and after each refill, the sequences continue across the bands. -/
theorem no_double_issue_in_turn :
    (run (step smallBands) (State.start ⟨.absent, [], none⟩)
        [refillInJune, firstGrant, reserveInJune 2, refillInJune, secondGrant,
          reserveInJune 2]).issued = [⟨2026, [1, 2]⟩, ⟨2026, [3, 4]⟩] ∧
      ∀ k, NoDoubleIssue (run (step smallBands) (State.start ⟨.absent, [], none⟩)
        ([refillInJune, firstGrant, reserveInJune 2, refillInJune, secondGrant,
          reserveInJune 2].take k)).issued :=
  ⟨by decide +kernel, no_double_issue smallBands _ _ (by decide +kernel)⟩

/-- A reservation while a refill is suspended: the refill resumes with a contiguous grant and saves
the checkpoint it had loaded, and the sequence is issued again. -/
theorem sequence_issued_twice :
    let events := [refillInJune, firstGrant, refillInJune, reserveInJune 1, secondGrant,
      reserveInJune 1]
    let s := run (step smallBands) (State.start ⟨.absent, [], none⟩) events
    s.issued = [⟨2026, [1]⟩, ⟨2026, [1]⟩] ∧ ¬ NoDoubleIssue s.issued := by
  decide +kernel


end Fuatilia.Etims
