import Fuatilia.Etims.Interleaving

/-!
# Numbering within a year

The numbers that a source issues in one year when every refill is a single step, with any answers of
the tax authority, any audit trail and a crash at any point between a save and the return.

## Main definitions

* `Desk`, `run` — a source with its history: the draws, the granted bands, the saved checkpoints.
* `Gapless`, `Sound` — the law of the numbers, and the invariant.

## Main results

* `numbered_from_one` — the law, in every run.

## Implementation notes

A crash, or a trail that refuses the entry, cuts a reservation off between its save and its return.
A crash before the first save of a call leaves no trace, and one between the save and the audit
entry leaves the store as a refused entry does.
-/

namespace Fuatilia.Etims.Numbering

open Fallible Procedure

/-! ## Stacks of bands -/

/-- The bands cover the sequences from `start` up to `stop`, without `stop`, in order and without a
gap. -/
def Stack (start : ℤ) (bands : List SequenceBand) (stop : ℤ) : Prop :=
  match bands with
  | [] => start = stop
  | band :: bands => band.fromSeq = start ∧ start ≤ band.toSeq ∧ Stack (band.toSeq + 1) bands stop

namespace Stack

variable {start stop m : ℤ} {bands : List SequenceBand}

lemma bounds (h : Stack start bands stop) :
    start ≤ stop ∧ ∀ band ∈ bands, start ≤ band.toSeq ∧ band.fromSeq ≤ band.toSeq := by
  induction bands generalizing start with
  | nil => exact ⟨le_of_eq h, by simp⟩
  | cons band bands ih =>
    obtain ⟨hfrom, hle, hrest⟩ := h
    obtain ⟨hstop, hall⟩ := ih hrest
    refine ⟨by omega, fun other hother => ?_⟩
    rcases List.mem_cons.mp hother with rfl | hother
    · exact ⟨hle, hfrom ▸ hle⟩
    · have := hall other hother
      omega

lemma append {middle : ℤ} {others : List SequenceBand} (h : Stack start bands middle)
    (hothers : Stack middle others stop) : Stack start (bands ++ others) stop := by
  induction bands generalizing start with
  | nil =>
    obtain rfl : start = middle := h
    exact hothers
  | cons band bands ih => exact ⟨h.1, h.2.1, ih h.2.2⟩

lemma stop_eq (h : Stack start bands stop) {last : SequenceBand}
    (hlast : bands.getLast? = some last) : last.toSeq + 1 = stop := by
  induction bands generalizing start with
  | nil => cases hlast
  | cons band bands ih =>
    cases bands with
    | nil =>
      obtain rfl : band = last := by simpa using hlast
      exact h.2.2
    | cons next bands => exact ih h.2.2 (by simpa using hlast)

lemma exists_mem (h : Stack start bands stop) (hstart : start ≤ m) (hstop : m < stop) :
    ∃ band ∈ bands, band.fromSeq ≤ m ∧ m ≤ band.toSeq := by
  induction bands generalizing start with
  | nil =>
    have : start = stop := h
    omega
  | cons band bands ih =>
    obtain ⟨hfrom, -, hrest⟩ := h
    by_cases hm : m ≤ band.toSeq
    · exact ⟨band, List.mem_cons_self, by omega, hm⟩
    · obtain ⟨other, hother, hin⟩ := ih hrest (by omega)
      exact ⟨other, List.mem_cons_of_mem _ hother, hin⟩

lemma filter (h : Stack start bands stop) (hstart : start ≤ m) :
    ∃ start' ≤ m, Stack start' (bands.filter (·.toSeq ≥ m)) stop := by
  induction bands generalizing start with
  | nil => exact ⟨start, hstart, h⟩
  | cons band bands ih =>
    obtain ⟨hfrom, hle, hrest⟩ := h
    by_cases hm : m ≤ band.toSeq
    · -- every later band ends after this one, so all are kept
      have hall : bands.filter (·.toSeq ≥ m) = bands := by
        refine List.filter_eq_self.mpr fun other hother => ?_
        have := (hrest.bounds.2 other hother).1
        simp only [ge_iff_le, decide_eq_true_eq]
        omega
      refine ⟨start, hstart, ?_⟩
      rw [List.filter_cons_of_pos (by simpa using hm), hall]
      exact ⟨hfrom, hle, hrest⟩
    · rw [List.filter_cons_of_neg (by simpa using hm)]
      exact ih hrest (by omega)

end Stack

/-! ## Accepted checkpoints -/

/-- A checkpoint with stock up to `stop` that the check accepts: a year of four digits, bands in
range with grant identifiers that form one stack, and the next sequence in the active band or right
after it. -/
structure Sealed (c : SequenceCheckpoint) (stop : ℤ) : Prop where
  year : 1000 ≤ c.year ∧ c.year ≤ 9999
  identified : ∀ band ∈ c.bands, isBandId band.bandId = true
  inRange : ∀ band ∈ c.bands, 1 ≤ band.fromSeq ∧ band.toSeq ≤ ETIMS_MAX_SEQUENCE
  active : ∃ band, c.bands.head? = some band ∧ band.fromSeq ≤ c.next ∧ c.next ≤ band.toSeq + 1
  stacked : ∃ start, Stack start c.bands stop

lemma validateBand_eq_ok {p : SequenceBand × ℕ} :
    validateBand p = .ok () ↔ isBandId p.1.bandId = true ∧ 1 ≤ p.1.fromSeq ∧
      p.1.fromSeq ≤ p.1.toSeq ∧ p.1.toSeq ≤ ETIMS_MAX_SEQUENCE := by
  simp only [validateBand, ok_iff, Bool.not_eq_true', Bool.not_eq_false]
  constructor
  · rintro ⟨hid, hfrom, hto⟩
    exact ⟨hid, by omega, by omega, by omega⟩
  · rintro ⟨hid, hfrom, hle, hto⟩
    exact ⟨hid, by omega, by omega⟩

lemma validateContiguous_eq_ok (i : ℕ) (band : SequenceBand) (bands : List SequenceBand)
    (hordered : ∀ b ∈ band :: bands, b.fromSeq ≤ b.toSeq) :
    validateContiguous i (band :: bands) = .ok () ↔
      ∃ stop, Stack band.fromSeq (band :: bands) stop := by
  induction bands generalizing i band with
  | nil =>
    have hle := hordered band List.mem_cons_self
    exact ⟨fun _ => ⟨band.toSeq + 1, rfl, hle, rfl⟩, fun _ => rfl⟩
  | cons next bands ih =>
    have hle := hordered band List.mem_cons_self
    simp only [validateContiguous, ok_iff, not_not,
      ih (i + 1) next fun b hb => hordered b (List.mem_cons_of_mem _ hb)]
    constructor
    · rintro ⟨hnext, stop, hstack⟩
      exact ⟨stop, rfl, hle, hnext ▸ hstack⟩
    · rintro ⟨stop, -, -, hstack⟩
      have hnext : next.fromSeq = band.toSeq + 1 := hstack.1
      exact ⟨hnext, stop, hnext ▸ hstack⟩

variable {c : SequenceCheckpoint} {S : Stored} {call : Suspended}

/-- **What the check of a checkpoint says**: one with bands passes exactly if it is sealed. -/
theorem validateCheckpoint_iff_sealed (hbands : c.bands ≠ []) :
    validateCheckpoint (.checkpoint c) = .ok c ↔ ∃ stop, Sealed c stop := by
  obtain ⟨active, rest, hc⟩ := List.exists_cons_of_ne_nil hbands
  have hvalidate : validateCheckpoint (.checkpoint c) = .ok c ↔
      validateActive c active = .ok () := by
    simp only [validateCheckpoint, hc]
    cases validateActive c active <;> simp [do_eq]
  have hmem : (∀ p ∈ c.bands.zipIdx, validateBand p = .ok ()) ↔
      ∀ band ∈ c.bands, isBandId band.bandId = true ∧ 1 ≤ band.fromSeq ∧
        band.fromSeq ≤ band.toSeq ∧ band.toSeq ≤ ETIMS_MAX_SEQUENCE := by
    simp only [validateBand_eq_ok]
    constructor
    · intro h band hband
      rw [← List.zipIdx_map_fst 0 c.bands] at hband
      obtain ⟨p, hp, rfl⟩ := List.mem_map.mp hband
      exact h p hp
    · intro h p hp
      exact h _ (List.fst_mem_of_mem_zipIdx hp)
  rw [hvalidate]
  simp only [validateActive, ok_iff, forM_eq_ok, hmem, not_or]
  constructor
  · rintro ⟨hyear, _, hall, _, hcontiguous, hnext⟩
    rw [hc, validateContiguous_eq_ok 1 active rest fun b hb => (hall b (hc ▸ hb)).2.2.1]
      at hcontiguous
    obtain ⟨stop, hstack⟩ := hcontiguous
    exact ⟨stop, by omega, fun b hb => (hall b hb).1,
      fun b hb => ⟨(hall b hb).2.1, (hall b hb).2.2.2⟩,
      ⟨active, by rw [hc]; rfl, by omega, by omega⟩, active.fromSeq, hc ▸ hstack⟩
  · rintro ⟨stop, hsealed⟩
    obtain ⟨start, hstack⟩ := hsealed.stacked
    obtain ⟨band, hhead, hnext⟩ := hsealed.active
    obtain rfl : active = band := by simpa [hc] using hhead
    have hall : ∀ band ∈ c.bands, isBandId band.bandId = true ∧ 1 ≤ band.fromSeq ∧
        band.fromSeq ≤ band.toSeq ∧ band.toSeq ≤ ETIMS_MAX_SEQUENCE := fun b hb =>
      ⟨hsealed.identified b hb, (hsealed.inRange b hb).1, (hstack.bounds.2 b hb).2,
        (hsealed.inRange b hb).2⟩
    have hyear := hsealed.year
    refine ⟨by omega, (), hall, (), ?_, by omega⟩
    rw [hc] at hstack ⊢
    rw [validateContiguous_eq_ok 1 active rest fun b hb => (hall b (hc ▸ hb)).2.2.1]
    exact ⟨stop, hstack.1 ▸ hstack⟩

lemma eq_checkpoint_of_validate
    (h : validateCheckpoint S = .ok c) (hne : c.bands ≠ []) : S = .checkpoint c := by
  unfold validateCheckpoint at h
  split at h
  · cases h
    exact absurd rfl hne
  · cases h
  · split at h
    · simp only [ok_iff] at h
      obtain ⟨_, -, rfl⟩ := h
      exact absurd rfl hne
    · simp only [ok_iff] at h
      obtain ⟨_, -, rfl⟩ := h
      rfl

variable {next n : ℤ} {w : World} {clock : Clock}

lemma le_of_mem_filter {bands : List SequenceBand} {band : SequenceBand}
    (h : band ∈ bands.filter (·.toSeq ≥ next)) : next ≤ band.toSeq := by
  simpa using (List.mem_filter.mp h).2

namespace Sealed

variable {c : SequenceCheckpoint} {stop : ℤ}

lemma bands_ne_nil (h : Sealed c stop) : c.bands ≠ [] := by
  obtain ⟨band, hband, -⟩ := h.active
  intro hnil
  rw [hnil] at hband
  cases hband

lemma validate (h : Sealed c stop) : validateCheckpoint (.checkpoint c) = .ok c :=
  (validateCheckpoint_iff_sealed h.bands_ne_nil).mpr ⟨stop, h⟩

lemma bounds (h : Sealed c stop) : ∃ start ≤ c.next, Stack start c.bands stop ∧ c.next ≤ stop := by
  obtain ⟨start, hstack⟩ := h.stacked
  obtain ⟨active, hactive, hfrom, hto⟩ := h.active
  obtain ⟨rest, hc⟩ := List.head?_eq_some_iff.mp hactive
  rw [hc] at hstack
  have hstop := hstack.2.2.bounds.1
  have hstart := hstack.1
  exact ⟨start, by omega, hc ▸ hstack, by omega⟩

lemma stockOf_eq (h : Sealed c stop) : stockOf c = stop - c.next := by
  obtain ⟨start, hstack⟩ := h.stacked
  unfold stockOf
  cases hlast : c.bands.getLast? with
  | none => exact absurd (List.getLast?_eq_none_iff.mp hlast) h.bands_ne_nil
  | some last =>
    have := hstack.stop_eq hlast
    dsimp only
    omega

lemma of_stack {year start : ℤ} {bands : List SequenceBand} (hyear : 1000 ≤ year ∧ year ≤ 9999)
    (hall : ∀ band ∈ bands, isBandId band.bandId = true ∧ 1 ≤ band.fromSeq ∧
      band.toSeq ≤ ETIMS_MAX_SEQUENCE)
    (hstack : Stack start bands stop) (hstart : start ≤ next) (hne : bands ≠ [])
    (hhead : ∀ band ∈ bands.head?, next ≤ band.toSeq + 1) : Sealed ⟨year, next, bands⟩ stop := by
  obtain ⟨active, rest, rfl⟩ := List.exists_cons_of_ne_nil hne
  exact ⟨hyear, fun b hb => (hall b hb).1, fun b hb => (hall b hb).2,
    ⟨active, rfl, hstack.1 ▸ hstart, hhead active rfl⟩, start, hstack⟩

lemma of_mem (h : Sealed c stop) {band : SequenceBand} (hband : band ∈ c.bands) :
    isBandId band.bandId = true ∧ 1 ≤ band.fromSeq ∧ band.toSeq ≤ ETIMS_MAX_SEQUENCE :=
  ⟨h.identified band hband, h.inRange band hband⟩

/-- **A reservation saves an accepted checkpoint**, with the same end of the stock. -/
theorem consume (h : Sealed c stop) (hle : c.next ≤ next) (hstop : next ≤ stop) :
    Sealed (Etims.consume c next) stop ∧ (Etims.consume c next).year = c.year ∧
      (Etims.consume c next).next = next ∧
      ∀ band ∈ (Etims.consume c next).bands, band ∈ c.bands := by
  obtain ⟨start, hstart, hstack, -⟩ := h.bounds
  obtain ⟨start', hstart', hfilter⟩ := hstack.filter (hstart.trans hle)
  unfold Etims.consume
  split
  · -- drained: the last band stays as a tail without stock
    rename_i hnil
    rw [hnil] at hfilter
    have hnext : start' = stop := hfilter
    cases hlast : c.bands.getLast? with
    | none => exact absurd (List.getLast?_eq_none_iff.mp hlast) h.bands_ne_nil
    | some last =>
      have hmem := List.mem_of_getLast? hlast
      have hend := hstack.stop_eq hlast
      have hordered := (hstack.bounds.2 last hmem).2
      have hsub : ∀ band ∈ (some last).toList, band ∈ c.bands := by
        intro band hband
        obtain rfl : band = last := by simpa using hband
        exact hmem
      have htail : Stack last.fromSeq (some last).toList stop := ⟨rfl, hordered, hend⟩
      refine ⟨of_stack h.year (fun b hb => h.of_mem (hsub b hb)) htail (by omega) (by simp) ?_,
        rfl, rfl, hsub⟩
      simp only [Option.toList_some, List.head?_cons, Option.mem_def, Option.some.injEq, forall_eq']
      omega
  · rename_i hne
    have hsub : ∀ band ∈ c.bands.filter (·.toSeq ≥ next), band ∈ c.bands :=
      fun band hband => (List.mem_filter.mp hband).1
    refine ⟨of_stack h.year (fun b hb => h.of_mem (hsub b hb)) hfilter hstart' hne ?_, rfl, rfl,
      hsub⟩
    intro band hband
    have := le_of_mem_filter (List.mem_of_mem_head? hband)
    omega

end Sealed

/-- **A refill saves an accepted checkpoint**, if the grant has an identifier of the pattern: it
stands where the loaded one stood, or at the first sequence of the year. -/
theorem Sealed.activated {r : Suspended} {year : ℤ} (h : r.Loaded year S)
    {grant : VsdcBandGrant} (hid : isBandId grant.grantId = true)
    (hactivates : r.activates grant = true) :
    Sealed (r.activated grant) (grant.toSeq + 1) ∧ (r.activated grant).year = year ∧
      (∀ band ∈ (r.activated grant).bands, band ∈ r.checkpoint.bands ∨
        band = ⟨grant.grantId, grant.fromSeq, grant.toSeq⟩) ∧
      (r.checkpoint.bands = [] ∧ (r.activated grant).next = 1 ∨
        r.checkpoint.bands ≠ [] ∧ (r.activated grant).next = r.checkpoint.next) := by
  have hexpected : grant.fromSeq = r.expectedFrom := by
    simp only [Suspended.activates, Bool.and_eq_true, decide_eq_true_eq] at hactivates
    exact hactivates.2
  have hordered := grant.ordered
  have hgrant : ∀ stop, stop = grant.fromSeq →
      Stack stop [⟨grant.grantId, grant.fromSeq, grant.toSeq⟩] (grant.toSeq + 1) := by
    rintro _ rfl
    exact ⟨rfl, hordered.2.1, rfl⟩
  have hyear := h.year_eq ▸ h.four
  rcases h.kind with ⟨hzero, hnil⟩ | ⟨hsame, hne⟩
  · have haligned : r.yearAligned = false := by simp [Suspended.yearAligned, hnil]
    have hone : grant.fromSeq = 1 := by rw [hexpected, Suspended.expectedFrom, haligned]
    simp only [Suspended.activated, haligned, Bool.false_eq_true, if_false]
    refine ⟨Sealed.of_stack hyear ?_ (hgrant _ rfl) le_rfl (by simp) ?_, h.year_eq, ?_,
      .inl ⟨hnil, hone⟩⟩
    · simp only [List.mem_singleton, forall_eq]
      exact ⟨hid, hordered.1, hordered.2.2⟩
    · simp only [List.head?_cons, Option.mem_def, Option.some.injEq, forall_eq']
      omega
    · exact fun band hband => .inr (List.mem_singleton.mp hband)
  · -- the loaded checkpoint is of the year: what has stock stays, and the grant goes on top
    have hloaded : S = .checkpoint r.checkpoint := eq_checkpoint_of_validate h.loaded hne
    obtain ⟨stop, hsealed⟩ := (validateCheckpoint_iff_sealed hne).mp (hloaded ▸ h.loaded)
    have haligned : r.yearAligned = true := by simp [Suspended.yearAligned, hsame, h.year_eq, hne]
    obtain ⟨start, hstart, hstack, hstop⟩ := hsealed.bounds
    have hfrom : stop = grant.fromSeq := by
      rw [hexpected, Suspended.expectedFrom, haligned]
      cases hlast : r.checkpoint.bands.getLast? with
      | none => exact absurd (List.getLast?_eq_none_iff.mp hlast) hne
      | some last => exact (hstack.stop_eq hlast).symm
    obtain ⟨start', hstart', hfilter⟩ := hstack.filter hstart
    simp only [Suspended.activated, haligned, if_true]
    have hmem : ∀ band ∈ r.checkpoint.bands.filter (·.toSeq ≥ r.checkpoint.next) ++
        [⟨grant.grantId, grant.fromSeq, grant.toSeq⟩], band ∈ r.checkpoint.bands ∨
          band = ⟨grant.grantId, grant.fromSeq, grant.toSeq⟩ := by
      exact Lists.forall_mem_concat (fun band hband => .inl (List.mem_filter.mp hband).1) (.inr rfl)
    refine ⟨Sealed.of_stack hyear ?_ (hfilter.append (hgrant _ hfrom)) hstart' (by simp) ?_,
      h.year_eq, hmem, .inr ⟨hne, trivial⟩⟩
    · intro band hband
      rcases hmem band hband with hband | rfl
      · exact hsealed.of_mem hband
      · exact ⟨hid, hordered.1, hordered.2.2⟩
    · intro band hband
      cases hbands : r.checkpoint.bands.filter (·.toSeq ≥ r.checkpoint.next) with
      | nil =>
        rw [hbands] at hband
        obtain rfl : _ = band := Option.some.inj hband
        dsimp only
        omega
      | cons first rest =>
        rw [hbands] at hband
        obtain rfl : first = band := Option.some.inj hband
        have : first ∈ r.checkpoint.bands.filter (·.toSeq ≥ r.checkpoint.next) := by simp [hbands]
        have := le_of_mem_filter this
        omega

/-! ## A source with its history -/

/-- An answer of the authority that passed the gate of the client: a grant has an identifier of the
pattern. -/
structure GatedResult where
  result : VsdcBandResult
  identified : ∀ grant resultCd, result = .granted grant resultCd → isBandId grant.grantId = true

def GatedResult.bands (answer : GatedResult) : List SequenceBand :=
  match answer.result with
  | .granted grant _ => [⟨grant.grantId, grant.fromSeq, grant.toSeq⟩]
  | .refused .. => []

/-- A reservation, or a refill with the answer to its registration call, `none` if the process
crashed while it waited. With `crash` the process crashes before the call returns. -/
inductive Command where
  | reserve (count : JsNumber) (clock : Clock) (audit : Audit) (crash : Bool)
  | refill (clock : Clock) (audit : Audit) (answer : Option GatedResult) (crash : Bool)

def Command.within (year : ℤ) : Command → Bool
  | .reserve _ clock _ _ => (clockYear clock).all (· = year)
  | .refill clock _ _ _ => (clockYear clock).all (· = year)

structure Draw where
  numbers : List ℤ
  returned : Bool
  crashed : Bool
  audit : Audit

structure Desk where
  world : World
  draws : List Draw
  granted : List SequenceBand
  saved : List Stored

namespace Desk

def start (world : World) : Desk := ⟨world, [], [], []⟩

def drawn (s : Desk) : List ℤ := s.draws.flatMap (·.numbers)

def issued (s : Desk) : List ℤ := (s.draws.filter (·.returned)).flatMap (·.numbers)

/-- The desk over the store after a part of a call; what the store holds now was saved if it
changed. -/
def moveTo (s : Desk) (w : World) : Desk :=
  { s with world := w, saved := s.saved ++ if w.store = s.world.store then [] else [w.store] }

def draw (s : Desk) (d : Draw) : Desk := { s with draws := s.draws ++ [d] }

def grant (s : Desk) (bands : List SequenceBand) : Desk := { s with granted := s.granted ++ bands }

def restart (s : Desk) (crash : Bool) : Desk :=
  if crash then { s with world := { s.world with minted := none } } else s

end Desk

def passed (S S' : Stored) : List ℤ :=
  if S'.position.1 = S.position.1 then sequences S.position.2 (S'.position.2 - S.position.2) else []

def worldOf {α : Type} : EStateM.Result Thrown World α → World
  | .ok _ w => w
  | .error _ w => w

def step (config : EtimsConfig) (s : Desk) : Command → Desk
  | .reserve count clock audit crash =>
    match Etims.reserve config audit clock count s.world with
    | .ok numbers w => ((s.moveTo w).draw ⟨numbers, !crash, crash, audit⟩).restart crash
    | .error _ w =>
      ((s.moveTo w).draw ⟨passed s.world.store w.store, false, crash, audit⟩).restart crash
  | .refill clock audit answer crash =>
    match refillStart config audit clock s.world, answer with
    | .ok (some call) w, some answer =>
      (((s.moveTo w).grant answer.bands).moveTo
        (worldOf (refillResume config audit call answer.result w))).restart crash
    | .ok (some _) w, none => (s.moveTo w).restart true
    | .ok none w, _ => (s.moveTo w).restart crash
    | .error _ w, _ => (s.moveTo w).restart crash

def run (config : EtimsConfig) (s : Desk) (commands : List Command) : Desk :=
  commands.foldl (step config) s

/-- **What holds of the history of a year.** -/
structure Gapless (s : Desk) : Prop where
  /-- What was drawn is the run `1, 2, 3, …`. -/
  drawn : s.drawn = sequences 1 s.drawn.length
  /-- What was issued increases, without repeats. -/
  increasing : s.issued.Pairwise (· < ·)
  /-- A number of the run that was not issued was drawn by a call that did not return. -/
  gaps : ∀ n ∈ s.drawn, n ∉ s.issued ↔ ∃ d ∈ s.draws, n ∈ d.numbers ∧ d.returned = false
  /-- A call that drew numbers and did not return crashed, or the trail refused its entry. -/
  cut : ∀ d ∈ s.draws, d.numbers ≠ [] → d.returned = false → d.crashed = true ∨ d.audit.Refuses
  /-- Every number that was issued is in a granted band. -/
  granted : ∀ n ∈ s.issued, ∃ band ∈ s.granted, band.fromSeq ≤ n ∧ n ≤ band.toSeq
  /-- Every checkpoint that was saved passes the check. -/
  saved : ∀ S ∈ s.saved, ∃ c, S = .checkpoint c ∧ validateCheckpoint S = .ok c

/-! ## The invariant -/

/-- The store of a year: no numbering in this year yet, or a sealed checkpoint of the year that
stands after what was drawn, with granted bands. -/
def Stands (year : ℤ) (s : Desk) : Prop :=
  (∀ c, validateCheckpoint s.world.store = .ok c → c.year ≠ year) ∧ s.drawn = [] ∨
    ∃ c stop, s.world.store = .checkpoint c ∧ Sealed c stop ∧ c.year = year ∧
      c.next = s.drawn.length + 1 ∧ ∀ band ∈ c.bands, band ∈ s.granted

structure Sound (year : ℤ) (s : Desk) : Prop where
  drawn : s.drawn = sequences 1 s.drawn.length
  stands : Stands year s
  cut : ∀ d ∈ s.draws, d.numbers ≠ [] → d.returned = false → d.crashed = true ∨ d.audit.Refuses
  granted : ∀ n ∈ s.drawn, ∃ band ∈ s.granted, band.fromSeq ≤ n ∧ n ≤ band.toSeq
  saved : ∀ S ∈ s.saved, ∃ c, S = .checkpoint c ∧ validateCheckpoint S = .ok c

variable {config : EtimsConfig} {year : ℤ} {s : Desk}

lemma Sound.restart (h : Sound year s) (crash : Bool) : Sound year (s.restart crash) := by
  cases crash with
  | false => exact h
  | true => exact ⟨h.drawn, h.stands, h.cut, h.granted, h.saved⟩

lemma Sound.grant (h : Sound year s) (bands : List SequenceBand) : Sound year (s.grant bands) where
  drawn := h.drawn
  stands := by
    refine h.stands.imp_right ?_
    rintro ⟨c, stop, hstore, hsealed, hyear, hnext, hbands⟩
    exact ⟨c, stop, hstore, hsealed, hyear, hnext,
      fun band hband => List.mem_append_left _ (hbands band hband)⟩
  cut := h.cut
  granted n hn := by
    obtain ⟨band, hband, hin⟩ := h.granted n hn
    exact ⟨band, List.mem_append_left _ hband, hin⟩
  saved := h.saved

lemma saved_moveTo (h : Sound year s)
    (hw : w.store = s.world.store ∨ ∃ c, w.store = .checkpoint c ∧
    validateCheckpoint w.store = .ok c) : ∀ S ∈ (s.moveTo w).saved, ∃ c, S = .checkpoint c ∧
    validateCheckpoint S = .ok c := by
  intro S hS
  rcases List.mem_append.mp hS with hS | hS
  · exact h.saved S hS
  · split_ifs at hS with hsame
    · cases hS
    · obtain rfl := List.mem_singleton.mp hS
      exact hw.resolve_left hsame

lemma moveTo_of_eq (h : w.store = s.world.store) :
    s.moveTo w = { s with world := w } := by
  simp [Desk.moveTo, h]

lemma Sound.same (h : Sound year s) (hw : w.store = s.world.store) :
    Sound year (s.moveTo w) := by
  rw [moveTo_of_eq hw]
  have hstands := h.stands
  simp only [Stands, ← hw] at hstands
  exact ⟨h.drawn, hstands, h.cut, h.granted, h.saved⟩

lemma Sound.settle (h : Sound year s) (hfour : 1000 ≤ year)
    (hsettled : Settled year s.world.store w.store) : Sound year (s.moveTo w) := by
  rcases hsettled with hsame | ⟨hempty, -, hother⟩
  · exact h.same hsame
  · -- only stock of another year is burned, so nothing was drawn in this one
    have hdrawn : s.drawn = [] := by
      rcases h.stands with ⟨-, hdrawn⟩ | ⟨c, stop, hstore, -, hyear, -⟩
      · exact hdrawn
      · rw [hstore] at hother
        exact absurd hyear hother
    refine ⟨h.drawn, .inl ⟨fun c hc => ?_, hdrawn⟩, h.cut, h.granted,
      saved_moveTo h (.inr ⟨EMPTY_CHECKPOINT, hempty, hempty ▸ rfl⟩)⟩
    have hc' : validateCheckpoint w.store = .ok c := hc
    rw [hempty] at hc'
    obtain rfl := Except.ok.inj hc'
    exact fun hzero : (0 : ℤ) = year => by omega

lemma drawn_draw (s : Desk) (d : Draw) : (s.draw d).drawn = s.drawn ++ d.numbers := by
  simp [Desk.drawn, Desk.draw]

lemma length_sequences (start n : ℤ) : (sequences start n).length = n.toNat := by
  simp [sequences]

lemma sequences_append (a : ℕ) (hn : 0 ≤ n) :
    sequences 1 a ++ sequences (a + 1) n = sequences 1 (a + n) := by
  obtain ⟨k, rfl⟩ := Int.eq_ofNat_of_zero_le hn
  have hsum : ((a : ℤ) + (k : ℤ)).toNat = a + k := by omega
  simp only [sequences, Int.toNat_natCast, hsum, List.range_add, List.map_append, List.map_map]
  congr 1
  refine List.map_congr_left fun i _ => ?_
  simp only [Function.comp_apply, Nat.cast_add]
  ring

lemma Sound.draw_nil (h : Sound year s) {d : Draw} (hd : d.numbers = []) :
    Sound year (s.draw d) := by
  have hdrawn : (s.draw d).drawn = s.drawn := by rw [drawn_draw, hd, List.append_nil]
  refine ⟨by rw [hdrawn]; exact h.drawn, ?_, ?_, by rw [hdrawn]; exact h.granted, h.saved⟩
  · have hstands := h.stands
    rw [Stands, ← hdrawn] at hstands
    exact hstands
  · intro d' hd' hne
    rcases Lists.mem_concat hd' with hd' | rfl
    · exact h.cut d' hd' hne
    · exact absurd hd hne

/-- **A reservation that drew sequences keeps the invariant**: the checkpoint stood right after what
was drawn, and the stock covers the new sequences. -/
lemma Sound.draw (h : Sound year s) (hdrew : Drew year n c s.world.store w.store) {d : Draw}
    (hnumbers : d.numbers = sequences s.world.store.position.2 n)
    (hcut : d.returned = false → d.crashed = true ∨ d.audit.Refuses) :
    Sound year ((s.moveTo w).draw d) := by
  have hn := hdrew.pos
  -- the loaded checkpoint is the one that stands after what was drawn
  obtain ⟨c', stop, hstore, hsealed, hyear, hnext, hbands⟩ : ∃ c stop,
      s.world.store = .checkpoint c ∧ Sealed c stop ∧ c.year = year ∧
        c.next = s.drawn.length + 1 ∧ ∀ band ∈ c.bands, band ∈ s.granted :=
    h.stands.resolve_left fun hnone => hnone.1 c hdrew.loaded hdrew.year_eq
  obtain rfl : c' = c := by
    have hloaded := eq_checkpoint_of_validate hdrew.loaded hdrew.bands
    rw [hstore] at hloaded
    exact Stored.checkpoint.inj hloaded
  have hstock : n ≤ stop - c'.next := hsealed.stockOf_eq ▸ hdrew.stock
  have hforward : c'.next ≤ c'.next + (n - 1) + 1 := by omega
  obtain ⟨hconsumed, hyear', hnext', hsub⟩ := hsealed.consume hforward (by omega)
  have hfrom : d.numbers = sequences (s.drawn.length + 1) n := by
    rw [hnumbers, hstore, ← hnext]
    rfl
  have hdrawn : ((s.moveTo w).draw d).drawn = s.drawn ++ d.numbers := drawn_draw _ _
  have hlength : (((s.moveTo w).draw d).drawn.length : ℤ) = s.drawn.length + n := by
    rw [hdrawn, List.length_append, hfrom, length_sequences]
    omega
  refine ⟨?_, .inr ⟨_, stop, hdrew.saved, hconsumed, hyear'.trans hyear, ?_, ?_⟩, ?_, ?_, ?_⟩
  · rw [hlength, hdrawn, hfrom, ← sequences_append _ (by omega), ← h.drawn]
  · rw [hnext', hlength, hnext]
    ring
  · exact fun band hband => hbands band (hsub band hband)
  · exact Lists.forall_mem_concat h.cut fun _ => hcut
  · intro m hm
    rw [hdrawn, hfrom] at hm
    rcases List.mem_append.mp hm with hm | hm
    · exact h.granted m hm
    · obtain ⟨hge, hlt⟩ := mem_sequences hm
      obtain ⟨start, hstart, hstack, -⟩ := hsealed.bounds
      obtain ⟨band, hband, hin⟩ := hstack.exists_mem (m := m) (by omega) (by omega)
      exact ⟨band, hbands band hband, hin⟩
  · exact saved_moveTo h (.inr ⟨_, hdrew.saved, hdrew.saved ▸ hconsumed.validate⟩)

lemma Stands.loaded (h : Stands year s) (hloaded : call.Loaded year s.world.store) :
    call.checkpoint.bands = [] ∧ s.drawn = [] ∨ call.checkpoint.bands ≠ [] ∧
      call.checkpoint.next = s.drawn.length + 1 ∧
        ∀ band ∈ call.checkpoint.bands, band ∈ s.granted := by
  rcases h with ⟨hnone, hdrawn⟩ | ⟨c, stop, hstore, hsealed, -, hnext, hbands⟩
  · rcases hloaded.kind with ⟨-, hnil⟩ | ⟨hyear, -⟩
    · exact .inl ⟨hnil, hdrawn⟩
    · exact absurd hyear (hnone _ hloaded.loaded)
  · have hc := hloaded.loaded
    rw [hstore, hsealed.validate] at hc
    cases hc
    exact .inr ⟨hsealed.bands_ne_nil, hnext, hbands⟩

/-- **A refill that activates a granted band keeps the invariant.** -/
lemma Sound.activate (h : Sound year s)
    (hloaded : call.Loaded year s.world.store) {grant : VsdcBandGrant}
    (hid : isBandId grant.grantId = true) (hactivates : call.activates grant = true)
    (hgranted : ⟨grant.grantId, grant.fromSeq, grant.toSeq⟩ ∈ s.granted)
    (hstore : w.store = .checkpoint (call.activated grant)) : Sound year (s.moveTo w) := by
  obtain ⟨hsealed, hyear, hbands, hnext⟩ := Sealed.activated hloaded hid hactivates
  refine ⟨h.drawn, .inr ⟨_, _, hstore, hsealed, hyear, ?_, ?_⟩, h.cut, h.granted,
    saved_moveTo h (.inr ⟨_, hstore, hstore ▸ hsealed.validate⟩)⟩
  · rcases h.stands.loaded hloaded with ⟨hnil, hdrawn⟩ | ⟨hne, hstands, -⟩
    · have hempty : (s.moveTo w).drawn = [] := hdrawn
      rw [(hnext.resolve_right fun hnot => hnot.1 hnil).2, hempty]
      rfl
    · exact (hnext.resolve_left fun hnot => hne hnot.1).2.trans hstands
  · intro band hband
    rcases hbands band hband with hband | rfl
    · rcases h.stands.loaded hloaded with ⟨hnil, -⟩ | ⟨-, -, hmem⟩
      · rw [hnil] at hband
        cases hband
      · exact hmem band hband
    · exact hgranted

/-! ## Calls keep the invariant -/

lemma year_of_within {now : Date} {y : ℤ} (hwithin : (clockYear clock).all (· = year) = true)
    (h : assertClockYear clock = .ok (now, y)) :
    y = year ∧ 1000 ≤ year := by
  rw [clockYear_of_ok h] at hwithin
  obtain rfl : y = year := by simpa using hwithin
  exact ⟨rfl, (assertClockYear_eq_ok h).2.1⟩

lemma sound_reserve (h : Sound year s) (count : JsNumber) (audit : Audit) (crash : Bool)
    (hwithin : (clockYear clock).all (· = year) = true) :
    Sound year (step config s (.reserve count clock audit crash)) := by
  have hspec := reserve_draws (S := s.world.store) config audit clock count
  simp only [step]
  split
  · rename_i numbers w hrun
    obtain ⟨now, y, n, c, hok, hdrew, rfl⟩ := hspec.of_ok hrun rfl
    obtain ⟨rfl, -⟩ := year_of_within hwithin hok
    exact (h.draw hdrew rfl fun hreturned => .inl (by simpa using hreturned)).restart crash
  · rename_i e w hrun
    refine Sound.restart ?_ crash
    rcases hspec.of_error hrun rfl with hsame | ⟨now, y, hok, hsettled | ⟨hrefuses, n, c, hdrew⟩⟩
    · refine (h.same hsame).draw_nil ?_
      simp [passed, hsame, sequences]
    · obtain ⟨rfl, hfour⟩ := year_of_within hwithin hok
      refine (h.settle hfour hsettled).draw_nil ?_
      rcases hsettled with hsame | ⟨hempty, hzero, -⟩
      · simp [passed, hsame, sequences]
      · exact if_neg fun hyear => hzero (by rw [← hyear, hempty]; rfl)
    · obtain ⟨rfl, -⟩ := year_of_within hwithin hok
      refine h.draw hdrew ?_ fun _ => .inr hrefuses
      obtain ⟨hyear, -, -, hposition⟩ := hdrew.advanced
      simp [passed, hposition, hyear]

lemma sound_refill (h : Sound year s) (audit : Audit) (answer : Option GatedResult) (crash : Bool)
    (hwithin : (clockYear clock).all (· = year) = true) :
    Sound year (step config s (.refill clock audit answer crash)) := by
  have hspec := refillStart_loads (S := s.world.store) config audit clock
  have hstart : ∀ r w, refillStart config audit clock s.world = .ok r w →
      Sound year (s.moveTo w) ∧ ∀ call ∈ r, call.Loaded year w.store := by
    intro r w hrun
    obtain ⟨now, y, hok, hsettled, hcalls⟩ := hspec.of_ok hrun rfl
    obtain ⟨rfl, hfour⟩ := year_of_within hwithin hok
    exact ⟨h.settle hfour hsettled, hcalls⟩
  simp only [step]
  split
  · rename_i call w answer hrun
    obtain ⟨hsound, hloaded⟩ := hstart _ _ hrun
    refine Sound.restart ?_ crash
    have hgrant := hsound.grant answer.bands
    have hresumed : Resumed call answer.result w.store
        (worldOf (refillResume config audit call answer.result w)).store := by
      have hresume := refillResume_spec (S := w.store) config audit call answer.result w rfl
      unfold worldOf
      split at hresume <;> simp_all
    rcases hresumed with hsame | ⟨grant, resultCd, hanswer, hactivates, hstore⟩
    · exact hgrant.same hsame
    · refine hgrant.activate (hloaded call rfl) (answer.identified grant resultCd hanswer)
        hactivates ?_ hstore
      simp [Desk.grant, GatedResult.bands, hanswer]
  · rename_i call w hrun
    exact (hstart _ _ hrun).1.restart true
  · rename_i w hrun
    exact (hstart _ _ hrun).1.restart crash
  · rename_i e w hrun
    refine Sound.restart ?_ crash
    rcases hspec.of_error hrun rfl with hsame | ⟨now, y, hok, hsettled⟩
    · exact h.same hsame
    · obtain ⟨rfl, hfour⟩ := year_of_within hwithin hok
      exact h.settle hfour hsettled

lemma sound_step (h : Sound year s) {command : Command} (hwithin : command.within year = true) :
    Sound year (step config s command) := by
  cases command with
  | reserve count clock audit crash => exact sound_reserve h count audit crash hwithin
  | refill clock audit answer crash => exact sound_refill h audit answer crash hwithin

/-! ## The numbers of a year -/

lemma pairwise_sequences (start n : ℤ) : (sequences start n).Pairwise (· < ·) := by
  refine List.Pairwise.map _ (fun a b hab => ?_) List.pairwise_lt_range
  omega

lemma issued_sublist (s : Desk) : s.issued.Sublist s.drawn := by
  unfold Desk.issued Desk.drawn
  induction s.draws with
  | nil => exact List.Sublist.refl _
  | cons d draws ih =>
    rw [List.filter_cons]
    split_ifs with hreturned
    · exact (List.Sublist.refl _).append ih
    · exact ih.trans (List.sublist_append_right _ _)

lemma notMem_issued_iff (hnodup : s.drawn.Nodup) (hn : n ∈ s.drawn) :
    n ∉ s.issued ↔ ∃ d ∈ s.draws, n ∈ d.numbers ∧ d.returned = false := by
  constructor
  · intro hnot
    obtain ⟨d, hd, hmem⟩ := List.mem_flatMap.mp hn
    refine ⟨d, hd, hmem, ?_⟩
    by_contra hreturned
    exact hnot (List.mem_flatMap.mpr ⟨d, List.mem_filter.mpr ⟨hd, by simpa using hreturned⟩, hmem⟩)
  · rintro ⟨d, hd, hmem, hlost⟩ hissued
    obtain ⟨d', hd', hmem'⟩ := List.mem_flatMap.mp hissued
    obtain ⟨hd', hreturned⟩ := List.mem_filter.mp hd'
    have hne : d ≠ d' := by
      rintro rfl
      rw [hlost] at hreturned
      cases hreturned
    have : Std.Symm (Function.onFun List.Disjoint fun d : Draw => d.numbers) :=
      ⟨fun _ _ h => List.Disjoint.symm h⟩
    exact (List.nodup_flatMap.mp hnodup).2.forall hd hd' hne hmem hmem'

lemma Sound.gapless (h : Sound year s) : Gapless s := by
  have hincreasing : s.drawn.Pairwise (· < ·) := by
    rw [h.drawn]
    exact pairwise_sequences _ _
  have hnodup : s.drawn.Nodup := hincreasing.imp fun hlt => hlt.ne
  exact ⟨h.drawn, hincreasing.sublist (issued_sublist s), fun n hn => notMem_issued_iff hnodup hn,
    h.cut, fun n hn => h.granted n ((issued_sublist s).subset hn), h.saved⟩

/-- **The numbers of a year.** Over any store without numbering in the year, along every run of the
year: the numbers drawn are `1, 2, 3, …`; those issued increase and lie in granted bands; one is
missing only where a call was cut off between its save and its return; and every saved checkpoint
passes the check. -/
theorem numbered_from_one (config : EtimsConfig) (year : ℤ) (world : World)
    (hfresh : ∀ c, validateCheckpoint world.store = .ok c → c.year ≠ year) (commands : List Command)
    (hwithin : ∀ command ∈ commands, command.within year = true) :
    Gapless (run config (Desk.start world) commands) := by
  have hstart : Sound year (Desk.start world) :=
    ⟨rfl, .inl ⟨hfresh, rfl⟩, by simp [Desk.start], by simp [Desk.start, Desk.drawn],
      by simp [Desk.start]⟩
  have hsound : Sound year (run config (Desk.start world) commands) :=
    List.foldlRecOn commands (step config) hstart fun s hs command hcommand =>
      sound_step hs (hwithin command hcommand)
  exact hsound.gapless

def grantOf (id : String) (fromSeq : ℤ) (hid : isBandId id = true)
    (hordered : 1 ≤ fromSeq ∧ fromSeq ≤ fromSeq + 2 ∧ fromSeq + 2 ≤ ETIMS_MAX_SEQUENCE) :
    GatedResult :=
  ⟨.granted ⟨id, fromSeq, fromSeq + 2, hordered⟩ "000", by rintro _ _ ⟨⟩; exact hid⟩

/-- Two bands in June 2026, with a crash after the save of the second reservation. -/
def juneCommands : List Command :=
  [.refill june2026 acceptAll (some (grantOf "GRANT-0001" 1 (by decide) (by decide))) false,
    .reserve ⟨some 2, "2"⟩ june2026 acceptAll false, .reserve ⟨some 1, "1"⟩ june2026 acceptAll true,
    .refill june2026 acceptAll (some (grantOf "GRANT-0002" 4 (by decide) (by decide))) false,
    .reserve ⟨some 2, "2"⟩ june2026 acceptAll false]

/-- The crash leaves a gap at `3`, and numbering goes on after it. -/
theorem numbered_from_one_june :
    (run smallBands (Desk.start ⟨.absent, [], none⟩) juneCommands).issued = [1, 2, 4, 5] ∧
      (run smallBands (Desk.start ⟨.absent, [], none⟩) juneCommands).drawn = [1, 2, 3, 4, 5] ∧
      Gapless (run smallBands (Desk.start ⟨.absent, [], none⟩) juneCommands) := by
  refine ⟨by decide +kernel, by decide +kernel, numbered_from_one smallBands 2026 _ ?_ _ ?_⟩
  · intro c hc
    cases hc
    decide
  · decide +kernel

end Fuatilia.Etims.Numbering
