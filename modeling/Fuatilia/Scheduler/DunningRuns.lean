import Fuatilia.Scheduler.Jobs

/-!
# One run of the dunning job

A run alone takes the first rows of its scan, and it ends at the first row that it cannot deal with:
a row without a date, or with a due step for a channel that consents do not have.

## Main definitions

* `HandledFor`, `Due`, `Reached` — a step dealt with, due, and reached by a run.

## Main results

* `runDunning_handled_iff` — what a run has dealt with: the due steps of the rows before that one.
-/

namespace Fuatilia.Scheduler

open Jobs Fallible Lists Scans

/-! ## Keys -/

lemma eq_of_append_colon {a a' b b' : String} (h : a ++ ":" ++ b = a' ++ ":" ++ b')
    (ha : ':' ∉ a.toList) (ha' : ':' ∉ a'.toList) : a = a' := by
  have hlist : a.toList ++ ':' :: b.toList = a'.toList ++ ':' :: b'.toList := by
    simpa [String.toList_append] using congrArg String.toList h
  have hspan : ∀ (l r : List Char), ':' ∉ l → (l ++ ':' :: r).takeWhile (· ≠ ':') = l := by
    intro l r hl
    rw [List.takeWhile_append_of_pos fun c hc => by
      simpa using fun hcolon : c = ':' => hl (hcolon ▸ hc)]
    simp
  exact String.toList_inj.mp (by rw [← hspan _ b.toList ha, hlist, hspan _ _ ha'])

def IsKeyOf (id : Uuid) (stepKey key : String) : Prop :=
  key = dunningSendKey id stepKey ∨ key = dunningBlockedKey id stepKey

lemma dunningBlockedKey_eq (id stepKey : String) :
    dunningBlockedKey id stepKey = id ++ ":" ++ ("blocked:" ++ stepKey) := by
  rw [dunningBlockedKey, show (":blocked:" : String) = ":" ++ "blocked:" from rfl]
  simp only [String.append_assoc]

variable {id : Uuid} {facts : DunningFacts} {run : DunningRun} {progress : Progress} {batch : ℤ}
  {r' : ReceivableRow} {horizon : Instant} {item : DunningSubject × DunningStep}

lemma IsKeyOf.id_eq {id' : Uuid} {stepKey stepKey' key : String} (h : IsKeyOf id stepKey key)
    (h' : IsKeyOf id' stepKey' key) (hid : ':' ∉ id.toList) (hid' : ':' ∉ id'.toList) :
    id = id' := by
  have hform : ∀ {id stepKey : String}, IsKeyOf id stepKey key →
      ∃ rest, key = id ++ ":" ++ rest := by
    rintro id stepKey (hsend | hblocked)
    · exact ⟨stepKey, hsend⟩
    · exact ⟨"blocked:" ++ stepKey, hblocked.trans (dunningBlockedKey_eq id stepKey)⟩
  obtain ⟨rest, hrest⟩ := hform h
  obtain ⟨rest', hrest'⟩ := hform h'
  exact eq_of_append_colon (hrest.symm.trans hrest') hid hid'

variable {s step : DunningStep} {subject : DunningSubject} {now : Instant} {r : ReceivableRow}
  {clock : ℕ → Instant} {rows : List ReceivableRow}

lemma IsKeyOf.step_eq {s' : DunningStep} {key : String} (h : IsKeyOf id s.key key)
    (h' : IsKeyOf id s'.key key) (hs : s ∈ defaultDunningLadder) (hs' : s' ∈ defaultDunningLadder) :
    s = s' := by
  have hkeys : ∀ s ∈ defaultDunningLadder, ∀ s' ∈ defaultDunningLadder,
      (s.key = s'.key → s = s') ∧ s.key ≠ "blocked:" ++ s'.key := by
    decide
  have hinj : ∀ {a b : String}, id ++ ":" ++ a = id ++ ":" ++ b → a = b :=
    fun hab => (String.append_right_inj _).mp hab
  rcases h with hk | hk <;> rcases h' with hk' | hk'
  · exact (hkeys s hs s' hs').1 (hinj (hk.symm.trans hk'))
  · rw [dunningBlockedKey_eq] at hk'
    exact absurd (hinj (hk.symm.trans hk')) (hkeys s hs s' hs').2
  · rw [dunningBlockedKey_eq] at hk
    exact absurd (hinj (hk'.symm.trans hk)) (hkeys s' hs' s hs).2
  · rw [dunningBlockedKey_eq] at hk hk'
    exact (hkeys s hs s' hs').1 ((String.append_right_inj _).mp (hinj (hk.symm.trans hk')))

/-! ## What a run does to the claims -/

def HandledFor (w : World) (subject : DunningSubject) (step : DunningStep) : Prop :=
  ∃ key, IsKeyOf subject.receivableID step.key key ∧ w.db.Claimed subject.orgID claimScopeDun key

/-- From `w` to `w'` the job has dealt with these steps, and claimed nothing else. -/
structure Worked (items : List (DunningSubject × DunningStep)) (w w' : World) : Prop where
  receivables : w'.db.receivables = w.db.receivables
  grows : ∀ orgID scope key, w.db.Claimed orgID scope key → w'.db.Claimed orgID scope key
  handled : ∀ item ∈ items, HandledFor w' item.1 item.2
  only : ∀ orgID key, w'.db.Claimed orgID claimScopeDun key → w.db.Claimed orgID claimScopeDun key ∨
    ∃ item ∈ items, orgID = item.1.orgID ∧ IsKeyOf item.1.receivableID item.2.key key

namespace Worked

variable {items items' : List (DunningSubject × DunningStep)} {w w' w'' : World}

lemma refl (w : World) : Worked [] w w where
  receivables := rfl
  grows _ _ _ h := h
  handled _ h := nomatch h
  only _ _ h := .inl h

lemma append (h : Worked items w w') (h' : Worked items' w' w'') :
    Worked (items ++ items') w w'' where
  receivables := h'.receivables.trans h.receivables
  grows orgID scope key hclaimed := h'.grows _ _ _ (h.grows _ _ _ hclaimed)
  handled item hitem := by
    rcases List.mem_append.mp hitem with hold | hnew
    · obtain ⟨key, hkey, hclaimed⟩ := h.handled item hold
      exact ⟨key, hkey, h'.grows _ _ _ hclaimed⟩
    · exact h'.handled item hnew
  only orgID key hclaimed := by
    rcases h'.only orgID key hclaimed with hold | ⟨item, hitem, heq⟩
    · rcases h.only orgID key hold with hbefore | ⟨item, hitem, heq⟩
      · exact .inl hbefore
      · exact .inr ⟨item, List.mem_append_left _ hitem, heq⟩
    · exact .inr ⟨item, List.mem_append_right _ hitem, heq⟩

end Worked

variable {w w' : World} {items : List (DunningSubject × DunningStep)}

lemma Db.claimed_commit {db : Db} {orgID : Uuid} {scope key : String} {payload : Payload}
    {occurredAt : Instant} (hfree : ¬ db.Claimed orgID scope key) {orgID' : Uuid}
    {scope' key' : String} :
    (db.commit orgID scope key payload occurredAt hfree).Claimed orgID' scope' key' ↔
      db.Claimed orgID' scope' key' ∨ (orgID', scope', key') = (orgID, scope, key) := by
  simp [Db.Claimed, Db.commit, List.map_append, List.mem_append, Claim.unique]

/-- **A transaction alone**: it returns, afterwards its key is claimed, and no other key is. -/
lemma finish_claimAndEmit (orgID : Uuid) (scope key : String) (payload : Payload)
    (occurredAt : Instant) (basis : Option Consultation) (w : World) :
    ∃ claimed w', (claimAndEmit orgID scope key payload occurredAt basis).finish w = (w',
      .ok claimed) ∧ w'.db.receivables = w.db.receivables ∧ ∀ orgID' scope' key',
        w'.db.Claimed orgID' scope' key' ↔ w.db.Claimed orgID' scope' key' ∨
        (orgID', scope', key') = (orgID, scope, key) := by
  rw [claimAndEmit, Job.finish_call]
  by_cases hclaimed : w.db.Claimed orgID scope key
  · rw [dif_pos hclaimed]
    refine ⟨false, _, rfl, rfl, fun orgID' scope' key' => ⟨.inl, ?_⟩⟩
    rintro (h | h)
    · exact h
    · obtain ⟨rfl, rfl, rfl⟩ : orgID' = orgID ∧ scope' = scope ∧ key' = key := by simpa using h
      exact hclaimed
  · rw [dif_neg hclaimed]
    exact ⟨true, _, rfl, rfl, fun _ _ _ => Db.claimed_commit hclaimed⟩

lemma Worked.of_claim {key : String} (hkey : IsKeyOf subject.receivableID step.key key)
    (hrows : w'.db.receivables = w.db.receivables)
    (hclaims : ∀ orgID' scope' key', w'.db.Claimed orgID' scope' key' ↔
      w.db.Claimed orgID' scope' key' ∨ (orgID', scope', key') = (subject.orgID, claimScopeDun,
    key)) : Worked [(subject, step)] w w' where
  receivables := hrows
  grows _ _ _ h := (hclaims _ _ _).mpr (.inl h)
  handled item hitem := by
    obtain rfl := List.mem_singleton.mp hitem
    exact ⟨key, hkey, (hclaims _ _ _).mpr (.inr rfl)⟩
  only orgID key' h := by
    rcases (hclaims _ _ _).mp h with hold | hnew
    · exact .inl hold
    · obtain ⟨rfl, -, rfl⟩ : orgID = subject.orgID ∧ claimScopeDun = claimScopeDun ∧
        key' = key := by
        simpa using hnew
      exact .inr ⟨_, List.mem_singleton_self _, rfl, hkey⟩

/-! ## One turn of the loops -/

lemma finish_consentFor {stats : Stats} {consent : List Consultation} {channel : Channel}
    (hconsent : ∀ c ∈ consent, c.channel ≠ .task) :
    Job.Ends (fun result w' => w' = w ∧ channel ≠ .task ∧ ∀ c ∈ result.2, c.channel ≠ .task)
      (fun w' => w' = w ∧ channel = .task)
      ((consentFor stats subject now consent channel).finish w) := by
  have hadded : ∀ c : Consultation, c.channel ≠ .task → ∀ c' ∈ consent ++ [c], c'.channel ≠ .task :=
    fun c hc => Lists.forall_mem_concat hconsent hc
  match hfind : consent.find? fun c => c.channel = channel with
  | some c =>
    obtain ⟨hmem, rfl⟩ := of_find hfind
    rw [consentFor, hfind]
    exact ⟨rfl, hconsent c hmem, hconsent⟩
  | none =>
    rw [consentFor, hfind]
    cases channel with
    | task => exact ⟨rfl, rfl⟩
    | email | sms | whatsapp => exact ⟨rfl, nofun, hadded _ nofun⟩

/-- **One step of a subject**: it is dealt with, or its channel ends the run. -/
lemma finish_dunningTurn {state : Progress × List Consultation}
    (hconsent : ∀ c ∈ state.2, c.channel ≠ .task) :
    Job.Ends (fun state' w' => Worked [(subject, step)] w w' ∧ step.channel ≠ .task ∧
        ∀ c ∈ state'.2, c.channel ≠ .task)
      (fun w' => w' = w ∧ step.channel = .task)
      ((dunningTurn run subject facts state step).finish w) := by
  refine Job.Ends.bind (finish_consentFor hconsent) ?_
  rintro ⟨consultation, consent⟩ w₁ ⟨rfl, hchannel, hconsent'⟩
  dsimp only
  split
  · obtain ⟨claimed, w₂, hcommit, hrows, hclaims⟩ := finish_claimAndEmit subject.orgID claimScopeDun
      (dunningSendKey subject.receivableID step.key) (dunningSendPayload step facts)
      (run.clock state.1.reads) (some consultation) w₁
    rw [Job.finish_bind, hcommit]
    exact ⟨Worked.of_claim (.inl rfl) hrows hclaims, hchannel, hconsent'⟩
  · obtain ⟨claimed, w₂, hcommit, hrows, hclaims⟩ := finish_claimAndEmit subject.orgID claimScopeDun
      (dunningBlockedKey subject.receivableID step.key)
      (dunningBlockedPayload step facts (run.clock (state.1.reads + 1)))
      (run.clock state.1.reads) none w₁
    rw [Job.finish_bind, hcommit]
    exact ⟨Worked.of_claim (.inr rfl) hrows hclaims, hchannel, hconsent'⟩

/-! ## One subject -/

def dueOf (w : World) (now : Instant) (r : ReceivableRow) : List DunningStep :=
  defaultDunningLadder.filter fun s =>
    ¬ w.db.Claimed r.orgID claimScopeDun (dunningSendKey r.id s.key) ∧
      s.dayOffset ≤ utcDaysBetween r.dueDate now

lemma mem_dueOf_iff : s ∈ dueOf w now r ↔ s ∈ defaultDunningLadder ∧
      ¬ w.db.Claimed r.orgID claimScopeDun (dunningSendKey r.id s.key) ∧
        s.dayOffset ≤ utcDaysBetween r.dueDate now :=
  List.mem_filter.trans (and_congr_right fun _ => decide_eq_true_iff)

def factsOf (w : World) (r : ReceivableRow) : DunningFacts :=
  dunningFacts r.subject ((w.db.claims.filter fun c => c.orgID = r.orgID ∧ c.scope = claimScopeDun ∧
    c.key ∈ defaultDunningLadder.map fun s => dunningSendKey r.id s.key).map Claim.key)

lemma mem_sentSteps_iff (hs : s ∈ defaultDunningLadder) : s.key ∈ (factsOf w r).sentSteps ↔
      w.db.Claimed r.orgID claimScopeDun (dunningSendKey r.id s.key) := by
  simp only [factsOf, dunningFacts, List.map_map, List.mem_map, List.mem_filter, Db.Claimed,
    decide_eq_true_eq, Function.comp_apply, Claim.unique, Prod.mk.injEq]
  constructor
  · rintro ⟨c, ⟨hc, horg, hscope, s', -, hkey⟩, htrim⟩
    refine ⟨c, hc, horg, hscope, ?_⟩
    rw [← hkey, show r.subject.receivableID = r.id from rfl, dunningSendKey, trimStart_append]
      at htrim
    rw [← hkey, htrim]
  · rintro ⟨c, hc, horg, hscope, hkey⟩
    refine ⟨c, ⟨hc, horg, hscope, s, hs, hkey.symm⟩, ?_⟩
    rw [hkey]
    exact trimStart_append _ _

lemma validateLadder_default : validateLadder defaultDunningLadder = .ok () := by decide

lemma dueSteps_eq (w : World) (now : Instant) (r : ReceivableRow) :
    (now ≠ zeroTime ∧ r.dueDate ≠ zeroTime ∧
      dueSteps now (factsOf w r) defaultDunningLadder = .ok (dueOf w now r)) ∨
    ((now = zeroTime ∨ r.dueDate = zeroTime) ∧
      ∃ e, dueSteps now (factsOf w r) defaultDunningLadder = .error e) := by
  by_cases hvalid : now ≠ zeroTime ∧ r.dueDate ≠ zeroTime
  · refine .inl ⟨hvalid.1, hvalid.2, dueSteps_eq_ok.mpr ⟨hvalid.1, hvalid.2, validateLadder_default,
      ?_⟩⟩
    refine List.filter_congr fun s hs => ?_
    simp only [mem_sentSteps_iff hs]
    rfl
  · have hzero : now = zeroTime ∨ r.dueDate = zeroTime := by
      by_contra hne
      exact hvalid (not_or.mp hne)
    refine .inr ⟨hzero, ?_⟩
    match hrun : dueSteps now (factsOf w r) defaultDunningLadder with
    | .error e => exact ⟨e, rfl⟩
    | .ok due =>
      obtain ⟨hnow, hdue, -⟩ := dueSteps_eq_ok.mp hrun
      exact absurd ⟨hnow, hdue⟩ hvalid

/-- The row does not end a run: its due date and the clock are dates, and its due steps go to
channels of consents. -/
def Clear (w : World) (now : Instant) (r : ReceivableRow) : Prop :=
  now ≠ zeroTime ∧ r.dueDate ≠ zeroTime ∧ ∀ s ∈ dueOf w now r, s.channel ≠ .task
  deriving Decidable

/-- The steps that a run deals with when it comes to the row: the due ones before the first whose
channel is none of consents. -/
def stepsOf (w : World) (now : Instant) (r : ReceivableRow) : List DunningStep :=
  if now = zeroTime ∨ r.dueDate = zeroTime then [] else
    (upTo (fun s => s.channel ≠ .task) (dueOf w now r)).filter fun s => s.channel ≠ .task

def itemsOf (w : World) (now : Instant) (r : ReceivableRow) : List (DunningSubject × DunningStep) :=
  (stepsOf w now r).map fun s => (r.subject, s)

lemma mem_flatMap_itemsOf : item ∈ rows.flatMap (itemsOf w now) ↔
    ∃ r ∈ rows, ∃ s ∈ stepsOf w now r, item = (r.subject, s) := by
  simp [itemsOf, eq_comm]

lemma pairwise_dueOf (w : World) (now : Instant) (r : ReceivableRow) :
    (dueOf w now r).Pairwise fun s s' => s.dayOffset < s'.dayOffset := by
  have hladder : defaultDunningLadder.Pairwise fun s s' => s.dayOffset < s'.dayOffset := by decide
  exact hladder.sublist List.filter_sublist

lemma mem_stepsOf_iff : step ∈ stepsOf w now r ↔ now ≠ zeroTime ∧ r.dueDate ≠ zeroTime ∧
    step ∈ dueOf w now r ∧ ∀ s ∈ dueOf w now r, s.dayOffset ≤ step.dayOffset →
    s.channel ≠ .task := by
  rw [stepsOf]
  split_ifs with hzero
  · refine ⟨fun h => absurd h List.not_mem_nil, fun h => ?_⟩
    exact absurd hzero (not_or.mpr ⟨h.1, h.2.1⟩)
  obtain ⟨hnow, hdate⟩ := not_or.mp hzero
  rw [List.mem_filter, decide_eq_true_iff, mem_upTo_iff (pairwise_dueOf w now r)]
  constructor
  · rintro ⟨⟨hdue, hearlier⟩, hown⟩
    refine ⟨hnow, hdate, hdue, fun s hs hle => ?_⟩
    rcases hle.lt_or_eq with hlt | heq
    · exact hearlier s hs hlt
    · -- no two steps of the ladder are for the same day
      have hladder : ∀ s ∈ defaultDunningLadder, ∀ s' ∈ defaultDunningLadder,
          s.dayOffset = s'.dayOffset → s = s' := by decide
      rwa [hladder s (mem_dueOf_iff.mp hs).1 step (mem_dueOf_iff.mp hdue).1 heq]
  · rintro ⟨-, -, hdue, hown⟩
    exact ⟨⟨hdue, fun s hs hlt => hown s hs hlt.le⟩, hown step hdue le_rfl⟩

lemma finish_dunningSteps {due : List DunningStep} :
    Job.Ends
      (fun _ w' => (∀ s ∈ due, s.channel ≠ .task) ∧
        Worked (((upTo (fun s => s.channel ≠ .task) due).filter fun s => s.channel ≠ .task).map
          fun s => (r.subject, s)) w w')
      (fun w' => (¬ ∀ s ∈ due, s.channel ≠ .task) ∧
        Worked (((upTo (fun s => s.channel ≠ .task) due).filter fun s => s.channel ≠ .task).map
          fun s => (r.subject, s)) w w')
      ((due.foldlM (dunningTurn run r.subject facts) (progress, [])).finish w) := by
  refine Job.Ends.mono (Job.finish_foldlM
    (P := fun passed state w' => Worked ((passed.filter fun s => s.channel ≠ .task).map
      fun s => (r.subject, s)) w w' ∧ ∀ c ∈ state.2, c.channel ≠ .task)
    (F := fun passed w' => Worked ((passed.filter fun s => s.channel ≠ .task).map
      fun s => (r.subject, s)) w w')
    ?_ ⟨Worked.refl w, fun c hc => (nomatch hc)⟩) (fun _ _ h => ⟨h.1, h.2.1⟩) fun _ h => h
  rintro passed s rest state w₁ - ⟨hworked, hconsent⟩
  refine (finish_dunningTurn hconsent).mono ?_ ?_
  · rintro state' w' ⟨hone, hchannel, hconsent'⟩
    refine ⟨hchannel, ?_, hconsent'⟩
    rw [List.filter_append, List.filter_cons_of_pos (by simpa using hchannel), List.filter_nil,
      List.map_append]
    exact hworked.append hone
  · rintro w' ⟨rfl, hchannel⟩
    refine ⟨not_not.mpr hchannel, ?_⟩
    rwa [List.filter_append, List.filter_cons_of_neg (by simpa using hchannel), List.filter_nil,
      List.append_nil]

/-- **One subject alone**: the run goes on or ends at it, as the row says, and deals with its
steps. -/
lemma finish_dunningSubject (w : World) (clock : ℕ → Instant) (now : Instant) (progress : Progress)
    (r : ReceivableRow) :
    Job.Ends (fun _ w' => Clear w now r ∧ Worked (itemsOf w now r) w w')
      (fun w' => ¬ Clear w now r ∧ Worked (itemsOf w now r) w w')
      ((dunningSubject ⟨clock, now, defaultDunningLadder⟩ progress r.subject).finish w) := by
  have hread : (dunningSubject ⟨clock, now, defaultDunningLadder⟩ progress r.subject).finish w =
      Job.andThen (fun due => (due.foldlM (dunningTurn ⟨clock, now, defaultDunningLadder⟩ r.subject
        (factsOf w r)) (progress, [])) >>= fun state => pure state.1)
      (w, (dueSteps now (factsOf w r) defaultDunningLadder).mapError fun e => (e,
        progress.stats)) := by
    rw [dunningSubject, Job.finish_bind, sentSteps, Job.finish_query, Job.andThen_ok,
      Job.finish_bind, orFail, Job.finish_attempt]
    rfl
  rw [hread, itemsOf, stepsOf]
  rcases dueSteps_eq w now r with ⟨hnow, hdate, hdue⟩ | ⟨hzero, e, hdue⟩
  · rw [hdue, Except.mapError, Job.andThen_ok, if_neg (not_or.mpr ⟨hnow, hdate⟩)]
    refine Job.Ends.bind (finish_dunningSteps.mono (fun _ _ h => h) ?_)
      fun state w' h => ⟨⟨hnow, hdate, h.1⟩, h.2⟩
    exact fun w' h => ⟨fun hclear => h.1 hclear.2.2, h.2⟩
  · rw [hdue, Except.mapError, Job.andThen_error, if_pos hzero]
    exact ⟨fun hclear => hzero.elim hclear.1 hclear.2.1, Worked.refl w⟩

/-! ## One run of the dunning job -/

lemma dueOf_of_worked (h : Worked items w w')
    (hother : ∀ item ∈ items, ':' ∉ item.1.receivableID.toList ∧ item.1.receivableID ≠ r.id) :
    dueOf w' now r = dueOf w now r := by
  refine List.filter_congr fun s _ => ?_
  have hclaimed : w'.db.Claimed r.orgID claimScopeDun (dunningSendKey r.id s.key) ↔
      w.db.Claimed r.orgID claimScopeDun (dunningSendKey r.id s.key) := by
    refine ⟨fun hlater => ?_, h.grows _ _ _⟩
    rcases h.only _ _ hlater with hbefore | ⟨item, hitem, -, hkey⟩
    · exact hbefore
    · obtain ⟨huuid, hne⟩ := hother item hitem
      exact absurd (hkey.id_eq (.inl rfl) huuid r.uuid) hne
  simp [hclaimed]

/-- **The loop over the rows** deals with the rows up to the first that is not clear. -/
lemma finish_dunningSubjects (clock : ℕ → Instant) (now : Instant) (progress : Progress)
    (hrows : (rows.map ReceivableRow.id).Nodup) :
    Worked ((upTo (Clear w now) rows).flatMap (itemsOf w now)) w ((rows.foldlM (fun progress r =>
      dunningSubject ⟨clock, now, defaultDunningLadder⟩ progress r.subject) progress).finish
          w).1 := by
  have hloop := (Job.finish_foldlM (q := Clear w now)
    (P := fun passed _ w' => Worked (passed.flatMap (itemsOf w now)) w w')
    (F := fun passed w' => Worked (passed.flatMap (itemsOf w now)) w w')
    ?_ (Worked.refl w) : Job.Ends _ _ ((rows.foldlM (fun progress r =>
      dunningSubject ⟨clock, now, defaultDunningLadder⟩ progress r.subject) progress).finish w))
  · exact hloop.world.elim And.right And.right
  rintro passed r rest progress w₁ rfl hworked
  have hother : ∀ item ∈ passed.flatMap (itemsOf w now), ':' ∉ item.1.receivableID.toList ∧
      item.1.receivableID ≠ r.id := by
    intro item hitem
    obtain ⟨r', hr', s, -, rfl⟩ := mem_flatMap_itemsOf.mp hitem
    refine ⟨r'.uuid, fun heq => ?_⟩
    rw [List.map_append, List.map_cons, List.nodup_append] at hrows
    exact hrows.2.2 _ (List.mem_map_of_mem hr') _ List.mem_cons_self heq
  have hdue : dueOf w₁ now r = dueOf w now r := dueOf_of_worked hworked hother
  have hone := finish_dunningSubject w₁ clock now progress r
  rw [Clear, itemsOf, stepsOf, hdue] at hone
  rw [List.flatMap_append, List.flatMap_singleton]
  exact hone.mono (fun _ _ h => ⟨h.1, hworked.append h.2⟩) fun _ h => ⟨h.1, hworked.append h.2⟩

lemma finish_runDunning (hbatch : 1 ≤ batch) :
    ((runDunning clock defaultDunningLadder batch).finish w).1 =
      (((select ReceivableRow.order
        (ReceivableRow.inWindow (clock 0 + dunningHorizon defaultDunningLadder)) batch.toNat
        w.db.receivables).foldlM (fun progress r =>
          dunningSubject ⟨clock, clock 0, defaultDunningLadder⟩ progress r.subject)
        ⟨{ scanned := (select ReceivableRow.order
          (ReceivableRow.inWindow (clock 0 + dunningHorizon defaultDunningLadder)) batch.toNat
          w.db.receivables).length }, 1⟩).finish w).1 := by
  have hrequire : requireBatch batch = .ok () := throwIf_eq_ok.mpr (by omega)
  have hlast : ∀ x : World × Except (Failure × Stats) Progress,
      (Job.andThen (fun progress => (pure progress.stats : Run Stats)) x).1 = x.1 := by
    rintro ⟨w', _ | _⟩ <;> rfl
  simp [runDunning, orFail, validateLadder_default, hrequire, Except.mapError, dunningSubjects,
    Job.finish_bind, Job.finish_attempt, Job.finish_query, Job.andThen_ok, hlast, List.foldlM_map,
    List.length_map]

structure Due (w : World) (now : Instant) (r : ReceivableRow) (step : DunningStep) : Prop where
  row : r ∈ w.db.receivables
  live : r.state.isLive = true
  clock : now ≠ zeroTime
  dueDate : r.dueDate ≠ zeroTime
  step : step ∈ dueOf w now r

/-- Fewer live receivables than a batch come before this one, none of them ends the run, and neither
does an earlier step of its own. -/
structure Reached (w : World) (now : Instant) (batch : ℤ) (r : ReceivableRow) (step : DunningStep) :
    Prop where
  rank : rank ReceivableRow.order (fun r => r.state.isLive) w.db.receivables r < batch
  before : ∀ r' ∈ w.db.receivables, r'.state.isLive = true → r'.order < r.order → Clear w now r'
  own : ∀ s ∈ dueOf w now r, s.dayOffset ≤ step.dayOffset → s.channel ≠ .task

lemma nodup_order (db : Db) : (db.receivables.map ReceivableRow.order).Nodup := by
  refine List.Nodup.of_map (fun order => (ofLex order).2) ?_
  rw [List.map_map]
  exact db.receivableKey

lemma dueDate_le_of_order_le (h : r'.order ≤ r.order) :
    r'.dueDate ≤ r.dueDate := by
  rcases Prod.Lex.toLex_le_toLex.mp h with hlt | ⟨heq, -⟩
  · exact hlt.le
  · exact heq.le

lemma inWindow_of_order_lt (hr : r.inWindow horizon = true) (h : r'.order < r.order) :
    r'.inWindow horizon = r'.state.isLive := by
  have hle := dueDate_le_of_order_le h.le
  simp only [ReceivableRow.inWindow, Bool.and_eq_true, decide_eq_true_eq] at hr
  rw [ReceivableRow.inWindow, decide_eq_true (hle.trans hr.2), Bool.and_true]

lemma rank_inWindow (hr : r.inWindow horizon = true) :
    rank ReceivableRow.order (ReceivableRow.inWindow horizon) rows r =
      rank ReceivableRow.order (fun r => r.state.isLive) rows r := by
  refine List.countP_congr fun r' _ => ?_
  by_cases h : r'.order < r.order
  · rw [inWindow_of_order_lt hr h]
  · simp [h]

lemma dunningHorizon_default : dunningHorizon defaultDunningLadder = 4 * dayNanos := by decide

lemma Due.inWindow (h : Due w now r step) :
    r.inWindow (now + dunningHorizon defaultDunningLadder) = true := by
  obtain ⟨hladder, -, hdays⟩ := mem_dueOf_iff.mp h.step
  have hoffset : ∀ s ∈ defaultDunningLadder, -3 ≤ s.dayOffset := by decide
  -- a due date within three days of the clock's day is before the end of the fourth day from it
  have harith : ∀ date clock offset : ℤ, -3 ≤ offset → offset ≤ clock / dayNanos - date / dayNanos →
      date ≤ clock + 4 * dayNanos - (clock + 4 * dayNanos) % 1000 := by
    intro date clock offset hfirst hdays
    simp only [dayNanos] at hdays ⊢
    omega
  rw [ReceivableRow.inWindow, h.live, Bool.true_and, decide_eq_true_eq, dunningHorizon_default]
  exact harith r.dueDate now step.dayOffset (hoffset step hladder) hdays

/-- After a run over these rows, an open step is dealt with exactly when it is a step of one of
them. -/
lemma Worked.handledFor_iff (h : Worked (rows.flatMap (itemsOf w now)) w w')
    (hrows : ∀ r' ∈ rows, r' ∈ w.db.receivables) (hrow : r ∈ w.db.receivables)
    (hstep : step ∈ defaultDunningLadder) (hopen : ¬ HandledFor w r.subject step) :
    HandledFor w' r.subject step ↔ r ∈ rows ∧ step ∈ stepsOf w now r := by
  constructor
  · rintro ⟨key, hkey, hclaimed⟩
    rcases h.only _ _ hclaimed with hbefore | ⟨item, hitem, -, hkey'⟩
    · exact absurd ⟨key, hkey, hbefore⟩ hopen
    · obtain ⟨r', hr', step', hstep', rfl⟩ := mem_flatMap_itemsOf.mp hitem
      have hid : r.id = r'.id := hkey.id_eq hkey' r.uuid r'.uuid
      obtain rfl := List.inj_on_of_nodup_map w.db.receivableKey hrow (hrows r' hr') hid
      obtain rfl := hkey.step_eq hkey' hstep (mem_dueOf_iff.mp (mem_stepsOf_iff.mp hstep').2.2.1).1
      exact ⟨hr', hstep'⟩
  · rintro ⟨hr, hs⟩
    exact h.handled _ (mem_flatMap_itemsOf.mpr ⟨r, hr, step, hs, rfl⟩)

/-- **What one run deals with.** A step that is open is dealt with by a run exactly when it is due
and the run reaches it: the run has visited the rows of its scan up to the first that is not
clear. -/
theorem runDunning_handled_iff (hbatch : 1 ≤ batch) (hrow : r ∈ w.db.receivables)
    (hstep : step ∈ defaultDunningLadder) (hopen : ¬ HandledFor w r.subject step) :
    HandledFor ((runDunning clock defaultDunningLadder batch).finish w).1 r.subject step ↔
      Due w (clock 0) r step ∧ Reached w (clock 0) batch r step := by
  have hkeys := nodup_order w.db
  have hids : ((select ReceivableRow.order
      (ReceivableRow.inWindow (clock 0 + dunningHorizon defaultDunningLadder)) batch.toNat
      w.db.receivables).map ReceivableRow.id).Nodup := nodup_map_select w.db.receivableKey
  rw [finish_runDunning hbatch, (finish_dunningSubjects clock (clock 0) _ hids).handledFor_iff
    (fun b hb => ((mem_upTo_select_iff hkeys).mp hb).1) hrow hstep hopen, mem_upTo_select_iff hkeys,
    mem_stepsOf_iff]
  constructor
  · rintro ⟨⟨-, hwindow, hlimit, hclear⟩, hnow, hdate, hdue, hown⟩
    rw [rank_inWindow hwindow] at hlimit
    have hlive : r.state.isLive = true := by
      rw [ReceivableRow.inWindow, Bool.and_eq_true] at hwindow
      exact hwindow.1
    refine ⟨⟨hrow, hlive, hnow, hdate, hdue⟩, by omega, fun b hb hblive hlt => ?_, hown⟩
    exact hclear b hb ((inWindow_of_order_lt hwindow hlt).trans hblive) hlt
  · rintro ⟨hdue, hreached⟩
    have hwindow := hdue.inWindow
    have hlimit := hreached.rank
    rw [← rank_inWindow hwindow] at hlimit
    refine ⟨⟨hrow, hwindow, by omega, fun b hb hscan hlt => ?_⟩, hdue.clock, hdue.dueDate,
      hdue.step, hreached.own⟩
    exact hreached.before b hb ((inWindow_of_order_lt hwindow hlt).symm.trans hscan) hlt

end Fuatilia.Scheduler
