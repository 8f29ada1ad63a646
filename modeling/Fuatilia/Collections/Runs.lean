import Fuatilia.Collections.Case
import Fuatilia.Foundations.Lists
import Fuatilia.Foundations.Machine
import Fuatilia.Foundations.Trails
import Fuatilia.Foundations.Versions

/-!
# Runs of collections cases

## Main definitions

* `step` — cases opened, moved and escalated, each opening given the coverage of all cases so far.
* `Sound`, `Later` — the invariant, and what becomes of a case.

## Main results

* `sound_run`, `cases_kept` — the invariant along every run, and what a run keeps.
-/

namespace Fuatilia.Collections

open Machine Trails

/-! ## The commands -/

/-- A command; an existing case is named by its position in the list of all cases. -/
inductive Command where
  | open (args : OpenCaseArgs) (clock : Clock)
  | transition (i : ℕ) (target : String) (args : TransitionCaseArgs) (clock : Clock)
  | escalate (i : ℕ) (args : EscalateCaseArgs) (clock : Clock)

def step (cases : List CollectionsCase) : Command → Option (List CollectionsCase)
  | .open args clock => do
    let result ← (openCase args (openCaseCoverageOf cases) clock).toOption
    return cases ++ [result.case]
  | .transition i target args clock => do
    let c ← cases[i]?
    let result ← (transitionCase c target args clock).toOption
    return cases.set i result.case
  | .escalate i args clock => do
    let c ← cases[i]?
    let result ← (escalateCase c args clock).toOption
    return cases.set i result.case

def Legal (source target : CaseStatus) : Prop := target ∈ CASE_TRANSITIONS source
  deriving Decidable

def Raises (source target : CasePriority) : Prop :=
  CASE_PRIORITY_RANK source < CASE_PRIORITY_RANK target

def Apart (a b : CollectionsCase) : Prop :=
  isCaseOpen a.status = true → isCaseOpen b.status = true →
    ∀ receivableId ∈ a.receivableIds, receivableId ∉ b.receivableIds

variable {a b : CollectionsCase} {command : Command}

lemma Apart.symm (h : Apart a b) : Apart b a :=
  fun hb ha receivableId hmem hmem' => h ha hb receivableId hmem' hmem

/-- **No receivable is covered by two open cases.** -/
def Exclusive (cases : List CollectionsCase) : Prop := cases.Pairwise Apart

/-- The logs of a case: its history is a chain of table transitions from open to its status, and its
priority changes rise from the opening priority to its priority. -/
structure Recorded (c : CollectionsCase) : Prop where
  history : Leads Legal .open (c.history.map fun r => (r.fromStatus, r.toStatus)) c.status
  priority : ∃ opening,
    Leads Raises opening (c.priorityChanges.map fun r => (r.fromPriority, r.toPriority)) c.priority

variable {c c' : CollectionsCase} {args : OpenCaseArgs}

lemma Recorded.last (h : Recorded c) : ∀ r ∈ c.priorityChanges.getLast?,
    r.toPriority = c.priority := by
  intro r hr
  obtain ⟨opening, hleads⟩ := h.priority
  have hlast : c.priorityChanges.getLast? = some r := hr
  have hmove : (c.priorityChanges.map fun r => (r.fromPriority, r.toPriority)).getLast? =
      some (r.fromPriority, r.toPriority) := by rw [List.getLast?_map, hlast]; rfl
  exact hleads.last hmove

/-! ## What a command does -/

/-- A later version of a case: it covers the same receivables, it is not open again once it was
closed, and its priority has not fallen. -/
structure Continues (c c' : CollectionsCase) : Prop where
  receivables : c'.receivableIds = c.receivableIds
  closed : isCaseOpen c'.status = true → isCaseOpen c.status = true
  priority : CASE_PRIORITY_RANK c.priority ≤ CASE_PRIORITY_RANK c'.priority

lemma isCaseOpen_of_legal {source target : CaseStatus} (h : Legal source target) :
    isCaseOpen source = true := by
  cases source <;> simp_all [Legal, CASE_TRANSITIONS, isCaseOpen, OPEN_CASE_STATUSES]

/-- **Everything a command can do**: a further case over free receivables, or a later version of a
case whose logs go on agreeing with it. -/
lemma step_cases {cases cases' : List CollectionsCase} (h : step cases command = some cases') :
    (∃ args c, Opened args (openCaseCoverageOf cases) c ∧ cases' = cases ++ [c]) ∨
      ∃ i c c', cases[i]? = some c ∧ Continues c c' ∧ (Recorded c → Recorded c') ∧
        cases' = cases.set i c' := by
  cases command with
  | «open» args clock =>
    simp only [step, Option.bind_eq_bind, Option.bind_eq_some_iff, Option.pure_def,
      Option.some.injEq, Fallible.toOption_eq_some] at h
    obtain ⟨result, hresult, rfl⟩ := h
    exact .inl ⟨args, result.case, openCase_eq_ok hresult, rfl⟩
  | transition i target args clock =>
    obtain ⟨c, hc, result, hresult, rfl⟩ := Fallible.lookup_eq_some.mp h
    obtain ⟨status, reason, actorId, now, closedAt, closedBy, hlegal, hnext⟩ :=
      transitionCase_eq_ok hresult
    refine .inr ⟨i, c, result.case, hc, ?_, fun hrecorded => ?_, rfl⟩
    · rw [hnext]
      exact ⟨rfl, fun _ => isCaseOpen_of_legal hlegal, le_rfl⟩
    · rw [hnext]
      refine ⟨?_, hrecorded.priority⟩
      rw [List.map_append]
      exact hrecorded.history.concat hlegal
  | escalate i args clock =>
    obtain ⟨c, hc, result, hresult, rfl⟩ := Fallible.lookup_eq_some.mp h
    obtain ⟨priority, reason, actorId, now, hraised, hnext⟩ := escalateCase_eq_ok hresult
    refine .inr ⟨i, c, result.case, hc, ?_, fun hrecorded => ?_, rfl⟩
    · rw [hnext]
      exact ⟨rfl, id, hraised.le⟩
    · obtain ⟨opening, hleads⟩ := hrecorded.priority
      rw [hnext]
      refine ⟨hrecorded.history, opening, ?_⟩
      rw [List.map_append]
      exact hleads.concat hraised

/-! ## The invariant -/

structure Sound (cases : List CollectionsCase) : Prop where
  exclusive : Exclusive cases
  recorded : ∀ c ∈ cases, Recorded c

variable {cases cases' : List CollectionsCase}

lemma mem_openCaseCoverageOf {receivableId : Uuid} :
    (∃ entry ∈ openCaseCoverageOf cases, entry.receivableId = receivableId) ↔
      ∃ c ∈ cases, isCaseOpen c.status = true ∧ receivableId ∈ c.receivableIds := by
  simp only [openCaseCoverageOf, List.mem_flatMap, List.mem_filter, List.mem_map]
  constructor
  · rintro ⟨_, ⟨c, ⟨hc, hopen⟩, r, hr, rfl⟩, rfl⟩
    exact ⟨c, hc, hopen, hr⟩
  · rintro ⟨c, hc, hopen, hr⟩
    exact ⟨_, ⟨c, ⟨hc, hopen⟩, receivableId, hr, rfl⟩, rfl⟩

lemma Opened.recorded {coverage : List OpenCaseCoverage} (h : Opened args coverage c) :
    Recorded c := by
  refine ⟨?_, c.priority, ?_⟩
  · rw [h.history, h.status]
    rfl
  · rw [h.priorityChanges]
    rfl

lemma Continues.apart {a' b' : CollectionsCase} (ha : Continues a a') (hb : Continues b b')
    (h : Apart a b) : Apart a' b' := by
  intro hopen hopen'
  rw [ha.receivables, hb.receivables]
  exact h (ha.closed hopen) (hb.closed hopen')

lemma Continues.refl (c : CollectionsCase) : Continues c c := ⟨rfl, id, le_rfl⟩

lemma Continues.trans (hab : Continues a b) (hbc : Continues b c) : Continues a c :=
  ⟨hbc.receivables.trans hab.receivables, hab.closed ∘ hbc.closed, hab.priority.trans hbc.priority⟩

def Later (cases cases' : List CollectionsCase) : Prop :=
  ∀ (i : ℕ) c, cases[i]? = some c → ∃ c', cases'[i]? = some c' ∧ Continues c c'

lemma later_set {i : ℕ} (hc : cases[i]? = some c) (h : Continues c c') :
    Later cases (cases.set i c') :=
  Versions.later_set Continues.refl hc h

lemma Exclusive.of_later (h : Exclusive cases) (hlater : Later cases cases')
    (hlength : cases'.length = cases.length) : Exclusive cases' :=
  Versions.pairwise_of_later (fun _ _ _ _ ha hb hab => ha.apart hb hab) h hlater hlength

/-- **A command keeps exclusivity and the logs.** Only an opening adds coverage, and it is given the
coverage of all cases. -/
theorem sound_step (h : Sound cases) (hstep : step cases command = some cases') :
    Sound cases' := by
  rcases step_cases hstep with ⟨args, c, hopened, rfl⟩ | ⟨i, c, c', hc, hcont, hlogs, rfl⟩
  · refine ⟨Lists.pairwise_concat h.exclusive ?_, ?_⟩
    · intro a ha hopen _ receivableId hcovered hmem
      obtain ⟨entry, hentry, hsame⟩ := mem_openCaseCoverageOf.mpr ⟨a, ha, hopen, hcovered⟩
      exact hopened.uncovered receivableId hmem entry hentry hsame
    · exact Lists.forall_mem_concat h.recorded hopened.recorded
  · refine ⟨h.exclusive.of_later (later_set hc hcont) (by simp), fun d hd => ?_⟩
    rcases List.mem_or_eq_of_mem_set hd with hd | rfl
    · exact h.recorded d hd
    · exact hlogs (h.recorded c (List.mem_of_getElem? hc))

theorem sound_run (commands : List Command) : Sound (run step [] commands) :=
  run_invariant_all (fun _ _ _ h hstep => sound_step h hstep) commands []
    ⟨List.Pairwise.nil, by simp⟩

lemma later_step (hstep : step cases command = some cases') :
    Later cases cases' := by
  rcases step_cases hstep with ⟨args, c, hopened, rfl⟩ | ⟨i, c, c', hc, hcont, hlogs, rfl⟩
  · exact Versions.later_append Continues.refl cases [c]
  · exact later_set hc hcont

lemma later_run (cases : List CollectionsCase) (commands : List Command) :
    Later cases (run step cases commands) :=
  run_rel_all (I := fun _ => True) (Versions.later_refl Continues.refl)
    (fun _ _ _ hab hbc => Versions.later_trans (fun _ _ _ => Continues.trans) hab hbc)
    (fun _ _ _ _ _ => trivial) (fun _ _ _ _ hstep => later_step hstep) commands cases trivial

/-! ## Closed cases -/

/-- After the command that closes a case, its receivables are free: no other open case covered them
before, and the command opened none. -/
lemma openCase_of_closed (h : Sound cases) {i : ℕ}
    (hstep : step cases command = some cases') (hc : cases[i]? = some c)
    (hc' : cases'[i]? = some c') (hopen : isCaseOpen c.status = true)
    (hclosed : isCaseOpen c'.status = false)
    (hargs : args.receivableIds ⊆ c.receivableIds) (clock : Clock) :
    openCase args (openCaseCoverageOf cases') clock = openCase args [] clock := by
  refine openCase_of_uncovered clock fun receivableId hmem entry hentry hsame => ?_
  obtain ⟨d', hd', hdopen, hcovered⟩ := mem_openCaseCoverageOf.mp ⟨entry, hentry, hsame⟩
  obtain ⟨j, hj⟩ := List.mem_iff_getElem?.mp hd'
  have hne : i ≠ j := by
    rintro rfl
    obtain rfl : c' = d' := Option.some.inj (hc'.symm.trans hj)
    rw [hclosed] at hdopen
    cases hdopen
  rcases step_cases hstep with ⟨_, e, -, rfl⟩ | ⟨k, e, e', he, -, -, rfl⟩
  · -- an opening leaves the other cases as they are
    rw [List.getElem?_append_left (List.getElem?_eq_some_iff.mp hc).1, hc] at hc'
    obtain rfl := Option.some.inj hc'
    rw [hopen] at hclosed
    cases hclosed
  · have hk : k = i := by
      by_contra hki
      rw [List.getElem?_set_ne hki, hc] at hc'
      obtain rfl := Option.some.inj hc'
      rw [hopen] at hclosed
      cases hclosed
    subst hk
    rw [List.getElem?_set_ne hne] at hj
    have hapart : Apart c d' :=
      Versions.rel_of_pairwise_ne (fun _ _ => Apart.symm) h.exclusive hc hj hne
    exact hapart hopen hdopen receivableId (hargs hmem) hcovered

/-- **Collections cases.** Along every run: no receivable is covered by two open cases; the logs of
every case agree with its status and priority; no priority falls; and the command that closes a case
frees all its receivables. -/
theorem cases_kept (before after : List Command) :
    let s := run step [] before
    let t := run step s after
    Exclusive t ∧
      (∀ c ∈ t, Recorded c ∧ ∀ r ∈ c.priorityChanges.getLast?, r.toPriority = c.priority) ∧
      (∀ (i : ℕ) c, s[i]? = some c → ∃ c', t[i]? = some c' ∧
        CASE_PRIORITY_RANK c.priority ≤ CASE_PRIORITY_RANK c'.priority) ∧
      ∀ command t', step t command = some t' → ∀ (i : ℕ) c c', t[i]? = some c → t'[i]? = some c' →
        isCaseOpen c.status = true → isCaseOpen c'.status = false →
        ∀ args clock, args.receivableIds ⊆ c.receivableIds →
          openCase args (openCaseCoverageOf t') clock = openCase args [] clock := by
  intro s t
  have ht : Sound t := by
    have hrun := sound_run (before ++ after)
    rwa [run_append] at hrun
  refine ⟨ht.exclusive, fun c hc => ⟨ht.recorded c hc, (ht.recorded c hc).last⟩,
    fun i c hc => ?_, ?_⟩
  · obtain ⟨c', hc', hcont⟩ := later_run s after i c hc
    exact ⟨c', hc', hcont.priority⟩
  · intro command t' hstep i c c' hc hc' hopen hclosed args clock hargs
    exact openCase_of_closed ht hstep hc hc' hopen hclosed hargs clock

def openOver (receivableIds : List Uuid) (n : ℕ) : Command :=
  .open ⟨s!"case-{n}", "org", receivableIds, "collector", none, "agent", ⟨some n, toString n⟩, none⟩
    (pinnedClock (.ofTime 0))

def moveFirst (target : String) : Command :=
  .transition 0 target ⟨"reason", "agent"⟩ (pinnedClock (.ofTime 0))

-- a second case on a covered receivable is refused, and opened once the first one is closed
example : (run step [] [openOver ["a", "b"] 1, openOver ["b"] 2]).length = 1 := by decide +kernel

example : (run step [] [openOver ["a", "b"] 1, moveFirst "in_progress", moveFirst "closed_inactive",
    openOver ["b"] 2]).map (·.status) = [.closed_inactive, .open] := by decide +kernel

end Fuatilia.Collections
