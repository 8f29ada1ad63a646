import Fuatilia.Backend.Service

/-!
# The dunning ladder

## Main definitions

* `dueSteps`, `evaluateDunningSend` — the steps due for a receivable, and whether one may be sent.

## Main results

* `dueSteps_eq_ok`, `evaluateDunningSend_allowed` — which they are, and when it may.

## Implementation notes

Days are counted in whole UTC days since 1970, which is what the midnight of an instant's date
divided by the length of a day comes to. The escalation functions are left out: no job uses them.
-/

namespace Fuatilia.Scheduler

open Fallible

/-! ## Instants and texts -/

abbrev Instant := ℤ

def dayNanos : ℤ := 24 * 60 * 60 * 1000000000

/-- `time.Time{}`, the first instant of the year 1. -/
def zeroTime : Instant := -719162 * dayNanos

def isSpace (c : Char) : Bool :=
  c.toNat ∈ [0x09, 0x0A, 0x0B, 0x0C, 0x0D, 0x20, 0x85, 0xA0, 0x1680, 0x2028, 0x2029, 0x202F, 0x205F,
    0x3000] || (0x2000 ≤ c.toNat && c.toNat ≤ 0x200A)

def trimSpace (s : String) : String :=
  String.ofList ((s.toList.dropWhile isSpace).reverse.dropWhile isSpace).reverse

def trimStart (s start : String) : String :=
  if startsWith s start then String.ofList (s.toList.drop start.toList.length) else s

lemma trimSpace_eq_self {s : String} (h : ∀ c ∈ s.toList, isSpace c = false) : trimSpace s = s := by
  rw [trimSpace, dropWhile_ends_eq_self h, String.ofList_toList]

lemma trimStart_append (start s : String) : trimStart (start ++ s) start = s := by
  have hstart : startsWith (start ++ s) start = true := by
    rw [startsWith, String.toList_append, List.isPrefixOf_iff_prefix]
    exact List.prefix_append _ _
  rw [trimStart, if_pos hstart, String.toList_append, List.drop_left, String.ofList_toList]

/-! ## Errors -/

/-- What a call of the scheduler returns instead of a result: an error of the scheduler itself, of
the money library, or of the database. -/
inductive Failure where
  | scheduler (code message : String)
  | money (code message : String)
  | store (message : String)
  deriving DecidableEq

/-- `isSkippable`: refusals of a row that do not end a run. -/
def Failure.isSkippable : Failure → Bool
  | .scheduler code _ => code ∈ ["DUNNING_CONSENT_REQUIRED", "LATE_FEE_NOT_OVERDUE",
      "LATE_FEE_WITHIN_GRACE", "LATE_FEE_ZERO_BALANCE", "LATE_FEE_RECEIVABLE_NOT_LIVE",
      "PAYMENT_PLAN_NOT_DEFAULTABLE"]
  | _ => false

/-! ## Ladders -/

inductive Channel where
  | email
  | sms
  | whatsapp
  | task
  deriving DecidableEq

def Channel.text : Channel → String
  | .email => "email"
  | .sms => "sms"
  | .whatsapp => "whatsapp"
  | .task => "task"

inductive StepKind where
  | reminder
  | paymentRequest
  | whatsapp
  | sms
  | collectorTask
  | managerEscalation
  | paymentPlanOffer
  | recoveryWorkflow
  deriving DecidableEq

structure DunningStep where
  key : String
  dayOffset : ℤ
  kind : StepKind
  channel : Channel
  requiresConsent : Bool
  deriving DecidableEq

def defaultDunningLadder : List DunningStep :=
  [⟨"pre_due_reminder", -3, .reminder, .email, false⟩,
    ⟨"due_date_request", 0, .paymentRequest, .email, false⟩,
    ⟨"overdue_day_3", 3, .whatsapp, .whatsapp, true⟩,
    ⟨"overdue_day_7", 7, .sms, .sms, false⟩,
    ⟨"overdue_day_14", 14, .collectorTask, .task, false⟩,
    ⟨"overdue_day_30", 30, .managerEscalation, .task, false⟩,
    ⟨"overdue_day_45", 45, .paymentPlanOffer, .email, false⟩,
    ⟨"overdue_day_60", 60, .recoveryWorkflow, .task, false⟩]

def ladderInvalid (message : String) : Failure := .scheduler "DUNNING_LADDER_INVALID" message

/-- The checks of one step after those before it: their keys, and the offset of the last of them. -/
def validateStep (keys : List String) (previousOffset : Option ℤ) (s : DunningStep) :
    Except Failure Unit := do
  throwIf (trimSpace s.key = "") (ladderInvalid "every step needs a non-blank key")
  throwIf (s.key ∈ keys) (ladderInvalid ("duplicate step key: " ++ s.key))
  throwIf (∃ previous ∈ previousOffset, s.dayOffset < previous)
    (ladderInvalid ("ladder must be sorted by dayOffset (" ++ s.key ++ " at " ++
      toString s.dayOffset ++ " after " ++ toString (previousOffset.getD 0) ++ ")"))

def validateSteps (keys : List String) (previousOffset : Option ℤ) :
    List DunningStep → Except Failure Unit
  | [] => pure ()
  | s :: ladder => do
    validateStep keys previousOffset s
    validateSteps (s.key :: keys) (some s.dayOffset) ladder

def validateLadder (ladder : List DunningStep) : Except Failure Unit := do
  throwIf (ladder = []) (ladderInvalid "a dunning ladder needs at least one step")
  validateSteps [] none ladder

/-! ## Due steps -/

def utcDayIndex (t : Instant) : ℤ := t / dayNanos

def utcDaysBetween (start stop : Instant) : ℤ := utcDayIndex stop - utcDayIndex start

def assertDunningDate (value : Instant) (code label : String) : Except Failure Unit :=
  throwIf (value = zeroTime) (.scheduler code (label ++ " is not a valid Date"))

structure DunningFacts where
  dueDate : Instant
  sentSteps : List String
  subjectID : Uuid
  orgID : Uuid

def dueSteps (now : Instant) (facts : DunningFacts) (ladder : List DunningStep) :
    Except Failure (List DunningStep) := do
  assertDunningDate now "DUNNING_CLOCK_INVALID" "now"
  assertDunningDate facts.dueDate "DUNNING_FACTS_INVALID" "dueDate"
  validateLadder ladder
  pure (ladder.filter fun s =>
    s.key ∉ facts.sentSteps ∧ s.dayOffset ≤ utcDaysBetween facts.dueDate now)

/-- **The due steps**: those that have not been sent and whose day has come. -/
theorem dueSteps_eq_ok {now : Instant} {facts : DunningFacts} {ladder due : List DunningStep} :
    dueSteps now facts ladder = .ok due ↔ now ≠ zeroTime ∧ facts.dueDate ≠ zeroTime ∧
      validateLadder ladder = .ok () ∧ due = ladder.filter fun s =>
        s.key ∉ facts.sentSteps ∧ s.dayOffset ≤ utcDaysBetween facts.dueDate now := by
  simp only [dueSteps, assertDunningDate, seq_eq_ok, throwIf_eq_ok, pure_eq_ok, ne_eq]

/-! ## Sending -/

structure SendDecision where
  allowed : Bool
  reason : String
  detail : String

/-- `EvaluateDunningSend`: a step that requires consent needs a reference that is not blank. -/
def evaluateDunningSend (step : DunningStep) (consentRef : String) : SendDecision :=
  if !step.requiresConsent then ⟨true, "", ""⟩
  else if trimSpace consentRef ≠ "" then ⟨true, "", ""⟩
  else ⟨false, "DUNNING_CONSENT_REQUIRED",
    "dunning step " ++ step.key ++ " (" ++ step.channel.text ++
    ") requires consent but the subject carries no consentRef"⟩

theorem evaluateDunningSend_allowed {step : DunningStep} {consentRef : String} :
    (evaluateDunningSend step consentRef).allowed = true ↔
      (step.requiresConsent = true → trimSpace consentRef ≠ "") := by
  unfold evaluateDunningSend
  split_ifs with hfree href
  · simp at hfree
    simp [hfree]
  · simp [href]
  · simp at hfree
    simp [hfree, href]

end Fuatilia.Scheduler
