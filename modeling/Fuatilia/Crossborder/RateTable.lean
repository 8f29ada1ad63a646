import Fuatilia.Foundations.Lists
import Fuatilia.Shared.Money
import Fuatilia.Shared.Timestamps

/-!
# The rate table of cross-border quotes

A rate row quotes one currency pair over a window of time, both ends included. A table is accepted
when the windows of each pair, sorted by start, do not overlap. That check compares the timestamps
as texts; whether a row is in force at an instant is decided on their time values.

## Main definitions

* `Crossborder.rateRow`, `Crossborder.validateRateTable` — the checks of a row and of a table. The
  order of `localeCompare`, by which rows are sorted before the check, is a parameter.
* `Crossborder.findActiveRateRow` — the row in force at an instant.
* `Crossborder.OrdersAgree` — texts and instants are ordered alike where the check compares them.

## Main results

* `Crossborder.validateRateTable_textBefore` — what the check establishes, in the order of texts.
* `Crossborder.unambiguous_of_ordersAgree` — when at most one row of a pair is in force.
-/

namespace Fuatilia.Crossborder

open Fallible

/-! ## Rate rows -/

inductive InstantInput where
  | date (d : Date)
  | text (s : String)

structure RateRowInput where
  rowId : Uuid
  sourceCurrency : String
  destinationCurrency : String
  numerator : MoneyInput
  denominator : MoneyInput
  effectiveFrom : InstantInput
  /-- `none` for `null` or absent: open-ended. -/
  effectiveTo : Option InstantInput
  source : String
  scaleSource : Option JsNumber
  scaleDest : Option JsNumber

structure RateRow where
  rowId : Uuid
  sourceCurrency : Currency
  destinationCurrency : Currency
  numerator : ℤ
  denominator : ℤ
  scaleSource : ℤ
  scaleDest : ℤ
  source : String
  effectiveFrom : String
  effectiveTo : Option String
  deriving DecidableEq

def asCurrency (value : String) : Option Currency :=
  [Currency.KES, .USD, .GBP, .EUR, .TZS, .UGX].find? (·.code = value)

def defaultMinorScale : Currency → ℤ
  | .UGX => 0
  | .KES | .USD | .GBP | .EUR | .TZS => 2

def rateTableInvalid (message : String) (details : List (String × String)) : Thrown :=
  .domainError "RATE_TABLE_INVALID" message details

def assertRowUuid (value : Uuid) (field : String) : Except Thrown Unit :=
  throwIf (!isCanonicalUuid value)
    (rateTableInvalid s!"{field} must be a canonical UUID, got {value}" [("field", field),
      ("value", value)])

/-- A date becomes its ISO text; a text that is a timestamp is kept as it is spelled. -/
def normalizeInstant (input : InstantInput) (field : String) : Except Thrown String :=
  match input with
  | .date .invalid => .error (rateTableInvalid s!"{field} is an invalid Date"
      [("field", field), ("value", "Invalid Date")])
  | .date d => d.toISOString
  | .text s =>
    if isIso8601 s then .ok s
    else .error (rateTableInvalid
      s!"{field} must be ISO-8601 (e.g. 2026-03-01T09:00:00.000Z), got {s}" [("field", field),
        ("value", s)])

def assertScale (scale : Option JsNumber) (currency : Currency) (field : String) :
    Except Thrown ℤ :=
  match scale with
  | none => .ok (defaultMinorScale currency)
  | some x =>
    match x.safeInteger.filter fun n => 0 ≤ n ∧ n ≤ 8 with
    | some n => .ok n
    | none => .error (rateTableInvalid s!"{field} must be an integer in [0, 8], got {x.text}"
        [("field", field), ("value", x.text)])

def asPositiveBigint (value : MoneyInput) (field : String) : Except Thrown ℤ :=
  match value with
  | .number x =>
    match x.safeInteger.filter fun n => 0 < n with
    | some n => .ok n
    | none => .error (rateTableInvalid
        s!"rate {field} must be a positive safe integer, got {x.text}"
        [("field", field), ("value", x.text)])
  | .bigint n =>
    if n ≤ 0 then .error (rateTableInvalid s!"rate {field} must be a positive integer, got {n}"
      [("field", field), ("value", toString n)])
    else .ok n

def rowCurrencies (source destination : String) : Except Thrown (Currency × Currency) :=
  match asCurrency source, asCurrency destination with
  | some s, some d => do
    throwIf (s = d) (rateTableInvalid
      s!"a rate row must quote two distinct currencies, got {source} against itself" [])
    pure (s, d)
  | _, _ => .error (rateTableInvalid s!"unsupported currency in pair {source}/{destination}"
      [("sourceCurrency", source), ("destinationCurrency", destination)])

def textLt (a b : String) : Prop := codeUnits a < codeUnits b
  deriving Decidable

def rateRow (input : RateRowInput) : Except Thrown RateRow := do
  assertRowUuid input.rowId "rowId"
  let (sourceCurrency, destinationCurrency) ←
    rowCurrencies input.sourceCurrency input.destinationCurrency
  let numerator ← asPositiveBigint input.numerator "numerator"
  let denominator ← asPositiveBigint input.denominator "denominator"
  let scaleSource ← assertScale input.scaleSource sourceCurrency "scaleSource"
  let scaleDest ← assertScale input.scaleDest destinationCurrency "scaleDest"
  let source := trim input.source
  throwIf (source = "") (rateTableInvalid
    "a rate source is required (provenance is part of the audit trail)" [])
  let effectiveFrom ← normalizeInstant input.effectiveFrom "effectiveFrom"
  let effectiveTo ← input.effectiveTo.mapM (normalizeInstant · "effectiveTo")
  let stopText := effectiveTo.getD "null"
  throwIf (∃ stop ∈ effectiveTo, textLt stop effectiveFrom) (rateTableInvalid
    s!"effectiveTo ({stopText}) cannot precede effectiveFrom ({effectiveFrom})" [])
  pure { rowId := input.rowId, sourceCurrency, destinationCurrency, numerator, denominator,
         scaleSource, scaleDest, source, effectiveFrom, effectiveTo }

/-! ## The overlap check -/

def pairKey (row : RateRow) : String := s!"{row.sourceCurrency}->{row.destinationCurrency}"

/-- The test that the check makes of two neighbours: `prev` is open-ended, or `next` does not start
after its end, in the order of texts. -/
def overlaps (prev next : RateRow) : Prop :=
  ∀ stop ∈ prev.effectiveTo, ¬ textLt stop next.effectiveFrom
  deriving Decidable

def checkNeighbours (pair : String) : List RateRow → Except Thrown Unit
  | prev :: next :: rest => do
    let prevTo := prev.effectiveTo.getD "∞"
    let nextTo := next.effectiveTo.getD "∞"
    throwIf (overlaps prev next) (.domainError "RATE_TABLE_OVERLAP"
      (s!"rate rows {prev.rowId} and {next.rowId} overlap for pair {pair} " ++
        s!"(windows [{prev.effectiveFrom}, {prevTo}) and [{next.effectiveFrom}, {nextTo}))")
      [("pair", pair), ("rowA", prev.rowId), ("rowB", next.rowId)])
    checkNeighbours pair (next :: rest)
  | _ => pure ()

section Table

variable (localeCompare : String → String → Ordering)

def sortRows (rows : List RateRow) : List RateRow :=
  jsSort (fun a b => (localeCompare a.effectiveFrom b.effectiveFrom).then
    (localeCompare a.rowId b.rowId)) rows

def validateRateTable (rows : List RateRowInput) : Except Thrown (List RateRow) := do
  let built ← rows.mapM rateRow
  let pairs := (built.map pairKey).eraseDups
  forM pairs fun pair =>
    checkNeighbours pair (sortRows localeCompare (built.filter (pairKey · = pair)))
  pure built

end Table

/-! ## The row in force -/

def toMillis (iso : String) : Option ℤ := (Date.parse iso).getTime

def isActive (row : RateRow) (t : Option ℤ) : Bool :=
  millisLe (toMillis row.effectiveFrom) t && row.effectiveTo.all fun stop =>
    millisLe t (toMillis stop)

def activeRows (rows : List RateRow) (sourceCurrency destinationCurrency : Currency) (now : Date) :
    List RateRow :=
  (rows.filter fun r =>
    r.sourceCurrency = sourceCurrency ∧ r.destinationCurrency = destinationCurrency).filter
      (isActive · now.getTime)

def findActiveRateRow (rows : List RateRow) (sourceCurrency destinationCurrency : Currency)
    (now : Date) : Except Thrown RateRow :=
  if ∀ r ∈ rows,
    ¬ (r.sourceCurrency = sourceCurrency ∧ r.destinationCurrency = destinationCurrency) then
    .error (.domainError "RATE_TABLE_PAIR_MISMATCH"
      s!"rate table has no row for pair {sourceCurrency}→{destinationCurrency}"
      [("sourceCurrency", sourceCurrency.code), ("destinationCurrency", destinationCurrency.code)])
  else
    match activeRows rows sourceCurrency destinationCurrency now with
    | [] => do
      let iso ← now.toISOString
      throw (.domainError "RATE_TABLE_NO_ACTIVE_ROW"
        s!"no {sourceCurrency}→{destinationCurrency} rate row is effective at {iso}"
        [("sourceCurrency", sourceCurrency.code), ("destinationCurrency", destinationCurrency.code),
          ("at", iso)])
    | [row] => .ok row
    | active =>
      let count := active.length
      .error (.domainError "RATE_TABLE_OVERLAP"
        (s!"{count} rows are effective at once for {sourceCurrency}→{destinationCurrency}" ++
          " — the table is ambiguous")
        [("sourceCurrency", sourceCurrency.code), ("destinationCurrency", destinationCurrency.code),
          ("rows", ",".intercalate (active.map RateRow.rowId))])

/-! ## What the check establishes -/

/-- The first row ends before the second starts, in the order of texts. -/
def TextBefore (r r' : RateRow) : Prop := ∃ stop ∈ r.effectiveTo, textLt stop r'.effectiveFrom

def WindowOrdered (r : RateRow) : Prop := ∀ stop ∈ r.effectiveTo, ¬ textLt stop r.effectiveFrom

variable {r r' : RateRow} {rows : List RateRow}

lemma not_overlaps : ¬ overlaps r r' ↔ TextBefore r r' := by
  simp [overlaps, TextBefore, not_forall]

lemma TextBefore.trans {a b c : RateRow} (hb : WindowOrdered b) (hab : TextBefore a b)
    (hbc : TextBefore b c) : TextBefore a c := by
  obtain ⟨stop, hstop, hlt⟩ := hab
  obtain ⟨stop', hstop', hlt'⟩ := hbc
  refine ⟨stop, hstop, ?_⟩
  have hwindow : codeUnits b.effectiveFrom ≤ codeUnits stop' := not_lt.mp (hb stop' hstop')
  exact lt_of_lt_of_le hlt (hwindow.trans hlt'.le)

lemma rateRow_windowOrdered {input : RateRowInput} {row : RateRow} (h : rateRow input = .ok row) :
    WindowOrdered row := by
  simp only [rateRow, ok_iff] at h
  obtain ⟨_, -, _, -, _, -, _, -, _, -, _, -, -, _, -, _, -, hordered, rfl⟩ := h
  intro stop hstop hlt
  exact hordered ⟨stop, hstop, hlt⟩

lemma checkNeighbours_eq_ok {pair : String} {u : Unit} :
    checkNeighbours pair rows = .ok u ↔ rows.IsChain TextBefore := by
  induction rows with
  | nil => simp [checkNeighbours, pure_eq_ok]
  | cons prev rows ih =>
    cases rows with
    | nil => simp [checkNeighbours, pure_eq_ok]
    | cons next rest =>
      rw [checkNeighbours, seq_eq_ok, throwIf_eq_ok, ih, not_overlaps, List.isChain_cons_cons]

lemma pairwise_of_isChain (hordered : ∀ r ∈ rows, WindowOrdered r) (h : rows.IsChain TextBefore) :
    rows.Pairwise TextBefore := by
  induction rows with
  | nil => exact List.Pairwise.nil
  | cons r rows ih =>
    have hrest := ih (fun x hx => hordered x (List.mem_cons_of_mem _ hx)) h.tail
    refine List.pairwise_cons.mpr ⟨fun r' hr' => ?_, hrest⟩
    cases rows with
    | nil => simp at hr'
    | cons next rest =>
      have hnext := (List.isChain_cons_cons.mp h).1
      rcases List.mem_cons.mp hr' with rfl | hlater
      · exact hnext
      · exact hnext.trans (hordered next (by simp)) (List.rel_of_pairwise_cons hrest hlater)

/-- In an accepted table no row ends before it starts, and of two rows of one pair one ends before
the other starts, in the order of texts. -/
theorem validateRateTable_textBefore {localeCompare : String → String → Ordering}
    {inputs : List RateRowInput} (h : validateRateTable localeCompare inputs = .ok rows) :
    (∀ r ∈ rows, WindowOrdered r) ∧
      rows.Pairwise fun r r' => pairKey r = pairKey r' → TextBefore r r' ∨ TextBefore r' r := by
  simp only [validateRateTable, ok_iff, forM_eq_ok] at h
  obtain ⟨built, hbuilt, _, hchecked, rfl⟩ := h
  have hordered : ∀ r ∈ rows, WindowOrdered r := by
    intro r hr
    obtain ⟨input, -, hrow⟩ := (mem_of_mapM_eq_ok hbuilt).1 r hr
    exact rateRow_windowOrdered hrow
  refine ⟨hordered, ?_⟩
  rw [List.pairwise_iff_forall_sublist]
  intro r r' hsub hkey
  -- both rows are in the bucket of their pair, in the same order
  have hr : r ∈ rows := hsub.subset (by simp)
  have hbucket : [r, r'].Sublist (rows.filter (pairKey · = pairKey r)) := by
    have := hsub.filter (pairKey · = pairKey r)
    simpa [hkey] using this
  have hcheck := hchecked (pairKey r) (List.mem_eraseDups.mpr (List.mem_map_of_mem hr))
  rw [checkNeighbours_eq_ok] at hcheck
  have hpairwise := pairwise_of_isChain
    (fun x hx => hordered x (List.mem_of_mem_filter (mem_jsSort.mp hx))) hcheck
  have hsym := (hpairwise.imp fun hab => Or.inl hab :
    (sortRows localeCompare (rows.filter (pairKey · = pairKey r))).Pairwise
      fun a b => TextBefore a b ∨ TextBefore b a)
  rw [(jsSort_perm _ _).pairwise_iff (fun hab => hab.symm)] at hsym
  exact List.pairwise_iff_forall_sublist.mp hsym hbucket

/-! ## Texts and instants -/

def SamePair (r r' : RateRow) : Prop :=
  r.sourceCurrency = r'.sourceCurrency ∧ r.destinationCurrency = r'.destinationCurrency
  deriving Decidable

/-- The first row ends before the second starts, in the order of instants. -/
def MillisBefore (r r' : RateRow) : Prop :=
  ∃ stop ∈ r.effectiveTo, ¬ millisLe (toMillis r'.effectiveFrom) (toMillis stop) = true

/-- Where the end of a row and the start of another row of its pair are in order as texts, they are
in order as instants. -/
def OrdersAgree (rows : List RateRow) : Prop :=
  ∀ r ∈ rows, ∀ r' ∈ rows, SamePair r r' → TextBefore r r' → MillisBefore r r'

/-- Every row is in force when it starts, and rows of one pair with windows in order as texts start
in order as instants. -/
def StartsOrdered (rows : List RateRow) : Prop :=
  (∀ r ∈ rows, isActive r (toMillis r.effectiveFrom) = true) ∧
    ∀ r ∈ rows, ∀ r' ∈ rows, SamePair r r' → TextBefore r r' →
      millisLe (toMillis r.effectiveFrom) (toMillis r'.effectiveFrom) = true

lemma millisLe_trans {a b c : Option ℤ} (hab : millisLe a b = true) (hbc : millisLe b c = true) :
    millisLe a c = true := by
  cases a <;> cases b <;> cases c <;> simp_all [millisLe]
  omega

lemma isActive_iff {now : Option ℤ} : isActive r now = true ↔
    millisLe (toMillis r.effectiveFrom) now = true ∧
      ∀ stop ∈ r.effectiveTo, millisLe now (toMillis stop) = true := by
  cases hto : r.effectiveTo <;> simp [isActive, hto]

lemma MillisBefore.not_active (h : MillisBefore r r') {now : Option ℤ}
    (hr : isActive r now = true) : ¬ isActive r' now = true := by
  obtain ⟨stop, hstop, hlate⟩ := h
  rw [isActive_iff] at hr ⊢
  exact fun hr' => hlate (millisLe_trans hr'.1 (hr.2 stop hstop))

/-! ## Ambiguity -/

def IsAmbiguity (result : Except Thrown RateRow) : Prop :=
  ∃ message details, result = .error (.domainError "RATE_TABLE_OVERLAP" message details)

lemma not_isAmbiguity {source destination : Currency} {now : Date}
    (h : (activeRows rows source destination now).length ≤ 1) :
    ¬ IsAmbiguity (findActiveRateRow rows source destination now) := by
  rintro ⟨message, details, hfind⟩
  unfold findActiveRateRow at hfind
  split at hfind
  · simp at hfind
  · split at hfind
    · cases now <;> simp [Date.toISOString, do_eq, throw, throwThe, MonadExceptOf.throw]
        at hfind
    · cases hfind
    · next hnil hone =>
      rcases hactive : activeRows rows source destination now with _ | ⟨row, _ | ⟨row', rest⟩⟩
      · exact hnil hactive
      · exact hone row hactive
      · simp [hactive] at h

lemma length_activeRows_le_one (hbefore : rows.Pairwise fun r r' => pairKey r = pairKey r' →
      TextBefore r r' ∨ TextBefore r' r) (hagree : OrdersAgree rows) (source destination : Currency)
    (now : Date) : (activeRows rows source destination now).length ≤ 1 := by
  simp only [activeRows, List.filter_filter, Lists.length_filter_le_one, Bool.and_eq_true,
    decide_eq_true_eq]
  refine List.pairwise_iff_forall_sublist.mpr fun {r r'} hsub hboth => ?_
  obtain ⟨⟨hactive, hs, hd⟩, hactive', hs', hd'⟩ := hboth
  have hr : r ∈ rows := hsub.subset (by simp)
  have hr' : r' ∈ rows := hsub.subset (by simp)
  have hpair : SamePair r r' := ⟨hs.trans hs'.symm, hd.trans hd'.symm⟩
  have hkey : pairKey r = pairKey r' := by rw [pairKey, pairKey, hpair.1, hpair.2]
  rcases List.pairwise_iff_forall_sublist.mp hbefore hsub hkey with htexts | htexts
  · exact (hagree r hr r' hr' hpair htexts).not_active hactive hactive'
  · exact (hagree r' hr' r hr ⟨hpair.1.symm, hpair.2.symm⟩ htexts).not_active hactive' hactive

/-- On rows that start in order the orders agree as soon as no two of them are in force at once: at
the start of the second one, the first must have ended. -/
lemma ordersAgree_of_unambiguous (hordered : ∀ r ∈ rows, WindowOrdered r)
    (hstarts : StartsOrdered rows)
    (hone : ∀ source destination now, (activeRows rows source destination now).length ≤ 1) :
    OrdersAgree rows := by
  intro r hr r' hr' hpair htexts
  by_contra hlate
  simp only [MillisBefore, not_exists, not_and, not_not] at hlate
  have hstart := hstarts.2 r hr r' hr' hpair htexts
  obtain ⟨t, ht⟩ : ∃ t, toMillis r'.effectiveFrom = some t := by
    cases hstart' : toMillis r'.effectiveFrom with
    | none => simp [hstart', millisLe] at hstart
    | some t => exact ⟨t, rfl⟩
  have hactive : isActive r (some t) = true := ht ▸ isActive_iff.mpr ⟨hstart, hlate⟩
  have hactive' : isActive r' (some t) = true := ht ▸ hstarts.1 r' hr'
  have hmem : ∀ x ∈ rows, SamePair x r' → isActive x (some t) = true →
      x ∈ activeRows rows r'.sourceCurrency r'.destinationCurrency (.ofTime t) := by
    intro x hx hx' hxt
    simp [activeRows, hx, hx'.1, hx'.2, Date.getTime, hxt]
  -- the two rows in force are one row, which does not end before it starts
  have hfirst := hmem r hr hpair hactive
  have hsecond := hmem r' hr' ⟨rfl, rfl⟩ hactive'
  obtain ⟨x, hx⟩ := List.length_eq_one_iff.mp
    (le_antisymm (hone _ _ _) (List.length_pos_of_mem hfirst))
  rw [hx, List.mem_singleton] at hfirst hsecond
  obtain rfl := hfirst.trans hsecond.symm
  obtain ⟨stop, hstop, hlt⟩ := htexts
  exact hordered r hr stop hstop hlt

def CanonicalWindow (r : RateRow) : Prop :=
  isCanonicalInstant r.effectiveFrom = true ∧ ∀ stop ∈ r.effectiveTo, isCanonicalInstant stop = true
  deriving Decidable

lemma millis_lt_of_textLt {a b : String} (ha : isCanonicalInstant a = true)
    (hb : isCanonicalInstant b = true) (h : textLt a b) :
    ∃ m n, toMillis a = some m ∧ toMillis b = some n ∧ m < n := by
  obtain ⟨c, hc, rfl⟩ := exists_civil_of_isCanonicalInstant ha
  obtain ⟨c', hc', rfl⟩ := exists_civil_of_isCanonicalInstant hb
  refine ⟨c.time, c'.time, ?_, ?_, (Civil.text_lt_iff hc hc').mp h⟩
  · rw [toMillis, Civil.parse_text hc, Date.getTime]
  · rw [toMillis, Civil.parse_text hc', Date.getTime]

lemma ordersAgree_of_canonical (h : ∀ r ∈ rows, CanonicalWindow r) : OrdersAgree rows := by
  rintro r hr r' hr' - ⟨stop, hstop, hlt⟩
  obtain ⟨m, n, hm, hn, hmn⟩ := millis_lt_of_textLt ((h r hr).2 stop hstop) (h r' hr').1 hlt
  exact ⟨stop, hstop, by simpa [hm, hn, millisLe] using hmn⟩

/-- **When a table is unambiguous.** If texts and instants are in the same order where the check
compares them, an accepted table has at most one row of a pair in force at any time. That is so when
every timestamp has the canonical spelling; and where the rows start in order it is necessary.

**Proof sketch.** The check separates the windows in the order of texts
(`validateRateTable_textBefore`). Conversely, at the start of a row none in front of it is in force
any more (`ordersAgree_of_unambiguous`). -/
theorem unambiguous_of_ordersAgree (localeCompare : String → String → Ordering)
    (inputs : List RateRowInput) (rows : List RateRow)
    (h : validateRateTable localeCompare inputs = .ok rows) :
    (OrdersAgree rows → ∀ source destination now,
        (activeRows rows source destination now).length ≤ 1 ∧
          ¬ IsAmbiguity (findActiveRateRow rows source destination now)) ∧
      ((∀ r ∈ rows, CanonicalWindow r) → OrdersAgree rows) ∧
      (StartsOrdered rows → (∀ source destination now,
        (activeRows rows source destination now).length ≤ 1) → OrdersAgree rows) := by
  obtain ⟨hordered, hbefore⟩ := validateRateTable_textBefore h
  refine ⟨fun hagree source destination now => ?_, ordersAgree_of_canonical,
    ordersAgree_of_unambiguous hordered⟩
  have hone := length_activeRows_le_one hbefore hagree source destination now
  exact ⟨hone, not_isAmbiguity hone⟩

/-! ## Two tables -/

def dollarRow (rowId : Uuid) (effectiveFrom : String) (effectiveTo : Option String) :
    RateRowInput where
  rowId := rowId
  sourceCurrency := "KES"
  destinationCurrency := "USD"
  numerator := .bigint 77
  denominator := .bigint 10000
  effectiveFrom := .text effectiveFrom
  effectiveTo := effectiveTo.map .text
  source := "CBK"
  scaleSource := none
  scaleDest := none

def januaryId : Uuid := "00000000-0000-4000-8000-000000000001"

def februaryId : Uuid := "00000000-0000-4000-8000-000000000002"

def canonicalTable : List RateRowInput :=
  [dollarRow januaryId "2026-01-01T00:00:00.000Z" (some "2026-01-31T23:59:59.999Z"),
    dollarRow februaryId "2026-02-01T00:00:00.000Z" none]

/-- The first row ends at midnight twelve hours west of Greenwich, at noon of the first of February;
the second starts one second after midnight in Greenwich. -/
def zonedTable : List RateRowInput :=
  [dollarRow januaryId "2026-01-01T00:00:00Z" (some "2026-02-01T00:00:00-12:00"),
    dollarRow februaryId "2026-02-01T00:00:01Z" none]

theorem canonicalTable_unambiguous :
    ∃ rows, validateRateTable compareText canonicalTable = .ok rows ∧
    rows.length = 2 ∧ ∀ source destination now, (activeRows rows source destination now).length ≤
    1 := by
  have hrun : ((validateRateTable compareText canonicalTable).toOption.map fun rows =>
      (rows.length, decide (∀ r ∈ rows, CanonicalWindow r))) = some (2, true) := by decide +kernel
  obtain ⟨rows, haccepted, hfacts⟩ := map_toOption_eq_some.mp hrun
  obtain ⟨hlength, hcanonical⟩ := Prod.mk.inj hfacts
  obtain ⟨hone, hagree, -⟩ := unambiguous_of_ordersAgree compareText canonicalTable rows haccepted
  exact ⟨rows, haccepted, hlength, fun source destination now =>
    (hone (hagree (of_decide_eq_true hcanonical)) source destination now).1⟩

/-- The table is accepted, and at six in the morning of the first of February both rows are in
force. -/
theorem zonedTable_ambiguous : ∃ rows, validateRateTable compareText zonedTable = .ok rows ∧
    (activeRows rows .KES .USD (Date.parse "2026-02-01T06:00:00.000Z")).length = 2 ∧
    IsAmbiguity (findActiveRateRow rows .KES .USD (Date.parse "2026-02-01T06:00:00.000Z")) := by
  have hrun : ((validateRateTable compareText zonedTable).toOption.map fun rows =>
      ((activeRows rows .KES .USD (Date.parse "2026-02-01T06:00:00.000Z")).length,
        findActiveRateRow rows .KES .USD (Date.parse "2026-02-01T06:00:00.000Z"))) =
      some (2, .error (.domainError "RATE_TABLE_OVERLAP"
        "2 rows are effective at once for KES→USD — the table is ambiguous"
        [("sourceCurrency", "KES"), ("destinationCurrency", "USD"),
          ("rows", "00000000-0000-4000-8000-000000000001,00000000-0000-4000-8000-000000000002")])) := by
    decide +kernel
  obtain ⟨rows, hrows, hfacts⟩ := map_toOption_eq_some.mp hrun
  obtain ⟨hlength, hfind⟩ := Prod.mk.inj hfacts
  exact ⟨rows, hrows, hlength, _, _, hfind⟩

end Fuatilia.Crossborder
