import Fuatilia.Audit.Canonical
import Fuatilia.Foundations.HashChain
import Fuatilia.Foundations.Lists
import Fuatilia.Foundations.Machine

/-!
# Tamper evidence of the audit trail

A verifier who knows the length and the last hash of a trail accepts it, and accepts no other list
of records, except for changes that redaction or the canonical form removes: members with a
forbidden key (or the key `__proto__`), the order of the members, and the sign of a zero. Every
other list is reported, unless the verification comes to a snapshot that redaction refuses before it
finds a break: then it throws.

## Main definitions

* `Audit.Shaped`, `Audit.Stopped` — records that redaction accepts, and a verification that comes to
  one it refuses.
* `Audit.appendStep` — the trail after a call of `appendAuditRecord`.
* `Audit.attested` — what the chain attests of a record.

## Main results

* `Audit.verifyChain_cases` — the three ends of a verification, and when each is reached.
* `Audit.trail_tamper_evident`, `Audit.snapshot_change_reported_iff` — which copies are reported.
-/

namespace Fuatilia.Audit

open Fallible Machine HashChain

/-! ## Assumptions -/

/-- Redaction accepts the snapshots of the record. -/
def Shaped (r : AuditRecord) : Prop := Admitted r.previousState ∧ Admitted r.newState

/-- The hash gives different hashes to the different texts of two lists of records. -/
def CollisionFree (hash : AuditHashPort) (trail copy : List AuditRecord) : Prop :=
  ∀ r ∈ trail, ∀ s ∈ copy, hash (hashedText r) = hash (hashedText s) → hashedText r = hashedText s

/-- The hash port answers with a well-formed hash for every record. -/
def Answers (hash : AuditHashPort) (records : List AuditRecord) : Prop :=
  ∀ r ∈ records, isHash (hash (hashedText r)) = true

abbrev Linked (hash : AuditHashPort) (previous : Option String) (records : List AuditRecord) :
    Prop :=
  Chained hash hashedText AuditRecord.prevRecordHash AuditRecord.recordHash previous records

/-- The verification comes to a record with a snapshot that redaction refuses: no break is in front
of it, and its own hash and link pass. -/
def Stopped (hash : AuditHashPort) (previous : Option String) (records : List AuditRecord) : Prop :=
  ∃ before r after, records = before ++ r :: after ∧ (∀ s ∈ before, Shaped s) ∧
    Linked hash previous before ∧ ¬ Shaped r ∧ isHash r.recordHash = true ∧
    r.prevRecordHash = headDigest AuditRecord.recordHash previous before

variable {hash : AuditHashPort} {r : AuditRecord} {previous : Option String}
  {records : List AuditRecord}

lemma stopped_cons : Stopped hash previous (r :: records) ↔
    (¬ Shaped r ∧ isHash r.recordHash = true ∧ r.prevRecordHash = previous) ∨
      (Shaped r ∧ r.prevRecordHash = previous ∧ r.recordHash = hash (hashedText r) ∧
        Stopped hash (some r.recordHash) records) := by
  constructor
  · rintro ⟨_ | ⟨s, before⟩, r', after, hsplit, hbefore, hlinked, hrefused⟩
    · obtain ⟨rfl, rfl⟩ := List.cons.inj hsplit
      exact .inl hrefused
    · obtain ⟨rfl, rfl⟩ := List.cons.inj hsplit
      obtain ⟨hshaped, hbefore⟩ := List.forall_mem_cons.mp hbefore
      obtain ⟨hlink, hdigest, hlinked⟩ := hlinked
      exact .inr ⟨hshaped, hlink, hdigest, before, r', after, rfl, hbefore, hlinked, hrefused⟩
  · rintro (hrefused | ⟨hshaped, hlink, hdigest, before, s, after, rfl, hbefore, hlinked, hrefused⟩)
    · exact ⟨[], r, records, rfl, List.forall_mem_nil _, trivial, hrefused⟩
    · exact ⟨r :: before, s, after, rfl, List.forall_mem_cons.mpr ⟨hshaped, hbefore⟩,
        ⟨hlink, hdigest, hlinked⟩, hrefused⟩

lemma not_stopped_of_shaped (h : ∀ r ∈ records, Shaped r) : ¬ Stopped hash previous records := by
  rintro ⟨before, r, after, rfl, -, -, hrefused, -⟩
  exact hrefused (h r (by simp))

/-! ## What the verification finds -/

lemma redacted_eq_ok {s : AuditRecord} : redacted r = .ok s ↔ Shaped r ∧ s = redactRecord r := by
  simp only [redacted, ok_iff, redactSnapshot_eq_ok]
  constructor
  · rintro ⟨_, ⟨hprevious, rfl⟩, _, ⟨hnew, rfl⟩, hs⟩
    exact ⟨⟨hprevious, hnew⟩, hs⟩
  · rintro ⟨⟨hprevious, hnew⟩, hs⟩
    exact ⟨_, ⟨hprevious, rfl⟩, _, ⟨hnew, rfl⟩, hs⟩

lemma printable_optionText (text : Option String) : Printable (optionText text) := by
  cases text <;> trivial

lemma printable_chained (hprevious : Printable r.previousState) (hnew : Printable r.newState) :
    Printable r.chained := by
  have hitems : ∀ refs : List String, PrintableItems (refs.map .string) := by
    intro refs
    induction refs with
    | nil => trivial
    | cons ref refs ih => exact ⟨trivial, ih⟩
  have hai : Printable ((r.aiContext.map (·.toValue)).getD .null) := by
    cases r.aiContext with
    | none => trivial
    | some ai => exact ⟨trivial, hitems ai.evidenceRefs, trivial⟩
  have happroval : Printable ((r.approval.map (·.toValue)).getD .null) := by
    cases r.approval with
    | none => trivial
    | some approval => exact ⟨printable_optionText _, printable_optionText _, trivial, trivial⟩
  exact ⟨trivial, ⟨trivial, trivial, printable_optionText _, trivial⟩, hai, happroval, trivial,
    printable_optionText _, trivial, trivial, printable_optionText _, hnew, trivial, trivial,
    printable_optionText _, hprevious, printable_optionText _, trivial, printable_optionText _,
    trivial⟩

lemma chainHash_of_printable (hprintable : Printable r.chained) (previous : Option String) :
    chainHash previous r hash = useHash hash (previous.getD GENESIS_PREV_HASH ++
      String.ofList (Json.print (normal r.chained))) := by
  rw [chainHash, canonicalAuditRecord, canonicalJson, canonicalValue_eq_ok hprintable]
  rfl

lemma useHash_eq_ok {input out : String} :
    useHash hash input = .ok out ↔ isHash (hash input) = true ∧ out = hash input := by
  rw [useHash, seq_eq_ok, throwIf_eq_ok, pure_eq_ok]
  simp

/-- The three ends of the checks of one record: it passes, it is reported, or redaction refuses
it. -/
lemma verifyRecord_cases (index : ℕ) (previous : Option String)
    (hanswer : isHash (hash (hashedText r)) = true) :
    (Shaped r ∧ r.prevRecordHash = previous ∧ r.recordHash = hash (hashedText r) ∧
      verifyRecord hash index previous r = .ok none) ∨
    (¬ (r.prevRecordHash = previous ∧ r.recordHash = hash (hashedText r)) ∧
      ¬ (¬ Shaped r ∧ isHash r.recordHash = true ∧ r.prevRecordHash = previous) ∧
      ∃ i reason detail, verifyRecord hash index previous r = .ok
    (some (.broken i reason detail))) ∨
    ((¬ Shaped r ∧ isHash r.recordHash = true ∧ r.prevRecordHash = previous) ∧
      ∃ thrown, verifyRecord hash index previous r = .error thrown) := by
  by_cases hformat : isHash r.recordHash = true
  swap
  · refine .inr (.inl ⟨fun h => hformat (h.2 ▸ hanswer), fun h => hformat h.2.1, ?_⟩)
    rw [verifyRecord, if_pos (by simpa using hformat)]
    exact ⟨_, _, _, rfl⟩
  by_cases hlink : r.prevRecordHash = previous
  swap
  · refine .inr (.inl ⟨fun h => hlink h.1, fun h => hlink h.2.2, ?_⟩)
    rw [verifyRecord, if_neg (by simpa using hformat), if_pos hlink]
    cases previous <;> exact ⟨_, _, _, rfl⟩
  rw [verifyRecord, if_neg (by simpa using hformat), if_neg (by simpa using hlink)]
  by_cases hshaped : Shaped r
  swap
  · refine .inr (.inr ⟨⟨hshaped, hformat, hlink⟩, ?_⟩)
    cases hredacted : redacted r with
    | error thrown => exact ⟨thrown, rfl⟩
    | ok s => exact absurd (redacted_eq_ok.mp hredacted).1 hshaped
  have hchain : chainHash r.prevRecordHash (redactRecord r) hash = .ok (hash (hashedText r)) := by
    have hprintable : Printable (redactRecord r).chained :=
      printable_chained (printable_of_plain hshaped.1.1).2 (printable_of_plain hshaped.2.1).2
    rw [chainHash_of_printable hprintable]
    exact useHash_eq_ok.mpr ⟨hanswer, rfl⟩
  simp only [do_eq, redacted_eq_ok.mpr ⟨hshaped, rfl⟩, hchain]
  by_cases hdigest : r.recordHash = hash (hashedText r)
  · exact .inl ⟨hshaped, hlink, hdigest, by rw [if_neg (not_not.mpr hdigest.symm)]⟩
  · refine .inr (.inl ⟨fun h => hdigest h.2, fun h => h.1 hshaped, ?_⟩)
    rw [if_pos (Ne.symm hdigest)]
    exact ⟨_, _, _, rfl⟩

lemma verifyRecords_cases (index : ℕ) (previous : Option String) (hanswers : Answers hash records) :
    (Linked hash previous records ∧ (∀ r ∈ records, Shaped r) ∧
      verifyRecords hash index previous records = .ok none) ∨
    (¬ Linked hash previous records ∧ ¬ Stopped hash previous records ∧ ∃ i reason detail,
      verifyRecords hash index previous records = .ok (some (.broken i reason detail))) ∨
    (Stopped hash previous records ∧
      ∃ thrown, verifyRecords hash index previous records = .error thrown) := by
  induction records generalizing index previous with
  | nil => exact .inl ⟨trivial, List.forall_mem_nil _, rfl⟩
  | cons r records ih =>
    obtain ⟨hanswer, hanswers⟩ := List.forall_mem_cons.mp hanswers
    rw [stopped_cons, verifyRecords]
    rcases verifyRecord_cases index previous hanswer with ⟨hshaped, hlink, hdigest, hnone⟩ |
      ⟨hnot, hgoes, i, reason, detail, hsome⟩ | ⟨hrefused, thrown, herror⟩
    · rw [hnone]
      rcases ih (index + 1) (some r.recordHash) hanswers with ⟨hlinked, hrest, hfound⟩ |
        ⟨hnot, hstopped, hfound⟩ | ⟨hstopped, hfound⟩
      · exact .inl ⟨⟨hlink, hdigest, hlinked⟩, List.forall_mem_cons.mpr ⟨hshaped, hrest⟩, hfound⟩
      · refine .inr (.inl ⟨fun h => hnot h.2.2, ?_, hfound⟩)
        rintro (hrefused | ⟨-, -, -, hstops⟩)
        exacts [hrefused.1 hshaped, hstopped hstops]
      · exact .inr (.inr ⟨.inr ⟨hshaped, hlink, hdigest, hstopped⟩, hfound⟩)
    · rw [hsome]
      refine .inr (.inl ⟨fun h => hnot ⟨h.1, h.2.1⟩, ?_, i, reason, detail, rfl⟩)
      rintro (hrefused | ⟨-, hlink, hdigest, -⟩)
      exacts [hgoes hrefused, hnot ⟨hlink, hdigest⟩]
    · rw [herror]
      exact .inr (.inr ⟨.inl hrefused, thrown, rfl⟩)

/-- What a verifier knows of a trail: its length and its last hash. -/
def anchor (trail : List AuditRecord) : ChainExpectation where
  length := some ⟨some trail.length, toString trail.length⟩
  headHash := trail.getLast?.map (·.recordHash)

lemma assertExpectedLength_anchor (trail : List AuditRecord) :
    assertExpectedLength (anchor trail).length = .ok () := by
  have hinteger : JsNumber.integer ⟨some (trail.length : ℚ), toString trail.length⟩ =
      some (trail.length : ℤ) := by
    simp [JsNumber.integer]
  show throwIf _ _ = _
  rw [throwIf_eq_ok, hinteger]
  simp

lemma checkAnchor_cases (records trail : List AuditRecord) :
    (records.length = trail.length ∧
        records.getLast?.map (·.recordHash) = trail.getLast?.map (·.recordHash) ∧
        checkAnchor records (anchor trail) =
          .ok records.length (records.getLast?.map (·.recordHash))) ∨
      (¬ (records.length = trail.length ∧
          records.getLast?.map (·.recordHash) = trail.getLast?.map (·.recordHash)) ∧
        ∃ i reason detail, checkAnchor records (anchor trail) = .broken i reason detail) := by
  have hhead : (anchor trail).headHash = trail.getLast?.map (·.recordHash) := rfl
  have hlength : (anchor trail).length = some ⟨some trail.length, toString trail.length⟩ := rfl
  unfold checkAnchor
  rw [hlength, hhead]
  by_cases hsame : records.length = trail.length
  swap
  · refine .inr ⟨fun h => hsame h.1, ?_⟩
    have hne : (trail.length : ℚ) ≠ records.length := by
      intro h
      exact hsame (Nat.cast_injective h).symm
    simp [Option.filter_some, hne]
  have hfilter : (some (⟨some trail.length, toString trail.length⟩ : JsNumber)).filter
      (fun length => length.value ≠ some (records.length : ℚ)) = none := by
    simp [Option.filter_some, hsame]
  simp only [hfilter]
  -- with the same length, either both lists have a last hash or neither has
  rcases List.eq_nil_or_concat trail with rfl | ⟨trail, last, rfl⟩
  · obtain rfl : records = [] := List.eq_nil_of_length_eq_zero hsame
    exact .inl ⟨rfl, rfl, rfl⟩
  simp only [List.concat_eq_append, List.getLast?_append_of_ne_nil _ (List.cons_ne_nil last []),
    List.getLast?_singleton, Option.map_some] at hsame ⊢
  by_cases hlast : records.getLast?.map (·.recordHash) = some last.recordHash
  · refine .inl ⟨hsame, hlast, ?_⟩
    simp [Option.filter_some, hlast]
  · refine .inr ⟨fun h => hlast h.2, ?_⟩
    rw [Option.filter_some, if_pos (decide_eq_true hlast)]
    exact ⟨_, _, _, rfl⟩

/-- **The three ends of a verification** against the anchor of a trail: it accepts exactly a chain
of the same length with the same last hash whose snapshots redaction accepts, it throws exactly when
it comes to a snapshot that redaction refuses, and it reports a break otherwise. -/
theorem verifyChain_cases (trail : List AuditRecord) (hanswers : Answers hash records) :
    ((Linked hash none records ∧ records.length = trail.length ∧
        records.getLast?.map (·.recordHash) = trail.getLast?.map (·.recordHash)) ∧
      (∀ r ∈ records, Shaped r) ∧
      verifyChain records hash (anchor trail) =
        .ok (.ok records.length (records.getLast?.map (·.recordHash)))) ∨
    (¬ (Linked hash none records ∧ records.length = trail.length ∧
        records.getLast?.map (·.recordHash) = trail.getLast?.map (·.recordHash)) ∧
      ¬ Stopped hash none records ∧
      ∃ i reason detail, verifyChain records hash (anchor trail) = .ok (.broken i reason detail)) ∨
    (Stopped hash none records ∧
      ∃ thrown, verifyChain records hash (anchor trail) = .error thrown) := by
  simp only [verifyChain, do_eq, assertExpectedLength_anchor]
  rcases verifyRecords_cases 0 none hanswers with ⟨hlinked, hshaped, hnone⟩ |
    ⟨hnot, hgoes, i, reason, detail, hsome⟩ | ⟨hstopped, thrown, herror⟩
  · rw [hnone]
    rcases checkAnchor_cases records trail with
      ⟨hlength, hhead, hok⟩ | ⟨hnot, i, reason, detail, hbroken⟩
    · exact .inl ⟨⟨hlinked, hlength, hhead⟩, hshaped, congrArg Except.ok hok⟩
    · exact .inr (.inl ⟨fun h => hnot h.2, not_stopped_of_shaped hshaped, i, reason, detail,
        congrArg Except.ok hbroken⟩)
  · rw [hsome]
    exact .inr (.inl ⟨fun h => hnot h.1, hgoes, i, reason, detail, rfl⟩)
  · rw [herror]
    exact .inr (.inr ⟨hstopped, thrown, rfl⟩)

/-! ## Trails -/

structure AppendCommand where
  input : AppendAuditInput
  clocks : AppendClocks

/-- The trail after a call of `appendAuditRecord` that links its record to the last one stored, even
where making the fact afterwards throws. -/
def appendStep (hash : AuditHashPort) (trail : List AuditRecord) (command : AppendCommand) :
    Option (List AuditRecord) :=
  (storeRecord trail hash trail.getLast? command.input command.clocks).toOption.map (·.1)

structure Sealed (hash : AuditHashPort) (r : AuditRecord) : Prop where
  shaped : Shaped r
  redacted : redactRecord r = r
  answered : isHash (hash (hashedText r)) = true
  digest : r.recordHash = hash (hashedText r)

variable {trail copy trail' : List AuditRecord}

variable {prev : Option AuditRecord} {input : AppendAuditInput} {clocks : AppendClocks}
  {stored : AuditRecord}

/-- What an append stores is sealed and linked, and it depends on the hash only through the hash of
the text of the stored record. -/
lemma storeRecord_eq_ok (h : storeRecord trail hash prev input clocks = .ok (trail', stored)) :
    trail' = trail ++ [stored] ∧ Sealed hash stored ∧
      stored.prevRecordHash = prev.map (·.recordHash) ∧
      ∀ hash' : AuditHashPort, hash' (hashedText stored) = hash (hashedText stored) →
        storeRecord trail hash' prev input clocks = .ok (trail', stored) := by
  simp only [storeRecord, bind_eq_ok] at h ⊢
  obtain ⟨_, hclock, draft, hdraft, link, hlink, digest, hdigest, _, hshape, hsink⟩ := h
  have hstore := hsink
  obtain ⟨hprevious, hnew, rfl, hstored⟩ := sinkAppend_eq_ok hsink
  obtain ⟨⟨v, hv⟩, w, hw⟩ := buildAuditDraft_snapshots hdraft
  -- the snapshots were redacted by the builder, so that redacting them again changes nothing
  have hcleanPrevious : redact draft.previousState = draft.previousState :=
    redact_of_clean (hv ▸ clean_redact (hv ▸ hprevious.1))
  have hcleanNew : redact draft.newState = draft.newState :=
    redact_of_clean (hw ▸ clean_redact (hw ▸ hnew.1))
  simp only [hcleanPrevious, hcleanNew] at hstored
  subst hstored
  have hredacted : redactRecord { draft with prevRecordHash := link, recordHash := digest } =
      { draft with prevRecordHash := link, recordHash := digest } := by
    simp [redactRecord, hcleanPrevious, hcleanNew]
  have hprintable : Printable
      (AuditRecord.chained { draft with prevRecordHash := link, recordHash := "" }) := by
    apply printable_chained
    · exact hcleanPrevious ▸ (printable_of_plain hprevious.1).2
    · exact hcleanNew ▸ (printable_of_plain hnew.1).2
  rw [chainHash_of_printable hprintable] at hdigest
  obtain ⟨hanswered, rfl⟩ := useHash_eq_ok.mp hdigest
  have htext : ∀ digest, hashedText { draft with prevRecordHash := link, recordHash := digest } =
      link.getD GENESIS_PREV_HASH ++ String.ofList (Json.print (normal
        (AuditRecord.chained { draft with prevRecordHash := link, recordHash := "" }))) := by
    intro digest
    simp [hashedText, redactRecord, hcleanPrevious, hcleanNew, AuditRecord.chained]
  refine ⟨rfl, ⟨⟨hprevious, hnew⟩, hredacted, ?_, ?_⟩, ?_, ?_⟩
  · rw [htext]
    exact hanswered
  · rw [htext]
  · cases prev with
    | none => exact (Except.ok.inj hlink).symm
    | some prev =>
      simp only [linkTo, seq_eq_ok, pure_eq_ok] at hlink
      exact hlink.2
  · intro hash' hsame
    rw [htext] at hsame
    refine ⟨_, hclock, draft, hdraft, link, hlink, _, ?_, _, hshape, hstore⟩
    rw [chainHash_of_printable hprintable]
    exact useHash_eq_ok.mpr ⟨hsame ▸ hanswered, hsame.symm⟩

/-- The trails of the append path: sealed records, chained from the first one on. -/
def WellBuilt (hash : AuditHashPort) (trail : List AuditRecord) : Prop :=
  Linked hash none trail ∧ ∀ r ∈ trail, Sealed hash r

lemma headDigest_eq_getLast (records : List AuditRecord) :
    headDigest AuditRecord.recordHash none records = records.getLast?.map (·.recordHash) := by
  rcases List.eq_nil_or_concat records with rfl | ⟨records, r, rfl⟩
  · rfl
  · rw [List.concat_eq_append, headDigest_concat, List.getLast?_concat, Option.map_some]

lemma wellBuilt_step {command : AppendCommand} (h : WellBuilt hash trail)
    (hstep : appendStep hash trail command = some trail') :
    WellBuilt hash trail' := by
  obtain ⟨⟨trail', stored⟩, hstore, rfl⟩ := map_toOption_eq_some.mp hstep
  obtain ⟨rfl, hsealed, hlink, -⟩ := storeRecord_eq_ok hstore
  refine ⟨chained_concat.mpr ⟨h.1, ?_, hsealed.digest⟩, ?_⟩
  · rw [hlink, headDigest_eq_getLast]
  · exact Lists.forall_mem_concat h.2 hsealed

theorem wellBuilt_run (hash : AuditHashPort) (commands : List AppendCommand) :
    WellBuilt hash (run (appendStep hash) [] commands) :=
  run_invariant_all (fun _ _ _ h hstep => wellBuilt_step h hstep) commands []
    ⟨trivial, fun _ hr => absurd hr List.not_mem_nil⟩

/-! ## Tamper evidence -/

/-- What the chain attests of a record: its content and its hash. -/
def attested (r : AuditRecord) : (AuditRecord × Json.Value × Json.Value) × String :=
  (content r, r.recordHash)

lemma attested_eq {s : AuditRecord} (h : attested r = attested s) :
    hashedText r = hashedText s ∧ r.prevRecordHash = s.prevRecordHash ∧
      r.recordHash = s.recordHash := by
  obtain ⟨hcontent, hdigest⟩ := Prod.mk.inj h
  have htext := hashedText_eq_of_content_eq hcontent
  exact ⟨htext, (hashedText_inj htext).2, hdigest⟩

theorem attested_eq_of_linked (htrail : WellBuilt hash trail)
    (hfree : CollisionFree hash trail copy) (hlinked : Linked hash none copy)
    (hlength : copy.length = trail.length)
    (hhead : copy.getLast?.map (·.recordHash) = trail.getLast?.map (·.recordHash)) :
    copy.map attested = trail.map attested := by
  have hcontent : ∀ r ∈ trail, ∀ s ∈ copy, hashedText r = hashedText s →
      attested r = attested s ∧ r.prevRecordHash = s.prevRecordHash := by
    intro r hr s hs htext
    obtain ⟨hsame, hlink⟩ := hashedText_inj htext
    have hdigest : r.recordHash = s.recordHash := by
      rw [digest_eq_of_mem htrail.1 hr, digest_eq_of_mem hlinked hs, htext]
    exact ⟨Prod.ext hsame hdigest, hlink⟩
  rw [← headDigest_eq_getLast, ← headDigest_eq_getLast] at hhead
  exact (map_content_eq hfree hcontent htrail.1 hlinked hlength.symm hhead.symm).symm

lemma linked_of_attested_eq (htrail : WellBuilt hash trail)
    (h : copy.map attested = trail.map attested) :
    Linked hash none copy ∧ copy.length = trail.length ∧
      copy.getLast?.map (·.recordHash) = trail.getLast?.map (·.recordHash) := by
  have hfields : copy.map (fun r => (hashedText r, r.prevRecordHash, r.recordHash)) =
      trail.map fun r => (hashedText r, r.prevRecordHash, r.recordHash) := by
    refine Lists.map_eq_of_map_eq (fun r s hrs => ?_) h
    obtain ⟨htext, hlink, hdigest⟩ := attested_eq hrs
    simp [htext, hlink, hdigest]
  have hdigests : copy.map (·.recordHash) = trail.map (·.recordHash) :=
    Lists.map_eq_of_map_eq (fun r s hrs => (attested_eq hrs).2.2) h
  refine ⟨(chained_congr hfields).mpr htrail.1, ?_, ?_⟩
  · rw [← List.length_map (f := attested), h, List.length_map]
  · rw [← List.getLast?_map, hdigests, List.getLast?_map]

lemma accepted_of_attested_eq (htrail : WellBuilt hash trail) (hshaped : ∀ r ∈ copy, Shaped r)
    (hsame : copy.map attested = trail.map attested) :
    verifyChain copy hash (anchor trail) =
      .ok (.ok trail.length (trail.getLast?.map (·.recordHash))) := by
  have htexts : copy.map hashedText = trail.map hashedText :=
    Lists.map_eq_of_map_eq (fun r s hrs => (attested_eq hrs).1) hsame
  have hanswers : Answers hash copy := by
    intro r hr
    have hmem : hashedText r ∈ trail.map hashedText := htexts ▸ List.mem_map_of_mem hr
    obtain ⟨s, hs, hrs⟩ := List.mem_map.mp hmem
    exact hrs ▸ (htrail.2 s hs).answered
  have hlinked := linked_of_attested_eq htrail hsame
  rcases verifyChain_cases trail hanswers with ⟨-, -, haccepted⟩ | ⟨hnot, -⟩ | ⟨hstopped, -⟩
  · rw [haccepted, hlinked.2.1, hlinked.2.2]
  · exact absurd hlinked hnot
  · exact absurd hstopped (not_stopped_of_shaped hshaped)

theorem trail_verified (htrail : WellBuilt hash trail) :
    verifyChain trail hash (anchor trail) =
      .ok (.ok trail.length (trail.getLast?.map (·.recordHash))) :=
  accepted_of_attested_eq htrail (fun r hr => (htrail.2 r hr).shaped) rfl

/-- A copy is accepted when redaction accepts its snapshots and the chain attests the same of it. -/
lemma accepted_iff (htrail : WellBuilt hash trail) (hanswers : Answers hash copy)
    (hfree : CollisionFree hash trail copy) :
    (∃ length head, verifyChain copy hash (anchor trail) = .ok (.ok length head)) ↔
      (∀ r ∈ copy, Shaped r) ∧ copy.map attested = trail.map attested := by
  rcases verifyChain_cases trail hanswers with ⟨⟨hlinked, hlength, hhead⟩, hshaped, haccepted⟩ |
    ⟨hnot, -, i, reason, detail, hbroken⟩ | ⟨hstopped, thrown, herror⟩
  · refine iff_of_true ⟨_, _, haccepted⟩ ⟨hshaped, ?_⟩
    exact attested_eq_of_linked htrail hfree hlinked hlength hhead
  · rw [hbroken]
    exact iff_of_false (by simp) fun h => hnot (linked_of_attested_eq htrail h.2)
  · rw [herror]
    exact iff_of_false (by simp) fun h => not_stopped_of_shaped h.1 hstopped

/-- A copy is reported when redaction does not stop its verification and the chain attests something
else of it. -/
lemma reported_iff (htrail : WellBuilt hash trail) (hanswers : Answers hash copy)
    (hfree : CollisionFree hash trail copy) :
    (∃ i reason detail, verifyChain copy hash (anchor trail) = .ok (.broken i reason detail)) ↔
      ¬ Stopped hash none copy ∧ copy.map attested ≠ trail.map attested := by
  rcases verifyChain_cases trail hanswers with ⟨⟨hlinked, hlength, hhead⟩, -, haccepted⟩ |
    ⟨hnot, hgoes, hbroken⟩ | ⟨hstopped, thrown, herror⟩
  · rw [haccepted]
    exact iff_of_false (by simp) fun h =>
      h.2 (attested_eq_of_linked htrail hfree hlinked hlength hhead)
  · exact iff_of_true hbroken ⟨hgoes, fun hsame => hnot (linked_of_attested_eq htrail hsame)⟩
  · rw [herror]
    exact iff_of_false (by simp) fun h => h.1 hstopped

/-- **Tamper evidence.** A trail of the append path is accepted. A copy that differs from it after
redaction and canonicalisation, in a field or in its records, is reported when redaction accepts its
snapshots; and it goes unreported exactly when the verification comes to a snapshot that redaction
refuses. -/
theorem trail_tamper_evident (hash : AuditHashPort) (commands : List AppendCommand) :
    let trail := run (appendStep hash) [] commands
    verifyChain trail hash (anchor trail) =
        .ok (.ok trail.length (trail.getLast?.map (·.recordHash))) ∧
      ∀ copy : List AuditRecord, Answers hash copy → CollisionFree hash trail copy →
        copy.map attested ≠ trail.map attested →
        ((∀ r ∈ copy, Shaped r) →
          ∃ i reason detail,
            verifyChain copy hash (anchor trail) = .ok (.broken i reason detail)) ∧
        ((∃ i reason detail,
            verifyChain copy hash (anchor trail) = .ok (.broken i reason detail)) ↔
          ¬ Stopped hash none copy) := by
  intro trail
  have htrail : WellBuilt hash trail := wellBuilt_run hash commands
  refine ⟨trail_verified htrail, fun copy hanswers hfree hdiffer => ⟨fun hshaped => ?_, ?_⟩⟩
  · exact (reported_iff htrail hanswers hfree).mpr ⟨not_stopped_of_shaped hshaped, hdiffer⟩
  · rw [reported_iff htrail hanswers hfree, and_iff_left hdiffer]

def settlement : AppendCommand where
  input := {
    auditId := "a-1", orgId := "org-1", actor := ⟨.system, "settler", none⟩, action := .settle,
    entityType := "invoice", entityId := "inv-1", requestId := "req-1",
    occurredAt := some "2025-06-01T08:00:00Z", correlationId := none, ip := none,
    userAgent := none, previousState := .null,
    newState := .object none [("status", .string "paid")], reason := none, approval := none,
    aiContext := none }
  clocks := ⟨⟨fun _ => .ofTime 1748764800000⟩, .ofTime 1748764800000⟩

def settledTrail : List AuditRecord := run (appendStep fun _ => "1") [] [settlement]

/-- A hash that tells the text of the settlement from every other text. -/
def settledHash : AuditHashPort := fun text =>
  if settledTrail.map hashedText = [text] then "1" else "0"

lemma length_settledTrail : settledTrail.length = 1 := by decide +kernel

lemma answers_settledHash (records : List AuditRecord) : Answers settledHash records := by
  intro r _
  rw [settledHash]
  split_ifs <;> decide

lemma collisionFree_settledHash (copy : List AuditRecord) :
    CollisionFree settledHash settledTrail copy := by
  obtain ⟨r, hr⟩ := List.length_eq_one_iff.mp length_settledTrail
  intro s hs t _ hsame
  rw [hr, List.mem_singleton] at hs
  subst hs
  by_contra htext
  simp [settledHash, hr, htext] at hsame

lemma run_settledHash : run (appendStep settledHash) [] [settlement] = settledTrail := by
  obtain ⟨r, hr⟩ := List.length_eq_one_iff.mp length_settledTrail
  cases hstep : appendStep (fun _ => "1") [] settlement with
  | none =>
    have hempty : settledTrail = [] := next_of_none hstep
    rw [hempty] at hr
    cases hr
  | some trail =>
    have htrail : settledTrail = trail := next_of_some hstep
    obtain ⟨⟨_, stored⟩, hstore, rfl⟩ := map_toOption_eq_some.mp hstep
    obtain ⟨hgrown, -, -, hcongr⟩ := storeRecord_eq_ok hstore
    have hsame : settledHash (hashedText stored) = "1" := by simp [settledHash, htrail, hgrown]
    have hagain : appendStep settledHash [] settlement = some _ :=
      map_toOption_eq_some.mpr ⟨_, hcongr settledHash hsame, rfl⟩
    rw [htrail, run_cons, run_nil, next_of_some hagain]

/-- The trail with another entity in its records. -/
def movedTrail : List AuditRecord := settledTrail.map fun r => { r with entityId := "inv-2" }

lemma attested_movedTrail_ne : movedTrail.map attested ≠ settledTrail.map attested := by
  intro h
  have hentities := congrArg (List.map (·.1.1.entityId)) h
  revert hentities
  decide +kernel

/-- The copy with the other entity is reported. -/
theorem moved_trail_reported :
    CollisionFree settledHash settledTrail movedTrail ∧ (∀ r ∈ movedTrail, Shaped r) ∧
      movedTrail.map attested ≠ settledTrail.map attested ∧ ∃ i reason detail,
        verifyChain movedTrail settledHash (anchor settledTrail) =
          .ok (.broken i reason detail) := by
  have hshaped : ∀ r ∈ movedTrail, Shaped r := by
    intro r hr
    obtain ⟨s, hs, rfl⟩ := List.mem_map.mp hr
    exact ((wellBuilt_run _ [settlement]).2 s hs).shaped
  have hevident := trail_tamper_evident settledHash [settlement]
  simp only [run_settledHash] at hevident
  have hfree := collisionFree_settledHash movedTrail
  exact ⟨hfree, hshaped, attested_movedTrail_ne, (hevident.2 movedTrail (answers_settledHash _)
    hfree attested_movedTrail_ne).1 hshaped⟩

/-- An array that holds an array, and so on, the given number of times. -/
def nested : ℕ → JsValue
  | 0 => .null
  | n + 1 => .array [nested n]

/-- **A verification that throws.** With another entity and with a snapshot deeper than redaction
goes, the copy is not reported. -/
theorem deep_snapshot_throws : ∃ (hash : AuditHashPort) (commands : List AppendCommand)
    (copy : List AuditRecord),
      let trail := run (appendStep hash) [] commands
      Answers hash copy ∧ CollisionFree hash trail copy ∧ copy.map attested ≠ trail.map attested ∧
        verifyChain copy hash (anchor trail) =
          .error (invalid (String.join (List.replicate 25 "[0]")) "nesting exceeds 24 levels") := by
  refine ⟨settledHash, [settlement], movedTrail.map fun r => { r with newState := nested 25 }, ?_⟩
  simp only [run_settledHash]
  refine ⟨answers_settledHash _, collisionFree_settledHash _, fun h => ?_, by decide +kernel⟩
  have hentities := congrArg (List.map (·.1.1.entityId)) h
  revert hentities
  decide +kernel

/-! ## What redaction hides -/

def withSecret (r : AuditRecord) : AuditRecord :=
  match r.newState with
  | .object kind members =>
    { r with newState := .object kind (("password", .string "hunter2") :: members) }
  | _ => r

def hasMember (key : String) : JsValue → Bool
  | .object _ members => members.any (·.1 == key)
  | _ => false

lemma attested_withSecret (r : AuditRecord) : attested (withSecret r) = attested r := by
  unfold withSecret
  split
  case h_2 => rfl
  case h_1 kind members hstate =>
    have hcopy : copyKind (("password", .string "hunter2") :: members) = copyKind members := rfl
    have hdropped : isDropped "password" = true := by decide
    have hredact : redact (.object kind (("password", .string "hunter2") :: members)) =
        redact r.newState := by
      rw [hstate, redact, redact, hcopy, redactMembers, if_pos hdropped]
    simp [attested, content, hredact]

lemma shaped_withSecret (h : Shaped r) : Shaped (withSecret r) := by
  unfold withSecret
  split
  case h_2 => exact h
  case h_1 kind members hstate =>
    obtain ⟨hprevious, hplain, hdepth⟩ := h
    rw [hstate] at hplain hdepth
    have hone : 1 ≤ MAX_SNAPSHOT_DEPTH := by decide
    exact ⟨hprevious, ⟨hplain.1, trivial, hplain.2⟩, max_le hone hdepth⟩

/-- **Redaction hides a secret from the verification**: whatever the hash, a trail with a secret put
into its snapshots is accepted. -/
theorem secret_accepted (htrail : WellBuilt hash trail) :
    verifyChain (trail.map withSecret) hash (anchor trail) =
      .ok (.ok trail.length (trail.getLast?.map (·.recordHash))) := by
  have hsame : (trail.map withSecret).map attested = trail.map attested := by
    rw [List.map_map]
    exact List.map_congr_left fun r _ => attested_withSecret r
  have hshaped : ∀ r ∈ trail.map withSecret, Shaped r := by
    intro r hr
    obtain ⟨s, hs, rfl⟩ := List.mem_map.mp hr
    exact shaped_withSecret (htrail.2 s hs).shaped
  exact accepted_of_attested_eq htrail hshaped hsame

/-- A copy of a trail with a password in a snapshot is accepted, although the hash does not give one
hash to two texts of the trail and the copy. -/
theorem secret_injected_unnoticed :
    ∃ (hash : AuditHashPort) (commands : List AppendCommand) (copy : List AuditRecord),
      let trail := run (appendStep hash) [] commands
      Answers hash copy ∧ CollisionFree hash trail copy ∧
        (∀ r ∈ trail, hasMember "password" r.newState = false) ∧
        (∃ r ∈ copy, hasMember "password" r.newState = true) ∧
        verifyChain copy hash (anchor trail) =
          .ok (.ok trail.length (trail.getLast?.map (·.recordHash))) := by
  have hhidden : ∀ r ∈ settledTrail, hasMember "password" r.newState = false := by decide +kernel
  have hshown : ∃ r ∈ settledTrail.map withSecret, hasMember "password" r.newState = true := by
    decide +kernel
  refine ⟨settledHash, [settlement], settledTrail.map withSecret, ?_⟩
  have hbuilt := wellBuilt_run settledHash [settlement]
  simp only [run_settledHash] at hbuilt ⊢
  exact ⟨answers_settledHash _, collisionFree_settledHash _, hhidden, hshown,
    secret_accepted hbuilt⟩

/-- **Which changes are reported.** A copy is accepted exactly when redaction accepts its snapshots
and nothing differs after redaction and canonicalisation. It is reported exactly when something does
and a break is in front of the first snapshot that redaction refuses, if there is one. -/
theorem snapshot_change_reported_iff (hash : AuditHashPort) (commands : List AppendCommand)
    (copy : List AuditRecord) (hanswers : Answers hash copy)
    (hfree : CollisionFree hash (run (appendStep hash) [] commands) copy) :
    let trail := run (appendStep hash) [] commands
    ((∃ length head, verifyChain copy hash (anchor trail) = .ok (.ok length head)) ↔
        (∀ r ∈ copy, Shaped r) ∧ copy.map attested = trail.map attested) ∧
      ((∃ i reason detail, verifyChain copy hash (anchor trail) = .ok (.broken i reason detail)) ↔
        ¬ Stopped hash none copy ∧ copy.map attested ≠ trail.map attested) :=
  ⟨accepted_iff (wellBuilt_run hash commands) hanswers hfree,
    reported_iff (wellBuilt_run hash commands) hanswers hfree⟩

/-- The trail with another status in its snapshots. -/
def voidedTrail : List AuditRecord :=
  settledTrail.map fun r => { r with newState := .object none [("status", .string "void")] }

/-- The copy with the other status is reported. -/
theorem voided_trail_reported :
    Answers settledHash voidedTrail ∧ CollisionFree settledHash settledTrail voidedTrail ∧
      ∃ i reason detail, verifyChain voidedTrail settledHash (anchor settledTrail) =
        .ok (.broken i reason detail) := by
  have hshaped : ∀ r ∈ voidedTrail, Shaped r := by
    intro r hr
    obtain ⟨s, hs, rfl⟩ := List.mem_map.mp hr
    have hdepth :
        (JsValue.object none [("status", .string "void")]).nesting ≤ MAX_SNAPSHOT_DEPTH := by
      decide
    exact ⟨((wellBuilt_run _ [settlement]).2 s hs).shaped.1, ⟨rfl, trivial, trivial⟩, hdepth⟩
  have hdiffer : voidedTrail.map attested ≠ settledTrail.map attested := by
    intro h
    have hsnapshots := congrArg (List.map fun a => Json.print a.1.2.2) h
    revert hsnapshots
    decide +kernel
  have hanswers := answers_settledHash voidedTrail
  have hfree := collisionFree_settledHash voidedTrail
  have hreported := snapshot_change_reported_iff settledHash [settlement] voidedTrail hanswers
  simp only [run_settledHash] at hreported
  exact ⟨hanswers, hfree, (hreported hfree).2.mpr ⟨not_stopped_of_shaped hshaped, hdiffer⟩⟩

end Fuatilia.Audit
