import Fuatilia.Foundations.Lists
import Fuatilia.Foundations.Machine
import Fuatilia.Ledger.Journal

/-!
# Runs of posting and reversal

Each call of `post`, `postEntry` or `reverseEntry` is fed the journal the calls before it left. The
callers' identifiers are never checked against the journal, and a reversing entry takes its own
identifier as its source event.

## Main definitions

* `step` — append a new entry; mark the original of a reversal, and append the reversal.
* `Books`, `Clear` — the law of the books, and identifiers that are clear of the journal.

## Main results

* `books_iff_clear` — the law holds along a run exactly when its identifiers are clear.
-/

namespace Fuatilia.Ledger

open Fallible Machine Lists DoubleEntry

/-! ## The machine -/

/-- The calls on the journal; a reversal names its original by its position. -/
inductive Call where
  | post (event : MoneyMovementEvent) (entryId : Option Uuid) (clock : Clock)
  | postEntry (input : PostEntryInput) (clock : Clock)
  | reverseEntry (index : ℕ) (input : ReverseEntryInput) (clock : Clock)

def recordPost (j : Journal) (r : PostResult) : Journal :=
  match r.outcome with
  | .posted => j ++ [r.entry]
  | .already_posted => j

def step (j : Journal) : Call → Option Journal
  | .post event entryId clock => (Ledger.post event j clock entryId).toOption.map (recordPost j)
  | .postEntry input clock => (Ledger.postEntry input j clock).toOption.map (recordPost j)
  | .reverseEntry index input clock => do
    let original ← j[index]?
    let r ← (Ledger.reverseEntry original input clock).toOption
    return j.set index r.original ++ [r.reversal]

/-! ## The books -/

def JournalEntry.source (e : JournalEntry) : String × Uuid := (e.orgId, e.sourceEventId)

def reversalCount (j : Journal) (id : Uuid) : ℕ := (j.map (·.reversalOf)).count (some id)

def JournalEntry.Balanced (e : JournalEntry) : Prop :=
  (∃ currency, ∀ line ∈ e.lines, line.currency = currency) ∧
    sideTotal .DEBIT e.lines = sideTotal .CREDIT e.lines

def trialBalanceMinor (entries : Journal) : ℤ :=
  (ACCOUNTS.map (accountBalanceMinor (entries.map (·.lines)))).sum

def inCurrency (currency : Currency) (j : Journal) : Journal :=
  j.filter fun e => e.lines.all (·.currency = currency)

def Call.Repeats (j : Journal) : Call → Prop
  | .post event _ _ => findPostedEntry j (trim event.orgId) event.sourceEventId ≠ none
  | .postEntry input _ => findPostedEntry j (trim input.orgId) input.sourceEventId ≠ none
  | .reverseEntry _ _ _ => False

structure Books (j : Journal) : Prop where
  /-- Every entry balances in a single currency. -/
  balanced : ∀ e ∈ j, e.Balanced
  /-- Over all entries of one currency the trial balance is zero. -/
  trial : ∀ currency, trialBalanceMinor (inCurrency currency j) = 0
  /-- An entry and its reversal net to zero on every account. -/
  cancels : ∀ e ∈ j, ∀ r ∈ j, r.reversalOf = some e.entryId →
    ∀ account, accountBalanceMinor [e.lines, r.lines] account = 0
  /-- An entry is reversed exactly when exactly one reversal of it exists. -/
  reversed : ∀ e ∈ j, e.status = .REVERSED ↔ reversalCount j e.entryId = 1
  /-- There is at most one entry for each organisation and source event. -/
  unique : (j.map JournalEntry.source).Nodup
  /-- A repeated source event leaves the journal as it is. -/
  repeated : ∀ c : Call, c.Repeats j → next step j c = j

/-- No reversal of the new entry's identifier exists, and a reversal also takes an identifier that
differs from its original's, is not a source event of the organisation yet, and has an original that
no other entry shares its identifier with. -/
def Clear (j : Journal) (c : Call) : Prop :=
  (step j c).isSome → match c with
  | .post event entryId _ =>
    findPostedEntry j (trim event.orgId) event.sourceEventId = none →
      reversalCount j (postingId entryId (trim event.orgId) event.sourceEventId) = 0
  | .postEntry input _ =>
    findPostedEntry j (trim input.orgId) input.sourceEventId = none →
      reversalCount j (postingId input.entryId (trim input.orgId) input.sourceEventId) = 0
  | .reverseEntry index input _ => ∀ original, j[index]? = some original →
    let id := reversalId input.entryId original.entryId
    reversalCount j id = 0 ∧ id ≠ original.entryId ∧
      findPostedEntry j original.orgId id = none ∧
      ∀ (k : ℕ) (e : JournalEntry), j[k]? = some e → e.entryId = original.entryId → k = index

/-! ## What an accepted call does -/

/-- An entry as posting makes it: posted, not a reversal, not reversed, and balanced. -/
structure Fresh (e : JournalEntry) : Prop where
  posted : e.status = .POSTED
  original : e.reversalOf = none
  balanced : e.Balanced

lemma assertNonBlank_eq_ok {value code field r : String}
    (h : assertNonBlank value code field = .ok r) : r = trim value := by
  simp only [assertNonBlank, ok_iff] at h
  obtain ⟨_, -, rfl⟩ := h
  rfl

variable {clock : Clock} {j j' : Journal} {original : JournalEntry} {c : Call}

variable {id src event : Uuid} {org occurredAt name reference actor : String}
  {lines : List JournalLine} {r : PostResult} {index : ℕ} {marked reversal e : JournalEntry}

lemma newEntry_eq_ok (h : newEntry id org occurredAt name src reference actor lines clock = .ok r) :
    r.outcome = .posted ∧ r.entry.entryId = id ∧ r.entry.source = (org, src) ∧
      r.entry.status = .POSTED ∧ r.entry.reversalOf = none ∧ r.entry.lines = lines := by
  simp only [newEntry, ok_iff] at h
  obtain ⟨_, -, _, -, rfl⟩ := h
  exact ⟨rfl, rfl, rfl, rfl, rfl, rfl⟩

/-- A posting repeats an entry, or makes a fresh one for a source event not yet posted. -/
def Posts (j : Journal) (org : String) (event id : Uuid) (r : PostResult) : Prop :=
  r.outcome = .already_posted ∧ findPostedEntry j org event ≠ none ∨
    r.outcome = .posted ∧ findPostedEntry j org event = none ∧ Fresh r.entry ∧
      r.entry.source = (org, event) ∧ r.entry.entryId = id

lemma posts_of_newEntry {u : Unit}
    (hnone : findPostedEntry j org src = none) (hbal : assertBalanced lines = .ok u)
    (h : newEntry id org occurredAt name src reference actor lines clock = .ok r) :
    Posts j org src id r := by
  obtain ⟨-, hcur, hsides⟩ := assertBalanced_eq_ok hbal
  obtain ⟨hout, hid, hsrc, hposted, horig, rfl⟩ := newEntry_eq_ok h
  exact .inr ⟨hout, hnone, ⟨hposted, horig, hcur, hsides⟩, hsrc, hid⟩

lemma post_inversion {event : MoneyMovementEvent} {supplied : Option Uuid}
    (h : post event j clock supplied = .ok r) : Posts j (trim event.orgId) event.sourceEventId
      (postingId supplied (trim event.orgId) event.sourceEventId) r := by
  unfold post at h
  split at h
  · cases h
  · simp only [bind_eq_ok] at h
    obtain ⟨_, -, org, horg, _, -, _, -, -, -, _, -, h⟩ := h
    obtain rfl := assertNonBlank_eq_ok horg
    split at h
    · rename_i existing hexisting
      simp only [ok_iff] at h
      obtain ⟨_, -, rfl⟩ := h
      exact .inl ⟨rfl, by rw [hexisting]; exact Option.some_ne_none _⟩
    · rename_i hnone
      simp only [bind_eq_ok] at h
      obtain ⟨debit, -, credit, -, _, hbal, h⟩ := h
      exact posts_of_newEntry hnone hbal h

lemma postEntry_inversion {input : PostEntryInput} (h : postEntry input j clock = .ok r) :
    Posts j (trim input.orgId) input.sourceEventId
      (postingId input.entryId (trim input.orgId) input.sourceEventId) r := by
  simp only [postEntry, bind_eq_ok] at h
  obtain ⟨_, -, org, horg, _, -, _, -, _, -, _, -, lines, -, _, hbal, h⟩ := h
  obtain rfl := assertNonBlank_eq_ok horg
  split at h
  · rename_i existing hexisting
    simp only [ok_iff] at h
    obtain ⟨_, -, rfl⟩ := h
    exact .inl ⟨rfl, by rw [hexisting]; exact Option.some_ne_none _⟩
  · rename_i hnone
    exact posts_of_newEntry hnone hbal h

/-- What a reversal does: a posted original that is no reversal is marked, and the reversing entry
carries its lines flipped and takes its own identifier as source event. -/
structure Reversal (original marked reversal : JournalEntry) : Prop where
  posted : original.status = .POSTED
  marked : marked = { original with status := .REVERSED, reversedBy := some reversal.entryId }
  status : reversal.status = .POSTED
  target : reversal.reversalOf = some original.entryId
  lines : reversal.lines = original.lines.map JournalLine.flip
  source : reversal.source = (original.orgId, reversal.entryId)
  balanced : reversal.Balanced

lemma reverseEntry_inversion {input : ReverseEntryInput} {r : ReversalResult}
    (h : reverseEntry original input clock = .ok r) :
    Reversal original r.original r.reversal ∧
      r.reversal.entryId = reversalId input.entryId original.entryId := by
  simp only [reverseEntry, ok_iff] at h
  obtain ⟨_, -, _, -, -, hposted, _, hbal, _, -, _, -, _, -, _, -, rfl⟩ := h
  obtain ⟨-, hcur, hsides⟩ := assertBalanced_eq_ok hbal
  exact ⟨⟨not_not.mp hposted, rfl, rfl, rfl, rfl, rfl, ⟨hcur, hsides⟩⟩, rfl⟩

/-- The clearance of a reversal: what `Clear` says of it, with its original at hand. -/
def ClearReversal (j : Journal) (index : ℕ) (original : JournalEntry) (id : Uuid) : Prop :=
  reversalCount j id = 0 ∧ id ≠ original.entryId ∧ findPostedEntry j original.orgId id = none ∧
    ∀ (k : ℕ) (e : JournalEntry), j[k]? = some e → e.entryId = original.entryId → k = index

/-- What an accepted call does to the journal, and what it means for the call to be clear. -/
inductive Change (j : Journal) (c : Call) : Journal → Prop
  | repeats (clear : Clear j c) : Change j c j
  | appends (e : JournalEntry) (fresh : Fresh e)
      (new : findPostedEntry j e.orgId e.sourceEventId = none)
      (clear : Clear j c ↔ reversalCount j e.entryId = 0) : Change j c (j ++ [e])
  | reverses (index : ℕ) (original marked reversal : JournalEntry)
      (found : j[index]? = some original) (rev : Reversal original marked reversal)
      (clear : Clear j c ↔ ClearReversal j index original reversal.entryId) :
      Change j c (j.set index marked ++ [reversal])

lemma Posts.change (h : Posts j org event id r)
    (hclear : Clear j c ↔ (findPostedEntry j org event = none → reversalCount j id = 0)) :
    Change j c (recordPost j r) := by
  rcases h with ⟨hout, hfound⟩ | ⟨hout, hnone, hfresh, hsrc, rfl⟩
  · simp only [recordPost, hout]
    exact .repeats (hclear.mpr fun hnone => absurd hnone hfound)
  · simp only [recordPost, hout]
    cases hsrc
    exact .appends r.entry hfresh hnone (hclear.trans ⟨fun h => h hnone, fun hzero _ => hzero⟩)

lemma Posts.recordPost_of_found
    (h : Posts j org event id r) (hfound : findPostedEntry j org event ≠ none) :
    recordPost j r = j := by
  rcases h with ⟨hout, -⟩ | ⟨-, hnone, -⟩
  · simp [recordPost, hout]
  · exact absurd hnone hfound

theorem step_inversion (h : step j c = some j') : Change j c j' := by
  have hsome : (step j c).isSome := by rw [h]; rfl
  cases c with
  | post event supplied clock =>
    obtain ⟨r, hr, rfl⟩ := map_toOption_eq_some.mp h
    exact (post_inversion hr).change ⟨fun hclear => hclear hsome, fun hzero _ => hzero⟩
  | postEntry input clock =>
    obtain ⟨r, hr, rfl⟩ := map_toOption_eq_some.mp h
    exact (postEntry_inversion hr).change ⟨fun hclear => hclear hsome, fun hzero _ => hzero⟩
  | reverseEntry index input clock =>
    obtain ⟨original, hfound, r, hr, rfl⟩ := lookup_eq_some.mp h
    obtain ⟨hrev, hid⟩ := reverseEntry_inversion hr
    refine .reverses index original r.original r.reversal hfound hrev ?_
    rw [hid]
    constructor
    · intro hclear
      exact hclear hsome original hfound
    · intro hclear _ original' hfound'
      obtain rfl : original' = original := Option.some.inj (hfound'.symm.trans hfound)
      exact hclear

/-! ## The invariant -/

/-- An entry whose status agrees with the number of its reversals. -/
def Settled (j : Journal) (e : JournalEntry) : Prop :=
  (e.status = .REVERSED ∧ reversalCount j e.entryId = 1) ∨
    (e.status = .POSTED ∧ reversalCount j e.entryId = 0)

/-- The invariant behind the books: reversals have an original, carry exactly its lines flipped,
and no entry has more than one. -/
structure Inv (j : Journal) : Prop where
  balanced : ∀ e ∈ j, e.Balanced
  flipped : ∀ e ∈ j, ∀ r ∈ j, r.reversalOf = some e.entryId →
    r.lines = e.lines.map JournalLine.flip
  settled : ∀ e ∈ j, Settled j e
  targets : ∀ r ∈ j, ∀ id, r.reversalOf = some id → ∃ e ∈ j, e.entryId = id
  unique : (j.map JournalEntry.source).Nodup

lemma findPostedEntry_eq_none :
    findPostedEntry j org src = none ↔ (org, src) ∉ j.map JournalEntry.source := by
  simp [findPostedEntry, List.find?_eq_none, Bool.and_eq_true, beq_iff_eq, List.mem_map,
    JournalEntry.source, Prod.mk.injEq, not_exists, not_and]

lemma reversalCount_append (j : Journal) (e : JournalEntry) (id : Uuid) :
    reversalCount (j ++ [e]) id = reversalCount j id + if e.reversalOf = some id then 1 else 0 := by
  simp [reversalCount, List.count_append, List.count_singleton]

lemma Reversal.count (rev : Reversal original marked reversal)
    (found : j[index]? = some original) (id : Uuid) :
    reversalCount (j.set index marked ++ [reversal]) id =
      reversalCount j id + if original.entryId = id then 1 else 0 := by
  have hsame : marked.reversalOf = original.reversalOf := by rw [rev.marked]
  rw [reversalCount_append, reversalCount, map_set_of_eq _ found hsame, rev.target]
  simp [reversalCount]

lemma Reversal.sources (rev : Reversal original marked reversal)
    (found : j[index]? = some original) :
    (j.set index marked).map JournalEntry.source = j.map JournalEntry.source :=
  map_set_of_eq _ found (by rw [rev.marked]; rfl)

lemma reversalCount_pos {r : JournalEntry} (hr : r ∈ j) (h : r.reversalOf = some id) :
    0 < reversalCount j id :=
  List.count_pos_iff.mpr (List.mem_map.mpr ⟨r, hr, h⟩)

lemma inv_nil : Inv [] := by
  constructor <;> simp

lemma inv_append (hI : Inv j) (fresh : Fresh e)
    (new : findPostedEntry j e.orgId e.sourceEventId = none)
    (hclear : reversalCount j e.entryId = 0) : Inv (j ++ [e]) := by
  have hcount : ∀ id, reversalCount (j ++ [e]) id = reversalCount j id := by
    intro id
    rw [reversalCount_append, fresh.original]
    simp
  constructor
  · exact forall_mem_concat hI.balanced fresh.balanced
  · intro x hx r hr hrev
    have hr' : r ∈ j := by
      rcases mem_concat hr with hr | rfl
      · exact hr
      · rw [fresh.original] at hrev
        cases hrev
    rcases mem_concat hx with hx | rfl
    · exact hI.flipped x hx r hr' hrev
    · -- no reversal of the new identifier exists
      have := reversalCount_pos hr' hrev
      omega
  · intro x hx
    rw [Settled, hcount]
    rcases mem_concat hx with hx | rfl
    · exact hI.settled x hx
    · exact .inr ⟨fresh.posted, hclear⟩
  · intro r hr id hrev
    rcases mem_concat hr with hr | rfl
    · obtain ⟨x, hx, hid⟩ := hI.targets r hr id hrev
      exact ⟨x, List.mem_append_left _ hx, hid⟩
    · rw [fresh.original] at hrev
      cases hrev
  · exact nodup_map_concat hI.unique (findPostedEntry_eq_none.mp new)

lemma count_of_posted (hI : Inv j) (he : e ∈ j) (hposted : e.status = .POSTED) :
    reversalCount j e.entryId = 0 := by
  rcases hI.settled e he with ⟨hrev, -⟩ | ⟨-, hzero⟩
  · rw [hposted] at hrev
    cases hrev
  · exact hzero

/-- A clear reversal keeps the invariant: marking the original changes its status only, so the
counts of reversals change for the original's identifier only, and no other entry has it. -/
lemma inv_reverse (hI : Inv j)
    (found : j[index]? = some original) (rev : Reversal original marked reversal)
    (hclear : ClearReversal j index original reversal.entryId) :
    Inv (j.set index marked ++ [reversal]) := by
  obtain ⟨hzero, hne, hnew, honly⟩ := hclear
  have hmem : original ∈ j := List.mem_of_getElem? found
  have hcount := rev.count found
  -- an entry of the new journal before the reversal stands for one of the old journal
  have hold : ∀ x ∈ j.set index marked, ∃ y ∈ j, x.entryId = y.entryId ∧ x.lines = y.lines ∧
      x.reversalOf = y.reversalOf := by
    intro x hx
    rcases mem_set_cases hx with rfl | ⟨k, -, hk⟩
    · exact ⟨original, hmem, by rw [rev.marked], by rw [rev.marked], by rw [rev.marked]⟩
    · exact ⟨x, List.mem_of_getElem? hk, rfl, rfl, rfl⟩
  constructor
  · intro x hx
    rcases mem_concat hx with hx | rfl
    · obtain ⟨y, hy, -, hlines, -⟩ := hold x hx
      rw [JournalEntry.Balanced, hlines]
      exact hI.balanced y hy
    · exact rev.balanced
  · intro x hx r hr hrevOf
    rcases mem_concat hx with hx | rfl
    · obtain ⟨y, hy, hid, hlines, -⟩ := hold x hx
      rw [hlines]
      rw [hid] at hrevOf
      rcases mem_concat hr with hr | rfl
      · obtain ⟨z, hz, -, hzlines, hzrev⟩ := hold r hr
        rw [hzlines]
        exact hI.flipped y hy z hz (by rw [← hzrev]; exact hrevOf)
      · -- the reversal's target is the original, and only the original has that identifier
        rw [rev.target, Option.some.injEq] at hrevOf
        obtain ⟨k, hk⟩ := List.mem_iff_getElem?.mp hy
        rw [honly k y hk hrevOf.symm, found, Option.some.injEq] at hk
        rw [rev.lines, hk]
    · -- nothing reverses the reversal
      have hpos := reversalCount_pos hr hrevOf
      rw [hcount, hzero, if_neg hne.symm] at hpos
      omega
  · intro x hx
    rw [Settled, hcount]
    rcases mem_concat hx with hx | rfl
    · rcases mem_set_cases hx with rfl | ⟨k, hk, hkx⟩
      · left
        rw [rev.marked]
        simp [count_of_posted hI hmem rev.posted]
      · have hother : ¬ original.entryId = x.entryId := fun h => hk (honly k x hkx h.symm)
        rw [if_neg hother]
        exact hI.settled x (List.mem_of_getElem? hkx)
    · rw [if_neg hne.symm, hzero]
      exact .inr ⟨rev.status, rfl⟩
  · intro r hr id hrevOf
    have hfind : ∃ y ∈ j, y.entryId = id := by
      rcases mem_concat hr with hr | rfl
      · obtain ⟨z, hz, -, -, hzrev⟩ := hold r hr
        exact hI.targets z hz id (by rw [← hzrev]; exact hrevOf)
      · rw [rev.target, Option.some.injEq] at hrevOf
        exact ⟨original, hmem, hrevOf⟩
    obtain ⟨y, hy, hid⟩ := hfind
    -- the entry with that identifier is still there, or is the marked original
    have hids : (j.set index marked).map (·.entryId) = j.map (·.entryId) :=
      map_set_of_eq _ found (by rw [rev.marked])
    have hmemId : id ∈ (j.set index marked).map (·.entryId) := by
      rw [hids]
      exact List.mem_map.mpr ⟨y, hy, hid⟩
    obtain ⟨x, hx, hxid⟩ := List.mem_map.mp hmemId
    exact ⟨x, List.mem_append_left _ hx, hxid⟩
  · refine nodup_map_concat (rev.sources found ▸ hI.unique) ?_
    rw [rev.sources found, rev.source]
    exact findPostedEntry_eq_none.mp hnew

theorem inv_of_change (hI : Inv j) (h : Change j c j') (hclear : Clear j c) : Inv j' := by
  cases h with
  | repeats _ => exact hI
  | appends e fresh new clear => exact inv_append hI fresh new (clear.mp hclear)
  | reverses index original marked reversal found rev clear =>
    exact inv_reverse hI found rev (clear.mp hclear)

/-! ## The books are in order -/

lemma trialBalance_of_balanced (entries : Journal) (h : ∀ e ∈ entries, e.Balanced) :
    trialBalanceMinor entries = 0 := by
  have htotal : total (postings (entries.map (·.lines)).flatten) = 0 := by
    induction entries with
    | nil => rfl
    | cons e es ih =>
      have hhead := (h e List.mem_cons_self).2
      rw [List.map_cons, List.flatten_cons, postings_append, total_append,
        total_signed, ih fun x hx => h x (List.mem_cons_of_mem _ hx)]
      omega
  have hnets : ACCOUNTS.map (accountBalanceMinor (entries.map (·.lines))) =
      ACCOUNTS.map (net (postings (entries.map (·.lines)).flatten)) :=
    List.map_congr_left fun a _ => accountBalanceMinor_eq_net _ a
  rw [trialBalanceMinor, hnets, sum_net ACCOUNTS (by decide), htotal]
  intro a
  cases a <;> decide

lemma next_of_repeats (h : c.Repeats j) : next step j c = j := by
  cases hc : step j c with
  | none => exact next_of_none hc
  | some j' =>
    rw [next_of_some hc]
    cases c with
    | post event supplied clock =>
      obtain ⟨r, hr, rfl⟩ := map_toOption_eq_some.mp hc
      exact (post_inversion hr).recordPost_of_found h
    | postEntry input clock =>
      obtain ⟨r, hr, rfl⟩ := map_toOption_eq_some.mp hc
      exact (postEntry_inversion hr).recordPost_of_found h
    | reverseEntry index input clock => exact h.elim

theorem books_of_inv (hI : Inv j) : Books j := by
  constructor
  · exact hI.balanced
  · intro currency
    exact trialBalance_of_balanced _ fun e he => hI.balanced e (List.mem_of_mem_filter he)
  · intro e he r hr hrev account
    rw [accountBalanceMinor_eq_net, List.flatten_cons, List.flatten_cons, List.flatten_nil,
      List.append_nil, postings_append, hI.flipped e he r hr hrev, postings_flip,
      net_append_flip]
  · intro e he
    rcases hI.settled e he with ⟨hstatus, hcount⟩ | ⟨hstatus, hcount⟩ <;> simp [hstatus, hcount]
  · exact hI.unique
  · intro c hc
    exact next_of_repeats hc

/-! ## The condition is exact -/

lemma reversalCount_le_one (hI : Inv j) (id : Uuid) : reversalCount j id ≤ 1 := by
  by_contra hgt
  have hpos : 0 < reversalCount j id := by omega
  obtain ⟨r, hr, hrev⟩ := List.mem_map.mp (List.count_pos_iff.mp hpos)
  obtain ⟨e, he, rfl⟩ := hI.targets r hr id hrev
  rcases hI.settled e he with ⟨-, hcount⟩ | ⟨-, hcount⟩ <;> omega

/-- Books in order after an accepted call show that the call was clear: a new entry has not exactly
one reversal, so by the invariant it has none. -/
theorem clear_of_books (hI : Inv j) (h : Change j c j') (hbooks : Books j') : Clear j c := by
  cases h with
  | repeats clear => exact clear
  | appends e fresh new clear =>
    rw [clear]
    have hcount : reversalCount (j ++ [e]) e.entryId = reversalCount j e.entryId := by
      rw [reversalCount_append, fresh.original]
      simp
    have hstatus := hbooks.reversed e (by simp)
    rw [fresh.posted, hcount] at hstatus
    have hle := reversalCount_le_one hI e.entryId
    have hne : reversalCount j e.entryId ≠ 1 := fun h1 => by cases hstatus.mpr h1
    omega
  | reverses index original marked reversal found rev clear =>
    rw [clear]
    have hmem : original ∈ j := List.mem_of_getElem? found
    have hzero := count_of_posted hI hmem rev.posted
    have hcount := rev.count found
    have hreversal : reversalCount (j.set index marked ++ [reversal]) reversal.entryId ≠ 1 := by
      intro h1
      have := (hbooks.reversed reversal (by simp)).mpr h1
      rw [rev.status] at this
      cases this
    have hne : reversal.entryId ≠ original.entryId := by
      intro heq
      rw [hcount, heq, hzero] at hreversal
      exact hreversal (by simp)
    refine ⟨?_, hne, ?_, ?_⟩
    · rw [hcount, if_neg hne.symm] at hreversal
      have hle := reversalCount_le_one hI reversal.entryId
      omega
    · rw [findPostedEntry_eq_none]
      intro hin
      have hnodup := hbooks.unique
      rw [List.map_append, List.nodup_append, rev.sources found] at hnodup
      exact hnodup.2.2 _ hin reversal.source (by simp) rev.source.symm
    · intro k e hk hid
      by_contra hki
      have hin : e ∈ j.set index marked ++ [reversal] := by
        apply List.mem_append_left
        exact List.mem_iff_getElem?.mpr ⟨k, by rw [List.getElem?_set_ne (Ne.symm hki)]; exact hk⟩
      have hrev : e.status = .REVERSED := (hbooks.reversed e hin).mpr (by
        rw [hcount, hid, hzero, if_pos rfl])
      -- but an entry with the identifier of an unreversed original was posted
      rcases hI.settled e (List.mem_of_getElem? hk) with ⟨-, hone⟩ | ⟨hposted, -⟩
      · rw [hid, hzero] at hone
        cases hone
      · rw [hrev] at hposted
        cases hposted

/-- **The books along every run.** From the empty journal the books are in order at every point
exactly when the identifiers that each accepted call brings are clear of the journal it meets. -/
theorem books_iff_clear (calls : List Call) :
    (∀ k, Books (run step [] (calls.take k))) ↔ Meets step Clear [] calls := by
  refine forall_run_iff_meets (P := Books) (fun j => books_of_inv) ?_ ?_ ?_ calls [] inv_nil
  · intro j c j' hI hstep hclear
    exact inv_of_change hI (step_inversion hstep) hclear
  · intro j c j' hI hstep hbooks
    exact clear_of_books hI (step_inversion hstep) hbooks
  · intro j c hnone hsome
    rw [hnone] at hsome
    cases hsome

/-- Two calls that leave two entries for one source event: an invoice is posted for an event, and
is then reversed under an identifier that is the identifier of that event. -/
theorem books_broken_by_reversal_id :
    let clock : Clock := ⟨fun _ => .ofTime 0⟩
    let event : MoneyMovementEvent :=
      ⟨"invoicing.invoiceIssued", "00000000-0000-4000-8000-000000000001", "org-1",
        "2026-01-31T08:00:00Z", .bigint 125000, .KES, "INV-1", "system"⟩
    let calls : List Call :=
      [.post event (some "00000000-0000-4000-8000-00000000000a") clock,
        .reverseEntry 0 ⟨some "00000000-0000-4000-8000-000000000001", "issued twice", "cfo", none⟩
          clock]
    ¬ Books (run step [] calls) := by
  intro clock event calls hbooks
  have hsources : (run step [] calls).map JournalEntry.source =
      [("org-1", "00000000-0000-4000-8000-000000000001"),
        ("org-1", "00000000-0000-4000-8000-000000000001")] := by decide
  have hnodup := hbooks.unique
  rw [hsources] at hnodup
  exact absurd hnodup (by decide)

end Fuatilia.Ledger
