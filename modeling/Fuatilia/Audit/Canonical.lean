import Fuatilia.Audit.Chain
import Fuatilia.Foundations.JsonScan
import Fuatilia.Foundations.Scans
import Fuatilia.Shared.TextOrder

/-!
# What the hashed text of a record determines

The text hashed for a record is the previous hash followed by the canonical JSON of the record with
its snapshots redacted, with nothing in between.

## Main definitions

* `normal`, `SameValue` — a value with its members sorted, and values that differ in order only.
* `hashedText`, `content` — the text, and what it determines.

## Main results

* `canonicalJson_eq_iff` — two values have one canonical text when they differ in order only.
* `hashedText_inj` — the text determines the previous hash and the redacted record.
-/

namespace Fuatilia.Audit

open Fallible JsValue

/-! ## The canonical form -/

mutual

/-- The value with the members of every object sorted by their keys. -/
def normal : JsValue → Json.Value
  | .null => .null
  | .bool b => .bool b
  | .string s => .string s.toList
  | .number n => .number n
  | .nonFinite _ | .other _ | .circular => .null
  | .array items => .array (normalItems items)
  | .object _ members =>
    .object ((jsSort byKey (normalMembers members)).map fun entry => (entry.1.toList, entry.2))

def normalItems : List JsValue → List Json.Value
  | [] => []
  | item :: items => normal item :: normalItems items

def normalMembers : List (String × JsValue) → List (String × Json.Value)
  | [] => []
  | (key, member) :: members => (key, normal member) :: normalMembers members

end

mutual

/-- Every part of the value has a canonical form. Unlike `JsValue.Plain` this does not ask for the
prototypes of the objects. -/
def Printable : JsValue → Prop
  | .null | .bool _ | .string _ | .number _ => True
  | .nonFinite _ | .other _ | .circular => False
  | .array items => PrintableItems items
  | .object _ members => PrintableMembers members

def PrintableItems : List JsValue → Prop
  | [] => True
  | item :: items => Printable item ∧ PrintableItems items

def PrintableMembers : List (String × JsValue) → Prop
  | [] => True
  | (_, member) :: members => Printable member ∧ PrintableMembers members

end

lemma map_jsSort_byKey {α β : Type} (f : α → β) (l : List (String × α)) :
    (jsSort byKey l).map (fun entry => (entry.1, f entry.2)) =
      jsSort byKey (l.map fun entry => (entry.1, f entry.2)) := by
  exact List.map_insertionSort _ _ _ _ fun a _ b _ => Iff.rfl

lemma canonicalMembers_cons {key : String} {member : JsValue} (members : List (String × JsValue))
    (h : Printable member) :
    canonicalMembers ((key, member) :: members) =
      (key, canonicalValue member) :: canonicalMembers members := by
  rw [canonicalMembers]
  rintro rfl
  exact h

mutual

/-- **The canonical form of a value** exists for everything that JSON can carry. -/
theorem canonicalValue_eq_ok : ∀ {v : JsValue}, Printable v → canonicalValue v = .ok (normal v)
  | .null, _ => rfl
  | .bool _, _ => rfl
  | .string _, _ => rfl
  | .number _, _ => rfl
  | .array items, h => by
    rw [canonicalValue, canonicalItems_eq_ok h]
    rfl
  | .object _ members, h => by
    have hmembers := canonicalMembers_eq h
    rw [canonicalValue, hmembers, ← map_jsSort_byKey, List.mapM_map, bind_eq_ok]
    refine ⟨(jsSort byKey (normalMembers members)).map fun entry => (entry.1.toList, entry.2),
      mapM_eq_ok_map fun entry _ => rfl, rfl⟩

theorem canonicalItems_eq_ok : ∀ {items : List JsValue}, PrintableItems items →
    canonicalItems items = .ok (normalItems items)
  | [], _ => rfl
  | _ :: _, h => by
    rw [canonicalItems, canonicalValue_eq_ok h.1, canonicalItems_eq_ok h.2]
    rfl

theorem canonicalMembers_eq : ∀ {members : List (String × JsValue)}, PrintableMembers members →
    canonicalMembers members = (normalMembers members).map fun entry => (entry.1, .ok entry.2)
  | [], _ => rfl
  | (_, _) :: members, h => by
    rw [canonicalMembers_cons members h.1, canonicalValue_eq_ok h.1, canonicalMembers_eq h.2]
    rfl

end

mutual

/-- Whatever passes the validation has a canonical form, and so does its redaction. -/
theorem printable_of_plain : ∀ {v : JsValue}, v.Plain → Printable v ∧ Printable (redact v)
  | .null, _ => ⟨trivial, trivial⟩
  | .bool _, _ => ⟨trivial, trivial⟩
  | .string _, _ => ⟨trivial, trivial⟩
  | .number _, _ => ⟨trivial, trivial⟩
  | .array _, h => printableItems_of_plain h
  | .object _ _, h => printableMembers_of_plain h.2

theorem printableItems_of_plain : ∀ {items : List JsValue}, PlainItems items →
    PrintableItems items ∧ PrintableItems (redactItems items)
  | [], _ => ⟨trivial, trivial⟩
  | _ :: _, h => by
    have hitem := printable_of_plain h.1
    have hitems := printableItems_of_plain h.2
    exact ⟨⟨hitem.1, hitems.1⟩, hitem.2, hitems.2⟩

theorem printableMembers_of_plain : ∀ {members : List (String × JsValue)}, PlainMembers members →
    PrintableMembers members ∧ PrintableMembers (redactMembers members)
  | [], _ => ⟨trivial, trivial⟩
  | (key, member) :: members, h => by
    have hmember := printable_of_plain h.1
    have hmembers := printableMembers_of_plain h.2
    rw [redactMembers]
    split_ifs
    · exact ⟨⟨hmember.1, hmembers.1⟩, hmembers.2⟩
    · exact ⟨⟨hmember.1, hmembers.1⟩, hmember.2, hmembers.2⟩

end

lemma normalMembers_eq_map (members : List (String × JsValue)) :
    normalMembers members = members.map fun entry => (entry.1, normal entry.2) := by
  induction members with
  | nil => rfl
  | cons entry members ih => rw [normalMembers, ih, List.map_cons]

lemma normalItems_eq_map (items : List JsValue) : normalItems items = items.map normal := by
  induction items with
  | nil => rfl
  | cons item items ih => rw [normalItems, ih, List.map_cons]

/-! ## Values with the same canonical text -/

mutual

/-- No object of the value has two members of one key; no JavaScript object has. -/
def DistinctKeys : JsValue → Prop
  | .array items => DistinctItems items
  | .object _ members => (members.map (·.1)).Nodup ∧ DistinctMembers members
  | _ => True

def DistinctItems : List JsValue → Prop
  | [] => True
  | item :: items => DistinctKeys item ∧ DistinctItems items

def DistinctMembers : List (String × JsValue) → Prop
  | [] => True
  | (_, member) :: members => DistinctKeys member ∧ DistinctMembers members

end

mutual

/-- The values are equal up to the order of the members of their objects. -/
def SameValue : JsValue → JsValue → Prop
  | .null, .null => True
  | .bool a, .bool b => a = b
  | .string s, .string t => s = t
  | .number m, .number n => m = n
  | .array items, .array others => SameItems items others
  | .object _ members, .object _ others =>
    members.length = others.length ∧ SameMembers members others
  | _, _ => False

def SameItems : List JsValue → List JsValue → Prop
  | [], [] => True
  | v :: items, w :: others => SameValue v w ∧ SameItems items others
  | _, _ => False

/-- Every member of the first object is one of the second. -/
def SameMembers : List (String × JsValue) → List (String × JsValue) → Prop
  | [], _ => True
  | (key, member) :: members, others =>
    (∃ w, (key, w) ∈ others ∧ SameValue member w) ∧ SameMembers members others

end

lemma plain_distinct_of_mem {members : List (String × JsValue)} {entry : String × JsValue}
    (hplain : PlainMembers members) (hdistinct : DistinctMembers members) (h : entry ∈ members) :
    entry.2.Plain ∧ DistinctKeys entry.2 := by
  induction members with
  | nil => cases h
  | cons first members ih =>
    rcases List.mem_cons.mp h with rfl | h
    · exact ⟨hplain.1, hdistinct.1⟩
    · exact ih hplain.2 hdistinct.2 h

lemma jsSort_byKey_eq_iff {α : Type} {l l' : List (String × α)} (h : (l.map (·.1)).Nodup) :
    jsSort byKey l = jsSort byKey l' ↔ l.Perm l' := by
  constructor
  · intro heq
    exact (jsSort_perm byKey l).symm.trans (heq ▸ jsSort_perm byKey l')
  · intro hperm
    have hunits : (l.map fun entry => codeUnits entry.1).Nodup := by
      simpa [Function.comp_def] using h.map codeUnits_injective
    have horder : ∀ a b : String × α, byKey a b ≠ .gt ↔ codeUnits a.1 ≤ codeUnits b.1 :=
      fun _ _ => compareText_ne_gt
    exact (Scans.insertionSort_eq_of_perm (fun a _ b _ => horder a b) hunits hperm).symm

lemma perm_iff_subset {α : Type} {l l' : List α} (h : l.Nodup) :
    l.Perm l' ↔ l.length = l'.length ∧ l ⊆ l' := by
  constructor
  · intro hperm
    exact ⟨hperm.length_eq, hperm.subset⟩
  · rintro ⟨hlength, hsubset⟩
    exact (List.subperm_of_subset h hsubset).perm_of_length_le hlength.ge

/-- Two objects have one canonical form when each member of one has its canonical form in the
other. -/
lemma normal_object_eq_iff {kind kind' : Option String} {members others : List (String × JsValue)}
    (h : (members.map (·.1)).Nodup) :
    normal (.object kind members) = normal (.object kind' others) ↔
      members.length = others.length ∧ normalMembers members ⊆ normalMembers others := by
  have hkeys : ((normalMembers members).map (·.1)).Nodup := by
    rw [normalMembers_eq_map, List.map_map]
    exact h
  have hinj : Function.Injective fun entry : String × Json.Value => (entry.1.toList, entry.2) := by
    rintro ⟨key, v⟩ ⟨key', v'⟩ heq
    simpa [String.toList_inj] using heq
  rw [normal, normal, Json.Value.object.injEq, (List.map_injective_iff.mpr hinj).eq_iff,
    jsSort_byKey_eq_iff hkeys, perm_iff_subset (List.Nodup.of_map _ hkeys)]
  simp [normalMembers_eq_map, List.length_map]

mutual

/-- **The canonical form** tells values apart up to the order of members. -/
theorem normal_eq_iff : ∀ {v w : JsValue}, v.Plain → DistinctKeys v → w.Plain → DistinctKeys w →
    (normal v = normal w ↔ SameValue v w)
  | .null, w, _, _, hw, _ => by cases w <;> simp_all [normal, SameValue, Plain]
  | .bool _, w, _, _, hw, _ => by cases w <;> simp_all [normal, SameValue, Plain]
  | .string _, w, _, _, hw, _ => by
    cases w <;> simp_all [normal, SameValue, Plain, String.toList_inj]
  | .number _, w, _, _, hw, _ => by cases w <;> simp_all [normal, SameValue, Plain]
  | .array items, w, h, hd, hw, hd' => by
    cases w with
    | array others =>
      rw [normal, normal, Json.Value.array.injEq, SameValue, normalItems_eq_iff h hd hw hd']
    | _ => simp_all [normal, SameValue, Plain]
  | .object _ members, w, h, hd, hw, hd' => by
    cases w with
    | object _ others =>
      rw [normal_object_eq_iff hd.1, normalMembers_subset_iff h.2 hd.2 hw.2 hd'.2, SameValue]
    | _ => simp_all [normal, SameValue, Plain]

theorem normalItems_eq_iff : ∀ {items others : List JsValue}, PlainItems items →
    DistinctItems items → PlainItems others → DistinctItems others →
    (normalItems items = normalItems others ↔ SameItems items others)
  | [], [], _, _, _, _ => by simp [SameItems]
  | [], _ :: _, _, _, _, _ => by simp [normalItems, SameItems]
  | _ :: _, [], _, _, _, _ => by simp [normalItems, SameItems]
  | _ :: _, _ :: _, h, hd, hw, hd' => by
    rw [normalItems, normalItems, List.cons.injEq, normal_eq_iff h.1 hd.1 hw.1 hd'.1,
      normalItems_eq_iff h.2 hd.2 hw.2 hd'.2, SameItems]

theorem normalMembers_subset_iff : ∀ {members others : List (String × JsValue)},
    PlainMembers members → DistinctMembers members → PlainMembers others → DistinctMembers others →
    (normalMembers members ⊆ normalMembers others ↔ SameMembers members others)
  | [], _, _, _, _, _ => by simp [normalMembers, SameMembers]
  | (key, member) :: members, others, h, hd, hw, hd' => by
    have hmember : ∀ w, (key, w) ∈ others → (normal member = normal w ↔ SameValue member w) := by
      intro w hw'
      obtain ⟨hplain, hdistinct⟩ := plain_distinct_of_mem hw hd' hw'
      exact normal_eq_iff h.1 hd.1 hplain hdistinct
    rw [normalMembers, List.cons_subset, normalMembers_subset_iff h.2 hd.2 hw hd', SameMembers,
      and_congr_left_iff]
    intro _
    rw [normalMembers_eq_map, List.mem_map]
    constructor
    · rintro ⟨⟨_, w⟩, hw', heq⟩
      obtain ⟨rfl, hvalue⟩ := Prod.mk.inj heq
      exact ⟨w, hw', (hmember w hw').mp hvalue.symm⟩
    · rintro ⟨w, hw', hsame⟩
      exact ⟨(key, w), hw', by rw [(hmember w hw').mpr hsame]⟩

end

variable {a b : JsValue}

/-- **Canonical JSON.** Every value that the validation admits has a canonical text, and two of them
have the same one exactly when they are equal up to the order of members. -/
theorem canonicalJson_eq_iff (ha : validateSnapshotShape a "" = .ok ()) (hda : DistinctKeys a)
    (hb : validateSnapshotShape b "" = .ok ()) (hdb : DistinctKeys b) :
    (∃ text, canonicalJson a = .ok text) ∧ (canonicalJson a = canonicalJson b ↔ SameValue a b) := by
  obtain ⟨hplain, -⟩ := validateSnapshotShape_eq_ok.mp ha
  obtain ⟨hplain', -⟩ := validateSnapshotShape_eq_ok.mp hb
  have htext : ∀ {v : JsValue}, v.Plain →
      canonicalJson v = .ok (String.ofList (Json.print (normal v))) := by
    intro v hv
    rw [canonicalJson, canonicalValue_eq_ok (printable_of_plain hv).1]
    rfl
  refine ⟨⟨_, htext hplain⟩, ?_⟩
  rw [htext hplain, htext hplain', Except.ok.injEq, String.ofList_inj,
    Json.print_injective.eq_iff, normal_eq_iff hplain hda hplain' hdb]

theorem canonicalJson_eq_iff_swapped :
    canonicalJson (.object none [("b", .null), ("a", .array [.bool true])]) =
        canonicalJson (.object none [("a", .array [.bool true]), ("b", .null)]) ↔
      SameValue (.object none [("b", .null), ("a", .array [.bool true])])
        (.object none [("a", .array [.bool true]), ("b", .null)]) :=
  (canonicalJson_eq_iff rfl (by simp [DistinctKeys, DistinctMembers, DistinctItems]) rfl
    (by simp [DistinctKeys, DistinctMembers, DistinctItems])).2

/-! ## The canonical form of a record -/

def InOrder (keys : List String) : Prop := keys.Pairwise fun a b => compareText a b ≠ .gt
  deriving Decidable

lemma normal_object {kind : Option String} {members : List (String × JsValue)} {keys : List String}
    (h : InOrder keys) (hkeys : members.map (·.1) = keys) :
    normal (.object kind members) =
      .object (members.map fun entry => (entry.1.toList, normal entry.2)) := by
  subst hkeys
  have hsorted : jsSort byKey (normalMembers members) = normalMembers members := by
    apply List.Pairwise.insertionSort_eq
    rw [normalMembers_eq_map, List.pairwise_map]
    exact List.pairwise_map.mp h
  rw [normal, hsorted, normalMembers_eq_map, List.map_map]
  rfl

lemma toString_actorKind_inj {a b : AuditActorKind} (h : toString a = toString b) : a = b := by
  revert h
  cases a <;> cases b <;> decide

lemma toString_action_inj {a b : AuditAction} (h : toString a = toString b) : a = b := by
  revert h
  cases a <;> cases b <;> decide

lemma normal_optional_inj {α : Type} {f : α → JsValue}
    (hf : ∀ a b, normal (f a) = normal (f b) → a = b) (hnull : ∀ a, normal (f a) ≠ .null)
    {a b : Option α}
    (h : normal ((a.map f).getD .null) = normal ((b.map f).getD .null)) : a = b := by
  cases a with
  | none => cases b with
    | none => rfl
    | some b => exact absurd h.symm (hnull b)
  | some a => cases b with
    | none => exact absurd h (hnull a)
    | some b => rw [hf a b h]

lemma normal_string_inj {a b : String} (h : normal (.string a) = normal (.string b)) : a = b := by
  simpa [normal, String.toList_inj] using h

lemma normal_optionText_inj {a b : Option String}
    (h : normal (optionText a) = normal (optionText b)) : a = b := by
  have htext : ∀ o, optionText o = (o.map .string).getD .null := by rintro (_ | _) <;> rfl
  rw [htext, htext] at h
  exact normal_optional_inj (fun _ _ => normal_string_inj) nofun h

lemma normal_actor_inj {a b : AuditActor} (h : normal a.toValue = normal b.toValue) : a = b := by
  have hkeys : InOrder ["id", "kind", "orgId"] := by decide
  have hactor : ∀ actor : AuditActor, normal actor.toValue = _ := fun _ => normal_object hkeys rfl
  rw [hactor, hactor] at h
  simp only [List.map_cons, List.map_nil, normal, Json.Value.object.injEq, List.cons.injEq,
    Prod.mk.injEq, Json.Value.string.injEq, String.toList_inj, true_and, and_true] at h
  obtain ⟨hid, hkind, horg⟩ := h
  cases a
  cases b
  simp only at hid hkind horg
  rw [hid, toString_actorKind_inj hkind, normal_optionText_inj horg]

lemma normal_approval_inj {a b : AuditApproval} (h : normal a.toValue = normal b.toValue) :
    a = b := by
  have hkeys : InOrder ["approverId", "decidedAt", "ref"] := by decide
  have happroval : ∀ approval : AuditApproval, normal approval.toValue = _ :=
    fun _ => normal_object hkeys rfl
  rw [happroval, happroval] at h
  simp only [List.map_cons, List.map_nil, normal, Json.Value.object.injEq, List.cons.injEq,
    Prod.mk.injEq, Json.Value.string.injEq, String.toList_inj, true_and, and_true] at h
  obtain ⟨happrover, hdecided, href⟩ := h
  cases a
  cases b
  simp only at happrover hdecided href
  rw [href, normal_optionText_inj happrover, normal_optionText_inj hdecided]

lemma normal_aiContext_inj {a b : AuditAiContext} (h : normal a.toValue = normal b.toValue) :
    a = b := by
  have hkeys : InOrder ["agentKind", "evidenceRefs"] := by decide
  have hai : ∀ ai : AuditAiContext, normal ai.toValue = _ := fun _ => normal_object hkeys rfl
  rw [hai, hai] at h
  simp only [List.map_cons, List.map_nil, normal, normalItems_eq_map, List.map_map,
    Json.Value.object.injEq, List.cons.injEq, Prod.mk.injEq, Json.Value.string.injEq,
    Json.Value.array.injEq, String.toList_inj, true_and, and_true] at h
  obtain ⟨hkind, hrefs⟩ := h
  have hinj : Function.Injective (normal ∘ JsValue.string) := fun _ _ => normal_string_inj
  cases a
  cases b
  simp only at hkind hrefs
  rw [hkind, List.map_injective_iff.mpr hinj hrefs]

def recordKeys : List String :=
  ["action", "actor", "aiContext", "approval", "auditId", "correlationId", "entityId", "entityType",
    "ip", "newState", "occurredAt", "orgId", "prevRecordHash", "previousState", "reason",
    "requestId", "userAgent"]

lemma inOrder_recordKeys : InOrder recordKeys := by decide

variable {r s : AuditRecord}

lemma normal_chained_inj (h : normal r.chained = normal s.chained) :
    ({ r with previousState := .null, newState := .null, recordHash := "" } : AuditRecord) =
        { s with previousState := .null, newState := .null, recordHash := "" } ∧
      normal r.previousState = normal s.previousState ∧ normal r.newState = normal s.newState := by
  have hrecord : ∀ r : AuditRecord, normal r.chained = _ :=
    fun _ => normal_object inOrder_recordKeys rfl
  rw [hrecord, hrecord] at h
  simp only [List.map_cons, List.map_nil, Json.Value.object.injEq, List.cons.injEq,
    Prod.mk.injEq, true_and, and_true] at h
  obtain ⟨haction, hactor, hai, happroval, hid, hcorrelation, hentityId, hentityType, hip, hnew,
    hat, horg, hprev, hprevious, hreason, hrequest, hagent⟩ := h
  have hai' := normal_optional_inj (fun _ _ => normal_aiContext_inj)
    (by intro a; simp [AuditAiContext.toValue, normal]) hai
  have happroval' := normal_optional_inj (fun _ _ => normal_approval_inj)
    (by intro a; simp [AuditApproval.toValue, normal]) happroval
  obtain ⟨⟨_, _, _, _, _, _, _, _, _, _, _, _, _, _, _, _⟩, _, _⟩ := r
  obtain ⟨⟨_, _, _, _, _, _, _, _, _, _, _, _, _, _, _, _⟩, _, _⟩ := s
  simp only at *
  rw [toString_action_inj (normal_string_inj haction), normal_actor_inj hactor, hai', happroval',
    normal_string_inj hid, normal_optionText_inj hcorrelation, normal_string_inj hentityId,
    normal_string_inj hentityType, normal_optionText_inj hip, normal_string_inj hat,
    normal_string_inj horg, normal_optionText_inj hprev, normal_optionText_inj hreason,
    normal_string_inj hrequest, normal_optionText_inj hagent]
  exact ⟨rfl, hprevious, hnew⟩

/-! ## The hashed text -/

def redactRecord (r : AuditRecord) : AuditRecord :=
  { r with previousState := redact r.previousState, newState := redact r.newState }

def hashedText (r : AuditRecord) : String :=
  r.prevRecordHash.getD GENESIS_PREV_HASH ++
    String.ofList (Json.print (normal (redactRecord r).chained))

/-- What the text of a record is made from: every field but the hash, the snapshots redacted and in
their canonical form. -/
def content (r : AuditRecord) : AuditRecord × Json.Value × Json.Value :=
  ({ r with previousState := .null, newState := .null, recordHash := "" },
    normal (redact r.previousState), normal (redact r.newState))

lemma hashedText_eq_of_content_eq (h : content r = content s) : hashedText r = hashedText s := by
  simp only [content, Prod.mk.injEq, AuditRecord.mk.injEq, AuditDraft.mk.injEq] at h
  obtain ⟨⟨⟨hid, horg, hactor, haction, htype, hentity, hat, hrequest, hcorrelation, hip, hagent, -,
    -, hreason, happroval, hai⟩, hprev, -⟩, hprevious, hnew⟩ := h
  have hrecord : ∀ r : AuditRecord, normal r.chained = _ :=
    fun _ => normal_object inOrder_recordKeys rfl
  rw [hashedText, hashedText, hrecord, hrecord]
  simp [redactRecord, List.map_cons, List.map_nil, hid, horg, hactor, haction, htype, hentity,
    hat, hrequest, hcorrelation, hip, hagent, hreason, happroval, hai, hprev, hprevious, hnew]

/-- **The hashed text determines the content.** The canonical text of a record starts with the key
`action`, so nothing in front of it can be part of it (`Json.append_object_inj`). -/
theorem hashedText_inj (h : hashedText r = hashedText s) :
    content r = content s ∧ r.prevRecordHash = s.prevRecordHash := by
  have hrecord : ∀ r : AuditRecord, ∃ first members,
      normal (redactRecord r).chained = .object (("action".toList, first) :: members) := by
    intro r
    exact ⟨_, _, normal_object inOrder_recordKeys rfl⟩
  obtain ⟨first, members, hr⟩ := hrecord r
  obtain ⟨first', members', hs⟩ := hrecord s
  have hkey : Json.quote "action".toList = '"' :: 'a' :: Json.quoteTail "ction".toList := rfl
  have htext := congrArg String.toList h
  simp only [hashedText, String.toList_append, String.toList_ofList, hr, hs] at htext
  obtain ⟨-, htree⟩ := Json.append_object_inj hkey rfl hkey rfl htext
  rw [← hr, ← hs] at htree
  obtain ⟨hfields, hprevious, hnew⟩ := normal_chained_inj htree
  have hcontent : content r = content s := Prod.ext hfields (Prod.ext hprevious hnew)
  refine ⟨hcontent, ?_⟩
  have hprev := congrArg AuditRecord.prevRecordHash hfields
  exact hprev

end Fuatilia.Audit
