import Fuatilia.Shared.JsValue

/-!
# Redaction of snapshots

Snapshots are validated and stripped of every member whose key names a credential, at any depth:
when a record is built, when it is stored and when a trail is verified.

## Main definitions

* `isForbiddenKey`, `redactSnapshot` — the keys, and the redaction.
* `Clean`, `Reaches` — values without such keys, and the leaves of a value.

## Main results

* `redactSnapshot_exact_iff` — redaction removes just these members, `__proto__` apart.

## Implementation notes

`out[key] = …` with the key `__proto__` sets the prototype of the copy: the member is lost, and the
copy is no longer plain if the value is an object. Lower case is taken of the characters whose lower
case has an ASCII letter: `A` to `Z`, the Kelvin sign and the dotted capital `I`.
-/

namespace Fuatilia.Audit

open Fallible JsValue

/-! ## Keys -/

def FORBIDDEN_KEYS : List String :=
  ["password", "secret", "token", "apikey", "authorization", "pin"]

/-- What is left of a character when a key is put in lower case and everything but `a` to `z` and
the digits is dropped. -/
def normalizeKeyChar (c : Char) : Option Char :=
  if c.isUpper then some c.toLower
  else if c.isLower || c.isDigit then some c
  else if c = '\u212A' then some 'k'
  else if c = '\u0130' then some 'i'
  else none

def includes (text word : List Char) : Bool := text.tails.any word.isPrefixOf

def isForbiddenKey (key : String) : Bool :=
  let normalized := key.toList.filterMap normalizeKeyChar
  FORBIDDEN_KEYS.any fun word => includes normalized word.toList

/-! ## Validation -/

def MAX_SNAPSHOT_DEPTH : ℕ := 24

def invalid (path why : String) : Thrown :=
  .domainError "AUDIT_SNAPSHOT_INVALID"
    (if path = "" then s!"snapshot: {why}" else s!"snapshot at \"{path}\": {why}")
    [("path", if path = "" then "(root)" else path)]

def snapshotTexts : ShapeTexts where
  maxDepth := MAX_SNAPSHOT_DEPTH
  error := invalid
  nonFinite text := s!"non-finite number {text} would not round-trip"
  other
    | .bigint => "bigint is not JSON-serializable — convert minor units to safe numbers first"
    | .undefined => "undefined is not JSON-serializable (silently dropped on the wire)"
    | type => s!"{type} is not JSON-serializable"
  instances kind :=
    s!"{kind} instances are not snapshot material — use ids, ISO strings and scalars"
  undefinedMember := some "undefined member (would be silently dropped)"

def validateSnapshotShape (value : JsValue) (path : String) : Except Thrown Unit :=
  value.checkShape snapshotTexts path 0

lemma validateSnapshotShape_eq_ok {value : JsValue} {path : String} :
    validateSnapshotShape value path = .ok () ↔
      value.Plain ∧ value.nesting ≤ MAX_SNAPSHOT_DEPTH := by
  rw [validateSnapshotShape, checkShape_eq_ok, zero_add]
  rfl

/-! ## Redaction -/

def isDropped (key : String) : Bool := isForbiddenKey key || key == "__proto__"

/-- The prototype that a member with the key `__proto__` gives to the copy. -/
def copyKind (members : List (String × JsValue)) : Option String :=
  match members.find? (·.1 == "__proto__") with
  | some (_, .object _ _) => some "Object"
  | some (_, .array _) => some "Array"
  | _ => none

mutual

def redact : JsValue → JsValue
  | .array items => .array (redactItems items)
  | .object _ members => .object (copyKind members) (redactMembers members)
  | .null => .null
  | .bool b => .bool b
  | .string s => .string s
  | .number n => .number n
  | .nonFinite text => .nonFinite text
  | .other type => .other type
  | .circular => .circular

def redactItems : List JsValue → List JsValue
  | [] => []
  | item :: items => redact item :: redactItems items

def redactMembers : List (String × JsValue) → List (String × JsValue)
  | [] => []
  | (key, member) :: members =>
    if isDropped key then redactMembers members
    else (key, redact member) :: redactMembers members

end

def redactSnapshot (value : JsValue) : Except Thrown JsValue := do
  validateSnapshotShape value ""
  return redact value

lemma redactSnapshot_eq_ok {value copy : JsValue} :
    redactSnapshot value = .ok copy ↔
      (value.Plain ∧ value.nesting ≤ MAX_SNAPSHOT_DEPTH) ∧ copy = redact value := by
  rw [redactSnapshot, seq_eq_ok, validateSnapshotShape_eq_ok, pure_eq_ok]

/-! ## Clean values -/

mutual

/-- No object of the value has a member that redaction drops, and every object is a plain one. -/
def Clean : JsValue → Prop
  | .array items => CleanItems items
  | .object kind members => kind = none ∧ CleanMembers members
  | _ => True

def CleanItems : List JsValue → Prop
  | [] => True
  | item :: items => Clean item ∧ CleanItems items

def CleanMembers : List (String × JsValue) → Prop
  | [] => True
  | (key, member) :: members => isDropped key = false ∧ Clean member ∧ CleanMembers members

end

lemma copyKind_of_clean {members : List (String × JsValue)} (h : CleanMembers members) :
    copyKind members = none := by
  have hfind : members.find? (·.1 == "__proto__") = none := by
    induction members with
    | nil => rfl
    | cons entry members ih =>
      obtain ⟨key, member⟩ := entry
      obtain ⟨hkey, -, hmembers⟩ := h
      have hne : (key == "__proto__") = false := by
        rw [isDropped, Bool.or_eq_false_iff] at hkey
        exact hkey.2
      rw [List.find?_cons_of_neg (by simpa using hne), ih hmembers]
  rw [copyKind, hfind]

mutual

theorem redact_of_clean : ∀ {v : JsValue}, Clean v → redact v = v
  | .null, _ => rfl
  | .bool _, _ => rfl
  | .string _, _ => rfl
  | .number _, _ => rfl
  | .nonFinite _, _ => rfl
  | .other _, _ => rfl
  | .circular, _ => rfl
  | .array items, h => by rw [redact, redactItems_of_clean h]
  | .object kind members, h => by
    obtain ⟨rfl, hmembers⟩ := h
    rw [redact, copyKind_of_clean hmembers, redactMembers_of_clean hmembers]

theorem redactItems_of_clean : ∀ {items : List JsValue}, CleanItems items →
    redactItems items = items
  | [], _ => rfl
  | item :: items, h => by rw [redactItems, redact_of_clean h.1, redactItems_of_clean h.2]

theorem redactMembers_of_clean : ∀ {members : List (String × JsValue)}, CleanMembers members →
    redactMembers members = members
  | [], _ => rfl
  | (key, member) :: members, h => by
    rw [redactMembers, if_neg (by rw [h.1]; decide), redact_of_clean h.2.1,
      redactMembers_of_clean h.2.2]

end

mutual

/-- What redaction gives is clean, unless a member set the prototype of a copy. -/
theorem clean_redact : ∀ {v : JsValue}, (redact v).Plain → Clean (redact v)
  | .null, _ => trivial
  | .bool _, _ => trivial
  | .string _, _ => trivial
  | .number _, _ => trivial
  | .nonFinite _, _ => trivial
  | .other _, _ => trivial
  | .circular, _ => trivial
  | .array _, h => cleanItems_redact h
  | .object _ _, h => ⟨h.1, cleanMembers_redact h.2⟩

theorem cleanItems_redact : ∀ {items : List JsValue}, PlainItems (redactItems items) →
    CleanItems (redactItems items)
  | [], _ => trivial
  | _ :: _, h => ⟨clean_redact h.1, cleanItems_redact h.2⟩

theorem cleanMembers_redact : ∀ {members : List (String × JsValue)},
    PlainMembers (redactMembers members) → CleanMembers (redactMembers members)
  | [], _ => trivial
  | (key, member) :: members, h => by
    rw [redactMembers] at h ⊢
    cases hkey : isDropped key with
    | true =>
      rw [hkey, if_pos rfl] at h
      rw [if_pos rfl]
      exact cleanMembers_redact h
    | false =>
      rw [hkey, if_neg (by decide)] at h
      rw [if_neg (by decide)]
      exact ⟨hkey, clean_redact h.1, cleanMembers_redact h.2⟩

end

/-! ## Paths -/

inductive PathStep where
  | index (i : ℕ)
  | key (name : String)

/-- The part of a value that a path leads to. -/
def Reaches : List PathStep → JsValue → JsValue → Prop
  | [], v, w => v = w
  | .index i :: path, .array items, w => ∃ item, items[i]? = some item ∧ Reaches path item w
  | .key k :: path, .object _ members, w => ∃ member, (k, member) ∈ members ∧ Reaches path member w
  | _ :: _, _, _ => False

def Allowed (path : List PathStep) : Prop := ∀ k, .key k ∈ path → isForbiddenKey k = false

def IsLeaf : JsValue → Prop
  | .array _ | .object _ _ => False
  | _ => True

lemma redactItems_eq_map (items : List JsValue) : redactItems items = items.map redact := by
  induction items with
  | nil => rfl
  | cons item items ih => rw [redactItems, ih, List.map_cons]

lemma mem_redactMembers {k : String} {copy : JsValue} {members : List (String × JsValue)} :
    (k, copy) ∈ redactMembers members ↔
      isDropped k = false ∧ ∃ member, (k, member) ∈ members ∧ redact member = copy := by
  induction members with
  | nil => simp [redactMembers]
  | cons entry members ih =>
    obtain ⟨key, first⟩ := entry
    rw [redactMembers]
    split_ifs with hkey
    · rw [ih]
      grind
    · simp only [List.mem_cons, ih]
      grind

/-- A path of the copy is a path of the value on which no key is dropped. -/
lemma reaches_redact {path : List PathStep} {v w : JsValue} : Reaches path (redact v) w ↔
    (∀ k, .key k ∈ path → isDropped k = false) ∧ ∃ u, Reaches path v u ∧ redact u = w := by
  induction path generalizing v with
  | nil => simp [Reaches]
  | cons step path ih =>
    cases step with
    | index i => cases v <;> simp [redact, Reaches, redactItems_eq_map, ih]; grind
    | key k => cases v <;> simp [redact, Reaches, mem_redactMembers, ih]; grind

lemma reaches_append {path rest : List PathStep} {v w : JsValue} :
    Reaches (path ++ rest) v w ↔ ∃ u, Reaches path v u ∧ Reaches rest u w := by
  induction path generalizing v with
  | nil => simp [Reaches]
  | cons step path ih =>
    cases step <;> cases v <;> simp only [List.cons_append, Reaches, ih] <;> grind

lemma plain_of_reaches {path : List PathStep} {v w : JsValue} (h : Reaches path v w)
    (hv : v.Plain) : w.Plain := by
  induction path generalizing v with
  | nil =>
    rw [← show v = w from h]
    exact hv
  | cons step path ih =>
    cases step <;> cases v <;> try exact h.elim
    · obtain ⟨item, hitem, hrest⟩ := h
      exact ih hrest (plainItems_iff.mp hv _ (List.mem_of_getElem? hitem))
    · obtain ⟨member, hmember, hrest⟩ := h
      exact ih hrest (plainMembers_iff.mp hv.2 _ hmember)

/-- No path without forbidden keys has the key `__proto__`. -/
def SetsNoPrototype (v : JsValue) : Prop :=
  ∀ path w, Reaches path v w → Allowed path → .key "__proto__" ∉ path

lemma SetsNoPrototype.cons {v w : JsValue} (h : SetsNoPrototype v) (step : PathStep)
    (hstep : Reaches [step] v w) (hallowed : Allowed [step]) : SetsNoPrototype w := by
  intro path u hu hpath hmem
  refine h (step :: path) u (reaches_append.mpr ⟨w, hstep, hu⟩) ?_ (List.mem_cons_of_mem _ hmem)
  intro k hk
  rcases List.mem_cons.mp hk with hk | hk
  · exact hallowed k (hk ▸ List.mem_singleton_self _)
  · exact hpath k hk

mutual

theorem plain_redact : ∀ {v : JsValue}, v.Plain → SetsNoPrototype v →
    (redact v).Plain ∧ (redact v).nesting ≤ v.nesting
  | .null, _, _ => ⟨trivial, le_rfl⟩
  | .bool _, _, _ => ⟨trivial, le_rfl⟩
  | .string _, _, _ => ⟨trivial, le_rfl⟩
  | .number _, _, _ => ⟨trivial, le_rfl⟩
  | .array items, h, hset => by
    refine plainItems_redact h fun item hitem => ?_
    obtain ⟨i, hi⟩ := List.mem_iff_getElem?.mp hitem
    exact hset.cons (.index i) ⟨item, hi, rfl⟩ (by simp [Allowed])
  | .object _ members, h, hset => by
    have hproto : ∀ entry ∈ members, entry.1 ≠ "__proto__" := by
      rintro ⟨_, member⟩ hmem rfl
      exact hset [.key "__proto__"] member ⟨member, hmem, rfl⟩ (by simp [Allowed]; decide) (by simp)
    have hkind : copyKind members = none := by
      rw [copyKind, List.find?_eq_none.mpr (by simpa using hproto)]
    have hmembers := plainMembers_redact h.2 fun entry hentry hkey =>
      hset.cons (.key entry.1) ⟨entry.2, hentry, rfl⟩
        (by simpa [Allowed, isDropped, hproto entry hentry] using hkey)
    exact ⟨⟨hkind, hmembers.1⟩, hmembers.2⟩

theorem plainItems_redact : ∀ {items : List JsValue}, PlainItems items →
    (∀ item ∈ items, SetsNoPrototype item) →
    PlainItems (redactItems items) ∧ nestingItems (redactItems items) ≤ nestingItems items
  | [], _, _ => ⟨trivial, le_rfl⟩
  | item :: items, h, hset => by
    have hitem := plain_redact h.1 (hset item List.mem_cons_self)
    have hitems := plainItems_redact h.2 fun item hmem => hset item (List.mem_cons_of_mem _ hmem)
    simp only [redactItems, PlainItems, nestingItems]
    exact ⟨⟨hitem.1, hitems.1⟩, max_le_max (by omega) hitems.2⟩

theorem plainMembers_redact : ∀ {members : List (String × JsValue)}, PlainMembers members →
    (∀ entry ∈ members, isDropped entry.1 = false → SetsNoPrototype entry.2) →
    PlainMembers (redactMembers members) ∧
      nestingMembers (redactMembers members) ≤ nestingMembers members
  | [], _, _ => ⟨trivial, le_rfl⟩
  | (key, member) :: members, h, hset => by
    have hmembers := plainMembers_redact h.2 fun entry hmem =>
      hset entry (List.mem_cons_of_mem _ hmem)
    rw [redactMembers]
    split_ifs with hkey
    · exact ⟨hmembers.1, le_max_of_le_right hmembers.2⟩
    · have hmember := plain_redact h.1 (hset _ List.mem_cons_self (by simpa using hkey))
      simp only [PlainMembers, nestingMembers]
      exact ⟨⟨hmember.1, hmembers.1⟩, max_le_max (by omega) hmembers.2⟩

end

variable {value copy : JsValue}

lemma redact_of_isLeaf (h : IsLeaf value) : redact value = value := by
  cases value <;> first | rfl | exact h.elim

/-- A member with the key `__proto__` is lost when it is a leaf; otherwise the copy is not plain. -/
lemma setsNoPrototype_of_preserved (hcopy : (redact value).Plain)
    (h : ∀ path leaf, Allowed path → IsLeaf leaf → Reaches path value leaf →
      Reaches path (redact value) leaf) : SetsNoPrototype value := by
  intro path w hreaches hallowed hmem
  obtain ⟨before, rest, rfl, hfirst⟩ := List.eq_append_cons_of_mem hmem
  obtain ⟨u, hu, hrest⟩ := reaches_append.mp hreaches
  have hbefore : ∀ k, .key k ∈ before → isDropped k = false := by
    intro k hk
    have hne : k ≠ "__proto__" := fun heq => hfirst (heq ▸ hk)
    simp [isDropped, hallowed k (List.mem_append_left _ hk), hne]
  cases u with
  | object kind members =>
    obtain ⟨member, hmember, -⟩ := hrest
    have hkind : copyKind members = none :=
      (plain_of_reaches (reaches_redact.mpr ⟨hbefore, _, hu, rfl⟩) hcopy).1
    cases hfind : members.find? (·.1 == "__proto__") with
    | none => simpa using List.find?_eq_none.mp hfind _ hmember
    | some entry =>
      obtain ⟨key, first⟩ := entry
      obtain rfl : key = "__proto__" := by simpa using List.find?_some hfind
      have hleaf : IsLeaf first := by
        rw [copyKind, hfind] at hkind
        cases first <;> trivial
      have hpath := h (before ++ [PathStep.key "__proto__"]) first
        (fun k hk => hallowed k (by simp at hk ⊢; tauto)) hleaf
        (reaches_append.mpr ⟨_, hu, first, List.mem_of_find?_eq_some hfind, rfl⟩)
      have hdropped := (reaches_redact.mp hpath).1 "__proto__" (by simp)
      simp [isDropped] at hdropped
  | _ => exact hrest.elim

/-- **Redaction.** The copy of a snapshot has no forbidden key at any depth. Redacting it again
leaves it as it is and every leaf under keys that are not forbidden is kept, exactly when none of
these keys is `__proto__`. -/
theorem redactSnapshot_exact_iff (h : redactSnapshot value = .ok copy) :
    (∀ path w, Reaches path copy w → Allowed path) ∧
      ((redactSnapshot copy = .ok copy ∧ ∀ path leaf, Allowed path → IsLeaf leaf →
          Reaches path value leaf → Reaches path copy leaf) ↔ SetsNoPrototype value) := by
  obtain ⟨⟨hplain, hnesting⟩, rfl⟩ := redactSnapshot_eq_ok.mp h
  refine ⟨fun path w hw k hk => ?_, fun ⟨hagain, hkept⟩ => ?_, fun hset => ⟨?_, ?_⟩⟩
  · have hkey := (reaches_redact.mp hw).1 k hk
    exact (Bool.or_eq_false_iff.mp hkey).1
  · exact setsNoPrototype_of_preserved (redactSnapshot_eq_ok.mp hagain).1.1 hkept
  · have hcopy := plain_redact hplain hset
    exact redactSnapshot_eq_ok.mpr ⟨⟨hcopy.1, hcopy.2.trans hnesting⟩,
      (redact_of_clean (clean_redact hcopy.1)).symm⟩
  · intro path leaf hallowed hleaf hreaches
    refine reaches_redact.mpr ⟨fun k hk => ?_, leaf, hreaches, redact_of_isLeaf hleaf⟩
    have hne : k ≠ "__proto__" := fun heq => hset path leaf hreaches hallowed (heq ▸ hk)
    simp [isDropped, hallowed k hk, hne]

theorem redactSnapshot_exact_iff_contact :
    redactSnapshot (.object none [("phone", .null), ("apiKey", .bool true)]) =
        .ok (.object none [("phone", .null)]) ∧
      ∀ path w, Reaches path (.object none [("phone", .null)]) w → Allowed path := by
  have hcopy : redactSnapshot (.object none [("phone", .null), ("apiKey", .bool true)]) =
      .ok (.object none [("phone", .null)]) := by rfl
  exact ⟨hcopy, (redactSnapshot_exact_iff hcopy).1⟩

/-- A leaf under the key `__proto__` is lost; an object under it makes a copy that is refused. -/
theorem prototype_member_lost :
    redactSnapshot (.object none [("__proto__", .null)]) = .ok (.object none []) ∧
      (∃ copy, redactSnapshot (.object none [("__proto__", .object none [])]) = .ok copy ∧
        redactSnapshot copy = .error (invalid ""
          "Object instances are not snapshot material — use ids, ISO strings and scalars")) :=
  ⟨rfl, _, rfl, rfl⟩

end Fuatilia.Audit
