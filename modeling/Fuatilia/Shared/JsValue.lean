import Fuatilia.Foundations.Json
import Fuatilia.Shared.Primitives

/-!
# Values of unknown shape

Event payloads and audit snapshots are any JavaScript values. Both are walked by a guard that admits
what a JSON text can carry without loss, nested at most 24 deep. The guards differ only in their
texts and in one check of object members.

## Main definitions

* `JsValue`, `checkShape` — the values, and the one walk, with the texts as a parameter.
* `Plain`, `nesting` — the values that a JSON text carries, and their depth.

## Main results

* `checkShape_eq_ok` — which values pass.

## Implementation notes

A finite number is given by its rendering `String(x)`, which is a JSON literal and tells finite
numbers apart except `0` and `-0`. A reference to an enclosing object, the only way a value can be
infinite, is a leaf.
-/

namespace Fuatilia

open Fallible

/-- What `typeof` gives for the values that no JSON text stands for. -/
inductive JsType where
  | undefined | bigint | function | symbol

instance : ToString JsType where
  toString
    | .undefined => "undefined"
    | .bigint => "bigint"
    | .function => "function"
    | .symbol => "symbol"

inductive JsValue where
  | null
  | bool (b : Bool)
  | string (s : String)
  /-- A finite number, by its rendering `String(x)`. -/
  | number (n : Json.Literal)
  /-- `NaN` or an infinity, with its rendering. -/
  | nonFinite (text : String)
  | other (type : JsType)
  | array (items : List JsValue)
  /-- An object with its own members in order. `kind` is `none` when the prototype is
  `Object.prototype` or `null`, and otherwise the name of the constructor. -/
  | object (kind : Option String) (members : List (String × JsValue))
  /-- A reference to an object that encloses this value. -/
  | circular

namespace JsValue

def typeOf : JsValue → String
  | bool _ => "boolean"
  | string _ => "string"
  | number _ | nonFinite _ => "number"
  | other type => toString type
  | null | array _ | object _ _ | circular => "object"

/-! ## The walk -/

def memberPath (path key : String) : String := if path = "" then key else s!"{path}.{key}"

structure ShapeTexts where
  maxDepth : ℕ
  error : (path why : String) → Thrown
  nonFinite : (text : String) → String
  other : JsType → String
  instances : (kind : String) → String
  /-- The text for a member that is `undefined`, when members are checked for it first. -/
  undefinedMember : Option String

variable (t : ShapeTexts)

def checkDepth (path : String) (depth : ℕ) : Except Thrown Unit :=
  throwIf (t.maxDepth < depth) (t.error path s!"nesting exceeds {t.maxDepth} levels")

def checkMember (path : String) : JsValue → Except Thrown Unit
  | .other .undefined => match t.undefinedMember with
    | some why => .error (t.error path why)
    | none => .ok ()
  | _ => .ok ()

mutual

def checkShape (path : String) (depth : ℕ) : JsValue → Except Thrown Unit
  | .null | .bool _ | .string _ | .number _ => checkDepth t path depth
  | .nonFinite text => do
    checkDepth t path depth
    throw (t.error path (t.nonFinite text))
  | .other type => do
    checkDepth t path depth
    throw (t.error path (t.other type))
  | .circular => do
    checkDepth t path depth
    throw (t.error path "circular reference")
  | .array items => do
    checkDepth t path depth
    checkItems path depth 0 items
  | .object none members => do
    checkDepth t path depth
    checkMembers path depth members
  | .object (some kind) _ => do
    checkDepth t path depth
    throw (t.error path (t.instances kind))

def checkItems (path : String) (depth index : ℕ) : List JsValue → Except Thrown Unit
  | [] => .ok ()
  | item :: items => do
    checkShape s!"{path}[{index}]" (depth + 1) item
    checkItems path depth (index + 1) items

def checkMembers (path : String) (depth : ℕ) : List (String × JsValue) → Except Thrown Unit
  | [] => .ok ()
  | (key, member) :: members => do
    checkMember t (memberPath path key) member
    checkShape (memberPath path key) (depth + 1) member
    checkMembers path depth members

end

/-! ## What the walk admits -/

mutual

def Plain : JsValue → Prop
  | .null | .bool _ | .string _ | .number _ => True
  | .nonFinite _ | .other _ | .circular => False
  | .array items => PlainItems items
  | .object kind members => kind = none ∧ PlainMembers members

def PlainItems : List JsValue → Prop
  | [] => True
  | item :: items => Plain item ∧ PlainItems items

def PlainMembers : List (String × JsValue) → Prop
  | [] => True
  | (_, member) :: members => Plain member ∧ PlainMembers members

end

mutual

def nesting : JsValue → ℕ
  | .array items => nestingItems items
  | .object _ members => nestingMembers members
  | _ => 0

def nestingItems : List JsValue → ℕ
  | [] => 0
  | item :: items => max (nesting item + 1) (nestingItems items)

def nestingMembers : List (String × JsValue) → ℕ
  | [] => 0
  | (_, member) :: members => max (nesting member + 1) (nestingMembers members)

end

lemma plainItems_iff {items : List JsValue} : PlainItems items ↔ ∀ item ∈ items, item.Plain := by
  induction items with
  | nil => simp [PlainItems]
  | cons item items ih => simp [PlainItems, ih]

lemma plainMembers_iff {members : List (String × JsValue)} :
    PlainMembers members ↔ ∀ entry ∈ members, entry.2.Plain := by
  induction members with
  | nil => simp [PlainMembers]
  | cons entry members ih => simp [PlainMembers, ih]

@[simp] lemma checkDepth_eq_ok {path : String} {depth : ℕ} :
    checkDepth t path depth = .ok () ↔ depth ≤ t.maxDepth := by
  rw [checkDepth, throwIf_eq_ok, not_lt]

lemma checkMember_of_plain (path : String) {member : JsValue} (h : member.Plain) :
    checkMember t path member = .ok () := by
  cases member with
  | other type => exact absurd h (by simp [Plain])
  | _ => rfl

mutual

/-- **What the walk admits**: the plain values that are not nested too deep. -/
theorem checkShape_eq_ok : ∀ (path : String) (depth : ℕ) (v : JsValue),
    checkShape t path depth v = .ok () ↔ v.Plain ∧ depth + v.nesting ≤ t.maxDepth
  | path, depth, .null => by simp [checkShape, Plain, nesting]
  | path, depth, .bool _ => by simp [checkShape, Plain, nesting]
  | path, depth, .string _ => by simp [checkShape, Plain, nesting]
  | path, depth, .number _ => by simp [checkShape, Plain, nesting]
  | path, depth, .nonFinite _ => by simp [checkShape, Plain, seq_eq_ok]
  | path, depth, .other _ => by simp [checkShape, Plain, seq_eq_ok]
  | path, depth, .circular => by simp [checkShape, Plain, seq_eq_ok]
  | path, depth, .object (some _) _ => by simp [checkShape, Plain, seq_eq_ok]
  | path, depth, .array items => by
    simp only [checkShape, seq_eq_ok, checkDepth_eq_ok, Plain, nesting]
    constructor
    · rintro ⟨hdepth, hitems⟩
      exact (checkItems_eq_ok path depth 0 items hdepth).mp hitems
    · intro h
      have hdepth : depth ≤ t.maxDepth := by omega
      exact ⟨hdepth, (checkItems_eq_ok path depth 0 items hdepth).mpr h⟩
  | path, depth, .object none members => by
    simp only [checkShape, seq_eq_ok, checkDepth_eq_ok, Plain, nesting, true_and]
    constructor
    · rintro ⟨hdepth, hmembers⟩
      exact (checkMembers_eq_ok path depth members hdepth).mp hmembers
    · intro h
      have hdepth : depth ≤ t.maxDepth := by omega
      exact ⟨hdepth, (checkMembers_eq_ok path depth members hdepth).mpr h⟩

theorem checkItems_eq_ok : ∀ (path : String) (depth index : ℕ) (items : List JsValue),
    depth ≤ t.maxDepth → (checkItems t path depth index items = .ok () ↔
      PlainItems items ∧ depth + nestingItems items ≤ t.maxDepth)
  | path, depth, index, [], hdepth => by simp [checkItems, PlainItems, nestingItems, hdepth]
  | path, depth, index, item :: items, hdepth => by
    simp only [checkItems, seq_eq_ok, PlainItems, nestingItems]
    rw [checkShape_eq_ok, checkItems_eq_ok path depth (index + 1) items hdepth]
    constructor
    · rintro ⟨⟨hitem, h⟩, hitems, h'⟩
      exact ⟨⟨hitem, hitems⟩, by omega⟩
    · rintro ⟨⟨hitem, hitems⟩, h⟩
      exact ⟨⟨hitem, by omega⟩, hitems, by omega⟩

theorem checkMembers_eq_ok : ∀ (path : String) (depth : ℕ) (members : List (String × JsValue)),
    depth ≤ t.maxDepth → (checkMembers t path depth members = .ok () ↔
      PlainMembers members ∧ depth + nestingMembers members ≤ t.maxDepth)
  | path, depth, [], hdepth => by simp [checkMembers, PlainMembers, nestingMembers, hdepth]
  | path, depth, (key, member) :: members, hdepth => by
    simp only [checkMembers, seq_eq_ok, PlainMembers, nestingMembers]
    rw [checkShape_eq_ok, checkMembers_eq_ok path depth members hdepth]
    constructor
    · rintro ⟨-, ⟨hmember, h⟩, hmembers, h'⟩
      exact ⟨⟨hmember, hmembers⟩, by omega⟩
    · rintro ⟨⟨hmember, hmembers⟩, h⟩
      exact ⟨checkMember_of_plain t _ hmember, ⟨hmember, by omega⟩, hmembers, by omega⟩

end

end JsValue

end Fuatilia
