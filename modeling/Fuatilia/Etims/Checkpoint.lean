import Fuatilia.Shared.Primitives

/-!
# The sequence checkpoint

Invoice numbers are issued from contiguous bands of sequences that the tax authority granted.

## Main definitions

* `SequenceCheckpoint` — the year of the bands, the next sequence and the stack of bands.
* `validateCheckpoint` — the check of a checkpoint, which is loaded as untrusted data.
-/

namespace Fuatilia.Etims

open Fallible

structure SequenceBand where
  bandId : String
  fromSeq : ℤ
  toSeq : ℤ
  deriving DecidableEq

structure SequenceCheckpoint where
  year : ℤ
  next : ℤ
  bands : List SequenceBand
  deriving DecidableEq

def EMPTY_CHECKPOINT : SequenceCheckpoint := ⟨0, 0, []⟩

/-- What the store holds: nothing, a checkpoint of integers, or a value of another shape (not an
object, a field that is not an integer), with the complaint of the check about it. -/
inductive Stored where
  | absent
  | checkpoint (c : SequenceCheckpoint)
  | malformed (complaint : String)
  deriving DecidableEq

def ETIMS_MAX_SEQUENCE : ℤ := 99999999

def isGrantChar (c : Char) : Bool := c.isDigit || c.isUpper || c.isLower

/-- The pattern of band identifiers: a letter or digit, then 5 to 63 letters, digits or dashes. -/
def isBandId (id : String) : Bool :=
  match id.toList with
  | [] => false
  | c :: rest => isGrantChar c && 5 ≤ rest.length && rest.length ≤ 63 &&
      rest.all fun c => isGrantChar c || c == '-'

def checkpointInvalid (message : String) : Thrown := DomainError "ETIMS_CHECKPOINT_INVALID" message

def validateBand (p : SequenceBand × ℕ) : Except Thrown Unit := do
  let band := p.1
  throwIf (!isBandId band.bandId) (checkpointInvalid
    s!"bands[{p.2}].bandId must be 6–64 grant-id characters, got {band.bandId}")
  throwIf (band.fromSeq < 1 ∨ band.fromSeq > ETIMS_MAX_SEQUENCE) (checkpointInvalid
    s!"bands[{p.2}].from must be an integer in [1, {ETIMS_MAX_SEQUENCE}], got {band.fromSeq}")
  throwIf (band.toSeq < band.fromSeq ∨ band.toSeq > ETIMS_MAX_SEQUENCE) (checkpointInvalid
    (s!"bands[{p.2}].to must be an integer in [{band.fromSeq}, {ETIMS_MAX_SEQUENCE}], " ++
      s!"got {band.toSeq}"))

/-- The check that each band continues the one before; `i` is the position of the second one. -/
def validateContiguous (i : ℕ) : List SequenceBand → Except Thrown Unit
  | previous :: current :: rest => do
    throwIf (current.fromSeq ≠ previous.toSeq + 1) (checkpointInvalid
      (s!"band stack must be contiguous: bands[{i}].from {current.fromSeq} " ++
        s!"does not continue bands[{i - 1}].to {previous.toSeq}"))
    validateContiguous (i + 1) (current :: rest)
  | _ => .ok ()

def validateActive (c : SequenceCheckpoint) (active : SequenceBand) : Except Thrown Unit := do
  throwIf (c.year < 1000 ∨ c.year > 9999)
    (checkpointInvalid s!"checkpoint year must be a 4-digit year, got {c.year}")
  forM c.bands.zipIdx validateBand
  validateContiguous 1 c.bands
  throwIf (c.next < active.fromSeq ∨ c.next > active.toSeq + 1) (checkpointInvalid
    (s!"checkpoint next must fall within the active band [{active.fromSeq}, {active.toSeq + 1}], " ++
      s!"got {c.next}"))

def validateCheckpoint (raw : Stored) : Except Thrown SequenceCheckpoint :=
  match raw with
  | .absent => .ok EMPTY_CHECKPOINT
  | .malformed complaint => .error (checkpointInvalid complaint)
  | .checkpoint c =>
    match c.bands with
    | [] => do
      throwIf (c.year ≠ 0 ∨ c.next ≠ 0) (checkpointInvalid
        ("an empty band stack must carry year=0 next=0, got \x7b\"year\":" ++ toString c.year ++
          ",\"next\":" ++ toString c.next ++ "\x7d"))
      return EMPTY_CHECKPOINT
    | active :: _ => do
      validateActive c active
      return c

def stockOf (c : SequenceCheckpoint) : ℤ :=
  match c.bands.getLast? with
  | none => 0
  | some last => last.toSeq - c.next + 1

/-! ## What a loaded checkpoint satisfies -/

/-- The year and the next sequence that the store holds; zero when it holds no checkpoint. -/
def Stored.position : Stored → ℤ × ℤ
  | .checkpoint c => (c.year, c.next)
  | _ => (0, 0)

lemma validateCheckpoint_eq_ok {raw : Stored} {c : SequenceCheckpoint}
    (h : validateCheckpoint raw = .ok c) :
    (c.year, c.next) = raw.position ∧
    (c.year = 0 ∧ c.bands = [] ∨ 1000 ≤ c.year ∧ c.bands ≠ []) := by
  unfold validateCheckpoint at h
  split at h
  · cases h
    exact ⟨rfl, .inl ⟨rfl, rfl⟩⟩
  · cases h
  · rename_i c'
    split at h
    · simp only [ok_iff, not_or, not_not] at h
      obtain ⟨⟨hyear, hnext⟩, rfl⟩ := h
      exact ⟨by rw [Stored.position, hyear, hnext]; rfl, .inl ⟨rfl, rfl⟩⟩
    · rename_i active rest hbands
      simp only [validateActive, ok_iff, not_or] at h
      obtain ⟨_, ⟨⟨hyear, -⟩, -⟩, rfl⟩ := h
      refine ⟨rfl, .inr ⟨by omega, ?_⟩⟩
      rw [hbands]
      exact List.cons_ne_nil _ _

end Fuatilia.Etims
