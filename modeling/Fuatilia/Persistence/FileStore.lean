import Fuatilia.Foundations.Keyed
import Fuatilia.Foundations.Lists
import Fuatilia.Foundations.Machine
import Fuatilia.Shared.Primitives

/-!
# The file-backed store of the auth rows

A mutation changes its map in memory first and only then asks whether the store is writable, so a
refused mutation throws with its row already in the map: the next read returns it, although no
journal line will ever hold it.

## Main definitions

* `FileAuthStore`, `perform` — the maps with the queued journal lines, and the calls.

## Main results

* `refused_without_effect_iff` — when refused calls leave the reads as they were.

## Implementation notes

The rows are arbitrary types with an id. Loading and the journal file are not modelled: the state is
that between two turns of the promise queue.
-/

namespace Fuatilia.Persistence

open Machine

inductive RowKind where
  | user | role | grant | key | session
  deriving DecidableEq

variable {Row : RowKind → Type} {Event ε : Type} {rowId : (k : RowKind) → Row k → String}
  {k : RowKind}

/-! ## Maps in insertion order -/

/-- A `Map` from ids to rows: its values in insertion order, no two under one id. -/
structure RowMap (rowId : (k : RowKind) → Row k → String) (k : RowKind) where
  rows : List (Row k)
  nodup : (rows.map (rowId k)).Nodup

def RowMap.set (m : RowMap rowId k) (row : Row k) : RowMap rowId k where
  rows := if rowId k row ∈ m.rows.map (rowId k) then Keyed.put (rowId k) row m.rows
    else m.rows ++ [row]
  nodup := by
    split_ifs with hknown
    · rw [Keyed.map_key_put]
      exact m.nodup
    · exact Lists.nodup_map_concat m.nodup hknown

lemma RowMap.mem_set (m : RowMap rowId k) (row : Row k) : row ∈ (m.set row).rows := by
  simp only [RowMap.set]
  split_ifs with hknown
  · obtain ⟨x, hx, hid⟩ := List.mem_map.mp hknown
    exact List.mem_map.mpr ⟨x, hx, if_pos hid⟩
  · simp

lemma RowMap.rows_set_eq_iff (m : RowMap rowId k) (row : Row k) :
    (m.set row).rows = m.rows ↔ row ∈ m.rows := by
  refine ⟨fun h => h ▸ m.mem_set row, fun h => ?_⟩
  simp only [RowMap.set]
  rw [if_pos (List.mem_map_of_mem h), Keyed.put_self m.nodup h]

/-! ## The store -/

inductive Line (Row : RowKind → Type) (Event : Type) where
  | row (k : RowKind) (row : Row k) (at_ : String)
  | event (event : Event) (at_ : String)

/-- What a mutation throws; `failure` is the error of the first failed journal write. -/
inductive StoreError (ε : Type) where
  | error (message : String)
  | failure (error : ε)
  | thrown (error : Thrown)
  deriving DecidableEq

structure FileAuthStore (rowId : (k : RowKind) → Row k → String) (Event ε : Type) where
  rows : (k : RowKind) → RowMap rowId k
  eventLog : List Event
  tail : List (Line Row Event)
  failure : Option ε
  booted : Bool

namespace FileAuthStore

variable (s t : FileAuthStore rowId Event ε)

def users : List (Row .user) := (s.rows .user).rows
def roles : List (Row .role) := (s.rows .role).rows
def grants : List (Row .grant) := (s.rows .grant).rows
def keys : List (Row .key) := (s.rows .key).rows
def sessions : List (Row .session) := (s.rows .session).rows
def events : List Event := s.eventLog

structure SameReads : Prop where
  users : s.users = t.users
  roles : s.roles = t.roles
  grants : s.grants = t.grants
  keys : s.keys = t.keys
  sessions : s.sessions = t.sessions
  events : s.events = t.events

def assertWritable : Except (StoreError ε) Unit :=
  if !s.booted then .error (.error
    "FileAuthStore is not loaded — call load() before the first mutation (boot replays the journal)")
  else match s.failure with
    | some error => .error (.failure error)
    | none => .ok ()

/-- Queue a journal line. The store that is returned with an error is the one as it was: what the
caller changed before stays. -/
def enqueue (line : String → Line Row Event) (clock : Clock) :
    FileAuthStore rowId Event ε × Except (StoreError ε) Unit :=
  match s.assertWritable with
  | .error error => (s, .error error)
  | .ok _ => match (clock.now 0).toISOString with
    | .error error => (s, .error (.thrown error))
    | .ok at_ => ({ s with tail := s.tail ++ [line at_] }, .ok ())

/-- The five `save*` functions: the map first, then the journal. -/
def save (k : RowKind) (row : Row k) (clock : Clock) :
    FileAuthStore rowId Event ε × Except (StoreError ε) Unit :=
  enqueue { s with rows := Function.update s.rows k ((s.rows k).set row) } (.row k row) clock

def saveUser := s.save .user
def saveRole := s.save .role
def saveGrant := s.save .grant
def saveKey := s.save .key
def saveSession := s.save .session

def record (event : Event) (clock : Clock) :
    FileAuthStore rowId Event ε × Except (StoreError ε) Unit :=
  enqueue { s with eventLog := s.eventLog ++ [event] } (.event event) clock

end FileAuthStore

/-! ## Calls -/

inductive Call (Row : RowKind → Type) (Event : Type) where
  | save (k : RowKind) (row : Row k) (clock : Clock)
  | record (event : Event) (clock : Clock)

variable {s t : FileAuthStore rowId Event ε} {c : Call Row Event} {e : StoreError ε}

def perform (s : FileAuthStore rowId Event ε) :
    Call Row Event → FileAuthStore rowId Event ε × Except (StoreError ε) Unit
  | .save k row clock => s.save k row clock
  | .record event clock => s.record event clock

def callStep (s : FileAuthStore rowId Event ε) (c : Call Row Event) :
    Option (FileAuthStore rowId Event ε) := some (perform s c).1

def Kept (s : FileAuthStore rowId Event ε) : Call Row Event → Prop
  | .save k row _ => row ∈ (s.rows k).rows
  | .record _ _ => False

lemma FileAuthStore.sameReads_iff :
    s.SameReads t ↔ (∀ k, (s.rows k).rows = (t.rows k).rows) ∧ s.eventLog = t.eventLog := by
  refine ⟨fun h => ⟨fun k => ?_, h.events⟩, fun h => ⟨h.1 _, h.1 _, h.1 _, h.1 _, h.1 _, h.2⟩⟩
  cases k with
  | user => exact h.users
  | role => exact h.roles
  | grant => exact h.grants
  | key => exact h.keys
  | session => exact h.sessions

lemma FileAuthStore.enqueue_frame (line : String → Line Row Event) (clock : Clock) :
    (s.enqueue line clock).1.rows = s.rows ∧ (s.enqueue line clock).1.eventLog = s.eventLog ∧
      (s.enqueue line clock).1.assertWritable = s.assertWritable := by
  unfold enqueue
  split
  · exact ⟨rfl, rfl, rfl⟩
  · split <;> exact ⟨rfl, rfl, rfl⟩

lemma FileAuthStore.enqueue_refused (h : s.assertWritable = .error e)
    (line : String → Line Row Event) (clock : Clock) : s.enqueue line clock = (s, .error e) := by
  unfold enqueue
  rw [h]

lemma perform_refused (h : s.assertWritable = .error e) (c : Call Row Event) :
    (perform s c).2 = .error e ∧ (perform s c).1.assertWritable = .error e := by
  cases c with
  | save k row clock | record event clock =>
    refine ⟨?_, (FileAuthStore.enqueue_frame _ clock).2.2.trans h⟩
    simp only [perform, FileAuthStore.save, FileAuthStore.record]
    rw [FileAuthStore.enqueue_refused (e := e)]
    exact h

/-- **One call.** It leaves every read as it was exactly when it saves a row the store holds. -/
lemma sameReads_perform_iff : (perform s c).1.SameReads s ↔ Kept s c := by
  rw [FileAuthStore.sameReads_iff]
  cases c with
  | save k row clock =>
    obtain ⟨hrows, hevents, -⟩ := FileAuthStore.enqueue_frame
      (s := { s with rows := Function.update s.rows k ((s.rows k).set row) }) (.row k row) clock
    simp only [perform, FileAuthStore.save, hrows, hevents, and_true, Kept]
    rw [← (s.rows k).rows_set_eq_iff row]
    refine ⟨fun h => by simpa using h k, fun h j => ?_⟩
    by_cases hj : j = k
    · subst hj
      simpa using h
    · simp [hj]
  | record event clock =>
    obtain ⟨-, hevents, -⟩ := FileAuthStore.enqueue_frame
      (s := { s with eventLog := s.eventLog ++ [event] }) (.event event) clock
    simp [perform, FileAuthStore.record, hevents, Kept]

/-- **Refused mutations have no effect, exactly under the condition.** On a store that is not
writable, every call is refused, and the reads stay what they were after each of them if and only if
every call saves a row as the store holds it. -/
theorem refused_without_effect_iff (h : s.assertWritable = .error e)
    (calls : List (Call Row Event)) :
    (∀ n c, (perform (run callStep s (calls.take n)) c).2 = .error e) ∧
      ((∀ n, (run callStep s (calls.take n)).SameReads s) ↔ Meets callStep Kept s calls) := by
  have hrefused : ∀ n, (run callStep s (calls.take n)).assertWritable = .error e := by
    intro n
    refine run_invariant_all (I := fun t => t.assertWritable = .error e) ?_ _ s h
    rintro t c _ ht ⟨⟩
    exact (perform_refused ht c).2
  refine ⟨fun n c => (perform_refused (hrefused n) c).1, ?_⟩
  refine forall_run_iff_meets (I := fun t => t.SameReads s) (P := fun t => t.SameReads s)
    (fun t ht => ht) ?_ ?_ ?_ calls s ⟨rfl, rfl, rfl, rfl, rfl, rfl⟩
  · rintro t c _ ht ⟨⟩ hkept
    rw [FileAuthStore.sameReads_iff] at ht ⊢
    have hsame := FileAuthStore.sameReads_iff.mp (sameReads_perform_iff.mpr hkept)
    exact ⟨fun k => (hsame.1 k).trans (ht.1 k), hsame.2.trans ht.2⟩
  · rintro t c _ ht ⟨⟩ hafter
    rw [FileAuthStore.sameReads_iff] at ht hafter
    exact sameReads_perform_iff.mp (FileAuthStore.sameReads_iff.mpr
      ⟨fun k => (hafter.1 k).trans (ht.1 k).symm, hafter.2.trans ht.2.symm⟩)
  · -- a refused call is a step too, so no step is missing
    rintro t c ⟨⟩

def sampleStore (booted : Bool) : @FileAuthStore (fun _ => String)
    (fun _ row => row) String Unit where
  rows := fun _ => ⟨["ann"], List.nodup_singleton _⟩
  eventLog := []
  tail := []
  failure := some ()
  booted := booted

/-- After a failed journal write, saving the stored user once more is refused without effect. -/
theorem refused_without_effect_again :
    (sampleStore true).assertWritable = .error (.failure ()) ∧
      ∀ n, (run callStep (sampleStore true)
        ([.save .user "ann" (pinnedClock (.ofTime 0))].take n)).SameReads (sampleStore true) :=
  ⟨rfl, (refused_without_effect_iff rfl _).2.mpr ⟨List.mem_singleton.mpr rfl, trivial⟩⟩

/-- **A refused user is served.** Before `load`, `saveUser` throws, and `users` returns the user. -/
theorem refused_user_listed :
    let store := sampleStore false
    let after := store.saveUser "ben" (pinnedClock (.ofTime 0))
    store.assertWritable ≠ .ok () ∧ store.users = ["ann"] ∧
      after.2 = store.assertWritable ∧ after.1.users = ["ann", "ben"] := by
  decide

end Fuatilia.Persistence
