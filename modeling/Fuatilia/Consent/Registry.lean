import Fuatilia.Foundations.Machine
import Fuatilia.Consent.Guard

/-!
# The consent registry

A grant appends a row, and a revocation appends a copy of a row with the moment of the revocation,
while the row itself is kept. Whether a consent is in force is computed from all rows.

## Main definitions

* `grantConsent`, `revokeConsent` — the commands.
* `Refuses`, `NoneInForce` — contact is refused, and no row of the registry is in force.

## Main results

* `revocation_effective_iff`, `kept_row_in_force` — when a revocation takes effect; the row that was
  revoked stays in force.
-/

namespace Fuatilia.Consent

open Fallible Machine

/-! ## The operations -/

structure GrantConsentArgs where
  id : Uuid
  customerId : Uuid
  channel : ConsentChannel
  purpose : ConsentPurpose

def assertRegistryClock (now : Date) : Except Thrown Unit :=
  throwIf (now = .invalid) (DomainError "CONSENT_CLOCK_INVALID" "clock returned an invalid Date")

def grantConsent (args : GrantConsentArgs) (existingGrants : List ConsentGrant) (clock : Clock) :
    Except Thrown ConsentGrant := do
  let grantedAt := clock.now 0
  assertRegistryClock grantedAt
  throwIf (existingGrants.any (·.id = args.id)) (.domainError "CONSENT_GRANT_ID_TAKEN"
    s!"grant id already registered: {args.id}" [("id", args.id)])
  match existingGrants.find? fun g => g.customerId = args.customerId && g.channel = args.channel &&
      g.purpose = args.purpose && isActiveAt g grantedAt with
  | some active =>
    let iso ← active.grantedAt.toISOString
    throw (.domainError "CONSENT_ALREADY_ACTIVE"
      s!"active {args.channel}/{args.purpose} grant already exists for customer {args.customerId}"
      [("grantId", active.id), ("grantedAt", iso)])
  | none => return ⟨args.id, args.customerId, args.channel, args.purpose, grantedAt, none⟩

def revokeConsent (grant : ConsentGrant) (clock : Clock) : Except Thrown ConsentGrant :=
  match grant.revokedAt with
  | some revokedAt => do
    let iso ← revokedAt.toISOString
    throw (.domainError "CONSENT_ALREADY_REVOKED" s!"grant {grant.id} was already revoked at {iso}"
      [("grantId", grant.id), ("revokedAt", iso)])
  | none => do
    assertRegistryClock (clock.now 0)
    return { grant with revokedAt := some (clock.now 0) }

/-! ## Runs -/

inductive RegistryCommand where
  | grant (args : GrantConsentArgs) (clock : Clock)
  | revoke (grant : ConsentGrant) (clock : Clock)

/-- A command of the registry. The row that a revocation returns is appended, and the row that was
revoked is kept beside it. -/
def registryStep (rows : List ConsentGrant) : RegistryCommand → Option (List ConsentGrant)
  | .grant args clock => (grantConsent args rows clock).toOption.map fun row => rows ++ [row]
  | .revoke grant clock =>
    if grant ∈ rows then (revokeConsent grant clock).toOption.map fun row => rows ++ [row] else none

def Covers (request : ContactRequest) (g : ConsentGrant) : Prop :=
  g.customerId = request.customerId ∧ g.channel = request.channel ∧ g.purpose = request.purpose
  deriving Decidable

def Refuses (rows : List ConsentGrant) (request : ContactRequest) (clock : Clock) : Prop :=
  ∃ reason detail, assertCanContact rows request clock = .ok (.refused reason detail)

def Regrantable (rows : List ConsentGrant) (request : ContactRequest) (id : Uuid) (clock : Clock) :
    Prop :=
  ∃ row, grantConsent ⟨id, request.customerId, request.channel, request.purpose⟩
    rows clock = .ok row

def NoneInForce (rows : List ConsentGrant) (request : ContactRequest) (now : Date) : Prop :=
  ∀ g ∈ rows, Covers request g → isActiveAt g now = false
  deriving Decidable

/-! ## One call -/

lemma latestGrant_foldl_isSome (grants : List ConsentGrant) (g : ConsentGrant) :
    (grants.foldl (fun best g => match best with
      | none => some g
      | some best => if timeLe best.grantedAt g.grantedAt then some g else some best)
      (some g)).isSome := by
  induction grants generalizing g with
  | nil => rfl
  | cons h grants ih =>
    simp only [List.foldl_cons]
    split_ifs <;> exact ih _

lemma latestGrant_eq_none {grants : List ConsentGrant} : latestGrant grants = none ↔
    grants = [] := by
  cases grants with
  | nil => simp [latestGrant]
  | cons g grants =>
    have hsome := latestGrant_foldl_isSome grants g
    simp only [latestGrant, List.foldl_cons, reduceCtorEq, iff_false]
    exact Option.isSome_iff_ne_none.mp hsome

lemma lastRevokedAt_ne_invalid {first : Date} {rest : List Date} (hfirst : first ≠ .invalid)
    (hrest : ∀ date ∈ rest, date ≠ .invalid) : lastRevokedAt first rest ≠ .invalid := by
  unfold lastRevokedAt
  induction rest generalizing first with
  | nil => exact hfirst
  | cons date rest ih =>
    obtain ⟨hdate, hrest⟩ := List.forall_mem_cons.mp hrest
    rw [List.foldl_cons]
    split_ifs
    · exact ih hdate hrest
    · exact ih hfirst hrest

def Stamped (rows : List ConsentGrant) : Prop :=
  ∀ g ∈ rows, ∀ date ∈ g.revokedAt, date ≠ .invalid

variable {clock : Clock} {rows : List ConsentGrant}

variable {request : ContactRequest} {row : ConsentGrant} {rows' : List ConsentGrant}
  {command : RegistryCommand}

lemma refuses_iff (hstamped : Stamped rows) (hclock : clock.now 0 ≠ .invalid) :
    Refuses rows request clock ↔ NoneInForce rows request (clock.now 0) := by
  have hactive : latestGrant (((rows.filter fun g => g.customerId = request.customerId).filter
      fun g => g.channel = request.channel ∧ g.purpose = request.purpose).filter
      fun g => isActiveAt g (clock.now 0)) = none ↔ NoneInForce rows request (clock.now 0) := by
    simp only [latestGrant_eq_none, List.filter_eq_nil_iff, List.mem_filter, NoneInForce, Covers,
      decide_eq_true_eq, Bool.not_eq_true]
    exact ⟨fun h g hg hc => h g ⟨⟨hg, hc.1⟩, hc.2⟩, fun h g hg => h g hg.1.1 ⟨hg.1.2, hg.2⟩⟩
  rw [← hactive, Refuses]
  simp only [assertCanContact, ok_iff]
  cases hlatest : latestGrant _ with
  | some g => simp [pure_eq_ok]
  | none =>
    refine iff_of_true ?_ rfl
    simp only
    split
    · rename_i first rest hrevoked
      have hvalid : ∀ date ∈ first :: rest, date ≠ .invalid := by
        intro date hdate
        rw [← hrevoked] at hdate
        obtain ⟨g, hg, hgdate⟩ := List.mem_filterMap.mp hdate
        exact hstamped g (List.mem_of_mem_filter (List.mem_of_mem_filter hg)) date hgdate
      obtain ⟨hfirst, hrest⟩ := List.forall_mem_cons.mp hvalid
      obtain ⟨iso, hiso⟩ := Date.exists_toISOString.mpr (lastRevokedAt_ne_invalid hfirst hrest)
      exact ⟨_, _, hclock, bind_eq_ok.mpr ⟨iso, hiso, rfl⟩⟩
    · unfold refuseUngranted
      split
      · exact ⟨_, _, hclock, rfl⟩
      · split <;> exact ⟨_, _, hclock, rfl⟩

lemma regrantable_iff {id : Uuid} (hid : ∀ g ∈ rows, g.id ≠ id) (hclock : clock.now 0 ≠ .invalid) :
    Regrantable rows request id clock ↔ NoneInForce rows request (clock.now 0) := by
  have hfind : (rows.find? fun g => g.customerId = request.customerId && g.channel = request.channel
      && g.purpose = request.purpose && isActiveAt g (clock.now 0)) = none ↔
      NoneInForce rows request (clock.now 0) := by
    simp only [List.find?_eq_none, NoneInForce, Covers, Bool.and_eq_true, decide_eq_true_eq,
      not_and, Bool.not_eq_true, and_imp]
  rw [← hfind, Regrantable]
  simp only [grantConsent, assertRegistryClock, ok_iff]
  cases hactive : rows.find? _ with
  | some g => simp [bind_eq_ok, throw_eq_ok]
  | none =>
    have hfree : ¬ (rows.any (·.id = id)) = true := by simpa using hid
    exact iff_of_true ⟨_, hclock, hfree, rfl⟩ rfl

/-! ## Runs -/

lemma revokeConsent_eq_ok {grant : ConsentGrant} (h : revokeConsent grant clock = .ok row) :
    grant.revokedAt = none ∧ clock.now 0 ≠ .invalid ∧
      row = { grant with revokedAt := some (clock.now 0) } := by
  unfold revokeConsent at h
  split at h
  · simp only [bind_eq_ok, throw_eq_ok, and_false, exists_false] at h
  · next hlive =>
    simp only [assertRegistryClock, ok_iff] at h
    exact ⟨hlive, h⟩

lemma grantConsent_live {args : GrantConsentArgs}
    (h : grantConsent args rows clock = .ok row) : row.revokedAt = none := by
  simp only [grantConsent, seq_eq_ok] at h
  obtain ⟨-, -, h⟩ := h
  split at h
  · simp only [bind_eq_ok, throw_eq_ok, and_false, exists_false] at h
  · rw [pure_eq_ok.mp h]

lemma registryStep_appends (h : registryStep rows command = some rows') :
    ∃ row, rows' = rows ++ [row] ∧ ∀ date ∈ row.revokedAt, date ≠ .invalid := by
  cases command with
  | grant args clock =>
    obtain ⟨row, hrow, rfl⟩ := map_toOption_eq_some.mp h
    exact ⟨row, rfl, by simp [grantConsent_live hrow]⟩
  | revoke grant clock =>
    rw [registryStep, Option.ite_none_right_eq_some] at h
    obtain ⟨row, hrow, rfl⟩ := map_toOption_eq_some.mp h.2
    obtain ⟨-, hvalid, rfl⟩ := revokeConsent_eq_ok hrow
    exact ⟨_, rfl, by simpa using hvalid⟩

lemma Stamped.step (hrows : Stamped rows)
    (h : registryStep rows command = some rows') : Stamped rows' := by
  obtain ⟨row, rfl, hrow⟩ := registryStep_appends h
  exact List.forall_mem_append.mpr ⟨hrows, List.forall_mem_singleton.mpr hrow⟩

/-- **When a revocation takes effect.** At every point of every run, contact for a request is
refused and a grant under a free identifier is accepted exactly when no row for the request is in
force, among all rows that the registry keeps. -/
theorem revocation_effective_iff (commands : List RegistryCommand) (request : ContactRequest)
    (id : Uuid) (clock : Clock) (hclock : clock.now 0 ≠ .invalid)
    (hid : ∀ g ∈ run registryStep [] commands, g.id ≠ id) :
    (Refuses (run registryStep [] commands) request clock ∧
        Regrantable (run registryStep [] commands) request id clock) ↔
      NoneInForce (run registryStep [] commands) request (clock.now 0) := by
  have hstamped : Stamped (run registryStep [] commands) :=
    run_invariant_all (fun _ _ _ hrows h => hrows.step h) commands [] nofun
  rw [refuses_iff hstamped hclock, regrantable_iff hid hclock, and_self]

/-- **The row that was revoked stays in force.** After an accepted revocation, at every later point
and every moment from the grant on, a row for its customer, channel and purpose is in force. -/
theorem kept_row_in_force (earlier later : List RegistryCommand) (grant : ConsentGrant)
    (revokedAt : Clock) (request : ContactRequest) (now : Date)
    (haccepted : (registryStep (run registryStep [] earlier) (.revoke grant revokedAt)).isSome)
    (hcovers : Covers request grant) (hgranted : timeLe grant.grantedAt now) :
    ¬ NoneInForce (run registryStep [] (earlier ++ .revoke grant revokedAt :: later))
    request now := by
  obtain ⟨rows, hrows⟩ := Option.isSome_iff_exists.mp haccepted
  rw [registryStep, Option.ite_none_right_eq_some] at hrows
  obtain ⟨hmem, hrevoked⟩ := hrows
  obtain ⟨row, hrow, -⟩ := map_toOption_eq_some.mp hrevoked
  obtain ⟨hlive, -⟩ := revokeConsent_eq_ok hrow
  have hkept : grant ∈ run registryStep (run registryStep [] earlier)
      (.revoke grant revokedAt :: later) := by
    refine run_invariant_all (I := fun rows => grant ∈ rows) (fun _ _ _ hgrant h => ?_) _ _ hmem
    obtain ⟨row, rfl, -⟩ := registryStep_appends h
    exact List.mem_append_left _ hgrant
  intro hnone
  rw [run_append] at hnone
  have hinactive := hnone grant hkept hcovers
  simp [isActiveAt, hgranted, hlive] at hinactive

def whatsappDunning : ContactRequest := ⟨"c1", .whatsapp, .dunning⟩

def givenAtOne : ConsentGrant := ⟨"g1", "c1", .whatsapp, .dunning, .ofTime 1, none⟩

def revokedRun : List RegistryCommand :=
  [.grant ⟨"g1", "c1", .whatsapp, .dunning⟩ (pinnedClock (.ofTime 1)),
    .revoke givenAtOne (pinnedClock (.ofTime 2))]

theorem kept_row_in_force_revoked :
    ¬ NoneInForce (run registryStep [] revokedRun) whatsappDunning (.ofTime 3) :=
  kept_row_in_force [_] [] givenAtOne _ _ _ (by decide +kernel) (by decide) (by decide)

/-- Before the grant was given, contact is refused. -/
theorem revocation_effective_before :
    NoneInForce (run registryStep [] revokedRun) whatsappDunning (.ofTime 0) ∧
      Refuses (run registryStep [] revokedRun) whatsappDunning (pinnedClock (.ofTime 0)) := by
  have hnone : NoneInForce (run registryStep [] revokedRun) whatsappDunning (.ofTime 0) := by
    decide +kernel
  refine ⟨hnone, ((revocation_effective_iff revokedRun whatsappDunning "g2"
    (pinnedClock (.ofTime 0)) (by decide) (by decide +kernel)).mpr hnone).1⟩

/-- After the revocation contact is still allowed, and a new grant is refused. -/
theorem contact_allowed_after_revocation :
    (run registryStep [] revokedRun).length = 2 ∧
      (assertCanContact (run registryStep [] revokedRun) whatsappDunning
        (pinnedClock (.ofTime 3))).toOption = some (.allowed givenAtOne) ∧
      (grantConsent ⟨"g2", "c1", .whatsapp, .dunning⟩ (run registryStep [] revokedRun)
        (pinnedClock (.ofTime 3))).toOption = none := by
  decide +kernel

end Fuatilia.Consent
