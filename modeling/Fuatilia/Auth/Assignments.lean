import Fuatilia.Auth.Roles

/-!
# Role assignments and the escalation guard

Grants are append-only facts, gated by the escalation guard. A refused escalation is a value with an
audit event, not an exception.

## Main definitions

* `RoleGrant`, `isActiveGrant` — the facts.
* `grantRole`, `revokeRole` — the commands. The guard reads a wildcard rule as covered as soon as
  one permission lies on its resource, although the comment beside it speaks of every one.

## Main results

* `grantRole_eq_granted`, `revokeRole_eq_ok` — when a command succeeds, and what it appends.
-/

namespace Fuatilia.Auth

open Fallible

/-! ## The grant fact -/

structure RoleGrant where
  grantId : Uuid
  orgId : Uuid
  userId : Uuid
  roleId : Uuid
  resourceId : Option Uuid
  grantedBy : Uuid
  grantedAt : Date
  revokedAt : Option Date
  revokedBy : Option Uuid
  revokedReason : Option String
  deriving DecidableEq

def isActiveGrant (grant : RoleGrant) : Bool := grant.revokedAt.isNone

def RoleGrant.view (grant : RoleGrant) : GrantView := ⟨grant.roleId, grant.revokedAt⟩

def RoleGrant.IsOver (grant : RoleGrant) (userId roleId : Uuid) (resourceId : Option Uuid) : Prop :=
  grant.userId = userId ∧ grant.roleId = roleId ∧ grant.resourceId = resourceId
  deriving Decidable

/-! ## Events -/

inductive EscalationReason where
  | GRANTER_NOT_ADMIN | GRANTER_LACKS_PERMISSION

inductive AuthPayload where
  | roleGranted (grantId orgId userId roleId : Uuid) (resourceId : Option Uuid) (grantedBy : Uuid)
      (grantedAt : String)
  | roleRevoked (grantId orgId userId roleId revokedBy : Uuid) (reason revokedAt : String)
  | escalationBlocked (orgId granterId userId roleId : Uuid) (reason : EscalationReason)
      (missing : List String) (at' : String)

structure AuthEvent where
  name : String
  version : ℕ
  aggregateId : Uuid
  occurredAt : String
  payload : AuthPayload

def authEvent (name : String) (aggregateId : Uuid) (payload : AuthPayload) (reading : Date) :
    Except Thrown AuthEvent := do
  let occurredAt ← reading.toISOString
  pure ⟨name, 1, aggregateId, occurredAt, payload⟩

def assertClockDate (reading : Date) (code : String) : Except Thrown Date := do
  throwIf (reading = .invalid) (DomainError code "clock returned an invalid Date")
  pure reading

def assertNonBlank (raw code label : String) : Except Thrown String := do
  throwIf (trim raw = "") (DomainError code ("a non-blank " ++ label ++ " is required"))
  pure (trim raw)

/-! ## Granting -/

structure GrantRoleArgs where
  grantId : Uuid
  orgId : Uuid
  userId : Uuid
  role : Role
  grantedBy : Uuid
  granterPermissions : List String
  resourceId : Option Uuid

/-- The result of `grantRole`: a new fact with its event, the fact that already stands, or a refused
escalation with its audit event. -/
inductive GrantRoleResult where
  | granted (grant : RoleGrant) (event : AuthEvent)
  | alreadyHeld (grant : RoleGrant)
  | refused (code : String) (reason : EscalationReason) (detail : String) (missing : List String)
      (event : AuthEvent)

/-- A refused escalation: the payload reads the clock first, the event after it. -/
def escalationBlocked (args : GrantRoleArgs) (reason : EscalationReason) (detail : String)
    (missing : List String) (clock : Clock) : Except Thrown GrantRoleResult := do
  let at' ← (clock.now 0).toISOString
  let event ← authEvent "auth.escalationBlocked" args.orgId
    (.escalationBlocked args.orgId args.grantedBy args.userId args.role.roleId reason missing at')
    (clock.now 1)
  pure (.refused "AUTH_ESCALATION_BLOCKED" reason detail missing event)

/-- Is a rule of a role covered by a set of concrete permissions, as the guard reads it? -/
def heldBy (permissions : List String) (rule : String) : Bool :=
  if endsWith rule ":*" then permissions.any (startsWith · (dropLast rule))
  else permissions.contains rule

/-- The rules of a role that a set of concrete permissions lacks, as the guard reads them. -/
def missingFor (rules permissions : List String) : List String :=
  jsSort compareText (rules.flatMap fun rule => if heldBy permissions rule then [] else [rule])

def GrantRoleArgs.fact (args : GrantRoleArgs) (grantedAt : Date) : RoleGrant :=
  { grantId := args.grantId
    orgId := args.orgId
    userId := args.userId
    roleId := args.role.roleId
    resourceId := args.resourceId
    grantedBy := args.grantedBy
    grantedAt := grantedAt
    revokedAt := none
    revokedBy := none
    revokedReason := none }

def appendGrant (args : GrantRoleArgs) (clock : Clock) : Except Thrown GrantRoleResult := do
  let grantedAt ← assertClockDate (clock.now 0) "AUTH_CLOCK_INVALID"
  let text ← grantedAt.toISOString
  let event ← authEvent "auth.roleGranted" args.grantId
    (.roleGranted args.grantId args.orgId args.userId args.role.roleId args.resourceId
      args.grantedBy text) (clock.now 1)
  pure (.granted (args.fact grantedAt) event)

def grantRole (existingGrants : List RoleGrant) (args : GrantRoleArgs) (clock : Clock) :
    Except Thrown GrantRoleResult :=
  match existingGrants.find? (·.grantId = args.grantId) with
  -- the same grant id: a replay of the command, or a collision
  | some byId =>
    if byId.IsOver args.userId args.role.roleId args.resourceId then .ok (.alreadyHeld byId)
    else .error (.domainError "AUTH_GRANT_ID_TAKEN"
      ("grant " ++ args.grantId ++ " already exists over a different assignment")
      [("grantId", args.grantId)])
  | none =>
    match existingGrants.find? (fun g =>
        isActiveGrant g ∧ g.IsOver args.userId args.role.roleId args.resourceId) with
    -- the same assignment is active already
    | some replay => .ok (.alreadyHeld replay)
    | none =>
      if ADMIN_MANAGE_USERS ∉ args.granterPermissions then
        escalationBlocked args .GRANTER_NOT_ADMIN
          ("grant refused: " ++ args.grantedBy ++ " does not hold " ++ ADMIN_MANAGE_USERS ++
            " — only role administrators may grant roles") [] clock
      else if missingFor args.role.permissions args.granterPermissions ≠ [] then
        escalationBlocked args .GRANTER_LACKS_PERMISSION
          ("grant refused: role '" ++ args.role.name ++ "' confers " ++
            ", ".intercalate (missingFor args.role.permissions args.granterPermissions) ++
            " which " ++ args.grantedBy ++
            " does not hold — grants never outlive the granter's authority")
          (missingFor args.role.permissions args.granterPermissions) clock
      else appendGrant args clock

lemma missingFor_eq_nil {rules permissions : List String} :
    missingFor rules permissions = [] ↔ ∀ rule ∈ rules, heldBy permissions rule = true := by
  simp [missingFor, List.eq_nil_iff_forall_not_mem]

variable {existingGrants : List RoleGrant} {clock : Clock} {grant : RoleGrant} {event : AuthEvent}

/-- **What a granted call has checked.** The granter holds role administration and covers every rule
of the role in the guard's reading, and the fact is the one of the arguments. -/
theorem grantRole_eq_granted {args : GrantRoleArgs}
    (h : grantRole existingGrants args clock = .ok (.granted grant event)) :
    ADMIN_MANAGE_USERS ∈ args.granterPermissions ∧
      (∀ rule ∈ args.role.permissions, heldBy args.granterPermissions rule = true) ∧
      grant = args.fact (clock.now 0) := by
  have hblocked : ∀ reason detail missing,
      escalationBlocked args reason detail missing clock ≠ .ok (.granted grant event) := by
    intro reason detail missing hb
    simp only [escalationBlocked, ok_iff] at hb
    obtain ⟨_, -, _, -, heq⟩ := hb
    cases heq
  unfold grantRole at h
  split at h
  · split_ifs at h
    cases h
  · split at h
    · cases h
    · split_ifs at h with hadmin hmissing
      · exact absurd h (hblocked _ _ _)
      · refine ⟨hadmin, missingFor_eq_nil.mp (not_not.mp hmissing), ?_⟩
        simp only [appendGrant, assertClockDate, ok_iff] at h
        obtain ⟨grantedAt, ⟨-, rfl⟩, _, -, _, -, heq⟩ := h
        exact (GrantRoleResult.granted.inj heq).1
      · exact absurd h (hblocked _ _ _)

/-! ## Revoking -/

structure RevokeRoleArgs where
  userId : Uuid
  roleId : Uuid
  revokedBy : Uuid
  reason : String
  resourceId : Option Uuid

def revokeRole (existingGrants : List RoleGrant) (args : RevokeRoleArgs) (clock : Clock) :
    Except Thrown (RoleGrant × AuthEvent) := do
  let reason ← assertNonBlank args.reason "AUTH_REASON_REQUIRED" "revocation reason"
  let _ ← assertNonBlank args.revokedBy "AUTH_ACTOR_REQUIRED" "revoker id"
  match existingGrants.find? (fun g =>
      isActiveGrant g ∧ g.IsOver args.userId args.roleId args.resourceId) with
  | none => throw (.domainError "AUTH_ROLE_NOT_HELD"
      ("user " ++ args.userId ++ " does not actively hold role " ++ args.roleId ++
        " in this scope — revoking an unheld role is refused")
      [("userId", args.userId), ("roleId", args.roleId),
        ("resourceId", args.resourceId.getD "null")])
  | some target =>
    let revokedAt ← assertClockDate (clock.now 0) "AUTH_CLOCK_INVALID"
    let text ← revokedAt.toISOString
    let event ← authEvent "auth.roleRevoked" target.grantId
      (.roleRevoked target.grantId target.orgId target.userId target.roleId args.revokedBy reason
        text) (clock.now 1)
    pure ({ target with
      revokedAt := some revokedAt
      revokedBy := some args.revokedBy
      revokedReason := some reason }, event)

theorem revokeRole_eq_ok {args : RevokeRoleArgs}
    (h : revokeRole existingGrants args clock = .ok (grant, event)) :
    ∃ target ∈ existingGrants, isActiveGrant target = true ∧
      grant = { target with
        revokedAt := grant.revokedAt
        revokedBy := grant.revokedBy
        revokedReason := grant.revokedReason } ∧ isActiveGrant grant = false := by
  simp only [revokeRole, assertNonBlank, ok_iff] at h
  obtain ⟨reason, -, _, -, h⟩ := h
  split at h
  · cases h
  · rename_i target hfind
    simp only [assertClockDate, ok_iff] at h
    obtain ⟨revokedAt, -, _, -, _, -, heq⟩ := h
    cases heq
    obtain ⟨hmem, hactive⟩ := of_find hfind
    exact ⟨target, hmem, hactive.1, rfl, rfl⟩

end Fuatilia.Auth
