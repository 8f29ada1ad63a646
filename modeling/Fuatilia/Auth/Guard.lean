import Fuatilia.Auth.Assignments

/-!
# The permission guard

A principal is the projection of a user, the user's active grants and the role registry.

## Main definitions

* `userPrincipal` — the rules of the granted roles, each with the scope of its grant.
* `can` — may a principal use a permission, on a resource or without naming one?

## Main results

* `can_allowed`, `userPrincipal_can` — when it is allowed.
-/

namespace Fuatilia.Auth

/-! ## Principals -/

inductive UserStatus where
  | active | suspended | deactivated
  deriving DecidableEq

inductive PrincipalStatus where
  | active | suspended | deactivated | revoked
  deriving DecidableEq

instance : ToString PrincipalStatus where
  toString
    | .active => "active"
    | .suspended => "suspended"
    | .deactivated => "deactivated"
    | .revoked => "revoked"

def UserStatus.principal : UserStatus → PrincipalStatus
  | .active => .active
  | .suspended => .suspended
  | .deactivated => .deactivated

structure User where
  userId : Uuid
  orgId : Uuid
  status : UserStatus

inductive PrincipalKind where
  | user | apiKey

structure PermissionRule where
  rule : String
  roleId : Option Uuid
  grantId : Option Uuid
  resourceId : Option Uuid

structure Principal where
  kind : PrincipalKind
  principalId : Uuid
  orgId : Uuid
  status : PrincipalStatus
  rules : List PermissionRule

def grantRules (roles : List Role) (grant : RoleGrant) : List PermissionRule :=
  match byId roles grant.roleId with
  | none => []
  | some role =>
    role.permissions.map fun rule => ⟨rule, some role.roleId, some grant.grantId, grant.resourceId⟩

def userPrincipal (user : User) (assignments : List RoleGrant) (roles : List Role) : Principal :=
  { kind := .user
    principalId := user.userId
    orgId := user.orgId
    status := user.status.principal
    rules := (assignments.filter fun grant =>
      grant.userId = user.userId ∧ isActiveGrant grant).flatMap (grantRules roles) }

/-! ## The decision -/

inductive DenyReason where
  | PERMISSION_UNKNOWN | PRINCIPAL_SUSPENDED | PRINCIPAL_DEACTIVATED | PRINCIPAL_REVOKED
  | NOT_IN_RESOURCE_SCOPE | NO_GRANT

inductive CanDecision where
  | allow (via : PermissionRule)
  | deny (reason : DenyReason) (detail : String)

def CanDecision.allowed : CanDecision → Bool
  | allow _ => true
  | deny _ _ => false

def STATUS_REASONS : PrincipalStatus → DenyReason
  | .suspended => .PRINCIPAL_SUSPENDED
  | .revoked => .PRINCIPAL_REVOKED
  | .deactivated | .active => .PRINCIPAL_DEACTIVATED

/-- A wildcard rule covers what begins with its text up to the colon. -/
def wildcardCovers (rule permission : String) : Bool :=
  endsWith rule ":*" && startsWith permission (dropLast rule)

def covers (rule permission : String) : Bool := rule == permission || wildcardCovers rule permission

/-- Does a rule's or a grant's scope admit a request, on a resource or without naming one? -/
def admits (scope resource : Option Uuid) : Bool :=
  resource.isNone || scope.isNone || scope == resource

/-- The loop over the rules; `coversPermission` records that some rule covered the permission. -/
def matchRules (permission : String) (resource : Option Uuid) :
    (coversPermission : Bool) → List PermissionRule → CanDecision
  | coversPermission, [] =>
    if coversPermission then .deny .NOT_IN_RESOURCE_SCOPE
      ("permission '" ++ permission ++ "' is held but not for resource " ++
        resource.getD "undefined" ++ " — grants are scoped, not guessed")
    else .deny .NO_GRANT
      ("no active grant or scope covers '" ++ permission ++ "' — deny by default")
  | coversPermission, rule :: rules =>
    if ¬ covers rule.rule permission then matchRules permission resource coversPermission rules
    else if admits rule.resourceId resource then .allow rule
    else matchRules permission resource true rules

def can (principal : Principal) (permission : String) (resource : Option Uuid) : CanDecision :=
  if permission ∉ PERMISSIONS then
    .deny .PERMISSION_UNKNOWN ("permission '" ++ permission ++
      "' is outside the closed vocabulary — nothing can be granted it")
  else if principal.status ≠ .active then
    .deny (STATUS_REASONS principal.status) ("principal " ++ principal.principalId ++ " is " ++
      toString principal.status ++ " — no decision runs against an inactive principal")
  else matchRules permission resource false principal.rules

variable {permission : String} {resource : Option Uuid}

lemma matchRules_allowed {rules : List PermissionRule} (coversPermission : Bool) :
    (matchRules permission resource coversPermission rules).allowed = true ↔
      ∃ rule ∈ rules, covers rule.rule permission = true ∧
        admits rule.resourceId resource = true := by
  induction rules generalizing coversPermission with
  | nil => cases coversPermission <;> simp [matchRules, CanDecision.allowed]
  | cons rule rules ih =>
    unfold matchRules
    split_ifs with hcovers hscope
    · simp [hcovers, hscope, CanDecision.allowed]
    · simp [ih, hscope]
    · simp [ih, hcovers]

/-- **What `can` allows.** A known permission, to an active principal, by a rule that covers it in
a scope that admits the resource. -/
theorem can_allowed {principal : Principal} :
    (can principal permission resource).allowed = true ↔ permission ∈ PERMISSIONS ∧
      principal.status = .active ∧ ∃ rule ∈ principal.rules,
        covers rule.rule permission = true ∧ admits rule.resourceId resource = true := by
  by_cases hknown : permission ∈ PERMISSIONS
  · by_cases hstatus : principal.status = .active
    · simp [can, hknown, hstatus, matchRules_allowed]
    · simp [can, hknown, hstatus, CanDecision.allowed]
  · simp [can, hknown, CanDecision.allowed]

/-! ## The two readings of a rule -/

lemma mem_of_isRoleWildcard {rule : String} (h : isRoleWildcard rule = true) :
    rule ∈ RESOURCES.map (· ++ ":*") := by
  simp only [isRoleWildcard, Bool.and_eq_true, List.contains_iff_mem] at h
  obtain ⟨⟨hend, -⟩, hresource⟩ := h
  obtain ⟨front, hfront⟩ := List.isSuffixOf_iff_suffix.mp hend
  refine List.mem_map.mpr ⟨_, hresource, ?_⟩
  have hdrop : (dropLast (dropLast rule)).toList = front := by
    simp [dropLast, ← hfront]
  exact String.toList_inj.mp (by rw [String.toList_append, hdrop, hfront])

/-- The guard and the role registry read every rule that a role may carry alike. -/
theorem ruleCovers_eq {rule : String} (hrule : IsRoleRule rule)
    (hknown : permission ∈ PERMISSIONS) : ruleCovers rule permission = covers rule permission := by
  -- both the rules and the permissions come from finite lists
  have hall : ∀ rule ∈ RESOURCES.map (· ++ ":*") ++ PERMISSIONS, ∀ permission ∈ PERMISSIONS,
      ruleCovers rule permission = covers rule permission := by decide +kernel
  refine hall rule (List.mem_append.mpr ?_) permission hknown
  exact hrule.imp_left mem_of_isRoleWildcard

lemma roleCovers_iff {role : Role} (hknown : permission ∈ PERMISSIONS) :
    roleCovers role permission = true ↔ ∃ rule ∈ role.permissions,
    covers rule permission = true := by
  simp only [roleCovers, List.any_eq_true]
  refine exists_congr fun rule => and_congr_right fun hrule => ?_
  rw [ruleCovers_eq (role.isRoleRule rule hrule) hknown]

/-- **What a user passes.** A known permission, when the user is active and some active grant of
theirs, in a scope that admits the resource, is of a role in the registry that covers it. -/
theorem userPrincipal_can {user : User} {assignments : List RoleGrant} {roles : List Role} :
    (can (userPrincipal user assignments roles) permission resource).allowed = true ↔
      permission ∈ PERMISSIONS ∧ user.status = .active ∧
        ∃ grant ∈ assignments, grant.userId = user.userId ∧ isActiveGrant grant = true ∧
          admits grant.resourceId resource = true ∧
          ∃ role, byId roles grant.roleId = some role ∧ roleCovers role permission = true := by
  have hstatus : user.status.principal = .active ↔ user.status = .active := by
    cases user.status <;> simp [UserStatus.principal]
  rw [can_allowed]
  refine and_congr_right fun hknown => and_congr hstatus ?_
  simp only [userPrincipal, List.mem_flatMap, List.mem_filter, decide_eq_true_eq]
  constructor
  · rintro ⟨rule, ⟨grant, ⟨hgrant, huser, hactive⟩, hrule⟩, hcovers, hscope⟩
    unfold grantRules at hrule
    split at hrule
    · cases hrule
    · rename_i role hrole
      obtain ⟨text, htext, rfl⟩ := List.mem_map.mp hrule
      exact ⟨grant, hgrant, huser, hactive, hscope, role, hrole,
        (roleCovers_iff hknown).mpr ⟨text, htext, hcovers⟩⟩
  · rintro ⟨grant, hgrant, huser, hactive, hscope, role, hrole, hcovers⟩
    obtain ⟨text, htext, hcovers⟩ := (roleCovers_iff hknown).mp hcovers
    refine ⟨⟨text, some role.roleId, some grant.grantId, grant.resourceId⟩,
      ⟨grant, ⟨hgrant, huser, hactive⟩, ?_⟩, hcovers, hscope⟩
    simp only [grantRules, hrole]
    exact List.mem_map.mpr ⟨text, htext, rfl⟩

end Fuatilia.Auth
