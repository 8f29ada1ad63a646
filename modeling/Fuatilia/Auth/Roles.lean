import Fuatilia.Shared.Primitives

/-!
# Roles and the permission vocabulary

Permissions are `<resource>:<action>` strings of a closed vocabulary, and roles are the only place
where wildcards live.

## Main definitions

* `Role`, `defineRole` — validated rules. Names are compared without case; the case table of the
  language is a parameter.
* `effectivePermissions` — the permissions of a list of grants.

## Main results

* `mem_effectivePermissions` — which they are.
-/

namespace Fuatilia.Auth

open Fallible

/-! ## The closed vocabulary -/

def RESOURCES : List String :=
  ["receivables", "payments", "collections", "adjustments", "ledger", "intelligence", "admin",
    "policy"]

def PERMISSIONS : List String :=
  ["receivables:read", "receivables:write", "payments:read", "payments:intake", "payments:refund",
    "collections:read", "collections:act", "adjustments:request", "adjustments:approve",
    "ledger:read", "ledger:post", "intelligence:read", "admin:manage-users", "policy:manage"]

def ADMIN_MANAGE_USERS : String := "admin:manage-users"

def isResourceShape : List Char → Bool
  | [] => false
  | c :: cs => c.isLower && cs.all fun d => d.isLower || d.isDigit

def isPermissionShape (raw : String) : Bool :=
  match raw.toList.span (· ≠ ':') with
  | (resource, _ :: c :: action) =>
    isResourceShape resource && c.isLower && action.all fun d => d.isAlphanum || d == '-'
  | _ => false

/-- A role-level wildcard: exactly `<known resource>:*`. -/
def isRoleWildcard (raw : String) : Bool :=
  let resource := dropLast (dropLast raw)
  endsWith raw ":*" && isResourceShape resource.toList && RESOURCES.contains resource

def assertPermission (raw : String) : Except Thrown String := do
  throwIf (isRoleWildcard raw) (.domainError "AUTH_PERMISSION_WILDCARD_FORBIDDEN"
    ("wildcard '" ++ raw ++
    "' is only allowed inside role definitions, never per grant or key scope")
    [("permission", raw)])
  throwIf (¬ isPermissionShape raw) (.domainError "AUTH_PERMISSION_MALFORMED"
    ("permission '" ++ raw ++ "' is not a '<resource>:<action>' string") [("permission", raw)])
  throwIf (raw ∉ PERMISSIONS) (.domainError "AUTH_PERMISSION_UNKNOWN"
    ("permission '" ++ raw ++ "' is outside the closed vocabulary")
    [("permission", raw), ("allowed", ",".intercalate PERMISSIONS)])
  pure raw

def assertRolePermission (raw : String) : Except Thrown String :=
  if isRoleWildcard raw then pure raw else assertPermission raw

def IsRoleRule (rule : String) : Prop := isRoleWildcard rule = true ∨ rule ∈ PERMISSIONS
  deriving Decidable

variable {rule permission : String} {rules raws : List String}

lemma assertRolePermission_eq_ok {raw : String} (h : assertRolePermission raw = .ok rule) :
    rule = raw ∧ IsRoleRule raw := by
  unfold assertRolePermission at h
  split_ifs at h with hwild
  · exact ⟨pure_eq_ok.mp h, Or.inl hwild⟩
  · simp only [assertPermission, ok_iff, not_not] at h
    exact ⟨h.2.2.2, Or.inr h.2.2.1⟩

/-! ## The role aggregate -/

/-- A role. It carries that its rule set is validated and not empty. -/
structure Role where
  roleId : Uuid
  orgId : Uuid
  name : String
  permissions : List String
  createdAt : Date
  permissions_ne_nil : permissions ≠ []
  isRoleRule : ∀ rule ∈ permissions, IsRoleRule rule

structure DefineRoleArgs where
  roleId : Uuid
  orgId : Uuid
  name : String
  permissions : List String

def ruleSet (rules : List String) : List String := jsSort compareText rules.dedup

lemma mem_ruleSet : rule ∈ ruleSet rules ↔ rule ∈ rules := by
  simp [ruleSet]

lemma isRoleRule_of_mapM
    (h : raws.mapM assertRolePermission = .ok rules) : ∀ rule ∈ ruleSet rules, IsRoleRule rule := by
  intro rule hrule
  obtain ⟨raw, -, hraw⟩ := (mem_of_mapM_eq_ok h).1 rule (mem_ruleSet.mp hrule)
  obtain ⟨rfl, hlegal⟩ := assertRolePermission_eq_ok hraw
  exact hlegal

lemma ruleSet_ne_nil (hraws : raws ≠ [])
    (h : raws.mapM assertRolePermission = .ok rules) : ruleSet rules ≠ [] := by
  intro hempty
  have hlength := (mapM_eq_ok.mp h).length_eq
  have hrules : rules = [] := List.eq_nil_iff_forall_not_mem.mpr fun rule hrule =>
    List.not_mem_nil (hempty ▸ mem_ruleSet.mpr hrule)
  exact hraws (List.eq_nil_of_length_eq_zero (by simpa [hrules] using hlength))

def defineRole (toLowerCase : String → String) (existingRoles : List Role) (args : DefineRoleArgs)
    (clock : Clock) : Except Thrown Role := do
  throwIf (∃ r ∈ existingRoles, r.roleId = args.roleId) (.domainError "AUTH_ROLE_ID_TAKEN"
    ("role " ++ args.roleId ++ " is already defined") [("roleId", args.roleId)])
  throwIf (trim args.name = "") (.domainError "AUTH_ROLE_NAME_REQUIRED"
    "a role requires a non-blank name" [("name", args.name)])
  throwIf (∃ r ∈ existingRoles, r.orgId = args.orgId ∧
      toLowerCase r.name = toLowerCase (trim args.name))
    (.domainError "AUTH_ROLE_NAME_TAKEN"
      ("role '" ++ trim args.name ++ "' already exists in this org") [("name", trim args.name)])
  if hraws : args.permissions = [] then
    throw (DomainError "AUTH_ROLE_PERMISSIONS_REQUIRED"
      "a role must carry at least one permission or wildcard")
  else
    match hrules : args.permissions.mapM assertRolePermission with
    | .error e => throw e
    | .ok rules =>
      pure
        { roleId := args.roleId
          orgId := args.orgId
          name := trim args.name
          permissions := ruleSet rules
          createdAt := clock.now 0
          permissions_ne_nil := ruleSet_ne_nil hraws hrules
          isRoleRule := isRoleRule_of_mapM hrules }

/-! ## Rules read as permissions -/

/-- Does a rule of a role cover a permission? A wildcard is compared with the permission's text up
to its colon. -/
def ruleCovers (rule permission : String) : Bool :=
  rule == permission || (isRoleWildcard rule &&
    startsWith rule (String.ofList (permission.toList.takeWhile (· ≠ ':')) ++ ":"))

def roleCovers (role : Role) (permission : String) : Bool :=
  role.permissions.any (ruleCovers · permission)

def expandRolePermissions (role : Role) : List String :=
  jsSort compareText (PERMISSIONS.filter (roleCovers role))

/-- `new Map(roles.map(r => [r.roleId, r])).get(id)`: of two roles with one id the later counts. -/
def byId (roles : List Role) (id : Uuid) : Option Role := roles.reverse.find? (·.roleId = id)

structure GrantView where
  roleId : Uuid
  revokedAt : Option Date

def grantPermissions (roles : List Role) (grant : GrantView) : List String :=
  if grant.revokedAt.isSome then []
  else ((byId roles grant.roleId).map expandRolePermissions).getD []

def effectivePermissions (roles : List Role) (grants : List GrantView) : List String :=
  jsSort compareText (grants.flatMap (grantPermissions roles)).dedup

lemma mem_expandRolePermissions {role : Role} : permission ∈ expandRolePermissions role ↔
      permission ∈ PERMISSIONS ∧ roleCovers role permission = true := by
  simp [expandRolePermissions]

/-- **Effective permissions.** A permission is effective when it is in the vocabulary and some
active grant's role is in the registry and covers it. -/
theorem mem_effectivePermissions {roles : List Role} {grants : List GrantView} :
    permission ∈ effectivePermissions roles grants ↔ permission ∈ PERMISSIONS ∧
      ∃ g ∈ grants, g.revokedAt = none ∧
        ∃ role, byId roles g.roleId = some role ∧ roleCovers role permission = true := by
  have hone : ∀ g : GrantView, permission ∈ grantPermissions roles g ↔ permission ∈ PERMISSIONS ∧
      g.revokedAt = none ∧
        ∃ role, byId roles g.roleId = some role ∧ roleCovers role permission = true := by
    intro g
    cases hrevoked : g.revokedAt <;> cases hrole : byId roles g.roleId <;>
      simp [grantPermissions, hrevoked, hrole, mem_expandRolePermissions]
  simp only [effectivePermissions, mem_jsSort, List.mem_dedup, List.mem_flatMap, hone]
  constructor
  · rintro ⟨g, hg, hknown, hcovers⟩
    exact ⟨hknown, g, hg, hcovers⟩
  · rintro ⟨hknown, g, hg, hcovers⟩
    exact ⟨g, hg, hknown, hcovers⟩

end Fuatilia.Auth
