import Fuatilia.Auth.Guard

/-!
# The permission guard of the backend

The backend's port of the guard, over the vocabulary of the domain core. Unlike the core, it reads
its roles from text columns, so their rules are arbitrary strings here.

## Main definitions

* `can`, `effectivePermissions` — the decision without a resource, and a principal's rules expanded.
* `missingForRole` — the second check of the escalation guard.

## Main results

* `can_ofCore` — the port decides as the core does.
-/

namespace Fuatilia.Backend

open Auth (PERMISSIONS wildcardCovers covers heldBy)

/-- A rule that a principal holds; an empty resource id makes it org-wide. -/
structure PermissionRule where
  rule : String
  resourceID : String
  deriving DecidableEq

structure Principal where
  principalID : Uuid
  status : String
  rules : List PermissionRule

inductive CanDecision where
  | allow (via : PermissionRule)
  | deny (reason detail : String)

def CanDecision.allowed : CanDecision → Bool
  | allow _ => true
  | deny _ _ => false

def statusReasons : String → String
  | "suspended" => "PRINCIPAL_SUSPENDED"
  | "revoked" => "PRINCIPAL_REVOKED"
  | _ => "PRINCIPAL_DEACTIVATED"

def can (p : Principal) (permission : String) : CanDecision :=
  if permission ∉ PERMISSIONS then
    .deny "PERMISSION_UNKNOWN" ("permission '" ++ permission ++
      "' is outside the closed vocabulary — nothing can be granted it")
  else if p.status ≠ "active" then
    .deny (statusReasons p.status) ("principal " ++ p.principalID ++ " is " ++ p.status ++
      " — no decision runs against an inactive principal")
  else
    match p.rules.find? (covers ·.rule permission) with
    | some rule => .allow rule
    | none => .deny "NO_GRANT"
        ("no active grant or scope covers '" ++ permission ++ "' — deny by default")

def sortStrings (l : List String) : List String := l.insertionSort (· ≤ ·)

def expandRule (rule : String) : List String :=
  if endsWith rule ":*" then PERMISSIONS.filter (startsWith · (dropLast rule)) else [rule]

def effectivePermissions (rules : List PermissionRule) : List String :=
  sortStrings (rules.flatMap fun rule => expandRule rule.rule).dedup

def missingForRole (roleRules granterPermissions : List String) : List String :=
  sortStrings (roleRules.filter fun rule => ¬ heldBy granterPermissions rule)

variable {permission : String}

theorem can_allowed {p : Principal} :
    (can p permission).allowed = true ↔ permission ∈ PERMISSIONS ∧ p.status = "active" ∧
      ∃ rule ∈ p.rules, covers rule.rule permission = true := by
  by_cases hknown : permission ∈ PERMISSIONS
  · by_cases hstatus : p.status = "active"
    · cases hfind : p.rules.find? (covers ·.rule permission) with
      | none =>
        have hnone : ∀ rule ∈ p.rules, covers rule.rule permission = false := by
          simpa using List.find?_eq_none.mp hfind
        simpa [can, hknown, hstatus, hfind, CanDecision.allowed] using hnone
      | some rule =>
        have hcovers := List.find?_some hfind
        simpa [can, hknown, hstatus, hfind, CanDecision.allowed] using
          ⟨rule, List.mem_of_find?_eq_some hfind, hcovers⟩
    · simp [can, hknown, hstatus, CanDecision.allowed]
  · simp [can, hknown, CanDecision.allowed]

lemma endsWith_of_known (h : permission ∈ PERMISSIONS) : endsWith permission ":*" = false := by
  have hall : ∀ permission ∈ PERMISSIONS, endsWith permission ":*" = false := by decide +kernel
  exact hall permission h

lemma mem_expandRule {rule : String} (hknown : permission ∈ PERMISSIONS) :
    permission ∈ expandRule rule ↔ covers rule permission = true := by
  unfold expandRule covers wildcardCovers
  split_ifs with hwild
  · have hne : rule ≠ permission := by
      rintro rfl
      rw [endsWith_of_known hknown] at hwild
      cases hwild
    simp [List.mem_filter, hknown, true_and, hwild, Bool.true_and,
      beq_eq_false_iff_ne.mpr hne, Bool.false_or]
  · simp only [List.mem_singleton, Bool.not_eq_true _ ▸ hwild, Bool.false_and, Bool.or_false,
      beq_iff_eq]
    exact eq_comm

theorem mem_effectivePermissions_iff {rules : List PermissionRule}
    (hknown : permission ∈ PERMISSIONS) : permission ∈ effectivePermissions rules ↔
      ∃ rule ∈ rules, covers rule.rule permission = true := by
  simp [effectivePermissions, sortStrings, mem_expandRule hknown]

lemma missingForRole_eq_nil {roleRules granterPermissions : List String} :
    missingForRole roleRules granterPermissions = [] ↔
      ∀ rule ∈ roleRules, heldBy granterPermissions rule = true := by
  simp [missingForRole, sortStrings, List.eq_nil_iff_forall_not_mem]

/-! ## The port -/

def DenyReason.text : Auth.DenyReason → String
  | .PERMISSION_UNKNOWN => "PERMISSION_UNKNOWN"
  | .PRINCIPAL_SUSPENDED => "PRINCIPAL_SUSPENDED"
  | .PRINCIPAL_DEACTIVATED => "PRINCIPAL_DEACTIVATED"
  | .PRINCIPAL_REVOKED => "PRINCIPAL_REVOKED"
  | .NOT_IN_RESOURCE_SCOPE => "NOT_IN_RESOURCE_SCOPE"
  | .NO_GRANT => "NO_GRANT"

def PermissionRule.ofCore (rule : Auth.PermissionRule) : PermissionRule :=
  ⟨rule.rule, rule.resourceId.getD ""⟩

def CanDecision.ofCore : Auth.CanDecision → CanDecision
  | .allow via => .allow (.ofCore via)
  | .deny reason detail => .deny (DenyReason.text reason) detail

/-- **The port decides as the core does**, for every principal and every text as the permission: the
same rule, or the same reason and detail. -/
theorem can_ofCore (principal : Auth.Principal) (permission : String) :
    can ⟨principal.principalId, toString principal.status, principal.rules.map .ofCore⟩ permission =
      .ofCore (Auth.can principal permission none) := by
  by_cases hknown : permission ∈ PERMISSIONS
  · cases hstatus : principal.status with
    | active =>
      simp only [can, Auth.can, hknown, hstatus, toString, not_true, ne_eq, if_false]
      -- without a resource the first rule that covers the permission is in scope
      induction principal.rules with
      | nil => rfl
      | cons rule rules ih =>
        rw [List.map_cons, List.find?_cons, Auth.matchRules]
        cases hcovers : covers rule.rule permission
        · simpa [PermissionRule.ofCore, hcovers] using ih
        · simp [PermissionRule.ofCore, CanDecision.ofCore, Auth.admits, hcovers]
    | _ => simp [can, Auth.can, hknown, hstatus, toString]; rfl
  · simp [can, Auth.can, hknown]; rfl

end Fuatilia.Backend
