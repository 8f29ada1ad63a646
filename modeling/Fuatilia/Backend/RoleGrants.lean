import Fuatilia.Backend.AuthGuard
import Fuatilia.Backend.Service
import Fuatilia.Foundations.Keyed
import Fuatilia.Foundations.Lists

/-!
# The grant ledger of the backend

`role_assignments` is an append-only table of grants and of revocation facts that name the grant
they revoke. A grant is active while no fact revokes it.

## Main definitions

* `AuthDb`, `AuthDb.insert` — the tables, and an insertion with its constraints and its trigger.
* `grantRole`, `revokeRole` — the statements of a transaction (`grantLookup`, `grantDecide`,
  `insert`; `revokeLookup`, `insert`) over one state of the data.

## Main results

* `grantRole_granted`, `revokeRole_eq_ok` — what an accepted call has checked, and what it appends.

## Implementation notes

Both `id` columns are primary keys, so a lookup by id is a `find?`. Neither service writes to the
tables of users and roles. The identifiers and the clock reading of a call are arguments of it.
-/

namespace Fuatilia.Backend

open Fallible

/-! ## The tables -/

structure RoleRow where
  id : Uuid
  orgID : Uuid
  name : String
  permissions : List String

structure UserRow where
  id : Uuid
  orgID : Uuid

inductive GrantKind where
  | grant | revoke
  deriving DecidableEq

structure AssignmentRow where
  id : Uuid
  orgID : Uuid
  kind : GrantKind
  userID : Uuid
  roleID : Uuid
  resourceID : Option Uuid
  grantedBy : Uuid
  grantedAt : ℤ
  revokedGrantID : Option Uuid
  revokedBy : Option Uuid
  revokedReason : Option String
  deriving DecidableEq

def lookupRole (roles : List RoleRow) (orgID id : Uuid) : Option RoleRow :=
  roles.find? fun r => r.orgID = orgID ∧ r.id = id

def lookupUser (users : List UserRow) (orgID id : Uuid) : Option UserRow :=
  users.find? fun u => u.orgID = orgID ∧ u.id = id

/-- The foreign keys of a fact: its user, its role and its granter are rows of the same org. -/
def HasKeys (roles : List RoleRow) (users : List UserRow) (row : AssignmentRow) : Prop :=
  (lookupUser users row.orgID row.userID).isSome ∧ (lookupRole roles row.orgID row.roleID).isSome ∧
    (lookupUser users row.orgID row.grantedBy).isSome
  deriving Decidable

/-- The tables. The facts of the ledger have distinct ids, and they have their foreign keys. -/
structure AuthDb where
  roles : List RoleRow
  users : List UserRow
  assignments : List AssignmentRow
  ids_nodup : (assignments.map AssignmentRow.id).Nodup
  hasKeys : ∀ row ∈ assignments, HasKeys roles users row

/-! ## Queries -/

def IsRevoked (rows : List AssignmentRow) (id : Uuid) : Prop :=
  ∃ rv ∈ rows, rv.revokedGrantID = some id
  deriving Decidable

def IsActive (rows : List AssignmentRow) (row : AssignmentRow) : Prop :=
  row ∈ rows ∧ row.kind = .grant ∧ ¬ IsRevoked rows row.id
  deriving Decidable

def activeGrants (rows : List AssignmentRow) : List AssignmentRow :=
  rows.filter fun row => IsActive rows row

def rulesOf (roles : List RoleRow) (grant : AssignmentRow) : List PermissionRule :=
  match lookupRole roles grant.orgID grant.roleID with
  | none => []
  | some role => role.permissions.map fun rule => ⟨rule, grant.resourceID.getD ""⟩

def activeRulesForUser (db : AuthDb) (orgID userID : Uuid) : List PermissionRule :=
  ((activeGrants db.assignments).filter fun g => g.orgID = orgID ∧ g.userID = userID).flatMap
    (rulesOf db.roles)

def AssignmentRow.IsOver (row : AssignmentRow) (orgID userID roleID : Uuid) : Prop :=
  row.orgID = orgID ∧ row.userID = userID ∧ row.roleID = roleID
  deriving Decidable

def activeGrantFor (db : AuthDb) (orgID userID roleID : Uuid) (resourceID : Option Uuid) :
    Option AssignmentRow :=
  -- the order of the integers is named, so that the definition computes whatever else is imported
  @List.argmin _ ℤ Int.instLinearOrder.toPreorder Int.decLt AssignmentRow.grantedAt
    ((activeGrants db.assignments).filter fun g =>
      g.IsOver orgID userID roleID ∧ g.resourceID = resourceID)

variable {new grant : AssignmentRow} {rows : List AssignmentRow} {db db' : AuthDb} {id : Uuid}

lemma IsActive.of_append {row : AssignmentRow} (h : IsActive (rows ++ [new]) row) :
    IsActive rows row ∨ row = new ∧ new.kind = .grant := by
  obtain ⟨hmem, hkind, hfree⟩ := h
  rcases Lists.mem_concat hmem with hold | rfl
  · refine .inl ⟨hold, hkind, fun ⟨rv, hrv, hid⟩ => hfree ⟨rv, List.mem_append_left _ hrv, hid⟩⟩
  · exact .inr ⟨rfl, hkind⟩

lemma mem_activeGrants {row : AssignmentRow} :
    row ∈ activeGrants rows ↔ IsActive rows row := by
  simp only [activeGrants, List.mem_filter, decide_eq_true_eq]
  exact ⟨And.right, fun h => ⟨h.1, h⟩⟩

variable {orgID userID : Uuid} {g : AssignmentRow} {args : GrantArgs} {now : ℤ}

/-- **The active rules of a user.** They are the rules of the roles of the user's active grants. -/
theorem mem_activeRulesForUser {rule : PermissionRule} :
    rule ∈ activeRulesForUser db orgID userID ↔ ∃ g, IsActive db.assignments g ∧
      (g.orgID = orgID ∧ g.userID = userID) ∧ rule ∈ rulesOf db.roles g := by
  simp [activeRulesForUser, List.mem_flatMap, List.mem_filter, mem_activeGrants,
    decide_eq_true_eq, and_assoc]

lemma activeGrantFor_eq_some {roleID : Uuid} {resourceID : Option Uuid}
    (h : activeGrantFor db orgID userID roleID resourceID = some g) :
    IsActive db.assignments g ∧ g.IsOver orgID userID roleID ∧ g.resourceID = resourceID := by
  have hmem := List.argmin_mem h
  simpa only [List.mem_filter, mem_activeGrants, decide_eq_true_eq] using hmem

lemma exists_activeGrantFor (h : IsActive db.assignments g) :
    ∃ found, activeGrantFor db g.orgID g.userID g.roleID g.resourceID = some found := by
  refine Option.ne_none_iff_exists'.mp fun hnone => ?_
  have hmem : g ∈ (activeGrants db.assignments).filter fun g' =>
      g'.IsOver g.orgID g.userID g.roleID ∧ g'.resourceID = g.resourceID := by
    simpa [mem_activeGrants, AssignmentRow.IsOver] using h
  rw [List.argmin_eq_none.mp hnone] at hmem
  cases hmem

/-! ## Insertions -/

/-- The trigger on insertions: a revocation names a grant of its own org, user and role that no
other fact revokes. -/
def validateRevoke (rows : List AssignmentRow) (new : AssignmentRow) : Except Refusal Unit :=
  match new.kind, new.revokedGrantID with
  | .grant, _ => pure ()
  | .revoke, none => throw (.sqlError "ROLE_REVOKE_TARGET_UNKNOWN: grant does not exist")
  | .revoke, some target => do
    match rows.find? (·.id = target) with
    | none =>
      throw (.sqlError ("ROLE_REVOKE_TARGET_UNKNOWN: grant " ++ target ++ " does not exist"))
    | some row =>
      throwIf (row.kind ≠ .grant)
        (.sqlError ("ROLE_REVOKE_TARGET_NOT_GRANT: " ++ target ++ " is not a grant row"))
      throwIf (¬ row.IsOver new.orgID new.userID new.roleID)
        (.sqlError ("ROLE_REVOKE_MISMATCH: revoke fact (org/user/role) does not match grant " ++
          target))
      throwIf (IsRevoked rows target)
        (.sqlError ("ROLE_ALREADY_REVOKED: grant " ++ target ++ " already has a revocation fact"))

/-- The constraints of the table: the primary key, the foreign keys, the rule against self-grants
and the shapes of the two kinds of facts. -/
def Constrained (db : AuthDb) (new : AssignmentRow) : Prop :=
  (∀ row ∈ db.assignments, row.id ≠ new.id) ∧ HasKeys db.roles db.users new ∧
    (new.kind = .revoke ∨ new.grantedBy ≠ new.userID) ∧
    (new.kind = .revoke ∨ new.revokedGrantID = none ∧ new.revokedBy = none ∧
      new.revokedReason = none) ∧
    (new.kind = .grant ∨ new.revokedGrantID.isSome ∧ new.revokedBy.isSome)
  deriving Decidable

def AuthDb.append (db : AuthDb) (new : AssignmentRow) (h : Constrained db new) : AuthDb :=
  { db with
    assignments := db.assignments ++ [new]
    ids_nodup := Lists.nodup_map_concat db.ids_nodup (by simpa using h.1)
    hasKeys := Lists.forall_mem_concat db.hasKeys h.2.1 }

def AuthDb.insert (db : AuthDb) (new : AssignmentRow) : Except Refusal AuthDb := do
  validateRevoke db.assignments new
  if h : Constrained db new then pure (db.append new h)
  else throw (.sqlError "role_assignments: constraint violated")

lemma insert_eq_ok :
    db.insert new = .ok db' ↔ validateRevoke db.assignments new = .ok () ∧
      ∃ h : Constrained db new, db' = db.append new h := by
  have hconstrained : (if h : Constrained db new then pure (db.append new h)
      else throw (.sqlError "role_assignments: constraint violated") : Except Refusal AuthDb) =
        .ok db' ↔ ∃ h : Constrained db new, db' = db.append new h := by
    by_cases h : Constrained db new <;> simp [h, pure_eq_ok, throw_eq_ok]
  simp only [AuthDb.insert, bind_eq_ok, hconstrained]
  exact ⟨fun ⟨_, hvalid, hrest⟩ => ⟨hvalid, hrest⟩, fun ⟨hvalid, hrest⟩ => ⟨(), hvalid, hrest⟩⟩

lemma validateRevoke_eq_ok (h : validateRevoke rows new = .ok ()) (hkind : new.kind = .revoke) :
    ∃ target ∈ rows, new.revokedGrantID = some target.id ∧ target.kind = .grant ∧
      target.IsOver new.orgID new.userID new.roleID ∧ ¬ IsRevoked rows target.id := by
  unfold validateRevoke at h
  split at h
  · simp_all
  · cases h
  · rename_i target hkind' htarget
    split at h
    · cases h
    · rename_i row hfind
      simp only [ok_iff, not_not] at h
      obtain ⟨hgrant, hover, hfree⟩ := h
      obtain ⟨hmem, rfl⟩ := of_find hfind
      exact ⟨row, hmem, htarget, hgrant, hover, hfree⟩

/-! ## `GrantRole` -/

/-- The arguments of `GrantRole`; an empty resource id asks for an org-wide grant. -/
structure GrantArgs where
  orgID : Uuid
  granterID : Uuid
  userID : Uuid
  roleID : Uuid
  resourceID : String

def resourceIDPtr (resourceID : String) : Option Uuid :=
  if resourceID = "" then none else some resourceID

def grantLookup (db : AuthDb) (args : GrantArgs) : Except Refusal (RoleRow × List String) := do
  throwIf (args.userID = args.granterID) (.domainError "AUTH_ESCALATION_BLOCKED"
    ("grant refused: " ++ args.granterID ++
      " cannot grant a role to themselves — no-self-escalation (AUTH-1)"))
  match lookupRole db.roles args.orgID args.roleID with
  | none =>
    throw (.domainError "HTTP_ROLE_NOT_FOUND" ("role " ++ args.roleID ++ " does not exist"))
  | some role =>
    throwIf (lookupUser db.users args.orgID args.userID = none)
      (.domainError "HTTP_USER_NOT_FOUND" ("user " ++ args.userID ++ " does not exist"))
    pure (role, effectivePermissions (activeRulesForUser db args.orgID args.granterID))

def grantDecide (db : AuthDb) (args : GrantArgs) (role : RoleRow)
    (granterPermissions : List String) : Except Refusal (Option AssignmentRow) :=
  match activeGrantFor db args.orgID args.userID args.roleID (resourceIDPtr args.resourceID) with
  | some existing => .ok (some existing)
  | none => do
    throwIf ("admin:manage-users" ∉ granterPermissions) (.domainError "AUTH_ESCALATION_BLOCKED"
      ("grant refused: " ++ args.granterID ++
        " does not hold admin:manage-users — only role administrators may grant roles"))
    throwIf (missingForRole role.permissions granterPermissions ≠ [])
      (.domainError "AUTH_ESCALATION_BLOCKED"
        ("grant refused: role '" ++ role.name ++ "' confers " ++
          ", ".intercalate (missingForRole role.permissions granterPermissions) ++ " which " ++
          args.granterID ++ " does not hold — grants never outlive the granter's authority"))
    pure none

def GrantArgs.row (args : GrantArgs) (id : Uuid) (now : ℤ) : AssignmentRow :=
  { id
    orgID := args.orgID
    kind := .grant
    userID := args.userID
    roleID := args.roleID
    resourceID := resourceIDPtr args.resourceID
    grantedBy := args.granterID
    grantedAt := now
    revokedGrantID := none
    revokedBy := none
    revokedReason := none }

structure GrantResult where
  grant : AssignmentRow
  alreadyHeld : Bool

def grantRole (db : AuthDb) (args : GrantArgs) (id : Uuid) (now : ℤ) :
    Except Refusal (AuthDb × GrantResult) := do
  let (role, granterPermissions) ← grantLookup db args
  let standing ← grantDecide db args role granterPermissions
  match standing with
  | some existing => pure (db, ⟨existing, true⟩)
  | none => do
    let db' ← db.insert (args.row id now)
    pure (db', ⟨args.row id now, false⟩)

lemma grantLookup_eq_ok {found : RoleRow × List String} (h : grantLookup db args = .ok found) :
    lookupRole db.roles args.orgID args.roleID = some found.1 ∧
      found.2 = effectivePermissions (activeRulesForUser db args.orgID args.granterID) := by
  simp only [grantLookup, ok_iff] at h
  obtain ⟨-, h⟩ := h
  split at h
  · cases h
  · simp only [ok_iff] at h
    obtain ⟨-, rfl⟩ := h
    exact ⟨‹_›, rfl⟩

lemma grantDecide_eq_none {role : RoleRow} {granterPermissions : List String}
    (h : grantDecide db args role granterPermissions = .ok none) :
    ∀ rule ∈ role.permissions, Auth.heldBy granterPermissions rule = true := by
  unfold grantDecide at h
  split at h
  · cases h
  · simp only [ok_iff, not_not] at h
    exact missingForRole_eq_nil.mp h.2.1

/-- **What an accepted call has checked.** It found the role, and all its rules covered by the
granter's effective permissions, in the guard's reading. -/
theorem grantRole_granted (h : grantRole db args id now = .ok (db', ⟨grant, false⟩)) :
    grant = args.row id now ∧ db.insert grant = .ok db' ∧
      ∃ role, lookupRole db.roles args.orgID args.roleID = some role ∧
        ∀ rule ∈ role.permissions, Auth.heldBy
          (effectivePermissions (activeRulesForUser db args.orgID args.granterID)) rule = true := by
  simp only [grantRole, bind_eq_ok] at h
  obtain ⟨⟨role, permissions⟩, hlookup, standing, hdecide, h⟩ := h
  obtain ⟨hrole, rfl⟩ := grantLookup_eq_ok hlookup
  cases standing with
  | some existing => simp [pure_eq_ok] at h
  | none =>
    simp only [ok_iff, Prod.mk.injEq, GrantResult.mk.injEq, and_true] at h
    obtain ⟨_, hinsert, rfl, rfl⟩ := h
    exact ⟨rfl, hinsert, role, hrole, grantDecide_eq_none hdecide⟩

lemma grantRole_alreadyHeld (h : grantRole db args id now = .ok (db', ⟨grant, true⟩)) :
    db' = db := by
  simp only [grantRole, bind_eq_ok] at h
  obtain ⟨_, -, standing, -, h⟩ := h
  cases standing with
  | some existing => exact (Prod.mk.inj (pure_eq_ok.mp h)).1
  | none =>
    simp only [ok_iff] at h
    obtain ⟨_, -, heq⟩ := h
    simp at heq

/-! ## `RevokeRole` -/

structure RevokeArgs where
  orgID : Uuid
  revokedBy : Uuid
  userID : Uuid
  roleID : Uuid
  reason : String

def revokeLookup (db : AuthDb) (args : RevokeArgs) : Except Refusal AssignmentRow := do
  throwIf (trim args.reason = "") (.domainError "AUTH_REASON_REQUIRED"
    "a revocation requires an explicit reason (R3)")
  throwIf (lookupRole db.roles args.orgID args.roleID = none)
    (.domainError "HTTP_ROLE_NOT_FOUND" ("role " ++ args.roleID ++ " does not exist"))
  match activeGrantFor db args.orgID args.userID args.roleID none with
  | none => throw (.domainError "AUTH_ROLE_NOT_HELD" ("user " ++ args.userID ++
      " does not actively hold role " ++ args.roleID ++
      " in this scope — revoking an unheld role is refused"))
  | some grant => pure grant

def RevokeArgs.row (args : RevokeArgs) (grant : AssignmentRow) (id : Uuid) : AssignmentRow :=
  { id
    orgID := grant.orgID
    kind := .revoke
    userID := grant.userID
    roleID := grant.roleID
    resourceID := none
    grantedBy := grant.grantedBy
    grantedAt := grant.grantedAt
    revokedGrantID := some grant.id
    revokedBy := some args.revokedBy
    revokedReason := some (trim args.reason) }

/-- `RevokeRole` over one state of the data: the grant it revoked, and the data after it. -/
def revokeRole (db : AuthDb) (args : RevokeArgs) (id : Uuid) :
    Except Refusal (AuthDb × AssignmentRow) := do
  let grant ← revokeLookup db args
  let db' ← db.insert (args.row grant id)
  pure (db', grant)

lemma revokeRole_eq_ok {args : RevokeArgs} (h : revokeRole db args id = .ok (db', grant)) :
    revokeLookup db args = .ok grant ∧ db.insert (args.row grant id) = .ok db' := by
  simp only [revokeRole, ok_iff, Prod.mk.injEq] at h
  obtain ⟨_, hlookup, _, hinsert, rfl, rfl⟩ := h
  exact ⟨hlookup, hinsert⟩

lemma revokeLookup_eq_ok {args : RevokeArgs} (h : revokeLookup db args = .ok grant) :
    activeGrantFor db args.orgID args.userID args.roleID none = some grant := by
  simp only [revokeLookup, ok_iff] at h
  obtain ⟨-, -, h⟩ := h
  split at h
  · cases h
  · rw [pure_eq_ok.mp h]
    assumption

lemma validateRevoke_of_active (h : IsActive db.assignments grant) (args : RevokeArgs) (id : Uuid) :
    validateRevoke db.assignments (args.row grant id) = .ok () := by
  obtain ⟨hmem, hkind, hfree⟩ := h
  -- ids are distinct, so the trigger finds the grant itself
  have hfind : db.assignments.find? (·.id = grant.id) = some grant :=
    Keyed.find?_key db.ids_nodup hmem
  simp only [validateRevoke, RevokeArgs.row, hfind, hkind, AssignmentRow.IsOver, hfree, throwIf,
    ne_eq, not_true_eq_false, and_self, if_false]
  rfl

/-- **Revocation is accepted.** For an active org-wide grant, some call of `RevokeRole` for its user
and its role is accepted and revokes an active grant of them. -/
theorem exists_revokeRole (h : IsActive db.assignments grant) (hwide : grant.resourceID = none) :
    ∃ args id db' found, args.userID = grant.userID ∧ args.roleID = grant.roleID ∧
      revokeRole db args id = .ok (db', found) ∧ IsActive db.assignments found ∧
      found.IsOver grant.orgID grant.userID grant.roleID ∧ found.resourceID = none := by
  obtain ⟨found, hfound⟩ := exists_activeGrantFor h
  obtain ⟨hactive, hover, hscope⟩ := activeGrantFor_eq_some hfound
  obtain ⟨fresh, hfresh⟩ :=
    Infinite.exists_notMem_finset (db.assignments.map AssignmentRow.id).toFinset
  simp only [List.mem_toFinset, List.mem_map, not_exists, not_and] at hfresh
  let args : RevokeArgs := ⟨grant.orgID, "", grant.userID, grant.roleID, "revoked"⟩
  have hrole : lookupRole db.roles grant.orgID grant.roleID ≠ none := by
    have hkeys := (db.hasKeys grant h.1).2.1
    exact Option.isSome_iff_ne_none.mp hkeys
  have hlookup : revokeLookup db args = .ok found := by
    have hreason : trim "revoked" ≠ "" := by decide
    rw [hwide] at hfound
    simp only [revokeLookup, args, hrole, hreason, hfound, throwIf, if_false]
    rfl
  have hfits : Constrained db (args.row found fresh) := by
    refine ⟨hfresh, db.hasKeys found hactive.1, .inl rfl, .inl rfl, .inr ⟨rfl, rfl⟩⟩
  refine ⟨args, fresh, db.append _ hfits, found, rfl, rfl, ?_, hactive, hover, hscope.trans hwide⟩
  have hinsert := insert_eq_ok.mpr ⟨validateRevoke_of_active hactive args fresh, hfits, rfl⟩
  simp only [revokeRole, ok_iff]
  exact ⟨found, hlookup, _, hinsert, rfl⟩

end Fuatilia.Backend
