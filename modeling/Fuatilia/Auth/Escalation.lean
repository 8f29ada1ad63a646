import Fuatilia.Auth.Guard
import Fuatilia.Foundations.Lists
import Fuatilia.Foundations.Machine

/-!
# Grants and the authority behind them

Whatever a grant lets the grantee pass in `can`, the granter should have passed before. The guard of
`grantRole` falls short of this in three ways: it ignores the granter's status, it takes one
permission on a resource for the resource's wildcard, and it compares permissions without their
scopes.

## Main definitions

* `NoEscalation`, `withinAuthority` — the law of a grant, and the three missing checks.
* `step`, `lawful` — grants and revocations, and the checks on a command.

## Main results

* `noEscalation_iff` — a grant obeys the law exactly when the checks hold.
* `run_traced` — along such runs all authority comes from the users who had it first.
-/

namespace Fuatilia.Auth

open Machine

/-! ## The law of one grant -/

/-- The effective permissions of a user's own grants, as a caller of `grantRole` computes them. -/
def ownPermissions (roles : List Role) (trail : List RoleGrant) (userId : Uuid) : List String :=
  effectivePermissions roles ((trail.filter (·.userId = userId)).map RoleGrant.view)

def scopedPermissions (roles : List Role) (trail : List RoleGrant) (userId : Uuid)
    (scope : Option Uuid) : List String :=
  effectivePermissions roles ((trail.filter fun grant =>
    grant.userId = userId ∧ (grant.resourceId = none ∨ grant.resourceId = scope)).map
      RoleGrant.view)

def conferred (roles : List Role) (roleId : Uuid) : List String :=
  effectivePermissions roles [⟨roleId, none⟩]

/-- **The law.** Whatever the new fact lets the grantee pass, the granter passed before. -/
def NoEscalation (roles : List Role) (trail : List RoleGrant) (granter grantee : User)
    (grant : RoleGrant) : Prop :=
  ∀ permission resource,
    (can (userPrincipal grantee [grant] roles) permission resource).allowed = true →
      (can (userPrincipal granter trail roles) permission resource).allowed = true

/-- The checks that the guard leaves out, for every permission the role confers: the granter is
active; the permission is the granter's when the role does not list it by name; and one that is the
granter's is so org-wide or in the scope of the new grant. -/
def withinAuthority (roles : List Role) (trail : List RoleGrant) (granter : User)
    (args : GrantRoleArgs) : Bool :=
  (conferred roles args.role.roleId).all fun permission =>
    granter.status == .active &&
      (args.role.permissions.contains permission ||
        (ownPermissions roles trail granter.userId).contains permission) &&
      (!(ownPermissions roles trail granter.userId).contains permission ||
        (scopedPermissions roles trail granter.userId args.resourceId).contains permission)

variable {permission : String} {roles : List Role} {trail : List RoleGrant} {userId : Uuid}
  {grant : RoleGrant}

lemma mem_conferred {roleId : Uuid} :
    permission ∈ conferred roles roleId ↔ permission ∈ PERMISSIONS ∧
      ∃ role, byId roles roleId = some role ∧ roleCovers role permission = true := by
  simp [conferred, mem_effectivePermissions]

lemma mem_ownPermissions :
    permission ∈ ownPermissions roles trail userId ↔ permission ∈ PERMISSIONS ∧
      ∃ g ∈ trail, g.userId = userId ∧ isActiveGrant g = true ∧
        ∃ role, byId roles g.roleId = some role ∧ roleCovers role permission = true := by
  simp [ownPermissions, mem_effectivePermissions, RoleGrant.view, isActiveGrant, and_assoc]

variable {scope : Option Uuid} {trail' : List RoleGrant} {revoked : RoleGrant}
  {directory : Directory} {request : String × Option Uuid}

lemma mem_scopedPermissions :
    permission ∈ scopedPermissions roles trail userId scope ↔ permission ∈ PERMISSIONS ∧
      ∃ g ∈ trail, g.userId = userId ∧ (g.resourceId = none ∨ g.resourceId = scope) ∧
        isActiveGrant g = true ∧
        ∃ role, byId roles g.roleId = some role ∧ roleCovers role permission = true := by
  simp [scopedPermissions, mem_effectivePermissions, RoleGrant.view, isActiveGrant, and_assoc]

/-- Some request that a scope admits is admitted by no other scope of a trail, org-wide ones apart:
the one on the scope's resource, or on one that no grant names. -/
lemma exists_admitted_only (trail : List RoleGrant) (scope : Option Uuid) :
    ∃ resource, admits scope resource = true ∧ ∀ g ∈ trail,
      admits g.resourceId resource = true → g.resourceId = none ∨ g.resourceId = scope := by
  cases scope with
  | some id =>
    refine ⟨some id, by simp [admits], fun g _ hg => ?_⟩
    simpa [admits] using hg
  | none =>
    obtain ⟨fresh, hfresh⟩ :=
      Infinite.exists_notMem_finset (trail.filterMap (·.resourceId)).toFinset
    refine ⟨some fresh, by simp [admits], fun g hg hadmits => Or.inl ?_⟩
    simp only [List.mem_toFinset, List.mem_filterMap, not_exists, not_and] at hfresh
    simpa [admits, hfresh g hg] using hadmits

/-- A user passes a permission in every request that a scope admits exactly when the user is active
and holds the permission through grants that are org-wide or in that scope. -/
lemma passes_scope_iff {user : User} : (∀ resource, admits scope resource = true →
        (can (userPrincipal user trail roles) permission resource).allowed = true) ↔
      user.status = .active ∧ permission ∈ scopedPermissions roles trail user.userId scope := by
  simp only [userPrincipal_can, mem_scopedPermissions]
  constructor
  · intro h
    obtain ⟨resource, hscope, honly⟩ := exists_admitted_only trail scope
    obtain ⟨hknown, hactive, g, hg, huser, hlive, hadmits, hrole⟩ := h resource hscope
    exact ⟨hactive, hknown, g, hg, huser, honly g hg hadmits, hlive, hrole⟩
  · rintro ⟨hactive, hknown, g, hg, huser, hscope, hlive, hrole⟩ resource hadmits
    refine ⟨hknown, hactive, g, hg, huser, hlive, ?_, hrole⟩
    rcases hscope with hnone | hsame
    · simp [admits, hnone]
    · rwa [hsame]

lemma noEscalation_iff_scoped {granter grantee : User} (hgrantee : grantee.userId = grant.userId)
    (hstatus : grantee.status = .active) (hlive : isActiveGrant grant = true) :
    NoEscalation roles trail granter grantee grant ↔
      ∀ permission ∈ conferred roles grant.roleId, granter.status = .active ∧
        permission ∈ scopedPermissions roles trail granter.userId grant.resourceId := by
  have hpasses : ∀ permission resource,
      (can (userPrincipal grantee [grant] roles) permission resource).allowed = true ↔
        permission ∈ conferred roles grant.roleId ∧ admits grant.resourceId resource = true := by
    intro permission resource
    simp only [userPrincipal_can, mem_conferred, hgrantee, hstatus, hlive, List.mem_singleton,
      exists_eq_left, true_and]
    tauto
  simp only [NoEscalation, hpasses, and_imp, ← passes_scope_iff]
  exact ⟨fun h permission hconf resource => h permission resource hconf,
    fun h permission resource hconf => h permission hconf resource⟩

lemma mem_of_heldBy {permissions : List String} (hknown : permission ∈ PERMISSIONS)
    (h : heldBy permissions permission = true) :
    permission ∈ permissions := by
  have hall : ∀ permission ∈ PERMISSIONS, endsWith permission ":*" = false := by decide +kernel
  simpa [heldBy, hall permission hknown] using h

/-- **The law of an accepted grant.** A new fact confers no more than the granter passed before
exactly when the checks that the guard leaves out hold.

**Proof sketch.** What the role lists by name the guard has found among the granter's permissions.
What remains is that the unlisted ones are held, and all of them in scope. -/
theorem noEscalation_iff (roles : List Role) (granter grantee : User) {args : GrantRoleArgs}
    {clock : Clock} {event : AuthEvent}
    (hgranted : grantRole trail args clock = .ok (.granted grant event))
    (hown : args.granterPermissions = ownPermissions roles trail args.grantedBy)
    (hgranter : granter.userId = args.grantedBy) (hgrantee : grantee.userId = args.userId)
    (hstatus : grantee.status = .active) :
    NoEscalation roles trail granter grantee grant ↔
      withinAuthority roles trail granter args = true := by
  obtain ⟨-, hheld, rfl⟩ := grantRole_eq_granted hgranted
  rw [noEscalation_iff_scoped hgrantee hstatus rfl]
  simp only [withinAuthority, List.all_eq_true, Bool.and_eq_true, beq_iff_eq, Bool.or_eq_true,
    List.contains_iff_mem, Bool.not_eq_true', and_assoc]
  refine forall₂_congr fun permission hconf => and_congr_right fun _ => ?_
  have hknown := (mem_conferred.mp hconf).1
  have hlisted : permission ∈ args.role.permissions →
      permission ∈ ownPermissions roles trail granter.userId := by
    intro hmem
    have hheld := hheld permission hmem
    rw [hown, ← hgranter] at hheld
    exact mem_of_heldBy hknown hheld
  constructor
  · intro hscoped
    have hmine : permission ∈ ownPermissions roles trail granter.userId := by
      obtain ⟨-, g, hg, huser, -, hlive, hrole⟩ := mem_scopedPermissions.mp hscoped
      exact mem_ownPermissions.mpr ⟨hknown, g, hg, huser, hlive, hrole⟩
    exact ⟨Or.inr hmine, Or.inr hscoped⟩
  · rintro ⟨hmine, hscoped⟩
    have hmine : permission ∈ ownPermissions roles trail granter.userId := hmine.elim hlisted id
    exact hscoped.resolve_left (by simpa using hmine)

/-! ## Runs of grants and revocations -/

structure Directory where
  users : Uuid → User
  userId_users : ∀ id, (users id).userId = id

inductive Command where
  | grant (args : GrantRoleArgs) (clock : Clock)
  | revoke (args : RevokeRoleArgs) (clock : Clock)

def GrantRoleArgs.withOwn (args : GrantRoleArgs) (roles : List Role) (trail : List RoleGrant) :
    GrantRoleArgs :=
  { args with granterPermissions := ownPermissions roles trail args.grantedBy }

def RoleGrant.revokedAs (grant mark : RoleGrant) : RoleGrant :=
  { grant with
    revokedAt := mark.revokedAt
    revokedBy := mark.revokedBy
    revokedReason := mark.revokedReason }

def storeRevoked (trail : List RoleGrant) (revoked : RoleGrant) : List RoleGrant :=
  trail.map fun grant => if grant.revokedAs revoked = revoked then revoked else grant

def step (roles : List Role) (trail : List RoleGrant) : Command → Option (List RoleGrant)
  | .grant args clock =>
    match grantRole trail (args.withOwn roles trail) clock with
    | .ok (.granted grant _) => some (trail ++ [grant])
    | .ok (.alreadyHeld _) => some trail
    | .ok (.refused _ _ _ _ _) | .error _ => none
  | .revoke args clock =>
    match revokeRole trail args clock with
    | .ok (grant, _) => some (storeRevoked trail grant)
    | .error _ => none

/-- The condition on a command: a grant is within the granter's authority. -/
def lawful (roles : List Role) (directory : Directory) (trail : List RoleGrant) : Command → Bool
  | .grant args _ => withinAuthority roles trail (directory.users args.grantedBy) args
  | .revoke _ _ => true

def Handed (trail : List RoleGrant) (granter grantee : Uuid) : Prop :=
  ∃ g ∈ trail, g.grantedBy = granter ∧ g.userId = grantee

def Passes (roles : List Role) (directory : Directory) (trail : List RoleGrant) (userId : Uuid)
    (request : String × Option Uuid) : Prop :=
  (can (userPrincipal (directory.users userId) trail roles) request.1 request.2).allowed = true

lemma step_inversion {c : Command} (h : step roles trail c = some trail') :
    (∃ args clock grant event, c = .grant args clock ∧
        grantRole trail (args.withOwn roles trail) clock = .ok (.granted grant event) ∧
        trail' = trail ++ [grant]) ∨ trail' = trail ∨
      ∃ revoked, isActiveGrant revoked = false ∧ trail' = storeRevoked trail revoked := by
  cases c with
  | grant args clock =>
    simp only [step] at h
    split at h
    · rename_i grant event hgranted
      exact .inl ⟨args, clock, grant, event, rfl, hgranted, (Option.some.inj h).symm⟩
    · exact .inr (.inl (Option.some.inj h).symm)
    · cases h
    · cases h
  | revoke args clock =>
    simp only [step] at h
    split at h
    · rename_i grant event hrevoked
      obtain ⟨-, -, -, -, hinactive⟩ := revokeRole_eq_ok hrevoked
      exact .inr (.inr ⟨grant, hinactive, (Option.some.inj h).symm⟩)
    · cases h

lemma Handed.storeRevoked {granter grantee : Uuid}
    (h : Handed trail granter grantee) : Handed (storeRevoked trail revoked) granter grantee := by
  obtain ⟨g, hg, hby, huser⟩ := h
  refine ⟨_, List.mem_map.mpr ⟨g, hg, rfl⟩, ?_⟩
  split_ifs with heq
  · rw [← heq]
    exact ⟨hby, huser⟩
  · exact ⟨hby, huser⟩

lemma mem_of_storeRevoked {g : RoleGrant} (hrevoked : isActiveGrant revoked = false)
    (hlive : isActiveGrant g = true) (h : g ∈ storeRevoked trail revoked) : g ∈ trail := by
  obtain ⟨g', hg', rfl⟩ := List.mem_map.mp h
  split_ifs at hlive ⊢ with heq
  · rw [hrevoked] at hlive
    cases hlive
  · exact hg'

lemma Passes.mono (hsub : ∀ g ∈ trail', isActiveGrant g = true → g ∈ trail)
    (h : Passes roles directory trail' userId request) :
    Passes roles directory trail userId request := by
  obtain ⟨hknown, hactive, g, hg, huser, hlive, hrest⟩ := userPrincipal_can.mp h
  exact userPrincipal_can.mpr ⟨hknown, hactive, g, hsub g hg hlive, huser, hlive, hrest⟩

lemma Passes.append (h : Passes roles directory (trail ++ [grant]) userId request) :
    Passes roles directory trail userId request ∨
      grant.userId = userId ∧ Passes roles directory [grant] userId request := by
  obtain ⟨hknown, hactive, g, hg, huser, hrest⟩ := userPrincipal_can.mp h
  rcases Lists.mem_concat hg with hold | rfl
  · exact .inl (userPrincipal_can.mpr ⟨hknown, hactive, g, hold, huser, hrest⟩)
  · refine .inr ⟨huser.trans (directory.userId_users userId), ?_⟩
    exact userPrincipal_can.mpr ⟨hknown, hactive, g, List.mem_singleton_self g, huser, hrest⟩

/-- **No authority from nowhere.** Along a run of grants within the granter's authority and of
revocations, whatever a user passes at the end was passed at the beginning by a user from whom a
chain of grants leads to that user. -/
theorem run_traced (roles : List Role) (directory : Directory) (commands : List Command)
    (trail : List RoleGrant)
    (hlawful : Meets (step roles) (fun t c => lawful roles directory t c = true) trail commands)
    (userId : Uuid) (request : String × Option Uuid)
    (h : Passes roles directory (run (step roles) trail commands) userId request) :
    ∃ origin, Relation.ReflTransGen (Handed (run (step roles) trail commands)) origin userId ∧
      Passes roles directory trail origin request := by
  refine traced ?_ ?_ commands trail hlawful userId request h
  · intro t c t' _ hstep granter grantee hhanded
    rcases step_inversion hstep with ⟨_, _, grant, _, -, -, rfl⟩ | rfl | ⟨revoked, -, rfl⟩
    · obtain ⟨g, hg, hrest⟩ := hhanded
      exact ⟨g, List.mem_append_left _ hg, hrest⟩
    · exact hhanded
    · exact hhanded.storeRevoked
  · intro t c t' hlaw hstep user request hpasses
    rcases step_inversion hstep with ⟨args, _, grant, _, rfl, hgranted, rfl⟩ | rfl |
      ⟨revoked, hrevoked, rfl⟩
    · rcases hpasses.append with hold | ⟨huser, hnew⟩
      · exact .inl hold
      · have hfact := (grantRole_eq_granted hgranted).2.2
        have hlaw := (noEscalation_iff roles (directory.users args.grantedBy)
          (directory.users user) hgranted rfl (directory.userId_users _)
          (by rw [directory.userId_users, ← huser, hfact]; rfl)
          (userPrincipal_can.mp hnew).2.1).mpr hlaw
        refine .inr ⟨args.grantedBy, ⟨grant, by simp, by rw [hfact]; rfl, huser⟩, ?_⟩
        exact hlaw request.1 request.2 hnew
    · exact .inl hpasses
    · exact .inl (hpasses.mono fun g hg hlive => mem_of_storeRevoked hrevoked hlive hg)

end Fuatilia.Auth
